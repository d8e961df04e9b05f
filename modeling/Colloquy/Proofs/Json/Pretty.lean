import Colloquy.Proofs.Json.Compact

/-! Values that are written with indentation and read again. Blanks between the parts of a value change nothing for
the reader (`run_indent`), so the indented text is read as the value, just as the compact one is (`read_pretty`). -/

namespace Colloquy.Json

namespace Reader

/-! ### Blanks -/

/-- What is expected where blanks may stand. -/
inductive BetweenParts : Expecting → Prop where
  | value : BetweenParts .value
  | firstItem : BetweenParts .firstItem
  | firstKey : BetweenParts .firstKey
  | key : BetweenParts .key
  | after (done : Json) : BetweenParts (.after done)

theorem feed_blank_between {expecting : Expecting} (h : BetweenParts expecting) (stack : List Frame) {c : Char}
    (hc : isBlank c = true) : (reading stack expecting).feed c = .reading stack expecting := by
  cases h with
  | after done => exact feedAfter_blank stack done hc
  | value | firstItem | firstKey | key => exact if_pos hc

theorem isBlank_indent {depth : Nat} {c : Char} (h : c ∈ indent depth) : isBlank c = true := by
  rw [indent, List.mem_cons] at h
  obtain rfl | h := h
  · rfl
  · rw [List.eq_of_mem_replicate h]
    rfl

theorem run_indent {expecting : Expecting} (h : BetweenParts expecting) (stack : List Frame) (depth : Nat)
    (rest : List Char) : (reading stack expecting).run (indent depth ++ rest) = (reading stack expecting).run rest := by
  have hblanks : ∀ cs : List Char, (∀ c ∈ cs, isBlank c = true) →
      (reading stack expecting).run (cs ++ rest) = (reading stack expecting).run rest := by
    intro cs hcs
    induction cs with
    | nil => rfl
    | cons c cs ih =>
        rw [List.forall_mem_cons] at hcs
        rw [List.cons_append, run_cons, feed_blank_between h stack hcs.1, ih hcs.2]
  exact hblanks _ fun c hc => isBlank_indent hc

theorem run_space (stack : List Frame) (rest : List Char) :
    (reading stack .value).run (' ' :: rest) = (reading stack .value).run rest := rfl

/-- Behind a value, blanks settle that it is over. -/
theorem Holds.run_indent {stack : List Frame} {v : Json} {r : Reader} (h : Holds stack v r) (depth : Nat)
    (rest : List Char) : r.run (indent depth ++ rest) = (reading stack (.after v)).run rest := by
  have hline : r.feed '\n' = .reading stack (.after v) := by
    rw [h.feed '\n' (.inl rfl)]
    exact feedAfter_blank stack v rfl
  have hagain : (reading stack (.after v)).run (indent depth ++ rest) = (reading stack (.after v)).run rest :=
    Reader.run_indent (.after v) stack depth rest
  rw [← hagain, indent, List.cons_append, run_cons, run_cons, hline,
    feed_blank_between (.after v) stack rfl]

/-- A value that is the first of an array is read like any other, indented or not. -/
theorem run_firstItem_pretty (stack : List Frame) (depth : Nat) {v : Json} (h : ∀ n ∈ v.numbers, n.ReadsBack)
    (rest : List Char) :
    (reading stack .firstItem).run (prettyChars depth v rest) = (reading stack .value).run (prettyChars depth v rest) := by
  cases v with
  | arr items =>
      cases items with
      | nil => exact run_firstItem stack h rest
      | cons v vs => rfl
  | obj members =>
      cases members with
      | nil => exact run_firstItem stack h rest
      | cons m ms => rfl
  | null | bool | num | str => exact run_firstItem stack h rest

/-! ### Values -/

-- As for the compact text, the induction is on the value, in any place of the stack.
mutual

theorem run_prettyChars : ∀ (v : Json) (depth : Nat) (stack : List Frame), stack.length + v.depth ≤ depthLimit →
    (∀ n ∈ v.numbers, n.ReadsBack) →
    ∃ r, Holds stack v.sorted r ∧ ∀ rest, (reading stack .value).run (prettyChars depth v rest) = r.run rest
  | .null, _, stack, hroom, hnumbers => run_compactChars .null stack hroom hnumbers
  | .bool b, _, stack, hroom, hnumbers => run_compactChars (.bool b) stack hroom hnumbers
  | .num n, _, stack, hroom, hnumbers => run_compactChars (.num n) stack hroom hnumbers
  | .str s, _, stack, hroom, hnumbers => run_compactChars (.str s) stack hroom hnumbers
  | .arr [], _, stack, hroom, hnumbers => run_compactChars (.arr []) stack hroom hnumbers
  | .obj [], _, stack, hroom, hnumbers => run_compactChars (.obj []) stack hroom hnumbers
  | .arr (v :: vs), depth, stack, hroom, hnumbers => by
      simp only [Json.depth, depthOfItems] at hroom
      simp only [numbers, numbersOfItems, List.forall_mem_append] at hnumbers
      obtain ⟨r, hholds, hrun⟩ := run_prettyChars v (depth + 1) (.arr [] :: stack) (by rw [List.length_cons]; omega)
        hnumbers.1
      refine ⟨_, holds_after stack (.arr (sortedItems (v :: vs))), fun rest => ?_⟩
      rw [prettyChars, List.cons_append, run_cons, (open_value (by omega)).1, run_indent .firstItem,
        run_firstItem_pretty _ _ hnumbers.1, hrun,
        run_prettyItems vs depth stack [] v.sorted r (by omega) hnumbers.2 hholds]
      rfl
  | .obj ((k, v) :: ms), depth, stack, hroom, hnumbers => by
      simp only [Json.depth, depthOfMembers] at hroom
      simp only [numbers, numbersOfMembers, List.forall_mem_append] at hnumbers
      obtain ⟨r, hholds, hrun⟩ := run_prettyChars v (depth + 1) (.obj [] k :: stack) (by rw [List.length_cons]; omega)
        hnumbers.1
      refine ⟨_, holds_after stack (.obj (sortedMembers ((k, v) :: ms) [])), fun rest => ?_⟩
      rw [prettyChars, List.cons_append, List.cons_append, List.append_assoc, run_cons, (open_value (by omega)).2,
        run_indent .firstKey, run_key _ _ _ _ (.inr rfl), run_space, hrun,
        run_prettyMembers ms depth stack [] k v.sorted r (by omega) hnumbers.2 hholds]
      rfl

theorem run_prettyItems : ∀ (vs : List Json) (depth : Nat) (stack : List Frame) (items : List Json) (w : Json)
    (r : Reader), stack.length + 1 + depthOfItems vs ≤ depthLimit → (∀ n ∈ numbersOfItems vs, n.ReadsBack) →
    Holds (.arr items :: stack) w r → ∀ rest, r.run (prettyItems depth vs (indent depth ++ ']' :: rest)) =
      (reading stack (.after (.arr ((w :: items).reverse ++ sortedItems vs)))).run rest
  | [], depth, stack, items, w, r, _, _, hholds, rest => by
      rw [prettyItems, hholds.run_indent, run_cons, sortedItems, List.append_nil]
      rfl
  | v :: vs, depth, stack, items, w, r, hroom, hnumbers, hholds, rest => by
      simp only [depthOfItems] at hroom
      simp only [numbersOfItems, List.forall_mem_append] at hnumbers
      obtain ⟨r', hholds', hrun⟩ := run_prettyChars v (depth + 1) (.arr (w :: items) :: stack)
        (by rw [List.length_cons]; omega) hnumbers.1
      have hcomma : r.feed ',' = .reading (.arr (w :: items) :: stack) .value := hholds.feed ',' (.inr (.inl rfl))
      rw [prettyItems, List.cons_append, run_cons, hcomma, run_indent .value, hrun,
        run_prettyItems vs depth stack (w :: items) v.sorted r' (by omega) hnumbers.2 hholds', sortedItems,
        List.reverse_cons]
      simp

theorem run_prettyMembers : ∀ (ms : List (String × Json)) (depth : Nat) (stack : List Frame) (members : Members)
    (key : String) (w : Json) (r : Reader), stack.length + 1 + depthOfMembers ms ≤ depthLimit →
    (∀ n ∈ numbersOfMembers ms, n.ReadsBack) → Holds (.obj members key :: stack) w r → ∀ rest,
    r.run (prettyMembers depth ms (indent depth ++ '}' :: rest)) =
      (reading stack (.after (.obj (sortedMembers ms (insert key w members))))).run rest
  | [], depth, stack, members, key, w, r, _, _, hholds, rest => by
      rw [prettyMembers, hholds.run_indent, run_cons, sortedMembers]
      rfl
  | (k, v) :: ms, depth, stack, members, key, w, r, hroom, hnumbers, hholds, rest => by
      simp only [depthOfMembers] at hroom
      simp only [numbersOfMembers, List.forall_mem_append] at hnumbers
      obtain ⟨r', hholds', hrun⟩ := run_prettyChars v (depth + 1) (.obj (insert key w members) k :: stack)
        (by rw [List.length_cons]; omega) hnumbers.1
      have hcomma : r.feed ',' = .reading (.obj (insert key w members) "" :: stack) .key :=
        hholds.feed ',' (.inr (.inl rfl))
      rw [prettyMembers, List.cons_append, List.cons_append, List.append_assoc, run_cons, hcomma,
        run_indent .key, run_key _ _ _ _ (.inl rfl), run_space, hrun,
        run_prettyMembers ms depth stack (insert key w members) k v.sorted r' (by omega) hnumbers.2 hholds',
        sortedMembers]

end

end Reader

/-- The indented text of a value is read as the value. -/
theorem read_pretty {v : Json} (h : v.Portable) : read v.pretty = .ok v.sorted := by
  obtain ⟨r, hholds, hrun⟩ := Reader.run_prettyChars v 0 [] (by simpa using h.depth) h.numbers
  rw [read_eq, pretty, String.toList_ofList]
  exact (congrArg Reader.finish (hrun [])).trans (hholds.finish rfl)

end Colloquy.Json
