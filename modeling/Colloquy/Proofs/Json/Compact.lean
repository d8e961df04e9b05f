import Colloquy.Proofs.Json.Scalar
import Colloquy.Proofs.Rpc.Codec

/-! Values that are written without blanks and read again. The text is on one line whatever the value holds
(`newline_not_mem_compact`). It is read as the value with its members in order, if the value is no deeper than
the reader goes and its numbers read back (`read_compact`). -/

namespace Colloquy.Json

/-! ### On one line -/

/-- The character controls nothing, and so ends no line. -/
def IsPlain (c : Char) : Prop := 32 ≤ c.toNat

instance (c : Char) : Decidable (IsPlain c) := inferInstanceAs (Decidable (32 ≤ c.toNat))

/-- The character is one of ASCII that leaves a mark. -/
def IsVisible (c : Char) : Prop := 32 < c.toNat ∧ c.toNat < 127

instance (c : Char) : Decidable (IsVisible c) := inferInstanceAs (Decidable (_ ∧ _))

theorem isVisible_numeric {c : Char} (h : IsNumeric c) : IsVisible c := by
  obtain hdigit | rfl | rfl | rfl | rfl := h
  · rw [Char.isDigit_iff_toNat] at hdigit
    exact ⟨Nat.lt_of_lt_of_le (by decide) hdigit.1, Nat.lt_of_le_of_lt hdigit.2 (by decide)⟩
  all_goals decide

theorem isPlain_numeric {c : Char} (h : IsNumeric c) : IsPlain c := Nat.le_of_lt (isVisible_numeric h).1

theorem isPlain_hexDigit : ∀ k < 16, IsPlain (hexDigit k) := by
  decide

theorem isPlain_escapeChar {c d : Char} (h : d ∈ escapeChar c) : IsPlain d := by
  have hletter : ∀ letter, shortEscape? c = some letter → IsPlain letter := by
    intro letter hshort
    unfold shortEscape? at hshort
    split at hshort
    case h_8 => cases hshort
    all_goals
      obtain rfl := Option.some.inj hshort
      decide
  unfold escapeChar at h
  split at h
  · rename_i letter hshort
    simp only [List.mem_cons, List.not_mem_nil, or_false] at h
    obtain rfl | rfl := h
    · decide
    · exact hletter d hshort
  · split at h
    · simp only [List.mem_cons, List.not_mem_nil, or_false] at h
      obtain rfl | rfl | rfl | rfl | rfl | rfl := h
      iterate 4 decide
      · exact isPlain_hexDigit _ (by omega)
      · exact isPlain_hexDigit _ (by omega)
    · rw [List.mem_singleton.mp h]
      exact Nat.not_lt.mp ‹_›

theorem isPlain_quotedChars {s : List Char} {d : Char} (h : d ∈ quotedChars s) : IsPlain d := by
  rw [quotedChars, List.cons_append, List.mem_cons, List.mem_append, List.mem_flatMap, List.mem_singleton] at h
  obtain rfl | ⟨c, _, hd⟩ | rfl := h
  · decide
  · exact isPlain_escapeChar hd
  · decide

mutual

theorem isPlain_compactChars : ∀ (v : Json) {rest : List Char}, (∀ c ∈ rest, IsPlain c) →
    ∀ c ∈ compactChars v rest, IsPlain c
  | .null, rest, h => by
      rw [compactChars]
      simpa [show IsPlain 'n' ∧ IsPlain 'u' ∧ IsPlain 'l' by decide] using h
  | .bool true, rest, h => by
      rw [compactChars]
      simpa [show IsPlain 't' ∧ IsPlain 'r' ∧ IsPlain 'u' ∧ IsPlain 'e' by decide] using h
  | .bool false, rest, h => by
      rw [compactChars]
      simpa [show IsPlain 'f' ∧ IsPlain 'a' ∧ IsPlain 'l' ∧ IsPlain 's' ∧ IsPlain 'e' by decide] using h
  | .num n, rest, h => by
      rw [compactChars, List.forall_mem_append]
      exact ⟨fun c hc => isPlain_numeric (Number.isNumeric_text hc), h⟩
  | .str s, rest, h => by
      rw [compactChars, List.forall_mem_append]
      exact ⟨fun c hc => isPlain_quotedChars hc, h⟩
  | .arr [], rest, h => by
      rw [compactChars, List.forall_mem_cons, List.forall_mem_cons]
      exact ⟨by decide, by decide, h⟩
  | .arr (v :: vs), rest, h => by
      rw [compactChars, List.forall_mem_cons]
      exact ⟨by decide, isPlain_compactChars v (isPlain_itemChars vs (List.forall_mem_cons.mpr ⟨by decide, h⟩))⟩
  | .obj [], rest, h => by
      rw [compactChars, List.forall_mem_cons, List.forall_mem_cons]
      exact ⟨by decide, by decide, h⟩
  | .obj ((k, v) :: ms), rest, h => by
      have hend : ∀ c ∈ '}' :: rest, IsPlain c := List.forall_mem_cons.mpr ⟨by decide, h⟩
      have hrest := isPlain_compactChars v (isPlain_memberChars ms hend)
      rw [compactChars, List.cons_append, List.forall_mem_cons, List.forall_mem_append, List.forall_mem_cons]
      exact ⟨by decide, fun c hc => isPlain_quotedChars hc, by decide, hrest⟩

theorem isPlain_itemChars : ∀ (vs : List Json) {rest : List Char}, (∀ c ∈ rest, IsPlain c) →
    ∀ c ∈ itemChars vs rest, IsPlain c
  | [], rest, h => h
  | v :: vs, rest, h => by
      rw [itemChars, List.forall_mem_cons]
      exact ⟨by decide, isPlain_compactChars v (isPlain_itemChars vs h)⟩

theorem isPlain_memberChars : ∀ (ms : List (String × Json)) {rest : List Char}, (∀ c ∈ rest, IsPlain c) →
    ∀ c ∈ memberChars ms rest, IsPlain c
  | [], rest, h => h
  | (k, v) :: ms, rest, h => by
      have hrest := isPlain_compactChars v (isPlain_memberChars ms h)
      rw [memberChars, List.cons_append, List.forall_mem_cons, List.forall_mem_append, List.forall_mem_cons]
      exact ⟨by decide, fun c hc => isPlain_quotedChars hc, by decide, hrest⟩

end

theorem isPlain_compact {v : Json} {c : Char} (h : c ∈ v.compact.toList) : IsPlain c := by
  rw [compact, String.toList_ofList] at h
  exact isPlain_compactChars v (List.forall_mem_nil _) c h

/-- A value is written on one line. -/
theorem newline_not_mem_compact (v : Json) : '\n' ∉ v.compact.toList := by
  intro h
  exact absurd (isPlain_compact h) (by decide)

/-! ### Depth and numbers -/

mutual

/-- Most containers of the value in one another. -/
def depth : Json → Nat
  | .arr items => depthOfItems items + 1
  | .obj members => depthOfMembers members + 1
  | _ => 0

def depthOfItems : List Json → Nat
  | [] => 0
  | v :: vs => max v.depth (depthOfItems vs)

def depthOfMembers : List (String × Json) → Nat
  | [] => 0
  | (_, v) :: ms => max v.depth (depthOfMembers ms)

end

mutual

/-- All numbers in the value. -/
def numbers : Json → List Number
  | .num n => [n]
  | .arr items => numbersOfItems items
  | .obj members => numbersOfMembers members
  | _ => []

def numbersOfItems : List Json → List Number
  | [] => []
  | v :: vs => v.numbers ++ numbersOfItems vs

def numbersOfMembers : List (String × Json) → List Number
  | [] => []
  | (_, v) :: ms => v.numbers ++ numbersOfMembers ms

end

/-- The value can be sent: the reader goes as deep as it, its integers fit a word and its doubles read back. -/
structure Portable (v : Json) : Prop where
  depth : v.depth ≤ depthLimit
  integers : ∀ n, .int n ∈ v.numbers → Number.isWordSized n = true
  doubles : ∀ x, .float x ∈ v.numbers → (Number.float x).ReadsBack

theorem Portable.numbers {v : Json} (h : v.Portable) : ∀ n ∈ v.numbers, n.ReadsBack := by
  intro n hn
  cases n with
  | int n => exact Number.readsBack_int (h.integers n hn)
  | float x => exact h.doubles x hn

/-! ### Reading it back -/

namespace Reader

theorem open_value {stack : List Frame} (h : stack.length < depthLimit) :
    (reading stack .value).feed '[' = .reading (.arr [] :: stack) .firstItem ∧
      (reading stack .value).feed '{' = .reading (.obj [] "" :: stack) .firstKey :=
  ⟨if_pos h, if_pos h⟩

/-- A value starts with a character that can be seen, which ends no array. -/
theorem compactChars_head {v : Json} (h : ∀ n ∈ v.numbers, n.ReadsBack) (rest : List Char) :
    ∃ c cs, compactChars v rest = c :: cs ∧ IsVisible c ∧ c ≠ ']' := by
  cases v with
  | null => exact ⟨'n', _, rfl, by decide, by decide⟩
  | bool b => cases b <;> exact ⟨_, _, rfl, by decide, by decide⟩
  | str s => exact ⟨'"', _, rfl, by decide, by decide⟩
  | arr items => cases items <;> exact ⟨'[', _, rfl, by decide, by decide⟩
  | obj members => cases members <;> exact ⟨'{', _, rfl, by decide, by decide⟩
  | num n =>
      have hback := h n (List.mem_singleton_self n)
      cases htext : n.text with
      | nil =>
          rw [Number.ReadsBack, htext, read_eq, String.toList_ofList] at hback
          cases hback
      | cons c cs =>
          have hc : IsNumeric c := Number.isNumeric_text (htext ▸ List.mem_cons_self)
          refine ⟨c, cs ++ rest, by rw [compactChars, htext, List.cons_append], isVisible_numeric hc, ?_⟩
          rintro rfl
          obtain hdigit | h | h | h | h := hc <;> first | cases hdigit | cases h

/-- A value that is the first of an array is read like any other. -/
theorem run_firstItem (stack : List Frame) {v : Json} (h : ∀ n ∈ v.numbers, n.ReadsBack) (rest : List Char) :
    (reading stack .firstItem).run (compactChars v rest) = (reading stack .value).run (compactChars v rest) := by
  obtain ⟨c, cs, htext, hvisible, hclose⟩ := compactChars_head h rest
  have hnot : ¬isBlank c = true := by
    rw [isBlank_iff]
    rintro (rfl | rfl | rfl | rfl) <;> exact absurd hvisible (by decide)
  rw [htext, run_cons, run_cons, feed, feed, if_neg hnot, if_neg hnot, if_neg (by simpa using hclose)]

-- The induction is on the value, in any place of the stack. Behind a number the reader does not know yet that the
-- number is over, so it is the next character that shows what is held (`Holds`).
mutual

theorem run_compactChars : ∀ (v : Json) (stack : List Frame), stack.length + v.depth ≤ depthLimit →
    (∀ n ∈ v.numbers, n.ReadsBack) →
    ∃ r, Holds stack v.sorted r ∧ ∀ rest, (reading stack .value).run (compactChars v rest) = r.run rest
  | .null, stack, _, _ => ⟨_, holds_after stack .null, fun _ => rfl⟩
  | .bool true, stack, _, _ => ⟨_, holds_after stack (.bool true), fun _ => rfl⟩
  | .bool false, stack, _, _ => ⟨_, holds_after stack (.bool false), fun _ => rfl⟩
  | .num n, stack, _, hnumbers => by
      obtain ⟨r, hholds, hrun⟩ := reading_number (hnumbers n (List.mem_singleton_self n)) stack
      exact ⟨r, hholds, fun rest => by rw [compactChars, run_append, hrun]⟩
  | .str s, stack, _, _ => ⟨_, holds_after stack (.str s), fun rest => by rw [compactChars, run_text]⟩
  | .arr [], stack, hroom, _ => by
      have hopen := (open_value (show stack.length < depthLimit by simp only [depth] at hroom; omega)).1
      refine ⟨_, holds_after stack (.arr []), fun rest => ?_⟩
      rw [compactChars, run_cons, hopen]
      rfl
  | .arr (v :: vs), stack, hroom, hnumbers => by
      simp only [depth, depthOfItems] at hroom
      simp only [numbers, numbersOfItems, List.forall_mem_append] at hnumbers
      obtain ⟨r, hholds, hrun⟩ := run_compactChars v (.arr [] :: stack) (by rw [List.length_cons]; omega) hnumbers.1
      refine ⟨_, holds_after stack (.arr (sortedItems (v :: vs))), fun rest => ?_⟩
      rw [compactChars, run_cons, (open_value (by omega)).1, run_firstItem _ hnumbers.1, hrun,
        run_itemChars vs stack [] v.sorted r (by omega) hnumbers.2 hholds]
      rfl
  | .obj [], stack, hroom, _ => by
      have hopen := (open_value (show stack.length < depthLimit by simp only [depth] at hroom; omega)).2
      refine ⟨_, holds_after stack (.obj []), fun rest => ?_⟩
      rw [compactChars, run_cons, hopen]
      rfl
  | .obj ((k, v) :: ms), stack, hroom, hnumbers => by
      simp only [depth, depthOfMembers] at hroom
      simp only [numbers, numbersOfMembers, List.forall_mem_append] at hnumbers
      obtain ⟨r, hholds, hrun⟩ := run_compactChars v (.obj [] k :: stack) (by rw [List.length_cons]; omega) hnumbers.1
      refine ⟨_, holds_after stack (.obj (sortedMembers ((k, v) :: ms) [])), fun rest => ?_⟩
      rw [compactChars, List.cons_append, run_cons, (open_value (by omega)).2, run_key _ _ _ _ (.inr rfl), hrun,
        run_memberChars ms stack [] k v.sorted r (by omega) hnumbers.2 hholds]
      rfl

theorem run_itemChars : ∀ (vs : List Json) (stack : List Frame) (items : List Json) (w : Json) (r : Reader),
    stack.length + 1 + depthOfItems vs ≤ depthLimit → (∀ n ∈ numbersOfItems vs, n.ReadsBack) →
    Holds (.arr items :: stack) w r → ∀ rest, r.run (itemChars vs (']' :: rest)) =
      (reading stack (.after (.arr ((w :: items).reverse ++ sortedItems vs)))).run rest
  | [], stack, items, w, r, _, _, hholds, rest => by
      rw [itemChars, run_cons, hholds.feed ']' (.inr (.inr (.inl rfl))), sortedItems, List.append_nil]
      rfl
  | v :: vs, stack, items, w, r, hroom, hnumbers, hholds, rest => by
      simp only [depthOfItems] at hroom
      simp only [numbersOfItems, List.forall_mem_append] at hnumbers
      obtain ⟨r', hholds', hrun⟩ := run_compactChars v (.arr (w :: items) :: stack) (by rw [List.length_cons]; omega)
        hnumbers.1
      have hcomma : r.feed ',' = .reading (.arr (w :: items) :: stack) .value := hholds.feed ',' (.inr (.inl rfl))
      rw [itemChars, run_cons, hcomma, hrun,
        run_itemChars vs stack (w :: items) v.sorted r' (by omega) hnumbers.2 hholds', sortedItems, List.reverse_cons]
      simp

theorem run_memberChars : ∀ (ms : List (String × Json)) (stack : List Frame) (members : Members) (key : String)
    (w : Json) (r : Reader), stack.length + 1 + depthOfMembers ms ≤ depthLimit →
    (∀ n ∈ numbersOfMembers ms, n.ReadsBack) → Holds (.obj members key :: stack) w r → ∀ rest,
    r.run (memberChars ms ('}' :: rest)) =
      (reading stack (.after (.obj (sortedMembers ms (insert key w members))))).run rest
  | [], stack, members, key, w, r, _, _, hholds, rest => by
      rw [memberChars, run_cons, hholds.feed '}' (.inr (.inr (.inr rfl))), sortedMembers]
      rfl
  | (k, v) :: ms, stack, members, key, w, r, hroom, hnumbers, hholds, rest => by
      simp only [depthOfMembers] at hroom
      simp only [numbersOfMembers, List.forall_mem_append] at hnumbers
      obtain ⟨r', hholds', hrun⟩ := run_compactChars v (.obj (insert key w members) k :: stack)
        (by rw [List.length_cons]; omega) hnumbers.1
      have hcomma : r.feed ',' = .reading (.obj (insert key w members) "" :: stack) .key :=
        hholds.feed ',' (.inr (.inl rfl))
      rw [memberChars, List.cons_append, run_cons, hcomma, run_key _ _ _ _ (.inl rfl), hrun,
        run_memberChars ms stack (insert key w members) k v.sorted r' (by omega) hnumbers.2 hholds', sortedMembers]

end

end Reader

/-- The text of a value is read as the value. -/
theorem read_compact {v : Json} (h : v.Portable) : read v.compact = .ok v.sorted := by
  obtain ⟨r, hholds, hrun⟩ := Reader.run_compactChars v [] (by simpa using h.depth) h.numbers
  rw [read_eq, compact, String.toList_ofList]
  exact (congrArg Reader.finish (hrun [])).trans (hholds.finish rfl)

end Colloquy.Json
