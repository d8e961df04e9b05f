import Mathlib.Algebra.Group.Nat.Defs
import Mathlib.Data.List.Basic
import Colloquy.Proofs.Toml.Quoting

/-! Values that are written and read again: numbers, truth values, texts, and lists of texts on one line or on many.
Every item of a section reads back as its value (`value?_itemText`). -/

namespace Colloquy.Toml

variable {rest : List Char}

/-! ### Words -/

theorem isWordChar_of_isDigit {c : Char} (h : c.isDigit = true) : isWordChar c = true := by
  simp [isWordChar, Char.isAlphanum, h]

theorem takeWord_append {word : List Char} (hword : ∀ c ∈ word, isWordChar c = true)
    (hrest : ∀ c, rest.head? = some c → isWordChar c = false ∧ c ≠ ' ') : takeWord (word ++ rest) = (word, rest) := by
  rw [takeWord, takeWhile_append_of_head hword fun c hc => (hrest c hc).1, List.drop_left]
  dsimp only
  split
  · exact absurd rfl (hrest ' ' rfl).2
  · rfl

theorem underscored?_digits {ds : List Char} (hds : ds ≠ []) (hdigits : ∀ c ∈ ds, c.isDigit = true) :
    underscored? Char.isDigit ds = some ds := by
  induction ds with
  | nil => exact absurd rfl hds
  | cons d ds ih =>
      obtain ⟨hd, hrest⟩ := List.forall_mem_cons.mp hdigits
      cases ds with
      | nil => rw [underscored?, if_pos hd]
      | cons e ds =>
          rw [underscored?, if_pos hd, ih (List.cons_ne_nil _ _) hrest]
          · rfl
          · exact List.cons_ne_nil _ _
          · rintro more hmore
            obtain ⟨rfl, -⟩ := List.cons.inj hmore
            exact absurd (hrest '_' List.mem_cons_self) (by decide)

/-- The digits of a number start with a zero only if they are no more than that. -/
theorem natText_head {n : Nat} (hpos : 0 < n) : ∃ d ds, Decimal.natText n = d :: ds ∧ d ≠ '0' := by
  -- digits are split off at the back, so the front is that of the number without its last digit
  induction n using Nat.strongRecOn with
  | ind n ih =>
      by_cases hsmall : n < 10
      · have hdigit : ∀ n < 10, 0 < n → n.digitChar ≠ '0' := by decide
        exact ⟨n.digitChar, [], Nat.toDigits_of_lt_base hsmall, hdigit n hsmall hpos⟩
      · obtain ⟨d, ds, htext, hd⟩ := ih (n / 10) (by omega) (by omega)
        refine ⟨d, ds ++ [(n % 10).digitChar], ?_, hd⟩
        rw [Decimal.natText, Nat.toDigits_of_base_le (by decide) (by omega)]
        exact congrArg (· ++ [(n % 10).digitChar]) htext

theorem isDigit_of_mem_natText {n : Nat} {c : Char} (h : c ∈ Decimal.natText n) : c.isDigit = true :=
  Nat.isDigit_of_mem_toDigits (by decide) (by decide) h

theorem natText_ne_nil (n : Nat) : Decimal.natText n ≠ [] := Nat.toDigits_ne_nil

theorem valueIn_natText (n : Nat) : valueIn 10 (Decimal.natText n) = n := by
  have hvalue (ds : List Char) (hds : ∀ c ∈ ds, c.isDigit = true) (m : Nat) :
      ds.foldl (fun n d => 10 * n + digitValue d) m = Nat.ofDigitChars 10 ds m := by
    induction ds generalizing m with
    | nil => rfl
    | cons d ds ih =>
        obtain ⟨hd, hrest⟩ := List.forall_mem_cons.mp hds
        rw [List.foldl_cons, ih hrest, digitValue, if_pos hd]
        rfl
  rw [valueIn, hvalue _ fun c hc => isDigit_of_mem_natText hc, Decimal.natText, Nat.ofDigitChars_ten_toDigits]

theorem plainDigits?_natText (n : Nat) : plainDigits? (Decimal.natText n) = some (Decimal.natText n) := by
  rw [plainDigits?, underscored?_digits (natText_ne_nil n) fun c hc => isDigit_of_mem_natText hc]
  split
  · rename_i hzero
    obtain rfl | hpos := Nat.eq_zero_or_pos n
    · cases Option.some.inj hzero
    · obtain ⟨d, ds, htext, hd⟩ := natText_head hpos
      rw [htext] at hzero
      exact absurd (List.cons.inj (Option.some.inj hzero)).1 hd
  · rfl

theorem integer?_natText (n : Nat) : integer? (Decimal.natText n) = some (n : Int) := by
  have hsign : signed (Decimal.natText n) = (false, Decimal.natText n) := by
    unfold signed
    split
    · rename_i htext
      exact absurd (isDigit_of_mem_natText (n := n) (c := '-') (by simp [htext])) (by decide)
    · rename_i htext
      exact absurd (isDigit_of_mem_natText (n := n) (c := '+') (by simp [htext])) (by decide)
    · rfl
  have hletter {c : Char} {ds : List Char} (htext : Decimal.natText n = '0' :: c :: ds) : c.isDigit = true :=
    isDigit_of_mem_natText (n := n) (by simp [htext])
  rw [integer?, hsign]
  · dsimp only
    rw [plainDigits?_natText, Option.map_some, valueIn_natText, if_neg (by decide)]
  all_goals exact fun ds htext => absurd (hletter htext) (by decide)

theorem scalar?_natText {n : Nat} (hn : n < 2 ^ 128) : scalar? (Decimal.natText n) = some (.integer n) := by
  have hword {word : String} {c : Char} (hc : c ∈ word.toList) (hdigit : c.isDigit = false) :
      Decimal.natText n ≠ word.toList := by
    intro htext
    rw [isDigit_of_mem_natText (n := n) (htext ▸ hc)] at hdigit
    cases hdigit
  have hheld : isHeld n = true := by
    simp only [isHeld, Bool.and_eq_true, decide_eq_true_eq]
    omega
  rw [scalar?, if_neg (hword (c := 't') (by decide) (by decide)), if_neg (hword (c := 'f') (by decide) (by decide)),
    integer?_natText]
  simp only [hheld, if_true]

/-! ### Space -/

/-- Neither space nor a comment stands in front. -/
def Solid (s : List Char) : Prop := ∀ c, s.head? = some c → isGap c = false ∧ c ≠ '#' ∧ c ≠ '\n' ∧ c ≠ '\r'

theorem solid_cons {c : Char} (hc : isGap c = false ∧ c ≠ '#' ∧ c ≠ '\n' ∧ c ≠ '\r') (s : List Char) :
    Solid (c :: s) :=
  head_cons hc s

theorem dropWhile_isGap {s : List Char} (hs : ∀ c, s.head? = some c → isGap c = false) : s.dropWhile isGap = s := by
  cases s with
  | nil => rfl
  | cons c s => rw [List.dropWhile_cons_of_neg (by simp [hs c rfl])]

theorem afterComment?_of_head {s : List Char} (hs : ∀ c, s.head? = some c → c ≠ '#') : afterComment? s = some s := by
  unfold afterComment?
  split
  · exact absurd rfl (hs '#' rfl)
  · rfl

theorem skipSpace_solid {s : List Char} (hs : Solid s) (fuel : Nat) : skipSpace fuel s = some s := by
  cases fuel with
  | zero => rfl
  | succ fuel =>
      rw [skipSpace, dropWhile_isGap fun c hc => (hs c hc).1, afterComment?_of_head fun c hc => (hs c hc).2.1]
      simp only [Option.bind_eq_bind, Option.bind_some, afterLineEnd?_eq_none fun c hc => (hs c hc).2.2]

theorem skipSpace_append {blanks s : List Char} (hblanks : ∀ c ∈ blanks, c = ' ' ∨ c = '\n') (hs : Solid s) :
    ∀ fuel, blanks.length ≤ fuel → skipSpace fuel (blanks ++ s) = some s := by
  induction blanks with
  | nil => exact fun fuel _ => skipSpace_solid hs fuel
  | cons c blanks ih =>
      intro fuel hfuel
      obtain ⟨hc, hrest⟩ := List.forall_mem_cons.mp hblanks
      obtain ⟨fuel, rfl⟩ := Nat.exists_eq_add_one_of_ne_zero (Nat.ne_zero_of_lt hfuel)
      rw [List.length_cons] at hfuel
      -- only a line end costs a step: blanks are dropped within one
      obtain rfl | rfl := hc
      · exact ih hrest (fuel + 1) (by omega)
      · exact ih hrest fuel (by omega)

theorem space_append {blanks s : List Char} (hblanks : ∀ c ∈ blanks, c = ' ' ∨ c = '\n') (hs : Solid s) :
    space (blanks ++ s) = some s :=
  skipSpace_append hblanks hs _ (by simp)

theorem space_solid {s : List Char} (hs : Solid s) : space s = some s := skipSpace_solid hs _

/-! ### Values -/

/-- What an item stands for. -/
def Item.value : Item → Toml
  | .text s => .text s
  | .natural n => .integer n
  | .boolean b => .boolean b
  | .texts ss => .array (ss.map .text)

/-- A number that is held. -/
def Item.IsHeld : Item → Prop
  | .natural n => n < 2 ^ 128
  | _ => True

/-- The end of a line ends all that may stand in front of it. -/
theorem noQuote_lineEnd (rest : List Char) : NoQuote ('\n' :: rest) := head_cons (by decide) rest

theorem value?_word {word : List Char} {v : Toml} (hne : word ≠ []) (hword : ∀ c ∈ word, isWordChar c = true)
    (hv : scalar? word = some v) (depth : Nat) (rest : List Char) :
    value? depth (word ++ '\n' :: rest) = some (v, '\n' :: rest) := by
  obtain ⟨c, cs, rfl⟩ := List.exists_cons_of_ne_nil hne
  have hc := hword c List.mem_cons_self
  have hplain : plainValue? (c :: cs ++ '\n' :: rest) = some (v, '\n' :: rest) := by
    rw [plainValue?, takeWord_append hword (head_cons (by decide) rest)]
    · simp only [hv, Option.map_some]
    · exact fun s hs => ne_of_kind (d := '"') hc (by decide) (List.cons.inj hs).1
    · exact fun s hs => ne_of_kind (d := '\'') hc (by decide) (List.cons.inj hs).1
  rw [← hplain]
  cases depth with
  | zero => rfl
  | succ depth =>
      rw [List.cons_append, value?]
      · exact fun s hs => ne_of_kind (d := '[') hc (by decide) (List.cons.inj hs).1
      · exact fun s hs => ne_of_kind (d := '\x7b') hc (by decide) (List.cons.inj hs).1

theorem textOf_head (s : List Char) : ∃ q body, textOf s = q :: body ∧ (q = '"' ∨ q = '\'') := by
  unfold textOf
  dsimp only
  split
  · exact ⟨_, _, rfl, .inl rfl⟩
  · split
    · exact ⟨_, _, rfl, .inr rfl⟩
    · split
      · exact ⟨_, _, rfl, .inl rfl⟩
      · split
        · exact ⟨_, _, rfl, .inr rfl⟩
        · split
          · exact ⟨_, _, rfl, .inl rfl⟩
          · exact ⟨_, _, rfl, .inl rfl⟩

theorem solid_textOf (s rest : List Char) : Solid (textOf s ++ rest) := by
  obtain ⟨q, body, htext, hq⟩ := textOf_head s
  rw [htext]
  obtain rfl | rfl := hq <;> exact solid_cons (by decide) _

theorem value?_textOf (hrest : NoQuote rest) (depth : Nat) (s : String) :
    value? depth (textOf s.toList ++ rest) = some (.text s, rest) := by
  obtain ⟨q, body, htext, hq⟩ := textOf_head s.toList
  have hread := quotedText?_textOf hrest s.toList
  rw [String.ofList_toList] at hread
  have hplain : plainValue? (textOf s.toList ++ rest) = some (.text s, rest) := by
    rw [htext] at hread ⊢
    obtain rfl | rfl := hq <;> exact congrArg (Option.map fun r => (Toml.text r.1, r.2)) hread
  rw [← hplain, htext]
  obtain rfl | rfl := hq <;> cases depth <;> rfl

section Array

variable (blanks : List Char) (hblanks : ∀ c ∈ blanks, c = ' ' ∨ c = '\n') (depth fuel : Nat) (items : List Toml)
include hblanks

theorem arrayItems_end :
    arrayItems (value? depth) (fuel + 1) items (blanks ++ ']' :: rest) = some (.array items.reverse, rest) := by
  rw [arrayItems, space_append hblanks (solid_cons (by decide) rest)]
  rfl

theorem arrayItems_text {next : Char} (hnext : next = ',' ∨ next = ']') (s : String) (rest : List Char) :
    arrayItems (value? depth) (fuel + 1) items (blanks ++ (textOf s.toList ++ next :: rest)) =
      if next = ',' then arrayItems (value? depth) fuel (.text s :: items) rest
      else some (.array (.text s :: items).reverse, rest) := by
  have hquote : NoQuote (next :: rest) := head_cons (by obtain rfl | rfl := hnext <;> decide) rest
  have hsolid : space (next :: rest) = some (next :: rest) :=
    space_solid (solid_cons (by obtain rfl | rfl := hnext <;> decide) rest)
  have hread := value?_textOf hquote depth s
  rw [arrayItems, space_append hblanks (solid_textOf _ _), Option.bind_eq_bind, Option.bind_some]
  obtain ⟨q, body, htext, hq⟩ := textOf_head s.toList
  split
  · rename_i hend
    rw [htext] at hend
    obtain rfl | rfl := hq <;> cases (List.cons.inj hend).1
  · rw [hread]
    simp only [Option.bind_eq_bind, Option.bind_some, hsolid]
    obtain rfl | rfl := hnext <;> rfl

end Array

/-- The lines of a list, each with an item. -/
def itemLines (ss : List String) : List Char :=
  ss.flatMap (fun s => "    ".toList ++ textOf s.toList ++ [',', '\n'])

theorem length_le_itemLines (ss : List String) : ss.length ≤ (itemLines ss).length := by
  induction ss with
  | nil => exact Nat.le_refl _
  | cons s ss ih =>
      have hline : itemLines (s :: ss) = "    ".toList ++ textOf s.toList ++ [',', '\n'] ++ itemLines ss :=
        List.flatMap_cons
      rw [hline, List.length_append, List.length_append, List.length_cons, List.length_cons, List.length_cons]
      omega

theorem arrayItems_lines (depth : Nat) (ss : List String) (rest : List Char) :
    ∀ fuel items, ss.length < fuel → arrayItems (value? depth) fuel items ('\n' :: (itemLines ss ++ ']' :: rest)) =
      some (.array (items.reverse ++ ss.map .text), rest) := by
  induction ss with
  | nil =>
      intro fuel items hfuel
      obtain ⟨fuel, rfl⟩ := Nat.exists_eq_add_one_of_ne_zero (Nat.ne_zero_of_lt hfuel)
      exact (arrayItems_end ['\n'] (by simp) depth fuel items).trans (by simp)
  | cons s ss ih =>
      intro fuel items hfuel
      obtain ⟨fuel, rfl⟩ := Nat.exists_eq_add_one_of_ne_zero (Nat.ne_zero_of_lt hfuel)
      have hlines : '\n' :: (itemLines (s :: ss) ++ ']' :: rest) =
          "\n    ".toList ++ (textOf s.toList ++ ',' :: '\n' :: (itemLines ss ++ ']' :: rest)) := by
        simp [itemLines]
      rw [hlines, arrayItems_text _ (by simp) depth fuel items (.inl rfl), if_pos rfl,
        ih fuel (.text s :: items) (by simpa using hfuel)]
      simp

/-- Every item reads back as its value. -/
theorem value?_itemText {i : Item} (hi : i.IsHeld) (rest : List Char) :
    value? depthLimit (itemText i ++ '\n' :: rest) = some (i.value, '\n' :: rest) := by
  cases i with
  | text s => exact value?_textOf (noQuote_lineEnd rest) depthLimit s
  | natural n =>
      exact value?_word (natText_ne_nil n) (fun c hc => isWordChar_of_isDigit (isDigit_of_mem_natText hc))
        (scalar?_natText hi) depthLimit rest
  | boolean b =>
      cases b
      · exact value?_word (by decide) (List.all_eq_true.mp rfl) rfl depthLimit rest
      · exact value?_word (by decide) (List.all_eq_true.mp rfl) rfl depthLimit rest
  | texts ss =>
      obtain _ | ⟨s, _ | ⟨t, ss⟩⟩ := ss
      · exact arrayItems_end [] (by simp) _ _ []
      · have htext : itemText (.texts [s]) ++ '\n' :: rest = '[' :: (textOf s.toList ++ ']' :: '\n' :: rest) := by
          simp [itemText]
        rw [htext]
        exact arrayItems_text [] (by simp) _ _ [] (.inr rfl) s _
      · have htext : itemText (.texts (s :: t :: ss)) ++ '\n' :: rest =
            '[' :: '\n' :: (itemLines (s :: t :: ss) ++ ']' :: '\n' :: rest) := by
          simp [itemText, itemLines]
        rw [htext]
        refine (arrayItems_lines 79 (s :: t :: ss) _ _ [] ?_).trans (by simp [Item.value])
        have hlength := length_le_itemLines (s :: t :: ss)
        simp only [List.length_cons, List.length_append] at hlength ⊢
        omega

end Colloquy.Toml
