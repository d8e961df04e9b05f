import Mathlib.Data.List.Basic
import Colloquy.Json.Printer
import Colloquy.Proofs.Json.Reader

/-! Texts and numbers that are written and read again, wherever they stand in a value. A number that reads back
on its own reads back in any place (`reading_number`); integers of a word always do (`readsBack_int`). -/

namespace Colloquy

open Decimal

/-! ### The characters of numbers -/

/-- The characters that numbers are written with. -/
def IsNumeric (c : Char) : Prop := c.isDigit = true ∨ c = '-' ∨ c = '+' ∨ c = '.' ∨ c = 'e'

theorem IsNumeric.not_blank {c : Char} (h : IsNumeric c) : Json.Reader.isBlank c = false := by
  obtain hdigit | rfl | rfl | rfl | rfl := h
  · rw [← Bool.not_eq_true, Json.Reader.isBlank_iff]
    rintro (rfl | rfl | rfl | rfl) <;> cases hdigit
  all_goals rfl

theorem isNumeric_natText {n : Nat} {c : Char} (h : c ∈ natText n) : IsNumeric c :=
  .inl (Nat.isDigit_of_mem_toDigits (by decide) (by decide) h)

theorem isNumeric_intText {n : Int} {c : Char} (h : c ∈ intText n) : IsNumeric c := by
  unfold intText at h
  split at h
  · obtain _ | ⟨_, h⟩ := h
    · exact .inr (.inl rfl)
    · exact isNumeric_natText h
  · exact isNumeric_natText h

theorem isNumeric_zeros {k : Nat} {c : Char} (h : c ∈ List.replicate k '0') : IsNumeric c := by
  rw [List.eq_of_mem_replicate h]
  exact .inl rfl

theorem isNumeric_positionalText {pointZero : Bool} {d : Digits} {c : Char} (h : c ∈ positionalText pointZero d) :
    IsNumeric c := by
  have hdigits {c : Char} (h : c ∈ natText d.digits) : IsNumeric c := isNumeric_natText h
  have hpoint : IsNumeric '.' := .inr (.inr (.inr (.inl rfl)))
  unfold positionalText at h
  dsimp only at h
  split at h
  · rw [List.mem_append, List.mem_append] at h
    obtain (h | h) | h := h
    · exact hdigits h
    · exact isNumeric_zeros h
    · cases pointZero with
      | false => cases h
      | true =>
          obtain _ | ⟨_, _ | ⟨_, ⟨⟩⟩⟩ := h
          · exact hpoint
          · exact .inl rfl
  · split at h
    · rw [List.mem_append, List.mem_cons] at h
      obtain h | rfl | h := h
      · exact hdigits (List.mem_of_mem_take h)
      · exact hpoint
      · exact hdigits (List.mem_of_mem_drop h)
    · rw [List.mem_append, List.mem_cons, List.mem_cons] at h
      obtain (rfl | rfl | h) | h := h
      · exact .inl rfl
      · exact hpoint
      · exact isNumeric_zeros h
      · exact hdigits h

theorem isNumeric_scientificText {d : Digits} {c : Char} (h : c ∈ scientificText d) : IsNumeric c := by
  have hdigits {c : Char} (h : c ∈ natText d.digits) : IsNumeric c := isNumeric_natText h
  unfold scientificText at h
  dsimp only at h
  rw [List.mem_append, List.mem_cons, List.mem_cons] at h
  obtain h | rfl | rfl | h := h
  · split at h
    · cases h
    · rename_i heq
      exact hdigits (heq ▸ h)
    · rename_i heq
      rw [heq] at hdigits
      obtain _ | ⟨_, _ | ⟨_, h⟩⟩ := h
      · exact hdigits List.mem_cons_self
      · exact .inr (.inr (.inr (.inl rfl)))
      · exact hdigits (List.mem_cons_of_mem _ h)
  · exact .inr (.inr (.inr (.inr rfl)))
  · split
    · exact .inr (.inl rfl)
    · exact .inr (.inr (.inl rfl))
  · exact isNumeric_natText h

theorem isNumeric_render {style : Layout} {x : Float} {c : Char} (h : c ∈ style.render x) : IsNumeric c := by
  unfold Layout.render at h
  extract_lets b d lead magnitude at h
  have hmagnitude : ∀ c ∈ magnitude, IsNumeric c := by
    intro c hc
    unfold magnitude at hc
    split at hc
    · have hzero : IsNumeric '0' := .inl rfl
      have hpoint : IsNumeric '.' := .inr (.inr (.inr (.inl rfl)))
      split at hc <;> simp only [List.mem_cons, List.not_mem_nil, or_false] at hc
      · obtain rfl | rfl | rfl := hc
        · exact hzero
        · exact hpoint
        · exact hzero
      · exact hc ▸ hzero
    · split at hc
      · exact isNumeric_positionalText hc
      · split at hc
        · exact isNumeric_positionalText hc
        · exact isNumeric_scientificText hc
  split at h
  · obtain _ | ⟨_, h⟩ := h
    · exact .inr (.inl rfl)
    · exact hmagnitude c h
  · exact hmagnitude c h

theorem Number.isNumeric_text {n : Number} {c : Char} (h : c ∈ n.text) : IsNumeric c := by
  cases n with
  | int n => exact isNumeric_intText h
  | float x => exact isNumeric_render h

/-- The text of the number, on its own, is read as the number. -/
def Number.ReadsBack (n : Number) : Prop := Json.read (String.ofList n.text) = .ok (.num n)

namespace Json.Reader

/-- What may stand behind a value: a blank, a comma or the end of a container. -/
def IsEnd (c : Char) : Prop := isBlank c = true ∨ c = ',' ∨ c = ']' ∨ c = '}'

/-- The reader has a value in front of it, in a container or on its own, and can go on behind it. -/
structure Holds (stack : List Frame) (v : Json) (r : Reader) : Prop where
  feed : ∀ c, IsEnd c → r.feed c = feedAfter stack v c
  finish : stack = [] → r.finish = .ok v

variable {stack : List Frame} {v : Json} {r : Reader}

theorem holds_after (stack : List Frame) (v : Json) : Holds stack v (.reading stack (.after v)) where
  feed _ _ := rfl
  finish h := by
    subst h
    rfl

/-! ### Numbers -/

theorem next?_end (m : NumberSoFar) {c : Char} (hc : IsEnd c) : m.next? c = none := by
  obtain hblank | rfl | rfl | rfl := hc
  · exact next?_blank m hblank
  all_goals
    unfold NumberSoFar.next?
    cases m.place <;> rfl

theorem holds_number {m : NumberSoFar} {n : Number} (stack : List Frame) (hcomplete : m.isComplete = true)
    (hvalue : m.value? = some n) : Holds stack (.num n) (.reading stack (.number m)) where
  feed c hc := by
    rw [feed, next?_end m hc]
    simp only [hcomplete, hvalue]
  finish h := by
    subst h
    simp only [Reader.finish, hcomplete, hvalue]

theorem feed_numeric (stack : List Frame) {c : Char} (hc : IsNumeric c) :
    (reading stack .value).feed c =
      match NumberSoFar.start? c with
      | some m => .reading stack (.number m)
      | none => .failed := by
  rw [feed, if_neg (by rw [hc.not_blank]; exact Bool.false_ne_true)]
  unfold feedValue
  split
  case h_7 => rfl
  all_goals
    obtain hdigit | h | h | h | h := hc <;> first | cases hdigit | cases h

theorem feedAfter_numeric (stack : List Frame) (done : Json) {c : Char} (hc : IsNumeric c) :
    feedAfter stack done c = .failed := by
  unfold feedAfter
  rw [if_neg (by rw [hc.not_blank]; exact Bool.false_ne_true)]
  split
  case h_5 => rfl
  all_goals
    obtain hdigit | h | h | h | h := hc <;> first | cases hdigit | cases h

/-- Inside a number it does not matter which containers are open. -/
theorem run_number (m : NumberSoFar) {cs : List Char} (hcs : ∀ c ∈ cs, IsNumeric c) :
    (∃ m', ∀ stack, (reading stack (.number m)).run cs = .reading stack (.number m')) ∨
      ∀ stack, (reading stack (.number m)).run cs = .failed := by
  induction cs generalizing m with
  | nil => exact .inl ⟨m, fun _ => rfl⟩
  | cons c cs ih =>
      obtain ⟨hc, hrest⟩ := List.forall_mem_cons.mp hcs
      cases hnext : m.next? c with
      | some m' =>
          have hfeed (stack : List Frame) : (reading stack (.number m)).feed c = .reading stack (.number m') := by
            rw [feed, hnext]
          simpa only [run_cons, hfeed] using ih m' hrest
      | none =>
          have hfeed (stack : List Frame) : (reading stack (.number m)).feed c = .failed := by
            rw [feed, hnext]
            dsimp only
            split
            · exact feedAfter_numeric stack _ hc
            · rfl
          exact .inr fun stack => by rw [run_cons, hfeed, run_failed]

theorem complete_of_finish {m : NumberSoFar} {n : Number}
    (h : (reading [] (.number m)).finish = .ok (.num n)) : m.isComplete = true ∧ m.value? = some n := by
  cases hcomplete : m.isComplete with
  | false => simp [finish, hcomplete] at h
  | true => cases hvalue : m.value? <;> simp_all [finish]

/-- A number that reads back on its own reads back in any place. -/
theorem reading_number {n : Number} (h : n.ReadsBack) (stack : List Frame) :
    ∃ r, Holds stack (.num n) r ∧ (reading stack .value).run n.text = r := by
  have hread : ((reading [] .value).run n.text).finish = .ok (.num n) := by
    rw [Number.ReadsBack, read_eq, String.toList_ofList] at h
    exact h
  have hnumeric : ∀ c ∈ n.text, IsNumeric c := fun c hc => n.isNumeric_text hc
  cases htext : n.text with
  | nil =>
      rw [htext] at hread
      cases hread
  | cons c cs =>
      rw [htext] at hread hnumeric
      obtain ⟨hc, hcs⟩ := List.forall_mem_cons.mp hnumeric
      -- What the number's characters do does not depend on the stack, so the run on its own tells of the run here.
      rw [run_cons, feed_numeric [] hc] at hread
      cases hstart : NumberSoFar.start? c with
      | none =>
          rw [hstart] at hread
          dsimp only at hread
          rw [run_failed] at hread
          cases hread
      | some m =>
          rw [hstart] at hread
          dsimp only at hread
          obtain ⟨m', hrun⟩ | hfailed := run_number m hcs
          · rw [hrun] at hread
            obtain ⟨hcomplete, hvalue⟩ := complete_of_finish hread
            refine ⟨_, holds_number stack hcomplete hvalue, ?_⟩
            rw [run_cons, feed_numeric stack hc, hstart]
            exact hrun stack
          · rw [hfailed] at hread
            cases hread

/-! ### Integers -/

/-- An integer behind its sign, as far as it was read. -/
def wholeSoFar (negative : Bool) (n : Nat) : NumberSoFar := { place := .whole, negative, significand := n }

theorem digitChar_isDigit {d : Nat} (hd : d < 10) : d.digitChar.isDigit = true := by
  rw [Nat.isDigit_digitChar, decide_eq_true hd]

theorem next?_whole (negative : Bool) (n : Nat) {d : Nat} (hd : d < 10) (hn : n * 10 + d ≤ NumberSoFar.maxSignificand) :
    (wholeSoFar negative n).next? d.digitChar = some (wholeSoFar negative (n * 10 + d)) := by
  have hlimit : ¬NumberSoFar.maxSignificand < n * 10 + d := Nat.not_lt.mpr hn
  simp [NumberSoFar.next?, wholeSoFar, digitChar_isDigit hd, NumberSoFar.addWhole,
    Nat.toNat_digitChar_sub_48_of_lt_ten hd, hlimit]

/-- The digits of a number are read one by one, if the first of them starts a number. -/
theorem run_natText {stack : List Frame} {r : Reader} {negative : Bool}
    (hfirst : ∀ d, 0 < d → d < 10 → r.feed d.digitChar = .reading stack (.number (wholeSoFar negative d))) :
    ∀ n, 0 < n → n ≤ NumberSoFar.maxSignificand →
      r.run (Decimal.natText n) = .reading stack (.number (wholeSoFar negative n)) := by
  intro n
  induction n using Nat.strongRecOn with
  | ind n ih =>
    intro hpos hlimit
    by_cases hsmall : n < 10
    · rw [Decimal.natText, Nat.toDigits_of_lt_base hsmall]
      exact hfirst n hpos hsmall
    · have hrun := ih (n / 10) (by omega) (by omega) (by omega)
      have hnext := next?_whole negative (n / 10) (show n % 10 < 10 by omega) (by omega)
      rw [Decimal.natText, Nat.toDigits_of_base_le (by decide) (by omega), run_append]
      rw [Decimal.natText] at hrun
      rw [hrun, run_cons, run_nil, feed, hnext]
      simp only [show n / 10 * 10 + n % 10 = n from by omega]

theorem start?_digitChar {d : Nat} (hpos : 0 < d) (hd : d < 10) :
    NumberSoFar.start? d.digitChar = some (wholeSoFar false d) := by
  have hminus : d.digitChar ≠ '-' := Nat.digitChar_ne '-' (by decide)
  simp [NumberSoFar.start?, wholeSoFar, hminus, Nat.ne_of_gt hpos, digitChar_isDigit hd,
    Nat.toNat_digitChar_sub_48_of_lt_ten hd]

/-- The reader behind a minus sign. -/
def minusSign : NumberSoFar := { place := .sign, negative := true }

theorem next?_minusSign {d : Nat} (hpos : 0 < d) (hd : d < 10) :
    minusSign.next? d.digitChar = some (wholeSoFar true d) := by
  have hlimit : ¬NumberSoFar.maxSignificand < d := by
    rw [NumberSoFar.maxSignificand]
    omega
  simp [NumberSoFar.next?, minusSign, wholeSoFar, Nat.ne_of_gt hpos, digitChar_isDigit hd, NumberSoFar.addWhole,
    Nat.toNat_digitChar_sub_48_of_lt_ten hd, hlimit]

theorem holds_whole (stack : List Frame) (negative : Bool) {n : Nat} (hpos : 0 < n)
    (hsize : Number.isWordSized (if negative then -(n : Int) else n) = true) :
    Holds stack (.num (.int (if negative then -(n : Int) else n)))
      (.reading stack (.number (wholeSoFar negative n))) := by
  refine holds_number stack rfl ?_
  have hnonzero : (n == 0) = false := by simp [Nat.ne_of_gt hpos]
  have hint : ((wholeSoFar negative n).isWhole && Number.isWordSized (if negative then -(n : Int) else n) &&
      !(negative && n == 0)) = true := by
    rw [hsize, hnonzero, Bool.and_false]
    rfl
  exact if_pos hint

theorem holds_zero (stack : List Frame) : Holds stack (.num (.int 0)) (.reading stack (.number { place := .zero })) :=
  holds_number stack rfl rfl

end Json.Reader

open Json.Reader in
/-- Integers of a word read back. -/
theorem Number.readsBack_int {n : Int} (h : Number.isWordSized n = true) : (Number.int n).ReadsBack := by
  have hbounds := h
  simp only [Number.isWordSized, Bool.and_eq_true, decide_eq_true_eq] at hbounds
  have hlimit : n.natAbs ≤ Json.NumberSoFar.maxSignificand := by
    rw [Json.NumberSoFar.maxSignificand]
    omega
  rw [ReadsBack, Json.read_eq, String.toList_ofList, Number.text, intText]
  by_cases hneg : n < 0
  · have hdigits : ∀ d, 0 < d → d < 10 → (Json.Reader.reading [] (.number minusSign)).feed d.digitChar =
        .reading [] (.number (wholeSoFar true d)) := fun d hpos hd => by rw [feed, next?_minusSign hpos hd]
    have habs : -(n.natAbs : Int) = n := by omega
    rw [if_pos hneg, run_cons]
    show ((Json.Reader.reading [] (.number minusSign)).run _).finish = _
    rw [run_natText hdigits n.natAbs (by omega) hlimit,
      (holds_whole [] true (by omega) (by rwa [if_pos rfl, habs])).finish rfl, if_pos rfl, habs]
  · rw [if_neg hneg]
    by_cases hzero : n = 0
    · subst hzero
      exact (holds_zero []).finish rfl
    · have hdigits : ∀ d, 0 < d → d < 10 → start.feed d.digitChar = .reading [] (.number (wholeSoFar false d)) := by
        intro d hpos hd
        rw [start, feed_numeric [] (.inl (digitChar_isDigit hd)), start?_digitChar hpos hd]
      have habs : (n.natAbs : Int) = n := by omega
      rw [run_natText hdigits n.natAbs (by omega) hlimit,
        (holds_whole [] false (by omega) (by simpa [habs] using h)).finish rfl]
      simp [habs]

namespace Json.Reader

/-! ### Texts -/

theorem unescape?_shortEscape {c letter : Char} (h : shortEscape? c = some letter) :
    letter ≠ 'u' ∧ unescape? letter = some c := by
  unfold shortEscape? at h
  split at h
  case h_8 => cases h
  all_goals
    obtain rfl := Option.some.inj h
    exact ⟨by decide, rfl⟩

theorem hexValue?_hexDigit : ∀ k < 16, hexValue? (hexDigit k) = some k := by
  decide

variable (stack : List Frame) (role : StringRole)

/-- The escape of a control character. -/
theorem run_hexEscape (soFar : List Char) {c : Char} (hc : c.toNat < 32) :
    (reading stack (.text role soFar)).run
      ['\\', 'u', '0', '0', hexDigit (c.toNat / 16), hexDigit (c.toNat % 16)] =
        .reading stack (.text role (c :: soFar)) := by
  have hhigh := hexValue?_hexDigit (c.toNat / 16) (by omega)
  have hlow := hexValue?_hexDigit (c.toNat % 16) (by omega)
  have hunit : c.toNat / 16 * 16 + c.toNat % 16 = c.toNat := Nat.div_add_mod' _ _
  show (Reader.reading stack (.hex role soFar none 2 0)).run [hexDigit (c.toNat / 16), hexDigit (c.toNat % 16)] = _
  rw [run_cons, feed, hhigh]
  show (Reader.reading stack (.hex role soFar none 3 (0 * 16 + c.toNat / 16))).feed _ = _
  rw [Nat.zero_mul, Nat.zero_add, feed, hlow]
  show closeHex stack role soFar none (c.toNat / 16 * 16 + c.toNat % 16) = _
  have hhighPart : ¬(0xD800 ≤ c.toNat && c.toNat < 0xDC00) = true := by simp; omega
  have hlowPart : ¬(0xDC00 ≤ c.toNat && c.toNat < 0xE000) = true := by simp; omega
  simp only [hunit, closeHex, if_neg hhighPart, if_neg hlowPart, Char.ofNat_toNat]

theorem run_escapeChar (soFar : List Char) (c : Char) :
    (reading stack (.text role soFar)).run (escapeChar c) = .reading stack (.text role (c :: soFar)) := by
  unfold escapeChar
  split
  · rename_i letter hshort
    obtain ⟨hu, hletter⟩ := unescape?_shortEscape hshort
    show (Reader.reading stack (.escape role soFar)).feed letter = _
    rw [feed, if_neg (by simpa using hu), hletter]
  · rename_i hshort
    split
    · rename_i hcontrol
      exact run_hexEscape stack role soFar hcontrol
    · rename_i hplain
      have hquote : c ≠ '"' := by
        rintro rfl
        cases hshort
      have hbackslash : c ≠ '\\' := by
        rintro rfl
        cases hshort
      rw [run_cons, run_nil, feed, if_neg (by simpa using hquote), if_neg (by simpa using hbackslash), if_neg hplain]

theorem run_escaped (soFar s : List Char) : (reading stack (.text role soFar)).run (s.flatMap escapeChar) =
    .reading stack (.text role (s.reverse ++ soFar)) := by
  induction s generalizing soFar with
  | nil => rfl
  | cons c s ih =>
      rw [List.flatMap_cons, run_append, run_escapeChar, ih]
      simp

theorem run_quoted (s : String) : (reading stack (.text role [])).run (s.toList.flatMap escapeChar ++ ['"']) =
    closeText stack role s.toList.reverse := by
  rw [run_append, run_escaped, List.append_nil]
  rfl

/-- A text that is a value. -/
theorem run_text (s : String) (rest : List Char) : (reading stack .value).run (quotedChars s.toList ++ rest) =
    (reading stack (.after (.str s))).run rest := by
  show (reading stack (.text .value [])).run (s.toList.flatMap escapeChar ++ ['"'] ++ rest) = _
  rw [run_append, run_quoted, closeText]
  simp

/-- A text that is a key. -/
theorem run_key {members : Members} {key : String} (s : String) (rest : List Char) (expecting : Expecting)
    (h : expecting = .key ∨ expecting = .firstKey) :
    (reading (.obj members key :: stack) expecting).run (quotedChars s.toList ++ ':' :: rest) =
      (reading (.obj members s :: stack) .value).run rest := by
  have hopen : (reading (.obj members key :: stack) expecting).run (quotedChars s.toList ++ ':' :: rest) =
      (reading (.obj members key :: stack) (.text .key [])).run
        (s.toList.flatMap escapeChar ++ ['"'] ++ ':' :: rest) := by
    obtain rfl | rfl := h <;> rfl
  rw [hopen, run_append, run_quoted, closeText]
  simp only [List.reverse_reverse, String.ofList_toList]
  rfl

end Json.Reader

end Colloquy
