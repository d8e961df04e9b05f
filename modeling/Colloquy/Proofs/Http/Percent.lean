import Mathlib.Data.List.Basic
import Mathlib.Data.List.Infix
import Colloquy.Proofs.Http.Base
import Colloquy.Proofs.Text.Lines

/-! Percent signs read back. A text decodes to its own bytes if no percent sign in it stands in front of two hexadecimal
digits, and else to fewer (`length_decodedBytes_lt`). Encoding characters that have no part in that changes nothing
(`decodedBytes_percentEncoded`), and a form is read back as it was written (`formPairs?_formText`). -/

namespace Colloquy.Http

/-- Three characters in the text stand for a byte. -/
def Escapes (s : List Char) : Prop := ∃ c a b, [c, a, b] <:+: s ∧ escapedByte? c a b ≠ none

variable {s : List Char} {c a b : Char}

/-! ### Bytes -/

theorem bytesOf_cons (c : Char) (s : List Char) : bytesOf (c :: s) = String.utf8EncodeChar c ++ bytesOf s :=
  List.flatMap_cons

theorem bytesOf_toList (text : String) : bytesOf text.toList = Text.utf8Bytes text := (Text.utf8Bytes_eq text).symm

theorem bytesOf_injective {s t : List Char} (h : bytesOf s = bytesOf t) : s = t := by
  have hread (s : List Char) : Text.utf8Text (bytesOf s) = .ok (String.ofList s) := by
    rw [← String.toList_ofList (l := s), bytesOf_toList, Text.utf8Text_utf8Bytes, String.toList_ofList]
  have hsame : String.ofList s = String.ofList t := by
    have hok := hread s
    rw [h, hread t] at hok
    exact (Except.ok.inj hok).symm
  rw [← String.toList_ofList (l := s), hsame, String.toList_ofList]

theorem length_utf8EncodeChar_pos (c : Char) : 0 < (String.utf8EncodeChar c).length := by
  rw [String.length_utf8EncodeChar]
  exact c.utf8Size_pos

/-! ### Decoding -/

theorem escapedByte?_eq_some_iff {byte : UInt8} : escapedByte? c a b = some byte ↔
    c = '%' ∧ ∃ high low, hexNibble? a = some high ∧ hexNibble? b = some low ∧
      UInt8.ofNat (16 * high + low) = byte := by
  by_cases hc : c = '%'
  · simp [escapedByte?, guard, hc, Option.bind_eq_some_iff]
  · simp [escapedByte?, guard, hc]

theorem escapedByte?_of_ne (hc : c ≠ '%') (a b : Char) : escapedByte? c a b = none := by
  rw [escapedByte?, guard, if_neg hc]
  rfl

theorem hex_of_escapedByte? (h : escapedByte? c a b ≠ none) : hexNibble? a ≠ none ∧ hexNibble? b ≠ none := by
  obtain ⟨byte, hbyte⟩ := Option.ne_none_iff_exists'.mp h
  obtain ⟨-, high, low, ha, hb, -⟩ := escapedByte?_eq_some_iff.mp hbyte
  rw [ha, hb]
  exact ⟨nofun, nofun⟩

theorem decodedBytes_escape {byte : UInt8} (h : escapedByte? c a b = some byte) (s : List Char) :
    decodedBytes (c :: a :: b :: s) = byte :: decodedBytes s := by
  rw [decodedBytes, h]

theorem decodedBytes_cons (h : ∀ a b, [a, b] <+: s → escapedByte? c a b = none) :
    decodedBytes (c :: s) = String.utf8EncodeChar c ++ decodedBytes s := by
  match s with
  | [] => rfl
  | [_] => rfl
  | a :: b :: rest => rw [decodedBytes, h a b ⟨rest, rfl⟩]

theorem decodedBytes_cons_of_ne (hc : c ≠ '%') (s : List Char) :
    decodedBytes (c :: s) = String.utf8EncodeChar c ++ decodedBytes s :=
  decodedBytes_cons fun a b _ => escapedByte?_of_ne hc a b

/-- Going over a text as it is decoded: three characters at once where they stand for a byte, and one elsewhere. -/
theorem decoding_induction {motive : List Char → Prop} (nil : motive [])
    (escape : ∀ c a b byte rest, escapedByte? c a b = some byte → motive rest → motive (c :: a :: b :: rest))
    (cons : ∀ c rest, (∀ a b, [a, b] <+: rest → escapedByte? c a b = none) → motive rest → motive (c :: rest))
    (s : List Char) : motive s := by
  have hshort {rest : List Char} (hrest : rest.length < 2) (c a b : Char) (h : [a, b] <+: rest) :
      escapedByte? c a b = none := absurd h.length_le (by simpa using hrest)
  induction s using decodedBytes.induct with
  | case1 c a b rest byte hbyte ih => exact escape c a b byte rest hbyte ih
  | case2 c a b rest hnone ih =>
      refine cons c _ (fun a' b' hfront => ?_) ih
      obtain ⟨ha, hrest⟩ := List.cons_prefix_cons.mp hfront
      obtain ⟨hb, -⟩ := List.cons_prefix_cons.mp hrest
      rwa [ha, hb]
  | case3 s hs =>
      match s with
      | [] => exact nil
      | [c] => exact cons c [] (hshort (by simp) c) nil
      | [c, d] => exact cons c [d] (hshort (by simp) c) (cons d [] (hshort (by simp) d) nil)
      | c :: a :: b :: rest => exact (hs c a b rest rfl).elim

theorem escapes_cons : Escapes (c :: s) ↔ (∃ a b, [a, b] <+: s ∧ escapedByte? c a b ≠ none) ∨ Escapes s := by
  simp only [Escapes, List.infix_cons_iff, List.cons_prefix_cons]
  constructor
  · rintro ⟨c', a, b, ⟨rfl, hfront⟩ | hpart, hbyte⟩
    · exact .inl ⟨a, b, hfront, hbyte⟩
    · exact .inr ⟨c', a, b, hpart, hbyte⟩
  · rintro (⟨a, b, hfront, hbyte⟩ | ⟨c', a, b, hpart, hbyte⟩)
    · exact ⟨c, a, b, .inl ⟨rfl, hfront⟩, hbyte⟩
    · exact ⟨c', a, b, .inr hpart, hbyte⟩

theorem decodedBytes_of_not_escapes (h : ¬Escapes s) : decodedBytes s = bytesOf s := by
  induction s with
  | nil => rfl
  | cons c s ih =>
      rw [escapes_cons, not_or] at h
      have hnone : ∀ a b, [a, b] <+: s → escapedByte? c a b = none := by
        intro a b hfront
        by_contra hbyte
        exact h.1 ⟨a, b, hfront, hbyte⟩
      rw [decodedBytes_cons hnone, ih h.2, bytesOf_cons]

theorem length_decodedBytes_le (s : List Char) : (decodedBytes s).length ≤ (bytesOf s).length := by
  induction s using decoding_induction with
  | nil => exact Nat.le_refl 0
  | escape c a b byte rest hbyte ih =>
      rw [decodedBytes_escape hbyte, bytesOf_cons, bytesOf_cons, bytesOf_cons]
      have hc := length_utf8EncodeChar_pos c
      simp only [List.length_cons, List.length_append]
      omega
  | cons c rest hnone ih =>
      rw [decodedBytes_cons hnone, bytesOf_cons, List.length_append, List.length_append]
      omega

theorem length_decodedBytes_lt (h : Escapes s) : (decodedBytes s).length < (bytesOf s).length := by
  induction s using decoding_induction with
  | nil =>
      obtain ⟨c, a, b, hpart, -⟩ := h
      exact absurd hpart.length_le (by simp)
  | escape c a b byte rest hbyte ih =>
      rw [decodedBytes_escape hbyte, bytesOf_cons, bytesOf_cons, bytesOf_cons]
      have hc := length_utf8EncodeChar_pos c
      have ha := length_utf8EncodeChar_pos a
      have hrest := length_decodedBytes_le rest
      simp only [List.length_cons, List.length_append]
      omega
  | cons c rest hnone ih =>
      have hmore : Escapes rest := by
        refine (escapes_cons.mp h).resolve_left ?_
        rintro ⟨a, b, hfront, hbyte⟩
        exact hbyte (hnone a b hfront)
      rw [decodedBytes_cons hnone, bytesOf_cons, List.length_append, List.length_append]
      exact Nat.add_lt_add_left (ih hmore) _

/-- Two hexadecimal digits at the front of a text come before anything else in it. -/
theorem digits_before {x y : List Char} (ha : hexNibble? a ≠ none) (hb : hexNibble? b ≠ none) (hc : hexNibble? c = none)
    (h : [a, b] <+: x ++ c :: y) : [a, b] <+: x := by
  match x with
  | [] =>
      obtain ⟨hsame, -⟩ := List.cons_prefix_cons.mp h
      exact absurd (hsame ▸ hc) ha
  | [_] =>
      obtain ⟨-, hrest⟩ := List.cons_prefix_cons.mp h
      obtain ⟨hsame, -⟩ := List.cons_prefix_cons.mp hrest
      exact absurd (hsame ▸ hc) hb
  | a' :: b' :: more =>
      obtain ⟨rfl, hrest⟩ := List.cons_prefix_cons.mp h
      obtain ⟨hsame, -⟩ := List.cons_prefix_cons.mp hrest
      exact ⟨more, by rw [hsame]; rfl⟩

/-- No byte is written with characters on both sides of one that has no part in that. -/
theorem decodedBytes_append_cons (hc : hexNibble? c = none) (x y : List Char) :
    decodedBytes (x ++ c :: y) = decodedBytes x ++ decodedBytes (c :: y) := by
  induction x using decoding_induction with
  | nil => rfl
  | escape d a b byte rest hbyte ih =>
      rw [List.cons_append, List.cons_append, List.cons_append, decodedBytes_escape hbyte, decodedBytes_escape hbyte,
        ih, List.cons_append]
  | cons d rest hnone ih =>
      have hnone' : ∀ a b, [a, b] <+: rest ++ c :: y → escapedByte? d a b = none := by
        intro a b hfront
        by_contra hbyte
        obtain ⟨ha, hb⟩ := hex_of_escapedByte? hbyte
        exact hbyte (hnone a b (digits_before ha hb hc hfront))
      rw [List.cons_append, decodedBytes_cons hnone', ih, decodedBytes_cons hnone, List.append_assoc]

/-! ### Encoded characters -/

theorem hexNibble?_upperHexDigit : ∀ k < 16, hexNibble? (upperHexDigit k) = some k := by
  decide

theorem decodedBytes_percentByte (byte : UInt8) (s : List Char) :
    decodedBytes (percentByte byte ++ s) = byte :: decodedBytes s := by
  have hbyte : byte.toNat < 256 := byte.toNat_lt
  have hescape : escapedByte? '%' (upperHexDigit (byte.toNat / 16)) (upperHexDigit (byte.toNat % 16)) = some byte := by
    refine escapedByte?_eq_some_iff.mpr ⟨rfl, _, _, hexNibble?_upperHexDigit _ (by omega),
      hexNibble?_upperHexDigit _ (by omega), ?_⟩
    rw [Nat.div_add_mod, UInt8.ofNat_toNat]
  exact decodedBytes_escape hescape s

theorem decodedBytes_percentChar (c : Char) (s : List Char) :
    decodedBytes (percentChar c ++ s) = String.utf8EncodeChar c ++ decodedBytes s := by
  rw [percentChar]
  generalize String.utf8EncodeChar c = bytes
  induction bytes with
  | nil => rfl
  | cons byte bytes ih => rw [List.flatMap_cons, List.append_assoc, decodedBytes_percentByte, ih, List.cons_append]

section Encoded

variable {mustEscape : Char → Bool}
  (hplain : ∀ c, mustEscape c = true → c ≠ '%' ∧ hexNibble? c = none)

theorem percentEncoded_cons (mustEscape : Char → Bool) (c : Char) (s : List Char) : percentEncoded mustEscape (c :: s) =
    (if mustEscape c then percentChar c else [c]) ++ percentEncoded mustEscape s :=
  List.flatMap_cons

theorem percentChar_head (c : Char) : ∃ rest, percentChar c = '%' :: rest := by
  obtain ⟨byte, bytes, hbytes⟩ := List.exists_cons_of_length_pos (length_utf8EncodeChar_pos c)
  rw [percentChar, hbytes]
  exact ⟨_, rfl⟩

/-- A hexadecimal digit at the front was there before. -/
theorem of_cons_prefix_percentEncoded {t : List Char} (ha : hexNibble? a ≠ none)
    (h : a :: t <+: percentEncoded mustEscape s) : ∃ rest, s = a :: rest ∧ t <+: percentEncoded mustEscape rest := by
  cases s with
  | nil => exact absurd h.length_le (by simp [percentEncoded])
  | cons c s =>
      rw [percentEncoded_cons] at h
      split at h
      · obtain ⟨more, hmore⟩ := percentChar_head c
        rw [hmore, List.cons_append] at h
        obtain ⟨rfl, -⟩ := List.cons_prefix_cons.mp h
        exact absurd rfl ha
      · obtain ⟨rfl, ht⟩ := List.cons_prefix_cons.mp h
        exact ⟨s, rfl, ht⟩

include hplain in
theorem decodedBytes_percentEncoded (s : List Char) : decodedBytes (percentEncoded mustEscape s) = decodedBytes s := by
  have hkept (c : Char) (hc : hexNibble? c ≠ none ∨ c = '%') : mustEscape c = false := by
    by_contra hescape
    obtain ⟨hne, hnone⟩ := hplain c (by simpa using hescape)
    exact hc.elim (fun hhex => hhex hnone) hne
  induction s using decoding_induction with
  | nil => rfl
  | escape c a b byte rest hbyte ih =>
      obtain ⟨ha, hb⟩ := hex_of_escapedByte? (by rw [hbyte]; exact nofun)
      obtain ⟨hc, -⟩ := escapedByte?_eq_some_iff.mp hbyte
      have hsame : percentEncoded mustEscape (c :: a :: b :: rest) = c :: a :: b :: percentEncoded mustEscape rest := by
        simp [percentEncoded_cons, hkept c (.inr hc), hkept a (.inl ha), hkept b (.inl hb)]
      rw [hsame, decodedBytes_escape hbyte, decodedBytes_escape hbyte, ih]
  | cons c rest hnone ih =>
      rw [percentEncoded_cons, decodedBytes_cons hnone]
      split
      · rw [decodedBytes_percentChar, ih]
      · have hnone' : ∀ a b, [a, b] <+: percentEncoded mustEscape rest → escapedByte? c a b = none := by
          intro a b hfront
          by_contra hbyte
          obtain ⟨ha, hb⟩ := hex_of_escapedByte? hbyte
          obtain ⟨rest', rfl, hfront'⟩ := of_cons_prefix_percentEncoded ha hfront
          obtain ⟨more, rfl, -⟩ := of_cons_prefix_percentEncoded hb hfront'
          exact hbyte (hnone a b ⟨more, rfl⟩)
        rw [List.singleton_append, decodedBytes_cons hnone', ih]

end Encoded

/-! ### Forms -/

/-- A plus sign in a form is a space. -/
def unplus (c : Char) : Char := if c = '+' then ' ' else c

/-- A name or value in a form, read back. -/
def formPart? (s : List Char) : Option String := (Text.utf8Text (decodedBytes (s.map unplus))).toOption

def formPair? (piece : List Char) : Option (String × String) := do
  let (name, value) := cutAt (· == '=') piece
  some (← formPart? name, ← formPart? (value.drop 1))

/-- The pairs that a text stands for as a form. -/
def formPairs? (s : List Char) : Option (List (String × String)) :=
  ((s.splitOn '&').filter (!·.isEmpty)).mapM formPair?

theorem formEncoded_cons (c : Char) (s : List Char) : formEncoded (c :: s) =
    (if c = ' ' then ['+'] else if isPlainInForm c then [c] else percentChar c) ++ formEncoded s :=
  List.flatMap_cons

theorem isPlainInForm_percentChar (c : Char) : ∀ d ∈ percentChar c, d = '%' ∨ isPlainInForm d = true := by
  have hdigit : ∀ k < 16, isPlainInForm (upperHexDigit k) = true := by decide
  intro d hd
  obtain ⟨byte, -, hbyte⟩ := List.mem_flatMap.mp hd
  have hlt : byte.toNat < 256 := byte.toNat_lt
  simp only [percentByte, List.mem_cons, List.not_mem_nil, or_false] at hbyte
  obtain rfl | rfl | rfl := hbyte
  · exact .inl rfl
  · exact .inr (hdigit _ (by omega))
  · exact .inr (hdigit _ (by omega))

theorem not_mem_formEncoded {d : Char} (hd : isPlainInForm d = false) (hplus : d ≠ '+') (hpercent : d ≠ '%')
    (s : List Char) : d ∉ formEncoded s := by
  intro hmem
  obtain ⟨c, -, hc⟩ := List.mem_flatMap.mp hmem
  split at hc
  · exact hplus (List.mem_singleton.mp hc)
  · split at hc
    · next hplain =>
        rw [← List.mem_singleton.mp hc, hd] at hplain
        cases hplain
    · obtain h | h := isPlainInForm_percentChar c d hc
      · exact hpercent h
      · rw [hd] at h
        cases h

theorem unplus_of_ne (hc : c ≠ '+') : unplus c = c := if_neg hc

theorem decodedBytes_formEncoded (s : List Char) : decodedBytes ((formEncoded s).map unplus) = bytesOf s := by
  have hplain {c : Char} (hc : isPlainInForm c = true) : unplus c = c ∧ c ≠ '%' := by
    refine ⟨unplus_of_ne ?_, ?_⟩ <;>
      · rintro rfl
        cases hc
  induction s with
  | nil => rfl
  | cons c s ih =>
      rw [formEncoded_cons, bytesOf_cons, List.map_append]
      split
      · next hspace =>
          rw [hspace]
          exact (decodedBytes_cons_of_ne (by decide) _).trans (congrArg _ ih)
      · split
        · next hc =>
            obtain ⟨hsame, hpercent⟩ := hplain hc
            rw [List.map_singleton, hsame, List.singleton_append, decodedBytes_cons_of_ne hpercent, ih]
        · have hsame : (percentChar c).map unplus = percentChar c := by
            refine (List.map_congr_left fun d hd => ?_).trans (List.map_id _)
            obtain rfl | hd := isPlainInForm_percentChar c d hd
            · rfl
            · exact (hplain hd).1
          rw [hsame, decodedBytes_percentChar, ih]

theorem formPart?_formEncoded (text : String) : formPart? (formEncoded text.toList) = some text := by
  rw [formPart?, decodedBytes_formEncoded, bytesOf_toList, Text.utf8Text_utf8Bytes]
  rfl

/-- A pair as it stands in a form. -/
def formPiece (p : String × String) : List Char := formEncoded p.1.toList ++ '=' :: formEncoded p.2.toList

theorem formPair?_formPiece (p : String × String) : formPair? (formPiece p) = some p := by
  have hname : ∀ d ∈ formEncoded p.1.toList, (d == '=') = false := fun d hd =>
    beq_eq_false_iff_ne.mpr (ne_of_mem_of_not_mem hd (not_mem_formEncoded rfl (by decide) (by decide) _))
  have hcut : cutAt (· == '=') (formPiece p) = (formEncoded p.1.toList, '=' :: formEncoded p.2.toList) :=
    cutAt_append_cons hname rfl _
  rw [formPair?, hcut]
  simp [formPart?_formEncoded]

theorem ampersand_not_mem_formPiece (p : String × String) : '&' ∉ formPiece p := by
  have hpart (text : String) : '&' ∉ formEncoded text.toList := not_mem_formEncoded rfl (by decide) (by decide) _
  simp [formPiece, hpart]

/-- A form is read back as it was written. -/
theorem formPairs?_formText (pairs : List (String × String)) : formPairs? (formText pairs) = some pairs := by
  have htext : formText pairs = ['&'].intercalate (pairs.map formPiece) := rfl
  have hpieces : ((formText pairs).splitOn '&').filter (!·.isEmpty) = pairs.map formPiece := by
    by_cases hnil : pairs = []
    · subst hnil
      rfl
    · rw [htext, List.splitOn_intercalate, List.filter_eq_self]
      · intro piece hpiece
        obtain ⟨p, -, rfl⟩ := List.mem_map.mp hpiece
        simp [formPiece]
      · intro piece hpiece
        obtain ⟨p, -, rfl⟩ := List.mem_map.mp hpiece
        exact ampersand_not_mem_formPiece p
      · simpa using hnil
  have hsame : formPair? ∘ formPiece = fun p => pure p := funext formPair?_formPiece
  rw [formPairs?, hpieces, List.mapM_map, hsame, List.mapM_pure, List.map_id']
  rfl

end Colloquy.Http
