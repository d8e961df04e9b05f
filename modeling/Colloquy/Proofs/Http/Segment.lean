import Mathlib.Data.List.Flatten
import Colloquy.Proofs.Http.Percent

/-! One more segment of a path. A text that is put behind a folder names an entry of the folder exactly if nothing in it
has a meaning of its own in an address (`names_below_iff`). -/

namespace Colloquy.Http

/-- The address is an entry of the folder, and its name decodes to the text. -/
def Url.Names (folder url : Url) (text : String) : Prop :=
  ∃ segment, url = { folder with path := folder.path ++ [segment] } ∧
    decodedBytes segment.toList = Text.utf8Bytes text

/-- Nothing in the text ends a segment, is dropped in an address or stands for something else there. -/
structure Segmental (s : List Char) : Prop where
  plain : ∀ c ∈ s, isSlash c = false ∧ isMark c = false ∧ isLineMark c = false
  ends : ∀ c ∈ s.getLast?, isEdge c = false
  unescaped : ¬Escapes s
  still : s ≠ ['.'] ∧ s ≠ ['.', '.']

/-- What is put behind the slash of a folder. -/
def Url.below (folder : Url) (t : List Char) : Url :=
  let (path, rest) := cutAt isMark t
  let (query, fragment) := cutAt (· == '#') rest
  { folder with
    path := (walk (folder.path.reverse.map String.toList) (cutAtSlashes (percentEncoded inPath path))).map String.ofList
    query := behindMark query inQuery
    fragment := behindMark fragment inFragment }

/-- The last segment of a path, which dots leave empty. -/
theorem getLast?_walk (above front : List (List Char)) (last : List Char) :
    (walk above (front ++ [last])).getLast? = some (if dots? last = none then last else []) := by
  rw [walk_append above front (List.cons_ne_nil _ _), walk]
  split
  · next h => simp [h]
  · next h => simp [h]
  · next h => simp [h]

/-! ### Dots -/

theorem toNat_toLower (c : Char) :
    c.toLower.toNat = c.toNat ∨ c.toLower.toNat = c.toNat + 32 ∧ 65 ≤ c.toNat ∧ c.toNat ≤ 90 := by
  unfold Char.toLower
  split
  · next hupper =>
      have hlow : 65 ≤ c.toNat := hupper.1
      have hhigh : c.toNat ≤ 90 := hupper.2
      refine .inr ⟨?_, hlow, hhigh⟩
      change (c.val + ('a'.val - 'A'.val)).toNat = c.toNat + 32
      have hsum : c.toNat + 32 < 2 ^ 32 := by omega
      rw [UInt32.toNat_add]
      exact Nat.mod_eq_of_lt hsum
  · exact .inl rfl

/-- Only letters are changed to letters. -/
theorem toLower_eq_of_lt {c d : Char} (h : c.toLower = d) (hd : d.toNat < 97) : c = d := by
  obtain hsame | ⟨hmore, hlow, -⟩ := toNat_toLower c
  · rw [h] at hsame
    exact Char.toNat_inj.mp hsame.symm
  · rw [h] at hmore
    omega

theorem hexNibble?_of_toLower_eq {c : Char} (h : c.toLower = 'e') : hexNibble? c = some 14 := by
  have hletter : c = 'e' ∨ c = 'E' := by
    obtain hsame | ⟨hmore, -, -⟩ := toNat_toLower c
    · rw [h] at hsame
      exact .inl (Char.toNat_inj.mp hsame.symm)
    · rw [h] at hmore
      exact .inr (Char.toNat_inj.mp (Nat.add_right_cancel hmore.symm))
  obtain rfl | rfl := hletter <;> rfl

theorem decodedBytes_dot {c : Char} (hc : c.toLower = '.') (s : List Char) :
    decodedBytes (c :: s) = 46 :: decodedBytes s := by
  rw [toLower_eq_of_lt hc (by decide)]
  exact decodedBytes_cons_of_ne (by decide) s

theorem decodedBytes_encodedDot {c d e : Char} (hc : c.toLower = '%') (hd : d.toLower = '2') (he : e.toLower = 'e')
    (s : List Char) : decodedBytes (c :: d :: e :: s) = 46 :: decodedBytes s := by
  refine decodedBytes_escape (escapedByte?_eq_some_iff.mpr ⟨toLower_eq_of_lt hc (by decide), 2, 14, ?_,
    hexNibble?_of_toLower_eq he, rfl⟩) s
  rw [toLower_eq_of_lt hd (by decide)]
  rfl

/-- Dots that lead elsewhere decode to dots. -/
theorem decodedBytes_of_dots {s : List Char} {n : Nat} (h : dots? s = some n) :
    decodedBytes s = [46] ∨ decodedBytes s = [46, 46] := by
  unfold dots? at h
  split at h <;> rename_i hs <;> simp only [List.map_eq_cons_iff, List.map_eq_nil_iff] at hs
  · obtain ⟨c, s, rfl, hc, rfl⟩ := hs
    exact .inl (decodedBytes_dot hc [])
  · obtain ⟨c, s, rfl, hc, d, s, rfl, hd, e, s, rfl, he, rfl⟩ := hs
    exact .inl (decodedBytes_encodedDot hc hd he [])
  · obtain ⟨c, s, rfl, hc, d, s, rfl, hd, rfl⟩ := hs
    exact .inr ((decodedBytes_dot hc _).trans (congrArg _ (decodedBytes_dot hd [])))
  · obtain ⟨c, s, rfl, hc, d, s, rfl, hd, e, s, rfl, he, f, s, rfl, hf, rfl⟩ := hs
    exact .inr ((decodedBytes_dot hc _).trans (congrArg _ (decodedBytes_encodedDot hd he hf [])))
  · obtain ⟨c, s, rfl, hc, d, s, rfl, hd, e, s, rfl, he, f, s, rfl, hf, rfl⟩ := hs
    exact .inr ((decodedBytes_encodedDot hc hd he _).trans (congrArg _ (decodedBytes_dot hf [])))
  · obtain ⟨c, s, rfl, hc, d, s, rfl, hd, e, s, rfl, he, hs⟩ := hs
    obtain ⟨f, s, rfl, hf, g, s, rfl, hg, i, s, rfl, hi, rfl⟩ := hs
    exact .inr ((decodedBytes_encodedDot hc hd he _).trans (congrArg _ (decodedBytes_encodedDot hf hg hi [])))
  · cases h

theorem dots?_eq_none {s : List Char} (hstill : s ≠ ['.'] ∧ s ≠ ['.', '.']) {e : List Char}
    (he : decodedBytes e = bytesOf s) : dots? e = none := by
  rw [Option.eq_none_iff_forall_ne_some]
  intro n hn
  obtain hdot | hdots := decodedBytes_of_dots hn
  · exact hstill.1 (bytesOf_injective (he.symm.trans hdot))
  · exact hstill.2 (bytesOf_injective (he.symm.trans hdots))

/-! ### What is left of a text -/

theorem settled_sublist (s : List Char) : (settled s).Sublist s :=
  List.filter_sublist.trans (List.rdropWhile_prefix isEdge s).sublist

theorem settled_eq_self_iff {s : List Char} :
    settled s = s ↔ (∀ c ∈ s.getLast?, isEdge c = false) ∧ ∀ c ∈ s, isLineMark c = false := by
  have hends : (∀ c ∈ s.getLast?, isEdge c = false) ↔ s.rdropWhile isEdge = s := by
    rw [List.rdropWhile_eq_self_iff]
    constructor
    · intro hlast hne
      simp [hlast _ (List.getLast?_eq_some_getLast hne)]
    · rintro hlast c hc
      obtain ⟨hne, rfl⟩ := List.mem_getLast?_eq_getLast hc
      simpa using hlast hne
  rw [hends]
  constructor
  · intro hsettled
    have hfilter : (settled s).Sublist (s.rdropWhile isEdge) := List.filter_sublist
    rw [hsettled] at hfilter
    have hkept : s.rdropWhile isEdge = s := (List.rdropWhile_prefix isEdge s).sublist.antisymm hfilter
    rw [settled, hkept, List.filter_eq_self] at hsettled
    exact ⟨hkept, fun c hc => by simpa using hsettled c hc⟩
  · rintro ⟨hkept, hmarks⟩
    rw [settled, hkept, List.filter_eq_self]
    exact fun c hc => by simp [hmarks c hc]

theorem eq_of_length_bytesOf {s t : List Char} (hsub : t.Sublist s)
    (hlength : (bytesOf s).length ≤ (bytesOf t).length) : t = s := by
  have hbytes : (bytesOf t).Sublist (bytesOf s) := hsub.flatMap _
  exact bytesOf_injective (hbytes.eq_of_length_le hlength)

/-- The last piece of a text is all of it, or comes behind a slash. -/
theorem exists_last_piece (s : List Char) : (∀ c ∈ s, isSlash c = false) ∨
    ∃ front c last, s = front ++ c :: last ∧ isSlash c = true ∧ ∀ d ∈ last, isSlash d = false := by
  induction s with
  | nil => exact .inl (List.forall_mem_nil _)
  | cons c s ih =>
      obtain hs | ⟨front, d, last, rfl, hd, hlast⟩ := ih
      · cases hc : isSlash c with
        | false => exact .inl (List.forall_mem_cons.mpr ⟨hc, hs⟩)
        | true => exact .inr ⟨[], c, s, rfl, hc, hs⟩
      · exact .inr ⟨c :: front, d, last, rfl, hd, hlast⟩

/-! ### Encoding -/

theorem toNat_of_hexNibble? {c : Char} (hc : hexNibble? c ≠ none) :
    48 ≤ c.toNat ∧ c.toNat ≤ 57 ∨ 65 ≤ c.toNat ∧ c.toNat ≤ 70 ∨ 97 ≤ c.toNat ∧ c.toNat ≤ 102 := by
  unfold hexNibble? at hc
  split at hc
  · next h => exact .inl (by simpa [Char.le_def, UInt32.le_iff_toNat_le] using h)
  · split at hc
    · next h => exact .inr (.inr (by simpa [Char.le_def, UInt32.le_iff_toNat_le] using h))
    · split at hc
      · next h => exact .inr (.inl (by simpa [Char.le_def, UInt32.le_iff_toNat_le] using h))
      · exact absurd rfl hc

/-- Percent signs and hexadecimal digits stand for themselves in a path. -/
theorem inPath_plain (c : Char) (hc : inPath c = true) : c ≠ '%' ∧ hexNibble? c = none := by
  refine ⟨?_, ?_⟩
  · rintro rfl
    cases hc
  · by_contra hhex
    have hrange := toNat_of_hexNibble? hhex
    have hcontrol : isControl c = false := by
      simp only [isControl, Bool.or_eq_false_iff, decide_eq_false_iff_not]
      omega
    simp only [inPath, hcontrol, Bool.false_or, List.contains_iff_mem, List.mem_cons, List.not_mem_nil, or_false] at hc
    obtain rfl | rfl | rfl | rfl | rfl | rfl | rfl | rfl | rfl := hc <;> exact hhex rfl

theorem slash_plain {c : Char} (hc : isSlash c = true) : c ≠ '%' ∧ hexNibble? c = none := by
  rw [isSlash, Bool.or_eq_true, beq_iff_eq, beq_iff_eq] at hc
  obtain rfl | rfl := hc <;> exact ⟨by decide, rfl⟩

/-- What comes behind a slash stands for fewer bytes than the whole. -/
theorem length_decodedBytes_last_lt {c : Char} (hc : isSlash c = true) (front last : List Char) :
    (decodedBytes last).length < (decodedBytes (front ++ c :: last)).length := by
  obtain ⟨hne, hhex⟩ := slash_plain hc
  have hpos := length_utf8EncodeChar_pos c
  rw [decodedBytes_append_cons hhex, decodedBytes_cons_of_ne hne, List.length_append, List.length_append]
  omega

theorem length_decodedBytes_settled_le (s : List Char) :
    (decodedBytes (percentEncoded inPath (settled s))).length ≤ (bytesOf s).length := by
  rw [decodedBytes_percentEncoded inPath_plain]
  exact (length_decodedBytes_le _).trans ((settled_sublist s).flatMap _).length_le

theorem isSlash_percentEncoded {s : List Char} (hs : ∀ c ∈ s, isSlash c = false) :
    ∀ c ∈ percentEncoded inPath s, isSlash c = false := by
  intro d hd
  obtain ⟨c, hc, hmem⟩ := List.mem_flatMap.mp hd
  split at hmem
  · obtain rfl | hplain := isPlainInForm_percentChar c d hmem
    · rfl
    · by_contra hslash
      rw [Bool.not_eq_false, isSlash, Bool.or_eq_true, beq_iff_eq, beq_iff_eq] at hslash
      obtain rfl | rfl := hslash <;> cases hplain
  · rw [List.mem_singleton.mp hmem]
    exact hs c hc

theorem isSlash_of_percentEncoded {s : List Char} (hs : ∀ c ∈ percentEncoded inPath s, isSlash c = false) :
    ∀ c ∈ s, isSlash c = false := by
  intro c hc
  by_contra hslash
  have hkept : inPath c = false := by
    rw [Bool.not_eq_false, isSlash, Bool.or_eq_true, beq_iff_eq, beq_iff_eq] at hslash
    obtain rfl | rfl := hslash <;> rfl
  exact hslash (hs c (List.mem_flatMap.mpr ⟨c, hc, by simp [hkept]⟩))

/-! ### Entries of a folder -/

variable {folder : Url} (hquery : folder.query = none) (hfragment : folder.fragment = none) {text : String}

theorem Url.below_plain {t : List Char} (ht : ∀ c ∈ t, isMark c = false) : folder.below t =
    { folder with
      path := (walk (folder.path.reverse.map String.toList) (cutAtSlashes (percentEncoded inPath t))).map String.ofList
      query := none
      fragment := none } := by
  rw [Url.below, cutAt_eq_self ht]
  rfl

/-- The name of an entry is the last piece of what was put behind the folder, unless that is dots. -/
theorem name_below {t last : List Char} {front : List (List Char)} {segment : String}
    (ht : ∀ c ∈ t, isMark c = false) (hcut : cutAtSlashes (percentEncoded inPath t) = front ++ [last])
    (hpath : (folder.below t).path = folder.path ++ [segment]) :
    segment.toList = if dots? last = none then last else [] := by
  have hlast := congrArg List.getLast? hpath
  rw [Url.below_plain ht, hcut] at hlast
  simp only [List.getLast?_map, getLast?_walk, Option.map_some, List.getLast?_concat] at hlast
  rw [← Option.some.inj hlast, String.toList_ofList]

theorem segmental_nil : Segmental [] where
  plain := nofun
  ends := nofun
  unescaped := by
    rintro ⟨c, a, b, hpart, -⟩
    exact absurd hpart.length_le (by simp)
  still := ⟨nofun, nofun⟩

/-- What stands for itself in a form does so in a path. -/
theorem segmental_of_plain {s : List Char} (hs : s.all isPlainInForm = true) (hstill : s ≠ ['.'] ∧ s ≠ ['.', '.']) :
    Segmental s where
  plain c hc := by
    have hother {d : Char} (hd : isPlainInForm d = false) : (c == d) = false := by
      rw [beq_eq_false_iff_ne]
      rintro rfl
      cases (List.all_eq_true.mp hs c hc).symm.trans hd
    simp [isSlash, isMark, isLineMark, hother (d := '/') rfl, hother (d := '\\') rfl, hother (d := '?') rfl,
      hother (d := '#') rfl, hother (d := '\t') rfl, hother (d := '\n') rfl, hother (d := '\r') rfl]
  ends c hc := by
    have hblank : ∀ n < 33, isPlainInForm (Char.ofNat n) = false := by decide
    by_contra hedge
    rw [Bool.not_eq_false, isEdge, decide_eq_true_eq] at hedge
    have hfalse := hblank c.toNat (Nat.lt_succ_of_le hedge)
    rw [Char.ofNat_toNat, List.all_eq_true.mp hs c (List.mem_of_getLast? hc)] at hfalse
    cases hfalse
  unescaped := by
    rintro ⟨c, a, b, hpart, hbyte⟩
    obtain ⟨byte, hbyte⟩ := Option.ne_none_iff_exists'.mp hbyte
    obtain ⟨rfl, -⟩ := escapedByte?_eq_some_iff.mp hbyte
    cases List.all_eq_true.mp hs '%' (hpart.subset List.mem_cons_self)
  still := hstill

include hquery hfragment

theorem Segmental.names_below (h : Segmental text.toList) : folder.Names (folder.below (settled text.toList)) text := by
  have hsettled : settled text.toList = text.toList :=
    settled_eq_self_iff.mpr ⟨h.ends, fun c hc => (h.plain c hc).2.2⟩
  have hdecoded : decodedBytes (percentEncoded inPath text.toList) = bytesOf text.toList := by
    rw [decodedBytes_percentEncoded inPath_plain, decodedBytes_of_not_escapes h.unescaped]
  have hcut : cutAtSlashes (percentEncoded inPath text.toList) = [percentEncoded inPath text.toList] :=
    cutAtSlashes_eq_singleton (isSlash_percentEncoded fun c hc => (h.plain c hc).1)
  refine ⟨String.ofList (percentEncoded inPath text.toList), ?_, ?_⟩
  · rw [hsettled, Url.below_plain fun c hc => (h.plain c hc).2.1, hcut, walk, dots?_eq_none h.still hdecoded, hquery,
      hfragment]
    simp
  · rw [String.toList_ofList, hdecoded, bytesOf_toList]

theorem segmental_of_names_below (h : folder.Names (folder.below (settled text.toList)) text) :
    Segmental text.toList := by
  obtain ⟨segment, hurl, hdecoded⟩ := h
  rw [← bytesOf_toList] at hdecoded
  have hmarks : ∀ c ∈ settled text.toList, isMark c = false :=
    isMark_of_behindMark_eq_none ((congrArg Url.query hurl).trans hquery) ((congrArg Url.fragment hurl).trans hfragment)
  have hshort := length_decodedBytes_settled_le text.toList
  have hcases {front : List (List Char)} {last : List Char}
      (hcut : cutAtSlashes (percentEncoded inPath (settled text.toList)) = front ++ [last]) :
      text.toList = [] ∨ dots? last = none ∧ decodedBytes last = bytesOf text.toList := by
    rw [name_below hmarks hcut (congrArg Url.path hurl)] at hdecoded
    by_cases hdots : dots? last = none
    · rw [if_pos hdots] at hdecoded
      exact .inr ⟨hdots, hdecoded⟩
    · rw [if_neg hdots] at hdecoded
      exact .inl (bytesOf_injective hdecoded.symm)
  obtain hslash | ⟨front, c, last, hsplit, hc, hlast⟩ :=
    exists_last_piece (percentEncoded inPath (settled text.toList))
  · have hcut : cutAtSlashes (percentEncoded inPath (settled text.toList)) = [] ++ [_] :=
      cutAtSlashes_eq_singleton hslash
    obtain hnil | ⟨hdots, hall⟩ := hcases hcut
    · exact hnil ▸ segmental_nil
    · -- Nothing is dropped and nothing is decoded, since the name has as many bytes as the text.
      rw [decodedBytes_percentEncoded inPath_plain] at hall
      have hsettled : settled text.toList = text.toList :=
        eq_of_length_bytesOf (settled_sublist _) (hall ▸ length_decodedBytes_le _)
      rw [hsettled] at hall hmarks hslash hdots
      have hkept := settled_eq_self_iff.mp hsettled
      refine ⟨fun c hc => ⟨isSlash_of_percentEncoded hslash c hc, hmarks c hc, hkept.2 c hc⟩, hkept.1, ?_, ?_, ?_⟩
      · exact fun hescapes => (length_decodedBytes_lt hescapes).ne (congrArg List.length hall)
      · intro hdot
        rw [hdot] at hdots
        cases hdots
      · intro hdot
        rw [hdot] at hdots
        cases hdots
  · have hcut : cutAtSlashes (percentEncoded inPath (settled text.toList)) = cutAtSlashes front ++ [last] := by
      rw [hsplit, cutAtSlashes_append hc, cutAtSlashes_eq_singleton hlast]
    obtain hnil | ⟨-, hall⟩ := hcases hcut
    · exact hnil ▸ segmental_nil
    · -- What comes before the last slash is no part of the name, so that the name is too short.
      have hlt := length_decodedBytes_last_lt hc front last
      rw [← hsplit, hall] at hlt
      omega

/-- What is put behind a folder is the name of an entry exactly if it is a segment, as it stands. -/
theorem names_below_iff : folder.Names (folder.below (settled text.toList)) text ↔ Segmental text.toList :=
  ⟨segmental_of_names_below hquery hfragment, Segmental.names_below hquery hfragment⟩

omit hquery hfragment

theorem cutAt_append {stops : Char → Bool} {z : List Char} (hz : ∀ d ∈ z, stops d = false) (t : List Char) :
    cutAt stops (z ++ t) = (z ++ (cutAt stops t).1, (cutAt stops t).2) := by
  have hpass : ∀ d ∈ z, (!stops d) = true := fun d hd => by simp [hz d hd]
  rw [cutAt, List.takeWhile_append_of_pos hpass, List.dropWhile_append_of_pos hpass, cutAt]

theorem settled_append_slash {z : List Char} (hz : ∀ c ∈ z, isEdge c = false) (t : List Char) :
    settled (z ++ '/' :: t) = z ++ '/' :: settled t := by
  have hkept := (settled_eq_self_iff.mp (settled_eq_self hz)).2
  have hfilter : z.filter (!isLineMark ·) = z := List.filter_eq_self.mpr fun c hc => by simp [hkept c hc]
  rw [settled, rdropWhile_append_cons rfl, List.filter_append, hfilter]
  rfl

/-- A plain name behind a base is a folder, and what is put behind its slash is looked up below it. -/
theorem IsBase.read_below {toAscii : ToAscii} {base : String} (h : IsBase toAscii base) (name : String)
    (hplain : name.toList.all (fun c => !isEdge c && !isSlash c && !inPath c) = true)
    (hdots : dots? name.toList = none) :
    ∃ folder, Url.read toAscii (base ++ "/" ++ name) = some folder ∧ folder.query = none ∧ folder.fragment = none ∧
      ∀ text : String,
        Url.read toAscii (base ++ "/" ++ (name ++ "/" ++ text)) = some (folder.below (settled text.toList)) := by
  obtain ⟨scheme, credentials, host, port, behind, hbehind, hread⟩ := h.read
  obtain ⟨above, habove⟩ := pathSegments_behind behind
  generalize hchars : name.toList = s at hplain hdots
  have hs : ∀ c ∈ s, isEdge c = false ∧ isSlash c = false ∧ inPath c = false := by
    simpa [and_assoc] using hplain
  have hencoded : percentEncoded inPath s = s := percentEncoded_eq_self fun c hc => (hs c hc).2.2
  have hcut : cutAtSlashes s = [s] := cutAtSlashes_eq_singleton fun c hc => (hs c hc).2.1
  have hmarks : ∀ c ∈ behind ++ '/' :: s, isMark c = false :=
    List.forall_mem_append.mpr ⟨hbehind,
      List.forall_mem_cons.mpr ⟨rfl, fun c hc => isMark_of_not_inPath (hs c hc).2.2⟩⟩
  have hpath : pathSegments (behind ++ '/' :: s) = (s :: above).reverse.map String.ofList := by
    rw [habove, hencoded, hcut, walk, hdots]
  have hmore (t : List Char) : pathSegments (behind ++ '/' :: s ++ '/' :: t) =
      (walk (s :: above) (cutAtSlashes (percentEncoded inPath t))).map String.ofList := by
    have hslash : percentEncoded inPath (s ++ '/' :: t) = s ++ '/' :: percentEncoded inPath t := by
      rw [percentEncoded_append, hencoded]
      rfl
    have hpassed : passed above s = s :: above := by rw [passed, hdots]
    rw [List.append_assoc, List.cons_append, habove, hslash, cutAtSlashes_append rfl, hcut, List.singleton_append,
      walk_cons _ _ (cutAtSlashes_ne_nil _), hpassed]
  refine ⟨⟨scheme, host, port, (s :: above).reverse.map String.ofList, none, none, credentials⟩, ?_, rfl, rfl,
    fun text => ?_⟩
  · rw [hread, hchars, settled_eq_self fun c hc => (hs c hc).1, Url.at, cutAt_eq_self hmarks, ← hpath]
    rfl
  · have htext : (name ++ "/" ++ text).toList = s ++ '/' :: text.toList := by
      simp [hchars]
    have hsplit (t : List Char) : behind ++ '/' :: (s ++ '/' :: t) = (behind ++ '/' :: s ++ ['/']) ++ t := by
      simp
    have hmarks' : ∀ c ∈ behind ++ '/' :: s ++ ['/'], isMark c = false :=
      List.forall_mem_append.mpr ⟨hmarks, List.forall_mem_singleton.mpr rfl⟩
    have hway : ((s :: above).reverse.map String.ofList).reverse.map String.toList = s :: above := by
      simp [Function.comp_def]
    rw [hread, htext, settled_append_slash fun c hc => (hs c hc).1, hsplit, Url.at, cutAt_append hmarks', Url.below,
      hway]
    simp only [List.append_assoc, List.singleton_append]
    rw [← List.append_assoc, hmore]

end Colloquy.Http
