import Mathlib.Data.List.Basic
import Colloquy.Text.Lines

/-! Streams of bytes, the lines in them and the text that lines hold. The bytes of a text decode to that text
and no other bytes do (`utf8Text_eq_ok_iff`), and a byte below 128 in them is a character of its own. A stream
is cut behind its newlines and nowhere else (`rawLines_eq`), in whatever pieces it comes (`linesOf_eq`). -/

namespace Colloquy.Text

/-! ### Text -/

theorem toList_loop (b : ByteArray) (i : Nat) (done : List UInt8) (h : i ≤ b.size) :
    ByteArray.toList.loop b i done = done.reverse ++ b.data.toList.drop i := by
  obtain ⟨n, hn⟩ : ∃ n, b.size - i = n := ⟨_, rfl⟩
  induction n generalizing i done with
  | zero =>
      have hend : i = b.size := by omega
      rw [ByteArray.toList.loop, if_neg (by omega), hend]
      simp
  | succ n ih =>
      have hi : i < b.size := by omega
      have hi' : i < b.data.toList.length := by simpa using hi
      rw [ByteArray.toList.loop, if_pos hi, ih _ _ hi (by omega), List.drop_eq_getElem_cons hi']
      have hget : b.get! i = b.data.toList[i] := by
        rw [Array.getElem_toList]
        exact getElem!_pos b.data i hi
      simp [hget]

theorem toList_eq (b : ByteArray) : b.toList = b.data.toList := by
  rw [ByteArray.toList, toList_loop b 0 [] (Nat.zero_le _)]
  rfl

theorem utf8Bytes_eq (s : String) : utf8Bytes s = s.toList.flatMap String.utf8EncodeChar := by
  rw [utf8Bytes, toList_eq, String.toUTF8, ← String.utf8Encode_toList, List.utf8Encode, List.toList_data_toByteArray]

theorem utf8Text_utf8Bytes (s : String) : utf8Text (utf8Bytes s) = .ok s := by
  have hbytes : (⟨(utf8Bytes s).toArray⟩ : ByteArray) = s.toByteArray := by
    rw [utf8Bytes, toList_eq]
    rfl
  have hread : String.fromUTF8? s.toByteArray = some s := by
    rw [String.fromUTF8?, dif_pos s.isValidUTF8]
    rfl
  rw [utf8Text, hbytes, hread]

theorem utf8Text_eq_ok_iff {b : Bytes} {s : String} : utf8Text b = .ok s ↔ b = utf8Bytes s := by
  constructor
  · intro h
    unfold utf8Text String.fromUTF8? at h
    by_cases hvalid : (⟨b.toArray⟩ : ByteArray).IsValidUTF8
    · rw [dif_pos hvalid] at h
      cases h
      rw [utf8Bytes, toList_eq]
      rfl
    · rw [dif_neg hvalid] at h
      cases h
  · rintro rfl
    exact utf8Text_utf8Bytes s

theorem utf8Bytes_append (s t : String) : utf8Bytes (s ++ t) = utf8Bytes s ++ utf8Bytes t := by
  rw [utf8Bytes_eq, utf8Bytes_eq, utf8Bytes_eq, String.toList_append, List.flatMap_append]

/-- A byte below 128 is a character of its own. -/
theorem utf8EncodeChar_of_mem {c : Char} {b : UInt8} (hb : b < 128) (h : b ∈ String.utf8EncodeChar c) :
    String.utf8EncodeChar c = [b] ∧ c.toNat = b.toNat := by
  have hsmall : b.toNat < 128 := UInt8.lt_iff_toNat_lt.mp hb
  have hmarked (n : Nat) (hn : b = UInt8.ofNat n) (hlow : 128 ≤ n) (hhigh : n < 256) : False := by
    rw [hn, UInt8.toNat_ofNat_of_lt' hhigh] at hsmall
    omega
  unfold String.utf8EncodeChar at h ⊢
  simp only at h ⊢
  split at h
  · rename_i hone
    obtain rfl := List.mem_singleton.mp h
    rw [if_pos hone]
    exact ⟨rfl, (UInt8.toNat_ofNat_of_lt' (Nat.lt_of_le_of_lt hone (by decide))).symm⟩
  · exfalso
    -- All bytes of a longer form have their highest bit set.
    split at h <;> [skip; split at h] <;> simp only [List.mem_cons, List.not_mem_nil, or_false] at h
    · obtain h | h := h <;> exact hmarked _ h (by omega) (by omega)
    · obtain h | h | h := h <;> exact hmarked _ h (by omega) (by omega)
    · obtain h | h | h | h := h <;> exact hmarked _ h (by omega) (by omega)

theorem newline_mem_utf8Bytes {s : String} : newline ∈ utf8Bytes s ↔ '\n' ∈ s.toList := by
  rw [utf8Bytes_eq, List.mem_flatMap]
  constructor
  · rintro ⟨c, hc, hmem⟩
    have hcode := (utf8EncodeChar_of_mem (by decide) hmem).2
    rwa [Char.toNat_inj.mp (show c.toNat = '\n'.toNat from hcode)] at hc
  · intro h
    exact ⟨'\n', h, by decide⟩

/-- Text whose bytes end with one below 128 ends with the character of that byte. -/
theorem utf8Bytes_eq_concat {s : String} {body : Bytes} {c : Char} {b : UInt8} (hb : b < 128)
    (hc : String.utf8EncodeChar c = [b]) (h : utf8Bytes s = body ++ [b]) :
    ∃ t : String, s = t ++ String.singleton c ∧ utf8Bytes t = body := by
  rw [utf8Bytes_eq] at h
  obtain hnil | ⟨cs, last, hcs⟩ := List.eq_nil_or_concat' s.toList
  · simp [hnil] at h
  · rw [hcs, List.flatMap_append, List.flatMap_singleton] at h
    have hmem : b ∈ String.utf8EncodeChar last := by
      have hend := congrArg List.getLast? h
      rw [List.getLast?_append_of_ne_nil _ String.utf8EncodeChar_ne_nil, List.getLast?_concat] at hend
      exact List.mem_of_getLast? hend
    obtain ⟨hlast, hcode⟩ := utf8EncodeChar_of_mem hb hmem
    have hcode' := (utf8EncodeChar_of_mem hb (hc ▸ List.mem_singleton_self b)).2
    obtain rfl : last = c := Char.toNat_inj.mp (hcode.trans hcode'.symm)
    rw [hlast] at h
    refine ⟨String.ofList cs, ?_, ?_⟩
    · rw [← String.toList_inj, hcs]
      simp
    · rw [utf8Bytes_eq, String.toList_ofList]
      exact List.append_cancel_right h

/-! ### Lines and what ends them -/

/-- A newline, with a carriage return in front of it or not, or what is left of that at the end of a stream. -/
inductive LineEnd : String → Prop where
  | newline : LineEnd "\n"
  | both : LineEnd "\r\n"
  | lone : LineEnd "\r"
  | none : LineEnd ""

theorem utf8Bytes_newline : utf8Bytes "\n" = [newline] := by
  rw [utf8Bytes_eq]
  decide

theorem utf8Bytes_return : utf8Bytes "\r" = [13] := by
  rw [utf8Bytes_eq]
  decide

theorem lineContent_append (line : Bytes) :
    ∃ ending, LineEnd ending ∧ line = lineContent line ++ utf8Bytes ending := by
  have hboth : utf8Bytes "\r\n" = [13, 10] := by rw [utf8Bytes_eq]; decide
  unfold lineContent
  split <;> rename_i h
  · exact ⟨_, .both, by rw [hboth, ← List.reverse_reverse line, h]; simp⟩
  · exact ⟨_, .newline, by rw [utf8Bytes_newline, ← List.reverse_reverse line, h]; simp [newline]⟩
  · exact ⟨_, .lone, by rw [utf8Bytes_return, ← List.reverse_reverse line, h]; simp⟩
  · exact ⟨_, .none, by rw [utf8Bytes_eq, String.toList_empty, List.flatMap_nil, List.append_nil]⟩

theorem LineEnd.cut {s ending : String} {body : Bytes} (hending : LineEnd ending)
    (h : utf8Bytes s = body ++ utf8Bytes ending) : ∃ t, s = t ++ ending ∧ utf8Bytes t = body := by
  have hreturn {s : String} {body : Bytes} (h : utf8Bytes s = body ++ utf8Bytes "\r") :
      ∃ t, s = t ++ "\r" ∧ utf8Bytes t = body := by
    rw [utf8Bytes_return] at h
    exact utf8Bytes_eq_concat (c := '\r') (by decide) (by decide) h
  have hnewline {s : String} {body : Bytes} (h : utf8Bytes s = body ++ utf8Bytes "\n") :
      ∃ t, s = t ++ "\n" ∧ utf8Bytes t = body := by
    rw [utf8Bytes_newline] at h
    exact utf8Bytes_eq_concat (c := '\n') (by decide) (by decide) h
  cases hending with
  | newline => exact hnewline h
  | lone => exact hreturn h
  | both =>
      rw [show "\r\n" = "\r" ++ "\n" from rfl, utf8Bytes_append, ← List.append_assoc] at h
      obtain ⟨t, rfl, ht⟩ := hnewline h
      obtain ⟨u, rfl, hu⟩ := hreturn ht
      exact ⟨u, String.append_assoc, hu⟩
  | none => exact ⟨s, String.append_empty.symm, by rw [h, utf8Bytes_eq "", String.toList_empty]; simp⟩

/-- A line is text if its content is. -/
theorem LineEnd.utf8Text_append {body : Bytes} {ending : String} (hending : LineEnd ending) {text : String} :
    utf8Text (body ++ utf8Bytes ending) = .ok text ↔ ∃ t, text = t ++ ending ∧ utf8Text body = .ok t := by
  rw [utf8Text_eq_ok_iff]
  constructor
  · intro h
    obtain ⟨t, ht, hbody⟩ := hending.cut h.symm
    exact ⟨t, ht, utf8Text_eq_ok_iff.mpr hbody.symm⟩
  · rintro ⟨t, rfl, ht⟩
    rw [utf8Bytes_append, utf8Text_eq_ok_iff.mp ht]

/-! ### Where a stream is cut -/

/-- A stream as lines without their newlines, and what follows the last newline. -/
structure Lined (bytes : Bytes) (bodies : List Bytes) (tail : Bytes) : Prop where
  bytes_eq : bytes = (bodies.map (· ++ [newline])).flatten ++ tail
  bodies : ∀ body ∈ bodies, newline ∉ body
  tail : newline ∉ tail

theorem exists_lined (bytes : Bytes) : ∃ bodies tail, Lined bytes bodies tail := by
  induction bytes with
  | nil => exact ⟨[], [], rfl, nofun, nofun⟩
  | cons b bytes ih =>
      obtain ⟨bodies, tail, rfl, hbodies, htail⟩ := ih
      by_cases hb : b = newline
      · exact ⟨[] :: bodies, tail, by simp [hb], List.forall_mem_cons.mpr ⟨nofun, hbodies⟩, htail⟩
      · have hkept {line : Bytes} (h : newline ∉ line) : newline ∉ b :: line := by
          rintro (_ | ⟨_, hmem⟩)
          · exact hb rfl
          · exact h hmem
        cases bodies with
        | nil => exact ⟨[], b :: tail, by simp, nofun, hkept htail⟩
        | cons body bodies =>
            obtain ⟨hbody, hrest⟩ := List.forall_mem_cons.mp hbodies
            exact ⟨(b :: body) :: bodies, tail, by simp, List.forall_mem_cons.mpr ⟨hkept hbody, hrest⟩, htail⟩

theorem cutLines_append (current : Bytes) (done : List Bytes) {body : Bytes} (h : newline ∉ body) (rest : Bytes) :
    cutLines current done (body ++ rest) = cutLines (body.reverse ++ current) done rest := by
  induction body generalizing current with
  | nil => rfl
  | cons b body ih =>
      rw [List.mem_cons, not_or] at h
      rw [List.cons_append, cutLines, if_neg (by simpa using Ne.symm h.1), ih _ h.2]
      simp

theorem cutLines_done (current : Bytes) (done : List Bytes) (bytes : Bytes) :
    cutLines current done bytes = done.reverse ++ cutLines current [] bytes := by
  induction bytes generalizing current done with
  | nil => by_cases h : current.isEmpty <;> simp [cutLines, h]
  | cons b bytes ih =>
      by_cases hb : (b == newline) = true
      · rw [cutLines, cutLines, if_pos hb, if_pos hb, ih, ih [] [_]]
        simp
      · rw [cutLines, cutLines, if_neg hb, if_neg hb, ih]

theorem rawLines_line {body : Bytes} (h : newline ∉ body) (rest : Bytes) :
    rawLines (body ++ newline :: rest) = (body ++ [newline]) :: rawLines rest := by
  rw [rawLines, cutLines_append _ _ h, cutLines, if_pos (by rfl), cutLines_done]
  simp [rawLines]

theorem rawLines_eq {bytes tail : Bytes} {bodies : List Bytes} (h : Lined bytes bodies tail) :
    rawLines bytes = bodies.map (· ++ [newline]) ++ if tail.isEmpty then [] else [tail] := by
  obtain ⟨rfl, hbodies, htail⟩ := h
  induction bodies with
  | nil =>
      have hcut := cutLines_append [] [] htail []
      rw [List.append_nil, List.append_nil] at hcut
      rw [List.map_nil, List.flatten_nil, List.nil_append, List.nil_append, rawLines, hcut]
      by_cases h : tail = [] <;> simp [cutLines, h]
  | cons body bodies ih =>
      obtain ⟨hbody, hrest⟩ := List.forall_mem_cons.mp hbodies
      rw [List.map_cons, List.flatten_cons, List.append_assoc, List.append_assoc, List.singleton_append,
        rawLines_line hbody, ih hrest, List.cons_append]

/-! ### Streams in pieces -/

theorem cutLines_piece (current : Bytes) (done : List Bytes) (piece rest : Bytes) :
    cutLines current done (piece ++ rest) =
      (cutPiece current done piece).1 ++ cutLines (cutPiece current done piece).2 [] rest := by
  induction piece generalizing current done with
  | nil => exact cutLines_done current done rest
  | cons b piece ih =>
      rw [List.cons_append, cutLines, cutPiece]
      by_cases hb : (b == newline) = true
      · rw [if_pos hb, if_pos hb, ih]
      · rw [if_neg hb, if_neg hb, ih]

theorem cutLines_pieces (current : Bytes) (pieces : List Bytes) :
    cutLines current [] pieces.flatten = linesOf current pieces := by
  induction pieces generalizing current with
  | nil => by_cases h : current.isEmpty <;> simp [cutLines, linesOf, lastLine, h]
  | cons piece pieces ih => rw [List.flatten_cons, cutLines_piece, ih, linesOf]

/-- It does not matter where a stream is cut into pieces. -/
theorem linesOf_eq (pieces : List Bytes) : linesOf [] pieces = rawLines pieces.flatten :=
  (cutLines_pieces [] pieces).symm

end Colloquy.Text
