import Mathlib.Data.List.Basic
import Mathlib.Data.List.DropRight
import Mathlib.Data.List.TakeWhile
import Mathlib.Data.Option.Basic
import Colloquy.Http.Url

/-! Addresses below a base. Putting a slash and more behind an address without query and fragment leaves scheme, host
and port as they are (`IsBase.read`), and what is plain at the end of the new path is at the end of the new address. An
address with a host in ASCII is read the same whatever other names are known (`read_of_asciiOnly`). -/

namespace Colloquy.Http

/-- An address that paths are put behind: it has no query, no fragment, and no blank at its end. -/
structure IsBase (toAscii : ToAscii) (base : String) : Prop where
  address : ∃ url, Url.read toAscii base = some url ∧ url.query = none ∧ url.fragment = none
  ends : ∃ c, base.toList.getLast? = some c ∧ isEdge c = false

/-! ### Tidying -/

def isLineMark (c : Char) : Bool := c == '\t' || c == '\n' || c == '\r'

/-- What is left of a text that has something in front of it. -/
def settled (s : List Char) : List Char := (s.rdropWhile isEdge).filter (!isLineMark ·)

theorem settled_eq_self {s : List Char} (hs : ∀ c ∈ s, isEdge c = false) : settled s = s := by
  have hkept : s.rdropWhile isEdge = s := List.rdropWhile_eq_self_iff.mpr fun hne => by
    simp [hs _ (List.getLast_mem hne)]
  rw [settled, hkept, List.filter_eq_self]
  intro c hc
  have hedge := hs c hc
  rw [isEdge, decide_eq_false_iff_not] at hedge
  have hmark : ∀ d : Char, d.toNat ≤ 32 → c ≠ d := by
    rintro d hd rfl
    exact hedge hd
  simp [isLineMark, hmark '\t' (by decide), hmark '\n' (by decide), hmark '\r' (by decide)]

theorem dropWhile_append_cons {p : Char → Bool} {c : Char} (hc : p c = false) (z t : List Char) :
    (z ++ c :: t).dropWhile p = z.dropWhile p ++ c :: t := by
  have hstop : (c :: t).dropWhile p = c :: t := List.dropWhile_cons_of_neg (by simp [hc])
  rw [List.dropWhile_append, hstop]
  split
  · next hnil => rw [List.isEmpty_iff.mp hnil, List.nil_append]
  · rfl

theorem rdropWhile_append_cons {c : Char} (hc : isEdge c = false) (z t : List Char) :
    (z ++ c :: t).rdropWhile isEdge = z ++ c :: t.rdropWhile isEdge := by
  have hreverse : (z ++ c :: t).reverse = t.reverse ++ c :: z.reverse := by simp
  rw [List.rdropWhile, hreverse, dropWhile_append_cons hc, List.rdropWhile]
  simp

/-- Behind what does not end in a blank, only the end of the rest is tidied. -/
theorem tidied_append {x : List Char} {c : Char} (hlast : x.getLast? = some c) (hc : isEdge c = false) (t : List Char) :
    tidied (x ++ t) = tidied x ++ settled t := by
  have htidied (s : List Char) : tidied s = ((s.dropWhile isEdge).rdropWhile isEdge).filter (!isLineMark ·) := rfl
  obtain ⟨z, rfl⟩ := List.getLast?_eq_some_iff.mp hlast
  rw [List.append_assoc, List.singleton_append, htidied, htidied, dropWhile_append_cons hc, dropWhile_append_cons hc,
    rdropWhile_append_cons hc, rdropWhile_append_cons hc, settled, ← List.filter_append]
  simp

/-! ### Reading -/

/-- Where the host of an address ends. -/
def isStop (c : Char) : Bool := isSlash c || c == '?' || c == '#'

/-- Where the path of an address ends. -/
def isMark (c : Char) : Bool := c == '?' || c == '#'

/-- The address of a host with what stands behind the host. -/
def Url.at (scheme : String) (credentials : Option Credentials) (host : String) (port : Option Nat)
    (behind : List Char) : Url :=
  let (path, rest) := cutAt isMark behind
  let (query, fragment) := cutAt (· == '#') rest
  { scheme, host, port, path := pathSegments path, query := behindMark query inQuery,
    fragment := behindMark fragment inFragment, credentials }

/-- The parts of a tidied address. -/
structure Parts (s : List Char) (scheme : String) (authority behind : List Char) : Prop where
  cut : ∃ name slashes, s = name ++ ':' :: (slashes ++ (authority ++ behind)) ∧ ':' ∉ name ∧
    (∀ c ∈ slashes, isSlash c = true) ∧ scheme = String.ofList (name.map Char.toLower)
  known : scheme = "http" ∨ scheme = "https"
  nonempty : authority ≠ []
  plain : ∀ c ∈ authority, isStop c = false
  stop : ∀ c ∈ behind.head?, isStop c = true

variable {toAscii : ToAscii} {s authority behind : List Char} {text scheme : String} {url : Url}

theorem cutAt_append_cons {stops : Char → Bool} {c : Char} {z : List Char} (hz : ∀ d ∈ z, stops d = false)
    (hc : stops c = true) (t : List Char) : cutAt stops (z ++ c :: t) = (z, c :: t) := by
  have hpass : ∀ d ∈ z, (!stops d) = true := fun d hd => by simp [hz d hd]
  rw [cutAt, List.takeWhile_append_of_pos hpass, List.dropWhile_append_of_pos hpass,
    List.takeWhile_cons_of_neg (by simp [hc]), List.dropWhile_cons_of_neg (by simp [hc]), List.append_nil]

theorem cutAt_eq_self {stops : Char → Bool} {z : List Char} (hz : ∀ d ∈ z, stops d = false) :
    cutAt stops z = (z, []) := by
  have hpass : ∀ d ∈ z, (!stops d) = true := fun d hd => by simp [hz d hd]
  rw [cutAt, List.takeWhile_eq_self_iff.mpr hpass, List.dropWhile_eq_nil_iff.mpr hpass]

theorem Parts.read (h : Parts (tidied text.toList) scheme authority behind) :
    Url.read toAscii text = (hostAndPort? toAscii scheme authority).map fun place =>
      Url.at scheme (credentials? authority) place.1 place.2 behind := by
  obtain ⟨name, slashes, hs, hname, hslashes, hscheme⟩ := h.cut
  have hcolon : cutAt (· == ':') (tidied text.toList) = (name, ':' :: (slashes ++ (authority ++ behind))) := by
    rw [hs]
    exact cutAt_append_cons (fun d hd => beq_eq_false_iff_ne.mpr (ne_of_mem_of_not_mem hd hname)) rfl _
  have hstart : (slashes ++ (authority ++ behind)).dropWhile isSlash = authority ++ behind := by
    obtain ⟨c, rest, rfl⟩ := List.exists_cons_of_ne_nil h.nonempty
    have hc : isSlash c = false := by
      have hplain := h.plain c List.mem_cons_self
      simp only [isStop, Bool.or_eq_false_iff] at hplain
      exact hplain.1.1
    rw [List.dropWhile_append_of_pos hslashes, List.cons_append, List.dropWhile_cons_of_neg (by simp [hc])]
  have hauthority : cutAt isStop (authority ++ behind) = (authority, behind) := by
    cases behind with
    | nil => rw [List.append_nil, cutAt_eq_self h.plain]
    | cons c t => exact cutAt_append_cons h.plain (h.stop c rfl) t
  have hstop : (fun c => isSlash c || c == '?' || c == '#') = isStop := rfl
  unfold Url.read
  simp only [hcolon, ← hscheme, List.drop_one, List.tail_cons, hstart, hstop, hauthority]
  rw [guard, if_pos (by simpa using h.known)]
  cases hostAndPort? toAscii scheme authority <;> rfl

theorem hostAndPort?_nil (toAscii : ToAscii) (scheme : String) : hostAndPort? toAscii scheme [] = none := rfl

theorem head?_dropWhile {p : Char → Bool} {s : List Char} {c : Char} (hc : (s.dropWhile p).head? = some c) :
    p c = false := by
  have := List.head?_dropWhile_not p s
  rw [hc] at this
  simpa using this

theorem exists_parts (h : Url.read toAscii text = some url) :
    ∃ scheme authority behind, Parts (tidied text.toList) scheme authority behind := by
  generalize hs : tidied text.toList = s
  unfold Url.read at h
  rw [hs] at h
  simp only [cutAt, Option.bind_eq_bind, Option.bind_eq_some_iff] at h
  obtain ⟨_, hknown, place, hplace, -⟩ := h
  generalize hafter : s.dropWhile (fun c => !c == ':') = after at hplace
  generalize hrest : (after.drop 1).dropWhile isSlash = rest at hplace
  have hnonempty : rest.takeWhile (!isStop ·) ≠ [] := fun hnil => by
    change hostAndPort? _ _ (rest.takeWhile (!isStop ·)) = some place at hplace
    rw [hnil, hostAndPort?_nil] at hplace
    cases hplace
  have hcolon : after = ':' :: after.drop 1 := by
    cases after with
    | nil => exact absurd (hrest ▸ rfl) hnonempty
    | cons c t =>
        have hc : c = ':' := by simpa using head?_dropWhile (congrArg List.head? hafter)
        rw [hc]
        rfl
  refine ⟨_, rest.takeWhile (!isStop ·), rest.dropWhile (!isStop ·),
    ⟨s.takeWhile (fun c => !c == ':'), (after.drop 1).takeWhile isSlash, ?_, ?_,
      fun c hc => List.mem_takeWhile_imp hc, rfl⟩, ?_, hnonempty, fun c hc => ?_, fun c hc => ?_⟩
  · rw [List.takeWhile_append_dropWhile, ← hrest, List.takeWhile_append_dropWhile, ← hcolon, ← hafter,
      List.takeWhile_append_dropWhile]
  · intro hmem
    simpa using List.mem_takeWhile_imp hmem
  · have hor := (Option.guard_eq_some' _).mp hknown
    exact ((Bool.or_eq_true _ _).mp hor).imp of_decide_eq_true of_decide_eq_true
  · simpa using List.mem_takeWhile_imp hc
  · simpa using head?_dropWhile hc

/-! ### Hosts in ASCII -/

theorem asciiName?_of_asciiOnly {bytes : Text.Bytes} {name : List Char} (h : asciiName? asciiOnly bytes = some name) :
    asciiName? toAscii bytes = some name := by
  unfold asciiName? at h ⊢
  split at h
  · dsimp only at h ⊢
    split at h
    · cases h
    · next hplain => rw [if_neg hplain, h]
  · cases h

theorem hostName?_of_asciiOnly {name host : List Char} (h : hostName? asciiOnly name = some host) :
    hostName? toAscii name = some host := by
  obtain ⟨spelled, hspelled, hhost⟩ := Option.bind_eq_some_iff.mp h
  exact Option.bind_eq_some_iff.mpr ⟨spelled, asciiName?_of_asciiOnly hspelled, hhost⟩

theorem hostAndPort?_of_asciiOnly {place : String × Option Nat} (h : hostAndPort? asciiOnly scheme authority = some place) :
    hostAndPort? toAscii scheme authority = some place := by
  unfold hostAndPort? at h ⊢
  dsimp only at h ⊢
  split at h
  · exact h
  · obtain ⟨found, hfound, hport⟩ := Option.bind_eq_some_iff.mp h
    obtain ⟨host, hhost, rfl⟩ := Option.map_eq_some_iff.mp hfound
    rw [hostName?_of_asciiOnly hhost]
    exact hport

/-- An address that is read without any name of another script is read the same with them. -/
theorem read_of_asciiOnly (h : Url.read asciiOnly text = some url) : Url.read toAscii text = some url := by
  obtain ⟨scheme, authority, behind, hparts⟩ := exists_parts h
  rw [hparts.read, Option.map_eq_some_iff] at h
  obtain ⟨place, hplace, rfl⟩ := h
  rw [hparts.read, hostAndPort?_of_asciiOnly hplace]
  rfl

/-! ### Behind a base -/

theorem behindMark_eq_none_iff {mustEscape : Char → Bool} : behindMark s mustEscape = none ↔ s = [] := by
  cases s <;> simp [behindMark]

/-- Where neither a query nor a fragment is read there is no mark. -/
theorem isMark_of_behindMark_eq_none {forQuery forFragment : Char → Bool}
    (hquery : behindMark (cutAt (· == '#') (cutAt isMark s).2).1 forQuery = none)
    (hfragment : behindMark (cutAt (· == '#') (cutAt isMark s).2).2 forFragment = none) :
    ∀ c ∈ s, isMark c = false := by
  have hfront : (s.dropWhile (!isMark ·)).takeWhile (fun c => !c == '#') = [] := behindMark_eq_none_iff.mp hquery
  have hback : (s.dropWhile (!isMark ·)).dropWhile (fun c => !c == '#') = [] := behindMark_eq_none_iff.mp hfragment
  have hnone := List.takeWhile_append_dropWhile (p := fun c => !c == '#') (l := s.dropWhile (!isMark ·))
  rw [hfront, hback, List.nil_append, eq_comm, List.dropWhile_eq_nil_iff] at hnone
  intro c hc
  simpa using hnone c hc

theorem Parts.behind_plain (h : Parts (tidied text.toList) scheme authority behind)
    (hread : Url.read toAscii text = some url) (hquery : url.query = none) (hfragment : url.fragment = none) :
    ∀ c ∈ behind, isMark c = false := by
  rw [h.read, Option.map_eq_some_iff] at hread
  obtain ⟨place, -, rfl⟩ := hread
  exact isMark_of_behindMark_eq_none hquery hfragment

theorem Parts.append (h : Parts s scheme authority behind) (t : List Char) :
    Parts (s ++ '/' :: t) scheme authority (behind ++ '/' :: t) where
  cut := by
    obtain ⟨name, slashes, rfl, hname⟩ := h.cut
    exact ⟨name, slashes, by simp, hname⟩
  known := h.known
  nonempty := h.nonempty
  plain := h.plain
  stop c hc := by
    cases behind with
    | nil =>
        obtain rfl := Option.mem_some.mp hc
        rfl
    | cons d rest => exact h.stop c hc

/-- What is put behind a base goes to its path, and what is put behind that to its query and fragment. -/
theorem IsBase.read {base : String} (h : IsBase toAscii base) : ∃ scheme credentials host port behind,
    (∀ c ∈ behind, isMark c = false) ∧ ∀ more : String, Url.read toAscii (base ++ "/" ++ more) =
      some (Url.at scheme credentials host port (behind ++ '/' :: settled more.toList)) := by
  obtain ⟨url, hread, hquery, hfragment⟩ := h.address
  obtain ⟨c, hlast, hc⟩ := h.ends
  obtain ⟨scheme, authority, behind, hparts⟩ := exists_parts hread
  have hplain := hparts.behind_plain hread hquery hfragment
  rw [hparts.read, Option.map_eq_some_iff] at hread
  obtain ⟨place, hplace, -⟩ := hread
  refine ⟨scheme, credentials? authority, place.1, place.2, behind, hplain, fun more => ?_⟩
  have hmore : tidied (base ++ "/" ++ more).toList = tidied base.toList ++ '/' :: settled more.toList := by
    have hslash : tidied (base.toList ++ ['/'] ++ more.toList) = tidied (base.toList ++ ['/']) ++ settled more.toList :=
      tidied_append List.getLast?_concat rfl _
    rw [String.toList_append, String.toList_append]
    change tidied (base.toList ++ ['/'] ++ more.toList) = _
    rw [hslash, tidied_append hlast hc, List.append_assoc]
    rfl
  have hnew := hparts.append (settled more.toList)
  rw [← hmore] at hnew
  rw [hnew.read, hplace]
  rfl

theorem IsBase.exists_read {base : String} (h : IsBase toAscii base) (more : String) :
    ∃ url, Url.read toAscii (base ++ "/" ++ more) = some url := by
  obtain ⟨scheme, credentials, host, port, behind, -, hread⟩ := h.read
  exact ⟨_, hread more⟩

/-! ### The end of a path -/

theorem cutAtSlashes_ne_nil (s : List Char) : cutAtSlashes s ≠ [] := by
  cases s with
  | nil => exact List.cons_ne_nil _ _
  | cons c s =>
      rw [cutAtSlashes]
      split
      · exact List.cons_ne_nil _ _
      · split <;> exact List.cons_ne_nil _ _

theorem cutAtSlashes_append {c : Char} (hc : isSlash c = true) (a b : List Char) :
    cutAtSlashes (a ++ c :: b) = cutAtSlashes a ++ cutAtSlashes b := by
  induction a with
  | nil =>
      rw [List.nil_append, cutAtSlashes.eq_def (c :: b)]
      exact if_pos hc
  | cons d a ih =>
      rw [List.cons_append, cutAtSlashes, cutAtSlashes, ih]
      split
      · rfl
      · obtain ⟨piece, pieces, hcut⟩ := List.exists_cons_of_ne_nil (cutAtSlashes_ne_nil a)
        rw [hcut]
        rfl

theorem cutAtSlashes_eq_singleton {last : List Char} (hlast : ∀ c ∈ last, isSlash c = false) :
    cutAtSlashes last = [last] := by
  induction last with
  | nil => rfl
  | cons c last ih =>
      rw [List.forall_mem_cons] at hlast
      rw [cutAtSlashes, if_neg (by simp [hlast.1]), ih hlast.2]

/-- The way so far after a segment that is not the last. -/
def passed (above : List (List Char)) (segment : List Char) : List (List Char) :=
  match dots? segment with
  | some 1 => above
  | some _ => above.tail
  | none => segment :: above

theorem walk_cons (above : List (List Char)) (segment : List Char) {rest : List (List Char)} (hrest : rest ≠ []) :
    walk above (segment :: rest) = walk (passed above segment) rest := by
  rw [walk, passed]
  · match dots? segment with
    | some 0 | some 1 | some (_ + 2) | none => rfl
  · exact hrest

theorem walk_append (above front : List (List Char)) {rest : List (List Char)} (hrest : rest ≠ []) :
    walk above (front ++ rest) = walk (front.foldl passed above) rest := by
  induction front generalizing above with
  | nil => rfl
  | cons segment front ih =>
      have hmore : front ++ rest ≠ [] := List.append_ne_nil_of_right_ne_nil front hrest
      rw [List.cons_append, walk_cons above segment hmore, ih, List.foldl_cons]

theorem percentEncoded_eq_self {mustEscape : Char → Bool} {s : List Char} (hs : ∀ c ∈ s, mustEscape c = false) :
    percentEncoded mustEscape s = s := by
  have hsame : ∀ c ∈ s, (if mustEscape c = true then percentChar c else [c]) = [c] := fun c hc => by simp [hs c hc]
  rw [percentEncoded, List.flatMap_congr hsame, List.flatMap_singleton']

theorem percentEncoded_append (mustEscape : Char → Bool) (z t : List Char) :
    percentEncoded mustEscape (z ++ t) = percentEncoded mustEscape z ++ percentEncoded mustEscape t :=
  List.flatMap_append

/-- What is put behind the slash of a path is walked from where the path has led to. -/
theorem pathSegments_behind (behind : List Char) :
    ∃ above, ∀ t, pathSegments (behind ++ '/' :: t) =
      (walk above (cutAtSlashes (percentEncoded inPath t))).map String.ofList := by
  cases behind with
  | nil => exact ⟨[], fun t => rfl⟩
  | cons c behind =>
      refine ⟨(cutAtSlashes (percentEncoded inPath behind)).foldl passed [], fun t => ?_⟩
      have hencoded : percentEncoded inPath (behind ++ '/' :: t) =
          percentEncoded inPath behind ++ '/' :: percentEncoded inPath t := by
        rw [percentEncoded_append]
        rfl
      rw [pathSegments, List.cons_append, List.drop_one, List.tail_cons, hencoded, cutAtSlashes_append rfl,
        walk_append _ _ (cutAtSlashes_ne_nil _)]

theorem isMark_of_not_inPath {c : Char} (hc : inPath c = false) : isMark c = false := by
  by_contra hmark
  rw [Bool.not_eq_false, isMark, Bool.or_eq_true, beq_iff_eq, beq_iff_eq] at hmark
  obtain rfl | rfl := hmark <;> cases hc

section Last

variable (path : List Char) {last : List Char} (hplain : ∀ c ∈ last, isSlash c = false ∧ inPath c = false)
  (hdots : dots? last = none)

include hplain hdots in
theorem pathSegments_append : ∃ front, pathSegments (path ++ '/' :: last) = front ++ [String.ofList last] := by
  have hencoded : percentEncoded inPath last = last := percentEncoded_eq_self fun c hc => (hplain c hc).2
  have hcut : cutAtSlashes last = [last] := cutAtSlashes_eq_singleton fun c hc => (hplain c hc).1
  obtain ⟨above, habove⟩ := pathSegments_behind path
  exact ⟨above.reverse.map String.ofList, by rw [habove, hencoded, hcut, walk, hdots]; simp⟩

include hplain hdots in
/-- A plain last segment is at the end of the address. -/
theorem text_at_endsWith (scheme : String) (credentials : Option Credentials) (host : String) (port : Option Nat)
    (hpath : ∀ c ∈ path, isMark c = false) :
    last <:+ (Url.at scheme credentials host port (path ++ '/' :: last)).text.toList := by
  have hmarks : ∀ c ∈ path ++ '/' :: last, isMark c = false := by
    intro c hc
    rcases List.mem_append.mp hc with hc | hc
    · exact hpath c hc
    · rcases List.mem_cons.mp hc with rfl | hc
      · rfl
      · exact isMark_of_not_inPath (hplain c hc).2
  obtain ⟨front, hsegments⟩ := pathSegments_append path hplain hdots
  have hat : Url.at scheme credentials host port (path ++ '/' :: last) =
      ⟨scheme, host, port, front ++ [String.ofList last], none, none, credentials⟩ := by
    rw [Url.at, cutAt_eq_self hmarks, ← hsegments]
    rfl
  have htext : (Url.at scheme credentials host port (path ++ '/' :: last)).text =
      scheme ++ "://" ++ host ++ port.elim "" (fun p => s!":{p}") ++ String.join (front.map ("/" ++ ·)) ++ "/" ++
        String.ofList last := by
    rw [hat, Url.text, List.map_append, String.join_append, List.map_singleton]
    simp [String.append_assoc, String.join_cons, String.join_nil]
  rw [htext, String.toList_append, String.toList_ofList]
  exact List.suffix_append _ _

include hplain hdots in
/-- A folder below a base holds what is named by a plain segment, at an address with that at its end. -/
theorem IsBase.read_plain {base : String} (h : IsBase toAscii base) (folder : String)
    (hfolder : folder.toList.all (fun c => !isEdge c && !isMark c) = true) (hedge : ∀ c ∈ last, isEdge c = false) :
    ∃ url, Url.read toAscii (base ++ "/" ++ (folder ++ "/" ++ String.ofList last)) = some url ∧ last <:+ url.text.toList := by
  obtain ⟨scheme, credentials, host, port, behind, hbehind, hread⟩ := h.read
  have hplainFolder : ∀ c ∈ folder.toList, isEdge c = false ∧ isMark c = false := by simpa using hfolder
  have hchars : (folder ++ "/" ++ String.ofList last).toList = folder.toList ++ '/' :: last := by
    simp
  have hsettled : settled (folder.toList ++ '/' :: last) = folder.toList ++ '/' :: last := by
    refine settled_eq_self fun c hc => ?_
    rcases List.mem_append.mp hc with hc | hc
    · exact (hplainFolder c hc).1
    · rcases List.mem_cons.mp hc with rfl | hc
      · rfl
      · exact hedge c hc
  have hpath : behind ++ '/' :: (folder.toList ++ '/' :: last) = (behind ++ '/' :: folder.toList) ++ '/' :: last := by
    rw [List.append_assoc, List.cons_append]
  have hmarks : ∀ c ∈ behind ++ '/' :: folder.toList, isMark c = false := by
    intro c hc
    rcases List.mem_append.mp hc with hc | hc
    · exact hbehind c hc
    · rcases List.mem_cons.mp hc with rfl | hc
      · rfl
      · exact (hplainFolder c hc).2
  refine ⟨_, hread _, ?_⟩
  rw [hchars, hsettled, hpath]
  exact text_at_endsWith _ hplain hdots scheme credentials host port hmarks

end Last

end Colloquy.Http
