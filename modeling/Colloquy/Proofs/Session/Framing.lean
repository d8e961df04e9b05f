import Mathlib.Data.List.Basic
import Colloquy.Session.Stdio
import Colloquy.Proofs.Server.Serving

/-! Frames on the way between a client and its child process. What one side writes, the other reads, in whatever
pieces it comes and whatever blank lines stand between: the server answers frame by frame (`serveLines_spaced`), and
the client receives frame by frame and then the end of the stream (`receiveMany_spaced`). -/

namespace Colloquy.Session.Stdio

open Text Server Rpc

/-! ### Lines on the way -/

def Pipe.sendAll (p : Pipe) (frames : List Json) : Pipe := frames.foldl (fun p frame => (p.send frame).2) p

/-- Everything that is received in so many waits. -/
def Pipe.receiveMany : Nat → Pipe → List Arrival
  | 0, _ => []
  | n + 1, p => p.receive.1 :: receiveMany n p.receive.2

/-- The line is no longer than lines from the child may be. -/
def Fits (line : String) : Prop := lineLength (utf8Bytes line) ≤ frameLimit

/-- Lines, and the same lines with blank ones between them. -/
inductive Spaced : List String → List String → Prop where
  | none : Spaced [] []
  | line {line : String} {lines spaced : List String} (h : Spaced lines spaced) :
      Spaced (line :: lines) (line :: spaced)
  | blank {text : String} {lines spaced : List String} (hblank : isAllBlank text = true) (htext : '\n' ∉ text.toList)
      (h : Spaced lines spaced) : Spaced lines ((text ++ "\n") :: spaced)

theorem Spaced.refl : ∀ lines : List String, Spaced lines lines
  | [] => .none
  | _ :: lines => .line (Spaced.refl lines)

theorem written_sendAll {p : Pipe} (hopen : p.closed = false) (frames : List Json) :
    (p.sendAll frames).written = (frames.map frameLine).reverse ++ p.written := by
  induction frames generalizing p with
  | nil => rfl
  | cons frame frames ih =>
      have hsend : (p.send frame).2 = { p with written := frameLine frame :: p.written } := by
        simp [Pipe.send, hopen]
      have hrest := ih (p := { p with written := frameLine frame :: p.written }) hopen
      rw [Pipe.sendAll, List.foldl_cons, hsend]
      exact hrest.trans (by simp)

/-- The line ends with a newline and has no other. -/
def IsLine (line : String) : Prop := ∃ text : String, line = text ++ "\n" ∧ '\n' ∉ text.toList

theorem isLine_frameLine (frame : Json) : IsLine (frameLine frame) :=
  ⟨frame.compact, rfl, Json.newline_not_mem_compact frame⟩

theorem Spaced.isLine {lines spaced : List String} (h : Spaced lines spaced) (hlines : ∀ line ∈ lines, IsLine line) :
    ∀ line ∈ spaced, IsLine line := by
  induction h with
  | none => exact hlines
  | line _ ih =>
      obtain ⟨hline, hrest⟩ := List.forall_mem_cons.mp hlines
      exact List.forall_mem_cons.mpr ⟨hline, ih hrest⟩
  | @blank text _ _ _ htext _ ih => exact List.forall_mem_cons.mpr ⟨⟨text, rfl, htext⟩, ih hlines⟩

theorem rawLines_join {lines : List String} (h : ∀ line ∈ lines, IsLine line) :
    rawLines (utf8Bytes (String.join lines)) = lines.map utf8Bytes := by
  induction lines with
  | nil =>
      rw [String.join_nil, utf8Bytes_eq]
      rfl
  | cons line lines ih =>
      obtain ⟨⟨text, rfl, htext⟩, hrest⟩ := List.forall_mem_cons.mp h
      have hbytes : utf8Bytes (String.join ((text ++ "\n") :: lines)) =
          utf8Bytes text ++ newline :: utf8Bytes (String.join lines) := by
        rw [String.join_cons, utf8Bytes_append, utf8Bytes_append, utf8Bytes_newline, List.append_assoc]
        rfl
      rw [hbytes, rawLines_line (by rwa [newline_mem_utf8Bytes]), ih hrest, List.map_cons, utf8Bytes_append,
        utf8Bytes_newline]

/-! ### What a line holds -/

theorem isBlank_visible {c : Char} (h : Json.IsVisible c) : isBlank c = false := by
  obtain ⟨hlow, hhigh⟩ := h
  simp only [isBlank, Ranges.holds, blankRanges, List.any_cons, List.any_nil, Bool.or_false, Bool.or_eq_false_iff,
    Bool.and_eq_false_iff, decide_eq_false_iff_not]
  omega

theorem isAllBlank_compact {v : Json} (h : v.Portable) : isAllBlank v.compact = false := by
  obtain ⟨c, cs, htext, hvisible, -⟩ := Json.Reader.compactChars_head h.numbers []
  rw [isAllBlank, String.all_bool_eq, Json.compact, String.toList_ofList, htext, List.all_cons,
    isBlank_visible hvisible, Bool.false_and]

theorem read_frameLine {v : Json} (h : v.Portable) :
    isAllBlank (frameLine v) = false ∧ Json.read (frameLine v) = .ok v.sorted := by
  obtain ⟨hblank, hread⟩ := read_append_end v.compact .newline
  rw [isAllBlank_compact h] at hblank
  rw [Json.read_compact h] at hread
  exact ⟨hblank, Json.toOption_read.mp hread⟩

/-! ### The client's side -/

/-- A line without what ends it. -/
theorem lineContent_text (line : String) : ∃ t, utf8Text (lineContent (utf8Bytes line)) = .ok t ∧
    isAllBlank t = isAllBlank line ∧ (Json.read t).toOption = (Json.read line).toOption := by
  obtain ⟨ending, hending, hline⟩ := lineContent_append (utf8Bytes line)
  obtain ⟨t, rfl, ht⟩ := hending.cut hline
  obtain ⟨hblank, hread⟩ := read_append_end t hending
  exact ⟨t, utf8Text_eq_ok_iff.mpr ht.symm, hblank.symm, hread.symm⟩

theorem firstFrame_blank {line : String} (hblank : isAllBlank line = true) (hfits : Fits line) (rest : List Bytes) :
    firstFrame (utf8Bytes line :: rest) = firstFrame rest := by
  obtain ⟨t, htext, ht, -⟩ := lineContent_text line
  rw [firstFrame, if_neg (Nat.not_lt.mpr hfits), htext]
  simp only [ht, hblank, if_true]

theorem firstFrame_value {line : String} {value : Json} (hblank : isAllBlank line = false)
    (hread : Json.read line = .ok value) (hfits : Fits line) (rest : List Bytes) :
    firstFrame (utf8Bytes line :: rest) = (.frame value, false, rest) := by
  obtain ⟨t, htext, ht, hreads⟩ := lineContent_text line
  have hvalue : Json.read t = .ok value := Json.toOption_read.mp (hreads.trans (Json.toOption_read.mpr hread))
  rw [firstFrame, if_neg (Nat.not_lt.mpr hfits), htext]
  simp only [ht, hblank, hvalue, Bool.false_eq_true, if_false]

/-- What is received from a stream of lines, wait by wait: the frames, and then that the stream has ended. -/
def Receives (lines : List Bytes) (frames : List Json) : Prop :=
  ∀ k, Pipe.receiveMany (frames.length + k) { incoming := lines } = frames.map .frame ++ List.replicate k .endOfStream

theorem receive_eq (lines : List Bytes) : Pipe.receive { incoming := lines } =
    ((firstFrame lines).1, { incoming := (firstFrame lines).2.2, stumbled := (firstFrame lines).2.1 }) := rfl

theorem receives_nil : Receives [] [] := by
  intro k
  induction k with
  | zero => rfl
  | succ k ih => exact congrArg (Arrival.endOfStream :: ·) ih

theorem receives_blank {line : String} {rest : List Bytes} {frames : List Json} (hblank : isAllBlank line = true)
    (hfits : Fits line) (h : Receives rest frames) : Receives (utf8Bytes line :: rest) frames := by
  have hsame (n : Nat) : Pipe.receiveMany n { incoming := utf8Bytes line :: rest } =
      Pipe.receiveMany n { incoming := rest } := by
    cases n with
    | zero => rfl
    | succ n => rw [Pipe.receiveMany, Pipe.receiveMany, receive_eq, receive_eq, firstFrame_blank hblank hfits]
  intro k
  rw [hsame, h]

theorem receives_frame {v : Json} (hv : v.Portable) (hfits : Fits (frameLine v)) {rest : List Bytes}
    {frames : List Json} (h : Receives rest frames) :
    Receives (utf8Bytes (frameLine v) :: rest) (v.sorted :: frames) := by
  obtain ⟨hblank, hread⟩ := read_frameLine hv
  intro k
  rw [List.length_cons, Nat.add_right_comm, Pipe.receiveMany, receive_eq, firstFrame_value hblank hread hfits,
    List.map_cons, List.cons_append, ← h k]

theorem receives_spaced {lines spaced : List String} (hspaced : Spaced lines spaced)
    (hfits : ∀ line ∈ spaced, Fits line) {frames : List Json} (hlines : lines = frames.map frameLine)
    (hframes : ∀ v ∈ frames, v.Portable) :
    Receives (spaced.map utf8Bytes) (frames.map Json.sorted) := by
  induction hspaced generalizing frames with
  | none =>
      obtain rfl := List.map_eq_nil_iff.mp hlines.symm
      exact receives_nil
  | line _ ih =>
      obtain ⟨v, frames, rfl, rfl, rfl⟩ := List.map_eq_cons_iff.mp hlines.symm
      obtain ⟨hv, hrest⟩ := List.forall_mem_cons.mp hframes
      obtain ⟨hline, hmore⟩ := List.forall_mem_cons.mp hfits
      exact receives_frame hv hline (ih hmore rfl hrest)
  | @blank text _ _ hblank _ _ ih =>
      obtain ⟨hline, hmore⟩ := List.forall_mem_cons.mp hfits
      exact receives_blank ((read_append_end text .newline).1.trans hblank) hline (ih hmore hlines hframes)

/-! ### The server's side -/

variable {m : Type → Type} [Monad m] [LawfulMonad m]

/-- Answers frames one after another. -/
def answerFrames (h : Handler m) (who : Identity) : List Json → m (List String)
  | [] => pure []
  | frame :: frames => do
    let response ← answerFrame h who frame
    let lines ← answerFrames h who frames
    return (response.map responseLine).toList ++ lines

theorem serveLines_spaced (h : Handler m) (who : Identity) {lines spaced : List String} (hspaced : Spaced lines spaced)
    {frames : List Json} (hlines : lines = frames.map frameLine) (hframes : ∀ v ∈ frames, v.Portable) :
    serveLines h who (spaced.map utf8Bytes) =
      (fun lines => ⟨lines, none⟩) <$> answerFrames h who (frames.map Json.sorted) := by
  induction hspaced generalizing frames with
  | none =>
      obtain rfl := List.map_eq_nil_iff.mp hlines.symm
      simp [serveLines, answerFrames]
  | line _ ih =>
      obtain ⟨v, frames, rfl, rfl, rfl⟩ := List.map_eq_cons_iff.mp hlines.symm
      obtain ⟨hv, hrest⟩ := List.forall_mem_cons.mp hframes
      obtain ⟨hblank, hread⟩ := read_frameLine hv
      have hanswer : answerLine h who (frameLine v) = answerFrame h who v.sorted := by
        rw [answerLine, hblank, hread]
        rfl
      rw [List.map_cons, serveLines, utf8Text_utf8Bytes, ih rfl hrest]
      simp [answerFrames, hanswer]
  | @blank text _ _ hblank _ _ ih =>
      have hanswer : answerLine h who (text ++ "\n") = pure none := by
        rw [answerLine, (read_append_end text .newline).1, hblank]
        rfl
      rw [List.map_cons, serveLines, utf8Text_utf8Bytes, ih hlines hframes]
      simp [hanswer]

/-- A server writes responses and nothing else. -/
theorem serveLines_responses {σ : Type} (h : Handler (StateM σ)) (who : Identity) (lines : List Bytes) (s : σ) :
    ∃ responses : List Response, ((serveLines h who lines).run s).1.lines = responses.map responseLine := by
  induction lines generalizing s with
  | nil => exact ⟨[], rfl⟩
  | cons line rest ih =>
      rw [serveLines]
      cases utf8Text line with
      | error fault => exact ⟨[], rfl⟩
      | ok text =>
          obtain ⟨responses, hrest⟩ := ih ((answerLine h who text).run s).2
          refine ⟨((answerLine h who text).run s).1.toList ++ responses, ?_⟩
          rw [List.map_append, ← hrest]
          show (((answerLine h who text).run s).1.map responseLine).toList ++ _ = _
          cases ((answerLine h who text).run s).1 <;> rfl

/-! ### There and back -/

theorem rawLines_spaced {frames : List Json} {spaced : List String} (hspaced : Spaced (frames.map frameLine) spaced)
    {pieces : List Bytes} (hpieces : pieces.flatten = utf8Bytes (String.join spaced)) :
    rawLines pieces.flatten = spaced.map utf8Bytes := by
  rw [hpieces]
  refine rawLines_join (hspaced.isLine fun line hline => ?_)
  obtain ⟨v, -, rfl⟩ := List.mem_map.mp hline
  exact isLine_frameLine v

theorem receives_pieces {frames : List Json} {spaced : List String} (hspaced : Spaced (frames.map frameLine) spaced)
    {pieces : List Bytes} (hpieces : pieces.flatten = utf8Bytes (String.join spaced))
    (hframes : ∀ v ∈ frames, v.Portable) (hfits : ∀ line ∈ spaced, Fits line) :
    Receives (linesOf [] pieces) (frames.map Json.sorted) := by
  rw [linesOf_eq, rawLines_spaced hspaced hpieces]
  exact receives_spaced hspaced hfits rfl hframes

/-- What one side writes, the other reads. The lines of frames that were sent, with blank lines between them and cut
into any pieces, reach a server and a client as these frames, and the lines that a server has written for whatever
stream reach a client as its responses. -/
theorem framing_round_trip {frames : List Json} {spaced : List String} {pieces : List Bytes}
    (hframes : ∀ v ∈ frames, v.Portable ∧ v.Canonical)
    (hspaced : Spaced (Pipe.sendAll { incoming := [] } frames).written.reverse spaced)
    (hpieces : pieces.flatten = utf8Bytes (String.join spaced)) :
    (∀ (m : Type → Type) [Monad m] [LawfulMonad m] (h : Handler m) (who : Identity),
        serve h who pieces.flatten = (fun lines => ⟨lines, none⟩) <$> answerFrames h who frames ∧
          servePieces h who [] pieces = (fun lines => ⟨lines, none⟩) <$> answerFrames h who frames) ∧
      ((∀ line ∈ spaced, Fits line) → Receives (linesOf [] pieces) frames) ∧
        ∀ (σ : Type) (h : Handler (StateM σ)) (who : Identity) (input : List Bytes) (s : σ) (served : Served) (s' : σ),
          (serve h who input.flatten).run s = (served, s') →
            (servePieces h who [] input).run s = (served, s') ∧
              ∃ responses : List Response, served.lines = responses.map responseLine ∧
                ((∀ r ∈ responses, r.toJson.Portable ∧ Fits (responseLine r)) → ∀ output : List Bytes,
                  output.flatten = utf8Bytes served.output →
                    Receives (linesOf [] output) (responses.map fun r => r.toJson.sorted)) := by
  rw [written_sendAll rfl, List.append_nil, List.reverse_reverse] at hspaced
  have hportable : ∀ v ∈ frames, v.Portable := fun v hv => (hframes v hv).1
  have hsorted : frames.map Json.sorted = frames :=
    (List.map_congr_left fun v hv => (hframes v hv).2).trans (List.map_id frames)
  refine ⟨fun m _ _ h who => ?_, fun hfits => ?_, fun σ h who input s served s' hrun => ?_⟩
  · have hserve : serve h who pieces.flatten = (fun lines => ⟨lines, none⟩) <$> answerFrames h who frames := by
      rw [serve, rawLines_spaced hspaced hpieces, serveLines_spaced h who hspaced rfl hportable, hsorted]
    exact ⟨hserve, (servePieces_eq h who pieces).trans hserve⟩
  · have hreceives := receives_pieces hspaced hpieces hportable hfits
    rwa [hsorted] at hreceives
  · obtain ⟨responses, hlines⟩ := serveLines_responses h who (rawLines input.flatten) s
    have hserved : served.lines = responses.map responseLine := by
      rw [← hlines, ← serve, hrun]
    refine ⟨by rw [servePieces_eq, hrun], responses, hserved, fun hresponses output houtput => ?_⟩
    have hwritten : served.lines = (responses.map Response.toJson).map frameLine := by
      rw [hserved, List.map_map]
      rfl
    rw [Served.output, hwritten] at houtput
    have hreceives := receives_pieces (Spaced.refl _) houtput
      (List.forall_mem_map.mpr fun r hr => (hresponses r hr).1) ?_
    · rwa [List.map_map] at hreceives
    · rw [← hwritten, hserved]
      exact List.forall_mem_map.mpr fun r hr => (hresponses r hr).2

/-- A text of two lines stays one frame, with a blank line in front and a cut in the middle. -/
theorem framing_round_trip_two_lines :
    Receives (linesOf [] [utf8Bytes "\n\x7b\"note\":\"one", utf8Bytes "\\ntwo\"\x7d\n"])
      [.obj [("note", .str "one\ntwo")]] := by
  have hframes : ∀ v ∈ [Json.obj [("note", .str "one\ntwo")]], v.Portable ∧ v.Canonical := by
    intro v hv
    obtain rfl := List.mem_singleton.mp hv
    exact ⟨⟨by decide, nofun, nofun⟩, rfl⟩
  have hspaced : Spaced (Pipe.sendAll { incoming := [] } [.obj [("note", .str "one\ntwo")]]).written.reverse
      ["" ++ "\n", "\x7b\"note\":\"one\\ntwo\"\x7d\n"] :=
    .blank (by rw [isAllBlank, String.all_bool_eq]; rfl) (by decide) (.line .none)
  have hfits : ∀ line ∈ ["" ++ "\n", "\x7b\"note\":\"one\\ntwo\"\x7d\n"], Fits line := by
    simp only [List.forall_mem_cons, Fits, utf8Bytes_eq]
    decide
  have hpieces : [utf8Bytes "\n\x7b\"note\":\"one", utf8Bytes "\\ntwo\"\x7d\n"].flatten =
      utf8Bytes (String.join ["" ++ "\n", "\x7b\"note\":\"one\\ntwo\"\x7d\n"]) := by
    simp only [utf8Bytes_eq]
    decide
  exact (framing_round_trip hframes hspaced hpieces).2.1 hfits

end Colloquy.Session.Stdio
