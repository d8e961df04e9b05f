import Mathlib.Data.List.Basic
import Colloquy.Json.Reader

/-! The reader over a whole text. Blanks behind a text change nothing about the value in it
(`read_append_blanks`). -/

namespace Colloquy.Json

namespace Reader

/-- Takes one character after the other. -/
def run (r : Reader) (cs : List Char) : Reader := cs.foldl feed r

theorem run_nil (r : Reader) : r.run [] = r := rfl

theorem run_cons (r : Reader) (c : Char) (cs : List Char) : r.run (c :: cs) = (r.feed c).run cs := rfl

theorem run_append (r : Reader) (cs more : List Char) : r.run (cs ++ more) = (r.run cs).run more :=
  List.foldl_append

theorem run_failed (cs : List Char) : failed.run cs = failed := by
  induction cs with
  | nil => rfl
  | cons c cs ih => exact ih

/-! ### Blanks behind a text -/

theorem isBlank_iff {c : Char} : isBlank c = true ↔ c = ' ' ∨ c = '\t' ∨ c = '\n' ∨ c = '\r' := by
  simp [isBlank, or_assoc]

/-- The words that are read hold no blanks. -/
def Plain : Reader → Prop
  | .reading _ (.word rest _) => ∀ d ∈ rest, isBlank d = false
  | _ => True

theorem plain_openContainer (stack : List Frame) (frame : Frame) : Plain (openContainer stack frame .firstItem) ∧
    Plain (openContainer stack frame .firstKey) := by
  unfold openContainer
  split <;> exact ⟨trivial, trivial⟩

theorem plain_feedValue (stack : List Frame) (c : Char) : Plain (feedValue stack c) := by
  unfold feedValue
  split
  · exact (plain_openContainer stack _).1
  · exact (plain_openContainer stack _).2
  · trivial
  · exact (by simp [isBlank] : ∀ d ∈ ['u', 'l', 'l'], isBlank d = false)
  · exact (by simp [isBlank] : ∀ d ∈ ['r', 'u', 'e'], isBlank d = false)
  · exact (by simp [isBlank] : ∀ d ∈ ['a', 'l', 's', 'e'], isBlank d = false)
  · split <;> trivial

theorem plain_feedAfter (stack : List Frame) (done : Json) (c : Char) : Plain (feedAfter stack done c) := by
  unfold feedAfter
  split
  · trivial
  · split <;> trivial

theorem plain_closeText (stack : List Frame) (role : StringRole) (soFar : List Char) :
    Plain (closeText stack role soFar) := by
  unfold closeText
  dsimp only
  split <;> trivial

theorem plain_closeHex (stack : List Frame) (role : StringRole) (soFar : List Char) (high : Option Nat) (unit : Nat) :
    Plain (closeHex stack role soFar high unit) := by
  unfold closeHex
  split
  · split <;> trivial
  · split
    · trivial
    · split <;> trivial

theorem plain_badHex (stack : List Frame) (left : Nat) (c : Char) : Plain (badHex stack left c) := by
  unfold badHex
  split <;> trivial

theorem Plain.feed {r : Reader} (h : r.Plain) (c : Char) : (r.feed c).Plain := by
  cases r with
  | failed => trivial
  | reading stack expecting =>
    cases expecting with
    | value =>
        rw [Reader.feed]
        split
        · trivial
        · exact plain_feedValue stack c
    | firstItem =>
        rw [Reader.feed]
        split
        · trivial
        · split
          · trivial
          · exact plain_feedValue stack c
    | after done => exact plain_feedAfter stack done c
    | text role soFar =>
        rw [Reader.feed]
        split
        · exact plain_closeText stack role soFar
        · split
          · trivial
          · split <;> trivial
    | hex role soFar high count value =>
        rw [Reader.feed]
        split
        · exact plain_badHex stack _ c
        · dsimp only
          split
          · trivial
          · exact plain_closeHex stack role soFar high _
    | badHex left => exact plain_badHex stack left c
    | number n =>
        rw [Reader.feed]
        split
        · trivial
        · split
          · exact plain_feedAfter stack _ c
          · trivial
    | word rest value =>
        unfold Reader.feed
        dsimp only
        split
        · split <;> trivial
        · split
          · exact fun d hd => h d (List.mem_cons_of_mem _ hd)
          · trivial
        · trivial
    | _ =>
        rw [Reader.feed]
        repeat' split
        all_goals trivial

theorem plain_run {r : Reader} (h : r.Plain) (cs : List Char) : (r.run cs).Plain := by
  induction cs generalizing r with
  | nil => exact h
  | cons c cs ih => exact ih (h.feed c)

/-- No number goes on with a blank. -/
theorem next?_blank (n : NumberSoFar) {c : Char} (hc : isBlank c = true) : n.next? c = none := by
  obtain rfl | rfl | rfl | rfl := isBlank_iff.mp hc <;>
  · unfold NumberSoFar.next?
    cases n.place <;> rfl

theorem feedAfter_blank (stack : List Frame) (done : Json) {c : Char} (hc : isBlank c = true) :
    feedAfter stack done c = .reading stack (.after done) := by
  unfold feedAfter
  rw [if_pos hc]

/-- There is a value at the end only behind one, or behind a number. -/
theorem finish_unfinished (stack : List Frame) {expecting : Expecting} (hafter : ∀ done, expecting ≠ .after done)
    (hnumber : ∀ n, expecting ≠ .number n) : (Reader.reading stack expecting).finish.toOption = none := by
  unfold finish
  split
  · rename_i h
    exact absurd (Reader.reading.inj h).2 (hafter _)
  · rename_i h
    exact absurd (Reader.reading.inj h).2 (hnumber _)
  · rfl
  · rfl

theorem finish_badHex (stack : List Frame) (left : Nat) (c : Char) : (badHex stack left c).finish.toOption = none := by
  unfold badHex
  split
  · exact finish_unfinished stack nofun nofun
  · rfl

/-- A blank does not end a word. -/
theorem finish_feed_word {stack : List Frame} {rest : List Char} {value : Json} {c : Char}
    (h : ∀ d ∈ rest, isBlank d = false) (hc : isBlank c = true) :
    ((Reader.reading stack (.word rest value)).feed c).finish.toOption = none := by
  have hne {d : Char} (hd : d ∈ rest) : ¬(c == d) = true := by
    intro hcd
    rw [eq_of_beq hcd, h d hd] at hc
    cases hc
  unfold feed
  dsimp only
  split
  · rw [if_neg (hne List.mem_cons_self)]
    rfl
  · rw [if_neg (hne List.mem_cons_self)]
    rfl
  · rfl

theorem finish_feed_number (stack : List Frame) (n : NumberSoFar) {c : Char} (hc : isBlank c = true) :
    ((Reader.reading stack (.number n)).feed c).finish.toOption =
      (Reader.reading stack (.number n)).finish.toOption := by
  rw [feed, next?_blank n hc]
  dsimp only
  cases stack <;> cases hcomplete : n.isComplete <;> cases hvalue : n.value? <;>
    simp [feedAfter_blank, hc, finish, hcomplete, hvalue, Except.toOption]

theorem finish_feed_blank {r : Reader} (h : r.Plain) {c : Char} (hc : isBlank c = true) :
    (r.feed c).finish.toOption = r.finish.toOption := by
  cases r with
  | failed => rfl
  | reading stack expecting =>
    -- Behind a value or a number a blank is passed over, and elsewhere there is no value before it nor after.
    by_cases hafter : ∃ done, expecting = .after done
    · obtain ⟨done, rfl⟩ := hafter
      exact congrArg (fun r => r.finish.toOption) (feedAfter_blank stack done hc)
    · by_cases hnumber : ∃ n, expecting = .number n
      · obtain ⟨n, rfl⟩ := hnumber
        exact finish_feed_number stack n hc
      · rw [finish_unfinished stack (not_exists.mp hafter) (not_exists.mp hnumber)]
        cases expecting with
        | after done => exact absurd ⟨done, rfl⟩ hafter
        | number n => exact absurd ⟨n, rfl⟩ hnumber
        | word rest value => exact finish_feed_word h hc
        | badHex left => exact finish_badHex stack left c
        | hex role soFar high count value =>
            obtain rfl | rfl | rfl | rfl := isBlank_iff.mp hc <;> exact finish_badHex stack (4 - count) _
        | text role soFar =>
            obtain rfl | rfl | rfl | rfl := isBlank_iff.mp hc
            · exact finish_unfinished stack nofun nofun
            all_goals rfl
        | escape role soFar => obtain rfl | rfl | rfl | rfl := isBlank_iff.mp hc <;> rfl
        | secondBackslash role soFar high => obtain rfl | rfl | rfl | rfl := isBlank_iff.mp hc <;> rfl
        | secondMark role soFar high => obtain rfl | rfl | rfl | rfl := isBlank_iff.mp hc <;> rfl
        | _ =>
            rw [feed, if_pos hc]
            exact finish_unfinished stack nofun nofun

theorem finish_run_blanks {r : Reader} (h : r.Plain) {cs : List Char} (hcs : ∀ c ∈ cs, isBlank c = true) :
    (r.run cs).finish.toOption = r.finish.toOption := by
  induction cs generalizing r with
  | nil => rfl
  | cons c cs ih =>
      obtain ⟨hc, hrest⟩ := List.forall_mem_cons.mp hcs
      rw [run_cons, ih (h.feed c) hrest, finish_feed_blank h hc]

end Reader

theorem read_eq (s : String) : read s = (Reader.start.run s.toList).finish := by
  rw [read, String.foldl_eq_foldl_toList]
  rfl

theorem toOption_read {s : String} {v : Json} : (read s).toOption = some v ↔ read s = .ok v := by
  cases read s <;> simp [Except.toOption]

theorem read_append_blanks (s : String) {blanks : String} (h : ∀ c ∈ blanks.toList, Reader.isBlank c = true) :
    (read (s ++ blanks)).toOption = (read s).toOption := by
  rw [read_eq, read_eq, String.toList_append, Reader.run_append]
  exact Reader.finish_run_blanks (Reader.plain_run (show Reader.start.Plain from trivial) s.toList) h

end Colloquy.Json
