import Colloquy.Proofs.Session.Line

/-! The stream of frames that a client writes. The mark that a frame is being written stands exactly while
one is under way or was left half written, and then that one is the last (`Moves.standing`). So a frame is
started only after all before it went out in full, and once one did not, whoever gets the session learns
that it is of no use (`stream_kept_whole`). -/

namespace Colloquy.Session

open Rpc

/-- Nothing is being written: all frames went out in full, but for the last one if the mark stands. -/
inductive Resting : Bool → List Attempt → Prop where
  | whole {all : List Attempt} (hall : Whole all) : Resting false all
  | broken {a : Attempt} {before : List Attempt} (ha : a.fate = .failed ∨ a.fate = .abandoned)
      (hbefore : Whole before) : Resting true (a :: before)

/-- How the first in line, the mark and the attempts fit what the client is doing. -/
inductive Standing : Activity → List Caller → Bool → List Attempt → Prop where
  | idle {line : List Caller} {mid : Bool} {all : List Attempt} (hall : Resting mid all) : Standing .idle line mid all
  | closing {first : Caller} {rest : List Caller} {mid : Bool} {all : List Attempt} (hjob : first.job = .close)
      (hall : Resting mid all) : Standing .closing (first :: rest) mid all
  | writing {first : Caller} {rest : List Caller} {before : List Attempt} (hbefore : Whole before) :
      Standing .writing (first :: rest) true (⟨first.frame, .pending⟩ :: before)
  | rejecting {first : Caller} {rest : List Caller} {frame : Json} {before : List Attempt}
      (hsent : ⟨first.frame, .complete⟩ ∈ before) (hbefore : Whole before) :
      Standing .rejecting (first :: rest) true (⟨frame, .pending⟩ :: before)
  | reading {first : Caller} {rest : List Caller} {all : List Attempt} (hsent : ⟨first.frame, .complete⟩ ∈ all)
      (hall : Whole all) : Standing .reading (first :: rest) false all

variable {activity : Activity} {line : List Caller} {mid : Bool} {all : List Attempt} {fate : Fate}

theorem Resting.conclude (h : Resting mid all) : conclude fate all = all := by
  cases h with
  | whole hall => exact conclude_of_whole hall fate
  | @broken a before ha hbefore =>
      obtain ⟨frame, fate⟩ := a
      obtain rfl | rfl : fate = .failed ∨ fate = .abandoned := ha
      · rfl
      · rfl

theorem Resting.whole_iff (h : Resting mid all) : mid = false ↔ Whole all := by
  cases h with
  | whole hall => exact iff_of_true rfl hall
  | broken ha hbefore => exact iff_of_false nofun fun hall => hall.not_broken ⟨_, List.mem_cons_self, ha⟩

theorem Resting.broken_iff (h : Resting mid all) : mid = true ↔ Broken all := by
  cases h with
  | whole hall => exact iff_of_false nofun hall.not_broken
  | broken ha hbefore => exact iff_of_true rfl ⟨_, List.mem_cons_self, ha⟩

namespace Standing

theorem resting (h : Standing activity line mid all) (hwrites : ¬activity.Writes) : Resting mid all := by
  cases h with
  | idle hall => exact hall
  | closing hjob hall => exact hall
  | reading hsent hall => exact .whole hall
  | writing => exact absurd trivial hwrites
  | rejecting => exact absurd trivial hwrites

theorem idle_of_nobody (h : Standing activity [] mid all) : activity = .idle := by
  cases h
  rfl

theorem whole (h : Standing .reading line mid all) : Whole all := by
  cases h with
  | reading hsent hall => exact hall

theorem sent {first : Caller} (h : Standing .reading line mid all) (hfirst : line.head? = some first) :
    ⟨first.frame, .complete⟩ ∈ all := by
  cases h with
  | reading hsent hall => exact Option.some.inj hfirst ▸ hsent

theorem closes {first : Caller} (h : Standing .closing line mid all) (hfirst : line.head? = some first) :
    first.job = .close := by
  cases h with
  | closing hjob hall => exact Option.some.inj hfirst ▸ hjob

/-- A frame that fails or is given up was the last. -/
theorem resting_conclude (h : Standing activity line mid all) (hfate : fate = .failed ∨ fate = .abandoned) :
    Resting mid (conclude fate all) := by
  cases h with
  | writing hbefore => exact .broken hfate hbefore
  | rejecting hsent hbefore => exact .broken hfate hbefore
  | idle hall => rwa [hall.conclude]
  | closing hjob hall => rwa [hall.conclude]
  | reading hsent hall =>
      rw [conclude_of_whole hall]
      exact .whole hall

/-- What is said of the first in line stays true while it is the first. -/
theorem of_head? {line' : List Caller} (h : Standing activity line mid all)
    (hfirst : ∀ first ∈ line.head?, first ∈ line'.head?) : Standing activity line' mid all := by
  cases h with
  | idle hall => exact .idle hall
  | @closing first rest mid all hjob hall =>
      obtain ⟨rest', rfl⟩ := List.head?_eq_some_iff.mp (hfirst first rfl)
      exact .closing hjob hall
  | @writing first rest before hbefore =>
      obtain ⟨rest', rfl⟩ := List.head?_eq_some_iff.mp (hfirst first rfl)
      exact .writing hbefore
  | @rejecting first rest frame before hsent hbefore =>
      obtain ⟨rest', rfl⟩ := List.head?_eq_some_iff.mp (hfirst first rfl)
      exact .rejecting hsent hbefore
  | @reading first rest all hsent hall =>
      obtain ⟨rest', rfl⟩ := List.head?_eq_some_iff.mp (hfirst first rfl)
      exact .reading hsent hall

theorem append (h : Standing activity line mid all) (more : List Caller) :
    Standing activity (line ++ more) mid all := by
  refine h.of_head? fun first hfirst => ?_
  rw [Option.mem_def] at hfirst ⊢
  rw [List.head?_append, hfirst]
  rfl

theorem written (h : Standing activity line mid all) (hwrites : activity.Writes) :
    Standing .reading line false (conclude .complete all) := by
  have hwhole {a : Attempt} {before : List Attempt} (ha : a.fate = .complete) (hbefore : Whole before) :
      Whole (a :: before) := List.forall_mem_cons.mpr ⟨ha, hbefore⟩
  cases h with
  | writing hbefore => exact .reading List.mem_cons_self (hwhole rfl hbefore)
  | rejecting hsent hbefore => exact .reading (List.mem_cons_of_mem _ hsent) (hwhole rfl hbefore)
  | _ => cases hwrites

theorem reject (h : Standing .reading line mid all) (frame : Json) :
    Standing .rejecting line true (⟨frame, .pending⟩ :: all) := by
  cases h with
  | reading hsent hall => exact .rejecting hsent hall

end Standing

variable {c c' : Client} {log more : Log}

/-- An event that does not fit changes nothing about the attempts either. -/
theorem Standing.noteAttempt_event {e : Event} (h : Standing activity line mid all)
    (hquiet : e.EndsWrite → activity.Writes → line = []) : noteAttempt all (.event e) = all := by
  have hconclude (hends : e.EndsWrite) (fate : Fate) : conclude fate all = all := by
    cases h with
    | writing => cases hquiet hends trivial
    | rejecting => cases hquiet hends trivial
    | idle hall => exact hall.conclude
    | closing hjob hall => exact hall.conclude
    | reading hsent hall => exact conclude_of_whole hall fate
  cases e with
  | written => exact hconclude trivial _
  | writeFailed reason => exact hconclude trivial _
  | _ => rfl

theorem Move.standing (hmove : Move c more c') (h : Standing c.activity c.line c.midFrame (attempts log)) :
    Standing c'.activity c'.line c'.midFrame (attempts (log ++ more)) := by
  rw [attempts_append]
  -- Only moves that take or give back the session touch what is said; the others change the log or the line.
  cases hmove with
  | pass hquiet =>
      rw [List.foldl_cons, h.noteAttempt_event hquiet]
      exact h
  | join => exact h.append _
  | turnPage => exact h.append _
  | joinToClose => exact h.append _
  | acceptWelcome => exact h.append _
  | begin hidle hline hjob hmid =>
      have hrest := h.resting (hidle ▸ not_false)
      rw [hline]
      exact .writing (hrest.whole_iff.mp hmid)
  | refuse hidle hline hjob hmid => exact hidle ▸ .idle (h.resting (hidle ▸ not_false))
  | close hidle hline hjob =>
      rw [hline]
      exact .closing hjob (h.resting (hidle ▸ not_false))
  | written hwrites => exact h.written hwrites
  | writeFailed hwrites => exact .idle (h.resting_conclude (.inl rfl))
  | reject hreading hmid =>
      rw [hreading] at h
      exact h.reject _
  | leave hwrites => exact .idle (h.resting hwrites)
  | abandon hrest => exact .idle (h.resting_conclude (.inr rfl))
  | thin hrest hfirst => exact h.of_head? fun first hmem => hfirst ▸ hmem
  | _ => exact h

theorem Moves.standing_from (h : Moves c more c') (hstart : Standing c.activity c.line c.midFrame (attempts log)) :
    Standing c'.activity c'.line c'.midFrame (attempts (log ++ more)) := by
  induction h with
  | none => rwa [List.append_nil]
  | step _ hmove ih =>
      rw [← List.append_assoc]
      exact hmove.standing ih

theorem Moves.standing {limit : Nat} (h : Moves { limit } log c) :
    Standing c.activity c.line c.midFrame (attempts log) :=
  h.standing_from (.idle (.whole nofun) : Standing _ _ _ (attempts []))

/-! ### What is started and what is answered -/

/-- A frame is started after whole ones only. On a broken stream, whoever gets the session is told so or
closes the transport, and only closing is answered with success. -/
def StreamRule (before : Log) : Mark → Log → Prop
  | .effect (.send _), _ => Whole (attempts before)
  | .effect (.hold t), after => Broken (attempts before) →
      after.head? = some (.effect (.answer t (.error .interrupted))) ∨
        .event (.ask t .close) ∈ before ∧ after.head? = some (.effect .close)
  | .effect (.answer t (.ok a)), _ => Broken (attempts before) → a = .done ∧ .event (.ask t .close) ∈ before
  | _, _ => True

theorem StreamRule.append {before after : Log} {m : Mark} (h : StreamRule before m after) (more : Log) :
    StreamRule before m (after ++ more) := by
  unfold StreamRule at h ⊢
  split at h
  · exact h
  · intro hbroken
    obtain hanswer | ⟨hask, hclose⟩ := h hbroken
    · exact .inl (by rw [List.head?_append, hanswer]; rfl)
    · exact .inr ⟨hask, by rw [List.head?_append, hclose]; rfl⟩
  · exact h
  · trivial

theorem Move.streamRule (hmove : Move c more c') (h : Standing c.activity c.line c.midFrame (attempts log))
    (hline : ∀ caller ∈ c.line, caller.Vouched log) : Throughout StreamRule log more := by
  cases hmove with
  | begin hidle hcaller hjob hmid =>
      have hwhole := (h.resting (hidle ▸ not_false)).whole_iff.mp hmid
      refine ⟨fun hbroken => absurd hbroken hwhole.not_broken, ?_, trivial⟩
      show Whole (attempts (log ++ _))
      rwa [attempts_append]
  | refuse => exact ⟨fun _ => .inl rfl, trivial, trivial⟩
  | @close first rest hidle hcaller hjob =>
      have hmem : first ∈ c.line := hcaller ▸ List.mem_cons_self
      exact ⟨fun _ => .inr ⟨(hline first hmem).close hjob, rfl⟩, trivial, trivial⟩
  | reject hreading hmid =>
      have hwhole := (h.resting (hreading ▸ not_false)).whole_iff.mp hmid
      refine ⟨trivial, ?_, trivial⟩
      show Whole (attempts (log ++ _))
      rwa [attempts_append]
  | acceptAndAnswer haccepts hread =>
      have hwhole := (haccepts.reading ▸ h).whole
      refine ⟨trivial, trivial, fun hbroken => absurd hbroken ?_, trivial⟩
      rw [attempts_append, attempts_append]
      exact hwhole.not_broken
  | welcome hreading hfirst hjob =>
      have hwhole := (hreading ▸ h).whole
      exact ⟨fun hbroken => absurd hbroken hwhole.not_broken, trivial⟩
  | @closed first hclosing hfirst =>
      have hjob := (hclosing ▸ h).closes hfirst
      exact ⟨fun _ => ⟨rfl, (hline first (List.mem_of_head? hfirst)).close hjob⟩, trivial⟩
  | join => exact ⟨trivial, trivial, trivial⟩
  | turnPage => exact ⟨trivial, trivial⟩
  | _ => simp [Throughout, StreamRule]

theorem Moves.streamRule {limit : Nat} (h : Moves { limit } log c) : Throughout StreamRule [] log := by
  induction h with
  | none => trivial
  | step hmoves hmove ih => exact ih.append StreamRule.append (hmove.streamRule hmoves.standing hmoves.vouched)

theorem Standing.whole_tail (h : Standing activity line mid all) : Whole all.tail := by
  have hresting {mid : Bool} {all : List Attempt} (h : Resting mid all) : Whole all.tail := by
    cases h with
    | whole hall => exact fun a ha => hall a (List.mem_of_mem_tail ha)
    | broken ha hbefore => exact hbefore
  cases h with
  | idle hall => exact hresting hall
  | closing hjob hall => exact hresting hall
  | writing hbefore => exact hbefore
  | rejecting hsent hbefore => exact hbefore
  | reading hsent hall => exact hresting (.whole hall)

/-- However the events fall, all frames but the last one go out in full, and a frame is started only when
those before it have. Once one went out in part, whoever gets the session is told that the stream is broken,
unless it closes the transport, and nobody is answered with success but who closes it. -/
theorem stream_kept_whole (limit : Nat) (events : List Event) :
    Whole (attempts (sessionLog limit events)).tail ∧
      (∀ before frame after, sessionLog limit events = before ++ .effect (.send frame) :: after →
        Whole (attempts before)) ∧
      (∀ before t after, sessionLog limit events = before ++ .effect (.hold t) :: after →
        Broken (attempts before) →
          after.head? = some (.effect (.answer t (.error .interrupted))) ∨
            .event (.ask t .close) ∈ before ∧ after.head? = some (.effect .close)) ∧
      ∀ before t a after, sessionLog limit events = before ++ .effect (.answer t (.ok a)) :: after →
        Broken (attempts before) → a = .done ∧ .event (.ask t .close) ∈ before := by
  have hmoves := log_moves { limit } events
  refine ⟨hmoves.standing.whole_tail, ?_, ?_, ?_⟩
  · intro before frame after hlog
    exact hmoves.streamRule.at hlog
  · intro before t after hlog
    exact hmoves.streamRule.at hlog
  · intro before t a after hlog
    exact hmoves.streamRule.at hlog

/-- The time of a request is up while it is being written; the next one is not sent any more. -/
example : (attempts (sessionLog 100 [.ask 0 .ping, .expired 0, .ask 1 .ping])).map (·.fate) = [.abandoned] := by decide

end Colloquy.Session
