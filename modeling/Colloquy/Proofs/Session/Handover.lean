import Colloquy.Proofs.Session.Stream

/-! Handing a session on among callers that make one request each, the last of whom may close the transport
(`Orderly`). While nobody turns up the line only gets shorter (`Moves.sublist`). Whoever gets the session
starts writing at once if the stream is whole (`Caller.Granted`), and once the transport was closed there is
nobody left to write to it (`Client.Over`). -/

namespace Colloquy.Session

/-- Nobody turns up. -/
def Unasked (log : Log) : Prop := ∀ t wish, Mark.event (.ask t wish) ∉ log

/-- All in line make a call, but the last one may close the transport. -/
structure Orderly (line : List Caller) : Prop where
  jobs : ∀ caller ∈ line, caller.job = .call ∨ caller.job = .close
  last : line.Pairwise fun caller _ => caller.job = .call

/-- The transport was closed and nobody is in line, or whoever closes it stands there alone. -/
def Client.Over (c : Client) : Prop :=
  c.line = [] ∧ c.activity = .idle ∨ ∃ closer, c.line = [closer] ∧ closer.job = .close ∧ c.activity = .closing

/-- What is done for a caller that gets the session, after some attempts at sending. -/
inductive Caller.Granted (all : List Attempt) (caller : Caller) : Option Mark → Prop where
  | close (hjob : caller.job = .close) : Granted all caller (some (.effect .close))
  | send (hjob : caller.job ≠ .close) (hall : Whole all) : Granted all caller (some (.effect (.send caller.frame)))
  | refuse (hjob : caller.job ≠ .close) (hall : Broken all) :
      Granted all caller (some (.effect (.answer caller.ticket (.error .interrupted))))

/-- Who gets the session was in line, and is served as it should be. Nothing is sent or closed after the
transport was closed, which takes somebody who closes it. -/
def HandoverRule (line : List Caller) (before : Log) (m : Mark) (after : Log) : Prop :=
  match m with
  | .effect (.hold t) => ∃ caller ∈ line, caller.ticket = t ∧ caller.Granted (attempts before) after.head?
  | .effect (.send _) => .effect .close ∉ before
  | .effect .close => .effect .close ∉ before ∧ ∃ caller ∈ line, caller.job = .close
  | _ => True

variable {c c' : Client} {line line' : List Caller} {log more : Log}

theorem HandoverRule.append {before after : Log} {m : Mark} (h : HandoverRule line before m after) (more : Log) :
    HandoverRule line before m (after ++ more) := by
  unfold HandoverRule at h ⊢
  split at h
  · obtain ⟨caller, hmem, hticket, hgranted⟩ := h
    refine ⟨caller, hmem, hticket, ?_⟩
    have hhead : (after ++ more).head? = after.head? := by
      cases after with
      | nil => cases hgranted
      | cons => rfl
    rwa [hhead]
  · exact h
  · exact h
  · trivial

namespace Orderly

theorem sublist (h : Orderly line) (hsub : List.Sublist line' line) : Orderly line' where
  jobs caller hmem := h.jobs caller (hsub.subset hmem)
  last := h.last.sublist hsub

theorem alone {closer : Caller} {rest : List Caller} (h : Orderly (closer :: rest)) (hjob : closer.job = .close) :
    rest = [] := by
  cases rest with
  | nil => rfl
  | cons caller rest =>
      have hcall := List.rel_of_pairwise_cons h.last List.mem_cons_self
      rw [hjob] at hcall
      cases hcall

end Orderly

namespace Client.Over

theorem still (h : c.Over) : c.activity ≠ .reading ∧ ¬c.activity.Writes := by
  obtain ⟨_, hidle⟩ | ⟨_, _, _, hclosing⟩ := h
  · exact hidle ▸ ⟨nofun, not_false⟩
  · exact hclosing ▸ ⟨nofun, not_false⟩

theorem nobody_waits (h : c.Over) : c.activity = .idle → c.line = [] := by
  obtain ⟨hempty, _⟩ | ⟨_, _, _, hclosing⟩ := h
  · exact fun _ => hempty
  · exact hclosing ▸ nofun

theorem tail_eq_nil (h : c.Over) : c.line.tail = [] := by
  obtain ⟨hempty, _⟩ | ⟨_, hcloser, _⟩ := h
  · rw [hempty]; rfl
  · rw [hcloser]; rfl

theorem move (h : c.Over) (hmove : Move c more c') (hquiet : Unasked more) (horderly : Orderly c.line) : c'.Over := by
  cases hmove with
  | join => exact absurd List.mem_cons_self (hquiet _ _)
  | joinToClose => exact absurd List.mem_cons_self (hquiet _ _)
  | turnPage hfirst hjob => exact absurd (hjob ▸ horderly.jobs _ (List.mem_of_head? hfirst)) (by simp)
  | begin hidle hline => exact absurd (h.nobody_waits hidle) (by simp [hline])
  | refuse hidle hline => exact absurd (h.nobody_waits hidle) (by simp [hline])
  | close hidle hline => exact absurd (h.nobody_waits hidle) (by simp [hline])
  | written hwrites => exact absurd hwrites h.still.2
  | writeFailed hwrites => exact absurd hwrites h.still.2
  | reject hreading => exact absurd hreading h.still.1
  | acceptWelcome haccepts => exact absurd haccepts.reading h.still.1
  | leave => exact .inl ⟨h.tail_eq_nil, rfl⟩
  | abandon hrest =>
      rw [h.tail_eq_nil] at hrest
      exact .inl ⟨List.sublist_nil.mp hrest, rfl⟩
  | @thin rest hrest hfirst =>
      obtain ⟨hempty, hidle⟩ | ⟨closer, hcloser, hjob, hclosing⟩ := h
      · rw [hempty] at hrest
        exact .inl ⟨List.sublist_nil.mp hrest, hidle⟩
      · refine .inr ⟨closer, ?_, hjob, hclosing⟩
        rw [hcloser] at hrest hfirst
        obtain ⟨more, rfl⟩ := List.head?_eq_some_iff.mp hfirst
        exact hrest.eq_of_length_le (by simp)
  | _ => exact h

end Client.Over

/-! ### One move -/

section

variable (hmove : Move c more c') (hquiet : Unasked more) (horderly : Orderly c.line)

include hmove hquiet horderly

/-- The line gets no longer while nobody turns up: a call is over with its response. -/
theorem Move.sublist : List.Sublist c'.line c.line := by
  have hjobs {first : Caller} (hfirst : c.line.head? = some first) : first.job = .call ∨ first.job = .close :=
    horderly.jobs first (List.mem_of_head? hfirst)
  cases hmove with
  | join => exact absurd List.mem_cons_self (hquiet _ _)
  | joinToClose => exact absurd List.mem_cons_self (hquiet _ _)
  | turnPage hfirst hjob => exact absurd (hjob ▸ hjobs hfirst) (by simp)
  | acceptWelcome haccepts hjob hread => exact absurd (hjob ▸ hjobs haccepts.isFirst) (by simp)
  | refuse hidle hline => exact hline ▸ List.sublist_cons_self _ _
  | writeFailed => exact List.tail_sublist _
  | leave => exact List.tail_sublist _
  | abandon hrest => exact hrest.trans (List.tail_sublist _)
  | thin hrest => exact hrest
  | _ => exact List.Sublist.refl _

/-- What was closed stays so, and only who is the last closes. -/
theorem Move.ending (hover : .effect .close ∈ log → c.Over) : .effect .close ∈ log ++ more → c'.Over := by
  intro hclosed
  have hkept : c.Over → c'.Over := fun hover => hover.move hmove hquiet horderly
  obtain hlog | hmore := List.mem_append.mp hclosed
  · exact hkept (hover hlog)
  · cases hmove with
    | @close first rest hidle hline hjob =>
        rw [hline] at horderly
        have hrest := horderly.alone hjob
        exact .inr ⟨first, hrest ▸ hline, hjob, rfl⟩
    | join => simp [Client.enqueue] at hmore
    | turnPage => simp [Client.enqueue] at hmore
    | _ => simp at hmore

end

theorem Move.handover (hmove : Move c more c') (hsub : c.line ⊆ line)
    (hstanding : Standing c.activity c.line c.midFrame (attempts log)) (hover : .effect .close ∈ log → c.Over) :
    Throughout (HandoverRule line) log more := by
  cases hmove with
  | @begin first rest hidle hline hjob hmid =>
      have hmem : first ∈ line := hsub (hline ▸ List.mem_cons_self)
      have hwhole := (hstanding.resting (hidle ▸ not_false)).whole_iff.mp hmid
      refine ⟨⟨first, hmem, rfl, .send hjob hwhole⟩, fun hclosed => ?_, trivial⟩
      have hempty := (hover (by simpa using hclosed)).nobody_waits hidle
      simp [hline] at hempty
  | @refuse first rest hidle hline hjob hmid =>
      have hmem : first ∈ line := hsub (hline ▸ List.mem_cons_self)
      have hbroken := (hstanding.resting (hidle ▸ not_false)).broken_iff.mp hmid
      exact ⟨⟨first, hmem, rfl, .refuse hjob hbroken⟩, trivial, trivial⟩
  | @close first rest hidle hline hjob =>
      have hmem : first ∈ line := hsub (hline ▸ List.mem_cons_self)
      refine ⟨⟨first, hmem, rfl, .close hjob⟩, ⟨fun hclosed => ?_, first, hmem, hjob⟩, trivial⟩
      have hempty := (hover (by simpa using hclosed)).nobody_waits hidle
      simp [hline] at hempty
  | reject hreading hmid =>
      exact ⟨trivial, fun hclosed => (hover (by simpa using hclosed)).still.1 hreading, trivial⟩
  | join => exact ⟨trivial, trivial, trivial⟩
  | turnPage => exact ⟨trivial, trivial⟩
  | _ => simp [Throughout, HandoverRule]

/-! ### Any number of moves -/

namespace Unasked

theorem left (h : Unasked (log ++ more)) : Unasked log := fun t wish hmem => h t wish (List.mem_append_left _ hmem)

theorem right (h : Unasked (log ++ more)) : Unasked more := fun t wish hmem => h t wish (List.mem_append_right _ hmem)

end Unasked

/-- The session is handed on in the order of the line while nobody turns up. -/
structure HandedOn (c : Client) (log more : Log) (c' : Client) : Prop where
  sublist : List.Sublist c'.line c.line
  standing : Standing c'.activity c'.line c'.midFrame (attempts (log ++ more))
  ending : .effect .close ∈ log ++ more → c'.Over
  rule : Throughout (HandoverRule c.line) log more

theorem Moves.handedOn (h : Moves c more c') (hquiet : Unasked more) (horderly : Orderly c.line)
    (hstanding : Standing c.activity c.line c.midFrame (attempts log)) (hover : .effect .close ∈ log → c.Over) :
    HandedOn c log more c' := by
  induction h with
  | none => exact ⟨List.Sublist.refl _, by rwa [List.append_nil], by rwa [List.append_nil], trivial⟩
  | @step more last c' c'' _ hmove ih =>
      obtain ⟨hsub, hstanding, hover, hrule⟩ := ih hquiet.left
      have horderly := horderly.sublist hsub
      refine ⟨(hmove.sublist hquiet.right horderly).trans hsub, ?_, ?_, ?_⟩
      · rw [← List.append_assoc]
        exact hmove.standing hstanding
      · rw [← List.append_assoc]
        exact hmove.ending hquiet.right horderly hover
      · exact hrule.append HandoverRule.append (hmove.handover hsub.subset hstanding hover)

end Colloquy.Session
