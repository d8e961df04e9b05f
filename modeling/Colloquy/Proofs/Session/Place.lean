import Colloquy.Proofs.Session.Outcome

/-! A place in line. Whatever others do and whatever becomes of them, somebody who stands in line keeps the place or
loses it with a refusal, and gets to know of nothing else until the place is the first one (`Client.seen`). Who has no
place is told nothing (`Client.run_absent`). -/

namespace Colloquy.Session

/-- Whether the caller with the ticket gets to know of something, as what has become of its own requests. -/
def Effect.tells (t : Nat) : Effect AnswerResult → Bool
  | .arm t' _ | .accept t' _ _ | .answer t' _ => t' == t
  | _ => false

def toldTo (t : Nat) (effects : List (Effect AnswerResult)) : List (Effect AnswerResult) :=
  effects.filter (Effect.tells t)

def placesOf (t : Nat) (line : List Caller) : List Caller := line.filter (·.ticket == t)

variable {t : Nat} {c : Client} {e : Event}

@[simp]
theorem toldTo_append (t : Nat) (effects more : List (Effect AnswerResult)) :
    toldTo t (effects ++ more) = toldTo t effects ++ toldTo t more :=
  List.filter_append _ _

@[simp]
theorem placesOf_append (t : Nat) (line more : List Caller) :
    placesOf t (line ++ more) = placesOf t line ++ placesOf t more :=
  List.filter_append _ _

theorem placesOf_cons_of_ne {first : Caller} (h : first.ticket ≠ t) (rest : List Caller) :
    placesOf t (first :: rest) = placesOf t rest :=
  List.filter_cons_of_neg (by simpa using h)

theorem placesOf_cons_of_eq {first : Caller} (h : first.ticket = t) (rest : List Caller) :
    placesOf t (first :: rest) = first :: placesOf t rest :=
  List.filter_cons_of_pos (by simpa using h)

/-! ### What others do -/

/-- Some of the places were lost, each with the refusal of a stream that is of no use any more. -/
def Refused (t : Nat) (places : List Caller) (s : Client.Step) : Prop :=
  ∃ lost kept : List Caller, places = lost ++ kept ∧ placesOf t s.1.line = kept ∧
    toldTo t s.2 = lost.map fun _ => .answer t (.error .interrupted)

theorem Refused.none {s : Client.Step} {places : List Caller} (hplaces : placesOf t s.1.line = places)
    (htold : toldTo t s.2 = []) : Refused t places s :=
  ⟨[], places, rfl, hplaces, htold⟩

/-- Something is done that the caller gets to know nothing of. -/
theorem Refused.prepend {places : List Caller} {s : Client.Step} {effects : List (Effect AnswerResult)}
    (h : Refused t places s) (heffects : toldTo t effects = []) : Refused t places (s.1, effects ++ s.2) := by
  obtain ⟨lost, kept, hplaces, hkept, htold⟩ := h
  exact ⟨lost, kept, hplaces, hkept, by rw [toldTo_append, heffects, htold, List.nil_append]⟩

theorem Client.grant_refused (t : Nat) (c : Client) (line : List Caller) :
    Refused t (placesOf t line) (c.grant line) := by
  induction line with
  | nil => exact .none rfl rfl
  | cons first rest ih =>
      unfold grant
      split
      · exact .none rfl rfl
      · unfold startFrame
        cases c.midFrame with
        | false => exact .none rfl rfl
        | true =>
            -- The first is refused; what becomes of the places behind it is the case of a shorter line.
            obtain ⟨lost, kept, hplaces, hkept, htold⟩ := ih
            by_cases hfirst : first.ticket = t
            · refine ⟨first :: lost, kept, ?_, hkept, ?_⟩
              · rw [placesOf_cons_of_eq hfirst, hplaces, List.cons_append]
              · show toldTo t (.hold first.ticket :: .answer first.ticket (.error .interrupted) :: _) = _
                simp [toldTo, Effect.tells, hfirst, ← htold]
            · refine ⟨lost, kept, ?_, hkept, ?_⟩
              · rw [placesOf_cons_of_ne hfirst, hplaces]
              · show toldTo t (.hold first.ticket :: .answer first.ticket (.error .interrupted) :: _) = _
                simp [toldTo, Effect.tells, hfirst, ← htold]

theorem Client.settle_refused (t : Nat) (c : Client) : Refused t (placesOf t c.line) c.settle := by
  unfold settle
  split
  · exact c.grant_refused t c.line
  · exact .none rfl rfl

/-- After what is done for the first, the places behind it. -/
theorem Client.leave_settles (t : Nat) (c : Client) (effects : List (Effect AnswerResult)) :
    ∃ s, Refused t (placesOf t c.line.tail) s ∧ c.leave effects = (s.1, effects ++ s.2) :=
  ⟨_, settle_refused t { c with line := c.line.tail, activity := .idle }, rfl⟩

theorem Client.leave_refused {places : List Caller} {effects : List (Effect AnswerResult)}
    (hplaces : placesOf t c.line.tail = places) (hquiet : toldTo t effects = []) :
    Refused t places (c.leave effects) := by
  obtain ⟨s, hs, hleave⟩ := c.leave_settles t effects
  rw [hplaces] at hs
  exact hleave ▸ hs.prepend hquiet

/-- Whatever comes to pass for somebody else who is first. -/
theorem Client.Outcome.refused {first : Caller} {rest : List Caller} {s : Client.Step} (h : c.Outcome first e s)
    (hline : c.line = first :: rest) (hother : first.ticket ≠ t) : Refused t (placesOf t c.line) s := by
  have htail : placesOf t c.line.tail = placesOf t c.line := by
    rw [hline, placesOf_cons_of_ne hother, List.tail_cons]
  have hjoined (caller : Caller) (hcaller : caller.ticket ≠ t) :
      placesOf t (c.line ++ [caller]).tail = placesOf t c.line := by
    rw [hline, List.cons_append, List.tail_cons, placesOf_append, placesOf_cons_of_ne hcaller,
      placesOf_cons_of_ne hother]
    exact List.append_nil _
  cases h with
  | pass => exact .none rfl rfl
  | skip => exact .none rfl rfl
  | written => exact .none rfl rfl
  | reject => exact .none rfl rfl
  | fail => exact leave_refused htail (by simp [toldTo, Effect.tells, hother])
  | expire => exact leave_refused htail (by simp [toldTo, Effect.tells, hother])
  | greeted => exact leave_refused htail (by simp [toldTo, Effect.tells, hother])
  | settle => exact leave_refused htail (by simp [toldTo, Effect.tells, hother])
  | closed => exact leave_refused htail (by simp [toldTo, Effect.tells, hother])
  | greet => exact leave_refused (hjoined _ hother) (by simp [toldTo, Effect.tells, hother])
  | turnPage => exact leave_refused (hjoined _ hother) (by simp [toldTo, Effect.tells, hother])

theorem Client.ask_refused {t' : Nat} (hother : t' ≠ t) (wish : Wish) :
    Refused t (placesOf t c.line) (c.step (.ask t' wish)) := by
  have hjoined : placesOf t (c.takeUp t' wish).1.line = placesOf t c.line := by
    cases wish <;> simp [takeUp, enqueue, enqueueClose, placesOf, hother]
  have hquiet : toldTo t (c.takeUp t' wish).2 = [] := by
    cases wish <;> simp [takeUp, enqueue, toldTo, Effect.tells, hother]
  exact hjoined ▸ (settle_refused t (c.takeUp t' wish).1).prepend hquiet

theorem placesOf_withdrawn (t : Nat) (line : List Caller) (tickets : List Nat) :
    placesOf t (line.filter fun caller => !tickets.contains caller.ticket) =
      if tickets.contains t then [] else placesOf t line := by
  unfold placesOf
  rw [List.filter_filter]
  split
  · next hgone =>
      rw [List.filter_eq_nil_iff]
      intro caller _ hcaller
      rw [Bool.and_eq_true, beq_iff_eq] at hcaller
      rw [hcaller.1, hgone] at hcaller
      exact nomatch hcaller.2
  · next hstays =>
      refine List.filter_congr fun caller _ => ?_
      cases hticket : caller.ticket == t with
      | false => rfl
      | true => simpa [eq_of_beq hticket] using hstays

/-- Somebody goes away, it may be the caller itself. -/
theorem Client.withdraw_refused (t : Nat) (c : Client) (tickets : List Nat) :
    Refused t (placesOf t c.line) (c.withdraw tickets) ∨ Refused t [] (c.withdraw tickets) := by
  have hrest := placesOf_withdrawn t c.line tickets
  have hkept : placesOf t (c.line.filter fun caller => !tickets.contains caller.ticket) = placesOf t c.line ∨
      placesOf t (c.line.filter fun caller => !tickets.contains caller.ticket) = [] := by
    rw [hrest]
    split
    · exact .inr rfl
    · exact .inl rfl
  unfold withdraw
  dsimp only
  generalize c.line.filter (fun caller => !tickets.contains caller.ticket) = rest at hkept
  have habandoned : toldTo t [.abandon] = [] := rfl
  have hsettled := (settle_refused t { c with line := rest, activity := .idle }).prepend habandoned
  split
  · split
    · obtain hkept | hgone := hkept
      · exact .inl (hkept ▸ hsettled)
      · exact .inr (hgone ▸ hsettled)
    · obtain hkept | hgone := hkept
      · exact .inl (.none hkept rfl)
      · exact .inr (.none hgone rfl)
  · exact .inl (.none rfl rfl)

/-- The caller has lost its place, for its time was up. -/
structure TimedOut (t : Nat) (places : List Caller) (s : Client.Step) : Prop where
  waiting : places ≠ []
  absent : placesOf t s.1.line = []
  told : ∃ failure, toldTo t s.2 = [.answer t (.error failure)]

theorem Client.expire_behind {first : Caller} {rest : List Caller} (hline : c.line = first :: rest) {t' : Nat}
    (hbehind : first.ticket ≠ t') :
    Refused t (placesOf t c.line) (c.expire t') ∨ TimedOut t (placesOf t c.line) (c.expire t') := by
  unfold expire
  split
  · exact .inl (.none rfl rfl)
  · next caller hcaller =>
      have hfound := List.find?_some hcaller
      have hmem := List.mem_of_find?_eq_some hcaller
      rw [hline] at hmem ⊢
      simp only [beq_false_of_ne hbehind, Bool.false_eq_true, if_false]
      by_cases hown : t' = t
      · subst hown
        refine .inr ⟨List.ne_nil_of_mem (List.mem_filter.mpr ⟨hmem, (Bool.and_eq_true_iff.mp hfound).1⟩), ?_,
          .timeout caller.method c.limit, by simp [toldTo, Effect.tells]⟩
        simp [placesOf, List.filter_filter]
      · refine .inl (.none ?_ (by simp [toldTo, Effect.tells, hown]))
        show ((first :: rest).filter (·.ticket != t')).filter (·.ticket == t) = _
        rw [List.filter_filter]
        refine List.filter_congr fun other _ => ?_
        by_cases hother : other.ticket = t
        · simp [hother, Ne.symm hown]
        · simp [hother]

/-- How an event is seen by somebody who may be in line: a place there is kept or lost, or it is the first one and the
event is for it. -/
inductive Client.Seen (c : Client) (t : Nat) (e : Event) : Prop where
  | kept (h : Refused t (placesOf t c.line) (c.step e))
  | gone (h : Refused t [] (c.step e))
  | timedOut (h : TimedOut t (placesOf t c.line) (c.step e))
  | own {first : Caller} {rest : List Caller} (hline : c.line = first :: rest) (hown : first.ticket = t)
      (houtcome : c.Outcome first e (c.step e))

theorem Client.seen (c : Client) (hask : ∀ wish, e ≠ .ask t wish) : c.Seen t e := by
  have houtcome {first : Caller} {rest : List Caller} (hline : c.line = first :: rest)
      (houtcome : c.Outcome first e (c.step e)) : c.Seen t e := by
    by_cases hown : first.ticket = t
    · exact .own hline hown houtcome
    · exact .kept (houtcome.refused hline hown)
  have hnobody (hline : c.line = []) (hleft : ∀ t' wish, e ≠ .ask t' wish) : c.Seen t e := by
    refine .kept ?_
    rw [step_of_nobody hline hleft]
    exact .none rfl rfl
  cases e with
  | ask t' wish =>
      have hother : t' ≠ t := fun heq => hask wish (heq ▸ rfl)
      exact .kept (ask_refused hother wish)
  | withdrawn tickets =>
      obtain hkept | hgone := withdraw_refused t c tickets
      · exact .kept hkept
      · exact .gone hgone
  | expired t' =>
      cases hline : c.line with
      | nil => exact hnobody hline nofun
      | cons first rest =>
          by_cases hown : first.ticket = t'
          · subst hown
            exact houtcome hline (expire_outcome hline)
          · obtain hkept | htimedOut := expire_behind hline hown
            · exact .kept hkept
            · exact .timedOut htimedOut
  | _ =>
      cases hline : c.line with
      | nil => exact hnobody hline nofun
      | cons first rest => exact houtcome hline (step_outcome hline nofun nofun nofun)

/-! ### What is left of a place -/

/-- Who is not in line is told nothing. -/
theorem Refused.absent {s : Client.Step} (h : Refused t [] s) : placesOf t s.1.line = [] ∧ toldTo t s.2 = [] := by
  obtain ⟨lost, kept, hplaces, hkept, htold⟩ := h
  obtain ⟨rfl, rfl⟩ := List.append_eq_nil_iff.mp hplaces.symm
  exact ⟨hkept, htold⟩

/-- A place is kept, or it is lost with a refusal. -/
theorem Refused.single {s : Client.Step} {me : Caller} (h : Refused t [me] s) :
    placesOf t s.1.line = [me] ∧ toldTo t s.2 = [] ∨
      placesOf t s.1.line = [] ∧ toldTo t s.2 = [.answer t (.error .interrupted)] := by
  obtain ⟨lost, kept, hplaces, hkept, htold⟩ := h
  cases lost with
  | nil =>
      rw [List.nil_append] at hplaces
      exact .inl ⟨hkept.trans hplaces.symm, htold⟩
  | cons first lost =>
      obtain ⟨-, hrest⟩ := List.cons.inj hplaces
      obtain ⟨rfl, rfl⟩ := List.append_eq_nil_iff.mp hrest.symm
      exact .inr ⟨hkept, htold⟩

/-- The caller is told something for the last time, and leaves. -/
theorem Client.leave_told (htail : placesOf t c.line.tail = []) (effects : List (Effect AnswerResult)) :
    placesOf t (c.leave effects).1.line = [] ∧ toldTo t (c.leave effects).2 = toldTo t effects := by
  obtain ⟨s, hs, hleave⟩ := c.leave_settles t effects
  rw [htail] at hs
  obtain ⟨habsent, hquiet⟩ := hs.absent
  rw [hleave, toldTo_append, hquiet, List.append_nil]
  exact ⟨habsent, rfl⟩

/-- The caller is told something, and stands in line again. -/
theorem Client.leave_again {caller : Caller} (htail : placesOf t c.line.tail = [caller])
    (effects : List (Effect AnswerResult)) :
    placesOf t (c.leave effects).1.line = [caller] ∧ toldTo t (c.leave effects).2 = toldTo t effects ∨
      placesOf t (c.leave effects).1.line = [] ∧
        toldTo t (c.leave effects).2 = toldTo t effects ++ [.answer t (.error .interrupted)] := by
  obtain ⟨s, hs, hleave⟩ := c.leave_settles t effects
  rw [htail] at hs
  rw [hleave, toldTo_append]
  obtain ⟨hkept, hquiet⟩ | ⟨hlost, hrefused⟩ := hs.single
  · rw [hquiet, List.append_nil]
    exact .inl ⟨hkept, rfl⟩
  · rw [hrefused]
    exact .inr ⟨hlost, rfl⟩

theorem Client.step_absent (h : placesOf t c.line = []) (hask : ∀ wish, e ≠ .ask t wish) :
    placesOf t (c.step e).1.line = [] ∧ toldTo t (c.step e).2 = [] := by
  cases c.seen hask with
  | kept hkept => exact (h ▸ hkept).absent
  | gone hgone => exact hgone.absent
  | timedOut htimedOut => exact absurd h htimedOut.waiting
  | own hline hown =>
      rw [hline, placesOf_cons_of_eq hown] at h
      cases h

theorem Client.run_absent {es : List Event} (h : placesOf t c.line = []) (hask : ∀ wish, .ask t wish ∉ es) :
    toldTo t (c.run es).2 = [] := by
  induction es generalizing c with
  | nil => rfl
  | cons e es ih =>
      have hfirst : ∀ wish, e ≠ .ask t wish := fun wish heq => hask wish (heq ▸ List.mem_cons_self)
      have hrest : ∀ wish, .ask t wish ∉ es := fun wish hmem => hask wish (List.mem_cons_of_mem _ hmem)
      obtain ⟨habsent, hquiet⟩ := step_absent h hfirst
      rw [run_cons, toldTo_append, hquiet, ih habsent hrest, List.append_nil]

end Colloquy.Session
