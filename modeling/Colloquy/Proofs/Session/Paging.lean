import Colloquy.Proofs.Session.Place

/-! Going through the pages of tools. What is told to the caller is one page after another, each asked for with the
cursor of the page before, until there is none or something fails (`Pages`). Nobody else in the session changes this
(`Client.run_pages`), and the ids of the requests go up (`Pages.numbers`). -/

namespace Colloquy.Session

open Rpc

/-- What is told from the start of the `n`th request on, which is for a page of tools behind those that were found;
no request is numbered `top` or higher. -/
inductive Pages (t top : Nat) : Nat → List ServerTool → List (Effect AnswerResult) → Prop where
  | waits {n : Nat} {found : List ServerTool} : Pages t top n found []
  | fails {n : Nat} {found : List ServerTool} {failure : SessionError} :
      Pages t top n found [.answer t (.error failure)]
  | unreadable {n : Nat} {found : List ServerTool} {value : Json} {fault : Decode.Fault}
      (hread : ToolsPage.decode value = .error fault) :
      Pages t top n found [.accept t (nthId n) value, .answer t (.error (.protocol fault.message))]
  | ends {n : Nat} {found : List ServerTool} {value : Json} {page : ToolsPage}
      (hread : ToolsPage.decode value = .ok page) (hlast : page.following? = none) :
      Pages t top n found [.accept t (nthId n) value, .answer t (.ok (.tools (found ++ page.tools)))]
  | turns {n m : Nat} {found : List ServerTool} {value : Json} {page : ToolsPage} {cursor : String}
      {more : List (Effect AnswerResult)} (hread : ToolsPage.decode value = .ok page)
      (hmore : page.following? = some cursor) (hlater : n < m) (htop : m < top)
      (hpages : Pages t top m (found ++ page.tools) more) :
      Pages t top n found (.accept t (nthId n) value :: .arm t (pageRequest m (some cursor)) :: more)

/-! ### One step after another -/

theorem Moves.nextId_le {c c' : Client} {log : Log} (h : Moves c log c') : c.nextId ≤ c'.nextId := by
  induction h with
  | none => exact Nat.le_refl _
  | step _ hmove ih =>
      obtain ⟨-, hsame⟩ | ⟨_, -, -, hnext⟩ := hmove.requests
      · omega
      · omega

theorem Client.nextId_le_step (c : Client) (e : Event) : c.nextId ≤ (c.step e).1.nextId := (step_moves c e).nextId_le

theorem Client.nextId_le_leave (c : Client) (effects : List (Effect AnswerResult)) :
    c.nextId ≤ (c.leave effects).1.nextId :=
  (Moves.grant { c with line := c.line.tail, activity := .idle } c.line.tail).nextId_le

theorem Client.nextId_le_run (c : Client) (es : List Event) : c.nextId ≤ (c.run es).1.nextId :=
  (log_moves c es).nextId_le

variable {t n top : Nat} {found : List ServerTool} {c : Client} {e : Event}

/-- The caller has one place in line, from which it asks for a page under the `n`th id. -/
structure Client.Listing (c : Client) (t n : Nat) (found : List ServerTool) : Prop where
  place : ∃ cursor, placesOf t c.line = [.of t (.listing found) (pageRequest n cursor)]
  earlier : n < c.nextId

/-- What a step comes to for a caller that has asked for a page under the `n`th id. -/
inductive Brought (t top n : Nat) (found : List ServerTool) (s : Client.Step) : Prop where
  | waits (hlisting : s.1.Listing t n found) (hquiet : toldTo t s.2 = [])
  | leaves (habsent : placesOf t s.1.line = []) (hpages : Pages t top n found (toldTo t s.2))
  | turns {m : Nat} {value : Json} {page : ToolsPage} {cursor : String} (hread : ToolsPage.decode value = .ok page)
      (hmore : page.following? = some cursor) (hlater : n < m) (htop : m < top)
      (hlisting : s.1.Listing t m (found ++ page.tools))
      (htold : toldTo t s.2 = [.accept t (nthId n) value, .arm t (pageRequest m (some cursor))])

theorem Refused.brought {s : Client.Step} (h : Refused t (placesOf t c.line) s) (hlisting : c.Listing t n found)
    (hnext : c.nextId ≤ s.1.nextId) : Brought t top n found s := by
  obtain ⟨cursor, hplace⟩ := hlisting.place
  rw [hplace] at h
  obtain ⟨hkept, hquiet⟩ | ⟨hlost, htold⟩ := h.single
  · exact .waits ⟨⟨cursor, hkept⟩, Nat.lt_of_lt_of_le hlisting.earlier hnext⟩ hquiet
  · exact .leaves hlost (htold ▸ .fails)

theorem Refused.left {s : Client.Step} (h : Refused t [] s) : Brought t top n found s :=
  .leaves h.absent.1 (h.absent.2 ▸ .waits)

/-- There is another page: the caller stands in line again with the request that is started last. -/
theorem Client.turnPage_brought {value : Json} {page : ToolsPage} {cursor : String} {next : Caller}
    (hnext : next = .of t (.listing (found ++ page.tools)) (pageRequest c.nextId (some cursor)))
    (hline : c.line ≠ []) (htail : placesOf t c.line.tail = []) (hn : n < c.nextId)
    (hread : ToolsPage.decode value = .ok page) (hmore : page.following? = some cursor)
    (htop : ({ c with nextId := c.nextId + 1, line := c.line ++ [next] }.leave
      [.accept t (nthId n) value, .arm t (pageRequest c.nextId (some cursor))]).1.nextId ≤ top) :
    Brought t top n found ({ c with nextId := c.nextId + 1, line := c.line ++ [next] }.leave
      [.accept t (nthId n) value, .arm t (pageRequest c.nextId (some cursor))]) := by
  have hplace : placesOf t (c.line ++ [next]).tail = [next] := by
    rw [List.tail_append_of_ne_nil hline, placesOf_append, htail, hnext]
    exact placesOf_cons_of_eq (Caller.ticket_of t _ _) []
  have htold : toldTo t [.accept t (nthId n) value, .arm t (pageRequest c.nextId (some cursor))] =
      [.accept t (nthId n) value, .arm t (pageRequest c.nextId (some cursor))] := by simp [toldTo, Effect.tells]
  have hlater := nextId_le_leave { c with nextId := c.nextId + 1, line := c.line ++ [next] }
    [.accept t (nthId n) value, .arm t (pageRequest c.nextId (some cursor))]
  have hagain := leave_again (c := { c with nextId := c.nextId + 1, line := c.line ++ [next] }) hplace
    [.accept t (nthId n) value, .arm t (pageRequest c.nextId (some cursor))]
  rw [htold] at hagain
  have hbelow : c.nextId < top := Nat.lt_of_lt_of_le hlater htop
  obtain ⟨hplace, hgot⟩ | ⟨habsent, hgot⟩ := hagain
  · exact .turns hread hmore hn hbelow ⟨⟨some cursor, hnext ▸ hplace⟩, hlater⟩ hgot
  · refine .leaves habsent ?_
    rw [hgot]
    exact .turns hread hmore hn hbelow .fails

theorem Client.Outcome.brought {cursor : Option String} {rest : List Caller} {s : Client.Step}
    (h : c.Outcome (.of t (.listing found) (pageRequest n cursor)) e s)
    (hline : c.line = .of t (.listing found) (pageRequest n cursor) :: rest) (hrest : placesOf t rest = [])
    (hopen : c.activity ≠ .closing) (hn : n < c.nextId) (hnext : c.nextId ≤ s.1.nextId) (htop : s.1.nextId ≤ top) :
    Brought t top n found s := by
  have htail : placesOf t c.line.tail = [] := by rw [hline, List.tail_cons, hrest]
  have hplace : placesOf t c.line = [.of t (.listing found) (pageRequest n cursor)] := by
    rw [hline, placesOf_cons_of_eq (Caller.ticket_of t _ _), hrest]
  have hstays {c' : Client} (hline' : c'.line = c.line) (hnext' : c'.nextId = c.nextId) : c'.Listing t n found :=
    ⟨⟨cursor, hline' ▸ hplace⟩, hnext' ▸ hn⟩
  have hover {effects : List (Effect AnswerResult)} (hpages : Pages t top n found (toldTo t effects)) :
      Brought t top n found (c.leave effects) := by
    obtain ⟨habsent, htold⟩ := leave_told htail effects
    exact .leaves habsent (htold ▸ hpages)
  cases h with
  | pass => exact .waits (hstays rfl rfl) rfl
  | skip => exact .waits (hstays rfl rfl) rfl
  | written => exact .waits (hstays rfl rfl) rfl
  | reject => exact .waits (hstays rfl rfl) rfl
  | fail => exact hover (by simpa [toldTo, Effect.tells] using Pages.fails)
  | expire => exact hover (by simpa [toldTo, Effect.tells] using Pages.fails)
  | greeted hjob => cases hjob
  | closed hclosing => exact absurd hclosing hopen
  | greet haccepts hjob => cases hjob
  | @settle frame id value result haccepts hsettles =>
      obtain rfl : nthId n = id := Option.some.inj haccepts.request
      refine hover ?_
      have htold : toldTo t [.accept t (nthId n) value, .answer t result] =
          [.accept t (nthId n) value, .answer t result] := by simp [toldTo, Effect.tells]
      rw [Caller.ticket_of, htold]
      cases hsettles with
      | unreadable hread => exact .unreadable hread
      | lastPage hread hlast => exact .ends hread hlast
      | single hhandshake hlisting => exact absurd rfl (hlisting found)
  | @turnPage frame id value found page next haccepts hjob hread hmore =>
      obtain rfl : nthId n = id := Option.some.inj haccepts.request
      obtain rfl := Job.listing.inj hjob
      exact turnPage_brought rfl (by simp [hline]) htail hn hread hmore htop

theorem Client.step_brought (h : c.Listing t n found)
    (hcloses : c.activity = .closing → ∀ first, c.line.head? = some first → first.job = .close)
    (hask : ∀ wish, e ≠ .ask t wish) (htop : (c.step e).1.nextId ≤ top) : Brought t top n found (c.step e) := by
  have hnext := c.nextId_le_step e
  cases c.seen hask with
  | kept hkept => exact hkept.brought h hnext
  | gone hgone => exact hgone.left
  | timedOut htimedOut =>
      obtain ⟨failure, htold⟩ := htimedOut.told
      exact .leaves htimedOut.absent (htold ▸ .fails)
  | own hline hown houtcome =>
      obtain ⟨cursor, hplace⟩ := h.place
      rw [hline, placesOf_cons_of_eq hown] at hplace
      obtain ⟨rfl, hrest⟩ := List.cons.inj hplace
      refine houtcome.brought hline hrest (fun hclosing => ?_) h.earlier hnext htop
      exact nomatch hcloses hclosing _ (congrArg List.head? hline)

/-! ### A whole run -/

theorem Client.run_pages {limit : Nat} {log : Log} {es : List Event} (hmoves : Moves { limit } log c)
    (h : c.Listing t n found) (hask : ∀ wish, .ask t wish ∉ es) (htop : (c.run es).1.nextId ≤ top) :
    Pages t top n found (toldTo t (c.run es).2) := by
  -- On the events. While the caller waits its place is kept (`Listing`), and what is left is a run from that place.
  induction es generalizing c log n found with
  | nil => exact .waits
  | cons e es ih =>
      have hfirst : ∀ wish, e ≠ .ask t wish := fun wish heq => hask wish (heq ▸ List.mem_cons_self)
      have hrest : ∀ wish, .ask t wish ∉ es := fun wish hmem => hask wish (List.mem_cons_of_mem _ hmem)
      have hnext := hmoves.trans (step_moves c e)
      have hcloses (hclosing : c.activity = .closing) (first : Caller) (hhead : c.line.head? = some first) :
          first.job = .close := by
        have hstanding := hmoves.standing
        rw [hclosing] at hstanding
        exact hstanding.closes hhead
      have hsteptop : (c.step e).1.nextId ≤ top := Nat.le_trans (nextId_le_run _ es) htop
      rw [run_cons, toldTo_append]
      cases step_brought h hcloses hfirst hsteptop with
      | waits hlisting hquiet =>
          rw [hquiet, List.nil_append]
          exact ih hnext hlisting hrest htop
      | leaves habsent hpages => rwa [run_absent habsent hrest, List.append_nil]
      | turns hread hmore hlater hbelow hlisting htold =>
          rw [htold]
          exact .turns hread hmore hlater hbelow (ih hnext hlisting hrest htop)

theorem int64_ofNat_lt {m n : Nat} (h : m < n) (hn : n < 2 ^ 63) : Int64.ofNat m < Int64.ofNat n := by
  rw [Int64.lt_iff_toInt_lt, Int64.toInt_ofNat_of_lt (Nat.lt_trans h hn), Int64.toInt_ofNat_of_lt hn]
  omega

/-- The requests are numbered one behind the other. -/
theorem Pages.numbers {effects : List (Effect AnswerResult)} (h : Pages t top n found effects) :
    ∃ numbers : List Nat, (requests (marks effects)).map (·.id) = numbers.map nthId ∧
      (n :: numbers).Pairwise (· < ·) ∧ ∀ m ∈ numbers, m < top := by
  induction h with
  | waits => exact ⟨[], rfl, by simp, nofun⟩
  | fails => exact ⟨[], rfl, by simp, nofun⟩
  | unreadable => exact ⟨[], rfl, by simp, nofun⟩
  | ends => exact ⟨[], rfl, by simp, nofun⟩
  | @turns n m found value page cursor more hread hmore hlater htop hpages ih =>
      obtain ⟨numbers, hids, hsorted, hbelow⟩ := ih
      refine ⟨m :: numbers, ?_, ?_, List.forall_mem_cons.mpr ⟨htop, hbelow⟩⟩
      · exact congrArg (nthId m :: ·) hids
      · refine List.pairwise_cons.mpr ⟨fun k hk => ?_, hsorted⟩
        obtain rfl | hk := List.mem_cons.mp hk
        · exact hlater
        · exact Nat.lt_trans hlater (List.rel_of_pairwise_cons hsorted hk)

theorem Client.nextId_lt_listTools (c : Client) (t : Nat) : c.nextId < (c.takeUp t .listTools).1.settle.1.nextId :=
  Moves.nextId_le (Moves.none.settle (c := (c.takeUp t .listTools).1))

theorem Client.ask_pages {limit : Nat} {log : Log} {es : List Event} (hmoves : Moves { limit } log c)
    (hnew : placesOf t c.line = []) (hask : ∀ wish, .ask t wish ∉ es) :
    ∃ more, toldTo t (c.run (.ask t .listTools :: es)).2 = .arm t (pageRequest c.nextId none) :: more ∧
      Pages t (c.run (.ask t .listTools :: es)).1.nextId c.nextId [] more := by
  have hnext := hmoves.trans (step_moves c (.ask t .listTools))
  have hjoined : Refused t [.of t (.listing []) (pageRequest c.nextId none)] (c.takeUp t .listTools).1.settle := by
    have hplace : placesOf t (c.takeUp t .listTools).1.line = [.of t (.listing []) (pageRequest c.nextId none)] := by
      show placesOf t (c.line ++ [.of t (.listing []) (pageRequest c.nextId none)]) = _
      rw [placesOf_append, hnew]
      exact placesOf_cons_of_eq (Caller.ticket_of t _ _) []
    exact hplace ▸ settle_refused t _
  have hlater := c.nextId_lt_listTools t
  have hstep : c.step (.ask t .listTools) = ((c.takeUp t .listTools).1.settle.1,
      .arm t (pageRequest c.nextId none) :: (c.takeUp t .listTools).1.settle.2) := rfl
  have hstarted (effects : List (Effect AnswerResult)) :
      toldTo t (.arm t (pageRequest c.nextId none) :: effects) =
        .arm t (pageRequest c.nextId none) :: toldTo t effects :=
    List.filter_cons_of_pos (beq_self_eq_true t)
  rw [hstep] at hnext
  rw [run_cons, hstep]
  generalize (c.takeUp t .listTools).1.settle = s at hnext hjoined hlater
  refine ⟨toldTo t (s.2 ++ (s.1.run es).2), hstarted _, ?_⟩
  rw [toldTo_append]
  obtain ⟨hplace, hquiet⟩ | ⟨habsent, hrefused⟩ := hjoined.single
  · rw [hquiet]
    exact run_pages hnext ⟨⟨none, hplace⟩, hlater⟩ hask (Nat.le_refl _)
  · rw [hrefused, run_absent habsent hask]
    exact .fails

end Colloquy.Session
