import Mathlib.Data.List.Nodup
import Colloquy.Proofs.Conversation.Selection

/-! Histories in which calls and results are paired. In a paired history every id is issued once, and
answered at most once and after its call; in a settled one every call is answered too. A settled
history is sent as it is (`Settled.snapshot`), and answering what is left of a batch settles it again
(`Settled.close_batch`). -/

namespace Colloquy

/-- The results that outcomes give for calls, in order. -/
def resultsOf (calls : List ToolCall) (outcomes : List ToolOutcome) : List Message :=
  List.zipWith .ofOutcome calls outcomes

@[simp] theorem Message.calls_ofOutcome (call : ToolCall) (outcome : ToolOutcome) :
    (Message.ofOutcome call outcome).calls = [] := by
  cases outcome <;> rfl

@[simp] theorem Message.answeredId?_ofOutcome (call : ToolCall) (outcome : ToolOutcome) :
    (Message.ofOutcome call outcome).answeredId? = some call.id := by
  cases outcome <;> rfl

@[simp] theorem resultsOf_nil (calls : List ToolCall) : resultsOf calls [] = [] := List.zipWith_nil_right

@[simp] theorem resultsOf_cons (call : ToolCall) (calls : List ToolCall) (outcome : ToolOutcome)
    (outcomes : List ToolOutcome) :
    resultsOf (call :: calls) (outcome :: outcomes) = .ofOutcome call outcome :: resultsOf calls outcomes := rfl

theorem issuedIds_resultsOf (calls : List ToolCall) (outcomes : List ToolOutcome) :
    History.issuedIds (resultsOf calls outcomes) = [] := by
  induction calls generalizing outcomes with
  | nil => rfl
  | cons c cs ih =>
      cases outcomes with
      | nil => rfl
      | cons o os => simp [ih os]

theorem answeredIds_resultsOf (calls : List ToolCall) (outcomes : List ToolOutcome) :
    History.answeredIds (resultsOf calls outcomes) = (calls.take outcomes.length).map (·.id) := by
  induction calls generalizing outcomes with
  | nil => simp [resultsOf]
  | cons c cs ih =>
      cases outcomes with
      | nil => simp
      | cons o os => simp [ih os]

/-- The calls without an outcome may be given one and the same. -/
theorem resultsOf_replicate (calls : List ToolCall) (outcomes : List ToolOutcome) (outcome : ToolOutcome) :
    resultsOf calls (outcomes ++ List.replicate (calls.length - outcomes.length) outcome) =
      resultsOf calls outcomes ++ (calls.drop outcomes.length).map (Message.ofOutcome · outcome) := by
  induction calls generalizing outcomes with
  | nil => simp [resultsOf]
  | cons c cs ih =>
      cases outcomes with
      | nil => simpa [List.replicate_succ] using ih []
      | cons o os => simpa using ih os

namespace History

/-- Every id is issued once, and answered at most once and after its call. -/
structure Paired (h : History) : Prop where
  issued : h.issuedIds.Nodup
  answered : h.answeredIds.Nodup
  later : ∀ (k : History) (r : ToolResult), k ++ [.toolResult r] <+: h → r.callId ∈ k.issuedIds

/-- Every call is answered. -/
structure Settled (h : History) : Prop extends Paired h where
  closed : ∀ id ∈ h.issuedIds, id ∈ h.answeredIds

theorem Settled.nil : Settled [] where
  issued := List.nodup_nil
  answered := List.nodup_nil
  later k r hp := by simp at hp
  closed id hid := by simp at hid

/-- What a message must be to keep a history paired. -/
theorem Paired.concat {h : History} {m : Message} (hp : h.Paired) (hdiff : (m.calls.map (·.id)).Nodup)
    (hnew : ∀ c ∈ m.calls, c.id ∉ h.issuedIds)
    (hanswer : ∀ id, m.answeredId? = some id → id ∈ h.issuedIds ∧ id ∉ h.answeredIds) : Paired (h ++ [m]) where
  issued := by
    rw [issuedIds_append, List.nodup_append']
    refine ⟨hp.issued, by simpa using hdiff, fun id hold hadded => ?_⟩
    obtain ⟨c, hc, rfl⟩ : ∃ c ∈ m.calls, c.id = id := by simpa using hadded
    exact hnew c hc hold
  answered := by
    rw [answeredIds_append, List.nodup_append']
    refine ⟨hp.answered, by cases hm : m.answeredId? <;> simp [hm], fun id hold hadded => ?_⟩
    exact (hanswer id (by simpa [answeredIds_cons] using hadded)).2 hold
  later k r hk := by
    rcases List.prefix_concat_iff.mp hk with heq | hk
    · obtain ⟨rfl, hm⟩ := List.append_inj' heq rfl
      rw [List.cons.injEq] at hm
      exact (hanswer r.callId (by rw [← hm.1]; rfl)).1
    · exact hp.later k r hk

theorem Paired.of_concat {h : History} {m : Message} (hp : Paired (h ++ [m])) : Paired h where
  issued := by
    have hissued := hp.issued
    rw [issuedIds_append] at hissued
    exact (List.nodup_append'.mp hissued).1
  answered := by
    have hanswered := hp.answered
    rw [answeredIds_append] at hanswered
    exact (List.nodup_append'.mp hanswered).1
  later k r hk := hp.later k r (hk.trans (List.prefix_append h [m]))

/-- Only issued ids are answered. -/
theorem Paired.answered_subset {h : History} (hp : h.Paired) : ∀ id ∈ h.answeredIds, id ∈ h.issuedIds := by
  induction h using List.reverseRecOn with
  | nil => simp
  | append_singleton h m ih =>
      intro id hid
      rw [answeredIds_append, List.mem_append] at hid
      rw [issuedIds_append, List.mem_append]
      rcases hid with hid | hid
      · exact Or.inl (ih hp.of_concat id hid)
      · cases m with
        | toolResult r =>
            obtain rfl : id = r.callId := by simpa [Message.answeredId?] using hid
            exact Or.inl (hp.later h r (List.prefix_refl _))
        | _ => simp [Message.answeredId?] at hid

/-! ### The index of a paired history -/

/-- In a paired history every call is indexed under its own message. -/
theorem Paired.issuers_at {h : History} (hp : h.Paired) {i : Nat} {m : Message} (hm : h[i]? = some m)
    {c : ToolCall} (hc : c ∈ m.calls) : (CallIndex.ofHistory h).issuers[c.id]? = some i := by
  obtain ⟨k, l, rfl, rfl⟩ := split_at hm
  have hmem : c.id ∈ m.calls.map (·.id) := List.mem_map_of_mem hc
  have hnew : c.id ∉ issuedIds k := by
    have hissued := hp.issued
    rw [issuedIds_append, issuedIds_cons, List.nodup_append'] at hissued
    exact fun hold => hissued.2.2 hold (List.mem_append_left _ hmem)
  exact CallIndex.issuers_first ⟨l, by simp⟩ hmem hnew

/-- In a paired history every result is indexed as the answer to a call of an earlier message. -/
theorem Paired.answers_at {h : History} (hp : h.Paired) {j : Nat} {r : ToolResult}
    (hr : h[j]? = some (.toolResult r)) :
    (CallIndex.ofHistory h).answers[r.callId]? = some j ∧
      ∃ i text calls, i < j ∧ h[i]? = some (.assistant text calls) ∧
        (CallIndex.ofHistory h).issuers[r.callId]? = some i := by
  obtain ⟨k, l, rfl, rfl⟩ := split_at hr
  have hprefix : k ++ [.toolResult r] <+: k ++ .toolResult r :: l := ⟨l, by simp⟩
  have hissued : r.callId ∈ issuedIds k := hp.later k r hprefix
  have hnew : r.callId ∉ answeredIds k := by
    have hanswered := hp.answered
    rw [answeredIds_append, List.nodup_append'] at hanswered
    exact fun hold => hanswered.2.2 hold (by simp [Message.answeredId?])
  refine ⟨CallIndex.answers_first hprefix hissued hnew, ?_⟩
  obtain ⟨i, hi⟩ := Option.isSome_iff_exists.mp ((CallIndex.isSome_issuers k _).mpr hissued)
  obtain ⟨text, calls, hget, _⟩ := CallIndex.issuer_at hi
  obtain ⟨hlt, _⟩ := List.getElem?_eq_some_iff.mp hget
  refine ⟨i, text, calls, hlt, ?_, CallIndex.issuers_of_prefix (List.prefix_append k _) hi⟩
  rw [List.getElem?_append_left hlt, hget]

/-- In a paired history an id is indexed as answered if some result answers it. -/
theorem Paired.isSome_answers {h : History} (hp : h.Paired) (id : String) :
    (CallIndex.ofHistory h).answers[id]?.isSome ↔ id ∈ h.answeredIds := by
  refine ⟨CallIndex.mem_answeredIds_of_isSome, fun hid => ?_⟩
  obtain ⟨m, hm, hmid⟩ := List.mem_filterMap.mp hid
  obtain ⟨j, hj⟩ := List.getElem?_of_mem hm
  cases m with
  | toolResult r =>
      simp only [Message.answeredId?, Option.some.injEq] at hmid
      rw [← hmid, (hp.answers_at hj).1]
      rfl
  | _ => simp [Message.answeredId?] at hmid

/-! ### What is sent of a settled history -/

/-- In a settled history every batch is complete. -/
theorem Settled.complete {h : History} (hs : h.Settled) {i : Nat} {m : Message} (hm : h[i]? = some m) :
    h.Complete i m.calls := by
  obtain ⟨k, l, rfl, rfl⟩ := split_at hm
  have hissued := hs.issued
  rw [issuedIds_append, issuedIds_cons, List.nodup_append', List.nodup_append'] at hissued
  refine complete_iff.mpr ⟨hissued.2.1.1, fun c hc => ?_⟩
  have hid : c.id ∈ m.calls.map (·.id) := List.mem_map_of_mem hc
  have hnew : c.id ∉ issuedIds k := fun hold => hissued.2.2 hold (List.mem_append_left _ hid)
  refine ⟨hnew, ?_⟩
  rw [← CallIndex.isSome_answers_iff hid hnew, hs.isSome_answers]
  refine hs.closed c.id ?_
  rw [issuedIds_append, issuedIds_cons]
  exact List.mem_append_right _ (List.mem_append_left _ hid)

/-- In a settled history every message is kept. -/
theorem Settled.kept {h : History} (hs : h.Settled) : ∀ entry ∈ h.zipIdx, h.Kept entry := by
  rintro ⟨m, j⟩ hm
  rw [List.mem_zipIdx_iff_getElem?] at hm
  cases m with
  | assistant text calls => exact hs.complete hm
  | toolResult r =>
      obtain ⟨hanswer, i, text, calls, hlt, hget, hissuer⟩ := hs.answers_at hm
      have hcomplete := hs.complete hget
      obtain ⟨k, l, rfl, rfl⟩ := split_at hm
      rw [List.getElem?_append_left hlt] at hget
      exact replies_iff.mpr ⟨hanswer, i, hissuer, text, calls, hget, hcomplete⟩
  | user text => trivial
  | system text => trivial

/-- A settled history is sent as it is. -/
theorem Settled.snapshot {h : History} (hs : h.Settled) : h.snapshot = ⟨h, []⟩ := by
  obtain ⟨s, hselects, heq⟩ := selects_snapshot h
  have hmessages : s.snapshot.messages = h := by
    rw [hselects.messages, List.filter_eq_self.mpr (by simpa using hs.kept), List.zipIdx_map_fst]
  have hmissing : s.snapshot.missing = [] := by
    rw [hselects.missing, List.filter_eq_nil_iff.mpr (by simpa using hs.kept)]
    rfl
  rw [heq, ← hmissing, ← hmessages]

/-! ### Open calls -/

theorem firstOfEachId_eq_self {seen : List String} {cs : List ToolCall} (hdiff : (cs.map (·.id)).Nodup)
    (hseen : ∀ c ∈ cs, c.id ∉ seen) : firstOfEachId seen cs = cs := by
  induction cs generalizing seen with
  | nil => rfl
  | cons c cs ih =>
      rw [List.map_cons, List.nodup_cons] at hdiff
      have hnew : seen.contains c.id = false := by simpa using hseen c List.mem_cons_self
      rw [firstOfEachId, hnew, if_neg Bool.false_ne_true, ih hdiff.2]
      intro d hd
      rw [List.mem_cons, not_or]
      exact ⟨fun heq => hdiff.1 (heq ▸ List.mem_map_of_mem (f := (·.id)) hd), hseen d (List.mem_cons_of_mem c hd)⟩

theorem map_issued (h : History) : h.issued.map (·.1) = h.calls := by
  have hcalls : ∀ entry : Message × Nat, (entry.1.calls.map fun c => (c, entry.2)).map (·.1) = entry.1.calls :=
    fun entry => by simp [Function.comp_def]
  rw [issued, List.map_flatMap]
  simp only [hcalls]
  rw [← List.flatMap_map, List.zipIdx_map_fst]
  rfl

/-- In a paired history the unanswered calls are those whose ids have no result. -/
theorem Paired.unanswered {h : History} (hp : h.Paired) :
    h.unanswered = h.calls.filter (fun c => c.id ∉ h.answeredIds) := by
  have hopen : h.issued.filter (fun entry => (CallIndex.ofHistory h).issuers[entry.1.id]? == some entry.2 &&
      !(CallIndex.ofHistory h).answers.contains entry.1.id) =
      h.issued.filter ((fun c : ToolCall => decide (c.id ∉ h.answeredIds)) ∘ (·.1)) := by
    refine List.filter_congr fun entry hentry => ?_
    obtain ⟨⟨m, i⟩, hm, hc⟩ := List.mem_flatMap.mp hentry
    obtain ⟨c, hcall, rfl⟩ := List.mem_map.mp hc
    rw [hp.issuers_at (List.mem_zipIdx_iff_getElem?.mp hm) hcall, Std.HashMap.contains_eq_isSome_getElem?]
    simp only [BEq.rfl, Bool.true_and, Function.comp, decide_not, ← hp.isSome_answers, Bool.decide_eq_true]
  have hdiff : ((h.calls.filter (fun c => c.id ∉ h.answeredIds)).map (·.id)).Nodup :=
    hp.issued.sublist (List.filter_sublist.map ToolCall.id)
  rw [History.unanswered, hopen, ← List.filter_map, map_issued]
  exact firstOfEachId_eq_self hdiff (fun c _ => List.not_mem_nil)

/-- A settled history has no open calls. -/
theorem Settled.unanswered {h : History} (hs : h.Settled) : h.unanswered = [] := by
  rw [Paired.unanswered hs.toPaired, List.filter_eq_nil_iff]
  intro c hc
  simpa using hs.closed c.id (List.mem_map_of_mem hc)

theorem Settled.close {h : History} (hs : h.Settled) (e : ToolError) : h.close e = h := by
  rw [History.close, closings, hs.unanswered, List.map_nil, List.append_nil]

/-- A message that neither issues nor answers calls leaves a history settled. -/
theorem Settled.plain {h : History} {m : Message} (hs : h.Settled) (hcalls : m.calls = [])
    (hanswer : m.answeredId? = none) : Settled (h ++ [m]) where
  toPaired := hs.toPaired.concat (by simp [hcalls]) (by simp [hcalls]) (by simp [hanswer])
  closed id hid := by
    rw [issuedIds_append, issuedIds_cons, hcalls, List.map_nil, issuedIds_nil, List.append_nil, List.append_nil] at hid
    rw [answeredIds_append]
    exact List.mem_append_left _ (hs.closed id hid)

/-! ### Answering a batch -/

/-- A batch of calls as a settled history may take it in: with ids that are new and different. -/
structure Takes (h : History) (calls : List ToolCall) : Prop where
  different : (calls.map (·.id)).Nodup
  fresh : ∀ c ∈ calls, c.id ∉ h.issuedIds

/-- Answering calls that are open keeps a history paired. -/
theorem Paired.results {h : History} (hp : h.Paired) {calls : List ToolCall} (outcomes : List ToolOutcome)
    (hdiff : (calls.map (·.id)).Nodup)
    (hopen : ∀ c ∈ calls, c.id ∈ h.issuedIds ∧ c.id ∉ h.answeredIds) : Paired (h ++ resultsOf calls outcomes) := by
  induction calls generalizing h outcomes with
  | nil => simpa [resultsOf] using hp
  | cons c cs ih =>
      cases outcomes with
      | nil => simpa using hp
      | cons o os =>
          rw [List.map_cons, List.nodup_cons] at hdiff
          have hnext : Paired (h ++ [.ofOutcome c o]) := by
            refine hp.concat (by simp) (by simp) (fun id hid => ?_)
            rw [Message.answeredId?_ofOutcome, Option.some.injEq] at hid
            exact hid ▸ hopen c List.mem_cons_self
          rw [resultsOf_cons, List.append_cons]
          refine ih hnext os hdiff.2 (fun d hd => ?_)
          obtain ⟨hissued, hfree⟩ := hopen d (List.mem_cons_of_mem c hd)
          have hother : d.id ≠ c.id := fun heq => hdiff.1 (heq ▸ List.mem_map_of_mem (f := (·.id)) hd)
          simp [hissued, hfree, hother]

theorem Settled.batch_paired {h : History} (hs : h.Settled) {calls : List ToolCall} (ht : h.Takes calls)
    (text : Option String) (outcomes : List ToolOutcome) :
    Paired (h ++ .assistant text calls :: resultsOf calls outcomes) := by
  have hbatch : Paired (h ++ [.assistant text calls]) :=
    hs.toPaired.concat ht.different ht.fresh (fun id hid => by simp [Message.answeredId?] at hid)
  rw [List.append_cons]
  refine hbatch.results outcomes ht.different (fun c hc => ⟨?_, fun hold => ?_⟩)
  · simpa [Message.calls] using Or.inr ⟨c, hc, rfl⟩
  · refine ht.fresh c hc (hs.answered_subset c.id ?_)
    simpa [Message.answeredId?] using hold

/-- After a batch has been answered in full, the history is settled again. -/
theorem Settled.batch {h : History} (hs : h.Settled) {calls : List ToolCall} (ht : h.Takes calls)
    (text : Option String) {outcomes : List ToolOutcome} (hlen : outcomes.length = calls.length) :
    Settled (h ++ .assistant text calls :: resultsOf calls outcomes) where
  toPaired := hs.batch_paired ht text outcomes
  closed id hid := by
    rw [issuedIds_append, issuedIds_cons, issuedIds_resultsOf, List.append_nil, List.mem_append] at hid
    rw [answeredIds_append, answeredIds_cons, answeredIds_resultsOf, hlen, List.take_length, List.mem_append]
    exact hid.imp (hs.closed id) (List.mem_append_right _)

/-- Of a batch answered in part, the calls without a result are open. -/
theorem Settled.unanswered_batch {h : History} (hs : h.Settled) {calls : List ToolCall} (ht : h.Takes calls)
    (text : Option String) (outcomes : List ToolOutcome) :
    (h ++ .assistant text calls :: resultsOf calls outcomes : History).unanswered = calls.drop outcomes.length := by
  have hpaired := hs.batch_paired ht text outcomes
  have hcalls : History.calls (h ++ .assistant text calls :: resultsOf calls outcomes) =
      h.calls ++ (calls.take outcomes.length ++ calls.drop outcomes.length) := by
    rw [calls_append, calls_cons, List.map_eq_nil_iff.mp (issuedIds_resultsOf calls outcomes),
      List.take_append_drop, List.append_nil]
    rfl
  have hanswered : answeredIds (h ++ .assistant text calls :: resultsOf calls outcomes) =
      h.answeredIds ++ (calls.take outcomes.length).map (·.id) := by
    rw [answeredIds_append, answeredIds_cons, answeredIds_resultsOf]
    rfl
  have hsplit : ((calls.take outcomes.length ++ calls.drop outcomes.length).map (·.id)).Nodup := by
    rw [List.take_append_drop]
    exact ht.different
  rw [List.map_append, List.nodup_append'] at hsplit
  rw [Paired.unanswered hpaired, hcalls, hanswered, List.filter_append, List.filter_append,
    List.filter_eq_nil_iff.mpr, List.filter_eq_nil_iff.mpr, List.filter_eq_self.mpr, List.nil_append, List.nil_append]
  · intro c hc
    rw [decide_eq_true_eq, List.mem_append, not_or]
    refine ⟨fun hold => ht.fresh c (List.mem_of_mem_drop hc) (hs.answered_subset c.id hold), fun hdone => ?_⟩
    exact hsplit.2.2 hdone (List.mem_map_of_mem hc)
  · intro c hc
    rw [decide_eq_true_eq, not_not]
    exact List.mem_append_right _ (List.mem_map_of_mem hc)
  · intro c hc
    rw [decide_eq_true_eq, not_not]
    exact List.mem_append_left _ (hs.closed c.id (List.mem_map_of_mem hc))

/-- Closing a batch that was answered in part answers the rest of it, in order. -/
theorem Settled.close_batch {h : History} (hs : h.Settled) {calls : List ToolCall} (ht : h.Takes calls)
    (text : Option String) (outcomes : List ToolOutcome) (e : ToolError) :
    (h ++ .assistant text calls :: resultsOf calls outcomes : History).close e =
      h ++ .assistant text calls :: (resultsOf calls outcomes ++
        (calls.drop outcomes.length).map (Message.ofOutcome · (.error e))) := by
  rw [History.close, closings, hs.unanswered_batch ht, List.append_assoc, List.cons_append]

end History

end Colloquy
