import Colloquy.Proofs.Conversation.CallIndex

/-! Which messages of a history a snapshot takes. A batch of calls is taken if it is complete: its ids are
different and new, and each of them is answered later. A result is taken if it is the first one for a call
of a complete batch before it. All of that is said by position (`Kept`), and the two passes over a history
select just these positions (`selects_front`), for histories of every shape. -/

namespace Colloquy

namespace History

/-- The batch of calls at position `i` is complete. -/
structure Complete (h : History) (i : Nat) (calls : List ToolCall) : Prop where
  different : (calls.map (·.id)).Nodup
  fresh : ∀ c ∈ calls, c.id ∉ issuedIds (h.take i)
  answered : ∀ c ∈ calls, c.id ∈ answeredIds (h.drop (i + 1))

instance (h : History) (i : Nat) (calls : List ToolCall) : Decidable (h.Complete i calls) :=
  decidable_of_iff ((calls.map (·.id)).Nodup ∧ (∀ c ∈ calls, c.id ∉ issuedIds (h.take i)) ∧
      ∀ c ∈ calls, c.id ∈ answeredIds (h.drop (i + 1)))
    ⟨fun ⟨hdiff, hfresh, hanswered⟩ => ⟨hdiff, hfresh, hanswered⟩, fun hc => ⟨hc.different, hc.fresh, hc.answered⟩⟩

/-- The result at position `j` is the first for its id after a complete batch that issues the id. -/
def Replies (h : History) (j : Nat) (r : ToolResult) : Prop :=
  ∃ i < j, ∃ m ∈ h[i]?, h.Complete i m.calls ∧ r.callId ∈ m.calls.map (·.id) ∧
    r.callId ∉ answeredIds ((h.take j).drop (i + 1))

instance (h : History) (j : Nat) (r : ToolResult) : Decidable (h.Replies j r) :=
  inferInstanceAs (Decidable (∃ i < j, ∃ m ∈ h[i]?, _ ∧ _ ∧ _))

/-- The message at a position is taken into a snapshot. -/
def Kept (h : History) : Message × Nat → Prop
  | (.assistant _ calls, i) => h.Complete i calls
  | (.toolResult r, j) => h.Replies j r
  | (.user _, _) | (.system _, _) => True

instance (h : History) : DecidablePred h.Kept
  | (.assistant _ calls, i) => inferInstanceAs (Decidable (h.Complete i calls))
  | (.toolResult r, j) => inferInstanceAs (Decidable (h.Replies j r))
  | (.user _, _) | (.system _, _) => inferInstanceAs (Decidable True)

/-- What stands against a batch of calls at position `i`: the ids, in call order, of the calls whose id
comes earlier in the batch, was issued before, or is not answered later. -/
def objections (h : History) (i : Nat) (calls : List ToolCall) : List String :=
  (calls.zipIdx.filter fun entry => entry.1.id ∈ (calls.take entry.2).map (·.id) ∨
    entry.1.id ∈ issuedIds (h.take i) ∨ entry.1.id ∉ answeredIds (h.drop (i + 1))).map (·.1.id)

end History

/-! ### Batches -/

namespace CallIndex

/-- The calls against sending a batch, by their positions in it. `done` are the calls of the batch before,
and `against` tells of which ids the index disapproves. -/
theorem unmatched_eq_filter {x : CallIndex} {i : Nat} {calls : List ToolCall} (against : String → Prop)
    [DecidablePred against] (hagainst : ∀ c ∈ calls,
      ¬against c.id ↔ x.issuers[c.id]? = some i ∧ x.answers[c.id]?.isSome) {seen : List String}
    (done : List ToolCall) (hseen : ∀ id, id ∈ seen ↔ id ∈ done.map (·.id)) :
    x.unmatched i seen calls = ((calls.zipIdx done.length).filter fun entry =>
      entry.1.id ∈ ((done ++ calls).take entry.2).map (·.id) ∨ against entry.1.id).map (·.1.id) := by
  induction calls generalizing seen done with
  | nil => rfl
  | cons c cs ih =>
      rw [List.forall_mem_cons] at hagainst
      have hdone : ∀ id, id ∈ c.id :: seen ↔ id ∈ (done ++ [c]).map (·.id) := fun id => by simp [hseen, or_comm]
      have hrest := ih hagainst.2 (done ++ [c]) hdone
      rw [List.length_append, List.length_singleton, List.append_assoc, List.singleton_append] at hrest
      have hc : (seen.contains c.id || x.issuers[c.id]? != some i || !x.answers.contains c.id) =
          decide (c.id ∈ ((done ++ c :: cs).take done.length).map (·.id) ∨ against c.id) := by
        have hindex : against c.id ↔ ¬(x.issuers[c.id]? = some i ∧ x.answers[c.id]?.isSome) := by
          rw [← hagainst.1, not_not]
        rw [List.take_left, Bool.eq_iff_iff, decide_eq_true_eq, ← hseen, hindex, not_and_or]
        simp only [Bool.or_eq_true, List.contains_iff_mem, bne_iff_ne, ne_eq, Bool.not_eq_true',
          Std.HashMap.contains_eq_isSome_getElem?, Bool.not_eq_true, or_assoc]
      rw [List.zipIdx_cons, List.filter_cons, unmatched, hrest, hc]
      split <;> rfl

end CallIndex

namespace History

section Batch

variable {k l : History} {text : Option String} {calls : List ToolCall}

/-- What the index tells of a call of a batch, read off the history before and after the batch. -/
theorem indexed_iff {c : ToolCall} (hc : c ∈ calls) :
    (CallIndex.ofHistory (k ++ .assistant text calls :: l)).issuers[c.id]? = some k.length ∧
      (CallIndex.ofHistory (k ++ .assistant text calls :: l)).answers[c.id]?.isSome ↔
      c.id ∉ k.issuedIds ∧ c.id ∈ l.answeredIds := by
  have hmem : c.id ∈ (Message.assistant text calls).calls.map (·.id) := List.mem_map_of_mem hc
  rw [CallIndex.issuers_at_iff hmem]
  exact and_congr_right fun hnew => CallIndex.isSome_answers_iff hmem hnew

theorem complete_iff {m : Message} : (k ++ m :: l : History).Complete k.length calls ↔
    (calls.map (·.id)).Nodup ∧ ∀ c ∈ calls, c.id ∉ k.issuedIds ∧ c.id ∈ l.answeredIds := by
  have htake : (k ++ m :: l).take k.length = k := List.take_left
  have hdrop : (k ++ m :: l).drop (k.length + 1) = l := by simp
  refine ⟨fun ⟨hdiff, hfresh, hanswered⟩ => ?_, fun ⟨hdiff, hcalls⟩ => ⟨hdiff, fun c hc => ?_, fun c hc => ?_⟩⟩
  · rw [htake] at hfresh
    rw [hdrop] at hanswered
    exact ⟨hdiff, fun c hc => ⟨hfresh c hc, hanswered c hc⟩⟩
  · rw [htake]
    exact (hcalls c hc).1
  · rw [hdrop]
    exact (hcalls c hc).2

theorem unmatched_eq_objections :
    (CallIndex.ofHistory (k ++ .assistant text calls :: l)).unmatched k.length [] calls =
      (k ++ .assistant text calls :: l : History).objections k.length calls := by
  rw [objections, List.take_left, CallIndex.unmatched_eq_filter (fun id => id ∈ k.issuedIds ∨ id ∉ l.answeredIds)
    (fun c hc => by rw [indexed_iff hc, not_or, not_not]) [] (by simp)]
  simp

theorem unmatched_eq_nil :
    (CallIndex.ofHistory (k ++ .assistant text calls :: l)).unmatched k.length [] calls = [] ↔
      (k ++ .assistant text calls :: l : History).Complete k.length calls := by
  rw [CallIndex.unmatched_eq_nil_iff, complete_iff]
  refine and_congr_right fun _ => forall₂_congr fun c hc => ?_
  rw [indexed_iff hc, and_iff_right List.not_mem_nil]

end Batch

/-! ### Results -/

section Result

variable {k l : History} {r : ToolResult}

/-- A result is indexed as an answer if it is the first one since its id was issued. -/
theorem answers_at_iff : (CallIndex.ofHistory (k ++ .toolResult r :: l)).answers[r.callId]? = some k.length ↔
    r.callId ∈ k.issuedIds ∧ (CallIndex.ofHistory k).answers[r.callId]? = none := by
  refine ⟨fun hanswer => ⟨?_, ?_⟩, fun ⟨hissued, hnone⟩ => CallIndex.answers_next ⟨l, by simp⟩ hissued hnone⟩
  · obtain ⟨_, _, _, hissued⟩ := CallIndex.answer_at hanswer
    rwa [List.take_left] at hissued
  · rw [Option.eq_none_iff_forall_not_mem]
    intro j hj
    obtain ⟨_, hget, _⟩ := CallIndex.answer_at hj
    obtain ⟨hlt, _⟩ := List.getElem?_eq_some_iff.mp hget
    have hfirst := CallIndex.answers_of_prefix (List.prefix_append k (.toolResult r :: l)) hj
    rw [hfirst, Option.some.injEq] at hanswer
    omega

/-- A result replies if it is indexed as an answer, and its id is indexed under a complete batch. -/
theorem replies_iff : (k ++ .toolResult r :: l : History).Replies k.length r ↔
    (CallIndex.ofHistory (k ++ .toolResult r :: l)).answers[r.callId]? = some k.length ∧
      ∃ i, (CallIndex.ofHistory (k ++ .toolResult r :: l)).issuers[r.callId]? = some i ∧
        ∃ text calls, k[i]? = some (.assistant text calls) ∧ (k ++ .toolResult r :: l : History).Complete i calls := by
  rw [answers_at_iff]
  constructor
  · rintro ⟨i, hlt, m, hm, hcomplete, hid, hfirst⟩
    rw [Option.mem_def, List.getElem?_append_left hlt] at hm
    rw [List.take_left] at hfirst
    -- `a` is what comes before the batch, `b` what comes between the batch and the result.
    obtain ⟨a, b, rfl, rfl⟩ := split_at hm
    have hdrop : (a ++ m :: b).drop (a.length + 1) = b := by simp
    have hnew : r.callId ∉ a.issuedIds := by
      obtain ⟨c, hc, heq⟩ := List.mem_map.mp hid
      rw [List.append_assoc, List.cons_append, complete_iff] at hcomplete
      exact heq ▸ (hcomplete.2 c hc).1
    refine ⟨⟨?_, ?_⟩, a.length, ?_, ?_⟩
    · rw [issuedIds_append, issuedIds_cons]
      exact List.mem_append_right _ (List.mem_append_left _ hid)
    · rw [← Option.not_isSome_iff_eq_none, CallIndex.isSome_answers_iff hid hnew]
      rwa [hdrop] at hfirst
    · rw [List.append_assoc, List.cons_append]
      exact (CallIndex.issuers_at_iff hid).mpr hnew
    · cases m with
      | assistant text calls => exact ⟨text, calls, hm, hcomplete⟩
      | _ => simp [Message.calls] at hid
  · rintro ⟨⟨_, hnone⟩, i, hissuer, text, calls, hget, hcomplete⟩
    obtain ⟨a, b, rfl, rfl⟩ := split_at hget
    rw [List.append_assoc, List.cons_append] at hissuer
    obtain ⟨_, _, hat, hid⟩ := CallIndex.issuer_at hissuer
    obtain ⟨rfl, rfl⟩ : text = _ ∧ calls = _ := by simpa using hat
    have hdrop : (a ++ .assistant text calls :: b).drop (a.length + 1) = b := by simp
    have hmem : r.callId ∈ (Message.assistant text calls).calls.map (·.id) := hid
    have hnew : r.callId ∉ a.issuedIds := (CallIndex.issuers_at_iff hmem).mp hissuer
    refine ⟨a.length, by simp, .assistant text calls, by simp, hcomplete, hid, ?_⟩
    rw [List.take_left, hdrop, ← CallIndex.isSome_answers_iff hmem hnew, hnone]
    simp

end Result

/-! ### Selecting -/

/-- A selection under way has taken the messages kept of a part of the history. -/
structure Selects (h k : History) (s : Selection) : Prop where
  messages : s.snapshot.messages = (k.zipIdx.filter h.Kept).map (·.1)
  missing : s.snapshot.missing = (k.zipIdx.filter (¬h.Kept ·)).flatMap fun entry => h.objections entry.2 entry.1.calls
  taken : ∀ i, i ∈ s.taken ↔ ∃ text calls, k[i]? = some (.assistant text calls) ∧ h.Complete i calls

variable {h k : History} {s : Selection}

theorem getElem?_concat_eq_some {m m' : Message} {i : Nat} :
    (k ++ [m])[i]? = some m' ↔ k[i]? = some m' ∨ i = k.length ∧ m = m' := by
  rcases Nat.lt_trichotomy i k.length with hlt | rfl | hgt
  · rw [List.getElem?_append_left hlt]
    simp [Nat.ne_of_lt hlt]
  · rw [List.getElem?_concat_length]
    simp
  · rw [List.getElem?_eq_none (by simpa using Nat.succ_le_of_lt hgt), List.getElem?_eq_none (Nat.le_of_lt hgt)]
    simp [Nat.ne_of_gt hgt]

/-- Taking a message that is kept and no batch. -/
theorem Selects.keep {m : Message} (hs : h.Selects k s) (hkept : h.Kept (m, k.length))
    (hm : ∀ text calls, m ≠ .assistant text calls) : h.Selects (k ++ [m]) (s.keep m) where
  messages := by simp [Selection.keep, List.zipIdx_append, hs.messages, hkept]
  missing := by simp [Selection.keep, List.zipIdx_append, hs.missing, hkept]
  taken i := by simp [Selection.keep, getElem?_concat_eq_some, hs.taken, hm]

/-- Leaving a message that is not kept and no batch. -/
theorem Selects.leave {m : Message} (hs : h.Selects k s) (hleft : ¬h.Kept (m, k.length))
    (hm : ∀ text calls, m ≠ .assistant text calls) : h.Selects (k ++ [m]) s where
  messages := by simp [List.zipIdx_append, hs.messages, hleft]
  missing := by
    have hcalls : m.calls = [] := by
      cases m with
      | assistant text calls => exact absurd rfl (hm text calls)
      | _ => rfl
    simp [List.zipIdx_append, hs.missing, hleft, hcalls, objections]
  taken i := by simp [getElem?_concat_eq_some, hs.taken, hm]

theorem Selects.takeBatch {calls : List ToolCall} (hs : h.Selects k s) (text : Option String)
    (hc : h.Complete k.length calls) : h.Selects (k ++ [.assistant text calls])
      { s.keep (.assistant text calls) with taken := k.length :: s.taken } where
  messages := by
    have hkept : h.Kept (.assistant text calls, k.length) := hc
    simp [Selection.keep, List.zipIdx_append, hs.messages, hkept]
  missing := by
    have hkept : h.Kept (.assistant text calls, k.length) := hc
    simp [Selection.keep, List.zipIdx_append, hs.missing, hkept]
  taken i := by
    simp only [List.mem_cons, hs.taken, getElem?_concat_eq_some, Message.assistant.injEq]
    constructor
    · rintro (rfl | ⟨text', calls', hget, hcomplete⟩)
      · exact ⟨text, calls, Or.inr ⟨rfl, rfl, rfl⟩, hc⟩
      · exact ⟨text', calls', Or.inl hget, hcomplete⟩
    · rintro ⟨text', calls', hget | ⟨rfl, -, -⟩, hcomplete⟩
      · exact Or.inr ⟨text', calls', hget, hcomplete⟩
      · exact Or.inl rfl

theorem Selects.dropBatch {calls : List ToolCall} (hs : h.Selects k s) (text : Option String)
    (hc : ¬h.Complete k.length calls) : h.Selects (k ++ [.assistant text calls])
      { s with snapshot := { s.snapshot with missing := s.snapshot.missing ++ h.objections k.length calls } } where
  messages := by
    have hleft : ¬h.Kept (.assistant text calls, k.length) := hc
    simp [List.zipIdx_append, hs.messages, hleft]
  missing := by
    have hleft : ¬h.Kept (.assistant text calls, k.length) := hc
    have hcalls : (Message.assistant text calls).calls = calls := rfl
    simp [List.zipIdx_append, hs.missing, hleft, hcalls]
  taken i := by
    simp only [hs.taken, getElem?_concat_eq_some, Message.assistant.injEq]
    constructor
    · rintro ⟨text', calls', hget, hcomplete⟩
      exact ⟨text', calls', Or.inl hget, hcomplete⟩
    · rintro ⟨text', calls', hget | ⟨rfl, rfl, rfl⟩, hcomplete⟩
      · exact ⟨text', calls', hget, hcomplete⟩
      · exact absurd hcomplete hc

/-- Visiting the next message of a history goes on with the selection. -/
theorem Selects.visit {m : Message} {l : History} (hs : h.Selects k s) (hh : h = k ++ m :: l) :
    h.Selects (k ++ [m]) (s.visit (CallIndex.ofHistory h) (m, k.length)) := by
  subst hh
  cases m with
  | assistant text calls =>
      by_cases hc : (k ++ .assistant text calls :: l : History).Complete k.length calls
      · have hvisit := hs.takeBatch text hc
        simpa only [Selection.visit, unmatched_eq_nil.mpr hc] using hvisit
      · have hvisit := hs.dropBatch text hc
        rw [← unmatched_eq_objections] at hvisit
        simp only [Selection.visit]
        split
        · next hnil => exact absurd (unmatched_eq_nil.mp hnil) hc
        · exact hvisit
  | toolResult r =>
      by_cases hr : (k ++ .toolResult r :: l : History).Replies k.length r
      · obtain ⟨hanswer, i, hissuer, hbatch⟩ := replies_iff.mp hr
        have htaken : i ∈ s.taken := (hs.taken i).mpr hbatch
        have hvisit : s.visit (CallIndex.ofHistory (k ++ .toolResult r :: l)) (.toolResult r, k.length) =
            s.keep (.toolResult r) := by
          simp [Selection.visit, hanswer, hissuer, htaken]
        rw [hvisit]
        exact hs.keep hr (fun _ _ => nofun)
      · have hvisit : s.visit (CallIndex.ofHistory (k ++ .toolResult r :: l)) (.toolResult r, k.length) = s := by
          refine if_neg fun htrue => hr ?_
          obtain ⟨hanswer, hissuer⟩ := (Bool.and_eq_true _ _).mp htrue
          split at hissuer
          · next i hi =>
              exact replies_iff.mpr ⟨beq_iff_eq.mp hanswer, i, hi, (hs.taken i).mp (List.contains_iff_mem.mp hissuer)⟩
          · cases hissuer
        rw [hvisit]
        exact hs.leave hr (fun _ _ => nofun)
  | user text => exact hs.keep trivial (fun _ _ => nofun)
  | system text => exact hs.keep trivial (fun _ _ => nofun)

/-- Visiting a part of the history selects what is kept of it. -/
theorem selects_front (hp : k <+: h) :
    h.Selects k (k.zipIdx.foldl (Selection.visit (CallIndex.ofHistory h)) {}) := by
  induction k using List.reverseRecOn with
  | nil => exact ⟨rfl, rfl, by simp⟩
  | append_singleton k m ih =>
      obtain ⟨l, hl⟩ := hp
      rw [List.append_assoc, List.singleton_append] at hl
      rw [List.zipIdx_append, List.foldl_append, Nat.zero_add]
      exact (ih ⟨_, hl⟩).visit hl.symm

theorem selects_snapshot (h : History) : ∃ s : Selection, h.Selects h s ∧ h.snapshot = s.snapshot :=
  ⟨_, selects_front (List.prefix_refl h), rfl⟩

end History

end Colloquy
