import Colloquy.Proofs.Conversation.Snapshot

/-! Closing what a history leaves open. Every id that was issued and has no result after its first issue gets
one error result, in the order of issue (`unanswered_eq_openCalls`). From then on the first issue of every id
is answered later, so the batches left out of a snapshot are those that repeat an id (`complete_close_iff`),
and the ids that they repeat are the ones named as missing. -/

namespace Colloquy

def Message.isBatch : Message → Bool
  | .assistant _ _ => true
  | .user _ | .system _ | .toolResult _ => false

namespace History

/-- The call of a batch at position `i` whose place in the batch is given is the first with its id. -/
def IsFirst (h : History) (i : Nat) (calls : List ToolCall) (entry : ToolCall × Nat) : Prop :=
  entry.1.id ∉ (calls.take entry.2).map (·.id) ∧ entry.1.id ∉ issuedIds (h.take i)

instance (h : History) (i : Nat) (calls : List ToolCall) : DecidablePred (h.IsFirst i calls) :=
  fun entry => inferInstanceAs (Decidable (entry.1.id ∉ _ ∧ entry.1.id ∉ _))

/-- The calls of a batch that are the first with their id, and the ids of the others, in call order. -/
def firstIssues (h : History) (i : Nat) (calls : List ToolCall) : List ToolCall :=
  (calls.zipIdx.filter (h.IsFirst i calls ·)).map (·.1)

def repeatedIds (h : History) (i : Nat) (calls : List ToolCall) : List String :=
  (calls.zipIdx.filter (¬h.IsFirst i calls ·)).map (·.1.id)

/-- For every id without a result after its first issue the call that issued it first, in issue order. -/
def openCalls (h : History) : List ToolCall :=
  h.zipIdx.flatMap fun entry =>
    (h.firstIssues entry.2 entry.1.calls).filter (·.id ∉ answeredIds (h.drop (entry.2 + 1)))

/-- The ids of a batch at position `i` are different and new. -/
def NewBatch (h : History) (i : Nat) (calls : List ToolCall) : Prop :=
  (calls.map (·.id)).Nodup ∧ ∀ c ∈ calls, c.id ∉ issuedIds (h.take i)

instance (h : History) (i : Nat) (calls : List ToolCall) : Decidable (h.NewBatch i calls) :=
  inferInstanceAs (Decidable ((calls.map (·.id)).Nodup ∧ ∀ c ∈ calls, c.id ∉ issuedIds (h.take i)))

/-- The error result of a call that was never answered. -/
def abandoned (e : ToolError) (c : ToolCall) : Message :=
  .toolResult ⟨c.id, c.toolName, .obj [("error", .str e.message)], true⟩

variable {h k l : History} {m : Message} {calls : List ToolCall} {e : ToolError}

/-! ### The first of each id -/

/-- Of calls with wanted ids the first of each id are the wanted ones of the first of each id. -/
theorem firstOfEachId_filter (wanted : String → Prop) [DecidablePred wanted] {seen seen' : List String}
    (hseen : ∀ id, wanted id → (id ∈ seen ↔ id ∈ seen')) (calls : List ToolCall) :
    firstOfEachId seen (calls.filter (wanted ·.id)) = (firstOfEachId seen' calls).filter (wanted ·.id) := by
  induction calls generalizing seen seen' with
  | nil => rfl
  | cons c cs ih =>
      by_cases hc : wanted c.id
      · have hnext : ∀ id, wanted id → (id ∈ c.id :: seen ↔ id ∈ c.id :: seen') := fun id hid => by
          simp [hseen id hid]
        by_cases hold : c.id ∈ seen'
        · simp [hc, firstOfEachId, hold, (hseen c.id hc).mpr hold, ih hseen]
        · simp [hc, firstOfEachId, hold, mt (hseen c.id hc).mp hold, ih hnext]
      · -- an unwanted call is in neither list, but one of the two remembers its id
        have hrest : ∀ id, wanted id → (id ∈ seen ↔ id ∈ c.id :: seen') := fun id hid => by
          have hother : id ≠ c.id := fun heq => hc (heq ▸ hid)
          simp [hseen id hid, hother]
        by_cases hold : c.id ∈ seen'
        · simp [hc, firstOfEachId, hold, ih hseen]
        · simp [hc, firstOfEachId, hold, ih hrest]

theorem firstOfEachId_congr {seen seen' : List String} {calls : List ToolCall}
    (hseen : ∀ c ∈ calls, c.id ∈ seen ↔ c.id ∈ seen') : firstOfEachId seen calls = firstOfEachId seen' calls := by
  induction calls generalizing seen seen' with
  | nil => rfl
  | cons c cs ih =>
      rw [List.forall_mem_cons] at hseen
      have hnext : ∀ d ∈ cs, d.id ∈ c.id :: seen ↔ d.id ∈ c.id :: seen' := fun d hd => by
        simp [hseen.2 d hd]
      simp only [firstOfEachId, List.contains_iff_mem, hseen.1, ih hseen.2, ih hnext]

theorem firstOfEachId_append {as bs : List ToolCall} (hother : ∀ b ∈ bs, b.id ∉ as.map (·.id)) (seen : List String) :
    firstOfEachId seen (as ++ bs) = firstOfEachId seen as ++ firstOfEachId seen bs := by
  induction as generalizing seen with
  | nil => rfl
  | cons a as ih =>
      have hrest : ∀ b ∈ bs, b.id ∉ as.map (·.id) := fun b hb hmem => hother b hb (List.mem_cons_of_mem _ hmem)
      have hbs : firstOfEachId (a.id :: seen) bs = firstOfEachId seen bs := by
        refine firstOfEachId_congr fun b hb => ?_
        have hne : b.id ≠ a.id := fun heq => hother b hb (heq ▸ List.mem_cons_self)
        simp [hne]
      by_cases hold : a.id ∈ seen
      · simp [firstOfEachId, hold, ih hrest]
      · simp [firstOfEachId, hold, ih hrest, hbs]

/-- The first of each id are the calls whose id is not among those before. `done` are calls before the list. -/
theorem firstOfEachId_eq_filter {seen : List String} (done : List ToolCall)
    (hseen : ∀ id, id ∈ seen ↔ id ∈ done.map (·.id)) (calls : List ToolCall) :
    firstOfEachId seen calls = ((calls.zipIdx done.length).filter fun entry =>
      entry.1.id ∉ ((done ++ calls).take entry.2).map (·.id)).map (·.1) := by
  induction calls generalizing seen done with
  | nil => rfl
  | cons c cs ih =>
      have hrest := @ih (c.id :: seen) (done ++ [c]) fun id => by simp [hseen, or_comm]
      rw [List.length_append, List.length_singleton, List.append_assoc, List.singleton_append] at hrest
      rw [List.zipIdx_cons, List.filter_cons, List.take_left, firstOfEachId]
      by_cases hold : c.id ∈ seen
      · -- the id is remembered already, so it makes no difference to the calls that follow
        have hsame : firstOfEachId seen cs = firstOfEachId (c.id :: seen) cs := by
          refine firstOfEachId_congr fun d _ => ?_
          have hd : d.id = c.id → d.id ∈ seen := fun heq => heq ▸ hold
          rw [List.mem_cons]
          tauto
        simp [hold, (hseen c.id).mp hold, hsame, hrest]
      · simp [hold, mt (hseen c.id).mpr hold, hrest]

theorem firstIssues_eq (h : History) (i : Nat) (calls : List ToolCall) :
    h.firstIssues i calls = (firstOfEachId [] calls).filter (·.id ∉ issuedIds (h.take i)) := by
  rw [firstOfEachId_eq_filter [] (by simp), List.filter_map, List.filter_filter, firstIssues]
  simp [IsFirst, and_comm]

/-! ### Open calls -/

/-- The calls of a batch that the index takes for open ones are those whose id is new and has no result later. -/
theorem isOpen_iff {c : ToolCall} (hc : c ∈ m.calls) :
    (CallIndex.ofHistory (k ++ m :: l)).issuers[c.id]? = some k.length ∧
      ¬(CallIndex.ofHistory (k ++ m :: l)).answers[c.id]?.isSome ↔ c.id ∉ k.issuedIds ∧ c.id ∉ l.answeredIds := by
  have hid : c.id ∈ m.calls.map (·.id) := List.mem_map_of_mem hc
  rw [CallIndex.issuers_at_iff hid]
  exact and_congr_right fun hnew => not_congr (CallIndex.isSome_answers_iff hid hnew)

/-- The calls of all messages of a part of the history that are open, as the index has it. -/
theorem filter_issued : (h.issued.filter fun entry =>
      (CallIndex.ofHistory h).issuers[entry.1.id]? == some entry.2 &&
        !(CallIndex.ofHistory h).answers.contains entry.1.id).map (·.1) =
    h.zipIdx.flatMap fun entry => entry.1.calls.filter fun c =>
      c.id ∉ issuedIds (h.take entry.2) ∧ c.id ∉ answeredIds (h.drop (entry.2 + 1)) := by
  rw [issued, List.filter_flatMap, List.map_flatMap]
  refine List.flatMap_congr fun entry hentry => ?_
  obtain ⟨m, i⟩ := entry
  obtain ⟨k, l, rfl, rfl⟩ := split_at (List.mem_zipIdx_iff_getElem?.mp hentry)
  have hdrop : (k ++ m :: l).drop (k.length + 1) = l := by simp
  rw [List.filter_map, List.map_map, Function.comp_def, List.map_id', List.take_left, hdrop]
  refine List.filter_congr fun c hc => ?_
  rw [Function.comp, Bool.eq_iff_iff, decide_eq_true_eq, ← isOpen_iff hc, Std.HashMap.contains_eq_isSome_getElem?]
  simp

theorem firstOfEachId_zipIdx (hp : k <+: h) :
    firstOfEachId [] (k.zipIdx.flatMap fun entry => entry.1.calls.filter fun c =>
        c.id ∉ issuedIds (h.take entry.2) ∧ c.id ∉ answeredIds (h.drop (entry.2 + 1))) =
      k.zipIdx.flatMap fun entry =>
        (h.firstIssues entry.2 entry.1.calls).filter (·.id ∉ answeredIds (h.drop (entry.2 + 1))) := by
  induction k using List.reverseRecOn with
  | nil => rfl
  | append_singleton k m ih =>
      have hk := ih ((List.prefix_append k [m]).trans hp)
      obtain ⟨l, rfl⟩ := hp
      have htake : (k ++ [m] ++ l).take k.length = k := by simp
      rw [List.zipIdx_append, List.flatMap_append, List.flatMap_append, firstOfEachId_append, hk]
      · simp only [List.zipIdx_singleton, List.flatMap_singleton, Nat.zero_add, firstIssues_eq, List.filter_filter]
        rw [firstOfEachId_filter (fun id => id ∉ issuedIds ((k ++ [m] ++ l).take k.length) ∧
          id ∉ answeredIds ((k ++ [m] ++ l).drop (k.length + 1))) (fun _ _ => Iff.rfl)]
        simp [and_comm]
      · -- the calls of earlier messages were issued before, and an open call of this one was not
        intro b hb hold
        obtain ⟨a, ha, heq⟩ := List.mem_map.mp hold
        obtain ⟨entry, hentry, ha⟩ := List.mem_flatMap.mp ha
        have hissued : a ∈ calls k := List.mem_flatMap.mpr
          ⟨entry.1, (List.mem_zipIdx_iff_getElem?.mp hentry) |> List.mem_of_getElem?, List.mem_of_mem_filter ha⟩
        simp only [List.zipIdx_singleton, List.flatMap_singleton, Nat.zero_add, htake, List.mem_filter,
          decide_eq_true_eq] at hb
        exact hb.2.1 (heq ▸ List.mem_map_of_mem hissued)

/-- What a repair finds unanswered. -/
theorem unanswered_eq_openCalls (h : History) : h.unanswered = h.openCalls := by
  rw [unanswered, filter_issued, firstOfEachId_zipIdx (List.prefix_refl h), openCalls]

theorem mem_firstOfEachId {seen : List String} {id : String} :
    id ∈ (firstOfEachId seen calls).map (·.id) ↔ id ∉ seen ∧ id ∈ calls.map (·.id) := by
  induction calls generalizing seen with
  | nil => simp [firstOfEachId]
  | cons c cs ih =>
      by_cases hold : c.id ∈ seen
      · have hother : id ∉ seen → id ≠ c.id := fun hnew heq => hnew (heq ▸ hold)
        rw [firstOfEachId, if_pos (List.contains_iff_mem.mpr hold), ih, List.map_cons, List.mem_cons]
        tauto
      · have hnew : id = c.id → id ∉ seen := fun heq => heq ▸ hold
        rw [firstOfEachId, if_neg (mt List.contains_iff_mem.mp hold), List.map_cons, List.mem_cons, ih, List.map_cons,
          List.mem_cons, List.mem_cons]
        tauto

theorem nodup_firstOfEachId (seen : List String) (calls : List ToolCall) :
    ((firstOfEachId seen calls).map (·.id)).Nodup := by
  induction calls generalizing seen with
  | nil => exact List.nodup_nil
  | cons c cs ih =>
      rw [firstOfEachId]
      split
      · exact ih seen
      · rw [List.map_cons, List.nodup_cons, mem_firstOfEachId]
        exact ⟨fun hmem => hmem.1 List.mem_cons_self, ih (c.id :: seen)⟩

theorem nodup_openCalls (h : History) : (h.openCalls.map (·.id)).Nodup := by
  rw [← unanswered_eq_openCalls, unanswered]
  exact nodup_firstOfEachId _ _

/-- The id was issued, and no result for it comes after its first issue. -/
def LeavesOpen (h : History) (id : String) : Prop :=
  ∃ (k : History) (m : Message) (l : History), h = k ++ m :: l ∧
    id ∈ m.calls.map (·.id) ∧ id ∉ k.issuedIds ∧ id ∉ l.answeredIds

theorem mem_openCalls {id : String} : id ∈ h.openCalls.map (·.id) ↔ h.LeavesOpen id := by
  have hbatch : ∀ {k l : History} {m : Message}, id ∈ (((k ++ m :: l : History).firstIssues k.length m.calls).filter
      (·.id ∉ answeredIds ((k ++ m :: l).drop (k.length + 1)))).map (·.id) ↔
      id ∈ m.calls.map (·.id) ∧ id ∉ k.issuedIds ∧ id ∉ l.answeredIds := fun {k l m} => by
    have hdrop : (k ++ m :: l).drop (k.length + 1) = l := by simp
    have hfirst : id ∈ (firstOfEachId [] m.calls).map (·.id) ↔ _ := mem_firstOfEachId
    rw [firstIssues_eq, List.filter_filter, List.take_left, hdrop]
    simp only [List.mem_map, List.mem_filter, List.not_mem_nil, not_false_eq_true, true_and, Bool.and_eq_true,
      decide_eq_true_eq] at hfirst ⊢
    rw [← hfirst]
    constructor
    · rintro ⟨c, ⟨hc, hl, hk⟩, rfl⟩
      exact ⟨⟨c, hc, rfl⟩, hk, hl⟩
    · rintro ⟨⟨c, hc, rfl⟩, hk, hl⟩
      exact ⟨c, ⟨hc, hl, hk⟩, rfl⟩
  rw [openCalls, List.map_flatMap, List.mem_flatMap]
  constructor
  · rintro ⟨⟨m, i⟩, hentry, hid⟩
    obtain ⟨k, l, rfl, rfl⟩ := split_at (List.mem_zipIdx_iff_getElem?.mp hentry)
    exact ⟨k, m, l, rfl, hbatch.mp hid⟩
  · rintro ⟨k, m, l, rfl, hid⟩
    exact ⟨(m, k.length), List.mem_zipIdx_iff_getElem?.mpr (by simp), hbatch.mpr hid⟩

/-! ### A closed history -/

theorem closings_eq (h : History) (e : ToolError) : h.closings e = h.openCalls.map (abandoned e) := by
  rw [closings, unanswered_eq_openCalls]
  rfl

theorem calls_closings (h : History) (e : ToolError) : ∀ m ∈ h.closings e, m.calls = [] ∧ m.isBatch = false := by
  rw [closings_eq]
  intro m hm
  obtain ⟨c, _, rfl⟩ := List.mem_map.mp hm
  exact ⟨rfl, rfl⟩

theorem answeredIds_closings (h : History) (e : ToolError) :
    answeredIds (h.closings e) = h.openCalls.map (·.id) := by
  rw [closings_eq, answeredIds, List.filterMap_map]
  exact congrFun List.filterMap_eq_map h.openCalls

/-- In a closed history an id is answered after its first issue. -/
theorem answered_after_close {id : String} (hid : id ∈ m.calls.map (·.id)) (hnew : id ∉ k.issuedIds) :
    id ∈ answeredIds (l ++ (k ++ m :: l : History).closings e) := by
  rw [answeredIds_append, List.mem_append, answeredIds_closings, mem_openCalls]
  by_cases hl : id ∈ l.answeredIds
  · exact Or.inl hl
  · exact Or.inr ⟨k, m, l, rfl, hid, hnew, hl⟩

theorem close_split : (k ++ m :: l : History).close e = k ++ m :: (l ++ (k ++ m :: l : History).closings e) := by
  rw [close, List.append_assoc, List.cons_append]

/-- Closing makes the batches complete that bring different and new ids. -/
theorem complete_close_iff : ((k ++ m :: l : History).close e).Complete k.length m.calls ↔
    (k ++ m :: l : History).NewBatch k.length m.calls := by
  rw [close_split, complete_iff, NewBatch, List.take_left]
  refine and_congr_right fun _ => forall₂_congr fun c hc => and_iff_left_of_imp fun hnew => ?_
  exact answered_after_close (List.mem_map_of_mem hc) hnew

theorem objections_close : ((k ++ m :: l : History).close e).objections k.length m.calls =
    (k ++ m :: l : History).repeatedIds k.length m.calls := by
  rw [close_split, objections, repeatedIds]
  refine congrArg (List.map _) (List.filter_congr fun entry hentry => ?_)
  have hdrop : (k ++ m :: (l ++ (k ++ m :: l : History).closings e)).drop (k.length + 1) =
      l ++ (k ++ m :: l : History).closings e := by simp
  have hmem : entry.1 ∈ m.calls := List.mem_of_getElem? (List.mem_zipIdx_iff_getElem?.mp hentry)
  have hlater := answered_after_close (k := k) (l := l) (e := e) (List.mem_map_of_mem hmem)
  rw [hdrop, List.take_left, decide_eq_decide, IsFirst, List.take_left]
  tauto

theorem repeatedIds_eq_nil_iff : (k ++ m :: l : History).repeatedIds k.length m.calls = [] ↔
    (k ++ m :: l : History).NewBatch k.length m.calls := by
  cases m with
  | assistant text calls =>
      rw [← objections_close (e := .cancelled), ← complete_close_iff (e := .cancelled), close_split]
      have hcalls : (Message.assistant text calls).calls = calls := rfl
      rw [hcalls, ← unmatched_eq_objections, unmatched_eq_nil]
  | _ => exact iff_of_true rfl ⟨List.nodup_nil, fun c hc => by cases hc⟩

/-- A closed history has nothing left to close. -/
theorem unanswered_close (h : History) (e : ToolError) : (h.close e).unanswered = [] := by
  rw [unanswered_eq_openCalls, List.eq_nil_iff_forall_not_mem]
  intro c hc
  obtain ⟨k, m, l, hsplit, hid, hnew, hopen⟩ := mem_openCalls.mp (List.mem_map_of_mem (f := (·.id)) hc)
  have hm : (h.close e)[k.length]? = some m := by rw [hsplit]; simp
  -- the message that issues the id is one of the history, not a result that closing appends
  have hlt : k.length < h.length := by
    by_contra hge
    rw [close, List.getElem?_append_right (Nat.le_of_not_lt hge)] at hm
    rw [(calls_closings h e m (List.mem_of_getElem? hm)).1] at hid
    cases hid
  rw [close, List.getElem?_append_left hlt] at hm
  obtain ⟨k', l', rfl, hk⟩ := split_at hm
  rw [close_split] at hsplit
  obtain ⟨rfl, hrest⟩ := List.append_inj hsplit hk
  rw [List.cons.injEq] at hrest
  exact hopen (hrest.2 ▸ answered_after_close hid hnew)

theorem flatMap_filter {α β : Type} (p : α → Bool) (f : α → List β) (as : List α) :
    (as.filter p).flatMap f = as.flatMap fun a => if p a then f a else [] := by
  induction as with
  | nil => rfl
  | cons a as ih => by_cases ha : p a <;> simp [ha, ih]

theorem zipIdx_close (h : History) (e : ToolError) :
    (h.close e).zipIdx = h.zipIdx ++ (h.closings e).zipIdx h.length := by
  rw [close, List.zipIdx_append, Nat.zero_add]

theorem not_batch_of_mem_closings {entry : Message × Nat} (hentry : entry ∈ (h.closings e).zipIdx h.length) :
    entry.1.calls = [] ∧ entry.1.isBatch = false := by
  rw [List.mem_zipIdx_iff_le_and_getElem?_sub] at hentry
  exact calls_closings h e entry.1 (List.mem_of_getElem? hentry.2)

theorem missing_close (h : History) (e : ToolError) :
    (h.close e).snapshot.missing = h.zipIdx.flatMap fun entry => h.repeatedIds entry.2 entry.1.calls := by
  have hnone : (((h.closings e).zipIdx h.length).flatMap fun entry => if ¬(h.close e).Kept entry then
      (h.close e).objections entry.2 entry.1.calls else []) = [] := by
    refine List.flatMap_eq_nil_iff.mpr fun entry hentry => ?_
    rw [(not_batch_of_mem_closings hentry).1]
    split <;> rfl
  simp only [snapshot_missing, flatMap_filter, decide_eq_true_eq, zipIdx_close, List.flatMap_append, hnone,
    List.append_nil]
  refine List.flatMap_congr fun ⟨m, i⟩ hentry => ?_
  obtain ⟨k, l, rfl, rfl⟩ := split_at (List.mem_zipIdx_iff_getElem?.mp hentry)
  cases m with
  | assistant text calls =>
      have hkept : ((k ++ .assistant text calls :: l : History).close e).Kept (.assistant text calls, k.length) ↔
          (k ++ .assistant text calls :: l : History).repeatedIds k.length calls = [] :=
        complete_close_iff.trans repeatedIds_eq_nil_iff.symm
      split
      · exact objections_close
      · next hnil => exact (hkept.mp (not_not.mp hnil)).symm
  | _ => split <;> rfl

theorem batches_close (h : History) (e : ToolError) :
    (h.close e).snapshot.messages.filter Message.isBatch =
      (h.zipIdx.filter fun entry => entry.1.isBatch ∧ h.NewBatch entry.2 entry.1.calls).map (·.1) := by
  have hnone : ((h.closings e).zipIdx h.length).filter (fun entry =>
      entry.1.isBatch && decide ((h.close e).Kept entry)) = [] := by
    refine List.filter_eq_nil_iff.mpr fun entry hentry => ?_
    rw [(not_batch_of_mem_closings hentry).2]
    simp
  rw [snapshot_messages, keptOf, List.filter_map, List.filter_filter, zipIdx_close, List.filter_append]
  simp only [Function.comp_def, hnone, List.append_nil]
  refine congrArg (List.map _) (List.filter_congr fun entry hentry => ?_)
  obtain ⟨m, i⟩ := entry
  obtain ⟨k, l, rfl, rfl⟩ := split_at (List.mem_zipIdx_iff_getElem?.mp hentry)
  cases m with
  | assistant text calls =>
      have hkept : ((k ++ .assistant text calls :: l : History).close e).Kept (.assistant text calls, k.length) ↔
          (k ++ .assistant text calls :: l : History).NewBatch k.length calls := complete_close_iff
      simp [Message.isBatch, Message.calls, hkept]
  | _ => simp [Message.isBatch]

theorem missing_close_of_nodup (hissued : h.issuedIds.Nodup) (e : ToolError) : (h.close e).snapshot.missing = [] := by
  rw [missing_close, List.flatMap_eq_nil_iff]
  rintro ⟨m, i⟩ hentry
  obtain ⟨k, l, rfl, rfl⟩ := split_at (List.mem_zipIdx_iff_getElem?.mp hentry)
  rw [issuedIds_append, issuedIds_cons, List.nodup_append', List.nodup_append'] at hissued
  refine repeatedIds_eq_nil_iff.mpr ⟨hissued.2.1.1, fun c hc hold => ?_⟩
  rw [List.take_left] at hold
  exact hissued.2.2 hold (List.mem_append_left _ (List.mem_map_of_mem hc))

/-- What closing makes of a history. -/
structure Repairs (h : History) (e : ToolError) (k : History) : Prop where
  /-- Nothing is changed, and every call that was left open gets an error result. -/
  appended : k = h ++ h.openCalls.map (abandoned e)
  /-- There is one such call for every id that was left open. -/
  once : (h.openCalls.map (·.id)).Nodup ∧ ∀ id, id ∈ h.openCalls.map (·.id) ↔ h.LeavesOpen id
  counted : (h.closings e).length = h.openCalls.length
  answered : k.unanswered = []
  again : ∀ e', k.close e' = k ∧ (k.closings e').length = 0
  /-- The batches that a snapshot takes in are those with different and new ids. -/
  batches : k.snapshot.messages.filter Message.isBatch =
    (h.zipIdx.filter fun entry => entry.1.isBatch ∧ h.NewBatch entry.2 entry.1.calls).map (·.1)
  /-- The ids named as missing are those that a batch repeats or takes over from an earlier one. -/
  missing : k.snapshot.missing = h.zipIdx.flatMap fun entry => h.repeatedIds entry.2 entry.1.calls
  complete : h.issuedIds.Nodup → k.snapshot.missing = []

/-- Closing repairs every history: one error result for each id that was left open, and from then on a batch
of calls is left out of a snapshot only for ids that it repeats. -/
theorem close_repairs (h : History) (e : ToolError) : h.Repairs e (h.close e) where
  appended := by rw [close, closings_eq]
  once := ⟨nodup_openCalls h, fun _ => mem_openCalls⟩
  counted := by rw [closings_eq, List.length_map]
  answered := unanswered_close h e
  again e' := by
    have hnone : (h.close e).closings e' = [] := by rw [closings, unanswered_close, List.map_nil]
    exact ⟨by rw [close, hnone, List.append_nil], by rw [hnone, List.length_nil]⟩
  batches := batches_close h e
  missing := missing_close h e
  complete hissued := missing_close_of_nodup hissued e

end History

end Colloquy
