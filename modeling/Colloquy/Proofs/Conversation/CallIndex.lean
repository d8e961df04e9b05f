import Mathlib.Data.List.Flatten
import Mathlib.Data.List.Induction
import Colloquy.Conversation.History

/-! What the index of a history holds. An id is indexed under the first message that issues it, and
under the first result that comes after that message; both entries stay as the history grows. So
whether a call is indexed under its own message, and whether it is indexed as answered, can be read off
the history before the message and the history after it (`issuers_at_iff`, `isSome_answers_iff`). -/

namespace Colloquy

/-- The id that a message answers. -/
def Message.answeredId? : Message → Option String
  | .toolResult r => some r.callId
  | _ => none

namespace History

/-- All calls of a history, in the order in which they were issued. -/
def calls (h : History) : List ToolCall := h.flatMap Message.calls

/-- The ids of all calls. -/
def issuedIds (h : History) : List String := h.calls.map (·.id)

/-- The ids of all results. -/
def answeredIds (h : History) : List String := h.filterMap Message.answeredId?

@[simp] theorem calls_nil : calls [] = [] := rfl

@[simp] theorem calls_append (h k : History) : calls (h ++ k) = h.calls ++ k.calls := List.flatMap_append

@[simp] theorem calls_cons (m : Message) (h : History) : calls (m :: h) = m.calls ++ h.calls := List.flatMap_cons

@[simp] theorem issuedIds_nil : issuedIds [] = [] := rfl

@[simp] theorem issuedIds_append (h k : History) : issuedIds (h ++ k) = h.issuedIds ++ k.issuedIds := by
  simp [issuedIds]

@[simp] theorem issuedIds_cons (m : Message) (h : History) :
    issuedIds (m :: h) = m.calls.map (·.id) ++ h.issuedIds := by
  simp [issuedIds]

@[simp] theorem answeredIds_nil : answeredIds [] = [] := rfl

@[simp] theorem answeredIds_append (h k : History) : answeredIds (h ++ k) = h.answeredIds ++ k.answeredIds :=
  List.filterMap_append

@[simp] theorem answeredIds_cons (m : Message) (h : History) :
    answeredIds (m :: h) = m.answeredId?.toList ++ h.answeredIds := by
  cases hm : m.answeredId? <;> simp [answeredIds, hm]

theorem issuedIds_sublist {h k : History} (hs : h.Sublist k) : h.issuedIds.Sublist k.issuedIds :=
  (hs.flatMap Message.calls).map ToolCall.id

/-- What stands at a position divides the history there. -/
theorem split_at {h : History} {i : Nat} {m : Message} (hm : h[i]? = some m) :
    ∃ k l : History, h = k ++ m :: l ∧ k.length = i := by
  obtain ⟨hlt, hget⟩ := List.getElem?_eq_some_iff.mp hm
  refine ⟨h.take i, h.drop (i + 1), ?_, ?_⟩
  · rw [← hget, ← List.drop_eq_getElem_cons hlt, List.take_append_drop]
  · rw [List.length_take, Nat.min_eq_left (Nat.le_of_lt hlt)]

theorem issues_iff (h : History) (id : String) : h.issues id = true ↔ id ∈ h.issuedIds := by
  simp only [issues, List.any_eq_true, beq_iff_eq, issuedIds, calls, List.mem_map, List.mem_flatMap]
  constructor
  · rintro ⟨m, hm, c, hc, rfl⟩
    exact ⟨c, ⟨m, hm, hc⟩, rfl⟩
  · rintro ⟨c, ⟨m, hm, hc⟩, rfl⟩
    exact ⟨m, hm, c, hc, rfl⟩

end History

namespace CallIndex

theorem ofHistory_concat (h : History) (m : Message) :
    ofHistory (h ++ [m]) = (ofHistory h).note (m, h.length) := by
  simp [ofHistory, List.zipIdx_append, List.foldl_append]

theorem getElem?_foldl_insertIfNew (calls : List ToolCall) (i : Nat) (issuers : Std.HashMap String Nat) (id : String) :
    (calls.foldl (fun m c => m.insertIfNew c.id i) issuers)[id]? =
      issuers[id]?.or (if id ∈ calls.map (·.id) then some i else none) := by
  induction calls generalizing issuers with
  | nil => simp
  | cons c cs ih =>
      rw [List.foldl_cons, ih, Std.HashMap.getElem?_insertIfNew]
      by_cases hc : c.id = id
      · cases hi : issuers[id]? with
        | none => simp [hc, hi, Std.HashMap.mem_iff_isSome_getElem?]
        | some j => simp [hc, hi, Std.HashMap.mem_iff_isSome_getElem?]
      · simp [hc, Ne.symm hc]

theorem note_issuers (x : CallIndex) (m : Message) (i : Nat) (id : String) :
    (x.note (m, i)).issuers[id]? = x.issuers[id]?.or (if id ∈ m.calls.map (·.id) then some i else none) := by
  cases m with
  | assistant text calls => exact getElem?_foldl_insertIfNew calls i x.issuers id
  | toolResult r =>
      simp only [note, Message.calls]
      split <;> simp
  | user text => simp [note, Message.calls]
  | system text => simp [note, Message.calls]

theorem note_answers (x : CallIndex) (m : Message) (i : Nat) (id : String) :
    (x.note (m, i)).answers[id]? =
      x.answers[id]?.or (if m.answeredId? = some id ∧ x.issuers[id]?.isSome then some i else none) := by
  cases m with
  | toolResult r =>
      simp only [note, Message.answeredId?, Option.some.injEq, Std.HashMap.contains_eq_isSome_getElem?]
      by_cases hr : r.callId = id
      · subst hr
        by_cases hi : x.issuers[r.callId]?.isSome
        · simp only [hi, if_true, and_self, Std.HashMap.getElem?_insertIfNew]
          cases ha : x.answers[r.callId]? <;> simp [ha, Std.HashMap.mem_iff_isSome_getElem?]
        · simp only [hi, Bool.false_eq_true, if_false, and_false, Option.or_none]
      · simp only [hr, false_and, if_false, Option.or_none]
        split
        · rw [Std.HashMap.getElem?_insertIfNew, if_neg (by simp [hr])]
        · rfl
  | assistant text calls => simp [note, Message.answeredId?]
  | user text => simp [note, Message.answeredId?]
  | system text => simp [note, Message.answeredId?]

/-- An id is indexed once it has been issued. -/
theorem isSome_issuers (h : History) (id : String) : (ofHistory h).issuers[id]?.isSome ↔ id ∈ h.issuedIds := by
  induction h using List.reverseRecOn with
  | nil => simp [ofHistory]
  | append_singleton h m ih =>
      rw [ofHistory_concat, note_issuers, Option.isSome_or, Bool.or_eq_true, ih, History.issuedIds_append,
        List.mem_append]
      simp only [History.issuedIds_cons, History.issuedIds_nil, List.append_nil]
      split <;> simp_all

/-- Only an id of some result is indexed as answered. -/
theorem mem_answeredIds_of_isSome {h : History} {id : String} (ha : (ofHistory h).answers[id]?.isSome) :
    id ∈ h.answeredIds := by
  induction h using List.reverseRecOn with
  | nil => simp [ofHistory] at ha
  | append_singleton h m ih =>
      rw [ofHistory_concat, note_answers, Option.isSome_or, Bool.or_eq_true] at ha
      rw [History.answeredIds_append, List.mem_append]
      rcases ha with ha | ha
      · exact Or.inl (ih ha)
      · by_cases hm : m.answeredId? = some id
        · exact Or.inr (by simp [hm])
        · simp [hm] at ha

/-- The position of an id's first call never changes. -/
theorem issuers_of_prefix {h k : History} (hp : h <+: k) {id : String} {i : Nat}
    (hi : (ofHistory h).issuers[id]? = some i) : (ofHistory k).issuers[id]? = some i := by
  obtain ⟨rest, rfl⟩ := hp
  induction rest using List.reverseRecOn with
  | nil => simpa using hi
  | append_singleton rest m ih =>
      rw [← List.append_assoc, ofHistory_concat, note_issuers, ih, Option.some_or]

/-- The position of an id's first result never changes. -/
theorem answers_of_prefix {h k : History} (hp : h <+: k) {id : String} {j : Nat}
    (hj : (ofHistory h).answers[id]? = some j) : (ofHistory k).answers[id]? = some j := by
  obtain ⟨rest, rfl⟩ := hp
  induction rest using List.reverseRecOn with
  | nil => simpa using hj
  | append_singleton rest m ih =>
      rw [← List.append_assoc, ofHistory_concat, note_answers, ih, Option.some_or]

/-- An id that is issued for the first time is indexed under the message that issues it. -/
theorem issuers_first {h k : History} {m : Message} (hp : h ++ [m] <+: k) {id : String}
    (hm : id ∈ m.calls.map (·.id)) (hnew : id ∉ h.issuedIds) :
    (ofHistory k).issuers[id]? = some h.length := by
  refine issuers_of_prefix hp ?_
  have hnone : (ofHistory h).issuers[id]? = none := by
    rw [← Option.not_isSome_iff_eq_none, isSome_issuers]
    exact hnew
  rw [ofHistory_concat, note_issuers, hnone, if_pos hm, Option.none_or]

/-- A result for an issued id is indexed as its answer if none was before. -/
theorem answers_next {h k : History} {r : ToolResult} (hp : h ++ [.toolResult r] <+: k)
    (hissued : r.callId ∈ h.issuedIds) (hnone : (ofHistory h).answers[r.callId]? = none) :
    (ofHistory k).answers[r.callId]? = some h.length := by
  refine answers_of_prefix hp ?_
  rw [ofHistory_concat, note_answers, hnone, if_pos ⟨rfl, (isSome_issuers h _).mpr hissued⟩, Option.none_or]

/-- The first result for an issued id is indexed as its answer. -/
theorem answers_first {h k : History} {r : ToolResult} (hp : h ++ [.toolResult r] <+: k)
    (hissued : r.callId ∈ h.issuedIds) (hnew : r.callId ∉ h.answeredIds) :
    (ofHistory k).answers[r.callId]? = some h.length := by
  refine answers_next hp hissued ?_
  rw [← Option.not_isSome_iff_eq_none]
  exact fun ha => hnew (mem_answeredIds_of_isSome ha)

/-- An id is indexed under a message that issues it. -/
theorem issuer_at {h : History} {id : String} {i : Nat} (hi : (ofHistory h).issuers[id]? = some i) :
    ∃ text calls, h[i]? = some (.assistant text calls) ∧ id ∈ calls.map (·.id) := by
  induction h using List.reverseRecOn with
  | nil => simp [ofHistory] at hi
  | append_singleton h m ih =>
      rw [ofHistory_concat, note_issuers] at hi
      cases hold : (ofHistory h).issuers[id]? with
      | some j =>
          rw [hold, Option.some_or, Option.some.injEq] at hi
          subst hi
          obtain ⟨text, calls, hget, hmem⟩ := ih hold
          obtain ⟨hlt, _⟩ := List.getElem?_eq_some_iff.mp hget
          exact ⟨text, calls, by rw [List.getElem?_append_left hlt, hget], hmem⟩
      | none =>
          rw [hold, Option.none_or] at hi
          split at hi
          · next hmem =>
              rw [Option.some.injEq] at hi
              subst hi
              cases m with
              | assistant text calls => exact ⟨text, calls, by simp, hmem⟩
              | _ => simp [Message.calls] at hmem
          · cases hi

/-- An id is indexed as answered under a result that comes after a call with the id. -/
theorem answer_at {h : History} {id : String} {j : Nat} (hj : (ofHistory h).answers[id]? = some j) :
    ∃ m, h[j]? = some m ∧ m.answeredId? = some id ∧ id ∈ History.issuedIds (h.take j) := by
  induction h using List.reverseRecOn with
  | nil => simp [ofHistory] at hj
  | append_singleton h m ih =>
      rw [ofHistory_concat, note_answers] at hj
      cases hold : (ofHistory h).answers[id]? with
      | some i =>
          rw [hold, Option.some_or, Option.some.injEq] at hj
          subst hj
          obtain ⟨m', hget, hanswer, hissued⟩ := ih hold
          obtain ⟨hlt, _⟩ := List.getElem?_eq_some_iff.mp hget
          refine ⟨m', by rw [List.getElem?_append_left hlt, hget], hanswer, ?_⟩
          rwa [List.take_append_of_le_length (Nat.le_of_lt hlt)]
      | none =>
          rw [hold, Option.none_or] at hj
          split at hj
          · next hanswer =>
              rw [Option.some.injEq] at hj
              subst hj
              refine ⟨m, List.getElem?_concat_length, hanswer.1, ?_⟩
              rw [List.take_left]
              exact (isSome_issuers h id).mp hanswer.2
          · cases hj

/-- A call is indexed under its message if no earlier message issues the id. -/
theorem issuers_at_iff {k l : History} {m : Message} {id : String} (hm : id ∈ m.calls.map (·.id)) :
    (ofHistory (k ++ m :: l)).issuers[id]? = some k.length ↔ id ∉ k.issuedIds := by
  refine ⟨fun hi hold => ?_, issuers_first ⟨l, by simp⟩ hm⟩
  obtain ⟨i, hk⟩ := Option.isSome_iff_exists.mp ((isSome_issuers k id).mpr hold)
  obtain ⟨_, _, hget, _⟩ := issuer_at hk
  obtain ⟨hlt, _⟩ := List.getElem?_eq_some_iff.mp hget
  have hfirst := issuers_of_prefix (List.prefix_append k (m :: l)) hk
  rw [hfirst, Option.some.injEq] at hi
  omega

/-- A new id is indexed as answered if a result comes after its message. -/
theorem isSome_answers_iff {k l : History} {m : Message} {id : String} (hm : id ∈ m.calls.map (·.id))
    (hnew : id ∉ k.issuedIds) : (ofHistory (k ++ m :: l)).answers[id]?.isSome ↔ id ∈ l.answeredIds := by
  induction l using List.reverseRecOn with
  | nil =>
      simp only [History.answeredIds_nil, List.not_mem_nil, iff_false]
      intro ha
      obtain ⟨j, hj⟩ := Option.isSome_iff_exists.mp ha
      obtain ⟨m', hget, hanswer, hissued⟩ := answer_at hj
      -- a result stands at `j`, so `j` is a position before the message itself
      rcases Nat.lt_or_ge j (k.length + 1) with hlt | hge
      · rw [List.take_append_of_le_length (by omega)] at hissued
        exact hnew ((History.issuedIds_sublist (List.take_sublist j k)).subset hissued)
      · simp [List.getElem?_eq_none (l := k ++ [m]) (by simpa using hge)] at hget
  | append_singleton l m' ih =>
      have hissued : (ofHistory (k ++ m :: l)).issuers[id]?.isSome := by
        rw [isSome_issuers, History.issuedIds_append, History.issuedIds_cons]
        exact List.mem_append_right _ (List.mem_append_left _ hm)
      rw [← List.cons_append, ← List.append_assoc, ofHistory_concat, note_answers, Option.isSome_or, Bool.or_eq_true,
        ih, History.answeredIds_append, List.mem_append]
      by_cases hanswer : m'.answeredId? = some id <;> simp [hanswer, hissued]

/-- A batch stands to be sent if its ids are new and different, and all of them are answered. -/
theorem unmatched_eq_nil_iff {x : CallIndex} {i : Nat} {seen : List String} {calls : List ToolCall} :
    x.unmatched i seen calls = [] ↔ (calls.map (·.id)).Nodup ∧
      ∀ c ∈ calls, c.id ∉ seen ∧ x.issuers[c.id]? = some i ∧ x.answers[c.id]?.isSome := by
  induction calls generalizing seen with
  | nil => simp [unmatched]
  | cons c cs ih =>
      simp only [unmatched, List.map_cons, List.nodup_cons, List.forall_mem_cons]
      split
      · next hagainst =>
          refine iff_of_false (List.cons_ne_nil _ _) fun ⟨_, hc, _⟩ => ?_
          simp [hc, Std.HashMap.contains_eq_isSome_getElem?] at hagainst
      · next hfor =>
          have hc : c.id ∉ seen ∧ x.issuers[c.id]? = some i ∧ x.answers[c.id]?.isSome := by
            simpa only [Std.HashMap.contains_eq_isSome_getElem?, Bool.or_eq_true, List.contains_iff_mem, bne_iff_ne,
              Bool.not_eq_true', Bool.not_eq_false, not_or, not_not, ne_eq, and_assoc] using hfor
          rw [ih]
          constructor
          · rintro ⟨hdiff, hcs⟩
            refine ⟨⟨fun hmem => ?_, hdiff⟩, hc, fun d hd => ?_⟩
            · obtain ⟨d, hd, heq⟩ := List.mem_map.mp hmem
              exact (hcs d hd).1 (heq ▸ List.mem_cons_self)
            · exact ⟨fun hold => (hcs d hd).1 (List.mem_cons_of_mem _ hold), (hcs d hd).2⟩
          · rintro ⟨⟨hnew, hdiff⟩, _, hcs⟩
            refine ⟨hdiff, fun d hd => ⟨?_, (hcs d hd).2⟩⟩
            rw [List.mem_cons, not_or]
            exact ⟨fun heq => hnew (heq ▸ List.mem_map_of_mem (f := (·.id)) hd), (hcs d hd).1⟩

end CallIndex

end Colloquy
