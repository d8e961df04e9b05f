import Colloquy.Proofs.Conversation.Snapshot

/-! Snapshots of a history that grows. What stands against a batch is either that its ids are not new (`Flawed`),
which is settled by the history up to the batch, or that a call has no result yet (`Pending`), which more messages can
only mend. So a message that was taken stays taken (`Kept.append`), and what comes in of the messages before are
batches that were pending, and their results. -/

namespace Colloquy

namespace History

variable {h x : History} {i : Nat} {calls : List ToolCall}

/-! ### The pass over a history -/

/-- The selection when the pass over a history has come to position `n`. -/
def selectionAt (h : History) (n : Nat) : Selection :=
  (h.take n).zipIdx.foldl (Selection.visit (CallIndex.ofHistory h)) {}

/-- The pass over a history adds the message at position `i` to the snapshot. -/
def TakesAt (h : History) (i : Nat) : Prop :=
  ∃ m ∈ h[i]?, (h.selectionAt (i + 1)).snapshot.messages = (h.selectionAt i).snapshot.messages ++ [m]

theorem messages_selectionAt (h : History) (n : Nat) :
    (h.selectionAt n).snapshot.messages = h.keptOf (h.take n) :=
  (selects_front (List.take_prefix n h)).messages

theorem takesAt_iff : h.TakesAt i ↔ ∃ m ∈ h[i]?, h.Kept (m, i) := by
  refine exists_congr fun m => and_congr_right fun hm => ?_
  obtain ⟨k, l, rfl, rfl⟩ := split_at hm
  have htake : (k ++ m :: l).take (k.length + 1) = k ++ [m] := List.take_length_add_append 1
  rw [messages_selectionAt, messages_selectionAt, htake, List.take_left, keptOf_concat]
  split
  · next hkept => exact iff_of_true rfl hkept
  · next hleft => exact iff_of_false (by simp) hleft

instance (h : History) (i : Nat) : Decidable (h.TakesAt i) := decidable_of_iff _ takesAt_iff.symm

theorem takesAt_iff_kept {m : Message} (hm : h[i]? = some m) : h.TakesAt i ↔ h.Kept (m, i) := by
  simp [takesAt_iff, hm]

/-- A snapshot holds what the pass takes, in order. -/
theorem snapshot_eq_taken (h : History) : h.snapshot.messages = (h.zipIdx.filter (h.TakesAt ·.2)).map (·.1) := by
  rw [snapshot_messages, keptOf]
  refine congrArg _ (List.filter_congr fun entry hentry => decide_eq_decide.mpr ?_)
  exact (takesAt_iff_kept (List.mem_zipIdx_iff_getElem?.mp hentry)).symm

/-! ### Batches -/

/-- An id of the batch comes twice in it or was issued before. -/
def Flawed (h : History) (i : Nat) (calls : List ToolCall) : Prop :=
  ¬(calls.map (·.id)).Nodup ∨ ∃ c ∈ calls, c.id ∈ issuedIds (h.take i)

/-- A call of the batch has no result yet. -/
def Pending (h : History) (i : Nat) (calls : List ToolCall) : Prop := ∃ c ∈ calls, c.id ∉ answeredIds (h.drop (i + 1))

theorem complete_iff_not : h.Complete i calls ↔ ¬h.Flawed i calls ∧ ¬h.Pending i calls := by
  constructor
  · intro hc
    refine ⟨?_, fun ⟨c, hmem, hopen⟩ => hopen (hc.answered c hmem)⟩
    rintro (htwice | ⟨c, hmem, hold⟩)
    · exact htwice hc.different
    · exact hc.fresh c hmem hold
  · rintro ⟨hflawed, hpending⟩
    rw [Flawed, not_or, not_not] at hflawed
    refine ⟨hflawed.1, fun c hc hold => hflawed.2 ⟨c, hc, hold⟩, fun c hc => by_contra fun hopen => ?_⟩
    exact hpending ⟨c, hc, hopen⟩

/-- Whether a batch is flawed is settled by what comes before it. -/
theorem flawed_append (x : History) (hi : i < h.length) : (h ++ x : History).Flawed i calls ↔ h.Flawed i calls := by
  rw [Flawed, Flawed, List.take_append_of_le_length (Nat.le_of_lt hi)]

/-- A call that has a result keeps it. -/
theorem Pending.of_append (hi : i < h.length) (hp : (h ++ x : History).Pending i calls) : h.Pending i calls := by
  obtain ⟨c, hc, hopen⟩ := hp
  rw [List.drop_append_of_le_length hi, answeredIds_append, List.mem_append, not_or] at hopen
  exact ⟨c, hc, hopen.1⟩

theorem Complete.append (x : History) (hi : i < h.length) (hc : h.Complete i calls) :
    (h ++ x : History).Complete i calls := by
  rw [complete_iff_not] at hc ⊢
  exact ⟨fun hflawed => hc.1 ((flawed_append x hi).mp hflawed), fun hpending => hc.2 (hpending.of_append hi)⟩

/-! ### Messages -/

theorem getElem?_append_of_some (x : History) {m : Message} (hm : h[i]? = some m) : (h ++ x)[i]? = some m := by
  rwa [List.getElem?_append_left (List.getElem?_eq_some_iff.mp hm).1]

theorem Kept.append (x : History) {m : Message} (hi : i < h.length) (hkept : h.Kept (m, i)) :
    (h ++ x : History).Kept (m, i) := by
  cases m with
  | assistant text calls => exact Complete.append x hi hkept
  | toolResult r =>
      obtain ⟨j, hlt, m, hm, hcomplete, hid, hfirst⟩ := hkept
      refine ⟨j, hlt, m, getElem?_append_of_some x hm, hcomplete.append x (Nat.lt_trans hlt hi), hid, ?_⟩
      rwa [List.take_append_of_le_length (Nat.le_of_lt hi)]
  | user text => trivial
  | system text => trivial

theorem TakesAt.append (x : History) (ht : h.TakesAt i) : (h ++ x : History).TakesAt i := by
  obtain ⟨m, hm, hkept⟩ := takesAt_iff.mp ht
  have hi : i < h.length := (List.getElem?_eq_some_iff.mp hm).1
  exact (takesAt_iff_kept (getElem?_append_of_some x hm)).mpr (hkept.append x hi)

theorem snapshot_sublist_append (h x : History) : h.snapshot.messages.Sublist (h ++ x : History).snapshot.messages := by
  rw [snapshot_eq_taken, snapshot_eq_taken, List.zipIdx_append, List.filter_append, List.map_append]
  have hstays : (h.zipIdx.filter (h.TakesAt ·.2)).Sublist (h.zipIdx.filter ((h ++ x).TakesAt ·.2)) :=
    List.monotone_filter_right _ fun entry => by simpa using TakesAt.append x
  exact (hstays.map _).trans (List.sublist_append_left _ _)

/-- The batch at position `i` was pending, and with `x` behind the history it is taken. -/
structure ComesIn (h x : History) (i : Nat) (calls : List ToolCall) : Prop where
  batch : ∃ text, h[i]? = some (.assistant text calls)
  pending : h.Pending i calls
  taken : (h ++ x : History).TakesAt i

theorem comesIn_of_complete {text : Option String} (hm : h[i]? = some (.assistant text calls))
    (hnow : (h ++ x : History).Complete i calls) (hbefore : ¬h.Complete i calls) : h.ComesIn x i calls where
  batch := ⟨text, hm⟩
  pending := by
    have hi : i < h.length := (List.getElem?_eq_some_iff.mp hm).1
    rw [complete_iff_not, flawed_append x hi] at hnow
    exact by_contra fun hpending => hbefore (complete_iff_not.mpr ⟨hnow.1, hpending⟩)
  taken := (takesAt_iff_kept (getElem?_append_of_some x hm)).mpr hnow

/-- Of the messages before, those that come in are batches that were pending, and results of such batches. -/
theorem comesIn_of_takesAt (hi : i < h.length) (hnow : (h ++ x : History).TakesAt i) (hbefore : ¬h.TakesAt i) :
    (∃ calls, h.ComesIn x i calls) ∨
      ∃ r, h[i]? = some (.toolResult r) ∧ ∃ j < i, ∃ calls, h.ComesIn x j calls ∧ r.callId ∈ calls.map (·.id) := by
  obtain ⟨m, hm⟩ : ∃ m, h[i]? = some m := ⟨h[i], List.getElem?_eq_getElem hi⟩
  rw [takesAt_iff_kept (getElem?_append_of_some x hm)] at hnow
  rw [takesAt_iff_kept hm] at hbefore
  cases m with
  | assistant text calls => exact Or.inl ⟨calls, comesIn_of_complete hm hnow hbefore⟩
  | toolResult r =>
      obtain ⟨j, hlt, m, hbatch, hcomplete, hid, hfirst⟩ := hnow
      rw [Option.mem_def, List.getElem?_append_left (Nat.lt_trans hlt hi)] at hbatch
      rw [List.take_append_of_le_length (Nat.le_of_lt hi)] at hfirst
      cases m with
      | assistant text calls =>
          -- were the batch complete before, the result would have been taken with it
          have hopen : ¬h.Complete j calls := fun hc => hbefore ⟨j, hlt, _, hbatch, hc, hid, hfirst⟩
          exact Or.inr ⟨r, hm, j, hlt, calls, comesIn_of_complete hbatch hcomplete hopen, hid⟩
      | _ => cases hid
  | user text => exact absurd trivial hbefore
  | system text => exact absurd trivial hbefore

/-- A flawed batch is never taken. -/
theorem Flawed.left {text : Option String} (hm : h[i]? = some (.assistant text calls)) (hflawed : h.Flawed i calls) :
    ¬(h ++ x : History).TakesAt i := by
  have hi : i < h.length := (List.getElem?_eq_some_iff.mp hm).1
  rw [takesAt_iff_kept (getElem?_append_of_some x hm)]
  exact fun hc => (complete_iff_not.mp hc).1 ((flawed_append x hi).mpr hflawed)

/-- A snapshot only gains when the history grows. What was taken is taken at the same position, what comes in of the
messages before are batches that were pending, with their results, and a flawed batch stays out for good. -/
theorem snapshot_grows (h x : History) :
    h.snapshot.messages.Sublist (h ++ x : History).snapshot.messages ∧
      (∀ i, h.TakesAt i → (h ++ x : History).TakesAt i) ∧
      (∀ i < h.length, (h ++ x : History).TakesAt i → ¬h.TakesAt i → (∃ calls, h.ComesIn x i calls) ∨
        ∃ r, h[i]? = some (.toolResult r) ∧ ∃ j < i, ∃ calls, h.ComesIn x j calls ∧ r.callId ∈ calls.map (·.id)) ∧
      ∀ i text calls, h[i]? = some (.assistant text calls) → h.Flawed i calls → ¬(h ++ x : History).TakesAt i :=
  ⟨snapshot_sublist_append h x, fun _ => TakesAt.append x, fun _ => comesIn_of_takesAt, fun _ _ _ => Flawed.left⟩

end History

end Colloquy
