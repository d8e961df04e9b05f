import Colloquy.Proofs.Conversation.Pairing

/-! What a snapshot holds, whatever the history. The messages kept of any history, however its calls and
results are mixed up, make a settled history (`settled_keptOf`): batches that are complete do not share
ids, and of the results for one id only the first is kept. -/

namespace Colloquy

/-- The message neither issues nor answers calls by its kind. -/
def Message.isPlain : Message → Bool
  | .user _ | .system _ => true
  | .assistant _ _ | .toolResult _ => false

namespace History

/-- The messages that are kept of a part `k` of a history. -/
def keptOf (h k : History) : History := (k.zipIdx.filter h.Kept).map (·.1)

/-- Calls and results that fit together, said by position. -/
structure Matched (h : History) : Prop where
  /-- Every id is issued by one call of one message. -/
  once : h.issuedIds.Nodup
  /-- Every call has one result, and that comes later. -/
  answer : ∀ (i : Nat) (m : Message) (c : ToolCall), h[i]? = some m → c ∈ m.calls →
    ∃ (j : Nat) (r : ToolResult), i < j ∧ h[j]? = some (.toolResult r) ∧ r.callId = c.id ∧
      ∀ (j' : Nat) (r' : ToolResult), h[j']? = some (.toolResult r') → r'.callId = c.id → j' = j
  /-- Every result answers a call issued before. -/
  issuer : ∀ (j : Nat) (r : ToolResult), h[j]? = some (.toolResult r) →
    ∃ (i : Nat) (m : Message) (c : ToolCall), i < j ∧ h[i]? = some m ∧ c ∈ m.calls ∧ c.id = r.callId

variable {h k l : History}

/-! ### Positions -/

theorem mem_issuedIds_take {i n : Nat} {m : Message} {id : String} (hm : h[i]? = some m) (hlt : i < n)
    (hid : id ∈ m.calls.map (·.id)) : id ∈ issuedIds (h.take n) := by
  obtain ⟨a, b, rfl, rfl⟩ := split_at hm
  have hprefix : a ++ [m] <+: (a ++ m :: b).take n := by
    rw [List.prefix_take_iff]
    exact ⟨⟨b, by simp⟩, by simpa using Nat.succ_le_of_lt hlt⟩
  refine (issuedIds_sublist hprefix.sublist).subset ?_
  rw [issuedIds_append, issuedIds_cons]
  exact List.mem_append_right _ (List.mem_append_left _ hid)

theorem mem_answeredIds_between {i j n : Nat} {m : Message} {id : String} (hm : h[j]? = some m) (hi : i < j)
    (hj : j < n) (hid : m.answeredId? = some id) : id ∈ answeredIds ((h.take n).drop (i + 1)) := by
  refine List.mem_filterMap.mpr ⟨m, ?_, hid⟩
  rw [List.mem_iff_getElem?]
  refine ⟨j - (i + 1), ?_⟩
  rw [List.getElem?_drop, Nat.add_sub_cancel' hi, List.getElem?_take_of_lt hj, hm]

/-- Complete batches do not share ids. -/
theorem Complete.unique {i j : Nat} {m m' : Message} {id : String} (hi : h[i]? = some m) (hj : h[j]? = some m')
    (hm : h.Complete i m.calls) (hm' : h.Complete j m'.calls) (hid : id ∈ m.calls.map (·.id))
    (hid' : id ∈ m'.calls.map (·.id)) : i = j := by
  obtain ⟨c, hc, rfl⟩ := List.mem_map.mp hid
  obtain ⟨c', hc', heq⟩ := List.mem_map.mp hid'
  rcases Nat.lt_trichotomy i j with hlt | heqPos | hgt
  · exact absurd (mem_issuedIds_take hi hlt (heq ▸ hid)) (hm'.fresh c' hc')
  · exact heqPos
  · exact absurd (mem_issuedIds_take hj hgt hid') (hm.fresh c hc)

/-- Where an id is answered, it is answered for the first time somewhere. -/
theorem exists_first_answer {id : String} (hid : id ∈ answeredIds h) :
    ∃ (a : History) (r : ToolResult) (b : History), h = a ++ .toolResult r :: b ∧ r.callId = id ∧ id ∉ a.answeredIds := by
  induction h with
  | nil => simp at hid
  | cons m h ih =>
      by_cases hm : m.answeredId? = some id
      · cases m with
        | toolResult r => exact ⟨[], r, h, rfl, Option.some.inj hm, by simp⟩
        | _ => cases hm
      · have hrest : id ∈ answeredIds h := by
          rw [answeredIds_cons, List.mem_append] at hid
          exact hid.resolve_left (by simpa using hm)
        obtain ⟨a, r, b, rfl, hr, hfirst⟩ := ih hrest
        refine ⟨m :: a, r, b, rfl, hr, ?_⟩
        rw [answeredIds_cons, List.mem_append, not_or]
        exact ⟨by simpa using hm, hfirst⟩

/-! ### The messages kept -/

theorem mem_keptOf {m : Message} : m ∈ h.keptOf k ↔ ∃ i, k[i]? = some m ∧ h.Kept (m, i) := by
  simp [keptOf, List.mem_zipIdx_iff_getElem?]

theorem keptOf_sublist : (h.keptOf k).Sublist k := by
  have hsublist := (List.filter_sublist (p := (h.Kept ·)) (l := k.zipIdx)).map (·.1)
  rwa [List.zipIdx_map_fst] at hsublist

theorem keptOf_concat (m : Message) :
    h.keptOf (k ++ [m]) = h.keptOf k ++ if h.Kept (m, k.length) then [m] else [] := by
  by_cases hkept : h.Kept (m, k.length) <;> simp [keptOf, List.zipIdx_append, hkept]

theorem issuedIds_keptOf {m : Message} {i : Nat} {id : String} (hm : k[i]? = some m) (hkept : h.Kept (m, i))
    (hid : id ∈ m.calls.map (·.id)) : id ∈ (h.keptOf k).issuedIds := by
  obtain ⟨c, hc, rfl⟩ := List.mem_map.mp hid
  exact List.mem_map_of_mem (List.mem_flatMap.mpr ⟨m, mem_keptOf.mpr ⟨i, hm, hkept⟩, hc⟩)

/-- A kept result finds its call, and no other result for it, among the messages kept before. -/
theorem Replies.open {r : ToolResult} (hr : (k ++ .toolResult r :: l : History).Replies k.length r) :
    r.callId ∈ ((k ++ .toolResult r :: l : History).keptOf k).issuedIds ∧
      r.callId ∉ ((k ++ .toolResult r :: l : History).keptOf k).answeredIds := by
  obtain ⟨i, hlt, m, hm, hcomplete, hid, hfirst⟩ := hr
  have hmk : k[i]? = some m := by rwa [Option.mem_def, List.getElem?_append_left hlt] at hm
  refine ⟨?_, fun hanswered => ?_⟩
  · cases m with
    | assistant text calls => exact issuedIds_keptOf hmk hcomplete hid
    | _ => simp [Message.calls] at hid
  · obtain ⟨m', hm', hid'⟩ := List.mem_filterMap.mp hanswered
    obtain ⟨j, hj, hkept⟩ := mem_keptOf.mp hm'
    cases m' with
    | toolResult r' =>
        obtain ⟨i', hlt', m'', hm'', hcomplete', hmem', _⟩ := hkept
        rw [Message.answeredId?, Option.some.injEq] at hid'
        obtain rfl : i = i' := hcomplete.unique hm hm'' hcomplete' hid (hid' ▸ hmem')
        have hjlt : j < k.length := (List.getElem?_eq_some_iff.mp hj).1
        have hjh : (k ++ .toolResult r :: l : History)[j]? = some (.toolResult r') := by
          rw [List.getElem?_append_left hjlt, hj]
        exact hfirst (mem_answeredIds_between hjh hlt' hjlt (congrArg some hid'))
    | _ => cases hid'

theorem paired_keptOf (hp : k <+: h) : Paired (h.keptOf k) := by
  induction k using List.reverseRecOn with
  | nil => exact Settled.nil.toPaired
  | append_singleton k m ih =>
      have hpaired := ih ((List.prefix_append k [m]).trans hp)
      obtain ⟨l, hl⟩ := hp
      rw [List.append_assoc, List.singleton_append] at hl
      subst hl
      rw [keptOf_concat]
      split
      · next hkept =>
          -- A batch that is kept brings ids that are new in the whole history, a result one that is open.
          cases m with
          | assistant text calls =>
              have hcomplete := (complete_iff.mp hkept).2
              refine hpaired.concat hkept.different (fun c hc hold => ?_) (fun id hid => by cases hid)
              exact (hcomplete c hc).1 ((issuedIds_sublist keptOf_sublist).subset hold)
          | toolResult r =>
              refine hpaired.concat List.nodup_nil (fun c hc => by cases hc) (fun id hid => ?_)
              rw [Message.answeredId?, Option.some.injEq] at hid
              exact hid ▸ Replies.open hkept
          | user text => exact hpaired.concat List.nodup_nil (fun c hc => by cases hc) (fun id hid => by cases hid)
          | system text => exact hpaired.concat List.nodup_nil (fun c hc => by cases hc) (fun id hid => by cases hid)
      · rwa [List.append_nil]

theorem settled_keptOf (h : History) : Settled (h.keptOf h) where
  toPaired := paired_keptOf (List.prefix_refl h)
  closed id hid := by
    obtain ⟨c, hc, rfl⟩ := List.mem_map.mp hid
    obtain ⟨m, hm, hcm⟩ := List.mem_flatMap.mp hc
    obtain ⟨i, hi, hkept⟩ := mem_keptOf.mp hm
    cases m with
    | assistant text calls =>
        have hcomplete : h.Complete i calls := hkept
        obtain ⟨k, l, rfl, rfl⟩ := split_at hi
        have hanswered := ((complete_iff.mp hcomplete).2 c hcm).2
        obtain ⟨a, r, b, rfl, hr, hfirst⟩ := exists_first_answer hanswered
        -- the first result after the batch replies to it
        have hsplit : k ++ .assistant text calls :: (a ++ .toolResult r :: b) =
            (k ++ .assistant text calls :: a) ++ .toolResult r :: b := by simp
        have hreplies : (k ++ .assistant text calls :: (a ++ .toolResult r :: b) : History).Replies
            (k ++ .assistant text calls :: a).length r := by
          refine ⟨k.length, by simp, .assistant text calls, by simp, hcomplete, ?_, ?_⟩
          · exact hr ▸ List.mem_map_of_mem hcm
          · rw [hsplit, List.take_left, hr]
            simpa using hfirst
        refine List.mem_filterMap.mpr ⟨.toolResult r, mem_keptOf.mpr ⟨_, ?_, hreplies⟩, congrArg some hr⟩
        rw [hsplit]
        simp
    | _ => cases hcm

/-! ### Snapshots -/

theorem Settled.matched (hs : Settled h) : Matched h where
  once := hs.issued
  answer i m c hm hc := by
    have hissuer := hs.issuers_at hm hc
    have hid : c.id ∈ issuedIds h := (CallIndex.isSome_issuers h _).mp (by rw [hissuer]; rfl)
    obtain ⟨j, hj⟩ := Option.isSome_iff_exists.mp ((hs.isSome_answers c.id).mpr (hs.closed c.id hid))
    obtain ⟨m', hget, hanswer, _⟩ := CallIndex.answer_at hj
    cases m' with
    | toolResult r =>
        have hr : r.callId = c.id := Option.some.inj hanswer
        obtain ⟨_, i', _, _, hlt, _, hissuer'⟩ := hs.answers_at hget
        rw [hr, hissuer, Option.some.injEq] at hissuer'
        refine ⟨j, r, hissuer' ▸ hlt, hget, hr, fun j' r' hget' hr' => ?_⟩
        have hj' := (hs.answers_at hget').1
        rw [hr', hj, Option.some.injEq] at hj'
        exact hj'.symm
    | _ => cases hanswer
  issuer j r hr := by
    obtain ⟨_, i, _, _, hlt, _, hissuer⟩ := hs.answers_at hr
    obtain ⟨text, calls, hget, hid⟩ := CallIndex.issuer_at hissuer
    obtain ⟨c, hc, heq⟩ := List.mem_map.mp hid
    exact ⟨i, .assistant text calls, c, hlt, hget, hc, heq⟩

theorem snapshot_messages (h : History) : h.snapshot.messages = h.keptOf h := by
  obtain ⟨s, hselects, heq⟩ := selects_snapshot h
  rw [heq]
  exact hselects.messages

theorem snapshot_missing (h : History) : h.snapshot.missing =
    (h.zipIdx.filter (¬h.Kept ·)).flatMap fun entry => h.objections entry.2 entry.1.calls := by
  obtain ⟨s, hselects, heq⟩ := selects_snapshot h
  rw [heq]
  exact hselects.missing

theorem filter_isPlain_keptOf : (h.keptOf k).filter Message.isPlain = k.filter Message.isPlain := by
  induction k using List.reverseRecOn with
  | nil => rfl
  | append_singleton k m ih =>
      rw [keptOf_concat, List.filter_append, List.filter_append, ih]
      cases m with
      | assistant text calls => split <;> rfl
      | toolResult r => split <;> rfl
      | user text => rw [if_pos (show h.Kept (.user text, k.length) from trivial)]
      | system text => rw [if_pos (show h.Kept (.system text, k.length) from trivial)]

/-- A snapshot of any history is a part of it with all plain messages, in which every call is issued once
and has one result, and that comes later. -/
theorem snapshot_sound (h : History) :
    List.Sublist h.snapshot.messages h ∧
      h.snapshot.messages.filter Message.isPlain = h.filter Message.isPlain ∧
      Matched h.snapshot.messages := by
  rw [snapshot_messages]
  exact ⟨keptOf_sublist, filter_isPlain_keptOf, (settled_keptOf h).matched⟩

/-- A snapshot holds the messages at the positions that are kept, in order, and names what stands against
the batches that are left out. -/
theorem snapshot_complete (h : History) :
    h.snapshot.messages = (h.zipIdx.filter h.Kept).map (·.1) ∧
      h.snapshot.missing =
        (h.zipIdx.filter (¬h.Kept ·)).flatMap fun entry => h.objections entry.2 entry.1.calls :=
  ⟨snapshot_messages h, snapshot_missing h⟩

/-- A snapshot that is taken for a history is sent as it is, and has no open calls. -/
theorem snapshot_fixed (h : History) : snapshot h.snapshot.messages = ⟨h.snapshot.messages, []⟩ ∧
    unanswered h.snapshot.messages = [] := by
  have hs : Settled h.snapshot.messages := snapshot_messages h ▸ settled_keptOf h
  exact ⟨hs.snapshot, hs.unanswered⟩

end History

end Colloquy
