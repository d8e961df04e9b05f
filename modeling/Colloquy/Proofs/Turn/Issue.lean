import Colloquy.Proofs.Conversation.Pairing
import Colloquy.Proofs.Conversation.Renewal
import Colloquy.Turn.Basic

/-! The calls of a batch as they are issued. If the ids that are handed out for it are fresh, no id is issued a second
time, and a call gets a new id just if its own has been issued before (`ids_repaired`). -/

namespace Colloquy

/-- How the calls of a batch are issued behind a history; `ids` hands out their new ids, from its next one up to that
with the number `bound`. -/
structure Repaired (h : History) (ids : IdSupply) (bound : Nat) (asked issued : List ToolCall) : Prop
    extends h.Takes issued where
  requests : issued.map ToolCall.request = asked.map ToolCall.request
  kept_iff : ∀ (i : Nat) (c c' : ToolCall), asked[i]? = some c → issued[i]? = some c' →
    (c'.id = c.id ↔ c.id ∉ h.issuedIds ∧ c.id ∉ (asked.take i).map (·.id))
  renewed : ∀ (i : Nat) (c c' : ToolCall), asked[i]? = some c → issued[i]? = some c' → c'.id ≠ c.id →
    ∃ n, ids.next ≤ n ∧ n < bound ∧ c'.id = ids.name n

namespace Conversation

variable {c : Conversation} {round : Nat} {text : Option String} {asked : List ToolCall}

/-- With fresh ids a batch can be taken in. -/
theorem takes_issue (hfresh : c.ids.FreshBelow (c.issue round text asked).2.ids.next
    (c.history.issuedIds ++ asked.map (·.id))) : c.history.Takes (c.issue round text asked).1 := by
  change c.ids.FreshBelow (renewIds c.history.issues c.ids [] asked).2.next _ at hfresh
  obtain ⟨hdifferent, hnew⟩ := renewIds_distinct hfresh (List.forall_mem_nil _)
    (fun d hd => List.mem_append_right _ (List.mem_map_of_mem hd))
    (fun id hid => List.mem_append_left _ ((c.history.issues_iff id).mp hid))
  refine ⟨hdifferent, fun d hd hold => ?_⟩
  have hunissued := (hnew d hd).2
  rw [(c.history.issues_iff d.id).mpr hold] at hunissued
  cases hunissued

/-- A batch is issued call by call as it was asked for, with ids that differ from each other and from all that were
issued before. A call keeps its id just if that is not in the history and not the id of an earlier call of the batch. -/
theorem ids_repaired (hfresh : c.ids.FreshBelow (c.issue round text asked).2.ids.next
    (c.history.issuedIds ++ asked.map (·.id))) :
    Repaired c.history c.ids (c.issue round text asked).2.ids.next asked (c.issue round text asked).1 where
  toTakes := takes_issue hfresh
  requests := renewIds_requests c.history.issues c.ids [] asked
  kept_iff i d d' hd hd' := by
    change c.ids.FreshBelow (renewIds c.history.issues c.ids [] asked).2.next _ at hfresh
    have hown : ∀ e ∈ asked, e.id ∈ c.history.issuedIds ++ asked.map (·.id) := fun e he =>
      List.mem_append_right _ (List.mem_map_of_mem he)
    rw [renewIds_keeps_iff hfresh hown hd hd', ← Bool.not_eq_true, History.issues_iff]
    simp
  renewed i d d' hd hd' hne := by
    change (renewIds c.history.issues c.ids [] asked).1[i]? = some d' at hd'
    rcases renewIds_getElem? hd hd' with rfl | ⟨n, hn, hlast, rfl⟩
    · exact absurd rfl hne
    · exact ⟨n, hn, hlast, rfl⟩

/-- A conversation in which the id `a` has been issued. -/
def oneIssued : Conversation where
  config := {}
  schemas := []
  ids := .numbered
  history := [.user "hi", .assistant none [⟨"a", "t", .null⟩], .toolResult ⟨"a", "t", .null, false⟩]

/-- A batch of two calls with an id of the history, three with one that is new, and one with an id of its own. -/
def sixCalls : List ToolCall :=
  [⟨"a", "t", .null⟩, ⟨"b", "t", .null⟩, ⟨"b", "u", .null⟩, ⟨"a", "u", .obj []⟩, ⟨"b", "t", .arr []⟩, ⟨"c", "u", .null⟩]

theorem ids_repaired_sample :
    oneIssued.ids.FreshBelow (oneIssued.issue 1 none sixCalls).2.ids.next
        (oneIssued.history.issuedIds ++ sixCalls.map (·.id)) ∧
      (oneIssued.issue 1 none sixCalls).2.ids.next = 4 ∧
      Repaired oneIssued.history oneIssued.ids 4 sixCalls (oneIssued.issue 1 none sixCalls).1 := by
  have hfresh : oneIssued.ids.FreshBelow (oneIssued.issue 1 none sixCalls).2.ids.next
      (oneIssued.history.issuedIds ++ sixCalls.map (·.id)) := by decide +kernel
  have hnext : (oneIssued.issue 1 none sixCalls).2.ids.next = 4 := by decide +kernel
  exact ⟨hfresh, hnext, hnext ▸ ids_repaired hfresh⟩

end Conversation

end Colloquy
