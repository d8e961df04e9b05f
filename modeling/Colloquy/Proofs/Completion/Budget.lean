import Colloquy.Completion.Provider
import Colloquy.Proofs.Conversation.Growth

/-! The local limit on the size of a request. Every part of a request counts by itself, so a request with more in it
is not smaller (`requestChars_mono`); and since snapshots only gain as the history grows, a request that was refused
is refused again, whatever is appended and whatever tools are added. A client refuses just the requests over its
limit, and the provider does not hear of them (`request_over`, `request_within`). -/

namespace Colloquy

/-! ### Size -/

section Size

variable {α : Type} {measure : α → Nat} {xs ys : List α}

theorem totalOf_mono (hs : xs.Sublist ys) : totalOf measure xs ≤ totalOf measure ys := by
  induction hs with
  | slnil => exact Nat.le_refl _
  | cons y _ ih => exact Nat.le_trans ih (Nat.le_add_left _ (measure y))
  | cons_cons y _ ih => exact Nat.add_le_add_left ih (measure y)

end Size

variable {messages messages' : List Message} {tools tools' : List ToolSchema} {size limit : Nat}

theorem requestChars_mono (hmessages : messages.Sublist messages') (htools : tools.Sublist tools') :
    requestChars messages tools ≤ requestChars messages' tools' :=
  Nat.add_le_add (totalOf_mono hmessages) (totalOf_mono htools)

/-- A request is refused if it is over the limit, with its size. -/
theorem checkBudget_eq_error_iff {e : CompletionError} : checkBudget messages tools limit = .error e ↔
    limit < requestChars messages tools ∧ e = .overBudget (requestChars messages tools) limit := by
  simp only [checkBudget]
  split
  · next hover => simp [hover, eq_comm]
  · next hwithin => simp [hwithin]

theorem checkBudget_eq_ok_iff : checkBudget messages tools limit = .ok () ↔ requestChars messages tools ≤ limit := by
  simp only [checkBudget]
  split
  · next hover => simpa using hover
  · next hwithin => simpa using hwithin

/-- What is refused is refused with more in it as well. -/
theorem checkBudget_mono (hmessages : messages.Sublist messages') (htools : tools.Sublist tools')
    (hover : limit < requestChars messages tools) :
    checkBudget messages' tools' limit = .error (.overBudget (requestChars messages' tools') limit) :=
  checkBudget_eq_error_iff.mpr ⟨Nat.lt_of_lt_of_le hover (requestChars_mono hmessages htools), rfl⟩

/-! ### Answers of a provider -/

theorem gather_ne_overBudget (g : Gathered) (events : List StreamEvent) :
    gather g events ≠ .error (.overBudget size limit) := by
  fun_induction gather g events with
  | case1 | case2 | case6 => nofun
  | case3 _ _ _ ih | case4 _ _ _ ih | case5 _ _ ih => exact ih

theorem completion_ne_overBudget (ids : IdSupply) (g : Gathered) :
    (g.completion ids).1 ≠ .error (.overBudget size limit) := by
  unfold Gathered.completion
  split
  · nofun
  · nofun
  · split <;> nofun

namespace ProviderClient

/-- No answer of a provider passes for a refusal. -/
theorem outcome_ne_overBudget (ids : IdSupply) (answer : Except String (List StreamEvent)) :
    (outcome ids answer).1 ≠ .error (.overBudget size limit) := by
  cases answer with
  | error reason => nofun
  | ok events =>
      simp only [outcome, completionOf]
      split
      · next e hgather =>
          intro heq
          rw [Except.error.injEq] at heq
          exact gather_ne_overBudget {} events (heq ▸ hgather)
      · exact completion_ne_overBudget ids _

/-- What comes of a request for which the provider gives an answer. -/
def replyTo (c : ProviderClient) (snapshot : Snapshot) (tools : List ToolSchema)
    (answer : Except String (List StreamEvent)) : Exchange :=
  let (result, ids) := outcome c.ids answer
  ⟨result, some (logEntry c.provider snapshot tools result), { c with ids }⟩

section Request

variable {m : Type → Type} [Monad m] (service : ChatService m) (c : ProviderClient) (snapshot : Snapshot)

theorem request_over (hover : c.provider.maxRequestChars < requestChars snapshot.messages tools) :
    request service c snapshot tools = pure
      ⟨.error (.overBudget (requestChars snapshot.messages tools) c.provider.maxRequestChars), none, c⟩ := by
  rw [request, checkBudget_eq_error_iff.mpr ⟨hover, rfl⟩]

theorem request_within (hwithin : requestChars snapshot.messages tools ≤ c.provider.maxRequestChars) :
    request service c snapshot tools =
      (do return replyTo c snapshot tools (← service (chatRequest c.provider snapshot tools))) := by
  rw [request, checkBudget_eq_ok_iff.mpr hwithin]
  rfl

end Request

/-- A client refuses exactly what is over its limit, whatever the state of the service behind it. -/
theorem result_eq_overBudget_iff {σ : Type} (service : ChatService (StateM σ)) (c : ProviderClient) (snapshot : Snapshot)
    (s : σ) : ((request service c snapshot tools).run s).1.result = .error (.overBudget size limit) ↔
      size = requestChars snapshot.messages tools ∧ limit = c.provider.maxRequestChars ∧ limit < size := by
  rcases Nat.lt_or_ge c.provider.maxRequestChars (requestChars snapshot.messages tools) with hover | hwithin
  · rw [request_over service c snapshot hover]
    constructor
    · rintro ⟨⟩
      exact ⟨rfl, rfl, hover⟩
    · rintro ⟨rfl, rfl, -⟩
      rfl
  · rw [request_within service c snapshot hwithin]
    refine iff_of_false (outcome_ne_overBudget c.ids _) ?_
    rintro ⟨rfl, rfl, hover⟩
    exact Nat.not_lt.mpr hwithin hover

end ProviderClient

/-- A request that is refused for its size stays refused, whatever is appended to the history and whatever tools are
added, and the size does not fall. A client refuses exactly the requests over its limit, and asks no provider then. -/
theorem refusal_stays (h x : History) (htools : tools.Sublist tools') (limit : Nat) :
    requestChars h.snapshot.messages tools ≤ requestChars (h ++ x : History).snapshot.messages tools' ∧
      (∀ e, checkBudget h.snapshot.messages tools limit = .error e → ∃ size size', size ≤ size' ∧
        e = .overBudget size limit ∧
        checkBudget (h ++ x : History).snapshot.messages tools' limit = .error (.overBudget size' limit)) ∧
      (∀ {m : Type → Type} [Monad m] (service : ChatService m) (c : ProviderClient) (snapshot : Snapshot) (offered),
        c.provider.maxRequestChars < requestChars snapshot.messages offered → c.request service snapshot offered = pure
          ⟨.error (.overBudget (requestChars snapshot.messages offered) c.provider.maxRequestChars), none, c⟩) ∧
      ∀ {σ : Type} (service : ChatService (StateM σ)) (c : ProviderClient) (snapshot : Snapshot) (offered) (s : σ) size limit,
        ((c.request service snapshot offered).run s).1.result = .error (.overBudget size limit) ↔
          size = requestChars snapshot.messages offered ∧ limit = c.provider.maxRequestChars ∧ limit < size := by
  have hmessages := History.snapshot_sublist_append h x
  refine ⟨requestChars_mono hmessages htools, fun e he => ?_, fun service c snapshot _ =>
    ProviderClient.request_over service c snapshot, fun service c snapshot _ s _ _ =>
    ProviderClient.result_eq_overBudget_iff service c snapshot s⟩
  obtain ⟨hover, rfl⟩ := checkBudget_eq_error_iff.mp he
  exact ⟨_, _, requestChars_mono hmessages htools, rfl, checkBudget_mono hmessages htools hover⟩

/-- A question about the time. -/
def History.question : History := [.user "What time is it?"]

/-- The call that answers it, with its result. -/
def History.lookedUp : History :=
  [.assistant none [⟨"c1", "clock", .obj []⟩], .toolResult ⟨"c1", "clock", .str "noon", false⟩]

def ToolSchema.clock : ToolSchema := ⟨"clock", "Tells the time", .obj []⟩

def ToolSchema.calendar : ToolSchema := ⟨"calendar", "Tells the date", .obj []⟩

theorem refusal_stays_sample : [ToolSchema.clock].Sublist [.calendar, .clock] ∧
    checkBudget History.question.snapshot.messages [.clock] 30 = .error (.overBudget 37 30) ∧
    ∃ size', 37 ≤ size' ∧
      checkBudget (.question ++ .lookedUp : History).snapshot.messages [.calendar, .clock] 30 =
        .error (.overBudget size' 30) := by
  have htools : [ToolSchema.clock].Sublist [.calendar, .clock] := List.sublist_cons_self _ _
  have hrefused : checkBudget History.question.snapshot.messages [.clock] 30 = .error (.overBudget 37 30) := by rfl
  obtain ⟨_, size', hle, heq, hagain⟩ := (refusal_stays .question .lookedUp htools 30).2.1 _ hrefused
  cases heq
  exact ⟨htools, hrefused, size', hle, hagain⟩

end Colloquy
