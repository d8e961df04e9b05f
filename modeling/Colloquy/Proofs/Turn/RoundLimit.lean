import Colloquy.Proofs.Turn.Reach

/-! The limit on the rounds of a turn. Rounds that are played request one completion each, with all tools on
offer (`Goes.offers`), and how the turn ends requests one more at most, which is the last permitted one if
no round is left (`Ends.request`). So the limit decides only on calls that the last permitted completion
brings, and those are neither made nor taken into the history (`round_limit_kept`). -/

namespace Colloquy

def Matter.isRequest : Matter → Bool
  | .completion _ _ _ => true
  | .invocation _ _ => false

variable {σ : Type} {e : Exchange Conversation σ} {es : List (Exchange Conversation σ)}

/-- The requests for a completion among some exchanges. -/
def requestsOf (es : List (Exchange Conversation σ)) : List (Exchange Conversation σ) :=
  es.filter (·.matter.isRequest)

/-- The exchange is a request with these tools on offer. -/
def Exchange.Offers (e : Exchange Conversation σ) (tools : List ToolSchema) : Prop :=
  ∃ snapshot answer, e.matter = .completion snapshot tools answer

/-- The exchange is a request that is answered with the completion. -/
def Exchange.Brings (e : Exchange Conversation σ) (completion : Completion) : Prop :=
  ∃ snapshot tools, e.matter = .completion snapshot tools (some (.ok completion))

theorem requestsOf_append (es es' : List (Exchange Conversation σ)) :
    requestsOf (es ++ es') = requestsOf es ++ requestsOf es' := List.filter_append es es'

theorem requestsOf_cons {snapshot : Snapshot} {tools : List ToolSchema} {answer : Option CompletionResult}
    (he : e.matter = .completion snapshot tools answer) : requestsOf (e :: es) = e :: requestsOf es :=
  List.filter_cons_of_pos (by rw [he]; rfl)

theorem requestsOf_eq_nil (hes : ∀ m ∈ es.map (·.matter), ∃ calls outcomes, m = .invocation calls outcomes) :
    requestsOf es = [] := by
  refine List.filter_eq_nil_iff.mpr fun e he => ?_
  obtain ⟨calls, outcomes, hmatter⟩ := hes e.matter (List.mem_map_of_mem he)
  rw [hmatter]
  exact Bool.false_ne_true

theorem Exchange.Brings.mem_requestsOf {completion : Completion} (hbrings : e.Brings completion) (he : e ∈ es) :
    e ∈ requestsOf es := by
  obtain ⟨snapshot, tools, hmatter⟩ := hbrings
  exact List.mem_filter.mpr ⟨he, by rw [hmatter]; rfl⟩

namespace Conversation

variable {c c' : Conversation} {r : Round} {rs : List Round} {result : TurnResult}

theorem Asks.brings {answer : Option CompletionResult} {completion : Completion} (hasks : c.Asks answer e)
    (hbrings : e.Brings completion) : answer = some (.ok completion) := by
  obtain ⟨snapshot, tools, hmatter⟩ := hbrings
  rw [hasks.matter] at hmatter
  exact (Matter.completion.inj hmatter).2.2

/-! ### Rounds that are played -/

/-- A round opens with a request that brings calls. -/
theorem Opens.calls_ne_nil {text : Option String} {calls : List ToolCall} (hopens : c.Opens r e)
    (hbrings : e.Brings (.batch text calls)) : calls ≠ [] := by
  cases hopens.asks.brings hbrings
  exact hopens.asked

theorem Goes.schemas (hgoes : Goes c rs es c') : c'.schemas = c.schemas := by
  induction hgoes with
  | nil c => rfl
  | cons hopens hmade hes hfatal hrest ih => exact ih

/-- The requests of the rounds. Each has all tools on offer and brings calls. -/
theorem Goes.offers (hgoes : Goes c rs es c') : (requestsOf es).length = rs.length ∧
    ∀ e ∈ requestsOf es, e.Offers c.schemas ∧ ∀ text, ¬e.Brings (.batch text []) := by
  induction hgoes with
  | nil c => exact ⟨rfl, fun e he => nomatch he⟩
  | @cons c c' r rs e es es' hopens hmade hes hfatal hrest ih =>
      have hcalls : requestsOf es = [] := requestsOf_eq_nil fun m hm => mem_invocations (hes ▸ hm)
      have hoffers : e.Offers c.schemas := ⟨r.snapshot, _, by rw [hopens.request, Round.request, hopens.tools]⟩
      rw [requestsOf_cons hopens.request, requestsOf_append, hcalls, List.nil_append]
      exact ⟨congrArg Nat.succ ih.1,
        List.forall_mem_cons.mpr ⟨⟨hoffers, fun text hbrings => hopens.calls_ne_nil hbrings rfl⟩, ih.2⟩⟩

/-! ### The last request -/

/-- The turn closes with what the request brought: nothing is asked after it, the text is the result, and a
message with that text and without calls is all that comes after the history at the request. -/
structure ClosesWith (es : List (Exchange Conversation σ)) (result : TurnResult) (after : History)
    (e : Exchange Conversation σ) (text : String) : Prop where
  last : es.getLast? = some e
  result : result = .ok text
  history : after = e.asker.history ++ [.assistant (some text) []]

theorem ClosesWith.append_left {after : History} {text : String} (h : ClosesWith es result after e text)
    (es' : List (Exchange Conversation σ)) : ClosesWith (es' ++ es) result after e text where
  last := by rw [List.getLast?_append, h.last, Option.some_or]
  result := h.result
  history := h.history

/-- The turn fails with what the request brought: nothing is asked after it, and nothing comes after the
history at the request. -/
structure FailsAt (es : List (Exchange Conversation σ)) (result : TurnResult) (after : History)
    (e : Exchange Conversation σ) (failure : Failure) : Prop where
  last : es.getLast? = some e
  result : result = .error failure
  history : after = e.asker.history

theorem FailsAt.append_left {after : History} {failure : Failure} (h : FailsAt es result after e failure)
    (es' : List (Exchange Conversation σ)) : FailsAt (es' ++ es) result after e failure where
  last := by rw [List.getLast?_append, h.last, Option.some_or]
  result := h.result
  history := h.history

/-- The end of a turn requests one completion at most. -/
theorem Ends.request (hends : Ends c es (result, c')) :
    requestsOf es = [] ∨ ∃ e answer, requestsOf es = [e] ∧ c.Asks answer e := by
  cases hends with
  | halted => exact .inl rfl
  | stopped hasks | failed hasks | answered hasks | forced hasks | exceeded hasks =>
      exact .inr ⟨_, _, requestsOf_cons hasks.matter, hasks⟩
  | lost hopens hmade hes =>
      have hcalls := requestsOf_eq_nil fun m hm => mem_invocations (hes ▸ hm)
      exact .inr ⟨_, _, by rw [requestsOf_cons hopens.request, hcalls], hopens.asks⟩
  | interrupted hopens hmade hes =>
      have hcalls := requestsOf_eq_nil fun m hm => hes.mem hm
      exact .inr ⟨_, _, by rw [requestsOf_cons hopens.request, hcalls], hopens.asks⟩

theorem Ends.only_request {i : Nat} (hends : Ends c es (result, c')) (he : (requestsOf es)[i]? = some e) :
    i = 0 ∧ requestsOf es = [e] ∧ ∃ answer, c.Asks answer e := by
  obtain hnone | ⟨e', answer, hone, hasks⟩ := hends.request
  · rw [hnone] at he
    cases he
  · rw [hone, List.getElem?_singleton] at he
    split at he
    · next hfirst =>
        obtain rfl := Option.some.inj he
        exact ⟨hfirst, hone, answer, hasks⟩
    · cases he

/-- A batch without calls ends the turn with its text as the answer. -/
theorem Ends.closes (hends : Ends c es (result, c')) {text : Option String} (he : requestsOf es = [e])
    (hbrings : e.Brings (.batch text [])) : ClosesWith es result c'.history e (text.getD "") := by
  cases hends with
  | halted => cases he
  | stopped hasks | failed hasks =>
      rw [requestsOf_cons hasks.matter] at he
      obtain rfl := List.head_eq_of_cons_eq he
      cases hasks.brings hbrings
  | @answered e' completion text' hasks hanswer =>
      rw [requestsOf_cons hasks.matter] at he
      obtain rfl := List.head_eq_of_cons_eq he
      cases hasks.brings hbrings
      cases hanswer
      exact ⟨rfl, rfl, congrArg (·.history ++ _) hasks.asker.symm⟩
  | forced hasks hcalls | exceeded hasks hcalls =>
      rw [requestsOf_cons hasks.matter] at he
      obtain rfl := List.head_eq_of_cons_eq he
      cases hasks.brings hbrings
      exact absurd rfl hcalls
  | lost hopens | interrupted hopens =>
      rw [requestsOf_cons hopens.request] at he
      obtain rfl := List.head_eq_of_cons_eq he
      exact absurd rfl (hopens.calls_ne_nil hbrings)

/-- What becomes of calls that the last permitted completion brings. -/
structure Discarded (config : TurnConfig) (es : List (Exchange Conversation σ)) (result : TurnResult)
    (after : History) (e : Exchange Conversation σ) (text : Option String) : Prop where
  forced : config.roundLimit = .forceAnswer → ClosesWith es result after e (text.getD "")
  refused : config.roundLimit = .error → FailsAt es result after e (.roundLimit config.maxRounds)

theorem Discarded.append_left {config : TurnConfig} {after : History} {text : Option String}
    (h : Discarded config es result after e text) (es' : List (Exchange Conversation σ)) :
    Discarded config (es' ++ es) result after e text where
  forced hlimit := (h.forced hlimit).append_left es'
  refused hlimit := (h.refused hlimit).append_left es'

/-- In the last permitted round calls are not carried out. -/
theorem Ends.discards (hends : Ends c es (result, c')) (hleft : c.roundsLeft = 0) {text : Option String}
    {calls : List ToolCall} (he : requestsOf es = [e]) (hbrings : e.Brings (.batch text calls)) (hcalls : calls ≠ []) :
    Discarded c.config es result c'.history e text := by
  cases hends with
  | halted => cases he
  | stopped hasks | failed hasks =>
      rw [requestsOf_cons hasks.matter] at he
      obtain rfl := List.head_eq_of_cons_eq he
      cases hasks.brings hbrings
  | answered hasks hanswer =>
      rw [requestsOf_cons hasks.matter] at he
      obtain rfl := List.head_eq_of_cons_eq he
      cases hasks.brings hbrings
      cases calls with
      | nil => exact absurd rfl hcalls
      | cons call calls => cases hanswer
  | forced hasks hcalls hleft hlimit =>
      rw [requestsOf_cons hasks.matter] at he
      obtain rfl := List.head_eq_of_cons_eq he
      cases hasks.brings hbrings
      refine ⟨fun _ => ⟨rfl, rfl, congrArg (·.history ++ _) hasks.asker.symm⟩, fun herror => ?_⟩
      rw [hlimit] at herror
      cases herror
  | exceeded hasks hcalls hleft hlimit =>
      rw [requestsOf_cons hasks.matter] at he
      obtain rfl := List.head_eq_of_cons_eq he
      cases hasks.brings hbrings
      refine ⟨fun hforce => ?_, fun _ => ⟨rfl, rfl, congrArg (·.history) hasks.asker.symm⟩⟩
      rw [hlimit] at hforce
      cases hforce
  | lost hopens | interrupted hopens => exact absurd hleft (Nat.ne_of_gt hopens.left)

/-- The limit is exceeded by calls in the last permitted round only. -/
theorem Ends.exceeds {n : Nat} (hends : Ends c es (.error (.roundLimit n), c')) :
    n = c.config.maxRounds ∧ c.config.roundLimit = .error ∧ c.roundsLeft = 0 ∧
      ∃ e text calls, requestsOf es = [e] ∧ e.Brings (.batch text calls) ∧ calls ≠ [] := by
  cases hends with
  | exceeded hasks hcalls hleft hlimit =>
      exact ⟨rfl, hlimit, hleft, _, _, _, requestsOf_cons hasks.matter, ⟨_, _, hasks.matter⟩, hcalls⟩

/-! ### Turns -/

/-- The tools on offer in the round of a turn with the number. -/
def toolsIn (c : Conversation) (n : Nat) : List ToolSchema :=
  if n < c.config.maxRounds ∨ c.config.offerToolsOnFinalRound then c.schemas else []

/-- How a turn keeps to the limit on its rounds, given by what it asked, its result and the history after it. -/
structure KeepsLimit (c : Conversation) (es : List (Exchange Conversation σ)) (result : TurnResult)
    (after : History) : Prop where
  few : (requestsOf es).length ≤ c.config.maxRounds
  offers : ∀ i (e : Exchange Conversation σ), (requestsOf es)[i]? = some e → e.Offers (c.toolsIn (i + 1))
  /-- Calls that the last permitted completion brings are neither made nor taken into the history. -/
  discards : ∀ e text calls, (requestsOf es)[c.config.maxRounds - 1]? = some e → e.Brings (.batch text calls) →
    calls ≠ [] → Discarded c.config es result after e text
  /-- Nothing else exceeds the limit. -/
  exceeds : ∀ n, result = .error (.roundLimit n) → n = c.config.maxRounds ∧ c.config.roundLimit = .error ∧
    ∃ e text calls, (requestsOf es)[c.config.maxRounds - 1]? = some e ∧ e.Brings (.batch text calls) ∧ calls ≠ []
  closes : ∀ e ∈ es, ∀ text, e.Brings (.batch text []) → ClosesWith es result after e (text.getD "")

theorem opened_schemas (c : Conversation) (text : String) : (c.opened text).schemas = c.schemas := by
  unfold opened
  split <;> rfl

theorem toolsIn_of_lt {n : Nat} (hn : n < c.config.maxRounds) : c.toolsIn n = c.schemas := if_pos (.inl hn)

theorem toolsIn_congr {n : Nat} (hconfig : c'.config = c.config) (hschemas : c'.schemas = c.schemas) :
    c'.toolsIn n = c.toolsIn n := by
  rw [toolsIn, toolsIn, hconfig, hschemas]

/-- Whether the round under way is the last permitted one decides on the tools. -/
theorem offered_eq_toolsIn {n : Nat} (hn : n + c.roundsLeft = c.config.maxRounds) :
    c.offered (c.roundsLeft == 0) = c.toolsIn n := by
  obtain hlt | hge := Nat.lt_or_ge n c.config.maxRounds
  · have hmore : (c.roundsLeft == 0) = false := beq_eq_false_iff_ne.mpr (by omega)
    rw [offered, hmore, toolsIn_of_lt hlt]
    rfl
  · have hlast : (c.roundsLeft == 0) = true := beq_iff_eq.mpr (by omega)
    cases hoffer : c.config.offerToolsOnFinalRound <;> simp [offered, toolsIn, hlast, hoffer, Nat.not_lt.mpr hge]

theorem keepsLimit_of_leads {text : String} (hvalid : 0 < c.config.maxRounds)
    (hleads : (c.turn text).Leads es (result, c')) : c.KeepsLimit es result c'.history := by
  obtain ⟨rs, es₁, es₂, c₁, rfl, hgoes, hends⟩ := leads_turn hleads
  have hplays := hgoes.plays
  have hleft := hplays.left
  have hschemas : c₁.schemas = c.schemas := hgoes.schemas.trans (opened_schemas c text)
  obtain ⟨hlength, hplayed⟩ := hgoes.offers
  have hlast : c.config.maxRounds - 1 = (requestsOf es₁).length + c₁.roundsLeft := by rw [hlength, hleft]
  constructor
  case few =>
    rw [requestsOf_append, List.length_append]
    obtain hnone | ⟨e, answer, hone, -⟩ := hends.request
    · rw [hnone, List.length_nil]
      omega
    · rw [hone, List.length_singleton]
      omega
  case offers =>
    intro i e he
    rw [requestsOf_append] at he
    obtain hlt | hge := Nat.lt_or_ge i (requestsOf es₁).length
    · rw [List.getElem?_append_left hlt] at he
      rw [toolsIn_of_lt (by omega), ← opened_schemas c text]
      exact (hplayed e (List.mem_of_getElem? he)).1
    · rw [List.getElem?_append_right hge] at he
      obtain ⟨hfirst, -, answer, hasks⟩ := hends.only_request he
      have hnumber : i + 1 + c₁.roundsLeft = c₁.config.maxRounds := by
        rw [hplays.config]
        omega
      rw [← toolsIn_congr hplays.config hschemas, ← offered_eq_toolsIn hnumber]
      exact ⟨_, answer, hasks.matter⟩
  case discards =>
    intro e text calls he hbrings hcalls
    rw [requestsOf_append, hlast, List.getElem?_append_right (Nat.le_add_right _ _), Nat.add_sub_cancel_left] at he
    obtain ⟨hzero, hone, -⟩ := hends.only_request he
    rw [← hplays.config]
    exact (hends.discards hzero hone hbrings hcalls).append_left es₁
  case exceeds =>
    rintro n rfl
    obtain ⟨hn, hlimit, hzero, e, text, calls, hone, hbrings, hcalls⟩ := hends.exceeds
    rw [hplays.config] at hn hlimit
    refine ⟨hn, hlimit, e, text, calls, ?_, hbrings, hcalls⟩
    rw [requestsOf_append, hone, hlast, hzero, Nat.add_zero, List.getElem?_concat_length]
  case closes =>
    intro e he text hbrings
    obtain he | he := List.mem_append.mp he
    · exact absurd hbrings ((hplayed e (hbrings.mem_requestsOf he)).2 text)
    · obtain ⟨i, hrequest⟩ := List.mem_iff_getElem?.mp (hbrings.mem_requestsOf he)
      obtain ⟨-, hone, -⟩ := hends.only_request hrequest
      exact (hends.closes hone hbrings).append_left es₁

theorem maxRounds_pos {config : TurnConfig} (hvalid : config.validate = .ok ()) : 0 < config.maxRounds := by
  unfold TurnConfig.validate at hvalid
  split at hvalid
  · cases hvalid
  · next hrounds => exact Nat.pos_of_ne_zero hrounds

/-- With valid settings a turn keeps to the limit on its rounds, whatever it is answered: it requests no more
completions than permitted, with the tools on offer that the settings want. Calls that the last permitted
completion brings are neither made nor recorded, and the settings decide between their text as the answer and
the failure, which has no other cause. A batch without calls is an answer in any round. -/
theorem round_limit_kept (c : Conversation) (hvalid : c.config.validate = .ok ()) (w : World σ) (s : σ)
    (text : String) :
    c.KeepsLimit ((c.turn text).trace w s) ((c.turn text).run w s).1.1 ((c.turn text).run w s).1.2.history :=
  keepsLimit_of_leads (maxRounds_pos hvalid) (Dialogue.leads_run w (c.turn text) s)

/-- The second completion, the last permitted one, brings calls. -/
theorem round_limit_kept_sample :
    ClosesWith ((sample.turn "hi").trace World.limited ([.twice, .twice], 9))
      ((sample.turn "hi").run World.limited ([.twice, .twice], 9)).1.1
      ((sample.turn "hi").run World.limited ([.twice, .twice], 9)).1.2.history
      (((sample.turn "hi").trace World.limited ([.twice, .twice], 9)).getLast (by decide)) "" := by
  have hkept := round_limit_kept sample rfl World.limited ([.twice, .twice], 9) "hi"
  exact (hkept.discards _ _ _ rfl ⟨_, _, rfl⟩ (List.cons_ne_nil _ _)).forced rfl

end Conversation

end Colloquy
