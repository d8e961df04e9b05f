import Colloquy.Proofs.Session.Lifecycle
import Colloquy.Proofs.Turn.RoundLimit

/-! The tools that a server has announced, on their way to the model. A connected toolbox has the tools of all pages in
their order and keeps them while it is used, and a conversation over them offers all or none with each request. On that
way no tool is lost and none is left out: a name that was announced twice is offered twice (`tools_handed_on`). -/

namespace Colloquy

theorem Exchange.Offers.unique {σ : Type} {e : Exchange Conversation σ} {tools others : List ToolSchema}
    (h : e.Offers tools) (hothers : e.Offers others) : tools = others := by
  obtain ⟨snapshot, answer, hmatter⟩ := h
  obtain ⟨_, _, hmatter'⟩ := hothers
  rw [hmatter] at hmatter'
  exact (Matter.completion.inj hmatter').2.1

namespace Conversation

/-- The conversations over some tools that can come about, whatever the worlds answer. -/
inductive Over (schemas : List ToolSchema) : Conversation → Prop where
  | start {config : TurnConfig} {ids : IdSupply} {c : Conversation}
      (hstart : Conversation.start config schemas ids = .ok c) : Over schemas c
  | clear {c : Conversation} (hc : Over schemas c) : Over schemas c.clear
  | turn {c : Conversation} (hc : Over schemas c) {σ : Type} (w : World σ) (s : σ) (text : String) :
      Over schemas ((c.turn text).run w s).1.2

variable {σ : Type} {c c' : Conversation} {e : Exchange Conversation σ} {es : List (Exchange Conversation σ)}
  {result : TurnResult} {text : String}

theorem Ends.schemas (hends : Ends c es (result, c')) : c'.schemas = c.schemas := by
  cases hends <;> rfl

theorem schemas_of_leads (hleads : (c.turn text).Leads es (result, c')) : c'.schemas = c.schemas := by
  obtain ⟨rs, es₁, es₂, c₁, -, hgoes, hends⟩ := leads_turn hleads
  exact hends.schemas.trans (hgoes.schemas.trans (opened_schemas c text))

theorem start_schemas {config : TurnConfig} {schemas : List ToolSchema} {ids : IdSupply}
    (hstart : Conversation.start config schemas ids = .ok c) : c.schemas = schemas := by
  unfold Conversation.start at hstart
  cases hvalid : config.validate with
  | error e => simp [hvalid, Except.map] at hstart
  | ok u =>
      rw [hvalid] at hstart
      cases hstart
      rfl

theorem Over.schemas {schemas : List ToolSchema} (h : Over schemas c) : c.schemas = schemas := by
  induction h with
  | start hstart => exact start_schemas hstart
  | clear _ ih => exact ih
  | turn _ w s text ih => exact (schemas_of_leads (Dialogue.leads_run w _ s)).trans ih

/-! ### What is offered -/

theorem offered_eq (c : Conversation) (isFinal : Bool) : c.offered isFinal = [] ∨ c.offered isFinal = c.schemas := by
  unfold offered
  split
  · exact .inl rfl
  · exact .inr rfl

theorem offers_of_leads (hleads : (c.turn text).Leads es (result, c')) (he : e ∈ es) {tools : List ToolSchema}
    (hoffers : e.Offers tools) : tools = [] ∨ tools = c.schemas := by
  obtain ⟨rs, es₁, es₂, c₁, rfl, hgoes, hends⟩ := leads_turn hleads
  have hrequest : e.matter.isRequest = true := by
    obtain ⟨snapshot, answer, hmatter⟩ := hoffers
    rw [hmatter]
    rfl
  have hschemas : c₁.schemas = c.schemas := hgoes.schemas.trans (opened_schemas c text)
  obtain he | he := List.mem_append.mp he
  · -- The rounds before the last one offer all tools.
    have hall := (hgoes.offers.2 e (List.mem_filter.mpr ⟨he, hrequest⟩)).1
    rw [← opened_schemas c text]
    exact .inr (hoffers.unique hall)
  · have hmem : e ∈ requestsOf es₂ := List.mem_filter.mpr ⟨he, hrequest⟩
    obtain hnone | ⟨last, answer, hone, hasks⟩ := hends.request
    · rw [hnone] at hmem
      cases hmem
    · rw [hone, List.mem_singleton] at hmem
      subst hmem
      rw [← hschemas, hoffers.unique ⟨_, _, hasks.matter⟩]
      exact offered_eq c₁ _

end Conversation

namespace Session

open Rpc Connection

theorem Toolbox.after_schemas (b : Toolbox) (uses : List ToolboxEvent) : (b.after uses).schemas = b.schemas := by
  induction uses generalizing b with
  | nil => rfl
  | cons e uses ih => exact (ih _).trans (b.step_schemas e)

theorem Connects.collects {limit : Nat} {events : List Event} {b : Toolbox} (h : Connects limit events b) :
    ∃ pages, Collects (acceptedIn (done limit events)) pages ∧
      b.schemas = (pages.flatMap (·.tools)).map ServerTool.toSchema := by
  have hcourse := course limit h.left
  have htoolbox := h.toolbox
  generalize (Connection.start limit).1.after events = c at hcourse htoolbox
  unfold toolbox? at htoolbox
  split at htoolbox
  · next server schemas hconnected =>
      cases htoolbox
      exact (hcourse.of_connected hconnected).2.2.2.2
  · cases htoolbox

/-- How the tools of some pages are handed on. -/
structure Toolbox.HandsOn (b : Toolbox) (pages : List ToolsPage) : Prop where
  all : b.schemas = (pages.flatMap (·.tools)).map ServerTool.toSchema
  kept : ∀ uses, (b.after uses).schemas = b.schemas
  conversations : ∀ c, Conversation.Over b.schemas c → c.schemas = b.schemas
  /-- A request that offers tools offers all of them. -/
  requests : ∀ c, Conversation.Over b.schemas c → ∀ {σ : Type} (w : World σ) (s : σ) (text : String),
    ∀ e ∈ (c.turn text).trace w s, ∀ tools, e.Offers tools → tools ≠ [] → tools = b.schemas
  /-- Nothing on the way makes names distinct. -/
  distinct : (b.schemas.map (·.name)).Nodup ↔ ((pages.flatMap (·.tools)).map (·.name)).Nodup

/-- The tools of a server are those of the pages that were accepted from it, however it came to them, and they are
handed on as they are, through every use and every conversation, up to the requests for completions. Their names are
distinct exactly if the server made them so. -/
theorem tools_handed_on {limit : Nat} {events : List Event} {b : Toolbox} (h : Connects limit events b) :
    ∃ pages, Collects (acceptedIn (done limit events)) pages ∧ b.HandsOn pages := by
  obtain ⟨pages, hcollects, hall⟩ := h.collects
  refine ⟨pages, hcollects, hall, b.after_schemas, fun c hc => hc.schemas, ?_, ?_⟩
  · intro c hc σ w s text e he tools hoffers hsome
    rw [← hc.schemas]
    exact (Conversation.offers_of_leads (Dialogue.leads_run w (c.turn text) s) he hoffers).resolve_left hsome
  · rw [hall, List.map_map]
    rfl

/-- A server that announces a tool with the same name on both of its pages. -/
def repeatedly : List Event :=
  [.written,
    .received (Response.success (nthId 1)
      (.obj [("protocolVersion", "1"), ("serverInfo", .obj [("name", "s")])])).toJson,
    .written, .written,
    .received (Response.success (nthId 2)
      (.obj [("tools", .arr [.obj [("name", "t"), ("description", "first")]]), ("nextCursor", "p2")])).toJson,
    .written,
    .received (Response.success (nthId 3)
      (.obj [("tools", .arr [.obj [("name", "t"), ("description", "second")]])])).toJson]

def repeated : Toolbox where
  client := { limit := 100, nextId := 4, capabilities := some {} }
  serverName := "s"
  schemas := [⟨"t", "first", emptyObjectSchema⟩, ⟨"t", "second", emptyObjectSchema⟩]

theorem tools_handed_on_sample :
    Connects 100 repeatedly repeated ∧
      ∃ pages, Collects (acceptedIn (done 100 repeatedly)) pages ∧ repeated.HandsOn pages := by
  have hconnected : Connects 100 repeatedly repeated := ⟨by simp [repeatedly], rfl⟩
  exact ⟨hconnected, tools_handed_on hconnected⟩

/-- Both tools are known under one name, and a request offers both. -/
theorem repeated_name_offered :
    Connects 100 repeatedly repeated ∧ ¬(repeated.schemas.map (·.name)).Nodup ∧
      ∃ c, Conversation.Over repeated.schemas c ∧
        ∃ e ∈ (c.turn "hi").trace World.limited ([.answer "done"], 9), e.Offers repeated.schemas := by
  refine ⟨⟨by simp [repeatedly], rfl⟩, by decide, ?_⟩
  have hstart : Conversation.start {} repeated.schemas Conversation.sample.ids = .ok _ := rfl
  exact ⟨_, .start hstart, _, List.mem_cons_self, _, _, rfl⟩

end Session

end Colloquy
