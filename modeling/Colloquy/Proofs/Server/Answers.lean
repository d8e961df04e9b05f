import Colloquy.Rehearsal.Canned
import Colloquy.Server.ToolHandler
import Colloquy.Session.Client
import Colloquy.Proofs.Rpc.Codec

/-! What a server of tools answers to the requests of a client, and that the client reads from the answer what
the server put there: who it is, which tools it has, and what a call came to. -/

namespace Colloquy.Server

open Rpc Rehearsal

/-- A frame that holds nothing but the result of the request with the id. -/
def Results (frame : Json) (id : RequestId) (result : Json) : Prop :=
  classify frame = .ok (.response (.success id result))

variable {t : LocalTools Id} {who : Identity}

theorem served_request (h : Handler Id) (who : Identity) (r : Request) :
    served h who r.toJson.sorted =
      [(Id.run (answer h who { r with params := (r.params.map Json.sorted).bind Json.present? })).toJson.sorted] := by
  rw [served, answerFrame, classify_request]
  rfl

theorem served_notification (h : Handler Id) (who : Identity) (n : Notification) :
    served h who n.toJson.sorted = [] := by
  rw [served, answerFrame, classify_notification]
  rfl

/-- A result that is an object reaches the client as it is. -/
theorem results_success (id : RequestId) {result : Json} {members : Json.Members}
    (hresult : result.sorted = .obj members) (hcanonical : result.sorted.Canonical) :
    Results (success id result).toJson.sorted id result.sorted := by
  have hsorted : result.sorted.sorted = result.sorted := hcanonical
  have hpresent : result.sorted.sorted.present? = some result.sorted.sorted := by
    rw [hsorted, hresult]
    rfl
  have hclassify := classify_success id hpresent
  rwa [hsorted] at hclassify

/-! ### The handshake -/

theorem welcomeJson_sorted (who : Identity) : (welcomeJson who).sorted =
    .obj [("capabilities", .obj [("tools", .obj [("listChanged", false)])]), ("protocolVersion", protocolVersion),
      ("serverInfo", .obj [("name", who.name), ("version", who.version)])] := rfl

theorem decode_welcomeJson (who : Identity) : Welcome.decode (welcomeJson who).sorted =
    .ok ⟨protocolVersion, ⟨some {}⟩, ⟨who.name, who.version⟩⟩ := by
  rw [welcomeJson_sorted]
  rfl

theorem served_handshake (h : Handler Id) (who : Identity) (r : Request) (hmethod : r.method = Method.handshake) :
    ∃ frame, served h who r.toJson.sorted = [frame] ∧ Results frame r.id (welcomeJson who).sorted := by
  have hcanonical : (welcomeJson who).sorted.Canonical := by
    rw [welcomeJson_sorted, Json.Canonical]
    rfl
  refine ⟨_, served_request h who r, ?_⟩
  rw [answer, if_pos hmethod]
  exact results_success r.id (welcomeJson_sorted who) hcanonical

/-! ### The tools -/

/-- The schemas that a set of tools announces are JSON values with their members in order. -/
def Announceable (schemas : List ToolSchema) : Prop := ∀ s ∈ schemas, s.parameters.Canonical

theorem Announceable.tools {schemas : List ToolSchema} (h : Announceable schemas) :
    ∀ tool ∈ schemas.map ServerTool.ofSchema, tool.inputSchema.Canonical := by
  intro tool htool
  obtain ⟨s, hs, rfl⟩ := List.mem_map.mp htool
  exact h s hs

theorem decode_toolsJson {schemas : List ToolSchema} (h : Announceable schemas) :
    ToolsPage.decode (toolsJson (schemas.map ServerTool.ofSchema)).sorted =
      .ok ⟨schemas.map ServerTool.ofSchema, none⟩ := ToolsPage.decode_toolsJson h.tools

theorem served_listing (hschemas : Announceable t.registry.schemas) (who : Identity) (r : Request)
    (hmethod : r.method = Method.toolsList) :
    ∃ frame, served (handlerOf t) who r.toJson.sorted = [frame] ∧
      Results frame r.id (toolsJson (t.registry.schemas.map ServerTool.ofSchema)).sorted := by
  refine ⟨_, served_request (handlerOf t) who r, ?_⟩
  rw [answer, if_neg (by simp [hmethod, Method.toolsList, Method.handshake]),
    if_neg (by simp [hmethod, Method.toolsList, Method.ping]), if_pos hmethod]
  exact results_success r.id (toolsJson_sorted hschemas.tools) (toolsJson_canonical hschemas.tools)

/-! ### A call -/

/-- What the server tells of a call. -/
def calledResult (t : LocalTools Id) (name : String) (arguments : Json) : CallResult :=
  callResult (servedOutcome (Id.run (t.invoke name arguments)).outcome)

theorem served_call {name : String} {arguments : Json} (harguments : arguments.Canonical) (t : LocalTools Id)
    (who : Identity) (r : Request) (hmethod : r.method = Method.toolsCall)
    (hparams : r.params = some (.obj [("arguments", arguments), ("name", name)])) :
    ∃ frame, served (handlerOf t) who r.toJson.sorted = [frame] ∧
      Results frame r.id (calledResult t name arguments).toJson.sorted := by
  have hsorted : arguments.sorted = arguments := harguments
  have hgiven : (r.params.map Json.sorted).bind Json.present? =
      some (.obj [("arguments", arguments), ("name", name)]) := by
    have hobject : Json.sorted (.obj [("arguments", arguments), ("name", name)]) =
        .obj [("arguments", arguments.sorted), ("name", name)] := rfl
    rw [hparams, Option.map_some, hobject, hsorted]
    rfl
  obtain ⟨text, isError, hresult⟩ : ∃ text isError, calledResult t name arguments = .ofText text isError := by
    unfold calledResult callResult
    split <;> exact ⟨_, _, rfl⟩
  refine ⟨_, served_request (handlerOf t) who r, ?_⟩
  rw [hgiven, answer, if_neg (by simp [hmethod, Method.toolsCall, Method.handshake]),
    if_neg (by simp [hmethod, Method.toolsCall, Method.ping]),
    if_neg (by simp [hmethod, Method.toolsCall, Method.toolsList]), if_pos hmethod]
  show Results (success r.id (calledResult t name arguments).toJson).toJson.sorted _ _
  rw [hresult]
  exact results_success r.id (CallResult.ofText_sorted text isError) (CallResult.ofText_canonical text isError)

/-- The client reads what a call came to. -/
theorem decode_calledResult (t : LocalTools Id) (name : String) (arguments : Json) :
    CallResult.decode (calledResult t name arguments).toJson.sorted = .ok (calledResult t name arguments) := by
  unfold calledResult callResult
  split <;> exact CallResult.decode_ofText _ _

end Colloquy.Server
