import Colloquy.Rpc.Records
import Colloquy.Proofs.Decode.Record

/-! Frames that are written and told apart again, and records that are written and read again. On the way, the
members of a frame are put in the order of their keys, which is why values are compared in that order
(`Json.Canonical`). -/

namespace Colloquy

/-- The members of every object in the value are in the order of their keys. -/
def Json.Canonical (j : Json) : Prop := j.sorted = j

/-- Null is as good as nothing. -/
def Json.present? : Json → Option Json
  | .null => none
  | j => some j

theorem Json.sortedItems_eq_map (items : List Json) : Json.sortedItems items = items.map Json.sorted := by
  induction items with
  | nil => rfl
  | cons item items ih => rw [sortedItems, ih, List.map_cons]

namespace Decode

variable {slots : Slots} {key : String} {index : Nat}

theorem run_optional_anything {value : Option Json} (hfind : slots.find? key index = value) :
    (Decode.optional key index anything).run slots = .ok (value.bind Json.present?) := by
  cases value with
  | none => exact run_defaulted_absent hfind
  | some j => cases j <;> exact run_defaulted hfind rfl

end Decode

namespace Rpc

open Decode

theorem RequestId.decode_toJson (id : RequestId) : RequestId.decode id.toJson = .ok id := by
  cases id with
  | text s => rfl
  | number n =>
      have hbounds : (Int64.minValue.toInt ≤ n.toInt && n.toInt ≤ Int64.maxValue.toInt) = true := by
        rw [Bool.and_eq_true, decide_eq_true_eq, decide_eq_true_eq]
        exact ⟨Int64.minValue_le_toInt n, Int64.toInt_le n⟩
      show (if Int64.minValue.toInt ≤ n.toInt && n.toInt ≤ Int64.maxValue.toInt then _ else _) = _
      rw [if_pos hbounds, Int64.ofInt_toInt]

theorem RequestId.toJson_present (id : RequestId) : id.toJson.isNull = false := by
  cases id <;> rfl

theorem RequestId.eq_of_decode {j : Json} {id : RequestId} (h : RequestId.decode j = .ok id) : j = id.toJson := by
  unfold RequestId.decode at h
  split at h
  · rename_i n
    split at h
    · rename_i hbounds
      rw [Bool.and_eq_true, decide_eq_true_eq, decide_eq_true_eq] at hbounds
      obtain rfl := Except.ok.inj h
      rw [RequestId.toJson, Int64.toInt_ofInt_of_le hbounds.1 (Int.lt_of_le_of_lt hbounds.2 (by decide))]
      rfl
    · cases h
  · obtain rfl := Except.ok.inj h
    rfl
  · cases h

/-! ### Frames -/

theorem Request.toJson_sorted (r : Request) : r.toJson.sorted =
    .obj ([("id", r.id.toJson), ("jsonrpc", .str r.jsonrpc), ("method", .str r.method)] ++
      member? "params" (r.params.map Json.sorted)) := by
  obtain ⟨jsonrpc, id, method, params⟩ := r
  cases id <;> cases params <;> rfl

/-- A request is taken for what it is, with its fields; null parameters are left out. -/
theorem classify_request (r : Request) : classify r.toJson.sorted =
    .ok (.request { r with params := (r.params.map Json.sorted).bind Json.present? }) := by
  rw [Request.toJson_sorted]
  generalize r.params.map Json.sorted = params
  generalize hmembers : [("id", r.id.toJson), ("jsonrpc", .str r.jsonrpc), ("method", .str r.method)] ++
    member? "params" params = members
  have hid : members.lookup "id" = some r.id.toJson := by rw [← hmembers]; rfl
  have hversion : members.lookup "jsonrpc" = some (.str r.jsonrpc) := by rw [← hmembers]; rfl
  have hmethod : members.lookup "method" = some (.str r.method) := by rw [← hmembers]; rfl
  have hparams : members.lookup "params" = params := by
    rw [← hmembers]
    cases params <;> rfl
  have hdecode : Request.decode (.obj members) = .ok { r with params := params.bind Json.present? } :=
    record_obj (run_seq (run_seq (run_seq (run_map (run_required hversion rfl))
      (run_required hid r.id.decode_toJson)) (run_required hmethod rfl)) (run_optional_anything hparams))
  have hhasMethod : hasMethod (.obj members) = true := by simp [hasMethod, Json.get?, hmethod]
  have hhasId : hasId (.obj members) = true := by simp [hasId, Json.get, Json.get?, hid, RequestId.toJson_present]
  simp only [classify, hhasMethod, hhasId, hdecode]
  rfl

/-- A request was read from members of its frame. -/
theorem Request.of_decode {frame : Json} {r : Request} (hmethod : hasMethod frame = true)
    (h : Request.decode frame = .ok r) : frame.get? "id" = some r.id.toJson ∧
      frame.get? "method" = some (.str r.method) ∧ r.params = (frame.get? "params").bind Json.present? := by
  cases frame with
  | obj members =>
      rw [Request.decode, record_obj_eq_ok, seq_eq_ok] at h
      obtain ⟨_, params, hrest, hparams, rfl⟩ := h
      obtain ⟨_, method, hids, hmethods, rfl⟩ := seq_eq_ok.mp hrest
      obtain ⟨_, id, hversions, hid, rfl⟩ := seq_eq_ok.mp hids
      obtain ⟨version, _, rfl⟩ := map_eq_ok.mp hversions
      obtain ⟨idJson, hidFind, hidRead⟩ := required_eq_ok.mp hid
      obtain ⟨methodJson, hmethodFind, hmethodRead⟩ := required_eq_ok.mp hmethods
      obtain rfl := RequestId.eq_of_decode hidRead
      have hname : methodJson = .str method := by
        cases methodJson <;> simp_all [Decode.text, wrongKind]
      rw [run_optional_anything rfl] at hparams
      exact ⟨hidFind, hname ▸ hmethodFind, (Except.ok.inj hparams).symm⟩
  | _ => cases hmethod

theorem Notification.toJson_sorted (n : Notification) : n.toJson.sorted =
    .obj ([("jsonrpc", .str n.jsonrpc), ("method", .str n.method)] ++ member? "params" (n.params.map Json.sorted)) := by
  obtain ⟨jsonrpc, method, params⟩ := n
  cases params <;> rfl

/-- So is a notification. -/
theorem classify_notification (n : Notification) : classify n.toJson.sorted =
    .ok (.notification { n with params := (n.params.map Json.sorted).bind Json.present? }) := by
  rw [Notification.toJson_sorted]
  generalize n.params.map Json.sorted = params
  generalize hmembers : [("jsonrpc", .str n.jsonrpc), ("method", .str n.method)] ++ member? "params" params = members
  have hversion : members.lookup "jsonrpc" = some (.str n.jsonrpc) := by rw [← hmembers]; rfl
  have hmethod : members.lookup "method" = some (.str n.method) := by rw [← hmembers]; rfl
  have hid : members.lookup "id" = none := by
    rw [← hmembers]
    cases params <;> rfl
  have hparams : members.lookup "params" = params := by
    rw [← hmembers]
    cases params <;> rfl
  have hdecode : Notification.decode (.obj members) = .ok { n with params := params.bind Json.present? } :=
    record_obj (run_seq (run_seq (run_map (run_required hversion rfl)) (run_required hmethod rfl))
      (run_optional_anything hparams))
  have hhasMethod : hasMethod (.obj members) = true := by simp [hasMethod, Json.get?, hmethod]
  have hhasId : hasId (.obj members) = false := by simp [hasId, Json.get, Json.get?, hid, Json.isNull]
  simp only [classify, hhasMethod, hhasId, hdecode]
  rfl

theorem RpcError.toJson_sorted (e : RpcError) : e.toJson.sorted =
    .obj ([("code", .int e.code.toInt)] ++ member? "data" (e.data.map Json.sorted) ++ [("message", .str e.message)]) := by
  obtain ⟨code, message, data⟩ := e
  cases data <;> rfl

theorem RpcError.decode_toJson (e : RpcError) : RpcError.decode e.toJson.sorted =
    .ok { e with data := (e.data.map Json.sorted).bind Json.present? } := by
  rw [RpcError.toJson_sorted]
  generalize e.data.map Json.sorted = data
  generalize hmembers : [("code", .int e.code.toInt)] ++ member? "data" data ++ [("message", .str e.message)] = members
  have hcode : members.lookup "code" = some (.int e.code.toInt) := by rw [← hmembers]; rfl
  have hmessage : members.lookup "message" = some (.str e.message) := by
    rw [← hmembers]
    cases data <;> rfl
  have hdata : members.lookup "data" = data := by
    rw [← hmembers]
    cases data <;> rfl
  have hbounds : (Int32.minValue.toInt ≤ e.code.toInt && e.code.toInt ≤ Int32.maxValue.toInt) = true := by
    rw [Bool.and_eq_true, decide_eq_true_eq, decide_eq_true_eq]
    exact ⟨Int32.minValue_le_toInt e.code, Int32.toInt_le e.code⟩
  have hread : (integer "i32" Int32.minValue.toInt Int32.maxValue.toInt (.int e.code.toInt)).map Int32.ofInt =
      .ok e.code := by
    simp only [Json.int, integer, hbounds, if_true]
    exact congrArg Except.ok (Int32.ofInt_toInt e.code)
  exact record_obj (run_seq (run_seq (run_map (run_required hcode hread)) (run_required hmessage rfl))
    (run_optional_anything hdata))

theorem Response.toJson_sorted (r : Response) : r.toJson.sorted =
    .obj (member? "error" (r.error.map fun e => e.toJson.sorted) ++
      [("id", r.id.elim .null RequestId.toJson), ("jsonrpc", .str r.jsonrpc)] ++
      member? "result" (r.result.map Json.sorted)) := by
  obtain ⟨jsonrpc, id, result, error⟩ := r
  cases error <;> cases result <;> obtain _ | (_ | _) := id <;> rfl

/-- And so is a response; an id that is null is none. -/
theorem classify_response (r : Response) : classify r.toJson.sorted =
    .ok (.response { r with
      result := (r.result.map Json.sorted).bind Json.present?
      error := r.error.map fun e => { e with data := (e.data.map Json.sorted).bind Json.present? } }) := by
  rw [Response.toJson_sorted]
  generalize r.result.map Json.sorted = result
  generalize hmembers : member? "error" (r.error.map fun e => e.toJson.sorted) ++
    [("id", r.id.elim .null RequestId.toJson), ("jsonrpc", .str r.jsonrpc)] ++ member? "result" result = members
  have hversion : members.lookup "jsonrpc" = some (.str r.jsonrpc) := by
    rw [← hmembers]
    cases r.error <;> rfl
  have hid : members.lookup "id" = some (r.id.elim .null RequestId.toJson) := by
    rw [← hmembers]
    cases r.error <;> rfl
  have hresult : members.lookup "result" = result := by
    rw [← hmembers]
    cases r.error <;> cases result <;> rfl
  have herror : members.lookup "error" = r.error.map fun e => e.toJson.sorted := by
    rw [← hmembers]
    cases r.error <;> cases result <;> rfl
  have hmethod : members.lookup "method" = none := by
    rw [← hmembers]
    cases r.error <;> cases result <;> rfl
  have hidRead : (optionalNamed "id" 1 RequestId.decode).run (.named members) = .ok r.id := by
    cases hsome : r.id with
    | none => exact run_optionalNamed_null (by rw [hsome] at hid; exact hid)
    | some id => exact run_optionalNamed (by rw [hsome] at hid; exact hid) id.decode_toJson id.toJson_present
  have herrorRead : (optional "error" 3 RpcError.decode).run (.named members) =
      .ok (r.error.map fun e => { e with data := (e.data.map Json.sorted).bind Json.present? }) := by
    cases hsome : r.error with
    | none => exact run_defaulted_absent (by rw [hsome] at herror; exact herror)
    | some e =>
        have hpresent : e.toJson.sorted.isNull = false := by rw [RpcError.toJson_sorted]; rfl
        exact run_defaulted (by rw [hsome] at herror; exact herror) (nullable_ok e.decode_toJson hpresent)
  have hdecode : Response.decode (.obj members) = .ok { r with
      result := result.bind Json.present?
      error := r.error.map fun e => { e with data := (e.data.map Json.sorted).bind Json.present? } } :=
    record_obj (run_seq (run_seq (run_seq (run_map (run_required hversion rfl)) hidRead)
      (run_optional_anything hresult)) herrorRead)
  have hhasMethod : hasMethod (.obj members) = false := by simp [hasMethod, Json.get?, hmethod]
  simp only [classify, hhasMethod, hdecode]
  rfl

theorem classify_success (id : RequestId) {result : Json} (hpresent : result.sorted.present? = some result.sorted) :
    classify (Response.success id result).toJson.sorted = .ok (.response (.success id result.sorted)) := by
  have hclassify := classify_response (.success id result)
  simp only [Response.success, Option.map_some, Option.bind_some, Option.map_none, hpresent] at hclassify
  exact hclassify

/-! ### Records -/

/-- A tool with its members in order. -/
def ServerTool.sortedJson (t : ServerTool) : Json :=
  .obj [("description", t.description), ("inputSchema", t.inputSchema), ("name", t.name)]

theorem ServerTool.toJson_sorted {t : ServerTool} (h : t.inputSchema.Canonical) : t.toJson.sorted = t.sortedJson := by
  have hschema : t.inputSchema.sorted = t.inputSchema := h
  show Json.obj [("description", .str t.description), ("inputSchema", t.inputSchema.sorted), ("name", .str t.name)] = _
  rw [hschema]
  rfl

theorem ServerTool.sortedJson_canonical {t : ServerTool} (h : t.inputSchema.Canonical) : t.sortedJson.Canonical := by
  have hschema : t.inputSchema.sorted = t.inputSchema := h
  show Json.obj [("description", .str t.description), ("inputSchema", t.inputSchema.sorted), ("name", .str t.name)] = _
  rw [hschema]
  rfl

theorem ServerTool.decode_sortedJson (t : ServerTool) : ServerTool.decode t.sortedJson = .ok t := by
  have htext (s : String) : text (.str s) = .ok s := rfl
  have hschema : anything t.inputSchema = .ok t.inputSchema := rfl
  exact record_obj (run_seq (run_seq (run_map (run_required rfl (htext t.name)))
    (run_defaulted rfl (htext t.description))) (run_defaulted rfl hschema))

/-- The page of all tools of a server. -/
def toolsJson (tools : List ServerTool) : Json := .obj [("tools", .arr (tools.map ServerTool.toJson))]

theorem toolsJson_sorted {tools : List ServerTool} (h : ∀ t ∈ tools, t.inputSchema.Canonical) :
    (toolsJson tools).sorted = .obj [("tools", .arr (tools.map ServerTool.sortedJson))] := by
  have hitems : (tools.map ServerTool.toJson).map Json.sorted = tools.map ServerTool.sortedJson := by
    rw [List.map_map]
    exact List.map_congr_left fun t ht => ServerTool.toJson_sorted (h t ht)
  rw [← hitems, ← Json.sortedItems_eq_map]
  rfl

theorem toolsJson_canonical {tools : List ServerTool} (h : ∀ t ∈ tools, t.inputSchema.Canonical) :
    (toolsJson tools).sorted.Canonical := by
  have hitems : (tools.map ServerTool.sortedJson).map Json.sorted = tools.map ServerTool.sortedJson := by
    rw [List.map_map]
    exact List.map_congr_left fun t ht => ServerTool.sortedJson_canonical (h t ht)
  rw [toolsJson_sorted h, Json.Canonical]
  simp only [Json.sorted, Json.sortedMembers, Json.insert, Json.sortedItems_eq_map, hitems]

/-- An empty cursor is none. -/
theorem ToolsPage.following?_eq_some {page : ToolsPage} {cursor : String} :
    page.following? = some cursor ↔ page.nextCursor = some cursor ∧ cursor ≠ "" := by
  unfold following? Text.nonEmpty?
  cases page.nextCursor with
  | none => simp
  | some text =>
      by_cases hempty : text = ""
      · subst hempty
        constructor
        · exact nofun
        · rintro ⟨hcursor, hne⟩
          exact absurd (Option.some.inj hcursor).symm hne
      · simpa [hempty] using fun heq : text = cursor => heq ▸ hempty

theorem ToolsPage.following?_eq_none {page : ToolsPage} :
    page.following? = none ↔ ∀ cursor, page.nextCursor = some cursor → cursor = "" := by
  simp only [Option.eq_none_iff_forall_ne_some, ne_eq, following?_eq_some, not_and, Decidable.not_not]

theorem ToolsPage.decode_toolsJson {tools : List ServerTool} (h : ∀ t ∈ tools, t.inputSchema.Canonical) :
    ToolsPage.decode (toolsJson tools).sorted = .ok ⟨tools, none⟩ := by
  rw [toolsJson_sorted h]
  exact record_obj (run_seq (run_map (run_required rfl (list_map ServerTool.decode_sortedJson tools)))
    (run_defaulted_absent rfl))

/-- The result of a call with its members in order. -/
theorem CallResult.ofText_sorted (text : String) (isError : Bool) : (CallResult.ofText text isError).toJson.sorted =
    .obj [("content", .arr [.obj [("text", text), ("type", "text")]]), ("isError", isError)] := rfl

theorem CallResult.ofText_canonical (text : String) (isError : Bool) :
    (CallResult.ofText text isError).toJson.sorted.Canonical := by
  rw [ofText_sorted, Json.Canonical]
  rfl

theorem CallResult.decode_ofText (text : String) (isError : Bool) :
    CallResult.decode (CallResult.ofText text isError).toJson.sorted = .ok (.ofText text isError) := by
  have htext : Decode.text (.str "text") = .ok "text" := rfl
  have hvalue : nullable Decode.text (.str text) = .ok (some text) := rfl
  have hflag : boolean (.bool isError) = .ok isError := rfl
  have hitem : ContentItem.decode (.obj [("text", text), ("type", "text")]) = .ok ⟨"text", some text⟩ :=
    record_obj (run_seq (run_map (run_required rfl htext)) (run_defaulted rfl hvalue))
  have hitems : list ContentItem.decode (.arr [.obj [("text", text), ("type", "text")]]) =
      .ok [⟨"text", some text⟩] := by
    show List.mapM ContentItem.decode [_] = _
    rw [List.mapM_cons, hitem]
    rfl
  rw [ofText_sorted]
  exact record_obj (run_seq (run_map (run_defaulted rfl hitems)) (run_defaulted rfl hflag))

theorem CallResult.text_ofText (text : String) (isError : Bool) : (CallResult.ofText text isError).text = text := by
  simp [CallResult.ofText, CallResult.text]

end Rpc

end Colloquy
