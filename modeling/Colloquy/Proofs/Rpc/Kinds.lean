import Colloquy.Proofs.Rpc.Codec

/-! Messages of three kinds, written as frames and told apart again. A frame is taken for the kind of its message
and gives back the fields of that message; only data that is null comes back as none (`frames_told_apart`). So no
frame stands for messages of two kinds. -/

namespace Colloquy.Rpc

inductive Kind where
  | request
  | notification
  | response
deriving DecidableEq, Repr

namespace Incoming

def kind : Incoming → Kind
  | .request _ => .request
  | .notification _ => .notification
  | .response _ => .response

/-- The values in a message that may be of any form: parameters, a result, and what an error tells besides. -/
def data : Incoming → List Json
  | .request r => r.params.toList
  | .notification n => n.params.toList
  | .response r => r.result.toList ++ (r.error.bind RpcError.data).toList

/-- The message with each of those values taken in some way, or left out. -/
def mapData (f : Json → Option Json) : Incoming → Incoming
  | .request r => .request { r with params := r.params.bind f }
  | .notification n => .notification { n with params := n.params.bind f }
  | .response r =>
    .response { r with result := r.result.bind f, error := r.error.map fun e => { e with data := e.data.bind f } }

variable {m : Incoming} {f g : Json → Option Json}

@[simp]
theorem kind_mapData (m : Incoming) (f : Json → Option Json) : (m.mapData f).kind = m.kind := by
  cases m <;> rfl

theorem mapData_congr (h : ∀ v ∈ m.data, f v = g v) : m.mapData f = m.mapData g := by
  have hbind {value : Option Json} (hvalue : ∀ v ∈ value.toList, f v = g v) : value.bind f = value.bind g := by
    cases value with
    | none => rfl
    | some v => exact hvalue v (List.mem_singleton_self v)
  cases m with
  | request r => simp only [mapData, hbind h]
  | notification n => simp only [mapData, hbind h]
  | response r =>
      obtain ⟨jsonrpc, id, result, error⟩ := r
      obtain ⟨hresult, herror⟩ := List.forall_mem_append.mp h
      cases error with
      | none => simp only [mapData, hbind hresult, Option.map_none]
      | some e =>
          have hdata : e.data.bind f = e.data.bind g := hbind herror
          simp only [mapData, hbind hresult, hdata, Option.map_some]

theorem classify_toJson (m : Incoming) :
    classify m.toJson.sorted = .ok (m.mapData fun v => v.sorted.present?) := by
  cases m with
  | request r =>
      rw [toJson, classify_request, Option.bind_map]
      rfl
  | notification n =>
      rw [toJson, classify_notification, Option.bind_map]
      rfl
  | response r =>
      rw [toJson, classify_response]
      simp only [Option.bind_map]
      rfl

end Incoming

/-- A message is taken for what it is when it comes as a frame, with its fields as they were and its data in the
order of their keys, but for data that is null, which is left out. Messages of different kinds have different
frames. -/
theorem frames_told_apart (m : Incoming) :
    classify m.toJson.sorted = .ok (m.mapData fun v => v.sorted.present?) ∧
      ((∀ v ∈ m.data, v.Canonical) → classify m.toJson.sorted = .ok (m.mapData Json.present?)) ∧
      ∀ m' : Incoming, m'.toJson.sorted = m.toJson.sorted → m'.kind = m.kind := by
  refine ⟨m.classify_toJson, fun hcanonical => ?_, fun m' hsame => ?_⟩
  · have hdata : ∀ v ∈ m.data, v.sorted.present? = v.present? := fun v hv => congrArg Json.present? (hcanonical v hv)
    rw [m.classify_toJson, Incoming.mapData_congr hdata]
  · have hread := m'.classify_toJson
    rw [hsame, m.classify_toJson] at hread
    have hkind := congrArg Incoming.kind (Except.ok.inj hread)
    simpa using hkind.symm

/-- Null is lost where it is data of an error, and kept as no id. -/
example : (Incoming.response { id := none, error := some { code := 7, message := "m", data := some .null } }).mapData
    Json.present? = .response { id := none, error := some { code := 7, message := "m" } } := rfl

end Colloquy.Rpc
