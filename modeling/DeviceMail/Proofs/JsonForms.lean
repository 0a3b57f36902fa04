/-
  DeviceMail — what the JSON texts of properties and clients stand for.

  * `Property.ofJson?`, `Properties.ofJson?`, `Client.ofJson?` and
    `Endpoint.ofJson?` take a JSON value for what it is the form of, by the names
    of its fields; `kind` decides which of the two clients it is;
  * `IsForm`: a form from which its value is taken back, so a text denotes at
    most one value (`IsForm.compact_inj`);
  * `json_texts_denote_values`: the texts of properties, clients and endpoints
    are read as these, and as no others.
-/
import DeviceMail.Client
import DeviceMail.Property
import DeviceMail.Proofs.JsonTexts

namespace DeviceMail

/-! ## Forms taken back -/

namespace Json

/-- The text in the field of that name. -/
def stringField? (name : String) (v : Json) : Option String := (v.field? name).bind string?

/-- Every value is taken back from its form. -/
def IsForm {α : Type} (form : α → Json) (ofJson? : Json → Option α) : Prop :=
  ∀ a, ofJson? (form a) = some a

section
variable {α : Type} {form : α → Json} {ofJson? : Json → Option α}

theorem IsForm.read?_compact (h : IsForm form ofJson?) (a : α) :
    (read? (form a).compact).bind ofJson? = some a := by
  rw [Json.read?_compact, Option.bind_some, h]

/-- Values with the same text are the same. -/
theorem IsForm.compact_inj (h : IsForm form ofJson?) {a b : α} :
    (form a).compact = (form b).compact ↔ a = b := by
  refine ⟨fun htext => ?_, fun hab => by rw [hab]⟩
  have hread := h.read?_compact a
  rw [htext, h.read?_compact b] at hread
  exact (Option.some.inj hread).symm

/-- Items are taken back one by one. -/
theorem IsForm.mapM (h : IsForm form ofJson?) (values : List α) :
    (values.map form).mapM ofJson? = some values := by
  have hdecode : ofJson? ∘ form = pure := funext h
  rw [List.mapM_map, hdecode]
  exact List.mapM_pure.trans (congrArg some (List.map_id values))

end

end Json

/-! ## Properties -/

/-- The property that a name and a value stand for. -/
def Property.ofJson? (v : Json) : Option Property := do
  let name ← v.stringField? "name"
  let value ← v.stringField? "value"
  return ⟨name, value⟩

theorem Property.isForm_json : Json.IsForm json ofJson? := fun _ => rfl

/-- The properties that an array stands for, in its order. -/
def Properties.ofJson? (v : Json) : Option Properties := do
  let items ← v.array?
  let entries ← items.mapM Property.ofJson?
  return ⟨entries⟩

theorem Properties.isForm_json : Json.IsForm json ofJson? := by
  intro properties
  have hentries := Property.isForm_json.mapM properties.toList
  simp only [ofJson?, json, Json.array?, Option.bind_eq_bind, Option.bind_some, hentries]
  rfl

/-! ## Clients and endpoints -/

/-- The client that an object of that kind stands for.  A device has no module. -/
def Client.ofJson? (v : Json) : Option Client := do
  let kind ← v.stringField? "kind"
  let deviceId ← v.stringField? "device_id"
  match v.field? "module_id" with
  | none => if kind = "device" then some (.device deviceId) else none
  | some moduleId =>
    if kind = "module" then moduleId.string?.map (.onDevice deviceId) else none

theorem Client.isForm_json : Json.IsForm json ofJson?
  | .device _ => rfl
  | .onDevice _ _ => rfl

/-- The endpoint that a host name and a client stand for. -/
def Endpoint.ofJson? (v : Json) : Option Endpoint := do
  let hostname ← v.stringField? "hostname"
  let client ← (v.field? "client_id").bind Client.ofJson?
  return ⟨hostname, client⟩

theorem Endpoint.isForm_json : Json.IsForm json ofJson? := by
  intro endpoint
  calc ofJson? endpoint.json
      = (Client.ofJson? endpoint.client.json).bind fun client =>
          some ⟨endpoint.hostname, client⟩ := rfl
    _ = some endpoint := by rw [Client.isForm_json, Option.bind_some]

/-! ## Texts -/

/-- **A text denotes one value.**  The text of properties is read as the array of
    their names and values, in order; that of a client as an object that says
    which kind it is, with a module only where there is one; that of an endpoint
    as its host name and client.  From what is read the value is taken back, so
    texts are the same only for the same values, whatever strings these hold. -/
theorem json_texts_denote_values :
    (∀ properties : Properties,
      Json.read? properties.json.compact = some (.array (properties.toList.map fun property =>
        .object [("name", .string property.name), ("value", .string property.value)])) ∧
      (Json.read? properties.json.compact).bind Properties.ofJson? = some properties) ∧
    (∀ deviceId, Json.read? (Client.device deviceId).json.compact =
      some (.object [("kind", .string "device"), ("device_id", .string deviceId)])) ∧
    (∀ deviceId moduleId, Json.read? (Client.onDevice deviceId moduleId).json.compact =
      some (.object [("kind", .string "module"), ("device_id", .string deviceId),
        ("module_id", .string moduleId)])) ∧
    (∀ client : Client, (Json.read? client.json.compact).bind Client.ofJson? = some client) ∧
    (∀ endpoint : Endpoint,
      Json.read? endpoint.json.compact = some (.object
        [("hostname", .string endpoint.hostname), ("client_id", endpoint.client.json)]) ∧
      (Json.read? endpoint.json.compact).bind Endpoint.ofJson? = some endpoint) ∧
    (∀ a b : Properties, a.json.compact = b.json.compact ↔ a = b) ∧
    (∀ a b : Client, a.json.compact = b.json.compact ↔ a = b) ∧
    (∀ a b : Endpoint, a.json.compact = b.json.compact ↔ a = b) ∧
    ∀ deviceId other moduleId,
      (Client.device deviceId).json.compact ≠ (Client.onDevice other moduleId).json.compact := by
  refine ⟨fun properties => ⟨?_, Properties.isForm_json.read?_compact properties⟩, ?_, ?_,
    Client.isForm_json.read?_compact,
    fun endpoint => ⟨?_, Endpoint.isForm_json.read?_compact endpoint⟩,
    fun _ _ => Properties.isForm_json.compact_inj, fun _ _ => Client.isForm_json.compact_inj,
    fun _ _ => Endpoint.isForm_json.compact_inj, fun deviceId other moduleId htext => ?_⟩
  · exact Json.read?_compact properties.json
  · exact fun deviceId => Json.read?_compact (Client.device deviceId).json
  · exact fun deviceId moduleId => Json.read?_compact (Client.onDevice deviceId moduleId).json
  · exact Json.read?_compact endpoint.json
  · exact absurd (Client.isForm_json.compact_inj.1 htext) nofun

end DeviceMail
