/-
  DeviceMail — composing the message of a draft.

  * `Draft.plan` turns the draft into a content and the changes to make to a
    message of that content; it looks at the body, the client and the expiry,
    in this order, and reports the first fault;
  * `Draft.compose` carries the plan out and logs the message that comes of it.
-/
import DeviceMail.Draft.Basic
import DeviceMail.Message.Edit
import DeviceMail.Message.Text

namespace DeviceMail

/-- What a message takes from the world around its draft. -/
structure Surroundings where
  /-- The clock at the time when an expiry is computed, in milliseconds since
      1970. -/
  now : Int64
  /-- The clock at the time when the creation is stamped. -/
  instant : Instant
  /-- Identifiers for a message to which the draft gives none. -/
  ids : IdPair

namespace Draft

/-! ## The plan -/

/-- The changes before the client is known: the identifiers, the properties, and
    what describes the content and its way. -/
def headerEdits (draft : Draft) : List Edit :=
  draft.messageId.toList.map .messageId ++
  draft.correlationId.toList.map .correlationId ++
  draft.properties.map (fun property => .property property.name property.value) ++
  draft.contentType.toList.map (fun value => .contentType (some value)) ++
  draft.contentEncoding.toList.map (fun value => .contentEncoding (some value)) ++
  draft.outputName.toList.map .outputName ++
  draft.component.toList.map .componentName

/-- The change that sets the expiry, if there is to be one.  Two expiries
    exclude each other. -/
def expiryEdits (draft : Draft) (now : Int64) : Except DraftFault (List Edit) :=
  match draft.expiresIn, draft.expiresAt with
  | some _, some _ => .error .twoExpiries
  | some timeout, none => .ok [.expireAfter now timeout]
  | none, some time => .ok [.expireAt time]
  | none, none => .ok []

/-- The changes after the expiry. -/
def closingEdits (draft : Draft) (instant : Instant) : List Edit :=
  (if draft.stampCreationTime then [.created (some instant)] else []) ++
  (if draft.security then [.security] else [])

/-- What the message is to be made from, and the changes to make to it. -/
def plan (draft : Draft) (s : Surroundings) : Except DraftFault (Content × List Edit) := do
  let content ← draft.content
  let client ← draft.client
  let expiry ← draft.expiryEdits s.now
  return (content, draft.headerEdits ++ client.toList.map .connection ++ expiry ++
    draft.closingEdits s.instant)

/-! ## The message -/

/-- The part of the program that drafts log under. -/
def logTarget : String := "hubmsg_cli"

/-- The record of a message that was composed. -/
def composedRecord (m : Message) : Record := ⟨.debug, logTarget, "Built message " ++ m.summary⟩

/-- The message of the draft, and what was logged about it. -/
def compose (draft : Draft) (s : Surroundings) : Logged (Except DraftFault Message) :=
  match draft.plan s with
  | .error fault => .silent (.error fault)
  | .ok (content, edits) =>
    let result := (Message.make content s.ids).editAll edits
    match result.value with
    | .error fault => ⟨.error (.refused fault), result.records⟩
    | .ok m => ⟨.ok m, result.records ++ [composedRecord m]⟩

end Draft

end DeviceMail
