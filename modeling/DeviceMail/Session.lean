/-
  DeviceMail — working with several messages.

  A session holds messages and sources of identifiers under names, the log, and
  the notices that receivers have heard.  Everything from outside, clock
  readings and random identifiers, is part of a step.

  * `Session.step` takes one step and answers it; a step that is refused leaves
    the session as it was;
  * `Session.run` takes steps in order and gives the answer to each.
-/
import DeviceMail.Message.Edit
import DeviceMail.Message.Query
import DeviceMail.Slots

namespace DeviceMail

/-! ## Steps and answers -/

/-- A step of a session.  Messages are named by `slot`. -/
inductive Step where
  /-- Puts a source of identifiers under a name. -/
  | addSource (name : String) (source : IdSource)
  /-- Takes an identifier from a source; `fresh` is used if it is random. -/
  | drawId (name fresh : String)
  /-- Makes a message, with identifiers from a source or else the fresh ones. -/
  | make (slot : String) (content : Content) (source : Option String) (fresh : IdPair)
  /-- Makes a message from a content that may be missing. -/
  | make? (slot : String) (content : Option Content) (fresh : IdPair)
  /-- Puts a copy of a message into another slot. -/
  | copy (slot target : String)
  /-- Puts a message into another slot and gives up its own. -/
  | move (slot target : String)
  | edit (slot : String) (edit : Edit)
  | ask (slot : String) (query : Query)
  /-- Shows a message as it is. -/
  | look (slot : String)
  /-- Notifies the receiver of the message in `slot` of what happened to the
      message in `about`. -/
  | notify (slot about : String) (hook : Hook) (error : Option String)
  deriving DecidableEq

/-- Why a step was refused. -/
inductive Refusal where
  | noSuchMessage (slot : String)
  | noSuchSource (name : String)
  | message (fault : MessageFault)
  deriving DecidableEq, Repr

/-- What is answered to a step. -/
inductive Answer where
  | done
  | id (id : String)
  | message (m : Message)
  | reply (reply : Reply)
  /-- The notices heard, if the message has a receiver. -/
  | heard (notices : Option (List Notice))

/-! ## Sessions -/

/-- The state of a session. -/
structure Session where
  messages : Slots Message := .empty
  sources : Slots IdSource := .empty
  journal : Journal := {}
  deliveries : List Delivery := []

namespace Session

/-- The session with a message in a slot. -/
def store (s : Session) (slot : String) (m : Message) : Session × Except Refusal Answer :=
  ({ s with messages := s.messages.put slot m }, .ok (.message m))

/-- A refused step. -/
def refuse (s : Session) (refusal : Refusal) : Session × Except Refusal Answer :=
  (s, .error refusal)

/-- Goes on with the message in a slot. -/
def withMessage (s : Session) (slot : String)
    (go : Message → Session × Except Refusal Answer) : Session × Except Refusal Answer :=
  match s.messages.get? slot with
  | none => s.refuse (.noSuchMessage slot)
  | some m => go m

/-- Goes on with the source under a name. -/
def withSource (s : Session) (name : String)
    (go : IdSource → Session × Except Refusal Answer) : Session × Except Refusal Answer :=
  match s.sources.get? name with
  | none => s.refuse (.noSuchSource name)
  | some source => go source

/-- The session with records appended to its log. -/
def log (s : Session) (records : List Record) : Session :=
  { s with journal := s.journal.writeAll records }

/-- The session after a step, and the answer to it. -/
def step (s : Session) : Step → Session × Except Refusal Answer
  | .addSource name source => ({ s with sources := s.sources.put name source }, .ok .done)
  | .drawId name fresh =>
    s.withSource name fun source =>
      let (id, source) := source.draw fresh
      ({ s with sources := s.sources.put name source }, .ok (.id id))
  | .make slot content none fresh => s.store slot (.make content fresh)
  | .make slot content (some name) fresh =>
    s.withSource name fun source =>
      let (ids, source) := source.drawPair fresh
      { s with sources := s.sources.put name source }.store slot (.make content ids)
  | .make? slot content fresh =>
    match Message.make? content fresh with
    | .error fault => s.refuse (.message fault)
    | .ok m => s.store slot m
  | .copy slot target => s.withMessage slot fun m => s.store target m
  | .move slot target =>
    s.withMessage slot fun m => { s with messages := s.messages.remove slot }.store target m
  | .edit slot edit =>
    s.withMessage slot fun m =>
      let result := m.edit edit
      match result.value with
      | .error fault => s.refuse (.message fault)
      | .ok m => (s.log result.records).store slot m
  | .ask slot query =>
    s.withMessage slot fun m =>
      let result := m.ask query
      (s.log result.records, .ok (.reply result.value))
  | .look slot => s.withMessage slot fun m => (s, .ok (.message m))
  | .notify slot about hook error =>
    s.withMessage slot fun m =>
      s.withMessage about fun other =>
        match m.receiver with
        | none => (s, .ok (.heard none))
        | some receiver =>
          let heard := receiver.hear (m.notice other hook error)
          ({ s with deliveries := s.deliveries ++ heard },
            .ok (.heard (some (heard.map (·.notice)))))

/-- The session after steps taken in order, and the answer to each. -/
def run (s : Session) : List Step → Session × List (Except Refusal Answer)
  | [] => (s, [])
  | a :: rest =>
    let (s, answer) := s.step a
    let (s, answers) := run s rest
    (s, answer :: answers)

end Session

end DeviceMail
