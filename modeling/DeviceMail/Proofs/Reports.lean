/-
  DeviceMail — what the command reports.

  A command line that describes a draft ends in a report of the message that was
  composed, or in nothing if there is none.

  * `Json.Reports` says what a JSON value reports of a message, field by field,
    and `Draft.reportedTexts` which texts of a draft show as they are;
  * `reports_details`: the details of a message of telemetry report it;
  * `report_of_draft`: what is printed is a line about the message and then JSON
    text that can be read back and reports it, or nothing at all for a draft that
    gives no message.
-/
import DeviceMail.CommandLine.Outcome
import DeviceMail.Proofs.Composition
import DeviceMail.Proofs.Expiries
import DeviceMail.Proofs.JsonTexts

namespace DeviceMail

/-! ## Reports -/

namespace Json

/-- A field shows a value that may be absent: it is `null` exactly if the value is
    absent, and otherwise the value in its shape. -/
def ShowsOption {α : Type} (report : Json) (name : String) (shape : α → Json)
    (value : Option α) : Prop :=
  ∃ shown, report.field? name = some shown ∧ (shown = .null ↔ value = none) ∧
    ∀ a, value = some a → shown = shape a

theorem showsOption {α : Type} {report : Json} {name : String} {shape : α → Json}
    {value : Option α} (hshape : ∀ a, shape a ≠ .null)
    (h : report.field? name = some (option shape value)) : report.ShowsOption name shape value := by
  refine ⟨_, h, ?_, ?_⟩
  · cases value with
    | none => simp [option]
    | some a => simp [option, hshape]
  · rintro a rfl
    rfl

theorem option_map {α β : Type} (shape : β → Json) (f : α → β) (value : Option α) :
    option shape (value.map f) = option (fun a => shape (f a)) value := by
  cases value <;> rfl

/-- The names of the fields of a report. -/
def reportNames : List String :=
  ["bodyLength", "componentName", "connectionDeviceId", "connectionModuleId", "contentEncoding",
    "contentType", "correlationId", "creationTimeUtc", "expired", "expiryTime", "messageId",
    "messageType", "outputName", "properties", "securityMessage"]

/-- What a report says of a message of telemetry, if the clock shows `later` when
    its expiry is looked at. -/
structure Reports (report : Json) (m : Message) (later : Int64) : Prop where
  names : ∃ fields, report = .object fields ∧ fields.map Prod.fst = reportNames
  messageId : report.field? "messageId" = some (.string m.messageId)
  correlationId : report.field? "correlationId" = some (.string m.correlationId)
  messageType : report.field? "messageType" = some (.string "DEVICE_TELEMETRY")
  contentType : report.ShowsOption "contentType" .string m.contentType
  contentEncoding : report.ShowsOption "contentEncoding" .string m.contentEncoding
  connectionDeviceId : report.ShowsOption "connectionDeviceId" .string m.connectionDeviceId
  connectionModuleId : report.ShowsOption "connectionModuleId" .string m.connectionModuleId
  outputName : report.ShowsOption "outputName" .string m.outputName
  componentName : report.ShowsOption "componentName" .string m.componentName
  creationTimeUtc : report.ShowsOption "creationTimeUtc" (fun t => .string t.hubText) m.created
  expiryTime : report.field? "expiryTime" = some (.number m.expiry.toInt)
  expired : ∃ answer, report.field? "expired" = some (.bool answer) ∧
    (answer ↔ m.expiry.toInt ≠ 0 ∧ m.expiry.toInt < later.toInt)
  securityMessage : report.field? "securityMessage" = some (.bool m.isSecurity)
  /-- The number of bytes, not of characters. -/
  bodyLength : report.ShowsOption "bodyLength" (fun body => .number (body.length : Int)) m.body
  /-- In the order of the properties. -/
  properties : report.field? "properties" = some (.array (m.properties.toList.map fun property =>
    .object [("name", .string property.name), ("value", .string property.value)]))

end Json

/-- **The details of a message of telemetry report it.** -/
theorem Message.reports_details (m : Message) (later : Int64) :
    let sent := { m with kind := some .telemetry }
    (sent.details (sent.checkExpiry later).value).Reports m later := by
  intro sent
  rw [checkExpiry_value]
  have hstring (text : String) : Json.string text ≠ .null := nofun
  exact
    { names := ⟨_, rfl, rfl⟩
      messageId := rfl
      correlationId := rfl
      messageType := rfl
      contentType := Json.showsOption hstring rfl
      contentEncoding := Json.showsOption hstring rfl
      connectionDeviceId := Json.showsOption hstring rfl
      connectionModuleId := Json.showsOption hstring rfl
      outputName := Json.showsOption hstring rfl
      componentName := Json.showsOption hstring rfl
      creationTimeUtc := Json.showsOption (fun _ => hstring _) (congrArg some (Json.option_map ..))
      expiryTime := rfl
      expired := ⟨m.hasExpired later, rfl, m.hasExpired_iff later⟩
      securityMessage := rfl
      bodyLength := Json.showsOption nofun rfl
      properties := rfl }

namespace Draft

/-! ## What a draft gives to the report -/

/-- The texts of a draft that the message takes over, under the names of their
    fields in the report.  A security message has an encoding of its own. -/
def reportedTexts (draft : Draft) : List (String × Option String) :=
  [("messageId", draft.messageId), ("correlationId", draft.correlationId),
    ("contentType", draft.contentType),
    ("contentEncoding", if draft.security then none else draft.contentEncoding),
    ("connectionDeviceId", draft.device), ("connectionModuleId", draft.onDevice),
    ("outputName", draft.outputName), ("componentName", draft.component)]

section
variable {draft : Draft} {s : Surroundings} {report : Json} {later : Int64}

/-- Texts of the draft show as they are, also where they are empty. -/
theorem field?_of_reportedTexts (h : report.Reports (draft.message s) later) {name text : String}
    (hmem : (name, some text) ∈ draft.reportedTexts) :
    report.field? name = some (.string text) := by
  have hoption {field : String} {value : Option String}
      (hshows : report.ShowsOption field .string value) (hvalue : value = some text) :
      report.field? field = some (.string text) := by
    obtain ⟨shown, hfield, -, htext⟩ := hshows
    rw [hfield, htext text hvalue]
  simp only [reportedTexts, List.mem_cons, Prod.mk.injEq, List.not_mem_nil, or_false] at hmem
  rcases hmem with ⟨rfl, ht⟩ | ⟨rfl, ht⟩ | ⟨rfl, ht⟩ | ⟨rfl, ht⟩ | ⟨rfl, ht⟩ | ⟨rfl, ht⟩ |
    ⟨rfl, ht⟩ | ⟨rfl, ht⟩
  · simpa [message, ← ht] using h.messageId
  · simpa [message, ← ht] using h.correlationId
  · exact hoption h.contentType ht.symm
  · have hsecurity : draft.security = false := by
      by_contra hs
      simp [hs] at ht
    refine hoption h.contentEncoding ?_
    simp only [hsecurity, Bool.false_eq_true, if_false] at ht
    simp [message, hsecurity, ← ht]
  · exact hoption h.connectionDeviceId ht.symm
  · exact hoption h.connectionModuleId ht.symm
  · exact hoption h.outputName ht.symm
  · exact hoption h.componentName ht.symm

/-- Of a text that is the body, the bytes are counted. -/
theorem bodyLength_of_text (h : report.Reports (draft.message s) later) {text : String}
    (ht : draft.text = some text) :
    report.field? "bodyLength" = some (.number (text.utf8ByteSize : Int)) := by
  obtain ⟨shown, hfield, -, hbody⟩ := h.bodyLength
  have hbody? : (draft.message s).body = some (Text.utf8 text) := by simp [message, body?, ht]
  have hlength : (Text.utf8 text).length = text.utf8ByteSize := by
    rw [Text.utf8, Array.length_toList]
    rfl
  rw [hfield, hbody _ hbody?]
  simp only [hlength]

end

end Draft

/-! ## What the command prints -/

namespace Outcome

section
variable {arguments : List String} {draft : Draft}
  (hdraft : Draft.ofArguments arguments = .ok draft) {s : Surroundings} (later : Int64)
include hdraft

theorem ofArguments_of_fault {fault : DraftFault} (h : (draft.compose s).value = .error fault) :
    Outcome.ofArguments arguments s later = .faulty fault := by
  simp only [Outcome.ofArguments, hdraft, h]

theorem ofArguments_of_composed {m : Message} (h : (draft.compose s).value = .ok m) :
    let sent := { m with kind := some .telemetry }
    Outcome.ofArguments arguments s later = .composed sent (sent.checkExpiry later).value := by
  simp only [Outcome.ofArguments, hdraft, h]

end

/-- **The command reports the message that it composed, and only then.**  For a
    draft that gives no message it ends with status 2 and prints nothing.
    Otherwise it ends with status 0 and prints a line about the message, and then
    JSON text that is read back as a report of it.  Texts of the draft show there
    as they are, and of a body the bytes are counted. -/
theorem report_of_draft {arguments : List String} {draft : Draft}
    (hdraft : Draft.ofArguments arguments = .ok draft) (s : Surroundings) (later : Int64) :
    let outcome := Outcome.ofArguments arguments s later
    (outcome.exitCode = 2 ∧ outcome.output = "" ↔
      ∃ fault, (draft.compose s).value = .error fault) ∧
    ∀ m, (draft.compose s).value = .ok m →
      outcome.exitCode = 0 ∧
      ∃ report text, outcome.output = m.summary ++ "\n" ++ text ++ "\n" ∧
        text = report.pretty ∧ Json.read? text = some report ∧ report.Reports m later ∧
        (∀ name given, (name, some given) ∈ draft.reportedTexts →
          report.field? name = some (.string given)) ∧
        ∀ body, draft.text = some body →
          report.field? "bodyLength" = some (.number (body.utf8ByteSize : Int)) := by
  intro outcome
  rcases hcompose : (draft.compose s).value with fault | m
  · have houtcome : outcome = .faulty fault := ofArguments_of_fault hdraft later hcompose
    refine ⟨⟨fun _ => ⟨fault, rfl⟩, fun _ => ?_⟩, fun _ h => nomatch h⟩
    rw [houtcome]
    exact ⟨rfl, rfl⟩
  · have houtcome := ofArguments_of_composed hdraft later hcompose
    generalize hsent : ({ m with kind := some .telemetry } : Message) = sent at houtcome
    have hreports : (sent.details (sent.checkExpiry later).value).Reports m later :=
      hsent ▸ m.reports_details later
    have hsummary : sent.summary = m.summary := hsent ▸ rfl
    have hexit : outcome.exitCode = 0 := congrArg exitCode houtcome
    have hprinted : outcome.output = sent.summary ++ "\n" ++
        (sent.details (sent.checkExpiry later).value).pretty ++ "\n" := congrArg output houtcome
    rw [hsummary] at hprinted
    obtain ⟨-, rfl⟩ := (Draft.compose_eq_ok_iff m).1 hcompose
    refine ⟨⟨fun h => ?_, fun ⟨_, h⟩ => nomatch h⟩, ?_⟩
    · exact absurd (hexit.symm.trans h.1) (by decide)
    rintro _ ⟨⟩
    exact ⟨hexit, _, _, hprinted, rfl, Json.read?_pretty _, hreports,
      fun _ _ => Draft.field?_of_reportedTexts hreports,
      fun _ => Draft.bodyLength_of_text hreports⟩

/-- A command line with quotes, a line break and a letter of two bytes in its
    texts, an option that is given as the empty text, and an expiry that has
    passed. -/
theorem report_of_draft_given_empty :
    let arguments :=
      ["--text", "\"é\n", "--output-name", "", "-P", "a\"=\n", "--expires-at-ms", "5"]
    let draft : Draft :=
      { text := some "\"é\n"
        outputName := some ""
        properties := [⟨"a\"", "\n"⟩]
        expiresAt := some 5 }
    let s : Surroundings := ⟨5, ⟨0, 0, by decide, by decide⟩, ⟨"a", "b"⟩⟩
    Draft.ofArguments arguments = .ok draft ∧
      (Outcome.ofArguments arguments s 6).exitCode = 0 ∧
      ∃ report text, (Outcome.ofArguments arguments s 6).output =
          " Message details: Correlation Id [b] Message Id [a] \n" ++ text ++ "\n" ∧
        Json.read? text = some report ∧
        report.field? "outputName" = some (.string "") ∧
        report.field? "bodyLength" = some (.number 4) ∧
        report.field? "expired" = some (.bool true) := by
  intro arguments draft s
  have hdraft : Draft.ofArguments arguments = .ok draft := by decide +kernel
  obtain ⟨-, hreport⟩ := report_of_draft hdraft s 6
  have hcompose : (draft.compose s).value = .ok (draft.message s) :=
    (Draft.compose_eq_ok_iff _).2 ⟨by decide, rfl⟩
  obtain ⟨hexit, report, text, hprinted, -, hread, hreports, htexts, hbody⟩ := hreport _ hcompose
  refine ⟨hdraft, hexit, report, text, ?_, hread, htexts _ _ (by decide), hbody _ rfl, ?_⟩
  · exact hprinted
  · obtain ⟨answer, hanswer, hpast⟩ := hreports.expired
    rw [hanswer, hpast.2 ⟨by decide, by decide⟩]

end Outcome

end DeviceMail
