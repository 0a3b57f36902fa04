/-
  DeviceMail — bodies in base64.

  * `Draft.ofText` and `Draft.ofEncoded` give a draft the same body in the two
    ways, in place of the one it has;
  * `faults_ofEncoded`: nothing is wrong with one of them that is not wrong with
    the other;
  * `compose_ofText_ofEncoded`: they come to the same message, but for the
    content encoding that a text implies;
  * `body_of_base64`: the body of a message is what its base64 encodes, and the
    encoding of that body is all that a message is composed from.
-/
import DeviceMail.Proofs.Base64
import DeviceMail.Proofs.Composition

namespace DeviceMail.Draft

/-- The draft with a text for its body. -/
def ofText (draft : Draft) (text : String) : Draft :=
  { draft with text := some text, base64 := none }

/-- The draft with the bytes of a text for its body, in base64. -/
def ofEncoded (draft : Draft) (text : String) : Draft :=
  { draft with text := none, base64 := some (Base64.asText (Base64.encode (Text.utf8 text))) }

section
variable (draft : Draft) (text : String)

theorem bodyFaults_ofEncoded : (draft.ofEncoded text).bodyFaults = [] := by
  simp [bodyFaults, ofEncoded, Base64.decodeText_encode]

/-- The two bodies have no fault, and the other faults are those of the draft. -/
theorem faults_ofEncoded : (draft.ofEncoded text).faults = (draft.ofText text).faults := by
  have htext : (draft.ofText text).bodyFaults = [] := rfl
  rw [faults, faults, bodyFaults_ofEncoded, htext]
  rfl

theorem body?_ofEncoded : (draft.ofEncoded text).body? = (draft.ofText text).body? := by
  simp [body?, ofEncoded, ofText, Base64.decodeText_encode, Except.toOption]

variable (s : Surroundings)

/-- The messages differ at most in their content encoding. -/
theorem message_ofEncoded :
    (draft.ofEncoded text).message s =
      { (draft.ofText text).message s with
        contentEncoding := ((draft.ofEncoded text).message s).contentEncoding } := by
  rw [message, message, body?_ofEncoded]
  rfl

theorem records_ofEncoded : (draft.ofEncoded text).records s = (draft.ofText text).records s := by
  rw [records, records, message_ofEncoded]
  rfl

/-- Only an encoding that is implied differs: one that is named or that a
    security message has stands above it. -/
theorem contentEncoding_ofEncoded :
    if draft.contentEncoding = none ∧ draft.security = false then
      ((draft.ofText text).message s).contentEncoding = some "utf-8" ∧
        ((draft.ofEncoded text).message s).contentEncoding = none
    else
      ((draft.ofText text).message s).contentEncoding =
        ((draft.ofEncoded text).message s).contentEncoding := by
  cases hs : draft.security with
  | true => simp [message, ofText, ofEncoded, hs]
  | false =>
    cases he : draft.contentEncoding with
    | none => simp [message, ofText, ofEncoded, hs, he]
    | some encoding => simp [message, ofText, ofEncoded, hs, he]

end

/-- **A text and the base64 of its bytes come to the same message.**  Both drafts
    are refused for the same fault, or both give a message, and then the messages
    agree in all but the content encoding: this one is `utf-8` for the text and
    absent for the bytes, unless the draft names an encoding or makes a security
    message.  What is logged is the same. -/
theorem compose_ofText_ofEncoded (draft : Draft) (text : String) (s : Surroundings) :
    ((∃ fault, ((draft.ofText text).compose s).value = .error fault ∧
        ((draft.ofEncoded text).compose s).value = .error fault) ∨
      ∃ m n : Message, ((draft.ofText text).compose s).value = .ok m ∧
        ((draft.ofEncoded text).compose s).value = .ok n ∧
        n = { m with contentEncoding := n.contentEncoding } ∧
        if draft.contentEncoding = none ∧ draft.security = false then
          m.contentEncoding = some "utf-8" ∧ n.contentEncoding = none
        else m.contentEncoding = n.contentEncoding) ∧
    ((draft.ofText text).compose s).records = ((draft.ofEncoded text).compose s).records := by
  have hfaults := draft.faults_ofEncoded text
  rcases h : (draft.ofText text).faults with _ | ⟨fault, rest⟩
  · rw [h] at hfaults
    rw [compose_of_faultless h, compose_of_faultless hfaults]
    exact ⟨Or.inr ⟨_, _, rfl, rfl, draft.message_ofEncoded text s,
      draft.contentEncoding_ofEncoded text s⟩, (draft.records_ofEncoded text s).symm⟩
  · rw [h] at hfaults
    rw [compose_of_fault h, compose_of_fault hfaults]
    exact ⟨Or.inl ⟨fault, rfl, rfl⟩, rfl⟩

/-! ## Bodies in base64 -/

section
variable {draft : Draft} {encoded : String} {bytes : List UInt8}

theorem bodyFaults_of_base64 (htext : draft.text = none) (hbase64 : draft.base64 = some encoded) :
    draft.bodyFaults = [] ↔ ∃ bytes, Base64.decodeText encoded = .ok bytes := by
  rcases hdecode : Base64.decodeText encoded with fault | bytes
  · simp [bodyFaults, htext, hbase64, hdecode]
  · simp [bodyFaults, htext, hbase64, hdecode]

theorem body?_of_base64 (htext : draft.text = none) (hbase64 : draft.base64 = some encoded)
    (hdecode : Base64.decodeText encoded = .ok bytes) : draft.body? = some bytes := by
  simp [body?, htext, hbase64, hdecode, Except.toOption]

theorem decodeText_of_encoding
    (h : encoded = Base64.asText (Base64.encode bytes) ∨
      encoded = Base64.asText (Base64.encodeUnpadded bytes)) :
    Base64.decodeText encoded = .ok bytes := by
  rcases h with rfl | rfl
  · exact Base64.decodeText_encode bytes
  · exact Base64.decodeText_encodeUnpadded bytes

/-- **A base64 body is the bytes it encodes, and only their encoding gives them.**
    A draft with no other fault and an encoding for its body, with padding or
    without, is composed, and the message has the bytes encoded.  Conversely a
    text that a message was composed from has, before its padding, the symbols of
    that message's body and nothing else: each is from the alphabet, none is
    alone in its quad, and the padding is at most what completes the last quad. -/
theorem body_of_base64 (htext : draft.text = none) (hbase64 : draft.base64 = some encoded)
    (s : Surroundings) :
    (draft.clientFaults = [] → draft.expiryFaults = [] → ∀ bytes,
      encoded = Base64.asText (Base64.encode bytes) ∨
        encoded = Base64.asText (Base64.encodeUnpadded bytes) →
      ∃ m, (draft.compose s).value = .ok m ∧ m.body = some bytes) ∧
    ∀ m, (draft.compose s).value = .ok m →
      ∃ bytes, m.body = some bytes ∧
        Base64.symbolsOf encoded = (Base64.asText (Base64.encodeUnpadded bytes)).toList ∧
        (∀ c ∈ Base64.symbolsOf encoded, c ∈ Base64.alphabet) ∧
        (Base64.symbolsOf encoded).length % 4 ≠ 1 ∧ encoded.length % 4 ≠ 1 ∧
        ∃ p ≤ (4 - (Base64.symbolsOf encoded).length % 4) % 4,
          encoded.toList = Base64.symbolsOf encoded ++ List.replicate p '=' := by
  constructor
  · intro hclient hexpiry bytes hencoded
    have hdecode := decodeText_of_encoding hencoded
    have hbody := (bodyFaults_of_base64 htext hbase64).2 ⟨bytes, hdecode⟩
    have hfaults : draft.faults = [] := by rw [faults, hbody, hclient, hexpiry]; rfl
    exact ⟨draft.message s, (compose_eq_ok_iff _).2 ⟨hfaults, rfl⟩,
      body?_of_base64 htext hbase64 hdecode⟩
  · intro m hm
    obtain ⟨hfaults, rfl⟩ := (compose_eq_ok_iff m).1 hm
    have hbody := (List.append_eq_nil_iff.1 (List.append_eq_nil_iff.1 hfaults).1).1
    obtain ⟨bytes, hdecode⟩ := (bodyFaults_of_base64 htext hbase64).1 hbody
    obtain ⟨hsymbols, halphabet, hlone, p, hp, hpadded⟩ := Base64.symbolsOf_of_decodeText hdecode
    refine ⟨bytes, body?_of_base64 htext hbase64 hdecode, hsymbols, halphabet, hlone, ?_, p, hp,
      hpadded⟩
    -- padding completes a quad, so it leaves no single character either
    rw [← String.length_toList, hpadded, List.length_append, List.length_replicate]
    omega

/-- Four bytes with the values at both ends of a byte, and their encoding without
    padding; the draft sets an expiry and a client as well. -/
theorem body_of_base64_unpadded :
    let draft : Draft := { base64 := some "AH+A/w", device := some "pump", expiresIn := some 5 }
    let s : Surroundings := ⟨5, ⟨0, 0, by decide, by decide⟩, ⟨"a", "b"⟩⟩
    (∃ m, (draft.compose s).value = .ok m ∧ m.body = some [0, 127, 128, 255]) ∧
      Base64.symbolsOf "AH+A/w" = "AH+A/w".toList := by
  intro draft s
  have hencoded : "AH+A/w" = Base64.asText (Base64.encodeUnpadded [0, 127, 128, 255]) := by decide
  obtain ⟨hread, hexact⟩ := @body_of_base64 draft "AH+A/w" rfl rfl s
  obtain ⟨m, hm, hbody⟩ := hread (by decide) (by decide) _ (Or.inr hencoded)
  refine ⟨⟨m, hm, hbody⟩, ?_⟩
  obtain ⟨bytes, hbytes, hsymbols, -⟩ := hexact m hm
  obtain rfl : [0, 127, 128, 255] = bytes := Option.some.inj (hbody.symm.trans hbytes)
  rw [hsymbols, ← hencoded]

end

end DeviceMail.Draft
