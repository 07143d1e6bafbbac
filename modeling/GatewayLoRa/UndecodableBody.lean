/-
  What `DecrypterBase64` reports about a body it cannot decode: NOTHING.

  The return value of `mbedtls_base64_decode` is logged and the handler goes on.  It decrypts the
  first `sizeOfMessage` bytes of its own buffer, whatever an earlier message left there, reads a
  padding count before the end of what was decoded, and copies the rest over the body.  The only
  status it ever returns is the one of a processed message; where nothing was decoded it does not
  even return, because the padding count is read before the buffer.

  `decrypter_outcome` says this for every body.  So a body that does not decode to whole blocks is
  never reported (`reportsUndecodable_iff`): the handler keeps its promise exactly on the bodies
  on which the promise asks nothing.
-/

import GatewayLoRa.AuthenticatedFrames

namespace GatewayLoRa

open CMemory

/-! ## Bodies that decode

  What the cipher can have written: some blocks, and nothing else. -/

/-- The body decodes to at least one whole block, and to whole blocks only. -/
def Decodes (P : Primitives) (body : Bytes) : Prop :=
  ∃ d, P.base64Decode body = some d ∧ d ≠ [] ∧ 16 ∣ d.length

/-- The handler never reports: it leaves its buffers, or calls the message processed. -/
theorem decrypter_outcome {P : Primitives} {mem : Mem receptionBufferSize} {body : Bytes}
    (h : Holds mem.message body) :
    ¬ Safe (DecrypterBase64.handleMessage P none mem receptionBufferSize) ∨
      ∃ mem', DecrypterBase64.handleMessage P none mem receptionBufferSize
        = .ok (.processed, mem') := by
  cases hdec : P.base64Decode body with
  | none => exact Or.inl (decrypter_wraps h (Or.inl hdec))
  | some d =>
    by_cases hne : d = []
    · subst hne
      exact Or.inl (decrypter_wraps h (Or.inr hdec))
    · exact Or.inr (decrypter_safe h hdec hne)

/-! ## What is owed

  Two promises, of the handler and of the gateway.  The second is asked of all strings that
  authenticate and have the body, so it does not depend on how they were made. -/

/-- **An undecodable body is reported**: the handler calls a message processed only if its body
    decodes; for any other body it returns an error and leaves the body as it was. -/
def DecrypterReports (P : Primitives) (mem : Mem receptionBufferSize) (body : Bytes) : Prop :=
  (∀ mem', DecrypterBase64.handleMessage P none mem receptionBufferSize
    = .ok (.processed, mem') → Decodes P body) ∧
  (¬ Decodes P body → ∃ (st : MessageHandlerStatus) (mem' : Mem receptionBufferSize), st.IsError ∧
    DecrypterBase64.handleMessage P none mem receptionBufferSize = .ok (st, mem') ∧
    Holds mem'.message body)

/-- The gateway reports it too: for every received string that authenticates and has this body,
    `processLoRaMessage` returns true only if the body decodes, and otherwise false, with the body
    left in the buffer. -/
def GatewayReports (P : Primitives) (body : Bytes) : Prop :=
  ∀ (uninit : UInt32) (mem : Mem receptionBufferSize) (r : Bytes), Holds mem.message r →
    40 ≤ r.length → Authentic P uninit r → textOf r = body →
    (∀ mem', processLoRaMessage P uninit mem receptionBufferSize = .ok (true, mem') →
      Decodes P body) ∧
    (¬ Decodes P body → ∃ mem',
      processLoRaMessage P uninit mem receptionBufferSize = .ok (false, mem') ∧
        Holds mem'.message body)

/-- A body that does not decode is not reported. -/
theorem not_decrypterReports {P : Primitives} {mem : Mem receptionBufferSize} {body : Bytes}
    (h : Holds mem.message body) (hbad : ¬ Decodes P body) : ¬ DecrypterReports P mem body := by
  rintro ⟨-, herror⟩
  obtain ⟨st, mem', hst, hrun, -⟩ := herror hbad
  rcases decrypter_outcome (P := P) h with hfault | ⟨mem'', hok⟩
  · exact hfault ⟨_, hrun⟩
  · obtain ⟨rfl, -⟩ := Prod.mk.inj (Except.ok.inj (hrun.symm.trans hok))
    exact hst.2 rfl

/-- **Undecodable bodies are reported if and only if the body at hand is not one.** -/
theorem reportsUndecodable_iff (P : Primitives) (mem : Mem receptionBufferSize) (body : Bytes)
    (h : Holds mem.message body) :
    DecrypterReports P mem body ∧ GatewayReports P body ↔ Decodes P body := by
  constructor
  · rintro ⟨hreports, -⟩
    by_cases hdec : Decodes P body
    · exact hdec
    · exact absurd hreports (not_decrypterReports h hdec)
  -- a body that decodes asks nothing of the error path
  · intro hdec
    refine ⟨⟨fun _ _ => hdec, fun hbad => absurd hdec hbad⟩, ?_⟩
    intro uninit rx r _ _ _ _
    exact ⟨fun _ _ => hdec, fun hbad => absurd hdec hbad⟩

/-! ## A body of three bytes

  One body for each side. -/

/-- The encoding of `ACK`, which no block cipher wrote. -/
def ackBody : Bytes := ascii "QUNL"

/-- The encoding of one block of zeros. -/
def blockBody : Bytes := ascii "AAAAAAAAAAAAAAAAAAAAAA=="

/-- A body that decodes keeps the promise, which asks nothing of it. -/
theorem blockBody_reported :
    DecrypterReports .reference (Mem.holding receptionBufferSize blockBody) blockBody ∧
      GatewayReports .reference blockBody :=
  (reportsUndecodable_iff .reference (Mem.holding receptionBufferSize blockBody) blockBody
    (holds_cstring (by decide) (by decide))).mpr
      ⟨List.replicate 16 0, by decide, by decide, by decide⟩

/-- Three bytes are decoded of it, less than a block. -/
theorem ackBody_decoded : Primitives.reference.base64Decode ackBody = some (ascii "ACK") := by
  decide

/-- **Three decoded bytes are called a processed message.** -/
theorem ackBody_processed :
    Holds (Mem.holding receptionBufferSize ackBody).message ackBody ∧
      ¬ Decodes .reference ackBody ∧
      (∃ mem', DecrypterBase64.handleMessage .reference none
        (Mem.holding receptionBufferSize ackBody) receptionBufferSize = .ok (.processed, mem')) ∧
      ¬ (DecrypterReports .reference (Mem.holding receptionBufferSize ackBody) ackBody ∧
        GatewayReports .reference ackBody) := by
  have hheld : Holds (Mem.holding receptionBufferSize ackBody).message ackBody :=
    holds_cstring (by decide) (by decide)
  have hbad : ¬ Decodes .reference ackBody := by
    rintro ⟨d, hd, -, hdvd⟩
    obtain rfl := Option.some.inj (ackBody_decoded.symm.trans hd)
    exact absurd hdvd (by decide)
  refine ⟨hheld, hbad, decrypter_safe hheld ackBody_decoded (by decide), ?_⟩
  exact fun hreports => not_decrypterReports hheld hbad hreports.1

end GatewayLoRa
