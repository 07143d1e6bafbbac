/-
  Which received strings `Gateway::processLoRaMessage` handles INSIDE its buffers.

  The verifiers strip a trailer each and hand the rest on: `ChecksumVerifier` checks that there
  are 8 bytes of checksum, `AuthenticationVerifier` assumes that 32 more stand before them, and
  `DecrypterBase64` reads the byte before the end of whatever was decoded.  Nothing in between
  checks the second and the third, so a string can pass the first handler and be too short for
  the second, or authenticate and decode to nothing.

  The handlers also leave their arrays where they only mean to print.  `AuthenticationVerifier`
  writes the HMAC that it has calculated to the debug port with `strlen`, 32 bytes that nothing
  terminates; `DecrypterBase64` writes the decoded bytes so, and the decoder puts no NUL behind
  them.  The first walk ends inside only if the HMAC happens to have a zero byte, the second only
  if one was decoded or is still there from an earlier message.

  The proof follows the chain case by case, one lemma for each way a string can go.  A fault of
  the handlers without their writes is one of the handlers with them
  (`verifierChainInFull_agrees`); in the other direction each write is shown to be harmless where
  the array that it walks holds a NUL.  `handledInBounds_iff` puts the cases together.
-/

import GatewayLoRa.HMAC
import GatewayLoRa.MessageHandler

namespace GatewayLoRa

open CMemory

/-! ## The parts of a received string

  A string is cut from behind, as the verifiers cut it. -/

/-- The last 8 bytes: the checksum in hexadecimal. -/
def crcTrailer (r : Bytes) : Bytes := r.drop (r.length - 8)

/-- What the checksum is computed over. -/
def crcBody (r : Bytes) : Bytes := r.take (r.length - 8)

/-- The 32 bytes before the checksum: the received HMAC. -/
def tagOf (r : Bytes) : Bytes := (crcBody r).drop ((crcBody r).length - 32)

/-- What the HMAC is computed over: the encrypted text. -/
def textOf (r : Bytes) : Bytes := (crcBody r).take ((crcBody r).length - 32)

/-- The parts make up the string, -/
theorem crcBody_append_crcTrailer (r : Bytes) : crcBody r ++ crcTrailer r = r :=
  List.take_append_drop _ r

/-- and its body. -/
theorem textOf_append_tagOf (r : Bytes) : textOf r ++ tagOf r = crcBody r :=
  List.take_append_drop _ _

/-- Their lengths, where the string is long enough: -/
theorem length_crcTrailer {r : Bytes} (h : 8 ≤ r.length) : (crcTrailer r).length = 8 := by
  rw [crcTrailer, List.length_drop]
  omega

/-- what the checksum covers, -/
theorem length_crcBody (r : Bytes) : (crcBody r).length = r.length - 8 := by
  rw [crcBody, List.length_take]
  omega

/-- the HMAC, -/
theorem length_tagOf {r : Bytes} (h : 40 ≤ r.length) : (tagOf r).length = 32 := by
  rw [tagOf, List.length_drop, length_crcBody]
  omega

/-- and the text. -/
theorem length_textOf (r : Bytes) : (textOf r).length = r.length - 40 := by
  rw [textOf, List.length_take, length_crcBody]
  omega

/-! ## The ways through the chain

  The two faults that the handlers have without their writes.  Both are underflows of `size_t`. -/

/-- The size of `processedMessageReceived`, the `sizeOfMessage` that `WaitingForMessage` passes. -/
abbrev receptionBufferSize : Nat := 2048

section Ways

variable {P : Primitives} {uninit : UInt32} {mem : Mem receptionBufferSize} {r : Bytes}

/-- The array is far smaller than the range of its indices. -/
theorem receptionBufferSize_lt : receptionBufferSize < sizeRange := by
  rw [sizeRange_eq]
  decide

/-- A string with the right checksum and fewer than 40 bytes makes `packetSize - 32` wrap. -/
theorem verifierChain_wraps (h : Holds mem.message r) (hr : 8 ≤ r.length) (hshort : r.length < 40)
    (hc : ChecksumMatches P uninit (crcBody r) (crcTrailer r)) :
    ¬ Safe (verifierChain P uninit mem receptionBufferSize) := by
  rw [← crcBody_append_crcTrailer r] at h
  obtain ⟨m, hm, heq⟩ := ChecksumVerifier.accept h (length_crcTrailer hr) hc
  rw [verifierChain, heq]
  exact AuthenticationVerifier.fault hm (by rw [length_crcBody]; omega) receptionBufferSize_lt

/-- A text that decodes to nothing makes `decoded_len - 1` wrap. -/
theorem decrypter_wraps (h : Holds mem.message r)
    (hd : P.base64Decode r = none ∨ P.base64Decode r = some []) :
    ¬ Safe (DecrypterBase64.handleMessage P none mem receptionBufferSize) :=
  DecrypterBase64.fault h hd (k := 128) rfl (by decide)

/-- A text that decodes to at least one byte is decrypted inside the buffers. -/
theorem decrypter_safe (h : Holds mem.message r) {d : Bytes} (hd : P.base64Decode r = some d)
    (hne : d ≠ []) :
    ∃ mem', DecrypterBase64.handleMessage P none mem receptionBufferSize
      = .ok (.processed, mem') := by
  have hlen := h.length_lt
  have hdlen := P.base64Decode_length r d hd
  have hbuf : receptionBufferSize ≤ decodedBufferSize := by decide
  obtain ⟨m, b, -, -, -, heq⟩ := DecrypterBase64.spec none h hd hne (by omega) (k := 128)
    rfl (by decide) (by decide) (Nat.le_refl _)
  exact ⟨_, heq⟩

end Ways

/-! ## The walks of the debug writes

  A walk is harmless where the array has a NUL, and leaves the array where it has none.  Every array
  but two holds a string when it is written. -/

/-- A NUL anywhere ends the walk; -/
theorem debugWrite_of_mem {m : Nat} {b : CArray m} (h : (0 : UInt8) ∈ b.1) :
    debugWrite b = .ok () := by
  unfold debugWrite strlen
  rw [if_pos h]
  rfl

/-- without one it leaves the array. -/
theorem debugWrite_of_not_mem {m : Nat} {b : CArray m} (h : (0 : UInt8) ∉ b.1) :
    debugWrite b = .error .unterminated := by
  unfold debugWrite strlen
  rw [if_neg h]
  rfl

/-- A string has one. -/
theorem debugWrite_of_holds {m : Nat} {b : CArray m} {s : Bytes} (h : Holds b s) :
    debugWrite b = .ok () := by
  apply debugWrite_of_mem
  obtain ⟨-, t, ht⟩ := h
  rw [ht]
  simp

section Walks

variable {P : Primitives} {texts : DebugTexts} {n size : Nat} {mem : Mem n}
variable {next : Option (Handler n)}

/-- `ChecksumVerifier` only writes strings. -/
theorem ChecksumVerifier.inFull_of_holds {uninit : UInt32} {r : Bytes} (h : Holds mem.message r) :
    handleMessageInFull P texts uninit next mem size = handleMessage P uninit next mem size := by
  rcases Nat.lt_or_ge r.length 8 with hr | hr
  · simp only [handleMessageInFull, handleMessage, h.strlen, ok_bind, if_pos hr]
  · rw [← crcBody_append_crcTrailer r] at h
    have ht := length_crcTrailer hr
    have htrailer := h.readRange_suffix
    rw [ht] at htrailer
    have hlen : (crcBody r ++ crcTrailer r).length = (crcBody r).length + 8 := by
      rw [List.length_append, ht]
    obtain ⟨m, hw, hm⟩ := h.truncate
    have hge : ¬ (crcBody r).length + 8 < 8 := by omega
    simp only [handleMessageInFull, handleMessage, h.strlen, ok_bind, hlen, if_neg hge,
      Nat.add_sub_cancel, htrailer, h.readRange_prefix, hw, debugWrite_of_holds hm]
    cases P.crc (crcBody r) with
    | none => rfl
    | some crc =>
      obtain ⟨s₁, hs₁, hnul₁⟩ := snprintf_terminated (by decide) texts.crcString
        (crcText (ascii "Received") (receivedCRC uninit (crcTrailer r)))
      obtain ⟨s₂, hs₂, hnul₂⟩ := snprintf_terminated (by decide) s₁
        (crcText (ascii "Calculated") crc)
      simp only [hs₁, hs₂, ok_bind, debugWrite_of_mem hnul₁, debugWrite_of_mem hnul₂]

/-- `AuthenticationVerifier` also writes the HMAC, which only a zero byte terminates. -/
theorem AuthenticationVerifier.inFull_split {body tag : Bytes}
    (h : Holds mem.message (body ++ tag)) (ht : tag.length = 32) (hn : n < sizeRange) :
    ∃ message, Holds message body ∧ handleMessageInFull P next mem size =
      if (0 : UInt8) ∈ (P.hmac hmacKey body).1 then
        if tag = hmacTag P body then pass next { mem with message } size
        else .ok (.authentificationMissmatch, { mem with message })
      else .error .unterminated := by
  obtain ⟨m, hw, hm⟩ := h.truncate
  refine ⟨m, hm, ?_⟩
  have hlt := h.length_lt
  have hsum : (body ++ tag).length = body.length + 32 := by rw [List.length_append, ht]
  have hoff : sizeSub (body.length + 32) 32 = body.length := by
    rw [sizeSub_of_le (by omega) (by omega), Nat.add_sub_cancel]
  have htag := h.readRange_suffix
  rw [ht] at htag
  have hbody := Holds.readRange_prefix (p := body) (s := []) (by simpa using hm)
  simp only [handleMessageInFull, h.strlen, ok_bind, hsum, hoff, debugWrite_of_holds h, htag, hw,
    debugWrite_of_holds hm, hm.strlen, hbody]
  by_cases hnul : (0 : UInt8) ∈ (P.hmac hmacKey body).1
  · rw [debugWrite_of_mem hnul, if_pos hnul]
    rfl
  · rw [debugWrite_of_not_mem hnul, if_neg hnul]
    rfl

/-- `DecrypterBase64` does what it does without its writes, if a NUL is in the buffer of the decoded
    bytes: the other arrays that it writes are terminated by itself. -/
theorem DecrypterBase64.inFull_of_terminated {text d : Bytes} (h : Holds mem.message text)
    (hd : P.base64Decode text = some d) (hdlen : d.length ≤ decodedBufferSize)
    (hnul : (0 : UInt8) ∈ loaded mem d) :
    Agrees (handleMessage P next mem size) (handleMessageInFull P texts next mem size) := by
  have hread := Holds.readRange_prefix (p := text) (s := []) (by simpa using h)
  obtain ⟨buf, hw, hbuf⟩ := writeRange_eq mem.base64Decoded (i := 0) (x := d) (by omega)
  have hdecode : decode P mem text = .ok (d.length, buf) := by
    simp only [decode, hd, if_pos hdlen, hw, ok_bind]
  have hlog : logError P texts text = .ok () := by
    simp [logError, decodeRet, hd, if_pos hdlen]
  have hnul : (0 : UInt8) ∈ buf.1 := by
    rw [hbuf]
    simpa [loaded] using hnul
  simp only [handleMessage, handleMessageInFull, h.strlen, ok_bind, hread, hdecode, hlog,
    debugWrite_of_mem hnul]
  refine (Agrees.refl _).bind fun data _ => (Agrees.refl _).bind fun base64Decoded _ => ?_
  refine (Agrees.refl _).bind fun padding _ => (Agrees.refl _).bind fun data _ => ?_
  -- the message ends with the NUL that has just been written
  refine (Agrees.refl _).bind fun message hmessage => ?_
  rw [debugWrite_of_mem (mem_of_writeRange hmessage (by simp)), ok_bind]
  exact Agrees.refl _

/-- And it leaves that buffer if there is none. -/
theorem DecrypterBase64.inFull_fault {text d : Bytes} (h : Holds mem.message text)
    (hd : P.base64Decode text = some d) (hdlen : d.length ≤ decodedBufferSize)
    (hnul : (0 : UInt8) ∉ loaded mem d) :
    ¬ Safe (handleMessageInFull P texts next mem size) := by
  have hread := Holds.readRange_prefix (p := text) (s := []) (by simpa using h)
  obtain ⟨buf, hw, hbuf⟩ := writeRange_eq mem.base64Decoded (i := 0) (x := d) (by omega)
  have hdecode : decode P mem text = .ok (d.length, buf) := by
    simp only [decode, hd, if_pos hdlen, hw, ok_bind]
  have hlog : logError P texts text = .ok () := by
    simp [logError, decodeRet, hd, if_pos hdlen]
  have hnul : (0 : UInt8) ∉ buf.1 := by
    rw [hbuf]
    simpa [loaded] using hnul
  simp only [handleMessageInFull, h.strlen, ok_bind, hread, hdecode, hlog,
    debugWrite_of_not_mem hnul, error_bind]
  exact not_safe_error _

end Walks

/-! ## The strings that are handled inside the buffers

  The cases of the chain, put together.  The condition names the calculated HMAC and the decoded
  bytes, which are functions of the string and of the buffer that an earlier message left; they are
  what the code's own arithmetic depends on. -/

/-- **What the verifiers owe a received string**: no index leaves its buffer, and a string too
    short for HMAC and checksum is refused with an error and left as it was. -/
def HandledInBounds (P : Primitives) (texts : DebugTexts) (uninit : UInt32)
    (mem : Mem receptionBufferSize) (r : Bytes) : Prop :=
  Safe (processLoRaMessageInFull P texts uninit mem receptionBufferSize) ∧
    (r.length < 40 → ∃ st : MessageHandlerStatus, st.IsError ∧
      verifierChainInFull P texts uninit mem receptionBufferSize = .ok (st, mem))

/-- The text decodes to something, and a NUL is among the decoded bytes or among those that an
    earlier message left behind them in the buffer. -/
def DecodedInBounds (P : Primitives) (mem : Mem receptionBufferSize) (text : Bytes) : Prop :=
  ∃ d, P.base64Decode text = some d ∧ d ≠ [] ∧ (0 : UInt8) ∈ DecrypterBase64.loaded mem d

/-- The strings the handlers are written for: the checksum is wrong, or there is room for the HMAC,
    a zero byte is in the one that is calculated, and the received one is wrong or the text decodes
    to something. -/
def WellSized (P : Primitives) (uninit : UInt32) (mem : Mem receptionBufferSize) (r : Bytes) :
    Prop :=
  (r.length < 8 ∨ ¬ ChecksumMatches P uninit (crcBody r) (crcTrailer r)) ∨
    (40 ≤ r.length ∧ (0 : UInt8) ∈ (P.hmac hmacKey (textOf r)).1 ∧
      (tagOf r ≠ hmacTag P (textOf r) ∨ DecodedInBounds P mem (textOf r)))

section Strings

variable {P : Primitives} {texts : DebugTexts} {uninit : UInt32} {mem : Mem receptionBufferSize}
variable {r : Bytes}

/-- What `processLoRaMessage` does with the status is safe. -/
theorem safe_processLoRaMessageInFull_iff :
    Safe (processLoRaMessageInFull P texts uninit mem receptionBufferSize) ↔
      Safe (verifierChainInFull P texts uninit mem receptionBufferSize) := by
  unfold processLoRaMessageInFull
  cases verifierChainInFull P texts uninit mem receptionBufferSize with
  | ok a => exact ⟨fun _ => safe_ok a, fun _ => safe_ok _⟩
  | error e => exact ⟨fun h => absurd h (not_safe_error e), fun h => absurd h (not_safe_error e)⟩

/-- The decrypter stays inside its buffers if and only if something is decoded and the walk over
    it ends. -/
theorem safe_decrypterInFull_iff (h : Holds mem.message r) :
    Safe (DecrypterBase64.handleMessageInFull P texts none mem receptionBufferSize) ↔
      DecodedInBounds P mem r := by
  have hagrees := DecrypterBase64.inFull_agrees P texts mem receptionBufferSize
  have hbuf : receptionBufferSize ≤ decodedBufferSize := by decide
  constructor
  · intro hsafe
    -- without its writes it decodes to something, and then the walk has an end
    have hplain := hagrees.safe hsafe
    cases hdec : P.base64Decode r with
    | none => exact absurd hplain (decrypter_wraps h (Or.inl hdec))
    | some d =>
      have hdlen := P.base64Decode_length r d hdec
      have hlen := h.length_lt
      by_cases hne : d = []
      · rw [hne] at hdec
        exact absurd hplain (decrypter_wraps h (Or.inr hdec))
      · by_cases hnul : (0 : UInt8) ∈ DecrypterBase64.loaded mem d
        · exact ⟨d, hdec, hne, hnul⟩
        · exact absurd hsafe (DecrypterBase64.inFull_fault h hdec (by omega) hnul)
  · rintro ⟨d, hdec, hne, hnul⟩
    have hdlen := P.base64Decode_length r d hdec
    have hlen := h.length_lt
    obtain ⟨mem', hok⟩ := decrypter_safe h hdec hne
    exact (DecrypterBase64.inFull_of_terminated h hdec (by omega) hnul).safe ⟨_, hok⟩

/-- A string that `ChecksumVerifier` refuses. -/
theorem verifierChainInFull_refused (h : Holds mem.message r)
    (hc : r.length < 8 ∨ ¬ ChecksumMatches P uninit (crcBody r) (crcTrailer r)) :
    ∃ st : MessageHandlerStatus, st.IsError ∧
      verifierChainInFull P texts uninit mem receptionBufferSize = .ok (st, mem) := by
  rw [verifierChainInFull, ChecksumVerifier.inFull_of_holds h]
  rcases Nat.lt_or_ge r.length 8 with hr | hr
  · exact ⟨_, ⟨by decide, by decide⟩, ChecksumVerifier.too_small h hr⟩
  · have hc := hc.resolve_left (by omega)
    rw [← crcBody_append_crcTrailer r] at h
    exact ChecksumVerifier.reject h (length_crcTrailer hr) hc

/-- A string with the right checksum and at least 40 bytes stays inside if and only if the HMAC can
    be written, and, once it is found right, the text can be decoded. -/
theorem safe_verifierChainInFull_iff (h : Holds mem.message r) (hr : 40 ≤ r.length)
    (hc : ChecksumMatches P uninit (crcBody r) (crcTrailer r)) :
    Safe (verifierChainInFull P texts uninit mem receptionBufferSize) ↔
      (0 : UInt8) ∈ (P.hmac hmacKey (textOf r)).1 ∧
        (tagOf r ≠ hmacTag P (textOf r) ∨ DecodedInBounds P mem (textOf r)) := by
  rw [verifierChainInFull, ChecksumVerifier.inFull_of_holds h]
  rw [← crcBody_append_crcTrailer r] at h
  obtain ⟨m, hm, heq⟩ := ChecksumVerifier.accept h (length_crcTrailer (by omega)) hc
  rw [← textOf_append_tagOf r] at hm
  let mem₁ : Mem receptionBufferSize := { mem with message := m }
  have hm : Holds mem₁.message (textOf r ++ tagOf r) := hm
  obtain ⟨m', hm', heq'⟩ : ∃ message, Holds message (textOf r) ∧
      AuthenticationVerifier.handleMessageInFull P
        (some (DecrypterBase64.handleMessageInFull P texts none)) mem₁ receptionBufferSize = _ :=
    AuthenticationVerifier.inFull_split hm (length_tagOf hr) receptionBufferSize_lt
  let mem₂ : Mem receptionBufferSize := { mem with message := m' }
  have hm' : Holds mem₂.message (textOf r) := hm'
  rw [heq]
  show Safe (AuthenticationVerifier.handleMessageInFull P _ mem₁ receptionBufferSize) ↔ _
  rw [heq']
  by_cases hnul : (0 : UInt8) ∈ (P.hmac hmacKey (textOf r)).1
  · rw [if_pos hnul]
    by_cases htag : tagOf r = hmacTag P (textOf r)
    · rw [if_pos htag]
      show Safe (DecrypterBase64.handleMessageInFull P texts none mem₂ receptionBufferSize) ↔ _
      rw [safe_decrypterInFull_iff hm']
      exact ⟨fun hdec => ⟨hnul, Or.inr hdec⟩, fun hdec => hdec.2.resolve_left (absurd htag)⟩
    · rw [if_neg htag]
      exact ⟨fun _ => ⟨hnul, Or.inl htag⟩, fun _ => safe_ok _⟩
  · rw [if_neg hnul]
    exact ⟨fun hsafe => absurd hsafe (not_safe_error _), fun hin => absurd hin.1 hnul⟩

end Strings

/-- **A received string is handled inside the buffers if and only if it is `WellSized`.** -/
theorem handledInBounds_iff (P : Primitives) (texts : DebugTexts) (uninit : UInt32)
    (mem : Mem receptionBufferSize) (r : Bytes) (h : Holds mem.message r) :
    HandledInBounds P texts uninit mem r ↔ WellSized P uninit mem r := by
  rw [HandledInBounds, safe_processLoRaMessageInFull_iff]
  -- the checksum verifier refuses the string, and nothing else is read
  by_cases hrefused : r.length < 8 ∨ ¬ ChecksumMatches P uninit (crcBody r) (crcTrailer r)
  · obtain ⟨st, hst, heq⟩ : ∃ st : MessageHandlerStatus, st.IsError ∧
        verifierChainInFull P texts uninit mem receptionBufferSize = .ok (st, mem) :=
      verifierChainInFull_refused h hrefused
    exact ⟨fun _ => Or.inl hrefused, fun _ => ⟨⟨_, heq⟩, fun _ => ⟨st, hst, heq⟩⟩⟩
  obtain ⟨hr, hc⟩ : 8 ≤ r.length ∧ ChecksumMatches P uninit (crcBody r) (crcTrailer r) := by
    rw [not_or, Nat.not_lt, Decidable.not_not] at hrefused
    exact hrefused
  rcases Nat.lt_or_ge r.length 40 with hshort | hlong
  · -- already without its writes `AuthenticationVerifier` reads before the array
    have hbad : ¬ Safe (verifierChainInFull P texts uninit mem receptionBufferSize) :=
      fun hsafe => verifierChain_wraps h hr hshort hc
        ((verifierChainInFull_agrees P texts uninit mem receptionBufferSize).safe hsafe)
    constructor
    · exact fun hsafe => absurd hsafe.1 hbad
    · rintro (hw | ⟨hw, -⟩)
      · exact absurd hw hrefused
      · omega
  rw [safe_verifierChainInFull_iff h hlong hc, WellSized]
  constructor
  · exact fun hin => Or.inr ⟨hlong, hin.1⟩
  · rintro (hw | hw)
    · exact absurd hw hrefused
    · exact ⟨hw.2, fun hlt => absurd hlt (by omega)⟩

/-! ## Three frames

  One that is handled inside, of which every handler accepts its part, and two that are not, for
  either reason. -/

/-- Arrays for the debug texts with nothing in them. -/
def DebugTexts.blank : DebugTexts := ⟨cstring 64 [], cstring 64 []⟩

/-- A text whose HMAC has a zero byte, with the HMAC and the checksum behind it. -/
def zeroByteFrame : Bytes :=
  ascii "TE9SQUxPUkEsMA==" ++
    [0xBB, 0xA0, 0xD5, 0x7C, 0x64, 0xE1, 0x22, 0xAB, 0xF4, 0xBC, 0xFB, 0x2E, 0x58, 0xD4, 0xC0, 0xC7,
      0x9B, 0xA5, 0x2D, 0x5D, 0xB6, 0x30, 0xE0, 0x91, 0x14, 0xF0, 0x25, 0x18, 0x10, 0xBA, 0xA0, 0x12] ++
    ascii "4CD1B30F"

/-- A text whose HMAC has no zero byte, and all the rest as it should be. -/
def noZeroByteFrame : Bytes :=
  ascii "TE9SQUxPUkEsMSwyLDMsMA==" ++
    [0xF2, 0x7A, 0x50, 0x57, 0x5E, 0x3F, 0x5F, 0x1E, 0x36, 0x65, 0xD7, 0x0E, 0xE1, 0x92, 0x73, 0xFF,
      0x9E, 0x68, 0x96, 0xF0, 0xA0, 0xE4, 0x38, 0xDB, 0x02, 0x50, 0x0A, 0xF8, 0xAB, 0x37, 0xAB, 0xE6] ++
    ascii "D7799FB6"

/-- Eight zeros: the checksum of the empty string, and nothing before it. -/
def eightZeros : Bytes := ascii "00000000"

/-- The first frame passes the checksum, authenticates and decodes, all inside the buffers. -/
theorem handledInBounds_zeroByteFrame :
    HandledInBounds Primitives.reference.withHMAC .blank 0
      (Mem.holding receptionBufferSize zeroByteFrame) zeroByteFrame :=
  (handledInBounds_iff Primitives.reference.withHMAC .blank 0
    (Mem.holding receptionBufferSize zeroByteFrame) zeroByteFrame
    (holds_cstring (by decide) (by decide))).mpr
      (Or.inr ⟨by decide, by decide +kernel, Or.inr ⟨ascii "LORALORA,0", by decide +kernel, by decide,
        by decide +kernel⟩⟩)

/-- The two stand in the array as strings. -/
theorem holds_eightZeros : Holds (Mem.holding receptionBufferSize eightZeros).message eightZeros :=
  holds_cstring (by decide) (by decide)

/-- A frame of 64 bytes, none of them zero. -/
theorem holds_noZeroByteFrame :
    Holds (Mem.holding receptionBufferSize noZeroByteFrame).message noZeroByteFrame :=
  holds_cstring (by decide) (by decide)

/-- **Eight zeros take `AuthenticationVerifier` out of its buffer**, and so does a frame that is
    right in every part, when the calculated HMAC is written to the debug port. -/
theorem frames_out_of_bounds :
    (Holds (Mem.holding receptionBufferSize eightZeros).message eightZeros ∧
      ¬ HandledInBounds Primitives.reference.withHMAC .blank 0
        (Mem.holding receptionBufferSize eightZeros) eightZeros) ∧
    (Holds (Mem.holding receptionBufferSize noZeroByteFrame).message noZeroByteFrame ∧
      ¬ HandledInBounds Primitives.reference.withHMAC .blank 0
        (Mem.holding receptionBufferSize noZeroByteFrame) noZeroByteFrame) := by
  refine ⟨⟨holds_eightZeros, fun hin => ?_⟩, ⟨holds_noZeroByteFrame, fun hin => ?_⟩⟩
  · have hsafe := safe_processLoRaMessageInFull_iff.mp hin.1
    exact verifierChain_wraps holds_eightZeros (by decide) (by decide) (by decide +kernel)
      ((verifierChainInFull_agrees _ .blank 0 _ receptionBufferSize).safe hsafe)
  · have hin := (safe_verifierChainInFull_iff holds_noZeroByteFrame (by decide)
      (by decide +kernel)).mp (safe_processLoRaMessageInFull_iff.mp hin.1)
    exact absurd hin.1 (by decide +kernel)

end GatewayLoRa
