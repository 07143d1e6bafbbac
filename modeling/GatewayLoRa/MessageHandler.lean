/-
  The message handlers: the CHAIN OF RESPONSIBILITY that turns a text into a radio frame body and
  a radio frame body back into a text.

  A handler works in place on the caller's `message` array and on its own base64 buffer, and ends
  by calling the next handler of the chain, if `setNextHandler` gave it one.  So a handler is a
  function `Mem n → Nat → Checked (MessageHandlerStatus × Mem n)` (the memory, `sizeOfMessage`),
  and the chain is nested application.  Every array access is checked: a run that ends in `.ok`
  is one in which every index the handlers computed was inside its buffer.

      prepareLoRaMessage : EncrypterBase64 → AuthenticationGenerator → ChecksumGenerator
      processLoRaMessage : ChecksumVerifier → AuthenticationVerifier → DecrypterBase64

  A handler also writes to the debug port, and there it walks arrays with `strlen`.  These writes
  change nothing that a handler computes, so each handler comes in two versions: `handleMessage`
  without them, for what becomes of a message, and for the three verifiers `handleMessageInFull`
  with them, for which indices they use.  The two agree wherever the second does not fault
  (`processLoRaMessageInFull_agrees`), and it does fault more often: two of the arrays that are
  written out have nothing that terminates them.

  For each handler one lemma says what it does to an array that holds a string, in terms of the
  string alone; nothing after this file looks inside a handler again.

  The crux is `Holds`: an array holds a string if the string and a NUL stand at its begin, whatever
  stands behind.  A handler finds the end of its input by `strlen` and leaves a string again, so
  what it does is a function of the string, and the array's other bytes matter only where the code
  takes more than the string.  It does so in one place, the padding of the plaintext, and there the
  specification says which bytes.
-/

import GatewayLoRa.AES
import GatewayLoRa.Lib.Stdio

namespace GatewayLoRa

open CMemory

/-! ## Statuses, memory, handlers

  The types of the chain, and its constants as the source has them.  The statuses that no modelled
  branch returns are there because `IsError` is about all of them. -/

/-- `MessageHandlerStatus_t`. -/
inductive MessageHandlerStatus
  | processingMessage
  | processed
  | errorNullPtr
  | errorPacketTooSmall
  | errorBufferTooSmall
  | checksumError
  | failToComputeChecksum
  | authentificationMissmatch
  deriving DecidableEq, Repr

/-- The statuses that report an error. -/
def MessageHandlerStatus.IsError (s : MessageHandlerStatus) : Prop :=
  s ≠ processingMessage ∧ s ≠ processed

/-- `MESSAGE_BUFFER_SIZE`. -/
abbrev messageBufferSize : Nat := 2500

/-- `MESSAGE_BUFFER_SIZE + BUFFER_SIZE_ADDITION_BASE64_ENCRYPION`. -/
abbrev encodedBufferSize : Nat := messageBufferSize + 548

/-- `MESSAGE_BUFFER_SIZE + BUFFER_SIZE_ADDITION_BASE64_DECRYPION`. -/
abbrev decodedBufferSize : Nat := messageBufferSize + 164

/-- The buffer is smaller than any index that an underflow of `size_t` gives. -/
theorem decodedBufferSize_lt : decodedBufferSize < sizeRange - 1 := by
  rw [sizeRange_eq]
  decide

/-- The arrays a chain of handlers works on: the caller's message, and the buffers that
    `EncrypterBase64` and `DecrypterBase64` own. -/
structure Mem (n : Nat) where
  message : CArray n
  base64Encoded : CArray encodedBufferSize
  base64Decoded : CArray decodedBufferSize

/-- The memory that holds a string, blank everywhere else. -/
def Mem.holding (n : Nat) (s : Bytes) : Mem n where
  message := cstring n s
  base64Encoded := cstring _ []
  base64Decoded := cstring _ []

/-- `handleMessage (message, sizeOfMessage)`. -/
abbrev Handler (n : Nat) := Mem n → Nat → Checked (MessageHandlerStatus × Mem n)

/-- The end of every handler: `nextHandler->handleMessage`, or the message is processed. -/
def pass {n : Nat} (next : Option (Handler n)) : Handler n := fun mem sizeOfMessage =>
  match next with
  | none => .ok (.processed, mem)
  | some handleMessage => handleMessage mem sizeOfMessage

/-- `HMAC_KEY_VALUE`. -/
def hmacKey : Bytes := ascii "KURRRVWWWWAAAAA"

/-- The AES key of `EncrypterBase64` and `DecrypterBase64`. -/
def aesKey : Bytes :=
  [0x60, 0x3D, 0xEB, 0x10, 0x15, 0xCA, 0x71, 0xBE, 0x2B, 0x73, 0xAE, 0xF0, 0x85, 0x7D, 0x77, 0x81,
   0x1F, 0x35, 0x2C, 0x07, 0x3B, 0x61, 0x08, 0xD7, 0x2D, 0x98, 0x10, 0xA3, 0x09, 0x14, 0xDF, 0xF4]

/-- Their initialisation vector. -/
def aesIv : Block :=
  ⟨[0x74, 0x11, 0xF0, 0x45, 0xD6, 0xA4, 0x3F, 0x69, 0x18, 0xC6, 0x75, 0x42, 0xDF, 0x4C, 0xA7, 0x84],
    rfl⟩

/-- The loop over `hmac[i]` that replaces every zero byte by the character `0`. -/
def replaceNul (b : Bytes) : Bytes := b.map fun c => if c = 0 then 48 else c

/-- The 32 bytes that authenticate a body. -/
def hmacTag (P : Primitives) (body : Bytes) : Bytes := replaceNul (P.hmac hmacKey body).1

variable {n : Nat} (P : Primitives)

/-! ## The generators

  `handleMessage` of the three handlers that build a frame.  The size that is passed along is that
  of the text, though the message grows with every handler; the second and the third measure the
  message themselves. -/

/-- `((sizeOfMessage + 15) / 16) * 16`. -/
def encryptedSize (sizeOfMessage : Nat) : Nat := (sizeOfMessage + 15) / 16 * 16

/-- `EncrypterBase64::handleMessage`: the message is encrypted in place, encoded into the buffer,
    and copied back. -/
def EncrypterBase64.handleMessage (next : Option (Handler n)) : Handler n :=
  fun mem sizeOfMessage => do
    let data ← readRange mem.message 0 (encryptedSize sizeOfMessage)
    let message ← writeRange mem.message 0 (AES.encrypt (P.aesEncrypt aesKey) aesIv data)
    let text := P.base64Encode (← readRange message 0 (encryptedSize sizeOfMessage))
    -- the encoder refuses a destination too small for the text and its NUL
    let base64Encoded ←
      if text.length + 1 ≤ encodedBufferSize then writeRange mem.base64Encoded 0 (text ++ [0])
      else .ok mem.base64Encoded
    let message ← strcpy message base64Encoded
    pass next { mem with message, base64Encoded } sizeOfMessage

/-- `AuthenticationGenerator::handleMessage`: the HMAC goes behind the message, without its zero
    bytes. -/
def AuthenticationGenerator.handleMessage (next : Option (Handler n)) : Handler n :=
  fun mem sizeOfMessage => do
    let messageLen ← strlen mem.message
    let body ← readRange mem.message 0 messageLen
    let message ← writeRange mem.message messageLen (hmacTag P body ++ [0])
    pass next { mem with message } sizeOfMessage

/-- `ChecksumGenerator::handleMessage`: so does the checksum, as eight digits. -/
def ChecksumGenerator.handleMessage (next : Option (Handler n)) : Handler n :=
  fun mem sizeOfMessage => do
    let messageLength ← strlen mem.message
    let body ← readRange mem.message 0 messageLength
    match P.crc body with
    | none => .ok (.failToComputeChecksum, mem)
    | some crc =>
      let crcStr := Stdio.hexText 8 crc.toNat
      if messageLength + crcStr.length ≥ 4000 then .ok (.failToComputeChecksum, mem)
      else
        let message ← writeRange mem.message messageLength (crcStr ++ [0])
        pass next { mem with message } sizeOfMessage

/-! ## The verifiers

  `handleMessage` of the three handlers that take a frame apart, from behind: the checksum, the
  HMAC, the text.  Each cuts what it has checked off with a NUL. -/

/-- What `receivedCRC` holds after `sscanf (trailer, "%8X", &receivedCRC)`, `uninit` before it. -/
def receivedCRC (uninit : UInt32) (trailer : Bytes) : UInt32 := (Stdio.scanHex 8 trailer).getD uninit

/-- `ChecksumVerifier::handleMessage`: the last eight characters are scanned, and compared with the
    checksum of the rest. -/
def ChecksumVerifier.handleMessage (uninit : UInt32) (next : Option (Handler n)) : Handler n :=
  fun mem sizeOfMessage => do
    let packetSize ← strlen mem.message
    if packetSize < 8 then .ok (.errorPacketTooSmall, mem)
    else
      let packetSize := packetSize - 8
      let trailer ← readRange mem.message packetSize 8
      let body ← readRange mem.message 0 packetSize
      match P.crc body with
      | none => .ok (.failToComputeChecksum, mem)
      | some calculatedCRC =>
        if calculatedCRC = receivedCRC uninit trailer then
          let message ← writeRange mem.message packetSize [0]
          pass next { mem with message } sizeOfMessage
        else .ok (.checksumError, mem)

/-- `AuthenticationVerifier::handleMessage`: the last 32 bytes are compared with the HMAC of the
    rest. -/
def AuthenticationVerifier.handleMessage (next : Option (Handler n)) : Handler n :=
  fun mem sizeOfMessage => do
    let packetSize ← strlen mem.message
    -- last 32 bytes: nothing checks that there are 32
    let hmacOffset := sizeSub packetSize 32
    let receivedHMAC ← readRange mem.message hmacOffset 32
    let message ← writeRange mem.message hmacOffset [0]
    let messageLen ← strlen message
    let body ← readRange message 0 messageLen
    if receivedHMAC = hmacTag P body then pass next { mem with message } sizeOfMessage
    else .ok (.authentificationMissmatch, { mem with message })

/-- `decoded_len` and the buffer after the call of `mbedtls_base64_decode` and its error branch. -/
def DecrypterBase64.decode (mem : Mem n) (text : Bytes) :
    Checked (Nat × CArray decodedBufferSize) := do
  match P.base64Decode text with
  | none => .ok (0, ← writeRange mem.base64Decoded 0 [0])
  | some d =>
    if d.length ≤ decodedBufferSize then .ok (d.length, ← writeRange mem.base64Decoded 0 d)
    else .ok (d.length, ← writeRange mem.base64Decoded d.length [0])

/-- `decoded_len` after the padding is taken off and the length is cut to the message. -/
def DecrypterBase64.strippedLen (decodedLen : Nat) (padding : UInt8) (sizeOfMessage : Nat) : Nat :=
  let decodedLen :=
    if 0 < padding.toNat ∧ padding.toNat ≤ 16 then sizeSub decodedLen padding.toNat else decodedLen
  if decodedLen < sizeOfMessage then decodedLen else sizeSub sizeOfMessage 1

/-- `DecrypterBase64::handleMessage`: the text is decoded, decrypted, and freed of its padding,
    which is what the last byte says if it says something between 1 and 16. -/
def DecrypterBase64.handleMessage (next : Option (Handler n)) : Handler n :=
  fun mem sizeOfMessage => do
    let len ← strlen mem.message
    let text ← readRange mem.message 0 len
    let (decodedLen, base64Decoded) ← DecrypterBase64.decode P mem text
    let data ← readRange base64Decoded 0 sizeOfMessage
    let base64Decoded ←
      writeRange base64Decoded 0 (AES.decrypt (P.aesDecrypt aesKey) aesIv data)
    -- last byte = padding quantity
    let padding ← readByte base64Decoded (sizeSub decodedLen 1)
    let decodedLen := DecrypterBase64.strippedLen decodedLen padding sizeOfMessage
    let data ← readRange base64Decoded 0 decodedLen
    let message ← writeRange mem.message 0 (data ++ [0])
    pass next { mem with message, base64Decoded } sizeOfMessage

/-! ## What each handler does to an array that holds a string

  One lemma for each handler, and for the verifiers one for each of their outcomes.  The hypotheses
  are the room that the handler needs. -/

/-- An HMAC has 32 bytes, -/
@[simp] theorem length_hmacTag (body : Bytes) : (hmacTag P body).length = 32 := by
  rw [hmacTag, replaceNul, List.length_map, (P.hmac hmacKey body).2]

/-- none of which is zero when it is sent, -/
theorem replaceNul_nulFree (b : Bytes) : NulFree (replaceNul b) := by
  intro c hc
  obtain ⟨a, -, rfl⟩ := List.mem_map.mp hc
  by_cases ha : a = 0
  · rw [if_pos ha]
    decide
  · rw [if_neg ha]
    exact ha

/-- so that it can stand in a string, -/
theorem hmacTag_nulFree (body : Bytes) : NulFree (hmacTag P body) := replaceNul_nulFree _

/-- as the digits of the checksum can. -/
theorem hexText_nulFree (k v : Nat) : NulFree (Stdio.hexText k v) :=
  fun c hc => (Stdio.hexText_ne k v c hc).1

/-- What is encrypted is a number of blocks, -/
theorem dvd_encryptedSize (size : Nat) : encryptedSize size = 16 * ((size + 15) / 16) := by
  unfold encryptedSize
  omega

/-- enough for the message. -/
theorem le_encryptedSize (size : Nat) : size ≤ encryptedSize size := by
  unfold encryptedSize
  omega

/-- The checksum of the body is the one its trailer spells. -/
def ChecksumMatches (uninit : UInt32) (body trailer : Bytes) : Prop :=
  P.crc body = some (receivedCRC uninit trailer)

instance (uninit : UInt32) (body trailer : Bytes) :
    Decidable (ChecksumMatches P uninit body trailer) :=
  inferInstanceAs (Decidable (_ = _))

/-- The bytes that are encrypted: the message, padded to whole blocks with whatever the array holds
    behind it. -/
def plaintext (a : CArray n) (size : Nat) : Bytes := a.1.take (encryptedSize size)

/-- Their ciphertext. -/
def ciphertext (a : CArray n) (size : Nat) : Bytes :=
  AES.encrypt (P.aesEncrypt aesKey) aesIv (plaintext a size)

/-- What `EncrypterBase64` makes of an array that holds a message of `size` bytes. -/
def encryptedText (a : CArray n) (size : Nat) : Bytes := P.base64Encode (ciphertext P a size)

/-- The length of the encrypted text of a message of `size` bytes. -/
def encryptedLen (size : Nat) : Nat := 4 * ((encryptedSize size + 2) / 3)

/-- The plaintext has that size, -/
theorem length_plaintext {size : Nat} (a : CArray n) (h : encryptedSize size ≤ n) :
    (plaintext a size).length = encryptedSize size := by
  rw [plaintext, List.length_take, a.2]
  omega

/-- and so has the ciphertext; -/
theorem length_ciphertext {size : Nat} (a : CArray n) (h : encryptedSize size ≤ n) :
    (ciphertext P a size).length = encryptedSize size := by
  rw [ciphertext, AES.length_encrypt _ _ ((length_plaintext a h).trans (dvd_encryptedSize size)),
    dvd_encryptedSize]

variable {P} in
/-- the text is longer by a third, -/
theorem length_encryptedText (hP : P.Lawful) {size : Nat} (a : CArray n)
    (h : encryptedSize size ≤ n) : (encryptedText P a size).length = encryptedLen size := by
  rw [encryptedText, hP.base64Encode_length, length_ciphertext P a h, encryptedLen]

/-- so it covers what was encrypted. -/
theorem encryptedSize_le_encryptedLen (size : Nat) : encryptedSize size ≤ encryptedLen size := by
  unfold encryptedLen
  omega

section Specs

variable {P} (mem : Mem n) (next : Option (Handler n)) (size : Nat)

/-- **EncrypterBase64** leaves the encrypted text of the array. -/
theorem EncrypterBase64.spec (hsize : encryptedSize size ≤ n)
    (hfree : NulFree (encryptedText P mem.message size))
    (henc : (encryptedText P mem.message size).length + 1 ≤ encodedBufferSize)
    (hn : (encryptedText P mem.message size).length + 1 ≤ n) :
    ∃ message base64Encoded, Holds message (encryptedText P mem.message size) ∧
      handleMessage P next mem size = pass next { mem with message, base64Encoded } size := by
  have hplain := length_plaintext mem.message hsize
  have hcipher := length_ciphertext P mem.message hsize
  -- the ciphertext over the message
  obtain ⟨m₁, hw₁, hm₁⟩ := writeRange_append (b := mem.message) (p := [])
    (m := plaintext mem.message size) (s := mem.message.1.drop (encryptedSize size))
    (x := ciphertext P mem.message size) (by simp [plaintext]) (by rw [hcipher, hplain])
  have hread₁ := readRange_append (p := []) hm₁
  rw [hcipher] at hread₁
  -- the text in the buffer, and from there back over the message
  obtain ⟨e, hw₂, he⟩ := holds_writeRange (b := mem.base64Encoded) hfree henc
  obtain ⟨m₂, hcpy, hm₂⟩ := he.strcpy m₁ hn
  refine ⟨m₂, e, hm₂, ?_⟩
  have hread : readRange mem.message 0 (encryptedSize size) = .ok (plaintext mem.message size) :=
    readRange_eq mem.message (by omega)
  have hfits : (P.base64Encode (ciphertext P mem.message size)).length + 1 ≤ encodedBufferSize :=
    henc
  simp only [List.length_nil, ciphertext] at hw₁ hread₁ hfits
  simp only [handleMessage, hread, ok_bind, hw₁, hread₁, if_pos hfits]
  show (writeRange mem.base64Encoded 0 (encryptedText P mem.message size ++ [0]) >>= _) = _
  simp only [hw₂, ok_bind, hcpy]

variable {mem}

/-- **AuthenticationGenerator** appends the 32 bytes that authenticate the body. -/
theorem AuthenticationGenerator.spec {body : Bytes} (h : Holds mem.message body)
    (hn : body.length + 33 ≤ n) :
    ∃ message, Holds message (body ++ hmacTag P body) ∧
      handleMessage P next mem size = pass next { mem with message } size := by
  obtain ⟨m, hw, hm⟩ := h.append (hmacTag_nulFree P body) (by rw [length_hmacTag]; omega)
  refine ⟨m, hm, ?_⟩
  have hread := Holds.readRange_prefix (p := body) (s := []) (by simpa using h)
  simp only [handleMessage, h.strlen, ok_bind, hread, hw]

/-- **ChecksumGenerator** appends the checksum of the body in hexadecimal. -/
theorem ChecksumGenerator.spec {body : Bytes} {crc : UInt32} (h : Holds mem.message body)
    (hcrc : P.crc body = some crc) (hlen : body.length + 8 < 4000) (hn : body.length + 9 ≤ n) :
    ∃ message, Holds message (body ++ Stdio.hexText 8 crc.toNat) ∧
      handleMessage P next mem size = pass next { mem with message } size := by
  obtain ⟨m, hw, hm⟩ := h.append (hexText_nulFree 8 crc.toNat)
    (by rw [Stdio.length_hexText]; omega)
  refine ⟨m, hm, ?_⟩
  have hread := Holds.readRange_prefix (p := body) (s := []) (by simpa using h)
  have hshort : ¬ body.length + (Stdio.hexText 8 crc.toNat).length ≥ 4000 := by
    rw [Stdio.length_hexText]
    omega
  simp only [handleMessage, h.strlen, ok_bind, hread, hcrc, if_neg hshort, hw]

/-- It gives up when the engine that computes the checksum does. -/
theorem ChecksumGenerator.fails {body : Bytes} (h : Holds mem.message body)
    (hcrc : P.crc body = none) :
    handleMessage P next mem size = .ok (.failToComputeChecksum, mem) := by
  have hread := Holds.readRange_prefix (p := body) (s := []) (by simpa using h)
  simp only [handleMessage, h.strlen, ok_bind, hread, hcrc]

variable {next size}

/-- **ChecksumVerifier** refuses a string too short for a checksum. -/
theorem ChecksumVerifier.too_small {uninit : UInt32} {r : Bytes} (h : Holds mem.message r)
    (hr : r.length < 8) :
    handleMessage P uninit next mem size = .ok (.errorPacketTooSmall, mem) := by
  simp only [handleMessage, h.strlen, ok_bind, if_pos hr]

/-- It compares the checksum of the body with what the trailer spells. -/
theorem ChecksumVerifier.split {uninit : UInt32} {body trailer : Bytes}
    (h : Holds mem.message (body ++ trailer)) (ht : trailer.length = 8) :
    handleMessage P uninit next mem size =
      match P.crc body with
      | none => .ok (.failToComputeChecksum, mem)
      | some calculatedCRC =>
        if calculatedCRC = receivedCRC uninit trailer then do
          let message ← writeRange mem.message body.length [0]
          pass next { mem with message } size
        else .ok (.checksumError, mem) := by
  have htrailer := h.readRange_suffix
  have hbody := h.readRange_prefix
  rw [ht] at htrailer
  have hlen : (body ++ trailer).length = body.length + 8 := by rw [List.length_append, ht]
  simp only [handleMessage, h.strlen, ok_bind, hlen, if_neg (show ¬ body.length + 8 < 8 by omega),
    Nat.add_sub_cancel, htrailer, hbody]

/-- It refuses a wrong checksum and leaves the memory as it was. -/
theorem ChecksumVerifier.reject {uninit : UInt32} {body trailer : Bytes}
    (h : Holds mem.message (body ++ trailer)) (ht : trailer.length = 8)
    (hc : ¬ ChecksumMatches P uninit body trailer) :
    ∃ st : MessageHandlerStatus, st.IsError ∧
      handleMessage P uninit next mem size = .ok (st, mem) := by
  rw [ChecksumVerifier.split h ht]
  cases hcrc : P.crc body with
  | none => exact ⟨.failToComputeChecksum, ⟨by decide, by decide⟩, rfl⟩
  | some c =>
    have hne : ¬ c = receivedCRC uninit trailer := by
      rintro rfl
      exact hc hcrc
    refine ⟨.checksumError, ⟨by decide, by decide⟩, ?_⟩
    show (if c = receivedCRC uninit trailer then _ else _) = _
    rw [if_neg hne]

/-- It passes on the body of a right one. -/
theorem ChecksumVerifier.accept {uninit : UInt32} {body trailer : Bytes}
    (h : Holds mem.message (body ++ trailer)) (ht : trailer.length = 8)
    (hc : ChecksumMatches P uninit body trailer) :
    ∃ message, Holds message body ∧
      handleMessage P uninit next mem size = pass next { mem with message } size := by
  obtain ⟨m, hw, hm⟩ := h.truncate
  refine ⟨m, hm, ?_⟩
  rw [ChecksumVerifier.split h ht, hc]
  show (if receivedCRC uninit trailer = _ then _ else _) = _
  rw [if_pos rfl, hw]
  rfl

/-- **AuthenticationVerifier** leaves the array when there are no 32 bytes to read. -/
theorem AuthenticationVerifier.fault {r : Bytes} (h : Holds mem.message r) (hr : r.length < 32)
    (hn : n < sizeRange) : ¬ Safe (handleMessage P next mem size) := by
  -- the difference of the two sizes is taken modulo the range of `size_t`
  have hread := readRange_of_lt (i := sizeSub r.length 32) (k := 32) mem.message
    (by have := sizeSub_of_lt hr (by rw [sizeRange_eq]; omega)
        omega)
  simp only [handleMessage, h.strlen, ok_bind, hread, error_bind]
  exact not_safe_error _

/-- **AuthenticationVerifier** cuts the last 32 bytes off and compares them with its own. -/
theorem AuthenticationVerifier.split_of_length {body tag : Bytes}
    (h : Holds mem.message (body ++ tag)) (ht : tag.length = 32)
    (hlen : (body ++ tag).length < sizeRange) :
    ∃ message, Holds message body ∧ handleMessage P next mem size =
      if tag = hmacTag P body then pass next { mem with message } size
      else .ok (.authentificationMissmatch, { mem with message }) := by
  obtain ⟨m, hw, hm⟩ := h.truncate
  refine ⟨m, hm, ?_⟩
  have hsum : (body ++ tag).length = body.length + 32 := by rw [List.length_append, ht]
  have hoff : sizeSub (body.length + 32) 32 = body.length := by
    rw [sizeSub_of_le (by omega) (by omega), Nat.add_sub_cancel]
  have htag := h.readRange_suffix
  rw [ht] at htag
  have hbody := Holds.readRange_prefix (p := body) (s := []) (by simpa using hm)
  simp only [handleMessage, h.strlen, ok_bind, hsum, hoff, htag, hw, hm.strlen, hbody]

/-- The same in the array that the gateway uses, where the length is no obstacle. -/
theorem AuthenticationVerifier.split {body tag : Bytes} (h : Holds mem.message (body ++ tag))
    (ht : tag.length = 32) (hn : n < sizeRange) :
    ∃ message, Holds message body ∧ handleMessage P next mem size =
      if tag = hmacTag P body then pass next { mem with message } size
      else .ok (.authentificationMissmatch, { mem with message }) := by
  have hlt := h.length_lt
  exact split_of_length h ht (by omega)

/-- What `base64Decoded` holds before the cipher: the decoded bytes over what was there. -/
def DecrypterBase64.loaded (mem : Mem n) (d : Bytes) : Bytes :=
  d ++ mem.base64Decoded.1.drop d.length

/-- What it holds after: the first `size` bytes decrypted. -/
def DecrypterBase64.plain (P : Primitives) (mem : Mem n) (d : Bytes) (size : Nat) : Bytes :=
  AES.decrypt (P.aesDecrypt aesKey) aesIv ((loaded mem d).take size) ++ (loaded mem d).drop size

/-- **DecrypterBase64** reads before its buffer when nothing was decoded. -/
theorem DecrypterBase64.fault {k : Nat} {text : Bytes} (h : Holds mem.message text)
    (hd : P.base64Decode text = none ∨ P.base64Decode text = some []) (hk : size = 16 * k)
    (hsize : size ≤ decodedBufferSize) : ¬ Safe (handleMessage P next mem size) := by
  have hread := Holds.readRange_prefix (p := text) (s := []) (by simpa using h)
  obtain ⟨buf, hdecode⟩ : ∃ buf, decode P mem text = .ok (0, buf) := by
    obtain ⟨buf₁, h₁, -⟩ := writeRange_eq mem.base64Decoded (i := 0) (x := [0]) (by simp)
    obtain ⟨buf₂, h₂, -⟩ := writeRange_eq mem.base64Decoded (i := 0) (x := []) (by simp)
    rcases hd with hd | hd
    · exact ⟨buf₁, by simp only [decode, hd, h₁, ok_bind]⟩
    · exact ⟨buf₂, by simp only [decode, hd, List.length_nil, Nat.zero_le, if_true, h₂, ok_bind]⟩
  have hdata := readRange_eq (i := 0) (k := size) buf (by omega)
  have hlen : (AES.decrypt (P.aesDecrypt aesKey) aesIv ((buf.1.drop 0).take size)).length
      = size := by
    rw [AES.length_decrypt _ (k := k) _ ?_, hk]
    rw [List.length_take, List.length_drop, buf.2]
    omega
  obtain ⟨buf', hwrite, -⟩ := writeRange_eq buf (i := 0)
    (x := AES.decrypt (P.aesDecrypt aesKey) aesIv ((buf.1.drop 0).take size))
    (by rw [hlen]; omega)
  -- the last byte of no bytes: the index before the first
  have hlast : decodedBufferSize ≤ sizeSub 0 1 := by
    have := sizeSub_of_lt (a := 0) (b := 1) (by omega) (by rw [sizeRange_eq]; omega)
    have := decodedBufferSize_lt
    omega
  have hbyte := readByte_of_ge buf' hlast
  simp only [handleMessage, h.strlen, ok_bind, hread, hdecode, hdata, hwrite, hbyte, error_bind]
  exact not_safe_error _

/-- Whatever the padding says, what is left fits into the message. -/
theorem DecrypterBase64.strippedLen_lt (len : Nat) (padding : UInt8) (hpos : 0 < size)
    (hsize : size < sizeRange) : strippedLen len padding size < size := by
  unfold strippedLen
  dsimp only
  generalize (if 0 < padding.toNat ∧ padding.toNat ≤ 16 then sizeSub len padding.toNat else len) = l
  by_cases hl : l < size
  · rw [if_pos hl]
    exact hl
  · rw [if_neg hl, sizeSub_of_le hpos hsize]
    omega

variable (next) in
/-- **DecrypterBase64** on a text that decodes to at least one byte: nothing is read or written
    outside an array, and the message begins with the stripped plaintext and a NUL. -/
theorem DecrypterBase64.spec {k : Nat} {text d : Bytes} (h : Holds mem.message text)
    (hd : P.base64Decode text = some d) (hne : d ≠ []) (hdlen : d.length ≤ decodedBufferSize)
    (hk : size = 16 * k) (hpos : 0 < size) (hsize : size ≤ decodedBufferSize) (hn : size ≤ n) :
    ∃ message base64Decoded padding,
      (plain P mem d size)[d.length - 1]? = some padding ∧
      message.1 = (plain P mem d size).take (strippedLen d.length padding size) ++
        0 :: mem.message.1.drop (strippedLen d.length padding size + 1) ∧
      handleMessage P next mem size = pass next { mem with message, base64Decoded } size := by
  have hdpos : 0 < d.length := List.length_pos_iff.mpr hne
  have hread := Holds.readRange_prefix (p := text) (s := []) (by simpa using h)
  obtain ⟨buf, hw, hbuf⟩ := writeRange_eq mem.base64Decoded (i := 0) (x := d) (by omega)
  have hbuf : buf.1 = loaded mem d := by
    rw [hbuf, loaded]
    simp
  have hdecode : decode P mem text = .ok (d.length, buf) := by
    simp only [decode, hd, if_pos hdlen, hw, ok_bind]
  have hload : (loaded mem d).length = decodedBufferSize := by rw [← hbuf, buf.2]
  -- as many bytes are decrypted as the message array has, so more than were decoded
  have hdata : readRange buf 0 size = .ok ((loaded mem d).take size) := by
    rw [readRange_eq buf (by omega), hbuf, List.drop_zero]
  have hlen : (AES.decrypt (P.aesDecrypt aesKey) aesIv ((loaded mem d).take size)).length
      = size := by
    rw [AES.length_decrypt _ (k := k) _ ?_, hk]
    rw [List.length_take, hload]
    omega
  obtain ⟨buf', hw', hbuf'⟩ := writeRange_eq buf (i := 0)
    (x := AES.decrypt (P.aesDecrypt aesKey) aesIv ((loaded mem d).take size))
    (by rw [hlen]; omega)
  have hbuf' : buf'.1 = plain P mem d size := by
    rw [hbuf', hlen, hbuf, plain]
    simp
  have hlast : sizeSub d.length 1 = d.length - 1 :=
    sizeSub_of_le (by omega) (by have := decodedBufferSize_lt; omega)
  obtain ⟨padding, hget, hbyte⟩ := readByte_of_lt (i := d.length - 1) buf' (by omega)
  rw [hbuf'] at hget
  have hL := strippedLen_lt d.length padding hpos (by have := decodedBufferSize_lt; omega)
  generalize hLdef : strippedLen d.length padding size = L at *
  have hread' : readRange buf' 0 L = .ok ((plain P mem d size).take L) := by
    rw [readRange_eq buf' (by omega), hbuf', List.drop_zero]
  have htake : ((plain P mem d size).take L).length = L := by
    rw [← hbuf', List.length_take, buf'.2]
    omega
  obtain ⟨m, hwm, hm⟩ := writeRange_eq mem.message (i := 0)
    (x := (plain P mem d size).take L ++ [0])
    (by rw [List.length_append, htake, List.length_singleton]; omega)
  refine ⟨m, buf', padding, hget, ?_, ?_⟩
  · rw [hLdef, hm, List.length_append, htake]
    simp
  · simp only [handleMessage, h.strlen, ok_bind, hread, hdecode, hdata, hw', hlast, hbyte, hLdef,
      hread', hwm]

end Specs

/-! ## The two chains of the gateway

  Each is an expression: a handler applied to the rest of the chain. -/

/-- The chain that `prepareLoRaMessage` sets up. -/
def generatorChain : Handler n :=
  EncrypterBase64.handleMessage P (some
    (AuthenticationGenerator.handleMessage P (some
      (ChecksumGenerator.handleMessage P none))))

/-- The chain that `processLoRaMessage` sets up. -/
def verifierChain (uninit : UInt32) : Handler n :=
  ChecksumVerifier.handleMessage P uninit (some
    (AuthenticationVerifier.handleMessage P (some
      (DecrypterBase64.handleMessage P none))))

/-- `prepareLoRaMessage`: the message is ready if the last handler says so. -/
def prepareLoRaMessage (mem : Mem n) (messageSize : Nat) : Checked (Bool × Mem n) := do
  let (status, mem) ← generatorChain P mem messageSize
  .ok (status == .processed, mem)

/-- `processLoRaMessage`, in the same way. -/
def processLoRaMessage (uninit : UInt32) (mem : Mem n) (messageSize : Nat) :
    Checked (Bool × Mem n) := do
  let (status, mem) ← verifierChain P uninit mem messageSize
  .ok (status == .processed, mem)

variable {P} in
/-- **`prepareLoRaMessage` of a short text** stays inside the arrays: it fails when the checksum
    does, and otherwise leaves the encrypted text, its HMAC and the checksum. -/
theorem prepareLoRaMessage_spec (hP : P.Lawful) (mem : Mem messageBufferSize) (text : Bytes)
    (hshort : encryptedLen text.length + 41 ≤ messageBufferSize) :
    (∃ mem', prepareLoRaMessage P mem text.length = .ok (false, mem')) ∨
      ∃ mem' body, prepareLoRaMessage P mem text.length = .ok (true, mem') ∧
        Holds mem'.message body ∧ body.length = encryptedLen text.length + 40 := by
  have hsize := encryptedSize_le_encryptedLen text.length
  have hbuf : messageBufferSize + 548 = encodedBufferSize := rfl
  have hmax : messageBufferSize < 4000 := by decide
  have hlen : (encryptedText P mem.message text.length).length = encryptedLen text.length :=
    length_encryptedText hP mem.message (by omega)
  -- the chain of generators, handler by handler: each leaves its text and hands on what is longer
  -- by its tag
  obtain ⟨m₁, e, hm₁, h₁⟩ := EncrypterBase64.spec mem
    (some (AuthenticationGenerator.handleMessage P (some
      (ChecksumGenerator.handleMessage P none)))) text.length
    (by omega) (hP.nulFree _) (by omega) (by omega)
  let mem₁ : Mem messageBufferSize := { mem with message := m₁, base64Encoded := e }
  have hm₁ : Holds mem₁.message (encryptedText P mem.message text.length) := hm₁
  obtain ⟨m₂, hm₂, h₂⟩ := AuthenticationGenerator.spec (P := P)
    (some (ChecksumGenerator.handleMessage P none)) text.length hm₁ (by omega)
  let mem₂ : Mem messageBufferSize := { mem₁ with message := m₂ }
  have hm₂ : Holds mem₂.message (encryptedText P mem.message text.length
      ++ hmacTag P (encryptedText P mem.message text.length)) := hm₂
  have htag : (encryptedText P mem.message text.length
      ++ hmacTag P (encryptedText P mem.message text.length)).length
      = encryptedLen text.length + 32 := by
    rw [List.length_append, length_hmacTag, hlen]
  have hchain : generatorChain P mem text.length =
      ChecksumGenerator.handleMessage P none mem₂ text.length := h₁.trans h₂
  cases hcrc : P.crc (encryptedText P mem.message text.length
      ++ hmacTag P (encryptedText P mem.message text.length)) with
  | none =>
    have h₃ := ChecksumGenerator.fails none text.length hm₂ hcrc
    refine Or.inl ⟨mem₂, ?_⟩
    rw [prepareLoRaMessage, hchain, h₃]
    rfl
  | some crc =>
    obtain ⟨m₃, hm₃, h₃⟩ :=
      ChecksumGenerator.spec none text.length hm₂ hcrc (by omega) (by omega)
    refine Or.inr ⟨{ mem₂ with message := m₃ }, _, ?_, hm₃, ?_⟩
    · rw [prepareLoRaMessage, hchain, h₃]
      rfl
    · rw [List.length_append, htag, Stdio.length_hexText]

/-! ## The verifiers with their writes to the debug port

  Each handler again, with the writes in their places.  What is written leaves the gateway through
  another port and comes back to nothing, so of each write only the walk to the first NUL is
  modelled, which may leave its array. -/

/-- `uartUSB.write (b, strlen (b))`: of the array it only walks to the first NUL. -/
def debugWrite {m : Nat} (b : CArray m) : Checked Unit := do
  let _ ← strlen b
  .ok ()

/-- What the arrays for the debug texts hold before: `crcString` and `log`. -/
structure DebugTexts where
  crcString : CArray 64
  log : CArray 64

variable (texts : DebugTexts)

/-- `LOG_RECEIVED_CRC32` and `LOG_CALCULATED_CRC32`. -/
def ChecksumVerifier.crcText (which : Bytes) (crc : UInt32) : Bytes :=
  which ++ ascii " CRC32: 0x" ++ Stdio.hexText 8 crc.toNat ++ ascii "\r\n"

/-- `ChecksumVerifier::handleMessage`: the two checksums are printed into an array of their own, and
    written. -/
def ChecksumVerifier.handleMessageInFull (uninit : UInt32) (next : Option (Handler n)) : Handler n :=
  fun mem sizeOfMessage => do
    let packetSize ← strlen mem.message
    if packetSize < 8 then .ok (.errorPacketTooSmall, mem)
    else
      let packetSize := packetSize - 8
      let trailer ← readRange mem.message packetSize 8
      let body ← readRange mem.message 0 packetSize
      match P.crc body with
      | none => .ok (.failToComputeChecksum, mem)
      | some calculatedCRC =>
        let crcString ← snprintf texts.crcString
          (crcText (ascii "Received") (receivedCRC uninit trailer))
        debugWrite crcString
        let crcString ← snprintf crcString (crcText (ascii "Calculated") calculatedCRC)
        debugWrite crcString
        if calculatedCRC = receivedCRC uninit trailer then
          let message ← writeRange mem.message packetSize [0]
          debugWrite message
          pass next { mem with message } sizeOfMessage
        else .ok (.checksumError, mem)

/-- `AuthenticationVerifier::handleMessage`: the message is written before and after the cut, and
    the HMAC as if it were a string. -/
def AuthenticationVerifier.handleMessageInFull (next : Option (Handler n)) : Handler n :=
  fun mem sizeOfMessage => do
    let packetSize ← strlen mem.message
    let hmacOffset := sizeSub packetSize 32
    debugWrite mem.message
    let receivedHMAC ← readRange mem.message hmacOffset 32
    let message ← writeRange mem.message hmacOffset [0]
    debugWrite message
    let messageLen ← strlen message
    let body ← readRange message 0 messageLen
    let calculatedHMAC := P.hmac hmacKey body
    -- 32 bytes that are no string: a zero byte among them is the only thing that ends the walk,
    -- and it is replaced only after the walk
    debugWrite calculatedHMAC
    if receivedHMAC = replaceNul calculatedHMAC.1 then
      debugWrite message
      pass next { mem with message } sizeOfMessage
    else .ok (.authentificationMissmatch, { mem with message })

/-- `ret`: what `mbedtls_base64_decode` returns. -/
def DecrypterBase64.decodeRet (text : Bytes) : Int :=
  match P.base64Decode text with
  | none => -0x2C
  | some d => if d.length ≤ decodedBufferSize then 0 else -0x2A

/-- `LOG_ERROR_BASE64_DECODE`. -/
def DecrypterBase64.errorText (ret : Int) : Bytes :=
  ascii "\r\nError decodificando en base64: " ++ Stdio.intText ret ++ ascii "\r\n"

/-- `if (ret != 0)`, with what is logged there. -/
def DecrypterBase64.logError (text : Bytes) : Checked Unit :=
  if decodeRet P text ≠ 0 then do
    let log ← snprintf texts.log (errorText (decodeRet P text))
    debugWrite log
  else .ok ()

/-- `DecrypterBase64::handleMessage`: the decoded bytes are written as if they were a string, and
    the text at the end. -/
def DecrypterBase64.handleMessageInFull (next : Option (Handler n)) : Handler n :=
  fun mem sizeOfMessage => do
    let len ← strlen mem.message
    let text ← readRange mem.message 0 len
    DecrypterBase64.logError P texts text
    let (decodedLen, base64Decoded) ← DecrypterBase64.decode P mem text
    -- after a decode only what an earlier message left behind the bytes can end the walk
    debugWrite base64Decoded
    let data ← readRange base64Decoded 0 sizeOfMessage
    let base64Decoded ←
      writeRange base64Decoded 0 (AES.decrypt (P.aesDecrypt aesKey) aesIv data)
    -- last byte = padding quantity
    let padding ← readByte base64Decoded (sizeSub decodedLen 1)
    let decodedLen := DecrypterBase64.strippedLen decodedLen padding sizeOfMessage
    let data ← readRange base64Decoded 0 decodedLen
    let message ← writeRange mem.message 0 (data ++ [0])
    debugWrite message
    pass next { mem with message, base64Decoded } sizeOfMessage

/-- The chain of `processLoRaMessage`, with everything that it writes to the debug port. -/
def verifierChainInFull (uninit : UInt32) : Handler n :=
  ChecksumVerifier.handleMessageInFull P texts uninit (some
    (AuthenticationVerifier.handleMessageInFull P (some
      (DecrypterBase64.handleMessageInFull P texts none))))

/-- `processLoRaMessage`, with all of this. -/
def processLoRaMessageInFull (uninit : UInt32) (mem : Mem n) (messageSize : Nat) :
    Checked (Bool × Mem n) := do
  let (status, mem) ← verifierChainInFull P texts uninit mem messageSize
  .ok (status == .processed, mem)

/-- Two handlers agree at every memory and size. -/
def Handler.Agrees (x y : Handler n) : Prop := ∀ mem size, CMemory.Agrees (x mem size) (y mem size)

/-- Handlers that agree can be passed on to. -/
theorem pass_agrees {x y : Handler n} (h : x.Agrees y) :
    Handler.Agrees (pass (some x)) (pass (some y)) := h

/-- The checksum verifier computes the same, -/
theorem ChecksumVerifier.inFull_agrees (uninit : UInt32) {x y : Handler n} (h : x.Agrees y) :
    Handler.Agrees (handleMessageInFull P texts uninit (some x))
      (handleMessage P uninit (some y)) := by
  intro mem size
  refine (Agrees.refl _).bind fun packetSize _ => Agrees.ite (Agrees.refl _) ?_
  refine (Agrees.refl _).bind fun trailer _ => (Agrees.refl _).bind fun body _ => ?_
  cases P.crc body with
  | none => exact Agrees.refl _
  | some crc =>
    -- the two checksums are printed and written
    apply Agrees.skip
    intro crcString
    apply Agrees.skip
    intro _
    apply Agrees.skip
    intro crcString
    apply Agrees.skip
    intro _
    refine Agrees.ite ((Agrees.refl _).bind fun message _ => ?_) (Agrees.refl _)
    exact Agrees.skip fun _ => pass_agrees h _ _

/-- and so does the authentication verifier, -/
theorem AuthenticationVerifier.inFull_agrees {x y : Handler n} (h : x.Agrees y) :
    Handler.Agrees (handleMessageInFull P (some x)) (handleMessage P (some y)) := by
  intro mem size
  refine (Agrees.refl _).bind fun packetSize _ => Agrees.skip fun _ => ?_
  refine (Agrees.refl _).bind fun receivedHMAC _ => (Agrees.refl _).bind fun message _ => ?_
  refine Agrees.skip fun _ => (Agrees.refl _).bind fun messageLen _ => ?_
  refine (Agrees.refl _).bind fun body _ => Agrees.skip fun _ => ?_
  exact Agrees.ite (Agrees.skip fun _ => pass_agrees h _ _) (Agrees.refl _)

/-- and the decrypter. -/
theorem DecrypterBase64.inFull_agrees :
    Handler.Agrees (handleMessageInFull (n := n) P texts none) (handleMessage P none) := by
  intro mem size
  refine (Agrees.refl _).bind fun len _ => (Agrees.refl _).bind fun text _ => ?_
  refine Agrees.skip fun _ => (Agrees.refl _).bind fun decoded _ => Agrees.skip fun _ => ?_
  refine (Agrees.refl _).bind fun data _ => (Agrees.refl _).bind fun base64Decoded _ => ?_
  refine (Agrees.refl _).bind fun padding _ => (Agrees.refl _).bind fun data _ => ?_
  exact (Agrees.refl _).bind fun message _ => Agrees.skip fun _ => Agrees.refl _

/-- **The writes to the debug port change nothing**: where no walk leaves its array, the verifiers
    do what they do without them. -/
theorem verifierChainInFull_agrees (uninit : UInt32) :
    Handler.Agrees (verifierChainInFull (n := n) P texts uninit) (verifierChain P uninit) :=
  ChecksumVerifier.inFull_agrees P texts uninit
    (AuthenticationVerifier.inFull_agrees P (DecrypterBase64.inFull_agrees P texts))

theorem processLoRaMessageInFull_agrees (uninit : UInt32) (mem : Mem n) (messageSize : Nat) :
    Agrees (processLoRaMessageInFull P texts uninit mem messageSize)
      (processLoRaMessage P uninit mem messageSize) :=
  (verifierChainInFull_agrees P texts uninit mem messageSize).bind fun _ _ => Agrees.refl _

end GatewayLoRa
