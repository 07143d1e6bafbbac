/-
  When `DecrypterBase64` gives back what `EncrypterBase64` was given.

  The encrypter pads a message of `m` bytes to whole blocks with whatever the buffer holds behind
  it: the NUL that ends it, then bytes left by an earlier frame.  The decrypter reads the LAST
  plaintext byte as a padding count and takes up to 16 bytes off.  The two do not agree on a
  padding scheme, so the round trip rests on an accident: the last byte of the last block must not
  read as a count that reaches back into the message.

  The proof follows the bytes.  `plaintext` is what is encrypted (the message and what stands
  behind it); `decrypted_eq` says the decrypter's buffer begins with it again, by
  `AES.decrypt_encrypt`; `strippedLen_eq` says how much of it is kept; and a message survives if
  and only if what is kept is at least as long as the message (`holds_stripped_iff`).

  Everything else of the round trip is sound.  The cipher and the encoding are undone exactly, the
  reception buffer is large enough, and the text has no NUL in it; so the condition of the theorem
  is about one byte, which the message does not determine.
-/

import GatewayLoRa.HandlerSafety

namespace GatewayLoRa

open CMemory

/-! ## What is encrypted, and how much of it is kept

  The two ends of the round trip as lists of bytes: what the encrypter takes from the buffer, and
  how many of these bytes the decrypter keeps. -/

/-- The byte the decrypter takes for the padding count. -/
def paddingByte {n : Nat} (a : CArray n) (size : Nat) : Option UInt8 :=
  (plaintext a size)[encryptedSize size - 1]?

/-- How many bytes a count takes off. -/
def paddingTaken (padding : UInt8) : Nat :=
  if 0 < padding.toNat ∧ padding.toNat ≤ 16 then padding.toNat else 0

/-- At most one block is taken off. -/
theorem paddingTaken_le (padding : UInt8) : paddingTaken padding ≤ 16 := by
  unfold paddingTaken
  split <;> omega

/-- What is kept is what was decoded without the padding: the bound of the message is not reached,
    for the text is longer than what it decodes to. -/
theorem strippedLen_eq {len size : Nat} (padding : UInt8) (h16 : 16 ≤ len) (hlt : len < size)
    (hsize : size < sizeRange) :
    DecrypterBase64.strippedLen len padding size = len - paddingTaken padding := by
  unfold DecrypterBase64.strippedLen paddingTaken
  by_cases hp : 0 < padding.toNat ∧ padding.toNat ≤ 16
  · rw [if_pos hp, if_pos hp, sizeSub_of_le (by omega) (by omega), if_pos (by omega)]
  · rw [if_neg hp, if_neg hp, if_pos hlt, Nat.sub_zero]

/-- What is encrypted begins with the message. -/
theorem plaintext_eq {n : Nat} {a : CArray n} {m : Bytes} (h : Holds a m) :
    ∃ t, a.1 = m ++ 0 :: t ∧
      plaintext a m.length = m ++ (0 :: t).take (encryptedSize m.length - m.length) := by
  obtain ⟨-, t, ht⟩ := h
  refine ⟨t, ht, ?_⟩
  rw [plaintext, ht, List.take_append, List.take_of_length_le (le_encryptedSize m.length)]

/-- A message that is not empty has a block. -/
theorem encryptedSize_pos {size : Nat} (h : 0 < size) : 16 ≤ encryptedSize size := by
  unfold encryptedSize
  omega

/-- **A message survives the cut if and only if the cut leaves at least its length.** -/
theorem holds_stripped_iff {n k L : Nat} {a : CArray n} {b : CArray k} {m rest tail : Bytes}
    (h : Holds a m) (hL : L ≤ encryptedSize m.length) (hsize : encryptedSize m.length ≤ n)
    (hb : b.1 = (plaintext a m.length ++ rest).take L ++ 0 :: tail) :
    Holds b m ↔ m.length ≤ L := by
  obtain ⟨t, -, hp⟩ := plaintext_eq h
  have hlen := length_plaintext a hsize
  rw [List.take_append_of_le_length (by omega), hp] at hb
  rcases Nat.lt_or_ge L m.length with hlt | hge
  · have hcut : Holds b (m.take L) := by
      refine ⟨?_, tail, ?_⟩
      · have hfree := h.1
        rw [← List.take_append_drop L m] at hfree
        exact hfree.left
      · rw [hb, List.take_append_of_le_length (by omega)]
    constructor
    · intro hm
      have := congrArg List.length (hcut.unique hm)
      rw [List.length_take] at this
      omega
    · omega
  · refine iff_of_true ⟨h.1, ?_⟩ hge
    rw [List.take_append, List.take_of_length_le hge, List.take_take] at hb
    cases hj : min (L - m.length) (encryptedSize m.length - m.length) with
    | zero => exact ⟨tail, by rw [hb, hj]; simp⟩
    | succ j => exact ⟨t.take j ++ 0 :: tail, by rw [hb, hj]; simp⟩

/-! ## The bytes in the decrypter's buffer

  The decrypter decrypts as many bytes as its message array has, so more than were decoded; the rest
  of its buffer comes out as something, behind what was encrypted. -/

section Decrypted

variable {P : Primitives}

/-- **The decrypter's buffer begins with what was encrypted.** -/
theorem decrypted_eq (hP : P.Lawful) {n k : Nat} (a : CArray n) (size : Nat) (rx : Mem k)
    (ha : encryptedSize size ≤ n) (hsize : encryptedSize size ≤ receptionBufferSize) :
    ∃ rest, DecrypterBase64.plain P rx (ciphertext P a size) receptionBufferSize
      = plaintext a size ++ rest := by
  have hplain := (length_plaintext a ha).trans (dvd_encryptedSize size)
  have hcipher := length_ciphertext P a ha
  have hbuf : receptionBufferSize ≤ decodedBufferSize := by decide
  have hload : (DecrypterBase64.loaded rx (ciphertext P a size)).take receptionBufferSize
      = ciphertext P a size ++ (rx.base64Decoded.1.drop (encryptedSize size)).take
          (receptionBufferSize - encryptedSize size) := by
    rw [DecrypterBase64.loaded, List.take_append, hcipher, List.take_of_length_le (by omega)]
  have hbehind : ((rx.base64Decoded.1.drop (encryptedSize size)).take
      (receptionBufferSize - encryptedSize size)).length = 16 * (128 - (size + 15) / 16) := by
    have hdvd := dvd_encryptedSize size
    have h2048 : receptionBufferSize = 16 * 128 := rfl
    rw [List.length_take, List.length_drop, rx.base64Decoded.2]
    omega
  obtain ⟨rest, hrest⟩ :=
    AES.decrypt_encrypt (hP.aesDecrypt_aesEncrypt aesKey) aesIv hplain hbehind
  refine ⟨rest ++ (DecrypterBase64.loaded rx (ciphertext P a size)).drop receptionBufferSize, ?_⟩
  rw [DecrypterBase64.plain, hload, ciphertext, hrest, List.append_assoc]

end Decrypted

/-! ## The round trip

  The transmitting side is one buffer, the receiving side any buffer that holds the text: what an
  earlier message has left in the receiver does not matter. -/

/-- **Decryption undoes encryption**: the encrypter leaves a string, and from every reception
    buffer that holds this string the decrypter leaves exactly the message. -/
def RoundTrips (P : Primitives) (tx : Mem messageBufferSize) (m : Bytes) : Prop :=
  ∃ tx' text, EncrypterBase64.handleMessage P none tx m.length = .ok (.processed, tx') ∧
    Holds tx'.message text ∧
    ∀ rx : Mem receptionBufferSize, Holds rx.message text →
      ∃ rx', DecrypterBase64.handleMessage P none rx receptionBufferSize = .ok (.processed, rx') ∧
        Holds rx'.message m

/-- The message is not empty, and the byte behind its last block does not count back into it. -/
def PaddingHarmless (tx : Mem messageBufferSize) (m : Bytes) : Prop :=
  m ≠ [] ∧ ∀ b, paddingByte tx.message m.length = some b →
    paddingTaken b ≤ encryptedSize m.length - m.length

section RoundTrip

variable {P : Primitives} {tx : Mem messageBufferSize} {m : Bytes}

/-- The bound on the text is one on the blocks, with one block to spare. -/
theorem encryptedSize_lt (hfit : encryptedLen m.length < receptionBufferSize) :
    encryptedSize m.length + 16 < receptionBufferSize := by
  have h2048 : receptionBufferSize = 2048 := rfl
  unfold encryptedLen at hfit
  omega

variable (tx m) in
/-- The encrypter leaves the encoded ciphertext. -/
theorem encrypter_leaves (hP : P.Lawful) (hfit : encryptedLen m.length < receptionBufferSize) :
    ∃ tx', EncrypterBase64.handleMessage P none tx m.length = .ok (.processed, tx') ∧
      Holds tx'.message (encryptedText P tx.message m.length) := by
  have hsize := encryptedSize_lt hfit
  have hbuf : receptionBufferSize < messageBufferSize := by decide
  have henc : messageBufferSize < encodedBufferSize := by decide
  have hlen : (encryptedText P tx.message m.length).length = encryptedLen m.length :=
    length_encryptedText hP tx.message (by omega)
  obtain ⟨message, e, hm, heq⟩ := EncrypterBase64.spec tx none m.length (by omega)
    (hP.nulFree _) (by omega) (by omega)
  exact ⟨_, heq, hm⟩

/-- What the decrypter leaves when it receives that string. -/
theorem decrypter_leaves (hP : P.Lawful) (h : Holds tx.message m) (hne : m ≠ [])
    (hfit : encryptedLen m.length < receptionBufferSize) {rx : Mem receptionBufferSize}
    (hrx : Holds rx.message (encryptedText P tx.message m.length)) :
    ∃ rx' b, DecrypterBase64.handleMessage P none rx receptionBufferSize = .ok (.processed, rx') ∧
      paddingByte tx.message m.length = some b ∧
      (Holds rx'.message m ↔ paddingTaken b ≤ encryptedSize m.length - m.length) := by
  have hsize := encryptedSize_lt hfit
  have hbuf : receptionBufferSize < messageBufferSize := by decide
  have hdec : messageBufferSize < decodedBufferSize := by decide
  have hpos := encryptedSize_pos (List.length_pos_iff.mpr hne)
  have hle := le_encryptedSize m.length
  have hplain : (plaintext tx.message m.length).length = encryptedSize m.length :=
    length_plaintext tx.message (by omega)
  have hcipher : (ciphertext P tx.message m.length).length = encryptedSize m.length :=
    length_ciphertext P tx.message (by omega)
  have hcne : ciphertext P tx.message m.length ≠ [] := by
    intro hnil
    rw [hnil, List.length_nil] at hcipher
    omega
  obtain ⟨message, decoded, b, hb, hm, heq⟩ := DecrypterBase64.spec none (k := 128) hrx
    (hP.base64Decode_encode _) hcne (by omega) rfl (by decide)
    (by decide) (Nat.le_refl _)
  obtain ⟨rest, hrest⟩ := decrypted_eq hP tx.message m.length rx (by omega) (by omega)
  rw [hcipher, hrest] at hb hm
  rw [strippedLen_eq b hpos (by omega) receptionBufferSize_lt] at hm
  rw [List.getElem?_append_left (by omega)] at hb
  -- the padding is at most a block, so something is left
  have htaken := paddingTaken_le b
  refine ⟨_, b, heq, hb, ?_⟩
  rw [holds_stripped_iff h (by omega) (by omega) hm]
  omega

/-- The empty message encodes to the empty string, which the decrypter cannot take. -/
theorem empty_not_roundTrips (hP : P.Lawful) : ¬ RoundTrips P tx [] := by
  rintro ⟨tx', text, henc, htext, hdec⟩
  obtain ⟨tx'', henc', htext'⟩ := encrypter_leaves tx [] hP (by decide)
  obtain rfl : tx' = tx'' := by
    rw [henc] at henc'
    simpa using henc'
  have hempty : encryptedText P tx.message ([] : Bytes).length = [] := by
    apply List.eq_nil_of_length_eq_zero
    rw [length_encryptedText hP tx.message (by decide)]
    rfl
  obtain rfl := htext.unique htext'
  rw [hempty] at hdec
  have hrx : Holds (Mem.holding receptionBufferSize []).message [] :=
    holds_cstring (by decide) (by decide)
  obtain ⟨rx', hok, -⟩ := hdec (Mem.holding receptionBufferSize []) hrx
  have hd : P.base64Decode [] = some [] := by
    have := hP.base64Decode_encode []
    rwa [List.eq_nil_of_length_eq_zero (hP.base64Encode_length [])] at this
  exact decrypter_wraps hrx (Or.inr hd) ⟨_, hok⟩

variable (tx) in
/-- A reception buffer that holds what the encrypter left. -/
theorem exists_reception (hP : P.Lawful) (hfit : encryptedLen m.length < receptionBufferSize) :
    Holds (Mem.holding receptionBufferSize (encryptedText P tx.message m.length)).message
      (encryptedText P tx.message m.length) := by
  have hsize := encryptedSize_lt hfit
  have hbuf : receptionBufferSize < messageBufferSize := by decide
  refine holds_cstring (hP.nulFree _) ?_
  rw [length_encryptedText hP tx.message (by omega)]
  exact hfit

end RoundTrip

/-- **A message comes back from the round trip if and only if its padding is harmless.** -/
theorem roundTrips_iff (P : Primitives) (hP : P.Lawful) (tx : Mem messageBufferSize) (m : Bytes)
    (h : Holds tx.message m) (hfit : encryptedLen m.length < receptionBufferSize) :
    RoundTrips P tx m ↔ PaddingHarmless tx m := by
  by_cases hne : m = []
  · subst hne
    exact iff_of_false (empty_not_roundTrips hP) fun hp => hp.1 rfl
  obtain ⟨tx', henc, htext⟩ := encrypter_leaves tx m hP hfit
  constructor
  · rintro ⟨tx'', text, henc', htext', hdec⟩
    obtain rfl : tx' = tx'' := by
      rw [henc] at henc'
      simpa using henc'
    obtain rfl := htext'.unique htext
    have hrx := exists_reception tx hP hfit
    obtain ⟨rx', hok, hm⟩ := hdec _ hrx
    obtain ⟨rx'', b, hok', hb, hiff⟩ := decrypter_leaves hP h hne hfit hrx
    obtain rfl : rx' = rx'' := by
      rw [hok] at hok'
      simpa using hok'
    refine ⟨hne, fun c hc => ?_⟩
    obtain rfl : b = c := by
      rw [hb] at hc
      exact Option.some.inj hc
    exact hiff.mp hm
  · rintro ⟨-, hpad⟩
    refine ⟨tx', _, henc, htext, fun rx hrx => ?_⟩
    obtain ⟨rx', b, hok, hb, hiff⟩ := decrypter_leaves hP h hne hfit hrx
    exact ⟨rx', hok, hiff.mpr (hpad b hb)⟩

/-! ## A message that ends in a line feed -/

/-- Sixteen bytes, the last a line feed: one block without padding. -/
def lineFeed : Bytes := ascii "LORALORA,1,2,3,\n"

/-- An acknowledgement, whose padding is the NUL behind it. -/
def shortAck : Bytes := ascii "1,2,ACK"

/-- An acknowledgement comes back from a blank buffer. -/
theorem shortAck_roundTrips : RoundTrips .reference (Mem.holding messageBufferSize shortAck) shortAck :=
  (roundTrips_iff .reference Primitives.reference_lawful (Mem.holding messageBufferSize shortAck) shortAck
    (holds_cstring (by decide) (by decide)) (by decide)).mpr
    ⟨by decide, fun b hb => by
      obtain rfl : 0 = b := Option.some.inj (hb.symm.trans (by decide)).symm
      decide⟩

/-- **A whole block that ends in a line feed loses its last ten bytes.** -/
theorem lineFeed_not_roundTrips :
    Holds (Mem.holding messageBufferSize lineFeed).message lineFeed ∧
      ¬ RoundTrips .reference (Mem.holding messageBufferSize lineFeed) lineFeed := by
  have hm : Holds (Mem.holding messageBufferSize lineFeed).message lineFeed :=
    holds_cstring (by decide) (by decide)
  refine ⟨hm, ?_⟩
  rintro ⟨tx'', text, henc', htext', hdec⟩
  have hfit : encryptedLen lineFeed.length < receptionBufferSize := by decide
  obtain ⟨tx', henc, htext⟩ :=
    encrypter_leaves (Mem.holding messageBufferSize lineFeed) lineFeed Primitives.reference_lawful hfit
  obtain rfl : tx' = tx'' := by
    rw [henc] at henc'
    simpa using henc'
  obtain rfl := htext'.unique htext
  have hrx := exists_reception (Mem.holding messageBufferSize lineFeed)
    Primitives.reference_lawful hfit
  obtain ⟨rx', hok, hback⟩ := hdec _ hrx
  obtain ⟨rx'', b, hok', hb, hiff⟩ :=
    decrypter_leaves Primitives.reference_lawful hm (by decide) hfit hrx
  obtain rfl : rx' = rx'' := by
    rw [hok] at hok'
    simpa using hok'
  obtain rfl : 10 = b := Option.some.inj (hb.symm.trans (by decide)).symm
  exact absurd (hiff.mp hback) (by decide)

end GatewayLoRa
