/-
  The cryptographic primitives the gateway calls, as PARAMETERS of the model.

  HMAC-SHA256, SHA-256, CRC-32 and base64 come from libraries outside the repository; the block
  cipher is the core of `AES.cpp`.  A model is stated for any `Primitives`: functions of the right
  shape, where the shape is what the C types fix (a digest has 32 bytes, a block 16, a CRC is a
  32-bit word or a failure) and the one bound on memory that a caller may rely on, that a base64
  text decodes to at most three bytes for every four letters.

  `Primitives.Lawful` is what the libraries document beyond their types: the cipher is undone by
  its inverse, base64 decoding undoes encoding, and an encoded text has the length and the
  alphabet base64 has.  A theorem that needs a law takes it as a hypothesis.

  `Primitives.reference` is one lawful instance that can be evaluated: CRC-32 and base64 as they
  are, the cipher and the digests replaced by short stand-ins.
-/

import GatewayLoRa.Lib.Base64

namespace GatewayLoRa

open CMemory

/-- The 32 bytes of a SHA-256 digest or an HMAC. -/
abbrev Digest := CArray 32

/-- The 16 bytes the block cipher works on. -/
abbrev Block := CArray 16

/-- The primitives the message handlers and the formatter are built from. -/
structure Primitives where
  /-- `mbedtls_md_hmac`: the key, the message. -/
  hmac : Bytes → Bytes → Digest
  /-- `mbedtls_sha256`. -/
  sha256 : Bytes → Digest
  /-- `MbedCRC<POLY_32BIT_ANSI, 32>::compute`, `none` when it reports a failure. -/
  crc : Bytes → Option UInt32
  /-- `AES::aesEncrypt` under a key. -/
  aesEncrypt : Bytes → Block → Block
  /-- `AES::aesDecrypt` under a key. -/
  aesDecrypt : Bytes → Block → Block
  /-- `mbedtls_base64_encode`: the text it writes. -/
  base64Encode : Bytes → Bytes
  /-- `mbedtls_base64_decode`: the bytes it writes, `none` on an invalid character. -/
  base64Decode : Bytes → Option Bytes
  /-- Four letters hold at most three bytes. -/
  base64Decode_length : ∀ t d, base64Decode t = some d → 4 * d.length ≤ 3 * t.length

/-- **What the libraries document**, as far as a theorem uses it.  No law connects the digests with
    anything: a result that holds of every `Primitives` holds of the real ones and of a hash with
    collisions alike. -/
structure Primitives.Lawful (P : Primitives) : Prop where
  aesDecrypt_aesEncrypt : ∀ key b, P.aesDecrypt key (P.aesEncrypt key b) = b
  base64Decode_encode : ∀ d, P.base64Decode (P.base64Encode d) = some d
  base64Encode_length : ∀ d, (P.base64Encode d).length = 4 * ((d.length + 2) / 3)
  base64Encode_alphabet : ∀ d, ∀ c ∈ P.base64Encode d, Base64.Alphabet c

/-- An encoded text is a C string. -/
theorem Primitives.Lawful.nulFree {P : Primitives} (hP : P.Lawful) (d : Bytes) :
    NulFree (P.base64Encode d) :=
  fun c hc => (hP.base64Encode_alphabet d c hc).ne.1

/-! ## An instance to evaluate

  A concrete input shows that a hypothesis can be met, or that a statement fails.  Where the digest
  itself does not matter for that, a short stand-in keeps the evaluation small. -/

/-- One bit of the reflected CRC-32. -/
def crcBit (c : UInt32) : UInt32 := if c &&& 1 = 1 then (c >>> 1) ^^^ 0xEDB88320 else c >>> 1

/-- CRC-32: initial value and final XOR all ones. -/
def crc32 (data : Bytes) : UInt32 :=
  data.foldl (fun c b => crcBit (crcBit (crcBit (crcBit (crcBit (crcBit (crcBit (crcBit
    (c ^^^ b.toUInt32))))))))) 0xFFFFFFFF ^^^ 0xFFFFFFFF

/-- The bytes folded into a block, to stand for a digest. -/
def fold (k : Nat) (data : Bytes) : CArray k :=
  ⟨List.replicate k (data.foldl (· ^^^ ·) 165), List.length_replicate⟩

/-- A lawful instance: CRC-32 and base64 as they are, stand-ins for the rest. -/
def Primitives.reference : Primitives where
  hmac key message := fold 32 (key ++ message)
  sha256 message := fold 32 message
  crc data := some (crc32 data)
  aesEncrypt _ b := ⟨b.1.map (· ^^^ 165), by rw [List.length_map, b.2]⟩
  aesDecrypt _ b := ⟨b.1.map (· ^^^ 165), by rw [List.length_map, b.2]⟩
  base64Encode := Base64.encode
  base64Decode := Base64.decode
  base64Decode_length := Base64.length_decode

/-- It is lawful: the stand-in for the cipher is its own inverse. -/
theorem Primitives.reference_lawful : Primitives.reference.Lawful where
  aesDecrypt_aesEncrypt _ b := by
    refine Subtype.ext ?_
    show (b.1.map (· ^^^ 165)).map (· ^^^ (165 : UInt8)) = b.1
    rw [List.map_map]
    refine (List.map_congr_left fun c _ => ?_).trans (List.map_id _)
    show c ^^^ 165 ^^^ 165 = c
    rw [UInt8.xor_assoc, UInt8.xor_self, UInt8.xor_zero]
  base64Decode_encode := Base64.decode_encode
  base64Encode_length := Base64.length_encode
  base64Encode_alphabet := Base64.encode_alphabet

example : Primitives.reference.crc (ascii "123456789") = some 0xCBF43926 := by
  decide +kernel

end GatewayLoRa
