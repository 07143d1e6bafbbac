/-
  The JWT of a message: `Base64URL`, `CustomJWT` and its facade `JWTManager`.

  A token is `header.payload.signature`, each part in base64url without padding.  What matters for
  the arrays it is written into is how long it gets: `length_base64urlEncode`, `length_encodeJWT`.
  The arrays are allocated by `allocateJWTMemory` from maximum lengths given to the constructor,
  `JWTManager` gives 256 for the payload; nothing compares a payload with it.

  What `encodeJWT` writes is given here as a text (`CustomJWT.encodeJWT`), and what it writes it
  into as a number of bytes (`allocation`).  The two are compared by `Fits`; that the comparison
  fails for the messages of this gateway, and how far a text may go, is the subject of other
  modules.
-/

import GatewayLoRa.Primitives

namespace GatewayLoRa

open CMemory

/-! ## Base64URL -/

namespace Base64URL

/-- `base64urlEncTable`. -/
def base64urlEncTable (n : Nat) : UInt8 :=
  if n = 62 then 45 else if n = 63 then 95 else Base64.letter n

/-- `base64urlEncode`: four letters for three bytes, no padding. -/
def base64urlEncode : Bytes → Bytes
  | a :: b :: c :: l =>
      base64urlEncTable (a.toNat / 4) :: base64urlEncTable (a.toNat % 4 * 16 + b.toNat / 16) ::
        base64urlEncTable (b.toNat % 16 * 4 + c.toNat / 64) ::
        base64urlEncTable (c.toNat % 64) :: base64urlEncode l
  | [a, b] =>
      [base64urlEncTable (a.toNat / 4), base64urlEncTable (a.toNat % 4 * 16 + b.toNat / 16),
        base64urlEncTable (b.toNat % 16 * 4)]
  | [a] => [base64urlEncTable (a.toNat / 4), base64urlEncTable (a.toNat % 4 * 16)]
  | [] => []

/-- Without padding `n` bytes take `4 * n / 3` letters, rounded up. -/
theorem length_base64urlEncode (d : Bytes) : (base64urlEncode d).length = (4 * d.length + 2) / 3 := by
  induction d using base64urlEncode.induct with
  | case1 a b c l ih =>
    simp only [base64urlEncode, List.length_cons, ih]
    omega
  | case2 a b => simp [base64urlEncode]
  | case3 a => simp [base64urlEncode]
  | case4 => simp [base64urlEncode]

example : base64urlEncode (ascii "\x7b\"alg\": \"HS256\",\"typ\":\"JWT\"\x7d")
    = ascii "eyJhbGciOiAiSFMyNTYiLCJ0eXAiOiJKV1QifQ" := by decide

end Base64URL

/-! ## CustomJWT -/

namespace CustomJWT

/-- The lengths that `allocateJWTMemory` computes from the maxima. -/
structure Allocation where
  b64HeaderLen : Nat
  b64PayloadLen : Nat
  b64SigLen : Nat
  maxOutputLen : Nat
  deriving DecidableEq

/-- `(size_t)(4.0 * (maxLen / 3.0)) + 5`.  For the three maxima in use the products are 53.3, 341.3
    and 42.7, far from an integer, so the rounding of the quotient does not matter. -/
def b64Len (maxLen : Nat) : Nat := 4 * maxLen / 3 + 5

/-- `allocateJWTMemory`. -/
def allocateJWTMemory (maxHeadLen maxPayloadLen maxSigLen : Nat) : Allocation where
  b64HeaderLen := b64Len maxHeadLen
  b64PayloadLen := b64Len maxPayloadLen
  b64SigLen := b64Len maxSigLen
  maxOutputLen := b64Len maxHeadLen + b64Len maxPayloadLen + b64Len maxSigLen + 4

/-- `headerJSON`. -/
def headerJSON : Bytes := ascii "\x7b\"alg\": \"HS256\",\"typ\":\"JWT\"\x7d"

/-- `toHash`: what is signed. -/
def toHash (string : Bytes) : Bytes :=
  Base64URL.base64urlEncode headerJSON ++ ascii "." ++ Base64URL.base64urlEncode string

/-- `generateSignature`; the HMAC-SHA256 of `hmac_sha256.c`. -/
def generateSignature (P : Primitives) (secret data : Bytes) : Bytes :=
  Base64URL.base64urlEncode (P.hmac secret data).1

/-- `encodeJWT`: what it leaves in `out`. -/
def encodeJWT (P : Primitives) (secret string : Bytes) : Bytes :=
  toHash string ++ ascii "." ++ generateSignature P secret (toHash string)

/-- The header takes 38 letters and the signature 43. -/
theorem length_encodeJWT (P : Primitives) (secret string : Bytes) :
    (encodeJWT P secret string).length = 83 + (4 * string.length + 2) / 3 := by
  have hheader : headerJSON.length = 28 := by decide
  have hdot : (ascii ".").length = 1 := by decide
  simp only [encodeJWT, toHash, generateSignature, List.length_append,
    Base64URL.length_base64urlEncode, hheader, hdot, (P.hmac secret _).2]
  omega

end CustomJWT

/-! ## JWTManager -/

namespace JWTManager

/-- `JWT_KEY`, the secret that the tokens are signed with. -/
def JWTKey : Bytes := ascii "a-string-secret-at-least-256-bits-long"

/-- The maximum that `JWTManager` gives for the payload. -/
def maxPayloadLen : Nat := 256

/-- What `allocateJWTMemory` allocates for `JWTManager`. -/
def allocation : CustomJWT.Allocation := CustomJWT.allocateJWTMemory 40 maxPayloadLen 32

example : allocation = ⟨58, 346, 47, 455⟩ := by decide

/-- `encodeJWT (payloadToJWT, jwtEncoded)`: the string it leaves in `jwtEncoded`. -/
def encodeJWT (P : Primitives) (payloadToJWT : Bytes) : Bytes :=
  CustomJWT.encodeJWT P JWTKey payloadToJWT

/-- **The allocated arrays hold the token of a text**: the payload with its NUL, and the whole token
    with its NUL. -/
def Fits (P : Primitives) (payloadToJWT : Bytes) : Prop :=
  (Base64URL.base64urlEncode payloadToJWT).length + 1 ≤ allocation.b64PayloadLen ∧
    (encodeJWT P payloadToJWT).length + 1 ≤ allocation.maxOutputLen

/-- The payload array holds the base64url of a text of at most 258 bytes, and only of such. -/
theorem payload_fits_iff (payloadToJWT : Bytes) :
    (Base64URL.base64urlEncode payloadToJWT).length + 1 ≤ allocation.b64PayloadLen ↔
      payloadToJWT.length ≤ 258 := by
  have halloc : allocation.b64PayloadLen = 346 := by decide
  rw [Base64URL.length_base64urlEncode, halloc]
  omega

/-- The output array holds the token of a text of at most 278 bytes, and only of such. -/
theorem output_fits_iff (P : Primitives) (payloadToJWT : Bytes) :
    (encodeJWT P payloadToJWT).length + 1 ≤ allocation.maxOutputLen ↔
      payloadToJWT.length ≤ 278 := by
  have halloc : allocation.maxOutputLen = 455 := by decide
  rw [encodeJWT, CustomJWT.length_encodeJWT, halloc]
  omega

end JWTManager

end GatewayLoRa
