/-
  HMAC-SHA256 as `hmac_sha256.c` computes it for the signature of a JWT.

  `customJwtHmacSha256` fills three arrays of 64 bytes, puts the key (or its digest) in the first,
  XORs it into the two pads, and hashes twice through `H`, which concatenates in a buffer of its
  own.  The specification is `hmac`: `H (K XOR opad, H (K XOR ipad, data))`.

  The two agree for every key, every text and whatever the uninitialised arrays hold
  (`customJwtHmacSha256_eq`).  What the specification says about keys then holds of the program:
  a key longer than a block is as good as its digest, and NUL bytes at the end of a shorter one
  make no difference (`hmac_long`, `hmac_trailing`).
-/

import GatewayLoRa.JWT
import GatewayLoRa.SHA256

namespace GatewayLoRa

open CMemory

namespace HMAC

/-! ## The program

  Everything that the source leaves uninitialised is a parameter (`Uninit`), so that a result holds
  whatever the stack held.  The heap block of `H` is written from its begin to its end before it is
  read. -/

/-- What two local variables hold before anything is stored in them: `ctx.buf` and `hash.bytes`. -/
structure Uninit where
  buf : CArray 64
  bytes : CArray 32

/-- `(outlen > SHA256_HASH_SIZE) ? SHA256_HASH_SIZE : outlen`. -/
def outSize (outlen : Nat) : Nat := if outlen > 32 then 32 else outlen

/-- `sha256`: the bytes that it copies to `out`. -/
def sha256 (uninit : Uninit) (data : Bytes) (outlen : Nat) : Checked Bytes := do
  let ctx ← SHA256.update (SHA256.initialise uninit.buf) data
  let (_, hash) ← SHA256.finalise ctx uninit.bytes
  .ok (hash.1.take (outSize outlen))

/-- `H`: the buffer is allocated to the length of both. -/
def H (uninit : Uninit) (x y : Bytes) (outlen : Nat) : Checked Bytes :=
  sha256 uninit (x ++ y) outlen

/-- `memset (pad, byte, SHA256_BLOCK_SIZE)`, then `pad[i] ^= k[i]`. -/
def padWith (byte : UInt8) (k : Bytes) : Bytes := k.map (byte ^^^ ·)

/-- The first part of `custom_jwt_hmac_sha256`: the array `k`, zeros with the key at its start, or
    with the digest of a key that is longer than a block. -/
def loadKey (uninit : Uninit) (key : Bytes) : Checked (CArray 64) :=
  let k : CArray 64 := ⟨List.replicate 64 0, List.length_replicate⟩
  if key.length > 64 then do
    let hashed ← sha256 uninit key 64
    writeRange k 0 hashed
  else writeRange k 0 key

/-- `custom_jwt_hmac_sha256`: the bytes that it copies to `out`, their number being its result. -/
def customJwtHmacSha256 (uninit : Uninit) (key data : Bytes) (outlen : Nat) : Checked Bytes := do
  let k ← loadKey uninit key
  let ihash ← H uninit (padWith 0x36 k.1) data 32
  let ohash ← H uninit (padWith 0x5c k.1) ihash 32
  .ok (ohash.take (outSize outlen))

/-! ## The specification

  From RFC 2104, with blocks of 64 bytes and digests of 32. -/

/-- The key as a block: a longer one is hashed first, a shorter one is followed by zeros. -/
def keyBlock (key : Bytes) : Bytes :=
  let k := if key.length > 64 then SHA256.digest key else key
  k ++ List.replicate (64 - k.length) 0

/-- **`H (K XOR opad, H (K XOR ipad, data))`.** -/
def hmac (key data : Bytes) : Bytes :=
  SHA256.digest (padWith 0x5c (keyBlock key) ++
    SHA256.digest (padWith 0x36 (keyBlock key) ++ data))

/-- A digest has 32 bytes, -/
theorem length_digest (m : Bytes) : (SHA256.digest m).length = 32 := SHA256.Words.length_bytes _

/-- and so has an HMAC. -/
theorem length_hmac (key data : Bytes) : (hmac key data).length = 32 := length_digest _

/-! ## The program meets it -/

/-- `sha256` copies as much of the digest as the caller has asked for, and 32 bytes at most. -/
theorem sha256_eq (uninit : Uninit) (data : Bytes) (outlen : Nat) :
    sha256 uninit data outlen = .ok ((SHA256.digest data).take (outSize outlen)) := by
  obtain ⟨ctx, hupdate, habs⟩ :=
    SHA256.update_absorbed (SHA256.initialise_absorbed uninit.buf) data
  obtain ⟨ctx', bytes', hfinal, hdigest⟩ := SHA256.finalise_absorbed habs uninit.bytes
  rw [sha256, hupdate, ok_bind, hfinal, ok_bind]
  show Except.ok (bytes'.1.take (outSize outlen)) = _
  rw [hdigest, List.nil_append]

/-- A digest is copied whole where there is room for it. -/
theorem take_digest (m : Bytes) {outlen : Nat} (h : 32 ≤ outlen) :
    (SHA256.digest m).take (outSize outlen) = SHA256.digest m := by
  apply List.take_of_length_le
  rw [length_digest, outSize]
  split <;> omega

/-- What is written over the start of 64 zeros. -/
theorem write_key {k : Bytes} (h : k.length ≤ 64) :
    ∃ block, writeRange (⟨List.replicate 64 0, List.length_replicate⟩ : CArray 64) 0 k = .ok block ∧
      block.1 = k ++ List.replicate (64 - k.length) 0 := by
  obtain ⟨block, hw, hblock⟩ := writeRange_eq
    (⟨List.replicate 64 0, List.length_replicate⟩ : CArray 64) (i := 0) (x := k) (by omega)
  refine ⟨block, hw, ?_⟩
  rw [hblock, List.take_zero, List.nil_append, Nat.zero_add, List.drop_replicate]

/-- The array `k` holds the key as a block. -/
theorem loadKey_eq (uninit : Uninit) (key : Bytes) :
    ∃ k, loadKey uninit key = .ok k ∧ k.1 = keyBlock key := by
  unfold loadKey keyBlock
  dsimp only
  split
  case isTrue hlong =>
    rw [sha256_eq, ok_bind, take_digest key (by decide)]
    exact write_key (by rw [length_digest]; decide)
  case isFalse hshort => exact write_key (by omega)

/-- **`custom_jwt_hmac_sha256` computes the HMAC.** -/
theorem customJwtHmacSha256_eq (uninit : Uninit) (key data : Bytes) (outlen : Nat) :
    customJwtHmacSha256 uninit key data outlen = .ok ((hmac key data).take (outSize outlen)) := by
  obtain ⟨k, hload, hk⟩ := loadKey_eq uninit key
  rw [customJwtHmacSha256, hload, ok_bind, hk, H, sha256_eq, ok_bind,
    take_digest _ (Nat.le_refl 32), H, sha256_eq, ok_bind, take_digest _ (Nat.le_refl 32)]
  rfl

/-! ## Keys

  Two different keys may give the same signatures.  Both cases are the standard's own, and not
  defects of the code; a shared secret has to be chosen with them in mind. -/

/-- **A key longer than a block is as good as its digest.** -/
theorem hmac_long {key : Bytes} (h : key.length > 64) (data : Bytes) :
    hmac key data = hmac (SHA256.digest key) data := by
  have hblock : keyBlock key = keyBlock (SHA256.digest key) := by
    have hlen := length_digest key
    rw [keyBlock, keyBlock, if_pos h, if_neg (by omega)]
  rw [hmac, hmac, hblock]

/-- **NUL bytes at the end of a key make no difference**, as long as it stays within a block. -/
theorem hmac_trailing {key : Bytes} {n : Nat} (h : key.length + n ≤ 64) (data : Bytes) :
    hmac (key ++ List.replicate n 0) data = hmac key data := by
  have hlen : (key ++ List.replicate n (0 : UInt8)).length = key.length + n := by
    rw [List.length_append, List.length_replicate]
  have hblock : keyBlock (key ++ List.replicate n 0) = keyBlock key := by
    rw [keyBlock, keyBlock, if_neg (by omega), if_neg (by omega), hlen, List.append_assoc,
      List.replicate_append_replicate]
    congr 2
    omega
  rw [hmac, hmac, hblock]

end HMAC

/-! ## The signature of a JWT -/

/-- The primitives with the HMAC of `hmac_sha256.c`. -/
def Primitives.withHMAC (P : Primitives) : Primitives :=
  { P with hmac := fun key data => ⟨HMAC.hmac key data, HMAC.length_hmac key data⟩ }

/-- `CustomJWT::generateSignature`: `hashed` is an array of 32 bytes. -/
def CustomJWT.generateSignatureC (uninit : HMAC.Uninit) (secret data : Bytes) : Checked Bytes := do
  let hashed : CArray 32 := ⟨List.replicate 32 0, List.length_replicate⟩
  let hashed ← writeRange hashed 0 (← HMAC.customJwtHmacSha256 uninit secret data 32)
  .ok (Base64URL.base64urlEncode hashed.1)

/-! ## The results -/

/-- **However a message is cut into calls of `Sha256Update`, the digest is that of the message**,
    and no access leaves the buffer: the padding and the length of FIPS 180-4, whatever the
    uninitialised arrays hold. -/
theorem SHA256.digest_of_chunks (buf : CArray 64) (bytes : CArray 32) (chunks : List Bytes) :
    ∃ ctx ctx' bytes', SHA256.run (SHA256.initialise buf) chunks = .ok ctx ∧
      SHA256.finalise ctx bytes = .ok (ctx', bytes') ∧
      bytes'.1 = SHA256.digest chunks.flatten := by
  obtain ⟨ctx, hrun, habs⟩ := SHA256.run_absorbed (SHA256.initialise_absorbed buf) chunks
  obtain ⟨ctx', bytes', hfinal, hdigest⟩ := SHA256.finalise_absorbed habs bytes
  exact ⟨ctx, ctx', bytes', hrun, hfinal, by rwa [List.nil_append] at hdigest⟩

/-- **The signature of a JWT is the base64url of the HMAC** of RFC 2104 over SHA-256, for every
    secret and every text; secrets longer than 64 bytes are interchangeable with their digests, and
    shorter ones with themselves followed by NUL bytes. -/
theorem CustomJWT.generateSignatureC_eq (P : Primitives) (uninit : HMAC.Uninit)
    (secret data : Bytes) :
    CustomJWT.generateSignatureC uninit secret data =
        .ok (CustomJWT.generateSignature P.withHMAC secret data) ∧
      (secret.length > 64 → CustomJWT.generateSignatureC uninit secret data =
        CustomJWT.generateSignatureC uninit (SHA256.digest secret) data) ∧
      ∀ n, secret.length + n ≤ 64 →
        CustomJWT.generateSignatureC uninit (secret ++ List.replicate n 0) data =
          CustomJWT.generateSignatureC uninit secret data := by
  have heq : ∀ key, CustomJWT.generateSignatureC uninit key data =
      .ok (Base64URL.base64urlEncode (HMAC.hmac key data)) := by
    intro key
    have htake : (HMAC.hmac key data).take (HMAC.outSize 32) = HMAC.hmac key data :=
      List.take_of_length_le (Nat.le_of_eq (HMAC.length_hmac key data))
    obtain ⟨hashed, hw, hhashed⟩ := writeRange_eq
      (⟨List.replicate 32 0, List.length_replicate⟩ : CArray 32) (i := 0) (x := HMAC.hmac key data)
      (by rw [HMAC.length_hmac])
    rw [HMAC.length_hmac, List.take_zero, List.nil_append, List.drop_replicate] at hhashed
    rw [CustomJWT.generateSignatureC, HMAC.customJwtHmacSha256_eq, ok_bind, htake, hw, ok_bind,
      hhashed]
    exact congrArg (fun b => Except.ok (Base64URL.base64urlEncode b)) (List.append_nil _)
  refine ⟨heq secret, ?_, ?_⟩
  · intro hlong
    rw [heq, heq, HMAC.hmac_long hlong]
  · intro n hn
    rw [heq, heq, HMAC.hmac_trailing hn]

end GatewayLoRa
