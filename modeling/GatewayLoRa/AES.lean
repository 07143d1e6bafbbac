/-
  `AES::encrypt` and `AES::decrypt` in CBC mode, over an arbitrary block cipher.

  The C++ loops take the source 16 bytes at a time, combine each block with the carry vector, and
  treat a last partial block by ciphertext stealing.  `encryptLoop` and `decryptLoop` are those
  loops; their first argument counts iterations and is never what stops them (the callers pass
  the length of the source, and every iteration consumes 16 bytes of it).

  The handlers only ever cipher whole blocks.  On whole blocks the loops are cipher block chaining
  as `Chaining` has it (`encryptLoop_eq`, `decryptLoop_eq`), so the two facts a receiver needs
  come from there:

  * `decrypt_encrypt` — decrypting a buffer that begins with a ciphertext gives back the plaintext
    it was made from, whatever stands behind it in the buffer.

  The crux is that the carry vector is the previous ciphertext block on both sides, so decryption
  can begin anywhere in a ciphertext and does not depend on what stands behind it.  The receiver
  relies on this: it decrypts a whole buffer of which the ciphertext takes only the first part.
-/

import GatewayLoRa.Lib.Chaining
import GatewayLoRa.Primitives

namespace GatewayLoRa

open CMemory

/-! ## Blocks -/

/-- The next 16 bytes of a source, zeros after its end (`memcpy` into the state array, `memset`). -/
def block (s : Bytes) : Block := ⟨(s ++ List.replicate 16 0).take 16, by simp⟩

/-- `m_State[i] ^ m_CarryVector[i]` for all 16 bytes. -/
def xorBlock (a b : Block) : Block :=
  ⟨List.zipWith (· ^^^ ·) a.1 b.1, by
    rw [List.length_zipWith, a.2, b.2, Nat.min_self]⟩

/-- XOR with the same bytes twice gives the first bytes back. -/
theorem zipWith_xor_cancel (a b : Bytes) (h : a.length ≤ b.length) :
    List.zipWith (· ^^^ ·) (List.zipWith (· ^^^ ·) a b) b = a := by
  induction a generalizing b with
  | nil => rfl
  | cons x a ih =>
    cases b with
    | nil => exact absurd h (by simp)
    | cons y b =>
      simp only [List.zipWith_cons_cons, UInt8.xor_assoc, UInt8.xor_self, UInt8.xor_zero,
        ih b (by simpa using h)]

/-- So it is for blocks, which are all of one length. -/
theorem xorBlock_cancel (a b : Block) : xorBlock (xorBlock a b) b = a :=
  Subtype.ext (zipWith_xor_cancel a.1 b.1 (Nat.le_of_eq (a.2.trans b.2.symm)))

/-- The first `k` blocks of a source. -/
def blocks : Nat → Bytes → List Block
  | 0, _ => []
  | k + 1, s => block s :: blocks k (s.drop 16)

/-- The bytes of a list of blocks. -/
def blockBytes (bs : List Block) : Bytes := bs.flatMap (·.1)

/-- The next block of a source that begins with one. -/
theorem block_append (b : Block) (s : Bytes) : block (b.1 ++ s) = b := by
  refine Subtype.ext ?_
  show (b.1 ++ s ++ List.replicate 16 0).take 16 = b.1
  rw [List.append_assoc]
  exact List.take_left' b.2

/-- A whole block is not padded. -/
theorem block_bytes {s : Bytes} (h : 16 ≤ s.length) : (block s).1 = s.take 16 := by
  show (s ++ List.replicate 16 0).take 16 = s.take 16
  exact List.take_append_of_le_length h

/-- A block has 16 bytes. -/
theorem length_blockBytes (bs : List Block) : (blockBytes bs).length = 16 * bs.length := by
  induction bs with
  | nil => rfl
  | cons b bs ih =>
    show (b.1 ++ blockBytes bs).length = _
    rw [List.length_append, b.2, ih, List.length_cons]
    omega

/-- As many blocks as are asked for, a source that is too short being filled up with zeros. -/
theorem length_blocks (k : Nat) (s : Bytes) : (blocks k s).length = k := by
  induction k generalizing s with
  | zero => rfl
  | succ k ih => rw [blocks, List.length_cons, ih]

/-- A source of whole blocks is put together again from them. -/
theorem blockBytes_blocks {k : Nat} {s : Bytes} (h : s.length = 16 * k) :
    blockBytes (blocks k s) = s := by
  induction k generalizing s with
  | zero => rw [List.eq_nil_of_length_eq_zero h]; rfl
  | succ k ih =>
    show (block s).1 ++ blockBytes (blocks k (s.drop 16)) = s
    rw [ih (by rw [List.length_drop]; omega), block_bytes (by omega), List.take_append_drop]

/-- The blocks of a source that begins with blocks. -/
theorem blocks_append (bs : List Block) (k : Nat) (s : Bytes) :
    blocks (bs.length + k) (blockBytes bs ++ s) = bs ++ blocks k s := by
  induction bs with
  | nil => simp [blockBytes]
  | cons b bs ih =>
    rw [List.length_cons, Nat.add_right_comm, blocks]
    show block (b.1 ++ blockBytes bs ++ s) :: blocks _ ((b.1 ++ blockBytes bs ++ s).drop 16) = _
    rw [List.append_assoc, block_append, List.drop_left' b.2, ih]
    rfl

/-! ## The loops -/

namespace AES

variable (E D : Block → Block)

/-- `AES::encrypt`, the loop: `carry` is `m_CarryVector`, `src` what is left of the source. -/
def encryptLoop : Nat → Block → Bytes → Bytes
  | 0, _, _ => []
  | n + 1, carry, src =>
      if src = [] then []
      else
        let state := E (xorBlock (block src) carry)
        let rest := src.drop 16
        -- ciphertext stealing: the last partial block goes through the cipher a second time
        if 0 < rest.length ∧ rest.length < 16 then
          (E (xorBlock (block rest) state)).1 ++ state.1.take rest.length
        else state.1 ++ encryptLoop n state rest

/-- `AES::encrypt (data, length)`: what it writes over the start of the data. -/
def encrypt (iv : Block) (data : Bytes) : Bytes := encryptLoop E data.length iv data

/-- `AES::decrypt`, the loop. -/
def decryptLoop : Nat → Block → Bytes → Bytes
  | 0, _, _ => []
  | n + 1, carry, src =>
      if src = [] then []
      else
        let state := D (block src)
        let rest := src.drop 16
        if 0 < rest.length ∧ rest.length < 16 then
          let stolen := xorBlock state (block rest)
          (xorBlock (D (block (rest ++ stolen.1.drop rest.length))) carry).1 ++
            stolen.1.take rest.length
        else (xorBlock state carry).1 ++ decryptLoop n (block src) rest

/-- `AES::decrypt (data, length)` on a source of at least one block. -/
def decrypt (iv : Block) (data : Bytes) : Bytes := decryptLoop D data.length iv data

/-- **On whole blocks the encryption loop is cipher block chaining.** -/
theorem encryptLoop_eq {k n : Nat} (carry : Block) {src : Bytes} (h : src.length = 16 * k)
    (hn : k ≤ n) :
    encryptLoop E n carry src = blockBytes (Chaining.encrypt E xorBlock carry (blocks k src)) := by
  induction k generalizing n carry src with
  | zero =>
    rw [List.eq_nil_of_length_eq_zero h]
    cases n <;> rfl
  | succ k ih =>
    -- a block is left, so the loop turns once more, and what is left then is not a partial block
    obtain ⟨n, rfl⟩ : ∃ m, n = m + 1 := ⟨n - 1, by omega⟩
    have hne : src ≠ [] := by
      rintro rfl
      simp at h
    have hrest : (src.drop 16).length = 16 * k := by
      rw [List.length_drop]
      omega
    rw [encryptLoop, if_neg hne, if_neg (by omega), ih _ hrest (by omega)]
    rfl

/-- **On whole blocks the decryption loop is cipher block chaining.** -/
theorem decryptLoop_eq {k n : Nat} (carry : Block) {src : Bytes} (h : src.length = 16 * k)
    (hn : k ≤ n) :
    decryptLoop D n carry src = blockBytes (Chaining.decrypt D xorBlock carry (blocks k src)) := by
  induction k generalizing n carry src with
  | zero =>
    rw [List.eq_nil_of_length_eq_zero h]
    cases n <;> rfl
  | succ k ih =>
    obtain ⟨n, rfl⟩ : ∃ m, n = m + 1 := ⟨n - 1, by omega⟩
    have hne : src ≠ [] := by
      rintro rfl
      simp at h
    have hrest : (src.drop 16).length = 16 * k := by
      rw [List.length_drop]
      omega
    rw [decryptLoop, if_neg hne, if_neg (by omega), ih _ hrest (by omega)]
    rfl

/-- On whole blocks the ciphertext is as long as the plaintext, -/
theorem length_encrypt {k : Nat} (iv : Block) {data : Bytes} (h : data.length = 16 * k) :
    (encrypt E iv data).length = 16 * k := by
  rw [encrypt, encryptLoop_eq E iv h (by omega), length_blockBytes, Chaining.length_encrypt,
    length_blocks]

/-- and the plaintext as long as the ciphertext. -/
theorem length_decrypt {k : Nat} (iv : Block) {data : Bytes} (h : data.length = 16 * k) :
    (decrypt D iv data).length = 16 * k := by
  rw [decrypt, decryptLoop_eq D iv h (by omega), length_blockBytes, Chaining.length_decrypt,
    length_blocks]

variable {E D}

/-- **A buffer that begins with a ciphertext decrypts to one that begins with its plaintext.** -/
theorem decrypt_encrypt (hED : ∀ b, D (E b) = b) (iv : Block) {data rest : Bytes} {k j : Nat}
    (h : data.length = 16 * k) (hrest : rest.length = 16 * j) :
    ∃ rest', decrypt D iv (encrypt E iv data ++ rest) = data ++ rest' := by
  have hlen := length_encrypt E iv h
  have hc : encrypt E iv data = blockBytes (Chaining.encrypt E xorBlock iv (blocks k data)) :=
    encryptLoop_eq E iv h (by omega)
  have hk : (Chaining.encrypt E xorBlock iv (blocks k data)).length = k := by
    rw [Chaining.length_encrypt, length_blocks]
  have hall : (encrypt E iv data ++ rest).length = 16 * (k + j) := by
    rw [List.length_append, hlen, hrest]
    omega
  have hblocks : blocks (k + j) (encrypt E iv data ++ rest)
      = Chaining.encrypt E xorBlock iv (blocks k data) ++ blocks j rest := by
    have := blocks_append (Chaining.encrypt E xorBlock iv (blocks k data)) j rest
    rwa [hk, ← hc] at this
  -- what stands behind the ciphertext decrypts to something, and does not reach back
  obtain ⟨gs, hgs⟩ : ∃ gs, Chaining.decrypt D xorBlock iv
      (Chaining.encrypt E xorBlock iv (blocks k data) ++ blocks j rest) =
        Chaining.decrypt D xorBlock iv (Chaining.encrypt E xorBlock iv (blocks k data)) ++ gs :=
    Chaining.decrypt_append iv _ _
  refine ⟨blockBytes gs, ?_⟩
  rw [decrypt, decryptLoop_eq D iv hall (by omega), hblocks, hgs,
    Chaining.decrypt_encrypt hED xorBlock_cancel]
  show blockBytes (blocks k data ++ gs) = data ++ blockBytes gs
  rw [blockBytes, List.flatMap_append]
  exact congrArg (· ++ blockBytes gs) (blockBytes_blocks h)

end AES

end GatewayLoRa
