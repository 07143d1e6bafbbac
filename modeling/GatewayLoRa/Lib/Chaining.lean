/-
  Cipher block chaining over an arbitrary block cipher.

  A block is any type with an `xor` that cancels; a cipher is a pair of functions `E`, `D` with
  `D` a left inverse of `E`.  Each block is combined with the previous ciphertext block (the
  first with the initialisation vector) before it goes through the cipher, and decryption undoes
  that block by block: `decrypt_encrypt`.  A ciphertext may be followed by anything without
  disturbing what it decrypts to (`decrypt_append`), which is what a receiver that decrypts a
  whole fixed buffer relies on.

  The carry vector is the only state, and after one block it is the ciphertext of that block on both
  sides; so the two functions stay in step whatever the vector was, and the induction needs nothing
  of the cipher but that `D` undoes `E`, and nothing of `xor` but that it cancels from the right.
-/

namespace Chaining

variable {β : Type} (E D : β → β) (xor : β → β → β)

/-- Encrypt a list of blocks, `c` the carry vector. -/
def encrypt (c : β) : List β → List β
  | [] => []
  | b :: bs => E (xor b c) :: encrypt (E (xor b c)) bs

/-- Decrypt a list of blocks, `c` the carry vector. -/
def decrypt (c : β) : List β → List β
  | [] => []
  | e :: es => xor (D e) c :: decrypt e es

variable {E D xor}

@[simp] theorem length_encrypt (c : β) (bs : List β) : (encrypt E xor c bs).length = bs.length := by
  induction bs generalizing c with
  | nil => rfl
  | cons b bs ih => simp [encrypt, ih]

@[simp] theorem length_decrypt (c : β) (es : List β) : (decrypt D xor c es).length = es.length := by
  induction es generalizing c with
  | nil => rfl
  | cons e es ih => simp [decrypt, ih]

/-- **Decryption undoes encryption**, for every carry vector that both sides begin with. -/
theorem decrypt_encrypt (hED : ∀ b, D (E b) = b) (hx : ∀ a b, xor (xor a b) b = a) (c : β)
    (bs : List β) : decrypt D xor c (encrypt E xor c bs) = bs := by
  induction bs generalizing c with
  | nil => rfl
  | cons b bs ih =>
    show xor (D (E (xor b c))) c :: decrypt D xor (E (xor b c)) (encrypt E xor _ bs) = b :: bs
    rw [hED, hx, ih]

/-- What follows a ciphertext does not change what the ciphertext decrypts to. -/
theorem decrypt_append (c : β) (es fs : List β) :
    ∃ gs, decrypt D xor c (es ++ fs) = decrypt D xor c es ++ gs := by
  induction es generalizing c with
  | nil => exact ⟨decrypt D xor c fs, rfl⟩
  | cons e es ih =>
    obtain ⟨gs, h⟩ := ih e
    exact ⟨gs, by simp only [List.cons_append, decrypt, h]⟩

end Chaining
