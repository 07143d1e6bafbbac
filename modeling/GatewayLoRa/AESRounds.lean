/-
  The block cipher of `AES.cpp`: `aesEncrypt` and `aesDecrypt` on the 16 bytes of `m_State`.

  The state is an array, and every layer of a round rewrites it by a loop.  `subBytes` goes byte by
  byte through a table; `shiftRows` packs each row into a word and turns it; `mixColumns` and
  `addRoundKey` go column by column.  Rows and columns are two cuts of the array into quads
  (`rows`, `columns`), so the three loops over words are `Layout.overLanes`, and what has to be
  known about each layer is known of its body:

  * the tables are inverse to each other;
  * a row is turned back as often as it was turned;
  * the two column matrices are circulant, multiplication in the field is additive, and their
    product is the identity (`invMul_mul`) by four identities in one byte each;
  * the same XOR twice is nothing.

  `decryptRounds_encryptRounds` carries this through the rounds: what the decryption loop has
  before round `r` is the substituted and shifted state that encryption had after round `r`.
  **`aesDecrypt_aesEncrypt`** holds for every schedule and every number of rounds, so also for the
  three sizes of key (`expandKey`).

  `char` is `unsigned char`, as it is on the ARM targets of the build: `m_Sbox[m_State[i]]`
  indexes the table by 0 .. 255.
-/

import GatewayLoRa.Lib.Quads
import GatewayLoRa.Primitives

namespace GatewayLoRa

open CMemory

namespace AES

/-! ## The tables

  Copied from the source, byte for byte.  That one undoes the other is all that the theorems use of
  them; the example at the end compares one run of the cipher with the standard's. -/

/-- `m_Sbox`, sixteen entries a line. -/
def sboxTable : List (List UInt8) := [
  [0x63, 0x7C, 0x77, 0x7B, 0xF2, 0x6B, 0x6F, 0xC5, 0x30, 0x01, 0x67, 0x2B, 0xFE, 0xD7, 0xAB, 0x76],
  [0xCA, 0x82, 0xC9, 0x7D, 0xFA, 0x59, 0x47, 0xF0, 0xAD, 0xD4, 0xA2, 0xAF, 0x9C, 0xA4, 0x72, 0xC0],
  [0xB7, 0xFD, 0x93, 0x26, 0x36, 0x3F, 0xF7, 0xCC, 0x34, 0xA5, 0xE5, 0xF1, 0x71, 0xD8, 0x31, 0x15],
  [0x04, 0xC7, 0x23, 0xC3, 0x18, 0x96, 0x05, 0x9A, 0x07, 0x12, 0x80, 0xE2, 0xEB, 0x27, 0xB2, 0x75],
  [0x09, 0x83, 0x2C, 0x1A, 0x1B, 0x6E, 0x5A, 0xA0, 0x52, 0x3B, 0xD6, 0xB3, 0x29, 0xE3, 0x2F, 0x84],
  [0x53, 0xD1, 0x00, 0xED, 0x20, 0xFC, 0xB1, 0x5B, 0x6A, 0xCB, 0xBE, 0x39, 0x4A, 0x4C, 0x58, 0xCF],
  [0xD0, 0xEF, 0xAA, 0xFB, 0x43, 0x4D, 0x33, 0x85, 0x45, 0xF9, 0x02, 0x7F, 0x50, 0x3C, 0x9F, 0xA8],
  [0x51, 0xA3, 0x40, 0x8F, 0x92, 0x9D, 0x38, 0xF5, 0xBC, 0xB6, 0xDA, 0x21, 0x10, 0xFF, 0xF3, 0xD2],
  [0xCD, 0x0C, 0x13, 0xEC, 0x5F, 0x97, 0x44, 0x17, 0xC4, 0xA7, 0x7E, 0x3D, 0x64, 0x5D, 0x19, 0x73],
  [0x60, 0x81, 0x4F, 0xDC, 0x22, 0x2A, 0x90, 0x88, 0x46, 0xEE, 0xB8, 0x14, 0xDE, 0x5E, 0x0B, 0xDB],
  [0xE0, 0x32, 0x3A, 0x0A, 0x49, 0x06, 0x24, 0x5C, 0xC2, 0xD3, 0xAC, 0x62, 0x91, 0x95, 0xE4, 0x79],
  [0xE7, 0xC8, 0x37, 0x6D, 0x8D, 0xD5, 0x4E, 0xA9, 0x6C, 0x56, 0xF4, 0xEA, 0x65, 0x7A, 0xAE, 0x08],
  [0xBA, 0x78, 0x25, 0x2E, 0x1C, 0xA6, 0xB4, 0xC6, 0xE8, 0xDD, 0x74, 0x1F, 0x4B, 0xBD, 0x8B, 0x8A],
  [0x70, 0x3E, 0xB5, 0x66, 0x48, 0x03, 0xF6, 0x0E, 0x61, 0x35, 0x57, 0xB9, 0x86, 0xC1, 0x1D, 0x9E],
  [0xE1, 0xF8, 0x98, 0x11, 0x69, 0xD9, 0x8E, 0x94, 0x9B, 0x1E, 0x87, 0xE9, 0xCE, 0x55, 0x28, 0xDF],
  [0x8C, 0xA1, 0x89, 0x0D, 0xBF, 0xE6, 0x42, 0x68, 0x41, 0x99, 0x2D, 0x0F, 0xB0, 0x54, 0xBB, 0x16]]

/-- `m_InvSbox`. -/
def invSboxTable : List (List UInt8) := [
  [0x52, 0x09, 0x6A, 0xD5, 0x30, 0x36, 0xA5, 0x38, 0xBF, 0x40, 0xA3, 0x9E, 0x81, 0xF3, 0xD7, 0xFB],
  [0x7C, 0xE3, 0x39, 0x82, 0x9B, 0x2F, 0xFF, 0x87, 0x34, 0x8E, 0x43, 0x44, 0xC4, 0xDE, 0xE9, 0xCB],
  [0x54, 0x7B, 0x94, 0x32, 0xA6, 0xC2, 0x23, 0x3D, 0xEE, 0x4C, 0x95, 0x0B, 0x42, 0xFA, 0xC3, 0x4E],
  [0x08, 0x2E, 0xA1, 0x66, 0x28, 0xD9, 0x24, 0xB2, 0x76, 0x5B, 0xA2, 0x49, 0x6D, 0x8B, 0xD1, 0x25],
  [0x72, 0xF8, 0xF6, 0x64, 0x86, 0x68, 0x98, 0x16, 0xD4, 0xA4, 0x5C, 0xCC, 0x5D, 0x65, 0xB6, 0x92],
  [0x6C, 0x70, 0x48, 0x50, 0xFD, 0xED, 0xB9, 0xDA, 0x5E, 0x15, 0x46, 0x57, 0xA7, 0x8D, 0x9D, 0x84],
  [0x90, 0xD8, 0xAB, 0x00, 0x8C, 0xBC, 0xD3, 0x0A, 0xF7, 0xE4, 0x58, 0x05, 0xB8, 0xB3, 0x45, 0x06],
  [0xD0, 0x2C, 0x1E, 0x8F, 0xCA, 0x3F, 0x0F, 0x02, 0xC1, 0xAF, 0xBD, 0x03, 0x01, 0x13, 0x8A, 0x6B],
  [0x3A, 0x91, 0x11, 0x41, 0x4F, 0x67, 0xDC, 0xEA, 0x97, 0xF2, 0xCF, 0xCE, 0xF0, 0xB4, 0xE6, 0x73],
  [0x96, 0xAC, 0x74, 0x22, 0xE7, 0xAD, 0x35, 0x85, 0xE2, 0xF9, 0x37, 0xE8, 0x1C, 0x75, 0xDF, 0x6E],
  [0x47, 0xF1, 0x1A, 0x71, 0x1D, 0x29, 0xC5, 0x89, 0x6F, 0xB7, 0x62, 0x0E, 0xAA, 0x18, 0xBE, 0x1B],
  [0xFC, 0x56, 0x3E, 0x4B, 0xC6, 0xD2, 0x79, 0x20, 0x9A, 0xDB, 0xC0, 0xFE, 0x78, 0xCD, 0x5A, 0xF4],
  [0x1F, 0xDD, 0xA8, 0x33, 0x88, 0x07, 0xC7, 0x31, 0xB1, 0x12, 0x10, 0x59, 0x27, 0x80, 0xEC, 0x5F],
  [0x60, 0x51, 0x7F, 0xA9, 0x19, 0xB5, 0x4A, 0x0D, 0x2D, 0xE5, 0x7A, 0x9F, 0x93, 0xC9, 0x9C, 0xEF],
  [0xA0, 0xE0, 0x3B, 0x4D, 0xAE, 0x2A, 0xF5, 0xB0, 0xC8, 0xEB, 0xBB, 0x3C, 0x83, 0x53, 0x99, 0x61],
  [0x17, 0x2B, 0x04, 0x7E, 0xBA, 0x77, 0xD6, 0x26, 0xE1, 0x69, 0x14, 0x63, 0x55, 0x21, 0x0C, 0x7D]]

/-- Entry `x` of a table. -/
def entry (table : List (List UInt8)) (x : UInt8) : UInt8 :=
  (table.getD (x.toNat / 16) []).getD (x.toNat % 16) 0

/-- `m_Sbox[x]`. -/
def sbox (x : UInt8) : UInt8 := entry sboxTable x

/-- `m_InvSbox[x]`. -/
def invSbox (x : UInt8) : UInt8 := entry invSboxTable x

/-- `m_Rcon`. -/
def rcon : List UInt32 := [
    0x01000000, 0x02000000, 0x04000000, 0x08000000, 0x10000000, 0x20000000, 0x40000000,
    0x80000000, 0x1B000000, 0x36000000]

/-- A property of bytes that holds of 0 .. 255 holds of every byte. -/
theorem forall_byte {p : UInt8 → Prop} (h : ∀ i ∈ List.range 256, p (UInt8.ofNat i)) (x : UInt8) :
    p x := by
  have := h x.toNat (List.mem_range.mpr x.toNat_lt)
  rwa [UInt8.ofNat_toNat] at this

/-- **The tables are inverse.** -/
theorem invSbox_sbox (x : UInt8) : invSbox (sbox x) = x := by
  revert x
  apply forall_byte
  decide +kernel

/-! ## Words -/

/-- `AES::rotWord`. -/
def rotWord (w : UInt32) : UInt32 := (w <<< 8) + (w >>> 24)

/-- `AES::invRotWord`. -/
def invRotWord (w : UInt32) : UInt32 := (w >>> 8) + (w <<< 24)

/-- A turned word is turned back. -/
theorem invRotWord_rotWord (w : UInt32) : invRotWord (rotWord w) = w := by
  rw [← Quad.word_ofWord w, rotWord, Quad.rotate_word, invRotWord, Quad.unrotate_word]

/-- The loop `while (i > 0) { temp = rotate (temp); --i; }`. -/
def turn (rotate : UInt32 → UInt32) : Nat → UInt32 → UInt32
  | 0, w => w
  | i + 1, w => turn rotate i (rotate w)

theorem turn_succ (rotate : UInt32 → UInt32) (i : Nat) (w : UInt32) :
    turn rotate (i + 1) w = rotate (turn rotate i w) := by
  induction i generalizing w with
  | zero => rfl
  | succ i ih =>
    show turn rotate (i + 1) (rotate w) = rotate (turn rotate i (rotate w))
    rw [ih]

/-- **A word is turned back as often as it was turned.** -/
theorem turn_invRotWord (i : Nat) (w : UInt32) : turn invRotWord i (turn rotWord i w) = w := by
  induction i with
  | zero => rfl
  | succ i ih =>
    show turn invRotWord i (invRotWord (turn rotWord (i + 1) w)) = w
    rw [turn_succ, invRotWord_rotWord, ih]

/-- `AES::subWord`: the loop takes the low byte of `w` four times. -/
def subWord (w : UInt32) : UInt32 :=
  let substituted (i : UInt32) := (sbox (w >>> (8 * i)).toUInt8).toUInt32 <<< (8 * i)
  substituted 0 ||| substituted 1 ||| substituted 2 ||| substituted 3

/-! ## Multiplication in the field -/

/-- The variables `p`, `a` and `b` of the loop in `gmul`. -/
structure Product where
  p : UInt8
  a : UInt8
  b : UInt8

/-- One turn of the loop. -/
def Product.step (s : Product) : Product :=
  let p := if s.b &&& 1 ≠ 0 then s.p ^^^ s.a else s.p
  let carry := s.a &&& 0x80
  let a := s.a <<< 1
  let a := if carry ≠ 0 then a ^^^ 0x1B else a
  ⟨p, a, s.b >>> 1⟩

/-- The loop of `gmul`, `n` turns of it. -/
def Product.run : Nat → Product → Product
  | 0, s => s
  | n + 1, s => Product.run n s.step

/-- `AES::gmul`. -/
def gmul (a b : UInt8) : UInt8 := (Product.run 8 ⟨0, a, b⟩).p

/-- Two products with the same second factor, added. -/
def Product.add (s t : Product) : Product := ⟨s.p ^^^ t.p, s.a ^^^ t.a, s.b⟩

/-- Multiplication by two: the shift, and the reduction of what it carries out. -/
def doubled (a : UInt8) : UInt8 := if a &&& 0x80 ≠ 0 then (a <<< 1) ^^^ 0x1B else a <<< 1

/-- The high bit is there or it is not. -/
theorem carry_cases (a : UInt8) : a &&& 0x80 = 0 ∨ a &&& 0x80 = 0x80 := by
  revert a
  apply forall_byte
  decide +kernel

/-- The reduction is additive: two carries cancel. -/
theorem doubled_xor (a b : UInt8) : doubled (a ^^^ b) = doubled a ^^^ doubled b := by
  have hand : (a ^^^ b) &&& 0x80 = (a &&& 0x80) ^^^ (b &&& 0x80) := by
    apply UInt8.toBitVec_inj.mp
    apply BitVec.eq_of_getLsbD_eq
    intro i _
    simp [Bool.and_xor_distrib_right]
  rw [doubled, hand, UInt8.shiftLeft_xor, doubled, doubled]
  generalize a <<< 1 = x
  generalize b <<< 1 = y
  rcases carry_cases a with ha | ha <;> rcases carry_cases b with hb | hb <;> rw [ha, hb]
  · rfl
  · show x ^^^ y ^^^ 0x1B = x ^^^ (y ^^^ 0x1B)
    exact UInt8.xor_assoc ..
  · show x ^^^ y ^^^ 0x1B = x ^^^ 0x1B ^^^ y
    ac_rfl
  · show x ^^^ y = x ^^^ 0x1B ^^^ (y ^^^ 0x1B)
    calc x ^^^ y = x ^^^ y ^^^ (0x1B ^^^ 0x1B) := by rw [UInt8.xor_self, UInt8.xor_zero]
      _ = x ^^^ 0x1B ^^^ (y ^^^ 0x1B) := by ac_rfl

/-- One turn of the loop, its three variables written out. -/
theorem Product.step_eq (s : Product) : s.step =
    ⟨if s.b &&& 1 ≠ 0 then s.p ^^^ s.a else s.p, doubled s.a, s.b >>> 1⟩ := rfl

/-- Two products with the same second factor are added turn by turn, -/
theorem Product.step_add {s t : Product} (h : s.b = t.b) :
    (s.add t).step = s.step.add t.step := by
  obtain ⟨p, a, b⟩ := s
  obtain ⟨p', a', b'⟩ := t
  obtain rfl : b = b' := h
  have hp : (if b &&& 1 ≠ 0 then p ^^^ p' ^^^ (a ^^^ a') else p ^^^ p')
      = (if b &&& 1 ≠ 0 then p ^^^ a else p) ^^^ (if b &&& 1 ≠ 0 then p' ^^^ a' else p') := by
    split
    · ac_rfl
    · rfl
  exact Product.mk.injEq .. ▸ ⟨hp, doubled_xor a a', rfl⟩

/-- so the loop adds them as a whole. -/
theorem Product.run_add (n : Nat) {s t : Product} (h : s.b = t.b) :
    (Product.run n (s.add t)).p = (Product.run n s).p ^^^ (Product.run n t).p := by
  induction n generalizing s t with
  | zero => rfl
  | succ n ih =>
    show (Product.run n (s.add t).step).p = _
    rw [Product.step_add h]
    apply ih
    show s.b >>> 1 = t.b >>> 1
    rw [h]

/-- **Multiplication is additive in its first factor.** -/
theorem gmul_xor (x y c : UInt8) : gmul (x ^^^ y) c = gmul x c ^^^ gmul y c := by
  have hsum : (⟨0, x ^^^ y, c⟩ : Product) = Product.add ⟨0, x, c⟩ ⟨0, y, c⟩ := by
    rw [Product.add, UInt8.xor_self]
  show (Product.run 8 ⟨0, x ^^^ y, c⟩).p = _
  rw [hsum]
  exact Product.run_add 8 rfl

/-! The loop adds the doublings of `a` at the bits of `b`, which gives the multiples that the
    matrices use. -/

/-- The bits of the second factor, as the loop meets them. -/
def bits : Nat → UInt8 → List Bool
  | 0, _ => []
  | n + 1, b => (b &&& 1 != 0) :: bits n (b >>> 1)

/-- The doublings of `a` that a list of bits selects. -/
def selected : List Bool → UInt8 → UInt8
  | [], _ => 0
  | true :: bs, a => a ^^^ selected bs (doubled a)
  | false :: bs, a => selected bs (doubled a)

/-- What the loop adds to `p` are the doublings of `a` that the bits of `b` select, -/
theorem Product.run_eq (n : Nat) (p a b : UInt8) :
    (Product.run n ⟨p, a, b⟩).p = p ^^^ selected (bits n b) a := by
  induction n generalizing p a b with
  | zero => exact UInt8.xor_zero.symm
  | succ n ih =>
    show (Product.run n (Product.step ⟨p, a, b⟩)).p = _
    rw [Product.step_eq, ih, bits]
    cases hb : b &&& 1 != 0 with
    | true =>
      rw [if_pos (bne_iff_ne.mp hb), selected, UInt8.xor_assoc]
    | false =>
      rw [if_neg (not_not_intro (bne_eq_false_iff_eq.mp hb)), selected]

/-- and it begins with nothing. -/
theorem gmul_eq (a b : UInt8) : gmul a b = selected (bits 8 b) a :=
  (Product.run_eq 8 0 a b).trans UInt8.zero_xor

section Multiples

variable (x : UInt8)

/-- The multiples that the two matrices use, in doublings of the byte: twice, -/
theorem gmul_two : gmul x 2 = doubled x := by
  rw [gmul_eq, show bits 8 2 = [false, true, false, false, false, false, false, false] by decide]
  exact UInt8.xor_zero

/-- three times, -/
theorem gmul_three : gmul x 3 = x ^^^ doubled x := by
  rw [gmul_eq, show bits 8 3 = [true, true, false, false, false, false, false, false] by decide]
  simp only [selected, UInt8.xor_zero]

/-- nine times, -/
theorem gmul_nine : gmul x 9 = x ^^^ doubled (doubled (doubled x)) := by
  rw [gmul_eq, show bits 8 9 = [true, false, false, true, false, false, false, false] by decide]
  simp only [selected, UInt8.xor_zero]

/-- eleven times, -/
theorem gmul_eleven : gmul x 0x0b = x ^^^ (doubled x ^^^ doubled (doubled (doubled x))) := by
  rw [gmul_eq, show bits 8 0x0b = [true, true, false, true, false, false, false, false] by decide]
  simp only [selected, UInt8.xor_zero]

/-- thirteen times, -/
theorem gmul_thirteen :
    gmul x 0x0d = x ^^^ (doubled (doubled x) ^^^ doubled (doubled (doubled x))) := by
  rw [gmul_eq, show bits 8 0x0d = [true, false, true, true, false, false, false, false] by decide]
  simp only [selected, UInt8.xor_zero]

/-- and fourteen times. -/
theorem gmul_fourteen :
    gmul x 0x0e = doubled x ^^^ (doubled (doubled x) ^^^ doubled (doubled (doubled x))) := by
  rw [gmul_eq, show bits 8 0x0e = [false, true, true, true, false, false, false, false] by decide]
  simp only [selected, UInt8.xor_zero]

end Multiples

/-! ## Columns

  A column is multiplied by a matrix whose rows are the first one turned.  A circulant matrix
  commutes with turning (`circulant_shifted`), so a product of two of them is determined by its
  first row, and of that row only four entries have to be computed. -/

/-- One row of a matrix of byte functions, applied to a column. -/
def row (f0 f1 f2 f3 : UInt8 → UInt8) (q : Quad) : UInt8 :=
  f0 q.b0 ^^^ f1 q.b1 ^^^ f2 q.b2 ^^^ f3 q.b3

/-- The circulant matrix with that first row. -/
def circulant (f0 f1 f2 f3 : UInt8 → UInt8) (q : Quad) : Quad :=
  ⟨f0 q.b0 ^^^ f1 q.b1 ^^^ f2 q.b2 ^^^ f3 q.b3,
   f3 q.b0 ^^^ f0 q.b1 ^^^ f1 q.b2 ^^^ f2 q.b3,
   f2 q.b0 ^^^ f3 q.b1 ^^^ f0 q.b2 ^^^ f1 q.b3,
   f1 q.b0 ^^^ f2 q.b1 ^^^ f3 q.b2 ^^^ f0 q.b3⟩

/-- A column turned by one place. -/
def shifted (q : Quad) : Quad := ⟨q.b1, q.b2, q.b3, q.b0⟩

/-- Every row of a circulant matrix is the first one on a turned column. -/
theorem circulant_eq (f0 f1 f2 f3 : UInt8 → UInt8) (q : Quad) :
    circulant f0 f1 f2 f3 q = ⟨row f0 f1 f2 f3 q, row f0 f1 f2 f3 (shifted q),
      row f0 f1 f2 f3 (shifted (shifted q)), row f0 f1 f2 f3 (shifted (shifted (shifted q)))⟩ := by
  simp only [circulant, row, shifted, Quad.mk.injEq, true_and]
  refine ⟨?_, ?_, ?_⟩ <;> ac_rfl

/-- A circulant matrix turns its result with its argument. -/
theorem circulant_shifted (f0 f1 f2 f3 : UInt8 → UInt8) (q : Quad) :
    circulant f0 f1 f2 f3 (shifted q) = shifted (circulant f0 f1 f2 f3 q) := by
  rw [circulant_eq, circulant_eq]
  rfl

section Inverse

variable {f0 f1 f2 f3 g0 g1 g2 g3 : UInt8 → UInt8}

/-- The first row of a product, its sixteen terms collected by the byte they are about. -/
theorem row_circulant
    (a0 : ∀ x y, g0 (x ^^^ y) = g0 x ^^^ g0 y) (a1 : ∀ x y, g1 (x ^^^ y) = g1 x ^^^ g1 y)
    (a2 : ∀ x y, g2 (x ^^^ y) = g2 x ^^^ g2 y) (a3 : ∀ x y, g3 (x ^^^ y) = g3 x ^^^ g3 y)
    (q : Quad) : row g0 g1 g2 g3 (circulant f0 f1 f2 f3 q) =
      (g0 (f0 q.b0) ^^^ g1 (f3 q.b0) ^^^ g2 (f2 q.b0) ^^^ g3 (f1 q.b0)) ^^^
      (g0 (f1 q.b1) ^^^ g1 (f0 q.b1) ^^^ g2 (f3 q.b1) ^^^ g3 (f2 q.b1)) ^^^
      (g0 (f2 q.b2) ^^^ g1 (f1 q.b2) ^^^ g2 (f0 q.b2) ^^^ g3 (f3 q.b2)) ^^^
      (g0 (f3 q.b3) ^^^ g1 (f2 q.b3) ^^^ g2 (f1 q.b3) ^^^ g3 (f0 q.b3)) := by
  simp only [row, circulant, a0, a1, a2, a3]
  ac_rfl

/-- **Four identities in one byte make one circulant matrix the inverse of another.** -/
theorem circulant_circulant
    (a0 : ∀ x y, g0 (x ^^^ y) = g0 x ^^^ g0 y) (a1 : ∀ x y, g1 (x ^^^ y) = g1 x ^^^ g1 y)
    (a2 : ∀ x y, g2 (x ^^^ y) = g2 x ^^^ g2 y) (a3 : ∀ x y, g3 (x ^^^ y) = g3 x ^^^ g3 y)
    (h0 : ∀ x, g0 (f0 x) ^^^ g1 (f3 x) ^^^ g2 (f2 x) ^^^ g3 (f1 x) = x)
    (h1 : ∀ x, g0 (f1 x) ^^^ g1 (f0 x) ^^^ g2 (f3 x) ^^^ g3 (f2 x) = 0)
    (h2 : ∀ x, g0 (f2 x) ^^^ g1 (f1 x) ^^^ g2 (f0 x) ^^^ g3 (f3 x) = 0)
    (h3 : ∀ x, g0 (f3 x) ^^^ g1 (f2 x) ^^^ g2 (f1 x) ^^^ g3 (f0 x) = 0) (q : Quad) :
    circulant g0 g1 g2 g3 (circulant f0 f1 f2 f3 q) = q := by
  have hfirst : ∀ q, row g0 g1 g2 g3 (circulant f0 f1 f2 f3 q) = q.b0 := by
    intro q
    rw [row_circulant a0 a1 a2 a3, h0, h1, h2, h3, UInt8.xor_zero, UInt8.xor_zero, UInt8.xor_zero]
  rw [circulant_eq]
  rw [← circulant_shifted, ← circulant_shifted, ← circulant_shifted]
  simp only [hfirst, shifted]

end Inverse

/-- `AES::mul` on the four bytes at `r`. -/
def mul (r : Quad) : Quad :=
  ⟨gmul r.b0 2 ^^^ gmul r.b1 3 ^^^ r.b2 ^^^ r.b3,
   r.b0 ^^^ gmul r.b1 2 ^^^ gmul r.b2 3 ^^^ r.b3,
   r.b0 ^^^ r.b1 ^^^ gmul r.b2 2 ^^^ gmul r.b3 3,
   gmul r.b0 3 ^^^ r.b1 ^^^ r.b2 ^^^ gmul r.b3 2⟩

/-- `AES::invMul`. -/
def invMul (r : Quad) : Quad :=
  ⟨gmul r.b0 0x0e ^^^ gmul r.b1 0x0b ^^^ gmul r.b2 0x0d ^^^ gmul r.b3 9,
   gmul r.b0 9 ^^^ gmul r.b1 0x0e ^^^ gmul r.b2 0x0b ^^^ gmul r.b3 0x0d,
   gmul r.b0 0x0d ^^^ gmul r.b1 9 ^^^ gmul r.b2 0x0e ^^^ gmul r.b3 0x0b,
   gmul r.b0 0x0b ^^^ gmul r.b1 0x0d ^^^ gmul r.b2 9 ^^^ gmul r.b3 0x0e⟩

/-- With this, commutativity and associativity bring the terms of a sum into one order, -/
theorem xor_left_comm (a b c : UInt8) : a ^^^ (b ^^^ c) = b ^^^ (a ^^^ c) := by
  rw [← UInt8.xor_assoc, UInt8.xor_comm a b, UInt8.xor_assoc]

/-- where equal neighbours cancel. -/
theorem xor_cancel_left (a b : UInt8) : a ^^^ (a ^^^ b) = b := by
  rw [← UInt8.xor_assoc, UInt8.xor_self, UInt8.zero_xor]

/-- **The two matrices are inverse.**  In each identity every multiple of the byte, written by
    doubling, occurs an even number of times, but for the byte itself in the first. -/
theorem invMul_mul (r : Quad) : invMul (mul r) = r := by
  show circulant (gmul · 0x0e) (gmul · 0x0b) (gmul · 0x0d) (gmul · 9)
    (circulant (gmul · 2) (gmul · 3) id id r) = r
  apply circulant_circulant <;> try exact fun x y => gmul_xor x y _
  -- the four identities, each in doublings of one byte
  all_goals
    intro x
    simp only [id, gmul_two, gmul_three, gmul_nine, gmul_eleven, gmul_thirteen, gmul_fourteen,
      doubled_xor]
    generalize doubled (doubled (doubled (doubled x))) = x4
    generalize doubled (doubled (doubled x)) = x3
    generalize doubled (doubled x) = x2
    generalize doubled x = x1
    simp only [UInt8.xor_comm, xor_left_comm, xor_cancel_left, UInt8.xor_self, UInt8.xor_zero]

/-! ## The layers of a round

  Each layer has an inverse of its own in the source, and one lemma that says so.  The two layers
  that work on words unpack and pack the quads of a layout. -/

/-- Column `c` is `m_State[4*c]` .. `m_State[4*c+3]`. -/
def columns : Layout 16 4 where
  idx c j := 4 * c + j
  idx_lt := by omega
  idx_inj := by omega
  covers k hk := ⟨k / 4, by omega, k % 4, by omega, by omega⟩

/-- Row `r` is `m_State[r]`, `m_State[r+4]`, `m_State[r+8]`, `m_State[r+12]`. -/
def rows : Layout 16 4 where
  idx r j := r + 4 * j
  idx_lt := by omega
  idx_inj := by omega
  covers k hk := ⟨k % 4, by omega, k / 4, by omega, by omega⟩

/-- `AES::subBytes`. -/
def subBytes (s : Block) : Block := ⟨s.1.map sbox, by rw [List.length_map, s.2]⟩

/-- `AES::invSubBytes`. -/
def invSubBytes (s : Block) : Block := ⟨s.1.map invSbox, by rw [List.length_map, s.2]⟩

/-- `AES::shiftRows`: row `r` as a word, turned left `r` times. -/
def shiftRows (s : Block) : Block :=
  rows.overLanes (fun r q => Quad.ofWord (turn rotWord r q.word)) 4 s

/-- `AES::invShiftRows`. -/
def invShiftRows (s : Block) : Block :=
  rows.overLanes (fun r q => Quad.ofWord (turn invRotWord r q.word)) 4 s

/-- `AES::mixColumns`. -/
def mixColumns (s : Block) : Block := columns.overLanes (fun _ => mul) 4 s

/-- `AES::invMixColumns`. -/
def invMixColumns (s : Block) : Block := columns.overLanes (fun _ => invMul) 4 s

/-- `AES::addRoundKey (round)`, `key` the words of `m_Key`. -/
def addRoundKey (key : List UInt32) (round : Nat) (s : Block) : Block :=
  columns.overLanes (fun c q => Quad.ofWord (q.word ^^^ key.getD (round * 4 + c) 0)) 4 s

/-- The four layers are undone: substitution by the inverse table, -/
theorem invSubBytes_subBytes (s : Block) : invSubBytes (subBytes s) = s := by
  refine Subtype.ext ?_
  show (s.1.map sbox).map invSbox = s.1
  rw [List.map_map]
  exact (List.map_congr_left fun x _ => invSbox_sbox x).trans (List.map_id _)

/-- shifting by shifting back, row by row, -/
theorem invShiftRows_shiftRows (s : Block) : invShiftRows (shiftRows s) = s := by
  apply Layout.overLanes_overLanes
  intro r _ q
  rw [Quad.word_ofWord, turn_invRotWord, Quad.ofWord_word]

/-- mixing by the inverse matrix, column by column, -/
theorem invMixColumns_mixColumns (s : Block) : invMixColumns (mixColumns s) = s :=
  Layout.overLanes_overLanes (fun _ _ => invMul_mul) s

/-- and adding a key by adding it again. -/
theorem addRoundKey_addRoundKey (key : List UInt32) (round : Nat) (s : Block) :
    addRoundKey key round (addRoundKey key round s) = s := by
  apply Layout.overLanes_overLanes
  intro c _ q
  rw [Quad.word_ofWord, UInt32.xor_assoc, UInt32.xor_self, UInt32.xor_zero, Quad.ofWord_word]

/-! ## The rounds

  Encryption ends with a round without mixing, and decryption begins with the inverse of that round.
  So the two loops do not line up layer by layer: the invariant is about the state after
  substitution and shifting. -/

/-- `aesEncrypt` up to the end of the loop body for `r`: the first key, then the rounds 1 .. r. -/
def encryptRounds (key : List UInt32) : Nat → Block → Block
  | 0, s => addRoundKey key 0 s
  | r + 1, s => addRoundKey key (r + 1) (mixColumns (shiftRows (subBytes (encryptRounds key r s))))

/-- `AES::aesEncrypt`. -/
def aesEncrypt (key : List UInt32) (rounds : Nat) (s : Block) : Block :=
  addRoundKey key rounds (shiftRows (subBytes (encryptRounds key (rounds - 1) s)))

/-- The loop of `aesDecrypt`, from `r` down to 1. -/
def decryptRounds (key : List UInt32) : Nat → Block → Block
  | 0, s => s
  | r + 1, s =>
      decryptRounds key r (invMixColumns (addRoundKey key (r + 1) (invSubBytes (invShiftRows s))))

/-- `AES::aesDecrypt`. -/
def aesDecrypt (key : List UInt32) (rounds : Nat) (s : Block) : Block :=
  addRoundKey key 0 (invSubBytes (invShiftRows
    (decryptRounds key (rounds - 1) (addRoundKey key rounds s))))

/-- **The rounds come apart in the opposite order**: what decryption has before round `r` is what
    encryption had after it, substituted and shifted. -/
theorem decryptRounds_encryptRounds (key : List UInt32) (r : Nat) (s : Block) :
    decryptRounds key r (shiftRows (subBytes (encryptRounds key r s))) =
      shiftRows (subBytes (addRoundKey key 0 s)) := by
  induction r with
  | zero => rfl
  | succ r ih =>
    rw [decryptRounds, invShiftRows_shiftRows, invSubBytes_subBytes, encryptRounds,
      addRoundKey_addRoundKey, invMixColumns_mixColumns, ih]

/-- **Decryption undoes encryption**, for every schedule and every number of rounds. -/
theorem aesDecrypt_aesEncrypt (key : List UInt32) (rounds : Nat) (s : Block) :
    aesDecrypt key rounds (aesEncrypt key rounds s) = s := by
  rw [aesDecrypt, aesEncrypt, addRoundKey_addRoundKey, decryptRounds_encryptRounds,
    invShiftRows_shiftRows, invSubBytes_subBytes, addRoundKey_addRoundKey]

/-! ## The key schedule

  The schedule is a list that grows by one word at a time; the source writes the words into the
  array `m_Key`.  No theorem depends on what the words are. -/

/-- `AES::KeySize`. -/
inductive KeySize
  | key128 | key192 | key256
deriving DecidableEq, Repr

/-- The value of the enumerator: the words of the key. -/
def KeySize.words : KeySize → Nat
  | .key128 => 4
  | .key192 => 6
  | .key256 => 8

/-- `m_Rounds = (int)keySize + 6`. -/
def KeySize.rounds (size : KeySize) : Nat := size.words + 6

/-- `(key[4*i] << 24) + (key[4*i+1] << 16) + (key[4*i+2] << 8) + key[4*i+3]`. -/
def keyWord (key : Bytes) (i : Nat) : UInt32 :=
  Quad.word ⟨key.getD (4 * i) 0, key.getD (4 * i + 1) 0, key.getD (4 * i + 2) 0,
    key.getD (4 * i + 3) 0⟩

/-- One turn of the second loop of `expandKey`, `i` the words that `m_Key` has so far. -/
def expandStep (nk : Nat) (words : List UInt32) : List UInt32 :=
  let i := words.length
  let temp := words.getD (i - 1) 0
  let temp :=
    if i % nk = 0 then subWord (rotWord temp) ^^^ rcon.getD (i / nk - 1) 0
    else if nk > 6 ∧ i % nk = 4 then subWord temp
    else temp
  words ++ [words.getD (i - nk) 0 ^^^ temp]

/-- The second loop, `n` turns of it. -/
def expandLoop (nk : Nat) : Nat → List UInt32 → List UInt32
  | 0, words => words
  | n + 1, words => expandLoop nk n (expandStep nk words)

/-- `AES::expandKey`: the words of `m_Key` that it writes. -/
def expandKey (size : KeySize) (key : Bytes) : List UInt32 :=
  expandLoop size.words (4 * (size.rounds + 1) - size.words)
    ((List.range size.words).map (keyWord key))

-- The 256-bit example of the cipher's standard.
set_option maxRecDepth 4000 in
example : (aesEncrypt (expandKey .key256 ((List.range 32).map UInt8.ofNat)) KeySize.key256.rounds
    ⟨(List.range 16).map fun i => UInt8.ofNat (17 * i), rfl⟩).1 =
    [0x8e, 0xa2, 0xb7, 0xca, 0x51, 0x67, 0x45, 0xbf, 0xea, 0xfc, 0x49, 0x90, 0x4b, 0x49, 0x60,
      0x89] := by
  decide +kernel

end AES

end GatewayLoRa
