/-
  Four bytes at a time: words, and arrays cut into lanes.

  1. **Words.** A 32-bit word and its four bytes, most significant first.  `word` adds the shifted
     bytes, `ofWord` shifts them out again, and the two are inverse (`ofWord_word`,
     `word_ofWord`), so an operation on words is an operation on the four bytes: XOR acts byte by
     byte, a rotation by eight bits turns the four bytes round.

  2. **Lanes.** An array cut into quads by a map `idx`: the byte `j` of lane `i` stands at
     `idx i j`.  The rows and the columns of a square are two such cuts of the same array.  A loop
     that rewrites one lane after another (`overLanes`) does to every lane what its body does to
     that lane (`lane_overLanes`), because no lane touches another; and two such loops undo each
     other as soon as their bodies do (`overLanes_overLanes`).
-/

import GatewayLoRa.Lib.CMemory

namespace CMemory

/-- Four bytes, in the order in which they stand. -/
structure Quad where
  b0 : UInt8
  b1 : UInt8
  b2 : UInt8
  b3 : UInt8
deriving DecidableEq

namespace Quad

/-! ## Words -/

/-- `(b0 << 24) + (b1 << 16) + (b2 << 8) + b3`. -/
def word (q : Quad) : UInt32 :=
  (q.b0.toUInt32 <<< 24) + (q.b1.toUInt32 <<< 16) + (q.b2.toUInt32 <<< 8) + q.b3.toUInt32

/-- `w >> 24`, `w >> 16`, `w >> 8`, `w`, each stored in a byte. -/
def ofWord (w : UInt32) : Quad :=
  ⟨(w >>> 24).toUInt8, (w >>> 16).toUInt8, (w >>> 8).toUInt8, w.toUInt8⟩

/-- The value of a word, in the values of its bytes.  The sums do not overflow, because each byte
    has its own eight bits. -/
theorem toNat_word (q : Quad) : q.word.toNat =
    q.b0.toNat * 2 ^ 24 + q.b1.toNat * 2 ^ 16 + q.b2.toNat * 2 ^ 8 + q.b3.toNat := by
  have h0 := q.b0.toNat_lt
  have h1 := q.b1.toNat_lt
  have h2 := q.b2.toNat_lt
  have h3 := q.b3.toNat_lt
  simp only [word, UInt32.toNat_add, UInt32.toNat_shiftLeft, UInt8.toNat_toUInt32,
    UInt32.reduceToNat, Nat.shiftLeft_eq, Nat.reduceMod]
  omega

/-- Shifting a word right and keeping eight bits is one digit to the base 256. -/
theorem toNat_byte (w : UInt32) (k : UInt32) (h : k.toNat < 32) :
    (w >>> k).toUInt8.toNat = w.toNat / 2 ^ k.toNat % 256 := by
  rw [UInt32.toNat_toUInt8, UInt32.toNat_shiftRight, Nat.mod_eq_of_lt h, Nat.shiftRight_eq_div_pow]

/-- **The bytes of a word are the bytes it was made of.** -/
theorem ofWord_word (q : Quad) : ofWord q.word = q := by
  obtain ⟨b0, b1, b2, b3⟩ := q
  have h0 := b0.toNat_lt
  have h1 := b1.toNat_lt
  have h2 := b2.toNat_lt
  have h3 := b3.toNat_lt
  have hw := toNat_word ⟨b0, b1, b2, b3⟩
  simp only at hw
  refine Quad.mk.injEq .. ▸ ⟨?_, ?_, ?_, ?_⟩ <;> apply UInt8.toNat_inj.mp
  · rw [toNat_byte _ 24 (by decide), hw]
    show _ / 2 ^ 24 % 256 = _
    omega
  · rw [toNat_byte _ 16 (by decide), hw]
    show _ / 2 ^ 16 % 256 = _
    omega
  · rw [toNat_byte _ 8 (by decide), hw]
    show _ / 2 ^ 8 % 256 = _
    omega
  · rw [UInt32.toNat_toUInt8, hw]
    omega

/-- **A word is made of its bytes.** -/
theorem word_ofWord (w : UInt32) : (ofWord w).word = w := by
  have hw := w.toNat_lt
  apply UInt32.toNat_inj.mp
  rw [toNat_word]
  simp only [ofWord, toNat_byte _ 24 (by decide), toNat_byte _ 16 (by decide),
    toNat_byte _ 8 (by decide), UInt32.toNat_toUInt8, UInt32.reduceToNat]
  omega

/-- A left rotation by eight bits takes the first byte to the end. -/
theorem rotate_word (q : Quad) :
    (q.word <<< 8) + (q.word >>> 24) = (⟨q.b1, q.b2, q.b3, q.b0⟩ : Quad).word := by
  have h0 := q.b0.toNat_lt
  have h1 := q.b1.toNat_lt
  have h2 := q.b2.toNat_lt
  have h3 := q.b3.toNat_lt
  have hw := toNat_word q
  have hhigh : q.word.toNat / 2 ^ 24 = q.b0.toNat := by omega
  have hlow : q.word.toNat * 2 ^ 8 % 2 ^ 32
      = q.b1.toNat * 2 ^ 24 + q.b2.toNat * 2 ^ 16 + q.b3.toNat * 2 ^ 8 := by omega
  apply UInt32.toNat_inj.mp
  simp only [UInt32.toNat_add, UInt32.toNat_shiftLeft, UInt32.toNat_shiftRight,
    UInt32.reduceToNat, Nat.shiftLeft_eq, Nat.shiftRight_eq_div_pow, Nat.reduceMod, hhigh, hlow]
  rw [← toNat_word ⟨q.b1, q.b2, q.b3, q.b0⟩]
  exact Nat.mod_eq_of_lt (UInt32.toNat_lt _)

/-- A right rotation by eight bits takes the last byte to the front. -/
theorem unrotate_word (q : Quad) :
    (q.word >>> 8) + (q.word <<< 24) = (⟨q.b3, q.b0, q.b1, q.b2⟩ : Quad).word := by
  have h0 := q.b0.toNat_lt
  have h1 := q.b1.toNat_lt
  have h2 := q.b2.toNat_lt
  have h3 := q.b3.toNat_lt
  have hw := toNat_word q
  have hhigh : q.word.toNat / 2 ^ 8
      = q.b0.toNat * 2 ^ 16 + q.b1.toNat * 2 ^ 8 + q.b2.toNat := by omega
  have hlow : q.word.toNat * 2 ^ 24 % 2 ^ 32 = q.b3.toNat * 2 ^ 24 := by omega
  apply UInt32.toNat_inj.mp
  simp only [UInt32.toNat_add, UInt32.toNat_shiftLeft, UInt32.toNat_shiftRight,
    UInt32.reduceToNat, Nat.shiftLeft_eq, Nat.shiftRight_eq_div_pow, Nat.reduceMod, hhigh, hlow]
  rw [Nat.add_comm, ← Nat.add_assoc, ← Nat.add_assoc, ← toNat_word ⟨q.b3, q.b0, q.b1, q.b2⟩]
  exact Nat.mod_eq_of_lt (UInt32.toNat_lt _)

end Quad

/-! ## Arrays by index

  The array as a loop over indices sees it.  These reads are total: a layout says that its indices
  are inside. -/

/-- `s[i]`. -/
def CArray.at {n : Nat} (s : CArray n) (i : Nat) : UInt8 := s.1.getD i 0

/-- `s[i] = x`. -/
def CArray.put {n : Nat} (s : CArray n) (i : Nat) (x : UInt8) : CArray n :=
  ⟨s.1.set i x, by rw [List.length_set, s.2]⟩

section At

variable {n : Nat} {s t : CArray n}

/-- A byte that was written is read, -/
theorem CArray.at_put_self {i : Nat} (h : i < n) (x : UInt8) : (s.put i x).at i = x := by
  have : i < s.1.length := by rw [s.2]; exact h
  simp [CArray.at, CArray.put, this]

/-- and the others are what they were. -/
theorem CArray.at_put_of_ne {i j : Nat} (h : i ≠ j) (x : UInt8) : (s.put i x).at j = s.at j := by
  simp [CArray.at, CArray.put, h]

/-- An array is what its bytes are. -/
theorem CArray.ext_at (h : ∀ i < n, s.at i = t.at i) : s = t := by
  refine Subtype.ext (List.ext_getElem (s.2.trans t.2.symm) fun i hs ht => ?_)
  have := h i (s.2 ▸ hs)
  simpa [CArray.at, hs, ht] using this

end At

/-! ## Lanes -/

/-- **A cut of `n` bytes into `m` quads**: `idx i j` is where byte `j` of lane `i` stands. -/
structure Layout (n m : Nat) where
  idx : Nat → Nat → Nat
  idx_lt : ∀ i < m, ∀ j < 4, idx i j < n
  idx_inj : ∀ i < m, ∀ j < 4, ∀ i' < m, ∀ j' < 4, idx i j = idx i' j' → i = i' ∧ j = j'
  covers : ∀ k < n, ∃ i < m, ∃ j < 4, idx i j = k

namespace Layout

variable {n m : Nat} (L : Layout n m)

/-- The four bytes of a lane. -/
def lane (s : CArray n) (i : Nat) : Quad :=
  ⟨s.at (L.idx i 0), s.at (L.idx i 1), s.at (L.idx i 2), s.at (L.idx i 3)⟩

/-- The four assignments to a lane. -/
def setLane (s : CArray n) (i : Nat) (q : Quad) : CArray n :=
  (((s.put (L.idx i 0) q.b0).put (L.idx i 1) q.b1).put (L.idx i 2) q.b2).put (L.idx i 3) q.b3

/-- The loop over the lanes: the first `k` of them, each rewritten in its turn. -/
def overLanes (f : Nat → Quad → Quad) : Nat → CArray n → CArray n
  | 0, s => s
  | k + 1, s =>
      let s' := overLanes f k s
      L.setLane s' k (f k (L.lane s' k))

variable {L}

theorem at_setLane_of_ne {s : CArray n} {i k : Nat} (q : Quad) (h : ∀ j < 4, L.idx i j ≠ k) :
    (L.setLane s i q).at k = s.at k := by
  have h0 := h 0 (by omega)
  have h1 := h 1 (by omega)
  have h2 := h 2 (by omega)
  have h3 := h 3 (by omega)
  rw [setLane, CArray.at_put_of_ne h3, CArray.at_put_of_ne h2, CArray.at_put_of_ne h1,
    CArray.at_put_of_ne h0]

theorem lane_setLane_self {s : CArray n} {i : Nat} (hi : i < m) (q : Quad) :
    L.lane (L.setLane s i q) i = q := by
  have hlt := L.idx_lt i hi
  have hne : ∀ a < 4, ∀ b < 4, a ≠ b → L.idx i a ≠ L.idx i b := by
    intro a ha b hb hab h
    exact hab (L.idx_inj i hi a ha i hi b hb h).2
  have h10 := hne 1 (by omega) 0 (by omega) (by omega)
  have h20 := hne 2 (by omega) 0 (by omega) (by omega)
  have h30 := hne 3 (by omega) 0 (by omega) (by omega)
  have h21 := hne 2 (by omega) 1 (by omega) (by omega)
  have h31 := hne 3 (by omega) 1 (by omega) (by omega)
  have h32 := hne 3 (by omega) 2 (by omega) (by omega)
  simp only [lane, setLane, CArray.at_put_self (hlt 0 (by omega)),
    CArray.at_put_self (hlt 1 (by omega)), CArray.at_put_self (hlt 2 (by omega)),
    CArray.at_put_self (hlt 3 (by omega)), CArray.at_put_of_ne h10, CArray.at_put_of_ne h20,
    CArray.at_put_of_ne h30, CArray.at_put_of_ne h21, CArray.at_put_of_ne h31,
    CArray.at_put_of_ne h32]

theorem lane_setLane_of_ne {s : CArray n} {i k : Nat} (hi : i < m) (hk : k < m) (h : i ≠ k)
    (q : Quad) : L.lane (L.setLane s i q) k = L.lane s k := by
  have hne : ∀ b < 4, ∀ a < 4, L.idx i a ≠ L.idx k b := by
    intro b hb a ha hab
    exact h (L.idx_inj i hi a ha k hk b hb hab).1
  simp only [lane, at_setLane_of_ne q (hne 0 (by omega)), at_setLane_of_ne q (hne 1 (by omega)),
    at_setLane_of_ne q (hne 2 (by omega)), at_setLane_of_ne q (hne 3 (by omega))]

/-- **Arrays that agree on every lane agree.** -/
theorem ext_lane {s t : CArray n} (h : ∀ i < m, L.lane s i = L.lane t i) : s = t := by
  refine CArray.ext_at fun k hk => ?_
  obtain ⟨i, hi, j, hj, rfl⟩ := L.covers k hk
  have hq := h i hi
  simp only [lane, Quad.mk.injEq] at hq
  obtain ⟨h0, h1, h2, h3⟩ := hq
  match j, hj with
  | 0, _ => exact h0
  | 1, _ => exact h1
  | 2, _ => exact h2
  | 3, _ => exact h3

/-- After `k` turns the first `k` lanes are rewritten and the others are as they were. -/
theorem lane_overLanes_upto (f : Nat → Quad → Quad) (s : CArray n) {k : Nat} (hk : k ≤ m) :
    ∀ i < m, L.lane (L.overLanes f k s) i = if i < k then f i (L.lane s i) else L.lane s i := by
  induction k with
  | zero =>
    intro i _
    rw [if_neg (Nat.not_lt_zero i)]
    rfl
  | succ k ih =>
    intro i hi
    have ih := ih (by omega)
    show L.lane (L.setLane (L.overLanes f k s) k (f k (L.lane (L.overLanes f k s) k))) i = _
    rcases Nat.lt_trichotomy i k with hlt | rfl | hgt
    · rw [lane_setLane_of_ne (by omega) hi (by omega), ih i hi, if_pos hlt, if_pos (by omega)]
    · rw [lane_setLane_self hi, ih i hi, if_neg (by omega), if_pos (by omega)]
    · rw [lane_setLane_of_ne (by omega) hi (by omega), ih i hi, if_neg (by omega),
        if_neg (by omega)]

/-- **The loop does to every lane what its body does to that lane.** -/
theorem lane_overLanes (f : Nat → Quad → Quad) (s : CArray n) {i : Nat} (hi : i < m) :
    L.lane (L.overLanes f m s) i = f i (L.lane s i) := by
  rw [lane_overLanes_upto f s (Nat.le_refl m) i hi, if_pos hi]

/-- **Two loops undo each other when their bodies do.** -/
theorem overLanes_overLanes {f g : Nat → Quad → Quad} (h : ∀ i < m, ∀ q, g i (f i q) = q)
    (s : CArray n) : L.overLanes g m (L.overLanes f m s) = s := by
  refine ext_lane (L := L) fun i hi => ?_
  rw [lane_overLanes g _ hi, lane_overLanes f s hi, h i hi]

end Layout

end CMemory
