/-
  Hashing a text block by block while it arrives.

  A compression function `f` takes a state and a block of `B` letters.  An incremental hash keeps
  the state and the letters of the block that is not full yet; `push` adds one letter, and when
  the block is full compresses it.

  * `absorb_append` — **how a text is cut does not matter**: absorbing two texts one after the other
    is absorbing what they make together.
  * `absorb_of_lt`, `absorb_of_eq` — what a stretch does that stays within a block or fills it;
    an implementation that copies stretches into a buffer works by these two.
  * `absorb_blocks` — on a text of whole blocks it is the fold of `f` over them.

  The crux is to define absorbing letter by letter (`push`), the finest way to cut a text.  Every
  coarser way is then a fold over the same letters, and `absorb_append` is a property of folds; an
  implementation has to show only that each of its own stretches, whatever its size, does what its
  letters do one by one.
-/

namespace MerkleDamgard

variable {σ α : Type} (f : σ → List α → σ) (B : Nat)

/-- One letter more: it joins the block that is not full yet, and a block that it fills is
    compressed. -/
def push (s : σ × List α) (a : α) : σ × List α :=
  if s.2.length + 1 = B then (f s.1 (s.2 ++ [a]), []) else (s.1, s.2 ++ [a])

/-- A text more. -/
def absorb (s : σ × List α) (x : List α) : σ × List α := x.foldl (push f B) s

/-- The first `k` blocks of a text. -/
def blocks : Nat → List α → List (List α)
  | 0, _ => []
  | k + 1, x => x.take B :: blocks k (x.drop B)

variable {f B}

@[simp] theorem absorb_nil (s : σ × List α) : absorb f B s [] = s := rfl

/-- **How a text is cut does not matter.** -/
theorem absorb_append (s : σ × List α) (x y : List α) :
    absorb f B s (x ++ y) = absorb f B (absorb f B s x) y :=
  List.foldl_append ..

/-- A stretch that does not fill the block waits in the buffer. -/
theorem absorb_of_lt {s : σ × List α} {x : List α} (h : s.2.length + x.length < B) :
    absorb f B s x = (s.1, s.2 ++ x) := by
  induction x generalizing s with
  | nil => rw [absorb_nil, List.append_nil]
  | cons a x ih =>
    rw [List.length_cons] at h
    have hpush : push f B s a = (s.1, s.2 ++ [a]) := if_neg (by omega)
    have hrest : (s.2 ++ [a]).length + x.length < B := by
      rw [List.length_append, List.length_singleton]
      omega
    show absorb f B (push f B s a) x = _
    rw [hpush, ih hrest, List.append_assoc]
    rfl

/-- A stretch that fills the block is compressed with what was waiting. -/
theorem absorb_of_eq {s : σ × List α} {x : List α} (hs : s.2.length < B)
    (h : s.2.length + x.length = B) : absorb f B s x = (f s.1 (s.2 ++ x), []) := by
  -- all letters but the last one wait; the last one fills the block
  obtain ⟨y, a, rfl⟩ : ∃ y a, x = y ++ [a] := by
    rcases List.eq_nil_or_concat x with rfl | ⟨y, a, rfl⟩
    · rw [List.length_nil] at h
      omega
    · exact ⟨y, a, List.concat_eq_append⟩
  rw [List.length_append, List.length_singleton] at h
  have hy : absorb f B s y = (s.1, s.2 ++ y) := absorb_of_lt (by omega)
  have hlast : (s.2 ++ y).length + 1 = B := by
    rw [List.length_append]
    omega
  rw [absorb_append, hy]
  show push f B (s.1, s.2 ++ y) a = _
  rw [push, if_pos hlast, List.append_assoc]

/-- What waits is what the last full block left over. -/
theorem length_absorb (hB : 0 < B) {s : σ × List α} (hs : s.2.length < B) (x : List α) :
    (absorb f B s x).2.length = (s.2.length + x.length) % B := by
  induction x generalizing s with
  | nil => exact (Nat.mod_eq_of_lt hs).symm
  | cons a x ih =>
    show (absorb f B (push f B s a) x).2.length = _
    rw [push]
    split
    case isTrue hfull =>
      have hempty : ([] : List α).length < B := hB
      rw [ih hempty, List.length_cons, List.length_nil, Nat.zero_add, ← hfull,
        show s.2.length + (x.length + 1) = x.length + (s.2.length + 1) by omega, Nat.add_mod_right]
    case isFalse hnot =>
      have hlen : (s.2 ++ [a]).length = s.2.length + 1 := by
        rw [List.length_append, List.length_singleton]
      have hlt : (s.2 ++ [a]).length < B := by omega
      rw [ih hlt, hlen, List.length_cons]
      congr 1
      omega

/-- **On whole blocks it is the fold of the compression function.** -/
theorem absorb_blocks (hB : 0 < B) {k : Nat} (s : σ) {x : List α} (h : x.length = k * B) :
    absorb f B (s, []) x = ((blocks B k x).foldl f s, []) := by
  induction k generalizing s x with
  | zero =>
    rw [List.eq_nil_of_length_eq_zero (by omega : x.length = 0)]
    rfl
  | succ k ih =>
    rw [Nat.succ_mul] at h
    have hfirst : (x.take B).length = B := by
      rw [List.length_take]
      omega
    have hrest : (x.drop B).length = k * B := by
      rw [List.length_drop]
      omega
    have hblock : absorb f B (s, []) (x.take B) = (f s (x.take B), []) :=
      absorb_of_eq hB (by rw [hfirst]; exact Nat.zero_add B)
    calc absorb f B (s, []) x
        = absorb f B (absorb f B (s, []) (x.take B)) (x.drop B) := by
          rw [← absorb_append, List.take_append_drop]
      _ = ((blocks B (k + 1) x).foldl f s, []) := by
          rw [hblock, ih _ hrest]
          rfl

end MerkleDamgard
