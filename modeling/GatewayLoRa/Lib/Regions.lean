/-
  REGIONS of a memory in the order of their addresses, and the list that strings them together.

  A pool keeps its blocks in a table, and each row names the next one.  Two readings make such a
  table fit for a proof:

  * `Linked nil next l`   — the walk along `next` from the head of `l` meets the members of `l`, one
    after the other, and then `nil`.  `Linked.insert` and `Linked.erase` are the two ways in which
    a pool changes its list;
  * `Packed limit start`  — the regions of a list follow each other without an overlap between
    `start` and `limit`.  A region behind another one (`Packed.insert`), a region less
    (`Packed.erase`) and a smaller one (`Packed.shrink`) keep that.

  A memory is a function of the address.  `move` is what a correct copy does to it, and a copy byte
  by byte from below is correct when it goes down or the two ranges are apart (`copyUp_eq_move`).

  The crux is that a pool changes its list at one place at a time.  `Linked` is stated by recursion
  on the list, so inserting or erasing behind a member is an induction up to that member and nothing
  behind it; `Packed` carries the address where the room begins along, so a region only has to be
  compared with its two neighbours.  What the blocks hold is then a matter of `bytes`, and a copy
  that stays within one region is `bytes_splice`.

  The choice of a place is specified apart from how it is searched (`BestFit`); the loop that keeps
  the best place so far maintains it by `BestFit.better` and `BestFit.keep`.
-/

import Mathlib

namespace Regions

/-! ## A list linked through a table -/

section Linked

variable {κ : Type} {nil : κ} {next next' : κ → κ}

/-- The members of the list are strung together by `next`, and `nil` ends them. -/
def Linked (nil : κ) (next : κ → κ) : List κ → Prop
  | [] => True
  | a :: l => next a = l.headD nil ∧ Linked nil next l

/-- Only the members' own links matter. -/
theorem Linked.congr {l : List κ} (h : Linked nil next l) (heq : ∀ a ∈ l, next' a = next a) :
    Linked nil next' l := by
  induction l with
  | nil => trivial
  | cons a l ih =>
    obtain ⟨ha, hl⟩ := h
    refine ⟨?_, ih hl fun b hb => heq b (List.mem_cons_of_mem a hb)⟩
    rw [heq a (List.mem_cons_self ..), ha]

/-- A member points to the one behind it, or to `nil` if it is the last. -/
theorem Linked.next_eq {p q : List κ} {a : κ} (h : Linked nil next (p ++ a :: q)) :
    next a = q.headD nil := by
  induction p with
  | nil => exact h.1
  | cons b p ih => exact ih h.2

/-- The end of a linked list is linked. -/
theorem Linked.of_append {p q : List κ} (h : Linked nil next (p ++ q)) : Linked nil next q := by
  induction p with
  | nil => exact h
  | cons b p ih => exact ih h.2

/-- **A member more**: `k` takes over what its predecessor pointed to. -/
theorem Linked.insert {p q : List κ} {a k : κ} (h : Linked nil next (p ++ a :: q))
    (hk : k ∉ p ++ a :: q) (hnodup : (p ++ a :: q).Nodup)
    (hnextk : next' k = next a) (hnexta : next' a = k)
    (hother : ∀ b ∈ p ++ a :: q, b ≠ a → next' b = next b) :
    Linked nil next' (p ++ a :: k :: q) := by
  induction p with
  | nil =>
    obtain ⟨ha, hq⟩ := h
    refine ⟨hnexta, hnextk.trans ha, hq.congr fun b hb => ?_⟩
    apply hother b (List.mem_cons_of_mem a hb)
    rintro rfl
    exact (List.nodup_cons.mp hnodup).1 hb
  | cons b p ih =>
    obtain ⟨hb, hp⟩ := h
    obtain ⟨hbmem, hp'⟩ := List.nodup_cons.mp hnodup
    have hba : b ≠ a := by
      rintro rfl
      exact hbmem (List.mem_append_right p (List.mem_cons_self ..))
    refine ⟨?_, ih hp (fun hk' => hk (List.mem_cons_of_mem b hk')) hp'
      fun c hc => hother c (List.mem_cons_of_mem b hc)⟩
    rw [hother b (List.mem_cons_self ..) hba, hb]
    -- `b` keeps its link, whether the next member is `a` or another one
    cases p <;> rfl

/-- **A member less**: its predecessor points to what it pointed to. -/
theorem Linked.erase {p q : List κ} {a k : κ} (h : Linked nil next (p ++ a :: k :: q))
    (hnodup : (p ++ a :: k :: q).Nodup) (hnexta : next' a = next k)
    (hother : ∀ b ∈ p ++ q, next' b = next b) :
    Linked nil next' (p ++ a :: q) := by
  induction p with
  | nil => exact ⟨hnexta.trans h.2.1, h.2.2.congr hother⟩
  | cons b p ih =>
    obtain ⟨hb, hp⟩ := h
    refine ⟨?_, ih hp (List.nodup_cons.mp hnodup).2
      fun c hc => hother c (List.mem_cons_of_mem b hc)⟩
    rw [hother b (List.mem_cons_self ..), hb]
    cases p <;> rfl

end Linked

/-! ## Regions that follow each other -/

/-- A region of a memory. -/
structure Region where
  begin : Nat
  size : Nat
  deriving DecidableEq, Repr

/-- The first address behind a region. -/
def Region.stop (r : Region) : Nat := r.begin + r.size

/-- **The regions follow each other, without an overlap, between `start` and `limit`.** `start`
    moves along to the end of the last region seen, so the order of the list is the order of the
    addresses. -/
def Packed (limit : Nat) : Nat → List Region → Prop
  | start, [] => start ≤ limit
  | start, r :: rs => start ≤ r.begin ∧ Packed limit r.stop rs

/-- Where the room behind the regions before a list ends. -/
def roomEnd (limit : Nat) : List Region → Nat
  | [] => limit
  | r :: _ => r.begin

/-- How many bytes the regions hold. -/
def used (rs : List Region) : Nat := (rs.map Region.size).sum

variable {limit start : Nat} {p q rs : List Region} {r r' : Region}

@[simp] theorem used_nil : used [] = 0 := rfl

@[simp] theorem used_cons : used (r :: rs) = r.size + used rs := by
  simp [used]

@[simp] theorem used_append : used (p ++ q) = used p + used q := by
  simp [used]

/-- More room in front. -/
theorem Packed.mono {start' : Nat} (h : Packed limit start rs) (hle : start' ≤ start) :
    Packed limit start' rs := by
  cases rs with
  | nil => exact Nat.le_trans hle h
  | cons r rs => exact ⟨Nat.le_trans hle h.1, h.2⟩

/-- The room in front of the regions ends where the first of them begins. -/
theorem Packed.room (h : Packed limit start rs) : start ≤ roomEnd limit rs := by
  cases rs with
  | nil => exact h
  | cons r rs => exact h.1

/-- The regions behind one of them begin where that one stops. -/
theorem Packed.of_append (h : Packed limit start (p ++ r :: q)) : Packed limit r.stop q := by
  induction p generalizing start with
  | nil => exact h.2
  | cons a p ih => exact ih h.2

/-- The regions hold no more than what stands between `start` and `limit`. -/
theorem Packed.used_le (h : Packed limit start rs) : start + used rs ≤ limit := by
  induction rs generalizing start with
  | nil => exact h
  | cons r rs ih =>
    have hrest := ih h.2
    have hbegin := h.1
    rw [used_cons]
    unfold Region.stop at hrest
    omega

/-- Each region lies between `start` and `limit`. -/
theorem Packed.within (h : Packed limit start rs) (hr : r ∈ rs) :
    start ≤ r.begin ∧ r.stop ≤ limit := by
  induction rs generalizing start with
  | nil => cases hr
  | cons a rs ih =>
    obtain ⟨hbegin, hrest⟩ := h
    have hstop : a.stop ≤ limit := by
      have := hrest.used_le
      omega
    rcases List.mem_cons.mp hr with rfl | hr
    · exact ⟨hbegin, hstop⟩
    · have hr' := ih hrest hr
      refine ⟨?_, hr'.2⟩
      have : a.begin ≤ a.stop := Nat.le_add_right ..
      omega

/-- A region stands wholly before the ones behind it. -/
theorem Packed.pairwise (h : Packed limit start rs) :
    rs.Pairwise fun a b => a.stop ≤ b.begin := by
  induction rs generalizing start with
  | nil => exact List.Pairwise.nil
  | cons a rs ih =>
    exact List.Pairwise.cons (fun b hb => (h.2.within hb).1) (ih h.2)

/-- **A region more** fits into the room behind `r`. -/
theorem Packed.insert (h : Packed limit start (p ++ r :: q)) {size : Nat}
    (hsize : r.stop + size ≤ roomEnd limit q) :
    Packed limit start (p ++ r :: ⟨r.stop, size⟩ :: q) := by
  induction p generalizing start with
  | nil =>
    refine ⟨h.1, Nat.le_refl _, ?_⟩
    cases q with
    | nil => exact hsize
    | cons b q => exact ⟨hsize, h.2.2⟩
  | cons a p ih => exact ⟨h.1, ih h.2⟩

/-- **A smaller region** in the place of another one. -/
theorem Packed.shrink (h : Packed limit start (p ++ r :: q)) (hbegin : r.begin ≤ r'.begin)
    (hstop : r'.stop ≤ r.stop) : Packed limit start (p ++ r' :: q) := by
  induction p generalizing start with
  | nil => exact ⟨Nat.le_trans h.1 hbegin, h.2.mono hstop⟩
  | cons a p ih => exact ⟨h.1, ih h.2⟩

/-- **A region less.** -/
theorem Packed.erase (h : Packed limit start (p ++ r :: q)) : Packed limit start (p ++ q) := by
  induction p generalizing start with
  | nil =>
    have hbegin : r.begin ≤ r.stop := Nat.le_add_right ..
    exact h.2.mono (Nat.le_trans h.1 hbegin)
  | cons a p ih => exact ⟨h.1, ih h.2⟩

/-- **A region pushed down** to where the one before it stops. -/
theorem Packed.lower {a : Region} (h : Packed limit start (p ++ a :: r :: q)) :
    Packed limit start (p ++ a :: ⟨a.stop, r.size⟩ :: q) := by
  induction p generalizing start with
  | nil =>
    obtain ⟨ha, hr, hq⟩ := h
    refine ⟨ha, Nat.le_refl _, hq.mono ?_⟩
    show a.stop + r.size ≤ r.begin + r.size
    omega
  | cons b p ih => exact ⟨h.1, ih h.2⟩

/-! ## The best fit

  An allocator that looks through all gaps for the smallest that is large enough keeps the best one
  so far.  The specification is about a list of places already seen, and one more place is appended
  to it. -/

section BestFit

variable {κ : Type} {room : κ → Nat} {size : Nat} {l : List κ} {best : Option κ} {c : κ}

/-- **The choice of a place with room for `size`**: no place has room, or it is a place with the
    smallest room that is enough. -/
def BestFit (room : κ → Nat) (size : Nat) (l : List κ) : Option κ → Prop
  | none => ∀ c ∈ l, room c < size
  | some b => b ∈ l ∧ size ≤ room b ∧ ∀ c ∈ l, size ≤ room c → room b ≤ room c

/-- Before the first place is seen, there is none. -/
theorem bestFit_nil : BestFit room size [] none := by
  intro c hc
  cases hc

/-- The room at the best place so far; `top` when there is none. -/
def bestRoom (room : κ → Nat) (top : Nat) (best : Option κ) : Nat := (best.map room).getD top

/-- A place that is a better one. -/
theorem BestFit.better {top : Nat} (h : BestFit room size l best) (hsize : size ≤ room c)
    (hbest : room c < bestRoom room top best) : BestFit room size (l ++ [c]) (some c) := by
  refine ⟨List.mem_append_right l (List.mem_singleton_self c), hsize, fun x hx hfit => ?_⟩
  rcases List.mem_append.mp hx with hx | hx
  · cases best with
    | none =>
      have hlt := h x hx
      omega
    | some b =>
      have hb : room c < room b := hbest
      have hbx := h.2.2 x hx hfit
      omega
  · exact Nat.le_of_eq (congrArg room (List.mem_singleton.mp hx).symm)

/-- A place that is not: it has no room, or no less room than the best one. -/
theorem BestFit.keep {top : Nat} (h : BestFit room size l best)
    (hc : size ≤ room c → bestRoom room top best ≤ room c) (htop : room c < top) :
    BestFit room size (l ++ [c]) best := by
  cases best with
  | none =>
    intro x hx
    rcases List.mem_append.mp hx with hx | hx
    · exact h x hx
    · rw [List.mem_singleton.mp hx]
      by_contra hle
      have hroom : top ≤ room c := hc (Nat.le_of_not_lt hle)
      omega
  | some b =>
    refine ⟨List.mem_append_left _ h.1, h.2.1, fun x hx hfit => ?_⟩
    rcases List.mem_append.mp hx with hx | hx
    · exact h.2.2 x hx hfit
    · rw [List.mem_singleton.mp hx] at hfit ⊢
      exact hc hfit

/-- A place whose room is just right is the best of all. -/
theorem bestFit_exact (hc : c ∈ l) (hroom : room c = size) : BestFit room size l (some c) :=
  ⟨hc, Nat.le_of_eq hroom.symm, fun _ _ hfit => Nat.le_trans (Nat.le_of_eq hroom) hfit⟩

end BestFit

/-! ## What the regions hold

  A memory is a function of the address, and the bytes of a region are its values there.  Two
  memories that agree on a region hold the same in it, which is all that a frame condition needs. -/

section Memory

variable {β : Type} {m m' : Nat → β} {dest src n : Nat}

/-- The bytes of a region. -/
def bytes (m : Nat → β) (r : Region) : List β := (List.range' r.begin r.size).map m

@[simp] theorem length_bytes : (bytes m r).length = r.size := by
  simp [bytes]

/-- A memory that was not changed inside the region. -/
theorem bytes_congr (h : ∀ a, r.begin ≤ a → a < r.stop → m' a = m a) :
    bytes m' r = bytes m r := by
  refine List.map_congr_left fun a ha => ?_
  obtain ⟨hbegin, hstop⟩ := List.mem_range'_1.mp ha
  exact h a hbegin hstop

/-- A region cut from the front. -/
theorem bytes_drop {k : Nat} :
    bytes m ⟨src + k, n - k⟩ = (bytes m ⟨src, n⟩).drop k := by
  simp only [bytes, ← List.map_drop, List.drop_range', Nat.mul_one]

/-- A region cut from the back. -/
theorem bytes_take {k : Nat} (h : k ≤ n) : bytes m ⟨src, k⟩ = (bytes m ⟨src, n⟩).take k := by
  refine List.ext_getElem (by simp [h]) fun i hi _ => ?_
  simp [bytes]

/-- Two regions, one right behind the other. -/
theorem bytes_append {k : Nat} :
    bytes m ⟨src, n + k⟩ = bytes m ⟨src, n⟩ ++ bytes m ⟨src + n, k⟩ := by
  simp only [bytes, ← List.map_append, List.range'_append_1]

/-- **Bytes replaced inside a region**, and nothing else of it. -/
theorem bytes_splice {i k : Nat} (hk : i + k ≤ n)
    (hout : ∀ a, a < src + i ∨ src + i + k ≤ a → m' a = m a) :
    bytes m' ⟨src, n⟩ =
      (bytes m ⟨src, n⟩).take i ++ bytes m' ⟨src + i, k⟩ ++ (bytes m ⟨src, n⟩).drop (i + k) := by
  obtain ⟨j, rfl⟩ : ∃ j, n = i + k + j := ⟨n - (i + k), by omega⟩
  have hfront : bytes m' ⟨src, i⟩ = bytes m ⟨src, i⟩ := by
    refine bytes_congr fun a _ hstop => hout a (Or.inl hstop)
  have hback : bytes m' ⟨src + (i + k), j⟩ = bytes m ⟨src + (i + k), j⟩ := by
    refine bytes_congr fun a hbegin _ => hout a (Or.inr ?_)
    show src + i + k ≤ a
    have hle : src + (i + k) ≤ a := hbegin
    omega
  -- the region in three parts, of which the outer two are unchanged
  rw [bytes_append (n := i + k), bytes_append (n := i), hfront, hback, ← bytes_take (by omega),
    ← bytes_drop, Nat.add_sub_cancel_left]

/-- Bytes written one after the other from an address on. -/
def write (m : Nat → β) : Nat → List β → Nat → β
  | _, [] => m
  | a, b :: data => write (Function.update m a b) (a + 1) data

/-- What is outside the written range stays. -/
theorem write_of_out {data : List β} {a x : Nat} (h : x < a ∨ a + data.length ≤ x) :
    write m a data x = m x := by
  induction data generalizing m a with
  | nil => rfl
  | cons b data ih =>
    rw [List.length_cons] at h
    rw [write, ih (by omega), Function.update_of_ne (by omega)]

/-- What was written can be read. -/
theorem bytes_write {data : List β} {a : Nat} : bytes (write m a data) ⟨a, data.length⟩ = data := by
  induction data generalizing m a with
  | nil => rfl
  | cons b data ih =>
    have hhead : write (Function.update m a b) (a + 1) data a = b := by
      rw [write_of_out (by omega), Function.update_self]
    have htail := ih (m := Function.update m a b) (a := a + 1)
    simp only [bytes] at htail ⊢
    rw [List.length_cons, List.range'_succ, List.map_cons, write, hhead, htail]

theorem bytes_write_of_length {data : List β} {a k : Nat} (h : data.length = k) :
    bytes (write m a data) ⟨a, k⟩ = data := by
  rw [← h, bytes_write]

/-- `n` bytes at `src`, as they stand, at `dest`.  This is the copy as it is meant: it reads
    everything before it writes anything. -/
def move (m : Nat → β) (dest src n : Nat) : Nat → β := fun a =>
  if dest ≤ a ∧ a < dest + n then m (src + (a - dest)) else m a

/-- Below the destination nothing changes, -/
theorem move_of_lt {a : Nat} (h : a < dest) : move m dest src n a = m a :=
  if_neg (by omega)

/-- nor behind it, -/
theorem move_of_ge {a : Nat} (h : dest + n ≤ a) : move m dest src n a = m a :=
  if_neg (by omega)

/-- and in it stands what stood at the source. -/
theorem bytes_move : bytes (move m dest src n) ⟨dest, n⟩ = bytes m ⟨src, n⟩ := by
  refine List.ext_getElem (by simp) fun i hi _ => ?_
  have hin : i < n := by simpa using hi
  simp only [bytes, List.getElem_map, List.getElem_range', Nat.one_mul]
  unfold move
  rw [if_pos (by omega), Nat.add_sub_cancel_left]

/-- A copy byte by byte, from below, as a device or a loop makes it: a byte that it has overwritten
    is read again as what was written. -/
def copyUp : Nat → (Nat → β) → Nat → Nat → Nat → β
  | 0, m, _, _ => m
  | n + 1, m, dest, src => copyUp n (Function.update m dest (m src)) (dest + 1) (src + 1)

/-- **A copy from below is correct when it goes down**: what it overwrites it has read before. -/
theorem copyUp_eq_move (h : dest ≤ src ∨ src + n ≤ dest) :
    copyUp n m dest src = move m dest src n := by
  induction n generalizing m dest src with
  | zero =>
    funext a
    exact (if_neg (by omega)).symm
  | succ n ih =>
    rw [copyUp, ih (by omega)]
    funext a
    -- an address in the range of the later bytes, the first byte of the destination, or neither
    by_cases hin : dest + 1 ≤ a ∧ a < dest + 1 + n
    · have hsrc : src + 1 + (a - (dest + 1)) ≠ dest := by omega
      unfold move
      rw [if_pos hin, if_pos (by omega), Function.update_of_ne hsrc]
      congr 1
      omega
    · by_cases ha : a = dest
      · subst ha
        unfold move
        rw [if_neg hin, Function.update_self, if_pos (by omega), Nat.sub_self, Nat.add_zero]
      · unfold move
        rw [if_neg hin, Function.update_of_ne ha, if_neg (by omega)]

end Memory

end Regions
