/-
  BALANCE of allocation and release, over a trace of what a program asks of the heap.

  The heap numbers its blocks in the order it hands them out, so a block is never handed out twice.
  `Balanced t` is what a program owes: each block it allocated it has released exactly once.
  `Below n t` is what the numbering gives: the trace is about blocks below `n` only.

  A program that allocates and releases in ROUNDS stays balanced round by round:

  * `balanced_round`   — what allocates distinct blocks and then releases them is balanced;
  * `Balanced.append`  — what comes later, about later blocks, does not disturb a balance.

  The numbering is what makes the count simple.  A block that is handed out twice would have to be
  released twice; numbered blocks are never the same, so `Balanced` asks for one release of each,
  and a later round cannot release an earlier block by mistake (`Below.releases_eq_zero`).
-/

namespace Allocation

/-- What a program asks of the heap.  The size of a block is kept because a program may hand out
    blocks of sizes that are not those of its texts. -/
inductive Event where
  | malloc (block size : Nat)
  | free (block : Nat)
  deriving DecidableEq

/-- The block that an event is about. -/
def Event.block : Event → Nat
  | .malloc b _ => b
  | .free b => b

/-- The block that an event allocates. -/
def Event.allocates : Event → Option Nat
  | .malloc b _ => some b
  | .free _ => none

/-- The blocks that a trace allocated, in order. -/
def allocated (t : List Event) : List Nat := t.filterMap Event.allocates

/-- The block that an event releases. -/
def Event.frees : Event → Option Nat
  | .malloc _ _ => none
  | .free b => some b

/-- The blocks that a trace released, in order. -/
def released (t : List Event) : List Nat := t.filterMap Event.frees

/-- How often a trace released a block. -/
def releases (t : List Event) (b : Nat) : Nat := t.count (.free b)

/-- **Each block that the trace allocated, it released exactly once**: none is lost, and none is
    released twice.  Nothing is said about releases of blocks that were never allocated. -/
def Balanced (t : List Event) : Prop := ∀ b ∈ allocated t, releases t b = 1

/-- The trace is about blocks below `n`. -/
def Below (n : Nat) (t : List Event) : Prop := ∀ e ∈ t, e.block < n

variable {t u : List Event} {b n : Nat}

@[simp] theorem allocated_append : allocated (t ++ u) = allocated t ++ allocated u :=
  List.filterMap_append

@[simp] theorem released_append : released (t ++ u) = released t ++ released u :=
  List.filterMap_append

@[simp] theorem releases_append : releases (t ++ u) b = releases t b + releases u b :=
  List.count_append

/-- A block was allocated if some event allocates it, with some size. -/
theorem mem_allocated : b ∈ allocated t ↔ ∃ k, .malloc b k ∈ t := by
  constructor
  · intro h
    obtain ⟨e, he, hb⟩ := List.mem_filterMap.mp h
    cases e with
    | malloc a k =>
      obtain rfl : a = b := Option.some.inj hb
      exact ⟨k, he⟩
    | free a => cases hb
  · rintro ⟨k, h⟩
    exact List.mem_filterMap.mpr ⟨.malloc b k, h, rfl⟩

/-- Two traces about blocks below `n`, one after the other. -/
theorem Below.append (ht : Below n t) (hu : Below n u) : Below n (t ++ u) := by
  intro e he
  rcases List.mem_append.mp he with he | he
  · exact ht e he
  · exact hu e he

/-- The heap has handed out more blocks since. -/
theorem Below.mono {m : Nat} (ht : Below n t) (hnm : n ≤ m) : Below m t :=
  fun e he => Nat.lt_of_lt_of_le (ht e he) hnm

/-- What is handed out later has not been released before. -/
theorem Below.releases_eq_zero (ht : Below n t) (hb : n ≤ b) : releases t b = 0 := by
  refine List.count_eq_zero.mpr fun h => ?_
  have := ht _ h
  simp only [Event.block] at this
  omega

/-! ## Rounds

  A call that allocates what it needs, uses it and releases all of it before it returns leaves a
  round in the trace. -/

/-- The events of a round: each of the blocks is allocated, then each is released. -/
def round (blocks : List (Nat × Nat)) : List Event :=
  blocks.map (fun p => .malloc p.1 p.2) ++ blocks.map (fun p => .free p.1)

/-- The first half of a round allocates its blocks. -/
theorem allocated_mallocs (blocks : List (Nat × Nat)) :
    allocated (blocks.map fun p => .malloc p.1 p.2) = blocks.map Prod.fst := by
  induction blocks with
  | nil => rfl
  | cons p ps ih => simp only [List.map_cons, ← ih]; rfl

/-- The second half allocates nothing. -/
theorem allocated_frees (bs : List Nat) : allocated (bs.map .free) = [] := by
  induction bs with
  | nil => rfl
  | cons b bs ih => exact ih

/-- The first half releases nothing. -/
theorem releases_mallocs (blocks : List (Nat × Nat)) :
    releases (blocks.map fun p => .malloc p.1 p.2) b = 0 := by
  refine List.count_eq_zero.mpr fun h => ?_
  obtain ⟨p, -, hp⟩ := List.mem_map.mp h
  cases hp

/-- The second half releases a block as often as it is listed. -/
theorem releases_frees (bs : List Nat) : releases (bs.map .free) b = bs.count b := by
  induction bs with
  | nil => rfl
  | cons a bs ih =>
    simp only [releases, List.map_cons, List.count_cons] at ih ⊢
    rw [ih]
    simp

/-- **A round of distinct blocks is balanced.** Were a block listed twice, it would be released
    twice. -/
theorem balanced_round {blocks : List (Nat × Nat)} (hnodup : (blocks.map Prod.fst).Nodup) :
    Balanced (round blocks) := by
  intro b hb
  have hfrees : blocks.map (fun p => Event.free p.1) = (blocks.map Prod.fst).map .free := by
    rw [List.map_map]
    rfl
  simp only [round, allocated_append, allocated_mallocs, hfrees, allocated_frees, List.append_nil]
    at hb
  rw [round, releases_append, releases_mallocs, hfrees, releases_frees, Nat.zero_add]
  exact (List.Nodup.count hnodup).trans (if_pos hb)

/-- **What comes later, about later blocks, keeps the balance**: it releases no earlier block, and
    what was released before was no later one. -/
theorem Balanced.append (ht : Balanced t) (hu : Balanced u) (hbelow : Below n t)
    (hlater : ∀ e ∈ u, n ≤ e.block) : Balanced (t ++ u) := by
  intro b hb
  rw [allocated_append] at hb
  rw [releases_append]
  rcases List.mem_append.mp hb with hb | hb
  -- an earlier block: the second trace does not touch it
  · obtain ⟨k, hk⟩ := mem_allocated.mp hb
    have hold : b < n := hbelow _ hk
    have hnone : releases u b = 0 := by
      refine List.count_eq_zero.mpr fun h => ?_
      have := hlater _ h
      simp only [Event.block] at this
      omega
    rw [ht b hb, hnone]
  -- a later block: the first trace could not have known it
  · obtain ⟨k, hk⟩ := mem_allocated.mp hb
    have hzero : releases t b = 0 := hbelow.releases_eq_zero (hlater _ hk)
    rw [hu b hb, hzero]

end Allocation
