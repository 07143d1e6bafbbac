/-
  The memory pool of the Ethernet controller (`utility/MemPool.cpp`, `utility/mempool_conf.h`).

  The packets of the TCP/IP stack do not live in the memory of the microcontroller but in the RAM of
  the ENC28J60, and `MemPool` hands that RAM out.  Its table has a row for each handle; the rows in
  use are strung together, in the order of their addresses, from the row `POOLSTART` on.
  `allocBlock` looks for the smallest room between two blocks, and when there is none it pushes all
  blocks together, with a copy inside the RAM for each, before it gives up.

  `MemPool.cpp` knows that copy only as the macro `MEMPOOL_MEMBLOCK_MV`, so its functions return the
  copies that they ask for, in order.

  1. **The layout** (`Layout`) — the chain, its handles and its regions; what each function does to
     them (`Layout.allocBlock`, `Layout.freeBlock`, `Layout.resizeBlock`).

  2. **When `allocBlock` succeeds** (`Layout.allocBlock_iff`) — exactly when a row is free and the
     blocks in use leave enough bytes, wherever these are: the pool is never too fragmented.

  3. **A block of no bytes** (`allocBlock_zero_again`, `allocBlock_afterBoth`) — the size 0 is what
     marks a free row, so a block of no bytes is in the chain and free at once: its row is handed
     out a second time, and on an empty pool it is then linked behind itself.

  The crux of the first two parts is that the chain and the order of the addresses are one order
  (`Layout.packed`).  A walk over the chain is then an induction over a list whose regions go up:
  `freesize`, computed in 16 bits, is the gap behind a block (`Layout.freesize_eq`), the best gap
  seen so far is the invariant of the search (`BestFit`), and a compaction lowers one block after
  the other, each over bytes that have already been read (`Layout.lower`).
-/

import GatewayLoRa.Lib.Regions
import GatewayLoRa.Lib.Machine

namespace GatewayLoRa

open Regions

/-! ## The table and its configuration

  Names and values of `mempool_conf.h`.  The pool begins one byte behind the receive buffer.  Its
  size is the difference of two macros, of which the second is a sum without parentheses; `poolEnd`
  comes out one byte behind the RAM. -/

/-- `memaddress` is 16 bits wide; the value of an expression is cut to that. -/
def memaddress (x : Int) : Nat := (x % 65536).toNat

/-- A value that fits is kept. -/
theorem memaddress_of_lt {x : Int} {n : Nat} (hx : x = n) (hn : n < 65536) : memaddress x = n := by
  unfold memaddress
  omega

/-- A row of the table. -/
structure Memblock where
  begin : Nat
  size : Nat
  nextblock : Nat
  deriving DecidableEq, Repr

/-- `RXSTART_INIT`: the receive buffer begins at address 0. -/
def RXSTART_INIT : Nat := 0x0

/-- `RXEND_INIT`. -/
def RXEND_INIT : Nat := 0x1FFF - 0x1800

/-- `TXEND_INIT`: the last address of the RAM. -/
def TXEND_INIT : Nat := 0x1FFF

namespace MemPool

/-- `POOLSTART`: the row from which the chain starts. -/
def POOLSTART : Nat := 0

/-- `NOBLOCK`: no handle. -/
def NOBLOCK : Nat := 0

/-- `POOLOFFSET`: the first row that is handed out. -/
def POOLOFFSET : Nat := 1

/-- `MEMPOOL_NUM_MEMBLOCKS`: 5 packets in and 5 out for each of 4 connections, and 3 for each of 4
    UDP sockets. -/
def MEMPOOL_NUM_MEMBLOCKS : Nat := 5 * 2 * 4 + 3 * 4

/-- `MEMPOOL_STARTADDRESS`, `(TXSTART_INIT + 1)`. -/
def MEMPOOL_STARTADDRESS : Nat := RXEND_INIT + 1 + 1

/-- `MEMPOOL_SIZE`, `(TXEND_INIT - TXSTART_INIT)`.  The macro `TXSTART_INIT` is the text
    `RXEND_INIT + 1`, without parentheses, so that the 1 is ADDED here. -/
def MEMPOOL_SIZE : Nat := TXEND_INIT - RXEND_INIT + 1

/-- The first address behind the pool. -/
def poolEnd : Nat := MEMPOOL_STARTADDRESS + MEMPOOL_SIZE

theorem poolEnd_lt : poolEnd < 65536 := by decide

/-- `blocks`, the table. -/
abbrev Blocks := Nat → Memblock

/-- The RAM of the ENC28J60. -/
abbrev Ram := Nat → UInt8

/-- A copy that the pool asks for: `MEMPOOL_MEMBLOCK_MV (dest, src, size)`. -/
structure Move where
  dest : Nat
  src : Nat
  size : Nat
  deriving DecidableEq, Repr

/-- `MemPool::init`. -/
def init : Blocks :=
  Function.update (fun _ => ⟨0, 0, 0⟩) POOLSTART ⟨MEMPOOL_STARTADDRESS, 0, NOBLOCK⟩

/-! ## `allocBlock`

  Three parts, as the labels of the source cut it.  The search walks over the chain and remembers
  the best room.  Without a room it pushes the blocks together (`collect:`), and asks whether the
  room at the end is enough now.  With one, it takes the first free row of the table and links it
  there (`found:`). -/

/-- The room behind a block: up to the next one, or to the end of the pool. -/
def freesize (blocks : Blocks) (cur : Nat) : Nat :=
  let block := blocks cur
  let next := block.nextblock
  memaddress
    -- the end of the pool is the begin of the first row, which has no bytes, and the size of the
    -- pool
    ((if next = NOBLOCK then ((blocks POOLSTART).begin : Int) + MEMPOOL_SIZE
      else (blocks next).begin) - block.begin - block.size)

/-- The first loop of `allocBlock`, over the chain from `cur` on: the block behind which the room
    is just right, else the one behind which it is smallest, else none.  The fuel runs out on a
    chain that does not end. -/
def search (blocks : Blocks) (size : Nat) : Nat → Nat → Option Nat → Nat → Option (Option Nat)
  | 0, _, _, _ => none
  | fuel + 1, cur, best, bestsize =>
    let next := (blocks cur).nextblock
    -- just right: the rest of the chain is not looked at
    if freesize blocks cur = size then some (some cur)
    else if freesize blocks cur > size ∧ freesize blocks cur < bestsize then
      if next = NOBLOCK then some (some cur)
      else search blocks size fuel next (some cur) (freesize blocks cur)
    else if next = NOBLOCK then some best
    else search blocks size fuel next best bestsize

/-- What stands at `collect:`, over the chain from `cur` on: each block that does not begin where
    the one before it stops is moved there.  Also the last block and the copies. -/
def collect : Nat → Blocks → Nat → Option (Blocks × Nat × List Move)
  | 0, _, _ => none
  | fuel + 1, blocks, cur =>
    let next := (blocks cur).nextblock
    if next = NOBLOCK then some (blocks, cur, [])
    else
      let dest := memaddress ((blocks cur).begin + (blocks cur).size)
      let nextblock := blocks next
      if dest = nextblock.begin then collect fuel blocks next
      else
        (collect fuel (Function.update blocks next { nextblock with begin := dest }) next).map
          fun r => (r.1, r.2.1, ⟨dest, nextblock.begin, nextblock.size⟩ :: r.2.2)

/-- The loop at `found:`: the first row whose size is 0. -/
def freeRow (blocks : Blocks) : Option Nat :=
  (List.range' POOLOFFSET MEMPOOL_NUM_MEMBLOCKS).find? fun cur => (blocks cur).size == 0

/-- What stands at `found:`: the row is linked behind `best`, and the block put right behind it. -/
def found (blocks : Blocks) (best size : Nat) : Blocks × Nat :=
  match freeRow blocks with
  | none => (blocks, NOBLOCK)
  | some cur =>
    -- the block begins where the one before it stops
    let address := memaddress ((blocks best).begin + (blocks best).size)
    let blocks' := Function.update blocks cur ⟨address, size, (blocks best).nextblock⟩
    (Function.update blocks' best { blocks' best with nextblock := cur }, cur)

/-- What a call of `allocBlock` leaves: the table, the handle, and the copies it asked for. -/
structure Allocated where
  blocks : Blocks
  handle : Nat
  moves : List Move

/-- `MemPool::allocBlock`; `none` if it does not return. -/
def allocBlock (blocks : Blocks) (size : Nat) : Option Allocated :=
  (search blocks size (MEMPOOL_NUM_MEMBLOCKS + 1) POOLSTART none (MEMPOOL_SIZE + 1)).bind fun best =>
    match best with
    | some best => some ⟨(found blocks best size).1, (found blocks best size).2, []⟩
    | none =>
      (collect (MEMPOOL_NUM_MEMBLOCKS + 1) blocks POOLSTART).map fun r =>
        if ((r.1 POOLSTART).begin : Int) + MEMPOOL_SIZE - (r.1 r.2.1).begin - (r.1 r.2.1).size
            ≥ size then
          ⟨(found r.1 r.2.1 size).1, (found r.1 r.2.1 size).2, r.2.2⟩
        else ⟨r.1, NOBLOCK, r.2.2⟩

/-! ## The other functions

  `freeBlock` needs the row before the one that it frees, so it walks over the chain as well.
  `resizeBlock` looks at one row only; neither of the two checks its arguments. -/

/-- The loop of `freeBlock`, over the chain from `b` on. -/
def freeLoop (handle : Nat) : Nat → Blocks → Nat → Option Blocks
  | 0, _, _ => none
  | fuel + 1, blocks, b =>
    let next := (blocks b).nextblock
    if next = handle then
      let f := blocks next
      let blocks' := Function.update blocks b { blocks b with nextblock := f.nextblock }
      some (Function.update blocks' next { blocks' next with size := 0, nextblock := NOBLOCK })
    else if next = NOBLOCK then some blocks
    else freeLoop handle fuel blocks next

/-- `MemPool::freeBlock`; `none` if it does not return. -/
def freeBlock (blocks : Blocks) (handle : Nat) : Option Blocks :=
  if handle = NOBLOCK then some blocks
  else freeLoop handle (MEMPOOL_NUM_MEMBLOCKS + 1) blocks POOLSTART

/-- `MemPool::resizeBlock` without a size: the block loses its first bytes. -/
def resizeBlockFront (blocks : Blocks) (handle position : Nat) : Blocks :=
  let block := blocks handle
  Function.update blocks handle
    { block with
      begin := memaddress (block.begin + position)
      size := memaddress (block.size - position) }

/-- `MemPool::resizeBlock` with a size. -/
def resizeBlock (blocks : Blocks) (handle position size : Nat) : Blocks :=
  let block := blocks handle
  Function.update blocks handle
    { block with begin := memaddress (block.begin + position), size := size }

/-- `MemPool::blockSize`. -/
def blockSize (blocks : Blocks) (handle : Nat) : Nat := (blocks handle).size

/-! ## The layout

  The invariant.  Its five fields are of three kinds: `linked` and `nodup` make the chain a list,
  `inUse` ties the list to the sizes, which is how `found:` sees that a row is free, and `start` and
  `packed` lay the regions of the list into the pool.  A block of no bytes breaks `inUse`, and only
  that; what happens then is the last section. -/

/-- The region of a row. -/
def region (blocks : Blocks) (h : Nat) : Region := ⟨(blocks h).begin, (blocks h).size⟩

/-- The region depends on the row alone. -/
theorem region_congr {blocks blocks' : Blocks} {r : Nat} (h : blocks' r = blocks r) :
    region blocks' r = region blocks r := by
  unfold region
  rw [h]

/-- The rows that can be handed out. -/
def IsRow (h : Nat) : Prop := POOLOFFSET ≤ h ∧ h < POOLOFFSET + MEMPOOL_NUM_MEMBLOCKS

/-- **The chain and its regions.**  The rows in use are the ones with a size, and their regions lie
    in the pool, in the order of the chain. -/
structure Layout (blocks : Blocks) (handles : List Nat) : Prop where
  linked : Linked NOBLOCK (fun h => (blocks h).nextblock) (POOLSTART :: handles)
  nodup : handles.Nodup
  inUse : ∀ h, h ∈ handles ↔ IsRow h ∧ (blocks h).size ≠ 0
  start : region blocks POOLSTART = ⟨MEMPOOL_STARTADDRESS, 0⟩
  packed : Packed poolEnd MEMPOOL_STARTADDRESS ((POOLSTART :: handles).map (region blocks))

variable {blocks blocks' : Blocks} {handles p q : List Nat} {a h size : Nat}

/-- The pool begins with an empty chain. -/
theorem layout_init : Layout init [] := by
  refine ⟨⟨rfl, trivial⟩, List.nodup_nil, fun h => ?_, rfl, Nat.le_refl _, ?_⟩
  have hsize : (init h).size = 0 := by
    unfold init
    by_cases hh : h = POOLSTART
    · rw [hh, Function.update_self]
    · rw [Function.update_of_ne hh]
  · simp [hsize]
  · show MEMPOOL_STARTADDRESS + 0 ≤ MEMPOOL_STARTADDRESS + MEMPOOL_SIZE
    omega

/-- A handle of the chain is a row that is handed out, -/
theorem Layout.isRow (h : Layout blocks handles) {k : Nat} (hk : k ∈ handles) : IsRow k :=
  ((h.inUse k).mp hk).1

/-- so it is not `NOBLOCK`, -/
theorem Layout.ne_noblock (h : Layout blocks handles) {k : Nat} (hk : k ∈ handles) :
    k ≠ NOBLOCK := by
  have hrow : POOLOFFSET ≤ k := (h.isRow hk).1
  exact Nat.ne_of_gt hrow

/-- and the row that the chain starts from is not one of them. -/
theorem Layout.nodup_rows (h : Layout blocks handles) : (POOLSTART :: handles).Nodup :=
  List.nodup_cons.mpr ⟨fun hmem => h.ne_noblock hmem rfl, h.nodup⟩

/-- The chain is no longer than the table. -/
theorem Layout.length_le (h : Layout blocks handles) : handles.length ≤ MEMPOOL_NUM_MEMBLOCKS := by
  have hsub : handles ⊆ List.range' POOLOFFSET MEMPOOL_NUM_MEMBLOCKS := fun k hk =>
    List.mem_range'_1.mpr (h.isRow hk)
  have hle := (h.nodup.subperm hsub).length_le
  rwa [List.length_range'] at hle

/-- What stands behind a row of the chain is a handle. -/
theorem mem_behind {b c : Nat} (hrows : c :: handles = p ++ a :: q) (hb : b ∈ q) :
    b ∈ handles := by
  cases p with
  | nil =>
    obtain rfl : handles = q := (List.cons.inj hrows).2
    exact hb
  | cons d p =>
    obtain rfl : handles = p ++ a :: q := (List.cons.inj hrows).2
    exact List.mem_append_right p (List.mem_cons_of_mem a hb)

/-- The regions, cut at one row of the chain. -/
theorem Layout.packed_at (h : Layout blocks handles) (hrows : POOLSTART :: handles = p ++ a :: q) :
    Packed poolEnd MEMPOOL_STARTADDRESS
      (p.map (region blocks) ++ region blocks a :: q.map (region blocks)) := by
  have hpacked := h.packed
  rwa [hrows, List.map_append, List.map_cons] at hpacked

/-- What the code computes as `freesize` is the room behind the block. -/
theorem Layout.freesize_eq (h : Layout blocks handles) (hrows : POOLSTART :: handles = p ++ a :: q) :
    (region blocks a).stop + freesize blocks a = roomEnd poolEnd (q.map (region blocks)) := by
  have hpacked := h.packed_at hrows
  have hbehind := hpacked.of_append
  have hroom := hbehind.room
  have hnext : (blocks a).nextblock = q.headD NOBLOCK :=
    Linked.next_eq (p := p) (by rw [← hrows]; exact h.linked)
  -- the source asks for the begin of the next block, or for the end of the pool
  have hend : (if (blocks a).nextblock = NOBLOCK then ((blocks POOLSTART).begin : Int) + MEMPOOL_SIZE
      else (blocks (blocks a).nextblock).begin) = roomEnd poolEnd (q.map (region blocks)) := by
    cases q with
    | nil =>
      have hstart : (blocks POOLSTART).begin = MEMPOOL_STARTADDRESS :=
        congrArg Region.begin h.start
      rw [hnext, List.headD_nil, if_pos rfl, hstart]
      rfl
    | cons b q =>
      have hb : b ∈ handles := mem_behind hrows (List.mem_cons_self ..)
      rw [hnext, List.headD_cons, if_neg (h.ne_noblock hb)]
      rfl
  have hle : roomEnd poolEnd (q.map (region blocks)) ≤ poolEnd := by
    cases q with
    | nil => exact Nat.le_refl _
    | cons b q =>
      have hin := hbehind.within (List.mem_cons_self ..)
      exact Nat.le_trans (Nat.le_add_right _ _) hin.2
  have hlt := poolEnd_lt
  have hstop : (region blocks a).stop = (blocks a).begin + (blocks a).size := rfl
  have hfree : freesize blocks a =
      roomEnd poolEnd (q.map (region blocks)) - (region blocks a).stop := by
    unfold freesize
    refine memaddress_of_lt ?_ (by omega)
    simp only [hend]
    omega
  omega

/-! ## The three parts of `allocBlock`

  Each is an induction over what is left of the chain, `q`, with the part that was passed, `p`, as a
  parameter; the fuel is enough because the chain is no longer than the table. -/

/-- The chain as a list says what stands in `nextblock`. -/
theorem Layout.next_eq (h : Layout blocks handles) (hrows : POOLSTART :: handles = p ++ a :: q) :
    (blocks a).nextblock = q.headD NOBLOCK :=
  Linked.next_eq (p := p) (by rw [← hrows]; exact h.linked)

/-- No room is larger than the pool. -/
theorem Layout.freesize_le (h : Layout blocks handles)
    (hrows : POOLSTART :: handles = p ++ a :: q) : freesize blocks a ≤ MEMPOOL_SIZE := by
  have hfree := h.freesize_eq hrows
  have hpacked := h.packed_at hrows
  have hstart := (hpacked.within (r := region blocks a) (by simp)).1
  have hstop : (region blocks a).begin ≤ (region blocks a).stop := Nat.le_add_right ..
  have hend : roomEnd poolEnd (q.map (region blocks)) ≤ poolEnd := by
    cases q with
    | nil => exact Nat.le_refl _
    | cons b q =>
      have hin := (hpacked.within (r := region blocks b) (by simp)).2
      exact Nat.le_trans (Nat.le_add_right _ _) hin
  have hpool : poolEnd = MEMPOOL_STARTADDRESS + MEMPOOL_SIZE := rfl
  omega

/-- **The walk ends, and finds the best fit.**  `p` is what it has passed, where no room was just
    right. -/
theorem Layout.search_spec (h : Layout blocks handles) (fuel : Nat) {cur : Nat} {best : Option Nat}
    (hrows : POOLSTART :: handles = p ++ cur :: q) (hfuel : q.length < fuel)
    (hbest : BestFit (freesize blocks) size p best) :
    ∃ r, search blocks size fuel cur best (bestRoom (freesize blocks) (MEMPOOL_SIZE + 1) best) =
        some r ∧
      BestFit (freesize blocks) size (POOLSTART :: handles) r := by
  induction q generalizing p cur fuel best with
  | nil =>
    obtain ⟨fuel, rfl⟩ : ∃ n, fuel = n + 1 := ⟨fuel - 1, by omega⟩
    have hnext : (blocks cur).nextblock = NOBLOCK := h.next_eq hrows
    have hle : freesize blocks cur < MEMPOOL_SIZE + 1 := Nat.lt_succ_of_le (h.freesize_le hrows)
    rw [search, hrows]
    simp only [hnext, if_true]
    split
    case isTrue hexact => exact ⟨_, rfl, bestFit_exact (by simp) hexact⟩
    case isFalse hexact =>
    split
    case isTrue hbetter =>
      exact ⟨_, rfl, hbest.better (Nat.le_of_lt hbetter.1) hbetter.2⟩
    case isFalse hbetter =>
      exact ⟨_, rfl, hbest.keep (by omega) hle⟩
  | cons k q ih =>
    obtain ⟨fuel, rfl⟩ : ∃ n, fuel = n + 1 := ⟨fuel - 1, by omega⟩
    have hnext : (blocks cur).nextblock = k := h.next_eq hrows
    have hle : freesize blocks cur < MEMPOOL_SIZE + 1 := Nat.lt_succ_of_le (h.freesize_le hrows)
    -- the walk does not stop here, for there is another row
    have hk : k ≠ NOBLOCK := h.ne_noblock (mem_behind hrows (List.mem_cons_self ..))
    have hrows' : POOLSTART :: handles = (p ++ [cur]) ++ k :: q := by
      rw [hrows, List.append_cons]
    have hfuel' : q.length < fuel := by
      rw [List.length_cons] at hfuel
      omega
    rw [search]
    simp only [hnext, if_neg hk]
    split
    case isTrue hexact =>
      refine ⟨_, rfl, bestFit_exact ?_ hexact⟩
      rw [hrows]
      simp
    case isFalse hexact =>
    split
    case isTrue hbetter =>
      exact ih fuel hrows' hfuel' (hbest.better (Nat.le_of_lt hbetter.1) hbetter.2)
    case isFalse hbetter =>
      exact ih fuel hrows' hfuel' (hbest.keep (by omega) hle)

/-- The table that `found` leaves when row `k` is free. -/
theorem found_fst {k b : Nat} (hk : freeRow blocks = some k) (hne : b ≠ k) :
    (found blocks b size).1 =
      Function.update (Function.update blocks k
          ⟨memaddress ((blocks b).begin + (blocks b).size), size, (blocks b).nextblock⟩)
        b { blocks b with nextblock := k } := by
  unfold found
  rw [hk]
  simp only [Function.update_of_ne hne]

/-- The handle is the free row. -/
theorem found_snd {k b : Nat} (hk : freeRow blocks = some k) : (found blocks b size).2 = k := by
  unfold found
  rw [hk]

/-- A free row can be handed out, and has no bytes. -/
theorem freeRow_eq_some {k : Nat} (hk : freeRow blocks = some k) :
    IsRow k ∧ (blocks k).size = 0 := by
  refine ⟨List.mem_range'_1.mp (List.mem_of_find?_eq_some hk), ?_⟩
  have hsize := List.find?_some hk
  simpa using hsize

/-- Which row is free depends on the sizes alone. -/
theorem freeRow_congr (hsize : ∀ h, (blocks' h).size = (blocks h).size) :
    freeRow blocks' = freeRow blocks := by
  unfold freeRow
  simp only [hsize]

/-- The chain with a handle more, behind one of its rows. -/
theorem insert_behind {c b k : Nat} (hrows : c :: handles = p ++ b :: q) :
    ∃ handles', c :: handles' = p ++ b :: k :: q ∧ handles'.Perm (k :: handles) := by
  cases p with
  | nil =>
    obtain ⟨rfl, rfl⟩ := List.cons.inj hrows
    exact ⟨k :: handles, rfl, List.Perm.refl _⟩
  | cons d p =>
    obtain ⟨rfl, rfl⟩ := List.cons.inj hrows
    refine ⟨p ++ b :: k :: q, rfl, ?_⟩
    show (p ++ b :: k :: q).Perm (k :: (p ++ b :: q))
    rw [List.append_cons p b (k :: q), List.append_cons p b q]
    exact List.perm_middle

/-- **A block more**: a row that is not in use is linked behind `b`, with a region there. -/
theorem Layout.insert (h : Layout blocks handles) {b k : Nat}
    (hrows : POOLSTART :: handles = p ++ b :: q) (hrow : IsRow k) (hzero : (blocks k).size = 0)
    (hsize : 0 < size) (hroom : size ≤ freesize blocks b)
    (hk : blocks' k = ⟨(region blocks b).stop, size, (blocks b).nextblock⟩)
    (hb : blocks' b = { blocks b with nextblock := k })
    (hother : ∀ r, r ≠ k → r ≠ b → blocks' r = blocks r) :
    ∃ handles', Layout blocks' handles' ∧ handles'.Perm (k :: handles) := by
  have hnodup := h.nodup_rows
  -- the row is not in the chain, for it has no bytes
  have hkmem : k ∉ POOLSTART :: handles := by
    intro hmem
    rcases List.mem_cons.mp hmem with rfl | hmem
    · exact absurd hrow.1 (by decide)
    · exact ((h.inUse k).mp hmem).2 hzero
  have hregion : ∀ r, r ≠ k → region blocks' r = region blocks r := by
    intro r hr
    unfold region
    by_cases hrb : r = b
    · rw [hrb, hb]
    · rw [hother r hr hrb]
  have hregionk : region blocks' k = ⟨(region blocks b).stop, size⟩ := by
    unfold region
    rw [hk]
    rfl
  have hfit := h.freesize_eq hrows
  have hpacked := h.packed_at hrows
  obtain ⟨handles', hrows', hperm⟩ := insert_behind (k := k) hrows
  refine ⟨handles', ⟨?_, ?_, ?_, ?_, ?_⟩, hperm⟩
  · rw [hrows']
    rw [hrows] at hkmem hnodup
    have hlinked := h.linked
    rw [hrows] at hlinked
    refine hlinked.insert hkmem hnodup ?_ ?_ ?_
    · rw [hk]
    · rw [hb]
    · intro r hr hrb
      rw [hother r (fun heq => hkmem (heq ▸ hr)) hrb]
  · rw [hperm.nodup_iff]
    exact List.nodup_cons.mpr ⟨fun hmem => hkmem (List.mem_cons_of_mem _ hmem), h.nodup⟩
  · intro r
    rw [hperm.mem_iff, List.mem_cons]
    by_cases hr : r = k
    · subst hr
      rw [hk]
      simp only [true_or, true_iff]
      exact ⟨hrow, Nat.ne_of_gt hsize⟩
    · have hsizer : (blocks' r).size = (blocks r).size := congrArg Region.size (hregion r hr)
      rw [hsizer, ← h.inUse r]
      simp only [hr, false_or]
  · rw [hregion _ fun heq => hkmem (heq ▸ List.mem_cons_self ..), h.start]
  · have hregions : ∀ l : List Nat, k ∉ l → l.map (region blocks') = l.map (region blocks) := by
      intro l hl
      exact List.map_congr_left fun r hr => hregion r fun heq => hl (heq ▸ hr)
    rw [hrows] at hkmem
    have hkp : k ∉ p := fun hmem => hkmem (List.mem_append_left _ hmem)
    have hkb : b ≠ k := fun heq => hkmem (heq ▸ List.mem_append_right p (List.mem_cons_self ..))
    have hkq : k ∉ q := fun hmem =>
      hkmem (List.mem_append_right p (List.mem_cons_of_mem b hmem))
    rw [hrows', List.map_append, List.map_cons, List.map_cons, hregions p hkp, hregions q hkq,
      hregion b hkb, hregionk]
    exact hpacked.insert (by omega)

/-- The block that `found` adds. -/
theorem Layout.found (h : Layout blocks handles) {b k : Nat}
    (hrows : POOLSTART :: handles = p ++ b :: q) (hk : freeRow blocks = some k) (hsize : 0 < size)
    (hroom : size ≤ freesize blocks b) :
    (∃ handles', Layout (found blocks b size).1 handles' ∧ handles'.Perm (k :: handles)) ∧
      (found blocks b size).2 = k ∧ ((found blocks b size).1 k).size = size ∧
      ∀ r, r ≠ k → region (found blocks b size).1 r = region blocks r := by
  obtain ⟨hrow, hzero⟩ := freeRow_eq_some hk
  have hbk : b ≠ k := by
    rintro rfl
    have hmem : b ∈ POOLSTART :: handles := by
      rw [hrows]
      simp
    rcases List.mem_cons.mp hmem with rfl | hmem
    · exact absurd hrow.1 (by decide)
    · exact ((h.inUse b).mp hmem).2 hzero
  have hlt := poolEnd_lt
  have hstop : (region blocks b).stop ≤ poolEnd := ((h.packed_at hrows).within (by simp)).2
  have haddress : memaddress ((blocks b).begin + (blocks b).size) = (region blocks b).stop :=
    memaddress_of_lt rfl (by omega)
  rw [found_fst hk hbk, haddress]
  refine ⟨h.insert hrows hrow hzero hsize hroom ?_ ?_ ?_, found_snd hk, ?_, ?_⟩
  · rw [Function.update_of_ne (Ne.symm hbk), Function.update_self]
  · rw [Function.update_self]
  · intro r hr hrb
    rw [Function.update_of_ne hrb, Function.update_of_ne hr]
  · rw [Function.update_of_ne (Ne.symm hbk), Function.update_self]
  · intro r hr
    unfold region
    by_cases hrb : r = b
    · subst hrb
      rw [Function.update_self]
    · rw [Function.update_of_ne hrb, Function.update_of_ne hr]

/-- The chain stays when only regions change, and none of them becomes empty. -/
theorem Layout.reshape (h : Layout blocks handles)
    (hnext : ∀ r, (blocks' r).nextblock = (blocks r).nextblock)
    (hsize : ∀ r, (blocks' r).size = 0 ↔ (blocks r).size = 0)
    (hstart : region blocks' POOLSTART = region blocks POOLSTART)
    (hpacked : Packed poolEnd MEMPOOL_STARTADDRESS ((POOLSTART :: handles).map (region blocks'))) :
    Layout blocks' handles := by
  refine ⟨h.linked.congr fun r _ => hnext r, h.nodup, fun r => ?_, hstart.trans h.start, hpacked⟩
  rw [h.inUse, Ne, Ne, hsize]

/-- The bytes in use depend on the sizes alone. -/
theorem used_congr {l : List Nat} (hsize : ∀ r ∈ l, (blocks' r).size = (blocks r).size) :
    used (l.map (region blocks')) = used (l.map (region blocks)) := by
  unfold used
  rw [List.map_map, List.map_map]
  exact congrArg List.sum (List.map_congr_left hsize)

/-- What the copies of a compaction make of the RAM. -/
def moved (moves : List Move) (ram : Ram) : Ram :=
  moves.foldl (fun ram v => move ram v.dest v.src v.size) ram

/-- **The blocks of a list have been moved with what they hold**: every copy is a copy of a whole
    block, downwards, and after all of them each block holds what it held before. -/
structure Carried (blocks blocks' : Blocks) (l : List Nat) (moves : List Move) : Prop where
  source : ∀ v ∈ moves, ∃ r ∈ l, (⟨v.src, v.size⟩ : Region) = region blocks r
  down : ∀ v ∈ moves, MEMPOOL_STARTADDRESS ≤ v.dest ∧ v.dest ≤ v.src
  contents : ∀ r ∈ l, ∀ ram,
    bytes (moved moves ram) (region blocks' r) = bytes ram (region blocks r)

/-- One step of the compaction: the block behind `a` begins where `a` stops.  The order of the
    regions stays, and the room in front of the block comes behind it. -/
theorem Layout.lower (h : Layout blocks handles) {k : Nat}
    (hrows : POOLSTART :: handles = p ++ a :: k :: q) :
    Layout (Function.update blocks k { blocks k with begin := (region blocks a).stop }) handles := by
  have hk : k ∈ handles := mem_behind hrows (List.mem_cons_self ..)
  have hnodup := h.nodup_rows
  have hpacked := h.packed_at hrows
  rw [hrows] at hnodup
  obtain ⟨-, hbehind, hdisjoint⟩ := List.nodup_append.mp hnodup
  have hka : k ≠ a := fun heq => (List.nodup_cons.mp hbehind).1 (heq ▸ List.mem_cons_self ..)
  have hkq : k ∉ q := (List.nodup_cons.mp (List.nodup_cons.mp hbehind).2).1
  have hkp : k ∉ p := fun hmem =>
    hdisjoint k hmem k (List.mem_cons_of_mem a (List.mem_cons_self ..)) rfl
  have hother : ∀ r, r ≠ k →
      Function.update blocks k { blocks k with begin := (region blocks a).stop } r = blocks r :=
    fun r hr => Function.update_of_ne hr _ _
  have hregions : ∀ l : List Nat, k ∉ l →
      l.map (region (Function.update blocks k { blocks k with begin := (region blocks a).stop })) =
        l.map (region blocks) := by
    intro l hl
    exact List.map_congr_left fun r hr => region_congr (hother r fun heq => hl (heq ▸ hr))
  refine h.reshape (fun r => ?_) (fun r => ?_) ?_ ?_
  · by_cases hr : r = k
    · rw [hr, Function.update_self]
    · rw [hother r hr]
  · by_cases hr : r = k
    · rw [hr, Function.update_self]
    · rw [hother r hr]
  · exact region_congr (hother POOLSTART fun heq => h.ne_noblock hk heq.symm)
  · rw [hrows, List.map_append, List.map_cons, List.map_cons, hregions p hkp, hregions q hkq]
    have hregionk : region (Function.update blocks k
        { blocks k with begin := (region blocks a).stop }) k =
          ⟨(region blocks a).stop, (region blocks k).size⟩ := by
      rw [region, Function.update_self]
      rfl
    rw [region_congr (hother a (Ne.symm hka)), hregionk]
    exact hpacked.lower

/-- **The compaction ends**, and pushes every block down to the one before it, with what it holds.
    `p` is the part of the chain that is pushed together already.

    That the blocks keep what they hold is the delicate part.  The source copies one block after the
    other inside the same RAM, and a copy may overwrite the bytes it is made of.  It goes downwards,
    so `move` is right for one block (`Regions`); and what it overwrites lies below the blocks that
    are still to be copied, whose regions the order puts above it. -/
theorem Layout.collect_spec (h : Layout blocks handles) (fuel : Nat)
    (hrows : POOLSTART :: handles = p ++ a :: q) (hfuel : q.length < fuel)
    (hpushed : (region blocks a).stop =
      MEMPOOL_STARTADDRESS + used ((p ++ [a]).map (region blocks))) :
    ∃ blocks' last moves, collect fuel blocks a = some (blocks', last, moves) ∧
      Layout blocks' handles ∧ (∃ p', POOLSTART :: handles = p' ++ [last]) ∧
      (region blocks' last).stop =
        MEMPOOL_STARTADDRESS + used ((POOLSTART :: handles).map (region blocks)) ∧
      (∀ r, (blocks' r).size = (blocks r).size) ∧ (∀ r, r ∉ q → blocks' r = blocks r) ∧
      Carried blocks blocks' q moves ∧
      ∀ ram x, x < (region blocks a).stop → moved moves ram x = ram x := by
  -- along the chain; the accumulator is a block up to which everything is pushed together
  induction q generalizing blocks p a fuel with
  | nil =>
    obtain ⟨fuel, rfl⟩ : ∃ n, fuel = n + 1 := ⟨fuel - 1, by omega⟩
    have hnext : (blocks a).nextblock = NOBLOCK := h.next_eq hrows
    refine ⟨blocks, a, [], ?_, h, ⟨p, hrows⟩, ?_, fun _ => rfl, fun _ _ => rfl, ?_, fun _ _ _ => rfl⟩
    · rw [collect]
      simp only [hnext, if_true]
    · rw [hrows, hpushed]
    · constructor <;> intro r hr <;> cases hr
  | cons k q ih =>
    obtain ⟨fuel, rfl⟩ : ∃ n, fuel = n + 1 := ⟨fuel - 1, by omega⟩
    have hnext : (blocks a).nextblock = k := h.next_eq hrows
    have hkmem : k ∈ handles := mem_behind hrows (List.mem_cons_self ..)
    have hk : k ≠ NOBLOCK := h.ne_noblock hkmem
    have hrows' : POOLSTART :: handles = (p ++ [a]) ++ k :: q := by
      rw [hrows, List.append_cons]
    have hfuel' : q.length < fuel := by
      rw [List.length_cons] at hfuel
      omega
    have hnodup := h.nodup_rows
    rw [hrows'] at hnodup
    obtain ⟨-, hbehind, hdisjoint⟩ := List.nodup_append.mp hnodup
    have hkq : k ∉ q := (List.nodup_cons.mp hbehind).1
    have hkpa : k ∉ p ++ [a] := fun hmem => hdisjoint k hmem k (List.mem_cons_self ..) rfl
    have hpacked := h.packed_at hrows
    have hlt := poolEnd_lt
    have hstop : (region blocks a).stop ≤ poolEnd := (hpacked.within (by simp)).2
    have hdest : memaddress ((blocks a).begin + (blocks a).size) = (region blocks a).stop :=
      memaddress_of_lt rfl (by omega)
    have hle : (region blocks a).stop ≤ (region blocks k).begin := by
      have hroom := hpacked.of_append.room
      exact hroom
    -- the blocks behind `k` stand wholly above it
    have habove : ∀ r ∈ q, (region blocks k).stop ≤ (region blocks r).begin := by
      intro r hr
      have hbehindk := (h.packed_at hrows').of_append
      exact (hbehindk.within (List.mem_map_of_mem hr)).1
    rw [collect]
    simp only [hnext, if_neg hk, hdest]
    split
    -- no gap in front of `k`: it stays, and is now the last that is pushed
    case isTrue hsame =>
      have hstopk : (region blocks k).stop =
          MEMPOOL_STARTADDRESS + used (((p ++ [a]) ++ [k]).map (region blocks)) := by
        rw [List.map_append, used_append, ← Nat.add_assoc, ← hpushed, hsame]
        simp [Region.stop, region]
      obtain ⟨blocks', last, moves, hcollect, hlayout, hlast, hend, hsizes, hkeep, hcarried, hbelow⟩ :=
        ih h fuel hrows' hfuel' hstopk
      refine ⟨blocks', last, moves, hcollect, hlayout, hlast, hend, hsizes,
        fun r hr => hkeep r fun hmem => hr (List.mem_cons_of_mem k hmem), ⟨?_, hcarried.down, ?_⟩,
        fun ram x hx => hbelow ram x ?_⟩
      · intro v hv
        obtain ⟨r, hr, hv⟩ := hcarried.source v hv
        exact ⟨r, List.mem_cons_of_mem k hr, hv⟩
      · intro r hr ram
        rcases List.mem_cons.mp hr with rfl | hr
        · rw [region_congr (hkeep r hkq)]
          exact bytes_congr fun x _ hx => hbelow ram x hx
        · exact hcarried.contents r hr ram
      · have hbegin : (region blocks k).begin ≤ (region blocks k).stop := Nat.le_add_right ..
        omega
    -- a gap: `k` moves down to the end of `a`, and the rest is collected in what that leaves
    case isFalse hdiff =>
      have hlayout1 := h.lower (p := p) (a := a) (k := k) (q := q) hrows
      generalize hblocks1 : Function.update blocks k
        { blocks k with begin := (region blocks a).stop } = blocks1 at hlayout1 ⊢
      have hk1 : blocks1 k = { blocks k with begin := (region blocks a).stop } := by
        rw [← hblocks1, Function.update_self]
      have hother : ∀ r, r ≠ k → blocks1 r = blocks r := by
        intro r hr
        rw [← hblocks1, Function.update_of_ne hr]
      have hsize1 : ∀ r, (blocks1 r).size = (blocks r).size := by
        intro r
        by_cases hr : r = k
        · rw [hr, hk1]
        · rw [hother r hr]
      have hregionk : region blocks1 k = ⟨(region blocks a).stop, (blocks k).size⟩ := by
        unfold region
        rw [hk1]
        rfl
      have hstopk : (region blocks1 k).stop =
          MEMPOOL_STARTADDRESS + used (((p ++ [a]) ++ [k]).map (region blocks1)) := by
        rw [used_congr fun r _ => hsize1 r, List.map_append, used_append, ← Nat.add_assoc, ← hpushed,
          hregionk]
        simp [Region.stop, region]
      obtain ⟨blocks', last, moves, hcollect, hlayout, hlast, hend, hsizes, hkeep, hcarried, hbelow⟩ :=
        ih hlayout1 fuel hrows' hfuel' hstopk
      have hstop1 : (region blocks1 k).stop = (region blocks a).stop + (blocks k).size := by
        rw [hregionk]
        rfl
      have hregion1 : ∀ r ∈ q, region blocks1 r = region blocks r :=
        fun r hr => region_congr (hother r fun heq => hkq (heq ▸ hr))
      refine ⟨blocks', last, ⟨(region blocks a).stop, (blocks k).begin, (blocks k).size⟩ :: moves,
        ?_, hlayout, hlast, ?_, fun r => (hsizes r).trans (hsize1 r), ?_, ⟨?_, ?_, ?_⟩, ?_⟩
      · rw [hcollect]
        rfl
      · rw [hend, used_congr fun r _ => hsize1 r]
      · intro r hr
        rw [List.mem_cons, not_or] at hr
        rw [hkeep r hr.2, hother r hr.1]
      · intro v hv
        rcases List.mem_cons.mp hv with rfl | hv
        · exact ⟨k, List.mem_cons_self .., rfl⟩
        · obtain ⟨r, hr, hv⟩ := hcarried.source v hv
          exact ⟨r, List.mem_cons_of_mem k hr, hv.trans (hregion1 r hr)⟩
      · intro v hv
        rcases List.mem_cons.mp hv with rfl | hv
        · exact ⟨by rw [hpushed]; exact Nat.le_add_right .., hle⟩
        · exact hcarried.down v hv
      · intro r hr ram
        rcases List.mem_cons.mp hr with rfl | hr
        · rw [region_congr (hkeep r hkq), hregionk]
          -- the later moves write above `k`, so its bytes are what the first move has brought
          refine Eq.trans (bytes_congr fun x _ hx => hbelow _ x ?_) bytes_move
          rw [hstop1]
          exact hx
        · rw [← hregion1 r hr]
          refine Eq.trans (hcarried.contents r hr _) ?_
          rw [hregion1 r hr]
          -- and the first move does not reach the blocks that are still to be moved
          refine bytes_congr fun x hx _ => move_of_ge ?_
          have habover := habove r hr
          have hstopk' : (region blocks k).stop = (region blocks k).begin + (blocks k).size := rfl
          show (region blocks a).stop + (blocks k).size ≤ x
          omega
      · intro ram x hx
        refine Eq.trans (hbelow _ x ?_) (move_of_lt hx)
        rw [hstop1]
        omega

/-! ## `allocBlock`

  The parts are put together.  `AllocSpec` is what the rest of the development knows of the
  function: the copies carry the blocks, and it succeeds exactly when there is `Room`. -/

/-- **A block of this size can be had**: a row is free, and the blocks in use leave the bytes. -/
def Room (blocks : Blocks) (handles : List Nat) (size : Nat) : Prop :=
  (freeRow blocks).isSome ∧ used (handles.map (region blocks)) + size ≤ MEMPOOL_SIZE

/-- The row that the chain starts from uses no bytes. -/
theorem Layout.used_rows (h : Layout blocks handles) :
    used ((POOLSTART :: handles).map (region blocks)) = used (handles.map (region blocks)) := by
  rw [List.map_cons, used_cons, h.start, Nat.zero_add]

/-- A room between two blocks is not in use. -/
theorem Layout.used_add_freesize (h : Layout blocks handles)
    (hrows : POOLSTART :: handles = p ++ a :: q) :
    used (handles.map (region blocks)) + freesize blocks a ≤ MEMPOOL_SIZE := by
  have hfit := h.freesize_eq hrows
  have hused := ((h.packed_at hrows).insert (Nat.le_of_eq hfit)).used_le
  rw [← h.used_rows, hrows, List.map_append, List.map_cons]
  simp only [used_append, used_cons] at hused ⊢
  have hpool : poolEnd = MEMPOOL_STARTADDRESS + MEMPOOL_SIZE := rfl
  omega

/-- No block was moved. -/
theorem Carried.of_region (hregion : ∀ r ∈ handles, region blocks' r = region blocks r) :
    Carried blocks blocks' handles [] := by
  refine ⟨fun v hv => ?_, fun v hv => ?_, fun r hr ram => ?_⟩
  · cases hv
  · cases hv
  · rw [hregion r hr]
    rfl

/-- The blocks were moved, and then a row was added. -/
theorem Carried.trans_region {blocks'' : Blocks} {moves : List Move}
    (h : Carried blocks blocks' handles moves)
    (hregion : ∀ r ∈ handles, region blocks'' r = region blocks' r) :
    Carried blocks blocks'' handles moves := by
  refine ⟨h.source, h.down, fun r hr ram => ?_⟩
  rw [hregion r hr]
  exact h.contents r hr ram

/-- What a call of `allocBlock` that returned has done. -/
structure AllocSpec (blocks : Blocks) (handles : List Nat) (size : Nat) (r : Allocated) : Prop where
  carried : Carried blocks r.blocks handles r.moves
  /-- Blocks are copied only when no room between two of them is large enough. -/
  moves : r.moves ≠ [] → ∀ c ∈ POOLSTART :: handles, freesize blocks c < size
  outcome :
    (¬ Room blocks handles size ∧ r.handle = NOBLOCK ∧ Layout r.blocks handles) ∨
    (Room blocks handles size ∧ r.handle ∉ handles ∧ (r.blocks r.handle).size = size ∧
      ∃ handles', Layout r.blocks handles' ∧ handles'.Perm (r.handle :: handles))

/-- **What stands at `found:`** where the block `b` has the room behind it. -/
theorem Layout.found_spec (h : Layout blocks handles) {b : Nat}
    (hrows : POOLSTART :: handles = p ++ b :: q) (hsize : 0 < size)
    (hroom : size ≤ freesize blocks b) :
    (∀ r ∈ handles, region (MemPool.found blocks b size).1 r = region blocks r) ∧
    ((¬ Room blocks handles size ∧ (MemPool.found blocks b size).2 = NOBLOCK ∧
        Layout (MemPool.found blocks b size).1 handles) ∨
      (Room blocks handles size ∧ (MemPool.found blocks b size).2 ∉ handles ∧
        ((MemPool.found blocks b size).1 (MemPool.found blocks b size).2).size = size ∧
        ∃ handles', Layout (MemPool.found blocks b size).1 handles' ∧
          handles'.Perm ((MemPool.found blocks b size).2 :: handles))) := by
  have hused := h.used_add_freesize hrows
  cases hk : freeRow blocks with
  | none =>
    have hfound : MemPool.found blocks b size = (blocks, NOBLOCK) := by
      unfold MemPool.found
      rw [hk]
    rw [hfound]
    refine ⟨fun r _ => rfl, Or.inl ⟨fun hR => ?_, rfl, h⟩⟩
    have hsome := hR.1
    rw [hk] at hsome
    cases hsome
  | some k =>
    obtain ⟨hlayout, hhandle, hsizek, hregion⟩ := h.found hrows hk hsize hroom
    have hkmem : k ∉ handles := fun hmem => ((h.inUse k).mp hmem).2 (freeRow_eq_some hk).2
    rw [hhandle]
    refine ⟨fun r hr => hregion r fun heq => hkmem (heq ▸ hr), Or.inr ⟨⟨?_, ?_⟩, hkmem, hsizek, hlayout⟩⟩
    · rw [hk]
      rfl
    · omega

/-- **`allocBlock` returns**, and does what `AllocSpec` says. -/
theorem Layout.allocBlock (h : Layout blocks handles) (hsize : 0 < size) :
    ∃ r, MemPool.allocBlock blocks size = some r ∧ AllocSpec blocks handles size r := by
  have hlength := h.length_le
  obtain ⟨best, hsearch, hbest⟩ := h.search_spec (p := []) (q := handles) (MEMPOOL_NUM_MEMBLOCKS + 1)
    rfl (by omega) (bestFit_nil : BestFit (freesize blocks) size [] none)
  have hsearch' : search blocks size (MEMPOOL_NUM_MEMBLOCKS + 1) POOLSTART none
      (MEMPOOL_SIZE + 1) = some best := hsearch
  unfold MemPool.allocBlock
  rw [hsearch', Option.bind_some]
  cases best with
  -- a room was found, and no block is moved
  | some b =>
    obtain ⟨p, q, hrows⟩ := List.append_of_mem hbest.1
    obtain ⟨hregion, houtcome⟩ := h.found_spec hrows hsize hbest.2.1
    exact ⟨_, rfl, Carried.of_region hregion, fun hmoves => absurd rfl hmoves, houtcome⟩
  -- no room is large enough, so the blocks are pushed together; then there is one room, at the end
  | none =>
    have hpushed : (region blocks POOLSTART).stop =
        MEMPOOL_STARTADDRESS + used (([] ++ [POOLSTART]).map (region blocks)) := by
      rw [List.nil_append, List.map_cons, List.map_nil, h.start]
      rfl
    obtain ⟨blocks', last, moves, hcollect, hlayout, ⟨p', hrows'⟩, hend, hsizes, hkeep, hcarried, -⟩ :=
      h.collect_spec (p := []) (a := POOLSTART) (q := handles) (MEMPOOL_NUM_MEMBLOCKS + 1) rfl
        (by omega) hpushed
    have hstart : (blocks' POOLSTART).begin = MEMPOOL_STARTADDRESS :=
      congrArg Region.begin hlayout.start
    have hstop : (region blocks' last).stop = (blocks' last).begin + (blocks' last).size := rfl
    have hused := h.used_rows
    have hfit := hlayout.freesize_eq (p := p') (q := []) hrows'
    have hpool : roomEnd poolEnd (([] : List Nat).map (region blocks')) =
      MEMPOOL_STARTADDRESS + MEMPOOL_SIZE := rfl
    have hroom : Room blocks' handles size ↔ Room blocks handles size := by
      unfold Room
      rw [freeRow_congr hsizes, used_congr fun r _ => hsizes r]
    simp only
    rw [hcollect, Option.map_some]
    simp only [hstart]
    split
    case isTrue hge =>
      obtain ⟨hregion, houtcome⟩ := hlayout.found_spec hrows' hsize (by omega)
      rw [hroom] at houtcome
      exact ⟨_, rfl, hcarried.trans_region hregion, fun _ => hbest, houtcome⟩
    case isFalse hlt =>
      refine ⟨_, rfl, hcarried, fun _ => hbest, Or.inl ⟨fun hR => ?_, rfl, hlayout⟩⟩
      have hbytes := hR.2
      omega

/-! ## `freeBlock`

  The walk stops before the block.  If the block is not in the chain, the walk ends at its end, and
  nothing is changed. -/

/-- The chain with a handle less. -/
theorem erase_behind {b c k : Nat} (hrows : c :: handles = p ++ b :: k :: q) (hp : k ∉ p)
    (hb : k ≠ b) : c :: handles.erase k = p ++ b :: q := by
  cases p with
  | nil =>
    obtain ⟨rfl, rfl⟩ := List.cons.inj hrows
    rw [List.erase_cons_head, List.nil_append]
  | cons d p =>
    obtain ⟨rfl, rfl⟩ := List.cons.inj hrows
    have hp' : k ∉ p := fun hmem => hp (List.mem_cons_of_mem c hmem)
    show c :: (p ++ b :: k :: q).erase k = c :: (p ++ b :: q)
    rw [List.erase_append_right _ hp', List.erase_cons_tail (by simpa using Ne.symm hb),
      List.erase_cons_head]

/-- **A block less**: `b`, which pointed to it, points to what it pointed to. -/
theorem Layout.unlink (h : Layout blocks handles) {b k : Nat}
    (hrows : POOLSTART :: handles = p ++ b :: k :: q)
    (hk : blocks' k = { blocks k with size := 0, nextblock := NOBLOCK })
    (hb : blocks' b = { blocks b with nextblock := (blocks k).nextblock })
    (hother : ∀ r, r ≠ k → r ≠ b → blocks' r = blocks r) :
    Layout blocks' (handles.erase k) ∧ ∀ r, r ≠ k → region blocks' r = region blocks r := by
  have hkmem : k ∈ handles := mem_behind hrows (List.mem_cons_self ..)
  have hnodup := h.nodup_rows
  have hpacked := h.packed_at hrows
  rw [hrows] at hnodup
  obtain ⟨-, hbehind, hdisjoint⟩ := List.nodup_append.mp hnodup
  -- no row is twice in the chain, so `k` and `b` are nowhere else in it
  have hkb : k ≠ b := fun heq => (List.nodup_cons.mp hbehind).1 (heq ▸ List.mem_cons_self ..)
  have hkq : k ∉ q := (List.nodup_cons.mp (List.nodup_cons.mp hbehind).2).1
  have hbq : b ∉ q := fun hmem => (List.nodup_cons.mp hbehind).1 (List.mem_cons_of_mem k hmem)
  have hkp : k ∉ p := fun hmem =>
    hdisjoint k hmem k (List.mem_cons_of_mem b (List.mem_cons_self ..)) rfl
  have hbp : b ∉ p := fun hmem => hdisjoint b hmem b (List.mem_cons_self ..) rfl
  have hregion : ∀ r, r ≠ k → region blocks' r = region blocks r := by
    intro r hr
    by_cases hrb : r = b
    · rw [hrb]
      unfold region
      rw [hb]
    · exact region_congr (hother r hr hrb)
  have hrows' := erase_behind hrows hkp hkb
  refine ⟨⟨?_, h.nodup.erase k, fun r => ?_, ?_, ?_⟩, hregion⟩
  · rw [hrows']
    have hlinked := h.linked
    rw [hrows] at hlinked
    refine hlinked.erase hnodup ?_ ?_
    · rw [hb]
    · intro r hr
      have hrk : r ≠ k := by
        rintro rfl
        exact (List.mem_append.mp hr).elim hkp hkq
      have hrb : r ≠ b := by
        rintro rfl
        exact (List.mem_append.mp hr).elim hbp hbq
      rw [hother r hrk hrb]
  · rw [h.nodup.mem_erase_iff]
    by_cases hr : r = k
    · rw [hr, hk]
      simp
    · have hsizer : (blocks' r).size = (blocks r).size := congrArg Region.size (hregion r hr)
      rw [hsizer, h.inUse r]
      simp only [ne_eq, hr, not_false_eq_true, true_and]
  · have hstart : POOLSTART ≠ k := fun heq => h.ne_noblock hkmem heq.symm
    rw [hregion POOLSTART hstart, h.start]
  -- a region less leaves the others where they are: the gap is room
  · have hregions : ∀ l : List Nat, k ∉ l → l.map (region blocks') = l.map (region blocks) := by
      intro l hl
      exact List.map_congr_left fun r hr => hregion r fun heq => hl (heq ▸ hr)
    rw [hrows', List.map_append, List.map_cons, hregions p hkp, hregions q hkq,
      hregion b (Ne.symm hkb)]
    rw [List.map_cons, List.append_cons] at hpacked
    rw [List.append_cons]
    exact hpacked.erase

/-- The walk of `freeBlock`, which has not met the block yet. -/
theorem Layout.freeLoop_spec (h : Layout blocks handles) {fuel b k : Nat}
    (hrows : POOLSTART :: handles = p ++ b :: q) (hfuel : q.length < fuel) (hk : k ≠ NOBLOCK)
    (hpast : k ∉ p ++ [b]) :
    ∃ blocks', freeLoop k fuel blocks b = some blocks' ∧ Layout blocks' (handles.erase k) ∧
      ∀ r, r ≠ k → region blocks' r = region blocks r := by
  induction q generalizing p b fuel with
  | nil =>
    obtain ⟨fuel, rfl⟩ : ∃ n, fuel = n + 1 := ⟨fuel - 1, by omega⟩
    have hnext : (blocks b).nextblock = NOBLOCK := h.next_eq hrows
    have hkmem : k ∉ handles := by
      rw [← hrows] at hpast
      exact fun hmem => hpast (List.mem_cons_of_mem _ hmem)
    refine ⟨blocks, ?_, ?_, fun _ _ => rfl⟩
    · rw [freeLoop]
      simp only [hnext, if_neg (Ne.symm hk), if_true]
    · rwa [List.erase_of_not_mem hkmem]
  | cons c q ih =>
    obtain ⟨fuel, rfl⟩ : ∃ n, fuel = n + 1 := ⟨fuel - 1, by omega⟩
    have hnext : (blocks b).nextblock = c := h.next_eq hrows
    have hc : c ≠ NOBLOCK := h.ne_noblock (mem_behind hrows (List.mem_cons_self ..))
    rw [freeLoop]
    simp only [hnext]
    split
    case isTrue hck =>
      subst hck
      have hcb : c ≠ b := by
        rintro rfl
        simp at hpast
      refine ⟨_, rfl, h.unlink hrows ?_ ?_ ?_⟩
      · rw [Function.update_self, Function.update_of_ne hcb]
      · rw [Function.update_of_ne (Ne.symm hcb), Function.update_self]
      · intro r hr hrb
        rw [Function.update_of_ne hr, Function.update_of_ne hrb]
    case isFalse hck =>
      rw [List.length_cons] at hfuel
      refine ih (p := p ++ [b]) (by rw [hrows, List.append_cons]) (by omega) ?_
      intro hmem
      rcases List.mem_append.mp hmem with hmem | hmem
      · exact hpast hmem
      · exact hck (List.mem_singleton.mp hmem).symm

/-- **`freeBlock` returns**, without the block; of a handle not in use it takes no notice. -/
theorem Layout.freeBlock (h : Layout blocks handles) (k : Nat) :
    ∃ blocks', MemPool.freeBlock blocks k = some blocks' ∧ Layout blocks' (handles.erase k) ∧
      ∀ r, r ≠ k → region blocks' r = region blocks r := by
  unfold MemPool.freeBlock
  by_cases hk : k = NOBLOCK
  · rw [if_pos hk]
    refine ⟨blocks, rfl, ?_, fun _ _ => rfl⟩
    rwa [List.erase_of_not_mem fun hmem => h.ne_noblock hmem hk]
  · rw [if_neg hk]
    have hlength := h.length_le
    refine h.freeLoop_spec (p := []) rfl (by omega) hk ?_
    exact fun hmem => hk (List.mem_singleton.mp hmem)

/-! ## `resizeBlock`

  A block that shrinks stays between its neighbours.  The source does not check that it shrinks, nor
  that a byte is left; both are hypotheses here. -/

/-- A block that gets a smaller region, within its own. -/
theorem Layout.resize (h : Layout blocks handles) {k begin : Nat} (hk : k ∈ handles)
    (hsize : 0 < size) (hbegin : (blocks k).begin ≤ begin)
    (hstop : begin + size ≤ (blocks k).begin + (blocks k).size) :
    Layout (Function.update blocks k { blocks k with begin := begin, size := size }) handles := by
  have hother : ∀ r, r ≠ k →
      Function.update blocks k { blocks k with begin := begin, size := size } r = blocks r :=
    fun r hr => Function.update_of_ne hr _ _
  have hself : Function.update blocks k { blocks k with begin := begin, size := size } k =
    { blocks k with begin := begin, size := size } := Function.update_self ..
  have hzero : (blocks k).size ≠ 0 := ((h.inUse k).mp hk).2
  have hregions : ∀ l : List Nat, k ∉ l →
      l.map (region (Function.update blocks k { blocks k with begin := begin, size := size })) =
        l.map (region blocks) := by
    intro l hl
    exact List.map_congr_left fun r hr => region_congr (hother r fun heq => hl (heq ▸ hr))
  refine h.reshape (fun r => ?_) (fun r => ?_) ?_ ?_
  · by_cases hr : r = k
    · rw [hr, hself]
    · rw [hother r hr]
  · by_cases hr : r = k
    · rw [hr, hself]
      show size = 0 ↔ (blocks k).size = 0
      omega
    · rw [hother r hr]
  · exact region_congr (hother POOLSTART fun heq => h.ne_noblock hk heq.symm)
  · obtain ⟨p, q, hrows⟩ := List.append_of_mem (List.mem_cons_of_mem POOLSTART hk)
    have hnodup := h.nodup_rows
    have hpacked := h.packed_at hrows
    rw [hrows] at hnodup
    obtain ⟨-, hbehind, hdisjoint⟩ := List.nodup_append.mp hnodup
    have hkp : k ∉ p := fun hmem => hdisjoint k hmem k (List.mem_cons_self ..) rfl
    have hkq : k ∉ q := (List.nodup_cons.mp hbehind).1
    have hregion : region (Function.update blocks k
        { blocks k with begin := begin, size := size }) k = ⟨begin, size⟩ := by
      unfold region
      rw [hself]
    rw [hrows, List.map_append, List.map_cons, hregions p hkp, hregions q hkq, hregion]
    exact hpacked.shrink hbegin hstop

/-- A block lies in the pool. -/
theorem Layout.stop_lt (h : Layout blocks handles) {k : Nat} (hk : k ∈ handles) :
    MEMPOOL_STARTADDRESS ≤ (blocks k).begin ∧ (blocks k).begin + (blocks k).size ≤ poolEnd :=
  h.packed.within (List.mem_map_of_mem (List.mem_cons_of_mem POOLSTART hk))

/-- **A block loses its first bytes**, and keeps one at least. -/
theorem Layout.resizeBlockFront (h : Layout blocks handles) {k position : Nat} (hk : k ∈ handles)
    (hposition : position < (blocks k).size) :
    MemPool.resizeBlockFront blocks k position = Function.update blocks k
        { blocks k with
          begin := (blocks k).begin + position
          size := (blocks k).size - position } ∧
      Layout (MemPool.resizeBlockFront blocks k position) handles := by
  have hstop := (h.stop_lt hk).2
  have hlt := poolEnd_lt
  have hbegin : memaddress ((blocks k).begin + position) = (blocks k).begin + position :=
    memaddress_of_lt rfl (by omega)
  have hsize : memaddress ((blocks k).size - position) = (blocks k).size - position :=
    memaddress_of_lt (by omega) (by omega)
  unfold MemPool.resizeBlockFront
  simp only [hbegin, hsize, true_and]
  exact h.resize hk (by omega) (by omega) (by omega)

/-- **A block is cut to a part of it.** -/
theorem Layout.resizeBlock (h : Layout blocks handles) {k position size : Nat} (hk : k ∈ handles)
    (hsize : 0 < size) (hposition : position + size ≤ (blocks k).size) :
    MemPool.resizeBlock blocks k position size = Function.update blocks k
        { blocks k with begin := (blocks k).begin + position, size := size } ∧
      Layout (MemPool.resizeBlock blocks k position size) handles := by
  have hstop := (h.stop_lt hk).2
  have hlt := poolEnd_lt
  have hbegin : memaddress ((blocks k).begin + position) = (blocks k).begin + position :=
    memaddress_of_lt rfl (by omega)
  unfold MemPool.resizeBlock
  simp only [hbegin, true_and]
  exact h.resize hk hsize (by omega) (by omega)

/-! ## What is in use, read off the table

  `Room` speaks of the chain.  The same can be said of the table alone, so that the theorem about
  `allocBlock` needs no list. -/

/-- The sizes of all rows of the table, added up. -/
def totalSize (blocks : Blocks) : Nat :=
  ((List.range' POOLOFFSET MEMPOOL_NUM_MEMBLOCKS).map fun r => (blocks r).size).sum

/-- Zeros add nothing to a sum. -/
theorem sum_filter_ne_zero {α : Type} (f : α → Nat) (l : List α) :
    ((l.filter fun a => f a != 0).map f).sum = (l.map f).sum := by
  induction l with
  | nil => rfl
  | cons a l ih =>
    rw [List.filter_cons]
    split
    case isTrue => simp [ih]
    case isFalse hzero =>
      have hfa : f a = 0 := by simpa using hzero
      simp [ih, hfa]

/-- The bytes in use are the sizes of all rows: those that are not in the chain have none. -/
theorem Layout.used_eq (h : Layout blocks handles) :
    used (handles.map (region blocks)) = totalSize blocks := by
  have hperm : handles.Perm ((List.range' POOLOFFSET MEMPOOL_NUM_MEMBLOCKS).filter
      fun r => (blocks r).size != 0) := by
    have hrows : (List.range' POOLOFFSET MEMPOOL_NUM_MEMBLOCKS).Nodup := List.nodup_range'
    refine (List.perm_ext_iff_of_nodup h.nodup (hrows.filter _)).mpr fun r => ?_
    rw [h.inUse, List.mem_filter, List.mem_range'_1, bne_iff_ne]
    rfl
  have hsum := (hperm.map fun r => (blocks r).size).sum_nat
  have hsizes : (handles.map (region blocks)).map Region.size =
      handles.map fun r => (blocks r).size := List.map_map
  unfold used totalSize
  rw [hsizes, hsum, sum_filter_ne_zero]

/-- A row is found if there is a free one. -/
theorem freeRow_isSome : (freeRow blocks).isSome ↔ ∃ r, IsRow r ∧ (blocks r).size = 0 := by
  unfold freeRow
  rw [List.find?_isSome]
  simp only [List.mem_range'_1, beq_iff_eq]
  rfl

/-- **When `allocBlock` succeeds**: exactly when a row is free and the sizes of all blocks leave the
    bytes.  No fragmentation stands in its way. -/
theorem Layout.allocBlock_iff (h : Layout blocks handles) (hsize : 0 < size) :
    ∃ r, MemPool.allocBlock blocks size = some r ∧
      (r.handle ≠ NOBLOCK ↔
        (∃ k, IsRow k ∧ (blocks k).size = 0) ∧ totalSize blocks + size ≤ MEMPOOL_SIZE) := by
  obtain ⟨r, hr, hspec⟩ := h.allocBlock hsize
  refine ⟨r, hr, ?_⟩
  rw [← freeRow_isSome, ← h.used_eq]
  rcases hspec.outcome with ⟨hno, hhandle, -⟩ | ⟨hroom, -, -, handles', hl', hperm⟩
  · simp only [hhandle, ne_eq, not_true_eq_false, false_iff]
    exact hno
  · have hmem : r.handle ∈ handles' := hperm.mem_iff.mpr (List.mem_cons_self ..)
    exact ⟨fun _ => hroom, fun _ => hl'.ne_noblock hmem⟩

/-! ## A block of no bytes

  `allocBlock (0)` links a row into the chain and leaves its size 0, so the row is free and in the
  chain at once.  The next request takes the same row.  If the room that it finds is behind another
  block, the chain loses what stood behind the row; if it is behind that row itself, the row comes
  to point to itself, and the walk of every later request goes around for ever.  The section proves
  the second case for an empty pool, which is the state of a gateway between two packets. -/

/-- What `found` does when the row that it finds is the block that it is to stand behind: that block
    is in the chain with no bytes, and comes to stand behind itself. -/
theorem found_self {b : Nat} (hrow : freeRow blocks = some b) :
    MemPool.found blocks b size = (Function.update blocks b
      ⟨memaddress ((blocks b).begin + (blocks b).size), size, b⟩, b) := by
  unfold MemPool.found
  rw [hrow]
  simp only [Function.update_self, Function.update_idem]

/-- On a block that stands behind itself the walk ends at once, or never. -/
theorem search_self {cur fuel bestsize : Nat} {best : Option Nat}
    (hself : (blocks cur).nextblock = cur) (hcur : cur ≠ NOBLOCK)
    (hne : freesize blocks cur ≠ size) (hbest : bestsize ≤ freesize blocks cur) :
    search blocks size fuel cur best bestsize = none := by
  induction fuel with
  | zero => rfl
  | succ fuel ih =>
    rw [search]
    simp only [hself]
    rw [if_neg hne, if_neg fun hbetter => absurd hbetter.2 (Nat.not_lt.mpr hbest), if_neg hcur]
    exact ih

/-- The empty pool after a block of no bytes: it stands in the chain at the begin of the pool. -/
def afterZero : Blocks :=
  Function.update (Function.update init 1 ⟨MEMPOOL_STARTADDRESS, 0, NOBLOCK⟩) POOLSTART
    ⟨MEMPOOL_STARTADDRESS, 0, 1⟩

/-- And after a block of `n` bytes behind it, in the same row. -/
def afterBoth (n : Nat) : Blocks := Function.update afterZero 1 ⟨MEMPOOL_STARTADDRESS, n, 1⟩

/-- A block of no bytes on an empty pool is the first row, -/
theorem allocBlock_init_zero : MemPool.allocBlock init 0 = some ⟨afterZero, 1, []⟩ := rfl

/-- which is still the first free one, -/
theorem freeRow_afterZero : freeRow afterZero = some 1 := by decide

/-- so the next block takes it as well, and stands behind itself. -/
theorem allocBlock_afterZero {n : Nat} (hn : 0 < n) (hle : n ≤ MEMPOOL_SIZE) :
    MemPool.allocBlock afterZero n = some ⟨afterBoth n, 1, []⟩ := by
  have hfirst : freesize afterZero POOLSTART = 0 := by decide
  have hsecond : freesize afterZero 1 = MEMPOOL_SIZE := by decide
  have hnext : (afterZero POOLSTART).nextblock = 1 := rfl
  have hlast : (afterZero 1).nextblock = NOBLOCK := rfl
  have hone : (1 : Nat) ≠ NOBLOCK := by decide
  -- nothing fits before the empty block, and all of the pool is behind it
  have hsearch : search afterZero n (MEMPOOL_NUM_MEMBLOCKS + 1) POOLSTART none (MEMPOOL_SIZE + 1) =
      some (some 1) := by
    rw [search]
    simp only [hfirst, hnext]
    rw [if_neg (by omega), if_neg (by omega), if_neg hone]
    show search afterZero n (51 + 1) 1 none (MEMPOOL_SIZE + 1) = _
    rw [search]
    simp only [hsecond, hlast, if_true]
    split
    case isTrue => rfl
    case isFalse hne => rw [if_pos (by omega)]
  have hfound : MemPool.found afterZero 1 n = (afterBoth n, 1) := found_self freeRow_afterZero
  unfold MemPool.allocBlock
  rw [hsearch, Option.bind_some]
  simp only [hfound]

/-- **And then the chain has no end**: on an empty pool, after a block of no bytes and one of `n`, no
    request ever returns, but for the one of `65536 - n` bytes, which is granted, although the pool
    is smaller by far. -/
theorem allocBlock_afterBoth {n m : Nat} (hn : 0 < n) (hle : n ≤ MEMPOOL_SIZE) (hm : 0 < m)
    (hlt : m < 65536) :
    (n + m ≠ 65536 → MemPool.allocBlock (afterBoth n) m = none) ∧
      (n + m = 65536 → ∃ r, MemPool.allocBlock (afterBoth n) m = some r ∧ r.handle ≠ NOBLOCK ∧
        r.moves = [] ∧ region r.blocks r.handle = ⟨MEMPOOL_STARTADDRESS + n, m⟩) := by
  have hpool : MEMPOOL_SIZE = 6145 := rfl
  have hstart : MEMPOOL_STARTADDRESS = 2049 := rfl
  have hone : (1 : Nat) ≠ NOBLOCK := by decide
  have hrow : afterBoth n 1 = ⟨MEMPOOL_STARTADDRESS, n, 1⟩ := Function.update_self ..
  have hzero : afterBoth n POOLSTART = ⟨MEMPOOL_STARTADDRESS, 0, 1⟩ := by
    unfold afterBoth
    rw [Function.update_of_ne (by decide)]
    rfl
  have hfirst : freesize (afterBoth n) POOLSTART = 0 := by
    unfold freesize
    simp only [hzero, hrow, if_neg hone]
    exact memaddress_of_lt (by omega) (by omega)
  have hsecond : freesize (afterBoth n) 1 = 65536 - n := by
    unfold freesize memaddress
    simp only [hrow, if_neg hone]
    omega
  -- the walk goes from the start to the row, and there it stays
  have hsearch : search (afterBoth n) m (MEMPOOL_NUM_MEMBLOCKS + 1) POOLSTART none
      (MEMPOOL_SIZE + 1) = search (afterBoth n) m (51 + 1) 1 none (MEMPOOL_SIZE + 1) := by
    rw [search]
    simp only [hfirst, hzero]
    rw [if_neg (by omega), if_neg (by omega), if_neg hone]
    rfl
  unfold MemPool.allocBlock
  rw [hsearch]
  constructor
  · intro hne
    rw [search_self (by rw [hrow]) hone (by rw [hsecond]; omega) (by rw [hsecond]; omega)]
    rfl
  · intro heq
    have hexact : search (afterBoth n) m (51 + 1) 1 none (MEMPOOL_SIZE + 1) = some (some 1) := by
      rw [search]
      simp only [hsecond]
      rw [if_pos (by omega)]
    rw [hexact, Option.bind_some]
    -- the next free row is the second one
    have hfree : freeRow (afterBoth n) = some 2 := by
      show (1 :: 2 :: List.range' 3 50).find? (fun cur => (afterBoth n cur).size == 0) = some 2
      rw [List.find?_cons_of_neg, List.find?_cons_of_pos]
      · have htwo : (afterBoth n 2).size = 0 := by
          unfold afterBoth
          rw [Function.update_of_ne (by decide)]
          rfl
        rw [htwo]
        rfl
      · rw [hrow]
        simpa using Nat.ne_of_gt hn
    refine ⟨_, rfl, ?_, rfl, ?_⟩
    · show (MemPool.found (afterBoth n) 1 m).2 ≠ NOBLOCK
      rw [found_snd hfree]
      decide
    · show region (MemPool.found (afterBoth n) 1 m).1 (MemPool.found (afterBoth n) 1 m).2 = _
      rw [found_snd hfree, found_fst hfree (by decide)]
      unfold region
      rw [Function.update_of_ne (by decide), Function.update_self, hrow]
      have haddress : memaddress ((MEMPOOL_STARTADDRESS : Int) + n) = MEMPOOL_STARTADDRESS + n :=
        memaddress_of_lt (by omega) (by omega)
      rw [haddress]

end MemPool

end GatewayLoRa
