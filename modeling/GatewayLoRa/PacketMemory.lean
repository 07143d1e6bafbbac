/-
  The packets in the RAM of the Ethernet controller (`utility/Enc28j60Eth.cpp`, and
  `enc28j60_mempool_block_move_callback` of `UipEthernet.cpp`).

  A packet is a block of the pool, and the class reads, writes and copies parts of it.  A copy runs
  inside the chip: the DMA is told the first address to read, the last one and the first to write,
  and its pointer wraps from the end of the receive buffer to its begin.

  1. **The DMA** (`blockMove_eq`) — on blocks of the pool it is a correct copy, also when source and
     target overlap, provided that the block goes down and lies in the RAM.

  2. **What the pool is for** (`Explains`, `pool_is_a_store`) — a store of separate buffers, one for
     each handle: whatever is allocated, freed, cut and written, in any order, a buffer holds what
     was written to it, although the blocks move around in the RAM.

  3. **What is read back** (`readPacket_writePacket`) — what was written to a block is read from it
     after any calls that do not change it.

  4. **How far the pool reaches** (`pool_reaches`) — its last two bytes are not in the RAM.

  5. **An empty datagram** (`empty_datagram`, `allocBlock_after_empty`) — what `UdpSocket` asks for
     when a datagram has no bytes, which none of the above allows.

  The crux is `contents`, the partial map from handles to buffers.  It forgets the chain, the
  addresses and the order of the blocks, and it is all that a caller can see.  Each function is
  first shown to change this map as a store of buffers changes it (`allocBlock_answers`,
  `freeBlock_answers`, `resize_answers`, `writePacket_answers`, `copyPacket_answers`,
  `copyReceived_answers`), from the layout alone.  A function that changes one block leaves the
  others because their regions are apart (`bytes_other`), and `allocBlock` leaves them because a
  compaction carries them (`Carried`).  After that a run of calls is a run of the store, and the
  proofs about what is read and what is sent are about a map.

  The receive buffer is beside the pool in the same RAM, and a received segment is copied from
  there.  It is a ring, so its copies are not `move`s, and `DMA on the ring` describes them byte by
  byte.
-/

import GatewayLoRa.MemPool

namespace GatewayLoRa

open Regions MemPool

namespace Enc28j60Eth

/-! ## The DMA

  What the chip does when it is told to copy.  It stops when it has copied the last address, so a
  last address that it never comes to would keep it busy for ever; the callback computes that
  address from the length. -/

/-- The RAM ends at `TXEND_INIT`, 8191, and the pointers of the chip wrap there. -/
def RAM_SIZE : Nat := 0x2000

/-- The address that the DMA reads after `a`: the receive buffer is a ring. -/
def dmaNext (a : Nat) : Nat := if a = RXEND_INIT then RXSTART_INIT else (a + 1) % RAM_SIZE

/-- The DMA copies byte by byte until it has copied the one at `last`; `none` if it never ends. -/
def dma : Nat → Ram → Nat → Nat → Nat → Option Ram
  | 0, _, _, _, _ => none
  | fuel + 1, ram, dest, src, last =>
    let ram' := Function.update ram dest (ram src)
    if src = last then some ram' else dma fuel ram' ((dest + 1) % RAM_SIZE) (dmaNext src) last

/-- `enc28j60_mempool_block_move_callback`. -/
def blockMove (ram : Ram) (dest src len : Nat) : Option Ram :=
  if len = 1 then
    -- the DMA is unable to copy a single byte
    some (Function.update ram dest (ram src))
  else
    let last := memaddress (len + (src - 1 : Int))
    let last := if src ≤ RXEND_INIT ∧ last > RXEND_INIT then
      memaddress (last - ((RXEND_INIT : Int) + 1 - RXSTART_INIT)) else last
    dma RAM_SIZE ram dest src last

/-- The copies of a compaction, one after the other. -/
def carryOut : List Move → Ram → Option Ram
  | [], ram => some ram
  | v :: moves, ram => (blockMove ram v.dest v.src v.size).bind (carryOut moves)

theorem RAM_SIZE_eq : RAM_SIZE = 8192 := rfl

theorem RXEND_INIT_eq : RXEND_INIT = 2047 := rfl

variable {ram ram' : Ram} {dest src n len a j k : Nat}

/-- In the pool the DMA copies upwards, byte by byte. -/
theorem dma_eq {fuel : Nat} (hsrc : RXEND_INIT < src) (hfuel : n < fuel)
    (hin : src + n < RAM_SIZE) (hout : dest + n < RAM_SIZE) :
    dma fuel ram dest src (src + n) = some (copyUp (n + 1) ram dest src) := by
  induction n generalizing fuel ram dest src with
  | zero =>
    obtain ⟨fuel, rfl⟩ : ∃ k, fuel = k + 1 := ⟨fuel - 1, by omega⟩
    rw [dma]
    simp only [Nat.add_zero, if_true]
    rfl
  -- neither pointer wraps, for both stay behind the ring and inside the RAM
  | succ n ih =>
    obtain ⟨fuel, rfl⟩ : ∃ k, fuel = k + 1 := ⟨fuel - 1, by omega⟩
    have hnext : dmaNext src = src + 1 := by
      unfold dmaNext
      rw [if_neg (Nat.ne_of_gt hsrc), Nat.mod_eq_of_lt (by omega)]
    have hmod : (dest + 1) % RAM_SIZE = dest + 1 := Nat.mod_eq_of_lt (by omega)
    rw [dma]
    simp only [if_neg (show ¬ src = src + (n + 1) by omega), hnext, hmod]
    rw [show src + (n + 1) = src + 1 + n by omega]
    exact ih (by omega) (by omega) (by omega) (by omega)


/-- **The callback copies a block of the pool** that lies in the RAM, downwards or to a place apart
    from it. -/
theorem blockMove_eq (hsrc : RXEND_INIT < src) (hlen : 0 < len) (hin : src + len ≤ RAM_SIZE)
    (hout : dest + len ≤ RAM_SIZE) (happart : dest ≤ src ∨ src + len ≤ dest) :
    blockMove ram dest src len = some (move ram dest src len) := by
  have hram := RAM_SIZE_eq
  unfold blockMove
  split
  -- a single byte is written by hand
  case isTrue hone =>
    subst hone
    rw [← copyUp_eq_move happart]
    rfl
  case isFalse hone =>
    have hlast : memaddress (len + (src - 1 : Int)) = src + (len - 1) :=
      memaddress_of_lt (by omega) (by omega)
    simp only [hlast]
    rw [if_neg (by omega), dma_eq hsrc (by omega) (by omega) (by omega), ← copyUp_eq_move happart,
      Nat.sub_add_cancel hlen]

/-! ## The DMA on the ring

  The receive buffer is the ring of the first 2048 addresses.  The reads and the DMA follow it in
  the same way (`dmaNext`), so a copy from the ring is a read of the ring, written behind it. -/

/-- `readBuffer`, and `readOp` again and again: bytes from an address of the ring on. -/
def readBuffer (ram : Ram) (a : Nat) : Nat → List UInt8
  | 0 => []
  | len + 1 => ram a :: readBuffer ram (dmaNext a) len

/-- An address behind the end of the ring, as `receivePacket`, `setReadPtr` and `copyPacket` take it
    back. -/
def wrapped (a : Nat) : Nat := if a > RXEND_INIT then a - RXEND_INIT + RXSTART_INIT else a

/-- The address `j` bytes further on in the ring. -/
def further (a j : Nat) : Nat := if a + j ≤ RXEND_INIT then a + j else a + j - (RXEND_INIT + 1)

/-- Inside the ring the next address is the next one of the ring, -/
theorem dmaNext_eq (ha : a ≤ RXEND_INIT) :
    dmaNext a = if a = RXEND_INIT then 0 else a + 1 := by
  unfold dmaNext
  split
  case isTrue => rfl
  case isFalse =>
    have hend := RXEND_INIT_eq
    exact Nat.mod_eq_of_lt (by unfold RAM_SIZE; omega)

/-- and stays inside. -/
theorem dmaNext_le (ha : a ≤ RXEND_INIT) : dmaNext a ≤ RXEND_INIT := by
  rw [dmaNext_eq ha]
  split <;> omega

/-- No step at all. -/
theorem further_zero (ha : a ≤ RXEND_INIT) : further a 0 = a := if_pos ha

/-- One step in the ring, and the others. -/
theorem further_succ (ha : a ≤ RXEND_INIT) (hj : j ≤ RXEND_INIT) :
    further a (j + 1) = further (dmaNext a) j := by
  unfold further
  rw [dmaNext_eq ha]
  split <;> split <;> split <;> omega

/-- Less than once around the ring is another address. -/
theorem further_ne (hj : j < RXEND_INIT) : a ≠ further a (j + 1) := by
  unfold further
  split <;> omega

/-- As many bytes are read as are asked for. -/
@[simp] theorem length_readBuffer : (readBuffer ram a k).length = k := by
  induction k generalizing a with
  | zero => rfl
  | succ k ih => exact congrArg (· + 1) ih

/-- What is read from the ring does not depend on the rest of the RAM. -/
theorem readBuffer_congr (ha : a ≤ RXEND_INIT) (h : ∀ x, x ≤ RXEND_INIT → ram' x = ram x) :
    readBuffer ram' a k = readBuffer ram a k := by
  induction k generalizing a with
  | zero => rfl
  | succ k ih =>
    show ram' a :: readBuffer ram' (dmaNext a) k = ram a :: readBuffer ram (dmaNext a) k
    rw [h a ha, ih (dmaNext_le ha)]

/-- **The DMA reads the ring** byte by byte, and writes the bytes one behind the other.  The
    induction is on the bytes that are still to come; what has been written lies above the ring and
    does not change what is read. -/
theorem dma_ring {fuel : Nat} (hsrc : src ≤ RXEND_INIT) (hn : n ≤ RXEND_INIT) (hfuel : n < fuel)
    (hdest : RXEND_INIT < dest) (hout : dest + n < RAM_SIZE) :
    dma fuel ram dest src (further src n) = some (write ram dest (readBuffer ram src (n + 1))) := by
  induction n generalizing fuel ram dest src with
  | zero =>
    obtain ⟨fuel, rfl⟩ : ∃ k, fuel = k + 1 := ⟨fuel - 1, by omega⟩
    rw [dma, further_zero hsrc]
    exact if_pos rfl
  -- the first byte, and then the same for the rest, which starts one address further in the ring
  | succ n ih =>
    obtain ⟨fuel, rfl⟩ : ∃ k, fuel = k + 1 := ⟨fuel - 1, by omega⟩
    have hmod : (dest + 1) % RAM_SIZE = dest + 1 := Nat.mod_eq_of_lt (by omega)
    have hnext := dmaNext_le hsrc
    rw [dma]
    simp only [if_neg (further_ne (a := src) (Nat.lt_of_succ_le hn)), hmod]
    rw [further_succ hsrc (Nat.le_of_succ_le hn), ih hnext (by omega) (by omega) (by omega) (by omega)]
    have hsame : readBuffer (Function.update ram dest (ram src)) (dmaNext src) (n + 1) =
        readBuffer ram (dmaNext src) (n + 1) :=
      readBuffer_congr hnext fun x hx => Function.update_of_ne (by omega) _ _
    rw [hsame]
    rfl

/-- **The callback copies from the ring** to a place above it in the RAM. -/
theorem blockMove_ring (hsrc : src ≤ RXEND_INIT) (hlen : 0 < len) (hle : len ≤ RXEND_INIT + 1)
    (hdest : RXEND_INIT < dest) (hout : dest + len ≤ RAM_SIZE) :
    blockMove ram dest src len = some (write ram dest (readBuffer ram src len)) := by
  have hend := RXEND_INIT_eq
  have hram := RAM_SIZE_eq
  unfold blockMove
  split
  case isTrue hone =>
    subst hone
    rfl
  case isFalse hone =>
    have hlast : memaddress (len + (src - 1 : Int)) = src + (len - 1) :=
      memaddress_of_lt (by omega) (by omega)
    -- behind the end of the ring the size of the ring is taken off, which is right here
    have hfurther : (if src ≤ RXEND_INIT ∧ src + (len - 1) > RXEND_INIT then
        memaddress ((src + (len - 1) : Nat) - ((RXEND_INIT : Int) + 1 - RXSTART_INIT))
        else src + (len - 1)) = further src (len - 1) := by
      unfold further
      split
      case isTrue hover =>
        rw [if_neg (by omega)]
        exact memaddress_of_lt (by unfold RXSTART_INIT; omega) (by omega)
      case isFalse hin => rw [if_pos (by omega)]
    simp only [hlast, hfurther]
    rw [dma_ring hsrc (by omega) (by omega) hdest (by omega), Nat.sub_add_cancel hlen]

/-- The copies of a compaction leave what `moved` says. -/
theorem carryOut_eq {moves : List Move} (h : ∀ v ∈ moves, MEMPOOL_STARTADDRESS ≤ v.dest ∧
    v.dest ≤ v.src ∧ 0 < v.size ∧ v.src + v.size ≤ RAM_SIZE) :
    carryOut moves ram = some (moved moves ram) := by
  have hstart : MEMPOOL_STARTADDRESS = RXEND_INIT + 1 + 1 := rfl
  induction moves generalizing ram with
  | nil => rfl
  | cons v moves ih =>
    obtain ⟨hdest, hdown, hsize, hin⟩ := h v (List.mem_cons_self ..)
    rw [carryOut, blockMove_eq (by omega) hsize hin (by omega) (Or.inl hdown), Option.bind_some,
      ih fun v hv => h v (List.mem_cons_of_mem _ hv)]
    rfl

/-- They leave everything before the pool as it was. -/
theorem moved_of_lt {moves : List Move} (h : ∀ v ∈ moves, MEMPOOL_STARTADDRESS ≤ v.dest)
    (ha : a < MEMPOOL_STARTADDRESS) : moved moves ram a = ram a := by
  induction moves generalizing ram with
  | nil => rfl
  | cons v moves ih =>
    have hrest : moved moves (move ram v.dest v.src v.size) a = move ram v.dest v.src v.size a :=
      ih fun v hv => h v (List.mem_cons_of_mem _ hv)
    exact hrest.trans (move_of_lt (Nat.lt_of_lt_of_le ha (h v (List.mem_cons_self ..))))

/-! ## The functions of the class

  The members of `Enc28j60Eth` that the stack calls, with the RAM as an explicit state.  None of
  them checks that a handle is in use, or that a position lies inside its block. -/

end Enc28j60Eth

/-- The controller: the table of the pool, the RAM, and `receivePkt`, where the frame lies that was
    received last. -/
structure Enc28j60Eth where
  blocks : Blocks
  ram : Ram
  receivePkt : Region

namespace Enc28j60Eth

/-- `UIP_RECEIVEBUFFERHANDLE`: the handle of the received frame. -/
def UIP_RECEIVEBUFFERHANDLE : Nat := 0xFF

/-- `allocBlock`, with the copies it asks for; `none` if it does not return. -/
def allocBlock (c : Enc28j60Eth) (size : Nat) : Option (Enc28j60Eth × Nat) :=
  (MemPool.allocBlock c.blocks size).bind fun r =>
    (carryOut r.moves c.ram).map fun ram => ({ c with blocks := r.blocks, ram := ram }, r.handle)

/-- `freeBlock`. -/
def freeBlock (c : Enc28j60Eth) (handle : Nat) : Option Enc28j60Eth :=
  (MemPool.freeBlock c.blocks handle).map fun blocks => { c with blocks := blocks }

/-- `blockSize`, of a block of the pool. -/
def blockSize (c : Enc28j60Eth) (handle : Nat) : Nat :=
  if handle = NOBLOCK then 0 else (c.blocks handle).size

/-- The length that `setReadPtr` and `writePacket` cut to: what the block holds from `position`. -/
def packetLength (blocks : Blocks) (handle position len : Nat) : Nat :=
  if (len : Int) > (blocks handle).size - position then
    memaddress ((blocks handle).size - position)
  else len

/-- `readPacket`, of a block of the pool: the bytes it stores in the buffer. -/
def readPacket (c : Enc28j60Eth) (handle position len : Nat) : List UInt8 :=
  bytes c.ram ⟨memaddress ((c.blocks handle).begin + position),
    packetLength c.blocks handle position len⟩

/-- `writePacket`, and how many bytes of the buffer it wrote. -/
def writePacket (c : Enc28j60Eth) (handle position : Nat) (buffer : List UInt8) :
    Enc28j60Eth × Nat :=
  let start := memaddress ((c.blocks handle).begin + position)
  let len := packetLength c.blocks handle position buffer.length
  ({ c with ram := write c.ram start (buffer.take len) }, len)

/-- `copyPacket`, from the received frame or from a block of the pool. -/
def copyPacket (c : Enc28j60Eth) (destPkt destPos srcPkt srcPos len : Nat) : Option Enc28j60Eth :=
  let start :=
    if srcPkt = UIP_RECEIVEBUFFERHANDLE then memaddress (wrapped (c.receivePkt.begin + srcPos))
    else memaddress ((c.blocks srcPkt).begin + srcPos)
  (blockMove c.ram (memaddress ((c.blocks destPkt).begin + destPos)) start len).map fun ram =>
    { c with ram := ram }

/-! ## The store of buffers

  The specification: what a program that uses the class means by it.  `Answers` says of each call
  what a store of separate buffers would do, and `Explains` that a list of calls and replies could
  be one of such a store.  `Admissible` says what callers owe; it is stated of the table, for that
  is what a caller can know by `blockSize`. -/

instance (h : Nat) : Decidable (IsRow h) := inferInstanceAs (Decidable (_ ∧ _))

/-- What a handle stands for: the bytes of its block. -/
def contents (c : Enc28j60Eth) (h : Nat) : Option (List UInt8) :=
  if IsRow h ∧ (c.blocks h).size ≠ 0 then some (bytes c.ram (region c.blocks h)) else none

/-- A store of buffers. -/
abbrev Store := Nat → Option (List UInt8)

/-- What is in the receive buffer: where the frame lies that was received last, and what the chip
    has written into the ring. -/
structure Received where
  pkt : Region
  ring : Ram

/-- The part of the RAM that is the ring. -/
def onlyRing (ram : Ram) : Ram := fun a => if a ≤ RXEND_INIT then ram a else 0

/-- The receive buffer of the controller. -/
def received (c : Enc28j60Eth) : Received := ⟨c.receivePkt, onlyRing c.ram⟩

/-- What is read of the received frame, from a position on. -/
def Received.read (r : Received) (position len : Nat) : List UInt8 :=
  readBuffer r.ring (wrapped (r.pkt.begin + position)) len

/-- What a program asks of the controller. -/
inductive Call where
  | allocBlock (size : Nat)
  | freeBlock (handle : Nat)
  | resizeFront (handle position : Nat)
  | resize (handle position size : Nat)
  | writePacket (handle position : Nat) (buffer : List UInt8)
  | copyPacket (destPkt destPos srcPkt srcPos len : Nat)
  /-- The chip has written frames into the ring, and `receivePacket` has found the next one. -/
  | receivePacket (pkt : Region) (ring : Ram)

/-- A buffer with bytes put over it, from `position` on; what does not fit is left away. -/
def overwrite (buffer : List UInt8) (position : Nat) (data : List UInt8) : List UInt8 :=
  buffer.take position ++ data.take (buffer.length - position) ++
    buffer.drop (position + data.length)

/-- The bytes that a copy takes: of the received frame, or of a buffer. -/
def copied (r : Received) (s : Store) (srcPkt srcPos len : Nat) : List UInt8 :=
  if srcPkt = UIP_RECEIVEBUFFERHANDLE then r.read srcPos len
  else (((s srcPkt).getD []).drop srcPos).take len

/-- **What a store of buffers answers to a call**, and what it is afterwards. -/
def Answers (r : Received) (s : Store) (s' : Store) (reply : Nat) : Call → Prop
  -- no buffer, or one of that size at a handle that was free; what is in it is not said
  | .allocBlock size =>
      (reply = NOBLOCK ∧ s' = s) ∨
      (reply ≠ NOBLOCK ∧ s reply = none ∧
        ∃ buffer, buffer.length = size ∧ s' = Function.update s reply (some buffer))
  | .freeBlock handle => s' = Function.update s handle none
  | .resizeFront handle position =>
      s' = Function.update s handle ((s handle).map (List.drop position))
  | .resize handle position size =>
      s' = Function.update s handle ((s handle).map fun buffer => (buffer.drop position).take size)
  | .writePacket handle position data =>
      s' = Function.update s handle ((s handle).map fun buffer => overwrite buffer position data)
  | .copyPacket destPkt destPos srcPkt srcPos len =>
      s' = Function.update s destPkt ((s destPkt).map fun buffer =>
        overwrite buffer destPos (copied r s srcPkt srcPos len))
  | .receivePacket _ _ => s' = s

/-- The receive buffer after a call: only the chip writes into it. -/
def Received.after (r : Received) : Call → Received
  | .receivePacket pkt ring => ⟨pkt, onlyRing ring⟩
  | _ => r

/-- **The calls and their replies are those of a store of buffers**, beside a receive buffer which
    is `r` now; the store is `s`. -/
inductive Explains : List (Call × Nat) → Received → Store → Prop
  | start {r : Received} : Explains [] r fun _ => none
  | answer {trace : List (Call × Nat)} {r : Received} {s s' : Store} {call : Call} {reply : Nat} :
      Explains trace r s → Answers r s s' reply call →
        Explains (trace ++ [(call, reply)]) (r.after call) s'

/-- A call of the class; no reply is what a call that does not return leaves. -/
def step (c : Enc28j60Eth) (call : Call) : Enc28j60Eth × List (Call × Nat) :=
  match call with
  | .allocBlock size =>
      match c.allocBlock size with
      | some (c', handle) => (c', [(call, handle)])
      | none => (c, [])
  | .freeBlock handle =>
      match c.freeBlock handle with
      | some c' => (c', [(call, 0)])
      | none => (c, [])
  | .resizeFront handle position =>
      ({ c with blocks := resizeBlockFront c.blocks handle position }, [(call, 0)])
  | .resize handle position size =>
      ({ c with blocks := resizeBlock c.blocks handle position size }, [(call, 0)])
  | .writePacket handle position buffer =>
      ((c.writePacket handle position buffer).1,
        [(call, (c.writePacket handle position buffer).2)])
  | .copyPacket destPkt destPos srcPkt srcPos len =>
      match c.copyPacket destPkt destPos srcPkt srcPos len with
      | some c' => (c', [(call, 0)])
      | none => (c, [])
  | .receivePacket pkt ring =>
      ({ c with
          receivePkt := pkt
          ram := fun a => if a ≤ RXEND_INIT then ring a else c.ram a }, [(call, 0)])

/-- The block of a handle in use. -/
def InUse (c : Enc28j60Eth) (h : Nat) : Prop := IsRow h ∧ (c.blocks h).size ≠ 0

/-- What may be copied: a part of the received frame, which lies in the ring, or of another block in
    use. -/
def MayCopy (c : Enc28j60Eth) (destPkt srcPkt srcPos len : Nat) : Prop :=
  if srcPkt = UIP_RECEIVEBUFFERHANDLE then
    c.receivePkt.begin ≤ RXEND_INIT ∧ c.receivePkt.size ≤ RXEND_INIT + 1 ∧
      srcPos + len ≤ c.receivePkt.size
  else c.InUse srcPkt ∧ destPkt ≠ srcPkt ∧ srcPos + len ≤ (c.blocks srcPkt).size

/-- What a caller owes: blocks are not empty, and only blocks in use are cut, written and copied,
    each within its size; a copy has a byte at least. -/
def Admissible (c : Enc28j60Eth) : Call → Prop
  | .allocBlock size => 0 < size
  | .freeBlock _ => True
  | .resizeFront handle position => c.InUse handle ∧ position < (c.blocks handle).size
  | .resize handle position size =>
      c.InUse handle ∧ 0 < size ∧ position + size ≤ (c.blocks handle).size
  | .writePacket handle position _ => c.InUse handle ∧ position ≤ (c.blocks handle).size
  -- a copy of no bytes is not one of no bytes for the DMA
  | .copyPacket destPkt destPos srcPkt srcPos len =>
      c.InUse destPkt ∧ 0 < len ∧ destPos + len ≤ (c.blocks destPkt).size ∧
        c.MayCopy destPkt srcPkt srcPos len
  | .receivePacket _ _ => True

/-- Every block lies in the RAM of the chip. -/
def InRam (c : Enc28j60Eth) : Prop :=
  ∀ h, c.InUse h → (c.blocks h).begin + (c.blocks h).size ≤ RAM_SIZE

/-! ## The calls on the buffers

  One lemma for each function, from the layout alone.  They are what the TCP client uses of this
  module. -/

variable {c c' : Enc28j60Eth} {handles : List Nat} {h : Nat}

/-- A block is in use if it is in the chain. -/
theorem inUse_iff (hl : Layout c.blocks handles) : c.InUse h ↔ h ∈ handles := (hl.inUse h).symm

/-- Its buffer is its region of the RAM, -/
theorem contents_of_mem (hl : Layout c.blocks handles) (hh : h ∈ handles) :
    c.contents h = some (bytes c.ram (region c.blocks h)) :=
  if_pos ((hl.inUse h).mp hh)

/-- and a handle that is not in the chain has none. -/
theorem contents_of_not_mem (hl : Layout c.blocks handles) (hh : h ∉ handles) :
    c.contents h = none :=
  if_neg fun hin => hh ((hl.inUse h).mpr hin)

/-- A store of buffers that is changed at one handle. -/
theorem contents_update {handles' : List Nat} {k : Nat} {buffer : Option (List UInt8)}
    (hl : Layout c.blocks handles) (hl' : Layout c'.blocks handles')
    (hk : c'.contents k = buffer) (hmem : ∀ r, r ≠ k → (r ∈ handles' ↔ r ∈ handles))
    (hother : ∀ r ∈ handles, r ≠ k →
      bytes c'.ram (region c'.blocks r) = bytes c.ram (region c.blocks r)) :
    c'.contents = Function.update c.contents k buffer := by
  funext r
  by_cases hr : r = k
  · rw [hr, Function.update_self, hk]
  · rw [Function.update_of_ne hr]
    by_cases hin : r ∈ handles
    · rw [contents_of_mem hl hin, contents_of_mem hl' ((hmem r hr).mpr hin), hother r hin hr]
    · rw [contents_of_not_mem hl hin, contents_of_not_mem hl' fun hin' => hin ((hmem r hr).mp hin')]

/-- Another block of the pool lies wholly before this one or wholly behind it. -/
theorem apart (hl : Layout c.blocks handles) {k : Nat} (hh : h ∈ handles) (hk : k ∈ handles)
    (hne : h ≠ k) : (region c.blocks h).stop ≤ (region c.blocks k).begin ∨
      (region c.blocks k).stop ≤ (region c.blocks h).begin := by
  have hpairs := hl.packed.pairwise
  rw [List.map_cons, List.pairwise_cons, List.pairwise_map] at hpairs
  have hsymm : Std.Symm fun r s => (region c.blocks r).stop ≤ (region c.blocks s).begin ∨
      (region c.blocks s).stop ≤ (region c.blocks r).begin := ⟨fun _ _ => Or.symm⟩
  have hboth : handles.Pairwise fun r s => (region c.blocks r).stop ≤ (region c.blocks s).begin ∨
      (region c.blocks s).stop ≤ (region c.blocks r).begin := hpairs.2.imp Or.inl
  exact hboth.forall hh hk hne

/-- The RAM changed inside one block only: the other ones hold what they held. -/
theorem bytes_other (hl : Layout c.blocks handles) {k : Nat} {ram' : Ram} (hk : k ∈ handles)
    (hh : h ∈ handles) (hne : h ≠ k)
    (hout : ∀ x, x < (region c.blocks k).begin ∨ (region c.blocks k).stop ≤ x →
      ram' x = c.ram x) :
    bytes ram' (region c.blocks h) = bytes c.ram (region c.blocks h) := by
  refine bytes_congr fun x hbegin hstop => hout x ?_
  rcases apart hl hh hk hne with hle | hle
  · exact Or.inl (Nat.lt_of_lt_of_le hstop hle)
  · exact Or.inr (Nat.le_trans hle hbegin)

/-- The handle of the received frame is no block of the pool. -/
theorem ne_receive (hl : Layout c.blocks handles) (hh : h ∈ handles) :
    h ≠ UIP_RECEIVEBUFFERHANDLE := by
  have hrow := (hl.isRow hh).2
  have hrows : POOLOFFSET + MEMPOOL_NUM_MEMBLOCKS ≤ UIP_RECEIVEBUFFERHANDLE := by decide
  omega

/-- A block has a byte at least. -/
theorem sizes_pos (hl : Layout c.blocks handles) (hh : h ∈ handles) : 0 < (c.blocks h).size :=
  Nat.pos_of_ne_zero ((hl.inUse h).mp hh).2

/-- The receive buffer stays as it is when nothing before the pool is written. -/
theorem received_eq (hpkt : c'.receivePkt = c.receivePkt)
    (hout : ∀ a, a < MEMPOOL_STARTADDRESS → c'.ram a = c.ram a) : c'.received = c.received := by
  unfold received
  rw [hpkt]
  congr 1
  funext a
  unfold onlyRing
  by_cases ha : a ≤ RXEND_INIT
  · have hstart : MEMPOOL_STARTADDRESS = RXEND_INIT + 1 + 1 := rfl
    rw [if_pos ha, if_pos ha, hout a (by omega)]
  · rw [if_neg ha, if_neg ha]

/-- The DMA carries out what `allocBlock` asks for. -/
theorem allocBlock_eq (size : Nat) (hl : Layout c.blocks handles) (hram : c.InRam)
    (hsize : 0 < size) :
    ∃ r, MemPool.allocBlock c.blocks size = some r ∧ AllocSpec c.blocks handles size r ∧
      c.allocBlock size =
        some ({ c with blocks := r.blocks, ram := moved r.moves c.ram }, r.handle) := by
  obtain ⟨r, hr, hspec⟩ := hl.allocBlock hsize
  refine ⟨r, hr, hspec, ?_⟩
  have hmoves : carryOut r.moves c.ram = some (moved r.moves c.ram) := by
    refine carryOut_eq fun v hv => ?_
    obtain ⟨k, hk, hregion⟩ := hspec.carried.source v hv
    obtain ⟨hdest, hdown⟩ := hspec.carried.down v hv
    have hbegin : v.src = (c.blocks k).begin := congrArg Region.begin hregion
    have hlen : v.size = (c.blocks k).size := congrArg Region.size hregion
    have hin := hram k ((inUse_iff hl).mpr hk)
    have hpos := sizes_pos hl hk
    exact ⟨hdest, hdown, by omega, by omega⟩
  unfold allocBlock
  rw [hr, Option.bind_some, hmoves]
  rfl

/-- `allocBlock` answers as a store of buffers does. -/
theorem allocBlock_answers (size : Nat) (hl : Layout c.blocks handles) (hram : c.InRam)
    (hsize : 0 < size) :
    ∃ c' reply, c.allocBlock size = some (c', reply) ∧ (∃ handles', Layout c'.blocks handles') ∧
      c'.received = c.received ∧
      Answers c.received c.contents c'.contents reply (.allocBlock size) := by
  obtain ⟨r, -, hspec, halloc⟩ := allocBlock_eq size hl hram hsize
  let c₁ : Enc28j60Eth := { c with blocks := r.blocks, ram := moved r.moves c.ram }
  have hreceived : c₁.received = c.received :=
    received_eq rfl fun a ha => moved_of_lt (fun v hv => (hspec.carried.down v hv).1) ha
  have hcontents : ∀ k ∈ handles,
      bytes c₁.ram (region c₁.blocks k) = bytes c.ram (region c.blocks k) :=
    fun k hk => hspec.carried.contents k hk c.ram
  -- no block was had, and the others were moved at most; or there is one more
  rcases hspec.outcome with ⟨-, hhandle, hl'⟩ | ⟨-, hnew, hsizek, handles', hl', hperm⟩
  · refine ⟨c₁, r.handle, halloc, ⟨handles, hl'⟩, hreceived, Or.inl ⟨hhandle, ?_⟩⟩
    funext k
    by_cases hk : k ∈ handles
    · rw [contents_of_mem hl hk, contents_of_mem (c := c₁) hl' hk, hcontents k hk]
    · rw [contents_of_not_mem hl hk, contents_of_not_mem (c := c₁) hl' hk]
  · have hmem : r.handle ∈ handles' := hperm.mem_iff.mpr (List.mem_cons_self ..)
    refine ⟨c₁, r.handle, halloc, ⟨handles', hl'⟩, hreceived, Or.inr ⟨hl'.ne_noblock hmem,
      contents_of_not_mem hl hnew, bytes c₁.ram (region c₁.blocks r.handle), ?_, ?_⟩⟩
    · rw [length_bytes]
      exact hsizek
    · refine contents_update hl hl' (contents_of_mem (c := c₁) hl' hmem) ?_ fun k hk _ =>
        hcontents k hk
      intro k hk
      rw [hperm.mem_iff, List.mem_cons]
      simp only [hk, false_or]

/-- `freeBlock` answers as a store of buffers does. -/
theorem freeBlock_answers (hl : Layout c.blocks handles) (k : Nat) :
    ∃ c', c.freeBlock k = some c' ∧ (∃ handles', Layout c'.blocks handles') ∧
      c'.received = c.received ∧ Answers c.received c.contents c'.contents 0 (.freeBlock k) := by
  obtain ⟨blocks', hfree, hl', hregion⟩ := hl.freeBlock k
  refine ⟨{ c with blocks := blocks' }, ?_, ⟨_, hl'⟩, rfl, ?_⟩
  · unfold freeBlock
    rw [hfree]
    rfl
  · refine contents_update hl hl' ?_ ?_ ?_
    · refine contents_of_not_mem (c := { c with blocks := blocks' }) hl' fun hmem => ?_
      exact (hl.nodup.mem_erase_iff.mp hmem).1 rfl
    · intro r hr
      rw [hl.nodup.mem_erase_iff]
      simp only [ne_eq, hr, not_false_eq_true, true_and]
    · intro r _ hr
      show bytes c.ram (region blocks' r) = bytes c.ram (region c.blocks r)
      rw [hregion r hr]

/-- A block that is cut: its buffer is cut, and no other one changes. -/
theorem resize_answers (hl : Layout c.blocks handles) (cut : List UInt8 → List UInt8)
    {k begin size : Nat} {blocks' : Blocks} (hk : k ∈ handles) (hl' : Layout blocks' handles)
    (hblocks : blocks' =
      Function.update c.blocks k { c.blocks k with begin := begin, size := size })
    (hcut : bytes c.ram ⟨begin, size⟩ = cut (bytes c.ram (region c.blocks k))) :
    contents { c with blocks := blocks' } =
      Function.update c.contents k ((c.contents k).map cut) := by
  have hregion : region blocks' k = ⟨begin, size⟩ := by
    unfold region
    rw [hblocks, Function.update_self]
  refine contents_update hl hl' ?_ (fun _ _ => Iff.rfl) ?_
  · rw [contents_of_mem (c := { c with blocks := blocks' }) hl' hk, contents_of_mem hl hk,
      Option.map_some]
    show some (bytes c.ram (region blocks' k)) = _
    rw [hregion, hcut]
  · intro r _ hr
    show bytes c.ram (region blocks' r) = bytes c.ram (region c.blocks r)
    rw [region_congr (by rw [hblocks, Function.update_of_ne hr])]

/-- What is written or read stops at the end of the block. -/
theorem packetLength_eq {position : Nat} (len : Nat) (h' : position ≤ (c.blocks h).size)
    (hlt : (c.blocks h).size < 65536) :
    packetLength c.blocks h position len = min len ((c.blocks h).size - position) := by
  unfold packetLength
  split
  case isTrue hgt =>
    rw [memaddress_of_lt (n := (c.blocks h).size - position) (by omega) (by omega)]
    omega
  case isFalse hle => omega

/-- Bytes put over a part of a block: its buffer is overwritten, and no other one changes. -/
theorem write_answers (hl : Layout c.blocks handles) {k : Nat} (position : Nat)
    (data : List UInt8) (ram' : Ram) (hk : k ∈ handles)
    (hfit : position + data.length ≤ (c.blocks k).size)
    (hwritten : bytes ram' ⟨(c.blocks k).begin + position, data.length⟩ = data)
    (hout : ∀ x, x < (c.blocks k).begin + position ∨
      (c.blocks k).begin + position + data.length ≤ x → ram' x = c.ram x) :
    contents { c with ram := ram' } = Function.update c.contents k
      ((c.contents k).map fun buffer => overwrite buffer position data) := by
  refine contents_update hl hl ?_ (fun _ _ => Iff.rfl) ?_
  · rw [contents_of_mem (c := { c with ram := ram' }) hl hk, contents_of_mem hl hk,
      Option.map_some]
    refine congrArg some (Eq.trans (bytes_splice hfit hout) ?_)
    unfold overwrite
    rw [hwritten, length_bytes, List.take_of_length_le (l := data)
      (by show data.length ≤ (c.blocks k).size - position; omega)]
    rfl
  · intro r hr hne
    refine bytes_other hl hk hr hne fun x hx => hout x ?_
    rcases hx with hx | hx
    · have hlt : x < (c.blocks k).begin := hx
      exact Or.inl (by omega)
    · have hge : (c.blocks k).begin + (c.blocks k).size ≤ x := hx
      exact Or.inr (by omega)

/-- What does not fit need not be cut off first. -/
theorem overwrite_take {buffer data : List UInt8} {position : Nat} :
    overwrite buffer position (data.take (min data.length (buffer.length - position))) =
      overwrite buffer position data := by
  unfold overwrite
  rw [List.take_take, List.length_take]
  by_cases hfit : data.length ≤ buffer.length - position
  · rw [Nat.min_eq_left hfit, Nat.min_self, Nat.min_eq_right hfit, List.take_length,
      List.take_of_length_le hfit]
  · have hle : buffer.length - position ≤ data.length := Nat.le_of_not_le hfit
    rw [Nat.min_eq_right hle, Nat.min_self, Nat.min_eq_left hle,
      List.drop_eq_nil_of_le (by omega), List.drop_eq_nil_of_le (by omega)]

/-- `writePacket` answers as a store of buffers does. -/
theorem writePacket_answers (hl : Layout c.blocks handles) {k position : Nat}
    (data : List UInt8) (hk : k ∈ handles) (hposition : position ≤ (c.blocks k).size) :
    (c.writePacket k position data).1.blocks = c.blocks ∧
      (c.writePacket k position data).1.received = c.received ∧
      (c.writePacket k position data).2 = min data.length ((c.blocks k).size - position) ∧
      Answers c.received c.contents (c.writePacket k position data).1.contents
        (c.writePacket k position data).2 (.writePacket k position data) := by
  obtain ⟨hfirst, hstop⟩ := hl.stop_lt hk
  have hlt := poolEnd_lt
  have hlen := packetLength_eq data.length hposition (by omega)
  have hbegin : memaddress ((c.blocks k).begin + position) = (c.blocks k).begin + position :=
    memaddress_of_lt rfl (by omega)
  have hbuffer : (bytes c.ram (region c.blocks k)).length = (c.blocks k).size := length_bytes
  have hreceived : (c.writePacket k position data).1.received = c.received := by
    refine received_eq rfl fun a ha => ?_
    unfold writePacket
    simp only [hbegin]
    exact write_of_out (Or.inl (by omega))
  refine ⟨rfl, hreceived, hlen, ?_⟩
  unfold writePacket
  simp only [hlen, hbegin]
  have hwrite := write_answers hl position
    (data.take (min data.length ((c.blocks k).size - position)))
    (write c.ram ((c.blocks k).begin + position)
      (data.take (min data.length ((c.blocks k).size - position)))) hk
    (by rw [List.length_take]; omega) bytes_write fun x hx => write_of_out hx
  refine hwrite.trans ?_
  rw [contents_of_mem hl hk, Option.map_some, Option.map_some, ← hbuffer, overwrite_take]

/-- Bytes put into a block from elsewhere: the RAM changes in that part of the block only, and the
    call answers as a store of buffers does. -/
theorem copied_answers (hl : Layout c.blocks handles) {d destPos s srcPos len : Nat}
    {data : List UInt8} (ram' : Ram) (hd : d ∈ handles)
    (hdest : destPos + len ≤ (c.blocks d).size) (hlen : data.length = len)
    (hdata : data = copied c.received c.contents s srcPos len)
    (hwritten : bytes ram' ⟨(c.blocks d).begin + destPos, len⟩ = data)
    (hout : ∀ x, x < (c.blocks d).begin + destPos ∨ (c.blocks d).begin + destPos + len ≤ x →
      ram' x = c.ram x) :
    received { c with ram := ram' } = c.received ∧
      Answers c.received c.contents (contents { c with ram := ram' }) 0
        (.copyPacket d destPos s srcPos len) := by
  have hfirst := (hl.stop_lt hd).1
  subst hlen
  refine ⟨received_eq rfl fun a ha => hout a (Or.inl (by omega)), ?_⟩
  show _ = Function.update c.contents d _
  rw [← hdata]
  exact write_answers hl destPos data ram' hd hdest hwritten hout

/-- `copyPacket` from another block. -/
theorem copyPacket_answers (hl : Layout c.blocks handles) (hram : c.InRam)
    (d s destPos srcPos len : Nat) (hd : d ∈ handles) (hs : s ∈ handles) (hne : d ≠ s)
    (hlen : 0 < len) (hdest : destPos + len ≤ (c.blocks d).size)
    (hsrc : srcPos + len ≤ (c.blocks s).size) :
    ∃ c', c.copyPacket d destPos s srcPos len = some c' ∧ c'.blocks = c.blocks ∧
      c'.received = c.received ∧
      Answers c.received c.contents c'.contents 0 (.copyPacket d destPos s srcPos len) := by
  have hstopd := hl.stop_lt hd
  have hstops := hl.stop_lt hs
  have hramd := hram d ((inUse_iff hl).mpr hd)
  have hrams := hram s ((inUse_iff hl).mpr hs)
  have hlt := poolEnd_lt
  have hstart : MEMPOOL_STARTADDRESS = RXEND_INIT + 1 + 1 := rfl
  have hbegind : memaddress ((c.blocks d).begin + destPos) = (c.blocks d).begin + destPos :=
    memaddress_of_lt rfl (by omega)
  have hbegins : memaddress ((c.blocks s).begin + srcPos) = (c.blocks s).begin + srcPos :=
    memaddress_of_lt rfl (by omega)
  have happart : (c.blocks d).begin + destPos ≤ (c.blocks s).begin + srcPos ∨
      (c.blocks s).begin + srcPos + len ≤ (c.blocks d).begin + destPos := by
    rcases apart hl hd hs hne with hle | hle
    · have hle' : (c.blocks d).begin + (c.blocks d).size ≤ (c.blocks s).begin := hle
      omega
    · have hle' : (c.blocks s).begin + (c.blocks s).size ≤ (c.blocks d).begin := hle
      omega
  -- the handle of the received frame is the handle of no block
  have hpool : s ≠ UIP_RECEIVEBUFFERHANDLE := ne_receive hl hs
  unfold copyPacket
  simp only [if_neg hpool]
  rw [hbegind, hbegins, blockMove_eq (by omega) hlen (by omega) (by omega) happart]
  have hdata : bytes c.ram ⟨(c.blocks s).begin + srcPos, len⟩ =
      copied c.received c.contents s srcPos len := by
    unfold copied
    rw [if_neg hpool, contents_of_mem hl hs, Option.getD_some]
    unfold region
    rw [← bytes_drop, ← bytes_take (by omega)]
  obtain ⟨hreceived, hanswers⟩ := copied_answers hl
    (move c.ram ((c.blocks d).begin + destPos) ((c.blocks s).begin + srcPos) len) hd hdest
    length_bytes hdata bytes_move fun x hx => by
      rcases hx with hx | hx
      · exact move_of_lt hx
      · exact move_of_ge hx
  exact ⟨_, rfl, rfl, hreceived, hanswers⟩

/-- `copyPacket` from the received frame: the DMA wraps at the end of the ring as the reads do. -/
theorem copyReceived_answers (hl : Layout c.blocks handles) (hram : c.InRam)
    (d destPos srcPos len : Nat) (hd : d ∈ handles) (hlen : 0 < len)
    (hdest : destPos + len ≤ (c.blocks d).size) (hbegin : c.receivePkt.begin ≤ RXEND_INIT)
    (hsize : c.receivePkt.size ≤ RXEND_INIT + 1) (hsrc : srcPos + len ≤ c.receivePkt.size) :
    ∃ c', c.copyPacket d destPos UIP_RECEIVEBUFFERHANDLE srcPos len = some c' ∧
      c'.blocks = c.blocks ∧ c'.received = c.received ∧
      Answers c.received c.contents c'.contents 0
        (.copyPacket d destPos UIP_RECEIVEBUFFERHANDLE srcPos len) := by
  have hstopd := hl.stop_lt hd
  have hramd := hram d ((inUse_iff hl).mpr hd)
  have hlt := poolEnd_lt
  have hend := RXEND_INIT_eq
  have hstart : MEMPOOL_STARTADDRESS = RXEND_INIT + 1 + 1 := rfl
  have hbegind : memaddress ((c.blocks d).begin + destPos) = (c.blocks d).begin + destPos :=
    memaddress_of_lt rfl (by omega)
  -- `copyPacket` takes an address behind the ring back into it once, which is enough for a position
  -- inside the frame
  have hring : wrapped (c.receivePkt.begin + srcPos) ≤ RXEND_INIT := by
    unfold wrapped RXSTART_INIT
    split <;> omega
  have hsrcaddress : memaddress (wrapped (c.receivePkt.begin + srcPos)) =
      wrapped (c.receivePkt.begin + srcPos) := memaddress_of_lt rfl (by omega)
  unfold copyPacket
  simp only [if_true]
  rw [hbegind, hsrcaddress, blockMove_ring hring hlen (by omega) (by omega) (by omega)]
  have hdata : readBuffer c.ram (wrapped (c.receivePkt.begin + srcPos)) len =
      copied c.received c.contents UIP_RECEIVEBUFFERHANDLE srcPos len := by
    unfold copied
    rw [if_pos rfl]
    exact (readBuffer_congr hring fun x hx => if_pos hx).symm
  have hlength : (readBuffer c.ram (wrapped (c.receivePkt.begin + srcPos)) len).length = len :=
    length_readBuffer
  obtain ⟨hreceived, hanswers⟩ := copied_answers hl
    (write c.ram ((c.blocks d).begin + destPos)
      (readBuffer c.ram (wrapped (c.receivePkt.begin + srcPos)) len)) hd hdest hlength hdata
    (bytes_write_of_length hlength) fun x hx => write_of_out (by rwa [hlength])
  exact ⟨_, rfl, rfl, hreceived, hanswers⟩

/-- `receivePacket` changes the ring, and no block. -/
theorem receivePacket_contents (hl : Layout c.blocks handles) (pkt : Region) (ring : Ram) :
    contents { c with
      receivePkt := pkt, ram := fun a => if a ≤ RXEND_INIT then ring a else c.ram a } =
        c.contents := by
  funext k
  by_cases hk : k ∈ handles
  · rw [contents_of_mem hl hk, contents_of_mem (c := { c with
      receivePkt := pkt, ram := fun a => if a ≤ RXEND_INIT then ring a else c.ram a }) hl hk]
    have hstart : MEMPOOL_STARTADDRESS = RXEND_INIT + 1 + 1 := rfl
    have hfirst := (hl.stop_lt hk).1
    refine congrArg some (bytes_congr fun x hbegin _ => if_neg ?_)
    have hge : (c.blocks k).begin ≤ x := hbegin
    omega
  · rw [contents_of_not_mem hl hk, contents_of_not_mem (c := { c with
      receivePkt := pkt, ram := fun a => if a ≤ RXEND_INIT then ring a else c.ram a }) hl hk]

/-! ## The pool is a store of buffers

  A run is a list of calls, and each of them is answered.  `Careful` asks two things before each
  call: that it is admissible, and that the blocks lie in the RAM.  The second is the chip's: the
  pool itself hands out two bytes that are not there. -/

open Machine

/-- **A call that its caller may make is answered**, as a store of buffers answers it. -/
theorem step_answers (hl : Layout c.blocks handles) (hram : c.InRam) {call : Call}
    (hcall : c.Admissible call) :
    ∃ reply, (step c call).2 = [(call, reply)] ∧
      (∃ handles', Layout (step c call).1.blocks handles') ∧
      (step c call).1.received = c.received.after call ∧
      Answers c.received c.contents (step c call).1.contents reply call := by
  cases call with
  | allocBlock size =>
    obtain ⟨c', reply, halloc, hl', hanswers⟩ := allocBlock_answers size hl hram hcall
    simp only [step, halloc]
    exact ⟨reply, rfl, hl', hanswers⟩
  | freeBlock k =>
    obtain ⟨c', hfree, hl', hanswers⟩ := freeBlock_answers hl k
    simp only [step, hfree]
    exact ⟨0, rfl, hl', hanswers⟩
  | resizeFront k position =>
    obtain ⟨huse, hposition⟩ := hcall
    have hk := (inUse_iff hl).mp huse
    obtain ⟨hblocks, hl'⟩ := hl.resizeBlockFront hk hposition
    exact ⟨0, rfl, ⟨handles, hl'⟩, rfl,
      resize_answers hl (fun buffer => buffer.drop position) hk hl' hblocks bytes_drop⟩
  | resize k position size =>
    obtain ⟨huse, hsize, hposition⟩ := hcall
    have hk := (inUse_iff hl).mp huse
    obtain ⟨hblocks, hl'⟩ := hl.resizeBlock hk hsize hposition
    refine ⟨0, rfl, ⟨handles, hl'⟩, rfl,
      resize_answers hl (fun buffer => (buffer.drop position).take size) hk hl' hblocks ?_⟩
    unfold region
    rw [← bytes_drop, ← bytes_take (by omega)]
  | writePacket k position data =>
    obtain ⟨huse, hposition⟩ := hcall
    obtain ⟨hblocks, hreceived, -, hanswers⟩ :=
      writePacket_answers hl data ((inUse_iff hl).mp huse) hposition
    refine ⟨_, rfl, ⟨handles, ?_⟩, hreceived, hanswers⟩
    show Layout (c.writePacket k position data).1.blocks handles
    rwa [hblocks]
  | copyPacket d destPos s srcPos len =>
    obtain ⟨hd, hlen, hdest, hmay⟩ := hcall
    unfold MayCopy at hmay
    by_cases hs : s = UIP_RECEIVEBUFFERHANDLE
    -- from the received frame
    · subst hs
      rw [if_pos rfl] at hmay
      obtain ⟨c', hcopy, hblocks, hanswers⟩ := copyReceived_answers hl hram d destPos srcPos len
        ((inUse_iff hl).mp hd) hlen hdest hmay.1 hmay.2.1 hmay.2.2
      simp only [step, hcopy]
      exact ⟨0, rfl, ⟨handles, hblocks ▸ hl⟩, hanswers⟩
    -- from another block
    · rw [if_neg hs] at hmay
      obtain ⟨c', hcopy, hblocks, hanswers⟩ := copyPacket_answers hl hram d s destPos srcPos len
        ((inUse_iff hl).mp hd) ((inUse_iff hl).mp hmay.1) hmay.2.1 hlen hdest hmay.2.2
      simp only [step, hcopy]
      exact ⟨0, rfl, ⟨handles, hblocks ▸ hl⟩, hanswers⟩
  | receivePacket pkt ring =>
    refine ⟨0, rfl, ⟨handles, hl⟩, ?_, receivePacket_contents hl pkt ring⟩
    show Received.mk pkt (onlyRing _) = ⟨pkt, onlyRing ring⟩
    congr 1
    funext a
    unfold onlyRing
    by_cases ha : a ≤ RXEND_INIT
    · rw [if_pos ha, if_pos ha]
      exact if_pos ha
    · rw [if_neg ha, if_neg ha]

/-- The controller after `init`, whatever its RAM holds. -/
def start (ram : Ram) : Config Enc28j60Eth (Call × Nat) := ⟨⟨MemPool.init, ram, ⟨0, 0⟩⟩, []⟩

/-- What the callers owe at every step of a run: the call is admissible, and no block has been
    handed out over the end of the RAM. -/
def Careful (c : Config Enc28j60Eth (Call × Nat)) (call : Call) : Prop :=
  c.state.Admissible call ∧ c.state.InRam

/-- **A run is explained by a store**: by induction on the calls, with one answer for each. -/
theorem run_explains {config : Config Enc28j60Eth (Call × Nat)} {calls : List Call}
    (hl : ∃ handles, Layout config.state.blocks handles)
    (hconfig : Explains config.trace config.state.received config.state.contents)
    (hcalls : Always step Careful config calls) :
    (∃ handles, Layout (run step config calls).state.blocks handles) ∧
      (run step config calls).trace.map Prod.fst = config.trace.map Prod.fst ++ calls ∧
      Explains (run step config calls).trace (run step config calls).state.received
        (run step config calls).state.contents := by
  induction calls generalizing config with
  | nil => exact ⟨hl, (List.append_nil _).symm, hconfig⟩
  | cons call calls ih =>
    obtain ⟨⟨hcall, hram⟩, hrest⟩ := hcalls
    obtain ⟨handles, hl⟩ := hl
    obtain ⟨reply, hreply, hl', hreceived, hanswers⟩ := step_answers hl hram hcall
    have htrace : (advance step config call).trace = config.trace ++ [(call, reply)] :=
      congrArg (config.trace ++ ·) hreply
    have hnext : Explains (advance step config call).trace
        (advance step config call).state.received (advance step config call).state.contents := by
      have hafter : (advance step config call).state.received =
        config.state.received.after call := hreceived
      rw [htrace, hafter]
      exact hconfig.answer hanswers
    obtain ⟨hl'', hmap, hexplains⟩ := ih hl' hnext hrest
    refine ⟨hl'', ?_, hexplains⟩
    rw [run_cons, hmap, htrace, List.map_append, List.append_assoc]
    rfl

/-- After `init` there are no buffers. -/
theorem explains_start (ram : Ram) :
    Explains (start ram).trace (start ram).state.received (start ram).state.contents := by
  have hempty : (start ram).state.contents = fun _ => none := by
    funext h
    refine contents_of_not_mem (c := (start ram).state) layout_init ?_
    exact List.not_mem_nil
  rw [hempty]
  exact Explains.start

/-- **The pool is a store of separate buffers.**  In every run whose callers are careful, each call
    is answered, and the answers and what the blocks hold at the end are those of a store in which
    each buffer has its own bytes, beside a receive buffer which only the chip writes. -/
theorem pool_is_a_store (ram : Ram) {calls : List Call}
    (hcalls : Always step Careful (start ram) calls) :
    (run step (start ram) calls).trace.map Prod.fst = calls ∧
      Explains (run step (start ram) calls).trace (run step (start ram) calls).state.received
        (run step (start ram) calls).state.contents :=
  (run_explains ⟨[], layout_init⟩ (explains_start ram) hcalls).2

instance (c : Enc28j60Eth) (h : Nat) : Decidable (c.InUse h) :=
  inferInstanceAs (Decidable (_ ∧ _))

instance (c : Enc28j60Eth) (destPkt srcPkt srcPos len : Nat) :
    Decidable (c.MayCopy destPkt srcPkt srcPos len) := by
  unfold MayCopy
  split <;> infer_instance

instance (c : Enc28j60Eth) : (call : Call) → Decidable (c.Admissible call)
  | .allocBlock _ => inferInstanceAs (Decidable (_ < _))
  | .freeBlock _ => isTrue trivial
  | .resizeFront _ _ => inferInstanceAs (Decidable (_ ∧ _))
  | .resize _ _ _ => inferInstanceAs (Decidable (_ ∧ _))
  | .writePacket _ _ _ => inferInstanceAs (Decidable (_ ∧ _))
  | .copyPacket _ _ _ _ _ => inferInstanceAs (Decidable (_ ∧ _))
  | .receivePacket _ _ => isTrue trivial

/-- The rows of the table, which can be looked through. -/
theorem inRam_iff : c.InRam ↔ ∀ h ∈ List.range' POOLOFFSET MEMPOOL_NUM_MEMBLOCKS,
    (c.blocks h).size ≠ 0 → (c.blocks h).begin + (c.blocks h).size ≤ RAM_SIZE := by
  constructor
  · intro hram h hh hsize
    exact hram h ⟨List.mem_range'_1.mp hh, hsize⟩
  · intro hram h huse
    exact hram h (List.mem_range'_1.mpr huse.1) huse.2

instance (c : Enc28j60Eth) : Decidable c.InRam := decidable_of_iff' _ inRam_iff

instance (c : Config Enc28j60Eth (Call × Nat)) (call : Call) : Decidable (Careful c call) :=
  inferInstanceAs (Decidable (_ ∧ _))

/-- A run in which the pool is compacted: the second block moves down, and the third one is put
    behind it.  Then a part of a received frame that goes over the end of the ring is copied. -/
def compaction : List Call :=
  [.allocBlock 6000, .allocBlock 2, .writePacket 2 0 [7, 9], .freeBlock 1, .allocBlock 6100,
    .resizeFront 2 1, .receivePacket ⟨2040, 20⟩ fun a => UInt8.ofNat a,
    .copyPacket 1 0 UIP_RECEIVEBUFFERHANDLE 6 4]

/-- The moved block still holds its last byte, and the other one begins with the copy. -/
example : (run step (start fun _ => 0) compaction).state.contents 2 = some [9] ∧
    ((run step (start fun _ => 0) compaction).state.contents 1).map (List.take 5) =
      some [254, 255, 0, 1, 0] := by
  decide +kernel

/-- The run with a compaction is one of a store. -/
theorem pool_is_a_store_compaction :
    (run step (start fun _ => 0) compaction).trace.map Prod.fst = compaction ∧
      Explains (run step (start fun _ => 0) compaction).trace
        (run step (start fun _ => 0) compaction).state.received
        (run step (start fun _ => 0) compaction).state.contents :=
  @pool_is_a_store (fun _ => 0) compaction (by decide +kernel)

/-! ## Runs whose blocks may lie over the end of the RAM

  The table does not know where the RAM ends, so the layout holds in runs that are admissible and
  not careful.  What the blocks hold is another matter. -/

/-- The chain of a run, whether its blocks lie in the RAM or not. -/
theorem run_layout {config : Config Enc28j60Eth (Call × Nat)} {calls : List Call}
    (hl : ∃ handles, Layout config.state.blocks handles)
    (hcalls : Always step (fun c call => c.state.Admissible call) config calls) :
    ∃ handles, Layout (run step config calls).state.blocks handles := by
  refine run_induction_of (I := fun c => ∃ handles, Layout c.state.blocks handles) hl ?_ hcalls
  rintro c call hcall ⟨handles, hl⟩
  show ∃ handles, Layout (step c.state call).1.blocks handles
  -- each function of the pool keeps the layout; the functions that touch the RAM alone do not
  -- change the table
  cases call with
  | allocBlock size =>
    obtain ⟨r, hr, hspec⟩ := hl.allocBlock hcall
    have hl' : ∃ handles, Layout r.blocks handles := by
      rcases hspec.outcome with ⟨-, -, hl'⟩ | ⟨-, -, -, handles', hl', -⟩
      · exact ⟨handles, hl'⟩
      · exact ⟨handles', hl'⟩
    simp only [step, allocBlock, hr, Option.bind_some]
    cases carryOut r.moves c.state.ram with
    | none => exact ⟨handles, hl⟩
    | some ram => exact hl'
  | freeBlock k =>
    obtain ⟨c', hfree, hl', -⟩ := freeBlock_answers hl k
    simp only [step, hfree]
    exact hl'
  | resizeFront k position =>
    exact ⟨handles, (hl.resizeBlockFront ((inUse_iff hl).mp hcall.1) hcall.2).2⟩
  | resize k position size =>
    exact ⟨handles, (hl.resizeBlock ((inUse_iff hl).mp hcall.1) hcall.2.1 hcall.2.2).2⟩
  | writePacket k position data => exact ⟨handles, hl⟩
  | copyPacket d destPos s srcPos len =>
    refine ⟨handles, ?_⟩
    cases hcopy : c.state.copyPacket d destPos s srcPos len with
    | none =>
      simp only [step, hcopy]
      exact hl
    | some c' =>
      obtain ⟨ram', -, rfl⟩ := Option.map_eq_some_iff.mp hcopy
      simp only [step, hcopy]
      exact hl
  | receivePacket pkt ring => exact ⟨handles, hl⟩

/-- **When a run gets a block**: exactly when a row is free and the sizes of all blocks leave the
    bytes, however these are scattered.  The table answers so wherever the blocks lie; the call
    itself returns if they lie in the RAM. -/
theorem allocBlock_succeeds_iff (ram : Ram) {calls : List Call} {size : Nat}
    (hcalls : Always step (fun c call => c.state.Admissible call) (start ram)
      (calls ++ [.allocBlock size])) :
    ∃ r, MemPool.allocBlock (run step (start ram) calls).state.blocks size = some r ∧
      (r.handle ≠ NOBLOCK ↔
        (∃ k, IsRow k ∧ ((run step (start ram) calls).state.blocks k).size = 0) ∧
        totalSize (run step (start ram) calls).state.blocks + size ≤ MEMPOOL_SIZE) ∧
      (∀ c' handle, (run step (start ram) calls).state.allocBlock size = some (c', handle) →
        handle = r.handle ∧ c'.blocks = r.blocks) ∧
      ((run step (start ram) calls).state.InRam →
        ((run step (start ram) calls).state.allocBlock size).isSome) := by
  obtain ⟨hbefore, hsize, -⟩ := always_append.mp hcalls
  obtain ⟨handles, hl⟩ := run_layout ⟨[], layout_init⟩ hbefore
  obtain ⟨r, hr, hiff⟩ := hl.allocBlock_iff hsize
  refine ⟨r, hr, hiff, ?_, ?_⟩
  · intro c' handle halloc
    unfold allocBlock at halloc
    rw [hr, Option.bind_some, Option.map_eq_some_iff] at halloc
    obtain ⟨ram', -, hpair⟩ := halloc
    obtain ⟨rfl, rfl⟩ := Prod.mk.inj hpair
    exact ⟨rfl, rfl⟩
  · intro hram
    obtain ⟨r', -, -, halloc⟩ := allocBlock_eq size hl hram hsize
    rw [halloc]
    rfl

/-- The pool of that run is asked for a block that fills it up. -/
theorem allocBlock_succeeds_iff_compaction :
    ∃ r, MemPool.allocBlock (run step (start fun _ => 0) compaction).state.blocks 44 = some r ∧
      (r.handle ≠ NOBLOCK ↔
        (∃ k, IsRow k ∧ ((run step (start fun _ => 0) compaction).state.blocks k).size = 0) ∧
        totalSize (run step (start fun _ => 0) compaction).state.blocks + 44 ≤ MEMPOOL_SIZE) ∧
      (∀ c' handle,
        (run step (start fun _ => 0) compaction).state.allocBlock 44 = some (c', handle) →
          handle = r.handle ∧ c'.blocks = r.blocks) ∧
      ((run step (start fun _ => 0) compaction).state.InRam →
        ((run step (start fun _ => 0) compaction).state.allocBlock 44).isSome) :=
  @allocBlock_succeeds_iff (fun _ => 0) compaction 44 (by decide +kernel)

/-! ## What is read back

  A block that is left alone keeps its bytes, and a read of it gives what was written.  `target` is
  the handle that a call may change. -/

/-- The handle whose block a call changes. -/
def target : Call → Option Nat
  | .allocBlock _ => none
  | .freeBlock handle => some handle
  | .resizeFront handle _ => some handle
  | .resize handle _ _ => some handle
  | .writePacket handle _ _ => some handle
  | .copyPacket destPkt _ _ _ _ => some destPkt
  | .receivePacket _ _ => none

/-- A call leaves every block but its target as it was. -/
theorem answers_frame {r : Received} {s s' : Store} {reply h : Nat} {call : Call}
    (hanswers : Answers r s s' reply call) (hh : s h ≠ none) (htarget : target call ≠ some h) :
    s' h = s h := by
  have hupdate : ∀ {k : Nat} {b : Option (List UInt8)}, some k ≠ some h →
      Function.update s k b h = s h :=
    fun hne => Function.update_of_ne (fun heq => hne (congrArg some heq.symm)) _ _
  cases call with
  | allocBlock size =>
    rcases hanswers with ⟨-, rfl⟩ | ⟨-, hfresh, b, -, rfl⟩
    · rfl
    · refine Function.update_of_ne (fun heq => hh ?_) _ _
      rw [heq, hfresh]
  | freeBlock k =>
    obtain rfl : s' = Function.update s k _ := hanswers
    exact hupdate htarget
  | resizeFront k position =>
    obtain rfl : s' = Function.update s k _ := hanswers
    exact hupdate htarget
  | resize k position size =>
    obtain rfl : s' = Function.update s k _ := hanswers
    exact hupdate htarget
  | writePacket k position data =>
    obtain rfl : s' = Function.update s k _ := hanswers
    exact hupdate htarget
  | copyPacket d destPos k srcPos len =>
    obtain rfl : s' = Function.update s d _ := hanswers
    exact hupdate htarget
  | receivePacket pkt ring => exact congrFun hanswers h

/-- What `readPacket` reads is a part of what the block holds. -/
theorem readPacket_eq (hl : Layout c.blocks handles) {b : List UInt8} {position len : Nat}
    (hb : c.contents h = some b) (hfit : position + len ≤ b.length) :
    c.readPacket h position len = (b.drop position).take len := by
  have hmem : h ∈ handles := by
    by_contra hout
    rw [contents_of_not_mem hl hout] at hb
    cases hb
  rw [contents_of_mem hl hmem] at hb
  obtain rfl := Option.some.inj hb
  have hsize : (bytes c.ram (region c.blocks h)).length = (c.blocks h).size := length_bytes
  have hstop := (hl.stop_lt hmem).2
  have hlt := poolEnd_lt
  have hbegin : memaddress ((c.blocks h).begin + position) = (c.blocks h).begin + position :=
    memaddress_of_lt rfl (by omega)
  have hlen : packetLength c.blocks h position len = len := by
    rw [packetLength_eq len (by omega) (by omega)]
    omega
  unfold readPacket
  rw [hbegin, hlen]
  unfold region
  rw [← bytes_drop, ← bytes_take (by omega)]

/-- A block that no call changes holds what it held, wherever it is moved. -/
theorem run_untouched {config : Config Enc28j60Eth (Call × Nat)} {calls : List Call}
    (hl : ∃ handles, Layout config.state.blocks handles) (hh : config.state.contents h ≠ none)
    (hcalls : Always step Careful config calls) (hother : ∀ call ∈ calls, target call ≠ some h) :
    (∃ handles, Layout (run step config calls).state.blocks handles) ∧
      (run step config calls).state.contents h = config.state.contents h := by
  induction calls generalizing config with
  | nil => exact ⟨hl, rfl⟩
  | cons call calls ih =>
    obtain ⟨⟨hcall, hram⟩, hrest⟩ := hcalls
    obtain ⟨handles, hl⟩ := hl
    obtain ⟨reply, -, hl', -, hanswers⟩ := step_answers hl hram hcall
    have hsame : (step config.state call).1.contents h = config.state.contents h :=
      answers_frame hanswers hh (hother call (List.mem_cons_self ..))
    have hl'' : ∃ handles, Layout (advance step config call).state.blocks handles := hl'
    have hh' : (advance step config call).state.contents h ≠ none := hsame.symm ▸ hh
    obtain ⟨hfinal, hkept⟩ := ih hl'' hh' hrest fun k hk =>
      hother k (List.mem_cons_of_mem call hk)
    exact ⟨hfinal, hkept.trans hsame⟩

/-- **What is written to a block is read from it**, whatever else is allocated, freed, cut, copied
    and written in between, and wherever a compaction has moved the block. -/
theorem readPacket_writePacket (ram : Ram) {before between : List Call} {position : Nat}
    {data : List UInt8}
    (hcalls : Always step Careful (start ram) (before ++ .writePacket h position data :: between))
    (hfit : position + data.length ≤ ((run step (start ram) before).state.blocks h).size)
    (hother : ∀ call ∈ between, target call ≠ some h) :
    (run step (start ram) (before ++ .writePacket h position data :: between)).state.readPacket h
      position data.length = data := by
  obtain ⟨hbefore, ⟨⟨huse, hposition⟩, hram⟩, hbetween⟩ := always_append.mp hcalls
  obtain ⟨⟨handles, hl⟩, -, -⟩ := run_explains ⟨[], layout_init⟩ (explains_start ram) hbefore
  rw [run_append, run_cons]
  generalize run step (start ram) before = c at *
  have hmem := (inUse_iff hl).mp huse
  obtain ⟨hblocks, -, -, hanswers⟩ := writePacket_answers hl data hmem hposition
  have hwritten : (advance step c (.writePacket h position data)).state.contents h =
      some (overwrite (bytes c.state.ram (region c.state.blocks h)) position data) := by
    show (c.state.writePacket h position data).1.contents h = _
    have hupdate : (c.state.writePacket h position data).1.contents = Function.update
      c.state.contents h ((c.state.contents h).map fun b => overwrite b position data) := hanswers
    rw [hupdate, Function.update_self, contents_of_mem hl hmem]
    rfl
  have hl' : Layout (advance step c (.writePacket h position data)).state.blocks handles := by
    show Layout (c.state.writePacket h position data).1.blocks handles
    rwa [hblocks]
  -- from here on the block is left alone, though a compaction may move it
  obtain ⟨⟨handles', hfinal⟩, hkept⟩ := run_untouched ⟨handles, hl'⟩
    (by rw [hwritten]; exact Option.some_ne_none _) hbetween hother
  have hsize : (bytes c.state.ram (region c.state.blocks h)).length = (c.state.blocks h).size :=
    length_bytes
  generalize bytes c.state.ram (region c.state.blocks h) = b at hwritten hsize
  have hfront : (b.take position).length = position := by
    rw [List.length_take]
    omega
  rw [readPacket_eq hfinal (hkept.trans hwritten)]
  · unfold overwrite
    rw [List.append_assoc, List.drop_left' hfront, List.take_of_length_le (l := data) (by omega),
      List.take_left]
  · unfold overwrite
    rw [List.length_append, List.length_append, hfront, List.length_take, List.length_drop]
    omega

/-- Two bytes are read back from where a compaction has put them. -/
theorem readPacket_writePacket_compaction :
    (run step (start fun _ => 0) ([.allocBlock 6000, .allocBlock 2] ++
      .writePacket 2 0 [7, 9] :: [.freeBlock 1, .allocBlock 6100])).state.readPacket 2 0 2 =
        [7, 9] :=
  @readPacket_writePacket 2 (fun _ => 0) [.allocBlock 6000, .allocBlock 2]
    [.freeBlock 1, .allocBlock 6100] 0 [7, 9] (by decide +kernel) (by decide +kernel)
    (by decide)

/-! ## How far the pool reaches

  The pool is two bytes longer than what is left of the RAM, because of the missing parentheses
  (`MEMPOOL_SIZE`).  Only a block at the very end is concerned: all but the last two bytes of the
  pool are in the RAM. -/

/-- The first block of an empty pool begins where the pool begins. -/
theorem first_block (ram : Ram) {size : Nat} (hsize : 0 < size) (hfit : size ≤ MEMPOOL_SIZE) :
    (run step (start ram) [.allocBlock size]).state.InRam ↔
      MEMPOOL_STARTADDRESS + size ≤ RAM_SIZE := by
  have hfree : freesize MemPool.init POOLSTART = MEMPOOL_SIZE := by decide
  have hnext : (MemPool.init POOLSTART).nextblock = NOBLOCK := rfl
  have hrow : freeRow MemPool.init = some 1 := by decide
  have hsearch : search MemPool.init size (MEMPOOL_NUM_MEMBLOCKS + 1) POOLSTART none
      (MEMPOOL_SIZE + 1) = some (some POOLSTART) := by
    rw [search]
    simp only [hfree, hnext, if_true]
    split
    case isTrue => rfl
    case isFalse hne => rw [if_pos (by omega)]
  have halloc : MemPool.allocBlock MemPool.init size =
      some ⟨(found MemPool.init POOLSTART size).1, (found MemPool.init POOLSTART size).2, []⟩ := by
    unfold MemPool.allocBlock
    rw [hsearch, Option.bind_some]
  have hstate : (run step (start ram) [.allocBlock size]).state.blocks =
      (found MemPool.init POOLSTART size).1 := by
    rw [run_cons, run_nil, advance, start]
    simp only [step, allocBlock, halloc, Option.bind_some, carryOut, Option.map_some]
  have hblocks := @found_fst MemPool.init size 1 POOLSTART hrow (by decide)
  have hone : (found MemPool.init POOLSTART size).1 1 = ⟨MEMPOOL_STARTADDRESS, size, NOBLOCK⟩ := by
    rw [hblocks, Function.update_of_ne (by decide), Function.update_self]
    rfl
  have hother : ∀ h, IsRow h → h ≠ 1 → ((found MemPool.init POOLSTART size).1 h).size = 0 := by
    intro h hh hne
    have hstart : h ≠ POOLSTART := Nat.ne_of_gt hh.1
    rw [hblocks, Function.update_of_ne hstart, Function.update_of_ne hne]
    unfold MemPool.init
    rw [Function.update_of_ne hstart]
  constructor
  · intro hram
    have hsize1 : ((run step (start ram) [.allocBlock size]).state.blocks 1).size ≠ 0 := by
      rw [hstate, hone]
      exact Nat.ne_of_gt hsize
    have hfirst := hram 1 ⟨by decide, hsize1⟩
    rwa [hstate, hone] at hfirst
  · intro hle h huse
    have hsizeh := huse.2
    rw [hstate] at hsizeh ⊢
    by_cases hh : h = 1
    · rw [hh, hone]
      exact hle
    · exact absurd (hother h huse.1 hh) hsizeh

/-- **How far the pool reaches.**  In every run the blocks lie between the receive buffer and
    `TXEND_INIT + 2`; and since that is 2 bytes behind the last address of the RAM, a block that
    fills the pool up to its last 2 bytes does not lie in the RAM. -/
theorem pool_reaches (ram : Ram) {calls : List Call}
    (hcalls : Always step (fun c call => c.state.Admissible call) (start ram) calls) :
    (∀ h, (run step (start ram) calls).state.InUse h →
      RXEND_INIT + 1 < ((run step (start ram) calls).state.blocks h).begin ∧
      ((run step (start ram) calls).state.blocks h).begin +
        ((run step (start ram) calls).state.blocks h).size ≤ TXEND_INIT + 3) ∧
    ∀ size, 0 < size → size ≤ MEMPOOL_SIZE →
      ((run step (start ram) [.allocBlock size]).state.InRam ↔ size + 2 ≤ MEMPOOL_SIZE) := by
  constructor
  -- the end of the pool is `TXEND_INIT + 3`, the first address behind it
  · intro h huse
    obtain ⟨handles, hl⟩ := run_layout ⟨[], layout_init⟩ hcalls
    obtain ⟨hbegin, hend⟩ := hl.stop_lt ((inUse_iff hl).mp huse)
    exact ⟨hbegin, hend⟩
  · intro size hsize hfit
    rw [first_block ram hsize hfit]
    have hstart : MEMPOOL_STARTADDRESS = 2049 := rfl
    have hpool : MEMPOOL_SIZE = 6145 := rfl
    have hram := RAM_SIZE_eq
    omega

/-- Two blocks that fill the pool: the second one ends 2 bytes behind the RAM. -/
theorem pool_reaches_full :
    (∀ h, (run step (start fun _ => 0) [.allocBlock 45, .allocBlock 6100]).state.InUse h →
      RXEND_INIT + 1 <
        ((run step (start fun _ => 0) [.allocBlock 45, .allocBlock 6100]).state.blocks h).begin ∧
      ((run step (start fun _ => 0) [.allocBlock 45, .allocBlock 6100]).state.blocks h).begin +
        ((run step (start fun _ => 0) [.allocBlock 45, .allocBlock 6100]).state.blocks h).size ≤
          TXEND_INIT + 3) ∧
    ∀ size, 0 < size → size ≤ MEMPOOL_SIZE →
      ((run step (start fun _ => 0) [.allocBlock size]).state.InRam ↔ size + 2 ≤ MEMPOOL_SIZE) :=
  @pool_reaches (fun _ => 0) [.allocBlock 45, .allocBlock 6100] (by decide +kernel)

/-! ## An empty datagram

  `uipudp_appcall` asks for a block of the size of the datagram and copies the datagram into it,
  without asking whether there are any bytes.  So an empty one breaks both rules of `Admissible` at
  once.  What happens is exactly determined, and is proved here: the copy goes once around the ring,
  2048 bytes, and the row is handed out again. -/

/-- A block of no bytes on an empty pool. -/
theorem allocBlock_empty (ram : Ram) (pkt : Region) :
    allocBlock ⟨MemPool.init, ram, pkt⟩ 0 = some (⟨afterZero, ram, pkt⟩, 1) := by
  unfold allocBlock
  simp only [allocBlock_init_zero, Option.bind_some, carryOut, Option.map_some]

/-- **What comes after it on an empty pool**: a block of `n` bytes gets the same row, which is linked
    behind itself; from then on no call of `allocBlock` returns, but for the one of `65536 - n`
    bytes, which is granted far behind the end of the pool. -/
theorem allocBlock_after_empty (ram : Ram) {n m : Nat} (hn : 0 < n) (hle : n ≤ MEMPOOL_SIZE)
    (hm : 0 < m) (hlt : m < 65536) :
    (run step (start ram) [.allocBlock 0, .allocBlock n]).trace.map Prod.snd = [1, 1] ∧
      (n + m ≠ 65536 →
        (run step (start ram) [.allocBlock 0, .allocBlock n]).state.allocBlock m = none) ∧
      (n + m = 65536 → ∃ c handle,
        (run step (start ram) [.allocBlock 0, .allocBlock n]).state.allocBlock m = some (c, handle) ∧
          handle ≠ NOBLOCK ∧ region c.blocks handle = ⟨MEMPOOL_STARTADDRESS + n, m⟩) := by
  have hfirst : (start ram).state.allocBlock 0 = some (⟨afterZero, ram, ⟨0, 0⟩⟩, 1) :=
    allocBlock_empty ram ⟨0, 0⟩
  have hsecond : allocBlock ⟨afterZero, ram, ⟨0, 0⟩⟩ n = some (⟨afterBoth n, ram, ⟨0, 0⟩⟩, 1) := by
    unfold allocBlock
    simp only [allocBlock_afterZero hn hle, Option.bind_some, carryOut, Option.map_some]
  have hrun : run step (start ram) [.allocBlock 0, .allocBlock n] =
      ⟨⟨afterBoth n, ram, ⟨0, 0⟩⟩, [(.allocBlock 0, 1), (.allocBlock n, 1)]⟩ := by
    rw [run_cons, run_cons, run_nil]
    simp only [advance, step, hfirst, hsecond]
    rfl
  obtain ⟨hnone, hsome⟩ := allocBlock_afterBoth hn hle hm hlt
  rw [hrun]
  refine ⟨rfl, ?_, ?_⟩
  · intro hne
    unfold allocBlock
    simp only [hnone hne, Option.bind_none]
  · intro heq
    obtain ⟨r, hr, hhandle, hmoves, hregion⟩ := hsome heq
    refine ⟨⟨r.blocks, ram, ⟨0, 0⟩⟩, r.handle, ?_, hhandle, hregion⟩
    unfold allocBlock
    simp only [hr, Option.bind_some, hmoves, carryOut, Option.map_some]

/-- Another block of ten bytes then never comes. -/
theorem allocBlock_after_empty_ten :
    (run step (start fun _ => 0) [.allocBlock 0, .allocBlock 10]).trace.map Prod.snd = [1, 1] ∧
      (10 + 10 ≠ 65536 →
        (run step (start fun _ => 0) [.allocBlock 0, .allocBlock 10]).state.allocBlock 10 = none) ∧
      (10 + 10 = 65536 → ∃ c handle,
        (run step (start fun _ => 0) [.allocBlock 0, .allocBlock 10]).state.allocBlock 10 =
          some (c, handle) ∧
          handle ≠ NOBLOCK ∧ region c.blocks handle = ⟨MEMPOOL_STARTADDRESS + 10, 10⟩) :=
  allocBlock_after_empty (fun _ => 0) (n := 10) (m := 10) (by decide) (by decide) (by decide)
    (by decide)

end Enc28j60Eth

end GatewayLoRa
