/-
  The frames that the Ethernet controller receives (`receivePacket`, `freePacket` and, for a
  received frame, `setReadPtr` of `utility/Enc28j60Eth.cpp`; the begin of `UipEthernet::tick`).

  The chip writes each frame behind the one before it into the receive buffer, a ring: the address
  of the next frame, the length, the status, the data and the CRC.  The class follows these
  addresses, and reads the data of the frame it is at, at any position, until it frees it.

  1. **The order** (`frames_in_order`) — the frames come in the order in which they arrived, each
     once, and the chip is told that it may write up to the frame that is next.

  2. **The data** (`readPacket_eq`) — where the begin of a frame or a position in it lies behind the
     end of the ring, the class subtracts `RXEND_INIT` and not the size of the ring, which is one
     more: what it reads there is the data one byte further on.

  The crux is where two addresses meet.  The chip chains its frames by the address that it writes in
  front of each; the class has the same address from the frame it read last.  As long as the class
  has not been told of a frame, its `nextPacketPtr` is the start of the first one that waits, and
  this needs nothing of the data (`InStep.chained`).  The displacement is another matter: an address
  behind the end of the ring is wrapped by a subtraction that is one too small, but the chip itself,
  reading on from there, wraps as it should; so what is read is wrong by one place and not by more,
  wherever the frame lies.
-/

import GatewayLoRa.PacketMemory

namespace GatewayLoRa

open Regions MemPool Machine Enc28j60Eth

/-- A frame, and where the chip has put it. -/
structure Frame where
  start : Nat
  /-- Where the chip puts the next one. -/
  next : Nat
  status : UInt8
  statusHigh : UInt8
  data : List UInt8
  crc : List UInt8

/-- The two bytes of a number, the lower one first. -/
def twoBytes (n : Nat) : List UInt8 := [UInt8.ofNat n, UInt8.ofNat (n / 256)]

/-- The number of the two bytes at a place. -/
def numberAt (l : List UInt8) (i : Nat) : Nat :=
  (l.getD i 0).toNat + 256 * (l.getD (i + 1) 0).toNat

/-- What the chip writes for a frame. -/
def Frame.bytes (f : Frame) : List UInt8 :=
  twoBytes f.next ++ twoBytes (f.data.length + 4) ++ [f.status, f.statusHigh] ++ (f.data ++ f.crc)

/-- The bit "Received Ok" of the status. -/
def Frame.Good (f : Frame) : Prop := f.status &&& 0x80 ≠ 0

instance (f : Frame) : Decidable f.Good := inferInstanceAs (Decidable (_ ≠ _))

/-- What `receivePacket` says of a frame. -/
def Frame.answer (f : Frame) : Option Nat := if f.Good then some f.data.length else none

/-- The statics of the class, the registers of the chip that they go with, and `inPacket`, which is
    `NOBLOCK` or the receive buffer.  `receivePkt` is kept as it was when a frame is freed. -/
structure Receiver where
  ram : Ram
  nextPacketPtr : Nat
  receivePkt : Region
  inPacket : Bool
  /-- `EPKTCNT`. -/
  packetCount : Nat
  /-- `ERXRDPT`: the chip does not write further than this address. -/
  readPointer : Nat

namespace Receiver

/-! ## The class

  Four methods, from the source.  A frame is asked for only when there is none, and freed before the
  next one is asked for. -/

/-- `setERXRDPT`. -/
def setERXRDPT (r : Receiver) : Receiver :=
  { r with
    readPointer := if r.nextPacketPtr = RXSTART_INIT then RXEND_INIT else r.nextPacketPtr - 1 }

/-- `receivePacket`: whether there is a frame, and if so its length unless it is a bad one. -/
def receivePacket (r : Receiver) : Receiver × List (Option Nat) :=
  if r.packetCount = 0 then (r, [])
  else
    let header := readBuffer r.ram r.nextPacketPtr 5
    let len := memaddress ((numberAt header 2 : Int) - 4)
    let next := { r with nextPacketPtr := numberAt header 0, packetCount := r.packetCount - 1 }
    -- a bad frame is freed at once, and its length is not given
    if header.getD 4 0 &&& 0x80 ≠ 0 then
      ({ next with receivePkt := ⟨wrapped (r.nextPacketPtr + 6), len⟩, inPacket := true },
        [some len])
    else (next.setERXRDPT, [none])

/-- `readPacket` of the receive buffer. -/
def readPacket (r : Receiver) (position len : Nat) : List UInt8 :=
  readBuffer r.ram (memaddress (wrapped (r.receivePkt.begin + position)))
    (if (len : Int) > r.receivePkt.size - position then
      memaddress ((r.receivePkt.size : Int) - position) else len)

/-- `freePacket`, and `inPacket` after it. -/
def freePacket (r : Receiver) : Receiver := { r.setERXRDPT with inPacket := false }

/-! ## What is read from the ring

  Reading on is reading from further on: a read of the header, of the data or of a part of them is a
  piece of one read of the whole frame. -/

variable {ram : Ram} {a j k : Nat}

/-- A shorter read is the begin of a longer one. -/
theorem take_readBuffer (h : j ≤ k) : (readBuffer ram a k).take j = readBuffer ram a j := by
  induction j generalizing a k with
  | zero => rfl
  | succ j ih =>
    obtain ⟨k, rfl⟩ : ∃ n, k = n + 1 := ⟨k - 1, by omega⟩
    exact congrArg (ram a :: ·) (ih (Nat.le_of_succ_le_succ h))

/-- **Bytes from further on in the ring.** -/
theorem readBuffer_further (ha : a ≤ RXEND_INIT) (hj : j ≤ RXEND_INIT + 1) :
    readBuffer ram (further a j) k = (readBuffer ram a (j + k)).drop j := by
  induction j generalizing a with
  | zero =>
    rw [further_zero ha, Nat.zero_add]
    rfl
  | succ j ih =>
    -- one byte is left out, and the rest begins one address further on
    rw [further_succ ha (Nat.le_of_succ_le_succ hj), ih (dmaNext_le ha) (by omega),
      Nat.add_right_comm]
    rfl

/-- **A frame lies in the ring.** -/
structure InRing (ram : Ram) (f : Frame) : Prop where
  start_le : f.start ≤ RXEND_INIT
  next_le : f.next ≤ RXEND_INIT
  crc : f.crc.length = 4
  fits : f.bytes.length ≤ RXEND_INIT + 1
  bytes : readBuffer ram f.start f.bytes.length = f.bytes

/-- The header has six bytes, and the CRC is counted with the data. -/
theorem length_bytes (f : Frame) : f.bytes.length = 6 + (f.data.length + f.crc.length) := by
  unfold Frame.bytes twoBytes
  simp only [List.length_append, List.length_cons, List.length_nil]

/-- Two bytes are the number that they were made of. -/
theorem number_twoBytes {n : Nat} (hn : n < 65536) :
    (UInt8.ofNat n).toNat + 256 * (UInt8.ofNat (n / 256)).toNat = n := by
  simp only [UInt8.toNat_ofNat']
  omega

/-- How much further on the class reads. -/
def displaced (f : Frame) (position : Nat) : Nat :=
  if f.start + 6 + position ≤ RXEND_INIT then 0 else 1

/-- The byte at the begin of the ring is left out when a read starts behind the end. -/
example : let r : Receiver := ⟨fun a => UInt8.ofNat a, 0, ⟨2040, 20⟩, true, 0, 0⟩
    r.readPacket 0 10 = [248, 249, 250, 251, 252, 253, 254, 255, 0, 1] ∧
      r.readPacket 8 2 = [1, 2] := by
  decide

variable {r : Receiver} {f : Frame}

/-- **What is read of a frame**: its data, or what stands one byte further on when the position lies
    behind the end of the ring. -/
theorem readPacket_eq (hf : InRing r.ram f)
    (hpkt : r.receivePkt = ⟨wrapped (f.start + 6), f.data.length⟩) {position len : Nat}
    (hfit : position + len ≤ f.data.length) :
    r.readPacket position len =
      ((f.data ++ f.crc).drop (position + displaced f position)).take len := by
  have hstart := hf.start_le
  have hfits := hf.fits
  have hlength := length_bytes f
  rw [hf.crc] at hlength
  have hend := RXEND_INIT_eq
  have hring : RXSTART_INIT = 0 := rfl
  have hdisplaced : displaced f position ≤ 1 := by
    unfold displaced
    split <;> omega
  have haddress : memaddress (wrapped (wrapped (f.start + 6) + position)) =
      further f.start (6 + (position + displaced f position)) := by
    -- the data and the position in it begin before the end of the ring or behind it
    refine memaddress_of_lt (congrArg Nat.cast ?_) ?_
    · unfold wrapped further displaced
      split <;> split <;> split <;> split <;> omega
    · unfold further
      split <;> omega
  have hlen : (if (len : Int) > (r.receivePkt.size : Int) - position then
      memaddress ((r.receivePkt.size : Int) - position) else len) = len := by
    rw [hpkt]
    exact if_neg (by simp only; omega)
  have hbytes : readBuffer r.ram f.start (6 + (position + displaced f position) + len) =
      f.bytes.take (6 + (position + displaced f position) + len) := by
    rw [← hf.bytes, take_readBuffer (by omega)]
  unfold readPacket
  rw [hlen, hpkt, haddress, readBuffer_further hstart (by omega), hbytes, List.drop_take,
    Nat.add_sub_cancel_left, Nat.add_comm 6]
  rfl

/-! ## What `receivePacket` finds

  The header of a frame that lies in the ring, whether or not it runs over the end. -/

/-- **`receivePacket` at a frame.** -/
theorem receivePacket_eq (hf : InRing r.ram f) (hstart : f.start = r.nextPacketPtr)
    (hcount : r.packetCount ≠ 0) :
    r.receivePacket =
      if f.Good then
        ({ r with
          nextPacketPtr := f.next
          packetCount := r.packetCount - 1
          receivePkt := ⟨wrapped (f.start + 6), f.data.length⟩
          inPacket := true }, [some f.data.length])
      else
        ({ r with nextPacketPtr := f.next, packetCount := r.packetCount - 1 }.setERXRDPT,
          [none]) := by
  have hfits := hf.fits
  have hnext := hf.next_le
  have hlength := length_bytes f
  rw [hf.crc] at hlength
  have hend := RXEND_INIT_eq
  have hheader : readBuffer r.ram r.nextPacketPtr 5 =
      twoBytes f.next ++ twoBytes (f.data.length + 4) ++ [f.status] := by
    rw [← hstart, ← take_readBuffer (k := f.bytes.length) (by omega), hf.bytes]
    rfl
  -- the header holds the next address and the length, which counts the CRC
  generalize hh : twoBytes f.next ++ twoBytes (f.data.length + 4) ++ [f.status] = header at hheader
  have hnumber : numberAt header 0 = f.next := by
    rw [← hh]
    exact number_twoBytes (by omega)
  have hlen : memaddress ((numberAt header 2 : Int) - 4) = f.data.length := by
    have hnumber2 : numberAt header 2 = f.data.length + 4 := by
      rw [← hh]
      exact number_twoBytes (by omega)
    rw [hnumber2]
    exact memaddress_of_lt (by omega) (by omega)
  have hstatus : header.getD 4 0 = f.status := by
    rw [← hh]
    rfl
  unfold receivePacket
  rw [if_neg hcount, hheader]
  simp only [hnumber, hlen, hstatus, hstart]
  rfl

/-- `setERXRDPT` sets the pointer in front of the next frame, as the chip counts. -/
theorem dmaNext_setERXRDPT (h : r.nextPacketPtr ≤ RXEND_INIT) :
    dmaNext r.setERXRDPT.readPointer = r.nextPacketPtr := by
  have hend := RXEND_INIT_eq
  have hring : RXSTART_INIT = 0 := rfl
  unfold setERXRDPT
  simp only
  by_cases hzero : r.nextPacketPtr = RXSTART_INIT
  · rw [if_pos hzero, dmaNext_eq (Nat.le_refl _), if_pos rfl, hzero]
    rfl
  · rw [if_neg hzero, dmaNext_eq (by omega), if_neg (by omega)]
    omega

end Receiver

/-! ## The chip and the class

  The chip is a writer that may come at any moment, also between two calls of a `tick`; its promise
  is only where it writes, and what it leaves alone. -/

/-- The class and the frames in the receive buffer. -/
structure Ring where
  receiver : Receiver
  /-- The frames that are not freed. -/
  kept : List Frame
  /-- The frames that the chip ever put into the buffer. -/
  arrived : List Frame

namespace Ring

open Receiver

/-- What happens to the receive buffer. -/
inductive Event where
  /-- The chip writes a frame, and the RAM is `mem` then. -/
  | arrive (f : Frame) (mem : Ram)
  /-- `UipEthernet::tick` asks for a frame if it has none. -/
  | tick
  /-- It frees the frame it has. -/
  | free

/-- A step, and what `receivePacket` says in it. -/
def step (n : Ring) : Event → Ring × List (Option Nat)
  | .arrive f mem =>
      ({ receiver := { n.receiver with ram := mem, packetCount := n.receiver.packetCount + 1 }
         kept := n.kept ++ [f]
         arrived := n.arrived ++ [f] }, [])
  | .tick =>
      if n.receiver.inPacket then (n, [])
      else
        ({ n with
            receiver := n.receiver.receivePacket.1
            kept := n.kept.drop (n.receiver.receivePacket.2.count none) },
          n.receiver.receivePacket.2)
  | .free =>
      if n.receiver.inPacket then
        ({ n with receiver := n.receiver.freePacket, kept := n.kept.tail }, [])
      else (n, [])

/-- The address behind the last frame. -/
def behind (p : Nat) (frames : List Frame) : Nat := (frames.getLast?.map Frame.next).getD p

/-- **What is assumed of the chip**: it puts a frame behind the last one, and leaves the frames that
    are not freed as they are. -/
def Careful (c : Config Ring (Option Nat)) : Event → Prop
  | .arrive f mem => f.start = behind c.state.receiver.nextPacketPtr c.state.kept ∧ InRing mem f ∧
      ∀ g ∈ c.state.kept, InRing mem g
  | .tick => True
  | .free => True

/-- Each frame stands behind the one before it, the first one at `p`. -/
def Chained (p : Nat) : List Frame → Prop
  | [] => True
  | f :: frames => f.start = p ∧ Chained f.next frames

/-- The last frame of a longer list is that of its rest. -/
theorem behind_cons {p : Nat} {f : Frame} {frames : List Frame} :
    behind p (f :: frames) = behind f.next frames := by
  unfold behind
  cases frames with
  | nil => rfl
  | cons g frames => rw [List.getLast?_cons_cons, List.getLast?_cons]; rfl

/-- A frame behind the last one goes on with the chain. -/
theorem Chained.concat {p : Nat} {f : Frame} {frames : List Frame} (h : Chained p frames)
    (hf : f.start = behind p frames) : Chained p (frames ++ [f]) := by
  induction frames generalizing p with
  | nil => exact ⟨hf, trivial⟩
  | cons g frames ih =>
    rw [behind_cons] at hf
    exact ⟨h.1, ih h.2 hf⟩

/-- **The class is in step with the chip**: `done` are the frames it has answered for, `waiting` the
    others. -/
structure InStep (n : Ring) (trace : List (Option Nat)) (done waiting : List Frame) : Prop where
  arrived : n.arrived = done ++ waiting
  answered : trace = done.map Frame.answer
  count : n.receiver.packetCount = waiting.length
  stored : ∀ f ∈ n.kept, InRing n.receiver.ram f
  chained : Chained n.receiver.nextPacketPtr waiting
  next_le : n.receiver.nextPacketPtr ≤ RXEND_INIT
  /-- The frame that is held is the last one it has answered for. -/
  held : n.receiver.inPacket = true → ∃ earlier f, done = earlier ++ [f] ∧ n.kept = f :: waiting ∧
    n.receiver.nextPacketPtr = f.next ∧
    n.receiver.receivePkt = ⟨wrapped (f.start + 6), f.data.length⟩ ∧
    (earlier ≠ [] → dmaNext n.receiver.readPointer = f.start)
  /-- When none is held the chip may write up to the next one. -/
  freed : n.receiver.inPacket = false → n.kept = waiting ∧
    (done ≠ [] → dmaNext n.receiver.readPointer = n.receiver.nextPacketPtr)

variable {n : Ring} {trace : List (Option Nat)} {done waiting : List Frame}

/-- Whether a frame is held or not, the chip writes behind the last one that waits. -/
theorem InStep.behind_eq (h : InStep n trace done waiting) :
    behind n.receiver.nextPacketPtr n.kept = behind n.receiver.nextPacketPtr waiting := by
  cases hin : n.receiver.inPacket with
  | true =>
    obtain ⟨_, f, -, hkept, hnext, -, -⟩ := h.held hin
    rw [hkept, behind_cons, hnext]
  | false => rw [(h.freed hin).1]

/-- A frame that arrives waits. -/
theorem arrive_inStep (h : InStep n trace done waiting) {f : Frame} {ram : Ram}
    (hstart : f.start = behind n.receiver.nextPacketPtr n.kept) (hf : InRing ram f)
    (hkept : ∀ g ∈ n.kept, InRing ram g) :
    InStep (step n (.arrive f ram)).1 trace done (waiting ++ [f]) := by
  rw [h.behind_eq] at hstart
  refine ⟨?_, h.answered, ?_, ?_, h.chained.concat hstart, h.next_le, ?_, ?_⟩
  · show n.arrived ++ [f] = _
    rw [h.arrived, List.append_assoc]
  · show n.receiver.packetCount + 1 = _
    rw [h.count, List.length_append]
    rfl
  · intro g hg
    rcases List.mem_append.mp hg with hg | hg
    · exact hkept g hg
    · rwa [List.mem_singleton.mp hg]
  · intro hin
    obtain ⟨earlier, g, hdone, hframes, hnext, hpkt, hpointer⟩ := h.held hin
    refine ⟨earlier, g, hdone, ?_, hnext, hpkt, hpointer⟩
    show n.kept ++ [f] = _
    rw [hframes]
    rfl
  · intro hin
    obtain ⟨hframes, hpointer⟩ := h.freed hin
    refine ⟨?_, hpointer⟩
    show n.kept ++ [f] = _
    rw [hframes]

/-- A frame that is freed was answered for before. -/
theorem free_inStep (h : InStep n trace done waiting) :
    InStep (step n .free).1 (trace ++ (step n .free).2) done waiting := by
  cases hin : n.receiver.inPacket with
  | false =>
    have hstep : step n .free = (n, []) := if_neg (by rw [hin]; exact Bool.false_ne_true)
    rw [hstep, List.append_nil]
    exact h
  | true =>
    have hstep : step n .free =
        ({ n with receiver := n.receiver.freePacket, kept := n.kept.tail }, []) := if_pos hin
    rw [hstep, List.append_nil]
    obtain ⟨_, f, -, hkept, -, -, -⟩ := h.held hin
    refine ⟨h.arrived, h.answered, h.count, ?_, h.chained, h.next_le,
      fun hfree => (nomatch hfree), ?_⟩
    · intro g hg
      exact h.stored g (List.mem_of_mem_tail hg)
    · intro _
      refine ⟨?_, fun _ => dmaNext_setERXRDPT h.next_le⟩
      show n.kept.tail = waiting
      rw [hkept]
      rfl

/-- A `tick` answers for the frame that is next, or does nothing. -/
theorem tick_inStep (h : InStep n trace done waiting) :
    ∃ done' waiting', InStep (step n .tick).1 (trace ++ (step n .tick).2) done' waiting' := by
  cases hin : n.receiver.inPacket with
  | true =>
    have hstep : step n .tick = (n, []) := if_pos hin
    rw [hstep, List.append_nil]
    exact ⟨done, waiting, h⟩
  | false =>
    have hstep : step n .tick =
        ({ n with
            receiver := n.receiver.receivePacket.1
            kept := n.kept.drop (n.receiver.receivePacket.2.count none) },
          n.receiver.receivePacket.2) := if_neg (by rw [hin]; exact Bool.false_ne_true)
    rw [hstep]
    obtain ⟨hkept, hpointer⟩ := h.freed hin
    have harrived := h.arrived
    have hstored := h.stored
    have hcount := h.count
    have hchained := h.chained
    rw [hkept] at hstored
    cases waiting with
    | nil =>
      have hnone : n.receiver.receivePacket = (n.receiver, []) := if_pos hcount
      rw [hnone, List.append_nil]
      exact ⟨done, [], h⟩
    | cons f waiting =>
      obtain ⟨hstart, hchained⟩ := hchained
      have hf := hstored f (List.mem_cons_self ..)
      have hrest : ∀ g ∈ waiting, InRing n.receiver.ram g := fun g hg =>
        hstored g (List.mem_cons_of_mem f hg)
      rw [List.length_cons] at hcount
      rw [receivePacket_eq hf hstart (by omega)]
      have harrived' : n.arrived = (done ++ [f]) ++ waiting := by
        rw [harrived, List.append_assoc]
        rfl
      have hcount' : n.receiver.packetCount - 1 = waiting.length := by omega
      refine ⟨done ++ [f], waiting, ?_⟩
      by_cases hgood : f.Good
      -- a good frame is held from now on
      · rw [if_pos hgood]
        refine ⟨harrived', ?_, hcount', hkept ▸ hstored, hchained, hf.next_le, ?_, ?_⟩
        · rw [h.answered, List.map_append, List.map_singleton, Frame.answer, if_pos hgood]
        · intro _
          exact ⟨done, f, rfl, hkept, rfl, rfl, fun hne => (hpointer hne).trans hstart.symm⟩
        · intro hfree
          cases hfree
      -- a bad one is freed at once
      · rw [if_neg hgood]
        have hkept' : n.kept.drop 1 = waiting := by rw [hkept]; rfl
        refine ⟨harrived', ?_, hcount', ?_, hchained, hf.next_le, ?_, ?_⟩
        · rw [h.answered, List.map_append, List.map_singleton, Frame.answer, if_neg hgood]
        · show ∀ g ∈ n.kept.drop 1, InRing n.receiver.ram g
          rw [hkept']
          exact hrest
        · intro htrue
          have hfalse : n.receiver.inPacket = true := htrue
          rw [hin] at hfalse
          cases hfalse
        · intro _
          exact ⟨hkept', fun _ => dmaNext_setERXRDPT hf.next_le⟩

/-- The receive buffer after `init`. -/
def start (ram : Ram) : Config Ring (Option Nat) where
  state :=
    { receiver :=
        { ram := ram
          nextPacketPtr := RXSTART_INIT
          receivePkt := ⟨0, 0⟩
          inPacket := false
          packetCount := 0
          readPointer := RXSTART_INIT }
      kept := []
      arrived := [] }
  trace := []

/-- **Every run keeps the class in step with the chip.** -/
theorem run_inStep (ram : Ram) {events : List Event}
    (hevents : Always step Careful (start ram) events) :
    ∃ done waiting, InStep (run step (start ram) events).state (run step (start ram) events).trace
      done waiting := by
  refine run_induction_of (I := fun c => ∃ done waiting, InStep c.state c.trace done waiting)
    ⟨[], [], ?_⟩ ?_ hevents
  · exact ⟨rfl, rfl, rfl, fun _ hf => (List.not_mem_nil hf).elim, trivial, Nat.zero_le _,
      fun hin => (nomatch hin), fun _ => ⟨rfl, fun hne => absurd rfl hne⟩⟩
  · rintro c e hc ⟨done, waiting, h⟩
    show ∃ done waiting, InStep (step c.state e).1 (c.trace ++ (step c.state e).2) done waiting
    cases e with
    | arrive f ram =>
      refine ⟨done, waiting ++ [f], ?_⟩
      have harrive := arrive_inStep h hc.1 hc.2.1 hc.2.2
      show InStep _ (c.trace ++ []) _ _
      rwa [List.append_nil]
    | tick => exact tick_inStep h
    | free => exact ⟨done, waiting, free_inStep h⟩

/-- **The frames come in order, each once**: `receivePacket` has answered for `done`, `EPKTCNT`
    counts the others.  The frame that is held is the last one of `done`, and what is read of it is
    its data, but for the positions behind the end of the ring, where it is what stands one byte
    further on.  The chip is told not to write over the frame that is held, or else over the one
    that is next. -/
def InOrder (n : Ring) (trace : List (Option Nat)) : Prop :=
  ∃ done waiting, n.arrived = done ++ waiting ∧ trace = done.map Frame.answer ∧
    n.receiver.packetCount = waiting.length ∧
    (n.receiver.inPacket = true → ∃ earlier f, done = earlier ++ [f] ∧
      (∀ position len, position + len ≤ f.data.length →
        n.receiver.readPacket position len = ((f.data ++ f.crc).drop
          (position + if f.start + 6 + position ≤ RXEND_INIT then 0 else 1)).take len) ∧
      (earlier ≠ [] → dmaNext n.receiver.readPointer = f.start)) ∧
    (n.receiver.inPacket = false → done ≠ [] →
      dmaNext n.receiver.readPointer = n.receiver.nextPacketPtr)

/-- **In every run the frames come in order**, whenever they arrive and however long the class keeps
    each of them. -/
theorem frames_in_order (ram : Ram) {events : List Event}
    (hevents : Always step Careful (start ram) events) :
    InOrder (run step (start ram) events).state (run step (start ram) events).trace := by
  obtain ⟨done, waiting, h⟩ := run_inStep ram hevents
  refine ⟨done, waiting, h.arrived, h.answered, h.count, ?_, fun hin => (h.freed hin).2⟩
  intro hin
  obtain ⟨earlier, f, hdone, hkept, -, hpkt, hpointer⟩ := h.held hin
  have hf := h.stored f (by rw [hkept]; exact List.mem_cons_self ..)
  exact ⟨earlier, f, hdone, fun position len hfit => readPacket_eq hf hpkt hfit, hpointer⟩

/-- A frame of three bytes. -/
def sampleFrame : Frame := ⟨0, 14, 0x80, 0, [1, 2, 3], [4, 5, 6, 7]⟩

/-- The RAM with this frame at its begin. -/
def sampleRam : Ram := fun a => sampleFrame.bytes.getD a 0

theorem frames_in_order_sample :
    InOrder (run step (start fun _ => 0) [.arrive sampleFrame sampleRam, .tick]).state
      (run step (start fun _ => 0) [.arrive sampleFrame sampleRam, .tick]).trace :=
  frames_in_order (fun _ => 0)
    ⟨⟨rfl, ⟨by decide, by decide, rfl, by decide, by decide⟩, fun _ hg => (nomatch hg)⟩, trivial,
      trivial⟩

end Ring

end GatewayLoRa
