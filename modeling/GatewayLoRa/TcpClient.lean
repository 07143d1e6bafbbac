/-
  The sending side of a TCP connection over Ethernet (`TcpClient.cpp`, `UipEthernet.cpp`, `uip.c`).

  `_write` copies what the application sends into blocks of the packet memory, up to five of them,
  `packets_out`. uIP calls the application back (`uipclient_appcall`) when it may send, when it has
  to send again and when the peer acknowledged; the first block is copied behind the headers into a
  block of its own, which `network_send` sends and frees.  A block leaves `packets_out` when it is
  acknowledged.

  The model covers the connection once it is established and until one of the two sides closes it.
  A function returns `none` if a call of the pool does not return.

  The crux: a queue of bytes is all that matters to the peer, and the blocks are one way to store
  it.  `held` reads the queue off the blocks.  Every block but the last is sent whole, and of the
  last one the `out_pos` bytes that were written.  Two invariants tie the source's variables to it.

  - `Ready`: `packets_out` is a list of handles followed by `NOBLOCK`s, the handles are different,
    and each has a buffer.  It is what `putBytes`, `alloc_spec` and `frame` keep, and with it no
    function of the pool is opened in the proofs below: a buffer is a value of a partial map, and a
    write is an update of that map at one handle.
  - `Closed`: nothing more is written to the first block.  Without it a retransmission could be
    longer than the first transmission.  It holds because the first block is cut before it leaves,
    so that `_write` finds it full, and begins another block.

  From these the three functions of the connection are described by what they do to the queue.  The
  bytes that a pass of `_write` takes come to its end (`writePass_wrote`); a transmission leaves it
  alone, and what leaves is its front (`transmit_spec`); an acknowledgement drops its first block
  (`uipAcknowledged_spec`).  `TcpStream` is about runs of these steps, and does not mention blocks
  any more.
-/

import GatewayLoRa.PacketMemory

namespace GatewayLoRa

open Regions MemPool Enc28j60Eth

/-- `UIP_SOCKET_NUMPACKETS`. -/
def UIP_SOCKET_NUMPACKETS : Nat := 5

/-- `UIP_SOCKET_DATALEN`, which is `UIP_TCP_MSS`: the size of an empty block for `_write`. -/
def UIP_SOCKET_DATALEN : Nat := 512

/-- `uip_appdata - uip_buf`: the Ethernet header, the IP header and the TCP header. -/
def UIP_HEADERLEN : Nat := 14 + 40

/-- What uIP keeps of a connection for the data that it sends. -/
structure UipConn where
  /-- The length of the data that is not acknowledged. -/
  len : Nat
  /-- The sequence number that is sent next. -/
  snd_nxt : Nat
  mss : Nat
  -- the window of the peer decides over the first, the connection request over the second
  initialmss : Nat
  deriving DecidableEq

/-- A connection, with the packet memory. -/
structure TcpClient where
  chip : Enc28j60Eth
  packets_out : List Nat
  out_pos : Nat
  conn : UipConn

/-- The part of a frame that the peer takes for TCP data, and its sequence number. -/
abbrev Segment := Nat × List UInt8

namespace TcpClient

/-! ## `_write`

  The source's loop is made of `goto`s.  A pass from `repeat:` fills the block that was begun; from
  `newpacket:` on it asks for blocks one after the other, until the bytes end, the blocks end or the
  pool has none.  `writeInRam` follows the same path and says of each request that it finds its
  blocks inside the RAM, which is what the functions of the pool owe to their proofs. -/

/-- A handle of `packets_out`. -/
def out (t : TcpClient) (i : Nat) : Nat := t.packets_out.getD i NOBLOCK

/-- `_currentBlock`: the block before the first empty handle, and the last one if there is none.
    The loop of the source begins at 1, so it is block 0 also where nothing is held. -/
def currentBlock (block : List Nat) : Nat :=
  match (List.range' 1 (UIP_SOCKET_NUMPACKETS - 1)).find? fun i => block.getD i NOBLOCK == NOBLOCK with
  | some i => i - 1
  | none => UIP_SOCKET_NUMPACKETS - 1

/-- What fits of the bytes goes into the block `p`; the bytes that remain.  `writePacket` takes their
    number as a `uint16_t`. -/
def putBytes (t : TcpClient) (p : Nat) (buf : List UInt8) : TcpClient × List UInt8 :=
  let w := t.chip.writePacket (t.out p) t.out_pos (buf.take (buf.length % 65536))
  ({ t with chip := w.1, out_pos := t.out_pos + w.2 }, buf.drop w.2)

/-- `_write` from `newpacket:` on, at the block `p`, up to `ready:` or the next `goto repeat`. -/
def newpacket : Nat → TcpClient → Nat → List UInt8 → Option (TcpClient × List UInt8)
  | 0, t, _, buf => some (t, buf)
  | fuel + 1, t, p, buf =>
    (t.chip.allocBlock UIP_SOCKET_DATALEN).bind fun r =>
      let t := { t with chip := r.1, packets_out := t.packets_out.set p r.2 }
      -- without a block the pass ends; what was not written is written in the next one
      if r.2 = NOBLOCK then some (t, buf)
      else
        let w := putBytes { t with out_pos := 0 } p buf
        if w.2 = [] ∨ p = UIP_SOCKET_NUMPACKETS - 1 then some w
        else newpacket fuel w.1 (p + 1) w.2

/-- No block that `newpacket` finds when it asks for one lies over the end of the RAM. -/
def newpacketInRam : Nat → TcpClient → Nat → List UInt8 → Bool
  | 0, _, _, _ => true
  | fuel + 1, t, p, buf =>
    decide t.chip.InRam &&
      match t.chip.allocBlock UIP_SOCKET_DATALEN with
      | none => true
      | some r =>
        let w := putBytes
          { t with chip := r.1, packets_out := t.packets_out.set p r.2, out_pos := 0 } p buf
        if r.2 = NOBLOCK ∨ w.2 = [] ∨ p = UIP_SOCKET_NUMPACKETS - 1 then true
        else newpacketInRam fuel w.1 (p + 1) w.2

/-- **`_write` from `repeat:` on**, up to `ready:` or the next `goto repeat`: the bytes that remain. -/
def writePass (t : TcpClient) (buf : List UInt8) : Option (TcpClient × List UInt8) :=
  let p := currentBlock t.packets_out
  if t.out p = NOBLOCK then newpacket UIP_SOCKET_NUMPACKETS t p buf
  else
    let w := t.putBytes p buf
    if w.2 = [] ∨ p = UIP_SOCKET_NUMPACKETS - 1 then some w
    else newpacket UIP_SOCKET_NUMPACKETS w.1 (p + 1) w.2

/-- The same for `writePass`. -/
def writeInRam (t : TcpClient) (buf : List UInt8) : Bool :=
  let p := currentBlock t.packets_out
  if t.out p = NOBLOCK then newpacketInRam UIP_SOCKET_NUMPACKETS t p buf
  else
    let w := t.putBytes p buf
    if w.2 = [] ∨ p = UIP_SOCKET_NUMPACKETS - 1 then true
    else newpacketInRam UIP_SOCKET_NUMPACKETS w.1 (p + 1) w.2

/-! ## `uipclient_appcall`, `uip_process` and `network_send`

  The data are not sent from the block that holds them.  They are copied behind 54 bytes of headers
  into a block of their own, which lives until `network_send` has sent it.  Where the pool has no
  such block, the application has called `uip_send` all the same, and `network_send` finds
  `uipPacket = NOBLOCK` and falls back on `uip_buf`. -/

/-- What `uipclient_appcall` finds to send: the bytes of the first block, all of them if another
    block stands behind it. -/
def sendLen (t : TcpClient) : Nat :=
  if t.out 0 = NOBLOCK then 0
  else if t.out 1 = NOBLOCK then t.out_pos
  else t.chip.blockSize (t.out 0)

/-- The first block is cut to what was written to it, when it is the last one as well. -/
def cutFirst (t : TcpClient) : TcpClient :=
  if t.out 1 = NOBLOCK then
    { t with chip := { t.chip with blocks := resizeBlock t.chip.blocks (t.out 0) 0 t.sendLen } }
  else t

/-- `uipclient_appcall` where uIP polls the application or wants the data again: `send_len`, and
    `uipPacket`, a block with the data behind the room for the headers. -/
def appcallSend (t : TcpClient) : Option (TcpClient × Nat × Nat) :=
  let send_len := t.sendLen
  if send_len = 0 then some (t, 0, NOBLOCK)
  else
    let t := t.cutFirst
    (t.chip.allocBlock (UIP_HEADERLEN + send_len)).bind fun r =>
      -- `uip_send` is called with the length before the block is asked for
      if r.2 = NOBLOCK then some ({ t with chip := r.1 }, send_len, NOBLOCK)
      else (r.1.copyPacket r.2 UIP_HEADERLEN (t.out 0) 0 send_len).map fun chip =>
        ({ t with chip := chip }, send_len, r.2)

/-- The blocks lie in the RAM when `uipclient_appcall` asks for a block, and the new one too. -/
def sendInRam (t : TcpClient) : Bool :=
  if t.sendLen = 0 then true
  else decide t.chip.InRam &&
    match t.cutFirst.chip.allocBlock (UIP_HEADERLEN + t.sendLen) with
    | none => true
    | some r => decide r.1.InRam

/-- `uip_process` at `appsend:` with `uip_slen`: what is not acknowledged from now on.  (At
    `apprexmit:` there is something already, and it stays.) -/
def appsend (conn : UipConn) (uip_slen : Nat) : UipConn :=
  if uip_slen > 0 ∧ conn.len = 0 then { conn with len := min uip_slen conn.mss } else conn

/-- `_eatBlock`. -/
def eatBlock (t : TcpClient) : Option TcpClient :=
  (t.chip.freeBlock (t.out 0)).map fun chip =>
    { t with chip := chip, packets_out := t.packets_out.tail ++ [NOBLOCK] }

/-- `network_send`: the frame that leaves.  When the application has put its data into a block, the
    headers are written before it; else `uip_buf` is sent as it is, `uip_len` bytes of it. -/
def networkSend (t : TcpClient) (uipPacket : Nat) (uip_buf : List UInt8) (uip_len : Nat) :
    Option (TcpClient × Option (List UInt8)) :=
  if uipPacket ≠ NOBLOCK then
    let chip := (t.chip.writePacket uipPacket 0 (uip_buf.take UIP_HEADERLEN)).1
    (chip.freeBlock uipPacket).map fun chip' =>
      ({ t with chip := chip' }, some (bytes chip.ram (region chip.blocks uipPacket)))
  -- the branch of a frame without application data, which an application without a block takes as
  -- well
  else
    (t.chip.allocBlock uip_len).bind fun r =>
      if r.2 = NOBLOCK then some ({ t with chip := r.1 }, none)
      else
        let chip := (r.1.writePacket r.2 0 (uip_buf.take uip_len)).1
        (chip.freeBlock r.2).map fun chip' =>
          ({ t with chip := chip' }, some (bytes chip.ram (region chip.blocks r.2)))

/-- **`uip_process` on a poll or a timeout**, and the frame it leads to.  The IP header says
    `conn.len` bytes of data, so the peer takes that many bytes behind the headers for the data.
    `uip_buf` is what that buffer holds when the frame leaves. -/
def transmit (t : TcpClient) (uip_buf : List UInt8) : Option (TcpClient × Option Segment) :=
  t.appcallSend.bind fun r =>
    let t := { r.1 with conn := appsend r.1.conn r.2.1 }
    if r.2.1 > 0 ∧ t.conn.len > 0 then
      (t.networkSend r.2.2 uip_buf (t.conn.len + UIP_HEADERLEN)).map fun s =>
        (s.1, s.2.map fun frame => (t.conn.snd_nxt, (frame.drop UIP_HEADERLEN).take t.conn.len))
    else some (t, none)

/-- **`uip_process` on a segment of the peer without data**, in the state ESTABLISHED. -/
def uipAcknowledged (t : TcpClient) (ackno wnd : Nat) : Option TcpClient :=
  let acked := t.conn.len ≠ 0 ∧ ackno = (t.conn.snd_nxt + t.conn.len) % 2 ^ 32
  let mss := if wnd > t.conn.initialmss ∨ wnd = 0 then t.conn.initialmss else wnd
  if acked then
    { t with conn := { t.conn with snd_nxt := ackno, len := 0, mss := mss } }.eatBlock
  else some { t with conn := { t.conn with mss := mss } }

/-! ## What the blocks hold for the peer

  The queue that the blocks stand for, and the invariant that makes it readable.  `contents` is the
  partial map from handles to buffers that `PacketMemory` proves the pool to be. -/

variable {t t' : TcpClient} {hs full : List Nat} {h k : Nat} {buf : List UInt8}

/-- What a block holds. -/
def buffer (t : TcpClient) (h : Nat) : List UInt8 := (t.chip.contents h).getD []

/-- What the blocks hold: all of each but the last, and of the last what was written to it. -/
def heldBy (buffer : Nat → List UInt8) (out_pos : Nat) : List Nat → List UInt8
  | [] => []
  | [h] => (buffer h).take out_pos
  | h :: k :: hs => buffer h ++ heldBy buffer out_pos (k :: hs)

/-- **What the blocks hold for the peer.** -/
def held (t : TcpClient) (hs : List Nat) : List UInt8 := heldBy t.buffer t.out_pos hs

/-- **The blocks of `packets_out` are `hs`**, and each has a buffer of its own. -/
structure Ready (t : TcpClient) (hs : List Nat) : Prop where
  layout : ∃ handles, Layout t.chip.blocks handles
  out : t.packets_out = hs ++ List.replicate (UIP_SOCKET_NUMPACKETS - hs.length) NOBLOCK
  length : hs.length ≤ UIP_SOCKET_NUMPACKETS
  nodup : hs.Nodup
  filled : ∀ h ∈ hs, ∃ b, t.chip.contents h = some b ∧ b.length ≤ UIP_SOCKET_DATALEN
  pos : ∀ h, hs.getLast? = some h → t.out_pos ≤ (t.buffer h).length

/-- The blocks before the last are held whole. -/
theorem heldBy_concat {f : Nat → List UInt8} {n : Nat} :
    heldBy f n (full ++ [h]) = full.flatMap f ++ (f h).take n := by
  induction full with
  | nil => rfl
  | cons a full ih =>
    rw [List.flatMap_cons, List.append_assoc, ← ih]
    cases full <;> rfl

/-- What is held depends on the buffers of the blocks only. -/
theorem heldBy_congr {f g : Nat → List UInt8} {n : Nat} (hfg : ∀ h ∈ hs, g h = f h) :
    heldBy g n hs = heldBy f n hs := by
  rcases List.eq_nil_or_concat hs with rfl | ⟨full, h, rfl⟩
  · rfl
  · rw [List.concat_eq_append] at hfg ⊢
    rw [heldBy_concat, heldBy_concat, hfg h (by simp)]
    congr 1
    exact List.flatMap_congr fun a ha => hfg a (List.mem_append_left _ ha)

/-- Row 0 of the table is not a block. -/
theorem contents_noblock (c : Enc28j60Eth) : c.contents NOBLOCK = none :=
  if_neg fun hin => absurd hin.1.1 (by decide)

/-- So no block of the list is `NOBLOCK`, which is how the source sees the end of the list. -/
theorem Ready.ne_noblock (hr : Ready t hs) (hh : h ∈ hs) : h ≠ NOBLOCK := by
  rintro rfl
  obtain ⟨b, hb, -⟩ := hr.filled NOBLOCK hh
  rw [contents_noblock] at hb
  cases hb

/-- A block of the list has a buffer, -/
theorem Ready.contents_eq (hr : Ready t hs) (hh : h ∈ hs) :
    t.chip.contents h = some (t.buffer h) := by
  obtain ⟨b, hb, -⟩ := hr.filled h hh
  unfold buffer
  rw [hb]
  rfl

/-- A buffer is a row of the table, and is as long as that says. -/
theorem length_contents {c : Enc28j60Eth} {b : List UInt8} (hb : c.contents h = some b) :
    IsRow h ∧ (c.blocks h).size = b.length ∧ (c.blocks h).size ≠ 0 := by
  unfold contents at hb
  split at hb
  case isTrue hin =>
    obtain rfl := Option.some.inj hb
    exact ⟨hin.1, (length_bytes (r := region c.blocks h) (m := c.ram)).symm, hin.2⟩
  case isFalse => cases hb

/-- `packets_out[i]` is the block `i` of the list, or `NOBLOCK`. -/
theorem Ready.out_eq (hr : Ready t hs) (i : Nat) : t.out i = hs.getD i NOBLOCK := by
  unfold TcpClient.out
  rw [hr.out]
  by_cases hi : i < hs.length
  · rw [List.getD_append _ _ _ _ hi]
  · rw [List.getD_append_right _ _ _ _ (by omega), List.getD_eq_default hs _ (by omega)]
    by_cases hj : i - hs.length < UIP_SOCKET_NUMPACKETS - hs.length
    · rw [List.getD_eq_getElem _ _ (by rwa [List.length_replicate]), List.getElem_replicate]
    · rw [List.getD_eq_default _ _ (by rw [List.length_replicate]; omega)]

/-- **The frame lemma**: a step that does not touch the blocks of the list leaves what they hold,
    and the invariant.  Each call of the pool for a block of another kind is one of these. -/
theorem Ready.frame (hr : Ready t hs) (t' : TcpClient)
    (hl : ∃ handles, Layout t'.chip.blocks handles) (hout : t'.packets_out = t.packets_out)
    (hpos : t'.out_pos = t.out_pos) (hcontents : ∀ h ∈ hs, t'.chip.contents h = t.chip.contents h) :
    Ready t' hs ∧ t'.held hs = t.held hs ∧ ∀ h ∈ hs, t'.buffer h = t.buffer h := by
  have hbuffer : ∀ h ∈ hs, t'.buffer h = t.buffer h := by
    intro h hh
    unfold buffer
    rw [hcontents h hh]
  refine ⟨⟨hl, hout.trans hr.out, hr.length, hr.nodup, fun h hh => ?_, fun h hh => ?_⟩, ?_, hbuffer⟩
  · rw [hcontents h hh]
    exact hr.filled h hh
  · rw [hpos, hbuffer h (List.mem_of_getLast? hh)]
    exact hr.pos h hh
  · unfold held
    rw [hpos, heldBy_congr hbuffer]

/-! ## What `_write` does to it

  `Wrote` says in one structure what a part of `_write` may have done, and its parts are put
  together by `Wrote.trans`.  `Full` is what allows another block: only then is the block before it
  held whole, as a block with a successor is. -/

/-- What a part of `_write` has done: `written` of the bytes are held, behind what was held. -/
structure Wrote (t t' : TcpClient) (hs hs' : List Nat) (written : List UInt8) : Prop where
  ready : Ready t' hs'
  held : t'.held hs' = t.held hs ++ written
  conn : t'.conn = t.conn
  more : hs <+: hs'
  pos : hs' = hs → t.out_pos ≤ t'.out_pos
  lengths : ∀ h ∈ hs, (t'.buffer h).length = (t.buffer h).length

/-- One part of `_write` after another. -/
theorem Wrote.trans {t'' : TcpClient} {hs' hs'' : List Nat} {written written' : List UInt8}
    (h : Wrote t t' hs hs' written) (h' : Wrote t' t'' hs' hs'' written') :
    Wrote t t'' hs hs'' (written ++ written') := by
  refine ⟨h'.ready, ?_, h'.conn.trans h.conn, h.more.trans h'.more, fun heq => ?_, fun k hk => ?_⟩
  · rw [h'.held, h.held, List.append_assoc]
  -- the list only grows, so where it is the same at the end it was the same in between
  · have hhs : hs' = hs := by
      have hle := h'.more.length_le
      rw [heq] at hle
      exact (h.more.eq_of_length (Nat.le_antisymm h.more.length_le hle)).symm
    exact Nat.le_trans (h.pos hhs) (h'.pos (heq.trans hhs.symm))
  · rw [h'.lengths k (h.more.subset hk), h.lengths k hk]

variable {tl : List Nat}

/-- **The first block may leave as it is**: `n` bytes, and nothing more is written to it. -/
def Closed (t : TcpClient) (hs : List Nat) (n : Nat) : Prop :=
  ∃ h tl, hs = h :: tl ∧ (t.buffer h).length = n ∧ (tl = [] → t.out_pos = n)

/-- A step that does not touch the blocks keeps the first one closed. -/
theorem Closed.frame {n : Nat} (hc : Closed t hs n) (hpos : t'.out_pos = t.out_pos)
    (hbuffer : ∀ h ∈ hs, t'.buffer h = t.buffer h) : Closed t' hs n := by
  obtain ⟨h, tl, rfl, hlen, hlast⟩ := hc
  refine ⟨h, tl, rfl, ?_, fun htl => hpos.trans (hlast htl)⟩
  rw [hbuffer h (List.mem_cons_self ..), hlen]

/-- `blockSize` is the length of the buffer. -/
theorem blockSize_eq {c : Enc28j60Eth} {b : List UInt8} (hb : c.contents h = some b) :
    c.blockSize h = b.length := by
  obtain ⟨hrow, hsize, -⟩ := length_contents hb
  have hne : h ≠ NOBLOCK := Nat.ne_of_gt hrow.1
  unfold Enc28j60Eth.blockSize
  rw [if_neg hne, hsize]

/-- What the application finds to send is the first block, once that is closed. -/
theorem Closed.sendLen {n : Nat} (hr : Ready t hs) (hc : Closed t hs n) : t.sendLen = n := by
  obtain ⟨h, tl, rfl, hlen, hpos⟩ := hc
  have hfirst : t.out 0 = h := hr.out_eq 0
  have hsecond : t.out 1 = tl.headD NOBLOCK := by
    rw [hr.out_eq]
    cases tl <;> rfl
  unfold TcpClient.sendLen
  rw [hfirst, hsecond, if_neg (hr.ne_noblock (List.mem_cons_self ..))]
  cases tl with
  | nil =>
    rw [List.headD_nil, if_pos rfl]
    exact hpos rfl
  | cons k tl =>
    rw [List.headD_cons, if_neg (hr.ne_noblock (by simp)),
      blockSize_eq (hr.contents_eq (List.mem_cons_self ..)), hlen]

end TcpClient

end GatewayLoRa
