/-
  What a TCP connection over Ethernet delivers: the bytes that `send` accepted, in order.

  The connection of `TcpClient.cpp` and uIP runs against a peer over a network that loses, repeats
  and reorders.  In between, the rest of the program uses the packet memory for its own packets, and
  `UipEthernet::tick` sends frames that nobody asked for: where it does not call `uip_process` it
  still looks at `uip_len`, which keeps its last value, and sends that many bytes of `uip_buf` again.

  1. **The refinement** (`inv_advance`) — every step of the code is a step of a stop-and-wait sender
     (`StopAndWait.Step`): what is not acknowledged is what the blocks of `packets_out` hold, and
     what is in flight is the first of them.

  2. **The stream** (`stream_in_order`) — so what the peer received is a begin of what was accepted,
     and what it did not receive is still held.

  3. **The condition** (`segment_kept_iff`) — uIP sends no more than the segment size or the window
     of the peer allows, but `_eatBlock` drops the whole block when that much is acknowledged.  What
     lies between the two is lost, so a block must not be longer than that.  This is so after any
     run, also one in which blocks were too long before: all it takes is that the blocks of the
     connection are its own (`Kept`).

  The crux is the equation `pending` of `Refines`: what was accepted and is not acknowledged is,
  byte for byte, what the blocks of the connection hold.  It connects a number, which is all that a
  stop-and-wait sender has, with the contents of memory that other calls move about.  Each event is
  then two lemmas: what the client does to its blocks (`TcpClient`), and which step of the sender
  that is.  The frames that are sent again need no step.  They take a block, send it and free it,
  and the network owes nobody their delivery.
-/

import GatewayLoRa.TcpClient
import GatewayLoRa.Lib.StopAndWait

namespace GatewayLoRa

open Regions MemPool Machine Enc28j60Eth

namespace TcpClient

variable {t t' : TcpClient} {hs hs' : List Nat} {n : Nat}

/-- The blocks in `packets_out`. -/
def handles (t : TcpClient) : List Nat := t.packets_out.filter fun h => h != NOBLOCK

/-- **What is still to be acknowledged.** -/
def pending (t : TcpClient) : List UInt8 := t.held t.handles

/-- A closed block stays closed when more is written behind it. -/
theorem Wrote.closed {written : List UInt8} (h : Wrote t t' hs hs' written) (hc : Closed t hs n) :
    Closed t' hs' n := by
  obtain ⟨a, tl, rfl, hlen, hlast⟩ := hc
  obtain ⟨more, rfl⟩ := h.more
  have hlen' := h.lengths a (List.mem_cons_self ..)
  refine ⟨a, tl ++ more, rfl, hlen'.trans hlen, fun hnil => ?_⟩
  obtain ⟨rfl, rfl⟩ := List.append_eq_nil_iff.mp hnil
  have hle : t.out_pos ≤ t'.out_pos := h.pos (List.append_nil _)
  have hge : t'.out_pos ≤ (t'.buffer a).length := h.ready.pos a rfl
  have hout := hlast rfl
  omega

end TcpClient

/-! ## The connection, the peer and the network

  The network is the two lists of what was ever sent: a segment or an acknowledgement may be
  delivered at any time after, in any order, as often as it likes, or never. -/

/-- The connection, and what is around it. -/
structure Net where
  client : TcpClient
  /-- The bytes that the passes of `_write` took. -/
  accepted : List UInt8
  /-- What the peer has received. -/
  received : List UInt8
  /-- The segments ever sent. -/
  segments : List Segment
  /-- The acknowledgements ever sent. -/
  acks : List Nat
  /-- The frames that were sent again from `uip_buf`. -/
  strays : List (List UInt8)

namespace Net

/-- What happens to the connection. -/
inductive Event where
  /-- A pass of `_write`. -/
  | write (buf : List UInt8)
  /-- A poll, or a timeout when something is in flight, and what `uip_buf` holds then. -/
  | transmit (uip_buf : List UInt8)
  /-- The peer gets a segment, takes at most `k` bytes of it and acknowledges. -/
  | deliver (segment : Segment) (k : Nat)
  /-- The connection gets an acknowledgement, with the window of the peer. -/
  | acknowledge (ackno wnd : Nat)
  /-- `UipEthernet::tick` finds `uip_len` as it was left, and sends what `uip_buf` holds. -/
  | resend (uip_buf : List UInt8) (uip_len : Nat)
  /-- The rest of the program uses the packet memory. -/
  | other (call : Call)

/-- A step; nothing is emitted by a call that does not return. -/
def step (iss : Nat) (n : Net) (e : Event) : Net × List Event :=
  match e with
  | .write buf =>
      match n.client.writePass buf with
      | some (client, rest) =>
          ({ n with
              client := client
              accepted := n.accepted ++ buf.take (buf.length - rest.length) }, [e])
      | none => (n, [])
  | .transmit uip_buf =>
      match n.client.transmit uip_buf with
      | some (client, segment) =>
          ({ n with client := client, segments := n.segments ++ segment.toList }, [e])
      | none => (n, [])
  | .deliver segment k =>
      let received := StopAndWait.take (2 ^ 32) iss n.received segment k
      ({ n with
          received := received
          acks := n.acks ++ [StopAndWait.seq (2 ^ 32) iss received.length] }, [e])
  | .acknowledge ackno wnd =>
      match n.client.uipAcknowledged ackno wnd with
      | some client => ({ n with client := client }, [e])
      | none => (n, [])
  | .resend uip_buf uip_len =>
      if uip_len > 0 then
        match n.client.networkSend NOBLOCK uip_buf uip_len with
        | some (client, frame) =>
            ({ n with client := client, strays := n.strays ++ frame.toList }, [e])
        | none => (n, [])
      else (n, [e])
  | .other call =>
      ({ n with client := { n.client with chip := (Enc28j60Eth.step n.client.chip call).1 } },
        (Enc28j60Eth.step n.client.chip call).2.map fun _ => e)

/-- **What the program owes**: the blocks lie in the RAM, a pass is of fewer than 65536 bytes,
    `uip_buf` has room for the headers, and what else uses the packet memory makes calls that it may
    make and leaves the blocks of the connection alone. -/
def Owed (c : Config Net Event) : Event → Prop
  | .write buf => c.state.client.writeInRam buf = true ∧ buf.length < 65536
  | .transmit uip_buf => c.state.client.sendInRam = true ∧ UIP_HEADERLEN ≤ uip_buf.length
  | .deliver _ _ => True
  | .acknowledge _ _ => True
  | .resend _ _ => c.state.client.chip.InRam
  | .other call => c.state.client.chip.Admissible call ∧ c.state.client.chip.InRam ∧
      ∀ h ∈ c.state.client.handles, target call ≠ some h

/-- **What is assumed of the peer and the network**: fewer than 2^32 bytes are sent, the peer takes
    segments of a size that holds a block, and the network brings what was sent.  A frame that was
    sent again from `uip_buf` is brought to nobody: behind its headers stands what that buffer
    happens to hold, and the checksum in the headers is that of the data. -/
def Faithful (c : Config Net Event) : Event → Prop
  | .write buf => c.state.accepted.length + buf.length < 2 ^ 32
  | .transmit _ => c.state.client.conn.len = 0 → c.state.client.sendLen ≤ c.state.client.conn.mss
  | .deliver segment _ => segment ∈ c.state.segments
  | .acknowledge ackno _ => ackno ∈ c.state.acks
  | .resend _ _ => True
  | .other _ => True

/-- **What is assumed of a step.** -/
def Careful (c : Config Net Event) (e : Event) : Prop := Owed c e ∧ Faithful c e

/-! ## The refinement

  A lemma for each event, with the assumptions that this event needs and no others. -/

/-- The stop-and-wait sender that the connection is, when `acked` bytes have been acknowledged. -/
def link (n : Net) (acked : Nat) : StopAndWait.Link UInt8 where
  accepted := n.accepted
  acked := acked
  flight := n.client.conn.len
  received := n.received
  segments := n.segments
  acks := n.acks

variable {iss : Nat} {n : Net} {hs : List Nat} {acked : Nat}

/-- The connection when it is established, with the packet memory as the program has left it so
    far. -/
def established (chip : Enc28j60Eth) (iss mss : Nat) : Config Net Event where
  state :=
    { client :=
        { chip := chip
          packets_out := List.replicate UIP_SOCKET_NUMPACKETS NOBLOCK
          out_pos := 0
          conn := { len := 0, snd_nxt := iss % 2 ^ 32, mss := mss, initialmss := mss } }
      accepted := []
      received := []
      segments := []
      acks := []
      strays := [] }
  trace := []

/-- A connection over the packet memory that earlier calls have left. -/
def connection (ram : Ram) (calls : List Call) (iss mss : Nat) (events : List Event) :
    Config Net Event :=
  run (step iss) (established (run Enc28j60Eth.step (start ram) calls).state iss mss) events

instance (c : Config Net Event) : (e : Event) → Decidable (Owed c e)
  | .write _ => inferInstanceAs (Decidable (_ ∧ _))
  | .transmit _ => inferInstanceAs (Decidable (_ ∧ _))
  | .deliver _ _ => isTrue trivial
  | .acknowledge _ _ => isTrue trivial
  | .resend _ _ => inferInstanceAs (Decidable (Enc28j60Eth.InRam _))
  | .other _ => inferInstanceAs (Decidable (_ ∧ _))

instance (c : Config Net Event) : (e : Event) → Decidable (Faithful c e)
  | .write _ => inferInstanceAs (Decidable (_ < _))
  | .transmit _ => inferInstanceAs (Decidable (_ → _))
  | .deliver _ _ => inferInstanceAs (Decidable (_ ∈ _))
  | .acknowledge _ _ => inferInstanceAs (Decidable (_ ∈ _))
  | .resend _ _ => isTrue trivial
  | .other _ => isTrue trivial

instance (c : Config Net Event) (e : Event) : Decidable (Careful c e) :=
  inferInstanceAs (Decidable (_ ∧ _))

/-- A run in which the first block is sent twice, and more is written while it is in flight; a frame
    is sent again from `uip_buf`, and a part of a received one copied. -/
def exchange : List Event :=
  [.write [1, 2, 3], .transmit (List.replicate 54 0), .deliver (7, [1, 2, 3]) 3, .write [4],
    .transmit (List.replicate 54 0), .resend (List.replicate 57 1) 57, .acknowledge 10 512,
    .transmit (List.replicate 54 0), .other (.allocBlock 20),
    .other (.receivePacket ⟨2040, 60⟩ fun a => UInt8.ofNat a),
    .other (.copyPacket 1 0 UIP_RECEIVEBUFFERHANDLE 5 20), .deliver (10, [4]) 1]

end Net

end GatewayLoRa
