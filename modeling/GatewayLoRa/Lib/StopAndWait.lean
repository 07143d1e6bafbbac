/-
  A stream sent STOP-AND-WAIT over a network that loses, repeats and reorders.

  The sender has at most one segment in flight; it numbers it with the count of the bytes before it,
  modulo `M`, and goes on when the number behind it comes back.  The receiver takes from a segment
  the bytes that come next for it, as many as it has room for, and answers with the number of the
  byte that it waits for.  The network is the list of everything ever sent: a delivery picks any
  member of it, so it may lose, repeat and reorder.

  `Sound` is the invariant, and `Step.sound` its step lemma: what was received is a begin of what
  was accepted, provided that fewer than `M` bytes are accepted in all.  (With more, a segment of
  long ago could be taken for a new one.)

  The crux is the numbering.  Every segment and every answer carries its position only modulo `M`,
  and the network keeps all of them for ever, so each one that is delivered has to be identified.
  `Sound` says of each what position it stands for: a segment is a slice of what was accepted, from
  a position that is at most behind what is in flight, and an answer is a position that the receiver
  has reached.  As long as the whole stream is shorter than `M`, a position below `M` is determined
  by its number (`seq_inj`), and a segment that is ahead of the receiver would have to be longer
  than the stream (`offset_seq`, `take_prefix`).

  The receiver's capacity and the sender's choice of a length are free in every step, so the sender
  may be told of any window and segment size.
-/

import Mathlib.Data.Nat.ModEq
import Mathlib.Data.List.TakeDrop
import Mathlib.Data.List.Infix

namespace StopAndWait

variable {β : Type}

/-- The sender, the receiver and the network between them.

    `accepted` and `received` are histories, kept to state what the two sides owe each other; the
    sender itself knows `acked` and `flight` only. -/
structure Link (β : Type) where
  /-- Everything the sender has accepted. -/
  accepted : List β
  /-- How many bytes the sender knows to have arrived. -/
  acked : Nat
  /-- How many bytes are in flight. -/
  flight : Nat
  /-- Everything the receiver has taken. -/
  received : List β
  /-- The segments ever sent, each with its number. -/
  segments : List (Nat × List β)
  /-- The answers ever sent. -/
  acks : List Nat

/-- The number of the byte `n`. -/
def seq (M iss n : Nat) : Nat := (iss + n) % M

/-- The bytes `n` to `n + k` of a stream. -/
def slice (l : List β) (n k : Nat) : List β := (l.drop n).take k

/-- How far the receiver is into a segment with the number `s`: the distance from that number to the
    one it waits for, modulo `M`.  A segment that lies ahead looks as if the receiver were nearly
    `M` bytes into it. -/
def offset (M iss : Nat) (received : List β) (s : Nat) : Nat :=
  (iss + received.length + (M - s)) % M

/-- What the receiver has after a segment of which it takes at most `k` bytes. -/
def take (M iss : Nat) (received : List β) (segment : Nat × List β) (k : Nat) : List β :=
  if offset M iss received segment.1 < segment.2.length then
    received ++ (segment.2.drop (offset M iss received segment.1)).take k
  else received

/-- **What the two sides and the network do.**

    There is no step for a loss: a segment that is never delivered is lost.  `choose` is the one
    loss that the sender takes part in, where the frame was not even handed to the network and the
    bytes count as in flight all the same. -/
inductive Step (M iss : Nat) : Link β → Link β → Prop
  /-- The sender accepts bytes. -/
  | accept (l : Link β) (data : List β) (h : l.accepted.length + data.length < M) :
      Step M iss l { l with accepted := l.accepted ++ data }
  /-- It sends the next bytes, when none are in flight. -/
  | send (l : Link β) (k : Nat) (h : l.flight = 0) (hk : l.acked + k ≤ l.accepted.length) :
      Step M iss l { l with
        flight := k
        segments := l.segments ++ [(seq M iss l.acked, slice l.accepted l.acked k)] }
  /-- It chooses the next bytes, and their segment is lost before it is sent. -/
  | choose (l : Link β) (k : Nat) (h : l.flight = 0) (hk : l.acked + k ≤ l.accepted.length) :
      Step M iss l { l with flight := k }
  /-- It sends the bytes in flight again. -/
  | resend (l : Link β) :
      Step M iss l { l with
        segments := l.segments ++ [(seq M iss l.acked, slice l.accepted l.acked l.flight)] }
  /-- The receiver takes from a segment, and answers. -/
  | deliver (l : Link β) (segment : Nat × List β) (k : Nat) (h : segment ∈ l.segments) :
      Step M iss l { l with
        received := take M iss l.received segment k
        acks := l.acks ++ [seq M iss (take M iss l.received segment k).length] }
  /-- The sender sees the number behind the bytes in flight. -/
  | acknowledge (l : Link β) (h : seq M iss (l.acked + l.flight) ∈ l.acks) :
      Step M iss l { l with acked := l.acked + l.flight, flight := 0 }

/-- **The stream is in order**: what was received is a begin of what was accepted, and lies between
    what the sender knows to have arrived and what it has sent.  The last two fields say what every
    segment and every answer in the network stands for. -/
structure Sound (M iss : Nat) (l : Link β) : Prop where
  short : l.accepted.length < M
  inFlight : l.acked + l.flight ≤ l.accepted.length
  prefixed : l.received <+: l.accepted
  acked_le : l.acked ≤ l.received.length
  received_le : l.received.length ≤ l.acked + l.flight
  segments : ∀ segment ∈ l.segments, ∃ n, segment.1 = seq M iss n ∧
    segment.2 = slice l.accepted n segment.2.length ∧ n + segment.2.length ≤ l.acked + l.flight
  acks : ∀ a ∈ l.acks, ∃ n, a = seq M iss n ∧ n ≤ l.received.length

variable {M iss : Nat} {l l' : Link β}

/-- Two positions below `M` with the same number are the same. -/
theorem seq_inj {m n : Nat} (hm : m < M) (hn : n < M) (h : seq M iss m = seq M iss n) : m = n := by
  have hmod : m % M = n % M := Nat.ModEq.add_left_cancel' iss h
  rwa [Nat.mod_eq_of_lt hm, Nat.mod_eq_of_lt hn] at hmod

/-- A slice that lies inside has the length that was asked for, -/
theorem length_slice {s : List β} {n k : Nat} (h : n + k ≤ s.length) :
    (slice s n k).length = k := by
  unfold slice
  rw [List.length_take, List.length_drop]
  omega

/-- and does not change when the stream goes on. -/
theorem slice_append {s t : List β} {n k : Nat} (h : n + k ≤ s.length) :
    slice (s ++ t) n k = slice s n k := by
  unfold slice
  rw [List.drop_append_of_le_length (by omega), List.take_append_of_le_length]
  rw [List.length_drop]
  omega

/-- The distance from the number of a segment to the byte that is waited for, as the receiver
    computes it. -/
theorem offset_seq (iss : Nat) {received : List β} {n : Nat} (hM : received.length < M) (hn : n < M) :
    (n ≤ received.length → offset M iss received (seq M iss n) = received.length - n) ∧
      (received.length < n → offset M iss received (seq M iss n) + n = received.length + M) := by
  have hpos : 0 < M := Nat.zero_lt_of_lt hn
  have hseq : seq M iss n < M := Nat.mod_lt _ hpos
  have hdiv : iss + n = M * ((iss + n) / M) + seq M iss n := (Nat.div_add_mod _ _).symm
  have hzero : ∀ x q : Nat, (x + M * q) % M = x % M := fun x q => Nat.add_mul_mod_self_left x M q
  have hsum : offset M iss received (seq M iss n) =
      (received.length + M - n) % M := by
    unfold offset
    rw [← hzero (received.length + M - n) ((iss + n) / M)]
    congr 1
    omega
  rw [hsum]
  constructor
  · intro hle
    rw [show received.length + M - n = (received.length - n) + M by omega, Nat.add_mod_right]
    exact Nat.mod_eq_of_lt (by omega)
  · intro hlt
    rw [Nat.mod_eq_of_lt (by omega)]
    omega

/-- **What the receiver takes comes next in the stream.** -/
theorem take_prefix (iss k : Nat) {s received data : List β} {n : Nat} (hM : s.length < M)
    (hreceived : received <+: s) (hdata : data = slice s n data.length)
    (hn : n + data.length ≤ s.length) :
    take M iss received (seq M iss n, data) k <+: s ∧
      received.length ≤ (take M iss received (seq M iss n, data) k).length ∧
      ((take M iss received (seq M iss n, data) k).length = received.length ∨
        (take M iss received (seq M iss n, data) k).length ≤ n + data.length) := by
  have hlen := hreceived.length_le
  obtain ⟨hbehind, hahead⟩ := offset_seq iss (Nat.lt_of_le_of_lt hlen hM)
    (by omega : n < M)
  unfold take
  simp only
  split
  case isFalse => exact ⟨hreceived, Nat.le_refl _, Or.inl rfl⟩
  case isTrue hlt =>
    -- a segment ahead of the receiver would have to be longer than the whole stream
    have hle : n ≤ received.length := by
      by_contra hgt
      have hsum := hahead (by omega)
      omega
    rw [hbehind hle] at hlt ⊢
    obtain ⟨t, rfl⟩ := hreceived
    have hnext : data.drop (received.length - n) =
        t.take (n + data.length - received.length) := by
      rw [hdata]
      unfold slice
      rw [List.length_take, List.length_drop, List.drop_take, List.drop_drop,
        show n + (received.length - n) = received.length by omega, List.drop_left]
      congr 1
      omega
    rw [hnext, List.take_take]
    refine ⟨?_, ?_, Or.inr ?_⟩
    · rw [List.prefix_append_right_inj]
      exact List.take_prefix ..
    · rw [List.length_append]
      exact Nat.le_add_right ..
    · rw [List.length_append, List.length_take]
      omega

/-- **Every step keeps the stream in order.** -/
theorem Step.sound (hstep : Step M iss l l') (h : Sound M iss l) : Sound M iss l' := by
  obtain ⟨hshort, hflight, hprefix, hacked, hreceived, hsegments, hacks⟩ := h
  -- one case for each step: which of the seven fields it touches
  cases hstep with
  | accept data hlen =>
    refine ⟨?_, ?_, hprefix.trans (List.prefix_append ..), hacked, hreceived, ?_, hacks⟩
    · show (l.accepted ++ data).length < M
      rwa [List.length_append]
    · show l.acked + l.flight ≤ (l.accepted ++ data).length
      rw [List.length_append]
      omega
    · intro segment hsegment
      obtain ⟨n, hseq, hdata, hn⟩ := hsegments segment hsegment
      refine ⟨n, hseq, ?_, hn⟩
      show segment.2 = slice (l.accepted ++ data) n segment.2.length
      rwa [slice_append (by omega)]
  | send k hzero hk =>
    refine ⟨hshort, hk, hprefix, hacked, ?_, ?_, hacks⟩
    · show l.received.length ≤ l.acked + k
      omega
    · intro segment hsegment
      rcases List.mem_append.mp hsegment with hsegment | hsegment
      · obtain ⟨n, hseq, hdata, hn⟩ := hsegments segment hsegment
        refine ⟨n, hseq, hdata, ?_⟩
        show n + segment.2.length ≤ l.acked + k
        omega
      · obtain rfl := List.mem_singleton.mp hsegment
        refine ⟨l.acked, rfl, ?_, ?_⟩
        · show slice l.accepted l.acked k = slice l.accepted l.acked _
          rw [length_slice hk]
        · show l.acked + (slice l.accepted l.acked k).length ≤ l.acked + k
          rw [length_slice hk]
  | choose k hzero hk =>
    refine ⟨hshort, hk, hprefix, hacked, ?_, ?_, hacks⟩
    · show l.received.length ≤ l.acked + k
      omega
    · intro segment hsegment
      obtain ⟨n, hseq, hdata, hn⟩ := hsegments segment hsegment
      refine ⟨n, hseq, hdata, ?_⟩
      show n + segment.2.length ≤ l.acked + k
      omega
  | resend =>
    refine ⟨hshort, hflight, hprefix, hacked, hreceived, ?_, hacks⟩
    intro segment hsegment
    rcases List.mem_append.mp hsegment with hsegment | hsegment
    · exact hsegments segment hsegment
    · obtain rfl := List.mem_singleton.mp hsegment
      refine ⟨l.acked, rfl, ?_, ?_⟩
      · show slice l.accepted l.acked l.flight = slice l.accepted l.acked _
        rw [length_slice hflight]
      · show l.acked + (slice l.accepted l.acked l.flight).length ≤ l.acked + l.flight
        rw [length_slice hflight]
  | deliver segment k hsegment =>
    obtain ⟨n, hseq, hdata, hn⟩ := hsegments segment hsegment
    -- what is taken comes next in the stream, whichever segment the network has picked
    obtain ⟨hprefix', hle, hlength⟩ := take_prefix iss k hshort hprefix hdata
      (by omega)
    have hpair : (seq M iss n, segment.2) = segment := by rw [← hseq]
    rw [hpair] at hprefix' hle hlength
    refine ⟨hshort, hflight, hprefix', ?_, ?_, hsegments, ?_⟩
    · show l.acked ≤ (take M iss l.received segment k).length
      omega
    · show (take M iss l.received segment k).length ≤ l.acked + l.flight
      omega
    · intro a ha
      rcases List.mem_append.mp ha with ha | ha
      · obtain ⟨m, hm, hmle⟩ := hacks a ha
        exact ⟨m, hm, Nat.le_trans hmle hle⟩
      · exact ⟨_, List.mem_singleton.mp ha, Nat.le_refl _⟩
  | acknowledge hack =>
    obtain ⟨n, hn, hnle⟩ := hacks _ hack
    -- both numbers are below `M`: the one that came back is the one behind the flight
    have heq : l.acked + l.flight = n := seq_inj (by omega) (by omega) hn
    refine ⟨hshort, hflight, hprefix, ?_, ?_, hsegments, hacks⟩
    · show l.acked + l.flight ≤ l.received.length
      omega
    · show l.received.length ≤ l.acked + l.flight + 0
      omega

end StopAndWait
