/-
  `SendingAck::sendAcknowledgement`: one acknowledgement, three times on the air.

  The method is called on every `Gateway::update` while the gateway is in `SendingAck`, and does
  the next piece of the work: it waits for the back-off, formats the frame, sends the next chunk.
  Where it stands is kept in its statics, and whether a delay has passed is read from a
  `NonBlockingDelay`; the readings of the tick counter are an input (`Ticks`), so a statement about
  every input is one about every timer schedule.

  1. **The frame** (`AckFrame`) — what `prepareLoRaMessage` leaves of `<IMEI>,<number>,ACK`, and
     `||`.  It is at most 108 bytes long (`formatAck_spec`), so a single chunk carries it and
     the strict comparison that ends a copy is always met by the first chunk.

  2. **The invariant** (`InSession`) — the packets sent so far in a session are copies of one
     frame, as many as `numberOffAckSendings` counts.  It says nothing of `firstChunkSent`, which
     is not reset at the end of a session.

  3. **One call** (`sendAcknowledgement_spec`) — no access is out of bounds; the invariant is kept,
     or the third copy has just been sent and the statics are as a new session expects them.

  The crux is the strict comparison.  The source sends a message in chunks of 255 bytes and counts a
  copy when the index has passed the length; an index that equals the length would cost another
  chunk, an empty one.  A frame of an acknowledgement is shorter than a chunk, so the first chunk
  passes it, and one chunk is one copy.  That bound is a fact about the text (two numbers and three
  letters), about the blocks of the cipher and about base64, and it is what `formatAck_spec` proves.
-/

import GatewayLoRa.MessageHandler
import GatewayLoRa.WaitingForMessage

namespace GatewayLoRa

open CMemory

/-! ## The delay

  Ticks are 64 bits wide and are subtracted modulo their range, so a delay may also run over the end
  of the counter. -/

/-- `NonBlockingDelay`; the tick counter it reads is an argument of the methods. -/
structure NonBlockingDelay where
  duration : UInt64
  startTime : UInt64
  isRunning : Bool

namespace NonBlockingDelay

/-- `write`: another duration. -/
def write (d : NonBlockingDelay) (durationValue : UInt64) : NonBlockingDelay :=
  { d with duration := durationValue }

/-- `restart`: the delay begins at this tick. -/
def restart (d : NonBlockingDelay) (tickCounter : UInt64) : NonBlockingDelay :=
  { d with startTime := tickCounter, isRunning := true }

/-- Whether the time has arrived, and the delay after the question. -/
def read (d : NonBlockingDelay) (tickCounter : UInt64) : Bool × NonBlockingDelay :=
  if d.isRunning = false then (false, { d with startTime := tickCounter, isRunning := true })
  else if tickCounter - d.startTime ≥ d.duration then (true, { d with isRunning := false })
  else (false, d)

end NonBlockingDelay

namespace SendingAck

/-! ## One call

  The method cut at its three pieces of work.  The statics are a record; the constants are the
  source's. -/

/-- How long the gateway waits before it answers, -/
def backoffTimeMs : UInt64 := 100
/-- and how long a packet is in the air. -/
def flyTimeMs : UInt64 := 1000
/-- What the radio sends at once. -/
abbrev maxChunkSizeBytes : Nat := 255
/-- How many copies are sent. -/
abbrev maxAckSendTries : Nat := 3

/-- The statics of `sendAcknowledgement`.  `mem.message` is `buffer`; with it go the arrays of the
    handlers that `prepareLoRaMessage` hands it to. -/
structure Statics where
  mem : Mem messageBufferSize
  firstChunkSent : Bool
  firstDelayPassed : Bool
  messageFormatted : Bool
  firstEntryOnThisMethod : Bool
  stringIndex : Nat
  numberOffAckSendings : Nat

/-- The statics as the program starts. -/
def Statics.initial : Statics := ⟨Mem.holding _ [], false, false, false, true, 0, 0⟩

/-- The tick counter at each place of a call that reads it. -/
structure Ticks where
  entry : UInt64
  backoff : UInt64
  send : UInt64
  sent : UInt64
  copied : UInt64

/-- What a call leaves: the statics, the delay, the packets it gave to the radio, and whether it
    changed the state to `ConnectingEthernet`. -/
structure Step where
  statics : Statics
  backoffTime : NonBlockingDelay
  packets : List Bytes
  done : Bool

/-- `"%lld,%d,ACK"`. -/
def ackText (IdDevice : Int64) (messageNumber : Int32) : Bytes :=
  Stdio.intText IdDevice.toInt ++ ascii "," ++ Stdio.intText messageNumber.toInt ++ ascii ",ACK"

/-- The first entry sets the back-off; then its end is waited for. -/
def awaitBackoff (ticks : Ticks) (backoffTime : NonBlockingDelay) (st : Statics) :
    Bool × NonBlockingDelay × Statics :=
  let backoffTime :=
    if st.firstEntryOnThisMethod then (backoffTime.write backoffTimeMs).restart ticks.entry
    else backoffTime
  let st := { st with firstEntryOnThisMethod := false }
  if st.firstDelayPassed then (true, backoffTime, st)
  else
    let (passed, backoffTime) := backoffTime.read ticks.backoff
    (passed, backoffTime, { st with firstDelayPassed := passed })

/-- The acknowledgement is formatted into `buffer` and delimited. -/
def formatAck (P : Primitives) (IdDevice : Int64) (messageNumber : Int32) (st : Statics) :
    Checked (Bool × Statics) := do
  let message ← snprintf st.mem.message (ackText IdDevice messageNumber)
  let (prepared, mem) ← prepareLoRaMessage P { st.mem with message } (← strlen message)
  if prepared = false then .ok (false, { st with mem })
  else
    let originalLength ← strlen mem.message
    let message ← writeRange mem.message originalLength [bar, bar, 0]
    .ok (true, { st with mem := { mem with message }, messageFormatted := true })

/-- The next chunk of `buffer` is sent; the last chunk of the last copy ends the session. -/
def sendChunk (ticks : Ticks) (backoffTime : NonBlockingDelay) (st : Statics) : Checked Step := do
  let (arrived, backoffTime) := backoffTime.read ticks.send
  if arrived = false ∧ st.firstChunkSent = true then .ok ⟨st, backoffTime, [], false⟩
  else
    let st := { st with firstChunkSent := true }
    let backoffTime := (backoffTime.write flyTimeMs).restart ticks.sent
    let totalLength ← strlen st.mem.message
    let currentChunkSize := min (sizeSub totalLength st.stringIndex) maxChunkSizeBytes
    let packet ← readRange st.mem.message st.stringIndex currentChunkSize
    let stringIndex := st.stringIndex + maxChunkSizeBytes
    -- the copy is complete; the third one ends the session
    if stringIndex > totalLength then
      let backoffTime := backoffTime.restart ticks.copied
      if st.numberOffAckSendings + 1 < maxAckSendTries then
        .ok ⟨{ st with stringIndex := 0, numberOffAckSendings := st.numberOffAckSendings + 1 },
          backoffTime, [packet], false⟩
      else
        .ok ⟨{ st with
            firstDelayPassed := false, messageFormatted := false, firstEntryOnThisMethod := true,
            stringIndex := 0, numberOffAckSendings := 0 }, backoffTime, [packet], true⟩
    else .ok ⟨{ st with stringIndex }, backoffTime, [packet], false⟩

/-- **One call of `sendAcknowledgement`.** -/
def sendAcknowledgement (P : Primitives) (IdDevice : Int64) (messageNumber : Int32)
    (ticks : Ticks) (backoffTime : NonBlockingDelay) (st : Statics) : Checked Step := do
  let (passed, backoffTime, st) := awaitBackoff ticks backoffTime st
  if passed = false then .ok ⟨st, backoffTime, [], false⟩
  else if st.messageFormatted then sendChunk ticks backoffTime st
  else
    let (formatted, st) ← formatAck P IdDevice messageNumber st
    if formatted = false then .ok ⟨st, backoffTime, [], false⟩ else sendChunk ticks backoffTime st

/-! ## The frame

  What is sent, as a property of bytes: it does not mention the statics, so two sessions can be
  compared. -/

/-- **`f` is the complete frame of an acknowledgement**: what `prepareLoRaMessage` leaves of its text
    in an array that holds it, and the delimiter. -/
def AckFrame (P : Primitives) (IdDevice : Int64) (messageNumber : Int32) (f : Bytes) : Prop :=
  ∃ (mem mem' : Mem messageBufferSize) (body : Bytes),
    Holds mem.message (ackText IdDevice messageNumber) ∧
    prepareLoRaMessage P mem (ackText IdDevice messageNumber).length = .ok (true, mem') ∧
    Holds mem'.message body ∧ f = body ++ [bar, bar]

/-- The text is short, whatever the numbers are, -/
theorem length_ackText_le (IdDevice : Int64) (messageNumber : Int32) :
    (ackText IdDevice messageNumber).length ≤ 36 := by
  have hi := Stdio.length_intText_le (k := 19) (i := IdDevice.toInt) (by decide) (by
    have := IdDevice.toInt_lt
    have := IdDevice.le_toInt
    omega)
  have hn := Stdio.length_intText_le (k := 10) (i := messageNumber.toInt) (by decide) (by
    have := messageNumber.toInt_lt
    have := messageNumber.le_toInt
    omega)
  have hcomma : (ascii ",").length = 1 := by decide
  have hack : (ascii ",ACK").length = 4 := by decide
  simp only [ackText, List.length_append, hcomma, hack]
  omega

/-- and is a string. -/
theorem ackText_nulFree (IdDevice : Int64) (messageNumber : Int32) :
    NulFree (ackText IdDevice messageNumber) := by
  have hcomma : NulFree (ascii ",") := by
    decide
  have hack : NulFree (ascii ",ACK") := by
    decide
  exact (((Stdio.intText_nulFree _).append hcomma).append (Stdio.intText_nulFree _)).append hack

variable {P : Primitives} {IdDevice : Int64} {messageNumber : Int32}

/-- The blocks of the cipher and base64 make a frame of an acknowledgement at most 106 bytes, and
    `||`. -/
theorem encryptedLen_le {size : Nat} (h : size ≤ 36) : encryptedLen size ≤ 64 := by
  unfold encryptedLen encryptedSize
  omega

variable (IdDevice messageNumber) in
/-- **Formatting** fails with the checksum, or leaves a complete frame that one chunk carries. -/
theorem formatAck_spec (hP : P.Lawful) (st : Statics) :
    (∃ mem, formatAck P IdDevice messageNumber st = .ok (false, { st with mem })) ∨
      ∃ mem f, formatAck P IdDevice messageNumber st =
          .ok (true, { st with mem, messageFormatted := true }) ∧
        Holds mem.message f ∧ AckFrame P IdDevice messageNumber f ∧
        f.length < maxChunkSizeBytes := by
  have hlen := length_ackText_le IdDevice messageNumber
  have henc := encryptedLen_le hlen
  have hbuf : 2500 = messageBufferSize := rfl
  obtain ⟨message, hwrite, hholds⟩ := holds_snprintf (b := st.mem.message)
    (ackText_nulFree IdDevice messageNumber) (by omega)
  rcases prepareLoRaMessage_spec hP { st.mem with message }
    (ackText IdDevice messageNumber) (by omega) with
    ⟨mem, hprepare⟩ | ⟨mem, body, hprepare, hbody, hbodyLen⟩
  · refine Or.inl ⟨mem, ?_⟩
    simp only [formatAck, hwrite, ok_bind, hholds.strlen, hprepare]
    rfl
  · have hbar : NulFree [bar, bar] := by
      decide
    obtain ⟨message', hdelimit, hframe⟩ := hbody.append hbar (by
      simp only [List.length_cons, List.length_nil]
      omega)
    refine Or.inr ⟨{ mem with message := message' }, body ++ [bar, bar], ?_, hframe, ?_, ?_⟩
    · simp only [List.cons_append, List.nil_append] at hdelimit
      simp only [formatAck, hwrite, ok_bind, hholds.strlen, hprepare, hbody.strlen, hdelimit]
      rfl
    · exact ⟨_, mem, body, hholds, hprepare, hbody, rfl⟩
    · have h255 : maxChunkSizeBytes = 255 := rfl
      simp only [List.length_append, List.length_cons, List.length_nil]
      omega

/-! ## A session

  From an accepted message to the third copy.  The invariant has the packets that were sent as a
  parameter, and says of them what the statics know. -/

/-- The statics between two sessions. -/
structure Idle (st : Statics) : Prop where
  entry : st.firstEntryOnThisMethod = true
  backoff : st.firstDelayPassed = false
  unformatted : st.messageFormatted = false
  index : st.stringIndex = 0
  count : st.numberOffAckSendings = 0

/-- The program starts between two sessions. -/
theorem idle_initial : Idle Statics.initial := ⟨rfl, rfl, rfl, rfl, rfl⟩

/-- **The invariant** of a session in which the packets `sent` went to the radio so far. -/
structure InSession (P : Primitives) (IdDevice : Int64) (messageNumber : Int32) (st : Statics)
    (sent : List Bytes) : Prop where
  count : st.numberOffAckSendings = sent.length
  more : sent.length < maxAckSendTries
  index : st.stringIndex = 0
  unformatted : st.messageFormatted = false → sent = []
  formatted : st.messageFormatted = true → ∃ f, AckFrame P IdDevice messageNumber f ∧
    Holds st.mem.message f ∧ f.length < maxChunkSizeBytes ∧ ∀ p ∈ sent, p = f

/-- A session begins with nothing sent. -/
theorem Idle.inSession {st : Statics} (h : Idle st) :
    InSession P IdDevice messageNumber st [] where
  count := h.count
  more := by decide
  index := h.index
  unformatted _ := rfl
  formatted hformatted := nomatch h.unformatted.symm.trans hformatted

/-- **What a call does in a session**: it goes on with it, or ends it with the third copy. -/
def Continues (P : Primitives) (IdDevice : Int64) (messageNumber : Int32) (sent : List Bytes)
    (s : Step) : Prop :=
  (s.done = false ∧ InSession P IdDevice messageNumber s.statics (sent ++ s.packets)) ∨
    (s.done = true ∧ Idle s.statics ∧
      ∃ f, AckFrame P IdDevice messageNumber f ∧ sent ++ s.packets = [f, f, f])

/-- **Sending**: one chunk is one copy. -/
theorem InSession.sendChunk {st : Statics} {sent : List Bytes}
    (h : InSession P IdDevice messageNumber st sent) (hformatted : st.messageFormatted = true)
    (ticks : Ticks) (backoffTime : NonBlockingDelay) :
    ∃ s, SendingAck.sendChunk ticks backoffTime st = .ok s ∧
      Continues P IdDevice messageNumber sent s := by
  obtain ⟨f, hframe, hholds, hlen, hsent⟩ := h.formatted hformatted
  rcases hread : backoffTime.read ticks.send with ⟨arrived, delay⟩
  simp only [SendingAck.sendChunk, hread]
  -- the packet before is still in the air
  by_cases hwait : arrived = false ∧ st.firstChunkSent = true
  · rw [if_pos hwait]
    refine ⟨_, rfl, Or.inl ⟨rfl, ?_⟩⟩
    simpa using h
  · have h255 : maxChunkSizeBytes = 255 := rfl
    have htries : maxAckSendTries = 3 := rfl
    have hchunk : min (sizeSub f.length 0) maxChunkSizeBytes = f.length := by
      rw [sizeSub_of_le (Nat.zero_le _) (by rw [sizeRange_eq]; omega)]
      exact Nat.min_eq_left (Nat.le_of_lt hlen)
    have hpacket : readRange st.mem.message 0 f.length = .ok f :=
      Holds.readRange_prefix (s := []) (by simpa using hholds)
    simp only [if_neg hwait, hholds.strlen, ok_bind, h.index, hchunk, hpacket, Nat.zero_add,
      if_pos hlen]
    have hcopies : sent ++ [f] = List.replicate (sent.length + 1) f := by
      refine List.eq_replicate_iff.mpr ⟨by simp, fun p hp => ?_⟩
      rcases List.mem_append.mp hp with hp | hp
      · exact hsent p hp
      · exact List.mem_singleton.mp hp
    by_cases hlast : st.numberOffAckSendings + 1 < maxAckSendTries
    · rw [if_pos hlast]
      refine ⟨_, rfl, Or.inl ⟨rfl, ?_, ?_, rfl, (fun hno => nomatch hformatted.symm.trans hno), ?_⟩⟩
      · simp [h.count]
      · rw [h.count] at hlast
        simpa using hlast
      · refine fun _ => ⟨f, hframe, hholds, hlen, fun p hp => ?_⟩
        rw [hcopies] at hp
        exact List.eq_of_mem_replicate hp
    · rw [if_neg hlast]
      have htwo : sent.length + 1 = 3 := by
        have := h.count
        have := h.more
        omega
      refine ⟨_, rfl, Or.inr ⟨rfl, ⟨rfl, rfl, rfl, rfl, rfl⟩, f, hframe, ?_⟩⟩
      rw [hcopies, htwo]
      rfl

/-- **Waiting** sends nothing. -/
theorem InSession.awaitBackoff {st : Statics} {sent : List Bytes}
    (h : InSession P IdDevice messageNumber st sent) (ticks : Ticks)
    (backoffTime : NonBlockingDelay) :
    InSession P IdDevice messageNumber (SendingAck.awaitBackoff ticks backoffTime st).2.2 sent := by
  unfold SendingAck.awaitBackoff
  dsimp only
  split <;> exact ⟨h.count, h.more, h.index, h.unformatted, h.formatted⟩

/-- **One call**, wherever the session stands and whatever the timers read: no access is out of
    bounds, and the session goes on or ends with the third copy. -/
theorem sendAcknowledgement_spec (hP : P.Lawful) {st : Statics} {sent : List Bytes}
    (h : InSession P IdDevice messageNumber st sent) (ticks : Ticks)
    (backoffTime : NonBlockingDelay) :
    ∃ s, sendAcknowledgement P IdDevice messageNumber ticks backoffTime st = .ok s ∧
      Continues P IdDevice messageNumber sent s := by
  have hst := h.awaitBackoff ticks backoffTime
  rcases hawait : awaitBackoff ticks backoffTime st with ⟨passed, delay, st'⟩
  rw [hawait] at hst
  simp only [sendAcknowledgement, hawait]
  by_cases hpassed : passed = false
  · rw [if_pos hpassed]
    refine ⟨_, rfl, Or.inl ⟨rfl, ?_⟩⟩
    simpa using hst
  rw [if_neg hpassed]
  -- a frame that was formatted in an earlier call is sent; else it is formatted now, and sent in
  -- the same call
  cases hformatted : st'.messageFormatted with
  | true =>
    rw [if_pos rfl]
    exact hst.sendChunk hformatted ticks delay
  | false =>
    have hsent := hst.unformatted hformatted
    subst hsent
    rw [if_neg (by decide)]
    rcases formatAck_spec IdDevice messageNumber hP st' with
      ⟨mem, hfail⟩ | ⟨mem, f, hok, hholds, hframe, hlen⟩
    · simp only [hfail, ok_bind, if_true]
      exact ⟨_, rfl, Or.inl ⟨rfl, hst.count, hst.more, hst.index, fun _ => rfl,
        fun hyes => nomatch hformatted.symm.trans hyes⟩⟩
    · have hready : InSession P IdDevice messageNumber
          { st' with mem, messageFormatted := true } [] :=
        ⟨hst.count, hst.more, hst.index, fun _ => rfl,
          fun _ => ⟨f, hframe, hholds, hlen, fun p hp => nomatch hp⟩⟩
      simp only [hok, ok_bind]
      rw [if_neg (by decide)]
      exact hready.sendChunk rfl ticks delay

end SendingAck

end GatewayLoRa
