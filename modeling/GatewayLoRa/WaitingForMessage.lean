/-
  `WaitingForMessage::waitForMessage`: packets in, FRAMES out.

  A frame travels as several radio packets and ends with `||`.  Every call either reads the packet
  the radio holds (while no frame is pending) or processes the pending frame.  What survives from
  one call to the next are the function's statics, the record `Statics` here; a call is a function
  of the statics, of the packet, and of what the two gateway methods it calls answer (`Calls`), and
  it returns the new statics with the events of the call.

  `Reception` puts the radio in front: a queue of packets and a `Machine` whose inputs are the
  polls.  Whether the next packet has arrived, whether the radio starts, and what the calls answer
  is part of the input, so a statement about every run is one about every timing and every
  accept/reject outcome.

  A poll has one of nine effects, and `poll_effect` says so: it is all that the results about
  reception use.  The write of the RSSI is left to the caller (it happens at every
  `completed` event); the time-out timer, which nothing reads, is left out.
-/

import GatewayLoRa.Lib.Delimiter
import GatewayLoRa.Lib.Machine
import GatewayLoRa.Lib.CMemory

namespace GatewayLoRa

open CMemory

/-- The byte `|`; two of them end a frame. -/
abbrev bar : UInt8 := 124

namespace WaitingForMessage

/-! ## One call

  The statics and the events of one call.  What is read from the radio comes before what is decoded:
  a call that completes a frame leaves it for the next one. -/

/-- The statics of `waitForMessage`. -/
structure Statics where
  messageReceived : Bool
  accumulatedBuffer : Bytes
  fullMessage : Bytes
  firstEntryOnThisMethod : Bool
  stringInsertCount : Nat
  deriving DecidableEq

/-- The statics as the program starts. -/
def Statics.initial : Statics := ⟨false, [], [], true, 0⟩

/-- What `Gateway::processLoRaMessage` and `Gateway::parseReceptedLoRaMessage` answer: the string
    the first leaves when it returns true, and whether the second accepts that string. -/
structure Calls where
  processLoRaMessage : Bytes → Option Bytes
  parseReceptedLoRaMessage : Bytes → Bool

/-- What a call can be seen to do. -/
inductive Event
  | read (packet : Bytes)
  | completed (frame : Bytes)
  | handed (s : Bytes)
  | accepted (text : Bytes)
  deriving DecidableEq

/-- The size of `buffer`, the target of `LoRaClass::read`. -/
abbrev readBufferSize : Nat := 2048

/-- A chunk within the limit is inserted and the delimiter searched. -/
def insert (st : Statics) (chunk : Bytes) : Statics × List Event :=
  match Delimiter.split bar (st.accumulatedBuffer ++ chunk) with
  | some (frame, rest) =>
    ({ st with
        fullMessage := frame, accumulatedBuffer := rest, stringInsertCount := 0,
        messageReceived := true }, [.read chunk, .completed frame])
  -- no delimiter yet: the chunk is counted
  | none =>
    ({ st with
        accumulatedBuffer := st.accumulatedBuffer ++ chunk,
        stringInsertCount := st.stringInsertCount + 1 }, [.read chunk])

/-- The loop over `LoRaModule->available ()`; `fifo` is what the radio still holds, and the first
    argument counts down from `maxIterations`. -/
def readLoop : Nat → Bytes → Statics → Statics × List Event
  | 0, _, st => (st, [])
  | left + 1, fifo, st =>
      if fifo = [] then (st, [])
      else
        let chunk := fifo.take readBufferSize
        if st.stringInsertCount + 1 > 51 then
          ({ st with
              accumulatedBuffer := [], stringInsertCount := 0, messageReceived := false },
            [Event.read chunk])
        else
          let (st, events) := insert st chunk
          -- the limit of the loop, where the source gives the frame up
          if left = 0 then ({ st with messageReceived := false }, events)
          else
            let (st, later) := readLoop left (fifo.drop readBufferSize) st
            (st, events ++ later)

/-- The string handed to `processLoRaMessage`: `strncpy` of `fullMessage.c_str ()`. -/
def handedString (fullMessage : Bytes) : Bytes := (cstr fullMessage).take (readBufferSize - 1)

/-- **One call of `waitForMessage`**: whether the radio starts, the packet it holds (empty when
    there is none), the answers of the gateway, the statics. -/
def waitForMessage (begins : Bool) (packet : Bytes) (calls : Calls) (st : Statics) :
    Statics × List Event :=
  if st.firstEntryOnThisMethod ∧ ¬ begins then (st, [])
  else
    let st := { st with firstEntryOnThisMethod := false }
    if st.messageReceived = false then
      if packet = [] then (st, []) else readLoop 100 packet st
    else if st.fullMessage = [] then
      ({ st with accumulatedBuffer := [], messageReceived := false }, [])
    else
      let processed := handedString st.fullMessage
      match calls.processLoRaMessage processed with
      -- a frame that the handlers refuse leaves the accumulator as it is; all the others empty it
      | none => ({ st with messageReceived := false }, [.handed processed])
      | some text =>
        let st := { st with
          messageReceived := false, accumulatedBuffer := [], stringInsertCount := 0,
          fullMessage := [] }
        if calls.parseReceptedLoRaMessage text = false then (st, [.handed processed])
        else (st, [.handed processed, .accepted text])

/-! ## What one call does

  The same in two equations without the loop: a radio packet is shorter than the buffer of a read,
  so one iteration takes it. -/

/-- A radio packet is read in one iteration. -/
theorem readLoop_packet {packet : Bytes} (st : Statics) (hne : packet ≠ [])
    (hlen : packet.length ≤ readBufferSize) :
    readLoop 100 packet st =
      if st.stringInsertCount + 1 > 51 then
        ({ st with accumulatedBuffer := [], stringInsertCount := 0, messageReceived := false },
          [.read packet])
      else insert st packet := by
  have hdrop : packet.drop readBufferSize = [] := List.drop_eq_nil_of_le hlen
  have hend : ∀ st, readLoop 99 [] st = (st, []) := fun st => by rw [readLoop, if_pos rfl]
  rw [readLoop, if_neg hne, List.take_of_length_le hlen, hdrop]
  by_cases hcount : st.stringInsertCount + 1 > 51
  · rw [if_pos hcount, if_pos hcount]
  · rw [if_neg hcount, if_neg hcount]
    simp only [hend, List.append_nil]
    rw [if_neg (by decide)]

/-- The radio can be started, or has been. -/
def Statics.Starts (st : Statics) (begins : Bool) : Prop :=
  st.firstEntryOnThisMethod = true → begins = true

instance (st : Statics) (begins : Bool) : Decidable (st.Starts begins) :=
  inferInstanceAs (Decidable (_ → _))

/-- The statics once the radio is started. -/
abbrev Statics.started (st : Statics) : Statics := { st with firstEntryOnThisMethod := false }

section Cases

variable {begins : Bool} {packet : Bytes} {calls : Calls} {st : Statics}

/-- A radio that does not start is not asked. -/
theorem waitForMessage_stopped (h : ¬ st.Starts begins) :
    waitForMessage begins packet calls st = (st, []) := by
  unfold Statics.Starts at h
  rw [waitForMessage, if_pos (by simpa using h)]

/-- A call once the radio has started. -/
theorem waitForMessage_started (h : st.Starts begins) :
    waitForMessage begins packet calls st =
      if st.messageReceived = false then
        if packet = [] then (st.started, []) else readLoop 100 packet st.started
      else if st.fullMessage = [] then
        ({ st.started with accumulatedBuffer := [], messageReceived := false }, [])
      else match calls.processLoRaMessage (handedString st.fullMessage) with
        | none => ({ st.started with messageReceived := false }, [.handed (handedString st.fullMessage)])
        | some text =>
          if calls.parseReceptedLoRaMessage text = false then
            (⟨false, [], [], false, 0⟩, [.handed (handedString st.fullMessage)])
          else
            (⟨false, [], [], false, 0⟩, [.handed (handedString st.fullMessage), .accepted text]) := by
  unfold Statics.Starts at h
  rw [waitForMessage, if_neg (by simpa using h)]

end Cases

/-! ## The radio in front of it

  The queue is what the sender sent and the radio has received, not less: a packet that is lost is
  one that is not in it. -/

/-- Packets on their way and the statics. -/
structure Reception where
  radio : List Bytes
  statics : Statics

/-- One poll: whether the radio starts, whether the next packet has arrived, and the answers of
    the gateway. -/
structure Poll where
  begins : Bool
  arrived : Bool
  calls : Calls

/-- The packet that a call can see. -/
def Reception.packet (r : Reception) (i : Poll) : Bytes :=
  if i.arrived then r.radio.head?.getD [] else []

/-- The poll takes the packet from the radio. -/
def Reception.Takes (r : Reception) (i : Poll) : Prop :=
  r.statics.Starts i.begins ∧ r.statics.messageReceived = false ∧ i.arrived = true

instance (r : Reception) (i : Poll) : Decidable (r.Takes i) :=
  inferInstanceAs (Decidable (_ ∧ _ ∧ _))

/-- One poll of the reception machine. -/
def poll (r : Reception) (i : Poll) : Reception × List Event :=
  let (statics, events) := waitForMessage i.begins (r.packet i) i.calls r.statics
  (⟨if r.Takes i then r.radio.tail else r.radio, statics⟩, events)

/-- **What one poll does**: nothing; read a packet that is dropped, completes a frame or is added;
    drop an empty frame; hand a frame that is rejected, rejected by the parser, or accepted. -/
inductive Effect (r : Reception) (i : Poll) : Reception × List Event → Prop
  | nothing (statics : Statics) (hst : statics = r.statics ∨ statics = r.statics.started) :
      Effect r i (⟨r.radio, statics⟩, [])
  | emptyPacket (radio : List Bytes) (htakes : r.Takes i) (hradio : r.radio = [] :: radio) :
      Effect r i (⟨radio, r.statics.started⟩, [])
  | limit (packet : Bytes) (radio : List Bytes) (htakes : r.Takes i)
      (hradio : r.radio = packet :: radio) (hne : packet ≠ [])
      (hcount : 51 ≤ r.statics.stringInsertCount) :
      Effect r i (⟨radio, ⟨false, [], r.statics.fullMessage, false, 0⟩⟩, [.read packet])
  | frame (packet : Bytes) (radio : List Bytes) (full rest : Bytes) (htakes : r.Takes i)
      (hradio : r.radio = packet :: radio) (hne : packet ≠ [])
      (hcount : r.statics.stringInsertCount < 51)
      (hsplit : Delimiter.split bar (r.statics.accumulatedBuffer ++ packet) = some (full, rest)) :
      Effect r i (⟨radio, ⟨true, rest, full, false, 0⟩⟩, [.read packet, .completed full])
  | insert (packet : Bytes) (radio : List Bytes) (htakes : r.Takes i)
      (hradio : r.radio = packet :: radio) (hne : packet ≠ [])
      (hcount : r.statics.stringInsertCount < 51)
      (hsplit : Delimiter.split bar (r.statics.accumulatedBuffer ++ packet) = none) :
      Effect r i
        (⟨radio, { r.statics.started with
            accumulatedBuffer := r.statics.accumulatedBuffer ++ packet,
            stringInsertCount := r.statics.stringInsertCount + 1 }⟩, [.read packet])
  | emptyFrame (hpending : r.statics.messageReceived = true) (hfull : r.statics.fullMessage = []) :
      Effect r i
        (⟨r.radio, { r.statics.started with accumulatedBuffer := [], messageReceived := false }⟩, [])
  | rejected (hpending : r.statics.messageReceived = true) (hfull : r.statics.fullMessage ≠ [])
      (hprocess : i.calls.processLoRaMessage (handedString r.statics.fullMessage) = none) :
      Effect r i
        (⟨r.radio, { r.statics.started with messageReceived := false }⟩,
          [.handed (handedString r.statics.fullMessage)])
  | unparsed (text : Bytes) (hpending : r.statics.messageReceived = true)
      (hfull : r.statics.fullMessage ≠ [])
      (hprocess : i.calls.processLoRaMessage (handedString r.statics.fullMessage) = some text)
      (hparse : i.calls.parseReceptedLoRaMessage text = false) :
      Effect r i
        (⟨r.radio, ⟨false, [], [], false, 0⟩⟩, [.handed (handedString r.statics.fullMessage)])
  | accepted (text : Bytes) (hpending : r.statics.messageReceived = true)
      (hfull : r.statics.fullMessage ≠ [])
      (hprocess : i.calls.processLoRaMessage (handedString r.statics.fullMessage) = some text)
      (hparse : i.calls.parseReceptedLoRaMessage text = true) :
      Effect r i
        (⟨r.radio, ⟨false, [], [], false, 0⟩⟩,
          [.handed (handedString r.statics.fullMessage), .accepted text])

/-- A poll that takes a packet drops it, completes a frame with it, or adds it. -/
theorem effect_of_takes {r : Reception} {i : Poll} (htakes : r.Takes i)
    (hlen : ∀ p ∈ r.radio, p.length ≤ 255) : Effect r i (poll r i) := by
  obtain ⟨hstart, hidle, harrived⟩ := htakes
  -- an empty queue shows no packet, and neither does an empty packet
  cases hradio : r.radio with
  | nil =>
    have hpacket : r.packet i = [] := by rw [Reception.packet, if_pos harrived, hradio]; rfl
    have heff := Effect.nothing (r := r) (i := i) r.statics.started (Or.inr rfl)
    rw [poll, if_pos ⟨hstart, hidle, harrived⟩, waitForMessage_started hstart, hpacket,
      if_pos hidle, if_pos rfl, hradio]
    rw [hradio] at heff
    exact heff
  | cons packet radio =>
    have hpacket : r.packet i = packet := by rw [Reception.packet, if_pos harrived, hradio]; rfl
    have h255 : packet.length ≤ 255 := hlen packet (by rw [hradio]; exact List.mem_cons_self)
    rw [poll, if_pos ⟨hstart, hidle, harrived⟩, waitForMessage_started hstart, hpacket,
      if_pos hidle, hradio]
    by_cases hne : packet = []
    · subst hne
      rw [if_pos rfl]
      exact Effect.emptyPacket radio ⟨hstart, hidle, harrived⟩ hradio
    rw [if_neg hne, readLoop_packet _ hne (by
      have : 255 ≤ readBufferSize := by decide
      omega)]
    by_cases hcount : 51 ≤ r.statics.stringInsertCount
    · rw [if_pos (show r.statics.stringInsertCount + 1 > 51 by omega)]
      exact Effect.limit packet radio ⟨hstart, hidle, harrived⟩ hradio hne hcount
    rw [if_neg (show ¬ r.statics.stringInsertCount + 1 > 51 by omega), insert]
    cases hsplit : Delimiter.split bar (r.statics.accumulatedBuffer ++ packet) with
    | none =>
      exact Effect.insert packet radio ⟨hstart, hidle, harrived⟩ hradio hne (by omega) hsplit
    | some p =>
      exact Effect.frame packet radio p.1 p.2 ⟨hstart, hidle, harrived⟩ hradio hne (by omega)
        hsplit

/-- A poll that takes none has a frame to process, or nothing to do. -/
theorem effect_of_not_takes {r : Reception} {i : Poll} (h : ¬ r.Takes i) :
    Effect r i (poll r i) := by
  have hpoll : poll r i = (⟨r.radio, (waitForMessage i.begins (r.packet i) i.calls
      r.statics).1⟩, (waitForMessage i.begins (r.packet i) i.calls r.statics).2) := by
    rw [poll, if_neg h]
  rw [hpoll]
  by_cases hstart : r.statics.Starts i.begins
  · rw [waitForMessage_started hstart]
    by_cases hidle : r.statics.messageReceived = false
    · have harrived : ¬ i.arrived = true := fun ha => h ⟨hstart, hidle, ha⟩
      rw [if_pos hidle, Reception.packet, if_neg harrived, if_pos rfl]
      exact Effect.nothing _ (Or.inr rfl)
    · have hpending : r.statics.messageReceived = true := by simpa using hidle
      rw [if_neg hidle]
      by_cases hfull : r.statics.fullMessage = []
      · rw [if_pos hfull]
        exact Effect.emptyFrame hpending hfull
      · rw [if_neg hfull]
        cases hprocess : i.calls.processLoRaMessage (handedString r.statics.fullMessage) with
        | none => exact Effect.rejected hpending hfull hprocess
        | some text =>
          show Effect r i (⟨r.radio, (if _ then _ else _ : Statics × List Event).1⟩,
            (if _ then _ else _ : Statics × List Event).2)
          cases hparse : i.calls.parseReceptedLoRaMessage text with
          | false =>
            rw [if_pos rfl]
            exact Effect.unparsed text hpending hfull hprocess hparse
          | true =>
            rw [if_neg (by decide)]
            exact Effect.accepted text hpending hfull hprocess hparse
  · rw [waitForMessage_stopped hstart]
    exact Effect.nothing _ (Or.inl rfl)

/-- **Every poll of a radio with packets of at most 255 bytes has one of these effects.** -/
theorem poll_effect {r : Reception} (i : Poll) (hlen : ∀ p ∈ r.radio, p.length ≤ 255) :
    Effect r i (poll r i) := by
  by_cases htakes : r.Takes i
  · exact effect_of_takes htakes hlen
  · exact effect_of_not_takes htakes

/-- What the gateway was handed, in order. -/
def handed (trace : List Event) : List Bytes :=
  trace.filterMap fun | .handed s => some s | _ => none

/-- The frames that were completed, in order. -/
def completed (trace : List Event) : List Bytes :=
  trace.filterMap fun | .completed s => some s | _ => none

/-- The packets that were read, in order. -/
def reads (trace : List Event) : List Bytes :=
  trace.filterMap fun | .read p => some p | _ => none

/-- A message has been accepted. -/
def Accepted (trace : List Event) : Prop := ∃ text, Event.accepted text ∈ trace

instance (trace : List Event) : Decidable (Accepted trace) :=
  decidable_of_iff (∃ e ∈ trace, e matches .accepted _) <| by
    constructor
    · rintro ⟨e, he, hmatch⟩
      cases e <;> first | exact ⟨_, he⟩ | exact nomatch hmatch
    · rintro ⟨text, h⟩
      exact ⟨.accepted text, h, rfl⟩

/-- The three lists of a longer trace are longer lists. -/
@[simp] theorem handed_append (t u : List Event) : handed (t ++ u) = handed t ++ handed u :=
  List.filterMap_append

@[simp] theorem completed_append (t u : List Event) :
    completed (t ++ u) = completed t ++ completed u := List.filterMap_append

@[simp] theorem reads_append (t u : List Event) : reads (t ++ u) = reads t ++ reads u :=
  List.filterMap_append

/-- **A read completes at most one frame**: what stands behind the delimiter that is found holds no
    other one. -/
def CompletesOne (r : Reception) (i : Poll) : Prop :=
  r.Takes i → ∀ packet radio full rest, r.radio = packet :: radio →
    r.statics.stringInsertCount < 51 →
    Delimiter.split bar (r.statics.accumulatedBuffer ++ packet) = some (full, rest) →
    Delimiter.Clean bar rest

instance (r : Reception) (i : Poll) : Decidable (CompletesOne r i) :=
  decidable_of_iff (r.Takes i → ∀ packet ∈ r.radio.head?, r.statics.stringInsertCount < 51 →
      ∀ p ∈ Delimiter.split bar (r.statics.accumulatedBuffer ++ packet), Delimiter.Clean bar p.2) <| by
    constructor
    · intro h htakes packet radio full rest hradio hcount hsplit
      exact h htakes packet (by rw [hradio]; rfl) hcount (full, rest) hsplit
    · rintro h htakes packet hpacket hcount ⟨full, rest⟩ hsplit
      obtain ⟨radio, hradio⟩ := List.head?_eq_some_iff.mp hpacket
      exact h htakes packet radio full rest hradio hcount hsplit

/-- A frame without NUL that fits is handed byte for byte. -/
theorem handedString_eq {s : Bytes} (hs : NulFree s) (h : s.length < readBufferSize) :
    handedString s = s := by
  rw [handedString, cstr_of_nulFree hs, List.take_of_length_le (by omega)]

/-- A poll with the radio running and the next packet there, every frame refused. -/
def refuse : Poll := ⟨true, true, ⟨fun _ => none, fun _ => false⟩⟩

end WaitingForMessage

end GatewayLoRa
