/-
  `Sending`: a message goes out over a TCP socket in CHUNKS of at most 256 bytes.

      AT+QISEND=0,n  →  >  →  the chunk  →  SEND OK  →  the next chunk, or Receiving

  A `Sending` object is one session.  It asks for the prompt, writes the chunk, waits for `SEND OK`,
  and after MAXATTEMPTS expiries of the timer it is given up.  The POSITION inside the message is no
  member of the object: it is a static of `exchangeMessages`, it goes on with each confirmed chunk,
  and it is set to 0 only when the whole message is confirmed.  A session that is given up leaves it
  where it was, and the next session begins there, whatever its message.

  1. **The session** (`Sending.exchangeMessages`) — as the code has it.

  2. **The history** (`sendingLedger`) — the message of the last session, the chunks confirmed in
     it, and those confirmed in sessions that were given up since the last whole message.

  3. **The invariant** (`ChunksSound`) — the position is the number of bytes in the ledger, and the
     chunks of a session are the message from where it began.

  4. **A run** (`sent_whole_iff`) — the sessions that move to `Receiving` have sent their message if
     and only if nothing was confirmed in a session that was given up before them.

  The crux is that two positions meet: that of the code, which survives a session, and that of the
  promise, which begins at 0 with every message.  The ledger keeps the bytes that separate them
  (`earlier`).  So the invariant can be exact about a session that starts in the middle, where a
  statement about good sessions only would break down at the first abandoned one; and the result is
  then a fact about one ledger (`whole_iff_fresh`): its chunks are the message if and only if
  nothing is in `earlier`.
-/

import GatewayLoRa.Transceiver
import Mathlib.Data.List.Induction
import Mathlib.Data.List.TakeWhile

namespace GatewayLoRa

open CMemory Machine

/-! ## The session

  The three parts of `sendChunck` (the prompt, the question, the timer) are functions of their own,
  in the order of the source.  A line is read only while a confirmation is awaited. -/

/-- The members of a `Sending` object. -/
structure Sending where
  readyToSend : Bool
  transmissionEnable : Bool
  watingForConfirmation : Bool
  Attempts : Nat
  deriving DecidableEq, Repr

/-- What one call finds: a character for `readChar`, a line for `readATResponse`, the timer. -/
structure SendingPoll where
  char : Option UInt8
  line : Option Bytes
  expired : Bool
  deriving DecidableEq

/-- What can be seen of the sessions: one begins, with its message; a command or a chunk goes to the
    modem; a chunk is confirmed; the session is given up, or moves to `Receiving`. -/
inductive SendingEvent
  | began (message : Bytes)
  | command (s : Bytes)
  | wrote (chunk : Bytes)
  | confirmed (chunk : Bytes)
  | abandoned
  | receiving
  deriving DecidableEq

namespace Sending

/-- `MAXATTEMPTS`. -/
def maxAttempts : Nat := 20

/-- `CHUNK_SIZE`. -/
abbrev maxChunk : Nat := 256

/-- `BUFFER_LEN`. -/
abbrev bufferLen : Nat := 256

/-- A new object. -/
def initial : Sending := ⟨true, false, false, 0⟩

/-- The line that confirms a chunk. -/
def sendOkLine : Bytes := ascii "SEND OK"

/-- The byte that ends a chunk. -/
def confirmationToSend : Bytes := [0x1a]

/-- `StringToBeSend`, the command that asks for the prompt; `snprintf` cuts it to its array, which
    takes the last digit of a length of three. -/
def sendCommandText (chunk : Bytes) : Bytes :=
  (ascii "AT+QISEND=" ++ Stdio.intText 0 ++ ascii "," ++ Stdio.intText chunk.length).take
    ((ascii "AT+QISEND=").length + 5 - 1)

example : sendCommandText (List.replicate 256 65) = ascii "AT+QISEND=0,25" := by decide +kernel

/-- What a call of `sendChunck` leaves: the object, the static `counter`, what it did, whether the
    chunk was confirmed, and whether the session was given up. -/
structure ChunkStep where
  object : Sending
  counter : Nat
  events : List SendingEvent
  confirmed : Bool
  abandoned : Bool

/-- The prompt, for which the chunk is written. -/
def takePrompt (s : Sending) (chunk : Bytes) (char : Option UInt8) : Sending × List SendingEvent :=
  if s.transmissionEnable = true ∧ char = some 62 then
    ({ s with transmissionEnable := false, readyToSend := false, watingForConfirmation := true },
      [.wrote chunk, .command confirmationToSend])
  else (s, [])

/-- The command that asks for the prompt. -/
def askForPrompt (s : Sending) (chunk : Bytes) : Sending × List SendingEvent :=
  if s.readyToSend then
    ({ s with readyToSend := false, transmissionEnable := true },
      [.command (sendCommandText chunk)])
  else (s, [])

/-- The timer has run out: `counter` makes the session ask again, `Attempts` gives it up. -/
def expire (s : Sending) (counter : Nat) : Sending × Nat × Bool :=
  let counter := counter + 1
  let (s, counter) :=
    if counter > 5 then
      ({ s with readyToSend := true, transmissionEnable := false, watingForConfirmation := false }, 0)
    else (s, counter)
  let s := { s with Attempts := s.Attempts + 1 }
  (s, counter, s.Attempts ≥ maxAttempts)

/-- `sendChunck`. -/
def sendChunck (s : Sending) (counter : Nat) (chunk : Bytes) (i : SendingPoll) : ChunkStep :=
  let (s, written) := s.takePrompt chunk i.char
  let (s, asked) := s.askForPrompt chunk
  if s.watingForConfirmation = true ∧ readATResponse bufferLen i.line = some sendOkLine then
    ⟨initial, 0, written ++ asked, true, false⟩
  else if i.expired then
    let (s, counter, abandoned) := s.expire counter
    ⟨s, counter, written ++ asked, false, abandoned⟩
  else ⟨s, counter, written ++ asked, false, false⟩

/-- `sizeToSend`: the remaining length is a difference of two `size_t`. -/
def sizeToSend (messageLength currentMessagePosition : Nat) : Nat :=
  min ((messageLength + 2 ^ 32 - currentMessagePosition) % 2 ^ 32) maxChunk

/-- `messageChunk`: what `strncpy` copies from the position on. -/
def messageChunk (buffer : Bytes) (currentMessagePosition : Nat) : Bytes :=
  cstr ((buffer.drop currentMessagePosition).take
    (sizeToSend (cstr buffer).length currentMessagePosition))

end Sending

/-- The statics, and the session if there is one: the array that holds its message, and its
    object. -/
structure Sender where
  currentMessagePosition : Nat
  counter : Nat
  session : Option (Bytes × Sending)
  deriving DecidableEq

/-- As the program starts. -/
def Sender.initial : Sender := ⟨0, 0, none⟩

/-- `Sending::exchangeMessages` of a session. -/
def Sending.exchangeMessages (s : Sender) (buffer : Bytes) (object : Sending) (i : SendingPoll) :
    Sender × List SendingEvent :=
  let messageLength := (cstr buffer).length
  let chunk := messageChunk buffer s.currentMessagePosition
  let sent := object.sendChunck s.counter chunk i
  let position :=
    if sent.confirmed then s.currentMessagePosition + sizeToSend messageLength s.currentMessagePosition
    else s.currentMessagePosition
  let events := sent.events ++ ((if sent.confirmed then [.confirmed chunk] else []) ++
    if sent.abandoned then [.abandoned] else [])
  -- looked at in every call, whether a chunk was confirmed in it or not
  if position ≥ messageLength then (⟨0, sent.counter, none⟩, events ++ [.receiving])
  else
    (⟨position, sent.counter, if sent.abandoned then none else some (buffer, sent.object)⟩, events)

/-- What happens to the sender: `CreateSocket` begins a session for the message in an array, or
    `exchangeMessages` is called.  A session begins when there is none, and the calls of other states
    are not its. -/
inductive SenderInput
  | begin (buffer : Bytes)
  | call (i : SendingPoll)
  deriving DecidableEq

/-- **One step.** -/
def Sender.step (s : Sender) : SenderInput → Sender × List SendingEvent
  | .begin buffer =>
      if s.session.isNone then
        ({ s with session := some (buffer, .initial) }, [.began (cstr buffer)])
      else (s, [])
  | .call i =>
      match s.session with
      | none => (s, [])
      | some (buffer, object) => Sending.exchangeMessages s buffer object i

/-! ## The history

  The events are those of the modem and of the life of a session; the ledger is a fold over them. -/

/-- What the events so far say of the sessions. -/
structure SendingLedger where
  /-- The message of the last session. -/
  message : Bytes
  /-- The chunks confirmed in sessions given up, since a session last moved to `Receiving`. -/
  earlier : List Bytes
  /-- The chunks confirmed in the last session. -/
  chunks : List Bytes

/-- The ledger after one more event. -/
def SendingLedger.after (l : SendingLedger) : SendingEvent → SendingLedger
  | .began message => ⟨message, l.earlier ++ l.chunks, []⟩
  | .confirmed chunk => { l with chunks := l.chunks ++ [chunk] }
  | .receiving => { l with earlier := [], chunks := [] }
  | _ => l

/-- **The ledger of a trace.** -/
def sendingLedger (trace : List SendingEvent) : SendingLedger := trace.foldl .after ⟨[], [], []⟩

/-- **The message was sent**: its confirmed chunks are it, and none is too long. -/
def SendingLedger.Whole (l : SendingLedger) : Prop :=
  l.chunks.flatten = l.message ∧ ∀ chunk ∈ l.chunks, chunk.length ≤ 256

/-- No byte was confirmed in a session that was given up, or there is nothing to send. -/
def SendingLedger.Fresh (l : SendingLedger) : Prop := l.earlier.flatten = [] ∨ l.message = []

instance (l : SendingLedger) : Decidable l.Whole := inferInstanceAs (Decidable (_ ∧ _))

/-- Writing and asking are not in the ledger. -/
def SendingEvent.isQuiet : SendingEvent → Bool
  | command _ | wrote _ | abandoned => true
  | _ => false

/-- One event more. -/
theorem sendingLedger_concat (t : List SendingEvent) (e : SendingEvent) :
    sendingLedger (t ++ [e]) = (sendingLedger t).after e := by
  rw [sendingLedger, List.foldl_append]
  rfl

/-- Events that are not in the ledger do not change it. -/
theorem sendingLedger_append_quiet (t : List SendingEvent) {es : List SendingEvent}
    (h : ∀ e ∈ es, e.isQuiet = true) : sendingLedger (t ++ es) = sendingLedger t := by
  induction es using List.reverseRecOn with
  | nil => rw [List.append_nil]
  | append_singleton es e ih =>
    obtain ⟨hes, he⟩ := List.forall_mem_append.mp h
    rw [← List.append_assoc, sendingLedger_concat, ih hes]
    have hquiet := he e (List.mem_singleton.mpr rfl)
    cases e with
    | command s | wrote chunk | abandoned => rfl
    | began message | confirmed chunk | receiving => cases hquiet

/-! ## The invariant

  `position` connects the static with the ledger, `session` the ledger with the message.  The last
  clause of `session` says that a session that has not confirmed anything is a new object, or has
  something left to send: this is what excludes a chunk from past the end. -/

/-- **The position is what the ledger holds**, and in a session its chunks are the message from the
    position where it began. -/
structure ChunksSound (c : Config Sender SendingEvent) : Prop where
  position : c.state.currentMessagePosition =
    ((sendingLedger c.trace).earlier ++ (sendingLedger c.trace).chunks).flatten.length
  short : ∀ chunk ∈ (sendingLedger c.trace).chunks, chunk.length ≤ 256
  session : ∀ buffer object, c.state.session = some (buffer, object) →
    (sendingLedger c.trace).message = cstr buffer ∧
      (sendingLedger c.trace).chunks.flatten =
        ((cstr buffer).drop (sendingLedger c.trace).earlier.flatten.length).take
          (sendingLedger c.trace).chunks.flatten.length ∧
      (object = .initial ∧ (sendingLedger c.trace).chunks = [] ∨
        c.state.currentMessagePosition < (cstr buffer).length)
  moved : PrecededBy (fun before => (sendingLedger before).Whole ↔ (sendingLedger before).Fresh)
    .receiving c.trace

/-- The chunks of a session whose position has reached the end are the message if and only if it
    began at 0. -/
theorem whole_iff_fresh {l : SendingLedger} {message : Bytes} (hmessage : l.message = message)
    (hshort : ∀ chunk ∈ l.chunks, chunk.length ≤ 256)
    (hchunks : l.chunks.flatten =
      (message.drop l.earlier.flatten.length).take l.chunks.flatten.length)
    (hend : message.length ≤ (l.earlier ++ l.chunks).flatten.length) : l.Whole ↔ l.Fresh := by
  have hrest : l.chunks.flatten = message.drop l.earlier.flatten.length := by
    rw [hchunks]
    refine List.take_of_length_le ?_
    rw [List.flatten_append, List.length_append] at hend
    rw [List.length_drop]
    omega
  unfold SendingLedger.Whole SendingLedger.Fresh
  rw [hmessage, hrest, ← List.length_eq_zero_iff (l := l.earlier.flatten)]
  constructor
  · rintro ⟨hwhole, -⟩
    have hlength := congrArg List.length hwhole
    rw [List.length_drop] at hlength
    rcases Nat.eq_zero_or_pos l.earlier.flatten.length with hzero | hpos
    · exact .inl hzero
    · exact .inr (List.length_eq_zero_iff.mp (by omega))
  · rintro (hzero | rfl)
    · rw [hzero]
      exact ⟨List.drop_zero, hshort⟩
    · exact ⟨List.drop_nil, hshort⟩

namespace Sending

/-- The prompt, the question and the timer confirm nothing; -/
theorem takePrompt_quiet (s : Sending) (chunk : Bytes) (char : Option UInt8) :
    ∀ e ∈ (s.takePrompt chunk char).2, e.isQuiet = true := by
  unfold takePrompt
  split <;> simp [SendingEvent.isQuiet]

/-- they write and they ask, -/
theorem askForPrompt_quiet (s : Sending) (chunk : Bytes) :
    ∀ e ∈ (s.askForPrompt chunk).2, e.isQuiet = true := by
  unfold askForPrompt
  split <;> simp [SendingEvent.isQuiet]

/-- and that is all that a call of `sendChunck` shows. -/
theorem sendChunck_quiet (s : Sending) (counter : Nat) (chunk : Bytes) (i : SendingPoll) :
    ∀ e ∈ (s.sendChunck counter chunk i).events, e.isQuiet = true := by
  have hquiet : ∀ e ∈ (s.takePrompt chunk i.char).2 ++
      ((s.takePrompt chunk i.char).1.askForPrompt chunk).2, e.isQuiet = true :=
    List.forall_mem_append.mpr ⟨s.takePrompt_quiet chunk i.char, askForPrompt_quiet _ chunk⟩
  unfold sendChunck
  dsimp only
  split
  · exact hquiet
  · split <;> exact hquiet

/-- **A new session confirms nothing in its first call**, and is not given up in it. -/
theorem sendChunck_initial (counter : Nat) (chunk : Bytes) (i : SendingPoll) :
    (initial.sendChunck counter chunk i).confirmed = false := by
  unfold sendChunck
  simp only [takePrompt, askForPrompt, initial]
  cases i.expired <;> rfl

/-- The remaining length is not wrapped before the end. -/
theorem sizeToSend_le {messageLength position : Nat} (h : position ≤ messageLength) :
    position + sizeToSend messageLength position ≤ messageLength := by
  unfold sizeToSend
  omega

/-- What a call sends is the message from the position on. -/
theorem messageChunk_eq {buffer : Bytes} {position : Nat} (h : position ≤ (cstr buffer).length) :
    messageChunk buffer position =
      ((cstr buffer).drop position).take (sizeToSend (cstr buffer).length position) := by
  have hsize := sizeToSend_le h
  -- the message has no NUL, so `strncpy` copies as much as it is told
  have hnul : NulFree (cstr buffer) := fun c hc => by simpa using List.mem_takeWhile_imp hc
  obtain ⟨rest, hbuffer⟩ : cstr buffer <+: buffer := List.takeWhile_prefix _
  generalize hmessage : cstr buffer = message at h hsize hnul hbuffer ⊢
  have hinside : (buffer.drop position).take (sizeToSend message.length position) =
      (message.drop position).take (sizeToSend message.length position) := by
    rw [← hbuffer, List.drop_append_of_le_length h, List.take_append_of_le_length]
    rw [List.length_drop]
    omega
  rw [messageChunk, hmessage, hinside]
  exact cstr_of_nulFree fun c hc => hnul c (List.mem_of_mem_drop (List.mem_of_mem_take hc))

/-- The chunk has the length that is added to the position. -/
theorem length_messageChunk {buffer : Bytes} {position : Nat} (h : position ≤ (cstr buffer).length) :
    (messageChunk buffer position).length = sizeToSend (cstr buffer).length position := by
  have hsize := sizeToSend_le h
  rw [messageChunk_eq h, List.length_take, List.length_drop]
  omega

end Sending

/-- The ledger after a call, before it moves to `Receiving`. -/
theorem sendingLedger_append_sent (t : List SendingEvent) {es : List SendingEvent}
    (hquiet : ∀ e ∈ es, e.isQuiet = true) (confirmed abandoned : Bool) (chunk : Bytes) :
    sendingLedger (t ++ (es ++ ((if confirmed then [.confirmed chunk] else []) ++
        if abandoned then [.abandoned] else []))) =
      { sendingLedger t with
        chunks := (sendingLedger t).chunks ++ if confirmed then [chunk] else [] } := by
  have habandoned : ∀ e ∈ (if abandoned then [SendingEvent.abandoned] else []),
      e.isQuiet = true := by
    cases abandoned <;> simp [SendingEvent.isQuiet]
  rw [← List.append_assoc, ← List.append_assoc, sendingLedger_append_quiet _ habandoned]
  cases confirmed with
  | false =>
    rw [if_neg Bool.false_ne_true, if_neg Bool.false_ne_true, List.append_nil, List.append_nil,
      sendingLedger_append_quiet _ hquiet]
  | true =>
    rw [if_pos rfl, if_pos rfl, sendingLedger_concat, sendingLedger_append_quiet _ hquiet]
    rfl

section Step

variable {c : Config Sender SendingEvent}

/-- A session begins. -/
theorem ChunksSound.begin (hc : ChunksSound c) (buffer : Bytes) :
    ChunksSound (advance Sender.step c (.begin buffer)) := by
  unfold advance Sender.step
  cases hsession : c.state.session with
  | some session => simpa [hsession] using hc
  | none =>
    simp only [Option.isNone_none, if_true]
    have hledger := sendingLedger_concat c.trace (.began (cstr buffer))
    constructor
    · rw [hledger]
      simpa [SendingLedger.after] using hc.position
    · rw [hledger]
      exact nofun
    · rintro _ _ ⟨⟩
      rw [hledger]
      exact ⟨rfl, List.take_zero.symm, .inl ⟨rfl, rfl⟩⟩
    · exact hc.moved.concat nofun

/-- One more chunk of a session. -/
theorem chunks_concat {message : Bytes} {start size : Nat} {chunks : List Bytes}
    (h : chunks.flatten = (message.drop start).take chunks.flatten.length)
    (hsize : start + chunks.flatten.length + size ≤ message.length) :
    (chunks ++ [(message.drop (start + chunks.flatten.length)).take size]).flatten =
      (message.drop start).take
        (chunks ++ [(message.drop (start + chunks.flatten.length)).take size]).flatten.length := by
  have hlength : ((message.drop (start + chunks.flatten.length)).take size).length = size := by
    rw [List.length_take, List.length_drop]
    omega
  rw [List.flatten_append, List.length_append, List.flatten_singleton, hlength, List.take_add,
    List.drop_drop, ← h]

/-- **What a call makes of the ledger**: it goes on with a chunk, or not. -/
theorem ChunksSound.sent (hc : ChunksSound c) {buffer : Bytes} {object : Sending}
    (hsession : c.state.session = some (buffer, object)) {confirmed : Bool}
    (hconfirmed : confirmed = true → c.state.currentMessagePosition < (cstr buffer).length) :
    let position := c.state.currentMessagePosition
    let chunks := (sendingLedger c.trace).chunks ++
      if confirmed then [Sending.messageChunk buffer position] else []
    (if confirmed then position + Sending.sizeToSend (cstr buffer).length position else position) =
        ((sendingLedger c.trace).earlier ++ chunks).flatten.length ∧
      (∀ chunk ∈ chunks, chunk.length ≤ 256) ∧
      chunks.flatten = ((cstr buffer).drop (sendingLedger c.trace).earlier.flatten.length).take
        chunks.flatten.length := by
  obtain ⟨-, hchunks, -⟩ := hc.session buffer object hsession
  have hposition := hc.position
  dsimp only
  cases confirmed with
  | false =>
    rw [if_neg Bool.false_ne_true, if_neg Bool.false_ne_true, List.append_nil]
    exact ⟨hposition, hc.short, hchunks⟩
  | true =>
    have hlt := hconfirmed rfl
    have hsize := Sending.sizeToSend_le (Nat.le_of_lt hlt)
    have hlength := Sending.length_messageChunk (Nat.le_of_lt hlt)
    have hbound : Sending.sizeToSend (cstr buffer).length c.state.currentMessagePosition ≤ 256 :=
      Nat.min_le_right _ _
    have hplace : c.state.currentMessagePosition = (sendingLedger c.trace).earlier.flatten.length +
        (sendingLedger c.trace).chunks.flatten.length := by
      rw [hposition, List.flatten_append, List.length_append]
    rw [if_pos rfl, if_pos rfl]
    refine ⟨?_, List.forall_mem_append.mpr ⟨hc.short, ?_⟩, ?_⟩
    · rw [← List.append_assoc, List.flatten_append, List.length_append, ← hposition,
        List.flatten_singleton, hlength]
    · intro chunk hchunk
      rw [List.mem_singleton.mp hchunk, hlength]
      exact hbound
    · rw [Sending.messageChunk_eq (Nat.le_of_lt hlt)]
      rw [hplace] at hsize ⊢
      exact chunks_concat hchunks hsize

/-- **A call of a session.** -/
theorem ChunksSound.call (hc : ChunksSound c) (i : SendingPoll) :
    ChunksSound (advance Sender.step c (.call i)) := by
  unfold advance Sender.step
  cases hsession : c.state.session with
  | none => simpa using hc
  | some session =>
    obtain ⟨buffer, object⟩ := session
    obtain ⟨hmessage, -, hplace⟩ := hc.session buffer object hsession
    dsimp only [Sending.exchangeMessages]
    have hquiet := object.sendChunck_quiet c.state.counter
      (Sending.messageChunk buffer c.state.currentMessagePosition) i
    -- the first call of a session confirms nothing, so nothing is confirmed past the end
    have hconfirmed : (object.sendChunck c.state.counter
        (Sending.messageChunk buffer c.state.currentMessagePosition) i).confirmed = true →
          c.state.currentMessagePosition < (cstr buffer).length := by
      rcases hplace with ⟨rfl, -⟩ | hlt
      · rw [Sending.sendChunck_initial]
        exact nofun
      · exact fun _ => hlt
    generalize object.sendChunck c.state.counter
      (Sending.messageChunk buffer c.state.currentMessagePosition) i = sent at hquiet hconfirmed ⊢
    obtain ⟨hposition, hshort, hchunks⟩ := hc.sent hsession hconfirmed
    have hledger := sendingLedger_append_sent c.trace hquiet sent.confirmed sent.abandoned
      (Sending.messageChunk buffer c.state.currentMessagePosition)
    generalize hevents : sent.events ++ ((if sent.confirmed then
      [SendingEvent.confirmed (Sending.messageChunk buffer c.state.currentMessagePosition)] else []) ++
        if sent.abandoned then [SendingEvent.abandoned] else []) = events at hledger ⊢
    have hmoved : PrecededBy (fun before => (sendingLedger before).Whole ↔ (sendingLedger before).Fresh)
        .receiving (c.trace ++ events) := by
      refine hc.moved.append ?_
      rw [← hevents]
      intro hmem
      rcases List.mem_append.mp hmem with hmem | hmem
      · exact Bool.false_ne_true (hquiet _ hmem)
      · cases sent.confirmed <;> cases sent.abandoned <;> simp at hmem
    generalize (if sent.confirmed then c.state.currentMessagePosition +
      Sending.sizeToSend (cstr buffer).length c.state.currentMessagePosition
        else c.state.currentMessagePosition) = position at hposition ⊢
    split
    · next hend =>
      have hafter : sendingLedger (c.trace ++ (events ++ [.receiving])) =
          ⟨(sendingLedger c.trace).message, [], []⟩ := by
        rw [← List.append_assoc, sendingLedger_concat, hledger]
        rfl
      refine ⟨?_, ?_, nofun, ?_⟩
      · rw [hafter]
        rfl
      · rw [hafter]
        exact nofun
      · rw [← List.append_assoc]
        refine hmoved.concat fun _ => ?_
        rw [hledger]
        exact whole_iff_fresh hmessage hshort hchunks (hposition ▸ hend)
    · next hmore =>
      refine ⟨?_, ?_, ?_, hmoved⟩
      · rw [hledger]
        exact hposition
      · rw [hledger]
        exact hshort
      · intro buffer' object' hsome
        obtain ⟨-, hsome⟩ := Option.ite_none_left_eq_some.mp hsome
        obtain ⟨rfl, rfl⟩ := Prod.mk.inj (Option.some.inj hsome)
        rw [hledger]
        exact ⟨hmessage, hchunks, .inr (Nat.lt_of_not_le hmore)⟩

/-- **Every run keeps the position in step with the ledger.** -/
theorem run_chunksSound (is : List SenderInput) : ChunksSound (run Sender.step ⟨.initial, []⟩ is) :=
  run_induction ⟨rfl, nofun, nofun, precededBy_nil⟩
    (fun _ i hc => match i with
      | .begin buffer => hc.begin buffer
      | .call i => hc.call i)
    is

end Step

/-! ## A run

  The promise is about the moments at which a session moves to `Receiving`; the invariant has the
  equivalence at each of them. -/

/-- **Each session that moves to `Receiving` has sent its message, whole and in order, if and only if
    no byte was confirmed in a session that was given up before it** and after the last one that
    moved to `Receiving` (or its message is empty). -/
theorem sent_whole_iff (is : List SenderInput) :
    PrecededBy (fun before => (sendingLedger before).Whole) .receiving
        (run Sender.step ⟨.initial, []⟩ is).trace ↔
      PrecededBy (fun before => (sendingLedger before).Fresh) .receiving
        (run Sender.step ⟨.initial, []⟩ is).trace := by
  have hmoved := (run_chunksSound is).moved
  exact ⟨fun h before after heq => (hmoved before after heq).mp (h before after heq),
    fun h before after heq => (hmoved before after heq).mpr (h before after heq)⟩

/-- A message of 300 bytes is given up after its first chunk; the next message has five bytes. -/
def givenUp : List SenderInput :=
  let polls : List SendingPoll :=
    [⟨none, none, false⟩, ⟨some 62, none, false⟩, ⟨none, some (ascii "SEND OK"), false⟩] ++
      List.replicate 20 ⟨none, none, true⟩
  .begin (List.replicate 300 65) :: polls.map .call ++
    [.begin (ascii "HELLO"), .call ⟨none, none, false⟩]

/-- **Nothing of the next message is confirmed**, and its session moves to `Receiving`. -/
theorem nextMessage_lost :
    ¬ PrecededBy (fun before => (sendingLedger before).Whole) .receiving
      (run Sender.step ⟨.initial, []⟩ givenUp).trace := by
  intro h
  have hlast : (run Sender.step ⟨.initial, []⟩ givenUp).trace =
      (run Sender.step ⟨.initial, []⟩ givenUp).trace.dropLast ++ [.receiving] := by
    decide +kernel
  have hwhole := h _ [] hlast
  revert hwhole
  decide +kernel

end GatewayLoRa
