/-
  The REAL-TIME CLOCK, and where the times come from that it is set to.

  Three places call `set_time`.  `RetrievingTimeAndDate` cuts twelve characters out of the answer of
  the network, `ObtainingPositionInformation` scans them out of a position, and both give them to
  `timestampToEpoch`, which does not look at what its `sscanf` returns.
  `ObtaingTimeUTCThroughEthernet` asks a time server, and does not look at what `recvfrom` returns.
  Where nothing was read, what was on the stack is used.

  1. **The machine** (`System.clockStep`) — the system with its clock.  It does what the system
     does (`clock_refines`), so what was proved of the system's runs holds of the runs here.

  2. **Digits** (`timestampToEpoch_digits`) — of twelve digits the epoch is the one they spell,
     whatever was on the stack.

  3. **Sources** (`mem_withClock`, `NetworkTimeStored`) — which line or reply each time comes from.

  4. **The result** (`clock_sound_iff`) — in a run, the clock is only set to complete times if and
     only if it is only asked to be set to complete times.

  The crux is the first source.  The position and the reply of the server are read in the call that
  sets the clock, so what they say is in the call's arguments.  The time of the network is not: it
  is cut out of one answer, kept in the member `retrived` over any number of calls, and used when a
  later call reads `OK`.  So a statement about calls alone would have to mention the member, and say
  nothing of where it comes from.  The invariant closes the gap.  `networkLine` is a function of the
  trace, the first answer that was read since the state was entered, and `NetworkTimeStored` says
  that the member is what is cut out of that line.  It is kept because of three facts about a call
  of the connection:

  - nine of the ten states do not set the clock, and where they enter `RetrievingTimeAndDate`, it is
    with nothing retrieved and with a new beginning of the trace (`untimed_connect`);
  - `RetrievingTimeAndDate` keeps the first answer, and takes a line that begins with `+QLTS: ` only
    while it has none (`retrieving_connect`);
  - it sets the clock to what it had retrieved before the call, not to the line that it reads now
    (`setTime_enableAndConnect`).

  With the invariant the condition of the theorem is one on lines and datagrams, and in both
  directions the proof is by cases on the source.
-/

import GatewayLoRa.ConnectionSteps
import GatewayLoRa.GNSSConfirmation
import GatewayLoRa.Lib.ReadBack
import GatewayLoRa.ParsedFields
import GatewayLoRa.System

namespace GatewayLoRa

open CMemory Machine

/-! ## Timestamps

  The parser of timestamps, as it stands.  Its six variables are on the stack, and a conversion that
  fails leaves the rest of them as they were; they are an argument of the model. -/

/-- The variables that `timestampToEpoch` scans into. -/
structure TimestampInts where
  dd : Int
  mm : Int
  yy : Int
  hh : Int
  min : Int
  ss : Int

/-- `"%2d%2d%2d%2d%2d%2d"`, as the variables that it stores in. -/
def timestampFormat : List (Int → TimestampInts → TimestampInts) :=
  [fun v t => { t with dd := v }, fun v t => { t with mm := v }, fun v t => { t with yy := v },
    fun v t => { t with hh := v }, fun v t => { t with min := v }, fun v t => { t with ss := v }]

/-- `sscanf` of some `%2d`: the first that does not match ends it. -/
def scanTimestamp : List (Int → TimestampInts → TimestampInts) → Bytes → TimestampInts →
    TimestampInts
  | [], _, t => t
  | store :: stores, s, t =>
      match Stdio.scanIntWithin 32 2 s with
      | none => t
      | some (v, rest) => scanTimestamp stores rest (store v t)

/-- `timestampToEpoch`; its variables are not initialised. -/
def timestampToEpoch (mktime : Tm → Int) (uninitialised : TimestampInts) (timestamp : Bytes) :
    Int :=
  let t := scanTimestamp timestampFormat timestamp uninitialised
  -- `tm_mon` counts from 0, `tm_year` from 1900
  mktime ⟨t.dd, t.mm - 1, 2000 + t.yy - 1900, t.hh, t.min, t.ss⟩

/-! ## The time server

  One exchange with the server, as the socket shows it.  A reply of one to three bytes overwrites a
  part of the packet only, so the time is computed of the reply and of what is left of the packet.
  -/

/-- What `queryUTCTimeViaRemoteServer` finds: what `sendto` returns, the datagram that arrives
    before the time-out, and what is in the packet that it does not initialise. -/
structure UdpExchange where
  sendto : Int
  datagram : Option Bytes
  in_data : Vector UInt8 4

/-- `UdpSocket::recvfrom`: it waits until a datagram is not empty, and writes nothing of one that
    does not fit. -/
def recvfrom (size : Nat) (datagram : Option Bytes) : Option Bytes :=
  datagram.filter fun d => d ≠ [] ∧ d.length ≤ size

/-- `ntohl (secs) - NTP_EPOCH_OFFSET`. -/
def ntpSeconds (packet : Bytes) : UInt32 :=
  UInt32.ofNat (packet.foldl (fun n c => n * 256 + c.toNat) 0) - 2208988800

/-- `queryUTCTimeViaRemoteServer`: the time that it sets. -/
def queryUTCTimeViaRemoteServer (x : UdpExchange) : Option UInt32 :=
  if x.sendto < 0 then none
  else
    let received := (recvfrom 4 x.datagram).getD []
    some (ntpSeconds (received ++ x.in_data.toList.drop received.length))

/-! ## The system with its clock

  The calls of `set_time` are made visible: an event of the modem that stands for one is followed by
  an event of the clock.  Nothing is added to the state. -/

/-- The places that call `set_time`. -/
inductive ClockSource
  | network
  | position
  | server
  deriving DecidableEq

/-- What the system and its clock can be seen to do. -/
inductive ClockEvent
  | system (e : SystemEvent)
  | setTime (source : ClockSource) (seconds : Int)
  deriving DecidableEq

/-- A call of the system, with the socket that it finds and what is on the stack. -/
structure ClockCall (φ : Type) where
  call : SystemCall φ
  socket : UdpExchange
  uninitialised : TimestampInts

/-- An event, and the call of `set_time` that it stands for. -/
def SystemEvent.withClock (mktime : Tm → Int) (uninitialised : TimestampInts) :
    SystemEvent → List ClockEvent
  | .connection (.setTime timestamp) =>
      [.system (.connection (.setTime timestamp)),
        .setTime .network (timestampToEpoch mktime uninitialised timestamp)]
  | .gnss (.setTime timestamp) =>
      [.system (.gnss (.setTime timestamp)),
        .setTime .position (timestampToEpoch mktime uninitialised timestamp)]
  | e => [.system e]

variable {φ : Type}

/-- The call goes to the time server. -/
def System.queriesServer (s : System φ) : SystemCall φ → Bool
  | .other .queryUTCTimeViaRemoteServer _ =>
      match s.gateway.currentState with
      | .obtaingTimeUTCThroughEthernet _ => true
      | _ => false
  | _ => false

/-- **One call**, and what it does to the clock. -/
def System.clockStep (E : Platform φ) (mktime : Tm → Int) (s : System φ) (i : ClockCall φ) :
    System φ × List ClockEvent :=
  let (s', events) := s.step E i.call
  let queried := if s.queriesServer i.call then queryUTCTimeViaRemoteServer i.socket else none
  (s', (queried.toList.map fun secs => .setTime .server secs.toNat) ++
    events.flatMap (SystemEvent.withClock mktime i.uninitialised))

/-- The event of the system. -/
def ClockEvent.ofSystem : ClockEvent → Option SystemEvent
  | .system e => some e
  | .setTime .. => none

variable {E : Platform φ} {mktime : Tm → Int}

/-- Without the events of the clock, the events are those of the system. -/
theorem filterMap_withClock (u : TimestampInts) (es : List SystemEvent) :
    (es.flatMap (SystemEvent.withClock mktime u)).filterMap ClockEvent.ofSystem = es := by
  induction es with
  | nil => rfl
  | cons e es ih =>
    have he : (e.withClock mktime u).filterMap ClockEvent.ofSystem = [e] := by
      unfold SystemEvent.withClock
      split <;> rfl
    rw [List.flatMap_cons, List.filterMap_append, he, ih]
    rfl

/-- What the system does in a call is what it does without its clock. -/
theorem clockStep_system (s : System φ) (i : ClockCall φ) :
    (s.clockStep E mktime i).2.filterMap ClockEvent.ofSystem = (s.step E i.call).2 := by
  have hqueried (secs : Option UInt32) :
      (secs.toList.map fun secs => ClockEvent.setTime .server secs.toNat).filterMap
        ClockEvent.ofSystem = [] := by
    cases secs <;> rfl
  show List.filterMap ClockEvent.ofSystem ((_ : List ClockEvent) ++ _) = _
  rw [List.filterMap_append, hqueried, filterMap_withClock]
  rfl

/-- **The clock changes nothing**: a run with it is a run of the system. -/
theorem clock_refines (c : Config (System φ) ClockEvent) (is : List (ClockCall φ)) :
    run (System.step E) ⟨c.state, c.trace.filterMap ClockEvent.ofSystem⟩ (is.map ClockCall.call) =
      ⟨(run (System.clockStep E mktime) c is).state,
        (run (System.clockStep E mktime) c is).trace.filterMap ClockEvent.ofSystem⟩ := by
  induction is generalizing c with
  | nil => rfl
  | cons i is ih =>
    rw [run_cons, ← ih, List.map_cons, run_cons]
    congr 1
    show Config.mk _ _ = Config.mk _ ((c.trace ++ (c.state.clockStep E mktime i).2).filterMap _)
    rw [List.filterMap_append, clockStep_system]
    rfl

/-! ## Twelve digits

  Each conversion `%2d` takes two digits and leaves the rest to the next one, so six of them take
  twelve.  What two digits spell is not checked: the thirteenth month passes. -/

/-- A complete time, `DDMMYYHHMMSS`. -/
structure CompleteTime where
  digits : Bytes
  length_digits : digits.length = 12
  isDigit_digits : ∀ c ∈ digits, Stdio.isDigit c = true

/-- The string is a complete time. -/
def IsTime (s : Bytes) : Bool := s.length = 12 && s.all Stdio.isDigit

/-- The test is that of the structure. -/
theorem isTime_iff {s : Bytes} : IsTime s = true ↔ ∃ d : CompleteTime, d.digits = s := by
  rw [IsTime, Bool.and_eq_true, decide_eq_true_eq, List.all_eq_true]
  constructor
  · rintro ⟨hlength, hdigits⟩
    exact ⟨⟨s, hlength, hdigits⟩, rfl⟩
  · rintro ⟨d, rfl⟩
    exact ⟨d.length_digits, d.isDigit_digits⟩

/-- The number that two of the digits spell. -/
def CompleteTime.two (d : CompleteTime) (k : Nat) : Int := Stdio.decimal ((d.digits.drop k).take 2)

/-- The date and the time that the digits spell. -/
def CompleteTime.tm (d : CompleteTime) : Tm :=
  ⟨d.two 0, d.two 2 - 1, 2000 + d.two 4 - 1900, d.two 6, d.two 8, d.two 10⟩

/-- One conversion takes the next two of the digits. -/
theorem scanTimestamp_digits (store : Int → TimestampInts → TimestampInts)
    (stores : List (Int → TimestampInts → TimestampInts)) (d : CompleteTime) {k : Nat} (hk : k ≤ 10)
    (t : TimestampInts) :
    scanTimestamp (store :: stores) (d.digits.drop k) t =
      scanTimestamp stores (d.digits.drop (k + 2)) (store (d.two k) t) := by
  let ds := (d.digits.drop k).take 2
  have hlength : ds.length = 2 := by
    have := d.length_digits
    simp only [ds, List.length_take, List.length_drop]
    omega
  have hdigits : ∀ c ∈ ds, Stdio.isDigit c = true := fun c hc =>
    d.isDigit_digits c (List.mem_of_mem_drop (List.mem_of_mem_take hc))
  have hsplit : d.digits.drop k = ds ++ d.digits.drop (k + 2) := by
    rw [← List.drop_drop]
    exact (List.take_append_drop 2 _).symm
  have hne : ds ≠ [] := by
    intro hnil
    rw [hnil] at hlength
    cases hlength
  have hfits : 10 ^ ds.length ≤ 2 ^ (32 - 1) := by
    rw [hlength]
    decide
  -- two digits fit an int, so the scan is exact
  have hscan := Stdio.scanIntWithin_digits hne hdigits hfits (d.digits.drop (k + 2))
  rw [hlength, ← hsplit] at hscan
  rw [scanTimestamp, hscan]
  rfl

/-- **The epoch of a complete time** is the one that its digits spell. -/
theorem timestampToEpoch_digits (u : TimestampInts) (d : CompleteTime) :
    timestampToEpoch mktime u d.digits = mktime d.tm := by
  have hscan : scanTimestamp timestampFormat (d.digits.drop 0) u =
      ⟨d.two 0, d.two 2, d.two 4, d.two 6, d.two 8, d.two 10⟩ := by
    unfold timestampFormat
    iterate 6 rw [scanTimestamp_digits _ _ d (by decide)]
    rfl
  rw [List.drop_zero] at hscan
  unfold timestampToEpoch
  rw [hscan]
  rfl

/-! ## The time of the network

  The answer is cut by positions, not scanned.  The invariant `NetworkTimeStored` is about the whole
  time between entering the state and leaving it. -/

/-- The digits of an answer, `+QLTS: "YYYY/MM/DD,HH:MM:SS`, where they stand. -/
def networkDigits (line : Bytes) : Bytes :=
  [16, 13, 10, 19, 22, 25].flatMap fun k => (line.drop k).take 2

/-- A line that begins with the header is cut, and no other. -/
theorem retrieveNetworkTime_eq (line : Bytes) :
    RetrievingTimeAndDate.retrieveNetworkTime line =
      if ascii "+QLTS: " <+: line then some (networkDigits line) else none := by
  have hheader : (ascii "+QLTS: ").length = 7 := by decide
  simp only [RetrievingTimeAndDate.retrieveNetworkTime, networkDigits, hheader, List.flatMap_cons,
    List.flatMap_nil, List.append_nil, List.append_assoc]

/-- The answer that an event reads. -/
def ConnectionEvent.networkTime : ConnectionEvent → Option Bytes
  | .read line => if ascii "+QLTS: " <+: line then some line else none
  | _ => none

/-- **The first answer** that the connection read since it entered its state. -/
def networkLine (es : List ConnectionEvent) : Option Bytes :=
  (since (fun e => e.entered.isSome) es).findSome? ConnectionEvent.networkTime

/-- Events that enter no state add an answer, if there was none before. -/
theorem networkLine_append {t es : List ConnectionEvent} (h : ∀ e ∈ es, e.entered.isSome = false) :
    networkLine (t ++ es) = (networkLine t).or (es.findSome? ConnectionEvent.networkTime) := by
  rw [networkLine, since_append h, List.findSome?_append]
  rfl

/-- Entering a state forgets it. -/
theorem networkLine_enters (t : List ConnectionEvent) (s : ConnectionState) :
    networkLine (t ++ [.changeConnectionState s]) = none := by
  rw [networkLine, since_concat]
  rfl

/-- **The invariant**: what `RetrievingTimeAndDate` has retrieved, it has cut out of the first
    answer. -/
def NetworkTimeStored (s : ConnectionState) (es : List ConnectionEvent) : Prop :=
  ∀ a, s = .retrievingTimeAndDate a → a.retrived = (networkLine es).map networkDigits

/-- A call of another step: it does not set the clock, and `RetrievingTimeAndDate` begins anew. -/
structure Untimed (r : ConnectionStep) : Prop where
  sets : ∀ timestamp, .setTime timestamp ∉ r.events
  enters : ∀ a, r.state = .retrievingTimeAndDate a →
    a = .initial ∧ ∃ es, r.events = es ++ [.changeConnectionState r.state]

section Untimed

variable {es : List ConnectionEvent} {timestamp : Bytes}

/-- The begin of a call, the commands it sends and the line it reads, sets no clock. -/
theorem setTime_not_mem_begins {r : Bool} {cs : List Bytes} {line : Option Bytes} :
    .setTime timestamp ∉ ConnectionEvent.begins r cs line := by
  intro h
  rcases List.mem_append.mp h with h | h
  · cases r with
    | false => cases h
    | true =>
      obtain ⟨c, -, hc⟩ := List.mem_map.mp h
      cases hc
  · obtain ⟨l, -, hl⟩ := List.mem_map.mp h
    cases hl

/-- A change of state is such a call, -/
theorem Untimed.of_changes {next : ConnectionState} (hes : ∀ timestamp, .setTime timestamp ∉ es)
    (hnext : ∀ a, next = .retrievingTimeAndDate a → a = .initial) :
    Untimed (.changes next es) := by
  refine ⟨fun timestamp h => ?_, fun a ha => ⟨hnext a ha, es, rfl⟩⟩
  rcases List.mem_append.mp h with h | h
  · exact hes timestamp h
  · cases List.mem_singleton.mp h

/-- as is one that stays, -/
theorem Untimed.of_stays {st : ConnectionState} {status : CellularConnectionStatus}
    (hes : ∀ timestamp, .setTime timestamp ∉ es) (hst : ∀ a, st ≠ .retrievingTimeAndDate a) :
    Untimed ⟨st, es, status⟩ :=
  ⟨hes, fun a ha => absurd ha (hst a)⟩

/-- one that only looks at its timer, -/
theorem Untimed.of_refresh {maxAttempts attempts : Nat} {expired : Bool}
    {state : Bool → Nat → ConnectionState} {giveUp : CellularConnectionStatus}
    (hes : ∀ timestamp, .setTime timestamp ∉ es)
    (hstate : ∀ b n a, state b n ≠ .retrievingTimeAndDate a) :
    Untimed (refresh maxAttempts state giveUp attempts expired es) := by
  unfold refresh
  (repeat' split) <;> exact .of_stays hes (hstate _ _)

/-- one that waits for `OK`, -/
theorem untimed_awaitOK {command : Bytes} {state : Bool → Nat → ConnectionState}
    {next : ConnectionState} {giveUp : CellularConnectionStatus} {r : Bool} {n : Nat} {i : ATPoll}
    (hnext : ∀ a, next ≠ .retrievingTimeAndDate a)
    (hstate : ∀ b n a, state b n ≠ .retrievingTimeAndDate a) :
    Untimed (awaitOK command state next giveUp r n i) := by
  dsimp only [awaitOK]
  split
  · exact .of_changes (fun _ => setTime_not_mem_begins) fun a ha => absurd ha (hnext a)
  · exact .of_refresh (fun _ => setTime_not_mem_begins) hstate

/-- and one that asks the modem something, if it stores what it reads elsewhere. -/
theorem untimed_ask {δ : Type} {command : Bytes} {state : Asking δ → ConnectionState}
    {retriv : Bytes → Option δ} {stores : δ → List ConnectionEvent} {next : ConnectionState}
    {giveUp : CellularConnectionStatus} {keeps : Bool} {a : Asking δ} {i : ATPoll}
    (hnext : ∀ a, next = .retrievingTimeAndDate a → a = .initial)
    (hstate : ∀ b a, state b ≠ .retrievingTimeAndDate a)
    (hstores : ∀ d timestamp, .setTime timestamp ∉ stores d) :
    Untimed (ask command state retriv stores next giveUp keeps a i) := by
  dsimp only [ask]
  split
  · exact .of_refresh (fun _ => setTime_not_mem_begins) fun _ _ => hstate _
  next d _ =>
    split
    · refine .of_changes (fun timestamp h => ?_) hnext
      rcases List.mem_append.mp h with h | h
      · exact setTime_not_mem_begins h
      · exact hstores d timestamp h
    · exact .of_refresh (fun _ => setTime_not_mem_begins) fun _ _ => hstate _

/-- **Only `RetrievingTimeAndDate`** sets the clock.  Most of the other states are instances of the
    two shapes above; three have bodies of their own. -/
theorem untimed_connect {s : ConnectionState} (hs : ∀ a, s ≠ .retrievingTimeAndDate a) (i : ATPoll) :
    Untimed (s.connect i) := by
  cases s with
  | connectionUnavailableState => exact ⟨nofun, nofun⟩
  | idleState r n =>
    dsimp only [ConnectionState.connect, IdleState.connect]
    split
    · exact .of_changes (fun _ => setTime_not_mem_begins) nofun
    split <;> exact .of_stays (fun _ => setTime_not_mem_begins) nofun
  | checkingSignalStrength a n =>
    dsimp only [ConnectionState.connect, CheckingSignalStrength.connect]
    split
    · exact .of_refresh (fun _ => setTime_not_mem_begins) nofun
    split
    · split
      · refine .of_changes (fun timestamp h => ?_) nofun
        rcases List.mem_append.mp h with h | h
        · exact setTime_not_mem_begins h
        · cases List.mem_singleton.mp h
      split
      · exact .of_stays (fun _ => setTime_not_mem_begins) nofun
      · exact .of_refresh (fun _ => setTime_not_mem_begins) nofun
    · exact .of_refresh (fun _ => setTime_not_mem_begins) nofun
  | consultingIMEI a =>
    exact untimed_ask nofun nofun fun d timestamp h => by cases List.mem_singleton.mp h
  | consultingSIMCardStatus a =>
    -- the SIM card may be asked for again, and rebooting is no call of `set_time` either
    have hwait (retrived : Option Unit) (es : List ConnectionEvent)
        (hes : ∀ timestamp, .setTime timestamp ∉ es) :
        Untimed (
          let step := refresh 20 (fun expired n => .consultingSIMCardStatus
            ⟨expired, if expired then none else retrived, n⟩)
            .invalidSim a.connectionAttempts i.expired es
          if step.status = .invalidSim then { step with events := step.events ++ [.reboot] }
          else step) := by
      extract_lets step
      have hstep : Untimed step := .of_refresh hes nofun
      split
      · refine ⟨fun timestamp h => ?_, fun a' ha' => ?_⟩
        · rcases List.mem_append.mp h with h | h
          · exact hstep.sets timestamp h
          · cases List.mem_singleton.mp h
        · have hstate : ∀ a', step.state ≠ .retrievingTimeAndDate a' := by
            dsimp only [step, refresh]
            (repeat' split) <;> nofun
          exact absurd ha' (hstate a')
      · exact hstep
    dsimp only [ConnectionState.connect, ConsultingSIMCardStatus.connect]
    split
    · refine hwait _ _ fun timestamp h => ?_
      rcases List.mem_append.mp h with h | h
      · exact setTime_not_mem_begins h
      · split at h
        · cases List.mem_singleton.mp h
        · cases h
    split
    · exact .of_changes (fun _ => setTime_not_mem_begins) nofun
    · exact hwait _ _ fun _ => setTime_not_mem_begins
  | consultingNetworkStatus a =>
    have hstores (d : CellData) (es : List ConnectionEvent)
        (hes : ∀ timestamp, .setTime timestamp ∉ es) :
        ∀ timestamp, .setTime timestamp ∉ es ++ [.stored (.cell d)] := by
      intro timestamp h
      rcases List.mem_append.mp h with h | h
      · exact hes timestamp h
      · cases List.mem_singleton.mp h
    have hbegins (d : CellData) := hstores d
      (ConnectionEvent.begins a.readyToSend [ascii "AT+CREG=2", ascii "AT+CREG?"]
        (readATResponse 128 i.line)) fun _ => setTime_not_mem_begins
    dsimp only [ConnectionState.connect, ConsultingNetworkStatus.connect]
    split
    · exact .of_refresh (fun _ => setTime_not_mem_begins) nofun
    split
    · split
      · exact .of_changes (hbegins _) nofun
      · exact .of_refresh (hbegins _) nofun
    · exact .of_refresh (fun _ => setTime_not_mem_begins) nofun
  -- the one state that `RetrievingTimeAndDate` is entered from, as a new object
  | consultingAvailableOperators a =>
    refine untimed_ask (fun a' ha' => ?_) nofun fun d timestamp h => by
      cases List.mem_singleton.mp h
    exact (ConnectionState.retrievingTimeAndDate.inj ha').symm
  | retrievingTimeAndDate a => exact absurd rfl (hs a)
  | attachingToPacketService r n => exact untimed_awaitOK nofun nofun
  | definePDPContext r n => exact untimed_awaitOK nofun nofun
  | connectedState => exact ⟨nofun, nofun⟩

end Untimed

/-- **A call of `RetrievingTimeAndDate`**: on `OK` it sets the clock to what it has retrieved and
    goes on; otherwise it keeps that, or takes the line that it reads for an answer. -/
theorem retrieving_connect (a : Asking Bytes) (i : ATPoll) :
    let line := readATResponse 128 i.line
    let r := (ConnectionState.retrievingTimeAndDate a).connect i
    (line = some okLine ∧ (∃ d, a.retrived = some d ∧
        ∀ timestamp, .setTime timestamp ∈ r.events ↔ timestamp = d) ∧
      r.state = .attachingToPacketService true 0) ∨
    ((line = some okLine → a.retrived = none) ∧
      r.events = ConnectionEvent.begins a.readyToSend [ascii "AT+QLTS=1"] line ∧
      ∃ a', r.state = .retrievingTimeAndDate a' ∧
        a'.retrived = a.retrived.or (line.bind RetrievingTimeAndDate.retrieveNetworkTime)) := by
  -- the timer leaves what was retrieved
  have hkeeps (b : Bool) (d : Option Bytes) :
      (if b && !true then none else d) = d := by
    cases b <;> rfl
  have hwait (d : Option Bytes) (es : List ConnectionEvent) :
      let r := refresh 20 (fun expired n => .retrievingTimeAndDate
        ⟨expired, if expired && !true then none else d, n⟩) .unavaibleToRetrivDatetime
        a.connectionAttempts i.expired es
      r.events = es ∧ ∃ a', r.state = .retrievingTimeAndDate a' ∧ a'.retrived = d := by
    simp only [refresh, hkeeps]
    (repeat' split) <;> exact ⟨rfl, _, rfl, rfl⟩
  dsimp only [ConnectionState.connect, RetrievingTimeAndDate.connect, ask]
  cases ha : a.retrived with
  | none =>
    obtain ⟨hevents, hstate⟩ := hwait
      ((readATResponse 128 i.line).bind RetrievingTimeAndDate.retrieveNetworkTime)
      (ConnectionEvent.begins a.readyToSend [ascii "AT+QLTS=1"] (readATResponse 128 i.line))
    exact Or.inr ⟨fun _ => rfl, hevents, hstate⟩
  | some d =>
    dsimp only
    split
    · next hok =>
      refine Or.inl ⟨hok, ⟨d, rfl, fun timestamp => ?_⟩, rfl⟩
      have hbegins : .setTime timestamp ∉ ConnectionEvent.begins a.readyToSend
          [ascii "AT+QLTS=1"] (readATResponse 128 i.line) := setTime_not_mem_begins
      simp [ConnectionStep.changes, hbegins]
    · next hok =>
      obtain ⟨hevents, hstate⟩ := hwait (some d)
        (ConnectionEvent.begins a.readyToSend [ascii "AT+QLTS=1"] (readATResponse 128 i.line))
      exact Or.inr ⟨fun h => absurd h hok, hevents, hstate⟩

/-- The begin of a call enters no state, and reads its line. -/
theorem networkLine_begins (t : List ConnectionEvent) (r : Bool) (cs : List Bytes)
    (line : Option Bytes) :
    networkLine (t ++ ConnectionEvent.begins r cs line) =
      (networkLine t).or (line.bind fun l => if ascii "+QLTS: " <+: l then some l else none) := by
  have hcommands (cs : List Bytes) : (cs.map ConnectionEvent.command).findSome?
      ConnectionEvent.networkTime = none := by
    induction cs with
    | nil => rfl
    | cons c cs ih => exact ih
  have hsent : (if r = true then cs.map ConnectionEvent.command else []).findSome?
      ConnectionEvent.networkTime = none := by
    split
    · exact hcommands cs
    · rfl
  rw [networkLine_append, ConnectionEvent.begins, List.findSome?_append, hsent, Option.none_or]
  · congr 1
    cases line with
    | none => rfl
    | some l =>
      show ([ConnectionEvent.read l]).findSome? _ = _
      rw [List.findSome?_singleton]
      rfl
  · intro e he
    rcases List.mem_append.mp he with he | he
    · split at he
      · obtain ⟨c, -, rfl⟩ := List.mem_map.mp he
        rfl
      · cases he
    · obtain ⟨l, -, rfl⟩ := List.mem_map.mp he
      rfl

/-- The status that a call returns is no answer. -/
theorem networkLine_status (t : List ConnectionEvent) (st : CellularConnectionStatus) :
    networkLine (t ++ [.status st]) = networkLine t := by
  rw [networkLine_append fun e he => by obtain rfl := List.mem_singleton.mp he; rfl]
  exact Option.or_none

/-- **Each call keeps the invariant.** A call of `RetrievingTimeAndDate` adds its line to both
    sides; any other call makes both sides empty, or leaves the state without a claim. -/
theorem NetworkTimeStored.enableAndConnect {s : ConnectionState} {t : List ConnectionEvent}
    (h : NetworkTimeStored s t) (i : ATPoll) :
    NetworkTimeStored (s.enableAndConnect i).state (t ++ (s.enableAndConnect i).events) := by
  -- whatever is done before, a step that is entered has retrieved nothing
  have huntimed {r : ConnectionStep} (hr : Untimed r) (before : List ConnectionEvent) :
      NetworkTimeStored r.state (t ++ (before ++ r.events ++ [.status r.status])) := by
    intro a ha
    obtain ⟨rfl, es, hes⟩ := hr.enters a ha
    rw [hes, ← List.append_assoc, networkLine_status, ← List.append_assoc, ← List.append_assoc,
      networkLine_enters]
    rfl
  by_cases hs : ∃ a, s = .retrievingTimeAndDate a
  · obtain ⟨a, rfl⟩ := hs
    intro a' ha'
    have ha' : ((ConnectionState.retrievingTimeAndDate a).connect i).state =
        .retrievingTimeAndDate a' := ha'
    rcases retrieving_connect a i with ⟨-, -, hnext⟩ | ⟨-, hevents, b, hstate, hretrived⟩
    · rw [hnext] at ha'
      cases ha'
    · obtain rfl := ConnectionState.retrievingTimeAndDate.inj (ha'.symm.trans hstate)
      have hevents : ((ConnectionState.retrievingTimeAndDate a).enableAndConnect i).events =
          ConnectionEvent.begins a.readyToSend [ascii "AT+QLTS=1"] (readATResponse 128 i.line) ++
            [.status ((ConnectionState.retrievingTimeAndDate a).connect i).status] := by
        rw [← hevents]
        rfl
      rw [hevents, ← List.append_assoc, networkLine_status, networkLine_begins, hretrived, h a rfl]
      -- the first answer is kept; without one, the line of this call may be it
      cases networkLine t with
      | some l => rfl
      | none =>
        cases readATResponse 128 i.line with
        | none => rfl
        | some l =>
          show RetrievingTimeAndDate.retrieveNetworkTime l =
            Option.map networkDigits (if ascii "+QLTS: " <+: l then some l else none)
          rw [retrieveNetworkTime_eq]
          split <;> rfl
  · cases s with
    | connectionUnavailableState =>
      exact huntimed (untimed_connect (s := .idleState true 0) nofun i)
        [.changeConnectionState (.idleState true 0)]
    | retrievingTimeAndDate a => exact absurd ⟨a, rfl⟩ hs
    | _ => exact huntimed (untimed_connect (fun a ha => hs ⟨a, ha⟩) i) []

/-- What a call sets the clock to, it had retrieved before, and now it reads `OK`. -/
theorem setTime_enableAndConnect {s : ConnectionState} {i : ATPoll} {timestamp : Bytes} :
    .setTime timestamp ∈ (s.enableAndConnect i).events ↔
      readATResponse 128 i.line = some okLine ∧
        ∃ a, s = .retrievingTimeAndDate a ∧ a.retrived = some timestamp := by
  have huntimed {r : ConnectionStep} (hr : Untimed r) (before : List ConnectionEvent)
      (hbefore : .setTime timestamp ∉ before) :
      .setTime timestamp ∉ before ++ r.events ++ [.status r.status] := by
    intro h
    rcases List.mem_append.mp h with h | h
    · exact (List.mem_append.mp h).elim hbefore (hr.sets timestamp)
    · cases List.mem_singleton.mp h
  cases s with
  | connectionUnavailableState =>
    refine iff_of_false (huntimed (untimed_connect (s := .idleState true 0) nofun i)
      [.changeConnectionState (.idleState true 0)] fun h => ?_) ?_
    · cases List.mem_singleton.mp h
    · rintro ⟨-, a, ha, -⟩
      cases ha
  | retrievingTimeAndDate a =>
    have hmem : .setTime timestamp ∈ ((ConnectionState.retrievingTimeAndDate a).enableAndConnect
        i).events ↔ .setTime timestamp ∈ ((ConnectionState.retrievingTimeAndDate a).connect i).events := by
      show _ ∈ [] ++ _ ++ [_] ↔ _
      simp
    rw [hmem]
    rcases retrieving_connect a i with ⟨hok, ⟨d, ha, hsets⟩, -⟩ | ⟨hnone, hevents, -⟩
    · rw [hsets]
      constructor
      · rintro rfl
        exact ⟨hok, a, rfl, ha⟩
      · rintro ⟨-, a', ha', htime⟩
        obtain rfl := ConnectionState.retrievingTimeAndDate.inj ha'
        exact Option.some.inj (htime.symm.trans ha)
    · rw [hevents]
      refine iff_of_false setTime_not_mem_begins ?_
      rintro ⟨hok, a', ha', htime⟩
      obtain rfl := ConnectionState.retrievingTimeAndDate.inj ha'
      rw [hnone hok] at htime
      cases htime
  | _ =>
    refine iff_of_false (huntimed (untimed_connect (fun a ha => ?_) i) [] List.not_mem_nil) ?_
    · cases ha
    · rintro ⟨-, a, ha, -⟩
      cases ha

/-! ## The time of a position

  The position is scanned by one format of eleven conversions.  If all of them succeed, each has
  read the piece between its commas, so the time and the date are where they stand in the line. -/

/-- The digits of a position: its date, the tenth field, and the begin of its time, the first. -/
def positionDigits (line : Bytes) : Bytes :=
  let fields := ((line.drop 9).dropWhile Stdio.isSpace).splitOn 44
  fields[9]?.getD [] ++ (fields[0]?.getD []).take 6

namespace ObtainingPositionInformation

/-- The conversions of `positionFormat`, the commas left out. -/
def positionFields : List (Stdio.Directive φ (Scanned φ)) :=
  [.field 9 44 fun v s => { s with utc := v },
    .float fun v s => { s with Geodata := { s.Geodata with latitude := v } },
    .float fun v s => { s with Geodata := { s.Geodata with longitude := v } },
    .float fun v s => { s with Geodata := { s.Geodata with hdop := v } },
    .float fun v s => { s with Geodata := { s.Geodata with altitude := v } },
    .int 32 fun _ s => s, .float fun v s => { s with Geodata := { s.Geodata with cog := v } },
    .float fun v s => { s with Geodata := { s.Geodata with spkm := v } }, .float fun _ s => s,
    .field 6 44 fun v s => { s with date := v }, .int 32 fun _ s => s]

theorem positionFormat_eq :
    (positionFormat : List (Stdio.Directive φ (Scanned φ))) = Stdio.separate positionFields := rfl

theorem length_positionFields :
    (positionFields : List (Stdio.Directive φ (Scanned φ))).length = 11 := rfl

theorem positionFields_local {F : Floats φ} (hF : F.Lawful) :
    ∀ d ∈ (positionFields : List (Stdio.Directive φ (Scanned φ))), d.Local F.strtof := by
  have hfloat := Stdio.float_local (σ := Scanned φ) hF.strtof_comma hF.strtof_suffix
  unfold positionFields
  simp only [List.forall_mem_cons]
  exact ⟨Stdio.field_local _ _, hfloat _, hfloat _, hfloat _, hfloat _, Stdio.int_local _ _,
    hfloat _, hfloat _, hfloat _, Stdio.field_local _ _, Stdio.int_local _ _, List.forall_mem_nil _⟩

/-- **What is taken for a position** has its timestamp where it stands. -/
theorem retrivPositionInfo_timestamp {F : Floats φ} (hF : F.Lawful) {line : Bytes}
    {Geodata position : GNSSData φ} (h : retrivPositionInfo F line Geodata = some position) :
    ascii "+QGPSLOC:" <+: line ∧ position.timestamp = positionDigits line := by
  have hheader : (ascii "+QGPSLOC:").length = 9 := by decide
  unfold retrivPositionInfo at h
  simp only [hheader] at h
  split at h
  · next hstarts =>
    split at h
    · next hn =>
      obtain rfl := Option.some.inj h
      have hup : ∀ d ∈ (positionFields : List (Stdio.Directive φ (Scanned φ))),
          d.UpToComma F.strtof := fun d hd => (positionFields_local hF d hd).upToComma
      rw [positionFormat_eq] at hn ⊢
      -- the first piece is the time, the tenth the date
      obtain ⟨utc, st₁, st₂, hutc, hrun, hscanned⟩ := Stdio.piece_of_complete hup hn
        (i := 0) rfl (by rw [length_positionFields]; decide) (f := Scanned.utc) (by
          simp only [positionFields, List.drop_succ_cons, List.drop_zero, List.forall_mem_cons]
          exact ⟨fun _ _ => rfl, fun _ _ => rfl, fun _ _ => rfl, fun _ _ => rfl, fun _ _ => rfl,
            fun _ _ => rfl, fun _ _ => rfl, fun _ _ => rfl, fun _ _ => rfl, fun _ _ => rfl,
            List.forall_mem_nil _⟩)
      obtain ⟨-, -, -, rfl⟩ := Stdio.field_of_piece hrun
      obtain ⟨date, st₃, st₄, hdate, hrun', hscanned'⟩ := Stdio.piece_of_complete hup hn
        (i := 9) rfl (by rw [length_positionFields]; decide) (f := Scanned.date) (by
          simp only [positionFields, List.drop_succ_cons, List.drop_zero, List.forall_mem_cons]
          exact ⟨fun _ _ => rfl, List.forall_mem_nil _⟩)
      obtain ⟨-, -, -, rfl⟩ := Stdio.field_of_piece hrun'
      refine ⟨hstarts, ?_⟩
      simp only [positionDigits, hutc, hdate, hscanned, hscanned', Option.getD_some]
    · cases h
  · cases h

end ObtainingPositionInformation

/-- The same for the modem's other half: commands and lines set no clock. -/
theorem setTime_not_mem_gnss {timestamp : Bytes} {r : Bool} {cs : List Bytes}
    {line : Option Bytes} : .setTime timestamp ∉ GNSSEvent.commands r cs ++ GNSSEvent.reads line := by
  intro h
  rcases List.mem_append.mp h with h | h
  · cases r with
    | false => cases h
    | true =>
      obtain ⟨c, -, hc⟩ := List.mem_map.mp h
      cases hc
  · obtain ⟨l, -, hl⟩ := List.mem_map.mp h
    cases hl

theorem setTime_not_mem_changes {timestamp : Bytes} {es : List GNSSEvent}
    (hes : .setTime timestamp ∉ es) {s : GeopositioningState} {Geodata : GNSSData φ}
    {status : GNSSState} : .setTime timestamp ∉ (GNSSStep.changes s Geodata es status).events := by
  intro h
  rcases List.mem_append.mp h with h | h
  · exact hes h
  · cases List.mem_singleton.mp h

/-- **Only `ObtainingPositionInformation`** sets the clock, and to the time of its position. -/
theorem setTime_retrivGeopositioning {F : Floats φ} {s : GeopositioningState}
    {Geodata : GNSSData φ} {i : ATPoll} {timestamp : Bytes} :
    .setTime timestamp ∈ (s.retrivGeopositioning F Geodata i).events ↔
      s.isObtaining = true ∧ ∃ position,
        (readATResponse 128 i.line).bind
          (ObtainingPositionInformation.retrivPositionInfo F · Geodata) = some position ∧
          timestamp = position.timestamp := by
  have hquiet {r : Bool} {cs : List Bytes} : .setTime timestamp ∉
      GNSSEvent.commands r cs ++ GNSSEvent.reads (readATResponse 128 i.line) := setTime_not_mem_gnss
  cases s with
  | gnssUnavailable => exact iff_of_false List.not_mem_nil fun h => by cases h.1
  -- the states that do not obtain a position send commands and read lines
  | configurateConstellation r n =>
    refine iff_of_false ?_ fun h => by cases h.1
    dsimp only [GeopositioningState.retrivGeopositioning,
      ConfigurateConstellation.retrivGeopositioning]
    split
    · exact setTime_not_mem_changes hquiet
    split
    · split
      · exact setTime_not_mem_changes hquiet
      · exact hquiet
    · exact hquiet
  | turningOnGNSS r =>
    refine iff_of_false ?_ fun h => by cases h.1
    dsimp only [GeopositioningState.retrivGeopositioning, TurningOnGNSS.retrivGeopositioning]
    split
    · exact setTime_not_mem_changes hquiet
    · exact hquiet
  -- a position is scanned, and the clock set to it, in one call
  | obtainingPositionInformation r n =>
    dsimp only [GeopositioningState.retrivGeopositioning,
      ObtainingPositionInformation.retrivGeopositioning]
    split
    · next position hposition =>
      rw [hposition]
      simp only [GNSSStep.changes, List.mem_append, List.mem_singleton]
      constructor
      · rintro ((h | h) | h)
        · exact absurd (List.mem_append.mpr h) hquiet
        · exact ⟨rfl, position, rfl, GNSSEvent.setTime.inj h⟩
        · cases h
      · rintro ⟨-, _, hsame, rfl⟩
        obtain rfl := Option.some.inj hsame
        exact Or.inl (Or.inr rfl)
    · next hnone =>
      refine iff_of_false ?_ ?_
      · split
        · exact setTime_not_mem_changes hquiet
        split
        · split
          · exact setTime_not_mem_changes hquiet
          · exact hquiet
        · exact hquiet
      · rintro ⟨-, position, hposition, -⟩
        rw [hnone] at hposition
        cases hposition
  | turningOffGNSS r =>
    refine iff_of_false ?_ fun h => by cases h.1
    dsimp only [GeopositioningState.retrivGeopositioning, TurningOffGNSS.retrivGeopositioning]
    split
    · exact setTime_not_mem_changes hquiet
    · exact hquiet

/-! ## What a call of the system sets the clock to

  The two halves of the modem are put together in the system.  `positionLine` and `confirmedTime`
  name what a call needs to set the clock from either, as functions of the state before the call and
  of its arguments. -/

/-- The line that a call looks for a position in. -/
def System.positionLine (s : System φ) : SystemCall φ → Option Bytes
  | .obtainGNSSPosition _ i =>
      if s.gateway.isSearching && s.gnss.isObtaining then readATResponse 128 i.line else none
  | _ => none

/-- The time that a call confirms: it was retrieved, and now `OK` is read. -/
def System.confirmedTime (s : System φ) : SystemCall φ → Option Bytes
  | .connectToMobileNetwork i =>
      match s.gateway.currentState, s.connection with
      | .connectingToMobileNetwork _, .retrievingTimeAndDate a =>
          if readATResponse 128 i.line = some okLine then a.retrived else none
      | _, _ => none
  | _ => none

section Step

variable {s : System φ} {i : SystemCall φ} {timestamp : Bytes}

/-- An event of the gateway is none of its modem. -/
theorem not_mem_map_gateway {e : SystemEvent} (he : e.ofGateway = none) (es : List GatewayEvent) :
    e ∉ es.map .gateway := by
  intro h
  obtain ⟨x, -, rfl⟩ := List.mem_map.mp h
  cases he

/-- A call sets the clock from a position if and only if it finds one in its line. -/
theorem setTime_gnss : .gnss (.setTime timestamp) ∈ (s.step E i).2 ↔
    ∃ position, (s.positionLine i).bind (ObtainingPositionInformation.retrivPositionInfo E.floats ·
      s.gateway.gatewayGNSSdata) = some position ∧ timestamp = position.timestamp := by
  have hgateway := not_mem_map_gateway (e := .gnss (.setTime timestamp)) rfl
  cases i with
  | obtainGNSSPosition turnedOff i =>
    dsimp only [System.step, System.obtainGNSSPosition, System.positionLine]
    by_cases hsearching : s.gateway.isSearching = true
    · rw [if_pos hsearching, hsearching, Bool.true_and]
      dsimp only
      have hinj (e : GNSSEvent) : (SystemEvent.gnss e = .gnss (.setTime timestamp)) ↔
          e = .setTime timestamp := by rw [SystemEvent.gnss.injEq]
      simp only [List.mem_append, hgateway, or_false, List.mem_map, hinj, exists_eq_right,
        List.mem_singleton, reduceCtorEq]
      rw [setTime_retrivGeopositioning]
      -- a search that the call begins does not look for a position yet
      cases hs : s.gnss with
      | gnssUnavailable =>
        simp [GeopositioningState.enableGNSS, GeopositioningState.isObtaining]
      | obtainingPositionInformation r n =>
        simp [GeopositioningState.enableGNSS, GeopositioningState.isObtaining]
      | _ => simp [GeopositioningState.enableGNSS, GeopositioningState.isObtaining]
    · rw [if_neg hsearching, Bool.eq_false_iff.mpr hsearching, Bool.false_and]
      refine iff_of_false (hgateway _) ?_
      rintro ⟨_, h, -⟩
      cases h
  | connectToMobileNetwork i =>
    refine iff_of_false ?_ (by rintro ⟨_, h, -⟩; cases h)
    dsimp only [System.step, System.connectToMobileNetwork]
    split
    · simp [hgateway]
    · exact List.not_mem_nil
  | other c hother =>
    refine iff_of_false ?_ (by rintro ⟨_, h, -⟩; cases h)
    dsimp only [System.step]
    split
    · simp [hgateway]
    · exact hgateway _

/-- A call sets the clock from the network if and only if it confirms a time. -/
theorem setTime_connection :
    .connection (.setTime timestamp) ∈ (s.step E i).2 ↔ s.confirmedTime i = some timestamp := by
  have hgateway := not_mem_map_gateway (e := .connection (.setTime timestamp)) rfl
  cases i with
  | obtainGNSSPosition turnedOff i =>
    refine iff_of_false ?_ nofun
    dsimp only [System.step, System.obtainGNSSPosition]
    split
    · simp [hgateway]
    · exact hgateway _
  | connectToMobileNetwork i =>
    dsimp only [System.step, System.connectToMobileNetwork, System.confirmedTime]
    split
    · next st hst =>
      have hinj (e : ConnectionEvent) : (SystemEvent.connection e = .connection (.setTime timestamp)) ↔
          e = .setTime timestamp := by rw [SystemEvent.connection.injEq]
      simp only [List.mem_append, hgateway, or_false, List.mem_map, hinj, exists_eq_right]
      rw [setTime_enableAndConnect, hst]
      cases hs : s.connection with
      | retrievingTimeAndDate a => simp
      | _ => simp
    · next hst =>
      refine iff_of_false List.not_mem_nil ?_
      split
      · next st _ hst' _ => exact absurd hst' (hst st)
      · nofun
  | other c hother =>
    refine iff_of_false ?_ nofun
    dsimp only [System.step]
    split
    · simp [hgateway]
    · exact hgateway _

end Step

/-- What a call does to its clock: each event that stands for a call of `set_time` is one. -/
theorem mem_withClock {u : TimestampInts} {es : List SystemEvent} {source : ClockSource}
    {seconds : Int} :
    .setTime source seconds ∈ es.flatMap (SystemEvent.withClock mktime u) ↔
      ∃ timestamp, seconds = timestampToEpoch mktime u timestamp ∧
        ((source = .network ∧ .connection (.setTime timestamp) ∈ es) ∨
          (source = .position ∧ .gnss (.setTime timestamp) ∈ es)) := by
  rw [List.mem_flatMap]
  constructor
  · rintro ⟨e, he, hmem⟩
    unfold SystemEvent.withClock at hmem
    split at hmem
    · next timestamp =>
      rcases List.mem_cons.mp hmem with h | h
      · cases h
      · obtain ⟨rfl, rfl⟩ := ClockEvent.setTime.inj (List.mem_singleton.mp h)
        exact ⟨timestamp, rfl, Or.inl ⟨rfl, he⟩⟩
    · next timestamp =>
      rcases List.mem_cons.mp hmem with h | h
      · cases h
      · obtain ⟨rfl, rfl⟩ := ClockEvent.setTime.inj (List.mem_singleton.mp h)
        exact ⟨timestamp, rfl, Or.inr ⟨rfl, he⟩⟩
    · cases List.mem_singleton.mp hmem
  · rintro ⟨timestamp, rfl, ⟨rfl, he⟩ | ⟨rfl, he⟩⟩
    · exact ⟨_, he, List.mem_cons_of_mem _ (List.mem_singleton.mpr rfl)⟩
    · exact ⟨_, he, List.mem_cons_of_mem _ (List.mem_singleton.mpr rfl)⟩

section ClockStep

variable {s : System φ} {i : ClockCall φ} {seconds : Int}

/-- A query sets the clock at most once. -/
theorem mem_queried {source : ClockSource} {secs : Option UInt32} :
    .setTime source seconds ∈ secs.toList.map (fun secs => ClockEvent.setTime .server secs.toNat) ↔
      source = .server ∧ ∃ v, secs = some v ∧ seconds = v.toNat := by
  cases secs with
  | none => simp
  | some v => simp

/-- What a call does with its clock, in its two parts. -/
theorem clockStep_events : (s.clockStep E mktime i).2 =
    ((if s.queriesServer i.call then queryUTCTimeViaRemoteServer i.socket else none).toList.map
      fun secs => .setTime .server secs.toNat) ++
      (s.step E i.call).2.flatMap (SystemEvent.withClock mktime i.uninitialised) := rfl

/-- **The three sources**: the network, with the time that the call confirms; -/
theorem clockStep_network : .setTime .network seconds ∈ (s.clockStep E mktime i).2 ↔
    ∃ timestamp, s.confirmedTime i.call = some timestamp ∧
      seconds = timestampToEpoch mktime i.uninitialised timestamp := by
  rw [clockStep_events, List.mem_append, mem_queried, mem_withClock]
  simp only [setTime_connection, reduceCtorEq, false_and, false_or, or_false, true_and]
  exact exists_congr fun _ => and_comm

/-- a position, with the time of the position that the call finds; -/
theorem clockStep_position : .setTime .position seconds ∈ (s.clockStep E mktime i).2 ↔
    ∃ position, (s.positionLine i.call).bind (ObtainingPositionInformation.retrivPositionInfo
        E.floats · s.gateway.gatewayGNSSdata) = some position ∧
      seconds = timestampToEpoch mktime i.uninitialised position.timestamp := by
  rw [clockStep_events, List.mem_append, mem_queried, mem_withClock]
  simp only [setTime_gnss, reduceCtorEq, false_and, false_or, true_and]
  constructor
  · rintro ⟨_, rfl, position, hposition, rfl⟩
    exact ⟨position, hposition, rfl⟩
  · rintro ⟨position, hposition, rfl⟩
    exact ⟨_, rfl, position, hposition, rfl⟩

/-- the time server, with the time of its reply, or of what is in the packet without one. -/
theorem clockStep_server : .setTime .server seconds ∈ (s.clockStep E mktime i).2 ↔
    s.queriesServer i.call = true ∧
      ∃ v, queryUTCTimeViaRemoteServer i.socket = some v ∧ seconds = v.toNat := by
  rw [clockStep_events, List.mem_append, mem_queried, mem_withClock]
  simp only [reduceCtorEq, false_and, or_false, and_false, exists_false, true_and]
  by_cases hqueries : s.queriesServer i.call = true
  · simp [hqueries]
  · simp [hqueries]

end ClockStep

/-! ## The invariant over a run

  What the connection did is a part of what the system did, and no other part of the system touches
  its state, except to reset it. -/

/-- What the connection does. -/
def SystemEvent.ofConnection : SystemEvent → Option ConnectionEvent
  | .connection e => some e
  | _ => none

/-- What the connection did in a run. -/
def connectionEvents (trace : List ClockEvent) : List ConnectionEvent :=
  (trace.filterMap ClockEvent.ofSystem).filterMap SystemEvent.ofConnection

/-- The connection's part of a trace grows by its part of the step. -/
theorem connectionEvents_advance (c : Config (System φ) ClockEvent) (i : ClockCall φ) :
    connectionEvents (advance (System.clockStep E mktime) c i).trace =
      connectionEvents c.trace ++
        (c.state.step E i.call).2.filterMap SystemEvent.ofConnection := by
  show ((c.trace ++ (c.state.clockStep E mktime i).2).filterMap _).filterMap _ = _
  rw [List.filterMap_append, List.filterMap_append, clockStep_system]
  rfl

/-- The connection takes a step of its own in a call, or is reset, or is not touched.  A reset
    leaves the state `ConnectionUnavailable`, of which the invariant says nothing. -/
theorem step_connection (s : System φ) (i : SystemCall φ) :
    (∃ p, (s.step E i).1.connection = (s.connection.enableAndConnect p).state ∧
      (s.step E i).2.filterMap SystemEvent.ofConnection = (s.connection.enableAndConnect p).events) ∨
    (s.step E i).1.connection = .connectionUnavailableState ∨
    ((s.step E i).1.connection = s.connection ∧
      (s.step E i).2.filterMap SystemEvent.ofConnection = []) := by
  have hgateway (es : List GatewayEvent) :
      (es.map SystemEvent.gateway).filterMap SystemEvent.ofConnection = [] := by
    rw [List.filterMap_map]
    exact List.filterMap_eq_nil_iff.mpr fun _ _ => rfl
  have hgnss (es : List GNSSEvent) :
      (es.map SystemEvent.gnss).filterMap SystemEvent.ofConnection = [] := by
    rw [List.filterMap_map]
    exact List.filterMap_eq_nil_iff.mpr fun _ _ => rfl
  have hconnection (es : List ConnectionEvent) :
      (es.map SystemEvent.connection).filterMap SystemEvent.ofConnection = es := by
    rw [List.filterMap_map]
    exact List.filterMap_some
  cases i with
  | obtainGNSSPosition turnedOff i =>
    refine Or.inr (Or.inr ?_)
    dsimp only [System.step, System.obtainGNSSPosition]
    split
    · exact ⟨rfl, by rw [List.filterMap_append, hgnss, hgateway]; rfl⟩
    · exact ⟨rfl, hgateway _⟩
  | connectToMobileNetwork p =>
    dsimp only [System.step, System.connectToMobileNetwork]
    split
    · refine Or.inl ⟨p, rfl, ?_⟩
      rw [List.filterMap_append, hconnection, hgateway, List.append_nil]
    · exact Or.inr (Or.inr ⟨rfl, rfl⟩)
  | other c hother =>
    dsimp only [System.step]
    split
    · exact Or.inr (Or.inl rfl)
    · exact Or.inr (Or.inr ⟨rfl, hgateway _⟩)

/-- **In every run** `RetrievingTimeAndDate` has stored what the first answer says. -/
theorem networkTimeStored_advance {c : Config (System φ) ClockEvent}
    (h : NetworkTimeStored c.state.connection (connectionEvents c.trace)) (i : ClockCall φ) :
    NetworkTimeStored (advance (System.clockStep E mktime) c i).state.connection
      (connectionEvents (advance (System.clockStep E mktime) c i).trace) := by
  rw [connectionEvents_advance]
  show NetworkTimeStored (c.state.step E i.call).1.connection _
  rcases step_connection (E := E) c.state i.call with ⟨p, hstate, hevents⟩ | hstate |
    ⟨hstate, hevents⟩
  · rw [hstate, hevents]
    exact h.enableAndConnect p
  · rw [hstate]
    nofun
  · rw [hstate, hevents, List.append_nil]
    exact h

/-! ## Complete times only

  The property and the condition, of one call each.  The property is about what the clock is set to,
  the condition about what the call is given; neither mentions the other's definitions. -/

/-- The line that a call reads from the modem. -/
def SystemCall.line : SystemCall φ → Option Bytes
  | .obtainGNSSPosition _ i | .connectToMobileNetwork i => readATResponse 128 i.line
  | .other .. => none

/-- **A complete time**: the epoch of twelve digits of the line that is handled (the answer that
    `OK` confirms, or the position that the call reads), or of four bytes that the call received. -/
def FromCompleteTime (mktime : Tm → Int) (c : Config (System φ) ClockEvent) (i : ClockCall φ)
    (seconds : Int) : ClockSource → Prop
  | .network => ∃ line ∈ networkLine (connectionEvents c.trace),
      ∃ d : CompleteTime, d.digits = networkDigits line ∧ seconds = mktime d.tm
  | .position => ∃ line ∈ i.call.line, ascii "+QGPSLOC:" <+: line ∧
      ∃ d : CompleteTime, d.digits = positionDigits line ∧ seconds = mktime d.tm
  | .server => ∃ reply ∈ recvfrom 4 i.socket.datagram,
      reply.length = 4 ∧ seconds = (ntpSeconds reply).toNat

/-- **The clock is only set to complete times** in a call; without one it is left as it is. -/
def ClockSound (E : Platform φ) (mktime : Tm → Int) (c : Config (System φ) ClockEvent)
    (i : ClockCall φ) : Prop :=
  ∀ source seconds, .setTime source seconds ∈ (c.state.clockStep E mktime i).2 →
    FromCompleteTime mktime c i seconds source

/-- **The call is only given complete times**: the answer of the network that it confirms has one, a
    line that it takes for a position has one, and a time server that it reaches answers with four
    bytes. -/
structure GivenComplete (E : Platform φ) (c : Config (System φ) ClockEvent) (i : ClockCall φ) :
    Prop where
  network : (c.state.confirmedTime i.call).isSome = true →
    ∀ line ∈ networkLine (connectionEvents c.trace), IsTime (networkDigits line) = true
  position : ∀ line ∈ c.state.positionLine i.call,
    (ObtainingPositionInformation.retrivPositionInfo E.floats line
      c.state.gateway.gatewayGNSSdata).isSome = true → IsTime (positionDigits line) = true
  server : c.state.queriesServer i.call = true → 0 ≤ i.socket.sendto →
    ∃ reply ∈ i.socket.datagram, reply.length = 4

/-- A confirmed time is the member. -/
theorem confirmedTime_retrived {s : System φ} {i : SystemCall φ} {timestamp : Bytes}
    (h : s.confirmedTime i = some timestamp) :
    ∃ a, s.connection = .retrievingTimeAndDate a ∧ a.retrived = some timestamp := by
  cases i with
  | connectToMobileNetwork i =>
    dsimp only [System.confirmedTime] at h
    split at h
    · next a _ ha =>
      split at h
      · exact ⟨a, ha, h⟩
      · cases h
    · cases h
  | _ => cases h

/-- The line of a position is the line that the call reads. -/
theorem positionLine_read {s : System φ} {i : SystemCall φ} {line : Bytes}
    (h : s.positionLine i = some line) : i.line = some line := by
  cases i with
  | obtainGNSSPosition turnedOff i =>
    dsimp only [System.positionLine] at h
    split at h
    · exact h
    · cases h
  | _ => cases h

/-- A reply of four bytes is received whole. -/
theorem recvfrom_four {datagram : Option Bytes} {reply : Bytes} (hlength : reply.length = 4) :
    recvfrom 4 datagram = some reply ↔ datagram = some reply := by
  have hne : reply ≠ [] := by
    rintro rfl
    cases hlength
  rw [recvfrom, Option.filter_eq_some_iff]
  exact and_iff_left (decide_eq_true ⟨hne, Nat.le_of_eq hlength⟩)

section Sound

variable {c : Config (System φ) ClockEvent} {i : ClockCall φ}

/-- In a call that is given complete times, the clock is set to nothing else. -/
theorem GivenComplete.sound (hfloats : E.floats.Lawful) (h : GivenComplete E c i)
    (hstored : NetworkTimeStored c.state.connection (connectionEvents c.trace)) :
    ClockSound E mktime c i := by
  intro source seconds hset
  cases source with
  | network =>
    obtain ⟨timestamp, htime, rfl⟩ := clockStep_network.mp hset
    -- what was stored is what the answer says
    obtain ⟨a, ha, hretrived⟩ := confirmedTime_retrived htime
    rw [hstored a ha] at hretrived
    obtain ⟨line, hline, rfl⟩ := Option.map_eq_some_iff.mp hretrived
    obtain ⟨d, hd⟩ := isTime_iff.mp (h.network (Option.isSome_of_eq_some htime) line hline)
    refine ⟨line, hline, d, hd, ?_⟩
    rw [← hd]
    exact timestampToEpoch_digits _ d
  | position =>
    obtain ⟨position, hposition, rfl⟩ := clockStep_position.mp hset
    obtain ⟨line, hline, hretriv⟩ := Option.bind_eq_some_iff.mp hposition
    obtain ⟨hstarts, htime⟩ := ObtainingPositionInformation.retrivPositionInfo_timestamp hfloats hretriv
    obtain ⟨d, hd⟩ := isTime_iff.mp (h.position line hline (Option.isSome_of_eq_some hretriv))
    refine ⟨line, positionLine_read hline, hstarts, d, hd, ?_⟩
    rw [htime, ← hd]
    exact timestampToEpoch_digits _ d
  | server =>
    obtain ⟨hqueries, v, hquery, rfl⟩ := clockStep_server.mp hset
    unfold queryUTCTimeViaRemoteServer at hquery
    split at hquery
    · cases hquery
    · next hsent =>
      obtain ⟨reply, hreply, hlength⟩ := h.server hqueries (Int.not_lt.mp hsent)
      have hreceived : recvfrom 4 i.socket.datagram = some reply :=
        (recvfrom_four hlength).mpr hreply
      refine ⟨reply, hreceived, hlength, ?_⟩
      -- the reply fills the packet
      have hrest : i.socket.in_data.toList.drop reply.length = [] := by
        rw [hlength]
        exact List.drop_eq_nil_of_le (by simp)
      obtain rfl := Option.some.inj hquery
      rw [hreceived, Option.getD_some, hrest, List.append_nil]

/-- A call that is not given a complete time sets the clock all the same.  Each part of the
    condition is read off the event that would be there without it. -/
theorem ClockSound.given (h : ClockSound E mktime c i) : GivenComplete E c i where
  network := by
    intro hconfirmed line hline
    obtain ⟨timestamp, htime⟩ := Option.isSome_iff_exists.mp hconfirmed
    obtain ⟨line', hline', d, hd, -⟩ := h .network _ (clockStep_network.mpr ⟨timestamp, htime, rfl⟩)
    obtain rfl := Option.some.inj (hline.symm.trans hline')
    exact isTime_iff.mpr ⟨d, hd⟩
  position := by
    intro line hline hretriv
    obtain ⟨position, hposition⟩ := Option.isSome_iff_exists.mp hretriv
    have hset : .setTime .position
        (timestampToEpoch mktime i.uninitialised position.timestamp) ∈
          (c.state.clockStep E mktime i).2 :=
      clockStep_position.mpr ⟨position, Option.bind_eq_some_iff.mpr ⟨line, hline, hposition⟩, rfl⟩
    obtain ⟨line', hline', -, d, hd, -⟩ := h .position _ hset
    obtain rfl := Option.some.inj ((positionLine_read hline).symm.trans hline')
    exact isTime_iff.mpr ⟨d, hd⟩
  server := by
    intro hqueries hsent
    have hquery : queryUTCTimeViaRemoteServer i.socket = some _ := if_neg (Int.not_lt.mpr hsent)
    obtain ⟨reply, hreply, hlength, -⟩ :=
      h .server _ (clockStep_server.mpr ⟨hqueries, _, hquery, rfl⟩)
    exact ⟨reply, (recvfrom_four hlength).mp hreply, hlength⟩

end Sound

/-- **The clock is only set to complete times if and only if it is only given complete times**, over
    every run.

    From left to right the calls are compared one by one.  From right to left the invariant is
    carried along the run, since the condition on an answer is used in a later call than the one
    that reads it. -/
theorem clock_sound_iff (E : Platform φ) (hfloats : E.floats.Lawful) (mktime : Tm → Int)
    (recepted : Recepted φ) (RSSI : Int) (gatewayGNSSdata : GNSSData φ) (startTime : UInt64)
    (is : List (ClockCall φ)) :
    Always (System.clockStep E mktime) (ClockSound E mktime)
        ⟨.initial recepted RSSI gatewayGNSSdata startTime, []⟩ is ↔
      Always (System.clockStep E mktime) (GivenComplete E)
        ⟨.initial recepted RSSI gatewayGNSSdata startTime, []⟩ is := by
  have hinitial : NetworkTimeStored (System.initial recepted RSSI gatewayGNSSdata startTime).connection
      (connectionEvents []) := nofun
  constructor
  · exact fun h => h.mp fun c i hsound => hsound.given
  · exact always_of hinitial fun c i h hstored =>
      ⟨h.sound hfloats hstored, networkTimeStored_advance hstored i⟩

/-! ## A position, and a server that does not answer -/

instance (c : Config (System φ) ClockEvent) (i : ClockCall φ) : Decidable (GivenComplete E c i) :=
  decidable_of_iff
    (((c.state.confirmedTime i.call).isSome = true →
        ∀ line ∈ networkLine (connectionEvents c.trace), IsTime (networkDigits line) = true) ∧
      (∀ line ∈ c.state.positionLine i.call,
        (ObtainingPositionInformation.retrivPositionInfo E.floats line
          c.state.gateway.gatewayGNSSdata).isSome = true → IsTime (positionDigits line) = true) ∧
      (c.state.queriesServer i.call = true → 0 ≤ i.socket.sendto →
        ∃ reply ∈ i.socket.datagram, reply.length = 4))
    ⟨fun ⟨hnetwork, hposition, hserver⟩ => ⟨hnetwork, hposition, hserver⟩,
      fun h => ⟨h.network, h.position, h.server⟩⟩

/-- A platform whose floats are integers of 64 bits. -/
def Platform.words : Platform Int64 where
  primitives := .reference
  floats := .words
  localtime _ := ⟨1, 0, 125, 12, 0, 0⟩
  decodeJWT := some

/-- A socket at which nothing arrives, and a stack of zeros. -/
def ClockCall.unanswered (call : SystemCall φ) : ClockCall φ :=
  ⟨call, ⟨0, none, #v[0, 0, 0, 0]⟩, ⟨0, 0, 0, 0, 0, 0⟩⟩

/-- A search that finds a position. -/
def findsPosition : List (ClockCall Int64) :=
  (.other (.updatePowerStatus true) rfl ::
    ["OK", "OK", "+QGPSLOC: 030405,-34,-58,1,25,2,0,0,0,020125,7"].map fun line =>
      .obtainGNSSPosition false ⟨some (ascii line), false⟩).map .unanswered

/-- The position sets the clock to its time. -/
theorem position_clock_sound :
    Always (System.clockStep .words fun t => t.sec) (ClockSound .words fun t => t.sec)
      ⟨.initial blankRecepted 0 blankRecepted.receptedGNSSdata 0, []⟩ findsPosition :=
  (clock_sound_iff .words Floats.words_lawful (fun t => t.sec) blankRecepted 0
    blankRecepted.receptedGNSSdata 0 findsPosition).mpr (by decide +kernel)

/-- The calls that bring the gateway from its start to the time server. -/
def reachesServer : List (ClockCall Int) :=
  ((attemptBegins [] 0).dropLast ++ SystemCall.others [.connectEthernetToLocalNetwork 0]).map
    .unanswered

/-- **No answer came from the server, and the clock is set** to what was on the stack. -/
theorem unanswered_query_sets_clock :
    let c := run (System.clockStep .reference fun t => t.sec) ⟨startedSystem.state, []⟩ reachesServer
    let i := ClockCall.unanswered (.other .queryUTCTimeViaRemoteServer rfl)
    .setTime .server 2085978496 ∈ (c.state.clockStep .reference (fun t => t.sec) i).2 ∧
      ¬ ClockSound .reference (fun t => t.sec) c i := by
  intro c i
  have hset : .setTime .server 2085978496 ∈ (c.state.clockStep .reference (fun t => t.sec) i).2 := by
    decide +kernel
  refine ⟨hset, fun h => ?_⟩
  -- nothing was received in the call
  obtain ⟨reply, hreply, -⟩ := h .server _ hset
  cases hreply

end GatewayLoRa
