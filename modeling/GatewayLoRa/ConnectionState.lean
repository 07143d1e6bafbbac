/-
  The CONNECTION to the mobile network: nine steps from `enableConnection` to `ConnectedState`.

      IdleState → CheckingSignalStrength → ConsultingIMEI → ConsultingSIMCardStatus →
        ConsultingNetworkStatus → ConsultingAvailableOperators → RetrievingTimeAndDate →
          AttachingToPacketService → DefinePDPContext → ConnectedState

  `CellularModule` holds one `ConnectionState` object at a time.  A call of `connect` sends the
  commands of its step if it is ready to, reads at most one line from the modem and at most once
  the refresh timer: a second `readATResponse` in the same call finds the byte after a line, which
  ends none.  Three steps wait for `OK` alone; the other six wait for their information first, and
  for `OK` after it.  When the timer runs out a step sends its commands again, and gives up after so
  many times.

  `retrived` is both the flag of the source and what was retrieved: it is looked at only when the
  flag is set.  The numbers of a cell that go to `CellInformation` are an event (`stored`), since
  nothing in the gateway reads them back.
-/

import GatewayLoRa.Transceiver

namespace GatewayLoRa

open CMemory Machine

/-! ## States and events

  The objects of the source as one type.  What a constructor sets is written where the state is
  entered, so a state that is left and entered again has forgotten everything. -/

/-- `CellularConnectionStatus_t`. -/
inductive CellularConnectionStatus
  | unavaible
  | disconnected
  | moduleDisconnected
  | tryingToConnect
  | poorSignal
  | unavaibleToRegister
  | unavaibleToRetrivOperatorsInfo
  | unavaibleToRetrivDatetime
  | unavaibleToAttachToPacketService
  | unavaibleToSetPDPContext
  | invalidSim
  | connectedToNetwork
  | errorNullPointer
  deriving DecidableEq, Repr

/-- The members that `retrivIdCellData` sets. -/
structure CellData where
  registrationStatus : Int
  lac : Int
  cellId : Int
  accessTechnology : Int
  deriving DecidableEq

/-- The members that `retrivOperatorsInformation` sets. -/
structure OperatorData where
  mcc : Int
  mnc : Int
  band : Bytes
  channel : Int
  deriving DecidableEq

/-- The members of a step that waits for its information and then for `OK`. -/
structure Asking (δ : Type) where
  readyToSend : Bool
  retrived : Option δ
  connectionAttempts : Nat
  deriving DecidableEq

/-- The members as the constructor sets them. -/
def Asking.initial {δ : Type} : Asking δ := ⟨true, none, 0⟩

/-- The current `ConnectionState` object. -/
inductive ConnectionState
  | connectionUnavailableState
  | idleState (readyToSend : Bool) (connectionAttempts : Nat)
  | checkingSignalStrength (s : Asking Int) (connectionAttemptsSignal : Nat)
  | consultingIMEI (s : Asking Int)
  | consultingSIMCardStatus (s : Asking Unit)
  | consultingNetworkStatus (s : Asking CellData)
  | consultingAvailableOperators (s : Asking OperatorData)
  | retrievingTimeAndDate (s : Asking Bytes)
  | attachingToPacketService (readyToSend : Bool) (connectionAttempts : Nat)
  | definePDPContext (readyToSend : Bool) (connectionAttempts : Nat)
  | connectedState
  deriving DecidableEq

/-- What a step stores in `CellInformation`. -/
inductive Stored
  | signalLevel (v : Int)
  | IMEI (v : Int)
  | cell (d : CellData)
  | operator (d : OperatorData)
  | timestamp (s : Bytes)
  deriving DecidableEq

/-- What the connection can be seen to do. -/
inductive ConnectionEvent
  | changeConnectionState (newState : ConnectionState)
  | command (s : Bytes)
  | read (line : Bytes)
  | stored (d : Stored)
  /-- `set_time (timestampToEpoch (timestamp))`. -/
  | setTime (timestamp : Bytes)
  | switchSIMCARD
  | reboot
  /-- A call of `connect` returns. -/
  | status (s : CellularConnectionStatus)
  deriving DecidableEq

/-- What a call of `connect` leaves. -/
structure ConnectionStep where
  state : ConnectionState
  events : List ConnectionEvent
  status : CellularConnectionStatus

/-- The begin of a call: the commands, if the step is ready to send, and the line that is read. -/
def ConnectionEvent.begins (readyToSend : Bool) (commands : List Bytes) (line : Option Bytes) :
    List ConnectionEvent :=
  (if readyToSend then commands.map .command else []) ++ line.toList.map .read

/-- A call that ends with `changeConnectionState`. -/
def ConnectionStep.changes (newState : ConnectionState) (events : List ConnectionEvent) :
    ConnectionStep :=
  ⟨newState, events ++ [.changeConnectionState newState], .tryingToConnect⟩

/-- The end of a call that does not return earlier: when the timer has run out, the step is ready to
    send again, or gives up and begins to count anew.  `state` is the state after it, with
    `readyToSend` and the attempts. -/
def refresh (maxAttempts : Nat) (state : Bool → Nat → ConnectionState)
    (giveUp : CellularConnectionStatus) (attempts : Nat) (expired : Bool)
    (events : List ConnectionEvent) : ConnectionStep :=
  if expired then
    if attempts + 1 ≥ maxAttempts then ⟨state true 0, events, giveUp⟩
    else ⟨state true (attempts + 1), events, .tryingToConnect⟩
  else ⟨state false attempts, events, .tryingToConnect⟩

/-! ## The steps that wait for OK alone

  Three of the nine: the source has the same method three times, with another command, another next
  state and another status. -/

/-- A step that waits for `OK`. -/
def awaitOK (command : Bytes) (state : Bool → Nat → ConnectionState) (next : ConnectionState)
    (giveUp : CellularConnectionStatus) (readyToSend : Bool) (connectionAttempts : Nat)
    (i : ATPoll) : ConnectionStep :=
  let line := readATResponse 128 i.line
  let events := ConnectionEvent.begins readyToSend [command] line
  if line = some okLine then .changes next events
  else refresh 20 state giveUp connectionAttempts i.expired events

/-- `IdleState::connect`; its counter is not reset when it gives up. -/
def IdleState.connect (readyToSend : Bool) (connectionAttempts : Nat) (i : ATPoll) :
    ConnectionStep :=
  let line := readATResponse 128 i.line
  let events := ConnectionEvent.begins readyToSend [ascii "ATI"] line
  if line = some okLine then .changes (.checkingSignalStrength .initial 0) events
  else if i.expired then
    ⟨.idleState true (connectionAttempts + 1), events,
      if connectionAttempts + 1 ≥ 20 then .moduleDisconnected else .tryingToConnect⟩
  else ⟨.idleState false connectionAttempts, events, .tryingToConnect⟩

/-- `DefinePDPContext::connect`. -/
def DefinePDPContext.connect : Bool → Nat → ATPoll → ConnectionStep :=
  awaitOK (ascii "AT+CGDCONT=1,\"IP\",\"internet.movil\"") .definePDPContext .connectedState
    .unavaibleToSetPDPContext

/-- `AttachingToPacketService::connect`. -/
def AttachingToPacketService.connect : Bool → Nat → ATPoll → ConnectionStep :=
  awaitOK (ascii "AT+CGATT=1") .attachingToPacketService (.definePDPContext true 0)
    .unavaibleToAttachToPacketService

/-! ## The steps that wait for their information -/

/-- A step that waits for information (`retriv`), then for `OK`, and then stores it.  `keeps`: the
    information is still there after the timer ran out. -/
def ask {δ : Type} (command : Bytes) (state : Asking δ → ConnectionState)
    (retriv : Bytes → Option δ) (stores : δ → List ConnectionEvent) (next : ConnectionState)
    (giveUp : CellularConnectionStatus) (keeps : Bool) (s : Asking δ) (i : ATPoll) :
    ConnectionStep :=
  let line := readATResponse 128 i.line
  let events := ConnectionEvent.begins s.readyToSend [command] line
  let wait (retrived : Option δ) :=
    refresh 20 (fun expired n => state ⟨expired, if expired && !keeps then none else retrived, n⟩)
      giveUp s.connectionAttempts i.expired events
  match s.retrived with
  | none => wait (line.bind retriv)
  | some d => if line = some okLine then .changes next (events ++ stores d) else wait (some d)

/-- `retrieveNetworkTime`: the date and the time, cut out of the response by position; the bytes
    behind the response are NUL. -/
def RetrievingTimeAndDate.retrieveNetworkTime (response : Bytes) : Option Bytes :=
  let header := ascii "+QLTS: "
  if header <+: response then
    let field (k : Nat) := (response.drop (header.length + 1 + k)).take 2
    some (field 8 ++ field 5 ++ field 2 ++ (field 11 ++ field 14 ++ field 17))
  else none

/-- `RetrievingTimeAndDate::connect`. -/
def RetrievingTimeAndDate.connect : Asking Bytes → ATPoll → ConnectionStep :=
  ask (ascii "AT+QLTS=1") .retrievingTimeAndDate retrieveNetworkTime
    (fun timestamp => [.stored (.timestamp timestamp), .setTime timestamp])
    (.attachingToPacketService true 0) .unavaibleToRetrivDatetime true

/-- `"\"%19[^\"]\",\"%9[^\"]\",\"%19[^\"]\",%d"`, into the code of the operator, the band and the
    channel. -/
def ConsultingAvailableOperators.operatorFormat :
    List (Stdio.Directive Unit (Bytes × Bytes × Int)) :=
  [.text (ascii "\""), .field 19 34 fun _ s => s, .text (ascii "\",\""),
    .field 9 34 fun v s => (v, s.2), .text (ascii "\",\""),
    .field 19 34 fun v s => (s.1, v, s.2.2), .text (ascii "\","),
    .int 32 fun v s => (s.1, s.2.1, v)]

/-- `retrivOperatorsInformation`. -/
def ConsultingAvailableOperators.retrivOperatorsInformation (response : Bytes) :
    Option OperatorData :=
  let header := ascii "+QNWINFO:"
  if header <+: response then
    let (n, operatorCode, band, channel) := Stdio.sscanf (fun _ => none) operatorFormat
      ((response.drop header.length).dropWhile Stdio.isSpace) ([], [], 0)
    if n = 4 then
      let mcc := Stdio.atoi 32 (operatorCode.take 3)
      let mnc := Stdio.atoi 32 ((operatorCode.drop 3).take 3)
      some ⟨mcc, mnc, band, channel⟩
    else none
  else none

/-- `ConsultingAvailableOperators::connect`. -/
def ConsultingAvailableOperators.connect : Asking OperatorData → ATPoll → ConnectionStep :=
  ask (ascii "AT+QNWINFO") .consultingAvailableOperators retrivOperatorsInformation
    (fun d => [.stored (.operator d)]) (.retrievingTimeAndDate .initial)
    .unavaibleToRetrivOperatorsInfo true

/-- The status of the registration lets the step go on. -/
def CellData.isRegistered (d : CellData) : Bool :=
  d.registrationStatus = 1 || d.registrationStatus = 5

/-- `",%d,\"%9[^\"]\",\"%19[^\"]\",%d"`. -/
def ConsultingNetworkStatus.cellFormat : List (Stdio.Directive Unit CellData) :=
  [.text (ascii ","), .int 32 fun v s => { s with registrationStatus := v }, .text (ascii ",\""),
    .field 9 34 fun v s => { s with lac := Stdio.strtol16 32 v }, .text (ascii "\",\""),
    .field 19 34 fun v s => { s with cellId := Stdio.strtol16 32 v }, .text (ascii "\","),
    .int 32 fun v s => { s with accessTechnology := v }]

/-- `retrivIdCellData`; the first number is read and not stored (`%*d`). -/
def ConsultingNetworkStatus.retrivIdCellData (response : Bytes) : Option CellData :=
  let header := ascii "+CREG: "
  if header <+: response then
    (Stdio.scanInt 32 (response.drop header.length)).bind fun mode =>
      let (n, cell) := Stdio.sscanf (fun _ => none) cellFormat mode.2 ⟨0, 0, 0, 0⟩
      if n = 4 then some cell else none
  else none

/-- `ConsultingNetworkStatus::connect`: two commands, and on `OK` the modem must be registered. -/
def ConsultingNetworkStatus.connect (s : Asking CellData) (i : ATPoll) : ConnectionStep :=
  let line := readATResponse 128 i.line
  let events := ConnectionEvent.begins s.readyToSend [ascii "AT+CREG=2", ascii "AT+CREG?"] line
  let wait (retrived : Option CellData) :=
    refresh 20 (fun expired n =>
      .consultingNetworkStatus ⟨expired, if expired then none else retrived, n⟩)
      .unavaibleToRegister s.connectionAttempts i.expired
  match s.retrived with
  | none => wait (line.bind retrivIdCellData) events
  | some d =>
    if line = some okLine then
      if d.isRegistered then
        .changes (.consultingAvailableOperators .initial) (events ++ [.stored (.cell d)])
      else wait (some d) (events ++ [.stored (.cell d)])
    else wait (some d) events

/-- `ConsultingSIMCardStatus::connect`: it switches to the other card when there is none, and
    reboots the modem when it gives up. -/
def ConsultingSIMCardStatus.connect (s : Asking Unit) (i : ATPoll) : ConnectionStep :=
  let line := readATResponse 128 i.line
  let events := ConnectionEvent.begins s.readyToSend [ascii "AT+CPIN?"] line
  let wait (retrived : Option Unit) (events : List ConnectionEvent) :=
    let step := refresh 20 (fun expired n =>
      .consultingSIMCardStatus ⟨expired, if expired then none else retrived, n⟩)
      .invalidSim s.connectionAttempts i.expired events
    if step.status = .invalidSim then { step with events := step.events ++ [.reboot] } else step
  match s.retrived with
  | none =>
    wait (line.bind fun l => if l = ascii "+CPIN: READY" then some () else none)
      (events ++ if line = some (ascii "+CME ERROR: 10") then [.switchSIMCARD] else [])
  | some () =>
    if line = some okLine then .changes (.consultingNetworkStatus .initial) events
    else wait (some ()) events

/-- `RetrivIMEI`: three digits begin the response, and fifteen characters of it are the number. -/
def ConsultingIMEI.RetrivIMEI (response : Bytes) : Option Int :=
  if (response.take 3).all Stdio.isDigit ∧ 15 ≤ response.length then
    some (Stdio.atoi 64 (response.take 15))
  else none

/-- `ConsultingIMEI::connect`. -/
def ConsultingIMEI.connect : Asking Int → ATPoll → ConnectionStep :=
  ask (ascii "AT+CGSN") .consultingIMEI RetrivIMEI (fun v => [.stored (.IMEI v)])
    (.consultingSIMCardStatus .initial) .moduleDisconnected false

/-- `"%d,%d"`, into `rssi`; `ber` is not used. -/
def CheckingSignalStrength.signalFormat : List (Stdio.Directive Unit Int) :=
  [.int 32 fun v _ => v, .text (ascii ","), .int 32 fun _ s => s]

/-- `checkExpectedResponse`: the signal level. -/
def CheckingSignalStrength.checkExpectedResponse (response : Bytes) : Option Int :=
  let header := ascii "+CSQ:"
  if header <+: response then
    let (n, rssi) := Stdio.sscanf (fun _ => none) signalFormat (response.drop header.length) 0
    if n = 2 then
      if 0 ≤ rssi ∧ rssi ≤ 31 then some (-113 + 2 * rssi)
      else if 100 ≤ rssi ∧ rssi ≤ 199 then some (-116 + (rssi - 100))
      else some (-999)
    else none
  else none

/-- `CheckingSignalStrength::connect`: on `OK` the signal must be strong enough, and it must be so
    before `connectionAttemptsSignal` comes to 20. -/
def CheckingSignalStrength.connect (s : Asking Int) (connectionAttemptsSignal : Nat) (i : ATPoll) :
    ConnectionStep :=
  let line := readATResponse 128 i.line
  let events := ConnectionEvent.begins s.readyToSend [ascii "AT+CSQ"] line
  let wait (retrived : Option Int) (connectionAttemptsSignal : Nat) :=
    refresh 40 (fun expired n => .checkingSignalStrength
      ⟨expired, if expired then none else retrived, n⟩ connectionAttemptsSignal)
      .moduleDisconnected s.connectionAttempts i.expired events
  match s.retrived with
  | none => wait (line.bind checkExpectedResponse) connectionAttemptsSignal
  | some signalLevel =>
    if line = some okLine then
      if signalLevel > -100 then
        .changes (.consultingIMEI .initial) (events ++ [.stored (.signalLevel signalLevel)])
      else if connectionAttemptsSignal + 1 ≥ 20 then
        let s := Asking.mk false (some signalLevel) 0
        ⟨.checkingSignalStrength s (connectionAttemptsSignal + 1), events, .moduleDisconnected⟩
      else wait (some signalLevel) (connectionAttemptsSignal + 1)
    else wait (some signalLevel) connectionAttemptsSignal

/-! ## The module -/

/-- `currentConnectionState->connect`. -/
def ConnectionState.connect (s : ConnectionState) (i : ATPoll) : ConnectionStep :=
  match s with
  | .connectionUnavailableState => ⟨.connectionUnavailableState, [], .unavaible⟩
  | .idleState readyToSend connectionAttempts =>
      IdleState.connect readyToSend connectionAttempts i
  | .checkingSignalStrength s connectionAttemptsSignal =>
      CheckingSignalStrength.connect s connectionAttemptsSignal i
  | .consultingIMEI s => ConsultingIMEI.connect s i
  | .consultingSIMCardStatus s => ConsultingSIMCardStatus.connect s i
  | .consultingNetworkStatus s => ConsultingNetworkStatus.connect s i
  | .consultingAvailableOperators s => ConsultingAvailableOperators.connect s i
  | .retrievingTimeAndDate s => RetrievingTimeAndDate.connect s i
  | .attachingToPacketService readyToSend connectionAttempts =>
      AttachingToPacketService.connect readyToSend connectionAttempts i
  | .definePDPContext readyToSend connectionAttempts =>
      DefinePDPContext.connect readyToSend connectionAttempts i
  | .connectedState => ⟨.connectedState, [], .connectedToNetwork⟩

/-- `CellularModule::enableConnection`: only `ConnectionUnavailableState` reacts. -/
def ConnectionState.enableConnection (s : ConnectionState) :
    ConnectionState × List ConnectionEvent :=
  match s with
  | .connectionUnavailableState =>
      (.idleState true 0, [.changeConnectionState (.idleState true 0)])
  | _ => (s, [])

/-- `enableConnection` and `connectToMobileNetwork`, as the gateway calls them. -/
def ConnectionState.enableAndConnect (s : ConnectionState) (i : ATPoll) : ConnectionStep :=
  let (s, enabled) := s.enableConnection
  let step := s.connect i
  { step with events := enabled ++ step.events ++ [.status step.status] }

end GatewayLoRa
