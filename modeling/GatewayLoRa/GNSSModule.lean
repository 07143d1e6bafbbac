/-
  The GNSS MODULE: from `enableGNSS` to a position, and off again.

      GNSSUnavailable → ConfigurateConstellation → TurningOnGNSS → ObtainingPositionInformation →
        TurningOffGNSS → GNSSUnavailable

  `GNSSModule` holds one `GeopositioningState` object at a time.  A call of `retrivGeopositioning`
  sends the command of its state if it is ready to, reads at most one line from the modem and at
  most once the refresh timer (`ATPoll`).  `ConfigurateConstellation` and
  `ObtainingPositionInformation` count how often the timer ran out; the other states do not.

  `Geodata` is the gateway's: a call is given it and gives it back.  `GNSSModule::startStopUpdate`,
  which would reset the state when the modem loses its power, is called by nobody and left out, like
  the debug writes and the null checks.
-/

import GatewayLoRa.ReceptedMessage
import GatewayLoRa.Transceiver

namespace GatewayLoRa

open CMemory Machine

/-! ## States and events

  The types of the module.  A status is an event too, because the gateway looks at it and at nothing
  else. -/

/-- `GNSSState_t`, the status of a call. -/
inductive GNSSState
  | disconnected
  | tryingToConnect
  | connectionObtain
  | connectionUnavailable
  | disconecting
  | errorNullPointer
  deriving DecidableEq, Repr

/-- The current `GeopositioningState` object. -/
inductive GeopositioningState
  | gnssUnavailable
  | configurateConstellation (readyToSend : Bool) (numberOfTries : Nat)
  | turningOnGNSS (readyToSend : Bool)
  | obtainingPositionInformation (readyToSend : Bool) (numberOfTries : Nat)
  | turningOffGNSS (readyToSend : Bool)
  deriving DecidableEq, Repr

/-- What the module can be seen to do. -/
inductive GNSSEvent
  | changeGeopositioningState (newState : GeopositioningState)
  | command (s : Bytes)
  | read (line : Bytes)
  /-- `set_time (timestampToEpoch (timestamp))`. -/
  | setTime (timestamp : Bytes)
  /-- A call of `retrivGeopositioning` returns. -/
  | status (s : GNSSState)
  deriving DecidableEq

/-- What a call of `retrivGeopositioning` leaves. -/
structure GNSSStep (φ : Type) where
  state : GeopositioningState
  Geodata : GNSSData φ
  events : List GNSSEvent
  status : GNSSState

/-- `sendATCommand` of some commands, if the state is ready to send. -/
def GNSSEvent.commands (readyToSend : Bool) (cs : List Bytes) : List GNSSEvent :=
  if readyToSend then cs.map .command else []

/-- The line that was read. -/
def GNSSEvent.reads (line : Option Bytes) : List GNSSEvent := line.toList.map .read

variable {φ : Type}

/-- A call that ends with `changeGeopositioningState`. -/
def GNSSStep.changes (newState : GeopositioningState) (Geodata : GNSSData φ)
    (events : List GNSSEvent) (status : GNSSState) : GNSSStep φ :=
  ⟨newState, Geodata, events ++ [.changeGeopositioningState newState], status⟩

/-! ## The two states that wait for a confirmation

  `strcmp` returns 0 for equal strings.  The source writes `strcmp (a, b) == 0 || strcmp (a, c)`,
  and the second half is true of every other line; the model keeps it so. -/

/-- `AT_CMD_TURNING_ON_GNSS_RESPONSE_ALREADY_ON`. -/
def alreadyOnLine : Bytes := ascii "+CME ERROR: 504"

/-- `AT_CMD_TURNING_OFF_GNSS_EXPECTED_RESPONSE_THE_MODULE_IS_ALREADY_TURNOFF`, and
    `AT_CMD_GNSS_ERROR_NO_ACTIVE_SESSION`. -/
def alreadyOffLine : Bytes := ascii "+CME ERROR: 505"

/-- `TurningOnGNSS::retrivGeopositioning`. -/
def TurningOnGNSS.retrivGeopositioning (readyToSend : Bool) (Geodata : GNSSData φ) (i : ATPoll) :
    GNSSStep φ :=
  let line := readATResponse 128 i.line
  let events := GNSSEvent.commands readyToSend [ascii "AT+QGPS=1"] ++ GNSSEvent.reads line
  -- the second comparison is not compared with 0
  if line.any fun s => strcmp s okLine = 0 ∨ strcmp s alreadyOnLine ≠ 0 then
    .changes (.obtainingPositionInformation true 0) Geodata events .tryingToConnect
  else ⟨.turningOnGNSS i.expired, Geodata, events, .tryingToConnect⟩

/-- `TurningOffGNSS::retrivGeopositioning`. -/
def TurningOffGNSS.retrivGeopositioning (readyToSend : Bool) (Geodata : GNSSData φ) (i : ATPoll) :
    GNSSStep φ :=
  let line := readATResponse 128 i.line
  let events := GNSSEvent.commands readyToSend [ascii "AT+QGPS=0"] ++ GNSSEvent.reads line
  -- nor here
  if line.any fun s => strcmp s okLine = 0 ∨ strcmp s alreadyOffLine ≠ 0 then
    .changes .gnssUnavailable Geodata events .disconnected
  else ⟨.turningOffGNSS i.expired, Geodata, events, .disconnected⟩

/-! ## The two states that count

  They give up after twenty and thirty times that the timer ran out, and turn the module off. -/

/-- `ConfigurateConstellation::retrivGeopositioning`. -/
def ConfigurateConstellation.retrivGeopositioning (readyToSend : Bool) (numberOfTries : Nat)
    (Geodata : GNSSData φ) (i : ATPoll) : GNSSStep φ :=
  let line := readATResponse 128 i.line
  let events := GNSSEvent.commands readyToSend [ascii "AT+QGPSCFG=\"gnssconfig\",4"] ++
    GNSSEvent.reads line
  if line.any fun s => strcmp s okLine = 0 then
    .changes (.turningOnGNSS true) Geodata events .tryingToConnect
  else if i.expired then
    if numberOfTries + 1 ≥ 20 then
      .changes (.turningOffGNSS true) Geodata events .connectionUnavailable
    else ⟨.configurateConstellation true (numberOfTries + 1), Geodata, events, .tryingToConnect⟩
  else ⟨.configurateConstellation false numberOfTries, Geodata, events, .tryingToConnect⟩

namespace ObtainingPositionInformation

/-- The command that asks for a position. -/
def positionCommand : Bytes := ascii "AT+QGPSLOC?"

/-- The variables that `retrivPositionInfo` scans into, as far as the gateway uses them. -/
structure Scanned (φ : Type) where
  utc : Bytes
  date : Bytes
  Geodata : GNSSData φ

/-- `"%9[^,],%f,%f,%f,%f,%d,%f,%f,%f,%6[^,],%d"`. -/
def positionFormat : List (Stdio.Directive φ (Scanned φ)) :=
  [.field 9 44 fun v s => { s with utc := v }, .text (ascii ","),
    .float fun v s => { s with Geodata := { s.Geodata with latitude := v } }, .text (ascii ","),
    .float fun v s => { s with Geodata := { s.Geodata with longitude := v } }, .text (ascii ","),
    .float fun v s => { s with Geodata := { s.Geodata with hdop := v } }, .text (ascii ","),
    .float fun v s => { s with Geodata := { s.Geodata with altitude := v } }, .text (ascii ","),
    .int 32 fun _ s => s, .text (ascii ","),
    .float fun v s => { s with Geodata := { s.Geodata with cog := v } }, .text (ascii ","),
    .float fun v s => { s with Geodata := { s.Geodata with spkm := v } }, .text (ascii ","),
    .float fun _ s => s, .text (ascii ","),
    .field 6 44 fun v s => { s with date := v }, .text (ascii ","), .int 32 fun _ s => s]

/-- `retrivPositionInfo`: the position in a response that has all eleven fields, with the timestamp
    that the call makes of its date and time.  A blank in the format skips white space. -/
def retrivPositionInfo (F : Floats φ) (response : Bytes) (Geodata : GNSSData φ) :
    Option (GNSSData φ) :=
  let header := ascii "+QGPSLOC:"
  if header <+: response then
    let (n, scanned) := Stdio.sscanf F.strtof positionFormat
      ((response.drop header.length).dropWhile Stdio.isSpace) ⟨[], [], Geodata⟩
    if n = 11 then some { scanned.Geodata with timestamp := scanned.date ++ scanned.utc.take 6 }
    else none
  else none

/-- `ObtainingPositionInformation::retrivGeopositioning`. -/
def retrivGeopositioning (F : Floats φ) (readyToSend : Bool) (numberOfTries : Nat)
    (Geodata : GNSSData φ) (i : ATPoll) : GNSSStep φ :=
  let line := readATResponse 128 i.line
  let events := GNSSEvent.commands readyToSend [ascii "AT+QGPSLOC=2", positionCommand] ++
    GNSSEvent.reads line
  match line.bind fun s => retrivPositionInfo F s Geodata with
  | some Geodata =>
    .changes (.turningOffGNSS true) Geodata (events ++ [.setTime Geodata.timestamp])
      .connectionObtain
  | none =>
    if line.any fun s => strcmp s alreadyOffLine = 0 then
      .changes (.turningOnGNSS true) Geodata events .tryingToConnect
    else if i.expired then
      if numberOfTries + 1 ≥ 30 then
        .changes (.turningOffGNSS true) Geodata events .connectionUnavailable
      else
        ⟨.obtainingPositionInformation true (numberOfTries + 1), Geodata, events, .tryingToConnect⟩
    else ⟨.obtainingPositionInformation false numberOfTries, Geodata, events, .tryingToConnect⟩

end ObtainingPositionInformation

/-! ## The module

  The calls that the gateway makes.  Enabling a module that is not off does nothing, so a search
  begins in whatever state the last one has left. -/

/-- `currentGeopositioningState->retrivGeopositioning`. -/
def GeopositioningState.retrivGeopositioning (F : Floats φ) (s : GeopositioningState)
    (Geodata : GNSSData φ) (i : ATPoll) : GNSSStep φ :=
  match s with
  | .gnssUnavailable => ⟨.gnssUnavailable, Geodata, [], .disconnected⟩
  | .configurateConstellation readyToSend numberOfTries =>
      ConfigurateConstellation.retrivGeopositioning readyToSend numberOfTries Geodata i
  | .turningOnGNSS readyToSend => TurningOnGNSS.retrivGeopositioning readyToSend Geodata i
  | .obtainingPositionInformation readyToSend numberOfTries =>
      ObtainingPositionInformation.retrivGeopositioning F readyToSend numberOfTries Geodata i
  | .turningOffGNSS readyToSend => TurningOffGNSS.retrivGeopositioning readyToSend Geodata i

/-- `GNSSModule::enableGNSS`: only `GNSSUnavailable` reacts. -/
def GeopositioningState.enableGNSS (s : GeopositioningState) :
    GeopositioningState × List GNSSEvent :=
  match s with
  | .gnssUnavailable =>
      (.configurateConstellation true 0,
        [.changeGeopositioningState (.configurateConstellation true 0)])
  | _ => (s, [])

/-- What the gateway asks of the module. -/
inductive GNSSInput (φ : Type)
  | enable
  | retriv (Geodata : GNSSData φ) (i : ATPoll)

/-- One call on the module. -/
def GeopositioningState.step (F : Floats φ) (s : GeopositioningState) :
    GNSSInput φ → GeopositioningState × List GNSSEvent
  | .enable => s.enableGNSS
  | .retriv Geodata i =>
      let r := s.retrivGeopositioning F Geodata i
      (r.state, r.events ++ [.status r.status])

end GatewayLoRa
