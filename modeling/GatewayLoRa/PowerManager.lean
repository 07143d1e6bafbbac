/-
  The POWER MANAGER of the modem: off, on, switched off on purpose, asleep.

      PowerOFF → PowerON → ManualPowerOFF → PowerON → ...        and   PowerON ↔ Sleep

  `PowerManager` holds one `PowerState` object and hands its six methods on to it.  A call may read
  the status pin twice, the control button, one line of the modem and the timer twice; these
  readings are the input of the call (`PowerPoll`).  The pins are negative logic: `ON` on the
  status pin means that the modem has no power.

  The members of a state object begin anew with each object.  The `static` variables of the methods
  do not: they are kept in the manager, one set for each method that has some.

  `measureBattery` changes nothing but its own flag and is left out, like the debug writes.

  Two things decide what can be proved of it.  The members of an object and the statics of a method
  live for different times, and the methods mix them freely; that is why a state is never only the
  `PowerState`.  And the timer is one object of the manager, read by whichever method is called; a
  call finds it run out or not, and nothing is known of the calls before.
-/

import GatewayLoRa.Transceiver

namespace GatewayLoRa

open CMemory Machine

/-! ## States and events

  The trace is about what leaves the processor: commands, the three pins, and the objects that are
  created. -/

/-- `powerStatus_t`. -/
inductive PowerStatus
  | powerOff
  | manualPowerOff
  | powerOn
  | sleep
  deriving DecidableEq, Repr

/-- The members of a `PowerONState`. -/
structure PowerONState where
  ManualTurningPower : Bool
  SignalTurningPowerUp : Bool
  TurningDown : Bool
  turnOfWasCall : Bool
  deriving DecidableEq, Repr

/-- The members of a `ManualPowerOFFState`. -/
structure ManualPowerOFFState where
  ManualTurningPower : Bool
  SignalTurningPowerUp : Bool
  TurningUP : Bool
  turnONCounter : Nat
  buttonPushed : Bool
  deriving DecidableEq, Repr

/-- The current `PowerState` object. -/
inductive PowerState
  | powerOFF
  | powerON (s : PowerONState)
  | manualPowerOFF (s : ManualPowerOFFState)
  | sleep
  deriving DecidableEq, Repr

/-- The statics of a `turnOff`. -/
structure TurnOffStatics where
  readyToSend : Bool
  hardPowerOffUnderProcess : Bool
  retryCounter : Nat
  deriving DecidableEq, Repr

/-- `PowerManager`, with the statics of the methods of its states. -/
structure PowerManager where
  currentPowerState : PowerState
  /-- The static of `PowerONState::startStopUpdate`. -/
  turnOffCounter : Nat
  /-- The statics of `PowerONState::turnOff`. -/
  turnOff : TurnOffStatics
  /-- The statics of `SleepState::turnOff`. -/
  sleepTurnOff : TurnOffStatics
  /-- The static of `PowerONState::reboot`. -/
  rebootReadyToSend : Bool
  /-- The static of `PowerONState::goToSleep`. -/
  goToSleepReadyToSend : Bool
  /-- The static of `PowerOFFState::startStopUpdate`. -/
  turningPower : Bool
  /-- The static of `ManualPowerOFFState::turnOn`. -/
  SignalTurningOn : Bool
  deriving DecidableEq

/-- The statics of a `turnOff` as the program starts. -/
def TurnOffStatics.initial : TurnOffStatics := ⟨true, false, 0⟩

/-- The manager as the program starts. -/
def PowerManager.initial : PowerManager where
  currentPowerState := .powerOFF
  turnOffCounter := 0
  turnOff := .initial
  sleepTurnOff := .initial
  rebootReadyToSend := true
  goToSleepReadyToSend := true
  turningPower := false
  SignalTurningOn := false

/-- What a call of `turnOff` can be seen to do. -/
inductive TurnOffEvent
  | called
  /-- `AT+QPOWD` goes to the modem. -/
  | sent
  | read (line : Bytes)
  /-- The timer has run out. -/
  | expired
  | powerDownSignal (newStatus : Bool)
  deriving DecidableEq

/-- What the manager can be seen to do. -/
inductive PowerEvent
  | changePowerState (newPowerState : PowerStatus)
  /-- A command of another method than `turnOff`. -/
  | command (s : Bytes)
  | keySignal (newStatus : Bool)
  /-- The power-down pin, driven by another method than the `turnOff` of a modem that is on or
      asleep. -/
  | powerDownSignal (newStatus : Bool)
  | DTRSignal (newStatus : Bool)
  /-- What `turnOff` does in the state of a modem that is on or asleep. -/
  | turnOff (state : PowerStatus) (e : TurnOffEvent)
  deriving DecidableEq

/-- What one call reads: the status pin twice, the button, a line, the timer twice; `true` is `ON`. -/
structure PowerPoll where
  status : Bool
  status' : Bool
  button : Bool
  line : Option Bytes
  expired : Bool
  expired' : Bool
  deriving DecidableEq

/-- What a call leaves, does and returns. -/
structure PowerStep (ρ : Type) where
  manager : PowerManager
  events : List PowerEvent
  returned : ρ

/-! ## Changes of state

  A new object begins with its members cleared.  The statics stay as they are, here and everywhere.
  -/

/-- `changePowerState (new PowerONState (manager))`. -/
def PowerManager.toPowerON (m : PowerManager) : PowerManager × List PowerEvent :=
  ({ m with currentPowerState := .powerON ⟨false, false, false, false⟩ },
    [.changePowerState .powerOn])

/-- `changePowerState (new PowerOFFState (manager))`. -/
def PowerManager.toPowerOFF (m : PowerManager) : PowerManager × List PowerEvent :=
  ({ m with currentPowerState := .powerOFF }, [.changePowerState .powerOff])

/-- `changePowerState (new ManualPowerOFFState (manager))`; the constructor cuts the power. -/
def PowerManager.toManualPowerOFF (m : PowerManager) : PowerManager × List PowerEvent :=
  ({ m with currentPowerState := .manualPowerOFF ⟨false, false, false, 0, false⟩ },
    [.powerDownSignal false, .changePowerState .manualPowerOff])

/-- `changePowerState (new SleepState (manager))`. -/
def PowerManager.toSleep (m : PowerManager) : PowerManager × List PowerEvent :=
  ({ m with currentPowerState := .sleep }, [.changePowerState .sleep])

/-! ## PowerONState

  `turnOff` is the longest of its methods.  The sleeping state has the same code with statics of its
  own, so the common part is `turnOffCall`. -/

/-- `MAX_TRIES`. -/
abbrev maxTries : Nat := 10

/-- `MAX_COUNT_TURN_OFF`. -/
abbrev maxCountTurnOff : Nat := 20

/-- The command that asks the modem to switch itself off. -/
def powerDownCommand : Bytes := ascii "AT+QPOWD"

/-- The line with which it does. -/
def poweredDownLine : Bytes := ascii "POWERED DOWN"

/-- `turnOff` of a modem that is on or asleep: the statics, what it did, and whether it is done. -/
def turnOffCall (s : TurnOffStatics) (i : PowerPoll) :
    TurnOffStatics × List TurnOffEvent × Bool :=
  let line := i.line.map cstr
  let events := .called :: ((if s.readyToSend then [.sent] else []) ++ line.toList.map .read)
  let s := { s with readyToSend := false }
  -- the exit that leaves the counter as it is
  if line = some poweredDownLine then (s, events, true)
  else if i.expired = false then (s, events, false)
  else if s.retryCounter ≤ maxTries then
    ({ s with retryCounter := s.retryCounter + 1, readyToSend := true }, events ++ [.expired], false)
  -- the tries are used up: the pin is pulled, and released when the timer has run out once more
  else if s.hardPowerOffUnderProcess = false then
    ({ s with hardPowerOffUnderProcess := true }, events ++ [.expired, .powerDownSignal false], false)
  else (⟨true, false, 0⟩, events ++ [.expired, .powerDownSignal true], true)

namespace PowerONState

/-- `turnOffCounter` after the two readings of the status pin. -/
def countReadings (turnOffCounter : Nat) (i : PowerPoll) : Nat :=
  let turnOffCounter := if i.status = false then 0 else turnOffCounter
  -- the pin is read twice, and may have changed in between
  if i.status' = true then turnOffCounter + 1 else turnOffCounter

/-- The button, and the pulse it starts: the members after it, and the signals on the KEY pin. -/
def pressButton (s : PowerONState) (i : PowerPoll) : PowerONState × List Bool :=
  let s := if i.button = false then { s with ManualTurningPower := true, TurningDown := true } else s
  let starts := s.ManualTurningPower && !s.SignalTurningPowerUp && s.TurningDown
  let s := if starts then { s with SignalTurningPowerUp := true } else s
  let stops := s.SignalTurningPowerUp && i.expired && s.TurningDown
  let s := if stops then { s with SignalTurningPowerUp := false, TurningDown := false } else s
  (s, (if starts then [true] else []) ++ (if stops then [false] else []))

/-- `PowerONState::startStopUpdate`. -/
def startStopUpdate (m : PowerManager) (s : PowerONState) (i : PowerPoll) : PowerStep PowerStatus :=
  if s.turnOfWasCall then ⟨m, [], .powerOn⟩
  else
    let m := { m with turnOffCounter := countReadings m.turnOffCounter i }
    if m.turnOffCounter = maxCountTurnOff then
      if s.ManualTurningPower = false then ⟨m.toPowerOFF.1, m.toPowerOFF.2, .powerOff⟩
      else ⟨m.toManualPowerOFF.1, m.toManualPowerOFF.2, .manualPowerOff⟩
    else
      let (s, signals) := s.pressButton i
      ⟨{ m with currentPowerState := .powerON s }, signals.map .keySignal, .powerOn⟩

/-- `PowerONState::turnOff`. -/
def turnOff (m : PowerManager) (s : PowerONState) (i : PowerPoll) : PowerStep Bool :=
  let turnOfWasCall := s.turnOfWasCall || m.turnOff.readyToSend
  let (statics, events, done) := turnOffCall m.turnOff i
  let events := events.map (.turnOff .powerOn)
  let m := { m with turnOff := statics }
  if done then ⟨m.toManualPowerOFF.1, events ++ m.toManualPowerOFF.2, true⟩
  else ⟨{ m with currentPowerState := .powerON { s with turnOfWasCall } }, events, false⟩

/-- `PowerONState::reboot`. -/
def reboot (m : PowerManager) (i : PowerPoll) : PowerStep Bool :=
  let events := if m.rebootReadyToSend then [.command powerDownCommand] else []
  if i.line.map cstr = some poweredDownLine then
    let m := { m with rebootReadyToSend := false }
    ⟨m.toPowerOFF.1, events ++ m.toPowerOFF.2, true⟩
  else ⟨{ m with rebootReadyToSend := i.expired }, events, false⟩

/-- `PowerONState::goToSleep`. -/
def goToSleep (m : PowerManager) (i : PowerPoll) : PowerStep Bool :=
  let events := if m.goToSleepReadyToSend then [.command (ascii "AT+QSCLK=1")] else []
  if i.line.map cstr = some okLine then
    let m := { m with goToSleepReadyToSend := false }
    ⟨m.toSleep.1, events ++ .DTRSignal true :: m.toSleep.2, true⟩
  else ⟨{ m with goToSleepReadyToSend := i.expired }, events, false⟩

end PowerONState

/-! ## The other states

  What they share with the state of a modem that is on is the pulse on the KEY pin: it starts when
  the button was pressed and ends when the timer has run out. -/

/-- `PowerOFFState::startStopUpdate`. -/
def PowerOFFState.startStopUpdate (m : PowerManager) (i : PowerPoll) : PowerStep PowerStatus :=
  if i.status = false then ⟨m.toPowerON.1, m.toPowerON.2, .powerOn⟩
  else
    let starts := !m.turningPower && i.expired
    let turningPower := m.turningPower || starts
    let stops := turningPower && (if starts then i.expired' else i.expired)
    let signals := (if starts then [true] else []) ++ (if stops then [false] else [])
    ⟨{ m with turningPower := turningPower && !stops }, signals.map .keySignal, .powerOff⟩

namespace ManualPowerOFFState

/-- `TURN_ON_COUNTER`. -/
def turnOnCounter : Nat := 1000

/-- The button, and the pulse it starts: the members after it, and the signals on the KEY pin. -/
def pressButton (s : ManualPowerOFFState) (i : PowerPoll) : ManualPowerOFFState × List Bool :=
  let s :=
    if i.button = false then
      { s with ManualTurningPower := true, TurningUP := true, buttonPushed := true }
    else s
  let starts := s.ManualTurningPower && !s.SignalTurningPowerUp && s.TurningUP
  let s := if starts then { s with SignalTurningPowerUp := true } else s
  let stops := s.SignalTurningPowerUp && i.expired && s.TurningUP
  let s := if stops then { s with SignalTurningPowerUp := false, TurningUP := false } else s
  (s, (if starts then [true] else []) ++ (if stops then [false] else []))

/-- `ManualPowerOFFState::startStopUpdate`. -/
def startStopUpdate (m : PowerManager) (s : ManualPowerOFFState) (i : PowerPoll) :
    PowerStep PowerStatus :=
  let powered := i.status = false ∧ s.buttonPushed = true
  if powered ∧ s.turnONCounter > turnOnCounter then ⟨m.toPowerON.1, m.toPowerON.2, .powerOn⟩
  else
    let s := if powered then { s with turnONCounter := s.turnONCounter + 1 } else s
    let (s, signals) := s.pressButton i
    ⟨{ m with currentPowerState := .manualPowerOFF s }, signals.map .keySignal, .manualPowerOff⟩

/-- `ManualPowerOFFState::turnOn`. -/
def turnOn (m : PowerManager) (i : PowerPoll) : PowerStep Bool :=
  if i.status = false then ⟨m.toPowerON.1, .powerDownSignal true :: m.toPowerON.2, true⟩
  else
    ⟨{ m with SignalTurningOn := if i.expired then !m.SignalTurningOn else m.SignalTurningOn },
      .powerDownSignal true ::
        (if i.expired then [.keySignal (!m.SignalTurningOn)] else []),
      false⟩

end ManualPowerOFFState

/-- `SleepState::turnOff`. -/
def SleepState.turnOff (m : PowerManager) (i : PowerPoll) : PowerStep Bool :=
  let (statics, events, done) := turnOffCall m.sleepTurnOff i
  let events := events.map (.turnOff .sleep)
  let m := { m with sleepTurnOff := statics }
  if done then ⟨m.toManualPowerOFF.1, events ++ m.toManualPowerOFF.2, true⟩
  else ⟨m, events, false⟩

/-- `SleepState::awake`. -/
def SleepState.awake (m : PowerManager) : PowerManager × List PowerEvent :=
  (m.toPowerON.1, .DTRSignal false :: m.toPowerON.2)

/-! ## The methods of the manager

  The dispatch.  A method that a state does not have is that of `PowerState`, which does nothing;
  `turnOn` of a modem that is on is done at once. -/

namespace PowerManager

/-- `startStopUpdate`. -/
def startStopUpdate (m : PowerManager) (i : PowerPoll) : PowerStep PowerStatus :=
  match m.currentPowerState with
  | .powerOFF => PowerOFFState.startStopUpdate m i
  | .powerON s => PowerONState.startStopUpdate m s i
  | .manualPowerOFF s => ManualPowerOFFState.startStopUpdate m s i
  | .sleep => ⟨m, [], .sleep⟩

/-- `turnOn`. -/
def turnOn (m : PowerManager) (i : PowerPoll) : PowerStep Bool :=
  match m.currentPowerState with
  | .powerOFF =>
      let s := PowerOFFState.startStopUpdate m i
      ⟨s.manager, s.events, s.returned = .powerOn⟩
  | .powerON _ => ⟨m, [], true⟩
  | .manualPowerOFF _ => ManualPowerOFFState.turnOn m i
  | .sleep => ⟨(SleepState.awake m).1, (SleepState.awake m).2, true⟩

/-- `turnOff`. -/
def turnOffUpdate (m : PowerManager) (i : PowerPoll) : PowerStep Bool :=
  match m.currentPowerState with
  | .powerOFF => ⟨m.toManualPowerOFF.1, m.toManualPowerOFF.2, true⟩
  | .powerON s => PowerONState.turnOff m s i
  | .manualPowerOFF _ => ⟨m, [.powerDownSignal false], true⟩
  | .sleep => SleepState.turnOff m i

/-- `reboot`. -/
def reboot (m : PowerManager) (i : PowerPoll) : PowerStep Bool :=
  match m.currentPowerState with
  | .powerON _ => PowerONState.reboot m i
  | _ => ⟨m, [], false⟩

/-- `goToSleep`. -/
def goToSleep (m : PowerManager) (i : PowerPoll) : PowerStep Bool :=
  match m.currentPowerState with
  | .powerON _ => PowerONState.goToSleep m i
  | .sleep => ⟨m, [], true⟩
  | _ => ⟨m, [], false⟩

/-- `awake`. -/
def awake (m : PowerManager) : PowerManager × List PowerEvent :=
  match m.currentPowerState with
  | .sleep => SleepState.awake m
  | _ => (m, [])

end PowerManager

/-- What is asked of the manager. -/
inductive PowerCall
  | startStopUpdate (i : PowerPoll)
  | turnOn (i : PowerPoll)
  | turnOff (i : PowerPoll)
  | reboot (i : PowerPoll)
  | goToSleep (i : PowerPoll)
  | awake
  deriving DecidableEq

/-- **One call on the manager.** -/
def PowerManager.step (m : PowerManager) : PowerCall → PowerManager × List PowerEvent
  | .startStopUpdate i => ((m.startStopUpdate i).manager, (m.startStopUpdate i).events)
  | .turnOn i => ((m.turnOn i).manager, (m.turnOn i).events)
  | .turnOff i => ((m.turnOffUpdate i).manager, (m.turnOffUpdate i).events)
  | .reboot i => ((m.reboot i).manager, (m.reboot i).events)
  | .goToSleep i => ((m.goToSleep i).manager, (m.goToSleep i).events)
  | .awake => m.awake

end GatewayLoRa
