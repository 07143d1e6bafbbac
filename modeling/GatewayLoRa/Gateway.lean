/-
  The GATEWAY: one relay cycle after the other.

      SensingBatteryStatus → GettingGNSSPosition → WaitingForMessage → SendingAck →
        ConnectingEthernet → ObtaingTimeUTCThroughEthernet → FormattingMessage →
          SendingMessageThroughEthernet → SensingBatteryStatus

  and, when Ethernet fails, ConnectingToMobileNetwork → FormattingMessage → ExchangingMessages.

  `Gateway::update` calls ten methods of the current state, one after the other, and each state
  answers some of them; the base state answers none.  So a call can change the state, and the next
  call of the same update goes to the new one.  Here a `Call` is one of the ten methods with what it
  finds outside the gateway (the radio, the tick counter, the modem, the socket, the clock), and
  `call` is one step of a machine.  `update` is the run of its ten calls, so what holds in every run
  of calls, in any order, holds in every run of updates and at every point inside one.

  The `static` variables of the methods are kept in the gateway.  Left out are the debug port, the
  watchdog, the power manager, and the interpretation of a server reply behind the field `SUCS`,
  which stores nothing.  What `processLoRaMessage` answers is part of a call, `decodeJWT` and the
  platform's arithmetic are parameters (`Platform`).

  Nothing is proved of it here.  The methods are written one by one as the source has them, with
  what they read and what they leave, and the modules behind this one say what follows: for one
  cycle, for the chain of hashes, for each of the channels.  Every call is total: a method that the
  current state does not answer is that of the base state, which returns.
-/

import GatewayLoRa.ConnectionState
import GatewayLoRa.FormattingMessage
import GatewayLoRa.GNSSModule
import GatewayLoRa.SendingAck
import GatewayLoRa.Transceiver

namespace GatewayLoRa

open CMemory Machine

/-! ## States

  A state object is a constructor with the members that its C++ constructor is given.  Objects
  without members of their own are constants, so that equality of states is equality of objects. -/

/-- `gatewayStatus_t`. -/
inductive GatewayStatus
  | watingForAMessage
  | receptedLoraLoraMessageTryingEthernet
  | receptedLoraGnssMessageTryingEthernet
  | receptedLoraLoraMessageTryingMobileNetwork
  | receptedLoraGnssMessageTryingMobileNetwork
  | parseError
  deriving DecidableEq, Repr

/-- The current `GatewayState` object, with the members it was built with. -/
inductive GatewayState
  | sensingBatteryStatus
  | gettingGNSSPosition
  | waitingForMessage
  | sendingAck (IdDevice : Int64) (messageNumber : Int32) (currentStatus : GatewayStatus)
  | connectingEthernet (currentStatus : GatewayStatus)
  | obtaingTimeUTCThroughEthernet (currentStatus : GatewayStatus)
  | formattingMessage (currentStatus : GatewayStatus)
  | sendingMessageThroughEthernet (connectionRetries : Nat) (currentStatus : GatewayStatus)
  | connectingToMobileNetwork (currentStatus : GatewayStatus)
  | exchangingMessages
  deriving DecidableEq

/-- The members that make the hash chain. -/
structure Chain where
  sequenceMessageNumber : Int
  prevChainHash : Bytes
  currChainHash : Bytes
  deriving DecidableEq

/-- The statics of `ExchangingMessages::exchangeMessages`. -/
structure ExchangeStatics where
  newDataAvailable : Bool
  enableTransceiver : Bool
  deriving DecidableEq

/-- The gateway. -/
structure Gateway (φ : Type) where
  currentState : GatewayState
  recepted : Recepted φ
  RSSI : Int
  gatewayGNSSdata : GNSSData φ
  chain : Chain
  /-- The static buffer of `update`. -/
  bufferMessage : Bytes
  timeout : NonBlockingDelay
  cellularTransceiver : Cellular
  waiting : WaitingForMessage.Statics
  ack : SendingAck.Statics
  /-- The static of `GettingGNSSPosition::obtainGNSSPosition`. -/
  moduleTurningOff : Bool
  exchange : ExchangeStatics

/-- What the gateway's code runs on. -/
structure Platform (φ : Type) where
  primitives : Primitives
  floats : Floats φ
  localtime : Int → Tm
  decodeJWT : Bytes → Option Bytes

/-- `URL_PATH_MAIN_CHANNEL`. -/
def urlPathMainChannel : Bytes :=
  ascii "https://intent-lion-loudly.ngrok-free.app/api/canal/envio"

/-- `URL_PATH_SECONDARY_CHANNEL`. -/
def urlPathSecondaryChannel : Bytes :=
  ascii "https://intent-lion-loudly.ngrok-free.app/apendice/canal-secundario/envio"

/-- `CURRENT_DEVICE_IDENTIFIER`. -/
def currentDeviceIdentifier : Bytes := ascii "device/gateway-001"

/-- The chain before the first message. -/
def Chain.initial : Chain := ⟨0, ascii "-", ascii "-"⟩

/-- `STANDARD_TIMEOUT`. -/
def standardTimeout : UInt64 := 8000

/-- The gateway as the program starts; the members that the constructor does not set, and the first
    tick of the delay, are arguments. -/
def Gateway.initial {φ : Type} (recepted : Recepted φ) (RSSI : Int) (gatewayGNSSdata : GNSSData φ)
    (startTime : UInt64) : Gateway φ where
  currentState := .sensingBatteryStatus
  recepted := recepted
  RSSI := RSSI
  gatewayGNSSdata := gatewayGNSSdata
  chain := .initial
  bufferMessage := []
  timeout := ⟨standardTimeout, startTime, false⟩
  cellularTransceiver := .initial
  waiting := .initial
  ack := .initial
  moduleTurningOff := false
  exchange := ⟨false, false⟩

/-! ## Events and calls

  An event is what a promise may speak of, a call is what the gateway can be asked to do.  Between
  them they are the whole interface of the machine. -/

/-- A message as it was formatted: its metadata, its hash, and the token of it. -/
structure Formatted where
  metadata : Metadata
  curr : Bytes
  token : Bytes
  deriving DecidableEq

/-- What the gateway can be seen to do. -/
inductive GatewayEvent
  /-- `changeState`. -/
  | changeState (newState : GatewayState)
  /-- A LoRa message was accepted. -/
  | accepted (IMEI : Int64) (number : Int32) (type : ReceptedTypeMessage)
  /-- A packet was given to the radio. -/
  | transmitted (packet : Bytes)
  /-- An access in `sendAcknowledgement` was out of bounds. -/
  | fault (f : Fault)
  | formatted (m : Formatted)
  /-- A message went to the server through Ethernet, and the receive loop was reached: the results
      of its calls of `recv`. -/
  | received (payload : Bytes) (recvs : List Int)
  | modem (e : TransceiverEvent)
  /-- The modem reported that the message was sent; the reply of the server, if there is one. -/
  | sent (reply : Option Bytes)
  deriving DecidableEq

/-- What one call of `exchangeMessagesThroughEthernet` finds at the socket: the results of `open`
    and `connect`, of the calls of `send` (0 after the last of the list), whether the server
    answers before the time-out, and the results of the calls of `recv`. -/
structure TcpSession where
  openResult : Int
  connectResult : Int
  sends : List Int
  answered : Bool
  recvs : List Int

/-- One of the ten calls of an update, with what it finds outside the gateway. -/
inductive Call (φ : Type)
  | waitForMessage (begins : Bool) (packet : Bytes) (packetRssi : Int)
      (processLoRaMessage : Bytes → Option Bytes)
  | sendAcknowledgement (ticks : SendingAck.Ticks)
  | updatePowerStatus (measured : Bool)
  | obtainGNSSPosition (turnedOff : Bool) (status : GNSSState) (position : GNSSData φ)
  | connectToMobileNetwork (status : CellularConnectionStatus)
  | formatMessage (seconds : Int)
  | exchangeMessages (line : Option Bytes) (expired : Bool)
  | connectEthernetToLocalNetwork (connectResult : Int)
  | queryUTCTimeViaRemoteServer
  | exchangeMessagesThroughEthernet (s : TcpSession)

/-! ## The methods of the gateway

  The small ones, under their names; the states call them. -/

/-- `progressOnHashChain`. -/
def Chain.progressOnHashChain (c : Chain) : Chain := { c with prevChainHash := c.currChainHash }

/-- `increaseSequenceNumber`. -/
def Chain.increaseSequenceNumber (c : Chain) : Chain :=
  { c with sequenceMessageNumber := c.sequenceMessageNumber + 1 }

/-- `setCurrentHashChain`. -/
def Chain.setCurrentHashChain (c : Chain) (hashChain : Bytes) : Chain :=
  { c with currChainHash := hashChain }

variable {φ : Type}

/-- `changeState`. -/
def Gateway.changeState (g : Gateway φ) (newState : GatewayState) :
    Gateway φ × List GatewayEvent :=
  ({ g with currentState := newState }, [.changeState newState])

/-- The status of a message while Ethernet is tried. -/
def ReceptedTypeMessage.tryingEthernet : ReceptedTypeMessage → GatewayStatus
  | .loraLora => .receptedLoraLoraMessageTryingEthernet
  | .loraGnss => .receptedLoraGnssMessageTryingEthernet

/-- The status of a message while the mobile network is tried. -/
def ReceptedTypeMessage.tryingMobileNetwork : ReceptedTypeMessage → GatewayStatus
  | .loraLora => .receptedLoraLoraMessageTryingMobileNetwork
  | .loraGnss => .receptedLoraGnssMessageTryingMobileNetwork

/-! ## From the radio to the acknowledgement

  A packet is collected, decoded by the chain of handlers, parsed, and acknowledged.  The first two
  are machines of their own (`WaitingForMessage`, `MessageHandler`), and what they answer comes in
  with the call. -/

variable (E : Platform φ)

/-- The text that `waitForMessage` gave to the parser. -/
def parsedText (processLoRaMessage : Bytes → Option Bytes) (events : List WaitingForMessage.Event) :
    Option Bytes :=
  events.findSome? fun
    | .handed s => processLoRaMessage s
    | _ => none

/-- `WaitingForMessage::waitForMessage`. -/
def Gateway.waitForMessage (begins : Bool) (packet : Bytes) (packetRssi : Int)
    (processLoRaMessage : Bytes → Option Bytes) (g : Gateway φ) : Gateway φ × List GatewayEvent :=
  let parse := fun text => parseReceptedLoRaMessage E.floats text g.recepted
  let (waiting, events) := WaitingForMessage.waitForMessage begins packet
    ⟨processLoRaMessage, fun text => (parse text).1⟩ g.waiting
  -- the strength of the packet that completed a frame, whether it is accepted or not
  let RSSI := if WaitingForMessage.completed events = [] then g.RSSI else packetRssi
  match parsedText processLoRaMessage events with
  | none => ({ g with waiting, RSSI }, [])
  | some text =>
    let (accepted, recepted) := parse text
    let g := { g with waiting, RSSI, recepted, bufferMessage := text }
    if accepted then
      let type := recepted.receptedTypeMessage
      let (g, events) := g.changeState
        (.sendingAck recepted.IMEIRecepted recepted.loraMessageNumber type.tryingEthernet)
      (g, .accepted recepted.IMEIRecepted recepted.loraMessageNumber type :: events)
    else (g, [])

/-- `SendingAck::sendAcknowledgement`. -/
def Gateway.sendAcknowledgement (IdDevice : Int64) (messageNumber : Int32)
    (currentStatus : GatewayStatus) (ticks : SendingAck.Ticks) (g : Gateway φ) :
    Gateway φ × List GatewayEvent :=
  match SendingAck.sendAcknowledgement E.primitives IdDevice messageNumber ticks g.timeout g.ack with
  -- an access out of bounds has no meaning in the source; the call stops and says so
  | .error f => (g, [.fault f])
  | .ok s =>
    let g := { g with ack := s.statics, timeout := s.backoffTime }
    let packets := s.packets.map GatewayEvent.transmitted
    if s.done then
      let (g, events) := g.changeState (.connectingEthernet currentStatus)
      (g, packets ++ events)
    else (g, packets)

/-! ## Ethernet

  One attempt is one call.  The socket's answers are lists, read from the front; a list that is used
  up answers 0. -/

/-- The failing branch of the Ethernet states: the mobile network is tried with the same message. -/
def Gateway.failEthernet (currentStatus : GatewayStatus) (g : Gateway φ) :
    Gateway φ × List GatewayEvent :=
  match currentStatus with
  | .receptedLoraLoraMessageTryingEthernet =>
      g.changeState (.connectingToMobileNetwork .receptedLoraLoraMessageTryingMobileNetwork)
  | .receptedLoraGnssMessageTryingEthernet =>
      g.changeState (.connectingToMobileNetwork .receptedLoraGnssMessageTryingMobileNetwork)
  | _ => (g, [])

/-- `ConnectingEthernet::connectEthernetToLocalNetwork`. -/
def Gateway.connectEthernetToLocalNetwork (currentStatus : GatewayStatus) (connectResult : Int)
    (g : Gateway φ) : Gateway φ × List GatewayEvent :=
  if connectResult ≠ 0 then g.failEthernet currentStatus
  else g.changeState (.obtaingTimeUTCThroughEthernet currentStatus)

namespace SendingMessageThroughEthernet

/-- `MAX_RETRIES`. -/
def maxRetries : Nat := 20

/-- `httpRequest`. -/
def httpRequest (payload : Bytes) : Bytes :=
  (ascii "POST /7dafefff-6d11-4c3f-8d2d-eb084d109d4f HTTP/1.1\r\nHost: webhook.site\r\n" ++
    ascii "Content-Type: text/plain\r\nContent-Length: " ++ Stdio.intText payload.length ++
    ascii "\r\nConnection: close\r\n\r\n" ++ payload).take 2499

/-- The loop over `socket.send`: `remaining` bytes are left; the last result. -/
def sendLoop : Nat → List Int → Int
  | _, [] => 0
  | remaining, result :: sends =>
      if result > 0 then
        -- the loop ends because everything was sent
        if remaining ≤ result.toNat then result else sendLoop (remaining - result.toNat) sends
      else result

/-- The loop over `socket.recv`: the chain, and whether a call failed. -/
def recvLoop : List Int → Chain → Chain × Bool
  | [], c => (c, false)
  | result :: recvs, c =>
      if result < 0 then (c, true)
      else recvLoop recvs (c.progressOnHashChain.increaseSequenceNumber)

end SendingMessageThroughEthernet

open SendingMessageThroughEthernet in
/-- `SendingMessageThroughEthernet::exchangeMessagesThroughEthernet`. -/
def Gateway.exchangeMessagesThroughEthernet (connectionRetries : Nat)
    (currentStatus : GatewayStatus) (s : TcpSession) (g : Gateway φ) :
    Gateway φ × List GatewayEvent :=
  if s.openResult ≠ 0 then g.failEthernet currentStatus
  else if s.connectResult ≠ 0 then
    let g := { g with
      currentState := .sendingMessageThroughEthernet (connectionRetries + 1) currentStatus }
    -- the attempt is counted before the count is looked at
    if connectionRetries + 1 ≥ maxRetries then g.failEthernet currentStatus else (g, [])
  else if sendLoop (httpRequest g.bufferMessage).length s.sends < 0 then
    g.failEthernet currentStatus
  else if s.answered = false then g.failEthernet currentStatus
  else
    let (chain, failed) := recvLoop s.recvs g.chain
    let received := GatewayEvent.received g.bufferMessage s.recvs
    let g := { g with chain }
    let (g, events) :=
      if failed then g.failEthernet currentStatus else g.changeState .sensingBatteryStatus
    (g, received :: events)

/-! ## The mobile network

  The connection and the transmission are machines of the modem.  The first comes in as a status,
  the second is a member of the gateway, because its statics outlive the state. -/

/-- `ConnectingToMobileNetwork::connectToMobileNetwork`. -/
def Gateway.connectToMobileNetwork (currentStatus : GatewayStatus)
    (status : CellularConnectionStatus) (g : Gateway φ) : Gateway φ × List GatewayEvent :=
  if status = .connectedToNetwork then g.changeState (.formattingMessage currentStatus)
  else if status ≠ .unavaible ∧ status ≠ .tryingToConnect then g.changeState .sensingBatteryStatus
  else (g, [])

namespace ExchangingMessages

/-- `strstr`: the string from the first place on where `key` stands. -/
def strstr (key : Bytes) : Bytes → Option Bytes
  | [] => if key = [] then some [] else none
  | c :: s => if key <+: c :: s then some (c :: s) else strstr key s

/-- `strchr`: the string from the first `c` on. -/
def strchr (s : Bytes) (c : UInt8) : Option Bytes :=
  let rest := s.dropWhile (· != c)
  if rest = [] then none else some rest

/-- `extractField`: the value behind a key, cut to `maxLen - 1` bytes. -/
def extractField (json key : Bytes) (maxLen : Nat) : Option Bytes :=
  ((strstr key json).bind fun found => strchr found 58).map fun found =>
    ((found.tail.dropWhile fun c => c == 32 || c == 34).takeWhile fun c => c != 34 && c != 44).take
      (maxLen - 1)

/-- The reply of the server decodes and names its success. -/
def replyConfirms (decodeJWT : Bytes → Option Bytes) (reply : Bytes) : Bool :=
  (decodeJWT reply).any fun payload => (extractField payload (ascii "\"SUCS\"") 30).isSome

end ExchangingMessages

/-- The calls on the cellular module: `enableTransceiver` at the begin of a transmission, and
    `exchangeMessages`. -/
def Gateway.exchangeWithModem (line : Option Bytes) (expired : Bool) (g : Gateway φ) :
    TransceiverStep :=
  let (cellular, enabled) :=
    if g.exchange.enableTransceiver then (g.cellularTransceiver, [])
    else g.cellularTransceiver.enableTransceiver
  let s := cellular.exchangeMessages ⟨g.bufferMessage, line, expired⟩
  { s with events := enabled ++ s.events }

open ExchangingMessages in
/-- `ExchangingMessages::exchangeMessages`. -/
def Gateway.exchangeMessages (line : Option Bytes) (expired : Bool) (g : Gateway φ) :
    Gateway φ × List GatewayEvent :=
  let s := g.exchangeWithModem line expired
  let modem := s.events.map GatewayEvent.modem
  let newDataAvailable := g.exchange.newDataAvailable || s.received.isSome
  let g := { g with
    cellularTransceiver := ⟨s.transceiver, s.post⟩
    bufferMessage := s.received.getD g.bufferMessage }
  let ended := { g with exchange := ⟨false, false⟩ }
  if s.status = .sendOk then
    if newDataAvailable then
      let sent := GatewayEvent.sent (some g.bufferMessage)
      match E.decodeJWT g.bufferMessage with
      | none =>
        let (g, events) := ended.changeState .sensingBatteryStatus
        (g, modem ++ sent :: events)
      | some payload =>
        let ended := { ended with bufferMessage := payload }
        let ended :=
          -- `SUCS` is all that the chain looks at; its value does not matter
          if (extractField payload (ascii "\"SUCS\"") 30).isNone then ended
          else
            { ended with chain := ended.chain.progressOnHashChain.increaseSequenceNumber }
        let (g, events) := ended.changeState .sensingBatteryStatus
        (g, modem ++ sent :: events)
    else
      let (g, events) := ended.changeState .sensingBatteryStatus
      (g, modem ++ .sent none :: events)
  else if s.status ≠ .tryningToSend ∧ s.status ≠ .unavaible then
    let (g, events) := ended.changeState .sensingBatteryStatus
    (g, modem ++ events)
  else ({ g with exchange := ⟨newDataAvailable, true⟩ }, modem)

/-! ## Formatting

  The message is formatted into the buffer of `update`, and its hash into the chain.  The status
  decides two things: the path in the metadata, and the state that comes next. -/

/-- The status says that the mobile network is tried. -/
def GatewayStatus.isTryingMobileNetwork (currentStatus : GatewayStatus) : Bool :=
  currentStatus = .receptedLoraLoraMessageTryingMobileNetwork ||
    currentStatus = .receptedLoraGnssMessageTryingMobileNetwork

/-- The metadata that `addMetaData` collects. -/
def Gateway.metadata (currentStatus : GatewayStatus) (seconds : Int) (g : Gateway φ) : Metadata where
  deviceIdentifier := currentDeviceIdentifier
  urlPathChannel :=
    if currentStatus.isTryingMobileNetwork then urlPathMainChannel else urlPathSecondaryChannel
  timestamp := epochToTimestamp E.localtime seconds
  timestampExpiration := epochToTimestamp E.localtime (seconds + 24 * 60 * 60)
  sequenceNumber := g.chain.sequenceMessageNumber
  hashPrevJson := g.chain.prevChainHash

/-- The message that `formatMessage` formats. -/
def Gateway.formatted (currentStatus : GatewayStatus) (seconds : Int) (g : Gateway φ) :
    Formatted :=
  let m := g.metadata E currentStatus seconds
  let text := payloadText E.floats g.RSSI g.gatewayGNSSdata g.recepted
  { metadata := m
    curr := hashCurrentJson E.primitives m text
    token := JWTManager.encodeJWT E.primitives (addMetaData E.primitives m text) ++ ascii "\n" }

/-- `FormattingMessage::formatMessage`. -/
def Gateway.formatMessage (currentStatus : GatewayStatus) (seconds : Int) (g : Gateway φ) :
    Gateway φ × List GatewayEvent :=
  let m := g.formatted E currentStatus seconds
  let g := { g with bufferMessage := m.token, chain := g.chain.setCurrentHashChain m.curr }
  let (g, events) := g.changeState
    (if currentStatus.isTryingMobileNetwork then .exchangingMessages
      else .sendingMessageThroughEthernet 0 currentStatus)
  (g, .formatted m :: events)

/-! ## Between two cycles

  Two states that do not know of messages. -/

/-- `SensingBatteryStatus::updatePowerStatus`. -/
def Gateway.updatePowerStatus (measured : Bool) (g : Gateway φ) : Gateway φ × List GatewayEvent :=
  if measured then g.changeState .gettingGNSSPosition else (g, [])

/-- `GettingGNSSPosition::obtainGNSSPosition`. -/
def Gateway.obtainGNSSPosition (turnedOff : Bool) (status : GNSSState) (position : GNSSData φ)
    (g : Gateway φ) : Gateway φ × List GatewayEvent :=
  if g.moduleTurningOff then
    -- the search is over, and the module is asked to turn itself off until it has
    if turnedOff then { g with moduleTurningOff := false }.changeState .waitingForMessage else (g, [])
  else
    ({ g with
      gatewayGNSSdata := position
      moduleTurningOff := status = .connectionObtain || status = .connectionUnavailable }, [])

/-! ## One call, one update

  The dispatch, and the ten calls in the order of the source.  A statement about every list of calls
  is stronger than one about updates, and does not depend on their order. -/

/-- **One call**: the method of the current state, if it has one of its own. -/
def call (g : Gateway φ) : Call φ → Gateway φ × List GatewayEvent
  | .waitForMessage begins packet packetRssi processLoRaMessage =>
    match g.currentState with
    | .waitingForMessage => g.waitForMessage E begins packet packetRssi processLoRaMessage
    | _ => (g, [])
  | .sendAcknowledgement ticks =>
    match g.currentState with
    | .sendingAck IdDevice messageNumber currentStatus =>
        g.sendAcknowledgement E IdDevice messageNumber currentStatus ticks
    | _ => (g, [])
  | .updatePowerStatus measured =>
    match g.currentState with
    | .sensingBatteryStatus => g.updatePowerStatus measured
    | _ => (g, [])
  | .obtainGNSSPosition turnedOff status position =>
    match g.currentState with
    | .gettingGNSSPosition => g.obtainGNSSPosition turnedOff status position
    | _ => (g, [])
  | .connectToMobileNetwork status =>
    match g.currentState with
    | .connectingToMobileNetwork currentStatus => g.connectToMobileNetwork currentStatus status
    | _ => (g, [])
  | .formatMessage seconds =>
    match g.currentState with
    | .formattingMessage currentStatus => g.formatMessage E currentStatus seconds
    | _ => (g, [])
  | .exchangeMessages line expired =>
    match g.currentState with
    | .exchangingMessages => g.exchangeMessages E line expired
    | _ => (g, [])
  | .connectEthernetToLocalNetwork connectResult =>
    match g.currentState with
    | .connectingEthernet currentStatus =>
        g.connectEthernetToLocalNetwork currentStatus connectResult
    | _ => (g, [])
  | .queryUTCTimeViaRemoteServer =>
    match g.currentState with
    | .obtaingTimeUTCThroughEthernet currentStatus =>
        g.changeState (.formattingMessage currentStatus)
    | _ => (g, [])
  | .exchangeMessagesThroughEthernet s =>
    match g.currentState with
    | .sendingMessageThroughEthernet connectionRetries currentStatus =>
        g.exchangeMessagesThroughEthernet connectionRetries currentStatus s
    | _ => (g, [])

/-- What the ten calls of one update find. -/
structure Surroundings (φ : Type) where
  begins : Bool
  packet : Bytes
  packetRssi : Int
  processLoRaMessage : Bytes → Option Bytes
  ticks : SendingAck.Ticks
  measured : Bool
  turnedOff : Bool
  gnssStatus : GNSSState
  position : GNSSData φ
  connectionStatus : CellularConnectionStatus
  seconds : Int
  line : Option Bytes
  expired : Bool
  connectResult : Int
  tcp : TcpSession

/-- The calls of `Gateway::update`, in their order. -/
def Surroundings.calls (s : Surroundings φ) : List (Call φ) :=
  [.waitForMessage s.begins s.packet s.packetRssi s.processLoRaMessage,
    .sendAcknowledgement s.ticks, .updatePowerStatus s.measured,
    .obtainGNSSPosition s.turnedOff s.gnssStatus s.position,
    .connectToMobileNetwork s.connectionStatus, .formatMessage s.seconds,
    .exchangeMessages s.line s.expired, .connectEthernetToLocalNetwork s.connectResult,
    .queryUTCTimeViaRemoteServer, .exchangeMessagesThroughEthernet s.tcp]

/-- **`Gateway::update`**. -/
def update : Gateway φ → Surroundings φ → Gateway φ × List GatewayEvent :=
  inSteps (call E) Surroundings.calls

/-- A run of updates is the run of their calls. -/
theorem run_update (c : Config (Gateway φ) GatewayEvent) (is : List (Surroundings φ)) :
    run (update E) c is = run (call E) c (is.flatMap Surroundings.calls) :=
  run_inSteps is

/-! ## An instance to evaluate

  A platform on which the machine can be run, and the beginnings of some runs. -/

/-- A platform whose floats are integers, where it is always the first of January 2025, and that
    decodes a token to itself. -/
def Platform.reference : Platform Int where
  primitives := .reference
  floats := .integers
  localtime _ := ⟨1, 0, 125, 12, 0, 0⟩
  decodeJWT := some

/-- A gateway that starts. -/
def startedGateway : Config (Gateway Int) GatewayEvent :=
  ⟨.initial nothingRecepted 0 origin 0, []⟩

/-- The calls that bring a gateway from its start to an accepted message. -/
def accepts : List (Call Int) :=
  [.updatePowerStatus true, .obtainGNSSPosition false .connectionObtain origin,
    .obtainGNSSPosition true .disconecting origin,
    .waitForMessage true (ascii "x||") (-90) fun _ => some trackerMessage,
    .waitForMessage true [] (-90) fun _ => some trackerMessage]

/-- The calls that send its acknowledgement, a second between two copies. -/
def acknowledges : List (Call Int) :=
  [.sendAcknowledgement ⟨0, 100, 100, 100, 100⟩,
    .sendAcknowledgement ⟨1100, 1100, 1100, 1100, 1100⟩,
    .sendAcknowledgement ⟨2100, 2100, 2100, 2100, 2100⟩]

/-- What an update finds while nothing is received, there is no cable in the Ethernet port, and the
    modem is connected but silent. -/
def mobileOnly : Surroundings Int where
  begins := true
  packet := []
  packetRssi := -90
  processLoRaMessage _ := some trackerMessage
  ticks := ⟨0, 100, 100, 100, 100⟩
  measured := true
  turnedOff := true
  gnssStatus := .connectionObtain
  position := origin
  connectionStatus := .connectedToNetwork
  seconds := 0
  line := none
  expired := false
  connectResult := -1
  tcp := ⟨-1, -1, [], false, []⟩

/-- The updates that receive a message, acknowledge it and find that Ethernet fails. -/
def failsOver : List (Surroundings Int) :=
  [mobileOnly, mobileOnly, { mobileOnly with packet := ascii "x||" }, mobileOnly,
    { mobileOnly with ticks := ⟨1100, 1100, 1100, 1100, 1100⟩ },
    { mobileOnly with ticks := ⟨2100, 2100, 2100, 2100, 2100⟩ }]

end GatewayLoRa
