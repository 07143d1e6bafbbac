/-
  The cellular TRANSCEIVER: from `enableTransceiver` to the status of a mobile transmission.

  `CellularModule` holds one `TransceiverState` object at a time.  A session begins when
  `enableTransceiver` meets `TransceiverUnavailable`, and walks

      ConfigurePDPForHTTP → ConfigureSSL → PostHTTP → DeactivatePDP → TransceiverUnavailable

  by calls of `exchangeMessages`.  A call sends the command of its step if it is ready to, reads at
  most one line from the modem and at most once the refresh timer: line and timer are the input of
  the call (`ModemPoll`), so a statement about every list of inputs is one about every modem and
  every clock.

  The fields of a state object are arguments of its constructor.  The `static` variables of
  `PostHTTP::exchangeMessages` are not: they belong to the function, outlive the object, and are
  kept in `PostStatics` beside the state.

  The debug writes are left out, and the null checks, which the gateway's calls never fail.

  The states come in three kinds, and each kind is told apart by what it does when the modem is
  silent.  `ConfigurePDPForHTTP` and `ConfigureSSL` count the expiries, and after `maxAttempts` of
  them report a failure.  `PostHTTP` counts too, but hands its failure over to `DeactivatePDP`,
  together with a flag that says whether the transmission was a success.  `DeactivatePDP` asks again
  with every expiry, and ends when the modem says `OK`.  What is proved at this place is only what
  later modules share (`KeepsMessage`): what a call may do with the message.
-/

import GatewayLoRa.Lib.Machine
import GatewayLoRa.Lib.Stdio

namespace GatewayLoRa

open CMemory Machine

/-! ## States, statics, events

  The statuses are the enumerations of the source.  A state object is a constructor with the members
  of the object, and it is replaced where the source calls `changeTransceiverState`; the flags of a
  new object are those of the constructor that is called there. -/

/-- `CellularTransceiverStatus_t`. -/
inductive TransceiverStatus
  | unavaible
  | tryningToSend
  | failToActivatePDP
  | sendOk
  | unavaibleToSend
  | errorNullPointer
  deriving DecidableEq, Repr

/-- `PDPConfigStatus_t`. -/
inductive PDPConfigStatus
  | assingPDPContextToHTTPStack
  | configuringPDPProfile
  | activatingPDPContext
  | queringPDPContext
  | configuringServerDNS
  | pingServerDNS
  deriving DecidableEq, Repr

/-- `SSLConfigStatus_t`. -/
inductive SSLConfigStatus
  | settingSSLContext
  | settingSSLVersion
  | settingSSLCipherSuite
  | settingSSLLevel
  deriving DecidableEq, Repr

/-- `PostStatus_t`. -/
inductive PostStatus
  | settingURL
  | postingData
  | readingData
  | decodingData
  deriving DecidableEq, Repr

/-- `PostResult_t`. -/
inductive PostResult
  | postOk
  | keepTryingToPost
  | postFailure
  deriving DecidableEq, Repr

/-- The current `TransceiverState` object. -/
inductive TransceiverState
  | transceiverUnavailable
  | configurePDPForHTTP (currentStatus : PDPConfigStatus) (readyToSend : Bool) (attempts : Nat)
  | configureSSL (currentStatus : SSLConfigStatus) (readyToSend : Bool) (attempts : Nat)
  | postHTTP (currentStatus : PostStatus) (readyToSend : Bool) (attempts : Nat)
  | deactivatePDP (transmissionWasASuccess : Bool) (readyToSend : Bool)
  deriving DecidableEq, Repr

/-- The statics of `PostHTTP::exchangeMessages`. -/
structure PostStatics where
  stringToBeRead : Bytes
  dataLen : Int
  watingForResponse : Bool
  urlSet : Bool
  deriving DecidableEq

/-- The part of `CellularModule` that a transmission uses. -/
structure Cellular where
  transceiver : TransceiverState
  post : PostStatics
  deriving DecidableEq

/-- The module as the program starts. -/
def Cellular.initial : Cellular := ⟨.transceiverUnavailable, ⟨[], 0, false, false⟩⟩

/-- What a transmission can be seen to do: a session begins, a command or the message goes to the
    modem, a line is checked for the result of the POST, a call returns a status. -/
inductive TransceiverEvent
  | session
  | command (s : Bytes)
  | wrote (message : Bytes)
  | checked (line : Bytes) (result : PostResult)
  | status (s : TransceiverStatus)
  deriving DecidableEq

/-- One call of `exchangeMessages`: the message, the line the modem has ready, and whether the
    refresh timer has run out. -/
structure ModemPoll where
  message : Bytes
  line : Option Bytes
  expired : Bool
  deriving DecidableEq

/-- What a call finds at the modem that takes no message. -/
structure ATPoll where
  line : Option Bytes
  expired : Bool
  deriving DecidableEq

/-- `readATResponse (buffer, bufferSize)`: the line, cut to the buffer. -/
def readATResponse (bufferSize : Nat) (line : Option Bytes) : Option Bytes :=
  line.map fun l => (cstr l).take (bufferSize - 1)

/-- What a call leaves: the state, the statics, what it did, the status it returns, and the string
    it copies to `receivedMessage` when it sets `newDataAvailable`. -/
structure TransceiverStep where
  transceiver : TransceiverState
  post : PostStatics
  events : List TransceiverEvent
  status : TransceiverStatus
  received : Option Bytes

/-- The line that acknowledges a command. -/
def okLine : Bytes := ascii "OK"

/-- The line that asks for data. -/
def connectLine : Bytes := ascii "CONNECT"

/-- `sendATCommand`, if the step is ready to send. -/
def sendCommand (readyToSend : Bool) (s : Bytes) : List TransceiverEvent :=
  if readyToSend then [.command s] else []

/-! ## ConfigurePDPForHTTP and ConfigureSSL

  Two states with one shape: a table of commands, a line to wait for, a next step.  They differ in
  what counts as an answer, and in which steps return before the timer is read. -/

namespace ConfigurePDPForHTTP

/-- `MAXATTEMPTS` of the file. -/
def maxAttempts : Nat := 20

/-- The command of each step. -/
def command : PDPConfigStatus → Bytes
  | .assingPDPContextToHTTPStack => ascii "AT+QHTTPCFG=\"contextid\",1"
  | .configuringPDPProfile =>
      ascii "AT+QICSGP=1,1,\"internet.movil\",\"internet\",\"internet\",3"
  | .activatingPDPContext => ascii "AT+QIACT=1"
  | .queringPDPContext => ascii "AT+QIACT?"
  | .configuringServerDNS => ascii "AT+QIDNSCFG=1,\"8.8.8.8\",\"8.8.4.4\""
  | .pingServerDNS => ascii "AT+QIDNSGIP=1,\"intent-lion-loudly.ngrok-free.app\""

/-- The state after the line that a step waits for. -/
def next : PDPConfigStatus → Nat → TransceiverState
  | .assingPDPContextToHTTPStack, attempts =>
      .configurePDPForHTTP .configuringPDPProfile true attempts
  | .configuringPDPProfile, attempts => .configurePDPForHTTP .activatingPDPContext true attempts
  | .activatingPDPContext, attempts => .configurePDPForHTTP .queringPDPContext true attempts
  | .queringPDPContext, attempts => .configurePDPForHTTP .configuringServerDNS true attempts
  | .configuringServerDNS, _ => .configureSSL .settingSSLContext true 0
  | .pingServerDNS, attempts => .configurePDPForHTTP .pingServerDNS true attempts

/-- The line that a step waits for: any line answers the query, `OK` the other commands. -/
def expects (currentStatus : PDPConfigStatus) (line : Bytes) : Bool :=
  currentStatus = .queringPDPContext || line = okLine

/-- The steps that return on any line they read, without a look at the timer. -/
def returnsOnLine (currentStatus : PDPConfigStatus) : Bool :=
  currentStatus = .configuringServerDNS || currentStatus = .pingServerDNS

/-- `ConfigurePDPForHTTP::exchangeMessages`.  A line of more than 127 bytes is cut, so it is never
    `OK`. -/
def exchangeMessages (currentStatus : PDPConfigStatus) (readyToSend : Bool) (attempts : Nat)
    (post : PostStatics) (i : ModemPoll) : TransceiverStep :=
  let events := sendCommand readyToSend (command currentStatus)
  let line := readATResponse 128 i.line
  if line.any (expects currentStatus) then
    ⟨next currentStatus attempts, post, events, .tryningToSend, none⟩
  else if line.isSome && returnsOnLine currentStatus then
    ⟨.configurePDPForHTTP currentStatus false attempts, post, events, .tryningToSend, none⟩
  else if i.expired then
    -- the timer counts, and the command will be sent again
    if attempts + 1 ≥ maxAttempts then
      ⟨.configurePDPForHTTP currentStatus true 0, post, events, .failToActivatePDP, none⟩
    else
      ⟨.configurePDPForHTTP currentStatus true (attempts + 1), post, events, .tryningToSend, none⟩
  else ⟨.configurePDPForHTTP currentStatus false attempts, post, events, .tryningToSend, none⟩

end ConfigurePDPForHTTP

namespace ConfigureSSL

/-- `MAXATTEMPTS` of the file. -/
def maxAttempts : Nat := 20

/-- The command of each step. -/
def command : SSLConfigStatus → Bytes
  | .settingSSLContext => ascii "AT+QHTTPCFG=\"sslctxid\",1"
  | .settingSSLVersion => ascii "AT+QSSLCFG=\"sslversion\",1,1"
  | .settingSSLCipherSuite => ascii "AT+QSSLCFG=\"ciphersuite\",1,0x0005"
  | .settingSSLLevel => ascii "AT+QSSLCFG=\"seclevel\",1,0"

/-- The state after `OK`. -/
def next : SSLConfigStatus → Nat → TransceiverState
  | .settingSSLContext, attempts => .configureSSL .settingSSLVersion true attempts
  | .settingSSLVersion, attempts => .configureSSL .settingSSLLevel true attempts
  | .settingSSLCipherSuite, attempts => .configureSSL .settingSSLLevel true attempts
  | .settingSSLLevel, _ => .postHTTP .settingURL true 0

/-- `ConfigureSSL::exchangeMessages`.  The source goes from the version to the level, and never
    enters the step of the cipher suite. -/
def exchangeMessages (currentStatus : SSLConfigStatus) (readyToSend : Bool) (attempts : Nat)
    (post : PostStatics) (i : ModemPoll) : TransceiverStep :=
  let events := sendCommand readyToSend (command currentStatus)
  if readATResponse 128 i.line = some okLine then
    ⟨next currentStatus attempts, post, events, .tryningToSend, none⟩
  else if i.expired then
    if attempts + 1 ≥ maxAttempts then
      ⟨.configureSSL currentStatus true 0, post, events, .failToActivatePDP, none⟩
    else ⟨.configureSSL currentStatus true (attempts + 1), post, events, .tryningToSend, none⟩
  else ⟨.configureSSL currentStatus false attempts, post, events, .tryningToSend, none⟩

end ConfigureSSL

/-! ## PostHTTP

  Four steps.  The first announces the URL and the second the message, each with a prompt
  (`CONNECT`) in between; the third asks for the response, the fourth looks at its length.  A step
  that does not return comes to `refresh`, which reads the timer. -/

namespace PostHTTP

/-- `MAXATTEMPTS` of the file, a quarter of that of the other states. -/
def maxAttempts : Nat := 5

/-- `BUFFER_LEN`. -/
abbrev bufferLen : Nat := 256

/-- `URL`, the address of the server. -/
def url : Bytes := ascii "https://intent-lion-loudly.ngrok-free.app/api/canal/envio"

/-- The byte that ends a message to the modem. -/
def confirmationToSend : Bytes := [0x1a]

/-- `StringToSend1`, the command that announces the URL. -/
def setURLCommand : Bytes :=
  ascii "AT+QHTTPURL=" ++ Stdio.intText url.length ++ ascii "," ++ Stdio.intText 80

/-- `StringToSend2`, the command that announces the message. -/
def postCommand (message : Bytes) : Bytes :=
  ascii "AT+QHTTPPOST=" ++ Stdio.intText message.length ++ ascii "," ++ Stdio.intText 80 ++
    ascii "," ++ Stdio.intText 80

/-- `StringToSend3`, the command that asks for the response. -/
def readCommand : Bytes := ascii "AT+QHTTPREAD=" ++ Stdio.intText 80

/-- The variables that `checkHTTPPostResult` scans into. -/
structure Scanned where
  result : Int
  httpStatus : Int
  dataLen : Int

/-- `"+QHTTPPOST: %d,%d,%d"`. -/
def resultFormat : List (Stdio.Directive Unit Scanned) :=
  [.text (ascii "+QHTTPPOST:"), .int 32 fun v s => { s with result := v }, .text (ascii ","),
    .int 32 fun v s => { s with httpStatus := v }, .text (ascii ","),
    .int 32 fun v s => { s with dataLen := v }]

/-- `checkHTTPPostResult`: the result, and `dataLen` after it.  `result` is uninitialised before the
    scan; it is looked at only when `dataLen` was read, and then `result` was read before it. -/
def checkHTTPPostResult (responseBuffer : Bytes) (dataLen : Int) : PostResult × Int :=
  if ascii "+QHTTPPOST: " <+: responseBuffer then
    -- `dataLen` is -1 before the scan, so that a line without the number is a failure
    let scanned := (Stdio.sscanf (fun _ => none) resultFormat responseBuffer ⟨0, 0, -1⟩).2
    if scanned.result = 0 ∧ scanned.dataLen > -1 ∧ scanned.dataLen < bufferLen then
      (.postOk, scanned.dataLen)
    else (.postFailure, scanned.dataLen)
  else (.keepTryingToPost, dataLen)

/-- The end of a call that does not return earlier: the refresh timer and the attempts. -/
def refresh (currentStatus : PostStatus) (readyToSend : Bool) (attempts : Nat) (post : PostStatics)
    (expired : Bool) (events : List TransceiverEvent) : TransceiverStep :=
  if expired then
    if attempts + 1 ≥ maxAttempts ∧ post.watingForResponse = false then
      ⟨.deactivatePDP false true, post, events, .tryningToSend, none⟩
    -- the flag is taken for the success of the transmission
    else if attempts + 1 ≥ maxAttempts ∧ post.watingForResponse = true then
      ⟨.deactivatePDP true true, post, events, .tryningToSend, none⟩
    else ⟨.postHTTP currentStatus true (attempts + 1), post, events, .tryningToSend, none⟩
  else ⟨.postHTTP currentStatus readyToSend attempts, post, events, .tryningToSend, none⟩

/-- The end of a call does nothing that can be seen. -/
theorem refresh_events (currentStatus : PostStatus) (readyToSend : Bool) (attempts : Nat)
    (post : PostStatics) (expired : Bool) (events : List TransceiverEvent) :
    (refresh currentStatus readyToSend attempts post expired events).events = events := by
  unfold refresh
  (repeat' split) <;> rfl

/-- `SETTING_URL`: `CONNECT` asks for the URL, and the `OK` after it ends the step. -/
def settingURL (readyToSend : Bool) (attempts : Nat) (post : PostStatics) (i : ModemPoll) :
    TransceiverStep :=
  let events := sendCommand readyToSend setURLCommand
  match readATResponse bufferLen i.line with
  | none => refresh .settingURL false attempts post i.expired events
  | some line =>
    let post := { post with stringToBeRead := line }
    let (post, events) :=
      if line = connectLine then
        ({ post with urlSet := true }, events ++ [.command url, .command confirmationToSend])
      else (post, events)
    if line = okLine ∧ post.urlSet = true then
      refresh .postingData true 0 { post with urlSet := false } i.expired events
    else refresh .settingURL false attempts post i.expired events

/-- `POSTING_DATA`: `CONNECT` asks for the message; any line that is neither `CONNECT` nor `OK` is
    taken for the result of the POST. -/
def postingData (readyToSend : Bool) (attempts : Nat) (post : PostStatics) (i : ModemPoll) :
    TransceiverStep :=
  let events := sendCommand readyToSend (postCommand i.message)
  match readATResponse bufferLen i.line with
  | none => refresh .postingData false attempts post i.expired events
  | some line =>
    let post := { post with stringToBeRead := line }
    if line = connectLine then
      ⟨.postHTTP .postingData false attempts, post,
        events ++ [.wrote i.message, .command confirmationToSend], .tryningToSend, none⟩
    else if line = okLine then
      ⟨.postHTTP .postingData false attempts, post, events, .tryningToSend, none⟩
    else
      let (result, dataLen) := checkHTTPPostResult line post.dataLen
      let post := { post with dataLen }
      let events := events ++ [.checked line result]
      if result = .postOk then
        ⟨.postHTTP .readingData true 0, post, events, .tryningToSend, none⟩
      else refresh .postingData false attempts post i.expired events

/-- `READING_DATA`: the line after `CONNECT` is the response, cut to the length that the modem
    announced. -/
def readingData (readyToSend : Bool) (attempts : Nat) (post : PostStatics) (i : ModemPoll) :
    TransceiverStep :=
  let events := sendCommand readyToSend readCommand
  match readATResponse bufferLen i.line with
  | none => refresh .readingData false attempts post i.expired events
  | some line =>
    if post.watingForResponse = false then
      let post := { post with stringToBeRead := line }
      if line = connectLine then
        ⟨.postHTTP .readingData false attempts, { post with watingForResponse := true }, events,
          .tryningToSend, none⟩
      else refresh .readingData false attempts post i.expired events
    else
      ⟨.postHTTP .decodingData false 0,
        { post with
            stringToBeRead := line.take post.dataLen.toNat, watingForResponse := false },
        events, .tryningToSend, none⟩

/-- `DECODING_DATA`: the response is handed over as it is.  The call of `decodeJWT` is commented
    out. -/
def decodingData (attempts : Nat) (post : PostStatics) : TransceiverStep :=
  if post.stringToBeRead.length > 256 ∨ post.stringToBeRead.length = 0 then
    ⟨.postHTTP .readingData true attempts, post, [], .tryningToSend, none⟩
  else ⟨.deactivatePDP true true, post, [], .tryningToSend, some post.stringToBeRead⟩

/-- `PostHTTP::exchangeMessages`, by its step. -/
def exchangeMessages (currentStatus : PostStatus) (readyToSend : Bool) (attempts : Nat)
    (post : PostStatics) (i : ModemPoll) : TransceiverStep :=
  match currentStatus with
  | .settingURL => settingURL readyToSend attempts post i
  | .postingData => postingData readyToSend attempts post i
  | .readingData => readingData readyToSend attempts post i
  | .decodingData => decodingData attempts post

end PostHTTP

/-! ## DeactivatePDP and the module

  The last state, the dispatch on the current one, and the three functions of `CellularModule` that
  the gateway calls. -/

/-- `DeactivatePDP::exchangeMessages`: it has no count of attempts. -/
def DeactivatePDP.exchangeMessages (transmissionWasASuccess : Bool) (readyToSend : Bool)
    (post : PostStatics) (i : ModemPoll) : TransceiverStep :=
  let events := sendCommand readyToSend (ascii "AT+QIDEACT=" ++ Stdio.intText 1)
  if readATResponse 128 i.line = some okLine then
    ⟨.transceiverUnavailable, post, events,
      if transmissionWasASuccess then .sendOk else .unavaibleToSend, none⟩
  else ⟨.deactivatePDP transmissionWasASuccess i.expired, post, events, .tryningToSend, none⟩

/-- `currentTransceiverState->exchangeMessages`. -/
def TransceiverState.exchangeMessages (c : Cellular) (i : ModemPoll) : TransceiverStep :=
  match c.transceiver with
  | .transceiverUnavailable => ⟨.transceiverUnavailable, c.post, [], .unavaible, none⟩
  | .configurePDPForHTTP currentStatus readyToSend attempts =>
      ConfigurePDPForHTTP.exchangeMessages currentStatus readyToSend attempts c.post i
  | .configureSSL currentStatus readyToSend attempts =>
      ConfigureSSL.exchangeMessages currentStatus readyToSend attempts c.post i
  | .postHTTP currentStatus readyToSend attempts =>
      PostHTTP.exchangeMessages currentStatus readyToSend attempts c.post i
  | .deactivatePDP transmissionWasASuccess readyToSend =>
      DeactivatePDP.exchangeMessages transmissionWasASuccess readyToSend c.post i

/-- `CellularModule::enableTransceiver`: only `TransceiverUnavailable` reacts. -/
def Cellular.enableTransceiver (c : Cellular) : Cellular × List TransceiverEvent :=
  match c.transceiver with
  | .transceiverUnavailable =>
      ({ c with transceiver := .configurePDPForHTTP .assingPDPContextToHTTPStack true 0 },
        [.session])
  | _ => (c, [])

/-- `CellularModule::exchangeMessages`: a status that ends the transmission resets the state. -/
def Cellular.exchangeMessages (c : Cellular) (i : ModemPoll) : TransceiverStep :=
  let s := TransceiverState.exchangeMessages c i
  { s with
    transceiver :=
      if s.status ≠ .tryningToSend ∧ s.status ≠ .unavaible then .transceiverUnavailable
      else s.transceiver
    events := s.events ++ [.status s.status] }

/-- What the gateway asks of the module. -/
inductive TransceiverInput
  | enable
  | exchange (i : ModemPoll)
  deriving DecidableEq

/-- One call on the module. -/
def Cellular.step (c : Cellular) : TransceiverInput → Cellular × List TransceiverEvent
  | .enable => c.enableTransceiver
  | .exchange i =>
      (⟨(c.exchangeMessages i).transceiver, (c.exchangeMessages i).post⟩,
        (c.exchangeMessages i).events)

/-! ## What a call does with the message

  One property for all states, by the dispatch.  `PostHTTP` is the only one that has something to
  show. -/

/-- The reply of the server has not come yet. -/
def TransceiverState.awaitsReply : TransceiverState → Bool
  | .deactivatePDP .. => false
  | _ => true

/-- **What a call does with the message**: it writes nothing else, only before the reply came; and
    as long as the transmission goes on and awaits the reply, nothing was received. -/
structure KeepsMessage (c : TransceiverState) (message : Bytes) (s : TransceiverStep) : Prop where
  wrote : ∀ m, .wrote m ∈ s.events → m = message ∧ c.awaitsReply = true
  awaits : s.status = .tryningToSend ∨ s.status = .unavaible → s.transceiver.awaitsReply = true →
    c.awaitsReply = true ∧ s.received = none

section KeepsMessage

variable {c : TransceiverState} {message : Bytes}

/-- A command is not the message. -/
theorem wrote_sendCommand {readyToSend : Bool} {s m : Bytes} :
    .wrote m ∉ sendCommand readyToSend s := by
  cases readyToSend <;> simp [sendCommand]

/-- A call before the reply, that receives nothing. -/
theorem KeepsMessage.of_awaiting {s : TransceiverStep} (hc : c.awaitsReply = true)
    (hwrote : ∀ m, .wrote m ∈ s.events → m = message) (hreceived : s.received = none) :
    KeepsMessage c message s :=
  ⟨fun m hm => ⟨hwrote m hm, hc⟩, fun _ _ => ⟨hc, hreceived⟩⟩

/-- A call of `PostHTTP` that comes to its end: it stays, or hands over to `DeactivatePDP`. -/
theorem KeepsMessage.of_refresh {currentStatus : PostStatus} {readyToSend : Bool} {attempts : Nat}
    {post : PostStatics} {expired : Bool} {events : List TransceiverEvent}
    (hc : c.awaitsReply = true) (hwrote : ∀ m, .wrote m ∈ events → m = message) :
    KeepsMessage c message
      (PostHTTP.refresh currentStatus readyToSend attempts post expired events) := by
  unfold PostHTTP.refresh
  (repeat' split) <;> exact .of_awaiting hc hwrote rfl

/-- `PostHTTP` writes the message of the call, and receives nothing before `DECODING_DATA`. -/
theorem keepsMessage_postHTTP {currentStatus : PostStatus} {readyToSend : Bool} {attempts : Nat}
    (post : PostStatics) (i : ModemPoll) (hc : c.awaitsReply = true) :
    KeepsMessage c i.message
      (PostHTTP.exchangeMessages currentStatus readyToSend attempts post i) := by
  have hcommand (s : Bytes) : ∀ m, .wrote m ∈ sendCommand readyToSend s → m = i.message :=
    fun m hm => absurd hm wrote_sendCommand
  cases currentStatus with
  | settingURL =>
    dsimp only [PostHTTP.exchangeMessages, PostHTTP.settingURL]
    split
    · exact .of_refresh hc (hcommand _)
    · (repeat' split) <;> refine .of_refresh hc fun m hm => hcommand PostHTTP.setURLCommand m ?_
      all_goals simpa using hm
  | postingData =>
    dsimp only [PostHTTP.exchangeMessages, PostHTTP.postingData]
    split
    · exact .of_refresh hc (hcommand _)
    split
    · refine .of_awaiting hc (fun m hm => ?_) rfl
      simpa [wrote_sendCommand] using hm
    split
    · exact .of_awaiting hc (hcommand _) rfl
    · have hchecked (line : Bytes) (result : PostResult) : ∀ m,
          .wrote m ∈ sendCommand readyToSend (PostHTTP.postCommand i.message) ++
            [.checked line result] → m = i.message :=
        fun m hm => hcommand _ m (by simpa using hm)
      split
      · exact .of_awaiting hc (hchecked _ _) rfl
      · exact .of_refresh hc (hchecked _ _)
  | readingData =>
    dsimp only [PostHTTP.exchangeMessages, PostHTTP.readingData]
    split
    · exact .of_refresh hc (hcommand _)
    (repeat' split) <;> first
      | exact .of_awaiting hc (hcommand _) rfl
      | exact .of_refresh hc (hcommand _)
  -- the one step that receives something, and with it the reply has come
  | decodingData =>
    dsimp only [PostHTTP.exchangeMessages, PostHTTP.decodingData]
    split
    · exact .of_awaiting hc (fun m hm => nomatch hm) rfl
    · exact ⟨(fun m hm => nomatch hm), fun _ hawaits => nomatch hawaits⟩

/-- **Every call of a state's `exchangeMessages` keeps the message.** -/
theorem keepsMessage (c : Cellular) (i : ModemPoll) :
    KeepsMessage c.transceiver i.message (TransceiverState.exchangeMessages c i) := by
  have hcommand (readyToSend : Bool) (s : Bytes) :
      ∀ m, .wrote m ∈ sendCommand readyToSend s → m = i.message :=
    fun m hm => absurd hm wrote_sendCommand
  unfold TransceiverState.exchangeMessages
  split
  · next hc => exact .of_awaiting (by rw [hc]; rfl) (fun m hm => nomatch hm) rfl
  · next hc =>
    dsimp only [ConfigurePDPForHTTP.exchangeMessages]
    (repeat' split) <;> exact .of_awaiting (by rw [hc]; rfl) (hcommand _ _) rfl
  · next hc =>
    dsimp only [ConfigureSSL.exchangeMessages]
    (repeat' split) <;> exact .of_awaiting (by rw [hc]; rfl) (hcommand _ _) rfl
  · next hc => exact keepsMessage_postHTTP c.post i (by rw [hc]; rfl)
  -- `DeactivatePDP` ends the transmission or asks again, and awaits no reply
  · next success _ hc =>
    dsimp only [DeactivatePDP.exchangeMessages]
    split
    · refine ⟨fun m hm => absurd hm wrote_sendCommand, fun hstatus => ?_⟩
      cases success <;> simp at hstatus
    · exact ⟨fun m hm => absurd hm wrote_sendCommand, fun _ hawaits => nomatch hawaits⟩

/-- The call on the module keeps it too. -/
theorem Cellular.keepsMessage_exchangeMessages (c : Cellular) (i : ModemPoll) :
    KeepsMessage c.transceiver i.message (c.exchangeMessages i) where
  wrote m hm := (keepsMessage c i).wrote m (by simpa [Cellular.exchangeMessages] using hm)
  awaits hstatus hawaits := by
    refine (keepsMessage c i).awaits hstatus ?_
    have hgoesOn : ¬ ((TransceiverState.exchangeMessages c i).status ≠ .tryningToSend ∧
        (TransceiverState.exchangeMessages c i).status ≠ .unavaible) := by
      rcases hstatus with h | h <;> simp_all [Cellular.exchangeMessages]
    rwa [Cellular.exchangeMessages, if_neg hgoesOn] at hawaits

/-- A status that ends the transmission resets the state. -/
theorem Cellular.exchangeMessages_ended {c : Cellular} {i : ModemPoll}
    (h : (c.exchangeMessages i).status ≠ .tryningToSend ∧
      (c.exchangeMessages i).status ≠ .unavaible) :
    (c.exchangeMessages i).transceiver = .transceiverUnavailable :=
  if_pos h

end KeepsMessage

end GatewayLoRa
