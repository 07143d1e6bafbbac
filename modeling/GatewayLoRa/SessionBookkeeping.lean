/-
  The bookkeeping of a mobile session: two flags of a function and the state of another class.

  `ExchangingMessages::exchangeMessages` keeps two `static` flags.  `enableTransceiver` says that the
  session was begun, `newDataAvailable` that a reply has come; the session itself lives in the
  transceiver of `CellularModule`.  A session is left through ten exits, most of them inside the
  interpretation of the reply.  An exit that forgot a flag would make the next session wait forever:
  the transceiver would not be enabled, and answer `UNAVAIBLE` on every call.

  1. **The code in full** (`exchangeMessagesInFull`) — every exit of the source, one by one.
     `Gateway.exchangeMessages` looks only at what the exits do; `exchangeMessages_eq` says that
     the two are the same.

  2. **The invariant** (`InStep`) — outside the state, and in it before its first call, both flags are
     down and the transceiver is unavailable; in it, an enabled transceiver is not unavailable.

  3. **The result** (`session_in_step`) — the invariant holds in every reachable state, `UNAVAIBLE` is
     never returned to a session, and every terminal status, whatever the reply, closes it.

  The crux is that the two flags are changed in one function alone, and the transceiver through one
  member.  So the calls fall into two groups.  Outside the state nothing touches the three
  (`keepsSession_call`), and the invariant is carried along; in the state there is one call that
  does something, and what it does depends on the status alone: it goes on, and then the transceiver
  is still in use, or it ends, and then every exit passes the same three assignments
  (`interpretReply_closes`).  Nothing has to be said about how far a session has come.
-/

import GatewayLoRa.GatewayCalls

namespace GatewayLoRa

open CMemory Machine

variable {φ : Type}

/-! ## The interpretation of a reply

  The branches of the source in their order, each with its own exit.  Most of what they compute is
  thrown away: latency, mode and time are parsed and checked, and the setters that would take them
  are commented out. -/

namespace ExchangingMessages

/-- `OperationMode_t`. -/
inductive OperationMode
  | normalOperationMode
  | pursuitOperationMode
  | silentOperationMode
  deriving DecidableEq, Repr

/-- `parseOperationMode`. -/
def parseOperationMode (operationMode : Bytes) : Option OperationMode :=
  if operationMode = ascii "NOPM" then some .normalOperationMode
  else if operationMode = ascii "POPM" then some .pursuitOperationMode
  else if operationMode = ascii "SOPM" then some .silentOperationMode
  else none

/-- `atoi`: 0 when there is no number. -/
def atoi (s : Bytes) : Int := ((Stdio.scanInt 32 s).map Prod.fst).getD 0

end ExchangingMessages

variable (E : Platform φ)

/-- The statements that every exit ends with: both flags are lowered, and the state is left. -/
def Gateway.leaveExchange (g : Gateway φ) : Gateway φ × List GatewayEvent :=
  { g with exchange := ⟨false, false⟩ }.changeState .sensingBatteryStatus

open ExchangingMessages in
/-- The interpretation of the reply in the buffer.  The latency is parsed and not used. -/
def Gateway.interpretReply (g : Gateway φ) : Gateway φ × List GatewayEvent :=
  match E.decodeJWT g.bufferMessage with
  | none => g.leaveExchange
  | some payloadRetrieved =>
    let g := { g with bufferMessage := payloadRetrieved, exchange := ⟨false, false⟩ }
    -- from here on the reply is one of the server, whatever it says
    match extractField payloadRetrieved (ascii "\"SUCS\"") 30 with
    | none => g.leaveExchange
    | some success =>
      let g := { g with chain := g.chain.progressOnHashChain.increaseSequenceNumber }
      if success ≠ ascii "true" ∧ success ≠ ascii "TRUE" then g.leaveExchange
      else
        match extractField payloadRetrieved (ascii "\"LTCY\"") 30 with
        | none => g.leaveExchange
        | some _ =>
          match extractField payloadRetrieved (ascii "\"MODE\"") 30 with
          | none => g.leaveExchange
          | some mode =>
            if parseOperationMode mode = some .silentOperationMode then
              match extractField payloadRetrieved (ascii "\"TSOP\"") 30 with
              | none => g.leaveExchange
              | some timeSilent =>
                -- both ways leave: what follows the check is printed, and its setters are commented
                -- out
                if atoi timeSilent < 0 then g.leaveExchange
                else g.leaveExchange
            else g.leaveExchange

/-- `ExchangingMessages::exchangeMessages`, with every exit of its own. -/
def Gateway.exchangeMessagesInFull (line : Option Bytes) (expired : Bool) (g : Gateway φ) :
    Gateway φ × List GatewayEvent :=
  let s := g.exchangeWithModem line expired
  let modem := s.events.map GatewayEvent.modem
  -- the flag stays up once a reply has come in the session
  let newDataAvailable := g.exchange.newDataAvailable || s.received.isSome
  let g := { g with
    cellularTransceiver := ⟨s.transceiver, s.post⟩
    bufferMessage := s.received.getD g.bufferMessage
    exchange := ⟨newDataAvailable, true⟩ }
  if s.status = .sendOk then
    if newDataAvailable then
      let (g', events) := g.interpretReply E
      (g', modem ++ .sent (some g.bufferMessage) :: events)
    else
      let (g, events) := g.leaveExchange
      (g, modem ++ .sent none :: events)
  else if s.status ≠ .tryningToSend ∧ s.status ≠ .unavaible then
    let (g, events) := g.leaveExchange
    (g, modem ++ events)
  else (g, modem)

/-- What the interpretation does with the chain and the buffer; its exits do the same. -/
theorem interpretReply_eq (g : Gateway φ) :
    g.interpretReply E =
      match E.decodeJWT g.bufferMessage with
      | none => g.leaveExchange
      | some payload =>
        if (ExchangingMessages.extractField payload (ascii "\"SUCS\"") 30).isNone then
          { g with bufferMessage := payload }.leaveExchange
        else
          { g with
            bufferMessage := payload
            chain := g.chain.progressOnHashChain.increaseSequenceNumber }.leaveExchange := by
  unfold Gateway.interpretReply
  cases E.decodeJWT g.bufferMessage with
  | none => rfl
  | some payload =>
    dsimp only
    cases ExchangingMessages.extractField payload (ascii "\"SUCS\"") 30 with
    | none => rfl
    | some success =>
      simp only [Option.isNone_some, Bool.false_eq_true, if_false]
      (repeat' split) <;> rfl

/-- **The summary is the code.** -/
theorem exchangeMessages_eq (line : Option Bytes) (expired : Bool) (g : Gateway φ) :
    g.exchangeMessages E line expired = g.exchangeMessagesInFull E line expired := by
  unfold Gateway.exchangeMessages Gateway.exchangeMessagesInFull
  dsimp only
  rw [interpretReply_eq]
  generalize g.exchangeWithModem line expired = s
  split
  · split
    · dsimp only
      cases E.decodeJWT (s.received.getD g.bufferMessage) with
      | none => rfl
      | some payload =>
        dsimp only
        split <;> rfl
    · rfl
  · rfl

/-! ## The transceiver of a session

  What the module promises to the session, from its own code: it is not unavailable once it is
  enabled, and it says so itself. -/

/-- A transceiver in use does not answer `UNAVAIBLE`, and stays in use while it tries. -/
theorem exchangeMessages_inUse {c : Cellular} {i : ModemPoll}
    (hc : c.transceiver ≠ .transceiverUnavailable) :
    (c.exchangeMessages i).status ≠ .unavaible ∧
      ((c.exchangeMessages i).status = .tryningToSend →
        (c.exchangeMessages i).transceiver ≠ .transceiverUnavailable) := by
  have hstate : (TransceiverState.exchangeMessages c i).status ≠ .unavaible ∧
      ((TransceiverState.exchangeMessages c i).status = .tryningToSend →
        (TransceiverState.exchangeMessages c i).transceiver ≠ .transceiverUnavailable) := by
    have hrefresh (currentStatus : PostStatus) (readyToSend : Bool) (attempts : Nat)
        (post : PostStatics) (expired : Bool) (events : List TransceiverEvent) :
        (PostHTTP.refresh currentStatus readyToSend attempts post expired events).status ≠
            .unavaible ∧
          ((PostHTTP.refresh currentStatus readyToSend attempts post expired events).status =
              .tryningToSend →
            (PostHTTP.refresh currentStatus readyToSend attempts post expired events).transceiver ≠
              .transceiverUnavailable) := by
      unfold PostHTTP.refresh
      (repeat' split) <;> exact ⟨nofun, fun _ => nofun⟩
    unfold TransceiverState.exchangeMessages
    split
    · next h => exact absurd h hc
    · next currentStatus _ attempts _ =>
      dsimp only [ConfigurePDPForHTTP.exchangeMessages]
      (repeat' split) <;> refine ⟨nofun, fun _ => ?_⟩
      · cases currentStatus <;> exact nofun
      all_goals exact nofun
    · next currentStatus _ attempts _ =>
      dsimp only [ConfigureSSL.exchangeMessages]
      (repeat' split) <;> refine ⟨nofun, fun _ => ?_⟩
      · cases currentStatus <;> exact nofun
      all_goals exact nofun
    · next currentStatus _ _ _ =>
      cases currentStatus <;>
        dsimp only [PostHTTP.exchangeMessages, PostHTTP.settingURL, PostHTTP.postingData,
          PostHTTP.readingData, PostHTTP.decodingData] <;>
        (repeat' split) <;> first
          | exact hrefresh ..
          | exact ⟨nofun, fun _ => nofun⟩
    · next success _ _ =>
      unfold DeactivatePDP.exchangeMessages
      dsimp only
      split
      · cases success <;> exact ⟨nofun, nofun⟩
      · exact ⟨nofun, fun _ => nofun⟩
  refine ⟨hstate.1, fun htrying => ?_⟩
  have hgoesOn : ¬ ((TransceiverState.exchangeMessages c i).status ≠ .tryningToSend ∧
      (TransceiverState.exchangeMessages c i).status ≠ .unavaible) := fun h => h.1 htrying
  unfold Cellular.exchangeMessages
  dsimp only
  rw [if_neg hgoesOn]
  exact hstate.2 htrying

/-- An enabled transceiver is in use, whether it was before or not. -/
theorem enableTransceiver_inUse (c : Cellular) :
    c.enableTransceiver.1.transceiver ≠ .transceiverUnavailable := by
  unfold Cellular.enableTransceiver
  split
  · exact nofun
  · next h => exact h

/-! ## The invariant

  Two fields, one for each side of the first call in the state.  `CalledSinceEntry` tells the sides
  apart by the trace: every call of the module leaves a status. -/

/-- The gateway enters a state. -/
def GatewayEvent.isChangeState : GatewayEvent → Bool
  | .changeState _ => true
  | _ => false

/-- `exchangeMessages` was called since the current state was entered. -/
def CalledSinceEntry (trace : List GatewayEvent) : Prop :=
  ∃ s, .modem (.status s) ∈ since GatewayEvent.isChangeState trace

/-- No session: both flags are down, the transceiver is unavailable. -/
structure Gateway.SessionClosed (g : Gateway φ) : Prop where
  newDataAvailable : g.exchange.newDataAvailable = false
  enableTransceiver : g.exchange.enableTransceiver = false
  transceiver : g.cellularTransceiver.transceiver = .transceiverUnavailable

/-- **The bookkeeping is in step with the module.** -/
structure InStep (c : Config (Gateway φ) GatewayEvent) : Prop where
  /-- Outside the state, and in it before its first call, there is no session. -/
  closed : c.state.currentState ≠ .exchangingMessages ∨ ¬ CalledSinceEntry c.trace →
    c.state.SessionClosed
  /-- In it, an enabled transceiver is in use. -/
  inUse : c.state.currentState = .exchangingMessages →
    c.state.exchange.enableTransceiver = true →
      c.state.cellularTransceiver.transceiver ≠ .transceiverUnavailable

section Calls

variable {E} {g : Gateway φ}

/-- What every call but that of a session leaves alone. -/
structure KeepsSession (g g' : Gateway φ) : Prop where
  exchange : g'.exchange = g.exchange
  cellular : g'.cellularTransceiver = g.cellularTransceiver

/-- What leaves the session alone leaves it closed. -/
theorem KeepsSession.closed {g' : Gateway φ} (h : KeepsSession g g') (hg : g.SessionClosed) :
    g'.SessionClosed :=
  ⟨by rw [h.exchange]; exact hg.newDataAvailable, by rw [h.exchange]; exact hg.enableTransceiver,
    by rw [h.cellular]; exact hg.transceiver⟩

/-- A failure of the Ethernet side is nothing to the mobile session. -/
theorem keepsSession_failEthernet (st : GatewayStatus) : KeepsSession g (g.failEthernet st).1 := by
  cases st <;> exact ⟨rfl, rfl⟩

/-- **Outside the state no call touches the session.** -/
theorem keepsSession_call (h : g.currentState ≠ .exchangingMessages) (i : Call φ) :
    KeepsSession g (call E g i).1 := by
  have hnothing : KeepsSession g g := ⟨rfl, rfl⟩
  -- a method of another state has no access to the two flags, and the module is only called in one
  cases i with
  | waitForMessage =>
    dsimp only [call]
    split
    · unfold Gateway.waitForMessage
      dsimp only
      (repeat' split) <;> exact ⟨rfl, rfl⟩
    · exact hnothing
  | sendAcknowledgement =>
    dsimp only [call]
    split
    · unfold Gateway.sendAcknowledgement
      (repeat' split) <;> exact ⟨rfl, rfl⟩
    · exact hnothing
  | updatePowerStatus =>
    dsimp only [call, Gateway.updatePowerStatus]
    (repeat' split) <;> exact ⟨rfl, rfl⟩
  | obtainGNSSPosition =>
    dsimp only [call, Gateway.obtainGNSSPosition]
    (repeat' split) <;> exact ⟨rfl, rfl⟩
  | connectToMobileNetwork =>
    dsimp only [call, Gateway.connectToMobileNetwork]
    (repeat' split) <;> exact ⟨rfl, rfl⟩
  | formatMessage =>
    dsimp only [call, Gateway.formatMessage]
    split <;> exact ⟨rfl, rfl⟩
  | exchangeMessages =>
    dsimp only [call]
    split
    · next hstate => exact absurd hstate h
    · exact hnothing
  | connectEthernetToLocalNetwork =>
    dsimp only [call, Gateway.connectEthernetToLocalNetwork]
    split
    · split
      · exact keepsSession_failEthernet _
      · exact ⟨rfl, rfl⟩
    · exact hnothing
  | queryUTCTimeViaRemoteServer =>
    dsimp only [call]
    split <;> exact ⟨rfl, rfl⟩
  | exchangeMessagesThroughEthernet =>
    dsimp only [call]
    split
    · unfold Gateway.exchangeMessagesThroughEthernet
      split
      · exact keepsSession_failEthernet _
      split
      · dsimp only
        split
        · exact ⟨(keepsSession_failEthernet _).exchange, (keepsSession_failEthernet _).cellular⟩
        · exact ⟨rfl, rfl⟩
      split
      · exact keepsSession_failEthernet _
      split
      · exact keepsSession_failEthernet _
      · dsimp only
        split
        · exact ⟨(keepsSession_failEthernet _).exchange, (keepsSession_failEthernet _).cellular⟩
        · exact ⟨rfl, rfl⟩
    · exact hnothing

/-- In the state every call but `exchangeMessages` finds the base state, which does nothing. -/
theorem call_exchanging (h : g.currentState = .exchangingMessages) (i : Call φ) :
    call E g i = (g, []) ∨ ∃ line expired, i = .exchangeMessages line expired ∧
      call E g i = g.exchangeMessagesInFull E line expired := by
  cases i with
  | exchangeMessages line expired =>
    refine Or.inr ⟨line, expired, rfl, ?_⟩
    rw [← exchangeMessages_eq]
    simp only [call, h]
  | _ => exact Or.inl (by simp only [call, h])

/-- Every exit of the interpretation leaves the state and closes the session, whatever the reply. -/
theorem interpretReply_closes
    (h : g.cellularTransceiver.transceiver = .transceiverUnavailable) :
    (g.interpretReply E).1.currentState = .sensingBatteryStatus ∧
      (g.interpretReply E).1.SessionClosed := by
  have hleave (g' : Gateway φ)
      (h' : g'.cellularTransceiver.transceiver = .transceiverUnavailable) :
      g'.leaveExchange.1.currentState = .sensingBatteryStatus ∧ g'.leaveExchange.1.SessionClosed :=
    ⟨rfl, rfl, rfl, h'⟩
  unfold Gateway.interpretReply
  -- one goal for each exit of the source
  (repeat' split) <;> exact hleave _ h

/-- **A terminal status leaves the state and closes the session.** -/
theorem exchangeMessagesInFull_closes {line : Option Bytes} {expired : Bool}
    (hended : (g.exchangeWithModem line expired).status ≠ .tryningToSend ∧
      (g.exchangeWithModem line expired).status ≠ .unavaible) :
    (g.exchangeMessagesInFull E line expired).1.currentState = .sensingBatteryStatus ∧
      (g.exchangeMessagesInFull E line expired).1.SessionClosed := by
  have hreset := exchangeWithModem_ended hended
  unfold Gateway.exchangeMessagesInFull
  dsimp only
  generalize g.exchangeWithModem line expired = s at hended hreset ⊢
  split
  · split
    · exact interpretReply_closes hreset
    · exact ⟨rfl, rfl, rfl, hreset⟩
  · exact ⟨rfl, rfl, rfl, hreset⟩

/-- While the module tries, the state is kept. -/
theorem exchangeMessagesInFull_stays {line : Option Bytes} {expired : Bool}
    (htrying : (g.exchangeWithModem line expired).status = .tryningToSend) :
    (g.exchangeMessagesInFull E line expired).1.currentState = g.currentState ∧
      (g.exchangeMessagesInFull E line expired).1.cellularTransceiver.transceiver =
        (g.exchangeWithModem line expired).transceiver ∧
      (g.exchangeMessagesInFull E line expired).2 =
        (g.exchangeWithModem line expired).events.map .modem := by
  unfold Gateway.exchangeMessagesInFull
  dsimp only
  generalize g.exchangeWithModem line expired = s at htrying ⊢
  rw [if_neg (by rw [htrying]; exact nofun), if_neg fun h => h.1 htrying]
  exact ⟨rfl, rfl, rfl⟩

/-- The status of a session is not `UNAVAIBLE`, and the transceiver stays in use while it tries. -/
theorem exchangeWithModem_inUse (h : g.exchange.enableTransceiver = true →
      g.cellularTransceiver.transceiver ≠ .transceiverUnavailable)
    (line : Option Bytes) (expired : Bool) :
    (g.exchangeWithModem line expired).status ≠ .unavaible ∧
      ((g.exchangeWithModem line expired).status = .tryningToSend →
        (g.exchangeWithModem line expired).transceiver ≠ .transceiverUnavailable) := by
  unfold Gateway.exchangeWithModem
  dsimp only
  split
  · next henabled => exact exchangeMessages_inUse (h henabled)
  · exact exchangeMessages_inUse (enableTransceiver_inUse _)

/-- The status is among the events of a call on the module. -/
theorem status_mem_exchangeWithModem (g : Gateway φ) (line : Option Bytes) (expired : Bool) :
    .status (g.exchangeWithModem line expired).status ∈
      (g.exchangeWithModem line expired).events := by
  unfold Gateway.exchangeWithModem
  dsimp only
  refine List.mem_append_right _ ?_
  exact List.mem_append_right _ (List.mem_singleton_self _)

end Calls

/-! ## The result

  The step lemma, the start, and from them every run. -/

section Invariant

variable {E}

/-- **Every call keeps the bookkeeping in step.** -/
theorem InStep.step {c : Config (Gateway φ) GatewayEvent} (h : InStep c) (i : Call φ) :
    InStep (advance (call E) c i) := by
  by_cases hstate : c.state.currentState = .exchangingMessages
  -- in the state: another call does nothing; the call of the session goes on or ends
  · rcases call_exchanging (E := E) hstate i with hnothing | ⟨line, expired, rfl, hcall⟩
    · have hsame : advance (call E) c i = c := by
        simp [advance, hnothing]
      rw [hsame]
      exact h
    · have hinUse := exchangeWithModem_inUse (h.inUse hstate) line expired
      by_cases htrying : (c.state.exchangeWithModem line expired).status = .tryningToSend
      · -- the session goes on: it has been called now, and its transceiver is in use
        obtain ⟨hstays, htransceiver, hevents⟩ :=
          exchangeMessagesInFull_stays (E := E) htrying
        rw [← hcall] at hstays htransceiver hevents
        have hcalled :
            CalledSinceEntry (advance (call E) c (.exchangeMessages line expired)).trace := by
          refine ⟨.tryningToSend, ?_⟩
          show _ ∈ since GatewayEvent.isChangeState
            (c.trace ++ (call E c.state (.exchangeMessages line expired)).2)
          rw [hevents, since_append (by simp [GatewayEvent.isChangeState])]
          refine List.mem_append_right _ (List.mem_map_of_mem ?_)
          rw [← htrying]
          exact status_mem_exchangeWithModem c.state line expired
        constructor
        · rintro (hleft | hnot)
          · exact absurd (hstays.trans hstate) hleft
          · exact absurd hcalled hnot
        · intro _ _
          show (call E c.state (.exchangeMessages line expired)).1.cellularTransceiver.transceiver ≠
            .transceiverUnavailable
          rw [htransceiver]
          exact hinUse.2 htrying
      · -- the session ends
        have hclosed := exchangeMessagesInFull_closes (E := E) ⟨htrying, hinUse.1⟩
        rw [← hcall] at hclosed
        refine ⟨fun _ => hclosed.2, fun hstill => ?_⟩
        cases hclosed.1.symm.trans hstill
  · -- outside the state the session stays closed, whichever state comes next
    have hclosed := (keepsSession_call (E := E) hstate i).closed (h.closed (Or.inl hstate))
    refine ⟨fun _ => hclosed, fun _ henabled => ?_⟩
    cases hclosed.enableTransceiver.symm.trans henabled

/-- The gateway starts with both flags down. -/
theorem inStep_initial (recepted : Recepted φ) (RSSI : Int) (position : GNSSData φ)
    (startTime : UInt64) : InStep ⟨.initial recepted RSSI position startTime, []⟩ :=
  ⟨fun _ => ⟨rfl, rfl, rfl⟩, nofun⟩

end Invariant

/-- **In every reachable state the bookkeeping of the session is in step with the module**; in a
    session the module never answers `UNAVAIBLE`; and every terminal status, whatever the reply of
    the server is, leaves the state and closes the session. -/
theorem session_in_step (E : Platform φ) (recepted : Recepted φ) (RSSI : Int)
    (position : GNSSData φ) (startTime : UInt64) (is : List (Call φ)) :
    let c := run (call E) ⟨.initial recepted RSSI position startTime, []⟩ is
    InStep c ∧
    (c.state.currentState = .exchangingMessages → ∀ line expired,
      (c.state.exchangeWithModem line expired).status ≠ .unavaible ∧
      ((c.state.exchangeWithModem line expired).status ≠ .tryningToSend →
        call E c.state (.exchangeMessages line expired) =
            c.state.exchangeMessagesInFull E line expired ∧
          (c.state.exchangeMessagesInFull E line expired).1.currentState =
            .sensingBatteryStatus ∧
          (c.state.exchangeMessagesInFull E line expired).1.SessionClosed)) := by
  intro c
  have hinStep : InStep c :=
    run_induction (inStep_initial recepted RSSI position startTime) (fun _ i h => h.step i) is
  refine ⟨hinStep, fun hstate line expired => ?_⟩
  have hinUse := exchangeWithModem_inUse (hinStep.inUse hstate) line expired
  refine ⟨hinUse.1, fun hended => ⟨?_, exchangeMessagesInFull_closes ⟨hended, hinUse.1⟩⟩⟩
  rw [← exchangeMessages_eq]
  simp only [call, hstate]

/-- The calls after which a session is open, and the modem has not answered nineteen times. -/
def unanswered : List (Call Int) :=
  accepts ++ acknowledges ++ [.connectEthernetToLocalNetwork (-1),
    .connectToMobileNetwork .connectedToNetwork, .formatMessage 0, .exchangeMessages none false] ++
      List.replicate 19 (.exchangeMessages none true)

/-- A run in the middle of a session, which ends with the next expiry. -/
theorem session_in_step_unanswered :
    let c := run (call .reference) ⟨.initial nothingRecepted 0 origin 0, []⟩ unanswered
    c.state.exchange.enableTransceiver = true ∧
      (c.state.exchangeWithModem none true).status ≠ .tryningToSend ∧
      c.state.currentState = .exchangingMessages ∧ InStep c ∧
      (c.state.currentState = .exchangingMessages → ∀ line expired,
        (c.state.exchangeWithModem line expired).status ≠ .unavaible ∧
        ((c.state.exchangeWithModem line expired).status ≠ .tryningToSend →
          call .reference c.state (.exchangeMessages line expired) =
              c.state.exchangeMessagesInFull .reference line expired ∧
            (c.state.exchangeMessagesInFull .reference line expired).1.currentState =
              .sensingBatteryStatus ∧
            (c.state.exchangeMessagesInFull .reference line expired).1.SessionClosed)) :=
  ⟨by decide +kernel, by decide +kernel, by decide +kernel,
    session_in_step .reference nothingRecepted 0 origin 0 unanswered⟩

end GatewayLoRa
