/-
  What one call of the gateway does, said once.

  `CallEffect` lists it: nothing that a result about runs looks at; a plain change of state
  (`Moves`); an accepted message; a call of `sendAcknowledgement`; a formatted message; an attempt
  through Ethernet that reached the receive loop; a call on the modem.  `call_effect` says that
  every call has one of these effects, and is all that the results about runs use of `call`.

  The crux is how little a call can do.  Each of the ten calls belongs to one state and does nothing
  in any other one; in its own state most of its branches leave everything alone that a result about
  runs looks at (`Same`), and only change the state, along one of the eight edges of `Moves`.  What
  is left are the calls that touch the acknowledgement, the hash chain, the modem or the message, and
  each of these touches one of them.  So an invariant is proved with one case for each effect, most of
  them equalities, and not with one for each branch of each method.

  `Gateway::update` makes its ten calls in a fixed order.  The results are about runs of calls in ANY
  order, and `run_update` says that a run of updates is one of them.
-/

import GatewayLoRa.Gateway

namespace GatewayLoRa

open CMemory Machine

variable {φ : Type}

/-! ## Changes of state

  `failState` and `Moves` are the edges of the state machine that no data go along.  The edges that
  carry something (an accepted message, a formatted one, a reply) are constructors of `CallEffect`
  below, with what they carry. -/

/-- The status of the same message for the mobile network; only a status that tries Ethernet has
    one. -/
def GatewayStatus.onMobileNetwork : GatewayStatus → Option GatewayStatus
  | .receptedLoraLoraMessageTryingEthernet => some .receptedLoraLoraMessageTryingMobileNetwork
  | .receptedLoraGnssMessageTryingEthernet => some .receptedLoraGnssMessageTryingMobileNetwork
  | _ => none

/-- The state after the failing branch of an Ethernet state, if it changes. -/
def failState (currentStatus : GatewayStatus) : Option GatewayState :=
  currentStatus.onMobileNetwork.map .connectingToMobileNetwork

/-- The failing branch, as a change of state.  A status that tries the mobile network already has no
    other network to fall back on, so the source leaves the state as it is. -/
theorem failEthernet_eq (currentStatus : GatewayStatus) (g : Gateway φ) :
    g.failEthernet currentStatus =
      match failState currentStatus with
      | some s => g.changeState s
      | none => (g, []) := by
  cases currentStatus <;> rfl

/-- The receive loop fails if a call of `recv` does. -/
theorem recvLoop_failed (recvs : List Int) (c : Chain) :
    (SendingMessageThroughEthernet.recvLoop recvs c).2 = true ↔ ∃ r ∈ recvs, r < 0 := by
  induction recvs generalizing c with
  | nil => simp [SendingMessageThroughEthernet.recvLoop]
  | cons r rs ih =>
    -- the loop stops at the first negative result, and else looks at the rest
    rw [SendingMessageThroughEthernet.recvLoop]
    by_cases hr : r < 0
    · rw [if_pos hr]
      exact iff_of_true rfl ⟨r, List.mem_cons_self .., hr⟩
    · rw [if_neg hr, ih]
      simp [hr]

/-- The changes of state that nothing else goes with. -/
inductive Moves : GatewayState → GatewayState → Prop
  | measured : Moves .sensingBatteryStatus .gettingGNSSPosition
  | positioned : Moves .gettingGNSSPosition .waitingForMessage
  | connectedEthernet (st : GatewayStatus) :
      Moves (.connectingEthernet st) (.obtaingTimeUTCThroughEthernet st)
  | failedToConnect (st : GatewayStatus) (s : GatewayState) (hs : failState st = some s) :
      Moves (.connectingEthernet st) s
  | obtainedTime (st : GatewayStatus) :
      Moves (.obtaingTimeUTCThroughEthernet st) (.formattingMessage st)
  | failedToSend (n : Nat) (st : GatewayStatus) (s : GatewayState) (hs : failState st = some s) :
      Moves (.sendingMessageThroughEthernet n st) s
  | connectedMobile (st : GatewayStatus) :
      Moves (.connectingToMobileNetwork st) (.formattingMessage st)
  | mobileUnavailable (st : GatewayStatus) :
      Moves (.connectingToMobileNetwork st) .sensingBatteryStatus

/-! ## The effects

  The branches of the ten methods, sorted by what they touch.  The proofs about runs are by cases on
  `CallEffect`, so its constructors say of each member whether it changes, and of the events that
  there are no others. -/

/-- What no effect but those that say so touches: the statics of the acknowledgement, the chain, the
    module, and the message once it was accepted. -/
structure Same (g g' : Gateway φ) : Prop where
  ack : g'.ack = g.ack
  chain : g'.chain = g.chain
  cellular : g'.cellularTransceiver = g.cellularTransceiver
  buffer : g.currentState ≠ .waitingForMessage → g'.bufferMessage = g.bufferMessage

/-- Nothing is touched. -/
theorem Same.refl (g : Gateway φ) : Same g g := ⟨rfl, rfl, rfl, fun _ => rfl⟩

/-- The module has not received the reply of the server. -/
def Gateway.AwaitsReply (g : Gateway φ) : Prop :=
  g.cellularTransceiver.transceiver.awaitsReply = true

open SendingMessageThroughEthernet (recvLoop) in
/-- **What one call does.** -/
inductive CallEffect (E : Platform φ) (g : Gateway φ) : Gateway φ × List GatewayEvent → Prop
  -- a call of another state's method, a call that waits, or one that only measures
  | quiet (g' : Gateway φ) (hstate : g'.currentState = g.currentState) (hsame : Same g g') :
      CallEffect E g (g', [])
  -- one of the edges above
  | moved (g' : Gateway φ) (hmoves : Moves g.currentState g'.currentState) (hsame : Same g g') :
      CallEffect E g (g', [.changeState g'.currentState])
  -- `WaitingForMessage`, when the parser takes the packet for a message
  | accepted (g' : Gateway φ) (i : Int64) (n : Int32) (type : ReceptedTypeMessage)
      (hstate : g.currentState = .waitingForMessage)
      (hstate' : g'.currentState = .sendingAck i n type.tryingEthernet) (hsame : Same g g') :
      CallEffect E g (g', [.accepted i n type, .changeState g'.currentState])
  -- `SendingAck`: a call while acknowledgements are left, the last call, and a call whose handlers
  -- fault
  | acknowledged (g' : Gateway φ) (i : Int64) (n : Int32) (st : GatewayStatus)
      (ticks : SendingAck.Ticks) (s : SendingAck.Step)
      (hstate : g.currentState = .sendingAck i n st)
      (hrun : SendingAck.sendAcknowledgement E.primitives i n ticks g.timeout g.ack = .ok s)
      (hdone : s.done = false) (hstate' : g'.currentState = g.currentState)
      (hack : g'.ack = s.statics) (hchain : g'.chain = g.chain)
      (hcellular : g'.cellularTransceiver = g.cellularTransceiver) :
      CallEffect E g (g', s.packets.map .transmitted)
  | lastAcknowledged (g' : Gateway φ) (i : Int64) (n : Int32) (st : GatewayStatus)
      (ticks : SendingAck.Ticks) (s : SendingAck.Step)
      (hstate : g.currentState = .sendingAck i n st)
      (hrun : SendingAck.sendAcknowledgement E.primitives i n ticks g.timeout g.ack = .ok s)
      (hdone : s.done = true) (hstate' : g'.currentState = .connectingEthernet st)
      (hack : g'.ack = s.statics) (hchain : g'.chain = g.chain)
      (hcellular : g'.cellularTransceiver = g.cellularTransceiver) :
      CallEffect E g (g', s.packets.map .transmitted ++ [.changeState g'.currentState])
  | faulted (i : Int64) (n : Int32) (st : GatewayStatus) (ticks : SendingAck.Ticks) (f : Fault)
      (hstate : g.currentState = .sendingAck i n st)
      (hrun : SendingAck.sendAcknowledgement E.primitives i n ticks g.timeout g.ack = .error f) :
      CallEffect E g (g, [.fault f])
  -- `FormattingMessage`: the message becomes the token, and its hash is remembered
  | formatted (g' : Gateway φ) (st : GatewayStatus) (seconds : Int)
      (hstate : g.currentState = .formattingMessage st)
      (hstate' : g'.currentState = if st.isTryingMobileNetwork then .exchangingMessages
        else .sendingMessageThroughEthernet 0 st)
      (hack : g'.ack = g.ack)
      (hchain : g'.chain = g.chain.setCurrentHashChain (g.formatted E st seconds).curr)
      (hbuffer : g'.bufferMessage = (g.formatted E st seconds).token)
      (hcellular : g'.cellularTransceiver = g.cellularTransceiver) :
      CallEffect E g
        (g', [.formatted (g.formatted E st seconds), .changeState g'.currentState])
  -- `SendingMessageThroughEthernet`: another attempt, a reply, and a reply that breaks off
  | retried (g' : Gateway φ) (n : Nat) (st : GatewayStatus)
      (hstate : g.currentState = .sendingMessageThroughEthernet n st)
      (hstate' : g'.currentState = .sendingMessageThroughEthernet (n + 1) st) (hsame : Same g g') :
      CallEffect E g (g', [])
  | responded (g' : Gateway φ) (n : Nat) (st : GatewayStatus) (recvs : List Int)
      (hstate : g.currentState = .sendingMessageThroughEthernet n st)
      (hrecv : (recvLoop recvs g.chain).2 = false)
      (hstate' : g'.currentState = .sensingBatteryStatus) (hack : g'.ack = g.ack)
      (hchain : g'.chain = (recvLoop recvs g.chain).1)
      (hcellular : g'.cellularTransceiver = g.cellularTransceiver) :
      CallEffect E g
        (g', [.received g.bufferMessage recvs, .changeState .sensingBatteryStatus])
  | recvFailed (g' : Gateway φ) (n : Nat) (st : GatewayStatus) (recvs : List Int)
      (hstate : g.currentState = .sendingMessageThroughEthernet n st)
      (hrecv : (recvLoop recvs g.chain).2 = true)
      (hstate' : g'.currentState = (failState st).getD g.currentState) (hack : g'.ack = g.ack)
      (hchain : g'.chain = (recvLoop recvs g.chain).1)
      (hbuffer : g'.bufferMessage = g.bufferMessage)
      (hcellular : g'.cellularTransceiver = g.cellularTransceiver) :
      CallEffect E g (g', .received g.bufferMessage recvs ::
        ((failState st).map .changeState).toList)
  -- `ExchangingMessages`: a call on the modem that goes on, one that ends without a confirmation,
  -- and one that ends with it
  | exchanging (g' : Gateway φ) (modem : List TransceiverEvent)
      (hstate : g.currentState = .exchangingMessages) (hstate' : g'.currentState = g.currentState)
      (hack : g'.ack = g.ack) (hchain : g'.chain = g.chain)
      (hwrote : ∀ m, .wrote m ∈ modem → m = g.bufferMessage ∧ g.AwaitsReply)
      (hawaits : g'.AwaitsReply → g.AwaitsReply ∧ g'.bufferMessage = g.bufferMessage) :
      CallEffect E g (g', modem.map .modem)
  | unconfirmed (g' : Gateway φ) (modem : List TransceiverEvent) (sent : List GatewayEvent)
      (hstate : g.currentState = .exchangingMessages)
      (hstate' : g'.currentState = .sensingBatteryStatus)
      (hsent : sent = [] ∨ ∃ reply, sent = [.sent reply] ∧
        reply.any (ExchangingMessages.replyConfirms E.decodeJWT) = false)
      (hack : g'.ack = g.ack) (hchain : g'.chain = g.chain)
      (hwrote : ∀ m, .wrote m ∈ modem → m = g.bufferMessage ∧ g.AwaitsReply)
      (hended : g'.AwaitsReply) :
      CallEffect E g
        (g', modem.map .modem ++ (sent ++ [.changeState .sensingBatteryStatus]))
  | confirmed (g' : Gateway φ) (modem : List TransceiverEvent) (reply : Bytes)
      (hstate : g.currentState = .exchangingMessages)
      (hstate' : g'.currentState = .sensingBatteryStatus)
      (hreply : ExchangingMessages.replyConfirms E.decodeJWT reply = true)
      (hack : g'.ack = g.ack)
      (hchain : g'.chain = g.chain.progressOnHashChain.increaseSequenceNumber)
      (hwrote : ∀ m, .wrote m ∈ modem → m = g.bufferMessage ∧ g.AwaitsReply)
      (hended : g'.AwaitsReply) :
      CallEffect E g
        (g', modem.map .modem ++ [.sent (some reply), .changeState .sensingBatteryStatus])

/-! ## Every call has one of these effects

  One lemma for each method, in the state that the method belongs to.  The proofs open the method
  and match its branches with the constructors; the only one with an argument is that of the modem,
  which needs that the transceiver writes the message that it was given
  (`keepsMessage_exchangeWithModem`), and that it is back at its beginning when a session has ended
  (`exchangeWithModem_ended`). -/

section Effects

variable (E : Platform φ) (g : Gateway φ)

/-- A call outside its state does nothing. -/
theorem CallEffect.nothing : CallEffect E g (g, []) := .quiet g rfl (.refl g)

variable {E g}

/-- The failing branch of an Ethernet state moves, or stays where it is. -/
theorem effect_failEthernet {g₁ : Gateway φ} {st : GatewayStatus} (hsame : Same g g₁)
    (hmoves : ∀ s, failState st = some s → Moves g.currentState s)
    (hstays : CallEffect E g (g₁, [])) : CallEffect E g (g₁.failEthernet st) := by
  rw [failEthernet_eq]
  cases hfail : failState st with
  | none => exact hstays
  | some s =>
    exact .moved { g₁ with currentState := s } (hmoves s hfail)
      ⟨hsame.ack, hsame.chain, hsame.cellular, hsame.buffer⟩

/-- `waitForMessage`: the packet is no message, or is accepted. -/
theorem effect_waitForMessage (hstate : g.currentState = .waitingForMessage) (begins : Bool)
    (packet : Bytes) (packetRssi : Int) (processLoRaMessage : Bytes → Option Bytes) :
    CallEffect E g (g.waitForMessage E begins packet packetRssi processLoRaMessage) := by
  unfold Gateway.waitForMessage
  dsimp only
  split
  · exact .quiet _ rfl ⟨rfl, rfl, rfl, fun _ => rfl⟩
  · next text _ =>
    split
    · exact .accepted _ _ _ _ hstate rfl ⟨rfl, rfl, rfl, fun h => absurd hstate h⟩
    · exact .quiet _ rfl ⟨rfl, rfl, rfl, fun h => absurd hstate h⟩

/-- `sendAcknowledgement`: the three outcomes of one of its calls. -/
theorem effect_sendAcknowledgement {i : Int64} {n : Int32} {st : GatewayStatus}
    (hstate : g.currentState = .sendingAck i n st) (ticks : SendingAck.Ticks) :
    CallEffect E g (g.sendAcknowledgement E i n st ticks) := by
  unfold Gateway.sendAcknowledgement
  split
  · next f hrun => exact .faulted i n st ticks f hstate hrun
  · next s hrun =>
    dsimp only
    split
    · next hdone => exact .lastAcknowledged _ i n st ticks s hstate hrun hdone rfl rfl rfl rfl
    · next hdone =>
      exact .acknowledged _ i n st ticks s hstate hrun (by simpa using hdone) rfl rfl rfl
        rfl

/-- `connectEthernetToLocalNetwork`: connected, or failed. -/
theorem effect_connectEthernet {st : GatewayStatus} (hstate : g.currentState = .connectingEthernet st)
    (connectResult : Int) :
    CallEffect E g (g.connectEthernetToLocalNetwork st connectResult) := by
  unfold Gateway.connectEthernetToLocalNetwork
  split
  · exact effect_failEthernet (.refl g) (fun s hs => hstate ▸ .failedToConnect st s hs) (.nothing E g)
  · exact .moved _ (hstate ▸ .connectedEthernet st) ⟨rfl, rfl, rfl, fun _ => rfl⟩

/-- `exchangeMessagesThroughEthernet`: an attempt, up to where it fails.  Once the message is
    written, the receive loop decides, and the chain is what that leaves. -/
theorem effect_exchangeThroughEthernet {n : Nat} {st : GatewayStatus}
    (hstate : g.currentState = .sendingMessageThroughEthernet n st) (s : TcpSession) :
    CallEffect E g (g.exchangeMessagesThroughEthernet n st s) := by
  have hmoves : ∀ s, failState st = some s → Moves g.currentState s :=
    fun s hs => hstate ▸ .failedToSend n st s hs
  have hfail : CallEffect E g (g.failEthernet st) :=
    effect_failEthernet (.refl g) hmoves (.nothing E g)
  have hretry : CallEffect E g
      ({ g with currentState := .sendingMessageThroughEthernet (n + 1) st }, []) :=
    .retried _ n st hstate rfl ⟨rfl, rfl, rfl, fun _ => rfl⟩
  unfold Gateway.exchangeMessagesThroughEthernet
  split
  · exact hfail
  split
  · dsimp only
    split
    · exact effect_failEthernet ⟨rfl, rfl, rfl, fun _ => rfl⟩ hmoves hretry
    · exact hretry
  split
  · exact hfail
  split
  · exact hfail
  -- open, connect and send have succeeded: the receive loop is reached
  rcases hrecv : SendingMessageThroughEthernet.recvLoop s.recvs g.chain with ⟨chain, failed⟩
  dsimp only
  have hchain : chain = (SendingMessageThroughEthernet.recvLoop s.recvs g.chain).1 := by rw [hrecv]
  cases failed with
  | false =>
    rw [if_neg (by decide)]
    exact .responded _ n st s.recvs hstate (by rw [hrecv]) rfl rfl hchain rfl
  | true =>
    have heff (g' : Gateway φ) (hstate' : g'.currentState = (failState st).getD g.currentState) :=
      CallEffect.recvFailed (E := E) g' n st s.recvs hstate (by rw [hrecv]) hstate'
    rw [if_pos rfl, failEthernet_eq]
    cases hs : failState st with
    | none =>
      rw [hs] at heff
      exact heff _ rfl rfl hchain rfl rfl
    | some next =>
      rw [hs] at heff
      exact heff _ rfl rfl hchain rfl rfl

/-- `connectToMobileNetwork`: connected, unavailable, or not yet. -/
theorem effect_connectToMobileNetwork {st : GatewayStatus}
    (hstate : g.currentState = .connectingToMobileNetwork st) (status : CellularConnectionStatus) :
    CallEffect E g (g.connectToMobileNetwork st status) := by
  unfold Gateway.connectToMobileNetwork
  split
  · exact .moved _ (hstate ▸ .connectedMobile st) ⟨rfl, rfl, rfl, fun _ => rfl⟩
  split
  · exact .moved _ (hstate ▸ .mobileUnavailable st) ⟨rfl, rfl, rfl, fun _ => rfl⟩
  · exact .nothing E g

/-- A call on the modem writes the message of the gateway, and no other.  Enabling the transceiver
    first writes nothing. -/
theorem keepsMessage_exchangeWithModem (g : Gateway φ) (line : Option Bytes) (expired : Bool) :
    KeepsMessage g.cellularTransceiver.transceiver g.bufferMessage
      (g.exchangeWithModem line expired) := by
  unfold Gateway.exchangeWithModem
  dsimp only
  split
  · have hkeeps := g.cellularTransceiver.keepsMessage_exchangeMessages ⟨g.bufferMessage, line, expired⟩
    exact ⟨hkeeps.wrote, hkeeps.awaits⟩
  · have hkeeps := g.cellularTransceiver.enableTransceiver.1.keepsMessage_exchangeMessages
      ⟨g.bufferMessage, line, expired⟩
    have henabled : g.cellularTransceiver.enableTransceiver.1.transceiver.awaitsReply =
        g.cellularTransceiver.transceiver.awaitsReply ∧
        ∀ m, .wrote m ∉ g.cellularTransceiver.enableTransceiver.2 := by
      rcases g.cellularTransceiver with ⟨transceiver, post⟩
      cases transceiver <;> simp [Cellular.enableTransceiver, TransceiverState.awaitsReply]
    constructor
    · intro m hm
      rw [← henabled.1]
      exact hkeeps.wrote m ((List.mem_append.mp hm).resolve_left (henabled.2 m))
    · rw [← henabled.1]
      exact hkeeps.awaits

/-- A call that neither goes on nor finds the modem unavailable has left the transceiver disabled.
    -/
theorem exchangeWithModem_ended {line : Option Bytes} {expired : Bool}
    (h : (g.exchangeWithModem line expired).status ≠ .tryningToSend ∧
      (g.exchangeWithModem line expired).status ≠ .unavaible) :
    (g.exchangeWithModem line expired).transceiver = .transceiverUnavailable := by
  unfold Gateway.exchangeWithModem at h ⊢
  dsimp only at h ⊢
  split at h
  · next henabled =>
    rw [if_pos henabled]
    exact Cellular.exchangeMessages_ended h
  · next henabled =>
    rw [if_neg henabled]
    exact Cellular.exchangeMessages_ended h

/-- `exchangeMessages`: the statuses of the modem, and of a reply whether it confirms the message.
    -/
theorem effect_exchangeMessages (hstate : g.currentState = .exchangingMessages)
    (line : Option Bytes) (expired : Bool) :
    CallEffect E g (g.exchangeMessages E line expired) := by
  have hkeeps := keepsMessage_exchangeWithModem g line expired
  -- after a session that has ended, the next one waits for its own reply
  have hreset : (g.exchangeWithModem line expired).status ≠ .tryningToSend ∧
      (g.exchangeWithModem line expired).status ≠ .unavaible →
      (g.exchangeWithModem line expired).transceiver.awaitsReply = true := by
    intro hended
    rw [exchangeWithModem_ended hended]
    rfl
  unfold Gateway.exchangeMessages
  dsimp only
  generalize g.exchangeWithModem line expired = s at hkeeps hreset ⊢
  split
  · next hok =>
    have hended : s.transceiver.awaitsReply = true := hreset (by rw [hok]; exact ⟨nofun, nofun⟩)
    split
    · split
      · next hdecode =>
        refine .unconfirmed _ _ [.sent (some _)] hstate rfl (Or.inr ⟨_, rfl, ?_⟩) rfl rfl hkeeps.wrote
          hended
        simp [ExchangingMessages.replyConfirms, hdecode]
      · next payload hdecode =>
        split
        · next hfield =>
          refine .unconfirmed _ _ [.sent (some _)] hstate rfl (Or.inr ⟨_, rfl, ?_⟩) rfl rfl hkeeps.wrote
            hended
          simpa [ExchangingMessages.replyConfirms, hdecode] using hfield
        · next hfield =>
          refine .confirmed _ _ _ hstate rfl ?_ rfl rfl hkeeps.wrote hended
          simpa [ExchangingMessages.replyConfirms, hdecode, Option.isSome_iff_ne_none] using hfield
    · exact .unconfirmed _ _ [.sent none] hstate rfl (Or.inr ⟨none, rfl, rfl⟩) rfl rfl
        hkeeps.wrote hended
  split
  · next hended =>
    exact .unconfirmed _ _ [] hstate rfl (Or.inl rfl) rfl rfl hkeeps.wrote (hreset hended)
  · next hgoesOn =>
    refine .exchanging _ _ hstate rfl rfl rfl hkeeps.wrote fun hawaits => ?_
    have hstatus : s.status = .tryningToSend ∨ s.status = .unavaible := by
      by_cases htrying : s.status = .tryningToSend
      · exact Or.inl htrying
      · exact Or.inr (Decidable.not_not.mp fun hne => hgoesOn ⟨htrying, hne⟩)
    obtain ⟨hawaited, hnone⟩ := hkeeps.awaits hstatus hawaits
    refine ⟨hawaited, ?_⟩
    dsimp only
    rw [hnone]
    rfl

/-- `updatePowerStatus`: the battery was measured, or not yet. -/
theorem effect_updatePowerStatus (hstate : g.currentState = .sensingBatteryStatus)
    (measured : Bool) : CallEffect E g (g.updatePowerStatus measured) := by
  unfold Gateway.updatePowerStatus
  split
  · exact .moved _ (hstate ▸ .measured) ⟨rfl, rfl, rfl, fun _ => rfl⟩
  · exact .nothing E g

/-- `obtainGNSSPosition`: the module is off and the search over, or the search goes on. -/
theorem effect_obtainGNSSPosition (hstate : g.currentState = .gettingGNSSPosition)
    (turnedOff : Bool) (status : GNSSState) (position : GNSSData φ) :
    CallEffect E g (g.obtainGNSSPosition turnedOff status position) := by
  unfold Gateway.obtainGNSSPosition
  split
  · split
    · exact .moved _ (hstate ▸ .positioned) ⟨rfl, rfl, rfl, fun _ => rfl⟩
    · exact .nothing E g
  · exact .quiet _ rfl ⟨rfl, rfl, rfl, fun _ => rfl⟩

/-- **Every call has one of these effects.** -/
theorem call_effect (g : Gateway φ) (i : Call φ) : CallEffect E g (call E g i) := by
  -- in the state of the method the lemma of the method, in any other nothing
  cases i with
  | waitForMessage =>
    dsimp only [call]
    split
    · next h => exact effect_waitForMessage h ..
    · exact .nothing E g
  | sendAcknowledgement =>
    dsimp only [call]
    split
    · next h => exact effect_sendAcknowledgement h _
    · exact .nothing E g
  | updatePowerStatus =>
    dsimp only [call]
    split
    · next h => exact effect_updatePowerStatus h _
    · exact .nothing E g
  | obtainGNSSPosition =>
    dsimp only [call]
    split
    · next h => exact effect_obtainGNSSPosition h ..
    · exact .nothing E g
  | connectToMobileNetwork =>
    dsimp only [call]
    split
    · next h => exact effect_connectToMobileNetwork h _
    · exact .nothing E g
  | formatMessage =>
    dsimp only [call]
    split
    · next st h => exact .formatted _ st _ h rfl rfl rfl rfl rfl
    · exact .nothing E g
  | exchangeMessages =>
    dsimp only [call]
    split
    · next h => exact effect_exchangeMessages h ..
    · exact .nothing E g
  | connectEthernetToLocalNetwork =>
    dsimp only [call]
    split
    · next h => exact effect_connectEthernet h _
    · exact .nothing E g
  | queryUTCTimeViaRemoteServer =>
    dsimp only [call]
    split
    · next st h => exact .moved _ (h ▸ .obtainedTime st) ⟨rfl, rfl, rfl, fun _ => rfl⟩
    · exact .nothing E g
  | exchangeMessagesThroughEthernet =>
    dsimp only [call]
    split
    · next h => exact effect_exchangeThroughEthernet h _
    · exact .nothing E g

end Effects

end GatewayLoRa
