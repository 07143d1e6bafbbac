/-
  The relay cycle: the state and the status say the same, and no failure is dropped.

  The status of a message travels through seven state objects and decides, in every failing branch
  of the Ethernet states, whether the branch does anything: with any other status than one of the
  two `..._TRYING_ETHERNET` it returns without a change, and the gateway hangs.

  1. **The invariant** (`StatusMatches`) — the status of the current state is the one its type of
     message has on the way the state tries, the type being that of the last accepted message.

  2. **What follows for a call** (`Relays`) — every failure of Ethernet moves on to the mobile
     network; a message is formatted for the channel it then goes through; and a cycle ends in
     `SensingBatteryStatus` only after Ethernet succeeded, after the mobile network was given up,
     or after the modem came to the end of a transmission.

  `relay_invariant` puts the two together: they hold in every reachable state, whatever the radio,
  the socket, the modem and the clock do, and in whatever order the calls come.

  The crux is that the status is redundant.  The source passes it from state to state as an
  enumeration with four values, two of which are for messages that try Ethernet and two for the
  mobile network; which of the four it is follows from the state and from the type of the message.
  `StatusMatches` says so, and is kept because every edge that changes the way also changes the
  status.  Once it holds, the failing branches cannot be stuck: `failState` is defined on exactly
  the two values that an Ethernet state can have.
-/

import GatewayLoRa.GatewayCalls

namespace GatewayLoRa

open CMemory Machine

variable {φ : Type} {E : Platform φ}

/-! ## The invariant

  The type is read off the trace, so the invariant does not depend on a member that the source could
  have overwritten. -/

/-- The type of the last accepted message. -/
def lastAccepted (trace : List GatewayEvent) : Option ReceptedTypeMessage :=
  (trace.filterMap fun | .accepted _ _ type => some type | _ => none).getLast?

/-- **The status matches the state**, for a message of the given type. -/
def StatusMatches (type : Option ReceptedTypeMessage) : GatewayState → Prop
  | .sendingAck _ _ st | .connectingEthernet st | .obtaingTimeUTCThroughEthernet st
  | .sendingMessageThroughEthernet _ st => ∃ t, type = some t ∧ st = t.tryingEthernet
  | .connectingToMobileNetwork st => ∃ t, type = some t ∧ st = t.tryingMobileNetwork
  | .formattingMessage st =>
      ∃ t, type = some t ∧ (st = t.tryingEthernet ∨ st = t.tryingMobileNetwork)
  | _ => True

/-- Three facts about the four values: the ones for the mobile network are recognised, -/
theorem tryingMobileNetwork_isTrying (t : ReceptedTypeMessage) :
    t.tryingMobileNetwork.isTryingMobileNetwork = true := by
  cases t <;> rfl

/-- the ones for Ethernet are not, -/
theorem tryingEthernet_not_isTrying (t : ReceptedTypeMessage) :
    t.tryingEthernet.isTryingMobileNetwork = false := by
  cases t <;> rfl

/-- and a failure turns one into the other. -/
theorem failState_tryingEthernet (t : ReceptedTypeMessage) :
    failState t.tryingEthernet = some (.connectingToMobileNetwork t.tryingMobileNetwork) := by
  cases t <;> rfl

/-- A plain change of state takes the status along. -/
theorem StatusMatches.moves {type : Option ReceptedTypeMessage} {s s' : GatewayState}
    (h : StatusMatches type s) (hmoves : Moves s s') : StatusMatches type s' := by
  cases hmoves with
  | measured => trivial
  | positioned => trivial
  | mobileUnavailable => trivial
  | connectedEthernet st => exact h
  | failedToConnect st _ hs =>
    obtain ⟨t, htype, rfl⟩ := h
    obtain rfl := Option.some.inj ((failState_tryingEthernet t).symm.trans hs)
    exact ⟨t, htype, rfl⟩
  | obtainedTime st =>
    obtain ⟨t, htype, rfl⟩ := h
    exact ⟨t, htype, Or.inl rfl⟩
  | failedToSend n st _ hs =>
    obtain ⟨t, htype, rfl⟩ := h
    obtain rfl := Option.some.inj ((failState_tryingEthernet t).symm.trans hs)
    exact ⟨t, htype, rfl⟩
  | connectedMobile st =>
    obtain ⟨t, htype, rfl⟩ := h
    exact ⟨t, htype, Or.inr rfl⟩

/-- Formatting goes on with the status of Ethernet, or drops that of the mobile network. -/
theorem StatusMatches.formatted {type : Option ReceptedTypeMessage} {st : GatewayStatus}
    (h : StatusMatches type (.formattingMessage st)) :
    StatusMatches type (if st.isTryingMobileNetwork then .exchangingMessages
      else .sendingMessageThroughEthernet 0 st) := by
  obtain ⟨t, htype, rfl | rfl⟩ := h
  · rw [tryingEthernet_not_isTrying]
    exact ⟨t, htype, rfl⟩
  · rw [tryingMobileNetwork_isTrying]
    trivial

/-- Only an accepted message changes the type of the last one. -/
theorem lastAccepted_append {t es : List GatewayEvent}
    (h : es.filterMap (fun | .accepted _ _ type => some type | _ => none) = []) :
    lastAccepted (t ++ es) = lastAccepted t := by
  rw [lastAccepted, List.filterMap_append, h, List.append_nil, lastAccepted]

/-- After an accepted message, its type is the last one. -/
theorem lastAccepted_accepted (t : List GatewayEvent) (i : Int64) (n : Int32)
    (type : ReceptedTypeMessage) (s : GatewayState) :
    lastAccepted (t ++ [.accepted i n type, .changeState s]) = some type := by
  simp [lastAccepted]

/-- **Every call keeps the status matching.** -/
theorem StatusMatches.step {c : Config (Gateway φ) GatewayEvent}
    (h : StatusMatches (lastAccepted c.trace) c.state.currentState) (i : Call φ) :
    StatusMatches (lastAccepted (advance (call E) c i).trace)
      (advance (call E) c i).state.currentState := by
  have heff := call_effect (E := E) c.state i
  unfold advance
  generalize call E c.state i = res at heff ⊢
  cases heff with
  | quiet g' hstate hsame =>
    rw [lastAccepted_append rfl, hstate]
    exact h
  | moved g' hmoves hsame =>
    rw [lastAccepted_append rfl]
    exact h.moves hmoves
  -- the status of a new message is the one its type has for Ethernet
  | accepted g' i n type hstate hstate' hsame =>
    rw [lastAccepted_accepted, hstate']
    exact ⟨type, rfl, rfl⟩
  | acknowledged g' i n st ticks s hstate hrun hdone hstate' hack hchain =>
    rw [lastAccepted_append (by simp [List.filterMap_map]), hstate']
    exact h
  | lastAcknowledged g' i n st ticks s hstate hrun hdone hstate' hack hchain =>
    rw [lastAccepted_append (by simp [List.filterMap_map]), hstate']
    rw [hstate] at h
    exact h
  | faulted i n st ticks f hstate hrun =>
    rw [lastAccepted_append rfl]
    exact h
  | formatted g' st seconds hstate hstate' hack hchain hbuffer =>
    rw [lastAccepted_append rfl, hstate']
    rw [hstate] at h
    exact h.formatted
  | retried g' n st hstate hstate' hsame =>
    rw [lastAccepted_append rfl, hstate']
    rw [hstate] at h
    exact h
  | responded g' n st recvs hstate hrecv hstate' hack hchain =>
    rw [lastAccepted_append rfl, hstate']
    trivial
  -- the only effect that takes a failing edge together with something else
  | recvFailed g' n st recvs hstate hrecv hstate' hack hchain hbuffer =>
    rw [hstate] at h
    obtain ⟨t, htype, rfl⟩ := h
    rw [failState_tryingEthernet] at hstate' ⊢
    rw [lastAccepted_append rfl, hstate']
    exact ⟨t, htype, rfl⟩
  | exchanging g' modem hstate hstate' hack hchain =>
    rw [lastAccepted_append (by simp [List.filterMap_map]), hstate', hstate]
    trivial
  | unconfirmed g' modem sent hstate hstate' hsent hack hchain =>
    rw [hstate']
    trivial
  | confirmed g' modem reply hstate hstate' hreply hack hchain =>
    rw [hstate']
    trivial

/-- **In every run** the status matches. -/
theorem statusMatches_run {c : Config (Gateway φ) GatewayEvent}
    (h : StatusMatches (lastAccepted c.trace) c.state.currentState) (is : List (Call φ)) :
    StatusMatches (lastAccepted (run (call E) c is).trace) (run (call E) c is).state.currentState :=
  run_induction (I := fun c : Config (Gateway φ) GatewayEvent =>
    StatusMatches (lastAccepted c.trace) c.state.currentState) h (fun _ i hc => hc.step i) is

/-! ## What follows for a call

  `Relays` speaks of one call, in a state where the status matches.  Its clauses are proved one by
  one; each needs the invariant only to know which status it finds. -/

open SendingMessageThroughEthernet in
/-- The ways an attempt to send through Ethernet fails. -/
inductive TcpSession.Fails (s : TcpSession) (connectionRetries : Nat) (payload : Bytes) : Prop
  | openError (hopen : s.openResult ≠ 0)
  | lastConnectError (hopen : s.openResult = 0) (hconnect : s.connectResult ≠ 0)
      (hlast : connectionRetries + 1 ≥ maxRetries)
  | sendError (hopen : s.openResult = 0) (hconnect : s.connectResult = 0)
      (hsend : sendLoop (httpRequest payload).length s.sends < 0)
  | timeOut (hopen : s.openResult = 0) (hconnect : s.connectResult = 0)
      (hsend : 0 ≤ sendLoop (httpRequest payload).length s.sends) (htime : s.answered = false)
  | recvError (hopen : s.openResult = 0) (hconnect : s.connectResult = 0)
      (hsend : 0 ≤ sendLoop (httpRequest payload).length s.sends) (htime : s.answered = true)
      (hrecv : ∃ r ∈ s.recvs, r < 0)

open SendingMessageThroughEthernet in
/-- An attempt that succeeds. -/
structure TcpSession.Succeeds (s : TcpSession) (payload : Bytes) : Prop where
  opened : s.openResult = 0
  connected : s.connectResult = 0
  sent : 0 ≤ sendLoop (httpRequest payload).length s.sends
  answered : s.answered = true
  received : ∀ r ∈ s.recvs, 0 ≤ r

/-- An attempt that is made again: the connection failed, and not for the last time. -/
structure TcpSession.Retries (s : TcpSession) (connectionRetries : Nat) : Prop where
  opened : s.openResult = 0
  unconnected : s.connectResult ≠ 0
  more : connectionRetries + 1 < SendingMessageThroughEthernet.maxRetries

/-- The call meets a failure of Ethernet. -/
def FailsEthernet (g : Gateway φ) : Call φ → Prop
  | .connectEthernetToLocalNetwork connectResult =>
      (∃ st, g.currentState = .connectingEthernet st) ∧ connectResult ≠ 0
  | .exchangeMessagesThroughEthernet s =>
      ∃ n st, g.currentState = .sendingMessageThroughEthernet n st ∧ s.Fails n g.bufferMessage
  | _ => False

/-- The call ends a cycle: Ethernet succeeded, the mobile network was given up, or the modem came to
    the end of a transmission. -/
def EndsCycle (g : Gateway φ) : Call φ → Prop
  | .exchangeMessagesThroughEthernet s =>
      ∃ n st, g.currentState = .sendingMessageThroughEthernet n st ∧ s.Succeeds g.bufferMessage
  | .connectToMobileNetwork status =>
      (∃ st, g.currentState = .connectingToMobileNetwork st) ∧ status ≠ .connectedToNetwork ∧
        status ≠ .unavaible ∧ status ≠ .tryingToConnect
  | .exchangeMessages line expired =>
      g.currentState = .exchangingMessages ∧
        (g.exchangeWithModem line expired).status ≠ .tryningToSend ∧
        (g.exchangeWithModem line expired).status ≠ .unavaible
  | _ => False

/-- **What a call does with the message it relays**; `r` is its result. -/
structure Relays (type : Option ReceptedTypeMessage) (g : Gateway φ) (i : Call φ)
    (r : Gateway φ × List GatewayEvent) : Prop where
  /-- Every failure of Ethernet moves on to the mobile network. -/
  fails : FailsEthernet g i → ∃ t, type = some t ∧
    r.1.currentState = .connectingToMobileNetwork t.tryingMobileNetwork
  /-- An attempt through Ethernet that does not fail ends the cycle, or is made again. -/
  attempts : ∀ n st s, g.currentState = .sendingMessageThroughEthernet n st →
    i = .exchangeMessagesThroughEthernet s →
      s.Fails n g.bufferMessage ∨
      (s.Succeeds g.bufferMessage ∧ r.1.currentState = .sensingBatteryStatus) ∨
      (s.Retries n ∧ r.1.currentState = .sendingMessageThroughEthernet (n + 1) st)
  /-- A message is formatted for the channel it then goes through. -/
  formats : ∀ m, .formatted m ∈ r.2 →
    (m.metadata.urlPathChannel = urlPathMainChannel ↔ r.1.currentState = .exchangingMessages) ∧
    (m.metadata.urlPathChannel = urlPathSecondaryChannel ↔
      ∃ st, r.1.currentState = .sendingMessageThroughEthernet 0 st)
  /-- A cycle ends after one of the three ends of a transmission. -/
  ends : .changeState .sensingBatteryStatus ∈ r.2 → EndsCycle g i

section Calls

variable {type : Option ReceptedTypeMessage} {g : Gateway φ}

/-- **An attempt through Ethernet** fails, succeeds or is made again, and the state goes where it
    should. -/
theorem attempt_cases (t : ReceptedTypeMessage) (n : Nat) (s : TcpSession) :
    (s.Fails n g.bufferMessage ∧
      (g.exchangeMessagesThroughEthernet n t.tryingEthernet s).1.currentState =
        .connectingToMobileNetwork t.tryingMobileNetwork) ∨
    (s.Succeeds g.bufferMessage ∧
      (g.exchangeMessagesThroughEthernet n t.tryingEthernet s).1.currentState =
        .sensingBatteryStatus) ∨
    (s.Retries n ∧
      (g.exchangeMessagesThroughEthernet n t.tryingEthernet s).1.currentState =
        .sendingMessageThroughEthernet (n + 1) t.tryingEthernet) := by
  have hfail (g' : Gateway φ) : (g'.failEthernet t.tryingEthernet).1.currentState =
      .connectingToMobileNetwork t.tryingMobileNetwork := by
    rw [failEthernet_eq, failState_tryingEthernet]
    rfl
  unfold Gateway.exchangeMessagesThroughEthernet
  -- the tests of the source, in its order
  by_cases hopen : s.openResult ≠ 0
  · rw [if_pos hopen]
    exact Or.inl ⟨.openError hopen, hfail g⟩
  have hopened : s.openResult = 0 := by simpa using hopen
  rw [if_neg hopen]
  by_cases hconnect : s.connectResult ≠ 0
  · rw [if_pos hconnect]
    by_cases hlast : n + 1 ≥ SendingMessageThroughEthernet.maxRetries
    · dsimp only
      rw [if_pos hlast]
      exact Or.inl ⟨.lastConnectError hopened hconnect hlast, hfail _⟩
    · dsimp only
      rw [if_neg hlast]
      exact Or.inr (Or.inr ⟨⟨hopened, hconnect, by omega⟩, rfl⟩)
  have hconnected : s.connectResult = 0 := by simpa using hconnect
  rw [if_neg hconnect]
  by_cases hsend : SendingMessageThroughEthernet.sendLoop
      (SendingMessageThroughEthernet.httpRequest g.bufferMessage).length s.sends < 0
  · rw [if_pos hsend]
    exact Or.inl ⟨.sendError hopened hconnected hsend, hfail g⟩
  rw [if_neg hsend]
  by_cases htime : s.answered = false
  · rw [if_pos htime]
    exact Or.inl ⟨.timeOut hopened hconnected (by omega) htime, hfail g⟩
  have hanswered : s.answered = true := by simpa using htime
  rw [if_neg htime]
  have hrecv := recvLoop_failed s.recvs g.chain
  rcases hloop : SendingMessageThroughEthernet.recvLoop s.recvs g.chain with ⟨chain, failed⟩
  rw [hloop] at hrecv
  dsimp only at hrecv ⊢
  cases failed with
  | true =>
    exact Or.inl ⟨.recvError hopened hconnected (by omega) hanswered (hrecv.mp rfl), hfail _⟩
  | false =>
    refine Or.inr (Or.inl ⟨⟨hopened, hconnected, by omega, hanswered, fun r hr => ?_⟩, rfl⟩)
    by_cases hneg : r < 0
    · exact nomatch hrecv.mpr ⟨r, hr, hneg⟩
    · omega

/-- The three outcomes of an attempt exclude each other: one that fails does not succeed, -/
theorem TcpSession.Fails.not_succeeds {s : TcpSession} {n : Nat} {payload : Bytes}
    (h : s.Fails n payload) : ¬ s.Succeeds payload := by
  intro hs
  cases h with
  | openError hopen => exact hopen hs.opened
  | lastConnectError _ hconnect => exact hconnect hs.connected
  | sendError _ _ hsend => exact absurd hs.sent (by omega)
  | timeOut _ _ _ htime => exact nomatch htime.symm.trans hs.answered
  | recvError _ _ _ _ hrecv =>
    obtain ⟨r, hr, hneg⟩ := hrecv
    exact absurd (hs.received r hr) (by omega)

/-- and is not made again. -/
theorem TcpSession.Fails.not_retries {s : TcpSession} {n : Nat} {payload : Bytes}
    (h : s.Fails n payload) : ¬ s.Retries n := by
  intro hs
  cases h with
  | openError hopen => exact hopen hs.opened
  | lastConnectError _ _ hlast => exact absurd hs.more (by omega)
  | sendError _ hconnect => exact hs.unconnected hconnect
  | timeOut _ hconnect => exact hs.unconnected hconnect
  | recvError _ hconnect => exact hs.unconnected hconnect

/-- A failure of Ethernet moves on to the mobile network. -/
theorem call_fails (h : StatusMatches type g.currentState) {i : Call φ}
    (hfails : FailsEthernet g i) : ∃ t, type = some t ∧
      (call E g i).1.currentState = .connectingToMobileNetwork t.tryingMobileNetwork := by
  cases i with
  | connectEthernetToLocalNetwork connectResult =>
    obtain ⟨⟨st, hst⟩, hne⟩ := hfails
    rw [hst] at h
    obtain ⟨t, htype, rfl⟩ := h
    refine ⟨t, htype, ?_⟩
    simp only [call, hst, Gateway.connectEthernetToLocalNetwork, if_pos hne, failEthernet_eq,
      failState_tryingEthernet]
    rfl
  | exchangeMessagesThroughEthernet s =>
    obtain ⟨n, st, hst, hf⟩ := hfails
    rw [hst] at h
    obtain ⟨t, htype, rfl⟩ := h
    refine ⟨t, htype, ?_⟩
    simp only [call, hst]
    rcases attempt_cases (g := g) t n s with ⟨-, hmobile⟩ | ⟨hsucceeds, -⟩ | ⟨hretries, -⟩
    · exact hmobile
    · exact absurd hsucceeds hf.not_succeeds
    · exact absurd hretries hf.not_retries
  | _ => exact hfails.elim

/-- An attempt through Ethernet that does not fail ends the cycle, or is made again. -/
theorem call_attempts (h : StatusMatches type g.currentState) {n : Nat} {st : GatewayStatus}
    (hst : g.currentState = .sendingMessageThroughEthernet n st) (s : TcpSession) :
    s.Fails n g.bufferMessage ∨
    (s.Succeeds g.bufferMessage ∧
      (call E g (.exchangeMessagesThroughEthernet s)).1.currentState = .sensingBatteryStatus) ∨
    (s.Retries n ∧ (call E g (.exchangeMessagesThroughEthernet s)).1.currentState =
      .sendingMessageThroughEthernet (n + 1) st) := by
  rw [hst] at h
  obtain ⟨t, htype, rfl⟩ := h
  simp only [call, hst]
  rcases attempt_cases (g := g) t n s with ⟨hfails, -⟩ | hsucceeds | hretries
  · exact Or.inl hfails
  · exact Or.inr (Or.inl hsucceeds)
  · exact Or.inr (Or.inr hretries)

/-- A message is formatted for the channel it then goes through. -/
theorem call_formats (i : Call φ) {m : Formatted} (hm : .formatted m ∈ (call E g i).2) :
    (m.metadata.urlPathChannel = urlPathMainChannel ↔
      (call E g i).1.currentState = .exchangingMessages) ∧
    (m.metadata.urlPathChannel = urlPathSecondaryChannel ↔
      ∃ st, (call E g i).1.currentState = .sendingMessageThroughEthernet 0 st) := by
  have heff := call_effect (E := E) g i
  generalize call E g i = res at heff hm ⊢
  have hurls : urlPathMainChannel ≠ urlPathSecondaryChannel := by decide
  cases heff with
  | formatted g' st seconds hstate hstate' hack hchain hbuffer =>
    obtain rfl : m = g.formatted E st seconds := by simpa using hm
    rw [hstate']
    cases htrying : st.isTryingMobileNetwork with
    | true => simp [Gateway.formatted, Gateway.metadata, htrying, hurls]
    | false => simp [Gateway.formatted, Gateway.metadata, htrying, hurls.symm]
  | recvFailed g' n st => simp at hm
  | unconfirmed g' modem sent _ _ hsent =>
    rcases hsent with rfl | ⟨reply, rfl, -⟩ <;> simp at hm
  | _ => simp at hm

/-- The failing branch does not end the cycle. -/
theorem failEthernet_events {st : GatewayStatus} :
    .changeState .sensingBatteryStatus ∉ (g.failEthernet st).2 := by
  cases st <;> simp [Gateway.failEthernet, Gateway.changeState]

/-- An attempt that ends the cycle has succeeded. -/
theorem attempt_ends {n : Nat} {st : GatewayStatus} {s : TcpSession}
    (h : .changeState .sensingBatteryStatus ∈ (g.exchangeMessagesThroughEthernet n st s).2) :
    s.Succeeds g.bufferMessage := by
  unfold Gateway.exchangeMessagesThroughEthernet at h
  split at h
  · exact absurd h failEthernet_events
  next hopen =>
  split at h
  · dsimp only at h
    split at h
    · exact absurd h failEthernet_events
    · simp at h
  next hconnect =>
  split at h
  · exact absurd h failEthernet_events
  next hsend =>
  split at h
  · exact absurd h failEthernet_events
  next htime =>
  have hrecv := recvLoop_failed s.recvs g.chain
  rcases hloop : SendingMessageThroughEthernet.recvLoop s.recvs g.chain with ⟨chain, failed⟩
  rw [hloop] at hrecv h
  dsimp only at hrecv h
  cases failed with
  | true =>
    rcases List.mem_cons.mp h with hne | hmem
    · exact nomatch hne
    · exact absurd hmem failEthernet_events
  | false =>
    refine ⟨by simpa using hopen, by simpa using hconnect, by omega, by simpa using htime,
      fun r hr => ?_⟩
    by_cases hneg : r < 0
    · exact nomatch hrecv.mpr ⟨r, hr, hneg⟩
    · omega

/-- `SensingBatteryStatus` is entered from the three states that transmit, or fail to. -/
theorem sensing_from {i : Call φ} (h : .changeState .sensingBatteryStatus ∈ (call E g i).2) :
    (∃ n st, g.currentState = .sendingMessageThroughEthernet n st) ∨
    (∃ st, g.currentState = .connectingToMobileNetwork st) ∨
    g.currentState = .exchangingMessages := by
  have heff := call_effect (E := E) g i
  generalize call E g i = res at heff h
  cases heff with
  | quiet => simp at h
  | moved g' hmoves =>
    generalize hto : g'.currentState = s' at hmoves h
    generalize hfrom : g.currentState = s at hmoves ⊢
    cases hmoves with
    | failedToSend n st => exact Or.inl ⟨n, st, rfl⟩
    | mobileUnavailable st => exact Or.inr (Or.inl ⟨st, rfl⟩)
    | failedToConnect st _ hs =>
      obtain ⟨st', -, rfl⟩ := Option.map_eq_some_iff.mp hs
      simp at h
    | _ => simp at h
  | accepted g' i n type hstate hstate' => simp [hstate'] at h
  | acknowledged => simp at h
  | lastAcknowledged g' i n st ticks s hstate hrun hdone hstate' => simp [hstate'] at h
  | faulted => simp at h
  | formatted g' st seconds hstate hstate' =>
    rw [hstate'] at h
    cases htrying : st.isTryingMobileNetwork <;> simp [htrying] at h
  | retried => simp at h
  | responded g' n st recvs hstate => exact Or.inl ⟨n, st, hstate⟩
  | recvFailed g' n st recvs hstate => exact Or.inl ⟨n, st, hstate⟩
  | exchanging => simp at h
  | unconfirmed g' modem sent hstate => exact Or.inr (Or.inr hstate)
  | confirmed g' modem reply hstate => exact Or.inr (Or.inr hstate)

/-- A cycle ends after one of the three ends of a transmission. -/
theorem call_ends {i : Call φ} (h : .changeState .sensingBatteryStatus ∈ (call E g i).2) :
    EndsCycle g i := by
  cases i with
  | exchangeMessagesThroughEthernet s =>
    dsimp only [call] at h
    split at h
    · next n st hst => exact ⟨n, st, hst, attempt_ends h⟩
    · simp at h
  | connectToMobileNetwork status =>
    dsimp only [call] at h
    split at h
    · next st hst =>
      unfold Gateway.connectToMobileNetwork at h
      split at h
      · simp [Gateway.changeState] at h
      split at h
      · next hconnected hgivenUp => exact ⟨⟨st, hst⟩, hconnected, hgivenUp⟩
      · simp at h
    · simp at h
  | exchangeMessages line expired =>
    dsimp only [call] at h
    split at h
    · next hst =>
      refine ⟨hst, ?_⟩
      unfold Gateway.exchangeMessages at h
      dsimp only at h
      by_cases hok : (g.exchangeWithModem line expired).status = .sendOk
      · rw [hok]
        exact ⟨nofun, nofun⟩
      rw [if_neg hok] at h
      split at h
      · next hended => exact hended
      · simp at h
    · simp at h
  | _ =>
    -- any other call finds the base state there, which does nothing
    rcases sensing_from h with ⟨n, st, hst⟩ | ⟨st, hst⟩ | hst <;> simp [call, hst] at h

/-- **Where the status matches, a call relays as it should.** -/
theorem call_relays (h : StatusMatches type g.currentState) (i : Call φ) :
    Relays type g i (call E g i) where
  fails := call_fails h
  attempts := by
    rintro n st s hst rfl
    exact call_attempts h hst s
  formats m hm := call_formats i hm
  ends := call_ends

end Calls

/-! ## The result -/

/-- **In every reachable state the status matches the state, and every call relays as it should**:
    whatever the radio, the socket, the modem and the clock do, in whatever order. -/
theorem relay_invariant (E : Platform φ) (recepted : Recepted φ) (RSSI : Int)
    (position : GNSSData φ) (startTime : UInt64) (is : List (Call φ)) :
    let c := run (call E) ⟨.initial recepted RSSI position startTime, []⟩ is
    StatusMatches (lastAccepted c.trace) c.state.currentState ∧
      ∀ i, Relays (lastAccepted c.trace) c.state i (call E c.state i) := by
  intro c
  have hmatches : StatusMatches (lastAccepted c.trace) c.state.currentState :=
    statusMatches_run (c := ⟨.initial recepted RSSI position startTime, []⟩) trivial is
  exact ⟨hmatches, fun i => call_relays hmatches i⟩

/-- A run of `update` that has come to the mobile network, with the status of its message. -/
theorem relay_invariant_failsOver :
    let c := run (update .reference) ⟨.initial nothingRecepted 0 origin 0, []⟩ failsOver
    c.state.currentState =
        .connectingToMobileNetwork .receptedLoraLoraMessageTryingMobileNetwork ∧
      lastAccepted c.trace = some .loraLora ∧
      StatusMatches (lastAccepted c.trace) c.state.currentState ∧
        ∀ i, Relays (lastAccepted c.trace) c.state i (call .reference c.state i) := by
  refine ⟨by decide +kernel, by decide +kernel, ?_⟩
  rw [run_update]
  exact relay_invariant .reference nothingRecepted 0 origin 0 (failsOver.flatMap Surroundings.calls)

end GatewayLoRa
