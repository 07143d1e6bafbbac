/-
  The SYSTEM: the gateway together with the two machines of its modem that its calls drive.

  `Gateway` takes the status of a position search and of the connection as given.  Here they come
  from the machines themselves: `obtainGNSSPosition` enables the GNSS module and asks it for a
  position, `connectToMobileNetwork` enables the connection and takes one step of it, and a
  transmission that comes to its end resets the connection.  What is left open is what the modem
  sends, and when its timers run out.

  1. **Refinement** (`system_refines`) — what the gateway does in a run of the system, it does in a
     run of its own calls.

  2. **One call** (`call_changes`, `moduleTurningOff_other`) — how the state of the gateway changes,
     as far as the two machines depend on it.

  The crux is that the system adds no freedom to the gateway.  A status that a machine of the modem
  gives is one that the gateway could have been given as an argument; so every run of the system is
  a run of the gateway with more to be seen, and what is proved of the gateway for every run need
  not be proved again.  In the other direction there is nothing: the machines answer less than an
  argument could.
-/

import GatewayLoRa.GatewayCalls

namespace GatewayLoRa

open CMemory Machine

variable {φ : Type}

/-- The gateway, the state of the GNSS module, and the state of the connection. -/
structure System (φ : Type) where
  gateway : Gateway φ
  gnss : GeopositioningState
  connection : ConnectionState

/-- The system as the program starts. -/
def System.initial (recepted : Recepted φ) (RSSI : Int) (gatewayGNSSdata : GNSSData φ)
    (startTime : UInt64) : System φ :=
  ⟨.initial recepted RSSI gatewayGNSSdata startTime, .gnssUnavailable, .connectionUnavailableState⟩

/-- The calls whose statuses come from the machines of the modem. -/
def Call.asksModem : Call φ → Bool
  | .obtainGNSSPosition .. | .connectToMobileNetwork _ => true
  | _ => false

/-- One call of an update, with what it finds outside the system. -/
inductive SystemCall (φ : Type)
  | obtainGNSSPosition (turnedOff : Bool) (i : ATPoll)
  | connectToMobileNetwork (i : ATPoll)
  | other (c : Call φ) (hother : c.asksModem = false)

/-- What the system can be seen to do. -/
inductive SystemEvent
  | gateway (e : GatewayEvent)
  | gnss (e : GNSSEvent)
  | connection (e : ConnectionEvent)
  deriving DecidableEq

/-- What the gateway does. -/
def SystemEvent.ofGateway : SystemEvent → Option GatewayEvent
  | .gateway e => some e
  | _ => none

/-- A status with which a transmission comes to its end. -/
def GatewayEvent.endsTransmission : GatewayEvent → Bool
  | .modem (.status s) => s ≠ .tryningToSend && s ≠ .unavaible
  | _ => false

/-- A search for a position goes on. -/
def Gateway.isSearching (g : Gateway φ) : Bool :=
  g.currentState = .gettingGNSSPosition && !g.moduleTurningOff

variable (E : Platform φ)

/-- `GettingGNSSPosition::obtainGNSSPosition` with the GNSS module. -/
def System.obtainGNSSPosition (s : System φ) (turnedOff : Bool) (i : ATPoll) :
    System φ × List SystemEvent :=
  if s.gateway.isSearching then
    let (gnss, enabled) := s.gnss.enableGNSS
    let r := gnss.retrivGeopositioning E.floats s.gateway.gatewayGNSSdata i
    let (g, events) := call E s.gateway (.obtainGNSSPosition turnedOff r.status r.Geodata)
    ({ s with gateway := g, gnss := r.state },
      (enabled ++ r.events ++ [GNSSEvent.status r.status]).map .gnss ++ events.map .gateway)
  else
    -- the module is turned off, or this is not the state of the gateway
    let (g, events) := call E s.gateway
      (.obtainGNSSPosition turnedOff .disconnected s.gateway.gatewayGNSSdata)
    ({ s with gateway := g }, events.map .gateway)

/-- `ConnectingToMobileNetwork::connectToMobileNetwork` with the connection. -/
def System.connectToMobileNetwork (s : System φ) (i : ATPoll) : System φ × List SystemEvent :=
  match s.gateway.currentState with
  | .connectingToMobileNetwork _ =>
    let r := s.connection.enableAndConnect i
    let (g, events) := call E s.gateway (.connectToMobileNetwork r.status)
    ({ s with gateway := g, connection := r.state },
      r.events.map .connection ++ events.map .gateway)
  | _ => (s, [])

/-- **One call.**  `CellularModule::exchangeMessages` resets the connection when the transmission
    has come to its end. -/
def System.step (s : System φ) : SystemCall φ → System φ × List SystemEvent
  | .obtainGNSSPosition turnedOff i => s.obtainGNSSPosition E turnedOff i
  | .connectToMobileNetwork i => s.connectToMobileNetwork E i
  | .other c _ =>
    let (g, events) := call E s.gateway c
    if events.any GatewayEvent.endsTransmission then
      ({ s with gateway := g, connection := .connectionUnavailableState },
        .connection (.changeConnectionState .connectionUnavailableState) :: events.map .gateway)
    else ({ s with gateway := g }, events.map .gateway)

variable {E}

/-! ## Refinement

  A call at a time, and then by induction over the calls.  The gateway's calls that are not made
  (the state is another) are calls that would have done nothing. -/

/-- What the gateway does is seen of it, -/
theorem filterMap_gateway (es : List GatewayEvent) :
    (es.map SystemEvent.gateway).filterMap SystemEvent.ofGateway = es := by
  induction es with
  | nil => rfl
  | cons e es ih => exact congrArg (e :: ·) ih

/-- what the module does is not, -/
theorem filterMap_gnss (es : List GNSSEvent) :
    (es.map SystemEvent.gnss).filterMap SystemEvent.ofGateway = [] := by
  induction es with
  | nil => rfl
  | cons e es ih => exact ih

/-- nor what the connection does. -/
theorem filterMap_connection (es : List ConnectionEvent) :
    (es.map SystemEvent.connection).filterMap SystemEvent.ofGateway = [] := by
  induction es with
  | nil => rfl
  | cons e es ih => exact ih

/-- A call of the system is a call of the gateway, or nothing to it. -/
theorem step_refines (s : System φ) (i : SystemCall φ) :
    ∃ cs, run (call E) ⟨s.gateway, []⟩ cs =
      ⟨(s.step E i).1.gateway, (s.step E i).2.filterMap SystemEvent.ofGateway⟩ := by
  cases i with
  | obtainGNSSPosition turnedOff i =>
    dsimp only [System.step, System.obtainGNSSPosition]
    split
    · let r := s.gnss.enableGNSS.1.retrivGeopositioning E.floats s.gateway.gatewayGNSSdata i
      refine ⟨[.obtainGNSSPosition turnedOff r.status r.Geodata], ?_⟩
      rw [List.filterMap_append, filterMap_gnss, filterMap_gateway]
      rfl
    · refine ⟨[.obtainGNSSPosition turnedOff .disconnected s.gateway.gatewayGNSSdata], ?_⟩
      rw [filterMap_gateway]
      rfl
  | connectToMobileNetwork i =>
    dsimp only [System.step, System.connectToMobileNetwork]
    split
    · refine ⟨[.connectToMobileNetwork (s.connection.enableAndConnect i).status], ?_⟩
      rw [List.filterMap_append, filterMap_connection, filterMap_gateway]
      rfl
    · exact ⟨[], rfl⟩
  | other c hother =>
    refine ⟨[c], ?_⟩
    have hevents : ((call E s.gateway c).2.map SystemEvent.gateway).filterMap
        SystemEvent.ofGateway = (call E s.gateway c).2 :=
      filterMap_gateway _
    dsimp only [System.step]
    split
    · show _ = Config.mk _ (((call E s.gateway c).2.map SystemEvent.gateway).filterMap
        SystemEvent.ofGateway)
      rw [hevents]
      rfl
    · rw [hevents]
      rfl

/-- **Refinement**: what the gateway does in a run of the system, it does in a run of its calls. -/
theorem system_refines (s : System φ) (is : List (SystemCall φ)) :
    ∃ cs, run (call E) ⟨s.gateway, []⟩ cs =
      ⟨(run (System.step E) ⟨s, []⟩ is).state.gateway,
        (run (System.step E) ⟨s, []⟩ is).trace.filterMap SystemEvent.ofGateway⟩ := by
  refine run_induction (I := fun c : Config (System φ) SystemEvent =>
    ∃ cs, run (call E) ⟨s.gateway, []⟩ cs =
      ⟨c.state.gateway, c.trace.filterMap SystemEvent.ofGateway⟩) ⟨[], rfl⟩ ?_ is
  rintro c i ⟨cs, hcs⟩
  obtain ⟨more, hmore⟩ := step_refines (E := E) c.state i
  refine ⟨cs ++ more, ?_⟩
  rw [run_append, hcs, run_eq, hmore]
  simp [advance]

/-! ## How one call changes the state of the gateway

  Three properties of one call, as weak as they can be for what the machines of the modem need: that
  a change of state is told, that it is told last, and that two states are entered only from
  outside. -/

/-- The calls that go on to a position search, or to the mobile network, come from elsewhere. -/
structure Enters (s s' : GatewayState) : Prop where
  getting : s' = .gettingGNSSPosition → s = .sensingBatteryStatus
  connecting : ∀ st, s' = .connectingToMobileNetwork st →
    ∀ st', s ≠ .connectingToMobileNetwork st'

/-- What a call does to the state: it stays in it (a count of attempts apart) and says nothing, or
    changes it and says so last. -/
def StateChange (s s' : GatewayState) (es : List GatewayEvent) : Prop :=
  ((∀ x, .changeState x ∉ es) ∧ (s' = s ∨ ∃ n st, s = .sendingMessageThroughEthernet n st ∧
      s' = .sendingMessageThroughEthernet (n + 1) st)) ∨
    ∃ es', es = es' ++ [.changeState s'] ∧ (∀ x, .changeState x ∉ es') ∧ Enters s s'

/-- A change that is told. -/
theorem StateChange.announces {s s' : GatewayState} (es : List GatewayEvent)
    (hes : ∀ x, .changeState x ∉ es) (henters : Enters s s') :
    StateChange s s' (es ++ [.changeState s']) :=
  Or.inr ⟨es, rfl, hes, henters⟩

/-- The failing branch of Ethernet comes from outside the mobile network, -/
theorem failState_enters {s s' : GatewayState} {st : GatewayStatus} (hs' : failState st = some s')
    (hs : ∀ st', s ≠ .connectingToMobileNetwork st') : Enters s s' := by
  obtain ⟨st', -, rfl⟩ := Option.map_eq_some_iff.mp hs'
  exact ⟨nofun, fun _ _ => hs⟩

/-- and so does every other move. -/
theorem moves_enters {s s' : GatewayState} (h : Moves s s') : Enters s s' := by
  cases h with
  | failedToConnect st s hs => exact failState_enters hs nofun
  | failedToSend n st s hs => exact failState_enters hs nofun
  | measured => exact ⟨fun _ => rfl, nofun⟩
  | _ => exact ⟨nofun, nofun⟩

/-- Events of another kind change no state. -/
theorem changeState_not_mem_map {α : Type} {f : α → GatewayEvent} {es : List α}
    (hf : ∀ a x, f a ≠ .changeState x) : ∀ x, .changeState x ∉ es.map f := by
  intro x hx
  obtain ⟨a, -, ha⟩ := List.mem_map.mp hx
  exact hf a x ha

/-- `GettingGNSSPosition` answers no other call than its own. -/
theorem call_other_getting {g : Gateway φ} (hstate : g.currentState = .gettingGNSSPosition)
    {i : Call φ} (hother : i.asksModem = false) : call E g i = (g, []) := by
  cases i with
  | obtainGNSSPosition => cases hother
  | _ => simp only [call, hstate]

/-- The calls that do not ask the modem leave `moduleTurningOff` alone. -/
theorem moduleTurningOff_other (g : Gateway φ) {i : Call φ} (hother : i.asksModem = false) :
    (call E g i).1.moduleTurningOff = g.moduleTurningOff := by
  have hfail (st : GatewayStatus) (g' : Gateway φ) :
      (g'.failEthernet st).1.moduleTurningOff = g'.moduleTurningOff := by
    cases st <;> rfl
  cases i with
  | obtainGNSSPosition => cases hother
  | connectToMobileNetwork => cases hother
  | waitForMessage =>
    dsimp only [call, Gateway.waitForMessage]
    (repeat' split) <;> rfl
  | sendAcknowledgement =>
    dsimp only [call, Gateway.sendAcknowledgement]
    (repeat' split) <;> rfl
  | updatePowerStatus =>
    dsimp only [call, Gateway.updatePowerStatus]
    (repeat' split) <;> rfl
  | formatMessage =>
    dsimp only [call]
    split <;> rfl
  | exchangeMessages =>
    dsimp only [call, Gateway.exchangeMessages]
    (repeat' split) <;> rfl
  | connectEthernetToLocalNetwork =>
    dsimp only [call, Gateway.connectEthernetToLocalNetwork]
    split
    · split
      · exact hfail _ _
      · rfl
    · rfl
  | queryUTCTimeViaRemoteServer =>
    dsimp only [call]
    split <;> rfl
  | exchangeMessagesThroughEthernet =>
    dsimp only [call, Gateway.exchangeMessagesThroughEthernet]
    (repeat' split) <;> first
      | exact hfail _ _
      | rfl

/-- **How one call changes the state of the gateway.** -/
theorem call_changes (g : Gateway φ) (i : Call φ) :
    StateChange g.currentState (call E g i).1.currentState (call E g i).2 := by
  have heffect := call_effect (E := E) g i
  generalize call E g i = r at heffect
  -- one case for each kind of call that `RelayCycle` knows
  cases heffect with
  | quiet g' hstate hsame => exact Or.inl ⟨nofun, Or.inl hstate⟩
  | moved g' hmoves hsame => exact .announces [] nofun (moves_enters hmoves)
  | accepted g' i n type hstate hstate' hsame =>
    refine .announces [_] (fun x hx => ?_) ?_
    · cases List.mem_singleton.mp hx
    · rw [hstate']
      exact ⟨nofun, nofun⟩
  | acknowledged g' i n st ticks s hstate hrun hdone hstate' =>
    exact Or.inl ⟨changeState_not_mem_map nofun, Or.inl hstate'⟩
  | lastAcknowledged g' i n st ticks s hstate hrun hdone hstate' =>
    refine .announces _ (changeState_not_mem_map nofun) ?_
    rw [hstate']
    exact ⟨nofun, nofun⟩
  | faulted i n st ticks f hstate hrun =>
    refine Or.inl ⟨fun x hx => ?_, Or.inl rfl⟩
    cases List.mem_singleton.mp hx
  | formatted g' st seconds hstate hstate' =>
    refine .announces [_] (fun x hx => ?_) ?_
    · cases List.mem_singleton.mp hx
    · rw [hstate']
      split <;> exact ⟨nofun, nofun⟩
  | retried g' n st hstate hstate' hsame => exact Or.inl ⟨nofun, Or.inr ⟨_, _, hstate, hstate'⟩⟩
  | responded g' n st recvs hstate hrecv hstate' =>
    rw [← hstate']
    refine .announces [_] (fun x hx => ?_) ?_
    · cases List.mem_singleton.mp hx
    · rw [hstate']
      exact ⟨nofun, nofun⟩
  -- a failure is told only if the message is one that the mobile network takes
  | recvFailed g' n st recvs hstate hrecv hstate' =>
    cases hfail : failState st with
    | none =>
      refine Or.inl ⟨fun x hx => ?_, Or.inl ?_⟩
      · cases List.mem_singleton.mp hx
      · rw [hstate', hfail]
        rfl
    | some s =>
      have hs : g'.currentState = s := by
        rw [hstate', hfail]
        rfl
      rw [hs]
      refine .announces [_] (fun x hx => ?_) (failState_enters hfail ?_)
      · cases List.mem_singleton.mp hx
      · rw [hstate]
        nofun
  | exchanging g' modem hstate hstate' =>
    exact Or.inl ⟨changeState_not_mem_map nofun, Or.inl hstate'⟩
  -- the change comes behind what the modem did and what was sent
  | unconfirmed g' modem sent hstate hstate' hsent =>
    rw [← List.append_assoc, ← hstate']
    refine .announces _ (fun x hx => ?_) ?_
    · rcases List.mem_append.mp hx with hx | hx
      · exact changeState_not_mem_map nofun x hx
      · rcases hsent with rfl | ⟨reply, rfl, -⟩
        · cases hx
        · cases List.mem_singleton.mp hx
    · rw [hstate']
      exact ⟨nofun, nofun⟩
  | confirmed g' modem reply hstate hstate' =>
    rw [← hstate']
    have henters : Enters g.currentState g'.currentState := by
      rw [hstate']
      exact ⟨nofun, nofun⟩
    have hannounces := StateChange.announces (modem.map .modem ++ [.sent (some reply)]) (fun x hx => ?_)
      henters
    · rwa [List.append_assoc] at hannounces
    · rcases List.mem_append.mp hx with hx | hx
      · exact changeState_not_mem_map nofun x hx
      · cases List.mem_singleton.mp hx

/-- What the system does in a call that does not ask the modem. -/
theorem step_other (s : System φ) (i : Call φ) (hother : i.asksModem = false) :
    (System.step E s (.other i hother)).1.gateway = (call E s.gateway i).1 ∧
      (System.step E s (.other i hother)).1.gnss = s.gnss ∧
      ∃ es, (System.step E s (.other i hother)).2 = es ++ (call E s.gateway i).2.map .gateway ∧
        ∀ e, .gateway e ∉ es := by
  dsimp only [System.step]
  split
  · refine ⟨rfl, rfl, [_], rfl, fun e he => ?_⟩
    cases List.mem_singleton.mp he
  · exact ⟨rfl, rfl, [], rfl, fun e => List.not_mem_nil⟩

/-! ## An instance to evaluate

  A system, and a cycle in which the modem is silent, in two parts. -/

/-- The calls of a list that do not ask the modem. -/
def SystemCall.others (cs : List (Call φ)) : List (SystemCall φ) :=
  cs.filterMap fun c => if h : c.asksModem = false then some (.other c h) else none

/-- A system that starts. -/
def startedSystem : Config (System Int) SystemEvent :=
  ⟨.initial nothingRecepted 0 origin 0, []⟩

/-- The calls that send an acknowledgement from a tick on; all but the first need the fourth. -/
def acknowledgesFrom (start : UInt64) : List (Call Int) :=
  [(0, 100), (1100, 1100), (2100, 2100), (3100, 3100)].map fun (entry, later) =>
    let now := start + later
    .sendAcknowledgement ⟨start + entry, now, now, now, now⟩

/-- A cycle up to the mobile network: a search that gives up on a silent modem after the calls of
    `search`, a message that is accepted and acknowledged, and an Ethernet that fails. -/
def attemptBegins (search : List (SystemCall Int)) (start : UInt64) : List (SystemCall Int) :=
  SystemCall.others [.updatePowerStatus true] ++ search ++
    List.replicate 20 (.obtainGNSSPosition false ⟨none, true⟩) ++
    [.obtainGNSSPosition true ⟨none, false⟩] ++
    SystemCall.others (accepts.drop 3 ++ acknowledgesFrom start ++
      [.connectEthernetToLocalNetwork (-1)])

/-- The rest of it on a modem that stays silent: the connection gives up too. -/
def attemptFails : List (SystemCall Int) :=
  List.replicate 20 (.connectToMobileNetwork ⟨none, true⟩)

end GatewayLoRa
