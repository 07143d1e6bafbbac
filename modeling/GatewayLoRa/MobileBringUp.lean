/-
  Does every mobile attempt bring the connection up from the beginning?

  `ConnectingToMobileNetwork` enables the connection and steps it until it is connected, or until a
  step gives up.  The connection is an object of the cellular module and outlives the attempt.  It
  is set back to `ConnectionUnavailableState` where a transmission comes to its end; where a step
  gives up, and where the modem loses its power, it is not.  So the attempt after one that gave up
  begins in the middle.

  1. **One step** (`changes_enableAndConnect`) — a call stays in its step, or goes on to the next
     one; only `ConnectedState` reports a connection.

  2. **The invariant** (`BroughtUp`) — an attempt that began in `ConnectionUnavailableState` has gone
     through the steps up to the one it is in.

  3. **The result** (`full_bring_up`) — in every run in which each attempt begins in
     `ConnectionUnavailableState`, each attempt that connects went through all of them.

  The crux is that the state of the connection already says how far the attempt has come, if it
  began at the beginning.  `bringUp` is the list of all states in order and `position` a place in
  it; the invariant is that the states entered since the attempt began are the first `position` of
  the list.  A call adds the next one or none, by `ConnectionSteps`.  Where the attempt begins
  somewhere else, the invariant is false from its first call on, and no other part of the proof
  would save it.
-/

import GatewayLoRa.ConnectionSteps
import GatewayLoRa.System

namespace GatewayLoRa

open CMemory Machine

variable {φ : Type} {E : Platform φ}

/-! ## An attempt

  What an attempt is, and when it has connected, as properties of the trace and of the state of the
  gateway. -/

/-- The gateway is connecting to the mobile network, -/
def GatewayState.isConnecting : GatewayState → Bool
  | .connectingToMobileNetwork _ => true
  | _ => false

/-- or formatting its message, which comes next. -/
def GatewayState.isFormatting : GatewayState → Bool
  | .formattingMessage _ => true
  | _ => false

/-- The gateway enters `ConnectingToMobileNetwork`. -/
def SystemEvent.entersConnecting : SystemEvent → Bool
  | .gateway (.changeState s) => s.isConnecting
  | _ => false

/-- The state that the connection enters. -/
def SystemEvent.connectionEntered : SystemEvent → Option ConnectionState
  | .connection e => e.entered
  | _ => none

/-- The states that the connection entered since the attempt began. -/
def changesSince (trace : List SystemEvent) : List ConnectionState :=
  (since SystemEvent.entersConnecting trace).filterMap SystemEvent.connectionEntered

/-- **A full bring-up**: when a call takes the gateway from `ConnectingToMobileNetwork` to
    `FormattingMessage`, the connection went through all states since the attempt began. -/
def FullBringUp (E : Platform φ) (c : Config (System φ) SystemEvent) (i : SystemCall φ) : Prop :=
  c.state.gateway.currentState.isConnecting = true →
    (c.state.step E i).1.gateway.currentState.isFormatting = true →
      changesSince (c.trace ++ (c.state.step E i).2) = bringUp

/-- When an attempt begins, the connection is in `ConnectionUnavailableState`. -/
def BeginsUnavailable (E : Platform φ) (c : Config (System φ) SystemEvent) (i : SystemCall φ) :
    Prop :=
  c.state.gateway.currentState.isConnecting = false →
    (c.state.step E i).1.gateway.currentState.isConnecting = true →
      c.state.connection = .connectionUnavailableState

/-- **The invariant**: an attempt has entered the states up to the one it is in. -/
def BroughtUp (c : Config (System φ) SystemEvent) : Prop :=
  c.state.gateway.currentState.isConnecting = true →
    changesSince c.trace = bringUp.take c.state.connection.position

/-- What a call of `connectToMobileNetwork` enters, after the states that were entered before. -/
theorem changes_enableAndConnect (s : ConnectionState) (i : ATPoll) :
    bringUp.take s.position ++ changes (s.enableAndConnect i).events =
      bringUp.take (s.enableAndConnect i).state.position := by
  have hconnect (s : ConnectionState) : bringUp.take s.position ++ changes (s.connect i).events =
      bringUp.take (s.connect i).state.position := by
    rcases (advances_connect s i).moves with ⟨hnone, hstays⟩ | ⟨hone, hnext, -, -⟩
    · rw [hnone, hstays, List.append_nil]
    · rw [hone, position_bringUp hnext, List.take_add_one, hnext]
      rfl
  have hstatus (es : List ConnectionEvent) (st : CellularConnectionStatus) :
      changes (es ++ [.status st]) = changes es := by
    rw [changes_append]
    exact List.append_nil _
  -- enabling enters the first state, and only from `ConnectionUnavailableState`
  cases s with
  | connectionUnavailableState =>
    show [] ++ changes ([.changeConnectionState (.idleState true 0)] ++ _ ++ [.status _]) = _
    rw [hstatus, changes_append]
    exact hconnect (.idleState true 0)
  | _ =>
    show _ ++ changes ([] ++ _ ++ [.status _]) = _
    rw [hstatus]
    exact hconnect _

/-- Only `ConnectedState` reports a connection. -/
theorem connected_enableAndConnect {s : ConnectionState} {i : ATPoll}
    (h : (s.enableAndConnect i).status = .connectedToNetwork) : s = .connectedState := by
  cases s with
  | connectionUnavailableState => cases (advances_connect (.idleState true 0) i).connected h
  | _ => exact (advances_connect _ i).connected h

/-! ## One call of the system

  Two lemmas: while an attempt goes on, and when it begins. -/

/-- While an attempt goes on, only its own call does something. -/
theorem step_connecting {s : System φ} (h : s.gateway.currentState.isConnecting = true)
    (i : SystemCall φ) :
    System.step E s i = (s, []) ∨
      ∃ (p : ATPoll) (es : List GatewayEvent), i = .connectToMobileNetwork p ∧
        (System.step E s i).2 =
          (s.connection.enableAndConnect p).events.map .connection ++ es.map .gateway ∧
        (∀ x, .changeState x ∈ es → x.isConnecting = false) ∧
        (System.step E s i).1.connection = (s.connection.enableAndConnect p).state ∧
        ((System.step E s i).1.gateway.currentState.isFormatting = true →
          (s.connection.enableAndConnect p).status = .connectedToNetwork) := by
  obtain ⟨st, hst⟩ : ∃ st, s.gateway.currentState = .connectingToMobileNetwork st := by
    cases hs : s.gateway.currentState with
    | connectingToMobileNetwork st => exact ⟨st, rfl⟩
    | _ =>
      rw [hs] at h
      cases h
  -- in this state the gateway answers one call only, and that is the connection's
  cases i with
  | obtainGNSSPosition turnedOff i =>
    apply Or.inl
    simp [System.step, System.obtainGNSSPosition, Gateway.isSearching, hst, call]
  | other c hother =>
    apply Or.inl
    have hcall : call E s.gateway c = (s.gateway, []) := by
      cases c with
      | connectToMobileNetwork => cases hother
      | _ => simp only [call, hst]
    simp only [System.step, hcall]
    rfl
  | connectToMobileNetwork p =>
    apply Or.inr
    let r := s.connection.enableAndConnect p
    let g := s.gateway.connectToMobileNetwork st r.status
    have hstep : System.step E s (.connectToMobileNetwork p) =
        ({ s with gateway := g.1, connection := r.state },
          r.events.map .connection ++ g.2.map .gateway) := by
      simp only [System.step, System.connectToMobileNetwork, hst, call]
      rfl
    rw [hstep]
    -- the gateway leaves the state with the status of the connection, and formats only when it is
    -- connected
    have hgateway : (∀ x, .changeState x ∈ g.2 → x.isConnecting = false) ∧
        (g.1.currentState.isFormatting = true → r.status = .connectedToNetwork) := by
      show (∀ x, .changeState x ∈ (s.gateway.connectToMobileNetwork st r.status).2 → _) ∧
        ((s.gateway.connectToMobileNetwork st r.status).1.currentState.isFormatting = true → _)
      unfold Gateway.connectToMobileNetwork
      split
      · next hconnected =>
        refine ⟨fun x hx => ?_, fun _ => hconnected⟩
        obtain rfl := GatewayEvent.changeState.inj (List.mem_singleton.mp hx)
        rfl
      split
      · refine ⟨fun x hx => ?_, fun hformatting => by cases hformatting⟩
        obtain rfl := GatewayEvent.changeState.inj (List.mem_singleton.mp hx)
        rfl
      · refine ⟨fun x hx => absurd hx List.not_mem_nil, fun hformatting => ?_⟩
        rw [hst] at hformatting
        cases hformatting
    exact ⟨p, g.2, rfl, rfl, hgateway.1, rfl, hgateway.2⟩

/-- An attempt begins with a change of state, the last that the call does. -/
theorem step_begins {s : System φ} (h : s.gateway.currentState.isConnecting = false)
    {i : SystemCall φ}
    (h' : (System.step E s i).1.gateway.currentState.isConnecting = true) :
    (∃ es x, (System.step E s i).2 = es ++ [SystemEvent.gateway (.changeState x)] ∧
        x.isConnecting = true) ∧
      ((System.step E s i).1.connection = s.connection ∨
        (System.step E s i).1.connection = .connectionUnavailableState) := by
  -- the mobile network comes after Ethernet, so it is entered in a call that does not ask the modem
  cases i with
  | connectToMobileNetwork p =>
    cases hs : s.gateway.currentState with
    | connectingToMobileNetwork st =>
      rw [hs] at h
      cases h
    | _ =>
      simp only [System.step, System.connectToMobileNetwork, hs] at h'
      cases h'
  | obtainGNSSPosition turnedOff p =>
    have hcall (status : GNSSState) (position : GNSSData φ) :
        (call E s.gateway (.obtainGNSSPosition turnedOff status
          position)).1.currentState.isConnecting = false := by
      dsimp only [call, Gateway.obtainGNSSPosition]
      split
      · split
        · split
          · rfl
          · exact h
        · exact h
      · exact h
    have hnot : (System.step E s
        (.obtainGNSSPosition turnedOff p)).1.gateway.currentState.isConnecting = false := by
      dsimp only [System.step, System.obtainGNSSPosition]
      split <;> exact hcall _ _
    rw [hnot] at h'
    cases h'
  | other c hother =>
    obtain ⟨hgateway, -, es, hes, -⟩ := step_other (E := E) s c hother
    rw [hgateway] at h'
    constructor
    · rcases call_changes (E := E) s.gateway c with ⟨-, hsame | ⟨n, st, -, hsame⟩⟩ |
        ⟨es', heq, -, -⟩
      · rw [hsame, h] at h'
        cases h'
      · rw [hsame] at h'
        cases h'
      · refine ⟨es ++ es'.map .gateway, _, ?_, h'⟩
        rw [hes, heq, List.map_append, List.append_assoc]
        rfl
    · dsimp only [System.step]
      split
      · exact Or.inr rfl
      · exact Or.inl rfl

/-! ## The run

  The list grows while an attempt goes on, and is empty when one begins. -/

/-- What a call of an attempt enters, comes after what was entered before. -/
theorem changesSince_append {t : List SystemEvent} {es : List ConnectionEvent}
    {gs : List GatewayEvent} (hgs : ∀ x, .changeState x ∈ gs → x.isConnecting = false) :
    changesSince (t ++ (es.map .connection ++ gs.map .gateway)) = changesSince t ++ changes es := by
  have hsince : ∀ e ∈ es.map SystemEvent.connection ++ gs.map SystemEvent.gateway,
      e.entersConnecting = false := by
    intro e he
    rcases List.mem_append.mp he with he | he
    · obtain ⟨x, -, rfl⟩ := List.mem_map.mp he
      rfl
    · obtain ⟨x, hx, rfl⟩ := List.mem_map.mp he
      cases x with
      | changeState s => exact hgs s hx
      | _ => rfl
  have hconnection (es : List ConnectionEvent) :
      (es.map SystemEvent.connection).filterMap SystemEvent.connectionEntered = changes es := by
    rw [changes, List.filterMap_map]
    rfl
  have hgateway (gs : List GatewayEvent) :
      (gs.map SystemEvent.gateway).filterMap SystemEvent.connectionEntered = [] := by
    induction gs with
    | nil => rfl
    | cons g gs ih => exact ih
  rw [changesSince, since_append hsince, List.filterMap_append, List.filterMap_append, hconnection,
    hgateway, List.append_nil]
  rfl

/-- **One call keeps the invariant**, and an attempt that connects in it is a full one. -/
theorem broughtUp_advance {c : Config (System φ) SystemEvent} {i : SystemCall φ}
    (hbegins : BeginsUnavailable E c i) (h : BroughtUp c) :
    FullBringUp E c i ∧ BroughtUp (advance (System.step E) c i) := by
  cases hconnecting : c.state.gateway.currentState.isConnecting with
  | true =>
    have hsince := h hconnecting
    rcases step_connecting (E := E) hconnecting i with hnothing | ⟨p, gs, rfl, hevents, hgs,
      hconnection, hformatting⟩
    · constructor
      · intro _ hafter
        rw [hnothing] at hafter
        cases hs : c.state.gateway.currentState with
        | connectingToMobileNetwork st =>
          rw [hs] at hafter
          cases hafter
        | _ =>
          rw [hs] at hconnecting
          cases hconnecting
      · have hadvance : advance (System.step E) c i = c := by
          simp only [advance, hnothing, List.append_nil]
        rw [hadvance]
        exact h
    · have hentered : changesSince (c.trace ++ (System.step E c.state
            (.connectToMobileNetwork p)).2) =
          bringUp.take (c.state.connection.enableAndConnect p).state.position := by
        rw [hevents, changesSince_append hgs, hsince, changes_enableAndConnect]
      constructor
      · intro _ hafter
        have hconnected := connected_enableAndConnect (hformatting hafter)
        rw [hentered, hconnected]
        rfl
      · intro _
        show changesSince (c.trace ++ (System.step E c.state _).2) =
          bringUp.take (System.step E c.state _).1.connection.position
        rw [hentered, hconnection]
  | false =>
    refine ⟨fun htrue => absurd (hconnecting.symm.trans htrue) Bool.false_ne_true, fun hafter => ?_⟩
    obtain ⟨⟨es, x, hevents, hx⟩, hconnection⟩ := step_begins (E := E) hconnecting hafter
    -- the attempt has just begun
    have hposition : (System.step E c.state i).1.connection = .connectionUnavailableState := by
      rcases hconnection with hsame | hreset
      · rw [hsame]
        exact hbegins hconnecting hafter
      · exact hreset
    show changesSince (c.trace ++ (System.step E c.state i).2) =
      bringUp.take (System.step E c.state i).1.connection.position
    rw [hposition, hevents, ← List.append_assoc, changesSince, since_concat]
    show List.filterMap _ (if x.isConnecting = true then [] else _) = []
    rw [if_pos hx]
    rfl

/-- **The result**: in every run in which each attempt begins in `ConnectionUnavailableState`, each
    attempt that connects is a full bring-up. -/
theorem full_bring_up (E : Platform φ) (recepted : Recepted φ) (RSSI : Int)
    (gatewayGNSSdata : GNSSData φ) (startTime : UInt64) (is : List (SystemCall φ))
    (hbegins : Always (System.step E) (BeginsUnavailable E)
      ⟨.initial recepted RSSI gatewayGNSSdata startTime, []⟩ is) :
    Always (System.step E) (FullBringUp E)
      ⟨.initial recepted RSSI gatewayGNSSdata startTime, []⟩ is :=
  always_of (I := BroughtUp) (fun h => Bool.noConfusion h)
    (fun _ _ hbegins h => broughtUp_advance hbegins h) hbegins

instance (c : Config (System φ) SystemEvent) (i : SystemCall φ) :
    Decidable (BeginsUnavailable E c i) :=
  inferInstanceAs (Decidable (_ = false → _ = true → _ = _))

instance (c : Config (System φ) SystemEvent) (i : SystemCall φ) :
    Decidable (FullBringUp E c i) :=
  inferInstanceAs (Decidable (_ = true → _ = true → _ = _))

/-- The modem answers the connection with these lines, one each call. -/
def answers (lines : List String) : List (SystemCall Int) :=
  lines.map fun line => .connectToMobileNetwork ⟨some (ascii line), false⟩

/-- What it answers before the status of the network. -/
def beforeNetworkStatus : List (SystemCall Int) :=
  answers ["OK", "+CSQ: 20,99", "OK", "867698041234567", "OK", "+CPIN: READY", "OK"]

/-- What it answers from there on; the last call finds it connected. -/
def fromNetworkStatus : List (SystemCall Int) :=
  answers ["+CREG: 2,1,\"1A2B\",\"1C3D4E5\",7", "OK",
    "+QNWINFO: \"FDD LTE\",\"72207\",\"LTE BAND 4\",2175", "OK",
    "+QLTS: \"2025/01/02,03:04:05-12,0\"", "OK", "OK", "OK", "OK"]

/-- The first attempt, with a modem that answers: it connects. -/
theorem first_attempt_is_full :
    Always (System.step .reference) (FullBringUp .reference)
      ⟨.initial nothingRecepted 0 origin 0, []⟩
      (attemptBegins [] 0 ++ beforeNetworkStatus ++ fromNetworkStatus) :=
  full_bring_up .reference nothingRecepted 0 origin 0 _ (by decide +kernel)

/-- The first attempt gives up at the status of the network; the second finds it there. -/
def attemptsTwice : List (SystemCall Int) :=
  attemptBegins [] 0 ++ beforeNetworkStatus ++ attemptFails ++
    attemptBegins [.obtainGNSSPosition false ⟨some okLine, false⟩] 10000 ++
    fromNetworkStatus.take 8

/-- **An attempt resumes the one before**: it connects without the first five steps. -/
theorem second_attempt_resumes :
    ¬ Always (System.step .reference) (FullBringUp .reference) startedSystem
      (attemptsTwice ++ fromNetworkStatus.drop 8) := by
  intro h
  have hlast : FullBringUp .reference (run (System.step .reference) startedSystem attemptsTwice)
      (.connectToMobileNetwork ⟨some okLine, false⟩) :=
    (always_append.mp h).2.1
  revert hlast
  decide +kernel

end GatewayLoRa
