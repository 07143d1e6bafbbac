/-
  What ONE CALL of `connect` does to the connection, said once.

  1. **The order** (`bringUp`) — the states of a bring-up, each as it is entered.

  2. **What a step asks** (`commands`, `inquiry`) — the commands that a step sends, and, for the six
     steps that wait for information, which line they take for it.

  3. **One call** (`advances_connect`) — it sends the commands of its step or none, and enters the
     next state or none; it goes on only on `OK`, and then only with its information.

  The crux is that the ten states are instances of four shapes, which the source repeats with other
  names and numbers: it waits for `OK` (`awaitOK`), asks for something and then waits for `OK`
  (`ask`), looks at its timer (`refresh`), or changes the state (`changes`).  There is one lemma for
  each shape, and `advances_connect` goes through the states.  The three whose bodies differ from
  the shapes (the signal strength, the SIM card, the network status) are proved on their own.
-/

import GatewayLoRa.ConnectionState

namespace GatewayLoRa

open CMemory

/-! ## The order of the steps

  The order is written down once, as a list; `position` is where a state stands in it. -/

/-- The states of a full bring-up, each as it is entered. -/
def bringUp : List ConnectionState :=
  [.idleState true 0, .checkingSignalStrength .initial 0, .consultingIMEI .initial,
    .consultingSIMCardStatus .initial, .consultingNetworkStatus .initial,
    .consultingAvailableOperators .initial, .retrievingTimeAndDate .initial,
    .attachingToPacketService true 0, .definePDPContext true 0, .connectedState]

/-- How many of them an attempt has entered that is in this state. -/
def ConnectionState.position : ConnectionState → Nat
  | .connectionUnavailableState => 0
  | .idleState .. => 1
  | .checkingSignalStrength .. => 2
  | .consultingIMEI _ => 3
  | .consultingSIMCardStatus _ => 4
  | .consultingNetworkStatus _ => 5
  | .consultingAvailableOperators _ => 6
  | .retrievingTimeAndDate _ => 7
  | .attachingToPacketService .. => 8
  | .definePDPContext .. => 9
  | .connectedState => 10

/-- The states stand where the list has them. -/
theorem position_bringUp {k : Nat} {s : ConnectionState} (h : bringUp[k]? = some s) :
    s.position = k + 1 := by
  match k, h with
  | 0, h | 1, h | 2, h | 3, h | 4, h | 5, h | 6, h | 7, h | 8, h | 9, h =>
    obtain rfl := Option.some.inj h
    rfl

/-! ## What a step asks

  Each inquiry is the command and the test of the source for its answer.  The test is the source's
  own parser, so which lines are taken is not stated a second time. -/

/-- A command that asks for information, and the lines that are taken for it. -/
structure Inquiry where
  command : Bytes
  takes : Bytes → Bool

/-- The quality of the signal, -/
def CheckingSignalStrength.inquiry : Inquiry :=
  ⟨ascii "AT+CSQ", fun l => (checkExpectedResponse l).isSome⟩

/-- the number of the device, -/
def ConsultingIMEI.inquiry : Inquiry :=
  ⟨ascii "AT+CGSN", fun l => (RetrivIMEI l).isSome⟩

/-- whether the SIM card is ready, -/
def ConsultingSIMCardStatus.inquiry : Inquiry :=
  ⟨ascii "AT+CPIN?", fun l => l = ascii "+CPIN: READY"⟩

/-- the cell the modem is registered in, -/
def ConsultingNetworkStatus.inquiry : Inquiry :=
  ⟨ascii "AT+CREG?", fun l => (retrivIdCellData l).isSome⟩

/-- the operator and the band, -/
def ConsultingAvailableOperators.inquiry : Inquiry :=
  ⟨ascii "AT+QNWINFO", fun l => (retrivOperatorsInformation l).isSome⟩

/-- and the time. -/
def RetrievingTimeAndDate.inquiry : Inquiry :=
  ⟨ascii "AT+QLTS=1", fun l => (retrieveNetworkTime l).isSome⟩

/-- What the steps that wait for information ask. -/
def inquiries : List Inquiry :=
  [CheckingSignalStrength.inquiry, ConsultingIMEI.inquiry, ConsultingSIMCardStatus.inquiry,
    ConsultingNetworkStatus.inquiry, ConsultingAvailableOperators.inquiry,
    RetrievingTimeAndDate.inquiry]

/-- What the step at a position asks; a step that waits for `OK` alone asks nothing. -/
def inquiryAt : Nat → Option Inquiry
  | 2 => some CheckingSignalStrength.inquiry
  | 3 => some ConsultingIMEI.inquiry
  | 4 => some ConsultingSIMCardStatus.inquiry
  | 5 => some ConsultingNetworkStatus.inquiry
  | 6 => some ConsultingAvailableOperators.inquiry
  | 7 => some RetrievingTimeAndDate.inquiry
  | _ => none

/-- The commands of the step at a position, in the order in which it sends them. -/
def commandsAt : Nat → List Bytes
  | 1 => [ascii "ATI"]
  | 2 => [ascii "AT+CSQ"]
  | 3 => [ascii "AT+CGSN"]
  | 4 => [ascii "AT+CPIN?"]
  | 5 => [ascii "AT+CREG=2", ascii "AT+CREG?"]
  | 6 => [ascii "AT+QNWINFO"]
  | 7 => [ascii "AT+QLTS=1"]
  | 8 => [ascii "AT+CGATT=1"]
  | 9 => [ascii "AT+CGDCONT=1,\"IP\",\"internet.movil\""]
  | _ => []

namespace ConnectionState

/-- What the step asks. -/
def inquiry (s : ConnectionState) : Option Inquiry := inquiryAt s.position

/-- The commands of the step. -/
def commands (s : ConnectionState) : List Bytes := commandsAt s.position

/-- The flag of a step that its information has been retrieved. -/
def hasRetrived : ConnectionState → Bool
  | checkingSignalStrength a _ => a.retrived.isSome
  | consultingIMEI a => a.retrived.isSome
  | consultingSIMCardStatus a => a.retrived.isSome
  | consultingNetworkStatus a => a.retrived.isSome
  | consultingAvailableOperators a => a.retrived.isSome
  | retrievingTimeAndDate a => a.retrived.isSome
  | _ => false

end ConnectionState

/-! ## What events say

  A result about a bring-up is about two lists: the states that were entered and the commands that
  were sent. -/

/-- The state that an event of the connection enters. -/
def ConnectionEvent.entered : ConnectionEvent → Option ConnectionState
  | .changeConnectionState s => some s
  | _ => none

/-- The command that an event of the connection sends. -/
def ConnectionEvent.sent : ConnectionEvent → Option Bytes
  | .command s => some s
  | _ => none

/-- The states that the connection entered. -/
def changes (es : List ConnectionEvent) : List ConnectionState :=
  es.filterMap ConnectionEvent.entered

/-- The commands that the connection sent. -/
def commandsSent (es : List ConnectionEvent) : List Bytes :=
  es.filterMap ConnectionEvent.sent

/-- Both lists are filtered, so they are appended with the events. -/
theorem changes_append (es es' : List ConnectionEvent) :
    changes (es ++ es') = changes es ++ changes es' :=
  List.filterMap_append

/-- The same for the commands. -/
theorem commandsSent_append (es es' : List ConnectionEvent) :
    commandsSent (es ++ es') = commandsSent es ++ commandsSent es' :=
  List.filterMap_append

/-! ## One call

  `Advances` is what is proved of every call, and what the runs of `MobileBringUp` use.  The lemmas
  before `advances_connect` are the shapes. -/

/-- **What a call of `connect` does**: it enters no state, or the next one, on `OK` and with its
    information; it reports a connection only in `ConnectedState`; it sends nothing, or the commands
    of its step; and what it retrieves it reads. -/
structure Advances (s : ConnectionState) (i : ATPoll) (r : ConnectionStep) : Prop where
  -- it stays, or goes on to the next state, and then `OK` was read and what was asked for is there
  moves : (changes r.events = [] ∧ r.state.position = s.position) ∨
    (changes r.events = [r.state] ∧ bringUp[s.position]? = some r.state ∧
      readATResponse 128 i.line = some okLine ∧ (s.inquiry.isSome = true → s.hasRetrived = true))
  connected : r.status = .connectedToNetwork → s = .connectedState
  sends : commandsSent r.events = [] ∨ commandsSent r.events = s.commands
  -- what a state has retrieved when it stays it had before, or reads in this call
  retrives : r.state.position = s.position → r.state.hasRetrived = true → s.hasRetrived = true ∨
    ∃ l ∈ readATResponse 128 i.line, ∃ q ∈ s.inquiry, q.takes l = true

/-- Events of a call that enters no state. -/
structure Stays (s : ConnectionState) (es : List ConnectionEvent) : Prop where
  enters : changes es = []
  sends : commandsSent es = [] ∨ commandsSent es = s.commands

section Advances

variable {s : ConnectionState} {i : ATPoll} {es : List ConnectionEvent}

/-- A call begins with the commands of its step, or none, and with the line that it reads. -/
theorem stays_begins (r : Bool) (line : Option Bytes) :
    Stays s (ConnectionEvent.begins r s.commands line) := by
  have hchanges (cs : List Bytes) : changes (cs.map .command) = [] := by
    induction cs with
    | nil => rfl
    | cons c cs ih => exact ih
  have hsent (cs : List Bytes) : commandsSent (cs.map .command) = cs := by
    induction cs with
    | nil => rfl
    | cons c cs ih => exact congrArg (c :: ·) ih
  have hread : changes (line.toList.map .read) = [] ∧ commandsSent (line.toList.map .read) = [] := by
    cases line <;> exact ⟨rfl, rfl⟩
  refine ⟨?_, ?_⟩
  · rw [ConnectionEvent.begins, changes_append, hread.1, List.append_nil]
    cases r with
    | false => rfl
    | true => exact hchanges s.commands
  · rw [ConnectionEvent.begins, commandsSent_append, hread.2, List.append_nil]
    cases r with
    | false => exact Or.inl rfl
    | true => exact Or.inr (hsent s.commands)

/-- Events that enter nothing and send nothing may follow. -/
theorem Stays.append {es' : List ConnectionEvent} (h : Stays s es) (henters : changes es' = [])
    (hsends : commandsSent es' = []) : Stays s (es ++ es') := by
  refine ⟨?_, ?_⟩
  · rw [changes_append, h.enters, henters]
    rfl
  · rw [commandsSent_append, hsends, List.append_nil]
    exact h.sends

/-- A call that goes on to the next state. -/
theorem Advances.of_changes {next : ConnectionState} (hes : Stays s es)
    (hnext : bringUp[s.position]? = some next) (hok : readATResponse 128 i.line = some okLine)
    (hretrived : s.inquiry.isSome = true → s.hasRetrived = true) :
    Advances s i (.changes next es) := by
  have hchanges : changes (es ++ [.changeConnectionState next]) = [next] := by
    rw [changes_append, hes.enters]
    rfl
  have hsent : commandsSent (es ++ [.changeConnectionState next]) = commandsSent es := by
    rw [commandsSent_append]
    exact List.append_nil _
  refine ⟨Or.inr ⟨hchanges, hnext, hok, hretrived⟩, nofun, ?_, fun hposition => ?_⟩
  · show commandsSent (es ++ [.changeConnectionState next]) = [] ∨
      commandsSent (es ++ [.changeConnectionState next]) = s.commands
    rw [hsent]
    exact hes.sends
  · have hmoved := position_bringUp hnext
    exact absurd (hposition.symm.trans hmoved) (Nat.ne_of_lt (Nat.lt_succ_self _))

/-- A call that stays. -/
theorem Advances.of_stays {st : ConnectionState} {status : CellularConnectionStatus}
    (hes : Stays s es) (hposition : st.position = s.position)
    (hretrived : st.hasRetrived = true → s.hasRetrived = true ∨
      ∃ l ∈ readATResponse 128 i.line, ∃ q ∈ s.inquiry, q.takes l = true)
    (hstatus : status ≠ .connectedToNetwork) : Advances s i ⟨st, es, status⟩ :=
  ⟨Or.inl ⟨hes.enters, hposition⟩, fun h => absurd h hstatus, hes.sends, fun _ => hretrived⟩

/-- A call that only looks at its timer stays too, in each of its three branches. -/
theorem Advances.of_refresh {maxAttempts attempts : Nat} {expired : Bool}
    {state : Bool → Nat → ConnectionState} {giveUp : CellularConnectionStatus}
    (hes : Stays s es) (hposition : ∀ b n, (state b n).position = s.position)
    (hretrived : ∀ b n, (state b n).hasRetrived = true → s.hasRetrived = true ∨
      ∃ l ∈ readATResponse 128 i.line, ∃ q ∈ s.inquiry, q.takes l = true)
    (hgiveUp : giveUp ≠ .connectedToNetwork) :
    Advances s i (refresh maxAttempts state giveUp attempts expired es) := by
  unfold refresh
  (repeat' split)
  · exact .of_stays hes (hposition _ _) (hretrived _ _) hgiveUp
  · exact .of_stays hes (hposition _ _) (hretrived _ _) nofun
  · exact .of_stays hes (hposition _ _) (hretrived _ _) nofun

/-- A step that waits for `OK` alone. -/
theorem advances_awaitOK {command : Bytes} {state : Bool → Nat → ConnectionState}
    {next : ConnectionState} {giveUp : CellularConnectionStatus} {r : Bool} {n : Nat}
    (hcommands : s.commands = [command]) (hinquiry : s.inquiry = none)
    (hnext : bringUp[s.position]? = some next) (hposition : ∀ b n, (state b n).position = s.position)
    (hretrived : ∀ b n, (state b n).hasRetrived = false) (hgiveUp : giveUp ≠ .connectedToNetwork) :
    Advances s i (awaitOK command state next giveUp r n i) := by
  unfold awaitOK
  rw [← hcommands]
  dsimp only
  split
  · next hok => exact .of_changes (stays_begins _ _) hnext hok fun h => by simp [hinquiry] at h
  · refine .of_refresh (stays_begins _ _) hposition (fun b n h => ?_) hgiveUp
    rw [hretrived] at h
    cases h

/-- What a line gives that a step retrieves, the step takes. -/
theorem takes_of_bind {δ : Type} {line : Option Bytes} {retriv : Bytes → Option δ}
    (h : (line.bind retriv).isSome = true) : ∃ l ∈ line, (retriv l).isSome = true := by
  cases line with
  | none => cases h
  | some l => exact ⟨l, rfl, h⟩

/-- A step that asks for something. -/
theorem advances_ask {δ : Type} {command : Bytes} {state : Asking δ → ConnectionState}
    {retriv : Bytes → Option δ} {stores : δ → List ConnectionEvent} {next : ConnectionState}
    {giveUp : CellularConnectionStatus} {keeps : Bool} {a : Asking δ}
    (hcommands : (state a).commands = [command])
    (hinquiry : (state a).inquiry = some ⟨command, fun l => (retriv l).isSome⟩)
    (hnext : bringUp[(state a).position]? = some next)
    (hposition : ∀ b, (state b).position = (state a).position)
    (hretrived : ∀ b, (state b).hasRetrived = b.retrived.isSome)
    (hstores : ∀ d, changes (stores d) = [] ∧ commandsSent (stores d) = [])
    (hgiveUp : giveUp ≠ .connectedToNetwork) :
    Advances (state a) i (ask command state retriv stores next giveUp keeps a i) := by
  unfold ask
  rw [← hcommands]
  dsimp only
  split
  · refine .of_refresh (stays_begins _ _) (fun _ _ => hposition _) (fun b n h => ?_) hgiveUp
    rw [hretrived] at h
    dsimp only at h
    split at h
    · cases h
    · obtain ⟨l, hl, htakes⟩ := takes_of_bind h
      exact Or.inr ⟨l, hl, _, hinquiry, htakes⟩
  next d hd =>
    have hhas : (state a).hasRetrived = true := by rw [hretrived, hd]; rfl
    split
    · next hok =>
      exact .of_changes ((stays_begins _ _).append (hstores d).1 (hstores d).2) hnext hok
        fun _ => hhas
    · exact .of_refresh (stays_begins _ _) (fun _ _ => hposition _) (fun _ _ _ => Or.inl hhas)
        hgiveUp

/-- What a step still has that it had retrieved, before or out of the line it reads. -/
theorem retrived_refresh {δ : Type} {retrived : Option δ} {expired : Bool} {R : Prop}
    (hretrived : retrived.isSome = true → R)
    (h : (if expired then none else retrived).isSome = true) : R := by
  split at h
  · cases h
  · exact hretrived h

/-- **Every call of `connect`** advances the connection so. -/
theorem advances_connect (s : ConnectionState) (i : ATPoll) : Advances s i (s.connect i) := by
  cases s with
  | connectionUnavailableState =>
    exact ⟨Or.inl ⟨rfl, rfl⟩, nofun, Or.inl rfl, fun _ h => by cases h⟩
  -- each of the states that are written out begins in the same way, and then reads its line
  | idleState r n =>
    have hbegins : Stays (.idleState r n)
        (ConnectionEvent.begins r [ascii "ATI"] (readATResponse 128 i.line)) := stays_begins _ _
    dsimp only [ConnectionState.connect, IdleState.connect]
    split
    · next hok => exact .of_changes hbegins rfl hok nofun
    split
    · refine .of_stays hbegins rfl nofun ?_
      split <;> nofun
    · exact .of_stays hbegins rfl nofun nofun
  | checkingSignalStrength a n =>
    have hbegins : Stays (.checkingSignalStrength a n) (ConnectionEvent.begins a.readyToSend
        [ascii "AT+CSQ"] (readATResponse 128 i.line)) := stays_begins _ _
    dsimp only [ConnectionState.connect, CheckingSignalStrength.connect]
    split
    · refine .of_refresh hbegins (fun _ _ => rfl) (fun _ _ => retrived_refresh fun h => ?_) nofun
      obtain ⟨l, hl, htakes⟩ := takes_of_bind h
      exact Or.inr ⟨l, hl, _, rfl, htakes⟩
    -- the level is known: `OK` goes on if it is good enough
    next signalLevel ha =>
      have hhas : (ConnectionState.checkingSignalStrength a n).hasRetrived = true :=
        congrArg Option.isSome ha
      split
      · next hok =>
        split
        · exact .of_changes (hbegins.append rfl rfl) rfl hok fun _ => hhas
        split
        · exact .of_stays hbegins rfl (fun _ => Or.inl hhas) nofun
        · exact .of_refresh hbegins (fun _ _ => rfl) (fun _ _ _ => Or.inl hhas) nofun
      · exact .of_refresh hbegins (fun _ _ => rfl) (fun _ _ _ => Or.inl hhas) nofun
  -- three states ask for something and wait for OK, two wait for OK alone
  | consultingIMEI a =>
    exact advances_ask rfl rfl rfl (fun _ => rfl) (fun _ => rfl) (fun _ => ⟨rfl, rfl⟩) nofun
  | consultingSIMCardStatus a =>
    have hbegins : Stays (.consultingSIMCardStatus a) (ConnectionEvent.begins a.readyToSend
        [ascii "AT+CPIN?"] (readATResponse 128 i.line)) := stays_begins _ _
    -- a step that gives up reboots the modem, and is where it was
    have hwait (retrived : Option Unit) (es : List ConnectionEvent)
        (hes : Stays (.consultingSIMCardStatus a) es)
        (hretrived : retrived.isSome = true →
          (ConnectionState.consultingSIMCardStatus a).hasRetrived = true ∨
            ∃ l ∈ readATResponse 128 i.line,
              ∃ q ∈ (ConnectionState.consultingSIMCardStatus a).inquiry, q.takes l = true) :
        let step := refresh 20 (fun expired n =>
          .consultingSIMCardStatus ⟨expired, if expired then none else retrived, n⟩)
          .invalidSim a.connectionAttempts i.expired es
        Advances (.consultingSIMCardStatus a) i
          (if step.status = .invalidSim then { step with events := step.events ++ [.reboot] }
            else step) := by
      intro step
      have hstep (es : List ConnectionEvent) (hes : Stays (.consultingSIMCardStatus a) es) :
          Advances (.consultingSIMCardStatus a) i (refresh 20 (fun expired n =>
            .consultingSIMCardStatus ⟨expired, if expired then none else retrived, n⟩)
            .invalidSim a.connectionAttempts i.expired es) :=
        .of_refresh hes (fun _ _ => rfl) (fun _ _ => retrived_refresh hretrived) nofun
      split
      · have hreboot := hstep (es ++ [.reboot]) (hes.append rfl rfl)
        have hevents : { step with events := step.events ++ [.reboot] } =
            refresh 20 (fun expired n =>
              .consultingSIMCardStatus ⟨expired, if expired then none else retrived, n⟩)
              .invalidSim a.connectionAttempts i.expired (es ++ [.reboot]) := by
          show ConnectionStep.mk _ _ _ = _
          dsimp only [step, refresh]
          (repeat' split) <;> rfl
        rw [hevents]
        exact hreboot
      · exact hstep es hes
    dsimp only [ConnectionState.connect, ConsultingSIMCardStatus.connect]
    split
    · refine hwait _ _ (hbegins.append ?_ ?_) fun h => ?_
      · split <;> rfl
      · split <;> rfl
      · obtain ⟨l, hl, htakes⟩ := takes_of_bind h
        refine Or.inr ⟨l, hl, _, rfl, ?_⟩
        split at htakes
        · next hready => exact decide_eq_true hready
        · cases htakes
    next ha =>
      have hhas : (ConnectionState.consultingSIMCardStatus a).hasRetrived = true :=
        congrArg Option.isSome ha
      split
      · next hok => exact .of_changes hbegins rfl hok fun _ => hhas
      · exact hwait _ _ hbegins fun _ => Or.inl hhas
  | consultingNetworkStatus a =>
    have hbegins : Stays (.consultingNetworkStatus a) (ConnectionEvent.begins a.readyToSend
        [ascii "AT+CREG=2", ascii "AT+CREG?"] (readATResponse 128 i.line)) := stays_begins _ _
    dsimp only [ConnectionState.connect, ConsultingNetworkStatus.connect]
    split
    · refine .of_refresh hbegins (fun _ _ => rfl) (fun _ _ => retrived_refresh fun h => ?_) nofun
      obtain ⟨l, hl, htakes⟩ := takes_of_bind h
      exact Or.inr ⟨l, hl, _, rfl, htakes⟩
    next d ha =>
      have hhas : (ConnectionState.consultingNetworkStatus a).hasRetrived = true :=
        congrArg Option.isSome ha
      split
      · next hok =>
        split
        · exact .of_changes (hbegins.append rfl rfl) rfl hok fun _ => hhas
        · exact .of_refresh (hbegins.append rfl rfl) (fun _ _ => rfl) (fun _ _ _ => Or.inl hhas)
            nofun
      · exact .of_refresh hbegins (fun _ _ => rfl) (fun _ _ _ => Or.inl hhas) nofun
  | consultingAvailableOperators a =>
    exact advances_ask rfl rfl rfl (fun _ => rfl) (fun _ => rfl) (fun _ => ⟨rfl, rfl⟩) nofun
  | retrievingTimeAndDate a =>
    exact advances_ask rfl rfl rfl (fun _ => rfl) (fun _ => rfl) (fun _ => ⟨rfl, rfl⟩) nofun
  | attachingToPacketService r n =>
    exact advances_awaitOK rfl rfl rfl (fun _ _ => rfl) (fun _ _ => rfl) nofun
  | definePDPContext r n =>
    exact advances_awaitOK rfl rfl rfl (fun _ _ => rfl) (fun _ _ => rfl) nofun
  | connectedState => exact ⟨Or.inl ⟨rfl, rfl⟩, fun _ => rfl, Or.inl rfl, fun _ h => by cases h⟩

end Advances

end GatewayLoRa
