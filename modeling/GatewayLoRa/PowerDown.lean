/-
  Cutting the power of the modem: when it is the last resort it is meant to be.

  A SESSION is what `PowerONState::turnOff` does on one state object.  It asks the modem to power
  down (`AT+QPOWD`), repeats that when the timer runs out, and only when `MAX_TRIES` were in vain
  pulls the power-down pin.  Its counter and its two flags are `static`.  They are set back where
  the power was cut, and NOT where the modem answered `POWERED DOWN`; so the next session begins
  where that one stood, may cut the power at once, and may end without having asked.

  1. **Two promises** (`CutSound`, `EndSound`) — `turnOff` cuts the power only as a last resort, and a
     session that ends gracefully has asked for it.  They need different things of the statics: a cut
     needs a counter that has counted expiries of its own session (`CountsOwn`), an `AT+QPOWD` needs
     the flag with which the session begins (`BeginsReady`).

  2. **One call** (`turnOffCall_cut`, `turnOffCall_ends`) — what a call does to a session, whose
     invariants are `Asked` and that `AT+QPOWD` was sent.

  3. **The result** (`power_cut_is_last_resort`) — each promise is kept in every run whose calls meet
     its condition.

  The crux is `Asked`: a session sends `AT+QPOWD` at the latest in the call behind its first expiry,
  whatever it found in the statics; so of all its expiries at most one came before, and a counter
  that has run out with its own expiries has left the modem enough time.
-/

import GatewayLoRa.PowerManager

namespace GatewayLoRa

open CMemory Machine

/-! ## Sessions

  A session is cut out of the trace: what `turnOff` did since the last `PowerONState` was created.
  So the promises are about the past alone, and no ghost variable has to be carried along. -/

/-- A `PowerONState` object is created. -/
def PowerEvent.isPowerOn : PowerEvent → Bool
  | .changePowerState .powerOn => true
  | _ => false

/-- What `PowerONState::turnOff` did. -/
def PowerEvent.ofTurnOff : PowerEvent → Option TurnOffEvent
  | .turnOff .powerOn e => some e
  | _ => none

/-- What `turnOff` did on the current `PowerONState` object, or on the last one. -/
def turnOffSession (trace : List PowerEvent) : List TurnOffEvent :=
  (since PowerEvent.isPowerOn trace).filterMap PowerEvent.ofTurnOff

/-- `AT+QPOWD` was sent in the session. -/
def SentPowerDown (session : List TurnOffEvent) : Prop := .sent ∈ session

/-- In the session `AT+QPOWD` was sent, after that the timer ran out more than `MAX_TRIES` times, and
    no line `POWERED DOWN` was read. -/
def LastResort (session : List TurnOffEvent) : Prop :=
  ∃ before after, session = before ++ .sent :: after ∧ maxTries < after.count .expired ∧
    .read poweredDownLine ∉ session

/-- **The first promise**: `turnOff` cuts the power only as a last resort. -/
def CutSound (trace : List PowerEvent) : Prop :=
  PrecededBy (fun before => LastResort (turnOffSession before))
    (.turnOff .powerOn (.powerDownSignal false)) trace

/-- **The second promise**: a session that ends gracefully has asked for it. -/
def EndSound (trace : List PowerEvent) : Prop :=
  PrecededBy (fun before => SentPowerDown (turnOffSession before))
    (.turnOff .powerOn (.read poweredDownLine)) trace

/-- Both of them. -/
structure PowerDownSound (trace : List PowerEvent) : Prop where
  cut : CutSound trace
  graceful : EndSound trace

/-- A condition on the session and the statics that a call of `turnOff` finds. -/
def OnTurnOff (P : List TurnOffEvent → TurnOffStatics → Prop) (c : Config PowerManager PowerEvent) :
    PowerCall → Prop
  | .turnOff _ => P (turnOffSession c.trace) c.state.turnOff
  | _ => True

instance (P : List TurnOffEvent → TurnOffStatics → Prop) [∀ session s, Decidable (P session s)]
    (c : Config PowerManager PowerEvent) : (i : PowerCall) → Decidable (OnTurnOff P c i)
  | .turnOff _ => inferInstanceAs (Decidable (P _ _))
  | .startStopUpdate _ | .turnOn _ | .reboot _ | .goToSleep _ | .awake => isTrue trivial

/-- **What a cut needs**: a counter that has run out has counted expiries of its own session only.
    So it is in every session that begins with the counter at 0. -/
def CountsOwn (session : List TurnOffEvent) (s : TurnOffStatics) : Prop :=
  maxTries < s.retryCounter → s.retryCounter ≤ session.count .expired

/-- **What an `AT+QPOWD` needs**: a session that begins finds the flag set. -/
def BeginsReady (session : List TurnOffEvent) (s : TurnOffStatics) : Prop :=
  session = [] → s.readyToSend = true

instance (session : List TurnOffEvent) (s : TurnOffStatics) : Decidable (CountsOwn session s) :=
  inferInstanceAs (Decidable (_ → _))

instance (session : List TurnOffEvent) (s : TurnOffStatics) : Decidable (BeginsReady session s) :=
  inferInstanceAs (Decidable (_ → _))

/-! ## What a call does to the session

  Of the six methods, in four states, only one pair matters.  All the others are of one kind
  (`OtherCall`), with a lemma for each that has something to show. -/

/-- As long as no object is created, the session goes on. -/
theorem turnOffSession_append {t es : List PowerEvent}
    (h : ∀ e ∈ es, e.isPowerOn = false) :
    turnOffSession (t ++ es) = turnOffSession t ++ es.filterMap PowerEvent.ofTurnOff := by
  rw [turnOffSession, since_append h, List.filterMap_append, turnOffSession]

/-- **What a call does that is not the `turnOff` of a modem that is on**: it leaves the statics and
    the session alone, and a modem that is on afterwards was on before, or was just switched on. -/
structure OtherCall (m m' : PowerManager) (events : List PowerEvent) : Prop where
  turnOff : m'.turnOff = m.turnOff
  quiet : ∀ e, .turnOff .powerOn e ∉ events
  on : ∀ s', m'.currentPowerState = .powerON s' →
    ((∃ es, events = es ++ [.changePowerState .powerOn]) ∧ s'.turnOfWasCall = false) ∨
    (∃ s, m.currentPowerState = .powerON s ∧ s'.turnOfWasCall = s.turnOfWasCall ∧
      ∀ e ∈ events, e.isPowerOn = false)

/-- A call that does nothing at all. -/
theorem OtherCall.nothing (m : PowerManager) : OtherCall m m [] :=
  ⟨rfl, fun _ => List.not_mem_nil,
    fun s h => Or.inr ⟨s, h, rfl, fun _ he => absurd he List.not_mem_nil⟩⟩

/-- A call after which the modem is not on. -/
theorem OtherCall.of_off {m m' : PowerManager} {events : List PowerEvent}
    (hturnOff : m'.turnOff = m.turnOff) (hoff : ∀ s, m'.currentPowerState ≠ .powerON s)
    (hquiet : ∀ e, .turnOff .powerOn e ∉ events) : OtherCall m m' events :=
  ⟨hturnOff, hquiet, fun s h => absurd h (hoff s)⟩

/-- A call that creates a `PowerONState`. -/
theorem OtherCall.of_on {m m' : PowerManager} (es : List PowerEvent)
    (hturnOff : m'.turnOff = m.turnOff)
    (hon : m'.currentPowerState = .powerON ⟨false, false, false, false⟩)
    (hquiet : ∀ e, .turnOff .powerOn e ∉ es) :
    OtherCall m m' (es ++ [.changePowerState .powerOn]) := by
  refine ⟨hturnOff, fun e he => ?_, fun s' hs' => Or.inl ⟨⟨es, rfl⟩, ?_⟩⟩
  · rcases List.mem_append.mp he with he | he
    · exact hquiet e he
    · exact nomatch List.mem_singleton.mp he
  · obtain rfl := PowerState.powerON.inj (hon.symm.trans hs')
    rfl

/-- A call that leaves a modem on. -/
theorem OtherCall.of_kept {m m' : PowerManager} {events : List PowerEvent} {s s' : PowerONState}
    (hturnOff : m'.turnOff = m.turnOff) (hon : m.currentPowerState = .powerON s)
    (hon' : m'.currentPowerState = .powerON s') (hcall : s'.turnOfWasCall = s.turnOfWasCall)
    (hevents : ∀ e ∈ events, e.isPowerOn = false ∧ e.ofTurnOff = none) : OtherCall m m' events := by
  refine ⟨hturnOff, fun e he => ?_, fun s'' hs'' => Or.inr ⟨s, hon, ?_, fun e he => ?_⟩⟩
  · exact nomatch (hevents _ he).2
  · obtain rfl := PowerState.powerON.inj (hon'.symm.trans hs'')
    exact hcall
  · exact (hevents e he).1

/-- The button does not touch the flag of `turnOff`. -/
theorem turnOfWasCall_pressButton (s : PowerONState) (i : PowerPoll) :
    (s.pressButton i).1.turnOfWasCall = s.turnOfWasCall := by
  unfold PowerONState.pressButton
  dsimp only
  (repeat' split) <;> rfl

/-- `PowerOFFState::startStopUpdate` switches the modem on, or drives the KEY pin. -/
theorem otherCall_powerOFF {m : PowerManager} (i : PowerPoll) (h : m.currentPowerState = .powerOFF) :
    OtherCall m (PowerOFFState.startStopUpdate m i).manager
      (PowerOFFState.startStopUpdate m i).events := by
  unfold PowerOFFState.startStopUpdate
  split
  · exact .of_on [] rfl rfl fun _ => List.not_mem_nil
  · refine .of_off rfl (fun s hs => ?_) fun e he => ?_
    · exact nomatch h.symm.trans hs
    · simp at he

/-- `PowerONState::startStopUpdate` leaves the state, or drives the KEY pin. -/
theorem otherCall_powerON {m : PowerManager} {s : PowerONState} (i : PowerPoll)
    (h : m.currentPowerState = .powerON s) :
    OtherCall m (PowerONState.startStopUpdate m s i).manager
      (PowerONState.startStopUpdate m s i).events := by
  unfold PowerONState.startStopUpdate
  split
  · exact .nothing m
  · dsimp only
    split
    · split
      · refine .of_off rfl nofun fun e he => ?_
        simp [PowerManager.toPowerOFF] at he
      · refine .of_off rfl nofun fun e he => ?_
        simp [PowerManager.toManualPowerOFF] at he
    · refine .of_kept rfl h rfl (turnOfWasCall_pressButton s i) fun e he => ?_
      obtain ⟨b, -, rfl⟩ := List.mem_map.mp he
      exact ⟨rfl, rfl⟩

/-- The same of `ManualPowerOFFState`, -/
theorem otherCall_manualPowerOFF (m : PowerManager) (s : ManualPowerOFFState) (i : PowerPoll) :
    OtherCall m (ManualPowerOFFState.startStopUpdate m s i).manager
      (ManualPowerOFFState.startStopUpdate m s i).events := by
  unfold ManualPowerOFFState.startStopUpdate
  dsimp only
  split
  · exact .of_on [] rfl rfl fun _ => List.not_mem_nil
  · refine .of_off rfl nofun fun e he => ?_
    simp at he

/-- whose `turnOn` releases the power-down pin. -/
theorem otherCall_manualTurnOn {m : PowerManager} {s : ManualPowerOFFState} (i : PowerPoll)
    (h : m.currentPowerState = .manualPowerOFF s) :
    OtherCall m (ManualPowerOFFState.turnOn m i).manager (ManualPowerOFFState.turnOn m i).events := by
  unfold ManualPowerOFFState.turnOn
  split
  · exact .of_on [.powerDownSignal true] rfl rfl fun e he => nomatch List.mem_singleton.mp he
  · refine .of_off rfl (fun s hs => ?_) fun e he => ?_
    · exact nomatch h.symm.trans hs
    · dsimp only at he
      split at he <;> simp at he

/-- `SleepState::turnOff` is no event of a session: it has another object, and statics of its own.
    -/
theorem otherCall_sleepTurnOff {m : PowerManager} (i : PowerPoll)
    (h : m.currentPowerState = .sleep) :
    OtherCall m (SleepState.turnOff m i).manager (SleepState.turnOff m i).events := by
  unfold SleepState.turnOff
  dsimp only
  split
  · refine .of_off rfl nofun fun e he => ?_
    simp [PowerManager.toManualPowerOFF] at he
  · refine .of_off rfl (fun s hs => ?_) fun e he => ?_
    · exact nomatch h.symm.trans hs
    · simp at he

/-- `reboot` asks the modem to power down as well, but not as `turnOff` does. -/
theorem otherCall_reboot {m : PowerManager} {s : PowerONState} (i : PowerPoll)
    (h : m.currentPowerState = .powerON s) :
    OtherCall m (PowerONState.reboot m i).manager (PowerONState.reboot m i).events := by
  unfold PowerONState.reboot
  dsimp only
  split
  · refine .of_off rfl nofun fun e he => ?_
    rcases List.mem_append.mp he with he | he
    · split at he <;> simp at he
    · simp [PowerManager.toPowerOFF] at he
  · refine .of_kept rfl h h rfl fun e he => ?_
    split at he
    · obtain rfl := List.mem_singleton.mp he
      exact ⟨rfl, rfl⟩
    · exact absurd he List.not_mem_nil

/-- `goToSleep` has a command of its own. -/
theorem otherCall_goToSleep {m : PowerManager} {s : PowerONState} (i : PowerPoll)
    (h : m.currentPowerState = .powerON s) :
    OtherCall m (PowerONState.goToSleep m i).manager (PowerONState.goToSleep m i).events := by
  unfold PowerONState.goToSleep
  dsimp only
  split
  · refine .of_off rfl nofun fun e he => ?_
    rcases List.mem_append.mp he with he | he
    · split at he <;> simp at he
    · simp [PowerManager.toSleep] at he
  · refine .of_kept rfl h h rfl fun e he => ?_
    split at he
    · obtain rfl := List.mem_singleton.mp he
      exact ⟨rfl, rfl⟩
    · exact absurd he List.not_mem_nil

/-- **Every call but that one is of this kind.** -/
theorem otherCall_step (m : PowerManager) (i : PowerCall)
    (h : ∀ s p, m.currentPowerState = .powerON s → i ≠ .turnOff p) :
    OtherCall m (m.step i).1 (m.step i).2 := by
  cases i with
  | startStopUpdate p =>
    dsimp only [PowerManager.step, PowerManager.startStopUpdate]
    split
    · next hs => exact otherCall_powerOFF p hs
    · next hs => exact otherCall_powerON p hs
    · exact otherCall_manualPowerOFF m _ p
    · exact .nothing m
  | turnOn p =>
    dsimp only [PowerManager.step, PowerManager.turnOn]
    split
    · next hs => exact otherCall_powerOFF p hs
    · exact .nothing m
    · next hs => exact otherCall_manualTurnOn p hs
    · exact .of_on [.DTRSignal false] rfl rfl fun e he => nomatch List.mem_singleton.mp he
  | turnOff p =>
    dsimp only [PowerManager.step, PowerManager.turnOffUpdate]
    split
    · refine .of_off rfl nofun fun e he => ?_
      simp [PowerManager.toManualPowerOFF] at he
    · next s hs => exact absurd rfl (h s p hs)
    · next hs =>
      refine .of_off rfl (fun s hon => ?_) fun e he => nomatch List.mem_singleton.mp he
      exact nomatch hs.symm.trans hon
    · next hs => exact otherCall_sleepTurnOff p hs
  | reboot p =>
    dsimp only [PowerManager.step, PowerManager.reboot]
    split
    · next hs => exact otherCall_reboot p hs
    · exact .nothing m
  | goToSleep p =>
    dsimp only [PowerManager.step, PowerManager.goToSleep]
    split
    · next hs => exact otherCall_goToSleep p hs
    · exact .nothing m
    · exact .nothing m
  | awake =>
    dsimp only [PowerManager.step, PowerManager.awake]
    split
    · exact .of_on [.DTRSignal false] rfl rfl fun e he => nomatch List.mem_singleton.mp he
    · exact .nothing m

/-! ## One call

  What `turnOffCall` does is cut in three: what it asks, what it reads, what the timer makes of it.
  The promises are about the order of the three, and each is a fact about one of them. -/

/-- **The invariant of a session**: no `POWERED DOWN` was read, and of the expiries at most one came
    before an `AT+QPOWD`; after one expiry it may be that this is only going to be sent. -/
structure Asked (session : List TurnOffEvent) (s : TurnOffStatics) : Prop where
  unanswered : .read poweredDownLine ∉ session
  asked : session.count .expired = 0 ∨
    (session.count .expired = 1 ∧ s.readyToSend = true) ∨
    ∃ before after, session = before ++ .sent :: after ∧
      session.count .expired ≤ after.count .expired + 1

/-- A session that has not begun. -/
theorem asked_nil (s : TurnOffStatics) : Asked [] s := ⟨List.not_mem_nil, Or.inl rfl⟩

/-- What a call does before it looks at the line. -/
def asks (s : TurnOffStatics) : List TurnOffEvent :=
  .called :: if s.readyToSend then [.sent] else []

/-- The line that a call reads. -/
def reads (i : PowerPoll) : List TurnOffEvent := (i.line.map cstr).toList.map .read

/-- The call, with what it does first under these names. -/
theorem turnOffCall_eq (s : TurnOffStatics) (i : PowerPoll) :
    turnOffCall s i =
      if i.line.map cstr = some poweredDownLine then
        ({ s with readyToSend := false }, asks s ++ reads i, true)
      else if i.expired = false then ({ s with readyToSend := false }, asks s ++ reads i, false)
      else if s.retryCounter ≤ maxTries then
        ({ s with retryCounter := s.retryCounter + 1, readyToSend := true },
          asks s ++ reads i ++ [.expired], false)
      else if s.hardPowerOffUnderProcess = false then
        ({ s with readyToSend := false, hardPowerOffUnderProcess := true },
          asks s ++ reads i ++ [.expired, .powerDownSignal false], false)
      else (⟨true, false, 0⟩, asks s ++ reads i ++ [.expired, .powerDownSignal true], true) :=
  rfl

/-- To ask is to be called and to send, -/
theorem mem_asks {s : TurnOffStatics} {e : TurnOffEvent} (h : e ∈ asks s) :
    e = .called ∨ e = .sent := by
  unfold asks at h
  split at h
  · simpa using h
  · exact Or.inl (by simpa using h)

/-- and to read is to read the line there is; -/
theorem mem_reads {i : PowerPoll} {e : TurnOffEvent} (h : e ∈ reads i) :
    ∃ line, i.line.map cstr = some line ∧ e = .read line := by
  obtain ⟨line, hline, rfl⟩ := List.mem_map.mp h
  exact ⟨line, Option.mem_toList.mp hline, rfl⟩

/-- Behind the line nothing is read. -/
theorem turnOffCall_events (s : TurnOffStatics) (i : PowerPoll) :
    ∃ acts, (turnOffCall s i).2.1 = asks s ++ reads i ++ acts ∧ ∀ line, .read line ∉ acts := by
  rw [turnOffCall_eq]
  split
  · exact ⟨[], (List.append_nil _).symm, fun _ => List.not_mem_nil⟩
  split
  · exact ⟨[], (List.append_nil _).symm, fun _ => List.not_mem_nil⟩
  split
  · exact ⟨_, rfl, by simp⟩
  split
  · exact ⟨_, rfl, by simp⟩
  · exact ⟨_, rfl, by simp⟩

/-- in neither does the timer run out. -/
theorem count_expired_asks_reads (s : TurnOffStatics) (i : PowerPoll) :
    (asks s ++ reads i).count .expired = 0 := by
  refine List.count_eq_zero.mpr fun h => ?_
  rcases List.mem_append.mp h with h | h
  · rcases mem_asks h with h | h <;> cases h
  · obtain ⟨line, -, h⟩ := mem_reads h
    cases h

/-- A call that finds the flag set asks. -/
theorem asks_of_ready {s : TurnOffStatics} (h : s.readyToSend = true) : asks s = [.called, .sent] := by
  unfold asks
  rw [if_pos h]

section Session

variable {session : List TurnOffEvent} {s : TurnOffStatics}

/-- **A call of a session that asks when it begins**: `POWERED DOWN` is read after it has asked. -/
theorem turnOffCall_ends (i : PowerPoll) (hbegin : BeginsReady session s)
    (hsent : session ≠ [] → SentPowerDown session) :
    PrecededBy (fun before => SentPowerDown (session ++ before)) (.read poweredDownLine)
        (turnOffCall s i).2.1 ∧
      SentPowerDown (session ++ (turnOffCall s i).2.1) := by
  have hasked : SentPowerDown (session ++ asks s) := by
    by_cases hnil : session = []
    · rw [asks_of_ready (hbegin hnil)]
      simp [SentPowerDown]
    · exact List.mem_append_left _ (hsent hnil)
  have hasks : TurnOffEvent.read poweredDownLine ∉ asks s := by
    intro h
    rcases mem_asks h with h | h <;> cases h
  obtain ⟨acts, hevents, hacts⟩ := turnOffCall_events s i
  rw [hevents, List.append_assoc]
  constructor
  · refine PrecededBy.append_of (PrecededBy.append (t := []) precededBy_nil hasks) ?_
    -- whatever is read is read behind what was asked
    intro before after _
    show SentPowerDown (session ++ (asks s ++ before))
    rw [← List.append_assoc]
    exact List.mem_append_left _ hasked
  · rw [← List.append_assoc]
    exact List.mem_append_left _ hasked

/-- What a call adds to a session: it may be the first expiry, and then the flag is set; and if the
    flag was set it has asked before the timer runs out. -/
theorem Asked.append {es : List TurnOffEvent} {s' : TurnOffStatics} (h : Asked session s)
    (hread : .read poweredDownLine ∉ es)
    (hfirst : session.count .expired = 0 → es.count .expired = 0 ∨
      (es.count .expired = 1 ∧ s'.readyToSend = true))
    (hready : session.count .expired = 1 → s.readyToSend = true →
      ∃ after, es = .called :: .sent :: after) :
    Asked (session ++ es) s' := by
  constructor
  · intro hmem
    exact (List.mem_append.mp hmem).elim h.unanswered hread
  · rw [List.count_append]
    rcases h.asked with hzero | ⟨hone, hset⟩ | ⟨before, after, rfl, hle⟩
    · rw [hzero, Nat.zero_add]
      exact (hfirst hzero).imp_right Or.inl
    · obtain ⟨after, rfl⟩ := hready hone hset
      refine Or.inr (Or.inr ⟨session ++ [.called], after, by simp, ?_⟩)
      rw [hone, List.count_cons_of_ne (by decide), List.count_cons_of_ne (by decide)]
      omega
    · refine Or.inr (Or.inr ⟨before, after ++ es, by simp, ?_⟩)
      have hafter : (after ++ es).count .expired = after.count .expired + es.count .expired :=
        List.count_append ..
      omega

/-- **A call whose counter has counted for its own session**: a cut is the last resort. -/
theorem turnOffCall_cut (i : PowerPoll) (hown : CountsOwn session s) (h : Asked session s) :
    PrecededBy (fun before => LastResort (session ++ before)) (.powerDownSignal false)
        (turnOffCall s i).2.1 ∧
      ((turnOffCall s i).2.2 = false →
        Asked (session ++ (turnOffCall s i).2.1) (turnOffCall s i).1) := by
  have hquiet : TurnOffEvent.powerDownSignal false ∉ asks s ++ reads i := by
    intro hmem
    rcases List.mem_append.mp hmem with hmem | hmem
    · rcases mem_asks hmem with hmem | hmem <;> cases hmem
    · obtain ⟨line, -, hmem⟩ := mem_reads hmem
      cases hmem
  have hcut : PrecededBy (fun before => LastResort (session ++ before)) (.powerDownSignal false)
      (asks s ++ reads i) :=
    PrecededBy.append (t := []) precededBy_nil hquiet
  have hcount := count_expired_asks_reads s i
  rw [turnOffCall_eq]
  -- answered: the session ends here, and the pin was not touched
  by_cases hline : i.line.map cstr = some poweredDownLine
  · rw [if_pos hline]
    exact ⟨hcut, nofun⟩
  rw [if_neg hline]
  have hread : TurnOffEvent.read poweredDownLine ∉ asks s ++ reads i := by
    intro hmem
    rcases List.mem_append.mp hmem with hmem | hmem
    · rcases mem_asks hmem with hmem | hmem <;> cases hmem
    · obtain ⟨line, hline', heq⟩ := mem_reads hmem
      obtain rfl := TurnOffEvent.read.inj heq
      exact hline hline'
  have hready (acts : List TurnOffEvent) (hset : s.readyToSend = true) :
      ∃ after, asks s ++ reads i ++ acts = .called :: .sent :: after := by
    rw [asks_of_ready hset]
    exact ⟨reads i ++ acts, rfl⟩
  -- nothing happened, or an expiry that counts: the session goes on
  by_cases hexpired : i.expired = false
  · rw [if_pos hexpired]
    refine ⟨hcut, fun _ => h.append hread (fun _ => Or.inl hcount) fun _ hset => ?_⟩
    rw [← List.append_nil (asks s ++ reads i)]
    exact hready [] hset
  rw [if_neg hexpired]
  -- the timer has run out
  have hcutExpired := hcut.concat (e := TurnOffEvent.expired) nofun
  have hcountExpired : (asks s ++ reads i ++ [TurnOffEvent.expired]).count .expired = 1 := by
    rw [List.count_append, hcount]
    rfl
  have hreadExpired : TurnOffEvent.read poweredDownLine ∉ asks s ++ reads i ++ [.expired] := by
    intro hmem
    rcases List.mem_append.mp hmem with hmem | hmem
    · exact hread hmem
    · exact nomatch List.mem_singleton.mp hmem
  by_cases htries : s.retryCounter ≤ maxTries
  · rw [if_pos htries]
    exact ⟨hcutExpired, fun _ => h.append hreadExpired (fun _ => Or.inr ⟨hcountExpired, rfl⟩)
      fun _ => hready _⟩
  rw [if_neg htries, List.append_cons _ TurnOffEvent.expired]
  -- the counter has run out with expiries of this session, and all but one came after a command
  have hmany : maxTries < session.count .expired :=
    Nat.lt_of_lt_of_le (Nat.lt_of_not_le htries) (hown (Nat.lt_of_not_le htries))
  have htries_eq : maxTries = 10 := rfl
  -- the pin is pulled, or released by a call that ends the session
  by_cases hhard : s.hardPowerOffUnderProcess = false
  · rw [if_pos hhard]
    have hresort : LastResort (session ++ (asks s ++ reads i ++ [.expired])) := by
      rcases h.asked with hzero | ⟨hone, -⟩ | ⟨before, after, hsession, hle⟩
      · omega
      · omega
      · refine ⟨before, after ++ (asks s ++ reads i ++ [.expired]), by rw [hsession]; simp, ?_, ?_⟩
        · rw [List.count_append, hcountExpired]
          omega
        · intro hmem
          exact (List.mem_append.mp hmem).elim h.unanswered hreadExpired
    refine ⟨hcutExpired.concat fun _ => hresort, fun _ => h.append ?_ (fun hzero => ?_)
      fun hone => ?_⟩
    · intro hmem
      rcases List.mem_append.mp hmem with hmem | hmem
      · exact hreadExpired hmem
      · exact nomatch List.mem_singleton.mp hmem
    · omega
    · omega
  · rw [if_neg hhard, List.append_cons _ TurnOffEvent.expired]
    exact ⟨hcutExpired.append (by simp), nofun⟩

end Session

/-! ## Runs

  The two promises have the same shape, so their induction is done once (`run_sound`), for any event
  of a session, any property of the session before it and any invariant. -/

/-- A call of `turnOff` adds what it does, -/
theorem turnOffSession_map {t : List PowerEvent} (es : List TurnOffEvent) :
    turnOffSession (t ++ es.map (.turnOff .powerOn)) = turnOffSession t ++ es := by
  have hcreated : ∀ e ∈ es.map (PowerEvent.turnOff .powerOn), e.isPowerOn = false := by
    intro e he
    obtain ⟨a, -, rfl⟩ := List.mem_map.mp he
    rfl
  rw [turnOffSession_append hcreated, List.filterMap_map]
  have hid : (PowerEvent.ofTurnOff ∘ PowerEvent.turnOff .powerOn) = some := rfl
  rw [hid, List.filterMap_some]

/-- and a new object begins a new session. -/
theorem turnOffSession_created {t es : List PowerEvent} :
    turnOffSession (t ++ (es ++ [.changePowerState .powerOn])) = [] := by
  rw [← List.append_assoc, turnOffSession, since_concat]
  rfl

/-- The session is the same after a call that is not its own and creates no state. -/
theorem turnOffSession_other {t events : List PowerEvent}
    (hquiet : ∀ e, .turnOff .powerOn e ∉ events) (hcreated : ∀ e ∈ events, e.isPowerOn = false) :
    turnOffSession (t ++ events) = turnOffSession t := by
  have hnone : events.filterMap PowerEvent.ofTurnOff = [] := by
    refine List.filterMap_eq_nil_iff.mpr fun e he => ?_
    unfold PowerEvent.ofTurnOff
    split
    · exact absurd he (hquiet _)
    · rfl
  rw [turnOffSession_append hcreated, hnone, List.append_nil]

section Promise

-- `a` is what may only happen where the session has come to `Good`; `Inv` is the invariant of a
-- session, and of one that has not begun it says nothing
variable {a : TurnOffEvent} {Good : List TurnOffEvent → Prop}
variable {Inv : List TurnOffEvent → TurnOffStatics → Prop}
variable {P : List TurnOffEvent → TurnOffStatics → Prop}

/-- A promise is kept, and so is the invariant of the session of a modem that is on. -/
structure SessionInvariant (a : TurnOffEvent) (Good : List TurnOffEvent → Prop)
    (Inv : List TurnOffEvent → TurnOffStatics → Prop) (c : Config PowerManager PowerEvent) :
    Prop where
  sound : PrecededBy (fun before => Good (turnOffSession before)) (.turnOff .powerOn a) c.trace
  session : ∀ s, c.state.currentPowerState = .powerON s →
    Inv (turnOffSession c.trace) c.state.turnOff

/-- A call that is not the `turnOff` of a modem that is on. -/
theorem SessionInvariant.other {c : Config PowerManager PowerEvent}
    (h : SessionInvariant a Good Inv c) (hnil : ∀ s, Inv [] s) {m : PowerManager}
    {events : List PowerEvent} (hother : OtherCall c.state m events) :
    SessionInvariant a Good Inv ⟨m, c.trace ++ events⟩ := by
  refine ⟨h.sound.append (hother.quiet a), fun s' hs' => ?_⟩
  rcases hother.on s' hs' with ⟨⟨es, rfl⟩, -⟩ | ⟨s, hs, -, hcreated⟩
  · show Inv (turnOffSession (c.trace ++ (es ++ [.changePowerState .powerOn]))) _
    rw [turnOffSession_created]
    exact hnil _
  · show Inv (turnOffSession (c.trace ++ events)) m.turnOff
    rw [turnOffSession_other hother.quiet hcreated, hother.turnOff]
    exact h.session s hs

/-- The `turnOff` of a modem that is on, if it keeps the promise in its session. -/
theorem SessionInvariant.turnOff {c : Config PowerManager PowerEvent}
    (h : SessionInvariant a Good Inv c) (s : PowerONState) (i : PowerPoll)
    (hcall : PrecededBy (fun before => Good (turnOffSession c.trace ++ before)) a
        (turnOffCall c.state.turnOff i).2.1 ∧
      ((turnOffCall c.state.turnOff i).2.2 = false →
        Inv (turnOffSession c.trace ++ (turnOffCall c.state.turnOff i).2.1)
          (turnOffCall c.state.turnOff i).1)) :
    SessionInvariant a Good Inv ⟨(PowerONState.turnOff c.state s i).manager,
      c.trace ++ (PowerONState.turnOff c.state s i).events⟩ := by
  unfold PowerONState.turnOff
  rcases hrun : turnOffCall c.state.turnOff i with ⟨statics, events, done⟩
  rw [hrun] at hcall
  obtain ⟨hgood, hinv⟩ := hcall
  have hinj : ∀ x y, PowerEvent.turnOff .powerOn x = .turnOff .powerOn y → x = y :=
    fun x y hxy => (PowerEvent.turnOff.inj hxy).2
  have hsound : PrecededBy (fun before => Good (turnOffSession before)) (.turnOff .powerOn a)
      (c.trace ++ events.map (.turnOff .powerOn)) := by
    refine h.sound.append_of (PrecededBy.map hinj ?_)
    simpa only [turnOffSession_map] using hgood
  dsimp only
  cases done with
  | true =>
    refine ⟨?_, nofun⟩
    rw [if_pos rfl, ← List.append_assoc]
    refine hsound.append fun he => ?_
    simp [PowerManager.toManualPowerOFF] at he
  | false =>
    refine ⟨hsound, fun _ _ => ?_⟩
    show Inv (turnOffSession (c.trace ++ events.map (.turnOff .powerOn))) statics
    rw [turnOffSession_map]
    exact hinv rfl

/-- A call is the `turnOff` of a modem that is on, or of the other kind. -/
theorem step_cases (m : PowerManager) (i : PowerCall) :
    (∃ s p, m.currentPowerState = .powerON s ∧ i = .turnOff p ∧
      m.step i = ((PowerONState.turnOff m s p).manager, (PowerONState.turnOff m s p).events)) ∨
    OtherCall m (m.step i).1 (m.step i).2 := by
  by_cases h : ∀ s p, m.currentPowerState = .powerON s → i ≠ .turnOff p
  · exact Or.inr (otherCall_step m i h)
  · obtain ⟨s, p, hs, rfl⟩ : ∃ s p, m.currentPowerState = .powerON s ∧ i = .turnOff p := by
      simpa using h
    refine Or.inl ⟨s, p, hs, rfl, ?_⟩
    simp only [PowerManager.step, PowerManager.turnOffUpdate, hs]

/-- **A promise that each call keeps in its session is kept in every run.** -/
theorem run_sound (hnil : ∀ s, Inv [] s)
    (hcall : ∀ session s i, P session s → Inv session s →
      PrecededBy (fun before => Good (session ++ before)) a (turnOffCall s i).2.1 ∧
        ((turnOffCall s i).2.2 = false →
          Inv (session ++ (turnOffCall s i).2.1) (turnOffCall s i).1))
    {is : List PowerCall} (his : Always PowerManager.step (OnTurnOff P) ⟨.initial, []⟩ is) :
    PrecededBy (fun before => Good (turnOffSession before)) (.turnOff .powerOn a)
      (run PowerManager.step ⟨.initial, []⟩ is).trace := by
  have hinitial : SessionInvariant a Good Inv ⟨.initial, []⟩ :=
    ⟨precededBy_nil, fun s hs => by cases hs⟩
  refine (run_induction_of (I := SessionInvariant a Good Inv) hinitial (fun c i hi h => ?_)
    his).sound
  rcases step_cases c.state i with ⟨s, p, hs, rfl, hstep⟩ | hother
  -- the call of the session, under the condition; and any other, which needs none
  · have hturn := h.turnOff s p (hcall _ _ p hi (h.session s hs))
    unfold advance
    rw [hstep]
    exact hturn
  · exact h.other hnil hother

end Promise

/-- **The power is cut only as a last resort, and who ends gracefully has asked for it**: the first
    in every run whose counter, where it has run out, has counted expiries of its own session; the
    second in every run whose sessions begin with the flag set. -/
theorem power_cut_is_last_resort (is : List PowerCall) :
    (Always PowerManager.step (OnTurnOff CountsOwn) ⟨.initial, []⟩ is →
      CutSound (run PowerManager.step ⟨.initial, []⟩ is).trace) ∧
    (Always PowerManager.step (OnTurnOff BeginsReady) ⟨.initial, []⟩ is →
      EndSound (run PowerManager.step ⟨.initial, []⟩ is).trace) := by
  constructor
  · intro his
    exact run_sound asked_nil (fun session s i hown h => turnOffCall_cut i hown h) his
  · intro his
    have hcall : ∀ session s i, BeginsReady session s → (session ≠ [] → SentPowerDown session) →
        PrecededBy (fun before => SentPowerDown (session ++ before)) (.read poweredDownLine)
            (turnOffCall s i).2.1 ∧
          ((turnOffCall s i).2.2 = false → session ++ (turnOffCall s i).2.1 ≠ [] →
            SentPowerDown (session ++ (turnOffCall s i).2.1)) := by
      intro session s i hbegin hsent
      obtain ⟨hends, hsent'⟩ := turnOffCall_ends i hbegin hsent
      exact ⟨hends, fun _ _ => hsent'⟩
    exact run_sound (fun _ hne => absurd rfl hne) hcall his

/-! ## A session after a graceful one

  The first session is answered when its counter has already run out.  The second begins with that
  counter, and with the flag down. -/

/-- The modem has power, and nothing else happens. -/
def powered : PowerPoll := ⟨false, false, true, none, false, false⟩

/-- The modem has power, and the timer has run out. -/
def poweredExpired : PowerPoll := ⟨false, false, true, none, true, true⟩

/-- The modem answers that it powers down. -/
def poweringDown : PowerPoll := ⟨false, false, true, some poweredDownLine, false, false⟩

/-- A first session in which the modem never answers, and a second one in which it does. -/
def twoSessions : List PowerCall :=
  .startStopUpdate powered :: (List.replicate 13 (.turnOff poweredExpired) ++
    [.turnOn powered, .turnOff powered, .turnOff poweringDown])

/-- The first one ends with a cut, the second one gracefully. -/
theorem two_sessions_sound :
    .turnOff .powerOn (.powerDownSignal false) ∈
        (run PowerManager.step ⟨.initial, []⟩ twoSessions).trace ∧
      .turnOff .powerOn (.read poweredDownLine) ∈
        (run PowerManager.step ⟨.initial, []⟩ twoSessions).trace ∧
      PowerDownSound (run PowerManager.step ⟨.initial, []⟩ twoSessions).trace :=
  ⟨by decide +kernel, by decide +kernel, (power_cut_is_last_resort twoSessions).1 (by decide +kernel),
    (power_cut_is_last_resort twoSessions).2 (by decide +kernel)⟩

/-- A first session in which the modem answers after eleven expiries, and a second one whose first
    call finds the timer run out. -/
def secondSession : List PowerCall :=
  .startStopUpdate powered :: (List.replicate 11 (.turnOff poweredExpired) ++
    [.turnOff poweringDown, .turnOn powered, .turnOff poweredExpired])

/-- **The second session cuts the power at once**, without a command and after one expiry. -/
theorem second_session_cuts_at_once :
    ¬ PowerDownSound (run PowerManager.step ⟨.initial, []⟩ secondSession).trace := by
  intro h
  have hlast : (run PowerManager.step ⟨.initial, []⟩ secondSession).trace =
      (run PowerManager.step ⟨.initial, []⟩ secondSession).trace.dropLast ++
        [.turnOff .powerOn (.powerDownSignal false)] := by
    decide
  obtain ⟨before, after, hsession, -⟩ := h.cut _ _ hlast
  have hcalls : turnOffSession (run PowerManager.step ⟨.initial, []⟩ secondSession).trace.dropLast =
      [.called, .expired] := by
    decide
  have hsent : TurnOffEvent.sent ∈ [TurnOffEvent.called, .expired] := by
    rw [← hcalls, hsession]
    exact List.mem_append_right _ (List.mem_cons_self ..)
  exact absurd hsent (by decide)

end GatewayLoRa
