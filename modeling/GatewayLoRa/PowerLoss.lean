/-
  The loss of the modem's power: when twenty readings are enough to notice it.

  `PowerONState::startStopUpdate` counts the readings of the status pin that say `ON` (no power) in
  the `static` variable `turnOffCounter`, and leaves the state when the counter EQUALS 20.  The
  counter is set back only by a reading that says `OFF`.  A state that was left because of the
  counter leaves it at 20; a new `PowerONState` whose first reading says `ON` counts on from there,
  and 20 never comes again.

  1. **One call** (`startStop_unpowered`) — a reading of `ON` adds one, and leaves the state exactly when
     that makes 20.

  2. **The result** (`power_loss_noticed_iff`) — a reachable state notices the loss within twenty
     readings if and only if the counter is below 20.

  The crux is that the test is for equality.  A counter below 20 cannot pass 20 without being equal
  to it, since a call adds one (`leaves_of_counts`); a counter that is at 20 or above will never be
  equal to it again as long as the readings say `ON` (`not_leaves_of_counts`).  Both are inductions
  over a list of calls, and for the second the list can be chosen: twenty readings and nothing else.
-/

import GatewayLoRa.PowerDown

namespace GatewayLoRa

open CMemory Machine

/-! ## The promise

  `Leaves` is about a run that starts in the state, and what else is asked of the manager in the
  meantime does not matter, as long as it is not `turnOff`, whose flag stops the counting. -/

/-- The call reads the status pin. -/
def PowerCall.isStartStopUpdate : PowerCall → Bool
  | .startStopUpdate _ => true
  | _ => false

/-- The call is not `turnOff`, and reads no power if it reads the status pin of a modem that is on. -/
def ReadsUnpowered : PowerCall → Prop
  | .startStopUpdate i => i.status = true ∧ i.status' = true
  | .turnOff _ => False
  | _ => True

/-- The current state is left in a run of these calls. -/
def PowerManager.Leaves (m : PowerManager) (is : List PowerCall) : Prop :=
  ∃ s, .changePowerState s ∈ (run PowerManager.step ⟨m, []⟩ is).trace

/-- **The loss is noticed**: whatever else is asked of the manager, the state is left when
    `startStopUpdate` has read `ON` twenty times. -/
def PowerManager.NoticesLoss (m : PowerManager) : Prop :=
  ∀ is, (∀ i ∈ is, ReadsUnpowered i) → is.countP PowerCall.isStartStopUpdate = maxCountTurnOff →
    m.Leaves is

/-! ## One call

  `Counts` is all that is needed of a state of a modem that is on: the flag of `turnOff`, and the
  counter. -/

/-- The modem is on, `turnOff` was not called, and `startStopUpdate` has counted `n` readings. -/
structure PowerManager.Counts (m : PowerManager) (n : Nat) : Prop where
  on : ∃ s, m.currentPowerState = .powerON s ∧ s.turnOfWasCall = false
  counter : m.turnOffCounter = n

/-- **A reading of `ON` adds one, and leaves the state when that makes 20.** -/
theorem startStop_unpowered {m : PowerManager} {n : Nat} (h : m.Counts n) {i : PowerPoll}
    (hi : ReadsUnpowered (.startStopUpdate i)) :
    (n + 1 = maxCountTurnOff → ∃ s, .changePowerState s ∈ (m.step (.startStopUpdate i)).2) ∧
      (n + 1 ≠ maxCountTurnOff → (m.step (.startStopUpdate i)).1.Counts (n + 1) ∧
        ∀ s, .changePowerState s ∉ (m.step (.startStopUpdate i)).2) := by
  obtain ⟨⟨s, hs, hcall⟩, rfl⟩ := h
  obtain ⟨hstatus, hstatus'⟩ := hi
  -- of the two readings the first would set the counter back, and the second adds one
  have hcount : PowerONState.countReadings m.turnOffCounter i = m.turnOffCounter + 1 := by
    simp [PowerONState.countReadings, hstatus, hstatus']
  have hstep : m.startStopUpdate i = PowerONState.startStopUpdate m s i := by
    rw [PowerManager.startStopUpdate, hs]
  dsimp only [PowerManager.step]
  rw [hstep, PowerONState.startStopUpdate, if_neg (by rw [hcall]; exact nofun)]
  dsimp only
  rw [hcount]
  constructor
  · intro hlast
    rw [if_pos hlast]
    split
    · exact ⟨.powerOff, List.mem_singleton_self _⟩
    · exact ⟨.manualPowerOff, List.mem_cons_of_mem _ (List.mem_singleton_self _)⟩
  · intro hmore
    rw [if_neg hmore]
    refine ⟨⟨⟨_, rfl, ?_⟩, rfl⟩, fun st hst => ?_⟩
    · rw [turnOfWasCall_pressButton, hcall]
    · obtain ⟨b, -, hb⟩ := List.mem_map.mp hst
      cases hb

/-- Any other call leaves the state, or the counter alone. -/
theorem other_unpowered {m : PowerManager} {n : Nat} (h : m.Counts n) {i : PowerCall}
    (hi : ReadsUnpowered i) (hother : i.isStartStopUpdate = false) :
    (∃ s, .changePowerState s ∈ (m.step i).2) ∨ (m.step i).1.Counts n := by
  obtain ⟨⟨s, hs, hcall⟩, rfl⟩ := h
  cases i with
  | startStopUpdate p => cases hother
  | turnOff p => exact hi.elim
  | turnOn p =>
    right
    simp only [PowerManager.step, PowerManager.turnOn, hs]
    exact ⟨⟨s, hs, hcall⟩, rfl⟩
  | awake =>
    right
    simp only [PowerManager.step, PowerManager.awake, hs]
    exact ⟨⟨s, hs, hcall⟩, rfl⟩
  | reboot p =>
    simp only [PowerManager.step, PowerManager.reboot, hs]
    unfold PowerONState.reboot
    dsimp only
    split
    · exact Or.inl ⟨.powerOff, List.mem_append_right _ (List.mem_singleton_self _)⟩
    · exact Or.inr ⟨⟨s, hs, hcall⟩, rfl⟩
  | goToSleep p =>
    simp only [PowerManager.step, PowerManager.goToSleep, hs]
    unfold PowerONState.goToSleep
    dsimp only
    split
    · refine Or.inl ⟨.sleep, List.mem_append_right _ ?_⟩
      exact List.mem_cons_of_mem _ (List.mem_singleton_self _)
    · exact Or.inr ⟨⟨s, hs, hcall⟩, rfl⟩

/-! ## A run of readings

  The induction is over the calls, with the counter as its parameter. -/

/-- The state is left in the first call, -/
theorem leaves_of_mem {m : PowerManager} {i : PowerCall} {is : List PowerCall}
    (h : ∃ s, .changePowerState s ∈ (m.step i).2) : m.Leaves (i :: is) := by
  obtain ⟨s, hs⟩ := h
  refine ⟨s, ?_⟩
  have hmem : PowerEvent.changePowerState s ∈ (advance PowerManager.step ⟨m, []⟩ i).trace := hs
  exact (trace_grows is).subset hmem

/-- or in a later one. -/
theorem Leaves.cons {m : PowerManager} {i : PowerCall} {is : List PowerCall}
    (h : (m.step i).1.Leaves is) : m.Leaves (i :: is) := by
  obtain ⟨s, hs⟩ := h
  refine ⟨s, ?_⟩
  rw [run_cons, run_eq]
  exact List.mem_append_right _ hs

/-- **Below 20 the counter gets there.** -/
theorem leaves_of_counts {is : List PowerCall} (his : ∀ i ∈ is, ReadsUnpowered i) {m : PowerManager}
    {n : Nat} (h : m.Counts n) (hn : n < maxCountTurnOff)
    (hmany : maxCountTurnOff ≤ n + is.countP PowerCall.isStartStopUpdate) : m.Leaves is := by
  induction is generalizing m n with
  | nil =>
    rw [List.countP_nil] at hmany
    omega
  | cons i is ih =>
    have hi := his i (List.mem_cons_self ..)
    have hrest := fun j hj => his j (List.mem_cons_of_mem i hj)
    cases hstart : i.isStartStopUpdate with
    | false =>
      rw [List.countP_cons_of_neg (by rw [hstart]; exact nofun)] at hmany
      rcases other_unpowered h hi hstart with hleft | hcounts
      · exact leaves_of_mem hleft
      · exact Leaves.cons (ih hrest hcounts hn hmany)
    | true =>
      rw [List.countP_cons_of_pos hstart] at hmany
      obtain ⟨p, rfl⟩ : ∃ p, i = .startStopUpdate p := by
        cases i with
        | startStopUpdate p => exact ⟨p, rfl⟩
        | _ => cases hstart
      obtain ⟨hlast, hmore⟩ := startStop_unpowered h hi
      by_cases h20 : n + 1 = maxCountTurnOff
      · exact leaves_of_mem (hlast h20)
      · exact Leaves.cons (ih hrest (hmore h20).1 (by omega) (by omega))

/-- A call of `startStopUpdate` that reads no power, and nothing else. -/
def unpowered : PowerCall := .startStopUpdate ⟨true, true, true, none, false, false⟩

/-- **From 20 on it never comes.** -/
theorem not_leaves_of_counts (k : Nat) {m : PowerManager} {n : Nat} (h : m.Counts n)
    (hn : maxCountTurnOff ≤ n) : ¬ m.Leaves (List.replicate k unpowered) := by
  induction k generalizing m n with
  | zero =>
    rintro ⟨s, hs⟩
    exact List.not_mem_nil hs
  | succ k ih =>
    rintro ⟨s, hs⟩
    obtain ⟨hcounts, hquiet⟩ := (startStop_unpowered h (i := ⟨true, true, true, none, false, false⟩)
      ⟨rfl, rfl⟩).2 (by omega)
    rw [List.replicate_succ, run_cons, run_eq] at hs
    rcases List.mem_append.mp hs with hnow | hlater
    · exact hquiet s hnow
    · exact ih hcounts (by omega) ⟨s, hlater⟩

/-! ## The result

  What is left to show is that a reachable state of a modem that is on counts: its flag is set only
  by `turnOff`. -/

/-- As long as `turnOff` was not called on a state, its flag is not set. -/
theorem turnOfWasCall_of_not_called (is : List PowerCall) :
    ∀ s, (run PowerManager.step ⟨.initial, []⟩ is).state.currentPowerState = .powerON s →
      turnOffSession (run PowerManager.step ⟨.initial, []⟩ is).trace = [] →
        s.turnOfWasCall = false := by
  refine run_induction (I := fun c : Config PowerManager PowerEvent =>
    ∀ s, c.state.currentPowerState = .powerON s → turnOffSession c.trace = [] →
      s.turnOfWasCall = false) (fun s hs => by cases hs) ?_ is
  intro c i hc s' hs' hnone
  unfold advance at hs' hnone
  rcases step_cases c.state i with ⟨s, p, hs, rfl, hstep⟩ | hother
  · -- the call itself belongs to the session
    exfalso
    rw [hstep] at hs' hnone
    unfold PowerONState.turnOff at hs' hnone
    rcases hrun : turnOffCall c.state.turnOff p with ⟨statics, events, done⟩
    rw [hrun] at hs' hnone
    cases done with
    | true => cases hs'
    | false =>
      have hcalled : .called ∈ events := by
        have hmem : TurnOffEvent.called ∈ (turnOffCall c.state.turnOff p).2.1 := by
          rw [turnOffCall_eq]
          (repeat' split) <;> simp [asks]
        rwa [hrun] at hmem
      have hsession : turnOffSession (c.trace ++ events.map (.turnOff .powerOn)) = [] := hnone
      rw [turnOffSession_map] at hsession
      rw [(List.append_eq_nil_iff.mp hsession).2] at hcalled
      exact List.not_mem_nil hcalled
  · rcases hother.on s' hs' with ⟨-, hnew⟩ | ⟨s, hs, hflag, hcreated⟩
    · exact hnew
    · rw [hflag]
      refine hc s hs ?_
      rwa [← turnOffSession_other hother.quiet hcreated]

/-- **In a reachable state of a modem that is on, with `turnOff` not called, the loss of power is
    noticed within twenty readings if and only if the counter is below 20.** -/
theorem power_loss_noticed_iff (is : List PowerCall) (s : PowerONState)
    (hon : (run PowerManager.step ⟨.initial, []⟩ is).state.currentPowerState = .powerON s)
    (hnotCalled : turnOffSession (run PowerManager.step ⟨.initial, []⟩ is).trace = []) :
    (run PowerManager.step ⟨.initial, []⟩ is).state.NoticesLoss ↔
      (run PowerManager.step ⟨.initial, []⟩ is).state.turnOffCounter < maxCountTurnOff := by
  have hcounts : (run PowerManager.step ⟨.initial, []⟩ is).state.Counts
      (run PowerManager.step ⟨.initial, []⟩ is).state.turnOffCounter :=
    ⟨⟨s, hon, turnOfWasCall_of_not_called is s hon hnotCalled⟩, rfl⟩
  constructor
  · intro hnotices
    apply Nat.lt_of_not_le
    intro hle
    refine not_leaves_of_counts maxCountTurnOff hcounts hle (hnotices _ ?_ ?_)
    · intro i hi
      obtain rfl := List.eq_of_mem_replicate hi
      exact ⟨rfl, rfl⟩
    · decide
  · intro hless js hjs hcount
    exact leaves_of_counts hjs hcounts hless (by omega)

/-! ## The counter of a state that was left

  Once the counter has come to 20 it stays there, and the next object finds it. -/

/-- The first state begins at 0. -/
theorem first_state_notices_loss :
    (run PowerManager.step ⟨.initial, []⟩ [.startStopUpdate powered]).state.NoticesLoss ↔
      (run PowerManager.step ⟨.initial, []⟩ [.startStopUpdate powered]).state.turnOffCounter <
        maxCountTurnOff :=
  power_loss_noticed_iff [.startStopUpdate powered] ⟨false, false, false, false⟩ (by decide)
    (by decide)

/-- The modem loses its power, and gets it back at the next reading. -/
def losesPowerOnce : List PowerCall :=
  .startStopUpdate powered :: (List.replicate 20 unpowered ++ [.startStopUpdate powered])

/-- **The second loss is not noticed**: the modem is on, `turnOff` was never called, and the counter
    still stands at 20. -/
theorem second_loss_unnoticed :
    (run PowerManager.step ⟨.initial, []⟩ losesPowerOnce).state.currentPowerState =
        .powerON ⟨false, false, false, false⟩ ∧
      turnOffSession (run PowerManager.step ⟨.initial, []⟩ losesPowerOnce).trace = [] ∧
      ¬ (run PowerManager.step ⟨.initial, []⟩ losesPowerOnce).state.NoticesLoss := by
  have hon : (run PowerManager.step ⟨.initial, []⟩ losesPowerOnce).state.currentPowerState =
      .powerON ⟨false, false, false, false⟩ := by
    decide
  have hcounter : (run PowerManager.step ⟨.initial, []⟩ losesPowerOnce).state.turnOffCounter =
      20 := by
    decide
  refine ⟨hon, by decide, fun hnotices => ?_⟩
  refine not_leaves_of_counts maxCountTurnOff ⟨⟨_, hon, rfl⟩, hcounter⟩ (Nat.le_refl 20)
    (hnotices _ ?_ (by decide))
  intro i hi
  obtain rfl := List.eq_of_mem_replicate hi
  exact ⟨rfl, rfl⟩

end GatewayLoRa
