/-
  The DELAYS and the tick counter they share.

  A `NonBlockingDelay` keeps the tick at which it was started and compares with the tick that it is
  read at.  The counter is global, and EVERY object attaches a ticker of its own that adds 1 to it
  each 10 ms: with `n` objects alive the counter goes `n` times as fast as the durations assume.

  1. **The machine** (`Delays.step`) — the objects that are alive, by their address, and the
     counter.  A period of 10 ms is one step, in which the ticker of each live object fires once.

  2. **The invariant** (`Timed`) — as long as at most one object is alive when a period passes, the
     counter is ahead of a running object's start by the periods since then, modulo `2 ^ 64`.

  3. **The result** (`delays_independent_iff`) — the delays of a set of objects are independent in
     every run if and only if the set has at most one object.  The gateway keeps four.

  The crux is that the invariant compares two clocks: the counter, which the objects read, and the
  periods in the trace, which nobody reads.  With one object alive they advance together, so their
  difference stays what it was when the object was started, up to the wrap of the counter; and a
  wrapped difference is never more than the true one, which is the direction that a delay needs.
  With two objects a single period is already two ticks (`trace_twoTicks`), and no schedule has to
  be searched for.
-/

import Mathlib.Data.Finset.Card
import GatewayLoRa.SendingAck

namespace GatewayLoRa

open Machine

/-! ## The objects and the counter

  An object is known by its address, as the ticker knows it: attaching the callback of one object
  does not touch that of another. -/

/-- Where an object stands in memory. -/
abbrev Address := UInt32

/-- The tick counter, and the delay objects that are alive. -/
structure Delays where
  tickCounter : UInt64
  live : Finset Address
  object : Address → NonBlockingDelay

/-- The program as it starts. -/
def Delays.initial : Delays := ⟨0, ∅, fun _ => ⟨0, 0, false⟩⟩

/-- What is done with the delays, and the passing of 10 ms.  The constructor does not initialise
    `startTime`. -/
inductive DelayCall
  | construct (d : Address) (durationValue uninitialised : UInt64)
  | destroy (d : Address)
  | write (d : Address) (durationValue : UInt64)
  | restart (d : Address)
  | read (d : Address)
  | period
  deriving DecidableEq

/-- What can be seen of the delays: an object is started, a read of it returns `true` when its
    duration was `duration`, 10 ms pass. -/
inductive DelayEvent
  | started (d : Address)
  | arrived (d : Address) (duration : UInt64)
  | period
  deriving DecidableEq

/-- `tickerCallback`. -/
def tickerCallback (tickCounter : UInt64) : UInt64 := tickCounter + 1

namespace Delays

/-- The object at an address after a method of it. -/
def set (s : Delays) (d : Address) (object : NonBlockingDelay) : Delays :=
  { s with object := Function.update s.object d object }

/-- The object itself, -/
@[simp] theorem set_self (s : Delays) (d : Address) (o : NonBlockingDelay) :
    (s.set d o).object d = o := Function.update_self ..

/-- the others, -/
theorem set_ne (s : Delays) {d x : Address} (o : NonBlockingDelay) (h : x ≠ d) :
    (s.set d o).object x = s.object x := Function.update_of_ne h ..

/-- and the counter. -/
@[simp] theorem set_tickCounter (s : Delays) (d : Address) (o : NonBlockingDelay) :
    (s.set d o).tickCounter = s.tickCounter := rfl

/-- **One call, or one period.**  A call on an object that is not alive is none. -/
def step (s : Delays) : DelayCall → Delays × List DelayEvent
  | .construct d durationValue uninitialised =>
      if d ∈ s.live then (s, [])
      else ({ s with live := insert d s.live }.set d ⟨durationValue, uninitialised, false⟩, [])
  | .destroy d => ({ s with live := s.live.erase d }, [])
  | .write d durationValue =>
      if d ∈ s.live then (s.set d ((s.object d).write durationValue), []) else (s, [])
  | .restart d =>
      if d ∈ s.live then (s.set d ((s.object d).restart s.tickCounter), [.started d]) else (s, [])
  | .read d =>
      if d ∈ s.live then
        (s.set d ((s.object d).read s.tickCounter).2,
          if ((s.object d).read s.tickCounter).1 then [.arrived d (s.object d).duration]
          -- a read of an object that is not running starts it
          else if (s.object d).isRunning then []
          else [.started d])
      else (s, [])
  | .period => ({ s with tickCounter := tickerCallback^[s.live.card] s.tickCounter }, [.period])

end Delays

/-- The periods since an object was last started. -/
def elapsed (d : Address) (trace : List DelayEvent) : Nat :=
  (since (fun e => e = .started d) trace).count .period

/-- **The delays are independent**: each time a read of an object returns `true`, the object had
    been started, and as many periods as its duration says had passed since. -/
def Independent (trace : List DelayEvent) : Prop :=
  ∀ d duration, PrecededBy
    (fun before => .started d ∈ before ∧ duration.toNat ≤ elapsed d before)
    (.arrived d duration) trace

/-- The ticker of one object at most fires in a period. -/
def Alone (c : Config Delays DelayEvent) (i : DelayCall) : Prop :=
  i = .period → c.state.live.card ≤ 1

/-! ## What an object reads off the counter

  How each kind of step changes the periods since an object was started, and with them the
  invariant. -/

section Elapsed

variable {d : Address} {t : List DelayEvent}

/-- None have passed when it is started, -/
theorem elapsed_started : elapsed d (t ++ [.started d]) = 0 := by
  rw [elapsed, since_concat]
  simp

/-- a period adds one, -/
theorem elapsed_period : elapsed d (t ++ [.period]) = elapsed d t + 1 := by
  rw [elapsed, since_concat]
  simp [elapsed]

/-- and nothing else does. -/
theorem elapsed_other {e : DelayEvent} (hstarted : e ≠ .started d) (hperiod : e ≠ .period) :
    elapsed d (t ++ [e]) = elapsed d t := by
  rw [elapsed, since_concat]
  simp [elapsed, hstarted, hperiod]

end Elapsed

/-- The counter after so many tickers have fired. -/
theorem ticks_eq (n : Nat) (t : UInt64) : tickerCallback^[n] t = t + UInt64.ofNat n := by
  induction n generalizing t with
  | zero => simp
  | succ n ih =>
    rw [Function.iterate_succ_apply, ih, tickerCallback, UInt64.ofNat_add, UInt64.add_assoc,
      UInt64.add_comm 1]
    rfl

/-- **The invariant**: the counter is ahead of the start of a running object by the periods since
    then. -/
structure Timed (c : Config Delays DelayEvent) : Prop where
  running : ∀ d ∈ c.state.live, (c.state.object d).isRunning = true →
    .started d ∈ c.trace ∧
      c.state.tickCounter = (c.state.object d).startTime + UInt64.ofNat (elapsed d c.trace)
  independent : Independent c.trace

section Step

variable {c : Config Delays DelayEvent} {d : Address}

/-- A step without an event that touches one object, which it leaves running only if it did run,
    with the start it had. -/
theorem Timed.of_set (h : Timed c) (o : NonBlockingDelay)
    (hrunning : o.isRunning = true → d ∈ c.state.live ∧ (c.state.object d).isRunning = true ∧
      o.startTime = (c.state.object d).startTime)
    {live : Finset Address} (hlive : ∀ x ∈ live, x ≠ d → x ∈ c.state.live) :
    Timed ⟨{ c.state with live }.set d o, c.trace ++ []⟩ := by
  rw [List.append_nil]
  refine ⟨fun x hx hrun => ?_, h.independent⟩
  by_cases hxd : x = d
  · subst hxd
    simp only [Delays.set_self, Delays.set_tickCounter] at hrun ⊢
    obtain ⟨hmem, hrun', hstart⟩ := hrunning hrun
    rw [hstart]
    exact h.running x hmem hrun'
  · simp only [Delays.set_ne _ _ hxd, Delays.set_tickCounter] at hrun ⊢
    exact h.running x (hlive x hx hxd) hrun

/-- One event more: only an arrival has to be justified. -/
theorem Independent.concat {t : List DelayEvent} {e : DelayEvent} (h : Independent t)
    (he : ∀ d duration, e = .arrived d duration →
      .started d ∈ t ∧ duration.toNat ≤ elapsed d t) : Independent (t ++ [e]) :=
  fun d duration => (h d duration).concat (he d duration)

/-- A step that starts an object. -/
theorem Timed.of_start (h : Timed c) (o : NonBlockingDelay)
    (hstart : o.startTime = c.state.tickCounter) :
    Timed ⟨c.state.set d o, c.trace ++ [.started d]⟩ := by
  refine ⟨fun x hx hrun => ?_, h.independent.concat nofun⟩
  by_cases hxd : x = d
  · subst hxd
    refine ⟨by simp, ?_⟩
    simp only [Delays.set_self, Delays.set_tickCounter, hstart, elapsed_started]
    exact (UInt64.add_zero _).symm
  · simp only [Delays.set_ne _ _ hxd, Delays.set_tickCounter] at hrun ⊢
    obtain ⟨hstarted, hticks⟩ := h.running x hx hrun
    refine ⟨List.mem_append_left _ hstarted, ?_⟩
    rw [elapsed_other (by simpa using Ne.symm hxd) (by simp)]
    exact hticks

/-- A period in which the ticker of one object at most fires. -/
theorem Timed.of_period (h : Timed c) (halone : c.state.live.card ≤ 1) :
    Timed ⟨{ c.state with tickCounter := tickerCallback^[c.state.live.card] c.state.tickCounter },
      c.trace ++ [.period]⟩ := by
  refine ⟨fun x hx hrun => ?_, h.independent.concat nofun⟩
  obtain ⟨hstarted, hticks⟩ := h.running x hx hrun
  refine ⟨List.mem_append_left _ hstarted, ?_⟩
  -- the object itself is alive, so it is the one
  have hone : c.state.live.card = 1 :=
    Nat.le_antisymm halone (Finset.card_pos.mpr ⟨x, hx⟩)
  rw [hone, ticks_eq, elapsed_period, UInt64.ofNat_add, ← UInt64.add_assoc, ← hticks]

/-- A read that returns `true`: the difference of the ticks is the periods since the start, modulo
    `2 ^ 64`, which are no fewer. -/
theorem Timed.of_arrival (h : Timed c) (hd : d ∈ c.state.live)
    (hrun : (c.state.object d).isRunning = true)
    (harrived : c.state.tickCounter - (c.state.object d).startTime ≥ (c.state.object d).duration) :
    Timed ⟨c.state.set d { c.state.object d with isRunning := false },
      c.trace ++ [.arrived d (c.state.object d).duration]⟩ := by
  obtain ⟨hstarted, hticks⟩ := h.running d hd hrun
  have helapsed : (c.state.object d).duration.toNat ≤ elapsed d c.trace := by
    rw [hticks, UInt64.add_comm, UInt64.add_sub_cancel] at harrived
    calc (c.state.object d).duration.toNat
        ≤ (UInt64.ofNat (elapsed d c.trace)).toNat := UInt64.le_iff_toNat_le.mp harrived
      _ = elapsed d c.trace % 2 ^ 64 := UInt64.toNat_ofNat'
      _ ≤ elapsed d c.trace := Nat.mod_le ..
  refine ⟨fun x hx hrun' => ?_, h.independent.concat fun d' duration' he => ?_⟩
  · by_cases hxd : x = d
    · subst hxd
      simp only [Delays.set_self] at hrun'
      exact nomatch hrun'
    · simp only [Delays.set_ne _ _ hxd, Delays.set_tickCounter] at hrun' ⊢
      obtain ⟨hstarted', hticks'⟩ := h.running x hx hrun'
      refine ⟨List.mem_append_left _ hstarted', ?_⟩
      rw [elapsed_other (by simp) (by simp)]
      exact hticks'
  · cases he
    exact ⟨hstarted, helapsed⟩

/-- **Every step keeps the invariant.** -/
theorem Timed.step (h : Timed c) (i : DelayCall) (halone : Alone c i) :
    Timed (advance Delays.step c i) := by
  unfold advance
  cases i with
  | construct d durationValue uninitialised =>
    dsimp only [Delays.step]
    split
    · simpa using h
    · refine h.of_set ⟨durationValue, uninitialised, false⟩ (fun hrun => ?_) fun x hx hxd => ?_
      · cases hrun
      exact (Finset.mem_insert.mp hx).resolve_left hxd
  | destroy d =>
    dsimp only [Delays.step]
    rw [List.append_nil]
    exact ⟨fun x hx => h.running x (Finset.mem_of_mem_erase hx), h.independent⟩
  | write d durationValue =>
    dsimp only [Delays.step]
    split
    · next hd =>
      exact h.of_set ((c.state.object d).write durationValue) (fun hrun => ⟨hd, hrun, rfl⟩)
        fun x hx _ => hx
    · simpa using h
  | restart d =>
    dsimp only [Delays.step]
    split
    · exact h.of_start _ rfl
    · simpa using h
  | read d =>
    dsimp only [Delays.step]
    split
    · next hd =>
      unfold NonBlockingDelay.read
      by_cases hrun : (c.state.object d).isRunning = true
      · by_cases harrived :
          c.state.tickCounter - (c.state.object d).startTime ≥ (c.state.object d).duration
        · simpa [hrun, harrived] using h.of_arrival hd hrun harrived
        · have hkept := h.of_set (c.state.object d) (fun _ => ⟨hd, hrun, rfl⟩) fun x hx _ => hx
          simpa [hrun, harrived] using hkept
      · simpa [hrun] using h.of_start { c.state.object d with
          startTime := c.state.tickCounter, isRunning := true } rfl
    · simpa using h
  | period => exact h.of_period (halone rfl)

end Step

/-! ## The result

  The number of objects decides, and they stay alive throughout.  With one at most every run is
  good, with two there is a run that is not. -/

/-- The objects `live`, as many as there may be, and none of them running. -/
def Delays.Fresh (live : Finset Address) (s : Delays) : Prop :=
  s.live = live ∧ ∀ d ∈ live, (s.object d).isRunning = false

/-- Where nothing is running there is nothing to compare. -/
theorem Delays.Fresh.timed {live : Finset Address} {s : Delays} (h : s.Fresh live) :
    Timed ⟨s, []⟩ where
  running d hd hrun := by
    rw [h.2 d (h.1 ▸ hd)] at hrun
    exact nomatch hrun
  independent _ _ := precededBy_nil

/-- **In every run in which one object at most is alive when a period passes, the delays are
    independent.** -/
theorem independent_of_alone {live : Finset Address} {s : Delays} (hs : s.Fresh live)
    {is : List DelayCall} (halone : Always Delays.step Alone ⟨s, []⟩ is) :
    Independent (run Delays.step ⟨s, []⟩ is).trace :=
  (run_induction_of (I := Timed) hs.timed (fun _ i ha hI => hI.step i ha) halone).independent

/-- The calls that leave the objects alive that are. -/
def DelayCall.keepsObjects : DelayCall → Bool
  | .construct .. => false
  | .destroy _ => false
  | _ => true

/-- Such a call leaves them alive. -/
theorem Delays.step_live {s : Delays} {i : DelayCall} (hi : i.keepsObjects = true) :
    (s.step i).1.live = s.live := by
  cases i with
  | construct => cases hi
  | destroy => cases hi
  | period => rfl
  | _ =>
    dsimp only [Delays.step]
    split <;> rfl

/-- No more objects are alive than there are addresses. -/
theorem card_live_le (live : Finset Address) : live.card ≤ 2 ^ 32 := by
  have h := Finset.card_le_card_of_injOn (s := live) (t := Finset.range (2 ^ 32)) UInt32.toNat
    (fun d _ => Finset.mem_coe.mpr (Finset.mem_range.mpr d.toNat_lt))
    fun d _ d' _ h => UInt32.toNat_inj.mp h
  simpa using h

/-- A duration of two ticks, waited for. -/
def twoTicks (d : Address) : List DelayCall := [.write d 2, .restart d, .period, .read d]

/-- **Beside another object, two ticks pass in one period.** -/
theorem trace_twoTicks {s : Delays} {d : Address} (hd : d ∈ s.live) (hcard : 1 < s.live.card) :
    (run Delays.step ⟨s, []⟩ (twoTicks d)).trace = [.started d, .period, .arrived d 2] := by
  -- there are fewer objects than the counter has values, so their number is not wrapped
  have hticks : (2 : UInt64) ≤ UInt64.ofNat s.live.card := by
    have hfits := card_live_le s.live
    rw [UInt64.le_iff_toNat_le, UInt64.toNat_ofNat_of_lt' (by rw [UInt64.size]; omega)]
    exact hcard
  have hdifference : s.tickCounter + UInt64.ofNat s.live.card - s.tickCounter =
      UInt64.ofNat s.live.card := by
    rw [UInt64.add_comm, UInt64.add_sub_cancel]
  simp [twoTicks, advance, Delays.step, hd, Delays.set, NonBlockingDelay.write,
    NonBlockingDelay.restart, NonBlockingDelay.read, ticks_eq, hdifference, hticks]

/-- One period has passed since the object was started, and its duration says two. -/
theorem not_independent {s : Delays} {d : Address} (hd : d ∈ s.live) (hcard : 1 < s.live.card) :
    ¬ Independent (run Delays.step ⟨s, []⟩ (twoTicks d)).trace := by
  intro h
  rw [trace_twoTicks hd hcard] at h
  have hperiods : elapsed d [.started d, .period] = 1 := by
    simp [elapsed, since]
  have helapsed := (h d 2 [.started d, .period] [] rfl).2
  rw [hperiods] at helapsed
  exact absurd helapsed (by decide)

/-- **The delays of a set of objects are independent, in every interleaving of their calls with the
    periods, if and only if there is at most one of them.** -/
theorem delays_independent_iff (live : Finset Address) :
    (∀ s : Delays, s.Fresh live → ∀ is, (∀ i ∈ is, DelayCall.keepsObjects i = true) →
      Independent (run Delays.step ⟨s, []⟩ is).trace) ↔ live.card ≤ 1 := by
  constructor
  · intro h
    by_contra hcard
    obtain ⟨d, hd⟩ := Finset.card_pos.mp (show 0 < live.card by omega)
    refine not_independent (s := ⟨0, live, fun _ => ⟨0, 0, false⟩⟩) hd (Nat.lt_of_not_le hcard)
      (h _ ⟨rfl, fun _ _ => rfl⟩ _ fun i hi => ?_)
    simp only [twoTicks, List.mem_cons, List.not_mem_nil, or_false] at hi
    rcases hi with rfl | rfl | rfl | rfl <;> rfl
  · intro hcard s hs is hkeeps
    refine independent_of_alone hs ?_
    refine always_of (I := fun c => c.state.live = live) hs.1 (fun c i hi hlive => ?_)
      ((always_input_iff Delays.step).mpr hkeeps)
    exact ⟨fun _ => hlive ▸ hcard, (Delays.step_live hi).trans hlive⟩

/-- The four delays that the gateway constructs: of the cellular module, of its power manager, of the
    GNSS module, and its own. -/
def gatewayDelays : List DelayCall :=
  [.construct 0 1000 0, .construct 1 700 0, .construct 2 1000 0, .construct 3 8000 0]

/-- **The back-off of an acknowledgement**, 100 ticks, is over after 25 periods. -/
theorem backoff_cut_short :
    ¬ Independent (run Delays.step ⟨.initial, []⟩
      (gatewayDelays ++ [.write 3 SendingAck.backoffTimeMs, .restart 3] ++
        List.replicate 25 .period ++ [.read 3])).trace := by
  intro h
  have hread := h 3 100 (.started 3 :: List.replicate 25 .period) [] (by decide +kernel)
  exact absurd hread.2 (by decide)

end GatewayLoRa
