/-
  RUNS of a deterministic machine that reads inputs and emits events, with the induction over a
  run packaged once.

  A machine is a step function `σ → ι → σ × List ω`.  A `Config` is where a run stands: the state
  and the TRACE of everything emitted so far, so that an invariant may speak of the history as
  well as of the state.  Every result about runs is then two goals, one about the first
  configuration and one about a single step:

  * `run_induction`     — what every step preserves holds at the end of every run;
  * `run_induction_of`  — the same when only the steps that meet a condition preserve it
    (`Always P c is` = every step of the run of `is` from `c` meets `P`).

  What a run is asked about its trace comes in three shapes: what happened SINCE the last event of a
  kind (`since`), that one event is PRECEDED by something each time it occurs (`PrecededBy`), and
  what stands before and after EACH event (`EachEvent`).

  What a machine is asked when nothing new happens around it is whether it comes to an end: `Within`
  repeats one input.  `within_of_measure` is the rule for an end that is reached, `not_within` for
  one that is not.

  The crux of every use is the choice of the invariant `I` of `run_induction`: it may speak of the
  trace, so what a machine has forgotten (which command it sent last, how often a timer expired) can
  still be said of the state it is in.  The other rules are this one in other clothes:
  `run_induction_of` and `always_of` carry a condition on the steps along with it, and the lemmas on
  traces say how the three shapes grow by the events of one step.

  `inSteps` composes machines: a machine whose step is a run of another one inherits every result
  about the runs of that one (`run_inSteps`).
-/

namespace Machine

variable {σ ι ω : Type}

/-- Where a run stands: the state, and the events emitted so far.

    The trace is no part of the machine, which never reads it.  It is kept so that a statement about
    a state may also speak of how it was reached. -/
structure Config (σ ω : Type) where
  state : σ
  trace : List ω

/-- One step of the machine, its events appended to the trace. -/
def advance (step : σ → ι → σ × List ω) (c : Config σ ω) (i : ι) : Config σ ω :=
  ⟨(step c.state i).1, c.trace ++ (step c.state i).2⟩

/-- The run of a list of inputs, from the left.  It is deterministic: whatever the environment
    chooses (a line of a modem, a timer, a lost packet) is part of the input. -/
def run (step : σ → ι → σ × List ω) (c : Config σ ω) : List ι → Config σ ω
  | [] => c
  | i :: is => run step (advance step c i) is

variable {step : σ → ι → σ × List ω} {c : Config σ ω}

@[simp] theorem run_nil : run step c [] = c := rfl

@[simp] theorem run_cons (i : ι) (is : List ι) :
    run step c (i :: is) = run step (advance step c i) is := rfl

/-- A run may be cut in two anywhere: the second half goes on where the first one stands. -/
theorem run_append (is js : List ι) : run step c (is ++ js) = run step (run step c is) js := by
  induction is generalizing c with
  | nil => rfl
  | cons i is ih => exact ih

/-- **Induction over a run.** The induction is on the list of inputs, with the configuration
    general, so `I` holds at the beginning of what is left to run. -/
theorem run_induction {I : Config σ ω → Prop} (hc : I c)
    (hstep : ∀ c i, I c → I (advance step c i)) (is : List ι) : I (run step c is) := by
  induction is generalizing c with
  | nil => exact hc
  | cons i is ih => exact ih (hstep c i hc)

/-- Every step of the run meets `P`, a condition on where the run stands and the input.

    `P` sees the configuration BEFORE the step, so it can state what a call is given but not what it
    answers; a promise about the answer is put as `Q` of `always_of`. -/
def Always (step : σ → ι → σ × List ω) (P : Config σ ω → ι → Prop) (c : Config σ ω) :
    List ι → Prop
  | [] => True
  | i :: is => P c i ∧ Always step P (advance step c i) is

/-- **Induction over a run whose steps all meet a condition.** -/
theorem run_induction_of {P : Config σ ω → ι → Prop} {I : Config σ ω → Prop} (hc : I c)
    (hstep : ∀ c i, P c i → I c → I (advance step c i)) {is : List ι}
    (his : Always step P c is) : I (run step c is) := by
  induction is generalizing c with
  | nil => exact hc
  | cons i is ih => exact ih (hstep c i his.1 hc) his.2

/-- A condition may be weakened step by step. -/
theorem Always.mp {P Q : Config σ ω → ι → Prop} {is : List ι} (h : Always step P c is)
    (hPQ : ∀ c i, P c i → Q c i) : Always step Q c is := by
  induction is generalizing c with
  | nil => trivial
  | cons i is ih => exact ⟨hPQ c i h.1, ih h.2⟩

/-- **What an invariant implies of each step** holds of all steps of a run.  Unlike
    `run_induction_of`, which speaks of the end of the run, this says something of every step on the
    way; an equivalence of two conditions over runs is two uses of it. -/
theorem always_of {P Q : Config σ ω → ι → Prop} {I : Config σ ω → Prop} {is : List ι}
    (hc : I c) (hstep : ∀ c i, P c i → I c → Q c i ∧ I (advance step c i))
    (his : Always step P c is) : Always step Q c is := by
  induction is generalizing c with
  | nil => trivial
  | cons i is ih =>
    obtain ⟨hnow, hnext⟩ := hstep c i his.1 hc
    exact ⟨hnow, ih hnext his.2⟩

/-- A condition on the inputs alone holds of all steps when it holds of all inputs. -/
theorem always_input_iff (step : σ → ι → σ × List ω) {P : ι → Prop} {is : List ι} :
    Always step (fun _ i => P i) c is ↔ ∀ i ∈ is, P i := by
  induction is generalizing c with
  | nil => simp [Always]
  | cons i is ih => simp only [Always, ih, List.forall_mem_cons]

/-- A condition on a run cut in two. -/
theorem always_append {P : Config σ ω → ι → Prop} {is js : List ι} :
    Always step P c (is ++ js) ↔ Always step P c is ∧ Always step P (run step c is) js := by
  induction is generalizing c with
  | nil => simp [Always]
  | cons i is ih =>
    simp only [List.cons_append, Always, run_cons, ih, and_assoc]

/-- The trace only grows. -/
theorem trace_grows (is : List ι) : c.trace <+: (run step c is).trace := by
  induction is generalizing c with
  | nil => exact List.prefix_rfl
  | cons i is ih => exact (List.prefix_append c.trace _).trans (ih (c := advance step c i))

instance Always.decidable {P : Config σ ω → ι → Prop} [∀ c i, Decidable (P c i)] :
    (c : Config σ ω) → (is : List ι) → Decidable (Always step P c is)
  | _, [] => isTrue trivial
  | c, i :: is =>
    -- the condition is decided from the left; the first step that fails it decides the run
    match ‹∀ c i, Decidable (P c i)› c i, Always.decidable (advance step c i) is with
    | isTrue h, isTrue hs => isTrue ⟨h, hs⟩
    | isFalse h, _ => isFalse fun hs => h hs.1
    | _, isFalse h => isFalse fun hs => h hs.2

/-! ## Steps made of steps

  A program often calls a small machine several times in one call of its own.  Its runs are then
  runs of the small machine, with the inputs of the calls joined together. -/

/-- What was emitted before does not change a run: it only stands in front of the trace.  So a run
    from any configuration is a run from an empty trace. -/
theorem run_eq (is : List ι) :
    run step c is = ⟨(run step ⟨c.state, []⟩ is).state,
      c.trace ++ (run step ⟨c.state, []⟩ is).trace⟩ := by
  induction is generalizing c with
  | nil => simp
  | cons i is ih =>
    rw [run_cons, run_cons, ih, ih (c := advance step ⟨c.state, []⟩ i)]
    simp [advance]

/-- A machine whose step is a run of another one: each of its inputs is a list of inputs there. -/
def inSteps {κ : Type} (step : σ → ι → σ × List ω) (inputs : κ → List ι) (s : σ) (k : κ) :
    σ × List ω :=
  ((run step ⟨s, []⟩ (inputs k)).state, (run step ⟨s, []⟩ (inputs k)).trace)

/-- **A run of runs is a run**: the machine `inSteps` on a list of inputs does what the inner
    machine does on all their lists, one after the other. -/
theorem run_inSteps {κ : Type} {inputs : κ → List ι} (ks : List κ) :
    run (inSteps step inputs) c ks = run step c (ks.flatMap inputs) := by
  induction ks generalizing c with
  | nil => rfl
  | cons k ks ih =>
    rw [run_cons, List.flatMap_cons, run_append, ih, run_eq (c := c) (inputs k)]
    rfl

/-! ## Traces

  Three questions about a history.  `since` forgets everything up to the last event of a kind, which
  is what a session or a state of a state machine means in a trace.  `PrecededBy` and `EachEvent`
  cut the trace at an event; both are stated with all ways to cut it, so no position has to be
  named. -/

/-- The events since the last one of the kind `p`; the whole trace if there was none. -/
def since (p : ω → Bool) (trace : List ω) : List ω :=
  trace.foldl (fun es e => if p e then [] else es ++ [e]) []

variable {p : ω → Bool} {t es : List ω}

/-- One more event: it is of the kind and begins anew, or it joins what came since. -/
theorem since_concat (e : ω) : since p (t ++ [e]) = if p e then [] else since p t ++ [e] := by
  simp [since]

/-- Events that are not of the kind only add to what came since. -/
theorem since_append (h : ∀ e ∈ es, p e = false) : since p (t ++ es) = since p t ++ es := by
  induction es generalizing t with
  | nil => simp
  | cons e es ih =>
    have he : since p (t ++ [e]) = since p t ++ [e] := by
      rw [since_concat, h e (List.mem_cons_self ..)]
      rfl
    rw [List.append_cons, ih (fun x hx => h x (List.mem_cons_of_mem e hx)), he]
    simp

/-- Each time `a` occurs, what came before it meets `P`. -/
def PrecededBy (P : List ω → Prop) (a : ω) (trace : List ω) : Prop :=
  ∀ before after, trace = before ++ a :: after → P before

theorem precededBy_nil {P : List ω → Prop} {a : ω} : PrecededBy P a [] := by
  intro before after h
  simp at h

/-- **One more event** is a new place to look at only when it is `a` itself, and then all of the old
    trace came before it. -/
theorem PrecededBy.concat {P : List ω → Prop} {a e : ω} (h : PrecededBy P a t)
    (he : e = a → P t) : PrecededBy P a (t ++ [e]) := by
  intro before after heq
  -- the cut is at the last event, or inside the old trace
  rcases List.eq_nil_or_concat after with rfl | ⟨after', b, rfl⟩
  · obtain ⟨rfl, hlast⟩ := List.append_inj' heq rfl
    exact he (List.cons.inj hlast).1
  · rw [List.concat_eq_append, ← List.cons_append, ← List.append_assoc] at heq
    exact h before after' (List.append_inj' heq rfl).1

/-- Events among which `a` is not leave the property alone, whatever they are. -/
theorem PrecededBy.append {P : List ω → Prop} {a : ω} (h : PrecededBy P a t) (hes : a ∉ es) :
    PrecededBy P a (t ++ es) := by
  induction es generalizing t with
  | nil => simpa using h
  | cons e es ih =>
    rw [List.append_cons]
    refine ih (h.concat fun he => absurd he ?_) fun hmem => hes (List.mem_cons_of_mem e hmem)
    rintro rfl
    exact hes (List.mem_cons_self ..)

/-- **Several more events at once**: they have to meet the property with the old trace put in front
    of what came before. -/
theorem PrecededBy.append_of {P : List ω → Prop} {a : ω} (h : PrecededBy P a t)
    (hes : PrecededBy (fun before => P (t ++ before)) a es) : PrecededBy P a (t ++ es) := by
  intro before after heq
  rcases List.append_eq_append_iff.mp heq with ⟨mid, rfl, hmid⟩ | ⟨mid, rfl, hmid⟩
  · exact hes mid after hmid
  · cases mid with
    | nil =>
      have := hes [] after hmid.symm
      simpa using this
    | cons b mid =>
      obtain ⟨rfl, -⟩ := List.cons.inj hmid
      exact h before mid rfl

/-- Events renamed by an injective function, as when the events of a part become events of the
    whole. -/
theorem PrecededBy.map {α : Type} {f : α → ω} (hf : ∀ x y, f x = f y → x = y) {P : List ω → Prop}
    {a : α} {es : List α} (h : PrecededBy (fun before => P (before.map f)) a es) :
    PrecededBy P (f a) (es.map f) := by
  intro before after heq
  obtain ⟨es₁, es₂, rfl, rfl, htail⟩ := List.map_eq_append_iff.mp heq
  obtain ⟨b, es₃, rfl, hb, -⟩ := List.map_eq_cons_iff.mp htail
  obtain rfl := hf b a hb
  exact h es₁ es₃ rfl

/-- Every event meets `P`, a condition on what came before it, on the event, and on what came after
    it. -/
def EachEvent (P : List ω → ω → List ω → Prop) (trace : List ω) : Prop :=
  ∀ before e after, trace = before ++ e :: after → P before e after

variable {P : List ω → ω → List ω → Prop}

theorem eachEvent_nil : EachEvent P [] := by
  intro before e after h
  simp at h

theorem eachEvent_cons {e : ω} (he : P [] e es)
    (hes : EachEvent (fun before => P (e :: before)) es) : EachEvent P (e :: es) := by
  intro before a after h
  cases before with
  | nil =>
    obtain ⟨rfl, rfl⟩ := List.cons.inj h
    exact he
  | cons b before =>
    obtain ⟨rfl, hrest⟩ := List.cons.inj h
    exact hes before a after hrest

/-- A condition that more events do not break is kept when events are appended that meet it. -/
theorem EachEvent.append (hmono : ∀ before e after more, P before e after →
    P before e (after ++ more)) (h : EachEvent P t)
    (hes : EachEvent (fun before => P (t ++ before)) es) : EachEvent P (t ++ es) := by
  intro before e after heq
  rcases List.append_eq_append_iff.mp heq with ⟨mid, rfl, hmid⟩ | ⟨mid, rfl, hmid⟩
  · exact hes mid e after hmid
  · cases mid with
    | nil =>
      have := hes [] e after hmid.symm
      simpa using this
    | cons b mid =>
      obtain ⟨rfl, rfl⟩ := List.cons.inj hmid
      exact hmono _ _ _ _ (h before e mid rfl)

/-! ## Repeating one input

  A device that has fallen silent gives the same input for ever: no line, and a timer that has
  expired.  Whether the machine then comes to an end is a question about one input repeated. -/

/-- Within `n` steps, all on the input `i`, an event is emitted that meets `p`. -/
def Within (step : σ → ι → σ × List ω) (p : ω → Prop) (i : ι) : Nat → σ → Prop
  | 0, _ => False
  | n + 1, s => (∃ e ∈ (step s i).2, p e) ∨ Within step p i n (step s i).1

section Within

variable {p : ω → Prop} {i : ι}

/-- More steps do no harm. -/
theorem Within.mono {n m : Nat} {s : σ} (h : Within step p i n s) (hnm : n ≤ m) :
    Within step p i m s := by
  induction m generalizing n s with
  | zero =>
    obtain rfl := Nat.le_zero.mp hnm
    exact h
  | succ m ih =>
    cases n with
    | zero => exact h.elim
    | succ n =>
      rcases h with hnow | hlater
      · exact Or.inl hnow
      · exact Or.inr (ih hlater (Nat.le_of_succ_le_succ hnm))

/-- **A measure that goes down until the event comes** bounds the number of steps.  The invariant
    `I` has to be kept only while the event has not come, so it may speak of the states on the way
    alone. -/
theorem within_of_measure {I : σ → Prop} {m : σ → Nat}
    (hstep : ∀ s, I s → (∃ e ∈ (step s i).2, p e) ∨
      (I (step s i).1 ∧ m (step s i).1 < m s))
    {s : σ} (hs : I s) : Within step p i (m s + 1) s := by
  generalize hn : m s = n
  induction n using Nat.strongRecOn generalizing s with
  | ind n ih =>
    rcases hstep s hs with hnow | ⟨hs', hless⟩
    · exact Or.inl hnow
    · subst hn
      exact Or.inr ((ih _ hless hs' rfl).mono hless)

/-- **An invariant under which the event does not come** keeps it from ever coming, for every bound
    at once.  This is how a missing time-out is shown: the invariant is the loop that the machine
    turns in. -/
theorem not_within {I : σ → Prop}
    (hstep : ∀ s, I s → I (step s i).1 ∧ ∀ e ∈ (step s i).2, ¬ p e) {s : σ} (hs : I s) (n : Nat) :
    ¬ Within step p i n s := by
  induction n generalizing s with
  | zero => exact not_false
  | succ n ih =>
    rintro (⟨e, he, hp⟩ | hlater)
    · exact (hstep s hs).2 e he hp
    · exact ih (hstep s hs).1 hlater

end Within

end Machine
