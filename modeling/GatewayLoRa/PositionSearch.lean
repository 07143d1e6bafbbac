/-
  A position search on a silent modem: does it come to an end?

  `GettingGNSSPosition` searches until the GNSS module reports `CONNECTION_OBTAIN` or
  `CONNECTION_UNAVAILABLE`.  `ConfigurateConstellation` counts its tries and reports the second
  after the twentieth.  But every search leaves the module in `TurningOffGNSS`, and the modem is
  switched off before that state has been served: the next search begins there, and
  `TurningOffGNSS` counts nothing.

  1. **Where a search begins** (`searchInvariant`) — between two searches the module rests in
     `GNSSUnavailable` or in `TurningOffGNSS`.

  2. **From the one, from the other** (`ends_of_unavailable`, `never_of_turningOff`) — the tries
     that are left are a measure; `TurningOffGNSS` is an invariant of silence.

  3. **The result** (`position_search_ends_iff`) — a search ends on a silent modem if and only if it
     begins in `GNSSUnavailable`, that is, if no search came before it.

  The crux is that the module outlives the search.  The state of the module is not a part of the
  state of the gateway, so whether a search ends is decided before it begins, by what the search
  before has left.  The invariant says that only two states are possible there; from the one the
  number of tries is a measure that falls with each expiry, and from the other a silent call changes
  nothing at all.
-/

import GatewayLoRa.System

namespace GatewayLoRa

open CMemory Machine

variable {φ : Type} {E : Platform φ}

/-- A status with which a search comes to its end. -/
def GNSSState.EndsSearch (s : GNSSState) : Prop :=
  s = .connectionObtain ∨ s = .connectionUnavailable

/-- A call of the search returns such a status. -/
def SystemEvent.EndsSearch (e : SystemEvent) : Prop :=
  ∃ s : GNSSState, s.EndsSearch ∧ e = .gnss (.status s)

/-- A call of the search on a silent modem: no line, and the refresh timer run out. -/
def silentSearch : SystemCall φ := .obtainGNSSPosition false ⟨none, true⟩

/-- The search comes to its end within `bound` silent calls. -/
def System.SearchEnds (E : Platform φ) (bound : Nat) (s : System φ) : Prop :=
  Within (System.step E) SystemEvent.EndsSearch silentSearch bound s

/-- The gateway has just changed to `GettingGNSSPosition`. -/
def StartsSearch (trace : List SystemEvent) : Prop :=
  ∃ before, trace = before ++ [.gateway (.changeState .gettingGNSSPosition)]

/-! ## One call of a search

  What the system does in a call, in terms of the module alone. -/

/-- A search goes on while the module is not being turned off. -/
theorem isSearching_iff {g : Gateway φ} :
    g.isSearching = true ↔ g.currentState = .gettingGNSSPosition ∧ g.moduleTurningOff = false := by
  simp [Gateway.isSearching]

/-- A call of the gateway that goes on with its search. -/
theorem call_searching {g : Gateway φ} (h : g.isSearching = true) (turnedOff : Bool)
    (status : GNSSState) (position : GNSSData φ) :
    call E g (.obtainGNSSPosition turnedOff status position) =
      ({ g with
        gatewayGNSSdata := position
        moduleTurningOff := status = .connectionObtain || status = .connectionUnavailable }, []) := by
  obtain ⟨hstate, hoff⟩ := isSearching_iff.mp h
  simp only [call, hstate, Gateway.obtainGNSSPosition, hoff]
  rfl

/-- What the module does in a call of a search. -/
def System.retriv (E : Platform φ) (s : System φ) (i : ATPoll) : GNSSStep φ :=
  s.gnss.enableGNSS.1.retrivGeopositioning E.floats s.gateway.gatewayGNSSdata i

/-- **One call of a search.** -/
theorem step_searching {s : System φ} (h : s.gateway.isSearching = true) (turnedOff : Bool)
    (i : ATPoll) :
    s.step E (.obtainGNSSPosition turnedOff i) =
      ({ s with
        gateway := { s.gateway with
          gatewayGNSSdata := (s.retriv E i).Geodata
          moduleTurningOff := (s.retriv E i).status = .connectionObtain ||
            (s.retriv E i).status = .connectionUnavailable }
        gnss := (s.retriv E i).state },
      (s.gnss.enableGNSS.2 ++ (s.retriv E i).events ++
        [GNSSEvent.status (s.retriv E i).status]).map .gnss) := by
  simp only [System.step, System.obtainGNSSPosition, if_pos h, call_searching h, System.retriv,
    List.map_nil, List.append_nil]
  rfl

/-- A call while no search goes on: nothing, or the module has been turned off. -/
theorem call_resting {g : Gateway φ} (h : g.isSearching = false) (turnedOff : Bool)
    (status : GNSSState) (position : GNSSData φ) :
    call E g (.obtainGNSSPosition turnedOff status position) = (g, []) ∨
      call E g (.obtainGNSSPosition turnedOff status position) =
        ({ g with moduleTurningOff := false, currentState := .waitingForMessage },
          [.changeState .waitingForMessage]) := by
  by_cases hstate : g.currentState = .gettingGNSSPosition
  · have hoff : g.moduleTurningOff = true := by
      by_contra hnot
      have hsearching := isSearching_iff.mpr ⟨hstate, Bool.eq_false_iff.mpr hnot⟩
      exact absurd (hsearching.symm.trans h) nofun
    simp only [call, hstate, Gateway.obtainGNSSPosition, hoff, if_true]
    cases turnedOff with
    | false => exact Or.inl rfl
    | true => exact Or.inr rfl
  · exact Or.inl (by simp only [call])

/-- The search goes on after a call that does not end it. -/
theorem goesOn_of_status {s : System φ} (h : s.gateway.isSearching = true) (turnedOff : Bool)
    {i : ATPoll} (hstatus : ¬ (s.retriv E i).status.EndsSearch) :
    (s.step E (.obtainGNSSPosition turnedOff i)).1.gateway.isSearching = true := by
  obtain ⟨hstate, -⟩ := isSearching_iff.mp h
  rw [step_searching h, isSearching_iff]
  refine ⟨hstate, ?_⟩
  simpa [GNSSState.EndsSearch] using hstatus

/-- A status that ends a search leaves the module in `TurningOffGNSS`. -/
theorem turningOff_of_status (s : GeopositioningState) (Geodata : GNSSData φ) (i : ATPoll)
    (h : (s.retrivGeopositioning E.floats Geodata i).status.EndsSearch) :
    (s.retrivGeopositioning E.floats Geodata i).state = .turningOffGNSS true := by
  revert h
  cases s with
  | gnssUnavailable => exact fun h => h.elim nofun nofun
  | configurateConstellation r n =>
    dsimp only [GeopositioningState.retrivGeopositioning,
      ConfigurateConstellation.retrivGeopositioning, GNSSStep.changes]
    (repeat' split) <;> first
      | exact fun _ => rfl
      | exact fun h => h.elim nofun nofun
  | turningOnGNSS r =>
    dsimp only [GeopositioningState.retrivGeopositioning, TurningOnGNSS.retrivGeopositioning,
      GNSSStep.changes]
    split <;> exact fun h => h.elim nofun nofun
  | obtainingPositionInformation r n =>
    dsimp only [GeopositioningState.retrivGeopositioning,
      ObtainingPositionInformation.retrivGeopositioning, GNSSStep.changes]
    (repeat' split) <;> first
      | exact fun _ => rfl
      | exact fun h => h.elim nofun nofun
  | turningOffGNSS r =>
    dsimp only [GeopositioningState.retrivGeopositioning, TurningOffGNSS.retrivGeopositioning,
      GNSSStep.changes]
    split <;> exact fun h => h.elim nofun nofun

/-! ## Where a search begins

  The invariant, over every run of the system.  It speaks of the moments between two searches;
  inside one the module may be in any state. -/

/-- Between two searches the module rests in one of these. -/
def GeopositioningState.isResting : GeopositioningState → Bool
  | .gnssUnavailable | .turningOffGNSS _ => true
  | _ => false

/-- **The invariant**: the module rests while no search goes on, it is only turned off in
    `GettingGNSSPosition`, and where a search starts there is one and the module rests. -/
structure SearchInvariant (c : Config (System φ) SystemEvent) : Prop where
  resting : c.state.gateway.isSearching = false → c.state.gnss.isResting = true
  turningOff : c.state.gateway.moduleTurningOff = true →
    c.state.gateway.currentState = .gettingGNSSPosition
  starts : StartsSearch c.trace →
    c.state.gateway.isSearching = true ∧ c.state.gnss.isResting = true

/-- Nothing starts with events of a kind other than this change of state. -/
theorem startsSearch_append {t es : List SystemEvent} (h : StartsSearch (t ++ es)) :
    (es = [] ∧ StartsSearch t) ∨ .gateway (.changeState .gettingGNSSPosition) ∈ es := by
  obtain ⟨before, heq⟩ := h
  rcases List.eq_nil_or_concat es with rfl | ⟨es', e, rfl⟩
  · exact Or.inl ⟨rfl, before, by simpa using heq⟩
  · rw [List.concat_eq_append, ← List.append_assoc] at heq
    obtain ⟨-, hlast⟩ := List.append_inj' heq rfl
    exact Or.inr (by simp [(List.cons.inj hlast).1])

/-- A call without a search that leaves the module alone. -/
theorem SearchInvariant.of_away {c c' : Config (System φ) SystemEvent} {es : List SystemEvent}
    (h : SearchInvariant c) (hsearching : c.state.gateway.isSearching = false)
    (hgnss : c'.state.gnss = c.state.gnss)
    (hoff : c'.state.gateway.moduleTurningOff = false) (htrace : c'.trace = c.trace ++ es)
    (hes : .gateway (.changeState .gettingGNSSPosition) ∉ es) : SearchInvariant c' := by
  refine ⟨fun _ => ?_, fun hon => ?_, fun hstarts => ?_⟩
  · rw [hgnss]
    exact h.resting hsearching
  · rw [hoff] at hon
    cases hon
  · rw [htrace] at hstarts
    rcases startsSearch_append hstarts with ⟨-, hbefore⟩ | hmem
    · rw [(h.starts hbefore).1] at hsearching
      cases hsearching
    · exact absurd hmem hes

/-- A call that does nothing. -/
theorem SearchInvariant.of_nothing {c : Config (System φ) SystemEvent} {i : SystemCall φ}
    (h : SearchInvariant c) (hstep : System.step E c.state i = (c.state, [])) :
    SearchInvariant (advance (System.step E) c i) := by
  have hadvance : advance (System.step E) c i = c := by
    simp only [advance, hstep, List.append_nil]
  rw [hadvance]
  exact h

/-- **A call of the search keeps it**: where it ends one, the module is in `TurningOffGNSS`. -/
theorem searchInvariant_obtainGNSSPosition {c : Config (System φ) SystemEvent}
    (h : SearchInvariant c) (turnedOff : Bool) (i : ATPoll) :
    SearchInvariant (advance (System.step E) c (.obtainGNSSPosition turnedOff i)) := by
  cases hsearching : c.state.gateway.isSearching with
  | true =>
    obtain ⟨hstate, -⟩ := isSearching_iff.mp hsearching
    have hstep := step_searching (E := E) hsearching turnedOff i
    refine ⟨fun hended => ?_, fun _ => ?_, fun hstarts => ?_⟩
    -- the search was left in this call, so its status ended it, and the module was turned off with
    -- it
    · have hstatus : (c.state.retriv E i).status.EndsSearch := by
        by_contra hnot
        have hgoesOn := goesOn_of_status (E := E) hsearching turnedOff hnot
        exact absurd (hgoesOn.symm.trans hended) nofun
      show ((System.step E c.state _).1.gnss).isResting = true
      rw [hstep]
      exact congrArg GeopositioningState.isResting (turningOff_of_status _ _ i hstatus)
    · show (System.step E c.state _).1.gateway.currentState = _
      rw [hstep]
      exact hstate
    · have hevents : StartsSearch (c.trace ++ (System.step E c.state _).2) := hstarts
      rw [hstep] at hevents
      rcases startsSearch_append hevents with ⟨hnil, -⟩ | hmem
      · simp at hnil
      · obtain ⟨e, -, he⟩ := List.mem_map.mp hmem
        cases he
  | false =>
    -- outside a search the module is not asked; the gateway waits for the power to be off, and goes
    -- on
    rcases call_resting (E := E) hsearching turnedOff .disconnected
      c.state.gateway.gatewayGNSSdata with hcall | hcall
    · refine h.of_nothing ?_
      simp only [System.step, System.obtainGNSSPosition, hsearching, hcall, Bool.false_eq_true,
        if_false, List.map_nil]
    · have hstep : System.step E c.state (.obtainGNSSPosition turnedOff i) =
          ({ c.state with gateway := { c.state.gateway with
            moduleTurningOff := false, currentState := .waitingForMessage } },
            [.gateway (.changeState .waitingForMessage)]) := by
        simp only [System.step, System.obtainGNSSPosition, hsearching, hcall, Bool.false_eq_true,
          if_false, List.map_cons, List.map_nil]
      have hadvance : advance (System.step E) c (.obtainGNSSPosition turnedOff i) =
          ⟨{ c.state with gateway := { c.state.gateway with
            moduleTurningOff := false, currentState := .waitingForMessage } },
            c.trace ++ [.gateway (.changeState .waitingForMessage)]⟩ := by
        simp only [advance, hstep]
      rw [hadvance]
      exact h.of_away hsearching rfl rfl rfl (by simp)

/-- The gateway is in another state than `GettingGNSSPosition`: no search goes on, and the module is
    not being turned off. -/
theorem SearchInvariant.elsewhere {c : Config (System φ) SystemEvent} (h : SearchInvariant c)
    (hstate : c.state.gateway.currentState ≠ .gettingGNSSPosition) :
    c.state.gateway.isSearching = false ∧ c.state.gateway.moduleTurningOff = false := by
  constructor
  · exact Bool.eq_false_iff.mpr fun hs => hstate (isSearching_iff.mp hs).1
  · exact Bool.eq_false_iff.mpr fun hoff => hstate (h.turningOff hoff)

theorem searchInvariant_connectToMobileNetwork {c : Config (System φ) SystemEvent}
    (h : SearchInvariant c) (i : ATPoll) :
    SearchInvariant (advance (System.step E) c (.connectToMobileNetwork i)) := by
  cases hstate : c.state.gateway.currentState with
  | connectingToMobileNetwork st =>
    obtain ⟨hsearching, hoff⟩ := h.elsewhere (by rw [hstate]; nofun)
    let r := c.state.connection.enableAndConnect i
    let g := c.state.gateway.connectToMobileNetwork st r.status
    have hgateway : g.1.moduleTurningOff = c.state.gateway.moduleTurningOff ∧
        .changeState .gettingGNSSPosition ∉ g.2 := by
      show (c.state.gateway.connectToMobileNetwork st r.status).1.moduleTurningOff = _ ∧
        _ ∉ (c.state.gateway.connectToMobileNetwork st r.status).2
      unfold Gateway.connectToMobileNetwork
      (repeat' split) <;> simp [Gateway.changeState]
    have hstep : System.step E c.state (.connectToMobileNetwork i) =
        ({ c.state with gateway := g.1, connection := r.state },
          r.events.map .connection ++ g.2.map .gateway) := by
      simp only [System.step, System.connectToMobileNetwork, hstate, call]
      rfl
    have htrace : (advance (System.step E) c (.connectToMobileNetwork i)).trace =
        c.trace ++ (r.events.map .connection ++ g.2.map .gateway) := by
      show c.trace ++ (System.step E c.state _).2 = _
      rw [hstep]
    refine h.of_away hsearching ?_ ?_ htrace ?_
    · show (System.step E c.state _).1.gnss = _
      rw [hstep]
    · show (System.step E c.state _).1.gateway.moduleTurningOff = false
      rw [hstep]
      exact hgateway.1.trans hoff
    · intro hmem
      rcases List.mem_append.mp hmem with hmem | hmem
      · obtain ⟨e, -, he⟩ := List.mem_map.mp hmem
        cases he
      · obtain ⟨e, he, heq⟩ := List.mem_map.mp hmem
        obtain rfl := SystemEvent.gateway.inj heq
        exact hgateway.2 he
  | _ =>
    refine h.of_nothing ?_
    simp only [System.step, System.connectToMobileNetwork, hstate]

theorem searchInvariant_other {c : Config (System φ) SystemEvent} (h : SearchInvariant c)
    (i : Call φ) (hother : i.asksModem = false) :
    SearchInvariant (advance (System.step E) c (.other i hother)) := by
  by_cases hstate : c.state.gateway.currentState = .gettingGNSSPosition
  · refine h.of_nothing ?_
    simp only [System.step, call_other_getting hstate hother]
    rfl
  · obtain ⟨hsearching, hoff⟩ := h.elsewhere hstate
    obtain ⟨hgateway, hgnss, es, hes, hquiet⟩ := step_other (E := E) c.state i hother
    have hresting := h.resting hsearching
    have hoff' : (System.step E c.state (.other i hother)).1.gateway.moduleTurningOff = false := by
      rw [hgateway, moduleTurningOff_other c.state.gateway hother, hoff]
    refine ⟨fun _ => ?_, fun hon => ?_, fun hstarts => ?_⟩
    · show (System.step E c.state _).1.gnss.isResting = true
      rw [hgnss, hresting]
    · exact absurd (hoff'.symm.trans hon) nofun
    · have hevents : StartsSearch (c.trace ++ (System.step E c.state (.other i hother)).2) :=
        hstarts
      show (System.step E c.state _).1.gateway.isSearching = true ∧
        (System.step E c.state _).1.gnss.isResting = true
      rw [hgnss]
      refine ⟨?_, hresting⟩
      rcases startsSearch_append hevents with ⟨-, hbefore⟩ | hmem
      · rw [(h.starts hbefore).1] at hsearching
        cases hsearching
      · -- the call has changed the state to `GettingGNSSPosition`
        rw [hes] at hmem
        have hchange : .changeState .gettingGNSSPosition ∈ (call E c.state.gateway i).2 := by
          rcases List.mem_append.mp hmem with hmem | hmem
          · exact absurd hmem (hquiet _)
          · obtain ⟨e, he, heq⟩ := List.mem_map.mp hmem
            obtain rfl := SystemEvent.gateway.inj heq
            exact he
        refine isSearching_iff.mpr ⟨?_, hoff'⟩
        rw [hgateway]
        rcases call_changes (E := E) c.state.gateway i with ⟨hnone, -⟩ | ⟨es', heq, hes', -⟩
        · exact absurd hchange (hnone _)
        · rw [heq] at hchange
          rcases List.mem_append.mp hchange with hmem | hmem
          · exact absurd hmem (hes' _)
          · exact (GatewayEvent.changeState.inj (List.mem_singleton.mp hmem)).symm

/-- **Where a search begins**, in every run. -/
theorem searchInvariant {s₀ : System φ} (hgnss : s₀.gnss = .gnssUnavailable)
    (hoff : s₀.gateway.moduleTurningOff = false) (is : List (SystemCall φ)) :
    SearchInvariant (run (System.step E) ⟨s₀, []⟩ is) := by
  have hfirst : SearchInvariant (⟨s₀, []⟩ : Config (System φ) SystemEvent) := by
    refine ⟨fun _ => ?_, fun hon => ?_, fun hstarts => ?_⟩
    · show s₀.gnss.isResting = true
      rw [hgnss]
      rfl
    · exact absurd (hoff.symm.trans hon) nofun
    · obtain ⟨before, heq⟩ := hstarts
      simp at heq
  refine run_induction hfirst (fun c i h => ?_) is
  cases i with
  | obtainGNSSPosition turnedOff i => exact searchInvariant_obtainGNSSPosition h turnedOff i
  | connectToMobileNetwork i => exact searchInvariant_connectToMobileNetwork h i
  | other i hother => exact searchInvariant_other h i hother

/-! ## From the one, and from the other -/

/-- The tries that are left. -/
def GeopositioningState.triesLeft : GeopositioningState → Nat
  | .gnssUnavailable => 19
  | .configurateConstellation _ numberOfTries => 19 - numberOfTries
  | _ => 0

/-- The module is still to be configured. -/
def GeopositioningState.isConfigurating : GeopositioningState → Bool
  | .gnssUnavailable | .configurateConstellation .. => true
  | _ => false

/-- A silent call in one of these states gives up, or uses a try. -/
theorem retriv_configurating {s : System φ} (hs : s.gnss.isConfigurating = true) :
    (s.retriv E ⟨none, true⟩).status = .connectionUnavailable ∨
      ((s.retriv E ⟨none, true⟩).status = .tryingToConnect ∧
        (s.retriv E ⟨none, true⟩).state.isConfigurating = true ∧
          (s.retriv E ⟨none, true⟩).state.triesLeft < s.gnss.triesLeft) := by
  obtain ⟨gateway, gnss, connection⟩ := s
  cases gnss with
  | gnssUnavailable => exact Or.inr ⟨rfl, rfl, Nat.lt_succ_self 18⟩
  | configurateConstellation r n =>
    show (ConfigurateConstellation.retrivGeopositioning r n gateway.gatewayGNSSdata _).status = _ ∨
      ((ConfigurateConstellation.retrivGeopositioning r n gateway.gatewayGNSSdata _).status = _ ∧
        (ConfigurateConstellation.retrivGeopositioning r n gateway.gatewayGNSSdata
          _).state.isConfigurating = true ∧
        (ConfigurateConstellation.retrivGeopositioning r n gateway.gatewayGNSSdata
          _).state.triesLeft < 19 - n)
    by_cases hlast : n + 1 ≥ 20
    · apply Or.inl
      simp [ConfigurateConstellation.retrivGeopositioning, readATResponse, GNSSStep.changes, hlast]
    · apply Or.inr
      simp only [ConfigurateConstellation.retrivGeopositioning, readATResponse, Option.map_none,
        Option.any_none, Bool.false_eq_true, if_false, if_true, if_neg hlast]
      refine ⟨trivial, rfl, ?_⟩
      show 19 - (n + 1) < 19 - n
      omega
  | _ => cases hs

/-- What a silent call leaves of the module, and what it does. -/
theorem step_silentSearch {s : System φ} (h : s.gateway.isSearching = true) :
    (System.step E s silentSearch).1.gnss = (s.retriv E ⟨none, true⟩).state ∧
      (System.step E s silentSearch).2 =
        (s.gnss.enableGNSS.2 ++ (s.retriv E ⟨none, true⟩).events ++
          [GNSSEvent.status (s.retriv E ⟨none, true⟩).status]).map .gnss := by
  rw [silentSearch, step_searching h]
  exact ⟨rfl, rfl⟩

/-- **A search that begins where the module is still to be configured ends within twenty calls.** -/
theorem ends_of_configurating {s : System φ} (hsearching : s.gateway.isSearching = true)
    (hs : s.gnss.isConfigurating = true) : s.SearchEnds E 20 := by
  have hwithin : Within (System.step E) SystemEvent.EndsSearch silentSearch
      (s.gnss.triesLeft + 1) s := by
    refine within_of_measure (m := fun s : System φ => s.gnss.triesLeft)
      (I := fun s : System φ => s.gateway.isSearching = true ∧ s.gnss.isConfigurating = true)
      (fun s hs => ?_) ⟨hsearching, hs⟩
    obtain ⟨hgnss, hevents⟩ := step_silentSearch (E := E) hs.1
    rcases retriv_configurating (E := E) hs.2 with hstatus | ⟨hstatus, hnext, hless⟩
    · refine Or.inl ⟨.gnss (.status .connectionUnavailable), ?_, _, Or.inr rfl, rfl⟩
      rw [hevents, hstatus]
      simp
    · refine Or.inr ⟨⟨goesOn_of_status hs.1 false (i := ⟨none, true⟩) ?_, ?_⟩, ?_⟩
      · rw [hstatus]
        exact fun h => h.elim nofun nofun
      · show (System.step E s silentSearch).1.gnss.isConfigurating = true
        rw [hgnss]
        exact hnext
      · show (System.step E s silentSearch).1.gnss.triesLeft < _
        rw [hgnss]
        exact hless
  refine hwithin.mono ?_
  cases s.gnss with
  | configurateConstellation r n =>
    show 19 - n + 1 ≤ 20
    omega
  | _ => simp [GeopositioningState.triesLeft]

/-- **A search that begins in `TurningOffGNSS` never ends.** -/
theorem never_of_turningOff {s : System φ} (hsearching : s.gateway.isSearching = true)
    {r : Bool} (hs : s.gnss = .turningOffGNSS r) (bound : Nat) : ¬ s.SearchEnds E bound := by
  refine not_within (I := fun s : System φ => s.gateway.isSearching = true ∧
    ∃ r, s.gnss = .turningOffGNSS r) ?_ ⟨hsearching, r, hs⟩ bound
  rintro s ⟨hsearching, r, hs⟩
  have hretriv : (s.retriv E ⟨none, true⟩).status = .disconnected ∧
      (s.retriv E ⟨none, true⟩).state = .turningOffGNSS true ∧
      (s.retriv E ⟨none, true⟩).events = GNSSEvent.commands r [ascii "AT+QGPS=0"] := by
    unfold System.retriv
    rw [hs]
    exact ⟨rfl, rfl, List.append_nil _⟩
  obtain ⟨hstatus, hstate, hasked⟩ := hretriv
  obtain ⟨hgnss, hevents⟩ := step_silentSearch (E := E) hsearching
  refine ⟨⟨goesOn_of_status hsearching false (i := ⟨none, true⟩) ?_, true, ?_⟩, ?_⟩
  · rw [hstatus]
    exact fun h => h.elim nofun nofun
  · show (System.step E s silentSearch).1.gnss = _
    rw [hgnss]
    exact hstate
  · rintro e he ⟨status, hends, rfl⟩
    rw [hevents, hstatus, hasked, hs] at he
    have hdisconnected : status = .disconnected := by
      cases r <;> simpa [GeopositioningState.enableGNSS, GNSSEvent.commands] using he
    subst hdisconnected
    exact hends.elim nofun nofun

/-! ## The result -/

/-- **A search ends on a silent modem if and only if it begins in `GNSSUnavailable`**: then within
    twenty calls, otherwise never, whatever came before. -/
theorem position_search_ends_iff (E : Platform φ) (recepted : Recepted φ) (RSSI : Int)
    (gatewayGNSSdata : GNSSData φ) (startTime : UInt64) (is : List (SystemCall φ))
    (hstarts : StartsSearch (run (System.step E)
      ⟨.initial recepted RSSI gatewayGNSSdata startTime, []⟩ is).trace) :
    let s := (run (System.step E) ⟨.initial recepted RSSI gatewayGNSSdata startTime, []⟩ is).state
    (s.SearchEnds E 20 ↔ s.gnss = .gnssUnavailable) ∧
      ∀ bound, s.SearchEnds E bound → s.SearchEnds E 20 := by
  intro s
  have hinvariant : SearchInvariant (run (System.step E)
      ⟨.initial recepted RSSI gatewayGNSSdata startTime, []⟩ is) :=
    searchInvariant rfl rfl is
  obtain ⟨hsearching, hresting⟩ := hinvariant.starts hstarts
  cases hs : s.gnss with
  | gnssUnavailable =>
    have hends : s.SearchEnds E 20 := by
      refine ends_of_configurating hsearching ?_
      rw [hs]
      rfl
    exact ⟨iff_of_true hends rfl, fun _ _ => hends⟩
  | turningOffGNSS r =>
    have hnever := never_of_turningOff (E := E) hsearching hs
    exact ⟨iff_of_false (hnever 20) nofun, fun bound h => absurd h (hnever bound)⟩
  | _ =>
    have : s.gnss.isResting = true := hresting
    rw [hs] at this
    cases this

/-- The first search ends. -/
theorem first_search_ends :
    let s := (run (System.step .reference) ⟨.initial nothingRecepted 0 origin 0, []⟩
      (SystemCall.others [.updatePowerStatus true])).state
    (s.SearchEnds .reference 20 ↔ s.gnss = .gnssUnavailable) ∧
      ∀ bound, s.SearchEnds .reference bound → s.SearchEnds .reference 20 :=
  position_search_ends_iff .reference nothingRecepted 0 origin 0
    (SystemCall.others [.updatePowerStatus true]) ⟨[], by decide⟩

/-- A cycle on a silent modem, up to the second search. -/
def searchesAgain : List (SystemCall Int) :=
  attemptBegins [] 0 ++ attemptFails ++ SystemCall.others [.updatePowerStatus true]

/-- **No bound is one for every search**: the second search begins where the first has left the
    module, and does not come to its end. -/
theorem no_bound_for_search :
    ¬ ∃ bound, ∀ is : List (SystemCall Int),
      StartsSearch (run (System.step .reference) startedSystem is).trace →
        (run (System.step .reference) startedSystem is).state.SearchEnds .reference bound := by
  rintro ⟨bound, hbound⟩
  have hrun : let c := run (System.step .reference) startedSystem searchesAgain
      c.trace.getLast? = some (.gateway (.changeState .gettingGNSSPosition)) ∧
        c.state.gateway.isSearching = true ∧ c.state.gnss = .turningOffGNSS true := by
    decide +kernel
  obtain ⟨hlast, hsearching, hgnss⟩ := hrun
  exact never_of_turningOff hsearching hgnss bound
    (hbound searchesAgain (List.getLast?_eq_some_iff.mp hlast))

end GatewayLoRa
