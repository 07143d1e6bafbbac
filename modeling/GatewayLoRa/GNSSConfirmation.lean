/-
  Does the GNSS machine go on because the modem confirmed it?

  `TurningOnGNSS` is to go on when the modem answers `OK`, or that GNSS is on already, and
  `TurningOffGNSS` when it answers `OK`, or that GNSS is off already.  In both the second comparison
  lacks its `== 0`: the very line that says "already" is the only one that does NOT let the machine
  go on, and an echo or a notice of the network does.

  1. **The two states** (`turningOn_next`, `turningOff_next`) — what a call does with a line.

  2. **One call** (`followsConfirmation_iff`) — it follows the modem if and only if it reads no
     line, or `OK`.

  3. **The result** (`gnss_follows_confirmations_iff`) — a run follows the modem if and only if each
     of its calls reads no other line in these two states; then a position is only requested
     after the modem confirmed that GNSS is on.

  The crux is that both sides are boolean functions of one line.  The promise is `any confirms`,
  what the code does is `any (≠ already)`, and the two agree on every line that is `OK` and on no
  other (`any_ne_eq_any_confirms`).  So one call is settled for both states at once.  For the second
  half, that a position is asked for only after a confirmation, the proof needs to look back: the
  line was read some calls ago, and in between the machine may have asked many times.  `ConfirmedOn`
  says it of the history, and `GNSSEffect` is what a call does to a history.
-/

import GatewayLoRa.GNSSModule

namespace GatewayLoRa

open CMemory Machine ObtainingPositionInformation

variable {φ : Type} {F : Floats φ}

/-- The modem confirms that GNSS is on: `OK`, or "already on". -/
def confirmsOn (line : Bytes) : Bool := line = okLine || line = alreadyOnLine

/-- The modem confirms that GNSS is off: `OK`, or "already off". -/
def confirmsOff (line : Bytes) : Bool := line = okLine || line = alreadyOffLine

/-- The machine asks for a position, -/
def GeopositioningState.isObtaining : GeopositioningState → Bool
  | .obtainingPositionInformation .. => true
  | _ => false

/-- or is turning GNSS on. -/
def GeopositioningState.isTurningOn : GeopositioningState → Bool
  | .turningOnGNSS .. => true
  | _ => false

/-- **A call follows the modem**: `TurningOnGNSS` goes on exactly on a line that confirms that GNSS
    is on, and `TurningOffGNSS` exactly on one that confirms that it is off. -/
def FollowsConfirmation (F : Floats φ) (s : GeopositioningState) (i : GNSSInput φ) : Prop :=
  match s, i with
  | .turningOnGNSS _, .retriv _ p =>
      (s.step F i).1.isObtaining = (readATResponse 128 p.line).any confirmsOn
  | .turningOffGNSS _, .retriv _ p =>
      decide ((s.step F i).1 = .gnssUnavailable) = (readATResponse 128 p.line).any confirmsOff
  | _, _ => True

/-- The state now is `TurningOnGNSS`. -/
def GNSSEvent.isTurningOn : GNSSEvent → Bool
  | .changeGeopositioningState s => s.isTurningOn
  | _ => false

/-- The modem confirmed that GNSS is on, since GNSS was last turned on, and the machine went on with
    that line. -/
def ConfirmedOn (before : List GNSSEvent) : Prop :=
  .changeGeopositioningState (.turningOnGNSS true) ∈ before ∧
    ∃ line, confirmsOn line = true ∧
      [.read line, .changeGeopositioningState (.obtainingPositionInformation true 0)] <:+:
        since GNSSEvent.isTurningOn before

/-- **A run follows the modem.** -/
structure FollowsModem (F : Floats φ) (is : List (GNSSInput φ)) : Prop where
  calls : Always (GeopositioningState.step F) (fun c i => FollowsConfirmation F c.state i)
    ⟨.gnssUnavailable, []⟩ is
  requests : PrecededBy ConfirmedOn (.command positionCommand)
    (run (GeopositioningState.step F) ⟨.gnssUnavailable, []⟩ is).trace

/-- In the two states that wait for a confirmation, no line is read but `OK`. -/
def ReadsOnlyOK (s : GeopositioningState) (i : GNSSInput φ) : Prop :=
  match s, i with
  | .turningOnGNSS _, .retriv _ p | .turningOffGNSS _, .retriv _ p =>
      (readATResponse 128 p.line).all fun line => line = okLine
  | _, _ => True

/-! ## What a call does with a line

  The two states, each in one equation. -/

/-- `TurningOnGNSS` goes on with any line but one, -/
theorem turningOn_next (r : Bool) (Geodata : GNSSData φ) (i : ATPoll) :
    (TurningOnGNSS.retrivGeopositioning r Geodata i).state.isObtaining =
      (readATResponse 128 i.line).any fun line => line ≠ alreadyOnLine := by
  unfold TurningOnGNSS.retrivGeopositioning
  cases hline : readATResponse 128 i.line with
  | none => rfl
  | some line =>
    by_cases halready : line = alreadyOnLine
    · subst halready
      rfl
    · simp [strcmp_eq_zero, halready, GNSSStep.changes, GeopositioningState.isObtaining]

/-- and so does `TurningOffGNSS`, with another exception. -/
theorem turningOff_next (r : Bool) (Geodata : GNSSData φ) (i : ATPoll) :
    decide ((TurningOffGNSS.retrivGeopositioning r Geodata i).state = .gnssUnavailable) =
      (readATResponse 128 i.line).any fun line => line ≠ alreadyOffLine := by
  unfold TurningOffGNSS.retrivGeopositioning
  cases hline : readATResponse 128 i.line with
  | none => rfl
  | some line =>
    by_cases halready : line = alreadyOffLine
    · subst halready
      rfl
    · simp [strcmp_eq_zero, halready, GNSSStep.changes]

/-- "Not this answer" is "`OK` or this answer" for `OK` alone. -/
theorem any_ne_eq_any_confirms {already : Bytes} (halready : okLine ≠ already)
    (line : Option Bytes) :
    (line.any fun l => l ≠ already) = (line.any fun l => l = okLine || l = already) ↔
      (line.all fun l => l = okLine) = true := by
  cases line with
  | none => simp
  | some l =>
    by_cases hok : l = okLine
    · subst hok
      simp [halready]
    · by_cases hl : l = already <;> simp [hok, hl, Ne.symm halready]

/-- **One call follows the modem** if and only if it reads no line, or `OK`. -/
theorem followsConfirmation_iff (s : GeopositioningState) (i : GNSSInput φ) :
    FollowsConfirmation F s i ↔ ReadsOnlyOK s i := by
  cases i with
  | enable => cases s <;> exact Iff.rfl
  | retriv Geodata i =>
    cases s with
    | turningOnGNSS r =>
      show (TurningOnGNSS.retrivGeopositioning r Geodata i).state.isObtaining = _ ↔ _
      rw [turningOn_next]
      exact any_ne_eq_any_confirms (by decide) _
    | turningOffGNSS r =>
      show decide ((TurningOffGNSS.retrivGeopositioning r Geodata i).state = _) = _ ↔ _
      rw [turningOff_next]
      exact any_ne_eq_any_confirms (by decide) _
    | _ => exact Iff.rfl

/-! ## What a call does to the history

  One lemma for each state.  The only state that asks for a position is
  `ObtainingPositionInformation`, and the only way into it is from `TurningOnGNSS`, with a line. -/

/-- **What a call does**: it asks for a position only in `ObtainingPositionInformation`, before it
    changes the state; that state is entered from `TurningOnGNSS` only, with the line read last; and
    `TurningOnGNSS` is entered in sight. -/
structure GNSSEffect (s : GeopositioningState) (line : Option Bytes) (s' : GeopositioningState)
    (es : List GNSSEvent) : Prop where
  requests : PrecededBy
    (fun before => s.isObtaining = true ∧ ∀ e ∈ before, e.isTurningOn = false)
    (.command positionCommand) es
  turningOn : s'.isTurningOn = true →
    s.isTurningOn = true ∨ .changeGeopositioningState (.turningOnGNSS true) ∈ es
  obtaining : s'.isObtaining = true → (∀ e ∈ es, e.isTurningOn = false) ∧
    (s.isObtaining = true ∨ (s.isTurningOn = true ∧ ∃ l, line = some l ∧
      [.read l, .changeGeopositioningState (.obtainingPositionInformation true 0)] <:+: es))

section GNSSEffect

variable {s s' : GeopositioningState} {line : Option Bytes} {es : List GNSSEvent}

/-- A call that does not ask for a position, and does not lead to one. -/
theorem GNSSEffect.of_quiet (hes : .command positionCommand ∉ es)
    (hon : s'.isTurningOn = true →
      s.isTurningOn = true ∨ .changeGeopositioningState (.turningOnGNSS true) ∈ es)
    (hs' : s'.isObtaining = false) : GNSSEffect s line s' es := by
  refine ⟨precededBy_nil.append hes, hon, fun h => ?_⟩
  rw [hs'] at h
  cases h

/-- A line that is read is no command, -/
theorem command_not_mem_reads {s : Bytes} : .command s ∉ GNSSEvent.reads line := by
  simp [GNSSEvent.reads]

/-- and turns nothing on; -/
theorem isTurningOn_reads : ∀ e ∈ GNSSEvent.reads line, e.isTurningOn = false := by
  intro e he
  obtain ⟨l, -, rfl⟩ := List.mem_map.mp he
  rfl

/-- nor does a command. -/
theorem isTurningOn_commands {r : Bool} {cs : List Bytes} :
    ∀ e ∈ GNSSEvent.commands r cs, e.isTurningOn = false := by
  intro e he
  cases r with
  | false => cases he
  | true =>
    obtain ⟨s, -, rfl⟩ := List.mem_map.mp he
    rfl

/-- What is not among the commands is not sent. -/
theorem not_mem_commands {r : Bool} {cs : List Bytes} {s : Bytes} (h : s ∉ cs) :
    .command s ∉ GNSSEvent.commands r cs := by
  cases r <;> simp [GNSSEvent.commands, h]

/-- What a call does before it changes the state: it does not ask for a position with other
    commands. -/
theorem not_asked {r : Bool} {cs : List Bytes} (h : positionCommand ∉ cs) :
    .command positionCommand ∉ GNSSEvent.commands r cs ++ GNSSEvent.reads line := by
  intro hmem
  rcases List.mem_append.mp hmem with hmem | hmem
  · exact not_mem_commands h hmem
  · exact command_not_mem_reads hmem

/-- The same with a change of state behind it. -/
theorem not_asked_changes {r : Bool} {cs : List Bytes} (h : positionCommand ∉ cs)
    (s : GeopositioningState) : .command positionCommand ∉
      GNSSEvent.commands r cs ++ GNSSEvent.reads line ++ [.changeGeopositioningState s] := by
  intro hmem
  rcases List.mem_append.mp hmem with hmem | hmem
  · exact not_asked h hmem
  · cases List.mem_singleton.mp hmem

/-- Nor does it turn GNSS on. -/
theorem isTurningOn_asked {r : Bool} {cs : List Bytes} :
    ∀ e ∈ GNSSEvent.commands r cs ++ GNSSEvent.reads line, e.isTurningOn = false := by
  intro e he
  rcases List.mem_append.mp he with he | he
  · exact isTurningOn_commands e he
  · exact isTurningOn_reads e he

/-- `ConfigurateConstellation` turns GNSS on, or off, or waits. -/
theorem effect_configurateConstellation (r : Bool) (n : Nat) (Geodata : GNSSData φ) (i : ATPoll) :
    let c := ConfigurateConstellation.retrivGeopositioning r n Geodata i
    GNSSEffect (.configurateConstellation r n) (readATResponse 128 i.line) c.state c.events := by
  have hcommand : positionCommand ∉ [ascii "AT+QGPSCFG=\"gnssconfig\",4"] := by decide
  intro c
  unfold c ConfigurateConstellation.retrivGeopositioning
  dsimp only
  split
  · refine .of_quiet (not_asked_changes hcommand _) (fun _ => Or.inr ?_) rfl
    exact List.mem_append_right _ (List.mem_singleton_self _)
  split
  · split
    · exact .of_quiet (not_asked_changes hcommand _) nofun rfl
    · exact .of_quiet (not_asked hcommand) nofun rfl
  · exact .of_quiet (not_asked hcommand) nofun rfl

/-- `TurningOnGNSS` goes on with the line that it reads. -/
theorem effect_turningOnGNSS (r : Bool) (Geodata : GNSSData φ) (i : ATPoll) :
    let c := TurningOnGNSS.retrivGeopositioning r Geodata i
    GNSSEffect (.turningOnGNSS r) (readATResponse 128 i.line) c.state c.events := by
  have hcommand : positionCommand ∉ [ascii "AT+QGPS=1"] := by decide
  intro c
  unfold c TurningOnGNSS.retrivGeopositioning
  dsimp only
  split
  · next hgoesOn =>
    obtain ⟨l, hline, -⟩ := (Option.any_eq_true _ _).mp hgoesOn
    rw [hline]
    refine ⟨precededBy_nil.append (not_asked_changes hcommand _), fun _ => Or.inl rfl,
      fun _ => ?_⟩
    constructor
    · intro e he
      rcases List.mem_append.mp he with he | he
      · exact isTurningOn_asked e he
      · obtain rfl := List.mem_singleton.mp he
        rfl
    · refine Or.inr ⟨rfl, l, rfl, GNSSEvent.commands r [ascii "AT+QGPS=1"], [], ?_⟩
      simp [GNSSStep.changes, GNSSEvent.reads]
  · exact .of_quiet (not_asked hcommand) (fun _ => Or.inl rfl) rfl

/-- `TurningOffGNSS` leads to no position. -/
theorem effect_turningOffGNSS (r : Bool) (Geodata : GNSSData φ) (i : ATPoll) :
    let c := TurningOffGNSS.retrivGeopositioning r Geodata i
    GNSSEffect (.turningOffGNSS r) (readATResponse 128 i.line) c.state c.events := by
  have hcommand : positionCommand ∉ [ascii "AT+QGPS=0"] := by decide
  intro c
  unfold c TurningOffGNSS.retrivGeopositioning
  dsimp only
  split
  · exact .of_quiet (not_asked_changes hcommand _) nofun rfl
  · exact .of_quiet (not_asked hcommand) nofun rfl

/-- A call that may ask for a position. -/
theorem GNSSEffect.of_obtaining {r : Bool} {n : Nat} {more : List GNSSEvent}
    (hmore : .command positionCommand ∉ more)
    (hon : s'.isTurningOn = true → .changeGeopositioningState (.turningOnGNSS true) ∈ more)
    (hobtaining : s'.isObtaining = true → ∀ e ∈ more, e.isTurningOn = false) :
    GNSSEffect (.obtainingPositionInformation r n) line s'
      (GNSSEvent.commands r [ascii "AT+QGPSLOC=2", positionCommand] ++ more) := by
  refine ⟨?_, fun h => Or.inr (List.mem_append_right _ (hon h)), fun h => ⟨?_, Or.inl rfl⟩⟩
  · -- the commands come first, the one for the position last
    refine PrecededBy.append ?_ hmore
    cases r with
    | false => exact precededBy_nil
    | true =>
      have hformat : PrecededBy (fun before =>
          (GeopositioningState.obtainingPositionInformation true n).isObtaining = true ∧
            ∀ e ∈ before, GNSSEvent.isTurningOn e = false)
          (.command positionCommand) [.command (ascii "AT+QGPSLOC=2")] :=
        precededBy_nil.append (by decide)
      refine hformat.concat fun _ => ⟨rfl, fun e he => ?_⟩
      obtain rfl := List.mem_singleton.mp he
      rfl
  · intro e he
    rcases List.mem_append.mp he with he | he
    · exact isTurningOn_commands e he
    · exact hobtaining h e he

/-- `ObtainingPositionInformation` asks, and may go back to turning GNSS on. -/
theorem effect_obtainingPositionInformation (r : Bool) (n : Nat) (Geodata : GNSSData φ)
    (i : ATPoll) :
    let c := ObtainingPositionInformation.retrivGeopositioning F r n Geodata i
    GNSSEffect (.obtainingPositionInformation r n) (readATResponse 128 i.line) c.state
      c.events := by
  intro c
  unfold c ObtainingPositionInformation.retrivGeopositioning GNSSStep.changes
  dsimp only
  split
  · rw [List.append_assoc, List.append_assoc]
    exact .of_obtaining (by simp [command_not_mem_reads]) nofun nofun
  split
  · rw [List.append_assoc]
    exact .of_obtaining (by simp [command_not_mem_reads]) (by simp) nofun
  split
  · split
    · rw [List.append_assoc]
      exact .of_obtaining (by simp [command_not_mem_reads]) nofun nofun
    · exact .of_obtaining command_not_mem_reads nofun fun _ => isTurningOn_reads
  · exact .of_obtaining command_not_mem_reads nofun fun _ => isTurningOn_reads

end GNSSEffect

/-- The line that a call reads. -/
def GNSSInput.line : GNSSInput φ → Option Bytes
  | .enable => none
  | .retriv _ i => readATResponse 128 i.line

/-- **The effect of every call.** -/
theorem gnss_effect (s : GeopositioningState) (i : GNSSInput φ) :
    GNSSEffect s i.line (s.step F i).1 (s.step F i).2 := by
  cases i with
  | enable =>
    cases s with
    | gnssUnavailable =>
      refine .of_quiet (fun h => ?_) nofun rfl
      cases List.mem_singleton.mp h
    | configurateConstellation r n => exact .of_quiet List.not_mem_nil nofun rfl
    | turningOnGNSS r => exact .of_quiet List.not_mem_nil (fun _ => Or.inl rfl) rfl
    | obtainingPositionInformation r n =>
      exact ⟨precededBy_nil, nofun, fun _ => ⟨nofun, Or.inl rfl⟩⟩
    | turningOffGNSS r => exact .of_quiet List.not_mem_nil nofun rfl
  | retriv Geodata i =>
    have heffect : GNSSEffect s (readATResponse 128 i.line)
        (s.retrivGeopositioning F Geodata i).state
        (s.retrivGeopositioning F Geodata i).events := by
      cases s with
      | gnssUnavailable => exact .of_quiet List.not_mem_nil nofun rfl
      | configurateConstellation r n => exact effect_configurateConstellation r n Geodata i
      | turningOnGNSS r => exact effect_turningOnGNSS r Geodata i
      | obtainingPositionInformation r n => exact effect_obtainingPositionInformation r n Geodata i
      | turningOffGNSS r => exact effect_turningOffGNSS r Geodata i
    -- the status comes last, and changes nothing
    refine ⟨heffect.requests.append (by simp), fun h => ?_, fun h => ?_⟩
    · exact (heffect.turningOn h).imp_right (List.mem_append_left _)
    · obtain ⟨hquiet, hfrom⟩ := heffect.obtaining h
      constructor
      · intro e he
        rcases List.mem_append.mp he with he | he
        · exact hquiet e he
        · obtain rfl := List.mem_singleton.mp he
          rfl
      · refine hfrom.imp_right fun ⟨hs, l, hline, hinfix⟩ => ⟨hs, l, hline, ?_⟩
        exact hinfix.trans (List.prefix_append _ _).isInfix

/-! ## The run

  The invariant, and the result in both directions.  From left to right only the calls are used: a
  line that is taken wrongly is a call that does not follow the modem. -/

/-- A confirmation lasts until GNSS is turned on again. -/
theorem ConfirmedOn.append {t es : List GNSSEvent} (h : ConfirmedOn t)
    (hes : ∀ e ∈ es, e.isTurningOn = false) : ConfirmedOn (t ++ es) := by
  obtain ⟨hentered, line, hline, hinfix⟩ := h
  refine ⟨List.mem_append_left _ hentered, line, hline, ?_⟩
  rw [since_append hes]
  exact hinfix.trans (List.prefix_append _ _).isInfix

/-- **The invariant**: `TurningOnGNSS` was entered, a position is only asked for where GNSS is
    confirmed to be on, and so it was each time. -/
structure Confirmed (c : Config GeopositioningState GNSSEvent) : Prop where
  turningOn : c.state.isTurningOn = true →
    .changeGeopositioningState (.turningOnGNSS true) ∈ c.trace
  obtaining : c.state.isObtaining = true → ConfirmedOn c.trace
  requests : PrecededBy ConfirmedOn (.command positionCommand) c.trace

/-- **Each call keeps it**, if it reads nothing but `OK` where it waits for a confirmation. -/
theorem Confirmed.advance {c : Config GeopositioningState GNSSEvent} {i : GNSSInput φ}
    (h : Confirmed c) (hok : ReadsOnlyOK c.state i) :
    Confirmed (advance (GeopositioningState.step F) c i) := by
  have heffect := gnss_effect (F := F) c.state i
  refine ⟨fun hs => ?_, fun hs => ?_, ?_⟩
  · rcases heffect.turningOn hs with hon | hentered
    · exact List.mem_append_left _ (h.turningOn hon)
    · exact List.mem_append_right _ hentered
  · obtain ⟨hquiet, hobtaining | ⟨hon, l, hline, hinfix⟩⟩ := heffect.obtaining hs
    · exact (h.obtaining hobtaining).append hquiet
    · -- the machine has just gone on: with `OK`, by the condition
      have hconfirms : confirmsOn l = true := by
        obtain ⟨state, trace⟩ := c
        cases state with
        | turningOnGNSS r =>
          cases i with
          | enable => cases hline
          | retriv Geodata i =>
            have hl : (readATResponse 128 i.line).all (fun line => line = okLine) = true := hok
            rw [show readATResponse 128 i.line = some l from hline] at hl
            simp at hl
            simp [confirmsOn, hl]
        | _ => cases hon
      refine ⟨List.mem_append_left _ (h.turningOn hon), l, hconfirms, ?_⟩
      show _ <:+: since GNSSEvent.isTurningOn (c.trace ++ _)
      rw [since_append hquiet]
      exact hinfix.trans (List.suffix_append _ _).isInfix
  · refine h.requests.append_of fun before after heq => ?_
    obtain ⟨hs, hquiet⟩ := heffect.requests before after heq
    exact (h.obtaining hs).append hquiet

/-- **The result**: a run follows the modem if and only if in the two states that wait for a
    confirmation no call reads a line but `OK`. -/
theorem gnss_follows_confirmations_iff (F : Floats φ) (is : List (GNSSInput φ)) :
    FollowsModem F is ↔
      Always (GeopositioningState.step F) (fun c i => ReadsOnlyOK c.state i)
        ⟨.gnssUnavailable, []⟩ is := by
  constructor
  · intro h
    exact h.calls.mp fun c i => (followsConfirmation_iff c.state i).mp
  · intro h
    refine ⟨h.mp fun c i => (followsConfirmation_iff c.state i).mpr, ?_⟩
    have hconfirmed : Confirmed (run (GeopositioningState.step F) ⟨.gnssUnavailable, []⟩ is) :=
      run_induction_of (I := Confirmed)
        ⟨fun h => Bool.noConfusion h, fun h => Bool.noConfusion h, precededBy_nil⟩
        (fun c i hok hc => hc.advance hok) h
    exact hconfirmed.requests

/-- A call that hears a line. -/
def hears (line : String) : GNSSInput Int := .retriv origin ⟨some (ascii line), false⟩

/-- A search in which a notice of the network comes while GNSS is to be turned on. -/
def noticed : List (GNSSInput Int) := [.enable, hears "OK", hears "+CREG: 1", hears "OK"]

/-- A search that gives up, after which GNSS is off already. -/
def offAlready : List (GNSSInput Int) :=
  (.enable :: List.replicate 20 (.retriv origin ⟨none, true⟩)) ++ [hears "+CME ERROR: 505"]

/-- **The slip**: the machine goes on with a notice of the network, and on "already off" it does not
    go on. -/
theorem notice_taken_for_confirmation :
    ¬ FollowsModem .integers noticed ∧ ¬ FollowsModem .integers offAlready := by
  constructor
  · intro h
    have hcall : FollowsConfirmation .integers (.turningOnGNSS true) (hears "+CREG: 1") :=
      h.calls.2.2.1
    have hreads : ((readATResponse 128 (some (ascii "+CREG: 1"))).all fun line =>
        line = okLine) = true :=
      (followsConfirmation_iff _ _).mp hcall
    revert hreads
    decide
  · intro h
    have hcall : FollowsConfirmation .integers (.turningOffGNSS true) (hears "+CME ERROR: 505") :=
      (always_append.mp h.calls).2.1
    have hreads : ((readATResponse 128 (some (ascii "+CME ERROR: 505"))).all fun line =>
        line = okLine) = true :=
      (followsConfirmation_iff _ _).mp hcall
    revert hreads
    decide

end GatewayLoRa
