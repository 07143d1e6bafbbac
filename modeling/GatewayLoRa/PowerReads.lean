/-
  The lines that the POWER MANAGER reads, and the arrays they are copied into.

  The methods of the power states that talk to the modem read its lines with the `readATResponse`
  that has no buffer size, into arrays of 128 bytes.  The buffer of the handler has 1024, and it
  belongs to everybody who reads: a line may have been begun by another state machine, with the
  other `readATResponse`.

  1. **The methods** (`PowerManager.reads`, `PowerONState.measureBattery`) — which calls read.

  2. **The machine** (`ModemUsers`) — the handler, the power manager that reads through it, and
     everybody else who does.

  3. **A run** (`power_lines_fit_iff`) — every copied line fits if and only if every stretch whose
     terminator a power call reads has at most 127 bytes in front of its first NUL.

  The run is followed by one invariant, `LinesKept`: the buffer is a function of the bytes that came
  since the last terminator and of how each of them was read, whoever read it.  So what a power call
  copies is known from the stretch alone, and the state machine that began the line has no part in
  the statement.
-/

import GatewayLoRa.ATCommandHandler
import GatewayLoRa.DebugPrints
import GatewayLoRa.PowerManager

namespace GatewayLoRa

open CMemory Machine Stretches

variable {φ : Type}

/-- `BUFFER`, the array of every method that reads. -/
abbrev powerBuffer : Nat := 128

/-! ## The methods

  Which calls of the power manager read from the modem, state by state.  A call that reads takes its
  line from the handler; the line in the arguments of the model's call is replaced by it. -/

/-- The poll with the line that the handler returned. -/
def PowerPoll.withLine (line : Option Bytes) (i : PowerPoll) : PowerPoll := { i with line := line }

/-- The call with the line that the handler returned. -/
def PowerCall.withLine (line : Option Bytes) : PowerCall → PowerCall
  | startStopUpdate i => startStopUpdate (i.withLine line)
  | turnOn i => turnOn (i.withLine line)
  | turnOff i => turnOff (i.withLine line)
  | reboot i => reboot (i.withLine line)
  | goToSleep i => goToSleep (i.withLine line)
  | awake => awake

/-- **The calls that read from the modem**: `PowerONState` in `turnOff`, `reboot` and `goToSleep`,
    and `SleepState` in `turnOff`. -/
def PowerManager.reads (m : PowerManager) : PowerCall → Bool
  | .turnOff _ =>
      match m.currentPowerState with
      | .powerON _ | .sleep => true
      | _ => false
  | .reboot _ | .goToSleep _ =>
      match m.currentPowerState with
      | .powerON _ => true
      | _ => false
  | _ => false

/-- `PowerONState::measureBattery`: its static, whether it sends `AT+CBC`, and what it measured. -/
def PowerONState.measureBattery (F : Floats φ) (u : φ) (readyToSend : Bool) (line : Option Bytes)
    (expired : Bool) : Bool × Bool × Option (BatteryMeasure φ) :=
  match line.bind (PowerONState.retrivBatteryData F ⟨0, 0, u⟩) with
  | some b => (false, readyToSend, some b)
  | none => (expired, readyToSend, none)

/-! ## The machine

  The handler is shared, so the machine has all its users in it: the power manager, the measurement
  of the battery, and anybody else, of whom only the reads are known. -/

/-- The handler of the modem, and the power manager that reads through it. -/
structure ModemUsers where
  handler : ATCommandHandler
  manager : PowerManager
  /-- The static of `PowerONState::measureBattery`. -/
  measureReadyToSend : Bool

/-- As the program starts. -/
def ModemUsers.initial : ModemUsers := ⟨.empty, .initial, true⟩

/-- What is asked of the modem, with the byte that the UART has ready: a call on the power manager
    (its line is what the handler returns), a measurement of the battery, a line for another state
    machine, a character for another state machine. -/
inductive ModemCall
  | power (call : PowerCall) (byte : Option UInt8)
  | measureBattery (expired : Bool) (byte : Option UInt8)
  | readLine (bufferSize : Nat) (byte : Option UInt8)
  | readChar (byte : Option UInt8)

/-- What can be seen: a read of the handler, a line that is copied into an array of a power state,
    what the manager does, a command, a measurement. -/
inductive ModemEvent (φ : Type)
  | read (i : ReadPoll)
  | copied (line : Bytes)
  | power (e : PowerEvent)
  | command (s : Bytes)
  | measured (b : BatteryMeasure φ)

namespace ModemUsers

/-- A read by a power state: the handler after it, the line, and what can be seen of it. -/
def readLine (s : ModemUsers) (byte : Option UInt8) :
    ATCommandHandler × Option Bytes × List (ModemEvent φ) :=
  let (handler, line) := s.handler.readATResponse byte
  (handler, line, .read ⟨.unsized, byte⟩ :: line.toList.map .copied)

/-- **One call.** -/
def step (F : Floats φ) (u : φ) (s : ModemUsers) : ModemCall → ModemUsers × List (ModemEvent φ)
  | .power call byte =>
      if s.manager.reads call then
        let (handler, line, seen) := s.readLine byte
        let (manager, events) := s.manager.step (call.withLine line)
        ({ s with handler, manager }, seen ++ events.map .power)
      else
        let (manager, events) := s.manager.step (call.withLine none)
        ({ s with manager }, events.map .power)
  | .measureBattery expired byte =>
      match s.manager.currentPowerState with
      | .powerON _ =>
          let (handler, line, seen) := s.readLine byte
          let (readyToSend, sends, measured) :=
            PowerONState.measureBattery F u s.measureReadyToSend line expired
          ({ s with handler, measureReadyToSend := readyToSend },
            seen ++ ((if sends then [.command (ascii "AT+CBC")] else []) ++
              measured.toList.map .measured))
      | _ => (s, [])
  | .readLine bufferSize byte =>
      if bufferSize = 0 then (s, [])
      else
        ({ s with handler := (s.handler.readATResponseSized bufferSize byte).1 },
          [.read ⟨.sized bufferSize, byte⟩])
  | .readChar _ => (s, [])

end ModemUsers

/-- The reads of a trace. -/
def readsOf (trace : List (ModemEvent φ)) : List ReadPoll :=
  trace.filterMap fun
    | .read i => some i
    | _ => none

/-- The copied lines of a trace. -/
def copiesOf (trace : List (ModemEvent φ)) : List Bytes :=
  trace.filterMap fun
    | .copied line => some line
    | _ => none

/-- Reads and copies are filtered out of a trace, -/
@[simp] theorem readsOf_append (t t' : List (ModemEvent φ)) :
    readsOf (t ++ t') = readsOf t ++ readsOf t' := List.filterMap_append

/-- so they are appended with it. -/
@[simp] theorem copiesOf_append (t t' : List (ModemEvent φ)) :
    copiesOf (t ++ t') = copiesOf t ++ copiesOf t' := List.filterMap_append

/-- What can be seen of a read by a power state. -/
@[simp] theorem readsOf_seen (i : ReadPoll) (lines : List Bytes) :
    readsOf (.read i :: lines.map .copied : List (ModemEvent φ)) = [i] := by
  simp [readsOf]

/-- The copies are the lines that were returned. -/
@[simp] theorem copiesOf_seen (i : ReadPoll) (lines : List Bytes) :
    copiesOf (.read i :: lines.map .copied : List (ModemEvent φ)) = lines := by
  simp [copiesOf, List.filterMap_map]

/-- What the manager does is neither. -/
@[simp] theorem readsOf_power (es : List PowerEvent) :
    readsOf (es.map .power : List (ModemEvent φ)) = [] := by
  simp [readsOf]

@[simp] theorem copiesOf_power (es : List PowerEvent) :
    copiesOf (es.map .power : List (ModemEvent φ)) = [] := by
  simp [copiesOf]

/-- What a power state gets of a stretch that is ended. -/
def copiedOf (e : List (UInt8 × Overload) × (UInt8 × Overload)) : Option Bytes :=
  if e.2.2 = .unsized then yielded e else none

/-! ## A run

  `LinesKept` is the invariant of `ATCommandHandler`, for the reads that this machine makes. -/

section Run

variable {F : Floats φ} {u : φ}

/-- **What a call does with the handler**: it reads once, and a power state gets the line; or it
    does not read. -/
theorem ModemUsers.step_cases (s : ModemUsers) (call : ModemCall) :
    (∃ i : ReadPoll, i.HasSize ∧ (s.step F u call).1.handler = (i.overload.read s.handler i.byte).1 ∧
      readsOf (s.step F u call).2 = [i] ∧
      copiesOf (s.step F u call).2 =
        if i.overload = .unsized then (i.overload.read s.handler i.byte).2.toList else []) ∨
    ((s.step F u call).1.handler = s.handler ∧ readsOf (s.step F u call).2 = [] ∧
      copiesOf (s.step F u call).2 = []) := by
  -- what else a power state does is neither a read nor a copy
  have hreads (byte : Option UInt8) {t rest : List (ModemEvent φ)}
      (ht : t = .read ⟨.unsized, byte⟩ ::
        (Overload.unsized.read s.handler byte).2.toList.map .copied ++ rest)
      (hreads : readsOf rest = []) (hcopies : copiesOf rest = []) :
      readsOf t = [⟨.unsized, byte⟩] ∧
        copiesOf t = (Overload.unsized.read s.handler byte).2.toList := by
    rw [ht, readsOf_append, copiesOf_append, readsOf_seen, copiesOf_seen, hreads, hcopies,
      List.append_nil, List.append_nil]
    exact ⟨rfl, rfl⟩
  cases call with
  | power call byte =>
    by_cases hcall : s.manager.reads call = true
    · simp only [ModemUsers.step, if_pos hcall]
      exact .inl ⟨⟨.unsized, byte⟩, nofun, rfl,
        hreads byte rfl (readsOf_power _) (copiesOf_power _)⟩
    · simp only [ModemUsers.step, if_neg hcall]
      exact .inr ⟨trivial, readsOf_power _, copiesOf_power _⟩
  | measureBattery expired byte =>
    have hrest (sends : Bool) (measured : Option (BatteryMeasure φ)) :
        readsOf ((if sends then [.command (ascii "AT+CBC")] else []) ++
            measured.toList.map .measured) = [] ∧
          copiesOf ((if sends then [.command (ascii "AT+CBC")] else []) ++
            measured.toList.map .measured) = [] := by
      cases sends <;> cases measured <;> exact ⟨rfl, rfl⟩
    simp only [ModemUsers.step]
    split
    · exact .inl ⟨⟨.unsized, byte⟩, nofun, rfl, hreads byte rfl (hrest _ _).1 (hrest _ _).2⟩
    · exact .inr ⟨rfl, rfl, rfl⟩
  | readLine bufferSize byte =>
    simp only [ModemUsers.step]
    split
    · exact .inr ⟨rfl, rfl, rfl⟩
    · next hsize =>
      exact .inl ⟨⟨.sized bufferSize, byte⟩, fun h => hsize (Overload.sized.inj h), rfl, rfl, rfl⟩
  | readChar byte => exact .inr ⟨rfl, rfl, rfl⟩

/-- **The invariant of a run**: the buffer holds what it keeps of the stretch under way, and the
    lines copied so far are those of the stretches that a power state ended. -/
def LinesKept (c : Config ModemUsers (ModemEvent φ)) : Prop :=
  c.state.handler.line = kept (since ends (arrivals (readsOf c.trace))) ∧
    copiesOf c.trace = (ended ends (arrivals (readsOf c.trace))).filterMap copiedOf

/-- **Each call keeps it.** -/
theorem LinesKept.step {c : Config ModemUsers (ModemEvent φ)} (hc : LinesKept c)
    (call : ModemCall) : LinesKept (advance (ModemUsers.step F u) c call) := by
  obtain ⟨hline, hcopies⟩ := hc
  show (c.state.step F u call).1.handler.line = _ ∧ _
  rw [show (advance (ModemUsers.step F u) c call).trace = c.trace ++ (c.state.step F u call).2 from
    rfl, readsOf_append, copiesOf_append]
  rcases c.state.step_cases (F := F) (u := u) call with
    ⟨i, hi, hhandler, hread, hcopied⟩ | ⟨hhandler, hread, hcopied⟩
  · obtain ⟨hline', new, hended, hoverload, hreturned⟩ := read_ends hi hline
    rw [hhandler, hread, hcopied, hended, List.filterMap_append, hcopies]
    refine ⟨hline', congrArg _ ?_⟩
    -- a stretch that the read ended is one of its overload
    by_cases hunsized : i.overload = .unsized
    · rw [if_pos hunsized, hreturned]
      exact List.filterMap_congr fun e he => (if_pos ((hoverload e he).trans hunsized)).symm
    · rw [if_neg hunsized]
      refine (List.filterMap_eq_nil_iff.mpr fun e he => if_neg ?_).symm
      rwa [hoverload e he]
  · rw [hhandler, hread, hcopied, List.append_nil, List.append_nil]
    exact ⟨hline, hcopies⟩

/-- **In every run**, whoever has read. -/
theorem run_linesKept (is : List ModemCall) :
    LinesKept (run (ModemUsers.step F u) ⟨.initial, []⟩ is) :=
  run_induction ⟨rfl, rfl⟩ (fun _ call hc => hc.step call) is

end Run

/-- The copied lines are the events that say so. -/
theorem mem_copiesOf {t : List (ModemEvent φ)} {line : Bytes} :
    line ∈ copiesOf t ↔ .copied line ∈ t := by
  unfold copiesOf
  rw [List.mem_filterMap]
  constructor
  · rintro ⟨e, he, heq⟩
    cases e <;> simp_all
  · exact fun h => ⟨_, h, rfl⟩

/-- **What a power call may read of a stretch**: at most 127 bytes in front of its first NUL.  Of a
    stretch of more than 1023 bytes those do not count that bounded reads have thrown away with the
    full buffer. -/
def ShortStretch (x : List (UInt8 × Overload)) : Prop :=
  (x.length ≤ 1023 → (cstr (x.map Prod.fst)).length ≤ 127) ∧
    (1023 < x.length → (cstr ((unflushed x).map Prod.fst)).length ≤ 127)

/-- The string in the buffer fits the array of a power state if the stretch is short; the end of the
    buffer is too far away to matter. -/
theorem length_cstr_kept_le_iff (x : List (UInt8 × Overload)) :
    (cstr (kept x)).length ≤ 127 ↔ ShortStretch x := by
  have hbuffer : bufferLenATCommandHandler - 1 = 1023 := rfl
  rcases Nat.lt_or_ge 1023 x.length with hlong | hfits
  · have hcut : cstr (kept x) = (cstr ((unflushed x).map Prod.fst)).take 1023 := by
      rw [kept_eq, hbuffer]
      exact List.take_takeWhile.symm
    have hle : (cstr (kept x)).length ≤ 127 ↔ (cstr ((unflushed x).map Prod.fst)).length ≤ 127 := by
      rw [hcut, List.length_take]
      omega
    exact hle.trans ⟨fun h => ⟨fun hfits => absurd hlong (Nat.not_lt.mpr hfits), fun _ => h⟩,
      fun h => h.2 hlong⟩
  · rw [kept_of_length_le hfits]
    exact ⟨fun h => ⟨fun _ => h, fun hlong => absurd hlong (Nat.not_lt.mpr hfits)⟩,
      fun h => h.1 hfits⟩

/-- **The lines that power states read fit their arrays** in a run if and only if every stretch whose
    terminator a power state reads is short. -/
theorem power_lines_fit_iff (F : Floats φ) (u : φ) (is : List ModemCall) :
    (∀ line, .copied line ∈ (run (ModemUsers.step F u) ⟨.initial, []⟩ is).trace →
        line.length + 1 ≤ powerBuffer) ↔
      ∀ e ∈ ended ends (arrivals (readsOf (run (ModemUsers.step F u) ⟨.initial, []⟩ is).trace)),
        e.2.2 = .unsized → ShortStretch e.1 := by
  have hcopies := (run_linesKept (F := F) (u := u) is).2
  simp only [← mem_copiesOf, hcopies, List.mem_filterMap, ← length_cstr_kept_le_iff]
  constructor
  · intro hfit e he hunsized
    by_cases hempty : kept e.1 = []
    · rw [hempty]
      exact Nat.zero_le _
    · have hline : copiedOf e = some (cstr (kept e.1)) := by
        rw [copiedOf, if_pos hunsized, yielded, if_neg hempty, hunsized]
        rfl
      exact Nat.le_of_succ_le_succ (hfit _ ⟨e, he, hline⟩)
  · rintro hshort line ⟨e, he, hline⟩
    obtain ⟨hunsized, hline⟩ := Option.ite_none_right_eq_some.mp hline
    obtain ⟨-, hline⟩ := Option.ite_none_left_eq_some.mp hline
    rw [hunsized] at hline
    obtain rfl := Option.some.inj hline
    exact Nat.succ_le_succ (hshort e he hunsized)

/-- The modem comes up, and says 128 letters while a state machine with an array of 256 bytes
    reads; the carriage return comes when it is turned off. -/
def longLine : List ModemCall :=
  .power (.startStopUpdate ⟨false, false, true, none, false, false⟩) none ::
    (List.replicate 128 65).map (fun c => .readLine 256 (some c)) ++
    [.power (.turnOff ⟨false, false, true, none, false, false⟩) (some 13)]

/-- **The line takes 129 bytes** of the 128 of `turnOff`. -/
theorem longLine_overruns :
    ∃ line, .copied line ∈ (run (ModemUsers.step .words 0) ⟨.initial, []⟩ longLine).trace ∧
      ¬ line.length + 1 ≤ powerBuffer := by
  have hcopies : copiesOf (run (ModemUsers.step .words 0) ⟨.initial, []⟩ longLine).trace =
      [List.replicate 128 65] := by
    decide +kernel
  refine ⟨List.replicate 128 65, mem_copiesOf.mp (hcopies ▸ List.mem_singleton.mpr rfl), ?_⟩
  rw [List.length_replicate]
  decide

end GatewayLoRa
