/-
  The numbers that are printed for DEBUGGING, and the arrays they are printed into.

  Three functions that take a line of the modem apart print what they found on the USB port:
  `retrivBatteryData`, `retrivPositionInfo` and `retrivOperatorsInformation`.  Each number goes
  through `sprintf` into an array of its own, of 5, 10 or 15 bytes, while the scan before accepts
  every number that its type can hold.

  1. **The functions** (`PowerONState.retrivBatteryData`, `PositionInfo`) — with all that they scan,
     and the prints in the order in which they are made.
  2. **The scan** (`retrivPositionInfo_eq`) — the function that prints a position is the one of the
     model, with the variables that are only printed.
  3. **The line** (`Reader.spelled`) — the numbers that stand in the line where a printed number
     comes from, each with its array; `prints_eq_spelled` says that they are the printed ones.
  4. **The room** (`Print.fits_iff`) — a number fits its array if and only if it is in a range that
     depends on the array and the decimals.
  5. **The result** (`debug_prints_fit_iff`) — the prints of a line fit if and only if its numbers
     are in their ranges.  A voltage in millivolts is not.

  The crux is to speak of the line and not of the scan.  A condition on what the scan stored would
  be one on the function's own work; here the number is looked for in the text, by its place between
  commas or behind quotes, and that the scan found the same one is a theorem.  It needs to know that
  a conversion reads no further than its place, which is true of every one that stops at a comma
  (`Directive.Local`).
-/

import GatewayLoRa.ConnectionState
import GatewayLoRa.Lib.FixedPoint
import GatewayLoRa.RealTimeClock

namespace GatewayLoRa

open CMemory Stdio

variable {φ : Type}

/-! ## Prints

  A print is an array and a number; whether the one fits the other is decided by the length of a
  text. -/

/-- How a number is printed: `%d`, or `%.<digits>f`. -/
inductive Conversion
  | int
  | float (digits : Nat)
  deriving DecidableEq

/-- A number that is printed. -/
inductive Number (φ : Type)
  | int (v : Int)
  | float (digits : Nat) (v : φ)
  deriving DecidableEq

/-- `sprintf` of a number into an array of `size` bytes. -/
structure Print (φ : Type) where
  size : Nat
  number : Number φ
  deriving DecidableEq

/-- The text of a number. -/
def Number.text (F : Floats φ) : Number φ → Bytes
  | int v => intText v
  | float digits v => F.text digits v

/-- The text and its NUL are within the array. -/
def Print.Fits (F : Floats φ) (p : Print φ) : Prop := (p.number.text F).length + 1 ≤ p.size

instance (F : Floats φ) (p : Print φ) : Decidable (p.Fits F) := inferInstanceAs (Decidable (_ ≤ _))

/-! ## The functions

  The scan of each function as its format says, and the numbers that it prints with the sizes of the
  arrays in the source. -/

/-- What a `+CBC` line says: the status, the level, the voltage. -/
structure BatteryMeasure (φ : Type) where
  batteryChargeStatus : Int
  chargeLevel : Int
  voltage : φ

namespace PowerONState

/-- `"%d,%d,%f"`. -/
def batteryFields : List (Directive φ (BatteryMeasure φ)) :=
  [.int 32 fun v b => { b with batteryChargeStatus := v },
    .int 32 fun v b => { b with chargeLevel := v }, .float fun v b => { b with voltage := v }]

/-- `retrivBatteryData`, with what its variables hold before the scan. -/
def retrivBatteryData (F : Floats φ) (before : BatteryMeasure φ) (stringToAnalyse : Bytes) :
    Option (BatteryMeasure φ) :=
  let start := ascii "+CBC:"
  if start <+: stringToAnalyse then
    let (n, b) := sscanf F.strtof (separate batteryFields) (stringToAnalyse.drop start.length) before
    if n = 3 then some b else none
  else none

/-- What it prints.  The two members are `unsigned int`, but `%d` both scans and prints them. -/
def batteryPrints (b : BatteryMeasure φ) : List (Print φ) :=
  [⟨5, .int b.batteryChargeStatus⟩, ⟨5, .int b.chargeLevel⟩, ⟨5, .float 2 b.voltage⟩]

end PowerONState

/-- What a `+QGPSLOC` line says. -/
structure PositionInfo (φ : Type) where
  utc : Bytes
  latitude : φ
  longitude : φ
  hdop : φ
  altitude : φ
  fix : Int
  cog : φ
  spkm : φ
  spkn : φ
  date : Bytes
  nsat : Int

namespace ObtainingPositionInformation

/-- `"%9[^,],%f,%f,%f,%f,%d,%f,%f,%f,%6[^,],%d"`, into all its variables. -/
def positionInfoFields : List (Directive φ (PositionInfo φ)) :=
  [.field 9 44 fun v p => { p with utc := v }, .float fun v p => { p with latitude := v },
    .float fun v p => { p with longitude := v }, .float fun v p => { p with hdop := v },
    .float fun v p => { p with altitude := v }, .int 32 fun v p => { p with fix := v },
    .float fun v p => { p with cog := v }, .float fun v p => { p with spkm := v },
    .float fun v p => { p with spkn := v }, .field 6 44 fun v p => { p with date := v },
    .int 32 fun v p => { p with nsat := v }]

/-- The scan of `retrivPositionInfo`, with what its variables hold before. -/
def scanPositionInfo (F : Floats φ) (before : PositionInfo φ) (response : Bytes) :
    Option (PositionInfo φ) :=
  let header := ascii "+QGPSLOC:"
  if header <+: response then
    let (n, p) := sscanf F.strtof (separate positionInfoFields)
      ((response.drop header.length).dropWhile isSpace) before
    if n = 11 then some p else none
  else none

/-- What it prints. -/
def positionPrints (p : PositionInfo φ) : List (Print φ) :=
  [⟨15, .float 5 p.latitude⟩, ⟨15, .float 5 p.longitude⟩, ⟨10, .float 1 p.hdop⟩,
    ⟨10, .float 1 p.altitude⟩, ⟨5, .int p.fix⟩, ⟨10, .float 2 p.cog⟩, ⟨10, .float 1 p.spkm⟩,
    ⟨10, .float 1 p.spkn⟩, ⟨5, .int p.nsat⟩]

/-- The variables that the gateway uses later on, with a timestamp. -/
def toScanned (timestamp : Bytes) (p : PositionInfo φ) : Scanned φ :=
  ⟨p.utc, p.date, ⟨p.latitude, p.longitude, p.hdop, p.altitude, p.cog, p.spkm, timestamp⟩⟩

/-- The two formats scan the same into the variables that they share. -/
theorem positionInfoFields_maps (timestamp : Bytes) :
    List.Forall₂ (Directive.Maps (toScanned timestamp))
      (separate (positionInfoFields (φ := φ))) (separate positionFields) := by
  have hfloat {store : φ → PositionInfo φ → PositionInfo φ} {store' : φ → Scanned φ → Scanned φ}
      (h : ∀ v p, toScanned timestamp (store v p) = store' v (toScanned timestamp p)) :
      Directive.Maps (toScanned timestamp) (.float store) (.float store') := .float h
  refine separate_maps ?_
  exact .cons (.field 9 44 fun _ _ => rfl) <| .cons (hfloat fun _ _ => rfl) <|
    .cons (hfloat fun _ _ => rfl) <| .cons (hfloat fun _ _ => rfl) <|
    .cons (hfloat fun _ _ => rfl) <| .cons (.int 32 fun _ _ => rfl) <|
    .cons (hfloat fun _ _ => rfl) <| .cons (hfloat fun _ _ => rfl) <|
    .cons (hfloat fun _ _ => rfl) <| .cons (.field 6 44 fun _ _ => rfl) <|
    .cons (.int 32 fun _ _ => rfl) .nil

/-- What the gateway keeps of a position. -/
def toGeodata (p : PositionInfo φ) : GNSSData φ :=
  ⟨p.latitude, p.longitude, p.hdop, p.altitude, p.cog, p.spkm, p.date ++ p.utc.take 6⟩

/-- **`retrivPositionInfo` is this scan**, as far as the gateway uses it. -/
theorem retrivPositionInfo_eq (F : Floats φ) (u : φ) (line : Bytes) (Geodata : GNSSData φ) :
    retrivPositionInfo F line Geodata =
      (scanPositionInfo F ⟨[], Geodata.latitude, Geodata.longitude, Geodata.hdop, Geodata.altitude,
        0, Geodata.cog, Geodata.spkm, u, [], 0⟩ line).map toGeodata := by
  let before : PositionInfo φ := ⟨[], Geodata.latitude, Geodata.longitude, Geodata.hdop,
    Geodata.altitude, 0, Geodata.cog, Geodata.spkm, u, [], 0⟩
  have hscan (inp : Bytes) : sscanf F.strtof positionFormat inp ⟨[], [], Geodata⟩ =
      ((sscanf F.strtof (separate positionInfoFields) inp before).1,
        toScanned Geodata.timestamp (sscanf F.strtof (separate positionInfoFields) inp before).2) := by
    rw [positionFormat_eq]
    exact sscanf_map (positionInfoFields_maps Geodata.timestamp) inp before
  unfold retrivPositionInfo scanPositionInfo
  simp only [hscan, before]
  split
  · split <;> rfl
  · rfl

end ObtainingPositionInformation

namespace ConsultingAvailableOperators

/-- What `retrivOperatorsInformation` prints. -/
def operatorPrints (d : OperatorData) : List (Print φ) := [⟨10, .int d.channel⟩]

end ConsultingAvailableOperators

/-- The functions that print what they read. -/
inductive Reader
  | battery
  | position
  | operators
  deriving DecidableEq

/-- **The prints of a line that a function accepts.**  What its float variables hold before the scan
    is `u`. -/
def Reader.prints (F : Floats φ) (u : φ) : Reader → Bytes → Option (List (Print φ))
  | battery, line =>
      (PowerONState.retrivBatteryData F ⟨0, 0, u⟩ line).map PowerONState.batteryPrints
  | position, line =>
      (ObtainingPositionInformation.scanPositionInfo F ⟨[], u, u, u, u, 0, u, u, u, [], 0⟩ line).map
        ObtainingPositionInformation.positionPrints
  | operators, line =>
      (ConsultingAvailableOperators.retrivOperatorsInformation line).map
        ConsultingAvailableOperators.operatorPrints

/-! ## What stands in the line

  A table for each function: in which place of the line a number stands, into how many bytes it
  goes, and how. -/

/-- The text behind so many quotes. -/
def afterQuotes : Nat → Bytes → Bytes
  | 0, s => s
  | k + 1, s => afterQuotes k ((s.dropWhile (· != 34)).drop 1)

/-- The places of a line where its numbers stand: between the commas, or behind the last quote. -/
def Reader.pieces : Reader → Bytes → List Bytes
  | battery, line => (line.drop 5).splitOn 44
  | position, line => ((line.drop 9).dropWhile isSpace).splitOn 44
  | operators, line => [(afterQuotes 6 line).drop 1]

/-- The place of each number that is printed, the array that it is printed into, and how. -/
def Reader.table : Reader → List (Nat × Nat × Conversion)
  | battery => [(0, 5, .int), (1, 5, .int), (2, 5, .float 2)]
  | position =>
      [(1, 15, .float 5), (2, 15, .float 5), (3, 10, .float 1), (4, 10, .float 1), (5, 5, .int),
        (6, 10, .float 2), (7, 10, .float 1), (8, 10, .float 1), (10, 5, .int)]
  | operators => [(0, 10, .int)]

/-- The number that a place begins with. -/
def Conversion.spells (F : Floats φ) : Conversion → Bytes → Option (Number φ)
  | int, piece => (scanInt 32 piece).map fun p => .int p.1
  | float digits, piece => (F.strtof (piece.dropWhile isSpace)).map fun p => .float digits p.1

/-- What the place of an entry of the table says. -/
def Reader.spells (F : Floats φ) (r : Reader) (line : Bytes) (entry : Nat × Nat × Conversion) :
    Option (Print φ) :=
  ((r.pieces line)[entry.1]?.bind (entry.2.2.spells F)).map (Print.mk entry.2.1)

/-- **The numbers of a line**, each with the array that it is printed into. -/
def Reader.spelled (F : Floats φ) (r : Reader) (line : Bytes) : List (Print φ) :=
  r.table.filterMap (r.spells F line)

section Spelled

variable {F : Floats φ} {line : Bytes}

/-- No conversion of the battery line looks beyond a comma, -/
theorem batteryFields_local (hF : F.Lawful) :
    ∀ d ∈ (PowerONState.batteryFields (φ := φ)), d.Local F.strtof := by
  simp only [PowerONState.batteryFields, List.forall_mem_cons]
  exact ⟨int_local _ _, int_local _ _, float_local hF.strtof_comma hF.strtof_suffix _,
    List.forall_mem_nil _⟩

/-- nor does one of the position. -/
theorem positionInfoFields_local (hF : F.Lawful) :
    ∀ d ∈ (ObtainingPositionInformation.positionInfoFields (φ := φ)), d.Local F.strtof := by
  have hfloat := float_local (σ := PositionInfo φ) hF.strtof_comma hF.strtof_suffix
  simp only [ObtainingPositionInformation.positionInfoFields, List.forall_mem_cons]
  exact ⟨field_local _ _, hfloat _, hfloat _, hfloat _, hfloat _, int_local _ _, hfloat _, hfloat _,
    hfloat _, field_local _ _, int_local _ _, List.forall_mem_nil _⟩

/-- Where every place has its number, the numbers are those. -/
theorem spelled_eq {r : Reader} {ps : List (Print φ)}
    (h : r.table.map (r.spells F line) = ps.map some) : r.spelled F line = ps := by
  calc r.spelled F line = (r.table.map (r.spells F line)).filterMap id := by
        rw [List.filterMap_map]
        rfl
    _ = ps := by
        rw [h, List.filterMap_map]
        exact List.filterMap_some

/-- An integer that is read from its place, -/
theorem spells_int {r : Reader} {k : Nat} {v : Int} (size : Nat)
    (h : ((r.pieces line)[k]?.bind fun p => (scanInt 32 p).map Prod.fst) = some v) :
    r.spells F line (k, size, .int) = some ⟨size, .int v⟩ := by
  unfold Reader.spells
  cases hpiece : (r.pieces line)[k]? with
  | none =>
    rw [hpiece] at h
    cases h
  | some p =>
    rw [hpiece] at h
    obtain ⟨q, hq, rfl⟩ := Option.map_eq_some_iff.mp h
    simp [Conversion.spells, hq]

/-- and a float. -/
theorem spells_float {r : Reader} {k : Nat} {v : φ} (size digits : Nat)
    (h : ((r.pieces line)[k]?.bind fun p => (F.strtof (p.dropWhile isSpace)).map Prod.fst) =
      some v) :
    r.spells F line (k, size, .float digits) = some ⟨size, .float digits v⟩ := by
  unfold Reader.spells
  cases hpiece : (r.pieces line)[k]? with
  | none =>
    rw [hpiece] at h
    cases h
  | some p =>
    rw [hpiece] at h
    obtain ⟨q, hq, rfl⟩ := Option.map_eq_some_iff.mp h
    simp [Conversion.spells, hq]

/-- The prints of a battery line. -/
theorem batteryPrints_eq (hF : F.Lawful) {before b : BatteryMeasure φ}
    (h : PowerONState.retrivBatteryData F before line = some b) :
    PowerONState.batteryPrints b = Reader.battery.spelled F line := by
  have hstart : (ascii "+CBC:").length = 5 := by decide
  unfold PowerONState.retrivBatteryData at h
  simp only [hstart] at h
  split at h
  · split at h
    · next hn =>
      obtain rfl := Option.some.inj h
      have hlocal := batteryFields_local hF
      have hstatus := int_scanned hlocal hn (i := 0) (f := BatteryMeasure.batteryChargeStatus) rfl
        (fun _ _ => rfl) (by simp [PowerONState.batteryFields, Directive.Keeps])
      have hlevel := int_scanned hlocal hn (i := 1) (f := BatteryMeasure.chargeLevel) rfl
        (fun _ _ => rfl) (by simp [PowerONState.batteryFields, Directive.Keeps])
      have hvoltage := float_scanned hlocal hn (i := 2) (f := BatteryMeasure.voltage) rfl
        (fun _ _ => rfl) (List.forall_mem_nil _)
      refine (spelled_eq ?_).symm
      simp only [Reader.table, List.map_cons, List.map_nil, PowerONState.batteryPrints,
        spells_int (r := .battery) 5 hstatus, spells_int (r := .battery) 5 hlevel,
        spells_float (r := .battery) 5 2 hvoltage]
    · cases h
  · cases h

/-- The prints of a position. -/
theorem positionPrints_eq (hF : F.Lawful) {before p : PositionInfo φ}
    (h : ObtainingPositionInformation.scanPositionInfo F before line = some p) :
    ObtainingPositionInformation.positionPrints p = Reader.position.spelled F line := by
  have hstart : (ascii "+QGPSLOC:").length = 9 := by decide
  unfold ObtainingPositionInformation.scanPositionInfo at h
  simp only [hstart] at h
  split at h
  · split at h
    · next hn =>
      obtain rfl := Option.some.inj h
      have hlocal := positionInfoFields_local hF
      -- a directive at place `i` stores what stands there, and no later one overwrites it
      have hint {i : Nat} {store : Int → PositionInfo φ → PositionInfo φ} {f : PositionInfo φ → Int}
          (size : Nat) (hi : ObtainingPositionInformation.positionInfoFields[i]? =
            some (.int 32 store)) (hf : ∀ v st, f (store v st) = v)
          (hkeeps : ∀ d ∈ ObtainingPositionInformation.positionInfoFields.drop (i + 1), d.Keeps f) :=
        spells_int (F := F) (r := .position) size (int_scanned hlocal hn hi hf hkeeps)
      have hfloat {i : Nat} {store : φ → PositionInfo φ → PositionInfo φ} {f : PositionInfo φ → φ}
          (size digits : Nat) (hi : ObtainingPositionInformation.positionInfoFields[i]? =
            some (.float store)) (hf : ∀ v st, f (store v st) = v)
          (hkeeps : ∀ d ∈ ObtainingPositionInformation.positionInfoFields.drop (i + 1), d.Keeps f) :=
        spells_float (r := .position) size digits (float_scanned hlocal hn hi hf hkeeps)
      have hlatitude := hfloat (i := 1) (f := PositionInfo.latitude) 15 5 rfl (fun _ _ => rfl)
        (by simp [ObtainingPositionInformation.positionInfoFields, Directive.Keeps])
      have hlongitude := hfloat (i := 2) (f := PositionInfo.longitude) 15 5 rfl (fun _ _ => rfl)
        (by simp [ObtainingPositionInformation.positionInfoFields, Directive.Keeps])
      have hhdop := hfloat (i := 3) (f := PositionInfo.hdop) 10 1 rfl (fun _ _ => rfl)
        (by simp [ObtainingPositionInformation.positionInfoFields, Directive.Keeps])
      have haltitude := hfloat (i := 4) (f := PositionInfo.altitude) 10 1 rfl (fun _ _ => rfl)
        (by simp [ObtainingPositionInformation.positionInfoFields, Directive.Keeps])
      have hfix := hint (i := 5) (f := PositionInfo.fix) 5 rfl (fun _ _ => rfl)
        (by simp [ObtainingPositionInformation.positionInfoFields, Directive.Keeps])
      have hcog := hfloat (i := 6) (f := PositionInfo.cog) 10 2 rfl (fun _ _ => rfl)
        (by simp [ObtainingPositionInformation.positionInfoFields, Directive.Keeps])
      have hspkm := hfloat (i := 7) (f := PositionInfo.spkm) 10 1 rfl (fun _ _ => rfl)
        (by simp [ObtainingPositionInformation.positionInfoFields, Directive.Keeps])
      have hspkn := hfloat (i := 8) (f := PositionInfo.spkn) 10 1 rfl (fun _ _ => rfl)
        (by simp [ObtainingPositionInformation.positionInfoFields, Directive.Keeps])
      have hnsat := hint (i := 10) (f := PositionInfo.nsat) 5 rfl (fun _ _ => rfl)
        (List.forall_mem_nil _)
      refine (spelled_eq ?_).symm
      simp only [Reader.table, List.map_cons, List.map_nil,
        ObtainingPositionInformation.positionPrints, hlatitude, hlongitude, hhdop, haltitude, hfix,
        hcog, hspkm, hspkn, hnsat]
    · cases h
  · cases h

/-- Up to the next quote and over it. -/
theorem afterQuotes_quote {x : Bytes} (hx : 34 ∉ x) (k : Nat) (s : Bytes) :
    afterQuotes (k + 1) (x ++ 34 :: s) = afterQuotes k s := by
  have hfree : ∀ c ∈ x, (c != 34) = true := fun c hc => by
    rw [bne_iff_ne]
    rintro rfl
    exact hx hc
  rw [afterQuotes, List.dropWhile_append_of_pos hfree, List.dropWhile_cons_of_neg (by decide)]
  rfl

/-- **What the operator scan reads**: three quoted fields, and the channel. -/
theorem sscanf_operatorFormat {inp : Bytes} {st : Bytes × Bytes × Int}
    (h : (sscanf (fun _ => none) ConsultingAvailableOperators.operatorFormat inp st).1 = 4) :
    ∃ technology code band rest left, 34 ∉ technology ∧ 34 ∉ code ∧ 34 ∉ band ∧
      inp = 34 :: (technology ++ 34 :: ([44] ++ 34 :: (code ++ 34 :: ([44] ++ 34 ::
        (band ++ 34 :: 44 :: rest))))) ∧
      scanInt 32 rest = some
        ((sscanf (fun _ => none) ConsultingAvailableOperators.operatorFormat inp st).2.2.2, left) := by
  unfold ConsultingAvailableOperators.operatorFormat at h ⊢
  -- a directive after the other, since all four conversions were made
  obtain ⟨s₁, rfl, h₁⟩ := sscanf_text (h.trans_ne (by decide))
  rw [h₁] at h ⊢
  obtain ⟨technology, s₂, rfl, htechnology, h₂⟩ := sscanf_field (h.trans_ne (by decide))
  rw [h₂] at h ⊢
  replace h := Nat.succ.inj h
  obtain ⟨s₃, rfl, h₃⟩ := sscanf_text (h.trans_ne (by decide))
  rw [h₃] at h ⊢
  obtain ⟨code, s₄, rfl, hcode, h₄⟩ := sscanf_field (h.trans_ne (by decide))
  rw [h₄] at h ⊢
  replace h := Nat.succ.inj h
  obtain ⟨s₅, rfl, h₅⟩ := sscanf_text (h.trans_ne (by decide))
  rw [h₅] at h ⊢
  obtain ⟨band, s₆, rfl, hband, h₆⟩ := sscanf_field (h.trans_ne (by decide))
  rw [h₆] at h ⊢
  replace h := Nat.succ.inj h
  obtain ⟨rest, rfl, h₇⟩ := sscanf_text (h.trans_ne (by decide))
  rw [h₇] at h ⊢
  obtain ⟨v, left, hscan, h₈⟩ := sscanf_int (h.trans_ne (by decide))
  rw [h₈]
  exact ⟨technology, code, band, rest, left, htechnology, hcode, hband, by simp [ascii], hscan⟩

/-- The print of an operator line. -/
theorem operatorPrints_eq {d : OperatorData}
    (h : ConsultingAvailableOperators.retrivOperatorsInformation line = some d) :
    ConsultingAvailableOperators.operatorPrints d = Reader.operators.spelled F line := by
  unfold ConsultingAvailableOperators.retrivOperatorsInformation at h
  simp only at h
  split at h
  · next hheader =>
    obtain ⟨behind, rfl⟩ := hheader
    rw [List.drop_left] at h
    split at h
    · next hn =>
      obtain rfl := Option.some.inj h
      obtain ⟨technology, code, band, rest, left, htechnology, hcode, hband, hbehind, hscan⟩ :=
        sscanf_operatorFormat hn
      -- no quote stands in front of the first field
      have hfront : 34 ∉ ascii "+QNWINFO:" ++ behind.takeWhile isSpace := by
        rw [List.mem_append, not_or]
        refine ⟨by decide, fun hmem => ?_⟩
        exact absurd (List.mem_takeWhile_imp hmem) (by decide)
      have hplace : (afterQuotes 6 (ascii "+QNWINFO:" ++ behind)).drop 1 = rest := by
        rw [← List.takeWhile_append_dropWhile (p := isSpace) (l := behind), hbehind,
          ← List.append_assoc, afterQuotes_quote hfront, afterQuotes_quote htechnology,
          afterQuotes_quote (by decide), afterQuotes_quote hcode, afterQuotes_quote (by decide),
          afterQuotes_quote hband]
        rfl
      refine (spelled_eq ?_).symm
      simp only [Reader.table, List.map_cons, List.map_nil,
        ConsultingAvailableOperators.operatorPrints]
      rw [spells_int (r := .operators) 10]
      simp only [Reader.pieces, hplace]
      rw [List.getElem?_cons_zero, Option.bind_some, hscan]
      rfl
    · cases h
  · cases h

/-- **What is printed is what stands in the line.** -/
theorem prints_eq_spelled (hF : F.Lawful) {u : φ} {r : Reader} {ps : List (Print φ)}
    (h : r.prints F u line = some ps) : ps = r.spelled F line := by
  cases r with
  | battery =>
    obtain ⟨b, hb, rfl⟩ := Option.map_eq_some_iff.mp h
    exact batteryPrints_eq hF hb
  | position =>
    obtain ⟨p, hp, rfl⟩ := Option.map_eq_some_iff.mp h
    exact positionPrints_eq hF hp
  | operators =>
    obtain ⟨d, hd, rfl⟩ := Option.map_eq_some_iff.mp h
    exact operatorPrints_eq hd

end Spelled

/-! ## The room of a number

  The digits of a number are counted through the power of ten above it.  A float is first rounded to
  its decimals, and half a unit of the last one may be what makes it longer; the ranges are those of
  the number before it is rounded. -/

/-- How many digits in front of the point an array has room for, besides the sign, the point with its
    decimals, and the NUL. -/
def Number.room (size : Nat) (negative : Bool) (decimals : Nat) : Nat :=
  size - 1 - (if negative then 1 else 0) - decimals

/-- **The number is in the range of the array**: a float may round to no power of ten that is too
    long, and an infinity or a NaN is a sign and three letters. -/
def Print.InRange (value : φ → FloatValue) (p : Print φ) : Prop :=
  match p.number with
  | .int v =>
      let k := Number.room p.size (v < 0) 0
      0 < k ∧ v.natAbs < 10 ^ k
  | .float digits v =>
      match value v with
      | .finite negative m =>
          let k := Number.room p.size negative (digits + 1)
          0 < k ∧ (m : ℚ) + 1 / (2 * 10 ^ digits) < 10 ^ k
      | .infinite negative | .nan negative => 3 ≤ Number.room p.size negative 0

instance (value : φ → FloatValue) (p : Print φ) : Decidable (p.InRange value) := by
  unfold Print.InRange
  split
  · exact inferInstance
  · split <;> exact inferInstance

/-- **What the platform documents of `%.<digits>f`**, for what a float stands for. -/
def Floats.PrintsValue (F : Floats φ) (value : φ → FloatValue) : Prop :=
  ∀ digits v, 0 < digits → F.text digits v = (value v).text digits

/-- An integer and its NUL. -/
theorem fits_int_iff (F : Floats φ) (value : φ → FloatValue) (size : Nat) (v : Int) :
    (Print.mk (φ := φ) size (.int v)).Fits F ↔ (Print.mk (φ := φ) size (.int v)).InRange value := by
  have hpos := length_natText_pos v.natAbs
  have hlen := length_intText v
  unfold Print.Fits Print.InRange Number.text Number.room
  simp only [decide_eq_true_eq]
  generalize hk : size - 1 - (if v < 0 then 1 else 0) - 0 = k
  constructor
  · intro h
    have hroom : 0 < k := by omega
    exact ⟨hroom, (length_natText_le_iff hroom).mp (by omega)⟩
  · rintro ⟨hroom, hv⟩
    have := (length_natText_le_iff hroom).mpr hv
    omega

/-- A float and its NUL. -/
theorem fits_float_iff {F : Floats φ} {value : φ → FloatValue} (hprint : F.PrintsValue value)
    (size : Nat) {digits : Nat} (hdigits : 0 < digits) (v : φ) :
    (Print.mk size (.float digits v)).Fits F ↔ (Print.mk size (.float digits v)).InRange value := by
  unfold Print.Fits Print.InRange Number.text Number.room
  simp only [hprint digits v hdigits]
  cases value v with
  | finite negative m =>
    have hpos := length_natText_pos (roundHalfEven (m * 10 ^ digits) / 10 ^ digits)
    simp only [FloatValue.text, List.length_append, length_signText, length_fixedText hdigits]
    generalize hk : size - 1 - (if negative then 1 else 0) - (digits + 1) = k
    constructor
    · intro h
      have hroom : 0 < k := by omega
      exact ⟨hroom, (length_natText_rounded hroom m).mp (by omega)⟩
    · rintro ⟨hroom, hm⟩
      have := (length_natText_rounded hroom m).mpr hm
      omega
  | infinite negative | nan negative =>
    have hlen (s : Bytes) (hs : s.length = 3) : (signText negative ++ s).length + 1 ≤ size ↔
        3 ≤ size - 1 - (if negative then 1 else 0) - 0 := by
      rw [List.length_append, length_signText, hs]
      omega
    exact hlen _ rfl

/-- Every float of a line is printed with decimals. -/
theorem table_digits (r : Reader) : ∀ entry ∈ r.table, ∀ digits,
    entry.2.2 = .float digits → 0 < digits := by
  cases r <;> simp [Reader.table]

/-- **A number of the line fits its array if and only if it is in range.** -/
theorem spelled_fits_iff {F : Floats φ} {value : φ → FloatValue} (hprint : F.PrintsValue value)
    {r : Reader} {line : Bytes} {p : Print φ} (h : p ∈ r.spelled F line) :
    p.Fits F ↔ p.InRange value := by
  obtain ⟨⟨k, size, c⟩, hentry, hp⟩ := List.mem_filterMap.mp h
  obtain ⟨number, hnumber, rfl⟩ := Option.map_eq_some_iff.mp hp
  obtain ⟨piece, -, hspells⟩ := Option.bind_eq_some_iff.mp hnumber
  cases c with
  | int =>
    obtain ⟨q, -, rfl⟩ := Option.map_eq_some_iff.mp hspells
    exact fits_int_iff F value size q.1
  | float digits =>
    obtain ⟨q, -, rfl⟩ := Option.map_eq_some_iff.mp hspells
    exact fits_float_iff hprint size (table_digits r _ hentry digits rfl) q.1

/-! ## The prints of an accepted line

  What was shown of the line and of the room, together. -/

/-- **The prints of an accepted line fit their arrays if and only if the numbers of the line are in
    their ranges.** -/
theorem debug_prints_fit_iff {F : Floats φ} (hF : F.Lawful) {value : φ → FloatValue}
    (hprint : F.PrintsValue value) (u : φ) (r : Reader) (line : Bytes) (ps : List (Print φ))
    (h : r.prints F u line = some ps) :
    (∀ p ∈ ps, p.Fits F) ↔ ∀ p ∈ r.spelled F line, p.InRange value := by
  rw [prints_eq_spelled hF h]
  exact forall₂_congr fun p hp => spelled_fits_iff hprint hp

/-- The integers that stand in for floats. -/
def wordValue (v : Int64) : FloatValue := .finite (v.toInt < 0) v.toInt.natAbs

/-- They are printed as the numbers they are, with zeros behind the point. -/
theorem words_printsValue : Floats.words.PrintsValue wordValue := by
  intro digits v hdigits
  rw [wordValue, text_natCast hdigits]
  show intText v.toInt ++ _ = _
  unfold intText
  split
  · next h => simp [signText, h]
  · next h => simp [signText, h]

/-- Three volts fit. -/
theorem volts_fit :
    (∀ p ∈ Reader.battery.spelled .words (ascii "+CBC: 0,80,3"), p.InRange wordValue) ∧
      ∀ p ∈ Reader.battery.spelled .words (ascii "+CBC: 0,80,3"), p.Fits .words :=
  have hrange : ∀ p ∈ Reader.battery.spelled .words (ascii "+CBC: 0,80,3"),
      p.InRange wordValue := by decide +kernel
  have hprints : Reader.battery.prints .words 0 (ascii "+CBC: 0,80,3") =
      some (Reader.battery.spelled .words (ascii "+CBC: 0,80,3")) := by decide +kernel
  ⟨hrange, (debug_prints_fit_iff Floats.words_lawful words_printsValue 0 .battery _ _ hprints).mpr
    hrange⟩

/-- **A voltage in millivolts does not**: `3800.00` goes into an array of five bytes. -/
theorem millivolts_overrun :
    Reader.battery.prints .words 0 (ascii "+CBC: 0,80,3800") =
        some [⟨5, .int 0⟩, ⟨5, .int 80⟩, ⟨5, .float 2 3800⟩] ∧
      (Print.mk 5 (.float 2 (3800 : Int64))).number.text .words = ascii "3800.00" ∧
      ¬ (Print.mk 5 (.float 2 (3800 : Int64))).Fits .words := by
  decide +kernel

end GatewayLoRa
