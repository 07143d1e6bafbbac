/-
  What `parseReceptedLoRaMessage` reads, in terms of the TEXT.

  The parser is two scans of one text.  `parse_eq` reads it off as three cases: no known header, a
  text that matches the format its header announces, and a text that does not; in the third the
  store of the broken scan is what stays.

  Both formats are conversions with commas between them, and no conversion reads past a comma
  (`fields_local`; for the floats this is a law of `strtof`, `Floats.Lawful`).  So what an accepted
  message stored in an integer or a string is what stands between two commas of the text, counted
  from its beginning: `int_of_piece`, `field_of_piece`.

  The crux is locality.  A conversion of `sscanf` sees the whole rest of the text, and could in
  principle read on behind the comma: a float could take `1,2` for one number.  That it does not is
  a law of each conversion (`Directive.Local`), and from it follows that a scan can be cut at the
  commas: the conversion at position `i` sees the piece behind `i` commas, as if nothing else stood
  there.  With that the order of the conversions, and what they stored before, no longer matter.
-/

import GatewayLoRa.ReceptedMessage
import GatewayLoRa.Lib.Separated

namespace GatewayLoRa

open CMemory Stdio

variable {φ : Type}

/-! ## The two formats

  The parser in the words of the formats, which the model has as lists of conversions. -/

/-- The first field of a message. -/
def header : ReceptedTypeMessage → Bytes
  | .loraGnss => ascii "LORAGNSS"
  | .loraLora => ascii "LORALORA"

/-- The format a message of a type is scanned with. -/
def format : ReceptedTypeMessage → List (Scan.Directive φ)
  | .loraGnss => Scan.loraGnssFormat
  | .loraLora => Scan.loraLoraFormat

/-- The format behind the header and the IMEI. -/
def laterFields : ReceptedTypeMessage → List (Scan.Directive φ)
  | .loraGnss => Scan.loraGnssFormat.drop 2
  | .loraLora => Scan.loraLoraFormat.drop 2

/-- Both formats begin with the header and the IMEI. -/
theorem format_eq (type : ReceptedTypeMessage) :
    (format type : List (Scan.Directive φ))
      = .text (header type ++ [44]) :: Scan.IMEI :: laterFields type := by
  cases type <;> rfl

/-- They have nineteen conversions and thirteen. -/
theorem conversions_format (type : ReceptedTypeMessage) :
    conversions (format type : List (Scan.Directive φ)) =
      match type with
      | .loraGnss => 19
      | .loraLora => 13 := by
  cases type <;> rfl

/-- A header has eight letters. -/
@[simp] theorem length_header (type : ReceptedTypeMessage) : (header type).length = 8 := by
  cases type <;> decide

/-- The type a first field announces. -/
def typeOf (pre : Bytes) : Option ReceptedTypeMessage :=
  if pre = header .loraGnss then some .loraGnss
  else if pre = header .loraLora then some .loraLora
  else none

/-- A header announces its type. -/
theorem typeOf_header (type : ReceptedTypeMessage) : typeOf (header type) = some type := by
  cases type <;> decide

/-- The first field of a text, as `%15[^,]` reads it. -/
def firstField (t : Bytes) : Bytes := (t.take 15).takeWhile (· != 44)

/-- The members after an accepted scan. -/
def accepted (type : ReceptedTypeMessage) (s : Scan φ) : Recepted φ :=
  let g := s.copied type
  match type with
  | .loraGnss => { g with receptedGNSSdata := { g.receptedGNSSdata with timestamp := s.timestamp } }
  | .loraLora => { g with receptedImuData := { g.receptedImuData with timestamp := s.timestamp } }

/-- **The parser in three cases**: a text with no known header, one that matches its format, and one
    that does not. -/
theorem parse_eq (F : Floats φ) (t : Bytes) (g : Recepted φ) :
    parseReceptedLoRaMessage F t g =
      match typeOf (firstField t) with
      | none => (false, g)
      | some type =>
        let s := (sscanf F.strtof (format type) t (Scan.start g)).2
        if formatMatches F.strtof (format type : List (Scan.Directive φ)) t then
          (true, accepted type s)
        else (false, s.recepted) := by
  have hfirst : sscanf F.strtof [.field 15 44 fun x (_ : Bytes) => x] t []
      = if firstField t = [] then (0, []) else (1, firstField t) := by
    by_cases h : (t.take 15).takeWhile (· != 44) = []
    · simp [sscanf, Directive.run, firstField, h]
    · simp [sscanf, Directive.run, firstField, h]
  have hcount : ∀ type, (sscanf F.strtof (format type) t (Scan.start g)).1
      = conversions (format type : List (Scan.Directive φ)) ↔
        formatMatches F.strtof (format type : List (Scan.Directive φ)) t = true :=
    fun type => sscanf_eq_conversions_iff
  have hgnss := hcount .loraGnss
  have hlora := hcount .loraLora
  rw [conversions_format] at hgnss hlora
  simp only [parseReceptedLoRaMessage, hfirst]
  by_cases hempty : firstField t = []
  · rw [hempty]
    rfl
  · simp only [if_neg hempty, typeOf, ne_eq, not_true_eq_false, if_false]
    -- the two headers, and the same reasoning for each: the count of conversions says whether the
    -- format matches
    by_cases hg : firstField t = header .loraGnss
    · have hg' : firstField t = ascii "LORAGNSS" := hg
      simp only [if_pos hg, if_pos hg']
      by_cases hm : formatMatches F.strtof (format .loraGnss : List (Scan.Directive φ)) t = true
      · rw [if_pos hm]
        exact if_pos (hgnss.mpr hm)
      · rw [if_neg hm]
        exact if_neg fun h => hm (hgnss.mp h)
    · have hg' : ¬ firstField t = ascii "LORAGNSS" := hg
      simp only [if_neg hg, if_neg hg']
      by_cases hl : firstField t = header .loraLora
      · have hl' : firstField t = ascii "LORALORA" := hl
        simp only [if_pos hl, if_pos hl']
        by_cases hm : formatMatches F.strtof (format .loraLora : List (Scan.Directive φ)) t = true
        · rw [if_pos hm]
          exact if_pos (hlora.mpr hm)
        · rw [if_neg hm]
          exact if_neg fun h => hm (hlora.mp h)
      · have hl' : ¬ firstField t = ascii "LORALORA" := hl
        simp only [if_neg hl, if_neg hl']

/-- The text has every field of the format its header announces. -/
def Complete (F : Floats φ) (type : ReceptedTypeMessage) (t : Bytes) : Prop :=
  formatMatches F.strtof (format type : List (Scan.Directive φ)) t = true

instance (F : Floats φ) (type : ReceptedTypeMessage) (t : Bytes) : Decidable (Complete F type t) :=
  inferInstanceAs (Decidable (_ = _))

/-- A text with a known header is accepted if and only if it is complete. -/
theorem parse_of_type {F : Floats φ} {type : ReceptedTypeMessage} {t : Bytes} {g : Recepted φ}
    (h : typeOf (firstField t) = some type) :
    parseReceptedLoRaMessage F t g =
      if Complete F type t then
        (true, accepted type (sscanf F.strtof (format type) t (Scan.start g)).2)
      else (false, (sscanf F.strtof (format type) t (Scan.start g)).2.recepted) := by
  rw [parse_eq, h]
  rfl

/-- An accepted text has a known header and is complete. -/
theorem complete_of_accepted {F : Floats φ} {t : Bytes} {g g' : Recepted φ}
    (h : parseReceptedLoRaMessage F t g = (true, g')) :
    ∃ type, typeOf (firstField t) = some type ∧ Complete F type t ∧
      g' = accepted type (sscanf F.strtof (format type) t (Scan.start g)).2 := by
  cases htype : typeOf (firstField t) with
  | none =>
    rw [parse_eq, htype] at h
    cases h
  | some type =>
    rw [parse_of_type htype] at h
    by_cases hcomplete : Complete F type t
    · rw [if_pos hcomplete] at h
      exact ⟨type, rfl, hcomplete, (Prod.mk.inj h).2.symm⟩
    · rw [if_neg hcomplete] at h
      cases h

/-! ## The fields between the commas

  A format is its conversions with commas between them.  The general part, about such formats, is in
  `Lib.Separated`; here it is applied to the two of the source. -/

/-- **What the platform documents of floats**: a number ends at a comma, and a printed one has at
    most 39 digits, a sign and a point in front of its decimals, and no comma. -/
structure Floats.Lawful (F : Floats φ) : Prop where
  strtof_comma : ∀ x tail, 44 ∉ x →
    F.strtof (x ++ 44 :: tail) = (F.strtof x).map fun p => (p.1, p.2 ++ 44 :: tail)
  strtof_suffix : ∀ s v rest, F.strtof s = some (v, rest) → rest <:+ s
  text_length : ∀ digits v, (F.text digits v).length ≤ digits + 41
  text_comma : ∀ digits v, 44 ∉ F.text digits v

/-- A conversion, and not a text. -/
def isConversion (d : Scan.Directive φ) : Bool := conversions [d] == 1

/-- The conversions of a format, the commas left out. -/
def fields (type : ReceptedTypeMessage) : List (Scan.Directive φ) :=
  (format type).filter isConversion

/-- A format, cut at its commas. -/
theorem format_separate (type : ReceptedTypeMessage) :
    (format type : List (Scan.Directive φ)) = .text (header type ++ [44]) :: separate (fields type) := by
  cases type <;> rfl

/-- The six floats at the end of both formats. -/
def motionFields : List (Scan.Directive φ) :=
  [Scan.imu fun v d => { d with ax := v }, Scan.imu fun v d => { d with ay := v },
    Scan.imu fun v d => { d with az := v }, Scan.imu fun v d => { d with yaw := v },
    Scan.imu fun v d => { d with roll := v }, Scan.imu fun v d => { d with pitch := v }]

/-- The fields of a LORALORA message, in order, -/
theorem fields_loraLora : (fields .loraLora : List (Scan.Directive φ)) =
    [Scan.IMEI, Scan.number, Scan.trackerEventField, Scan.bat, Scan.charge, Scan.timestampField,
      Scan.status] ++ motionFields := rfl

/-- and those of a LORAGNSS message. -/
theorem fields_loraGnss : (fields .loraGnss : List (Scan.Directive φ)) =
    [Scan.IMEI, Scan.number, Scan.trackerEventField,
      Scan.gnss fun v d => { d with latitude := v }, Scan.gnss fun v d => { d with longitude := v },
      Scan.gnss fun v d => { d with hdop := v }, Scan.gnss fun v d => { d with altitude := v },
      Scan.gnss fun v d => { d with cog := v }, Scan.gnss fun v d => { d with spkm := v },
      Scan.timestampField, Scan.bat, Scan.charge, Scan.status] ++ motionFields := rfl

/-- A field that is not a number ends at a comma. -/
def stopsAtComma : Scan.Directive φ → Bool
  | .field _ stop _ => stop == 44
  | _ => true

/-- Every string field stops at a comma. -/
theorem format_stops (type : ReceptedTypeMessage) :
    (format type : List (Scan.Directive φ)).all stopsAtComma = true := by
  cases type <;> rfl

/-- **No conversion reads past a comma.** -/
theorem fields_local {F : Floats φ} (hF : F.Lawful) {type : ReceptedTypeMessage}
    {d : Scan.Directive φ} (hd : d ∈ fields type) : d.Local F.strtof := by
  obtain ⟨hmem, hconv⟩ := List.mem_filter.mp hd
  have hstop := List.all_eq_true.mp (format_stops type) d hmem
  cases d with
  | text s => exact absurd hconv (by simp [isConversion, conversions])
  | int bits store => exact int_local bits store
  | field width stop store =>
    obtain rfl : stop = 44 := beq_iff_eq.mp hstop
    exact field_local width store
  | float store => exact float_local hF.strtof_comma hF.strtof_suffix store

/-- As many fields as conversions. -/
theorem fields_length (type : ReceptedTypeMessage) :
    (fields type : List (Scan.Directive φ)).length =
      match type with
      | .loraGnss => 19
      | .loraLora => 13 := by
  cases type <;> rfl

/-- A complete text is its header, a comma, and what its fields make a complete scan of. -/
theorem fields_of_matches {F : Floats φ} {type : ReceptedTypeMessage} {t : Bytes} {g : Recepted φ}
    (hm : Complete F type t) :
    ∃ rest, t.splitOn 44 = header type :: rest.splitOn 44 ∧
      (sscanf F.strtof (separate (fields type)) rest (Scan.start g)).1
        = conversions (separate (fields type : List (Scan.Directive φ))) ∧
      (sscanf F.strtof (format type) t (Scan.start g)).2
        = (sscanf F.strtof (separate (fields type)) rest (Scan.start g)).2 := by
  have hfull : (sscanf F.strtof (format type) t (Scan.start g)).1 = conversions (format type) :=
    sscanf_eq_conversions_iff.mpr hm
  have hzero : conversions (separate (fields type : List (Scan.Directive φ))) ≠ 0 := by
    cases type with
    | loraLora => exact Nat.succ_ne_zero 12
    | loraGnss => exact Nat.succ_ne_zero 18
  rw [format_separate] at hfull ⊢
  by_cases hpre : header type ++ [44] <+: t
  · obtain ⟨rest, rfl⟩ := hpre
    have hrun : (Directive.text (header type ++ [44]) : Scan.Directive φ).run F.strtof
        (header type ++ [44] ++ rest) (Scan.start g) = some (rest, 0, Scan.start g) := by
      rw [Directive.run, if_pos (List.prefix_append _ _), List.drop_left]
    simp only [sscanf, hrun] at hfull ⊢
    have hfree : (44 : UInt8) ∉ header type := by cases type <;> decide
    refine ⟨rest, ?_, hfull, rfl⟩
    rw [List.append_assoc]
    exact List.splitOn_append_cons_self_of_not_mem hfree rest
  · have hrun : (Directive.text (header type ++ [44]) : Scan.Directive φ).run F.strtof t
        (Scan.start g) = none := if_neg hpre
    simp only [sscanf, hrun] at hfull
    exact absurd hfull.symm hzero

/-- **The conversion at a position of a text that matches sees the piece behind that many commas.** -/
theorem piece_of_matches {F : Floats φ} (hF : F.Lawful) {type : ReceptedTypeMessage} {t : Bytes}
    {g : Recepted φ}
    (hm : Complete F type t) {i : Nat}
    {d : Scan.Directive φ} (hi : (fields type)[i]? = some d)
    (hlast : i + 1 < (fields type : List (Scan.Directive φ)).length) {α : Type} {f : Scan φ → α}
    (hkeeps : ∀ d' ∈ (fields type).drop (i + 1), d'.Keeps f) :
    ∃ piece st₁ st₂, (t.splitOn 44)[i + 1]? = some piece ∧
      d.run F.strtof piece st₁ = some ([], 1, st₂) ∧
      f (sscanf F.strtof (format type) t (Scan.start g)).2 = f st₂ := by
  obtain ⟨rest, hsplit, hfull, hstore⟩ := fields_of_matches (g := g) hm
  rw [hsplit, hstore]
  exact piece_of_complete (fun d hd => (fields_local hF hd).upToComma) hfull hi hlast hkeeps

/-! ## What an accepted message stored

  By the kind of the conversion: strings, integers, floats.  `Keeps` says that the later conversions
  leave the member alone, which for each member is a look at the list. -/

section Accepted

variable {type : ReceptedTypeMessage} {t : Bytes} {g : Recepted φ}

/-- **A string of a complete scan is the piece at its position.** -/
theorem string_at (hF : F.Lawful) (hm : Complete F type t) {i width : Nat}
    {store : Bytes → Scan φ → Scan φ} (hi : (fields type)[i]? = some (.field width 44 store))
    (hlast : i + 1 < (fields type : List (Scan.Directive φ)).length) {f : Scan φ → Bytes}
    (hget : ∀ x s, f (store x s) = x) (hkeeps : ∀ d ∈ (fields type).drop (i + 1), d.Keeps f) :
    ∃ piece, (t.splitOn 44)[i + 1]? = some piece ∧ piece ≠ [] ∧ piece.length ≤ width ∧
      44 ∉ piece ∧ f (sscanf F.strtof (format type) t (Scan.start g)).2 = piece := by
  obtain ⟨piece, st₁, st₂, hpiece, hrun, hf⟩ := piece_of_matches hF (g := g) hm hi hlast hkeeps
  obtain ⟨hne, hwidth, hfree, rfl⟩ := field_of_piece hrun
  exact ⟨piece, hpiece, hne, hwidth, hfree, hf.trans (hget piece st₁)⟩

/-- **An integer of a complete scan is what the piece at its position spells.** -/
theorem int_at (hF : F.Lawful) (hm : Complete F type t) {i bits : Nat}
    {store : Int → Scan φ → Scan φ} (hi : (fields type)[i]? = some (.int bits store))
    (hlast : i + 1 < (fields type : List (Scan.Directive φ)).length) {α : Type} {f : Scan φ → α}
    {conv : Int → α} (hget : ∀ v s, f (store v s) = conv v)
    (hkeeps : ∀ d ∈ (fields type).drop (i + 1), d.Keeps f) :
    ∃ piece v, (t.splitOn 44)[i + 1]? = some piece ∧ scanInt bits piece = some (v, []) ∧
      f (sscanf F.strtof (format type) t (Scan.start g)).2 = conv v := by
  obtain ⟨piece, st₁, st₂, hpiece, hrun, hf⟩ := piece_of_matches hF (g := g) hm hi hlast hkeeps
  obtain ⟨v, hscan, rfl⟩ := int_of_piece hrun
  exact ⟨piece, v, hpiece, hscan, hf.trans (hget v st₁)⟩

/-- **A float of a complete scan is what the piece at its position begins with.** -/
theorem float_at (hF : F.Lawful) (hm : Complete F type t) {i : Nat} {store : φ → Scan φ → Scan φ}
    (hi : (fields type)[i]? = some (.float store)) {α : Type} {f : Scan φ → α} {conv : φ → α}
    (hget : ∀ v s, f (store v s) = conv v) (hkeeps : ∀ d ∈ (fields type).drop (i + 1), d.Keeps f) :
    ∃ piece left v, (t.splitOn 44)[i + 1]? = some piece ∧
      F.strtof (piece.dropWhile isSpace) = some (v, left) ∧
      f (sscanf F.strtof (format type) t (Scan.start g)).2 = conv v := by
  obtain ⟨rest, hsplit, hfull, hstore⟩ := fields_of_matches (g := g) hm
  obtain ⟨piece, v, left, hpiece, hread, hf⟩ :=
    float_conversion (fun d hd => fields_local hF hd) hfull hi hget hkeeps
  rw [hsplit, hstore]
  exact ⟨piece, left, v, hpiece, hread, hf⟩

/-- The timestamp of the last message: where it is kept depends on the type. -/
def Recepted.timestamp (g : Recepted φ) : Bytes :=
  match g.receptedTypeMessage with
  | .loraGnss => g.receptedGNSSdata.timestamp
  | .loraLora => g.receptedImuData.timestamp

/-- The position of the timestamp between the commas; the event is always at position 3. -/
def timestampPosition : ReceptedTypeMessage → Nat
  | .loraGnss => 10
  | .loraLora => 6

/-- Three members of what an accepted scan leaves: the type, -/
@[simp] theorem accepted_type (s : Scan φ) : (accepted type s).receptedTypeMessage = type := by
  cases type <;> rfl

/-- the event, -/
@[simp] theorem accepted_event (s : Scan φ) :
    (accepted type s).receptedTrackerEvent = s.trackerEvent := by
  cases type <;> rfl

/-- and the timestamp, wherever it is kept. -/
@[simp] theorem accepted_timestamp (s : Scan φ) : (accepted type s).timestamp = s.timestamp := by
  cases type <;> rfl

/-- **The strings of an accepted message**: the event is the piece at position 3, and the timestamp
    the one at its own. -/
theorem accepted_strings (hF : F.Lawful) {g' : Recepted φ}
    (h : parseReceptedLoRaMessage F t g = (true, g')) :
    ((t.splitOn 44)[3]? = some g'.receptedTrackerEvent ∧
      (t.splitOn 44)[timestampPosition g'.receptedTypeMessage]? = some g'.timestamp) ∧
    (g'.receptedTrackerEvent.length ≤ 19 ∧ 44 ∉ g'.receptedTrackerEvent) ∧
    (g'.timestamp.length ≤ 19 ∧ 44 ∉ g'.timestamp) := by
  obtain ⟨type, -, hm, rfl⟩ := complete_of_accepted h
  simp only [accepted_type, accepted_event, accepted_timestamp]
  -- the event is the third field of both formats
  obtain ⟨event, hevent, -, hlen, hfree, heq⟩ : ∃ piece, (t.splitOn 44)[2 + 1]? = some piece ∧
      piece ≠ [] ∧ piece.length ≤ 19 ∧ 44 ∉ piece ∧
      (sscanf F.strtof (format type) t (Scan.start g)).2.trackerEvent = piece := by
    cases type with
    | loraLora =>
      refine string_at hF hm (by rw [fields_loraLora]; rfl) (by rw [fields_length]; decide)
        (by intro _ _; rfl) ?_
      rw [fields_loraLora]
      repeat' refine List.forall_mem_cons.mpr ⟨by first | trivial | exact fun _ _ => rfl, ?_⟩
      exact List.forall_mem_nil _
    | loraGnss =>
      refine string_at hF hm (by rw [fields_loraGnss]; rfl) (by rw [fields_length]; decide)
        (by intro _ _; rfl) ?_
      rw [fields_loraGnss]
      repeat' refine List.forall_mem_cons.mpr ⟨by first | trivial | exact fun _ _ => rfl, ?_⟩
      exact List.forall_mem_nil _
  obtain ⟨time, htime, -, hlen', hfree', heq'⟩ : ∃ piece,
      (t.splitOn 44)[timestampPosition type]? = some piece ∧
      piece ≠ [] ∧ piece.length ≤ 19 ∧ 44 ∉ piece ∧
      (sscanf F.strtof (format type) t (Scan.start g)).2.timestamp = piece := by
    cases type with
    | loraLora =>
      refine string_at (i := 5) hF hm (by rw [fields_loraLora]; rfl)
        (by rw [fields_length]; decide) (by intro _ _; rfl) ?_
      rw [fields_loraLora]
      repeat' refine List.forall_mem_cons.mpr ⟨by first | trivial | exact fun _ _ => rfl, ?_⟩
      exact List.forall_mem_nil _
    | loraGnss =>
      refine string_at (i := 9) hF hm (by rw [fields_loraGnss]; rfl)
        (by rw [fields_length]; decide) (by intro _ _; rfl) ?_
      rw [fields_loraGnss]
      repeat' refine List.forall_mem_cons.mpr ⟨by first | trivial | exact fun _ _ => rfl, ?_⟩
      exact List.forall_mem_nil _
  rw [heq, heq']
  exact ⟨⟨hevent, htime⟩, ⟨hlen, hfree⟩, hlen', hfree'⟩

/-- The floats of the last message, in the order of its fields. -/
def Recepted.floats (g : Recepted φ) : List φ :=
  let motion := [g.receptedImuData.ax, g.receptedImuData.ay, g.receptedImuData.az,
    g.receptedImuData.yaw, g.receptedImuData.roll, g.receptedImuData.pitch]
  match g.receptedTypeMessage with
  | .loraGnss => [g.receptedGNSSdata.latitude, g.receptedGNSSdata.longitude, g.receptedGNSSdata.hdop,
      g.receptedGNSSdata.altitude, g.receptedGNSSdata.cog, g.receptedGNSSdata.spkm] ++ motion
  | .loraLora => motion

/-- Their positions between the commas. -/
def floatPositions : ReceptedTypeMessage → List Nat
  | .loraGnss => [4, 5, 6, 7, 8, 9, 14, 15, 16, 17, 18, 19]
  | .loraLora => [8, 9, 10, 11, 12, 13]

/-- **The floats of an accepted message**: each is what the piece at its position begins with. -/
theorem accepted_floats (hF : F.Lawful) {g' : Recepted φ}
    (h : parseReceptedLoRaMessage F t g = (true, g')) {k i : Nat}
    (hk : (floatPositions g'.receptedTypeMessage)[k]? = some i) :
    ∃ piece left v, (t.splitOn 44)[i]? = some piece ∧
      F.strtof (piece.dropWhile isSpace) = some (v, left) ∧ g'.floats[k]? = some v := by
  obtain ⟨type, -, hm, rfl⟩ := complete_of_accepted h
  rw [accepted_type] at hk
  cases type with
  | loraLora =>
    rcases k with _ | _ | _ | _ | _ | _ | k
    all_goals cases hk
    all_goals
      refine float_at (f := fun s => (accepted .loraLora s).floats[_]?) hF hm
        (by rw [fields_loraLora]; rfl) (by intro _ _; rfl) ?_
      rw [fields_loraLora]
      repeat' refine List.forall_mem_cons.mpr ⟨by first | trivial | exact fun _ _ => rfl, ?_⟩
      exact List.forall_mem_nil _
  | loraGnss =>
    rcases k with _ | _ | _ | _ | _ | _ | _ | _ | _ | _ | _ | _ | k
    all_goals cases hk
    all_goals
      refine float_at (f := fun s => (accepted .loraGnss s).floats[_]?) hF hm
        (by rw [fields_loraGnss]; rfl) (by intro _ _; rfl) ?_
      rw [fields_loraGnss]
      repeat' refine List.forall_mem_cons.mpr ⟨by first | trivial | exact fun _ _ => rfl, ?_⟩
      exact List.forall_mem_nil _

end Accepted

/-! ## A lawful instance to evaluate

  Floats of a kind that Lean can compute with.  The laws are the ones that the results assume of the
  platform's. -/

/-- Floats that happen to be integers of 64 bits, read and printed. -/
def Floats.words : Floats Int64 where
  strtof s := (scanInt 64 s).map fun p => (Int64.ofInt p.1, p.2)
  text digits v := intText v.toInt ++ 46 :: List.replicate digits 48

/-- They obey the laws: an integer has no comma and twenty characters at most. -/
theorem Floats.words_lawful : Floats.words.Lawful where
  strtof_comma x tail _ := by
    show ((scanInt 64 (x ++ 44 :: tail)).map _) = ((scanInt 64 x).map _).map _
    rw [scanInt_comma, Option.map_map, Option.map_map]
    rfl
  strtof_suffix s v rest h := by
    obtain ⟨⟨i, left⟩, hscan, heq⟩ := Option.map_eq_some_iff.mp h
    obtain ⟨-, rfl⟩ : Int64.ofInt i = v ∧ left = rest := by simpa using heq
    exact scanInt_suffix hscan
  text_length digits v := by
    have hlen : (intText v.toInt).length ≤ 20 :=
      length_intText_le (k := 19) (by decide) (by
        have hlo := v.le_toInt
        have hhi := v.toInt_lt
        show v.toInt.natAbs < 10 ^ 19
        omega)
    show (intText v.toInt ++ 46 :: List.replicate digits 48).length ≤ digits + 41
    rw [List.length_append, List.length_cons, List.length_replicate]
    omega
  text_comma digits v := by
    intro hmem
    rcases List.mem_append.mp hmem with hmem | hmem
    · exact absurd (intText_numeric _ _ hmem) (by unfold Numeric; decide)
    · rcases List.mem_cons.mp hmem with hmem | hmem
      · exact absurd hmem (by decide)
      · exact absurd (List.eq_of_mem_replicate hmem) (by decide)

/-- The members before the first message, over those floats. -/
def blankRecepted : Recepted Int64 :=
  ⟨0, 1, [], ⟨0, 0, 0, 0, 0, 0, []⟩, ⟨0, 0⟩, ⟨0, 0, 0, 0, 0, 0, 0, []⟩, .loraLora⟩

/-- The gateway after the message of a tracker at rest. -/
def trackerRecepted : Recepted Int64 := (parseReceptedLoRaMessage .words trackerMessage blankRecepted).2

/-- The message is accepted. -/
theorem trackerMessage_accepted :
    parseReceptedLoRaMessage .words trackerMessage blankRecepted = (true, trackerRecepted) := by
  have haccepted : (parseReceptedLoRaMessage .words trackerMessage blankRecepted).1 = true := by
    decide +kernel
  exact Prod.ext haccepted rfl

end GatewayLoRa
