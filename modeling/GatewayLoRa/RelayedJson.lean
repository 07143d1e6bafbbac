/-
  Whether a relayed message is JSON.

  `formatLORALORAMessage` and `formatLORAGNSSMessage` print the event and the timestamp of the LoRa
  text between quotes just as they came, and each float with `%.2f` or `%.6f`, whatever it is.  The
  payload in braces is an object that says what the text said exactly when the two strings are plain
  UTF-8 and the floats are finite: `relaysJson_iff`.

  That a comma is in neither string is what makes this exact: with one, a string could close its
  quotes and go on with a member of its own.

  The crux is the direction from an object back to the strings.  That a payload with plain strings
  and finite floats is an object is a computation: each member is read, one after the other
  (`ValueText.reads`).  Conversely a parser could read a broken payload in some other way, as an
  object with other members, and find `EVNT` in it all the same.  `Json.Only` excludes this:
  whatever a parser reads behind a name ends at the next comma, because no text of a value has a
  comma in it.  So members can only be read where they were printed, and a string that comes back as
  it was is plain.
-/

import GatewayLoRa.IntegerFields
import GatewayLoRa.Lib.JsonText

namespace GatewayLoRa

open CMemory Stdio

variable {φ : Type} {F : Floats φ} {finite : φ → Prop}

/-! ## The texts of the values

  Twenty members at most, of three kinds.  `ValueText` says which texts can stand for a value, so
  that the proofs below have three cases and not twenty. -/

/-- **What the platform documents of printed floats**: a finite one is printed in decimal, and
    another as `inf` or `nan`, with or without a sign. -/
structure Floats.Prints (F : Floats φ) (finite : φ → Prop) : Prop where
  decimal : ∀ digits v, 0 < digits → finite v → Json.Decimal (F.text digits v)
  other : ∀ digits v, ¬ finite v →
    F.text digits v ∈ [ascii "inf", ascii "-inf", ascii "nan", ascii "-nan"]

/-- The floats that are printed; the position of a LORALORA message is the gateway's own. -/
def printedFloats (gatewayGNSSInfo : GNSSData φ) (g : Recepted φ) : List φ :=
  match g.receptedTypeMessage with
  | .loraGnss => g.floats
  | .loraLora =>
      [gatewayGNSSInfo.latitude, gatewayGNSSInfo.longitude, gatewayGNSSInfo.altitude] ++ g.floats

/-- The text of a value: an integer, a string, a float. -/
inductive ValueText (F : Floats φ) (gatewayGNSSInfo : GNSSData φ) (g : Recepted φ) : Bytes → Prop
  | int (i : Int) : ValueText F gatewayGNSSInfo g (intText i)
  | string (s : Bytes) (h : s = ascii "LORALORA" ∨ s = ascii "LORAGNSS" ∨
      s = g.receptedTrackerEvent ∨ s = g.timestamp) : ValueText F gatewayGNSSInfo g (quoted s)
  | float (digits : Nat) (v : φ) (hdigits : 0 < digits) (h : v ∈ printedFloats gatewayGNSSInfo g) :
      ValueText F gatewayGNSSInfo g (F.text digits v)

/-- **Every value of a message is the text of one.** -/
theorem payloadMembers_values (RSSI : Int) (gatewayGNSSInfo : GNSSData φ) (g : Recepted φ) :
    ∀ f ∈ payloadMembers F RSSI gatewayGNSSInfo g, ValueText F gatewayGNSSInfo g f.2 := by
  unfold payloadMembers
  cases htype : g.receptedTypeMessage with
  | loraLora =>
    have htime : g.receptedImuData.timestamp = g.timestamp := by
      rw [Recepted.timestamp, htype]
    have hfloats : printedFloats gatewayGNSSInfo g = [gatewayGNSSInfo.latitude,
        gatewayGNSSInfo.longitude, gatewayGNSSInfo.altitude, g.receptedImuData.ax,
        g.receptedImuData.ay, g.receptedImuData.az, g.receptedImuData.yaw, g.receptedImuData.roll,
        g.receptedImuData.pitch] := by
      rw [printedFloats, Recepted.floats, htype]
      rfl
    show ∀ f ∈ loraLoraMembers F RSSI gatewayGNSSInfo g, _
    rw [loraLoraMembers, headMembers, sensorMembers, htime]
    repeat' refine List.forall_mem_cons.mpr ⟨?_, ?_⟩
    all_goals first
      | exact List.forall_mem_nil _
      | exact .int _
      | exact .int (Nat.cast _)
      | exact .string _ (by simp)
      | exact .float _ _ (by decide) (by simp [hfloats])
  | loraGnss =>
    have htime : g.receptedGNSSdata.timestamp = g.timestamp := by
      rw [Recepted.timestamp, htype]
    have hfloats : printedFloats gatewayGNSSInfo g = [g.receptedGNSSdata.latitude,
        g.receptedGNSSdata.longitude, g.receptedGNSSdata.hdop, g.receptedGNSSdata.altitude,
        g.receptedGNSSdata.cog, g.receptedGNSSdata.spkm, g.receptedImuData.ax,
        g.receptedImuData.ay, g.receptedImuData.az, g.receptedImuData.yaw, g.receptedImuData.roll,
        g.receptedImuData.pitch] := by
      rw [printedFloats, Recepted.floats, htype]
      rfl
    show ∀ f ∈ loraGnssMembers F RSSI g, _
    rw [loraGnssMembers, headMembers, sensorMembers, htime]
    repeat' refine List.forall_mem_cons.mpr ⟨?_, ?_⟩
    all_goals first
      | exact List.forall_mem_nil _
      | exact .int _
      | exact .int (Nat.cast _)
      | exact .string _ (by simp)
      | exact .float _ _ (by decide) (by simp [hfloats])

/-- **Every float of `printedFloats` is printed.** -/
theorem printedFloats_members (RSSI : Int) (gatewayGNSSInfo : GNSSData φ) (g : Recepted φ) :
    ∀ v ∈ printedFloats gatewayGNSSInfo g, ∃ digits,
      F.text digits v ∈ (payloadMembers F RSSI gatewayGNSSInfo g).map Prod.snd := by
  -- a coordinate has six decimals, anything else two
  unfold payloadMembers
  cases htype : g.receptedTypeMessage with
  | loraLora =>
    rw [printedFloats, Recepted.floats, htype]
    show ∀ v ∈ _, ∃ digits, _ ∈ (loraLoraMembers F RSSI gatewayGNSSInfo g).map Prod.snd
    repeat' refine List.forall_mem_cons.mpr ⟨?_, ?_⟩
    all_goals first
      | exact List.forall_mem_nil _
      | (refine ⟨2, ?_⟩; simp [loraLoraMembers, sensorMembers]; done)
      | (refine ⟨6, ?_⟩; simp [loraLoraMembers])
  | loraGnss =>
    rw [printedFloats, Recepted.floats, htype]
    show ∀ v ∈ _, ∃ digits, _ ∈ (loraGnssMembers F RSSI g).map Prod.snd
    repeat' refine List.forall_mem_cons.mpr ⟨?_, ?_⟩
    all_goals first
      | exact List.forall_mem_nil _
      | (refine ⟨2, ?_⟩; simp [loraGnssMembers, sensorMembers]; done)
      | (refine ⟨6, ?_⟩; simp [loraGnssMembers])

/-! ## The object

  The source prints the members between commas and puts braces around them somewhere else.  Here
  they are brought into the form that `Lib.Json` speaks of, a list of names and texts. -/

/-- The members, as bytes. -/
def textMembers (fs : List (String × Bytes)) : List (Bytes × Bytes) :=
  fs.map fun f => (ascii f.1, f.2)

/-- A member, as the bytes of its name and of its value. -/
theorem member_eq (f : String × Bytes) : member f = Json.memberText (ascii f.1, f.2) := by
  show [34] ++ ascii f.1 ++ [34, 58] ++ f.2 = 34 :: ascii f.1 ++ 34 :: 58 :: f.2
  simp

/-- All members, as `Lib.Json` joins them. -/
theorem members_eq (fs : List (String × Bytes)) : members fs = Json.membersText (textMembers fs) := by
  induction fs with
  | nil => rfl
  | cons f fs ih =>
    cases fs with
    | nil => exact member_eq f
    | cons f' fs =>
      show member f ++ [44] ++ members (f' :: fs) = Json.memberText _ ++ 44 :: Json.membersText _
      rw [ih, member_eq]
      simp [textMembers]

/-- **A payload in braces is the text of an object.** -/
theorem braced_eq (fs : List (String × Bytes)) :
    ascii "\x7b" ++ members fs ++ ascii "\x7d" = Json.objectText (textMembers fs) := by
  rw [members_eq]
  rfl

/-- The names of the members need no escapes, -/
theorem payloadNames_json (type : ReceptedTypeMessage) :
    ∀ name ∈ payloadNames type, Json.Name (ascii name) ∧ Json.Ascii (ascii name) := by
  cases type <;> decide

/-- which is what the parser needs to know of each, -/
theorem textMembers_names (RSSI : Int) (gatewayGNSSInfo : GNSSData φ) (g : Recepted φ) :
    ∀ m ∈ textMembers (payloadMembers F RSSI gatewayGNSSInfo g), Json.Name m.1 ∧ Json.Ascii m.1 := by
  intro m hm
  obtain ⟨f, hf, rfl⟩ := List.mem_map.mp hm
  refine payloadNames_json g.receptedTypeMessage f.1 ?_
  rw [← payloadMembers_names (F := F) RSSI gatewayGNSSInfo]
  exact List.mem_map_of_mem hf

/-- as are their values. -/
theorem textMembers_values (RSSI : Int) (gatewayGNSSInfo : GNSSData φ) (g : Recepted φ) :
    ∀ m ∈ textMembers (payloadMembers F RSSI gatewayGNSSInfo g),
      ValueText F gatewayGNSSInfo g m.2 := by
  intro m hm
  obtain ⟨f, hf, rfl⟩ := List.mem_map.mp hm
  exact payloadMembers_values RSSI gatewayGNSSInfo g f hf

/-- There is a member at least: the empty object has another text. -/
theorem textMembers_ne_nil (RSSI : Int) (gatewayGNSSInfo : GNSSData φ) (g : Recepted φ) :
    textMembers (payloadMembers F RSSI gatewayGNSSInfo g) ≠ [] := by
  unfold payloadMembers
  cases g.receptedTypeMessage <;> exact List.cons_ne_nil _ _

/-- The names differ in their bytes if they differ. -/
theorem ascii_names (type : ReceptedTypeMessage) : ∀ key ∈ ["EVNT", "TIME"],
    ∀ name ∈ payloadNames type, (ascii key == ascii name) = (key == name) := by
  cases type <;> decide

/-- A member is looked up by the bytes of its name. -/
theorem lookup_textMembers {fs : List (String × Bytes)} {key : String}
    (h : ∀ f ∈ fs, (ascii key == ascii f.1) = (key == f.1)) :
    (textMembers fs).lookup (ascii key) = fs.lookup key := by
  induction fs with
  | nil => rfl
  | cons f fs ih =>
    rw [textMembers, List.map_cons, List.lookup_cons, List.lookup_cons, h f List.mem_cons_self]
    have ih := ih fun f' hf' => h f' (List.mem_cons_of_mem f hf')
    rw [textMembers] at ih
    rw [ih]

/-- The event and the timestamp among the members. -/
theorem lookup_strings (RSSI : Int) (gatewayGNSSInfo : GNSSData φ) (g : Recepted φ) :
    (textMembers (payloadMembers F RSSI gatewayGNSSInfo g)).lookup (ascii "EVNT")
        = some (Json.stringText g.receptedTrackerEvent) ∧
      (textMembers (payloadMembers F RSSI gatewayGNSSInfo g)).lookup (ascii "TIME")
        = some (Json.stringText g.timestamp) := by
  have hnames : ∀ key ∈ ["EVNT", "TIME"], ∀ f ∈ payloadMembers F RSSI gatewayGNSSInfo g,
      (ascii key == ascii f.1) = (key == f.1) := by
    intro key hkey f hf
    refine ascii_names g.receptedTypeMessage key hkey f.1 ?_
    rw [← payloadMembers_names (F := F) RSSI gatewayGNSSInfo]
    exact List.mem_map_of_mem hf
  rw [lookup_textMembers (hnames "EVNT" (by simp)), lookup_textMembers (hnames "TIME" (by simp))]
  unfold payloadMembers Recepted.timestamp
  cases g.receptedTypeMessage
  · exact ⟨rfl, rfl⟩
  · exact ⟨rfl, rfl⟩

/-! ## Reading the payload

  `SaysStrings` is what the receiver can check: it parses the text, and looks two members up. -/

/-- A string that can be printed as it is. -/
structure Printable (s : Bytes) : Prop where
  plain : Json.Plain s
  utf8 : Json.Utf8 s

instance (s : Bytes) : Decidable (Printable s) :=
  decidable_of_iff (Json.Plain s ∧ Json.Utf8 s) ⟨fun h => ⟨h.1, h.2⟩, fun h => ⟨h.1, h.2⟩⟩

/-- **The payload in braces is an object** with the event and the timestamp for its members. -/
def SaysStrings (text event timestamp : Bytes) : Prop :=
  ∃ ms, Json.parse (ascii "\x7b" ++ text ++ ascii "\x7d") = some (.object ms) ∧
    ms.lookup (ascii "EVNT") = some (.string event) ∧
    ms.lookup (ascii "TIME") = some (.string timestamp)

/-- The value of a member: a number in decimal, or a string that is plain if it is read back. -/
def readKind (x : Bytes) (v : Json.Value) : Prop :=
  Json.Decimal x ∨ ∃ s p, x = Json.stringText s ∧ v = .string p ∧ (p = s → Json.Plain s)

/-- What stands for a float that is not finite is not read. -/
theorem value_of_other {x : Bytes} (hx : x ∈ [ascii "inf", ascii "-inf", ascii "nan", ascii "-nan"])
    (fuel : Nat) (tail : Bytes) : Json.value fuel (Json.skip (x ++ tail)) = none := by
  cases fuel with
  | zero => simp [Json.value]
  | succ fuel =>
    simp only [List.mem_cons, List.not_mem_nil, or_false] at hx
    rcases hx with rfl | rfl | rfl | rfl
    · rfl
    · rfl
    · rfl
    · rfl

/-- Whatever is read at a value ends with the value, and is of the kind that was printed. -/
theorem ValueText.only (hprints : F.Prints finite) {gatewayGNSSInfo : GNSSData φ} {g : Recepted φ}
    (hevent : 44 ∉ g.receptedTrackerEvent) (htime : 44 ∉ g.timestamp) {x : Bytes}
    (h : ValueText F gatewayGNSSInfo g x) : Json.Only x (readKind x) := by
  cases h with
  | int i => exact (Json.reads_number (Json.decimal_intText i)).only (.inl (Json.decimal_intText i))
  | string s hs =>
    have hcomma : 44 ∉ s := by
      rcases hs with rfl | rfl | rfl | rfl
      · decide
      · decide
      · exact hevent
      · exact htime
    intro fuel tail v r htail hvalue
    rcases Json.only_string hcomma fuel tail v r htail hvalue with ⟨hr, p, hv, hplain⟩ | hdead
    · exact .inl ⟨hr, .inr ⟨s, p, rfl, hv, hplain⟩⟩
    · exact .inr hdead
  | float digits v hdigits hv =>
    by_cases hfinite : finite v
    · have hdecimal := hprints.decimal digits v hdigits hfinite
      exact (Json.reads_number hdecimal).only (.inl hdecimal)
    · exact Json.only_of_none (value_of_other (hprints.other digits v hfinite)) _

/-- A value that can be read is read. -/
theorem ValueText.reads (hprints : F.Prints finite) {gatewayGNSSInfo : GNSSData φ} {g : Recepted φ}
    (hevent : Printable g.receptedTrackerEvent) (htime : Printable g.timestamp)
    (hfloats : ∀ v ∈ printedFloats gatewayGNSSInfo g, finite v) {x : Bytes}
    (h : ValueText F gatewayGNSSInfo g x) : Json.Utf8 x ∧ ∃ v, Json.Reads x v := by
  cases h with
  | int i =>
    have hdecimal := Json.decimal_intText i
    exact ⟨hdecimal.ascii.utf8, _, Json.reads_number hdecimal⟩
  | string s hs =>
    have hs : Printable s := by
      rcases hs with rfl | rfl | rfl | rfl
      · decide
      · decide
      · exact hevent
      · exact htime
    exact ⟨Json.utf8_stringText.mpr hs.utf8, _, Json.reads_string hs.plain⟩
  | float digits v hdigits hv =>
    have hdecimal := hprints.decimal digits v hdigits (hfloats v hv)
    exact ⟨hdecimal.ascii.utf8, _, Json.reads_number hdecimal⟩

/-- A float that is not finite is read as nothing. -/
theorem not_readKind_other {x : Bytes} {v : Json.Value}
    (hx : x ∈ [ascii "inf", ascii "-inf", ascii "nan", ascii "-nan"]) : ¬ readKind x v := by
  have hletter : (110 : UInt8) ∈ x ∧ x.head? ≠ some 34 := by
    simp only [List.mem_cons, List.not_mem_nil, or_false] at hx
    rcases hx with rfl | rfl | rfl | rfl <;> decide
  rintro (hdecimal | ⟨s, p, rfl, -⟩)
  · rcases hdecimal.chars 110 hletter.1 with h | h | h <;> exact absurd h (by decide)
  · exact hletter.2 rfl

/-- **A payload says its strings if and only if they are printable and its floats are finite.** -/
theorem saysStrings_iff (hprints : F.Prints finite) (RSSI : Int) (gatewayGNSSInfo : GNSSData φ)
    {g : Recepted φ} (hg : CommaFree g) :
    SaysStrings (completePayload F RSSI gatewayGNSSInfo g) g.receptedTrackerEvent g.timestamp ↔
      (Printable g.receptedTrackerEvent ∧ Printable g.timestamp) ∧
        ∀ v ∈ printedFloats gatewayGNSSInfo g, finite v := by
  have hne := textMembers_ne_nil (F := F) RSSI gatewayGNSSInfo g
  have hnames := textMembers_names (F := F) RSSI gatewayGNSSInfo g
  have hvalues := textMembers_values (F := F) RSSI gatewayGNSSInfo g
  obtain ⟨hevent, htime⟩ := lookup_strings (F := F) RSSI gatewayGNSSInfo g
  unfold SaysStrings
  rw [completePayload, braced_eq]
  constructor
  · rintro ⟨vs, hparse, hsaysEvent, hsaysTime⟩
    obtain ⟨hutf8, vs', heq, hkinds⟩ := Json.parse_only hne hnames
      (fun m hm => (hvalues m hm).only hprints hg.event hg.timestamp) hparse
    obtain rfl : vs = vs' := by simpa using heq
    -- a member that says its string was read as it is
    have hprintable : ∀ key s, (textMembers (payloadMembers F RSSI gatewayGNSSInfo g)).lookup key
        = some (Json.stringText s) → vs.lookup key = some (.string s) → Printable s := by
      intro key s htext hsays
      obtain ⟨v, hv, hkind⟩ := Json.lookup_of_forall₂ hkinds htext
      obtain ⟨m, hm, hms⟩ : ∃ m ∈ textMembers (payloadMembers F RSSI gatewayGNSSInfo g),
          m.2 = Json.stringText s := Json.mem_of_lookup htext
      obtain rfl : v = .string s := Option.some.inj (hv.symm.trans hsays)
      have hutf8 := hutf8 m hm
      rw [hms] at hutf8
      refine ⟨?_, Json.utf8_stringText.mp hutf8⟩
      rcases hkind with hdecimal | ⟨s', p, hs, hp, hplain⟩
      · exact absurd hdecimal Json.Decimal.ne_stringText
      · obtain rfl : s = s' := Json.stringText_inj hs
        obtain rfl : s = p := by simpa using hp
        exact hplain rfl
    refine ⟨⟨hprintable _ _ hevent hsaysEvent, hprintable _ _ htime hsaysTime⟩, fun v hv => ?_⟩
    by_contra hnot
    obtain ⟨digits, hmem⟩ := printedFloats_members (F := F) RSSI gatewayGNSSInfo g v hv
    obtain ⟨f, hf, hfv⟩ := List.mem_map.mp hmem
    obtain ⟨w, hw⟩ := Json.exists_of_forall₂ hkinds (ascii f.1, f.2) (List.mem_map_of_mem hf)
    have hother := hprints.other digits v hnot
    rw [← hfv] at hother
    exact not_readKind_other hother hw
  · rintro ⟨⟨hprintEvent, hprintTime⟩, hfloats⟩
    have hreads := fun m hm => (hvalues m hm).reads hprints hprintEvent hprintTime hfloats
    obtain ⟨vs, hvs⟩ := Json.exists_values fun m hm => (hreads m hm).2
    obtain ⟨v, hv, hreadEvent⟩ := Json.lookup_of_forall₂ hvs hevent
    obtain ⟨w, hw, hreadTime⟩ := Json.lookup_of_forall₂ hvs htime
    refine ⟨vs, Json.parse_objectText hne hnames (fun m hm => (hreads m hm).1) hvs, ?_, ?_⟩
    · rw [hv, hreadEvent.unique (Json.reads_string hprintEvent.plain)]
    · rw [hw, hreadTime.unique (Json.reads_string hprintTime.plain)]

/-! ## The result

  The condition on the payload is carried back to the LoRa text: the strings are pieces of it, and
  the floats are what the platform reads in its pieces. -/

/-- **A LoRa text is relayed as JSON**: the payload in braces is an object, and its `EVNT` and `TIME`
    are the event and the timestamp of the text. -/
def RelaysJson (F : Floats φ) (RSSI : Int32) (gatewayGNSSInfo : GNSSData φ) (t : Bytes)
    (g' : Recepted φ) : Prop :=
  ∃ event timestamp, (t.splitOn 44)[3]? = some event ∧
    (t.splitOn 44)[timestampPosition g'.receptedTypeMessage]? = some timestamp ∧
    SaysStrings (payloadText F RSSI.toInt gatewayGNSSInfo g') event timestamp

/-- **What can be relayed**: the event and the timestamp of the text are printable, each of its
    floats reads as a finite one, and so is the gateway's position, if it is printed. -/
structure CanBeRelayed (F : Floats φ) (finite : φ → Prop) (gatewayGNSSInfo : GNSSData φ)
    (type : ReceptedTypeMessage) (t : Bytes) : Prop where
  strings : ∀ i ∈ [3, timestampPosition type], ∀ piece, (t.splitOn 44)[i]? = some piece →
    Printable piece
  floats : ∀ i ∈ floatPositions type, ∀ piece v left, (t.splitOn 44)[i]? = some piece →
    F.strtof (piece.dropWhile isSpace) = some (v, left) → finite v
  position : type = .loraLora → finite gatewayGNSSInfo.latitude ∧ finite gatewayGNSSInfo.longitude ∧
    finite gatewayGNSSInfo.altitude

/-- The floats of an accepted message are finite if and only if those of its text are. -/
theorem finite_floats_iff (hF : F.Lawful) {t : Bytes} {g g' : Recepted φ}
    (h : parseReceptedLoRaMessage F t g = (true, g')) :
    (∀ v ∈ g'.floats, finite v) ↔
      ∀ i ∈ floatPositions g'.receptedTypeMessage, ∀ piece v left, (t.splitOn 44)[i]? = some piece →
        F.strtof (piece.dropWhile isSpace) = some (v, left) → finite v := by
  have hlen : g'.floats.length = (floatPositions g'.receptedTypeMessage).length := by
    unfold Recepted.floats
    cases g'.receptedTypeMessage <;> rfl
  constructor
  · intro hfinite i hi piece v left hpiece hread
    obtain ⟨k, hk⟩ := List.mem_iff_getElem?.mp hi
    obtain ⟨piece', left', v', hpiece', hread', hv'⟩ := accepted_floats hF h hk
    obtain rfl := Option.some.inj (hpiece.symm.trans hpiece')
    obtain ⟨rfl, -⟩ := Prod.mk.inj (Option.some.inj (hread.symm.trans hread'))
    exact hfinite v (List.mem_of_getElem? hv')
  · intro hfinite v hv
    obtain ⟨k, hk⟩ := List.mem_iff_getElem?.mp hv
    have hlt : k < (floatPositions g'.receptedTypeMessage).length := by
      rw [← hlen]
      exact (List.getElem?_eq_some_iff.mp hk).1
    have hi := List.getElem?_eq_getElem hlt
    obtain ⟨piece, left, v', hpiece, hread, hv'⟩ := accepted_floats hF h hi
    obtain rfl := Option.some.inj (hk.symm.trans hv')
    exact hfinite _ (List.mem_of_getElem? hi) piece v left hpiece hread

/-- The printed floats are the message's own, and for a LORALORA message the position of the gateway
    as well. -/
theorem finite_printedFloats_iff {gatewayGNSSInfo : GNSSData φ} {g : Recepted φ} :
    (∀ v ∈ printedFloats gatewayGNSSInfo g, finite v) ↔
      (∀ v ∈ g.floats, finite v) ∧ (g.receptedTypeMessage = .loraLora →
        finite gatewayGNSSInfo.latitude ∧ finite gatewayGNSSInfo.longitude ∧
          finite gatewayGNSSInfo.altitude) := by
  unfold printedFloats
  cases g.receptedTypeMessage with
  | loraLora =>
    simp only [List.cons_append, List.nil_append, List.forall_mem_cons, true_imp_iff]
    tauto
  | loraGnss => simp

/-- **An accepted text is relayed as JSON if and only if it can be.** -/
theorem relaysJson_iff (F : Floats φ) (hF : F.Lawful) (finite : φ → Prop)
    (hprints : F.Prints finite) (t : Bytes) (g g' : Recepted φ)
    (h : parseReceptedLoRaMessage F t g = (true, g')) (RSSI : Int32)
    (gatewayGNSSInfo : GNSSData φ) :
    RelaysJson F RSSI gatewayGNSSInfo t g' ↔
      CanBeRelayed F finite gatewayGNSSInfo g'.receptedTypeMessage t := by
  obtain ⟨⟨hevent, htime⟩, ⟨-, heventComma⟩, -, htimeComma⟩ := accepted_strings hF h
  have hsays := saysStrings_iff hprints RSSI.toInt gatewayGNSSInfo (g := g') ⟨heventComma, htimeComma⟩
  rw [finite_printedFloats_iff, finite_floats_iff hF h] at hsays
  unfold RelaysJson
  rw [payloadText_accepted hF h]
  constructor
  · rintro ⟨event, timestamp, hevent', htime', hjson⟩
    obtain rfl := Option.some.inj (hevent.symm.trans hevent')
    obtain rfl := Option.some.inj (htime.symm.trans htime')
    obtain ⟨⟨hprintEvent, hprintTime⟩, hfloats, hposition⟩ := hsays.mp hjson
    refine ⟨?_, hfloats, hposition⟩
    refine List.forall_mem_cons.mpr ⟨?_, List.forall_mem_cons.mpr ⟨?_, List.forall_mem_nil _⟩⟩
    · rintro piece hpiece
      obtain rfl := Option.some.inj (hevent.symm.trans hpiece)
      exact hprintEvent
    · rintro piece hpiece
      obtain rfl := Option.some.inj (htime.symm.trans hpiece)
      exact hprintTime
  · intro hcan
    refine ⟨_, _, hevent, htime, hsays.mpr ⟨⟨?_, ?_⟩, hcan.floats, hcan.position⟩⟩
    · exact hcan.strings 3 (by simp) _ hevent
    · exact hcan.strings _ (by simp) _ htime

/-! ## An event with a quote in it

  A tracker that sends a quote in its event breaks the JSON of its own message.  The parser of LoRa
  texts lets it pass: its conversion stops at a comma only. -/

/-- Floats that are integers are all finite. -/
theorem Floats.words_prints : Floats.words.Prints fun _ => True where
  decimal digits v hdigits _ := by
    refine Json.decimal_point v.toInt ?_ fun c hc => ?_
    · exact List.ne_nil_of_length_pos (by rw [List.length_replicate]; exact hdigits)
    · rw [List.eq_of_mem_replicate hc]
      rfl
  other digits v h := absurd trivial h

/-- The message of a tracker at rest is relayed. -/
theorem trackerMessage_json :
    RelaysJson .words (-90) blankRecepted.receptedGNSSdata trackerMessage trackerRecepted := by
  have htype : trackerRecepted.receptedTypeMessage = .loraLora := by decide +kernel
  refine (relaysJson_iff .words Floats.words_lawful (fun _ => True) Floats.words_prints
    trackerMessage blankRecepted trackerRecepted trackerMessage_accepted (-90)
    blankRecepted.receptedGNSSdata).mpr ?_
  rw [htype]
  refine ⟨?_, fun _ _ _ _ _ _ _ => trivial, fun _ => ⟨trivial, trivial, trivial⟩⟩
  refine List.forall_mem_cons.mpr ⟨?_, List.forall_mem_cons.mpr ⟨?_, List.forall_mem_nil _⟩⟩
  · have hpiece : (trackerMessage.splitOn 44)[3]? = some (ascii "STOP") := by decide
    rintro piece h
    obtain rfl := Option.some.inj (hpiece.symm.trans h)
    decide
  · have hpiece : (trackerMessage.splitOn 44)[6]? = some (ascii "010125120000") := by decide
    rintro piece h
    obtain rfl := Option.some.inj (hpiece.symm.trans h)
    decide

/-- A message whose event has a quote in it. -/
def quotedEvent : Bytes := ascii "LORALORA,1,2,ST\"OP,1,90,010125120000,0,0,0,1,0,0,0"

/-- The gateway after it. -/
def quotedRecepted : Recepted Int64 := (parseReceptedLoRaMessage .words quotedEvent blankRecepted).2

/-- **It is accepted, and what is relayed is no JSON.** -/
theorem quotedEvent_broken :
    parseReceptedLoRaMessage .words quotedEvent blankRecepted = (true, quotedRecepted) ∧
      ¬ RelaysJson .words (-90) blankRecepted.receptedGNSSdata quotedEvent quotedRecepted := by
  have htrue : (parseReceptedLoRaMessage .words quotedEvent blankRecepted).1 = true := by
    decide +kernel
  refine ⟨Prod.ext htrue rfl, ?_⟩
  have hbroken : (Json.parse (ascii "\x7b" ++ payloadText .words (-90)
      blankRecepted.receptedGNSSdata quotedRecepted ++ ascii "\x7d")).isNone = true := by
    decide +kernel
  rintro ⟨event, timestamp, -, -, ms, hparse, -⟩
  rw [show (Int32.toInt (-90)) = -90 from rfl] at hparse
  rw [hparse] at hbroken
  cases hbroken

end GatewayLoRa
