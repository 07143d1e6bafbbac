/-
  Which integers of a LoRa message are relayed as they are.

  A number of the text is scanned into a temporary `int`, cast, kept in a member, and printed into
  the JSON text.  The IMEI keeps its 64 bits all the way.  The battery status, the charge level and
  the IMU status are cast to `uint8_t` on the way, which keeps them modulo 256: what is relayed of
  them is what the text says if and only if it is between 0 and 255 (`faithful_iff`).

  Both sides are read from the TEXTS: `fieldOf` reads a field of the LoRa text between its commas,
  `memberOf` a member of the JSON text between its own.  That the second is possible rests on the
  parser's strings, which have no comma in them, so that no string can look like a member.

  The crux is `memberOf`: the value of a member is found without a parser of JSON, by its name at
  the begin of a piece between commas.  This is exact for the texts that the gateway prints and only
  for them, as `memberOf_members` says: the pieces between the commas are the members, since neither
  a name nor a value has a comma.
-/

import GatewayLoRa.MessageLengths

namespace GatewayLoRa

open CMemory Stdio

variable {φ : Type} {F : Floats φ}

/-! ## Integers in a text

  `spelled` is what a reader takes for the integer; `scanInt` is what the C library reads, which is
  cut to the bits of its type.  Where both are defined they differ by that only. -/

/-- The integer a text spells: white space, a sign, digits, and nothing behind them. -/
def spelled (s : Bytes) : Option Int :=
  let s := s.dropWhile isSpace
  let digits := (sign s).2.takeWhile isDigit
  if digits = [] ∨ (sign s).2.dropWhile isDigit ≠ [] then none
  else some (if (sign s).1 then - decimal digits else decimal digits)

/-- `scanInt` reads the integer that is spelled, as near as its bits can hold it. -/
theorem spelled_of_scanInt {bits : Nat} {s : Bytes} {v : Int} (h : scanInt bits s = some (v, [])) :
    ∃ i, spelled s = some i ∧ v = max (-2 ^ (bits - 1)) (min (2 ^ (bits - 1) - 1) i) := by
  unfold scanInt at h
  dsimp only at h
  split at h
  · cases h
  · rename_i hne
    obtain ⟨hv, hrest⟩ := Prod.mk.inj (Option.some.inj h)
    refine ⟨_, ?_, hv.symm⟩
    unfold spelled
    dsimp only
    rw [if_neg]
    rintro (hnil | hmore)
    · exact hne hnil
    · exact hmore hrest

/-- A printed integer spells itself. -/
theorem spelled_intText (i : Int) : spelled (intText i) = some i := by
  have hparts := intText_parts i (t := []) (fun c hc => by cases hc)
  rw [List.append_nil] at hparts
  obtain ⟨hsign, htake, hdrop⟩ := hparts
  unfold spelled
  simp only [hsign, htake, hdrop, signed_decimal]
  rw [if_neg]
  rintro (hnil | hmore)
  · exact natText_ne_nil i.natAbs hnil
  · exact hmore rfl

/-! ## The fields of the two texts

  One field has a position in the LoRa text, which depends on the kind of message, and a name in the
  JSON text.  `kept` and `cast` are the source's: the member it is stored in, and the C types on the
  way there. -/

/-- The integer fields that are relayed, by the names they get. -/
inductive IntegerField
  | IMEI
  | BSTA
  | BLVL
  | SIMU
  deriving DecidableEq, Repr

namespace IntegerField

/-- The name of the member. -/
def name : IntegerField → String
  | IMEI => "IMEI"
  | BSTA => "BSTA"
  | BLVL => "BLVL"
  | SIMU => "SIMU"

/-- The position of the field between the commas of the LoRa text; the formats have their own. -/
def position : ReceptedTypeMessage → IntegerField → Nat
  | _, IMEI => 1
  | .loraLora, BSTA => 4
  | .loraLora, BLVL => 5
  | .loraLora, SIMU => 7
  | .loraGnss, BSTA => 11
  | .loraGnss, BLVL => 12
  | .loraGnss, SIMU => 13

/-- The width of the C type it is scanned into: `long long` or `int`. -/
def bits : IntegerField → Nat
  | IMEI => 64
  | _ => 32

/-- The value the gateway keeps of it. -/
def kept (g : Recepted φ) : IntegerField → Int
  | IMEI => g.IMEIRecepted.toInt
  | BSTA => (g.receptedBatteryData.batteryChargeStatus.toNat : Int)
  | BLVL => (g.receptedBatteryData.chargeLevel.toNat : Int)
  | SIMU => (g.receptedImuData.status.toNat : Int)

/-- What the casts make of the value that was scanned. -/
def cast : IntegerField → Int → Int
  | IMEI, v => (Int64.ofInt v).toInt
  | _, v => ((UInt8.ofInt v).toNat : Int)

end IntegerField

/-- A field of a LoRa text, as the integer it spells. -/
def fieldOf (type : ReceptedTypeMessage) (t : Bytes) (f : IntegerField) : Option Int :=
  ((t.splitOn 44)[f.position type]?).bind spelled

/-- What the text of a member begins with. -/
def memberKey (name : String) : Bytes := ascii "\"" ++ ascii name ++ ascii "\":"

/-- A member of a JSON text, as the integer it spells: what stands behind its name, up to the
    comma. -/
def memberOf (text : Bytes) (name : String) : Option Int :=
  ((text.splitOn 44).find? (memberKey name).isPrefixOf).bind fun m =>
    spelled (m.drop (memberKey name).length)

/-! ## Members between commas

  The pieces between the commas of a payload are its members, and a member begins with its name. -/

/-- Split at the commas, the members come apart. -/
theorem splitOn_members {fs : List (String × Bytes)} (hne : fs ≠ [])
    (hfree : ∀ f ∈ fs, 44 ∉ member f) : (members fs).splitOn 44 = fs.map member := by
  induction fs with
  | nil => exact absurd rfl hne
  | cons f fs ih =>
    have hf := hfree f List.mem_cons_self
    cases fs with
    | nil =>
      show (member f).splitOn 44 = [member f]
      exact List.splitOn_eq_singleton hf
    | cons f' fs =>
      have hcons : members (f :: f' :: fs) = member f ++ 44 :: members (f' :: fs) := by
        show member f ++ ascii "," ++ members (f' :: fs) = _
        rw [List.append_assoc]
        rfl
      rw [hcons, List.splitOn_append_cons_self_of_not_mem hf,
        ih (List.cons_ne_nil f' fs) fun e he => hfree e (List.mem_cons_of_mem f he)]
      rfl

/-- Two quoted names begin alike only if they are the same. -/
theorem isPrefixOf_name {x y rest : Bytes} (hx : 34 ∉ x) (hy : 34 ∉ y) :
    (x ++ [34, 58]).isPrefixOf (y ++ 34 :: 58 :: rest) = (x == y) := by
  induction x generalizing y with
  | nil =>
    cases y with
    | nil => rfl
    | cons b y =>
      have hb : ((34 : UInt8) == b) = false :=
        beq_eq_false_iff_ne.mpr fun h => hy (h ▸ List.mem_cons_self)
      show ((34 : UInt8) == b && _) = false
      rw [hb]
      rfl
  | cons a x ih =>
    cases y with
    | nil =>
      have ha : (a == (34 : UInt8)) = false :=
        beq_eq_false_iff_ne.mpr fun h => hx (h ▸ List.mem_cons_self)
      show (a == (34 : UInt8) && _) = false
      rw [ha]
      rfl
    | cons b y =>
      show (a == b && (x ++ [34, 58]).isPrefixOf (y ++ 34 :: 58 :: rest)) = (a == b && x == y)
      rw [ih (fun h => hx (List.mem_cons_of_mem a h)) fun h => hy (List.mem_cons_of_mem b h)]

/-- What is found depends on the answers of the test only. -/
theorem find_congr {α : Type} {p q : α → Bool} {l : List α} (h : ∀ a ∈ l, p a = q a) :
    l.find? p = l.find? q := by
  induction l with
  | nil => rfl
  | cons a l ih =>
    rw [List.find?_cons, List.find?_cons, h a List.mem_cons_self,
      ih fun b hb => h b (List.mem_cons_of_mem a hb)]

/-- **A member is found by its name.** -/
theorem memberOf_members {fs : List (String × Bytes)} {name : String} (hne : fs ≠ [])
    (hfree : ∀ f ∈ fs, 44 ∉ member f) (hnames : ∀ f ∈ fs, 34 ∉ ascii f.1)
    (hname : 34 ∉ ascii name) :
    memberOf (members fs) name
      = (fs.find? fun f => ascii name == ascii f.1).bind fun f => spelled f.2 := by
  have hkey : ∀ f ∈ fs, (memberKey name).isPrefixOf (member f) = (ascii name == ascii f.1) := by
    intro f hf
    have hmember : member f = 34 :: (ascii f.1 ++ 34 :: 58 :: f.2) := by
      show ascii "\"" ++ ascii f.1 ++ ascii "\":" ++ f.2 = _
      simp only [List.append_assoc]
      rfl
    have hkey : memberKey name = 34 :: (ascii name ++ [34, 58]) := by
      show ascii "\"" ++ ascii name ++ ascii "\":" = _
      rw [List.append_assoc]
      rfl
    rw [hmember, hkey]
    show ((34 : UInt8) == 34 && _) = _
    rw [isPrefixOf_name hname (hnames f hf)]
    rfl
  rw [memberOf, splitOn_members hne hfree, List.find?_map]
  have hfind : fs.find? ((memberKey name).isPrefixOf ∘ member)
      = fs.find? fun f => ascii name == ascii f.1 := find_congr hkey
  rw [hfind]
  cases hfound : fs.find? fun f => ascii name == ascii f.1 with
  | none => rfl
  | some f =>
    have hsame : ascii name = ascii f.1 := by simpa using List.find?_some hfound
    have hdrop : (member f).drop (memberKey name).length = f.2 := by
      rw [memberKey, hsame]
      exact List.drop_left
    show spelled ((member f).drop (memberKey name).length) = spelled f.2
    rw [hdrop]

/-! ## The members of a message

  No member has a comma in its text: names and numbers have none, and the two strings have none
  because the parser of LoRa texts stops them at a comma. -/

/-- The strings of the last message have no comma. -/
structure CommaFree (g : Recepted φ) : Prop where
  event : 44 ∉ g.receptedTrackerEvent
  timestamp : 44 ∉ g.timestamp

/-- A printed integer has digits and a sign only. -/
theorem not_mem_intText {c : UInt8} (hc : ¬ Numeric c) (i : Int) : c ∉ intText i :=
  fun h => hc (intText_numeric i c h)

/-- The names of the members of a message. -/
def payloadNames : ReceptedTypeMessage → List String
  | .loraLora => ["Type", "IMEI", "RSSI", "EVNT", "LAT", "LONG", "ALT", "TIME", "BSTA", "BLVL", "SIMU",
      "AX", "AY", "AZ", "YAW", "ROLL", "PTCH"]
  | .loraGnss => ["Type", "IMEI", "RSSI", "EVNT", "LAT", "LONG", "HDOP", "ALT", "COG", "SPD", "TIME",
      "BSTA", "BLVL", "SIMU", "AX", "AY", "AZ", "YAW", "ROLL", "PTCH"]

/-- The members have these names, in this order. -/
theorem payloadMembers_names (RSSI : Int) (gatewayGNSSInfo : GNSSData φ) (g : Recepted φ) :
    (payloadMembers F RSSI gatewayGNSSInfo g).map Prod.fst = payloadNames g.receptedTypeMessage := by
  unfold payloadMembers
  cases g.receptedTypeMessage <;> rfl

/-- The names have neither a comma nor a quote. -/
theorem payloadNames_plain (type : ReceptedTypeMessage) :
    ∀ name ∈ payloadNames type, 44 ∉ ascii name ∧ 34 ∉ ascii name := by
  cases type <;> decide

/-- **No member of a message has a comma in its text.** -/
theorem payloadMembers_free (hF : F.Lawful) (RSSI : Int) (gatewayGNSSInfo : GNSSData φ)
    {g : Recepted φ} (hg : CommaFree g) :
    ∀ f ∈ payloadMembers F RSSI gatewayGNSSInfo g, 44 ∉ member f := by
  have hint : ∀ i, (44 : UInt8) ∉ intText i := not_mem_intText (by unfold Numeric; decide)
  have hevent : 44 ∉ quoted g.receptedTrackerEvent := not_mem_quoted (by decide) hg.event
  have htime : 44 ∉ quoted g.timestamp := not_mem_quoted (by decide) hg.timestamp
  have hlora : 44 ∉ quoted (ascii "LORALORA") := by decide
  have hgnss : 44 ∉ quoted (ascii "LORAGNSS") := by decide
  have hvalues : ∀ value ∈ (payloadMembers F RSSI gatewayGNSSInfo g).map Prod.snd,
      (44 : UInt8) ∉ value := by
    unfold payloadMembers
    cases htype : g.receptedTypeMessage with
    | loraLora =>
      rw [Recepted.timestamp, htype] at htime
      simp [loraLoraMembers, headMembers, sensorMembers, hint, hevent, htime, hlora,
        hF.text_comma]
    | loraGnss =>
      rw [Recepted.timestamp, htype] at htime
      simp [loraGnssMembers, headMembers, sensorMembers, hint, hevent, htime, hgnss,
        hF.text_comma]
  intro f hf
  refine not_mem_member (by decide) (by decide) ?_ (hvalues f.2 (List.mem_map_of_mem hf))
  refine (payloadNames_plain g.receptedTypeMessage f.1 ?_).1
  rw [← payloadMembers_names (F := F) RSSI gatewayGNSSInfo]
  exact List.mem_map_of_mem hf

/-- The names differ in their bytes if they differ. -/
theorem ascii_payloadNames (type : ReceptedTypeMessage) (f : IntegerField) :
    ∀ name ∈ payloadNames type, (ascii f.name == ascii name) = (f.name == name) := by
  cases type <;> cases f <;> decide

/-- The member of an integer field is the first with its name. -/
theorem find_member (RSSI : Int) (gatewayGNSSInfo : GNSSData φ) (g : Recepted φ)
    (f : IntegerField) :
    ((payloadMembers F RSSI gatewayGNSSInfo g).find? fun e => ascii f.name == ascii e.1)
      = some (f.name, intText (f.kept g)) := by
  have hsame : ∀ e ∈ payloadMembers F RSSI gatewayGNSSInfo g,
      (ascii f.name == ascii e.1) = (f.name == e.1) := by
    intro e he
    refine ascii_payloadNames g.receptedTypeMessage f e.1 ?_
    rw [← payloadMembers_names (F := F) RSSI gatewayGNSSInfo]
    exact List.mem_map_of_mem he
  rw [find_congr hsame, payloadMembers]
  cases g.receptedTypeMessage with
  | loraLora => cases f <;> rfl
  | loraGnss => cases f <;> rfl

/-- **The JSON text says of an integer what the gateway keeps.** -/
theorem memberOf_completePayload (hF : F.Lawful) (RSSI : Int) (gatewayGNSSInfo : GNSSData φ)
    {g : Recepted φ} (hg : CommaFree g) (f : IntegerField) :
    memberOf (completePayload F RSSI gatewayGNSSInfo g) f.name = some (f.kept g) := by
  have hfree := payloadMembers_free hF RSSI gatewayGNSSInfo hg
  have hname : (34 : UInt8) ∉ ascii f.name := by cases f <;> decide
  have hnames : ∀ e ∈ payloadMembers F RSSI gatewayGNSSInfo g, (34 : UInt8) ∉ ascii e.1 := by
    intro e he
    refine (payloadNames_plain g.receptedTypeMessage e.1 ?_).2
    rw [← payloadMembers_names (F := F) RSSI gatewayGNSSInfo]
    exact List.mem_map_of_mem he
  have hne : payloadMembers F RSSI gatewayGNSSInfo g ≠ [] := by
    intro hnil
    have hfound := find_member (F := F) RSSI gatewayGNSSInfo g f
    rw [hnil] at hfound
    cases hfound
  rw [completePayload, memberOf_members hne hfree hnames hname, find_member, Option.bind_some]
  exact spelled_intText (f.kept g)

/-! ## From the LoRa text to the gateway

  A complete scan has read each piece by the conversion at its place (`ParsedFields`), so the value
  of a field is read off its piece. -/

section Accepted

variable {t : Bytes} {g g' : Recepted φ}

/-- A complete scan leaves of an integer field what the casts make of its piece. -/
theorem scanned_int (hF : F.Lawful) {type : ReceptedTypeMessage} (hm : Complete F type t)
    (f : IntegerField) :
    ∃ piece v, (t.splitOn 44)[f.position type]? = some piece ∧
      scanInt f.bits piece = some (v, []) ∧
      f.kept (accepted type (sscanf F.strtof (format type) t (Scan.start g)).2) = f.cast v := by
  -- each is an integer at its position, and no later conversion stores into it
  cases type with
  | loraLora =>
    cases f
    all_goals
      refine int_at (f := fun s => IntegerField.kept (accepted .loraLora s) _) hF hm
        (by rw [fields_loraLora]; rfl) (by rw [fields_length]; decide) (by intro _ _; rfl) ?_
      rw [fields_loraLora]
      repeat' refine List.forall_mem_cons.mpr ⟨by first | trivial | exact fun _ _ => rfl, ?_⟩
      exact List.forall_mem_nil _
  | loraGnss =>
    cases f
    all_goals
      refine int_at (f := fun s => IntegerField.kept (accepted .loraGnss s) _) hF hm
        (by rw [fields_loraGnss]; rfl) (by rw [fields_length]; decide) (by intro _ _; rfl) ?_
      rw [fields_loraGnss]
      repeat' refine List.forall_mem_cons.mpr ⟨by first | trivial | exact fun _ _ => rfl, ?_⟩
      exact List.forall_mem_nil _

/-- The integer fields of the text, as far as their C types hold them. -/
def Representable (type : ReceptedTypeMessage) (t : Bytes) : Prop :=
  ∀ (f : IntegerField) (i : Int), fieldOf type t f = some i →
    -2 ^ (f.bits - 1) ≤ i ∧ i < 2 ^ (f.bits - 1)

/-- **An accepted message keeps of an integer field what the casts make of the integer it spells.** -/
theorem kept_of_accepted (hF : F.Lawful) (h : parseReceptedLoRaMessage F t g = (true, g'))
    (hrep : Representable g'.receptedTypeMessage t) (f : IntegerField) :
    ∃ i, fieldOf g'.receptedTypeMessage t f = some i ∧ f.kept g' = f.cast i := by
  obtain ⟨type, -, hm, rfl⟩ := complete_of_accepted h
  rw [accepted_type] at hrep ⊢
  obtain ⟨piece, v, hpiece, hscan, hkept⟩ := scanned_int hF (g := g) hm f
  obtain ⟨i, hi, hv⟩ := spelled_of_scanInt hscan
  have hfield : fieldOf type t f = some i := by
    rw [fieldOf, hpiece]
    exact hi
  obtain ⟨hlo, hhi⟩ := hrep f i hfield
  -- the type holds the integer, so nothing was cut off it
  have hsame : v = i := by omega
  rw [hsame] at hkept
  exact ⟨i, hfield, hkept⟩

end Accepted

/-! ## What the casts keep

  Sixty-four bits stay sixty-four bits; a cast to eight bits keeps a byte. -/

/-- The IMEI keeps what its type holds. -/
theorem cast_IMEI {i : Int} (hlo : -2 ^ 63 ≤ i) (hhi : i < 2 ^ 63) :
    IntegerField.IMEI.cast i = i :=
  Int64.toInt_ofInt_of_le hlo hhi

/-- The cast to `uint8_t` keeps what is a byte, and nothing else. -/
theorem cast_byte_iff (i : Int) : ((UInt8.ofInt i).toNat : Int) = i ↔ 0 ≤ i ∧ i ≤ 255 := by
  have hcast : ((UInt8.ofInt i).toNat : Int) = i % 256 := by
    have hnonneg : 0 ≤ i % 256 := Int.emod_nonneg i (by decide)
    have hlt : i % 256 < 256 := Int.emod_lt_of_pos i (by decide)
    have hnat : (i % 2 ^ 8).toNat < 2 ^ 8 := by omega
    rw [UInt8.ofInt, UInt8.toNat_ofNat_of_lt' hnat]
    omega
  rw [hcast]
  omega

/-! ## The result

  From the field over the member to the text: what is kept is printed, so the two texts agree if the
  cast has changed nothing. -/

/-- **The integer fields are relayed faithfully**: each member of the JSON text spells the integer
    that the field of the LoRa text spells. -/
def RelaysIntegers (F : Floats φ) (RSSI : Int32) (gatewayGNSSInfo : GNSSData φ) (t : Bytes)
    (g' : Recepted φ) : Prop :=
  ∀ f : IntegerField, ∃ i, fieldOf g'.receptedTypeMessage t f = some i ∧
    memberOf (payloadText F RSSI.toInt gatewayGNSSInfo g') f.name = some i

/-- The three fields that are cast to `uint8_t` are bytes. -/
def FitBytes (type : ReceptedTypeMessage) (t : Bytes) : Prop :=
  ∀ f : IntegerField, f ≠ .IMEI → ∀ i, fieldOf type t f = some i → 0 ≤ i ∧ i ≤ 255

/-- The text of an accepted message says what the gateway keeps; it is not cut off, for such a
    message is short. -/
theorem memberOf_payloadText (hF : F.Lawful) {t : Bytes} {g g' : Recepted φ}
    (h : parseReceptedLoRaMessage F t g = (true, g')) (RSSI : Int32)
    (gatewayGNSSInfo : GNSSData φ) (f : IntegerField) :
    memberOf (payloadText F RSSI.toInt gatewayGNSSInfo g') f.name = some (f.kept g') := by
  have hstrings := (accepted_strings hF h).2
  rw [payloadText_accepted hF h]
  exact memberOf_completePayload hF RSSI.toInt gatewayGNSSInfo ⟨hstrings.1.2, hstrings.2.2⟩ f

/-- **The integer fields of an accepted message are relayed faithfully if and only if battery status,
    charge level and IMU status are bytes.** -/
theorem relaysIntegers_iff (F : Floats φ) (hF : F.Lawful) (t : Bytes) (g g' : Recepted φ)
    (h : parseReceptedLoRaMessage F t g = (true, g'))
    (hrep : Representable g'.receptedTypeMessage t) (RSSI : Int32) (gatewayGNSSInfo : GNSSData φ) :
    RelaysIntegers F RSSI gatewayGNSSInfo t g' ↔ FitBytes g'.receptedTypeMessage t := by
  have hkept := kept_of_accepted hF h hrep
  have hmember := memberOf_payloadText hF h RSSI gatewayGNSSInfo
  constructor
  -- the member spells what is kept, and the field what was scanned
  · intro hrelays f hf i hi
    obtain ⟨j, hj, hspelled⟩ := hrelays f
    obtain ⟨k, hk, hcast⟩ := hkept f
    obtain rfl := Option.some.inj (hi.symm.trans hj)
    obtain rfl := Option.some.inj (hi.symm.trans hk)
    have hsame : f.cast i = i := by
      rw [← hcast]
      exact Option.some.inj ((hmember f).symm.trans hspelled)
    cases f with
    | IMEI => exact absurd rfl hf
    | _ => exact (cast_byte_iff i).mp hsame
  · intro hbytes f
    obtain ⟨i, hi, hcast⟩ := hkept f
    refine ⟨i, hi, ?_⟩
    rw [hmember f, hcast]
    congr 1
    cases hf : f with
    | IMEI =>
      obtain ⟨hlo, hhi⟩ := hrep f i hi
      rw [hf] at hlo hhi
      exact cast_IMEI hlo hhi
    | _ => exact (cast_byte_iff i).mpr (hbytes f (by rw [hf]; decide) i hi)

/-! ## A charge level above a byte -/

/-- A message whose charge level is 300. -/
def overcharged : Bytes := ascii "LORALORA,1,2,STOP,1,300,010125120000,0,0,0,0,0,0,0"

/-- What is checked of an integer that was read from a text. -/
theorem of_all {o : Option Int} {p : Int → Prop} [DecidablePred p]
    (h : o.all (fun i => decide (p i)) = true) : ∀ i, o = some i → p i := by
  rintro i rfl
  exact of_decide_eq_true h

/-- A charge level of 90 is relayed. -/
theorem trackerMessage_relayed :
    RelaysIntegers .words (-90) blankRecepted.receptedGNSSdata trackerMessage trackerRecepted := by
  have htype : trackerRecepted.receptedTypeMessage = .loraLora := by decide +kernel
  refine (relaysIntegers_iff .words Floats.words_lawful trackerMessage blankRecepted trackerRecepted
    trackerMessage_accepted ?_ (-90) blankRecepted.receptedGNSSdata).mpr ?_
  · rw [htype]
    intro f
    cases f <;> exact of_all (by decide)
  · rw [htype]
    intro f hf
    cases f with
    | IMEI => exact absurd rfl hf
    | _ => exact of_all (by decide)

/-- The gateway after it. -/
def overchargedRecepted : Recepted Int64 := (parseReceptedLoRaMessage .words overcharged blankRecepted).2

/-- **A charge level of 300 is relayed as 44.** -/
theorem overcharged_narrowed :
    parseReceptedLoRaMessage .words overcharged blankRecepted = (true, overchargedRecepted) ∧
      Representable overchargedRecepted.receptedTypeMessage overcharged ∧
      fieldOf .loraLora overcharged .BLVL = some 300 ∧
      memberOf (payloadText .words (-90) blankRecepted.receptedGNSSdata overchargedRecepted) "BLVL"
        = some 44 ∧
      ¬ RelaysIntegers .words (-90) blankRecepted.receptedGNSSdata overcharged overchargedRecepted := by
  have htrue : (parseReceptedLoRaMessage .words overcharged blankRecepted).1 = true := by
    decide +kernel
  have haccepted : parseReceptedLoRaMessage .words overcharged blankRecepted
      = (true, overchargedRecepted) := Prod.ext htrue rfl
  have htype : overchargedRecepted.receptedTypeMessage = .loraLora := by decide +kernel
  have hkept : IntegerField.BLVL.kept overchargedRecepted = 44 := by decide +kernel
  have hfield : fieldOf .loraLora overcharged .BLVL = some 300 := by decide
  have hmember := memberOf_payloadText Floats.words_lawful haccepted (-90)
    blankRecepted.receptedGNSSdata .BLVL
  rw [hkept] at hmember
  refine ⟨haccepted, ?_, hfield, hmember, ?_⟩
  · rw [htype]
    intro f
    cases f <;> exact of_all (by decide)
  · intro hrelays
    obtain ⟨i, hi, hspelled⟩ := hrelays .BLVL
    rw [htype, hfield] at hi
    rw [hmember] at hspelled
    obtain rfl := Option.some.inj hi
    exact absurd (Option.some.inj hspelled) (by decide)

end GatewayLoRa
