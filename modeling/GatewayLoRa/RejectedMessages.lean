/-
  What a REJECTED LoRa message leaves behind in the gateway.

  `parseReceptedLoRaMessage` hands `sscanf` the addresses of the gateway's own members.  The return
  value is looked at when the scan is over, and by then every conversion before the one that failed
  has stored.  So a message that breaks off after its first number has already replaced the IMEI
  of the last accepted one, and is then refused.

  1. `scan_of_starts`, `scan_of_not_starts`: the store of a scan has changed as soon as the first
     number was read, because no later conversion touches the IMEI again.
  2. `leavesAlone_iff`: a text leaves every gateway alone when it is rejected if and only if it is
     complete, or its scan stops before the first number.

  The crux is that the first conversion decides.  The IMEI is the first member that is stored and no
  later conversion stores into it, so a gateway with another IMEI has lost its own as soon as the
  first number was read; and where that number was not read, nothing was stored at all.  There is
  nothing in between, though the text may break off in nineteen places.
-/

import GatewayLoRa.ParsedFields

namespace GatewayLoRa

open CMemory Stdio

variable {φ : Type} {F : Floats φ} {type : ReceptedTypeMessage} {t : Bytes} {g : Recepted φ}

/-! ## When a scan has stored

  `StartsWith` is the least that a text needs to store something: its header, and a number behind
  it. -/

/-- The text begins with a header and a number: the scan stores the IMEI. -/
def StartsWith (type : ReceptedTypeMessage) (t : Bytes) : Prop :=
  header type ++ [44] <+: t ∧ (scanInt 64 (t.drop 9)).isSome

instance : Decidable (StartsWith type t) := inferInstanceAs (Decidable (_ ∧ _))

/-- The first field of a text that begins with a header is the header. -/
theorem typeOf_of_header (h : header type ++ [44] <+: t) : typeOf (firstField t) = some type := by
  obtain ⟨rest, rfl⟩ := h
  have hfree : ∀ c ∈ header type, (c != 44) = true := by cases type <;> decide +kernel
  have htake : (header type ++ [44] ++ rest).take 15 = header type ++ 44 :: rest.take 6 := by
    rw [List.append_assoc, List.take_append, length_header, List.take_of_length_le (by simp)]
    rfl
  rw [firstField, htake, List.takeWhile_append_of_pos hfree, List.takeWhile_cons]
  show typeOf (header type ++ []) = some type
  rw [List.append_nil]
  exact typeOf_header type

/-- No conversion behind the IMEI stores into it. -/
theorem laterFields_keep :
    ∀ d ∈ (laterFields type : List (Scan.Directive φ)), d.Keeps fun s => s.recepted.IMEIRecepted := by
  cases type with
  | loraLora =>
    repeat' refine List.forall_mem_cons.mpr ⟨by first | trivial | exact fun _ _ => rfl, ?_⟩
    exact List.forall_mem_nil _
  | loraGnss =>
    repeat' refine List.forall_mem_cons.mpr ⟨by first | trivial | exact fun _ _ => rfl, ?_⟩
    exact List.forall_mem_nil _

/-- **A scan that reads the first number stores it**, wherever it stops later. -/
theorem scan_of_starts (h : StartsWith type t) :
    ∃ v : Int64, ∀ g : Recepted φ,
      (sscanf F.strtof (format type) t (Scan.start g)).2.recepted.IMEIRecepted = v := by
  obtain ⟨hpre, hscan⟩ := h
  obtain ⟨⟨v, rest⟩, hv⟩ := Option.isSome_iff_exists.mp hscan
  refine ⟨Int64.ofInt v, fun g => ?_⟩
  have hlen : (header type ++ [44]).length = 9 := by rw [List.length_append, length_header]; rfl
  have hheader : (Directive.text (header type ++ [44]) : Scan.Directive φ).run F.strtof t
      (Scan.start g) = some (t.drop 9, 0, Scan.start g) := by
    rw [Directive.run, if_pos hpre, hlen]
  have himei : (Scan.IMEI : Scan.Directive φ).run F.strtof (t.drop 9) (Scan.start g)
      = some (rest, 1, { Scan.start g with recepted := { g with IMEIRecepted := Int64.ofInt v } }) := by
    rw [Scan.IMEI, Directive.run, hv]
    rfl
  rw [format_eq]
  simp only [sscanf, hheader, himei]
  exact sscanf_keeps (f := fun s : Scan φ => s.recepted.IMEIRecepted) laterFields_keep _ _

/-- A scan that does not read it stores nothing. -/
theorem scan_of_not_starts (h : ¬ StartsWith type t) :
    (sscanf F.strtof (format type) t (Scan.start g)).2 = Scan.start g := by
  rw [format_eq]
  by_cases hpre : header type ++ [44] <+: t
  · have hlen : (header type ++ [44]).length = 9 := by rw [List.length_append, length_header]; rfl
    have hheader : (Directive.text (header type ++ [44]) : Scan.Directive φ).run F.strtof t
        (Scan.start g) = some (t.drop 9, 0, Scan.start g) := by
      rw [Directive.run, if_pos hpre, hlen]
    have hnone : scanInt 64 (t.drop 9) = none := by
      cases hscan : scanInt 64 (t.drop 9) with
      | none => rfl
      | some p => exact absurd ⟨hpre, by rw [hscan]; rfl⟩ h
    have himei : (Scan.IMEI : Scan.Directive φ).run F.strtof (t.drop 9) (Scan.start g) = none := by
      rw [Scan.IMEI, Directive.run, hnone]
      rfl
    simp only [sscanf, hheader, himei]
  · have hheader : (Directive.text (header type ++ [44]) : Scan.Directive φ).run F.strtof t
        (Scan.start g) = none := if_neg hpre
    simp only [sscanf, hheader]

/-! ## Rejection

  The property asks about all gateways, so a single one that changes refutes it; `withIMEI` is that
  one. -/

/-- **A rejected text changes nothing**, in no gateway. -/
def LeavesAlone (F : Floats φ) (t : Bytes) : Prop :=
  ∀ g : Recepted φ, (parseReceptedLoRaMessage F t g).1 = false →
    (parseReceptedLoRaMessage F t g).2 = g

/-- The members, with nothing in them but an IMEI. -/
def withIMEI [Inhabited φ] (IMEI : Int64) : Recepted φ where
  IMEIRecepted := IMEI
  loraMessageNumber := 0
  receptedTrackerEvent := []
  receptedGNSSdata := ⟨default, default, default, default, default, default, []⟩
  receptedBatteryData := ⟨0, 0⟩
  receptedImuData := ⟨0, default, default, default, default, default, default, []⟩
  receptedTypeMessage := .loraLora

/-- An incomplete text that stores the IMEI is not without effect. -/
theorem not_leavesAlone [Inhabited φ] (hstarts : StartsWith type t) (hbad : ¬ Complete F type t) :
    ¬ LeavesAlone F t := by
  intro halone
  obtain ⟨v, hv⟩ := scan_of_starts (F := F) hstarts
  -- a gateway that holds another IMEI than the text
  obtain ⟨w, hw⟩ : ∃ w : Int64, w ≠ v := by
    by_cases hzero : v = 0
    · exact ⟨1, by rw [hzero]; decide⟩
    · exact ⟨0, fun h => hzero h.symm⟩
  have hreject : parseReceptedLoRaMessage F t (withIMEI w : Recepted φ)
      = (false, (sscanf F.strtof (format type) t (Scan.start (withIMEI w))).2.recepted) :=
    (parse_of_type (typeOf_of_header hstarts.1)).trans (if_neg hbad)
  have hsame := halone (withIMEI w) (by rw [hreject])
  rw [hreject] at hsame
  have := congrArg Recepted.IMEIRecepted hsame
  rw [hv] at this
  exact hw this.symm

/-- **A rejected text changes nothing if and only if it is complete, or its scan stops before the
    first number.** -/
theorem leavesAlone_iff [Inhabited φ] (F : Floats φ) (t : Bytes) :
    LeavesAlone F t ↔ ∀ type, StartsWith type t → Complete F type t := by
  constructor
  · intro halone type hstarts
    by_cases hcomplete : Complete F type t
    · exact hcomplete
    · exact absurd halone (not_leavesAlone hstarts hcomplete)
  -- a text with no header stores nothing either
  · intro hcond g
    cases htype : typeOf (firstField t) with
    | none =>
      rw [parse_eq, htype]
      exact fun _ => rfl
    | some type =>
      rw [parse_of_type htype]
      by_cases hcomplete : Complete F type t
      · rw [if_pos hcomplete]
        intro hfalse
        cases hfalse
      · rw [if_neg hcomplete]
        intro _
        show (sscanf F.strtof (format type) t (Scan.start g)).2.recepted = g
        rw [scan_of_not_starts fun hstarts => hcomplete (hcond type hstarts)]
        rfl

/-! ## A message that breaks off

  The shortest message that does harm. -/

/-- The header and the IMEI of a message. -/
def brokenOff : Bytes := ascii "LORALORA,5"

/-- **A message that breaks off behind its IMEI is rejected, and the IMEI is replaced.** -/
theorem brokenOff_rejected :
    parseReceptedLoRaMessage .integers brokenOff nothingRecepted
      = (false, { nothingRecepted with IMEIRecepted := 5 }) ∧
    ¬ LeavesAlone Floats.integers brokenOff := by
  refine ⟨by rfl, ?_⟩
  have hstarts : StartsWith .loraLora brokenOff := by decide
  exact not_leavesAlone hstarts (by decide)

end GatewayLoRa
