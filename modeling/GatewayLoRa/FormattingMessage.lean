/-
  `FormattingMessage`: the JSON text of a message, its metadata and its hashes.

  `formatLORALORAMessage` and `formatLORAGNSSMessage` print the members of the last message
  (`payloadText`); `addMetaData` puts the metadata in front, hashes the whole, and
  puts the hash in front of that.  The hash is the `curr` of the message, and the `prev` of the next
  one that is confirmed.

  The texts are written into arrays of 2500 bytes with `snprintf`, which cuts what does not fit.
  What the clock says, and how the platform breaks a time into fields, are parameters.

  No lemma here says what a text contains; the modules that ask for a property of it (that it fits
  its array, that it is JSON, that its hashes can be verified) unfold `members` once and go on with
  their own notion.  What is shared is the count of characters (`length_members`) and the question
  whether a character can occur at all (`not_mem_members`).
-/

import GatewayLoRa.JWT
import GatewayLoRa.ReceptedMessage

namespace GatewayLoRa

open CMemory

/-! ## JSON -/

/-- A JSON string. -/
def quoted (s : Bytes) : Bytes := ascii "\"" ++ s ++ ascii "\""

/-- A JSON member: its name and the text of its value. -/
def member (f : String × Bytes) : Bytes := ascii "\"" ++ ascii f.1 ++ ascii "\":" ++ f.2

/-- Members, with commas between them. -/
def members : List (String × Bytes) → Bytes
  | [] => []
  | [f] => member f
  | f :: fs => member f ++ ascii "," ++ members fs

/-- Two quotes around a string. -/
theorem length_quoted (s : Bytes) : (quoted s).length = s.length + 2 := by
  have hquote : (ascii "\"").length = 1 := by decide
  simp only [quoted, List.length_append, hquote]
  omega

/-- A name in quotes, a colon, and the value. -/
theorem length_member (f : String × Bytes) :
    (member f).length = (ascii f.1).length + 3 + f.2.length := by
  have hquote : (ascii "\"").length = 1 := by decide
  have hcolon : (ascii "\":").length = 2 := by decide
  simp only [member, List.length_append, hquote, hcolon]
  omega

/-- The characters of a list of members that are not part of a value: the names, and four for
    each member but the last. -/
def namesLen (names : List String) : Nat := (names.map fun n => (ascii n).length + 4).sum

/-- **The length of a list of members**, with one byte added for the comma that the last one does
    not have: the names with their punctuation, and the values. -/
theorem length_members (fs : List (String × Bytes)) (hne : fs ≠ []) :
    (members fs).length + 1 = namesLen (fs.map Prod.fst) + (fs.map fun f => f.2.length).sum := by
  induction fs with
  | nil => exact absurd rfl hne
  | cons f fs ih =>
    cases fs with
    | nil =>
      simp only [members, length_member, namesLen, List.map_cons, List.map_nil, List.sum_cons,
        List.sum_nil]
      omega
    | cons g gs =>
      have ih := ih (List.cons_ne_nil g gs)
      have hcomma : (ascii ",").length = 1 := by decide
      have hcons : members (f :: g :: gs) = member f ++ ascii "," ++ members (g :: gs) := rfl
      rw [hcons, List.length_append, List.length_append, length_member, hcomma]
      simp only [namesLen, List.map_cons, List.sum_cons] at ih ⊢
      omega

/-- A character that is not a quote is in a JSON string only if it is in the text. -/
theorem not_mem_quoted {c : UInt8} {s : Bytes} (hc : c ≠ 34) (hs : c ∉ s) : c ∉ quoted s := by
  intro h
  rcases List.mem_append.mp h with h | h
  · rcases List.mem_append.mp h with h | h
    · exact hc (List.mem_singleton.mp h)
    · exact hs h
  · exact hc (List.mem_singleton.mp h)

/-- A character that is no punctuation is in a member only if it is in its name or in its value. -/
theorem not_mem_member {c : UInt8} {f : String × Bytes} (hquote : c ≠ 34) (hcolon : c ≠ 58)
    (hname : c ∉ ascii f.1) (hvalue : c ∉ f.2) : c ∉ member f := by
  intro h
  simp only [member, List.mem_append] at h
  rcases h with ((h | h) | h) | h
  · exact hquote (List.mem_singleton.mp h)
  · exact hname h
  · rcases List.mem_cons.mp h with h | h
    · exact hquote h
    · exact hcolon (List.mem_singleton.mp h)
  · exact hvalue h

/-- A character that is no punctuation is in the members only if it is in a name or in a value. -/
theorem not_mem_members {c : UInt8} {fs : List (String × Bytes)} (hquote : c ≠ 34) (hcolon : c ≠ 58)
    (hcomma : c ≠ 44) (hfree : ∀ f ∈ fs, c ∉ ascii f.1 ∧ c ∉ f.2) : c ∉ members fs := by
  induction fs with
  | nil => exact List.not_mem_nil
  | cons f fs ih =>
    obtain ⟨hname, hvalue⟩ := hfree f List.mem_cons_self
    have hf := not_mem_member hquote hcolon hname hvalue
    cases fs with
    | nil => exact hf
    | cons f' fs =>
      intro h
      rcases List.mem_append.mp h with h | h
      · rcases List.mem_append.mp h with h | h
        · exact hf h
        · exact hcomma (List.mem_singleton.mp h)
      · exact ih (fun e he => hfree e (List.mem_cons_of_mem f he)) h

/-! ## The text of a message -/

/-- The size of `messageBuffer` and `workBuffer`. -/
abbrev sizeOfMessageBuffer : Nat := 2500

/-- `snprintf` into an array of `sizeOfMessageBuffer` bytes. -/
def printed (text : Bytes) : Bytes := text.take (sizeOfMessageBuffer - 1)

section Text

variable {φ : Type} (F : Floats φ)

/-- The members that describe the battery and the motion. -/
def sensorMembers (g : Recepted φ) : List (String × Bytes) :=
  [("BSTA", Stdio.intText g.receptedBatteryData.batteryChargeStatus.toNat),
    ("BLVL", Stdio.intText g.receptedBatteryData.chargeLevel.toNat),
    ("SIMU", Stdio.intText g.receptedImuData.status.toNat),
    ("AX", F.text 2 g.receptedImuData.ax), ("AY", F.text 2 g.receptedImuData.ay),
    ("AZ", F.text 2 g.receptedImuData.az), ("YAW", F.text 2 g.receptedImuData.yaw),
    ("ROLL", F.text 2 g.receptedImuData.roll), ("PTCH", F.text 2 g.receptedImuData.pitch)]

/-- The members that say what the message is and where it comes from. -/
def headMembers (type : String) (RSSI : Int) (g : Recepted φ) : List (String × Bytes) :=
  [("Type", quoted (ascii type)), ("IMEI", Stdio.intText g.IMEIRecepted.toInt),
    ("RSSI", Stdio.intText RSSI), ("EVNT", quoted g.receptedTrackerEvent)]

/-- The members of a LORALORA message; the position is the gateway's own. -/
def loraLoraMembers (RSSI : Int) (gatewayGNSSInfo : GNSSData φ) (g : Recepted φ) :
    List (String × Bytes) :=
  headMembers "LORALORA" RSSI g ++
    [("LAT", F.text 6 gatewayGNSSInfo.latitude), ("LONG", F.text 6 gatewayGNSSInfo.longitude),
      ("ALT", F.text 2 gatewayGNSSInfo.altitude), ("TIME", quoted g.receptedImuData.timestamp)] ++
    sensorMembers F g

/-- The members of a LORAGNSS message; the position is the tracker's. -/
def loraGnssMembers (RSSI : Int) (g : Recepted φ) : List (String × Bytes) :=
  headMembers "LORAGNSS" RSSI g ++
    [("LAT", F.text 6 g.receptedGNSSdata.latitude), ("LONG", F.text 6 g.receptedGNSSdata.longitude),
      ("HDOP", F.text 2 g.receptedGNSSdata.hdop), ("ALT", F.text 2 g.receptedGNSSdata.altitude),
      ("COG", F.text 2 g.receptedGNSSdata.cog), ("SPD", F.text 2 g.receptedGNSSdata.spkm),
      ("TIME", quoted g.receptedGNSSdata.timestamp)] ++
    sensorMembers F g

/-- What `formatLORALORAMessage` and `formatLORAGNSSMessage` print, by the type of the message. -/
def payloadText (RSSI : Int) (gatewayGNSSInfo : GNSSData φ) (g : Recepted φ) : Bytes :=
  match g.receptedTypeMessage with
  | .loraLora => printed (members (loraLoraMembers F RSSI gatewayGNSSInfo g))
  | .loraGnss => printed (members (loraGnssMembers F RSSI g))

end Text

/-! ## The metadata -/

/-- `struct tm`, as far as a timestamp shows it. -/
structure Tm where
  mday : Int
  mon : Int
  year : Int
  hour : Int
  min : Int
  sec : Int

/-- `%02d`. -/
def twoDigits (i : Int) : Bytes := if 0 ≤ i ∧ i < 10 then 48 :: Stdio.intText i else Stdio.intText i

/-- `epochToTimestamp`, into an array of 20 bytes. -/
def epochToTimestamp (localtime : Int → Tm) (seconds : Int) : Bytes :=
  let t := localtime seconds
  (twoDigits t.mday ++ twoDigits (t.mon + 1) ++ twoDigits (t.year % 100) ++ twoDigits t.hour ++
    twoDigits t.min ++ twoDigits t.sec).take 19

/-- `hash_and_base64`; a digest takes 44 of the 100 bytes of its array. -/
def hashAndBase64 (P : Primitives) (input : Bytes) : Bytes := P.base64Encode (P.sha256 input).1

/-- What the gateway knows of a message besides its text. -/
structure Metadata where
  deviceIdentifier : Bytes
  urlPathChannel : Bytes
  timestamp : Bytes
  timestampExpiration : Bytes
  sequenceNumber : Int
  hashPrevJson : Bytes
  deriving DecidableEq

/-- The intermediate JSON: the metadata, the hash of the text, the text. -/
def intermediateJson (P : Primitives) (m : Metadata) (text : Bytes) : Bytes :=
  printed (ascii "\x7b" ++ members
    [("iss", quoted m.deviceIdentifier), ("aud", quoted m.urlPathChannel),
      ("ias", quoted m.timestamp), ("exp", quoted m.timestampExpiration),
      ("d", quoted (hashAndBase64 P text)), ("seq", Stdio.intText m.sequenceNumber),
      ("prev", quoted m.hashPrevJson)] ++ ascii "," ++ text ++ ascii "\x7d")

/-- The outer braces are taken off, if both are there. -/
def stripBraces (s : Bytes) : Bytes :=
  if s.length > 2 ∧ s.head? = some 0x7b ∧ s.getLast? = some 0x7d then s.tail.dropLast else s

/-- `hashCurrentJson`. -/
def hashCurrentJson (P : Primitives) (m : Metadata) (text : Bytes) : Bytes :=
  hashAndBase64 P (intermediateJson P m text)

/-- **`addMetaData`**: the JSON text it leaves. -/
def addMetaData (P : Primitives) (m : Metadata) (text : Bytes) : Bytes :=
  printed (ascii "\x7b" ++ member ("curr", quoted (hashCurrentJson P m text)) ++ ascii "," ++
    stripBraces (intermediateJson P m text) ++ ascii "\x7d")

end GatewayLoRa
