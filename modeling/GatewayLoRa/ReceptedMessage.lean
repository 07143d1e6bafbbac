/-
  The data of the last LoRa message, and `Gateway::parseReceptedLoRaMessage`, which fills it in.

  The parser scans the text with one of two formats, chosen by the first field.  Some of the
  conversions store straight into the gateway's members (the IMEI, the number, the floats), so they
  stay when a later one fails; the others go through local variables and are copied only when all
  conversions were made (`Scan`).

  How a `float` is read and printed is a parameter (`Floats`).
-/

import GatewayLoRa.Lib.Stdio

namespace GatewayLoRa

open CMemory

/-- What the platform does with floats: `strtof`, and the text of `%.<digits>f`. -/
structure Floats (φ : Type) where
  strtof : Bytes → Option (φ × Bytes)
  text : Nat → φ → Bytes

/-- `ReceptedTypeMessage_t`. -/
inductive ReceptedTypeMessage
  | loraLora
  | loraGnss
  deriving DecidableEq, Repr

/-- `GNSSData`, as far as the gateway uses it. -/
structure GNSSData (φ : Type) where
  latitude : φ
  longitude : φ
  hdop : φ
  altitude : φ
  cog : φ
  spkm : φ
  timestamp : Bytes

/-- `BatteryData`. -/
structure BatteryData where
  batteryChargeStatus : UInt8
  chargeLevel : UInt8
  deriving DecidableEq

/-- `IMUData_t`, as far as the gateway uses it. -/
structure IMUData (φ : Type) where
  status : UInt8
  ax : φ
  ay : φ
  az : φ
  yaw : φ
  roll : φ
  pitch : φ
  timestamp : Bytes

/-- The members of `Gateway` that hold the last message. -/
structure Recepted (φ : Type) where
  IMEIRecepted : Int64
  loraMessageNumber : Int32
  receptedTrackerEvent : Bytes
  receptedGNSSdata : GNSSData φ
  receptedBatteryData : BatteryData
  receptedImuData : IMUData φ
  receptedTypeMessage : ReceptedTypeMessage

variable {φ : Type}

/-- The members, and the local variables of a scan. -/
structure Scan (φ : Type) where
  recepted : Recepted φ
  trackerEvent : Bytes
  timestamp : Bytes
  tmpBat : Int
  tmpCharge : Int
  tmpStatus : Int

namespace Scan

/-- The scan of a message begins; the local variables are not read before they are scanned. -/
def start (g : Recepted φ) : Scan φ := ⟨g, [], [], 0, 0, 0⟩

abbrev Directive (φ : Type) := Stdio.Directive φ (Scan φ)

def comma : Directive φ := .text (ascii ",")

def IMEI : Directive φ :=
  .int 64 fun v s => { s with recepted := { s.recepted with IMEIRecepted := Int64.ofInt v } }

def number : Directive φ :=
  .int 32 fun v s => { s with recepted := { s.recepted with loraMessageNumber := Int32.ofInt v } }

def trackerEventField : Directive φ := .field 19 44 fun x s => { s with trackerEvent := x }

def timestampField : Directive φ := .field 19 44 fun x s => { s with timestamp := x }

def bat : Directive φ := .int 32 fun v s => { s with tmpBat := v }

def charge : Directive φ := .int 32 fun v s => { s with tmpCharge := v }

def status : Directive φ := .int 32 fun v s => { s with tmpStatus := v }

/-- A float of `receptedGNSSdata`. -/
def gnss (store : φ → GNSSData φ → GNSSData φ) : Directive φ :=
  .float fun v s =>
    { s with recepted :=
        { s.recepted with receptedGNSSdata := store v s.recepted.receptedGNSSdata } }

/-- A float of `receptedImuData`. -/
def imu (store : φ → IMUData φ → IMUData φ) : Directive φ :=
  .float fun v s =>
    { s with recepted :=
        { s.recepted with receptedImuData := store v s.recepted.receptedImuData } }

/-- `"%f,%f,%f,%f,%f,%f"` into the acceleration and the angles. -/
def motion : List (Directive φ) :=
  [imu fun v d => { d with ax := v }, comma, imu fun v d => { d with ay := v }, comma,
    imu fun v d => { d with az := v }, comma, imu fun v d => { d with yaw := v }, comma,
    imu fun v d => { d with roll := v }, comma, imu fun v d => { d with pitch := v }]

/-- `"LORAGNSS,%lld,%d,%19[^,],%f,%f,%f,%f,%f,%f,%19[^,],%d,%d,%d,%f,%f,%f,%f,%f,%f"`. -/
def loraGnssFormat : List (Directive φ) :=
  [.text (ascii "LORAGNSS,"), IMEI, comma, number, comma, trackerEventField, comma,
    gnss fun v d => { d with latitude := v }, comma, gnss fun v d => { d with longitude := v }, comma,
    gnss fun v d => { d with hdop := v }, comma, gnss fun v d => { d with altitude := v }, comma,
    gnss fun v d => { d with cog := v }, comma, gnss fun v d => { d with spkm := v }, comma,
    timestampField, comma, bat, comma, charge, comma, status, comma] ++ motion

/-- `"LORALORA,%lld,%d,%19[^,],%d,%d,%19[^,],%d,%f,%f,%f,%f,%f,%f"`. -/
def loraLoraFormat : List (Directive φ) :=
  [.text (ascii "LORALORA,"), IMEI, comma, number, comma, trackerEventField, comma, bat, comma,
    charge, comma, timestampField, comma, status, comma] ++ motion

/-- What is copied from the local variables after a complete scan of either format. -/
def copied (s : Scan φ) (type : ReceptedTypeMessage) : Recepted φ :=
  { s.recepted with
    receptedBatteryData := ⟨UInt8.ofInt s.tmpBat, UInt8.ofInt s.tmpCharge⟩
    receptedImuData := { s.recepted.receptedImuData with status := UInt8.ofInt s.tmpStatus }
    receptedTrackerEvent := s.trackerEvent
    receptedTypeMessage := type }

end Scan

open Scan in
/-- **`parseReceptedLoRaMessage`**: whether the message is accepted, and the members after it. -/
def parseReceptedLoRaMessage (F : Floats φ) (messageToParse : Bytes) (g : Recepted φ) :
    Bool × Recepted φ :=
  let (n, pre) := Stdio.sscanf F.strtof [.field 15 44 fun x (_ : Bytes) => x] messageToParse []
  if n ≠ 1 then (false, g)
  else if pre = ascii "LORAGNSS" then
    let (n, s) := Stdio.sscanf F.strtof loraGnssFormat messageToParse (start g)
    if n = 19 then
      let g := s.copied .loraGnss
      (true, { g with receptedGNSSdata := { g.receptedGNSSdata with timestamp := s.timestamp } })
    else (false, s.recepted)
  else if pre = ascii "LORALORA" then
    let (n, s) := Stdio.sscanf F.strtof loraLoraFormat messageToParse (start g)
    if n = 13 then
      let g := s.copied .loraLora
      (true, { g with receptedImuData := { g.receptedImuData with timestamp := s.timestamp } })
    else (false, s.recepted)
  else (false, g)

/-! ## An instance to evaluate

  Floats whose text is an integer: enough to run the parser and the formatter on messages of
  trackers at rest. -/

/-- Floats that happen to be integers, read and printed. -/
def Floats.integers : Floats Int where
  strtof := Stdio.scanInt 64
  text digits v := Stdio.intText v ++ ascii "." ++ List.replicate digits 48

/-- A position at the origin. -/
def origin : GNSSData Int := ⟨0, 0, 0, 0, 0, 0, []⟩

/-- The members before the first message. -/
def nothingRecepted : Recepted Int :=
  ⟨0, 1, [], origin, ⟨0, 0⟩, ⟨0, 0, 0, 0, 0, 0, 0, []⟩, .loraLora⟩

/-- A message of a tracker at rest. -/
def trackerMessage : Bytes := ascii "LORALORA,1,2,STOP,1,90,010125120000,0,0,0,1,0,0,0"

example : (parseReceptedLoRaMessage .integers trackerMessage nothingRecepted).1 = true := by
  decide

end GatewayLoRa
