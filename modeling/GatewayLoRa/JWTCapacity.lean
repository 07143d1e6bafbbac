/-
  The JWT arrays are too small for every message.

  `JWTManager` allocates for payloads of 256 bytes.  The names of the members, the punctuation, and
  the two hashes of 44 letters alone are longer than the 278 bytes the output array has room for
  (and the 258 of the payload array): whatever the message and the metadata, the token does not
  fit (`addMetaData_not_fits`).

  The crux is a lower bound that does not depend on the message: `length_members` counts the names
  and the punctuation of a list of members, and every value has at least no characters.  What
  `snprintf` cuts off does not help, because it cuts at 2499 bytes.
-/

import GatewayLoRa.FormattingMessage

namespace GatewayLoRa

open CMemory

variable {φ : Type} (F : Floats φ) {P : Primitives}

/-- A text that is cut at 2499 bytes is still as long as any shorter bound. -/
theorem length_printed_ge {text : Bytes} {k : Nat} (hk : k ≤ 2499) (h : k ≤ text.length) :
    k ≤ (printed text).length := by
  have hsize : sizeOfMessageBuffer - 1 = 2499 := rfl
  rw [printed, List.length_take, hsize]
  omega

/-- The names of the members alone make a text of 126 bytes. -/
theorem length_payloadText_ge (RSSI : Int) (gatewayGNSSInfo : GNSSData φ) (g : Recepted φ) :
    126 ≤ (payloadText F RSSI gatewayGNSSInfo g).length := by
  unfold payloadText
  -- the two types of message have their own lists of members
  split
  · refine length_printed_ge (by decide) ?_
    have hlen := length_members (loraLoraMembers F RSSI gatewayGNSSInfo g)
      (by simp [loraLoraMembers, headMembers])
    have hnames : (loraLoraMembers F RSSI gatewayGNSSInfo g).map Prod.fst =
        ["Type", "IMEI", "RSSI", "EVNT", "LAT", "LONG", "ALT", "TIME", "BSTA", "BLVL", "SIMU",
          "AX", "AY", "AZ", "YAW", "ROLL", "PTCH"] := rfl
    have hnamesLen : namesLen ["Type", "IMEI", "RSSI", "EVNT", "LAT", "LONG", "ALT", "TIME",
        "BSTA", "BLVL", "SIMU", "AX", "AY", "AZ", "YAW", "ROLL", "PTCH"] = 127 := by decide
    rw [hnames, hnamesLen] at hlen
    omega
  · refine length_printed_ge (by decide) ?_
    have hlen := length_members (loraGnssMembers F RSSI g)
      (by simp [loraGnssMembers, headMembers])
    have hnames : (loraGnssMembers F RSSI g).map Prod.fst =
        ["Type", "IMEI", "RSSI", "EVNT", "LAT", "LONG", "HDOP", "ALT", "COG", "SPD", "TIME",
          "BSTA", "BLVL", "SIMU", "AX", "AY", "AZ", "YAW", "ROLL", "PTCH"] := rfl
    have hnamesLen : namesLen ["Type", "IMEI", "RSSI", "EVNT", "LAT", "LONG", "HDOP", "ALT",
        "COG", "SPD", "TIME", "BSTA", "BLVL", "SIMU", "AX", "AY", "AZ", "YAW", "ROLL", "PTCH"]
        = 149 := by decide
    rw [hnames, hnamesLen] at hlen
    omega

variable {F}

/-- A hash takes 44 letters. -/
theorem length_hashAndBase64 (hP : P.Lawful) (input : Bytes) :
    (hashAndBase64 P input).length = 44 := by
  rw [hashAndBase64, hP.base64Encode_length, (P.sha256 input).2]

/-- The metadata add at least 107 bytes to a text. -/
theorem length_intermediateJson_ge (hP : P.Lawful) (m : Metadata) {text : Bytes}
    (h : 126 ≤ text.length) : 233 ≤ (intermediateJson P m text).length := by
  refine length_printed_ge (by decide) ?_
  have hlen := length_members
    [("iss", quoted m.deviceIdentifier), ("aud", quoted m.urlPathChannel),
      ("ias", quoted m.timestamp), ("exp", quoted m.timestampExpiration),
      ("d", quoted (hashAndBase64 P text)), ("seq", Stdio.intText m.sequenceNumber),
      ("prev", quoted m.hashPrevJson)] (by simp)
  have hnames : namesLen ["iss", "aud", "ias", "exp", "d", "seq", "prev"] = 48 := by decide
  have hseq := Stdio.length_intText_pos m.sequenceNumber
  have hopen : (ascii "\x7b").length = 1 := by decide
  have hclose : (ascii "\x7d").length = 1 := by decide
  have hcomma : (ascii ",").length = 1 := by decide
  simp only [List.map_cons, List.map_nil, List.sum_cons, List.sum_nil, hnames, length_quoted,
    length_hashAndBase64 hP] at hlen
  simp only [List.length_append, hopen, hclose, hcomma]
  omega

/-- Taking the braces off takes two bytes off. -/
theorem length_stripBraces_ge (s : Bytes) : s.length - 2 ≤ (stripBraces s).length := by
  unfold stripBraces
  split
  · simp only [List.length_dropLast, List.length_tail]
    omega
  · omega

/-- The JSON text of a message is longer than the arrays have room for. -/
theorem length_addMetaData_ge (hP : P.Lawful) (m : Metadata) {text : Bytes}
    (h : 126 ≤ text.length) : 279 ≤ (addMetaData P m text).length := by
  refine length_printed_ge (by decide) ?_
  have hjson := length_intermediateJson_ge hP m h
  have hstrip := length_stripBraces_ge (intermediateJson P m text)
  have hcurr : (ascii "curr").length = 4 := by decide
  have hopen : (ascii "\x7b").length = 1 := by decide
  have hclose : (ascii "\x7d").length = 1 := by decide
  have hcomma : (ascii ",").length = 1 := by decide
  simp only [List.length_append, hopen, hclose, hcomma, length_member, length_quoted,
    hashCurrentJson, length_hashAndBase64 hP, hcurr]
  omega

/-! ## The result -/

/-- **No accepted message fits**: whatever the parser accepted and whatever the metadata, neither
    the payload nor the token of its JSON text has room in its array. -/
theorem accepted_not_fits (F : Floats φ) (hP : P.Lawful) (messageToParse : Bytes)
    (g : Recepted φ) (RSSI : Int) (gatewayGNSSInfo : GNSSData φ) (m : Metadata) :
    (parseReceptedLoRaMessage F messageToParse g).1 = true →
      ¬ JWTManager.Fits P (addMetaData P m
        (payloadText F RSSI gatewayGNSSInfo (parseReceptedLoRaMessage F messageToParse g).2)) := by
  rintro - ⟨-, hout⟩
  have hlen := length_addMetaData_ge hP m (length_payloadText_ge F RSSI gatewayGNSSInfo
    (parseReceptedLoRaMessage F messageToParse g).2)
  have := (JWTManager.output_fits_iff P _).mp hout
  omega

/-! ## A message -/

/-- The metadata of the first message, sent over the main channel. -/
def firstMetadata : Metadata where
  deviceIdentifier := ascii "device/gateway-001"
  urlPathChannel := ascii "https://intent-lion-loudly.ngrok-free.app/api/canal/envio"
  timestamp := ascii "010125120000"
  timestampExpiration := ascii "020125120000"
  sequenceNumber := 0
  hashPrevJson := ascii "-"

/-- The message is accepted, so its token does not fit. -/
theorem trackerMessage_not_fits :
    ¬ JWTManager.Fits .reference (addMetaData .reference firstMetadata (payloadText .integers (-90)
      origin (parseReceptedLoRaMessage .integers trackerMessage nothingRecepted).2)) :=
  accepted_not_fits .integers Primitives.reference_lawful trackerMessage nothingRecepted (-90) origin
    firstMetadata (by decide +kernel)

/-- **The JSON text of an accepted message, computed: 469 bytes, for which neither array has room.** -/
theorem trackerMessage_overflows :
    (parseReceptedLoRaMessage .integers trackerMessage nothingRecepted).1 = true ∧
      ¬ JWTManager.Fits .reference (addMetaData .reference firstMetadata (payloadText .integers (-90)
        origin (parseReceptedLoRaMessage .integers trackerMessage nothingRecepted).2)) := by
  refine ⟨by decide +kernel, fun h => ?_⟩
  have hlen : (addMetaData .reference firstMetadata (payloadText .integers (-90) origin
      (parseReceptedLoRaMessage .integers trackerMessage nothingRecepted).2)).length = 469 := by
    decide +kernel
  have := (JWTManager.payload_fits_iff _).mp h.1
  omega

end GatewayLoRa
