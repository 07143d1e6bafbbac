/-
  Every text on the way of a message fits the array it is printed into.

  `snprintf` cuts without a word, so a text that is too long is sent cut and cannot be read.  The
  bounds below are added up from the fields: a float of single precision prints 39 digits, a sign,
  a point and its decimals; the strings of the parser have at most 19 characters; an integer has
  the digits of its type.  In the worst case the members of a LORAGNSS message take 770 bytes, the
  intermediate JSON 1169, the final JSON 1223, the token 1714 and the HTTP request 1868, all below
  2500: `fits_everywhere`.

  The texts here are the COMPLETE ones, before `snprintf`; `payloadText_eq`, `intermediateJson_eq`
  and `addMetaData_eq` say that what the code leaves is a prefix of them, and so, since they fit,
  the whole: the last fields of `NothingCut` say so, down to the body of the request.

  The crux is that the lengths add up member by member (`length_members`): a payload is as long as
  its names, its values, and four characters for each member.  The names are constants, so of each
  text only the values have to be bounded, and each kind of value has one lemma.  The numbers in the
  proofs are the sums; nothing else depends on them, and the bounds of the statements are loose
  where the source's arrays are.
-/

import GatewayLoRa.JWTCapacity
import GatewayLoRa.ParsedFields
import GatewayLoRa.EthernetDelivery
import GatewayLoRa.Lib.ReadBack

namespace GatewayLoRa

open CMemory

variable {φ : Type} {F : Floats φ} {P : Primitives}

/-! ## The complete texts

  What the source prints, had it arrays without end.  Each definition is followed by the equation
  that ties it to the text that is cut. -/

/-- The members of a message, by its type. -/
def payloadMembers (F : Floats φ) (RSSI : Int) (gatewayGNSSInfo : GNSSData φ) (g : Recepted φ) :
    List (String × Bytes) :=
  match g.receptedTypeMessage with
  | .loraLora => loraLoraMembers F RSSI gatewayGNSSInfo g
  | .loraGnss => loraGnssMembers F RSSI g

/-- The payload text before it is cut to its array. -/
def completePayload (F : Floats φ) (RSSI : Int) (gatewayGNSSInfo : GNSSData φ) (g : Recepted φ) :
    Bytes :=
  members (payloadMembers F RSSI gatewayGNSSInfo g)

/-- What is printed of the payload is the begin of it, -/
theorem payloadText_eq (RSSI : Int) (gatewayGNSSInfo : GNSSData φ) (g : Recepted φ) :
    payloadText F RSSI gatewayGNSSInfo g = printed (completePayload F RSSI gatewayGNSSInfo g) := by
  unfold payloadText completePayload payloadMembers
  cases g.receptedTypeMessage <;> rfl

/-- The members that `addMetaData` puts in front of a text. -/
def metadataMembers (m : Metadata) (d : Bytes) : List (String × Bytes) :=
  [("iss", quoted m.deviceIdentifier), ("aud", quoted m.urlPathChannel),
    ("ias", quoted m.timestamp), ("exp", quoted m.timestampExpiration), ("d", quoted d),
    ("seq", Stdio.intText m.sequenceNumber), ("prev", quoted m.hashPrevJson)]

/-- The intermediate JSON before it is cut. -/
def completeIntermediate (P : Primitives) (m : Metadata) (text : Bytes) : Bytes :=
  ascii "\x7b" ++ members (metadataMembers m (hashAndBase64 P text)) ++ ascii "," ++ text ++
    ascii "\x7d"

/-- and so it is with the intermediate JSON, -/
theorem intermediateJson_eq (m : Metadata) (text : Bytes) :
    intermediateJson P m text = printed (completeIntermediate P m text) := rfl

/-- The final JSON before it is cut. -/
def completeFinal (P : Primitives) (m : Metadata) (text : Bytes) : Bytes :=
  ascii "\x7b" ++ member ("curr", quoted (hashCurrentJson P m text)) ++ ascii "," ++
    stripBraces (intermediateJson P m text) ++ ascii "\x7d"

/-- and with the final one. -/
theorem addMetaData_eq (m : Metadata) (text : Bytes) :
    addMetaData P m text = printed (completeFinal P m text) := rfl

/-- What fits is not cut. -/
theorem printed_of_lt {text : Bytes} (h : text.length < sizeOfMessageBuffer) :
    printed text = text :=
  List.take_of_length_le (by omega)

/-! ## The fields

  The longest text of each type: the digits of a byte, of an `int` and of a `long long`, with their
  signs. -/

/-- A byte has three digits, -/
theorem length_byte_le (b : UInt8) : (Stdio.intText b.toNat).length ≤ 4 :=
  Stdio.length_intText_le (k := 3) (by decide) (by
    have := b.toNat_lt
    show (b.toNat : Int).natAbs < 10 ^ 3
    omega)

/-- an `int` ten and a sign, -/
theorem length_int32_le (i : Int32) : (Stdio.intText i.toInt).length ≤ 11 :=
  Stdio.length_intText_le (k := 10) (by decide) (by
    have hlo := i.le_toInt
    have hhi := i.toInt_lt
    show i.toInt.natAbs < 10 ^ 10
    omega)

/-- a `long long` nineteen and a sign. -/
theorem length_int64_le (i : Int64) : (Stdio.intText i.toInt).length ≤ 20 :=
  Stdio.length_intText_le (k := 19) (by decide) (by
    have hlo := i.le_toInt
    have hhi := i.toInt_lt
    show i.toInt.natAbs < 10 ^ 19
    omega)

/-- The strings of the last message are no longer than the parser reads them. -/
structure ShortStrings (g : Recepted φ) : Prop where
  event : g.receptedTrackerEvent.length ≤ 19
  timestamp : g.timestamp.length ≤ 19

/-- **The payload text takes at most 770 bytes.** -/
theorem length_completePayload_le (hF : F.Lawful) (RSSI : Int32) (gatewayGNSSInfo : GNSSData φ)
    {g : Recepted φ} (hg : ShortStrings g) :
    (completePayload F RSSI.toInt gatewayGNSSInfo g).length ≤ 770 := by
  have hRSSI := length_int32_le RSSI
  have hIMEI := length_int64_le g.IMEIRecepted
  have hBSTA := length_byte_le g.receptedBatteryData.batteryChargeStatus
  have hBLVL := length_byte_le g.receptedBatteryData.chargeLevel
  have hSIMU := length_byte_le g.receptedImuData.status
  have hAX := hF.text_length 2 g.receptedImuData.ax
  have hAY := hF.text_length 2 g.receptedImuData.ay
  have hAZ := hF.text_length 2 g.receptedImuData.az
  have hYAW := hF.text_length 2 g.receptedImuData.yaw
  have hROLL := hF.text_length 2 g.receptedImuData.roll
  have hPTCH := hF.text_length 2 g.receptedImuData.pitch
  have hevent := hg.event
  have htime := hg.timestamp
  unfold completePayload payloadMembers
  -- seventeen members or twenty; the floats are the longest of them
  cases htype : g.receptedTypeMessage with
  | loraLora =>
    rw [Recepted.timestamp, htype] at htime
    dsimp only at htime ⊢
    have hlen := length_members (loraLoraMembers F RSSI.toInt gatewayGNSSInfo g)
      (by simp [loraLoraMembers, headMembers])
    have hnames : namesLen ((loraLoraMembers F RSSI.toInt gatewayGNSSInfo g).map Prod.fst) = 127 := by
      show namesLen ["Type", "IMEI", "RSSI", "EVNT", "LAT", "LONG", "ALT", "TIME",
        "BSTA", "BLVL", "SIMU", "AX", "AY", "AZ", "YAW", "ROLL", "PTCH"] = 127
      decide +kernel
    have htypeText : (ascii "LORALORA").length = 8 := by decide +kernel
    have hLAT := hF.text_length 6 gatewayGNSSInfo.latitude
    have hLONG := hF.text_length 6 gatewayGNSSInfo.longitude
    have hALT := hF.text_length 2 gatewayGNSSInfo.altitude
    rw [hnames] at hlen
    simp only [loraLoraMembers, headMembers, sensorMembers, List.cons_append, List.nil_append,
      List.map_cons, List.map_nil, List.sum_cons, List.sum_nil, length_quoted, htypeText] at hlen ⊢
    omega
  | loraGnss =>
    rw [Recepted.timestamp, htype] at htime
    dsimp only at htime ⊢
    have hlen := length_members (loraGnssMembers F RSSI.toInt g)
      (by simp [loraGnssMembers, headMembers])
    have hnames : namesLen ((loraGnssMembers F RSSI.toInt g).map Prod.fst) = 149 := by
      show namesLen ["Type", "IMEI", "RSSI", "EVNT", "LAT", "LONG", "HDOP", "ALT", "COG", "SPD",
        "TIME", "BSTA", "BLVL", "SIMU", "AX", "AY", "AZ", "YAW", "ROLL", "PTCH"] = 149
      decide +kernel
    have htypeText : (ascii "LORAGNSS").length = 8 := by decide +kernel
    have hLAT := hF.text_length 6 g.receptedGNSSdata.latitude
    have hLONG := hF.text_length 6 g.receptedGNSSdata.longitude
    have hHDOP := hF.text_length 2 g.receptedGNSSdata.hdop
    have hALT := hF.text_length 2 g.receptedGNSSdata.altitude
    have hCOG := hF.text_length 2 g.receptedGNSSdata.cog
    have hSPD := hF.text_length 2 g.receptedGNSSdata.spkm
    rw [hnames] at hlen
    simp only [loraGnssMembers, headMembers, sensorMembers, List.cons_append, List.nil_append,
      List.map_cons, List.map_nil, List.sum_cons, List.sum_nil, length_quoted, htypeText] at hlen ⊢
    omega

/-! ## The metadata

  Their bounds are those of the gateway's own arrays, and are hypotheses: the identifier and the
  channels are constants of the gateway, the timestamps and the hash are printed by it. -/

/-- **The metadata are within their arrays**: 99 characters of an array of 100, a timestamp of at
    most 19, a hash of 44, an `int`. -/
structure Metadata.WithinBuffers (m : Metadata) : Prop where
  deviceIdentifier : m.deviceIdentifier.length ≤ 99
  urlPathChannel : m.urlPathChannel.length ≤ 99
  timestamp : m.timestamp.length ≤ 19
  timestampExpiration : m.timestampExpiration.length ≤ 19
  sequenceNumber : -2 ^ 31 ≤ m.sequenceNumber ∧ m.sequenceNumber < 2 ^ 31
  hashPrevJson : m.hashPrevJson.length ≤ 44

/-- Braces and a comma are one character each. -/
theorem length_brace : (ascii "\x7b").length = 1 ∧ (ascii "\x7d").length = 1 ∧
    (ascii ",").length = 1 := by decide +kernel

/-- **The intermediate JSON takes at most 399 bytes more than the text.** -/
theorem length_completeIntermediate_le (hP : P.Lawful) {m : Metadata} (hm : m.WithinBuffers)
    (text : Bytes) : (completeIntermediate P m text).length ≤ text.length + 399 := by
  obtain ⟨hopen, hclose, hcomma⟩ := length_brace
  have hlen := length_members (metadataMembers m (hashAndBase64 P text)) (by simp [metadataMembers])
  have hnames : namesLen ((metadataMembers m (hashAndBase64 P text)).map Prod.fst) = 48 := by
    show namesLen ["iss", "aud", "ias", "exp", "d", "seq", "prev"] = 48
    decide +kernel
  have hseq : (Stdio.intText m.sequenceNumber).length ≤ 11 :=
    Stdio.length_intText_le (k := 10) (by decide) (by
      obtain ⟨hlo, hhi⟩ := hm.sequenceNumber
      omega)
  have hiss := hm.deviceIdentifier
  have haud := hm.urlPathChannel
  have hias := hm.timestamp
  have hexp := hm.timestampExpiration
  have hprev := hm.hashPrevJson
  rw [hnames] at hlen
  simp only [metadataMembers, List.map_cons, List.map_nil, List.sum_cons, List.sum_nil,
    length_quoted, length_hashAndBase64 hP] at hlen
  simp only [completeIntermediate, metadataMembers, List.length_append, hopen, hclose, hcomma]
  omega

/-- Nothing is added where braces come off. -/
theorem length_stripBraces_le (s : Bytes) : (stripBraces s).length ≤ s.length := by
  unfold stripBraces
  split
  · simp only [List.length_dropLast, List.length_tail]
    omega
  · omega

/-- **The final JSON takes at most 56 bytes more than the intermediate one.** -/
theorem length_completeFinal_le (hP : P.Lawful) (m : Metadata) (text : Bytes) :
    (completeFinal P m text).length ≤ (completeIntermediate P m text).length + 56 := by
  obtain ⟨hopen, hclose, hcomma⟩ := length_brace
  have hcurr : (ascii "curr").length = 4 := by decide +kernel
  have hstrip := length_stripBraces_le (intermediateJson P m text)
  have hcut : (intermediateJson P m text).length ≤ (completeIntermediate P m text).length := by
    rw [intermediateJson_eq, printed, List.length_take]
    omega
  simp only [completeFinal, List.length_append, hopen, hclose, hcomma, length_member,
    length_quoted, hashCurrentJson, length_hashAndBase64 hP, hcurr]
  omega

/-! ## The request

  The request is read as a server reads it, up to the first empty line.  That this line is the one
  that the gateway meant is a property of the header: no line of it is empty before. -/

open SendingMessageThroughEthernet

/-- `HTTP_REQUEST_BUFFER_SIZE`. -/
abbrev httpRequestBufferSize : Nat := 2500

/-- What stands behind the first occurrence of a text. -/
def behind (pattern : Bytes) : Bytes → Option Bytes
  | [] => none
  | c :: s => if pattern.isPrefixOf (c :: s) then some ((c :: s).drop pattern.length)
      else behind pattern s

/-- The body of an HTTP request: what stands behind the first empty line. -/
def requestBody (request : Bytes) : Option Bytes := behind (ascii "\r\n\r\n") request

/-- The number its header announces. -/
def contentLength (request : Bytes) : Option Int :=
  ((behind (ascii "Content-Length: ") request).bind (Stdio.scanInt 64)).map Prod.fst

/-- A text that begins with a character is not found where the character is not. -/
theorem behind_skip {c : UInt8} {pattern x s : Bytes} (hx : c ∉ x) :
    behind (c :: pattern) (x ++ s) = behind (c :: pattern) s := by
  induction x with
  | nil => rfl
  | cons a x ih =>
    have hne : ¬ (c == a) = true := by
      intro heq
      exact hx (by rw [beq_iff_eq.mp heq]; exact List.mem_cons_self)
    rw [List.cons_append, behind, if_neg]
    · exact ih fun h => hx (List.mem_cons_of_mem a h)
    · rw [List.isPrefixOf, Bool.and_eq_true]
      exact fun h => hne h.1

/-- The empty line is not found at the end of a line that another follows. -/
theorem behind_line {x s : Bytes} (hx : 13 ∉ x) (hs : s.head? ≠ some 13) :
    behind (ascii "\r\n\r\n") (x ++ 13 :: 10 :: s) = behind (ascii "\r\n\r\n") s := by
  have hno : (ascii "\r\n\r\n").isPrefixOf (13 :: 10 :: s) = false := by
    cases s with
    | nil => rfl
    | cons c s =>
      have hne : ((13 : UInt8) == c) = false := by
        refine beq_eq_false_iff_ne.mpr fun h => hs ?_
        rw [← h]
        rfl
      show (true && (true && (((13 : UInt8) == c) && _))) = false
      rw [hne]
      rfl
  have hno' : (ascii "\r\n\r\n").isPrefixOf (10 :: s) = false := rfl
  refine (behind_skip hx).trans ?_
  show behind (ascii "\r\n\r\n") _ = _
  rw [behind, hno, behind, hno']
  rfl

/-- A line that begins with a letter is not empty. -/
theorem head_append {x s : Bytes} {c : UInt8} (hx : x.head? = some c) :
    (x ++ s).head? = some c := by
  rw [List.head?_append, hx]
  rfl

/-- The lines of a request. -/
theorem completeRequest_lines (payload : Bytes) : completeRequest payload =
    ascii "POST /7dafefff-6d11-4c3f-8d2d-eb084d109d4f HTTP/1.1" ++ 13 :: 10 ::
      (ascii "Host: webhook.site" ++ 13 :: 10 ::
      (ascii "Content-Type: text/plain" ++ 13 :: 10 ::
      ((ascii "Content-Length: " ++ Stdio.intText payload.length) ++ 13 :: 10 ::
      (ascii "Connection: close" ++ (ascii "\r\n\r\n" ++ payload))))) := by
  have h₁ : ascii "POST /7dafefff-6d11-4c3f-8d2d-eb084d109d4f HTTP/1.1\r\nHost: webhook.site\r\n"
      = ascii "POST /7dafefff-6d11-4c3f-8d2d-eb084d109d4f HTTP/1.1" ++ 13 :: 10 ::
        (ascii "Host: webhook.site" ++ [13, 10]) := by
    rw [ascii_ofList, ascii_ofList, ascii_ofList]
    rfl
  have h₂ : ascii "Content-Type: text/plain\r\nContent-Length: "
      = ascii "Content-Type: text/plain" ++ 13 :: 10 :: ascii "Content-Length: " := by
    rw [ascii_ofList, ascii_ofList, ascii_ofList]
    rfl
  have h₃ : ascii "\r\nConnection: close\r\n\r\n"
      = 13 :: 10 :: (ascii "Connection: close" ++ ascii "\r\n\r\n") := by
    rw [ascii_ofList, ascii_ofList, ascii_ofList]
    rfl
  simp only [completeRequest, h₁, h₂, h₃, List.append_assoc, List.cons_append, List.nil_append]

/-- **The header announces the length of the payload, and the body is the payload.** -/
theorem completeRequest_parts (payload : Bytes) (hlen : payload.length < 2 ^ 63) :
    contentLength (completeRequest payload) = some (payload.length : Int) ∧
      requestBody (completeRequest payload) = some payload := by
  have hdigits : (13 : UInt8) ∉ Stdio.intText payload.length := by
    intro hmem
    exact absurd (Stdio.intText_numeric _ _ hmem) (by unfold Stdio.Numeric; decide)
  have hscan : Stdio.scanInt 64 (Stdio.intText payload.length ++
      (ascii "\r\nConnection: close\r\n\r\n" ++ payload)) = some ((payload.length : Int), _) :=
    Stdio.scanInt_intText (by omega)
    (by show (payload.length : Int) < 2 ^ 63; omega)
    (fun c hc => by
      obtain rfl : 13 = c := Option.some.inj hc
      rfl)
  constructor
  · have hbehind : behind (ascii "Content-Length: ") (completeRequest payload)
        = some (Stdio.intText payload.length ++
            (ascii "\r\nConnection: close\r\n\r\n" ++ payload)) := by
      simp only [completeRequest, List.append_assoc]
      rfl
    rw [contentLength, hbehind, Option.bind_some, hscan]
    rfl
  · have hnumber : (13 : UInt8) ∉ ascii "Content-Length: " ++ Stdio.intText payload.length := by
      intro hmem
      rcases List.mem_append.mp hmem with hmem | hmem
      · exact absurd hmem (by decide)
      · exact hdigits hmem
    have hempty : behind (ascii "\r\n\r\n") (ascii "\r\n\r\n" ++ payload) = some payload := rfl
    have hhost : ∀ s, (ascii "Host: webhook.site" ++ s).head? ≠ some 13 := fun s => by
      rw [head_append (c := 72) (by decide)]
      decide +kernel
    have htype : ∀ s, (ascii "Content-Type: text/plain" ++ s).head? ≠ some 13 := fun s => by
      rw [head_append (c := 67) (by decide)]
      decide +kernel
    have hlength : ∀ n s, (ascii "Content-Length: " ++ n ++ s).head? ≠ some 13 := fun n s => by
      rw [head_append (head_append (c := 67) (by decide))]
      decide +kernel
    have hclose : ∀ s, (ascii "Connection: close" ++ s).head? ≠ some 13 := fun s => by
      rw [head_append (c := 67) (by decide)]
      decide +kernel
    -- four lines that another follows, and the empty one
    rw [requestBody, completeRequest_lines, behind_line (by decide) (hhost _),
      behind_line (by decide) (htype _), behind_line (by decide) (hlength _ _),
      behind_line hnumber (hclose _)]
    exact (behind_skip (x := ascii "Connection: close") (by decide)).trans hempty

/-- **The request takes at most 200 bytes more than its payload**, of at most 4 digits. -/
theorem length_completeRequest_le {payload : Bytes} (h : payload.length < 10 ^ 4) :
    (completeRequest payload).length ≤ payload.length + 200 := by
  have hnum := Stdio.length_intText_le (k := 4) (i := payload.length) (by decide) (by omega)
  have h₁ : (ascii "POST /7dafefff-6d11-4c3f-8d2d-eb084d109d4f HTTP/1.1\r\nHost: webhook.site\r\n").length
      = 73 := length_ascii _
  have h₂ : (ascii "Content-Type: text/plain\r\nContent-Length: ").length = 42 := length_ascii _
  have h₃ : (ascii "\r\nConnection: close\r\n\r\n").length = 23 := length_ascii _
  simp only [completeRequest, List.length_append, h₁, h₂, h₃]
  omega

/-! ## The result

  `NothingCut` says of every text that it fits, and of every text that is printed that it is the
  complete one.  The bounds alone would say less, for a text that is cut is short as well. -/

/-- What is sent for a message: the token of its JSON text, and a line feed. -/
def sentText (P : Primitives) (m : Metadata) (text : Bytes) : Bytes :=
  JWTManager.encodeJWT P (addMetaData P m text) ++ ascii "\n"

/-- **Nothing is cut** on the way of a message: the three JSON texts fit `messageBuffer`, the token
    with its line feed and NUL fits the gateway's array, the request fits its own, and its header
    announces the body that is in it.

    The `Whole` fields say the same of what `snprintf` leaves: each array holds its complete text,
    and the body of the request is the token. -/
structure NothingCut (F : Floats φ) (P : Primitives) (RSSI : Int32) (gatewayGNSSInfo : GNSSData φ)
    (g : Recepted φ) (m : Metadata) : Prop where
  payload : (completePayload F RSSI.toInt gatewayGNSSInfo g).length < sizeOfMessageBuffer
  intermediate : (completeIntermediate P m
    (payloadText F RSSI.toInt gatewayGNSSInfo g)).length < sizeOfMessageBuffer
  final : (completeFinal P m
    (payloadText F RSSI.toInt gatewayGNSSInfo g)).length < sizeOfMessageBuffer
  token : (sentText P m (payloadText F RSSI.toInt gatewayGNSSInfo g)).length + 1 ≤ messageBufferSize
  request : (completeRequest (sentText P m
    (payloadText F RSSI.toInt gatewayGNSSInfo g))).length + 1 ≤ httpRequestBufferSize
  contentLength : ∃ body,
    requestBody (httpRequest (sentText P m (payloadText F RSSI.toInt gatewayGNSSInfo g))) = some body ∧
      contentLength (httpRequest (sentText P m (payloadText F RSSI.toInt gatewayGNSSInfo g)))
        = some (body.length : Int)
  payloadWhole : payloadText F RSSI.toInt gatewayGNSSInfo g
    = completePayload F RSSI.toInt gatewayGNSSInfo g
  intermediateWhole : intermediateJson P m (payloadText F RSSI.toInt gatewayGNSSInfo g)
    = completeIntermediate P m (payloadText F RSSI.toInt gatewayGNSSInfo g)
  finalWhole : addMetaData P m (payloadText F RSSI.toInt gatewayGNSSInfo g)
    = completeFinal P m (payloadText F RSSI.toInt gatewayGNSSInfo g)
  requestWhole : httpRequest (sentText P m (payloadText F RSSI.toInt gatewayGNSSInfo g))
    = completeRequest (sentText P m (payloadText F RSSI.toInt gatewayGNSSInfo g))
  bodyWhole : requestBody (httpRequest (sentText P m (payloadText F RSSI.toInt gatewayGNSSInfo g)))
    = some (sentText P m (payloadText F RSSI.toInt gatewayGNSSInfo g))

/-- The parser takes at most nineteen characters of a string. -/
theorem shortStrings_of_accepted (hF : F.Lawful) {t : Bytes} {g g' : Recepted φ}
    (h : parseReceptedLoRaMessage F t g = (true, g')) : ShortStrings g' :=
  have hstrings := (accepted_strings hF h).2
  ⟨hstrings.1.1, hstrings.2.1⟩

/-- The payload of an accepted message is not cut. -/
theorem payloadText_accepted (hF : F.Lawful) {t : Bytes} {g g' : Recepted φ}
    (h : parseReceptedLoRaMessage F t g = (true, g')) (RSSI : Int32)
    (gatewayGNSSInfo : GNSSData φ) :
    payloadText F RSSI.toInt gatewayGNSSInfo g'
      = completePayload F RSSI.toInt gatewayGNSSInfo g' := by
  have hlen := length_completePayload_le hF RSSI gatewayGNSSInfo (shortStrings_of_accepted hF h)
  have hbuffer : sizeOfMessageBuffer = 2500 := rfl
  rw [payloadText_eq, printed_of_lt (by omega)]

/-- **No accepted message is cut anywhere.** -/
theorem fits_everywhere (F : Floats φ) (hF : F.Lawful) (P : Primitives) (hP : P.Lawful)
    (t : Bytes) (g g' : Recepted φ) (h : parseReceptedLoRaMessage F t g = (true, g'))
    (RSSI : Int32) (gatewayGNSSInfo : GNSSData φ) (m : Metadata) (hm : m.WithinBuffers) :
    NothingCut F P RSSI gatewayGNSSInfo g' m := by
  have hbuffer : sizeOfMessageBuffer = 2500 := rfl
  have hmessage : messageBufferSize = 2500 := rfl
  have hrequest : httpRequestBufferSize = 2500 := rfl
  -- bounds of the whole texts, one after the other: each is that of the one before and a constant
  have hpayload := length_completePayload_le hF RSSI gatewayGNSSInfo (shortStrings_of_accepted hF h)
  have htext := payloadText_accepted hF h RSSI gatewayGNSSInfo
  generalize htextDef : payloadText F RSSI.toInt gatewayGNSSInfo g' = text at htext
  have hinter := length_completeIntermediate_le hP hm text
  have hfinal := length_completeFinal_le hP m text
  rw [htext] at hinter
  have hjson : addMetaData P m text = completeFinal P m text := by
    rw [addMetaData_eq, printed_of_lt (by rw [htext] at hfinal ⊢; omega)]
  have hsent : (sentText P m text).length ≤ 1720 := by
    have hfeed : (ascii "\n").length = 1 := by decide +kernel
    rw [sentText, JWTManager.encodeJWT, List.length_append, CustomJWT.length_encodeJWT, hjson, hfeed]
    rw [htext] at hfinal ⊢
    omega
  have hlen : (completeRequest (sentText P m text)).length ≤ (sentText P m text).length + 200 :=
    length_completeRequest_le (by omega)
  -- and with room left everywhere, what is printed is the whole text
  have hwhole : httpRequest (sentText P m text) = completeRequest (sentText P m text) := by
    rw [httpRequest_eq]
    exact List.take_of_length_le (by omega)
  obtain ⟨hannounced, hbody⟩ := completeRequest_parts (sentText P m text) (by omega)
  rw [← htext] at hpayload hinter
  constructor
  · rw [← htext]
    omega
  · rw [htextDef]
    omega
  · rw [htextDef]
    omega
  · rw [htextDef]
    omega
  · rw [htextDef]
    omega
  · rw [htextDef, hwhole]
    exact ⟨_, hbody, hannounced⟩
  · rw [htextDef]
    exact htext
  · rw [htextDef, intermediateJson_eq, printed_of_lt (by omega)]
  · rw [htextDef]
    exact hjson
  · rw [htextDef]
    exact hwhole
  · rw [htextDef, hwhole]
    exact hbody

/-- The message of a tracker at rest, with the metadata of the first one. -/
theorem trackerMessage_fits :
    NothingCut .words .reference (-90) blankRecepted.receptedGNSSdata trackerRecepted firstMetadata :=
  fits_everywhere .words Floats.words_lawful .reference Primitives.reference_lawful trackerMessage
    blankRecepted trackerRecepted trackerMessage_accepted (-90) blankRecepted.receptedGNSSdata
    firstMetadata ⟨by decide, by decide, by decide, by decide, by decide, by decide⟩

end GatewayLoRa
