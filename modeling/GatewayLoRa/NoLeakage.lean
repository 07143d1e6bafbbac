/-
  No leakage between trackers: what is sent for a message depends on that message and on the
  gateway, never on the messages before it.

  The members that hold the last message are overwritten in place.  The two formats fill different
  parts of them, a message that is rejected half-way leaves what it scanned, and the formatter reads
  another selection for each type.  So the statement compares TWO RUNS: two gateways that agree on
  what is their own (`SameOwnData`) and on nothing else receive the same text.

  1. **Acceptance** (`parse_accepted`) — whether a text is accepted does not depend on the members,
     and an accepted text stores the same values in any of them (`Stdio.sscanf_complete`).

  2. **What the formatter reads was stored** (`SameMessage`) — after an accepted text the two agree
     on every member that is printed for a message of its type.

  3. **The result** (`no_leakage`) — the JSON texts are the same, and so are the tokens.

  The crux is the comparison of the two selections.  The parser stores some members, by the format,
  and the formatter prints some, by the type; the statement holds because for each type the second
  selection lies within the first.  `Stores` (of `Stdio`) describes the first as an update of the
  store that is the same for every earlier store, so the two runs are compared member by member
  without looking at the text again.
-/

import GatewayLoRa.Gateway

namespace GatewayLoRa

open CMemory

variable {φ : Type}

/-! ## Accepted texts

  Two facts in one: acceptance depends on the text only, and an accepted text has carried out every
  conversion of its format. -/

/-- What an accepted LORAGNSS message leaves, from the store of its scan. -/
def Scan.acceptedGnss (s : Scan φ) : Recepted φ :=
  { s.copied .loraGnss with
    receptedGNSSdata := { (s.copied .loraGnss).receptedGNSSdata with timestamp := s.timestamp } }

/-- What an accepted LORALORA message leaves, from the store of its scan. -/
def Scan.acceptedLora (s : Scan φ) : Recepted φ :=
  { s.copied .loraLora with
    receptedImuData := { (s.copied .loraLora).receptedImuData with timestamp := s.timestamp } }

section Parse

variable {F : Floats φ} {text : Bytes}

/-- **A text that is accepted once is accepted always**, and the conversions of its format store the
    same values whatever was there before. -/
theorem parse_accepted {g : Recepted φ} (h : (parseReceptedLoRaMessage F text g).1 = true) :
    (∃ update, Stdio.Stores Scan.loraGnssFormat id update ∧ ∀ g',
      parseReceptedLoRaMessage F text g' = (true, (update (Scan.start g')).acceptedGnss)) ∨
    (∃ update, Stdio.Stores Scan.loraLoraFormat id update ∧ ∀ g',
      parseReceptedLoRaMessage F text g' = (true, (update (Scan.start g')).acceptedLora)) := by
  unfold parseReceptedLoRaMessage at h ⊢
  generalize Stdio.sscanf F.strtof [.field 15 44 fun x (_ : Bytes) => x] text [] = scan at h ⊢
  obtain ⟨n, pre⟩ := scan
  dsimp only at h ⊢
  by_cases hn : n ≠ 1
  · rw [if_pos hn] at h
    cases h
  rw [if_neg hn] at h
  by_cases hgnss : pre = ascii "LORAGNSS"
  · rw [if_pos hgnss] at h
    by_cases hcomplete : (Stdio.sscanf F.strtof Scan.loraGnssFormat text (Scan.start g)).1 = 19
    · obtain ⟨update, hstores, hscan⟩ := Stdio.sscanf_complete id hcomplete
      refine Or.inl ⟨update, hstores, fun g' => ?_⟩
      have hstart : Stdio.sscanf F.strtof Scan.loraGnssFormat text (Scan.start g') =
        (19, update (Scan.start g')) := hscan (Scan.start g')
      rw [if_neg hn, if_pos hgnss, hstart]
      exact if_pos rfl
    · rw [if_neg hcomplete] at h
      cases h
  rw [if_neg hgnss] at h
  by_cases hlora : pre = ascii "LORALORA"
  · rw [if_pos hlora] at h
    by_cases hcomplete : (Stdio.sscanf F.strtof Scan.loraLoraFormat text (Scan.start g)).1 = 13
    · obtain ⟨update, hstores, hscan⟩ := Stdio.sscanf_complete id hcomplete
      refine Or.inr ⟨update, hstores, fun g' => ?_⟩
      have hstart : Stdio.sscanf F.strtof Scan.loraLoraFormat text (Scan.start g') =
        (13, update (Scan.start g')) := hscan (Scan.start g')
      rw [if_neg hn, if_neg hgnss, if_pos hlora, hstart]
      exact if_pos rfl
    · rw [if_neg hcomplete] at h
      cases h
  · rw [if_neg hlora] at h
    cases h

end Parse

/-! ## What is printed of a message

  `SameMessage` is the formatter's selection.  A member that it does not mention may differ in the
  two gateways, and does, where only the other kind of message stores it. -/

/-- **The same message**, as far as the formatter shows one: the position and its time are those of
    the tracker only in a LORAGNSS message, the time of the motion is shown only in the other. -/
structure SameMessage (g₁ g₂ : Recepted φ) : Prop where
  type : g₁.receptedTypeMessage = g₂.receptedTypeMessage
  IMEI : g₁.IMEIRecepted = g₂.IMEIRecepted
  event : g₁.receptedTrackerEvent = g₂.receptedTrackerEvent
  battery : g₁.receptedBatteryData = g₂.receptedBatteryData
  motion : ∃ t, g₂.receptedImuData = { g₁.receptedImuData with timestamp := t }
  position : g₁.receptedTypeMessage = .loraGnss → g₁.receptedGNSSdata = g₂.receptedGNSSdata
  time : g₁.receptedTypeMessage = .loraLora →
    g₁.receptedImuData.timestamp = g₂.receptedImuData.timestamp

/-- The formatter prints the same for the same message. -/
theorem SameMessage.payloadText_eq {g₁ g₂ : Recepted φ} (h : SameMessage g₁ g₂) (F : Floats φ)
    (RSSI : Int) (position : GNSSData φ) :
    payloadText F RSSI position g₁ = payloadText F RSSI position g₂ := by
  obtain ⟨t, hmotion⟩ := h.motion
  have hsensor : sensorMembers F g₁ = sensorMembers F g₂ := by
    unfold sensorMembers
    rw [h.battery, hmotion]
  have hhead (type : String) : headMembers type RSSI g₁ = headMembers type RSSI g₂ := by
    unfold headMembers
    rw [h.IMEI, h.event]
  unfold payloadText
  rw [← h.type]
  cases htype : g₁.receptedTypeMessage with
  | loraLora =>
    show printed (members (loraLoraMembers F RSSI position g₁)) =
      printed (members (loraLoraMembers F RSSI position g₂))
    rw [loraLoraMembers, loraLoraMembers, hhead, hsensor, h.time htype]
  | loraGnss =>
    show printed (members (loraGnssMembers F RSSI g₁)) =
      printed (members (loraGnssMembers F RSSI g₂))
    rw [loraGnssMembers, loraGnssMembers, hhead, hsensor, h.position htype]

/-- A LORAGNSS scan stores everything that is printed of its message. -/
theorem sameMessage_gnss {update : Scan φ → Scan φ}
    (h : Stdio.Stores Scan.loraGnssFormat id update) (g₁ g₂ : Recepted φ) :
    SameMessage (update (Scan.start g₁)).acceptedGnss (update (Scan.start g₂)).acceptedGnss := by
  simp only [Scan.loraGnssFormat, Scan.motion, Scan.comma, Scan.IMEI, Scan.number,
    Scan.trackerEventField, Scan.gnss, Scan.timestampField, Scan.bat, Scan.charge, Scan.status,
    Scan.imu, List.cons_append, List.nil_append, Stdio.Stores] at h
  -- one value for each of the 19 conversions
  obtain ⟨imei, number, event, lat, long, hdop, alt, cog, spkm, time, bat, charge, status, ax, ay, az,
    yaw, roll, pitch, rfl⟩ := h
  exact ⟨rfl, rfl, rfl, rfl, ⟨_, rfl⟩, fun _ => rfl, nofun⟩

/-- A LORALORA scan stores everything that is printed of its message. -/
theorem sameMessage_lora {update : Scan φ → Scan φ}
    (h : Stdio.Stores Scan.loraLoraFormat id update) (g₁ g₂ : Recepted φ) :
    SameMessage (update (Scan.start g₁)).acceptedLora (update (Scan.start g₂)).acceptedLora := by
  simp only [Scan.loraLoraFormat, Scan.motion, Scan.comma, Scan.IMEI, Scan.number,
    Scan.trackerEventField, Scan.timestampField, Scan.bat, Scan.charge, Scan.status, Scan.imu,
    List.cons_append, List.nil_append, Stdio.Stores] at h
  -- one value for each of the 13 conversions
  obtain ⟨imei, number, event, bat, charge, time, status, ax, ay, az, yaw, roll, pitch, rfl⟩ := h
  exact ⟨rfl, rfl, rfl, rfl, ⟨_, rfl⟩, nofun, fun _ => rfl⟩

/-- **After the same accepted text the members show the same message.** -/
theorem parse_sameMessage {F : Floats φ} {text : Bytes} {g₁ : Recepted φ}
    (h : (parseReceptedLoRaMessage F text g₁).1 = true) (g₂ : Recepted φ) :
    SameMessage (parseReceptedLoRaMessage F text g₁).2 (parseReceptedLoRaMessage F text g₂).2 := by
  rcases parse_accepted h with ⟨update, hstores, hparse⟩ | ⟨update, hstores, hparse⟩
  · rw [hparse g₁, hparse g₂]
    exact sameMessage_gnss hstores g₁ g₂
  · rw [hparse g₁, hparse g₂]
    exact sameMessage_lora hstores g₁ g₂

/-! ## Two gateways

  The relation that two runs start from, and the result.  The statement quantifies over all gateways
  that agree on their own data, so whatever earlier messages could leave is among them. -/

/-- The two gateways agree on what is their own: the strength of the current packet, the position,
    the sequence number and the previous hash.  The identifier and the addresses are constants. -/
structure SameOwnData (g₁ g₂ : Gateway φ) : Prop where
  RSSI : g₁.RSSI = g₂.RSSI
  position : g₁.gatewayGNSSdata = g₂.gatewayGNSSdata
  number : g₁.chain.sequenceMessageNumber = g₂.chain.sequenceMessageNumber
  previous : g₁.chain.prevChainHash = g₂.chain.prevChainHash

variable (E : Platform φ)

/-- The gateway after `parseReceptedLoRaMessage`. -/
def Gateway.parsed (text : Bytes) (g : Gateway φ) : Gateway φ :=
  { g with recepted := (parseReceptedLoRaMessage E.floats text g.recepted).2 }

/-- The JSON text that `formatMessage` builds. -/
def Gateway.jsonText (currentStatus : GatewayStatus) (seconds : Int) (g : Gateway φ) : Bytes :=
  addMetaData E.primitives (g.metadata E currentStatus seconds)
    (payloadText E.floats g.RSSI g.gatewayGNSSdata g.recepted)

/-- **No leakage.**  Two gateways that agree on their own data and differ in anything that earlier
    messages left accept the same texts; of an accepted text they build the same JSON text, and hand
    on the same token, at the same time and in the same status. -/
theorem no_leakage (text : Bytes) (g₁ g₂ : Gateway φ) (hown : SameOwnData g₁ g₂)
    (haccepted : (parseReceptedLoRaMessage E.floats text g₁.recepted).1 = true)
    (currentStatus : GatewayStatus) (seconds : Int) :
    (parseReceptedLoRaMessage E.floats text g₂.recepted).1 = true ∧
    (g₁.parsed E text).jsonText E currentStatus seconds =
      (g₂.parsed E text).jsonText E currentStatus seconds ∧
    ((g₁.parsed E text).formatMessage E currentStatus seconds).1.bufferMessage =
      ((g₂.parsed E text).formatMessage E currentStatus seconds).1.bufferMessage := by
  have hmetadata : (g₁.parsed E text).metadata E currentStatus seconds =
      (g₂.parsed E text).metadata E currentStatus seconds := by
    simp only [Gateway.metadata, Gateway.parsed, hown.number, hown.previous]
  have htext : payloadText E.floats g₁.RSSI g₁.gatewayGNSSdata (g₁.parsed E text).recepted =
      payloadText E.floats g₂.RSSI g₂.gatewayGNSSdata (g₂.parsed E text).recepted := by
    rw [hown.RSSI, hown.position]
    have hsame := parse_sameMessage haccepted g₂.recepted
    exact hsame.payloadText_eq E.floats g₂.RSSI g₂.gatewayGNSSdata
  have hjson : (g₁.parsed E text).jsonText E currentStatus seconds =
      (g₂.parsed E text).jsonText E currentStatus seconds := by
    unfold Gateway.jsonText
    rw [hmetadata]
    exact congrArg (addMetaData E.primitives _) htext
  have haccepted₂ : (parseReceptedLoRaMessage E.floats text g₂.recepted).1 = true := by
    rcases parse_accepted haccepted with ⟨update, -, hparse⟩ | ⟨update, -, hparse⟩ <;> rw [hparse]
  refine ⟨haccepted₂, hjson, ?_⟩
  exact congrArg (fun json => JWTManager.encodeJWT E.primitives json ++ ascii "\n") hjson

/-- What a rejected message of another tracker may leave. -/
def otherRecepted : Recepted Int :=
  ⟨7, 9, ascii "FALL", ⟨1, 2, 3, 4, 5, 6, ascii "010101000000"⟩, ⟨2, 3⟩,
    ⟨1, 4, 5, 6, 7, 8, 9, ascii "020202000000"⟩, .loraGnss⟩

/-- The same text, received by a new gateway and by one that has the data of another tracker in its
    members. -/
theorem no_leakage_from_other_tracker :
    (parseReceptedLoRaMessage Floats.integers trackerMessage otherRecepted).1 = true ∧
    ((startedGateway.state.parsed .reference trackerMessage).jsonText .reference
        .receptedLoraLoraMessageTryingEthernet 0 =
      (({ startedGateway.state with recepted := otherRecepted } : Gateway Int).parsed .reference
        trackerMessage).jsonText .reference .receptedLoraLoraMessageTryingEthernet 0) ∧
    ((startedGateway.state.parsed .reference trackerMessage).formatMessage .reference
        .receptedLoraLoraMessageTryingEthernet 0).1.bufferMessage =
      ((({ startedGateway.state with recepted := otherRecepted } : Gateway Int).parsed .reference
        trackerMessage).formatMessage .reference
        .receptedLoraLoraMessageTryingEthernet 0).1.bufferMessage :=
  no_leakage .reference trackerMessage startedGateway.state
    { startedGateway.state with recepted := otherRecepted } ⟨rfl, rfl, rfl, rfl⟩
    (by decide) .receptedLoraLoraMessageTryingEthernet 0

end GatewayLoRa
