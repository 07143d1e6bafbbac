/-
  What a success of Ethernet promises: the server was sent the whole request and answered.

  `exchangeMessagesThroughEthernet` goes back to `SensingBatteryStatus`, and so drops the message,
  when it thinks that the message was delivered.  Its two loops end on a result that is not
  positive, and only a NEGATIVE one is taken for a failure.

  1. **The loop over `send`** (`sendLoop_whole`, `sendLoop_refused`) — it accepts the whole request
     if the counts before the first refusal add up to its length; otherwise its last result is that
     refusal, which is 0 or an error.

  2. **The result** (`ethernet_sound_iff`) — in every reachable state the promise is kept if and only
     if the session is not one in which a 0 passes for a success (`PassesZero`).  Whatever else
     happens, the message goes on to the mobile network, or a refused connection is tried again.

  The crux is that both loops can be summed up by two numbers: how much `send` counts before it
  refuses, and what the refusal is.  With these the condition speaks of the answers of the socket
  and not of the loop, and the equivalence is a matter of comparing them (`delivers_iff`).  That the
  message goes on otherwise needs the run: it is true only of a status that says what is being
  tried, and `statusMatches_run` knows that the status of a reachable state does.
-/

import GatewayLoRa.RelayCycle

namespace GatewayLoRa

open CMemory Machine

namespace SendingMessageThroughEthernet

/-! ## The loop over `send`

  `acceptedBytes` follows the loop with the bytes in hand, `sendLoop` is the loop as the code has
  it, with a count.  The source computes the position from the count; so they go through the list of
  results in step. -/

/-- The text of the HTTP request; the array it is printed into takes 2499 bytes of it. -/
def completeRequest (payload : Bytes) : Bytes :=
  ascii "POST /7dafefff-6d11-4c3f-8d2d-eb084d109d4f HTTP/1.1\r\nHost: webhook.site\r\n" ++
    ascii "Content-Type: text/plain\r\nContent-Length: " ++ Stdio.intText payload.length ++
    ascii "\r\nConnection: close\r\n\r\n" ++ payload

/-- The request is the text, cut. -/
theorem httpRequest_eq (payload : Bytes) :
    httpRequest payload = (completeRequest payload).take 2499 := rfl

/-- The bytes that the calls of `send` accept, of what remains of the request. -/
def acceptedBytes : Bytes → List Int → Bytes
  | _, [] => []
  | remaining, result :: sends =>
      if result > 0 then
        remaining.take result.toNat ++
          if remaining.length ≤ result.toNat then []
          else acceptedBytes (remaining.drop result.toNat) sends
      else []

/-- The counts of `send` before its first refusal, added up. -/
def countBeforeRefusal : List Int → Nat
  | [] => 0
  | result :: sends => if result > 0 then result.toNat + countBeforeRefusal sends else 0

/-- The first result of `send` that is not positive: an error, or 0. -/
def firstRefusal (sends : List Int) : Int := (sends.find? (· ≤ 0)).getD 0

/-- A refusal is 0 or negative. -/
theorem firstRefusal_nonpos (sends : List Int) : firstRefusal sends ≤ 0 := by
  unfold firstRefusal
  cases h : sends.find? (· ≤ 0) with
  | none => exact Int.le_refl 0
  | some result =>
    have hresult := List.find?_some h
    simpa using hresult

/-- **Enough counts before the first refusal**: everything is accepted. -/
theorem sendLoop_whole {remaining : Bytes} {sends : List Int} (hne : remaining ≠ [])
    (h : remaining.length ≤ countBeforeRefusal sends) :
    0 < sendLoop remaining.length sends ∧ acceptedBytes remaining sends = remaining := by
  induction sends generalizing remaining with
  | nil =>
    have hempty : remaining.length = 0 := Nat.le_zero.mp h
    exact absurd (List.length_eq_zero_iff.mp hempty) hne
  | cons result sends ih =>
    rw [countBeforeRefusal] at h
    rw [sendLoop, acceptedBytes]
    by_cases hpos : result > 0
    · rw [if_pos hpos] at h ⊢
      rw [if_pos hpos]
      by_cases hlast : remaining.length ≤ result.toNat
      · rw [if_pos hlast, if_pos hlast, List.append_nil]
        exact ⟨hpos, List.take_of_length_le hlast⟩
      · rw [if_neg hlast, if_neg hlast]
        have hlen : (remaining.drop result.toNat).length = remaining.length - result.toNat :=
          List.length_drop
        have hrest := @ih (remaining.drop result.toNat)
          (fun hnil => by rw [hnil, List.length_nil] at hlen; omega) (by omega)
        rw [hlen] at hrest
        refine ⟨hrest.1, ?_⟩
        rw [hrest.2, List.take_append_drop]
    · rw [if_neg hpos] at h
      exact absurd (List.length_eq_zero_iff.mp (Nat.le_zero.mp h)) hne

/-- **Too few of them**: the loop ends with the refusal, and bytes are left. -/
theorem sendLoop_refused {remaining : Bytes} {sends : List Int}
    (h : countBeforeRefusal sends < remaining.length) :
    sendLoop remaining.length sends = firstRefusal sends ∧
      (acceptedBytes remaining sends).length < remaining.length := by
  induction sends generalizing remaining with
  | nil => exact ⟨rfl, h⟩
  | cons result sends ih =>
    rw [countBeforeRefusal] at h
    rw [sendLoop, acceptedBytes]
    by_cases hpos : result > 0
    · rw [if_pos hpos] at h ⊢
      have hmore : ¬ remaining.length ≤ result.toNat := by omega
      have hlen : (remaining.drop result.toNat).length = remaining.length - result.toNat :=
        List.length_drop
      have hrest := @ih (remaining.drop result.toNat) (by omega)
      rw [hlen] at hrest
      rw [if_pos hpos, if_neg hmore, if_neg hmore]
      constructor
      · have hskip : firstRefusal (result :: sends) = firstRefusal sends := by
          have hle : ¬ result ≤ 0 := by omega
          simp [firstRefusal, hle]
        rw [hskip]
        exact hrest.1
      · rw [List.length_append, List.length_take]
        omega
    · rw [if_neg hpos] at h ⊢
      have hle : result ≤ 0 := by omega
      rw [if_neg hpos]
      exact ⟨by simp [firstRefusal, hle], h⟩

/-- There is always something to send. -/
theorem httpRequest_ne_nil (payload : Bytes) : httpRequest payload ≠ [] := by
  have hhead : (httpRequest payload).head? = some 80 := rfl
  intro hnil
  rw [hnil] at hhead
  cases hhead

end SendingMessageThroughEthernet

open SendingMessageThroughEthernet

/-! ## The promise

  It has two halves.  A success is one of delivery; and whatever is not a success leaves the message
  where it will be sent in another way. -/

variable {φ : Type}

/-- The message was delivered in the session: every byte of the request was accepted by `send`, and
    at least one byte of a response was received, without an error. -/
structure TcpSession.Delivers (s : TcpSession) (payload : Bytes) : Prop where
  sent : acceptedBytes (httpRequest payload) s.sends = completeRequest payload
  received : ∃ r ∈ s.recvs, 0 < r
  noError : ∀ r ∈ s.recvs, 0 ≤ r

/-- **Success is sound** in a call that leaves the gateway in `state'`: it is claimed only for a
    message that was delivered, and without it the message goes on to the mobile network; a refused
    connection that may be tried again is no end. -/
structure EthernetSound (s : TcpSession) (payload : Bytes) (n : Nat) (st : GatewayStatus)
    (state' : GatewayState) : Prop where
  success : state' = .sensingBatteryStatus → s.Delivers payload
  otherwise : state' ≠ .sensingBatteryStatus →
    (∃ t : ReceptedTypeMessage, st = t.tryingEthernet ∧
      state' = .connectingToMobileNetwork t.tryingMobileNetwork) ∨
    (s.Retries n ∧ state' = .sendingMessageThroughEthernet (n + 1) st)

/-- **A 0 passes for a success**: the socket opens and connects, no call reports an error, the server
    answers in time; but a call of `send` returns 0 while a part of the request is left, or no call
    of `recv` returns a byte, or the request was cut to its array. -/
structure TcpSession.PassesZero (s : TcpSession) (payload : Bytes) : Prop where
  opened : s.openResult = 0
  connected : s.connectResult = 0
  noSendError : countBeforeRefusal s.sends < (httpRequest payload).length → firstRefusal s.sends = 0
  answered : s.answered = true
  noRecvError : ∀ r ∈ s.recvs, 0 ≤ r
  zero : (countBeforeRefusal s.sends < (httpRequest payload).length ∧ firstRefusal s.sends = 0) ∨
    (∀ r ∈ s.recvs, r = 0) ∨ 2499 < (completeRequest payload).length

/-! ## When it is kept

  First for a session alone, then in a reachable state. -/

section Sound

variable {s : TcpSession} {payload : Bytes}

/-- What the loop leaves is at least 0 unless an error came before the whole was accepted. -/
theorem sent_iff (s : TcpSession) (payload : Bytes) :
    0 ≤ sendLoop (httpRequest payload).length s.sends ↔
      (countBeforeRefusal s.sends < (httpRequest payload).length → firstRefusal s.sends = 0) := by
  by_cases h : countBeforeRefusal s.sends < (httpRequest payload).length
  · rw [(sendLoop_refused h).1]
    have hnonpos := firstRefusal_nonpos s.sends
    constructor
    · intro hge _
      omega
    · intro hzero
      exact Int.le_of_eq (hzero h).symm
  · have hwhole := sendLoop_whole (httpRequest_ne_nil payload) (Nat.le_of_not_lt h)
    exact ⟨fun _ hless => absurd hless h, fun _ => Int.le_of_lt hwhole.1⟩

/-- The whole request was accepted if the counts add up to it and it was not cut. -/
theorem accepted_iff (s : TcpSession) (payload : Bytes) :
    acceptedBytes (httpRequest payload) s.sends = completeRequest payload ↔
      (httpRequest payload).length ≤ countBeforeRefusal s.sends ∧
        (completeRequest payload).length ≤ 2499 := by
  have hcut : (httpRequest payload).length = min 2499 (completeRequest payload).length := by
    rw [httpRequest_eq, List.length_take]
  constructor
  · intro haccepted
    by_cases h : countBeforeRefusal s.sends < (httpRequest payload).length
    · have hshort := (sendLoop_refused h).2
      rw [haccepted] at hshort
      omega
    · have henough := Nat.le_of_not_lt h
      have hwhole := (sendLoop_whole (httpRequest_ne_nil payload) henough).2
      rw [hwhole] at haccepted
      rw [haccepted] at hcut
      exact ⟨by omega, by omega⟩
  · rintro ⟨henough, hfits⟩
    rw [(sendLoop_whole (httpRequest_ne_nil payload) henough).2, httpRequest_eq]
    exact List.take_of_length_le hfits

/-- A session that the code takes for a success delivers the message unless a 0 passed for one. -/
theorem TcpSession.Succeeds.delivers_iff (h : s.Succeeds payload) :
    s.Delivers payload ↔ ¬ s.PassesZero payload := by
  have hsent := (sent_iff s payload).mp h.sent
  constructor
  · intro hdelivers hpasses
    obtain ⟨henough, hfits⟩ := (accepted_iff s payload).mp hdelivers.sent
    rcases hpasses.zero with ⟨hless, -⟩ | hzero | hlong
    · omega
    · obtain ⟨r, hr, hpos⟩ := hdelivers.received
      have := hzero r hr
      omega
    · omega
  · intro hnot
    have hclean : ¬ ((countBeforeRefusal s.sends < (httpRequest payload).length ∧
        firstRefusal s.sends = 0) ∨ (∀ r ∈ s.recvs, r = 0) ∨
        2499 < (completeRequest payload).length) := fun hzero =>
      hnot ⟨h.opened, h.connected, hsent, h.answered, h.received, hzero⟩
    rw [not_or, not_or] at hclean
    obtain ⟨hstalls, hbyte, hlong⟩ := hclean
    refine ⟨(accepted_iff s payload).mpr ⟨?_, by omega⟩, ?_, h.received⟩
    · apply Nat.le_of_not_lt
      intro hless
      exact hstalls ⟨hless, hsent hless⟩
    · obtain ⟨r, hr, hne⟩ : ∃ r ∈ s.recvs, r ≠ 0 := by simpa using hbyte
      have := h.received r hr
      exact ⟨r, hr, by omega⟩

/-- A session in which a 0 passes for a success is taken for one. -/
theorem TcpSession.PassesZero.succeeds (h : s.PassesZero payload) : s.Succeeds payload :=
  ⟨h.opened, h.connected, (sent_iff s payload).mpr h.noSendError, h.answered, h.noRecvError⟩

end Sound

/-- **Success of Ethernet is sound, in every reachable state, if and only if the session is not one
    in which a 0 passes for a success**: for every behaviour of the socket and of the clock. -/
theorem ethernet_sound_iff (E : Platform φ) (recepted : Recepted φ) (RSSI : Int)
    (position : GNSSData φ) (startTime : UInt64) (is : List (Call φ)) (n : Nat) (st : GatewayStatus)
    (s : TcpSession)
    (hstate : (run (call E) ⟨.initial recepted RSSI position startTime, []⟩ is).state.currentState =
      .sendingMessageThroughEthernet n st) :
    let g := (run (call E) ⟨.initial recepted RSSI position startTime, []⟩ is).state
    EthernetSound s g.bufferMessage n st
        (call E g (.exchangeMessagesThroughEthernet s)).1.currentState ↔
      ¬ s.PassesZero g.bufferMessage := by
  intro g
  have hmatches := statusMatches_run (E := E)
    (c := ⟨.initial recepted RSSI position startTime, []⟩) trivial is
  rw [hstate] at hmatches
  obtain ⟨t, -, rfl⟩ := hmatches
  have hcall : call E g (.exchangeMessagesThroughEthernet s) =
      g.exchangeMessagesThroughEthernet n t.tryingEthernet s := by
    simp only [call, show g.currentState = _ from hstate]
  rw [hcall]
  rcases attempt_cases (g := g) t n s with ⟨hfails, hmobile⟩ | ⟨hsucceeds, hsensing⟩ |
    ⟨hretries, hagain⟩
  · -- the attempt fails: the message goes on to the mobile network
    rw [hmobile]
    refine iff_of_true ⟨fun h => by (cases h), fun _ => Or.inl ⟨t, rfl, rfl⟩⟩ fun hpasses => ?_
    exact hfails.not_succeeds hpasses.succeeds
  · rw [hsensing, ← hsucceeds.delivers_iff]
    constructor
    · intro hsound
      exact hsound.success rfl
    · intro hdelivers
      exact ⟨fun _ => hdelivers, fun hne => absurd rfl hne⟩
  · -- the connection was refused, and is tried again
    rw [hagain]
    refine iff_of_true ⟨fun h => by (cases h), fun _ => Or.inr ⟨hretries, rfl⟩⟩ fun hpasses => ?_
    exact hretries.unconnected hpasses.connected

/-! ## A stalled `send`

  The shortest session that breaks the promise: one 0 from `send`, and a server that answers a
  connection without a request. -/

/-- The calls that bring a gateway from its start to the sending of a message through Ethernet. -/
def sendsThroughEthernet : List (Call Int) :=
  accepts ++ acknowledges ++
    [.connectEthernetToLocalNetwork 0, .queryUTCTimeViaRemoteServer, .formatMessage 0]

/-- The socket takes nothing of the request, and the server reports that none came. -/
def stalledSession : TcpSession := ⟨0, 0, [0], true, [10]⟩

/-- The calls bring the gateway to the sending. -/
theorem sendsThroughEthernet_state :
    (run (call .reference) ⟨.initial nothingRecepted 0 origin 0, []⟩
      sendsThroughEthernet).state.currentState =
        .sendingMessageThroughEthernet 0 .receptedLoraLoraMessageTryingEthernet := by
  decide +kernel

/-- The equivalence for this session: both sides are false. -/
theorem ethernet_sound_stalled :
    let g := (run (call .reference) ⟨.initial nothingRecepted 0 origin 0, []⟩
      sendsThroughEthernet).state
    EthernetSound stalledSession g.bufferMessage 0 .receptedLoraLoraMessageTryingEthernet
        (call .reference g (.exchangeMessagesThroughEthernet stalledSession)).1.currentState ↔
      ¬ stalledSession.PassesZero g.bufferMessage :=
  ethernet_sound_iff .reference nothingRecepted 0 origin 0 sendsThroughEthernet 0
    .receptedLoraLoraMessageTryingEthernet stalledSession sendsThroughEthernet_state

/-- In whatever state it is met, the session is taken for a success. -/
theorem stalledSession_not_sound {E : Platform φ} {g : Gateway φ} {n : Nat} {st : GatewayStatus}
    (hstate : g.currentState = .sendingMessageThroughEthernet n st) :
    (call E g (.exchangeMessagesThroughEthernet stalledSession)).1.currentState =
        .sensingBatteryStatus ∧
      ¬ EthernetSound stalledSession g.bufferMessage n st
        (call E g (.exchangeMessagesThroughEthernet stalledSession)).1.currentState := by
  have hsensing : (call E g (.exchangeMessagesThroughEthernet stalledSession)).1.currentState =
      .sensingBatteryStatus := by
    simp only [call, hstate]
    rfl
  refine ⟨hsensing, fun hsound => ?_⟩
  have hsent : [] = completeRequest g.bufferMessage := (hsound.success hsensing).sent
  have hhead : (completeRequest g.bufferMessage).head? = some 80 := rfl
  rw [← hsent] at hhead
  cases hhead

/-- **Not a byte was accepted, and the gateway drops the message.** -/
theorem stalled_send_drops_message :
    let g := (run (call .reference) ⟨.initial nothingRecepted 0 origin 0, []⟩
      sendsThroughEthernet).state
    g.currentState = .sendingMessageThroughEthernet 0 .receptedLoraLoraMessageTryingEthernet ∧
      (call .reference g (.exchangeMessagesThroughEthernet stalledSession)).1.currentState =
        .sensingBatteryStatus ∧
      ¬ EthernetSound stalledSession g.bufferMessage 0 .receptedLoraLoraMessageTryingEthernet
        (call .reference g (.exchangeMessagesThroughEthernet stalledSession)).1.currentState :=
  ⟨sendsThroughEthernet_state, stalledSession_not_sound sendsThroughEthernet_state⟩

end GatewayLoRa
