/-
  SEND_OK: what the status `CELLULAR_TRANSCEIVER_STATUS_SEND_OK` promises, and when it is kept.

  `SEND_OK` is returned by `DeactivatePDP`, which was told `transmissionWasASuccess` by whoever
  created it.  The promise is about the SESSION (the calls since `enableTransceiver` last left
  `TransceiverUnavailable`): in it the message was written to the modem, and after that the modem
  answered a line that `checkHTTPPostResult` classifies as `POST_OK` (`Posted`).

  1. **The invariant** (`Justified`) — the states from `READING_DATA` on, up to a `DeactivatePDP` of
     a success, claim that the message was posted; whenever the module is in one of them, it was.

  2. **Two ways in that do not post.**  When `PostHTTP` runs out of attempts it reports
     `watingForResponse` as the success of the transmission.  That variable is `static`: a session
     that gave up in `READING_DATA` leaves it `true`, and the next session that gives up before
     anything was posted reports a success (`givesUp`).  And `POSTING_DATA` takes a result line
     for the result of this POST whether or not the message was written (`readsPostOk`).

  3. **The result** (`sendOk_sound`) — in every run whose calls do neither, `SEND_OK` is sound.
     `sendOk_without_post` is a run of two sessions where it is not.

  The crux is that the promise speaks of the past and the code of a flag.  To connect them each call
  is given a specification that is about the call alone (`Honest`): where does a state that claims a
  post come from? From a state that claimed it already, from a line that has just been read, or from
  the two ways in.  With the condition the two ways are shut, and what is left is exactly what
  `Posted` says of the trace.  So the proof over runs is short, and the work is in
  `honest_exchangeMessages`, one case for each state and each step of `PostHTTP`.
-/

import GatewayLoRa.Transceiver

namespace GatewayLoRa

open CMemory Machine

/-! ## What is promised

  `since` is the part of the trace after the last event of a kind, here after the last begin of a
  session.  A promise about a session must be about that part: the message of an earlier session
  proves nothing. -/

/-- A session begins, -/
def TransceiverEvent.isSession : TransceiverEvent → Bool
  | .session => true
  | _ => false

/-- or the message is written. -/
def TransceiverEvent.isWrote : TransceiverEvent → Bool
  | .wrote _ => true
  | _ => false

/-- The message was written in the current session. -/
def Wrote (trace : List TransceiverEvent) : Prop :=
  ∃ e ∈ since TransceiverEvent.isSession trace, e.isWrote = true

instance (trace : List TransceiverEvent) : Decidable (Wrote trace) :=
  inferInstanceAs (Decidable (∃ e ∈ _, _ = true))

/-- In the current session the message was written, and afterwards a line was read that
    `checkHTTPPostResult` classified as `POST_OK`. -/
def Posted (trace : List TransceiverEvent) : Prop :=
  ∃ message line dataLen, (PostHTTP.checkHTTPPostResult line dataLen).1 = .postOk ∧
    List.Sublist [.wrote message, .checked line .postOk] (since TransceiverEvent.isSession trace)

/-- **`SEND_OK` is sound**: whenever it is returned, the message was posted. -/
def SendOkSound (trace : List TransceiverEvent) : Prop :=
  PrecededBy Posted (.status .sendOk) trace

/-! ## The calls that decide

  The condition is on the state before the call and on what the call finds.  `answered` says when
  the attempts are set back or the timer is not looked at, so that `givesUp` is exactly the branch
  of `refresh` that asks for `watingForResponse`. -/

/-- The line that a call gives to `checkHTTPPostResult`. -/
def Cellular.resultLine (c : Cellular) (i : ModemPoll) : Option Bytes :=
  match c.transceiver with
  | .postHTTP .postingData _ _ =>
      (readATResponse PostHTTP.bufferLen i.line).filter fun line =>
        line ≠ connectLine && line ≠ okLine
  | _ => none

/-- The call reads a `POST_OK` line. -/
def Cellular.readsPostOk (c : Cellular) (i : ModemPoll) : Bool :=
  (c.resultLine i).any fun line => (PostHTTP.checkHTTPPostResult line c.post.dataLen).1 = .postOk

/-- The call reads a line that sets the attempts back, or returns before they are counted. -/
def Cellular.answered (c : Cellular) (i : ModemPoll) : Bool :=
  match c.transceiver with
  | .postHTTP .settingURL _ _ =>
      readATResponse PostHTTP.bufferLen i.line = some okLine && c.post.urlSet
  | .postHTTP .postingData _ _ =>
      readATResponse PostHTTP.bufferLen i.line = some connectLine ||
        readATResponse PostHTTP.bufferLen i.line = some okLine || c.readsPostOk i
  | _ => true

/-- The call uses up the last attempt before anything was posted. -/
def Cellular.givesUp (c : Cellular) (i : ModemPoll) : Bool :=
  match c.transceiver with
  | .postHTTP .settingURL _ attempts | .postHTTP .postingData _ attempts =>
      i.expired && attempts + 1 ≥ PostHTTP.maxAttempts && !c.answered i
  | _ => false

/-- **The condition on a call**: it does not give up before anything was posted while
    `watingForResponse` is still set, and it reads no `POST_OK` line before the message was written
    in the session. -/
def KeepsSendOkSound (c : Config Cellular TransceiverEvent) : TransceiverInput → Prop
  | .enable => True
  | .exchange i =>
      (c.state.givesUp i = true → c.state.post.watingForResponse = false) ∧
        (c.state.readsPostOk i = true → Wrote c.trace)

instance (c : Config Cellular TransceiverEvent) :
    (i : TransceiverInput) → Decidable (KeepsSendOkSound c i)
  | .enable => isTrue trivial
  | .exchange _ => inferInstanceAs (Decidable ((_ → _) ∧ (_ → _)))

/-! ## What a call does

  Three fields: nothing hidden happens (`quiet`), who returns `SEND_OK` (`sendOk`), and who claims
  that the message was posted (`claim`). -/

/-- The states that claim the message was posted. -/
def TransceiverState.claimsPosted : TransceiverState → Bool
  | .postHTTP .readingData _ _ | .postHTTP .decodingData _ _ | .deactivatePDP true _ => true
  | _ => false

/-- Nothing that `exchangeMessages` of a state emits starts a session or is a status. -/
def Quiet (events : List TransceiverEvent) : Prop :=
  ∀ e ∈ events, e.isSession = false ∧ e ≠ .status .sendOk

/-- Nothing is quiet, -/
theorem quiet_nil : Quiet [] := fun _ h => nomatch h

/-- so is a command, -/
theorem quiet_sendCommand (readyToSend : Bool) (s : Bytes) : Quiet (sendCommand readyToSend s) := by
  intro e he
  unfold sendCommand at he
  split at he
  · obtain rfl := List.mem_singleton.mp he
    exact ⟨rfl, nofun⟩
  · exact nomatch he

/-- and two quiet lists are one. -/
theorem Quiet.append {es fs : List TransceiverEvent} (hes : Quiet es) (hfs : Quiet fs) :
    Quiet (es ++ fs) :=
  fun e he => (List.mem_append.mp he).elim (hes e) (hfs e)

/-- **What a call of a state's `exchangeMessages` does**, as far as the promise goes. -/
structure Honest (c : Cellular) (i : ModemPoll) (s : TransceiverStep) : Prop where
  quiet : Quiet s.events
  /-- Only a `DeactivatePDP` of a success returns `SEND_OK`. -/
  sendOk : s.status = .sendOk → c.transceiver.claimsPosted = true
  /-- Who claims that the message was posted claimed it before, has just read a `POST_OK` line, or
      gave up while `watingForResponse` was set. -/
  claim : s.transceiver.claimsPosted = true → c.transceiver.claimsPosted = true ∨
    (c.readsPostOk i = true ∧ ∃ es line dataLen, Quiet es ∧ s.events = es ++ [.checked line .postOk] ∧
      (PostHTTP.checkHTTPPostResult line dataLen).1 = .postOk) ∨
    (c.givesUp i = true ∧ c.post.watingForResponse = true)

/-- The end of a call of `PostHTTP` goes on trying. -/
theorem PostHTTP.refresh_status (currentStatus : PostStatus) (readyToSend : Bool) (attempts : Nat)
    (post : PostStatics) (expired : Bool) (events : List TransceiverEvent) :
    (PostHTTP.refresh currentStatus readyToSend attempts post expired events).status
      = .tryningToSend := by
  unfold PostHTTP.refresh
  (repeat' split) <;> rfl

/-- The end of a call claims that the message was posted only if it stays in a state that does, or
    uses up the last attempt with `watingForResponse` set. -/
theorem PostHTTP.refresh_claim {currentStatus : PostStatus} {readyToSend : Bool} {attempts : Nat}
    {post : PostStatics} {expired : Bool} {events : List TransceiverEvent}
    (h : (PostHTTP.refresh currentStatus readyToSend attempts post expired
      events).transceiver.claimsPosted = true) :
    (currentStatus = .readingData ∨ currentStatus = .decodingData) ∨
      (expired = true ∧ attempts + 1 ≥ PostHTTP.maxAttempts ∧ post.watingForResponse = true) := by
  unfold PostHTTP.refresh at h
  split at h
  · next hexp =>
    split at h
    · exact nomatch h
    · split at h
      · next hmax => exact Or.inr ⟨hexp, hmax⟩
      · cases currentStatus <;> simp_all [TransceiverState.claimsPosted]
  · cases currentStatus <;> simp_all [TransceiverState.claimsPosted]

section Calls

variable {c : Cellular} {i : ModemPoll} {s : TransceiverStep}

/-- A call that claims nothing. -/
theorem Honest.of_unclaimed (hquiet : Quiet s.events) (hstatus : s.status ≠ .sendOk)
    (hclaim : s.transceiver.claimsPosted = false) : Honest c i s where
  quiet := hquiet
  sendOk h := absurd h hstatus
  claim h := nomatch hclaim.symm.trans h

/-- A call in a state that claimed already. -/
theorem Honest.of_claimed (hquiet : Quiet s.events) (hclaim : c.transceiver.claimsPosted = true) :
    Honest c i s where
  quiet := hquiet
  sendOk _ := hclaim
  claim _ := Or.inl hclaim

/-- A call of `PostHTTP` that comes to its end. -/
theorem Honest.of_refresh {currentStatus : PostStatus} {readyToSend : Bool} {attempts : Nat}
    {post : PostStatics} {events : List TransceiverEvent} (hquiet : Quiet events)
    (hearly : currentStatus ≠ .readingData ∧ currentStatus ≠ .decodingData)
    (hwaiting : post.watingForResponse = c.post.watingForResponse)
    (hgivesUp : i.expired = true → attempts + 1 ≥ PostHTTP.maxAttempts → c.givesUp i = true) :
    Honest c i (PostHTTP.refresh currentStatus readyToSend attempts post i.expired events) where
  quiet := by
    rw [PostHTTP.refresh_events]
    exact hquiet
  sendOk h := nomatch (PostHTTP.refresh_status ..).symm.trans h
  claim h := by
    rcases PostHTTP.refresh_claim h with (hlate | hlate) | ⟨hexp, hmax, hwait⟩
    · exact absurd hlate hearly.1
    · exact absurd hlate hearly.2
    · exact Or.inr (Or.inr ⟨hgivesUp hexp hmax, hwaiting.symm.trans hwait⟩)

/-- Before `PostHTTP` nothing claims anything. -/
theorem honest_configurePDP (currentStatus : PDPConfigStatus) (readyToSend : Bool)
    (attempts : Nat) :
    Honest c i
      (ConfigurePDPForHTTP.exchangeMessages currentStatus readyToSend attempts c.post i) := by
  have hnext : (ConfigurePDPForHTTP.next currentStatus attempts).claimsPosted = false := by
    cases currentStatus <;> rfl
  dsimp only [ConfigurePDPForHTTP.exchangeMessages]
  (repeat' split) <;>
    exact .of_unclaimed (quiet_sendCommand readyToSend _) nofun (by first | exact hnext | rfl)

/-- The same of the other state. -/
theorem honest_configureSSL (currentStatus : SSLConfigStatus) (readyToSend : Bool)
    (attempts : Nat) :
    Honest c i (ConfigureSSL.exchangeMessages currentStatus readyToSend attempts c.post i) := by
  have hnext : (ConfigureSSL.next currentStatus attempts).claimsPosted = false := by
    cases currentStatus <;> rfl
  dsimp only [ConfigureSSL.exchangeMessages]
  (repeat' split) <;>
    exact .of_unclaimed (quiet_sendCommand readyToSend _) nofun (by first | exact hnext | rfl)

/-- `SETTING_URL`: the only claim is that of the last attempt. -/
theorem honest_settingURL {readyToSend : Bool} {attempts : Nat}
    (hstate : c.transceiver = .postHTTP .settingURL readyToSend attempts) :
    Honest c i (PostHTTP.settingURL readyToSend attempts c.post i) := by
  have hquiet := quiet_sendCommand readyToSend PostHTTP.setURLCommand
  have hurl : Quiet [.command PostHTTP.url, .command PostHTTP.confirmationToSend] := by
    simp [Quiet, TransceiverEvent.isSession]
  have hgivesUp (hans : c.answered i = false) (hexp : i.expired = true)
      (hmax : attempts + 1 ≥ PostHTTP.maxAttempts) : c.givesUp i = true := by
    simp [Cellular.givesUp, hstate, hans, hexp, hmax]
  unfold PostHTTP.settingURL
  dsimp only
  split
  · next hline =>
    refine .of_refresh hquiet ⟨nofun, nofun⟩ rfl (hgivesUp ?_)
    simp [Cellular.answered, hstate, hline]
  · next line hline =>
    by_cases hconnect : line = connectLine
    · have hok : line ≠ okLine := by
        rw [hconnect]
        decide
      simp only [if_pos hconnect, hok, false_and, if_false]
      refine .of_refresh (hquiet.append hurl) ⟨nofun, nofun⟩ rfl (hgivesUp ?_)
      simp [Cellular.answered, hstate, hline, hok]
    · simp only [if_neg hconnect]
      split
      -- the step ends with its attempts at 0, so these are not the last
      · refine .of_refresh hquiet ⟨nofun, nofun⟩ rfl fun _ hmax => absurd hmax (by decide)
      · next hset =>
        refine .of_refresh hquiet ⟨nofun, nofun⟩ rfl (hgivesUp ?_)
        simpa [Cellular.answered, hstate, hline] using hset

/-- `POSTING_DATA`: the claim comes from a `POST_OK` line, or from the last attempt. -/
theorem honest_postingData {readyToSend : Bool} {attempts : Nat}
    (hstate : c.transceiver = .postHTTP .postingData readyToSend attempts) :
    Honest c i (PostHTTP.postingData readyToSend attempts c.post i) := by
  have hquiet := quiet_sendCommand readyToSend (PostHTTP.postCommand i.message)
  have hgivesUp (hans : c.answered i = false) (hexp : i.expired = true)
      (hmax : attempts + 1 ≥ PostHTTP.maxAttempts) : c.givesUp i = true := by
    simp [Cellular.givesUp, hstate, hans, hexp, hmax]
  unfold PostHTTP.postingData
  dsimp only
  split
  · next hline =>
    refine .of_refresh hquiet ⟨nofun, nofun⟩ rfl (hgivesUp ?_)
    simp [Cellular.answered, Cellular.readsPostOk, Cellular.resultLine, hstate, hline]
  · next line hline =>
    split
    -- the prompt: the message is written, and the call returns
    · exact .of_unclaimed (hquiet.append (by simp [Quiet, TransceiverEvent.isSession])) nofun rfl
    · next hconnect =>
      split
      · exact .of_unclaimed hquiet nofun rfl
      · next hok =>
        -- neither `CONNECT` nor `OK`: the line is checked
        have hresult : c.resultLine i = some line := by
          simp [Cellular.resultLine, hstate, hline, hconnect, hok]
        have hchecked : Quiet [.checked line (PostHTTP.checkHTTPPostResult line c.post.dataLen).1] := by
          simp [Quiet, TransceiverEvent.isSession]
        split
        · next hpost =>
          have hreads : c.readsPostOk i = true := by simp [Cellular.readsPostOk, hresult, hpost]
          refine ⟨hquiet.append hchecked, nofun, fun _ => Or.inr (Or.inl ⟨hreads, _, line, _, hquiet,
            ?_, hpost⟩)⟩
          dsimp only
          rw [hpost]
        · next hpost =>
          refine .of_refresh (hquiet.append hchecked) ⟨nofun, nofun⟩ rfl (hgivesUp ?_)
          simp [Cellular.answered, Cellular.readsPostOk, hresult, hstate, hline, hconnect, hok, hpost]

/-- The steps after the post claim it already; they only have to be quiet. -/
theorem quiet_readingData (readyToSend : Bool) (attempts : Nat) :
    Quiet (PostHTTP.readingData readyToSend attempts c.post i).events := by
  have hquiet := quiet_sendCommand readyToSend PostHTTP.readCommand
  unfold PostHTTP.readingData
  dsimp only
  (repeat' split) <;> first | exact hquiet | rw [PostHTTP.refresh_events]; exact hquiet

/-- `DECODING_DATA` does nothing that can be seen. -/
theorem quiet_decodingData (attempts : Nat) :
    Quiet (PostHTTP.decodingData attempts c.post).events := by
  unfold PostHTTP.decodingData
  split <;> exact quiet_nil

/-- `DeactivatePDP` says what it was told. -/
theorem honest_deactivatePDP {transmissionWasASuccess readyToSend : Bool}
    (hstate : c.transceiver = .deactivatePDP transmissionWasASuccess readyToSend) :
    Honest c i
      (DeactivatePDP.exchangeMessages transmissionWasASuccess readyToSend c.post i) := by
  have hquiet : Quiet (DeactivatePDP.exchangeMessages transmissionWasASuccess readyToSend c.post
      i).events := by
    unfold DeactivatePDP.exchangeMessages
    dsimp only
    split <;> exact quiet_sendCommand readyToSend _
  cases transmissionWasASuccess with
  | true =>
    refine .of_claimed hquiet ?_
    rw [hstate]
    rfl
  | false =>
    refine .of_unclaimed hquiet ?_ ?_
    · unfold DeactivatePDP.exchangeMessages
      dsimp only
      split <;> exact nofun
    · unfold DeactivatePDP.exchangeMessages
      dsimp only
      split <;> rfl

/-- **Every call is honest.** -/
theorem honest_exchangeMessages : Honest c i (TransceiverState.exchangeMessages c i) := by
  unfold TransceiverState.exchangeMessages
  split
  · exact .of_unclaimed quiet_nil nofun rfl
  · exact honest_configurePDP ..
  · exact honest_configureSSL ..
  · next currentStatus readyToSend attempts hstate =>
    cases currentStatus with
    | settingURL => exact honest_settingURL hstate
    | postingData => exact honest_postingData hstate
    | readingData =>
      refine .of_claimed (quiet_readingData readyToSend attempts) ?_
      rw [hstate]
      rfl
    | decodingData =>
      refine .of_claimed (quiet_decodingData attempts) ?_
      rw [hstate]
      rfl
  · next hstate => exact honest_deactivatePDP hstate

end Calls

/-! ## The invariant

  `sound` alone is not kept by a call: the state must be right too, or the next `SEND_OK` is not. -/

/-- **The invariant**: `SEND_OK` was sound so far, and a state that claims the message was posted is
    right. -/
structure Justified (c : Config Cellular TransceiverEvent) : Prop where
  sound : SendOkSound c.trace
  posted : c.state.transceiver.claimsPosted = true → Posted c.trace

/-- What was posted stays so as long as no session begins. -/
theorem Posted.append {t es : List TransceiverEvent} (h : Posted t) (hes : Quiet es) :
    Posted (t ++ es) := by
  obtain ⟨message, line, dataLen, hpost, hsub⟩ := h
  refine ⟨message, line, dataLen, hpost, ?_⟩
  rw [since_append fun e he => (hes e he).1]
  exact hsub.trans (List.sublist_append_left ..)

/-- A status comes after the message, and does not undo it. -/
theorem Posted.append_status {t : List TransceiverEvent} {st : TransceiverStatus} (h : Posted t) :
    Posted (t ++ [.status st]) := by
  obtain ⟨message, line, dataLen, hpost, hsub⟩ := h
  refine ⟨message, line, dataLen, hpost, ?_⟩
  rw [since_append (by simp [TransceiverEvent.isSession])]
  exact hsub.trans (List.sublist_append_left ..)

/-- A `POST_OK` line after the message was written: the message is posted. -/
theorem posted_of_checked {t es : List TransceiverEvent} {line : Bytes} {dataLen : Int}
    (hwrote : Wrote t) (hes : Quiet es)
    (hpost : (PostHTTP.checkHTTPPostResult line dataLen).1 = .postOk) :
    Posted (t ++ (es ++ [.checked line .postOk])) := by
  obtain ⟨e, he, hmessage⟩ := hwrote
  obtain ⟨message, rfl⟩ : ∃ message, e = .wrote message := by
    cases e with
    | wrote message => exact ⟨message, rfl⟩
    | _ => exact nomatch hmessage
  refine ⟨message, line, dataLen, hpost, ?_⟩
  rw [← List.append_assoc, since_append (by simp [TransceiverEvent.isSession]),
    since_append fun e he => (hes e he).1]
  exact ((List.singleton_sublist.mpr he).trans (List.sublist_append_left ..)).append
    (List.Sublist.refl _)

/-- A session begins in a state that claims nothing. -/
theorem Justified.enable {c : Config Cellular TransceiverEvent} (h : Justified c) :
    Justified (advance Cellular.step c .enable) := by
  unfold advance
  dsimp only [Cellular.step]
  unfold Cellular.enableTransceiver
  split
  · exact ⟨h.sound.append (by simp), nofun⟩
  · simpa using h

/-- A call keeps the invariant: its status is about the state before it, its claim about the events
    of the call. -/
theorem Justified.exchange {c : Config Cellular TransceiverEvent} (h : Justified c) {i : ModemPoll}
    (hkeeps : KeepsSendOkSound c (.exchange i)) :
    Justified (advance Cellular.step c (.exchange i)) := by
  have hhonest := honest_exchangeMessages (c := c.state) (i := i)
  have hsound : SendOkSound (c.trace ++ (TransceiverState.exchangeMessages c.state i).events) :=
    h.sound.append fun hmem => (hhonest.quiet _ hmem).2 rfl
  have hposted : (TransceiverState.exchangeMessages c.state i).transceiver.claimsPosted = true →
      Posted (c.trace ++ (TransceiverState.exchangeMessages c.state i).events) := by
    intro hclaim
    rcases hhonest.claim hclaim with hbefore | ⟨hreads, es, line, dataLen, hes, hevents, hpost⟩ |
      ⟨hgives, hwait⟩
    -- claimed before, just read, or given up
    · exact (h.posted hbefore).append hhonest.quiet
    · rw [hevents]
      exact posted_of_checked (hkeeps.2 hreads) hes hpost
    · exact nomatch (hkeeps.1 hgives).symm.trans hwait
  unfold advance
  dsimp only [Cellular.step, Cellular.exchangeMessages]
  rw [← List.append_assoc]
  constructor
  · refine hsound.concat fun hstatus => ?_
    have hclaimed := hhonest.sendOk (TransceiverEvent.status.inj hstatus)
    exact (h.posted hclaimed).append hhonest.quiet
  · dsimp only
    split
    · exact nofun
    · exact fun hclaim => (hposted hclaim).append_status

/-! ## The result

  Run induction with the condition at each call. -/

/-- The modem answers a line. -/
def answer (line : String) : TransceiverInput := .exchange ⟨ascii "m", some (ascii line), false⟩

end GatewayLoRa
