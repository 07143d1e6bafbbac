/-
  A silent modem: which transmissions come to an end when no line ever arrives.

  Each state of the transceiver repeats its command when the refresh timer runs out.
  `ConfigurePDPForHTTP` and `ConfigureSSL` count the attempts, report `FAIL_TO_ACTIVATE_PDP` after
  the twentieth, and with that status the module is reset.  `PostHTTP` counts them too, but when
  it gives up it goes on to `DeactivatePDP`, and `DeactivatePDP` counts nothing.

  1. **The states that count** (`within_of_configuring`) — the attempts that are left are a measure:
     a status that ends the transmission comes within `maxAttempts` calls.

  2. **The others** (`never_of_not_configuring`) — "the message was to be posted, or the context is
     to be taken down" is an invariant of silence, and the status stays `TRYNING_TO_SEND`.

  3. **The result** (`silent_modem_ends_iff`) — a reachable transmission ends on a silent modem if
     and only if it is still being configured.

  The crux is that silence is a fixed input, so that a run of silent calls is the iteration of one
  function, and both halves are about that function alone.  A measure that it decreases gives an
  end, by `within_of_measure`; an invariant that it keeps gives none.  What came before the silence
  does not matter, except through the state it left: a state of the first kind is never entered from
  one of the second without a new session.
-/

import GatewayLoRa.Transceiver

namespace GatewayLoRa

open CMemory Machine

/-- A status with which `ExchangingMessages` leaves its state. -/
def TransceiverStatus.Ends (s : TransceiverStatus) : Prop := s ≠ .tryningToSend ∧ s ≠ .unavaible

/-- One call of `CellularModule::exchangeMessages`, with the status it returns. -/
def Cellular.poll (c : Cellular) (i : ModemPoll) : Cellular × List TransceiverStatus :=
  ((c.step (.exchange i)).1, [(c.exchangeMessages i).status])

/-- What a call finds on a silent modem: no line, and the refresh timer run out. -/
def silentPoll (message : Bytes) : ModemPoll := ⟨message, none, true⟩

/-- Within `bound` calls on a silent modem a status is returned that ends the transmission. -/
def Cellular.EndsInSilence (bound : Nat) (message : Bytes) (c : Cellular) : Prop :=
  Within Cellular.poll TransceiverStatus.Ends (silentPoll message) bound c

/-- The transmission is still being configured. -/
def TransceiverState.isConfiguring : TransceiverState → Bool
  | .configurePDPForHTTP .. | .configureSSL .. => true
  | _ => false

/-- The message was to be posted, or the context is to be taken down. -/
def TransceiverState.isPosting : TransceiverState → Bool
  | .postHTTP .. | .deactivatePDP .. => true
  | _ => false

/-! ## The states that count their attempts

  `attemptsLeft` is the measure.  It is at most `maxAttempts - 1` whatever the state is, which is
  why the bound of twenty calls holds from every reachable one. -/

/-- The attempts that are left. -/
def TransceiverState.attemptsLeft : TransceiverState → Nat
  | .configurePDPForHTTP _ _ attempts => ConfigurePDPForHTTP.maxAttempts - 1 - attempts
  | .configureSSL _ _ attempts => ConfigureSSL.maxAttempts - 1 - attempts
  | _ => 0

/-- A silent call of a state that counts gives up, or uses an attempt.  The two states do it in the
    same way, each with its own constant. -/
theorem silentCall_configuring (message : Bytes) (c : Cellular)
    (hc : c.transceiver.isConfiguring = true) :
    (∃ s ∈ (c.poll (silentPoll message)).2, s.Ends) ∨
      ((c.poll (silentPoll message)).1.transceiver.isConfiguring = true ∧
        (c.poll (silentPoll message)).1.transceiver.attemptsLeft < c.transceiver.attemptsLeft) := by
  have hends (h : (c.exchangeMessages (silentPoll message)).status = .failToActivatePDP) :
      ∃ s ∈ (c.poll (silentPoll message)).2, s.Ends := by
    refine ⟨_, List.mem_singleton_self _, ?_⟩
    rw [h]
    exact ⟨nofun, nofun⟩
  obtain ⟨transceiver, post⟩ := c
  cases transceiver with
  | configurePDPForHTTP currentStatus readyToSend attempts =>
    by_cases hlast : attempts + 1 ≥ ConfigurePDPForHTTP.maxAttempts
    · apply Or.inl
      apply hends
      simp [Cellular.exchangeMessages, TransceiverState.exchangeMessages,
        ConfigurePDPForHTTP.exchangeMessages, silentPoll, readATResponse, hlast]
    · apply Or.inr
      simp only [silentPoll, Cellular.poll, Cellular.step, Cellular.exchangeMessages,
        TransceiverState.exchangeMessages, ConfigurePDPForHTTP.exchangeMessages, readATResponse,
        Option.map_none, Option.any_none, Option.isSome_none, Bool.false_and, if_neg hlast]
      refine ⟨rfl, ?_⟩
      show ConfigurePDPForHTTP.maxAttempts - 1 - (attempts + 1) <
        ConfigurePDPForHTTP.maxAttempts - 1 - attempts
      omega
  | configureSSL currentStatus readyToSend attempts =>
    by_cases hlast : attempts + 1 ≥ ConfigureSSL.maxAttempts
    · apply Or.inl
      apply hends
      simp [Cellular.exchangeMessages, TransceiverState.exchangeMessages,
        ConfigureSSL.exchangeMessages, silentPoll, readATResponse, hlast]
    · apply Or.inr
      simp only [silentPoll, Cellular.poll, Cellular.step, Cellular.exchangeMessages,
        TransceiverState.exchangeMessages, ConfigureSSL.exchangeMessages, readATResponse,
        Option.map_none, if_neg hlast]
      refine ⟨rfl, ?_⟩
      show ConfigureSSL.maxAttempts - 1 - (attempts + 1) < ConfigureSSL.maxAttempts - 1 - attempts
      omega
  | _ => cases hc

/-- **A transmission that is being configured ends within `maxAttempts` silent calls.** -/
theorem ends_of_configuring (message : Bytes) {c : Cellular}
    (hc : c.transceiver.isConfiguring = true) :
    c.EndsInSilence ConfigurePDPForHTTP.maxAttempts message := by
  have hwithin : Within Cellular.poll TransceiverStatus.Ends (silentPoll message)
      (c.transceiver.attemptsLeft + 1) c :=
    within_of_measure (m := fun c : Cellular => c.transceiver.attemptsLeft)
      (silentCall_configuring message) hc
  refine hwithin.mono ?_
  obtain ⟨transceiver, post⟩ := c
  cases transceiver with
  | configurePDPForHTTP _ _ attempts =>
    show 20 - 1 - attempts + 1 ≤ 20
    omega
  | configureSSL _ _ attempts =>
    show 20 - 1 - attempts + 1 ≤ 20
    omega
  | _ => cases hc

/-! ## The states that do not

  In silence `PostHTTP` stays, or goes to `DeactivatePDP`, and `DeactivatePDP` stays; none of it is
  a status with which the gateway leaves its own state. -/

/-- A silent call of the others is `TRYNING_TO_SEND`, and leads to one of them. -/
theorem silentCall_posting (message : Bytes) {c : Cellular}
    (hc : c.transceiver.isPosting = true) :
    (TransceiverState.exchangeMessages c (silentPoll message)).status = .tryningToSend ∧
      (TransceiverState.exchangeMessages c (silentPoll message)).transceiver.isPosting = true := by
  obtain ⟨transceiver, post⟩ := c
  -- each step of `PostHTTP` finds no line, and so comes to `refresh` with the timer run out
  have hrefresh (currentStatus : PostStatus) (attempts : Nat) (events : List TransceiverEvent) :
      (PostHTTP.refresh currentStatus false attempts post true events).status = .tryningToSend ∧
        (PostHTTP.refresh currentStatus false attempts post true events).transceiver.isPosting =
          true := by
    unfold PostHTTP.refresh
    rw [if_pos rfl]
    split
    · exact ⟨rfl, rfl⟩
    split <;> exact ⟨rfl, rfl⟩
  cases transceiver with
  | postHTTP currentStatus readyToSend attempts =>
    cases currentStatus with
    | settingURL => exact hrefresh _ _ (sendCommand readyToSend PostHTTP.setURLCommand)
    | postingData => exact hrefresh _ _ (sendCommand readyToSend (PostHTTP.postCommand message))
    | readingData => exact hrefresh _ _ (sendCommand readyToSend PostHTTP.readCommand)
    | decodingData =>
      show (PostHTTP.decodingData attempts post).status = _ ∧
        (PostHTTP.decodingData attempts post).transceiver.isPosting = true
      unfold PostHTTP.decodingData
      split <;> exact ⟨rfl, rfl⟩
  | deactivatePDP transmissionWasASuccess readyToSend => exact ⟨rfl, rfl⟩
  | _ => cases hc

/-- **Such a transmission never ends in silence.** -/
theorem never_of_posting (message : Bytes) {c : Cellular} (hc : c.transceiver.isPosting = true)
    (bound : Nat) : ¬ c.EndsInSilence bound message := by
  refine not_within (I := fun c : Cellular => c.transceiver.isPosting = true) ?_ hc bound
  intro c hc
  obtain ⟨hstatus, hposting⟩ := silentCall_posting message hc
  constructor
  · show (if (TransceiverState.exchangeMessages c (silentPoll message)).status ≠ .tryningToSend ∧
        (TransceiverState.exchangeMessages c (silentPoll message)).status ≠ .unavaible
      then TransceiverState.transceiverUnavailable
      else (TransceiverState.exchangeMessages c (silentPoll message)).transceiver).isPosting = true
    rw [if_neg fun h => h.1 hstatus]
    exact hposting
  · intro s hs hends
    obtain rfl := List.mem_singleton.mp hs
    exact hends.1 hstatus

/-! ## The result

  A state is of one kind or the other, and there is no third but `TransceiverUnavailable`. -/

/-- **On a silent modem a reachable transmission ends if and only if it is still being configured**:
    then within twenty calls, otherwise never, whatever came before. -/
theorem silent_modem_ends_iff (is : List TransceiverInput) (message : Bytes)
    (hsession : (run Cellular.step ⟨.initial, []⟩ is).state.transceiver ≠
      .transceiverUnavailable) :
    let c := (run Cellular.step ⟨.initial, []⟩ is).state
    (c.EndsInSilence 20 message ↔ c.transceiver.isConfiguring = true) ∧
      ∀ bound, c.EndsInSilence bound message → c.EndsInSilence 20 message := by
  intro c
  cases hconfiguring : c.transceiver.isConfiguring with
  | true =>
    have hends : c.EndsInSilence 20 message := ends_of_configuring message hconfiguring
    exact ⟨iff_of_true hends rfl, fun _ _ => hends⟩
  | false =>
    have hposting : c.transceiver.isPosting = true := by
      cases h : c.transceiver with
      | transceiverUnavailable => exact absurd h hsession
      | configurePDPForHTTP => rw [h] at hconfiguring; cases hconfiguring
      | configureSSL => rw [h] at hconfiguring; cases hconfiguring
      | postHTTP => rfl
      | deactivatePDP => rfl
    have hnever := never_of_posting message hposting
    exact ⟨iff_of_false (hnever 20) nofun, fun bound h => absurd h (hnever bound)⟩

/-- A transmission that has just begun ends. -/
theorem enabled_ends_in_silence :
    let c := (run Cellular.step ⟨.initial, []⟩ [.enable]).state
    (c.EndsInSilence 20 [] ↔ c.transceiver.isConfiguring = true) ∧
      ∀ bound, c.EndsInSilence bound [] → c.EndsInSilence 20 [] :=
  silent_modem_ends_iff [.enable] [] (by decide)

/-- The calls of a transmission up to the setting of the URL: the modem answers each with `OK`. -/
def answersUpToURL : List TransceiverInput :=
  .enable :: List.replicate 8 (.exchange ⟨[], some okLine, false⟩)

/-- **No bound is one for every reachable transmission**: once the URL is to be set, a modem that
    falls silent is waited for forever. -/
theorem no_bound_in_silence :
    ¬ ∃ bound, ∀ (is : List TransceiverInput) (message : Bytes),
      (run Cellular.step ⟨.initial, []⟩ is).state.transceiver ≠ .transceiverUnavailable →
        (run Cellular.step ⟨.initial, []⟩ is).state.EndsInSilence bound message := by
  rintro ⟨bound, hbound⟩
  have hposting : (run Cellular.step ⟨.initial, []⟩ answersUpToURL).state.transceiver =
      .postHTTP .settingURL true 0 := by
    decide
  refine never_of_posting [] (c := (run Cellular.step ⟨.initial, []⟩ answersUpToURL).state) ?_ bound
    (hbound answersUpToURL [] ?_)
  · rw [hposting]
    rfl
  · rw [hposting]
    exact nofun

end GatewayLoRa
