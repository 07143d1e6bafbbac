/-
  The commands of the HTTP session, and the arrays that they are printed into.

  Every call of `PostHTTP::exchangeMessages` prints its three commands with `sprintf` before it looks
  at its state, each into an array of the length of the command's name and a few bytes more.  Two of
  the commands are always the same.  The third one, `AT+QHTTPPOST`, names the length of the message,
  and with the two timeouts and the NUL its array has room for THREE digits.

  A message of a thousand characters or more overruns it: `commands_fit_iff`.  For the messages that
  `FormattingMessage` leaves this is a JSON text of more than 686 bytes
  (`formatted_commands_fit_iff`), which a tracker at rest does not reach and large floats do:
  `largeFloats_overrun`.

  The arithmetic is in one place, the digits of a length (`postCommand_fits_iff`).  That these
  commands are all that matters is a case analysis of the states of `PostHTTP`: whatever a call
  sends is a text that it printed, or the URL, or the byte that ends the typing
  (`sendable_of_exchangeMessages`).
-/

import GatewayLoRa.Lib.FixedPoint
import GatewayLoRa.MessageLengths

namespace GatewayLoRa

open CMemory

/-- A text that is printed into an array of `size` bytes. -/
structure PrintedCommand where
  size : Nat
  text : Bytes
  deriving DecidableEq

/-- The text and its NUL are within the array. -/
def PrintedCommand.Fits (c : PrintedCommand) : Prop := c.text.length + 1 ≤ c.size

namespace PostHTTP

/-- **What a call prints first**, whatever its state: `StringToSend1`, `StringToSend2` and
    `StringToSend3`. -/
def printedCommands (message : Bytes) : List PrintedCommand :=
  [⟨(ascii "AT+QHTTPURL=").length + 10, setURLCommand⟩,
    ⟨(ascii "AT+QHTTPPOST=").length + 10, postCommand message⟩,
    ⟨(ascii "AT+QHTTPREAD=").length + 3, readCommand⟩]

section Sent

variable {currentStatus : PostStatus} {readyToSend : Bool} {attempts : Nat} {post : PostStatics}
  {i : ModemPoll} {c : Bytes}

/-- What is sent to the modem as a command: a printed text, or the URL, or the closing byte. -/
def Sendable (message c : Bytes) : Prop :=
  c = url ∨ c = confirmationToSend ∨ ∃ p ∈ printedCommands message, p.text = c

/-- A command that is sent when the modem is ready is one of the printed ones. -/
theorem sendable_of_sendCommand {p : PrintedCommand} (hp : p ∈ printedCommands i.message)
    (h : .command c ∈ sendCommand readyToSend p.text) : Sendable i.message c := by
  cases readyToSend with
  | false => cases h
  | true =>
    obtain rfl : c = p.text := by simpa [sendCommand] using h
    exact .inr (.inr ⟨p, hp, rfl⟩)

/-- **What a call sends is what it printed.** -/
theorem sendable_of_exchangeMessages
    (h : .command c ∈ (exchangeMessages currentStatus readyToSend attempts post i).events) :
    Sendable i.message c := by
  have hurl : .command c ∈ sendCommand readyToSend setURLCommand → Sendable i.message c :=
    sendable_of_sendCommand (p := ⟨_, setURLCommand⟩) List.mem_cons_self
  have hpost : .command c ∈ sendCommand readyToSend (postCommand i.message) → Sendable i.message c :=
    sendable_of_sendCommand (p := ⟨_, postCommand i.message⟩)
      (List.mem_cons_of_mem _ List.mem_cons_self)
  have hread : .command c ∈ sendCommand readyToSend readCommand → Sendable i.message c :=
    sendable_of_sendCommand (p := ⟨_, readCommand⟩)
      (List.mem_cons_of_mem _ (List.mem_cons_of_mem _ List.mem_cons_self))
  have hclosing : Sendable i.message confirmationToSend := .inr (.inl rfl)
  -- each step sends its own command first, and the ends of a step add nothing but the URL or the
  -- closing byte
  cases currentStatus with
  | settingURL =>
    dsimp only [exchangeMessages, settingURL] at h
    split at h
    · rw [refresh_events] at h
      exact hurl h
    · simp only [apply_ite TransceiverStep.events, refresh_events, ite_self] at h
      split at h
      · rcases List.mem_append.mp h with h | h
        · exact hurl h
        · obtain rfl | rfl : c = url ∨ c = confirmationToSend := by simpa using h
          · exact .inl rfl
          · exact hclosing
      · exact hurl h
  | postingData =>
    have hbehind {tail : List TransceiverEvent} (htail : .command c ∈ tail → c = confirmationToSend)
        (h : .command c ∈ sendCommand readyToSend (postCommand i.message) ++ tail) :
        Sendable i.message c :=
      (List.mem_append.mp h).elim hpost fun h => htail h ▸ hclosing
    dsimp only [exchangeMessages, postingData] at h
    split at h
    · rw [refresh_events] at h
      exact hpost h
    split at h
    · exact hbehind (by simp) h
    split at h
    · exact hpost h
    split at h
    · exact hbehind (by simp) h
    · rw [refresh_events] at h
      exact hbehind (by simp) h
  | readingData =>
    dsimp only [exchangeMessages, readingData] at h
    split at h
    · rw [refresh_events] at h
      exact hread h
    · simp only [apply_ite TransceiverStep.events, refresh_events, ite_self] at h
      exact hread h
  | decodingData =>
    dsimp only [exchangeMessages, decodingData] at h
    split at h <;> cases h

end Sent

/-- **The third command has room for three digits.** -/
theorem postCommand_fits_iff (message : Bytes) :
    (PrintedCommand.mk ((ascii "AT+QHTTPPOST=").length + 10) (postCommand message)).Fits ↔
      message.length < 1000 := by
  have hname : (ascii "AT+QHTTPPOST=").length = 13 := by decide
  have hcomma : (ascii ",").length = 1 := by decide
  have htimeout : (Stdio.intText 80).length = 2 := by decide
  have hlen : (postCommand message).length = 19 + (Stdio.natText message.length).length := by
    simp only [postCommand, List.length_append, hname, hcomma, htimeout]
    have : (Stdio.intText (message.length : Int)).length =
        (Stdio.natText message.length).length := by
      rw [Stdio.length_intText, if_neg (Int.not_lt.mpr (Int.natCast_nonneg _)), Nat.zero_add,
        Int.natAbs_natCast]
    omega
  -- three digits, for what is less than a thousand
  have hdigits := Stdio.length_natText_le_iff (k := 3) (n := message.length) (by decide)
  show (postCommand message).length + 1 ≤ (ascii "AT+QHTTPPOST=").length + 10 ↔ _
  rw [hname]
  omega

/-- The other two commands always fit. -/
theorem setURLCommand_fits :
    (PrintedCommand.mk ((ascii "AT+QHTTPURL=").length + 10) setURLCommand).Fits := by
  unfold PrintedCommand.Fits
  decide

theorem readCommand_fits :
    (PrintedCommand.mk ((ascii "AT+QHTTPREAD=").length + 3) readCommand).Fits := by
  unfold PrintedCommand.Fits
  decide

/-- So the command with the length of the message decides. -/
theorem commands_fit_iff_post (message : Bytes) :
    (∀ c ∈ printedCommands message, c.Fits) ↔
      (PrintedCommand.mk ((ascii "AT+QHTTPPOST=").length + 10) (postCommand message)).Fits := by
  simp only [printedCommands, List.forall_mem_cons]
  exact ⟨fun h => h.2.1, fun h => ⟨setURLCommand_fits, h, readCommand_fits, List.forall_mem_nil _⟩⟩

/-- **The three commands fit their arrays if and only if the message has less than a thousand
    characters.** -/
theorem commands_fit_iff (message : Bytes) :
    (∀ c ∈ printedCommands message, c.Fits) ↔ message.length < 1000 :=
  (commands_fit_iff_post message).trans (postCommand_fits_iff message)

end PostHTTP

/-! ## The messages of the gateway

  The length of a token follows from that of its JSON text, so the condition can be said of the text
  that the gateway has formatted. -/

section Formatted

variable {φ : Type} (E : Platform φ) (currentStatus : GatewayStatus) (seconds : Int) (g : Gateway φ)

/-- The JSON text of the message that `formatMessage` formats. -/
def Gateway.formattedJson : Bytes :=
  addMetaData E.primitives (g.metadata E currentStatus seconds)
    (payloadText E.floats g.RSSI g.gatewayGNSSdata g.recepted)

/-- The token: the header and the signature are of one length, the payload is longer than the JSON
    by a third. -/
theorem length_formatted :
    (g.formatMessage E currentStatus seconds).1.bufferMessage.length =
      84 + (4 * (g.formattedJson E currentStatus seconds).length + 2) / 3 := by
  have hfeed : (ascii "\n").length = 1 := by decide
  have htoken : (g.formatMessage E currentStatus seconds).1.bufferMessage =
      JWTManager.encodeJWT E.primitives (g.formattedJson E currentStatus seconds) ++ ascii "\n" := by
    unfold Gateway.formatMessage
    cases currentStatus.isTryingMobileNetwork <;> rfl
  rw [htoken, List.length_append, JWTManager.encodeJWT, CustomJWT.length_encodeJWT, hfeed]
  omega

/-- **The commands for a formatted message** fit if its JSON text has at most 686 bytes, and
    otherwise they do not; and nothing else is sent to the modem while the message is posted, but
    for the URL and the byte that ends what is typed, which are not printed. -/
theorem formatted_commands_fit_iff :
    ((∀ p ∈ PostHTTP.printedCommands (g.formatMessage E currentStatus seconds).1.bufferMessage,
        p.Fits) ↔ (g.formattedJson E currentStatus seconds).length ≤ 686) ∧
      ∀ (postStatus : PostStatus) (readyToSend : Bool) (attempts : Nat) (post : PostStatics)
        (i : ModemPoll) (c : Bytes),
        i.message = (g.formatMessage E currentStatus seconds).1.bufferMessage →
          .command c ∈ (PostHTTP.exchangeMessages postStatus readyToSend attempts post i).events →
            PostHTTP.Sendable (g.formatMessage E currentStatus seconds).1.bufferMessage c := by
  constructor
  · rw [PostHTTP.commands_fit_iff_post, PostHTTP.postCommand_fits_iff, length_formatted]
    omega
  · intro postStatus readyToSend attempts post i c hmessage hcommand
    rw [← hmessage]
    exact PostHTTP.sendable_of_exchangeMessages hcommand

end Formatted

/-- A message whose floats are 2 to the 62nd, which has nineteen digits and which a float of single
    precision holds exactly, so that they are printed here as the gateway prints them. -/
def largeFloats : Bytes :=
  ascii "LORAGNSS,1,2,STOP,4611686018427387904,4611686018427387904,4611686018427387904," ++
    ascii "4611686018427387904,4611686018427387904,4611686018427387904,010125120000,1,90,0," ++
    ascii "4611686018427387904,4611686018427387904,4611686018427387904," ++
    ascii "4611686018427387904,4611686018427387904,4611686018427387904"

/-- The gateway that has received it. -/
def largeFloatsGateway : Gateway Int :=
  .initial (parseReceptedLoRaMessage .integers largeFloats nothingRecepted).2 (-90) origin 0

/-- **The commands for it do not fit**: it is accepted, `FormattingMessage` leaves a token of more
    than 999 and less than 2500 characters, and `AT+QHTTPPOST` is printed over the end of its
    array. -/
theorem largeFloats_overrun :
    (parseReceptedLoRaMessage .integers largeFloats nothingRecepted).1 = true ∧
      let message := (largeFloatsGateway.formatMessage .reference
        .receptedLoraGnssMessageTryingMobileNetwork 0).1.bufferMessage
      message.length ≤ 2499 ∧ ¬ ∀ c ∈ PostHTTP.printedCommands message, c.Fits := by
  have hjson : (largeFloatsGateway.formattedJson .reference
      .receptedLoraGnssMessageTryingMobileNetwork 0).length = 719 := by
    rw [largeFloatsGateway, largeFloats, ascii_ofList, ascii_ofList, ascii_ofList, ascii_ofList]
    decide +kernel
  have haccepted : (parseReceptedLoRaMessage .integers largeFloats nothingRecepted).1 = true := by
    rw [largeFloats, ascii_ofList, ascii_ofList, ascii_ofList, ascii_ofList]
    decide +kernel
  refine ⟨haccepted, ?_, fun h => ?_⟩
  · rw [length_formatted, hjson]
    decide
  · have hshort := (formatted_commands_fit_iff .reference
      .receptedLoraGnssMessageTryingMobileNetwork 0 largeFloatsGateway).1.mp h
    rw [hjson] at hshort
    exact absurd hshort (by decide)

end GatewayLoRa
