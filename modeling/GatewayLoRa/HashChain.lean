/-
  The hash chain: what the gateway's three members say of the messages it had confirmed.

  `FormattingMessage` gives each message the sequence number and the hash of the last confirmed one,
  and keeps the hash of the new one aside; a confirmed transmission makes that hash the last one
  and counts the sequence number up, once.  The `ledger` of a trace is what should have happened:
  the message that is being relayed, and the messages whose transmission was confirmed.

  1. **The invariant** (`ChainSound`) — the confirmed messages are linked, the gateway holds the
     number and the hash of the next one, and whatever is sent is the message that carries them.

  2. **One chunk** — `SendingMessageThroughEthernet` advances the chain in its receive loop: once
     for each call of `recv` that does not fail, so also before one that fails, and again for
     every further chunk of one response.  `singleChunk` says of the results of `recv` that the
     chain advances once if the response was received, and not at all otherwise.

  3. **The result** (`chain_advances`) — in every run whose responses come in one chunk, each relay
     cycle advances the chain by one if it ended with a confirmed transmission, and not otherwise.
     `twoChunks_advance_twice` is a cycle with a response in two chunks.

  The crux is the ledger.  The three members of the chain are counters and texts; that they are
  right can only be said relative to what should have happened, and the ledger is a fold over the
  trace that records it, without looking at the members.  `ChainSound` compares the two in every
  state.  It has to say more than that they agree: while a message is on its way, its number and its
  hashes are the ones that a confirmation would record (`Sends`), and the buffer holds its token as
  long as no reply has replaced it (`awaits`).  With these, a confirmation is one equation on each
  side.
-/

import GatewayLoRa.Lib.HashLog
import GatewayLoRa.GatewayCalls

namespace GatewayLoRa

open CMemory Machine HashLog

variable {φ : Type} {E : Platform φ} {D : Bytes → Option Bytes}

/-! ## The ledger

  What should have happened, read off the trace.  An accepted message begins a cycle, a formatted
  one is what the cycle relays, and an event that confirms enters it into the list. -/

/-- The sequence number of a message. -/
def Formatted.seq (m : Formatted) : Int := m.metadata.sequenceNumber

/-- The hash that a message names as the previous one. -/
def Formatted.prev (m : Formatted) : Bytes := m.metadata.hashPrevJson

/-- The event confirms a transmission: a response was received without an error, or the module
    reported `SEND_OK` and the reply decodes and names its success. -/
def GatewayEvent.confirms (D : Bytes → Option Bytes) : GatewayEvent → Bool
  | .received _ recvs => recvs.all (0 ≤ ·) && recvs.any (0 < ·)
  | .sent (some reply) => ExchangingMessages.replyConfirms D reply
  | _ => false

/-- The text that goes out, through the socket or to the modem. -/
def GatewayEvent.text : GatewayEvent → Option Bytes
  | .received payload _ => some payload
  | .modem (.wrote message) => some message
  | _ => none

/-- The message formatted last in this cycle, and the messages whose transmission was confirmed. -/
structure Ledger where
  current : Option Formatted
  confirmed : List Formatted

/-- What one event enters. -/
def Ledger.record (D : Bytes → Option Bytes) (l : Ledger) : GatewayEvent → Ledger
  | .accepted .. => { l with current := none }
  | .formatted m => { l with current := some m }
  | e => if e.confirms D then { l with confirmed := l.confirmed ++ l.current.toList } else l

/-- **The ledger of a trace.** -/
def ledger (D : Bytes → Option Bytes) (trace : List GatewayEvent) : Ledger :=
  trace.foldl (Ledger.record D) ⟨none, []⟩

section Ledger

variable {t es : List GatewayEvent} {l : Ledger}

/-- The ledger is a fold. -/
theorem ledger_append : ledger D (t ++ es) = es.foldl (Ledger.record D) (ledger D t) :=
  List.foldl_append

/-- Events that enter nothing. -/
theorem foldl_record_eq (h : ∀ e ∈ es, ∀ l, Ledger.record D l e = l) :
    es.foldl (Ledger.record D) l = l := by
  induction es with
  | nil => rfl
  | cons e es ih =>
    rw [List.foldl_cons, h e (List.mem_cons_self ..)]
    exact ih fun a ha => h a (List.mem_cons_of_mem e ha)

/-- Events that enter nothing leave the ledger. -/
theorem ledger_eq (h : ∀ e ∈ es, ∀ l, Ledger.record D l e = l) :
    ledger D (t ++ es) = ledger D t := by
  rw [ledger_append, foldl_record_eq h]

/-- Events that confirm nothing leave the confirmed messages as they are. -/
theorem confirmed_foldl (h : ∀ e ∈ es, e.confirms D = false) :
    (es.foldl (Ledger.record D) l).confirmed = l.confirmed := by
  induction es generalizing l with
  | nil => rfl
  | cons e es ih =>
    rw [List.foldl_cons, ih fun a ha => h a (List.mem_cons_of_mem e ha)]
    have he := h e (List.mem_cons_self ..)
    cases e <;> first | rfl | exact congrArg Ledger.confirmed (if_neg (by rw [he]; decide))

/-- An event that confirms enters the message that is being relayed. -/
theorem record_confirms {e : GatewayEvent} (h : e.confirms D = true) :
    Ledger.record D l e = { l with confirmed := l.confirmed ++ l.current.toList } := by
  cases e with
  | received | sent => exact if_pos h
  | _ => exact nomatch h

/-- The message `m` is the last one formatted in `es`. -/
def LastFormatted (m : Formatted) (es : List GatewayEvent) : Prop :=
  ∃ before after, es = before ++ .formatted m :: after ∧ ∀ m', .formatted m' ∉ after

/-- The message that is being relayed was the last one formatted. -/
theorem current_foldl {m : Formatted} (h : (es.foldl (Ledger.record D) l).current = some m) :
    LastFormatted m es ∨ (l.current = some m ∧ ∀ m', .formatted m' ∉ es) := by
  induction es generalizing l with
  | nil => exact Or.inr ⟨h, fun m' => nofun⟩
  | cons e es ih =>
    rcases ih h with ⟨before, after, rfl, hafter⟩ | ⟨hcur, hes⟩
    · exact Or.inl ⟨e :: before, after, rfl, hafter⟩
    · cases e with
      | formatted m₁ =>
        obtain rfl : m₁ = m := Option.some.inj hcur
        exact Or.inl ⟨[], es, rfl, hes⟩
      | accepted => exact nomatch hcur
      | _ =>
        refine Or.inr ⟨?_, fun m' hm => ?_⟩
        · dsimp only [Ledger.record] at hcur
          split at hcur <;> exact hcur
        · simp only [List.mem_cons, reduceCtorEq, false_or] at hm
          exact hes m' hm

end Ledger

/-! ## The order of events

  A part of the invariant that looks at a trace as a whole: for each event, at what stood before it
  and what comes next.  `EachEvent` (of `Machine`) says this of every way to cut a trace, and these
  lemmas extend it by the events of one step. -/

/-- **What goes with an event**: a transmission is confirmed for a message that was formatted in the
    cycle, and the cycle ends with it; every text that goes out is the token of that message. -/
structure InOrder (D : Bytes → Option Bytes) (before : List GatewayEvent) (e : GatewayEvent)
    (after : List GatewayEvent) : Prop where
  formatted : e.confirms D = true → ∃ m, (ledger D before).current = some m
  ends : e.confirms D = true → after.head? = some (.changeState .sensingBatteryStatus)
  sends : ∀ text, e.text = some text → ∃ m, (ledger D before).current = some m ∧ m.token = text

section Order

variable {t es before after more : List GatewayEvent} {e : GatewayEvent} {m : Formatted}

/-- More events behind. -/
theorem InOrder.mono (h : InOrder D before e after) : InOrder D before e (after ++ more) where
  formatted := h.formatted
  ends hconfirms := by rw [List.head?_append, h.ends hconfirms]; rfl
  sends := h.sends

/-- An event that confirms nothing and sends nothing. -/
theorem InOrder.of_silent (hconfirms : e.confirms D = false) (htext : e.text = none) :
    InOrder D before e after where
  formatted h := nomatch hconfirms.symm.trans h
  ends h := nomatch hconfirms.symm.trans h
  sends _ h := nomatch htext.symm.trans h

/-- An event that sends the message that is being relayed, and confirms nothing. -/
theorem InOrder.of_sends (hconfirms : e.confirms D = false)
    (hcur : (ledger D before).current = some m) (htext : ∀ text, e.text = some text →
      m.token = text) : InOrder D before e after where
  formatted h := nomatch hconfirms.symm.trans h
  ends h := nomatch hconfirms.symm.trans h
  sends text h := ⟨m, hcur, htext text h⟩

/-- A trace in order, and then events that are in order behind it. -/
theorem inOrder_append (h : EachEvent (InOrder D) t)
    (hes : EachEvent (fun before => InOrder D (t ++ before)) es) :
    EachEvent (InOrder D) (t ++ es) :=
  h.append (fun _ _ _ _ => InOrder.mono) hes

/-- Events that confirm nothing and send nothing are in order. -/
theorem inOrder_silent (h : EachEvent (InOrder D) t)
    (hes : ∀ e ∈ es, e.confirms D = false ∧ e.text = none) : EachEvent (InOrder D) (t ++ es) := by
  refine inOrder_append h fun before e after heq => ?_
  obtain ⟨hconfirms, htext⟩ := hes e (heq ▸ List.mem_append_right before (List.mem_cons_self ..))
  exact .of_silent hconfirms htext

/-- An event that sends the message that is being relayed, and what follows it. -/
theorem inOrder_sends (h : EachEvent (InOrder D) t) (hconfirms : e.confirms D = false)
    (hcur : (ledger D t).current = some m) (htext : ∀ text, e.text = some text → m.token = text)
    (hes : ∀ e ∈ es, e.confirms D = false ∧ e.text = none) :
    EachEvent (InOrder D) (t ++ e :: es) := by
  rw [List.append_cons]
  refine inOrder_silent (inOrder_append h (eachEvent_cons ?_ eachEvent_nil)) hes
  rw [List.append_nil]
  exact .of_sends hconfirms hcur htext

/-- What the module does enters nothing into the ledger. -/
theorem record_modem {modem : List TransceiverEvent} (hes : ∀ x ∈ es, x ∈ modem.map .modem) :
    ∀ e ∈ es, ∀ l, Ledger.record D l e = l := by
  intro e he l
  obtain ⟨x, -, rfl⟩ := List.mem_map.mp (hes e he)
  rfl

/-- The modem writes the token of the message, and nothing else. -/
theorem inOrder_modem (h : EachEvent (InOrder D) t) (hcur : (ledger D t).current = some m)
    {modem : List TransceiverEvent} (hwrote : ∀ text, .wrote text ∈ modem → m.token = text) :
    EachEvent (InOrder D) (t ++ modem.map .modem) := by
  refine inOrder_append h fun before e after heq => ?_
  have hmem : ∀ x ∈ before ++ e :: after, x ∈ modem.map GatewayEvent.modem := by
    rw [← heq]
    exact fun x hx => hx
  obtain ⟨x, hx, rfl⟩ := List.mem_map.mp (hmem e (List.mem_append_right before (List.mem_cons_self ..)))
  have hbefore : ledger D (t ++ before) = ledger D t :=
    ledger_eq (record_modem fun y hy => hmem y (List.mem_append_left _ hy))
  refine .of_sends rfl (m := m) (by rw [hbefore]; exact hcur) fun text htext => ?_
  cases x with
  | wrote message =>
    obtain rfl : message = text := Option.some.inj htext
    exact hwrote message hx
  | _ => exact nomatch htext

/-- A confirmation at the end of a cycle. -/
theorem inOrder_confirms (h : EachEvent (InOrder D) t) (hcur : (ledger D t).current = some m)
    (htext : ∀ text, e.text = some text → m.token = text) :
    EachEvent (InOrder D) (t ++ [e, .changeState .sensingBatteryStatus]) := by
  refine inOrder_append h (eachEvent_cons ?_ (eachEvent_cons (.of_silent rfl rfl) eachEvent_nil))
  rw [List.append_nil]
  exact ⟨fun _ => ⟨m, hcur⟩, fun _ => rfl, fun text ht => ⟨m, hcur, htext text ht⟩⟩

end Order

/-! ## The invariant

  `linked`, `seq` and `prev` are about the messages that were confirmed; `sends` and `awaits` about
  the one that is on its way; `ordered` about the trace. -/

/-- The states that send the message. -/
def GatewayState.sends : GatewayState → Bool
  | .sendingMessageThroughEthernet .. | .exchangingMessages => true
  | _ => false

/-- The message that is being relayed, where the gateway sends it: it carries the number and the
    hash that come next, and waits in the buffer until the reply of the server replaces it. -/
structure Sends (D : Bytes → Option Bytes) (c : Config (Gateway φ) GatewayEvent) (m : Formatted) :
    Prop where
  current : (ledger D c.trace).current = some m
  seq : m.seq = c.state.chain.sequenceMessageNumber
  prev : m.prev = c.state.chain.prevChainHash
  curr : m.curr = c.state.chain.currChainHash
  token : c.state.AwaitsReply → m.token = c.state.bufferMessage

/-- **The invariant.** -/
structure ChainSound (D : Bytes → Option Bytes) (c : Config (Gateway φ) GatewayEvent) : Prop where
  linked : Linked Formatted.seq Formatted.prev Formatted.curr 0 (ascii "-")
    (ledger D c.trace).confirmed
  seq : c.state.chain.sequenceMessageNumber = (ledger D c.trace).confirmed.length
  prev : c.state.chain.prevChainHash =
    lastHash Formatted.curr (ascii "-") (ledger D c.trace).confirmed
  sends : c.state.currentState.sends = true → ∃ m, Sends D c m
  -- outside the exchange with the modem no reply is left over from an earlier one
  awaits : c.state.currentState ≠ .exchangingMessages → c.state.AwaitsReply
  ordered : EachEvent (InOrder D) c.trace

section Invariant

variable {c : Config (Gateway φ) GatewayEvent} {g' : Gateway φ} {es : List GatewayEvent}

/-- A step that leaves the chain alone and confirms nothing. -/
theorem ChainSound.keep (h : ChainSound D c) (hchain : g'.chain = c.state.chain)
    (hes : ∀ e ∈ es, e.confirms D = false)
    (hsends : g'.currentState.sends = true → ∃ m, Sends D ⟨g', c.trace ++ es⟩ m)
    (hawaits : g'.currentState ≠ .exchangingMessages → g'.AwaitsReply)
    (hordered : EachEvent (InOrder D) (c.trace ++ es)) : ChainSound D ⟨g', c.trace ++ es⟩ := by
  have hconfirmed : (ledger D (c.trace ++ es)).confirmed = (ledger D c.trace).confirmed := by
    rw [ledger_append, confirmed_foldl hes]
  refine ⟨?_, ?_, ?_, hsends, hawaits, hordered⟩
  · rw [hconfirmed]
    exact h.linked
  · rw [hconfirmed, hchain]
    exact h.seq
  · rw [hconfirmed, hchain]
    exact h.prev

/-- **A confirmation** advances the chain by the message that is being relayed. -/
theorem ChainSound.confirm (h : ChainSound D c) {m : Formatted} (hm : Sends D c m)
    (hchain : g'.chain = c.state.chain.progressOnHashChain.increaseSequenceNumber)
    (hstate : g'.currentState = .sensingBatteryStatus) (hawaits : g'.AwaitsReply)
    {e : GatewayEvent} (he : e.confirms D = true) (hes : ∀ x ∈ es, ∀ l, Ledger.record D l x = l)
    (hordered : EachEvent (InOrder D)
      (c.trace ++ (es ++ [e, .changeState .sensingBatteryStatus]))) :
    ChainSound D ⟨g', c.trace ++ (es ++ [e, .changeState .sensingBatteryStatus])⟩ := by
  have hledger : (ledger D (c.trace ++ (es ++ [e, .changeState .sensingBatteryStatus]))).confirmed =
      (ledger D c.trace).confirmed ++ [m] := by
    rw [← List.append_assoc, ledger_append, ledger_eq hes, List.foldl_cons, record_confirms he,
      hm.current]
    rfl
  have hseq := h.seq
  refine ⟨?_, ?_, ?_, fun hsends => ?_, fun _ => hawaits, hordered⟩
  · rw [hledger, linked_concat]
    exact ⟨h.linked, by rw [hm.seq, hseq, Int.zero_add], hm.prev.trans h.prev⟩
  · rw [hledger, hchain, List.length_append]
    simp [Chain.increaseSequenceNumber, Chain.progressOnHashChain, hseq]
  · rw [hledger, hchain, lastHash_concat]
    exact hm.curr.symm
  · rw [hstate] at hsends
    exact nomatch hsends

end Invariant

/-! ## One chunk

  The receive loop of the source counts chunks: each call of `recv` that returns a byte or none
  advances the chain.  For which results of `recv` that is right is decided for one attempt
  (`recvLoop_advances_iff`), and the condition is carried to the calls by `KeepsChain`. -/

open SendingMessageThroughEthernet (recvLoop sendLoop httpRequest)

/-- The results of `recv` that the loop is written for: none, one chunk, or an error first. -/
def singleChunk : List Int → Bool
  | [] => true
  | [result] => result ≠ 0
  | result :: _ => result < 0

/-- The session comes to the receive loop. -/
def TcpSession.answers (s : TcpSession) (payload : Bytes) : Bool :=
  s.openResult = 0 && s.connectResult = 0 &&
    (0 ≤ sendLoop (httpRequest payload).length s.sends && s.answered)

/-- **The condition on a call**: an attempt through Ethernet that comes to the receive loop finds at
    most one chunk there. -/
def KeepsChain (c : Config (Gateway φ) GatewayEvent) : Call φ → Prop
  | .exchangeMessagesThroughEthernet s =>
      (∃ n st, c.state.currentState = .sendingMessageThroughEthernet n st) →
        s.answers c.state.bufferMessage = true → singleChunk s.recvs = true
  | _ => True

/-- The loop never counts down. -/
theorem le_recvLoop (recvs : List Int) (c : Chain) :
    c.sequenceMessageNumber ≤ (recvLoop recvs c).1.sequenceMessageNumber := by
  induction recvs generalizing c with
  | nil => exact Int.le_refl _
  | cons r rs ih =>
    rw [recvLoop]
    split
    · exact Int.le_refl _
    · have := ih c.progressOnHashChain.increaseSequenceNumber
      simp only [Chain.progressOnHashChain, Chain.increaseSequenceNumber] at this ⊢
      omega

/-- **The loop advances the chain once for a response that was received, and not at all otherwise, if
    and only if there is at most one chunk.** -/
theorem recvLoop_advances_iff (payload : Bytes) (recvs : List Int) (c : Chain) :
    (recvLoop recvs c).1 = (if (GatewayEvent.received payload recvs).confirms D then
      c.progressOnHashChain.increaseSequenceNumber else c) ↔ singleChunk recvs = true := by
  match recvs with
  | [] => simp [recvLoop, GatewayEvent.confirms, singleChunk]
  | [r] =>
    rcases Int.lt_trichotomy r 0 with hr | rfl | hr
    · have hle : ¬ 0 ≤ r := by omega
      simp [recvLoop, GatewayEvent.confirms, singleChunk, hr, hle, Int.ne_of_lt hr]
    · refine iff_of_false (fun heq => ?_) (by decide)
      have := congrArg Chain.sequenceMessageNumber heq
      have hseq : c.sequenceMessageNumber + 1 = c.sequenceMessageNumber := this
      omega
    · have hlt : ¬ r < 0 := by omega
      simp [recvLoop, GatewayEvent.confirms, singleChunk, hr, hlt, Int.le_of_lt hr,
        (Int.ne_of_lt hr).symm]
  | r :: r' :: rs =>
    by_cases hr : r < 0
    · have hle : ¬ 0 ≤ r := by omega
      simp [recvLoop, GatewayEvent.confirms, singleChunk, hr, hle]
    · refine iff_of_false (fun heq => ?_) (by simp [singleChunk, hr])
      rw [recvLoop, if_neg hr, recvLoop] at heq
      by_cases hr' : r' < 0
      · have hle : ¬ 0 ≤ r' := by omega
        rw [if_pos hr'] at heq
        have hno : (GatewayEvent.received payload (r :: r' :: rs)).confirms D = false := by
          simp [GatewayEvent.confirms, hle]
        rw [if_neg (by rw [hno]; decide)] at heq
        have hseq : c.sequenceMessageNumber + 1 = c.sequenceMessageNumber :=
          congrArg Chain.sequenceMessageNumber heq
        omega
      · rw [if_neg hr'] at heq
        have hle := le_recvLoop rs (c.progressOnHashChain.increaseSequenceNumber
          |>.progressOnHashChain.increaseSequenceNumber)
        rw [heq] at hle
        split at hle <;>
          simp only [Chain.progressOnHashChain, Chain.increaseSequenceNumber] at hle <;> omega

/-- A loop that failed confirms nothing. -/
theorem failed_not_confirms {recvs : List Int} {c : Chain} (payload : Bytes)
    (h : (recvLoop recvs c).2 = true) : (GatewayEvent.received payload recvs).confirms D = false := by
  obtain ⟨r, hr, hneg⟩ := (recvLoop_failed recvs c).mp h
  have hall : (recvs.all fun r => decide (0 ≤ r)) = false :=
    List.all_eq_false.mpr ⟨r, hr, by simpa using hneg⟩
  rw [GatewayEvent.confirms, hall, Bool.false_and]

/-- The failing branch receives nothing. -/
theorem received_failEthernet {g : Gateway φ} {st : GatewayStatus} {payload : Bytes}
    {recvs : List Int} : .received payload recvs ∉ (g.failEthernet st).2 := by
  cases st <;> simp [Gateway.failEthernet, Gateway.changeState]

/-- The receive loop is reached by an attempt through Ethernet whose session comes to it. -/
theorem received_of_call {g : Gateway φ} {i : Call φ} {payload : Bytes} {recvs : List Int}
    (h : .received payload recvs ∈ (call E g i).2) :
    ∃ s n st, i = .exchangeMessagesThroughEthernet s ∧
      g.currentState = .sendingMessageThroughEthernet n st ∧ s.answers g.bufferMessage = true ∧
      s.recvs = recvs := by
  have hstate : ∃ n st, g.currentState = .sendingMessageThroughEthernet n st := by
    have heff := call_effect (E := E) g i
    generalize call E g i = res at heff h
    cases heff with
    | responded g' n st recvs hstate => exact ⟨n, st, hstate⟩
    | recvFailed g' n st recvs hstate => exact ⟨n, st, hstate⟩
    | unconfirmed g' modem sent hstate hstate' hsent =>
      rcases hsent with rfl | ⟨reply, rfl, -⟩ <;> simp at h
    | _ => simp at h
  -- in this state one call does something, and it comes to the receive loop only behind four tests
  obtain ⟨n, st, hstate⟩ := hstate
  cases i with
  | exchangeMessagesThroughEthernet s =>
    refine ⟨s, n, st, rfl, hstate, ?_⟩
    simp only [call, hstate, Gateway.exchangeMessagesThroughEthernet] at h
    split at h
    · exact absurd h received_failEthernet
    next hopen =>
    split at h
    · split at h
      · exact absurd h received_failEthernet
      · simp at h
    next hconnect =>
    split at h
    · exact absurd h received_failEthernet
    next hsend =>
    split at h
    · exact absurd h received_failEthernet
    next htime =>
    constructor
    · simp only [TcpSession.answers, Bool.and_eq_true, decide_eq_true_eq]
      exact ⟨⟨by simpa using hopen, by simpa using hconnect⟩, by omega, by simpa using htime⟩
    · rcases List.mem_cons.mp h with heq | hmem
      · exact (GatewayEvent.received.inj heq).2.symm
      · split at hmem
        · exact absurd hmem received_failEthernet
        · simp [Gateway.changeState] at hmem
  | _ => simp [call, hstate] at h

/-! ## Every call keeps the invariant

  By cases on the effect of the call.  Most effects touch neither the chain nor the message (`keep`,
  `of_aside`, `of_same`).  Formatting begins to send a new message, and the two confirmations are
  `ChainSound.confirm`. -/

section Step

variable {c : Config (Gateway φ) GatewayEvent}

/-- The message goes on being sent by a step that does not touch it. -/
theorem Sends.keep {m : Formatted} (hm : Sends D c m) {g' : Gateway φ} {es : List GatewayEvent}
    (hes : ∀ e ∈ es, ∀ l, Ledger.record D l e = l) (hchain : g'.chain = c.state.chain)
    (htoken : g'.AwaitsReply → c.state.AwaitsReply ∧ g'.bufferMessage = c.state.bufferMessage) :
    Sends D ⟨g', c.trace ++ es⟩ m where
  current := by rw [ledger_eq hes]; exact hm.current
  seq := by rw [hm.seq, hchain]
  prev := by rw [hm.prev, hchain]
  curr := by rw [hm.curr, hchain]
  token hawaits := by
    obtain ⟨hawaited, hbuffer⟩ := htoken hawaits
    rw [hm.token hawaited, hbuffer]

/-- A step outside the states that send, to another such state. -/
theorem ChainSound.of_aside (h : ChainSound D c) {g' : Gateway φ} {es : List GatewayEvent}
    (hchain : g'.chain = c.state.chain)
    (hcellular : g'.cellularTransceiver = c.state.cellularTransceiver)
    (hfrom : c.state.currentState ≠ .exchangingMessages) (hto : g'.currentState.sends = false)
    (hes : ∀ e ∈ es, e.confirms D = false ∧ e.text = none) : ChainSound D ⟨g', c.trace ++ es⟩ := by
  have hawaits : g'.AwaitsReply := by
    rw [Gateway.AwaitsReply, hcellular]
    exact h.awaits hfrom
  exact h.keep hchain (fun e he => (hes e he).1) (fun hsends => nomatch hto.symm.trans hsends)
    (fun _ => hawaits) (inOrder_silent h.ordered hes)

/-- The plain changes of state lead to states that send nothing. -/
theorem Moves.aside {s s' : GatewayState} (h : Moves s s') :
    s ≠ .exchangingMessages ∧ s'.sends = false := by
  cases h with
  | failedToConnect st _ hs =>
    obtain ⟨st', -, rfl⟩ := Option.map_eq_some_iff.mp hs
    exact ⟨nofun, rfl⟩
  | failedToSend k st _ hs =>
    obtain ⟨st', -, rfl⟩ := Option.map_eq_some_iff.mp hs
    exact ⟨nofun, rfl⟩
  | _ => exact ⟨nofun, rfl⟩

/-- A step that changes neither the message nor the module, among the states of one kind. -/
theorem ChainSound.of_same (h : ChainSound D c) {g' : Gateway φ} (hsame : Same c.state g')
    (hsends : g'.currentState.sends = true → c.state.currentState.sends = true)
    (hexchanging : c.state.currentState = .exchangingMessages →
      g'.currentState = .exchangingMessages) : ChainSound D ⟨g', c.trace ++ []⟩ := by
  have hawaits (ha : g'.AwaitsReply) : c.state.AwaitsReply := by
    rwa [Gateway.AwaitsReply, hsame.cellular] at ha
  refine h.keep hsame.chain (fun e he => nomatch he) (fun hs => ?_) (fun hne => ?_)
    (by rw [List.append_nil]; exact h.ordered)
  · have hsending := hsends hs
    obtain ⟨m, hm⟩ := h.sends hsending
    have hwaiting : c.state.currentState ≠ .waitingForMessage := by
      intro heq
      rw [heq] at hsending
      exact nomatch hsending
    exact ⟨m, hm.keep (fun e he => nomatch he) hsame.chain fun ha =>
      ⟨hawaits ha, hsame.buffer hwaiting⟩⟩
  · rw [Gateway.AwaitsReply, hsame.cellular]
    exact h.awaits fun heq => hne (hexchanging heq)

/-- The text that an attempt through Ethernet sends is the token of the message. -/
theorem ChainSound.sendsThroughEthernet (h : ChainSound D c) {n : Nat} {st : GatewayStatus}
    (hstate : c.state.currentState = .sendingMessageThroughEthernet n st) :
    ∃ m, Sends D c m ∧ m.token = c.state.bufferMessage := by
  obtain ⟨m, hm⟩ := h.sends (by rw [hstate]; rfl)
  exact ⟨m, hm, hm.token (h.awaits (by rw [hstate]; exact nofun))⟩

/-- **Every call keeps the invariant**, if it finds at most one chunk. -/
theorem ChainSound.step (h : ChainSound E.decodeJWT c) (i : Call φ) (hchunk : KeepsChain c i) :
    ChainSound E.decodeJWT (advance (call E) c i) := by
  have heff := call_effect (E := E) c.state i
  have hsingle {payload : Bytes} {recvs : List Int}
      (hmem : .received payload recvs ∈ (call E c.state i).2) : singleChunk recvs = true := by
    obtain ⟨s, n, st, rfl, hstate, hanswers, rfl⟩ := received_of_call hmem
    exact hchunk ⟨n, st, hstate⟩ hanswers
  unfold advance
  generalize call E c.state i = res at heff hsingle ⊢
  cases heff with
  -- calls that leave the chain and the message alone: everything is as it was
  | quiet g' hstate hsame =>
    exact h.of_same hsame (fun hs => hstate ▸ hs) fun heq => hstate.trans heq
  | retried g' n st hstate hstate' hsame =>
    refine h.of_same hsame (fun _ => by rw [hstate]; rfl) fun heq => ?_
    exact nomatch hstate.symm.trans heq
  | moved g' hmoves hsame =>
    obtain ⟨hfrom, hto⟩ := hmoves.aside
    refine h.of_aside hsame.chain hsame.cellular hfrom hto fun e he => ?_
    obtain rfl := List.mem_singleton.mp he
    exact ⟨rfl, rfl⟩
  | accepted g' i n type hstate hstate' hsame =>
    refine h.of_aside hsame.chain hsame.cellular (by rw [hstate]; exact nofun)
      (by rw [hstate']; rfl) ?_
    simp [GatewayEvent.confirms, GatewayEvent.text]
  | acknowledged g' i n st ticks s hstate hrun hdone hstate' hack hchain hcellular =>
    refine h.of_aside hchain hcellular (by rw [hstate]; exact nofun)
      (by rw [hstate', hstate]; rfl) ?_
    simp [GatewayEvent.confirms, GatewayEvent.text]
  | lastAcknowledged g' i n st ticks s hstate hrun hdone hstate' hack hchain hcellular =>
    refine h.of_aside hchain hcellular (by rw [hstate]; exact nofun) (by rw [hstate']; rfl) ?_
    rintro e he
    rcases List.mem_append.mp he with hp | hlast
    · obtain ⟨p, -, rfl⟩ := List.mem_map.mp hp
      exact ⟨rfl, rfl⟩
    · obtain rfl := List.mem_singleton.mp hlast
      exact ⟨rfl, rfl⟩
  | faulted i n st ticks f hstate hrun =>
    refine h.of_aside rfl rfl (by rw [hstate]; exact nofun) (by rw [hstate]; rfl) ?_
    simp [GatewayEvent.confirms, GatewayEvent.text]
  | formatted g' st seconds hstate hstate' hack hchain hbuffer hcellular =>
    -- a new message: the ledger takes it as the current one, linked to the last that was confirmed
    have hsilent : ∀ e ∈ [GatewayEvent.formatted (c.state.formatted E st seconds),
        .changeState g'.currentState], e.confirms E.decodeJWT = false ∧ e.text = none := by
      simp [GatewayEvent.confirms, GatewayEvent.text]
    have hledger : ledger E.decodeJWT (c.trace ++ [.formatted (c.state.formatted E st seconds),
        .changeState g'.currentState]) =
          { ledger E.decodeJWT c.trace with current := some (c.state.formatted E st seconds) } :=
      ledger_append
    have hawaits : g'.AwaitsReply := by
      rw [Gateway.AwaitsReply, hcellular]
      exact h.awaits (by rw [hstate]; exact nofun)
    refine ⟨?_, ?_, ?_, fun _ => ⟨c.state.formatted E st seconds, ?_⟩, fun _ => hawaits,
      inOrder_silent h.ordered hsilent⟩
    · rw [hledger]
      exact h.linked
    · rw [hledger, hchain]
      exact h.seq
    · rw [hledger, hchain]
      exact h.prev
    · refine ⟨by rw [hledger], ?_, ?_, ?_, fun _ => hbuffer.symm⟩
      all_goals rw [hchain]; rfl
  -- Ethernet confirms: one chunk, so the loop has advanced the chain once
  | responded g' n st recvs hstate hrecv hstate' hack hchain hcellular =>
    obtain ⟨m, hm, htoken⟩ := h.sendsThroughEthernet hstate
    have hawaits : g'.AwaitsReply := by
      rw [Gateway.AwaitsReply, hcellular]
      exact h.awaits (by rw [hstate]; exact nofun)
    have hordered := inOrder_confirms (e := .received c.state.bufferMessage recvs) h.ordered
      hm.current fun text ht => htoken.trans (Option.some.inj ht)
    have hadvances := (recvLoop_advances_iff (D := E.decodeJWT) c.state.bufferMessage recvs
      c.state.chain).mpr (hsingle (List.mem_cons_self ..))
    rw [← hchain] at hadvances
    cases hconfirms : (GatewayEvent.received c.state.bufferMessage recvs).confirms E.decodeJWT with
    | true =>
      rw [if_pos hconfirms] at hadvances
      have hnone : ∀ x ∈ ([] : List GatewayEvent), ∀ l, Ledger.record E.decodeJWT l x = l :=
        fun x hx => nomatch hx
      exact h.confirm hm hadvances hstate' hawaits hconfirms hnone hordered
    | false =>
      rw [if_neg (by rw [hconfirms]; decide)] at hadvances
      refine h.keep hadvances ?_ (fun hsends => ?_) (fun _ => hawaits) hordered
      · exact List.forall_mem_cons.mpr ⟨hconfirms, List.forall_mem_cons.mpr ⟨rfl, nofun⟩⟩
      · rw [hstate'] at hsends
        exact nomatch hsends
  -- a failed `recv` comes before any byte counted: nothing is confirmed, and the message goes on
  | recvFailed g' n st recvs hstate hrecv hstate' hack hchain hbuffer hcellular =>
    obtain ⟨m, hm, htoken⟩ := h.sendsThroughEthernet hstate
    have hconfirms := failed_not_confirms (D := E.decodeJWT) c.state.bufferMessage hrecv
    have hsame : g'.chain = c.state.chain := by
      have hadvances := (recvLoop_advances_iff (D := E.decodeJWT) c.state.bufferMessage recvs
        c.state.chain).mpr (hsingle (List.mem_cons_self ..))
      rwa [if_neg (by rw [hconfirms]; decide), ← hchain] at hadvances
    have hawaits : g'.AwaitsReply := by
      rw [Gateway.AwaitsReply, hcellular]
      exact h.awaits (by rw [hstate]; exact nofun)
    have hrest : ∀ e ∈ ((failState st).map GatewayEvent.changeState).toList,
        e.confirms E.decodeJWT = false ∧ e.text = none := by
      cases failState st <;> simp [GatewayEvent.confirms, GatewayEvent.text]
    refine h.keep hsame (List.forall_mem_cons.mpr ⟨hconfirms, fun e he => (hrest e he).1⟩)
      (fun hsends => ⟨m, hm.keep ?_ hsame fun _ => ⟨?_, hbuffer⟩⟩) (fun _ => hawaits)
      (inOrder_sends h.ordered hconfirms hm.current (fun text ht => ?_) hrest)
    · refine List.forall_mem_cons.mpr ⟨fun l => if_neg (by rw [hconfirms]; decide), ?_⟩
      cases failState st <;> simp [Ledger.record, GatewayEvent.confirms]
    · exact h.awaits (by rw [hstate]; exact nofun)
    · exact htoken.trans (Option.some.inj ht)
  -- the modem is at work on the token, and what it writes is that token
  | exchanging g' modem hstate hstate' hack hchain hwrote hawaits =>
    obtain ⟨m, hm⟩ := h.sends (by rw [hstate]; rfl)
    refine h.keep hchain ?_ (fun _ => ⟨m, ?_⟩) (fun hne => ?_) ?_
    · simp [GatewayEvent.confirms]
    · exact hm.keep (record_modem fun x hx => hx) hchain hawaits
    · exact absurd (hstate'.trans hstate) hne
    · refine inOrder_modem h.ordered hm.current fun text ht => ?_
      obtain ⟨rfl, hawaited⟩ := hwrote text ht
      exact hm.token hawaited
  -- the session is over without a reply that confirms, so the next message has the same predecessor
  | unconfirmed g' modem sent hstate hstate' hsent hack hchain hwrote hended =>
    obtain ⟨m, hm⟩ := h.sends (by rw [hstate]; rfl)
    have hmodem := inOrder_modem h.ordered hm.current fun text ht => by
      obtain ⟨rfl, hawaited⟩ := hwrote text ht
      exact hm.token hawaited
    have hrest : ∀ e ∈ sent ++ [.changeState .sensingBatteryStatus],
        e.confirms E.decodeJWT = false ∧ e.text = none := by
      rcases hsent with rfl | ⟨reply, rfl, hreply⟩
      · simp [GatewayEvent.confirms, GatewayEvent.text]
      · cases reply <;> simp_all [GatewayEvent.confirms, GatewayEvent.text]
    refine h.keep hchain (fun e he => ?_) (fun hsends => ?_) (fun _ => hended) ?_
    · rcases List.mem_append.mp he with hmem | hmem
      · obtain ⟨x, -, rfl⟩ := List.mem_map.mp hmem
        rfl
      · exact (hrest e hmem).1
    · rw [hstate'] at hsends
      exact nomatch hsends
    · rw [← List.append_assoc]
      exact inOrder_silent hmodem hrest
  -- the mobile network confirms: the source advances the chain itself
  | confirmed g' modem reply hstate hstate' hreply hack hchain hwrote hended =>
    obtain ⟨m, hm⟩ := h.sends (by rw [hstate]; rfl)
    have hmodem := inOrder_modem h.ordered hm.current fun text ht => by
      obtain ⟨rfl, hawaited⟩ := hwrote text ht
      exact hm.token hawaited
    refine h.confirm hm hchain hstate' hended hreply (record_modem fun x hx => hx) ?_
    rw [← List.append_assoc]
    refine inOrder_confirms (m := m) hmodem ?_ fun text ht => nomatch ht
    rw [ledger_eq (record_modem fun x hx => hx)]
    exact hm.current

end Step

/-! ## A relay cycle

  From the invariant before and after a cycle.  In between at most the last event confirms, since a
  confirmation is followed by the end of the cycle (`InOrder.ends`); so the ledger grows by one
  message or by none, and the chain with it. -/

/-- The cycle ended with a confirmed transmission; `mid` is what happened in it. -/
def EndsConfirmed (D : Bytes → Option Bytes) (mid : List GatewayEvent) : Prop :=
  ∃ e, mid.getLast? = some e ∧ e.confirms D = true

/-- **What a cycle makes of the chain**: it advances by the message that was transmitted if the cycle
    ended with a confirmed transmission, and stays as it was otherwise. -/
structure CycleAdvances (D : Bytes → Option Bytes) (before after : Chain) (mid : List GatewayEvent) :
    Prop where
  confirmed : EndsConfirmed D mid → ∃ m, LastFormatted m mid ∧
    after.sequenceMessageNumber = before.sequenceMessageNumber + 1 ∧ after.prevChainHash = m.curr
  unconfirmed : ¬ EndsConfirmed D mid →
    after.sequenceMessageNumber = before.sequenceMessageNumber ∧
      after.prevChainHash = before.prevChainHash

/-- Confirmed messages are numbered from 0 on, and each names the hash of the one before it. -/
structure ConfirmedLinked (ms : List Formatted) : Prop where
  number : ∀ (k : Nat) (m : Formatted), ms[k]? = some m → m.seq = k
  first : ∀ m, ms[0]? = some m → m.prev = ascii "-"
  link : ∀ (k : Nat) (m m' : Formatted), ms[k]? = some m → ms[k + 1]? = some m' → m'.prev = m.curr

/-- **The chain advances as it should** on the way of the calls `js` from `c`. -/
structure ChainAdvances (E : Platform φ) (c : Config (Gateway φ) GatewayEvent)
    (js : List (Call φ)) : Prop where
  linked : ConfirmedLinked (ledger E.decodeJWT (run (call E) c js).trace).confirmed
  ordered : EachEvent (InOrder E.decodeJWT) (run (call E) c js).trace
  cycle : ∀ i n type mid, (run (call E) c js).trace =
    c.trace ++ .accepted i n type :: (mid ++ [.changeState .sensingBatteryStatus]) →
    .changeState .sensingBatteryStatus ∉ mid →
      CycleAdvances E.decodeJWT c.state.chain (run (call E) c js).state.chain mid

section Cycle

variable {c c' : Config (Gateway φ) GatewayEvent} {mid : List GatewayEvent}

/-- Linked, with the numbers written out. -/
theorem ConfirmedLinked.of_linked {ms : List Formatted}
    (h : Linked Formatted.seq Formatted.prev Formatted.curr 0 (ascii "-") ms) :
    ConfirmedLinked ms where
  number k m hk := by rw [h.number_eq hk, Int.zero_add]
  first m hm := by
    cases ms with
    | nil => simp at hm
    | cons a as =>
      obtain rfl : a = m := by simpa using hm
      exact h.2.1
  link k m m' hk hk' := h.prev_eq hk hk'

/-- In a cycle, only the last event may confirm. -/
theorem confirms_last {t : List GatewayEvent} {a : GatewayEvent}
    (h : EachEvent (InOrder D) (t ++ a :: (mid ++ [.changeState .sensingBatteryStatus])))
    (hmid : .changeState .sensingBatteryStatus ∉ mid) {before after : List GatewayEvent}
    {e : GatewayEvent} (heq : mid = before ++ e :: after) (he : e.confirms D = true) :
    after = [] := by
  have hends := (h (t ++ a :: before) e (after ++ [.changeState .sensingBatteryStatus])
    (by rw [heq]; simp)).ends he
  cases after with
  | nil => rfl
  | cons x after =>
    obtain rfl : x = .changeState .sensingBatteryStatus := by simpa using hends
    exact absurd (by rw [heq]; simp) hmid

/-- **Two sound configurations around a cycle.** -/
theorem ChainSound.cycleAdvances (h : ChainSound D c) (h' : ChainSound D c') {i : Int64} {n : Int32}
    {type : ReceptedTypeMessage} (htrace : c'.trace =
      c.trace ++ .accepted i n type :: (mid ++ [.changeState .sensingBatteryStatus]))
    (hmid : .changeState .sensingBatteryStatus ∉ mid) :
    CycleAdvances D c.state.chain c'.state.chain mid := by
  have hordered := htrace ▸ h'.ordered
  have hledger : ledger D c'.trace =
      mid.foldl (Ledger.record D) ⟨none, (ledger D c.trace).confirmed⟩ := by
    rw [htrace, ledger_append, List.foldl_cons, List.foldl_append]
    rfl
  -- whether the cycle confirmed anything is decided by its last event
  rcases List.eq_nil_or_concat mid with rfl | ⟨before, e, hconcat⟩
  · refine ⟨(fun ⟨e, he, _⟩ => nomatch he), fun _ => ?_⟩
    have hconfirmed : (ledger D c'.trace).confirmed = (ledger D c.trace).confirmed := by
      rw [hledger]
      rfl
    exact ⟨by rw [h.seq, h'.seq, hconfirmed], by rw [h.prev, h'.prev, hconfirmed]⟩
  rw [List.concat_eq_append] at hconcat
  subst hconcat
  -- all events of the cycle but the last one confirm nothing
  have hquiet : ∀ x ∈ before, x.confirms D = false := by
    intro x hx
    obtain ⟨a, b, rfl⟩ := List.append_of_mem hx
    cases hconfirms : x.confirms D with
    | false => rfl
    | true =>
      have hsplit : a ++ x :: b ++ [e] = a ++ x :: (b ++ [e]) := by simp
      have hnil := confirms_last hordered hmid hsplit hconfirms
      simp at hnil
  have hbefore := confirmed_foldl (l := ⟨none, (ledger D c.trace).confirmed⟩) hquiet
  have hlast : (before ++ [e]).getLast? = some e := List.getLast?_concat
  cases hconfirms : e.confirms D with
  -- nothing was confirmed in the cycle, so both ends have the same ledger
  | false =>
    have hconfirmed : (ledger D c'.trace).confirmed = (ledger D c.trace).confirmed := by
      rw [hledger]
      refine confirmed_foldl fun x hx => ?_
      rcases List.mem_append.mp hx with hx | hx
      · exact hquiet x hx
      · rwa [List.mem_singleton.mp hx]
    refine ⟨fun ⟨x, hx, hyes⟩ => ?_, fun _ => ?_⟩
    · obtain rfl := Option.some.inj (hlast.symm.trans hx)
      exact nomatch hconfirms.symm.trans hyes
    · exact ⟨by rw [h.seq, h'.seq, hconfirmed], by rw [h.prev, h'.prev, hconfirmed]⟩
  -- the last event confirms, and the message it confirms was formatted in the cycle
  | true =>
    refine ⟨fun _ => ?_, fun hno => absurd ⟨e, hlast, hconfirms⟩ hno⟩
    obtain ⟨m, hm⟩ := (hordered (c.trace ++ .accepted i n type :: before) e
      [.changeState .sensingBatteryStatus] (by simp)).formatted hconfirms
    have hcurrent : (before.foldl (Ledger.record D)
        ⟨none, (ledger D c.trace).confirmed⟩).current = some m := by
      rw [ledger_append, List.foldl_cons] at hm
      exact hm
    have hconfirmed : (ledger D c'.trace).confirmed = (ledger D c.trace).confirmed ++ [m] := by
      rw [hledger, List.foldl_append, List.foldl_cons, record_confirms hconfirms, hbefore, hcurrent]
      rfl
    refine ⟨m, ?_, ?_, ?_⟩
    · rcases current_foldl hcurrent with ⟨a, b, rfl, hb⟩ | ⟨hnone, -⟩
      · refine ⟨a, b ++ [e], by simp, fun m' hm' => ?_⟩
        rcases List.mem_append.mp hm' with hmem | hmem
        · exact hb m' hmem
        · rw [← List.mem_singleton.mp hmem] at hconfirms
          exact nomatch hconfirms
      · exact nomatch hnone
    · rw [h.seq, h'.seq, hconfirmed, List.length_append]
      simp
    · rw [h'.prev, hconfirmed, lastHash_concat]

end Cycle

/-! ## The result

  Over every run, and every cycle in it.  The condition on the calls is exact for each attempt that
  comes to the receive loop; in a run it has to hold of all of them, for a chain that was once
  counted wrong stays wrong. -/

/-- A gateway that has just started has confirmed nothing. -/
theorem chainSound_initial (recepted : Recepted φ) (RSSI : Int) (position : GNSSData φ)
    (startTime : UInt64) :
    ChainSound D ⟨Gateway.initial recepted RSSI position startTime, []⟩ where
  linked := trivial
  seq := rfl
  prev := rfl
  sends h := nomatch h
  awaits _ := rfl
  ordered := eachEvent_nil

/-- **In every run whose responses come in one chunk, each relay cycle advances the chain by one if it
    ended with a confirmed transmission, and not otherwise**; so the confirmed messages are linked. -/
theorem chain_advances (E : Platform φ) (recepted : Recepted φ) (RSSI : Int)
    (position : GNSSData φ) (startTime : UInt64) (is js : List (Call φ))
    (hchunks : Always (call E) KeepsChain
      ⟨.initial recepted RSSI position startTime, []⟩ (is ++ js)) :
    ChainAdvances E (run (call E) ⟨.initial recepted RSSI position startTime, []⟩ is) js := by
  have hstep (c : Config (Gateway φ) GatewayEvent) (i : Call φ) (hi : KeepsChain c i)
      (hc : ChainSound E.decodeJWT c) := hc.step i hi
  obtain ⟨his, hjs⟩ := always_append.mp hchunks
  have hsound := run_induction_of (chainSound_initial recepted RSSI position startTime) hstep his
  have hsound' := run_induction_of hsound hstep hjs
  exact ⟨.of_linked hsound'.linked, hsound'.ordered,
    fun i n type mid htrace hmid => hsound.cycleAdvances hsound' htrace hmid⟩

/-- The calls up to the last one before a message is accepted. -/
def waits : List (Call Int) := accepts.take 4

/-- The calls that accept the message and relay it through Ethernet, with the given results of
    `recv`. -/
def relaysThroughEthernet (recvs : List Int) : List (Call Int) :=
  accepts.drop 4 ++ acknowledges ++
    [.connectEthernetToLocalNetwork 0, .queryUTCTimeViaRemoteServer, .formatMessage 0,
      .exchangeMessagesThroughEthernet ⟨0, 0, [872], true, recvs⟩]

/-- A response in one chunk. -/
theorem relayed_advances :
    (run (call .reference) startedGateway
        (waits ++ relaysThroughEthernet [10])).state.chain.sequenceMessageNumber = 1 ∧
      ChainAdvances .reference (run (call .reference) startedGateway waits)
        (relaysThroughEthernet [10]) :=
  ⟨by decide +kernel, chain_advances .reference nothingRecepted 0 origin 0 waits
    (relaysThroughEthernet [10])
    ⟨trivial, trivial, trivial, trivial, trivial, trivial, trivial, trivial, trivial, trivial,
      trivial, fun _ _ => rfl, trivial⟩⟩

/-- What such a relay makes of the trace, cut behind the acceptance and before the last event. -/
def relayed (recvs : List Int) : List GatewayEvent :=
  ((run (call .reference) (run (call .reference) startedGateway waits)
    (relaysThroughEthernet recvs)).trace.drop 3).dropLast

/-- **A response in two chunks advances the chain by two.** -/
theorem twoChunks_advance_twice :
    ¬ ChainAdvances .reference (run (call .reference) startedGateway waits)
      (relaysThroughEthernet [10, 10]) := by
  intro h
  have hrun : (run (call .reference) (run (call .reference) startedGateway waits)
          (relaysThroughEthernet [10, 10])).trace =
        (run (call .reference) startedGateway waits).trace ++ .accepted 1 2 .loraLora ::
          (relayed [10, 10] ++ [.changeState .sensingBatteryStatus]) ∧
      .changeState .sensingBatteryStatus ∉ relayed [10, 10] ∧
      (relayed [10, 10]).getLast?.any (GatewayEvent.confirms some) = true ∧
      (run (call .reference) (run (call .reference) startedGateway waits)
          (relaysThroughEthernet [10, 10])).state.chain.sequenceMessageNumber ≠
        (run (call .reference) startedGateway waits).state.chain.sequenceMessageNumber + 1 := by
    decide +kernel
  obtain ⟨htrace, hmid, hconfirmed, htwice⟩ := hrun
  obtain ⟨e, he, hyes⟩ := (Option.any_eq_true _ _).mp hconfirmed
  obtain ⟨m, -, hseq, -⟩ := (h.cycle 1 2 .loraLora _ htrace hmid).confirmed ⟨e, he, hyes⟩
  exact htwice hseq

end GatewayLoRa
