/-
  Acknowledgements on the air: three copies of one frame for every accepted message, and nothing
  else.

  The radio is given packets in `SendingAck` only.  `Answered` says of a trace, cut down to what
  concerns acknowledgements, that it is a sequence of ANSWERS: a message is accepted, three copies
  of its frame are transmitted, `ConnectingEthernet` is entered.  `acks_answer_messages` says that
  in every run of the gateway the trace is answered but for the message that is being acknowledged,
  of which fewer than three copies were sent so far.

  The invariant (`AckState`) has two cases, as `InSession` and `Idle` of one call have: between two
  sessions the trace is answered and the statics are idle; in a session the trace is answered up to
  its message, and what follows are the packets of the session.

  The crux is that `SendingAck` is entered from one place only, an accepted message, and left with
  the third copy.  So a session of the statics is a visit of the state, and the two halves of the
  invariant meet at its two ends: acceptance turns the first into the second, and the last copy
  turns it back.  In between each call of `sendAcknowledgement` is the step lemma of that method;
  all other calls do nothing in this state.
-/

import GatewayLoRa.GatewayCalls

namespace GatewayLoRa

open CMemory Machine SendingAck

variable {φ : Type} {E : Platform φ} {P : Primitives}

/-! ## Answers

  The property, on what is left of a trace when everything else is dropped.  It is an order of
  events as much as a number: an answer is not interrupted by another message. -/

/-- The events that concern acknowledgements. -/
def GatewayEvent.concernsAck : GatewayEvent → Bool
  | .accepted .. | .transmitted _ | .changeState (.connectingEthernet _) => true
  | _ => false

/-- What of a trace concerns acknowledgements. -/
def ackTrace (trace : List GatewayEvent) : List GatewayEvent :=
  trace.filter GatewayEvent.concernsAck

/-- **Every accepted message was answered**: with three copies of the frame of its acknowledgement,
    before `ConnectingEthernet` was entered. -/
inductive Answered (P : Primitives) : List GatewayEvent → Prop
  | nil : Answered P []
  | answer {t : List GatewayEvent} (i : Int64) (n : Int32) (type : ReceptedTypeMessage)
      (st : GatewayStatus) (f : Bytes) (ht : Answered P t) (hf : AckFrame P i n f) :
      Answered P (t ++ [.accepted i n type, .transmitted f, .transmitted f, .transmitted f,
        .changeState (.connectingEthernet st)])

/-- The answer that is under way: a message was accepted, and fewer than three copies of the frame
    of its acknowledgement were transmitted. -/
inductive UnderWay (P : Primitives) : List GatewayEvent → Prop
  | accepted (i : Int64) (n : Int32) (type : ReceptedTypeMessage) :
      UnderWay P [.accepted i n type]
  | copies (i : Int64) (n : Int32) (type : ReceptedTypeMessage) (f : Bytes) (k : Nat)
      (hf : AckFrame P i n f) (hk : k < maxAckSendTries) :
      UnderWay P (.accepted i n type :: List.replicate k (.transmitted f))

/-- **Acknowledgements correspond to accepted messages.** -/
def AcksAnswerMessages (P : Primitives) (trace : List GatewayEvent) : Prop :=
  ∃ done rest, ackTrace trace = done ++ rest ∧ Answered P done ∧ (rest = [] ∨ UnderWay P rest)

/-! ## The invariant

  `AckState` ties the statics to the trace.  That the statics are idle outside a session is needed
  where a session begins: they are not reset at its begin, but at the end of the one before. -/

/-- The packets of a session are copies of the frame. -/
theorem SendingAck.InSession.underWay {i : Int64} {n : Int32} {st : Statics} {sent : List Bytes}
    (h : InSession P i n st sent) (type : ReceptedTypeMessage) :
    UnderWay P (.accepted i n type :: sent.map GatewayEvent.transmitted) := by
  cases hformatted : st.messageFormatted with
  | false =>
    rw [h.unformatted hformatted]
    exact .accepted i n type
  | true =>
    obtain ⟨f, hframe, -, -, hsent⟩ := h.formatted hformatted
    have hcopies : sent = List.replicate sent.length f := List.eq_replicate_iff.mpr ⟨rfl, hsent⟩
    rw [hcopies, List.map_replicate]
    exact .copies i n type f sent.length hframe h.more

/-- The state that acknowledges. -/
def GatewayState.isSendingAck : GatewayState → Bool
  | .sendingAck .. => true
  | _ => false

/-- **The invariant**: between two sessions, or in one. -/
inductive AckState (P : Primitives) (c : Config (Gateway φ) GatewayEvent) : Prop
  | idle (hstate : c.state.currentState.isSendingAck = false) (hidle : Idle c.state.ack)
      (hanswered : Answered P (ackTrace c.trace))
  | session (i : Int64) (n : Int32) (st : GatewayStatus) (type : ReceptedTypeMessage)
      (done : List GatewayEvent) (sent : List Bytes)
      (hstate : c.state.currentState = .sendingAck i n st)
      (htrace : ackTrace c.trace = done ++ .accepted i n type :: sent.map .transmitted)
      (hdone : Answered P done) (hsession : InSession P i n c.state.ack sent)

/-- The invariant gives the property. -/
theorem AckState.acksAnswer {c : Config (Gateway φ) GatewayEvent} (h : AckState P c) :
    AcksAnswerMessages P c.trace := by
  cases h with
  | idle hstate hidle hanswered => exact ⟨_, [], (List.append_nil _).symm, hanswered, Or.inl rfl⟩
  | session i n st type done sent hstate htrace hdone hsession =>
    exact ⟨done, _, htrace, hdone, Or.inr (hsession.underWay type)⟩

/-- What concerns acknowledgements is filtered, -/
theorem ackTrace_append (t u : List GatewayEvent) : ackTrace (t ++ u) = ackTrace t ++ ackTrace u :=
  List.filter_append ..

/-- which keeps packets -/
theorem ackTrace_transmitted (packets : List Bytes) :
    ackTrace (packets.map .transmitted) = packets.map .transmitted := by
  refine List.filter_eq_self.mpr fun e he => ?_
  obtain ⟨p, -, rfl⟩ := List.mem_map.mp he
  rfl

/-- and drops what the modem does. -/
theorem ackTrace_modem (modem : List TransceiverEvent) : ackTrace (modem.map .modem) = [] := by
  refine List.filter_eq_nil_iff.mpr fun e he => ?_
  obtain ⟨m, -, rfl⟩ := List.mem_map.mp he
  exact nofun

/-- A plain change of state has nothing to do with acknowledgements. -/
theorem Moves.not_ack {s s' : GatewayState} (h : Moves s s') :
    s.isSendingAck = false ∧ s'.isSendingAck = false ∧
      (GatewayEvent.changeState s').concernsAck = false := by
  cases h with
  | failedToConnect st _ hs =>
    obtain ⟨st', -, rfl⟩ := Option.map_eq_some_iff.mp hs
    exact ⟨rfl, rfl, rfl⟩
  | failedToSend k st _ hs =>
    obtain ⟨st', -, rfl⟩ := Option.map_eq_some_iff.mp hs
    exact ⟨rfl, rfl, rfl⟩
  | _ => exact ⟨rfl, rfl, rfl⟩

section Step

variable {c : Config (Gateway φ) GatewayEvent}

/-- Outside a session, a step that does not touch the statics and emits nothing of concern. -/
theorem AckState.of_idle (h : AckState P c) {g' : Gateway φ} {events : List GatewayEvent}
    (hstate : c.state.currentState.isSendingAck = false)
    (hstate' : g'.currentState.isSendingAck = false) (hack : g'.ack = c.state.ack)
    (hevents : ackTrace events = []) : AckState P ⟨g', c.trace ++ events⟩ := by
  cases h with
  | idle _ hidle hanswered =>
    refine .idle hstate' (hack ▸ hidle) ?_
    rw [ackTrace_append, hevents, List.append_nil]
    exact hanswered
  | session i n st _ _ _ hsession =>
    rw [hsession] at hstate
    exact nomatch hstate

/-- A step that touches neither the state nor the statics and emits nothing of concern. -/
theorem AckState.of_quiet (h : AckState P c) {g' : Gateway φ}
    (hstate' : g'.currentState = c.state.currentState) (hack : g'.ack = c.state.ack) :
    AckState P ⟨g', c.trace ++ []⟩ := by
  rw [List.append_nil]
  cases h with
  | idle hstate hidle hanswered => exact .idle (hstate' ▸ hstate) (hack ▸ hidle) hanswered
  | session i n st type done sent hstate htrace hdone hsession =>
    exact .session i n st type done sent (hstate'.trans hstate) htrace hdone (hack ▸ hsession)

/-- **Every call keeps the invariant.** -/
theorem AckState.step (hP : E.primitives.Lawful) (h : AckState E.primitives c) (i : Call φ) :
    AckState E.primitives (advance (call E) c i) := by
  have heff := call_effect (E := E) c.state i
  unfold advance
  generalize call E c.state i = res at heff ⊢
  cases heff with
  | quiet g' hstate hsame => exact h.of_quiet hstate hsame.ack
  | moved g' hmoves hsame =>
    obtain ⟨hfrom, hto, hevent⟩ := hmoves.not_ack
    exact h.of_idle hfrom hto hsame.ack (by simp [ackTrace, hevent])
  -- a session begins, with statics that are idle
  | accepted g' i n type hstate hstate' hsame =>
    cases h with
    | session j m st _ _ _ hsession => exact nomatch hstate.symm.trans hsession
    | idle _ hidle hanswered =>
      refine .session i n type.tryingEthernet type (ackTrace c.trace) [] hstate' ?_ hanswered
        (hsame.ack ▸ hidle.inSession)
      rw [ackTrace_append, hstate']
      rfl
  -- a copy goes out, or a part of one, or the back-off is waited for
  | acknowledged g' i n st ticks s hstate hrun hdone hstate' hack hchain =>
    cases h with
    | idle hother =>
      rw [hstate] at hother
      exact nomatch hother
    | session j m st' type done sent hstate₂ htrace hanswered hsession =>
      obtain ⟨rfl, rfl, rfl⟩ : j = i ∧ m = n ∧ st' = st := by
        simpa using hstate₂.symm.trans hstate
      obtain ⟨s', hrun', hnext⟩ := sendAcknowledgement_spec hP hsession ticks c.state.timeout
      obtain rfl := Except.ok.inj (hrun.symm.trans hrun')
      rcases hnext with ⟨-, hsession'⟩ | ⟨hyes, -⟩
      · refine .session j m st' type done (sent ++ s.packets) (hstate'.trans hstate) ?_ hanswered
          (hack ▸ hsession')
        rw [ackTrace_append, htrace, ackTrace_transmitted]
        simp
      · exact nomatch hdone.symm.trans hyes
  -- a session ends: the answer is complete
  | lastAcknowledged g' i n st ticks s hstate hrun hdone hstate' hack hchain =>
    cases h with
    | idle hother =>
      rw [hstate] at hother
      exact nomatch hother
    | session j m st' type done sent hstate₂ htrace hanswered hsession =>
      obtain ⟨rfl, rfl, rfl⟩ : j = i ∧ m = n ∧ st' = st := by
        simpa using hstate₂.symm.trans hstate
      obtain ⟨s', hrun', hnext⟩ := sendAcknowledgement_spec hP hsession ticks c.state.timeout
      obtain rfl := Except.ok.inj (hrun.symm.trans hrun')
      rcases hnext with ⟨hno, -⟩ | ⟨-, hidle, f, hframe, hcopies⟩
      · exact nomatch hdone.symm.trans hno
      · refine .idle (by rw [hstate']; rfl) (hack ▸ hidle) ?_
        have htrace' : ackTrace (c.trace ++ (s.packets.map .transmitted ++
            [.changeState g'.currentState])) = done ++ [.accepted j m type, .transmitted f,
              .transmitted f, .transmitted f, .changeState (.connectingEthernet st')] := by
          have hconn : ackTrace [.changeState (.connectingEthernet st')]
              = [.changeState (.connectingEthernet st')] := rfl
          rw [ackTrace_append, ackTrace_append, htrace, ackTrace_transmitted, hstate', hconn]
          have := congrArg (List.map GatewayEvent.transmitted) hcopies
          rw [List.map_append] at this
          simp only [List.append_assoc, List.cons_append]
          rw [← List.append_assoc (sent.map _), this]
          rfl
        rw [htrace']
        exact .answer j m type st' f hanswered hframe
  -- the frame of a session is in bounds, so there is no such call
  | faulted i n st ticks f hstate hrun =>
    cases h with
    | idle hother =>
      rw [hstate] at hother
      exact nomatch hother
    | session j m st' type done sent hstate₂ htrace hanswered hsession =>
      obtain ⟨rfl, rfl, rfl⟩ : j = i ∧ m = n ∧ st' = st := by
        simpa using hstate₂.symm.trans hstate
      obtain ⟨s', hrun', -⟩ := sendAcknowledgement_spec hP hsession ticks c.state.timeout
      exact nomatch hrun.symm.trans hrun'
  -- from here on the calls are of states that acknowledge nothing
  | formatted g' st seconds hstate hstate' hack hchain hbuffer =>
    refine h.of_idle (by rw [hstate]; rfl) ?_ hack ?_
    · rw [hstate']
      split <;> rfl
    · rw [hstate']
      split <;> rfl
  | retried g' n st hstate hstate' hsame =>
    exact h.of_idle (by rw [hstate]; rfl) (by rw [hstate']; rfl) hsame.ack rfl
  | responded g' n st recvs hstate hrecv hstate' hack hchain =>
    exact h.of_idle (by rw [hstate]; rfl) (by rw [hstate']; rfl) hack rfl
  | recvFailed g' n st recvs hstate hrecv hstate' hack hchain hbuffer =>
    refine h.of_idle (by rw [hstate]; rfl) ?_ hack ?_
    · rw [hstate', hstate]
      cases st <;> rfl
    · cases st <;> rfl
  | exchanging g' modem hstate hstate' hack hchain =>
    exact h.of_idle (by rw [hstate]; rfl) (by rw [hstate', hstate]; rfl) hack (ackTrace_modem modem)
  | unconfirmed g' modem sent hstate hstate' hsent hack hchain =>
    refine h.of_idle (by rw [hstate]; rfl) (by rw [hstate']; rfl) hack ?_
    rw [ackTrace_append, ackTrace_modem]
    rcases hsent with rfl | ⟨reply, rfl, -⟩ <;> rfl
  | confirmed g' modem reply hstate hstate' hreply hack hchain =>
    refine h.of_idle (by rw [hstate]; rfl) (by rw [hstate']; rfl) hack ?_
    rw [ackTrace_append, ackTrace_modem]
    rfl

end Step

/-! ## The result

  Nothing is assumed of the calls.  The primitives have to be lawful, for the length of a frame
  depends on them. -/

/-- **In every run, whatever the timers read, each accepted message is answered with exactly three
    copies of the complete frame of its acknowledgement before `ConnectingEthernet` is entered, and
    no other packet is transmitted.** -/
theorem acks_answer_messages (E : Platform φ) (hP : E.primitives.Lawful) (recepted : Recepted φ)
    (RSSI : Int) (position : GNSSData φ) (startTime : UInt64) (is : List (Call φ)) :
    AcksAnswerMessages E.primitives
      (run (call E) ⟨.initial recepted RSSI position startTime, []⟩ is).trace := by
  have hinit : AckState E.primitives
      ⟨Gateway.initial recepted RSSI position startTime, []⟩ :=
    .idle rfl idle_initial .nil
  exact (run_induction hinit (fun c i hc => hc.step hP i) is).acksAnswer

/-- A run that answers a message: it is accepted, three packets are transmitted, and the state is
    left. -/
theorem acknowledges_answer :
    (ackTrace (run (call .reference) startedGateway (accepts ++ acknowledges)).trace).length = 5 ∧
      AcksAnswerMessages .reference
        (run (call .reference) startedGateway (accepts ++ acknowledges)).trace :=
  ⟨by decide +kernel, acks_answer_messages .reference Primitives.reference_lawful nothingRecepted 0
    origin 0 (accepts ++ acknowledges)⟩

end GatewayLoRa
