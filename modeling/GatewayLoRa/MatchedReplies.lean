/-
  Are the replies of the modem matched to the commands?

  The modem answers each command once, in order: with the information of the command and then `OK`,
  whenever it likes.  A step sends its commands again when the timer runs out, and what was sent
  before is still answered.  Nothing says of an `OK` which command it answers, and nothing is
  flushed when the connection goes on to the next step.

  1. **The dialog** (`Dialog`) — the connection, the commands that are not answered, and the lines
     that are not read.  The modem answers the oldest command; a call reads the oldest line.

  2. **The invariant** (`Conversation`) — what was sent is what was answered and what is pending, in
     order; a line in flight belongs to a command that was answered; information that was retrieved
     is the answer to the command of the step.  The six steps that wait for information cannot be
     misled: only the answer to their own command has it.  A step that waits for `OK` alone takes
     any.  `IdleState` is the first, and there is no older command.  `AttachingToPacketService` and
     `DefinePDPContext` follow steps whose commands may have been sent again.

  3. **The result** (`replies_matched`) — in every run in which these two are entered with nothing
     left unanswered or unread, no step is left before its commands were answered.

  The crux is that an `OK` says nothing, and information does.  For a step with an inquiry,
  `retrived` is the witness: the line it came from is in flight only if its command was answered
  (`genuine`), and no other command has such a line (`IsInformation`).  So when such a step is left,
  its command was answered, and the order of the answers (`fifo`) gives the same for a command that
  it sent before.  For a step without an inquiry there is no witness, and the only way to know is
  that nobody else's answer could be under way (`own`).
-/

import GatewayLoRa.ConnectionSteps
import GatewayLoRa.Lib.Machine

namespace GatewayLoRa

open CMemory Machine

/-! ## The dialog

  Both parties in one state.  The modem is as cooperative as the claim allows: it answers in order,
  once, and with nothing but what the command asks; all that is left open is when. -/

/-- A line of the modem, and the command it belongs to. -/
structure Reply where
  command : Bytes
  line : Bytes
  deriving DecidableEq

/-- The connection and the modem: the commands it has not answered, and the lines of its answers
    that were not read, the oldest first. -/
structure Dialog where
  connection : ConnectionState
  pending : List Bytes
  inFlight : List Reply
  deriving DecidableEq

/-- What happens next. -/
inductive Exchange
  /-- A call of `connectToMobileNetwork`.  `arrives`: it completes the oldest line in flight. -/
  | poll (arrives expired : Bool)
  /-- The modem answers the oldest command, with these lines of information. -/
  | answer (information : List Bytes)
  deriving DecidableEq

/-- What can be seen of the dialog. -/
inductive DialogEvent
  | connection (e : ConnectionEvent)
  | answered (command : Bytes)
  deriving DecidableEq

/-- A line of information that `command` has: no step takes it for the information of another
    command. -/
def IsInformation (command line : Bytes) : Prop :=
  ∀ q ∈ inquiries, (readATResponse 128 (some line)).any q.takes = true → q.command = command

instance (command line : Bytes) : Decidable (IsInformation command line) :=
  inferInstanceAs (Decidable (∀ q ∈ inquiries, _ = true → q.command = command))

/-- The event of a line that is read. -/
def ConnectionEvent.isRead : ConnectionEvent → Bool
  | .read _ => true
  | _ => false

namespace Dialog

/-- `CellularModule` as it is built, and a modem that has heard nothing. -/
def initial : Dialog := ⟨.connectionUnavailableState, [], []⟩

/-- A call of `connectToMobileNetwork`: its commands go to the modem, and the line that it reads is
    gone. -/
def poll (d : Dialog) (arrives expired : Bool) : Dialog × List DialogEvent :=
  let line := if arrives then d.inFlight.head?.map Reply.line else none
  let r := d.connection.enableAndConnect ⟨line, expired⟩
  ({ connection := r.state
     pending := d.pending ++ commandsSent r.events
     inFlight := if r.events.any ConnectionEvent.isRead then d.inFlight.tail else d.inFlight },
    r.events.map .connection)

/-- An answer: the information of the command, then `OK`. -/
def answer (d : Dialog) (information : List Bytes) : Dialog × List DialogEvent :=
  match d.pending with
  | [] => (d, [])
  | command :: pending =>
    if ∀ line ∈ information, IsInformation command line then
      let replies := (information ++ [okLine]).map (Reply.mk command)
      ({ d with pending := pending, inFlight := d.inFlight ++ replies }, [.answered command])
    else (d, [])

/-- **One exchange.** -/
def step (d : Dialog) : Exchange → Dialog × List DialogEvent
  | .poll arrives expired => d.poll arrives expired
  | .answer information => d.answer information

/-- The commands of which an answer is still to come or to be read. -/
def outstanding (d : Dialog) : List Bytes := d.pending ++ d.inFlight.map Reply.command

end Dialog

/-- **Replies are matched**: whenever a state is entered, the modem had answered the commands of the
    step before it. -/
def Matched (trace : List DialogEvent) : Prop :=
  ∀ s : ConnectionState, PrecededBy
    (fun before => ∀ command ∈ commandsAt (s.position - 1), .answered command ∈ before)
    (.connection (.changeConnectionState s)) trace

/-- Nothing is outstanding when `AttachingToPacketService` or `DefinePDPContext` is entered. -/
def EntersSilent (c : Config Dialog DialogEvent) (i : Exchange) : Prop :=
  let d := (c.state.step i).1
  (d.connection.position = 8 ∨ d.connection.position = 9) →
    d.connection.position ≠ c.state.connection.position → d.outstanding = []

/-! ## What the trace says

  The commands that were sent and those that were answered, as two lists, and what the tables of
  `ConnectionSteps` say of the commands of a step. -/

/-- The command that was sent. -/
def DialogEvent.sent : DialogEvent → Option Bytes
  | .connection e => e.sent
  | .answered _ => none

/-- The command that was answered. -/
def DialogEvent.answer : DialogEvent → Option Bytes
  | .connection _ => none
  | .answered command => some command

/-- The commands that were sent, in order. -/
def sentIn (trace : List DialogEvent) : List Bytes := trace.filterMap DialogEvent.sent

/-- The commands that were answered, in order. -/
def answeredIn (trace : List DialogEvent) : List Bytes := trace.filterMap DialogEvent.answer

section Trace

variable {t : List DialogEvent} {es : List ConnectionEvent} {command : Bytes}

/-- The answered commands are the events that say so. -/
theorem mem_answeredIn : command ∈ answeredIn t ↔ .answered command ∈ t := by
  constructor
  · intro h
    obtain ⟨e, he, hanswer⟩ := List.mem_filterMap.mp h
    cases e with
    | connection e => cases hanswer
    | answered c =>
      obtain rfl := Option.some.inj hanswer
      exact he
  · exact fun h => List.mem_filterMap.mpr ⟨_, h, rfl⟩

/-- A call sends its commands, -/
theorem sentIn_call : sentIn (t ++ es.map .connection) = sentIn t ++ commandsSent es := by
  rw [sentIn, List.filterMap_append, List.filterMap_map]
  rfl

/-- and answers none; -/
theorem answeredIn_call : answeredIn (t ++ es.map .connection) = answeredIn t := by
  have hnone : (es.map DialogEvent.connection).filterMap DialogEvent.answer = [] := by
    induction es with
    | nil => rfl
    | cons e es ih => exact ih
  rw [answeredIn, List.filterMap_append, hnone, List.append_nil]
  rfl

/-- an answer sends none, -/
theorem sentIn_answered : sentIn (t ++ [.answered command]) = sentIn t := by
  rw [sentIn, List.filterMap_append]
  exact List.append_nil _

/-- and answers one. -/
theorem answeredIn_answered :
    answeredIn (t ++ [.answered command]) = answeredIn t ++ [command] :=
  List.filterMap_append

/-- The network status is asked with two commands, the second after the first. -/
theorem precededBy_commandsAt (k : Nat) :
    PrecededBy (ascii "AT+CREG=2" ∈ ·) (ascii "AT+CREG?") (commandsAt k) := by
  match k with
  | 5 =>
    exact (precededBy_nil.concat fun h => absurd h (by decide)).concat
      fun _ => List.mem_singleton.mpr rfl
  | 0 | 1 | 2 | 3 | 4 | 6 | 7 | 8 | 9 => exact precededBy_nil.append (by decide)
  | _ + 10 => exact precededBy_nil

/-- A step that takes any `OK` is the first, or one of the last two. -/
theorem takesAny_bringUp {k : Nat} {s : ConnectionState} (h : bringUp[k]? = some s)
    (hs : s.inquiry = none) (hconnected : s.position ≠ 10) :
    k = 0 ∨ s.position = 8 ∨ s.position = 9 := by
  match k, h with
  | 0, _ => exact Or.inl rfl
  | 7, h =>
    obtain rfl := Option.some.inj h
    exact Or.inr (Or.inl rfl)
  | 8, h =>
    obtain rfl := Option.some.inj h
    exact Or.inr (Or.inr rfl)
  | 9, h =>
    obtain rfl := Option.some.inj h
    exact absurd rfl hconnected
  | 1, h | 2, h | 3, h | 4, h | 5, h | 6, h =>
    obtain rfl := Option.some.inj h
    cases hs

/-- The state of a call's event was entered in it. -/
theorem mem_changes {s : ConnectionState}
    (h : .connection (.changeConnectionState s) ∈ es.map DialogEvent.connection) :
    s ∈ changes es := by
  obtain ⟨e, he, heq⟩ := List.mem_map.mp h
  obtain rfl := DialogEvent.connection.inj heq
  exact List.mem_filterMap.mpr ⟨_, he, rfl⟩

/-- A state that is entered has retrieved nothing. -/
theorem hasRetrived_bringUp {k : Nat} {s : ConnectionState} (h : bringUp[k]? = some s) :
    s.hasRetrived = false := by
  match k, h with
  | 0, h | 1, h | 2, h | 3, h | 4, h | 5, h | 6, h | 7, h | 8, h | 9, h =>
    obtain rfl := Option.some.inj h
    rfl

/-- The inquiry of a step is one of the six. -/
theorem mem_inquiries {k : Nat} {q : Inquiry} (h : inquiryAt k = some q) : q ∈ inquiries := by
  match k, h with
  | 2, h | 3, h | 4, h | 5, h | 6, h | 7, h =>
    obtain rfl := Option.some.inj h
    simp [inquiries]

/-- A step that asks for information sends the command that has it, and no other; only the network
    status is asked with one more. -/
theorem commands_of_inquiry {k : Nat} {q : Inquiry} (hq : inquiryAt k = some q)
    (h : command ∈ commandsAt k) : command = q.command ∨
      (command = ascii "AT+CREG=2" ∧ q.command = ascii "AT+CREG?") := by
  match k, hq with
  | 5, hq =>
    obtain rfl := Option.some.inj hq
    rcases List.mem_cons.mp h with rfl | h
    · exact Or.inr ⟨rfl, rfl⟩
    · exact Or.inl (List.mem_singleton.mp h)
  | 2, hq | 3, hq | 4, hq | 6, hq | 7, hq =>
    obtain rfl := Option.some.inj hq
    exact Or.inl (List.mem_singleton.mp h)

/-- A step that asks for none has one command. -/
theorem commands_of_noInquiry {k : Nat} {command' : Bytes} (hk : inquiryAt k = none)
    (h : command ∈ commandsAt k) (h' : command' ∈ commandsAt k) : command = command' := by
  match k, hk with
  | 0, _ | _ + 10, _ => cases h
  | 1, _ | 8, _ | 9, _ => rw [List.mem_singleton.mp h, List.mem_singleton.mp h']

/-- No step takes `OK` for information. -/
theorem isInformation_okLine (command : Bytes) : IsInformation command okLine := by
  have hnone : ∀ q ∈ inquiries, (readATResponse 128 (some okLine)).any q.takes = false := by decide
  intro q hq htakes
  rw [hnone q hq] at htakes
  cases htakes

end Trace

/-! ## The invariant

  Six fields.  The first three are about the modem, `own` and `retrived` about the step that the
  connection is in, and `matched` is the result so far.  The two kinds of exchange keep it in
  different ways: an answer moves a command from `pending` into the answered ones, a call may leave
  a step. -/

/-- **The invariant** of the dialog. -/
structure Conversation (c : Config Dialog DialogEvent) : Prop where
  /-- Each command is answered once, in order. -/
  fifo : sentIn c.trace = answeredIn c.trace ++ c.state.pending
  numbered : PrecededBy (ascii "AT+CREG=2" ∈ ·) (ascii "AT+CREG?") (sentIn c.trace)
  /-- A line in flight is part of an answer. -/
  genuine : ∀ r ∈ c.state.inFlight, r.command ∈ answeredIn c.trace ∧ IsInformation r.command r.line
  /-- Where any `OK` is taken, only the commands of the step are outstanding. -/
  own : c.state.connection.inquiry = none → c.state.connection.position ≠ 10 →
    ∀ command ∈ c.state.outstanding, command ∈ c.state.connection.commands
  retrived : c.state.connection.hasRetrived = true →
    ∀ q ∈ c.state.connection.inquiry, q.command ∈ answeredIn c.trace
  matched : Matched c.trace

section Conversation

variable {d : Dialog} {t : List DialogEvent}

/-- **A step that is left** was answered: on its information, or, where it asks for none, on an `OK`
    that can only be its own. -/
theorem Conversation.leaves (h : Conversation ⟨d, t⟩) {i : ATPoll}
    (hline : ∀ l ∈ i.line, ∃ r ∈ d.inFlight, r.line = l)
    (hok : readATResponse 128 i.line = some okLine)
    (hretrived : d.connection.inquiry.isSome = true → d.connection.hasRetrived = true) :
    ∀ command ∈ d.connection.commands, command ∈ answeredIn t := by
  intro command hcommand
  cases hinquiry : d.connection.inquiry with
  | some q =>
    have hq : q.command ∈ answeredIn t := h.retrived (hretrived (by rw [hinquiry]; rfl)) q hinquiry
    rcases commands_of_inquiry hinquiry hcommand with rfl | ⟨rfl, hsecond⟩
    · exact hq
    -- the second command was answered, so the first one was
    · rw [hsecond] at hq
      obtain ⟨before, after, hanswered⟩ := List.append_of_mem hq
      have hfirst := h.numbered before (after ++ d.pending) <| by
        rw [h.fifo, hanswered, List.append_assoc]
        rfl
      rw [hanswered]
      exact List.mem_append_left _ hfirst
  | none =>
    by_cases hconnected : d.connection.position = 10
    · rw [ConnectionState.commands, hconnected] at hcommand
      cases hcommand
    · obtain ⟨l, hl, -⟩ := Option.map_eq_some_iff.mp hok
      obtain ⟨r, hr, -⟩ := hline l hl
      have hown : r.command ∈ d.connection.commands := h.own hinquiry hconnected _
        (List.mem_append_right _ (List.mem_map_of_mem hr))
      rw [commands_of_noInquiry hinquiry hcommand hown]
      exact (h.genuine r hr).1

/-- **A call of `connect`** keeps the invariant. -/
theorem Conversation.connect (h : Conversation ⟨d, t⟩) {i : ATPoll} {inFlight : List Reply}
    (hline : ∀ l ∈ i.line, ∃ r ∈ d.inFlight, r.line = l) (hsub : ∀ r ∈ inFlight, r ∈ d.inFlight)
    (hsilent : let r := d.connection.connect i
      (r.state.position = 8 ∨ r.state.position = 9) → r.state.position ≠ d.connection.position →
        (Dialog.mk r.state (d.pending ++ commandsSent r.events) inFlight).outstanding = []) :
    let r := d.connection.connect i
    Conversation ⟨⟨r.state, d.pending ++ commandsSent r.events, inFlight⟩,
      t ++ r.events.map .connection⟩ := by
  have hcall := advances_connect d.connection i
  revert hcall hsilent
  generalize d.connection.connect i = r
  intro hsilent hcall
  -- in the same step a command outstanding now was so before, or is one of the step
  have hown (hsame : r.state.position = d.connection.position) {command : Bytes}
      (hcommand : command ∈
        (Dialog.mk r.state (d.pending ++ commandsSent r.events) inFlight).outstanding) :
      command ∈ d.outstanding ∨ command ∈ r.state.commands := by
    rcases List.mem_append.mp hcommand with hcommand | hcommand
    · rcases List.mem_append.mp hcommand with hcommand | hcommand
      · exact Or.inl (List.mem_append_left _ hcommand)
      · rcases hcall.sends with hnone | hall
        · rw [hnone] at hcommand
          cases hcommand
        · rw [hall, ConnectionState.commands, ← hsame] at hcommand
          exact Or.inr hcommand
    · obtain ⟨r', hr', rfl⟩ := List.mem_map.mp hcommand
      exact Or.inl (List.mem_append_right _ (List.mem_map_of_mem (hsub r' hr')))
  constructor
  case fifo =>
    show sentIn (t ++ _) = answeredIn (t ++ _) ++ (d.pending ++ _)
    rw [sentIn_call, answeredIn_call, h.fifo, List.append_assoc]
  case numbered =>
    show PrecededBy _ _ (sentIn (t ++ _))
    rw [sentIn_call]
    refine h.numbered.append_of fun before after heq => List.mem_append_right _ ?_
    rcases hcall.sends with hnone | hall
    · rw [hnone] at heq
      simp at heq
    · rw [hall] at heq
      exact precededBy_commandsAt _ before after heq
  case genuine =>
    intro reply hreply
    show _ ∈ answeredIn (t ++ _) ∧ _
    rw [answeredIn_call]
    exact h.genuine reply (hsub reply hreply)
  -- in the same step, only its own commands were added; in a new one nothing is outstanding
  case own =>
    intro hasks hconnected command hcommand
    rcases hcall.moves with ⟨-, hsame⟩ | ⟨-, hnext, hok, -⟩
    · rcases hown hsame hcommand with hbefore | hown
      · have hd := h.own (by rw [← hasks, ConnectionState.inquiry, ← hsame]; rfl)
          (hsame ▸ hconnected) command hbefore
        rw [ConnectionState.commands, ← hsame] at hd
        exact hd
      · exact hown
    -- it has gone on to a step that takes any OK
    have hposition := position_bringUp hnext
    have hmoved : r.state.position ≠ d.connection.position :=
      hposition ▸ Nat.ne_of_gt (Nat.lt_succ_self _)
    -- the first step, which nothing came before, or the eighth and the ninth, where the condition
    -- says it
    rcases takesAny_bringUp hnext hasks hconnected with hzero | hlate
    · obtain ⟨l, hl, -⟩ := Option.map_eq_some_iff.mp hok
      obtain ⟨reply, hreply, -⟩ := hline l hl
      have hnone := h.own (by rw [ConnectionState.inquiry, hzero]; rfl) (by rw [hzero]; decide) _
        (List.mem_append_right _ (List.mem_map_of_mem hreply))
      rw [ConnectionState.commands, hzero] at hnone
      cases hnone
    · rw [hsilent hlate hmoved] at hcommand
      cases hcommand
  case retrived =>
    intro hhas q hq
    show _ ∈ answeredIn (t ++ _)
    rw [answeredIn_call]
    rcases hcall.moves with ⟨-, hsame⟩ | ⟨-, hnext, -, -⟩
    · have hasked : q ∈ d.connection.inquiry := by
        rw [ConnectionState.inquiry, ← hsame]
        exact hq
      rcases hcall.retrives hsame hhas with hbefore | ⟨l, hl, q', hq', htakes⟩
      · exact h.retrived hbefore q hasked
      -- the line has the information of the step, so it is part of an answer to its command
      · obtain rfl := Option.some.inj (hq'.symm.trans hasked)
        obtain ⟨line, hread, -⟩ := Option.map_eq_some_iff.mp hl
        obtain ⟨reply, hreply, rfl⟩ := hline line hread
        obtain ⟨hanswered, hinformation⟩ := h.genuine reply hreply
        rw [hinformation q' (mem_inquiries hq') (by rw [← hread, hl]; exact htakes)]
        exact hanswered
    -- a step that has just been entered has retrieved nothing
    · rw [hasRetrived_bringUp hnext] at hhas
      cases hhas
  -- a state is entered at most once in a call, when the step before it is left
  case matched =>
    intro s
    rcases hcall.moves with ⟨hnone, -⟩ | ⟨hone, hnext, hok, hretrived⟩
    · refine (h.matched s).append fun hmem => ?_
      have hentered := mem_changes hmem
      rw [hnone] at hentered
      cases hentered
    · refine (h.matched s).append_of fun before after heq command hcommand => ?_
      have hentered : s ∈ changes r.events :=
        mem_changes (heq ▸ List.mem_append_right _ (List.mem_cons_self ..))
      rw [hone] at hentered
      obtain rfl := List.mem_singleton.mp hentered
      rw [position_bringUp hnext] at hcommand
      have hanswered := h.leaves hline hok hretrived command hcommand
      exact List.mem_append_left _ (mem_answeredIn.mp hanswered)

/-- **An answer** keeps the invariant. -/
theorem Conversation.answer (h : Conversation ⟨d, t⟩) (information : List Bytes) :
    Conversation (advance Dialog.step ⟨d, t⟩ (.answer information)) := by
  cases hpending : d.pending with
  | nil =>
    have hnothing : advance Dialog.step ⟨d, t⟩ (.answer information) = ⟨d, t⟩ := by
      simp only [advance, Dialog.step, Dialog.answer, hpending, List.append_nil]
    rw [hnothing]
    exact h
  | cons command pending =>
    by_cases hinformation : ∀ line ∈ information, IsInformation command line
    · have hstep : advance Dialog.step ⟨d, t⟩ (.answer information) =
          ⟨⟨d.connection, pending,
            d.inFlight ++ (information ++ [okLine]).map (Reply.mk command)⟩,
            t ++ [.answered command]⟩ := by
        simp only [advance, Dialog.step, Dialog.answer, hpending, if_pos hinformation]
      have hmono {x : Bytes} (hx : x ∈ answeredIn t) : x ∈ answeredIn (t ++ [.answered command]) :=
        answeredIn_answered (t := t) ▸ List.mem_append_left _ hx
      have hanswered : command ∈ answeredIn (t ++ [.answered command]) :=
        answeredIn_answered (t := t) ▸ List.mem_append_right _ (List.mem_singleton.mpr rfl)
      rw [hstep]
      constructor
      case fifo =>
        show sentIn (t ++ [.answered command]) = answeredIn (t ++ [.answered command]) ++ pending
        rw [sentIn_answered, answeredIn_answered, List.append_assoc]
        have hfifo := h.fifo
        rw [hpending] at hfifo
        exact hfifo
      case numbered =>
        show PrecededBy _ _ (sentIn (t ++ [.answered command]))
        rw [sentIn_answered]
        exact h.numbered
      case genuine =>
        intro r hr
        rcases List.mem_append.mp hr with hr | hr
        · exact ⟨hmono (h.genuine r hr).1, (h.genuine r hr).2⟩
        · obtain ⟨line, hline, rfl⟩ := List.mem_map.mp hr
          rcases List.mem_append.mp hline with hline | hline
          · exact ⟨hanswered, hinformation line hline⟩
          · obtain rfl := List.mem_singleton.mp hline
            exact ⟨hanswered, isInformation_okLine command⟩
      case own =>
        intro hasks hconnected x hx
        refine h.own hasks hconnected x ?_
        -- the command that is answered was pending
        rcases List.mem_append.mp hx with hx | hx
        · exact List.mem_append_left _ (hpending ▸ List.mem_cons_of_mem _ hx)
        obtain ⟨r, hr, rfl⟩ := List.mem_map.mp hx
        rcases List.mem_append.mp hr with hr | hr
        · exact List.mem_append_right _ (List.mem_map_of_mem hr)
        · obtain ⟨line, -, rfl⟩ := List.mem_map.mp hr
          exact List.mem_append_left _ (hpending ▸ List.mem_cons_self ..)
      case retrived => exact fun hretrived q hq => hmono (h.retrived hretrived q hq)
      case matched =>
        exact fun s => (h.matched s).append fun hmem => by cases List.mem_singleton.mp hmem
    · have hnothing : advance Dialog.step ⟨d, t⟩ (.answer information) = ⟨d, t⟩ := by
        simp only [advance, Dialog.step, Dialog.answer, hpending, if_neg hinformation,
          List.append_nil]
      rw [hnothing]
      exact h

/-- An event that sends nothing keeps the invariant, unless it leaves a step. -/
theorem Conversation.event (h : Conversation ⟨d, t⟩) {e : ConnectionEvent} (hsent : e.sent = none)
    (hentered : ∀ s, e = .changeConnectionState s → commandsAt (s.position - 1) = []) :
    Conversation ⟨d, t ++ [.connection e]⟩ := by
  have hnone : commandsSent [e] = [] := List.filterMap_cons_none hsent
  have hsentIn : sentIn (t ++ [.connection e]) = sentIn t := by
    rw [← List.map_singleton, sentIn_call, hnone, List.append_nil]
  have hansweredIn : answeredIn (t ++ [.connection e]) = answeredIn t := by
    rw [← List.map_singleton, answeredIn_call]
  constructor
  case fifo =>
    show sentIn (t ++ [.connection e]) = answeredIn (t ++ [.connection e]) ++ d.pending
    rw [hsentIn, hansweredIn]
    exact h.fifo
  case numbered =>
    show PrecededBy _ _ (sentIn (t ++ [.connection e]))
    rw [hsentIn]
    exact h.numbered
  case genuine =>
    intro r hr
    show _ ∈ answeredIn (t ++ [.connection e]) ∧ _
    rw [hansweredIn]
    exact h.genuine r hr
  case own => exact h.own
  case retrived =>
    intro hhas q hq
    show _ ∈ answeredIn (t ++ [.connection e])
    rw [hansweredIn]
    exact h.retrived hhas q hq
  case matched =>
    refine fun s => (h.matched s).concat fun heq command hcommand => ?_
    rw [hentered s (DialogEvent.connection.inj heq)] at hcommand
    cases hcommand

/-- Where the connection is enabled, nothing is outstanding. -/
theorem Conversation.enable (h : Conversation ⟨d, t⟩) :
    Conversation ⟨{ d with connection := d.connection.enableConnection.1 },
      t ++ d.connection.enableConnection.2.map .connection⟩ := by
  obtain ⟨connection, pending, inFlight⟩ := d
  cases connection with
  | connectionUnavailableState =>
    have hnothing : ∀ command ∈ Dialog.outstanding ⟨_, pending, inFlight⟩,
        command ∈ ([] : List Bytes) := h.own rfl (show 0 ≠ 10 by decide)
    have hentered := h.event (e := .changeConnectionState (.idleState true 0)) rfl fun s hs => by
      obtain rfl := ConnectionEvent.changeConnectionState.inj hs
      rfl
    exact ⟨hentered.fifo, hentered.numbered, hentered.genuine,
      fun _ _ command hcommand => absurd (hnothing command hcommand) List.not_mem_nil, nofun,
      hentered.matched⟩
  | _ =>
    show Conversation ⟨_, t ++ []⟩
    rw [List.append_nil]
    exact h

/-- **A call of `connectToMobileNetwork`** keeps the invariant. -/
theorem Conversation.poll (h : Conversation ⟨d, t⟩) {arrives expired : Bool}
    (hsilent : EntersSilent ⟨d, t⟩ (.poll arrives expired)) :
    Conversation (advance Dialog.step ⟨d, t⟩ (.poll arrives expired)) := by
  let line := if arrives then d.inFlight.head?.map Reply.line else none
  let enabled := d.connection.enableConnection
  let r := enabled.1.connect ⟨line, expired⟩
  let events := enabled.2 ++ r.events ++ [.status r.status]
  let inFlight := if events.any ConnectionEvent.isRead then d.inFlight.tail else d.inFlight
  have hline : ∀ l ∈ line, ∃ reply ∈ d.inFlight, reply.line = l := by
    intro l hl
    dsimp only [line] at hl
    split at hl
    · obtain ⟨reply, hreply, heq⟩ := Option.map_eq_some_iff.mp hl
      exact ⟨reply, List.mem_of_mem_head? hreply, heq⟩
    · cases hl
  have hsub : ∀ reply ∈ inFlight, reply ∈ d.inFlight := by
    intro reply hreply
    dsimp only [inFlight] at hreply
    split at hreply
    · exact List.mem_of_mem_tail hreply
    · exact hreply
  have henabled : commandsSent enabled.2 = [] ∧
      (enabled.1 = d.connection ∨ d.connection.position = 0) := by
    dsimp only [enabled]
    cases d.connection with
    | connectionUnavailableState => exact ⟨rfl, Or.inr rfl⟩
    | _ => exact ⟨rfl, Or.inl rfl⟩
  have hsent : commandsSent events = commandsSent r.events := by
    rw [commandsSent_append, commandsSent_append, henabled.1]
    exact List.append_nil _
  have hconnect := h.enable.connect (i := ⟨line, expired⟩) hline hsub fun hlate hmoved => by
    have hfrom : r.state.position ≠ d.connection.position := by
      rcases henabled.2 with hsame | hzero
      · exact hsame ▸ hmoved
      · rw [hzero]
        rcases hlate with h8 | h9
        · exact h8 ▸ by decide
        · exact h9 ▸ by decide
    have hnothing := hsilent hlate hfrom
    show (Dialog.mk r.state (d.pending ++ commandsSent r.events) inFlight).outstanding = []
    rw [← hsent]
    exact hnothing
  have hstatus := hconnect.event (e := .status r.status) rfl nofun
  show Conversation ⟨⟨r.state, d.pending ++ commandsSent events, inFlight⟩,
    t ++ events.map .connection⟩
  rw [hsent, List.map_append, List.map_append, ← List.append_assoc, ← List.append_assoc]
  exact hstatus

/-- **One exchange** keeps the invariant. -/
theorem Conversation.step {c : Config Dialog DialogEvent} {i : Exchange}
    (hsilent : EntersSilent c i) (h : Conversation c) : Conversation (advance Dialog.step c i) := by
  cases i with
  | poll arrives expired => exact h.poll hsilent
  | answer information => exact h.answer information

end Conversation

/-! ## The result

  The condition is one on runs, at the two places where an `OK` of an older command could be
  waiting. -/

/-- Nothing was said yet. -/
theorem conversation_initial : Conversation ⟨.initial, []⟩ :=
  ⟨rfl, precededBy_nil, nofun, fun _ _ _ h => h, nofun, fun _ => precededBy_nil⟩

/-- **The result**: in every run in which nothing is outstanding when `AttachingToPacketService` or
    `DefinePDPContext` is entered, replies are matched. -/
theorem replies_matched (is : List Exchange)
    (hsilent : Always Dialog.step EntersSilent ⟨.initial, []⟩ is) :
    Matched (run Dialog.step ⟨.initial, []⟩ is).trace :=
  (run_induction_of conversation_initial (fun _ _ hsilent h => h.step hsilent) hsilent).matched

instance (c : Config Dialog DialogEvent) (i : Exchange) : Decidable (EntersSilent c i) :=
  inferInstanceAs (Decidable (_ ∨ _ → _ ≠ _ → _ = []))

/-- A step sends its command, the modem answers, and the step reads the answer. -/
def prompt (information : List String) : List Exchange :=
  [.poll false false, .answer (information.map ascii)] ++
    List.replicate (information.length + 1) (.poll true false)

/-- The steps before `RetrievingTimeAndDate`, each answered at once. -/
def untilTimeAndDate : List Exchange :=
  prompt ["Quectel"] ++ prompt ["+CSQ: 20,99"] ++ prompt ["867698041234567"] ++
    prompt ["+CPIN: READY"] ++
    [.poll false false, .answer [], .answer [ascii "+CREG: 2,1,\"1A2B\",\"1C3D4E5\",7"],
      .poll true false, .poll true false, .poll true false] ++
    prompt ["+QNWINFO: \"FDD LTE\",\"72207\",\"LTE BAND 4\",2175"]

/-- What the modem knows of the time. -/
def timeAndDate : String := "+QLTS: \"2025/01/02,03:04:05-12,0\""

/-- A modem that answers before the timer runs out. -/
theorem prompt_replies_matched :
    Matched (run Dialog.step ⟨.initial, []⟩
      (untilTimeAndDate ++ prompt [timeAndDate] ++ prompt [] ++ prompt [])).trace :=
  replies_matched _ (by decide +kernel)

/-- The timer of `RetrievingTimeAndDate` runs out, and its command is sent again.  The first answer
    comes late, the second when the connection has gone on. -/
def asksTimeTwice : List Exchange :=
  untilTimeAndDate ++ [.poll false true, .poll false false, .answer [ascii timeAndDate],
    .poll true false, .poll true false, .answer [ascii timeAndDate], .poll true false]

/-- **The second `OK` is taken for the answer to `AT+CGATT=1`**, which has none yet. -/
theorem second_answer_misleads :
    ¬ Matched (run Dialog.step ⟨.initial, []⟩ (asksTimeTwice ++ [.poll true false])).trace := by
  intro h
  have hlast : (run Dialog.step ⟨.initial, []⟩ (asksTimeTwice ++ [.poll true false])).trace =
      ((run Dialog.step ⟨.initial, []⟩ asksTimeTwice).trace ++ [.connection (.read okLine)]) ++
        .connection (.changeConnectionState (.definePDPContext true 0)) ::
          [.connection (.status .tryingToConnect)] := by
    decide +kernel
  have hattached := h (.definePDPContext true 0) _ _ hlast (ascii "AT+CGATT=1") (by decide)
  revert hattached
  decide +kernel

end GatewayLoRa
