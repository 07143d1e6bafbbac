/-
  How far the damage of a lost packet reaches.

  A sender emits frames, each cut into packets, and any of the packets may be lost.  A gateway that
  receives two consecutive frames completely should by the end of the first have accepted a message,
  or else hand the second to `processLoRaMessage` byte for byte.

  The argument follows the statics through the two frames (`Phase`).  Whatever the accumulator
  held before frame `k`, it held no delimiter; so the first delimiter found is the one that ends
  frame `k`, and nothing is left behind it.  Frame `k + 1` is then read into an empty accumulator.
  Three things break this: a delimiter that an earlier read left unsearched in the accumulator; a
  bar that is left at its end when frame `k` has no body, for the two make a delimiter that ends in
  the middle of the frame's own; and the limit of 51 inserts when it wipes the first half of frame
  `k`'s delimiter.  The theorem `next_frame_handed` excludes exactly these, and a frame `k + 1`
  without a body, which is never handed.

  The crux is the invariant of the first frame (`InFirst`): whatever the accumulator held before it
  stays in front of its packets until its delimiter is found, or else the limit has wiped a part of
  them; in both cases the last packet ends the only delimiter there is, and nothing is left.
-/

import GatewayLoRa.Framing

namespace GatewayLoRa

open CMemory Machine Delimiter

namespace WaitingForMessage

/-! ## Frames and traffic

  A frame is what a sender emits, so its body holds no delimiter and no bar at its ends; which
  packets carry it is left open.  What came before is any part of any number of frames, in order,
  under any polls. -/

/-- A frame as the sender emits it: a body and the packets that carry it and its `||`. -/
structure Frame where
  body : Bytes
  packets : List Bytes
  cut : Cuts packets body
  nulFree : NulFree body
  short : body.length < readBufferSize
  clean : Clean bar body
  head : body.head? ≠ some bar
  last : body.getLast? ≠ some bar

/-- The statics that a run reaches on what is left of the frames that were sent, every poll of it
    meeting `P`. -/
def ReachedUnder (P : Reception → Poll → Prop) (sent : List Frame) (received : List Bytes)
    (polls : List Poll) (st : Statics) : Prop :=
  received.Sublist (sent.flatMap (·.packets)) ∧
    Always poll (fun c i => P c.state i) ⟨⟨received, .initial⟩, []⟩ polls ∧
    (run poll ⟨⟨received, .initial⟩, []⟩ polls).state.statics = st

/-- A message is accepted before any packet behind frame `k` is read. -/
def AcceptedWithin (k : Frame) (trace : List Event) : Prop :=
  ∃ before text after, trace = before ++ .accepted text :: after ∧ reads before <+: k.packets

/-- **Recovery**: when the polls have read both frames and nothing is pending, a message was
    accepted by the end of the first or the second was handed. -/
def Recovers (st : Statics) (k k' : Frame) (polls : List Poll) : Prop :=
  let c := run poll ⟨⟨k.packets ++ k'.packets, st⟩, []⟩ polls
  c.state.radio = [] → c.state.statics.messageReceived = false →
    AcceptedWithin k c.trace ∨ k'.body ∈ handed c.trace

/-! ## Reading a frame

  Two facts about bytes.  They are all that is needed to know of a delimiter that it is the one at
  the end. -/

namespace Frame

variable {k : Frame}

/-- What holds no delimiter makes none with a frame that follows it, up to the frame's own: a body
    neither begins nor ends with a bar, and without a body the bar must not stand before it. -/
theorem clean_append {a : Bytes} (hsep : k.body ≠ [] ∨ a.getLast? ≠ some bar) (ha : Clean bar a) :
    Clean bar (a ++ k.body ++ [bar]) := by
  refine clean_append_iff.mpr ⟨clean_append_iff.mpr ⟨ha, k.clean, ?_⟩, clean_singleton _, ?_⟩
  · rintro ⟨-, hh⟩
    exact k.head hh
  · rintro ⟨hl, -⟩
    by_cases hbody : k.body = []
    · rw [hbody, List.append_nil] at hl
      exact hsep.resolve_left (fun h => h hbody) hl
    · rw [List.getLast?_append, List.getLast?_eq_some_getLast hbody, Option.some_or,
        ← List.getLast?_eq_some_getLast hbody] at hl
      exact k.last hl

/-- A body with half its delimiter holds none. -/
theorem clean_body (k : Frame) : Clean bar (k.body ++ [bar]) :=
  clean_append_iff.mpr ⟨k.clean, clean_singleton _, fun h => k.last h.1⟩

end Frame

/-- A part of a frame that ends it holds one delimiter, at its end, or only half of one. -/
theorem split_suffix {k : Frame} {s t : Bytes} (h : s ++ t = k.body ++ [bar, bar]) :
    (∃ u, t = u ++ [bar, bar] ∧ split bar t = some (u, [])) ∨ t.length ≤ 1 := by
  rcases Nat.lt_or_ge t.length 2 with hlt | hge
  · exact Or.inr (by omega)
  · left
    have hends : [bar, bar] <:+ s ++ t := by
      rw [h]
      exact List.suffix_append k.body [bar, bar]
    have hsuffix : [bar, bar] <:+ t :=
      List.suffix_of_suffix_length_le hends (List.suffix_append s t) hge
    obtain ⟨u, rfl⟩ := hsuffix
    refine ⟨u, rfl, ?_⟩
    have hbody : s ++ u = k.body := by
      rw [← List.append_assoc] at h
      exact (List.append_inj' h rfl).1
    have hclean := k.clean_body
    rw [← hbody, List.append_assoc] at hclean
    exact split_of_clean hclean.right []

/-! ## The statics before the two frames

  Of the traffic before only this much is kept.  It is an invariant of every reception whose reads
  complete one frame at most, however much was lost. -/

/-- **What a reception that completes one frame at a time never loses**: the accumulator holds no
    delimiter, and the counter is at its start while a frame is pending. -/
structure Searched (st : Statics) : Prop where
  clean : Clean bar st.accumulatedBuffer
  count : st.stringInsertCount ≤ 51
  pending : st.messageReceived = true → st.stringInsertCount = 0

/-- A poll leaves no delimiter behind. -/
theorem searched_step {c : Config Reception Event} {i : Poll}
    (hlen : ∀ p ∈ c.state.radio, p.length ≤ 255) (hone : CompletesOne c.state i)
    (h : Searched c.state.statics) :
    (∀ p ∈ (advance poll c i).state.radio, p.length ≤ 255) ∧
      Searched (advance poll c i).state.statics := by
  obtain ⟨hclean, hcount, hpend⟩ := h
  unfold advance
  have heff := poll_effect i hlen
  generalize poll c.state i = res at heff ⊢
  have htail : ∀ q radio, c.state.radio = q :: radio → ∀ p ∈ radio, p.length ≤ 255 :=
    fun q radio hradio p hp => hlen p (by rw [hradio]; exact List.mem_cons_of_mem q hp)
  cases heff with
  | nothing statics hst =>
    rcases hst with rfl | rfl
    · exact ⟨hlen, hclean, hcount, hpend⟩
    · exact ⟨hlen, hclean, hcount, hpend⟩
  | emptyPacket radio htakes hradio => exact ⟨htail _ _ hradio, hclean, hcount, hpend⟩
  | limit packet radio htakes hradio hne hlimit =>
    exact ⟨htail _ _ hradio, clean_nil, Nat.zero_le 51, fun _ => rfl⟩
  | frame packet radio full rest htakes hradio hne hlt hsplit =>
    exact ⟨htail _ _ hradio, hone htakes packet radio full rest hradio hlt hsplit, Nat.zero_le 51,
      fun _ => rfl⟩
  | insert packet radio htakes hradio hne hlt hsplit =>
    exact ⟨htail _ _ hradio, split_eq_none_iff.mp hsplit, hlt,
      fun hp => absurd (htakes.2.1.symm.trans hp) (by decide)⟩
  | emptyFrame hpending hfull => exact ⟨hlen, clean_nil, hcount, fun hp => nomatch hp⟩
  | rejected hpending hfull hprocess => exact ⟨hlen, hclean, hcount, fun hp => nomatch hp⟩
  | unparsed text hpending hfull hprocess hparse =>
    exact ⟨hlen, clean_nil, Nat.zero_le 51, fun _ => rfl⟩
  | accepted text hpending hfull hprocess hparse =>
    exact ⟨hlen, clean_nil, Nat.zero_le 51, fun _ => rfl⟩

/-- So it is when the two frames begin. -/
theorem searched_of_reached {sent : List Frame} {received : List Bytes} {polls : List Poll}
    {st : Statics} (h : ReachedUnder CompletesOne sent received polls st) : Searched st := by
  obtain ⟨hsub, halways, rfl⟩ := h
  have hlen : ∀ p ∈ received, p.length ≤ 255 := by
    intro p hp
    obtain ⟨k, -, hk⟩ := List.mem_flatMap.mp (hsub.subset hp)
    exact (k.cut.packet_len p hk).2
  exact (run_induction_of
    (I := fun c => (∀ p ∈ c.state.radio, p.length ≤ 255) ∧ Searched c.state.statics)
    ⟨hlen, clean_nil, Nat.zero_le 51, fun _ => rfl⟩
    (fun c i hone hinv => searched_step hinv.1 hone hinv.2) halways).2

/-! ## Through the two frames

  A phase is left in one direction only, and each has its own reason why a poll stays in it or goes
  on. -/

section Phases

variable {st : Statics} {k k' : Frame}

/-- What was accepted stays so. -/
theorem AcceptedWithin.append {trace : List Event} (h : AcceptedWithin k trace) (t : List Event) :
    AcceptedWithin k (trace ++ t) := by
  obtain ⟨before, text, after, rfl, hreads⟩ := h
  exact ⟨before, text, after ++ t, by simp, hreads⟩

/-- While frame `k` is being read: `done` are its packets so far.  Either nothing was wiped, and
    the accumulator holds them behind something that makes no delimiter with the frame, or the
    limit wiped the first of them and it holds the others. -/
structure InFirst (st : Statics) (k k' : Frame) (c : Config Reception Event)
    (done rest : List Bytes) : Prop where
  packets : done ++ rest = k.packets
  more : rest ≠ []
  radio : c.state.radio = rest ++ k'.packets
  reads : reads c.trace = done
  pending : c.state.statics.messageReceived = true →
    done = [] ∧ c.state.statics.stringInsertCount = 0
  buffer : (∃ a, Clean bar (a ++ k.body ++ [bar]) ∧
      c.state.statics.accumulatedBuffer = a ++ done.flatten ∧
      c.state.statics.stringInsertCount = st.stringInsertCount + done.length ∧
      c.state.statics.stringInsertCount ≤ 51) ∨
    (∃ wiped kept, done = wiped ++ kept ∧ c.state.statics.accumulatedBuffer = kept.flatten ∧
      c.state.statics.stringInsertCount = kept.length ∧
      st.stringInsertCount + wiped.length = 52)

/-- Between the frames: frame `k` has been read, nothing of it is held back, and its body may be
    waiting to be processed. -/
structure Between (k k' : Frame) (c : Config Reception Event) : Prop where
  radio : c.state.radio = k'.packets
  reads : reads c.trace = k.packets
  buffer : c.state.statics.accumulatedBuffer = []
  count : c.state.statics.stringInsertCount = 0

/-- Where a run through the two frames stands. -/
inductive Phase (st : Statics) (k k' : Frame) (c : Config Reception Event) : Prop
  | accepted (h : AcceptedWithin k c.trace)
  | inFirst (done rest : List Bytes) (h : InFirst st k k' c done rest)
  | between (h : Between k k' c)
  | inSecond (done rest : List Bytes) (h : Reading k'.packets c.state done rest)
  | complete (h : Complete k'.body c.state)
  | handed (h : k'.body ∈ handed c.trace)

/-- Frame `k` has a body, or what stands before it does not end with half a delimiter: else its own
    delimiter would be found one byte too early, and the other half left behind. -/
def Separated (st : Statics) (k : Frame) : Prop :=
  k.body ≠ [] ∨ st.accumulatedBuffer.getLast? ≠ some bar

/-- The limit does not strike between the two halves of the delimiter of frame `k`. -/
def LimitSpares (st : Statics) (k : Frame) : Prop :=
  ¬ (st.stringInsertCount + k.packets.length = 53 ∧ k.packets.getLast? = some [bar])

/-- The packets of both frames are of the radio's size. -/
theorem InFirst.packet_len {c : Config Reception Event} {done rest : List Bytes}
    (h : InFirst st k k' c done rest) : ∀ p ∈ c.state.radio, p.length ≤ 255 := by
  intro p hp
  rw [h.radio] at hp
  rcases List.mem_append.mp hp with hp | hp
  · exact (k.cut.packet_len p (by rw [← h.packets]; exact List.mem_append_right _ hp)).2
  · exact (k'.cut.packet_len p hp).2

/-- All of frame `k` but its last packet: no delimiter yet. -/
theorem InFirst.split_none {c : Config Reception Event} {done rest : List Bytes} {p : Bytes}
    (h : InFirst st k k' c done (p :: rest)) (hrest : rest ≠ []) :
    split bar (c.state.statics.accumulatedBuffer ++ p) = none := by
  rw [split_eq_none_iff]
  obtain ⟨z, hz⟩ := k.cut.not_last h.packets hrest
  rcases h.buffer with ⟨a, hclean, hacc, -, -⟩ | ⟨wiped, kept, hdone, hacc, -, -⟩
  · rw [List.append_assoc, ← hz] at hclean
    rw [hacc, List.append_assoc]
    rw [← List.append_assoc] at hclean
    exact hclean.left
  · have hclean := k.clean_body
    rw [← hz, hdone, List.flatten_append, List.append_assoc wiped.flatten] at hclean
    rw [hacc]
    rw [List.append_assoc] at hclean
    exact hclean.right.left

/-- The last packet of frame `k` ends the delimiter and leaves nothing behind it, unless the limit
    wiped all but half of the delimiter. -/
theorem InFirst.split_last {c : Config Reception Event} {done : List Bytes} {p : Bytes}
    (h : InFirst st k k' c done [p]) (hlimit : LimitSpares st k) :
    ∃ full, split bar (c.state.statics.accumulatedBuffer ++ p) = some (full, []) := by
  have hlast := k.cut.last_packet h.packets
  rcases h.buffer with ⟨a, hclean, hacc, -, -⟩ | ⟨wiped, kept, hdone, hacc, hcount, hwiped⟩
  · refine ⟨a ++ k.body, ?_⟩
    rw [hacc, List.append_assoc, hlast, ← List.append_assoc]
    exact split_of_clean hclean []
  · rw [hdone, List.flatten_append, List.append_assoc] at hlast
    rw [hacc]
    rcases split_suffix hlast with ⟨u, -, hsplit⟩ | hshort
    · exact ⟨u, hsplit⟩
    · -- one byte is left, so the limit struck right before a packet that is a lone bar
      exfalso
      have hmem : ∀ q ∈ k.packets, 0 < q.length := fun q hq => (k.cut.packet_len q hq).1
      rw [← h.packets, hdone] at hmem
      have hp : 0 < p.length := hmem p (by simp)
      rw [List.length_append] at hshort
      have hkept : kept = [] := by
        cases kept with
        | nil => rfl
        | cons q kept =>
          have := hmem q (by simp)
          rw [List.flatten_cons, List.length_append] at hshort
          omega
      subst hkept
      have hbar : p = [bar] := by
        obtain ⟨b, rfl⟩ := List.length_eq_one_iff.mp (show p.length = 1 by omega)
        have hend := congrArg List.getLast? hlast
        simp only [List.flatten_nil, List.nil_append] at hend
        rw [List.getLast?_append, List.getLast?_append] at hend
        simpa using hend
      rw [List.append_nil] at hdone
      refine hlimit ⟨?_, ?_⟩
      · rw [← h.packets, hdone, List.length_append, List.length_singleton]
        omega
      · rw [← h.packets, hbar]
        simp

/-- **One poll while frame `k` is being read.** -/
theorem InFirst.step {c : Config Reception Event} {done rest : List Bytes}
    (h : InFirst st k k' c done rest) (hlimit : LimitSpares st k) (i : Poll) :
    Phase st k k' (advance poll c i) := by
  have heff := poll_effect i h.packet_len
  unfold advance
  generalize poll c.state i = res at heff ⊢
  have hfew := k.cut.few
  have hpackets := congrArg List.length h.packets
  rw [List.length_append] at hpackets
  have hmore := List.length_pos_iff.mpr h.more
  cases heff with
  | nothing statics hst =>
    refine .inFirst done rest ?_
    rcases hst with rfl | rfl
    · exact ⟨h.packets, h.more, h.radio, by simpa using h.reads, h.pending, h.buffer⟩
    · exact ⟨h.packets, h.more, h.radio, by simpa using h.reads, h.pending, h.buffer⟩
  | emptyPacket radio htakes hradio =>
    obtain ⟨rest', rfl, -⟩ := next_packet h.more (h.radio.symm.trans hradio)
    have := (k.cut.packet_len [] (by rw [← h.packets]; simp)).1
    exact absurd this (by simp)
  -- the limit wipes what there is, the packet included; it strikes once, since a frame has too few
  -- packets for two
  | limit packet radio htakes hradio hne hcount =>
    obtain ⟨rest', rfl, rfl⟩ := next_packet h.more (h.radio.symm.trans hradio)
    have hreads : WaitingForMessage.reads (c.trace ++ [Event.read packet]) = done ++ [packet] := by
      rw [reads_append, h.reads]
      rfl
    rcases h.buffer with ⟨a, -, -, hstart, hle⟩ | ⟨wiped, kept, hdone, -, hkept, -⟩
    · by_cases hrest : rest' = []
      · subst hrest
        exact .between ⟨rfl, hreads.trans h.packets, rfl, rfl⟩
      · refine .inFirst (done ++ [packet]) rest' ⟨?_, hrest, rfl, hreads, (fun hp => nomatch hp),
          Or.inr ⟨done ++ [packet], [], by simp, rfl, rfl, ?_⟩⟩
        · rw [← h.packets]
          simp
        · rw [List.length_append, List.length_singleton]
          omega
    · exfalso
      have := congrArg List.length hdone
      rw [List.length_append] at this
      omega
  -- a delimiter can only be the frame's own, and that ends with its last packet
  | frame packet radio full after htakes hradio hne hlt hsplit =>
    obtain ⟨rest', rfl, rfl⟩ := next_packet h.more (h.radio.symm.trans hradio)
    have hreads : WaitingForMessage.reads (c.trace ++ [Event.read packet, Event.completed full])
        = done ++ [packet] := by
      rw [reads_append, h.reads]
      rfl
    by_cases hrest : rest' = []
    · subst hrest
      obtain ⟨full', hsplit'⟩ := h.split_last hlimit
      rw [hsplit] at hsplit'
      obtain ⟨rfl, rfl⟩ : full = full' ∧ after = [] := by simpa using hsplit'
      exact .between ⟨rfl, hreads.trans h.packets, rfl, rfl⟩
    · exact nomatch hsplit.symm.trans (h.split_none hrest)
  -- no delimiter: the packet was not the last one
  | insert packet radio htakes hradio hne hlt hsplit =>
    obtain ⟨rest', rfl, rfl⟩ := next_packet h.more (h.radio.symm.trans hradio)
    have hreads : WaitingForMessage.reads (c.trace ++ [Event.read packet]) = done ++ [packet] := by
      rw [reads_append, h.reads]
      rfl
    by_cases hrest : rest' = []
    · subst hrest
      obtain ⟨full', hsplit'⟩ := h.split_last hlimit
      exact nomatch hsplit.symm.trans hsplit'
    · have hflat : (done ++ [packet]).flatten = done.flatten ++ packet := by simp
      refine .inFirst (done ++ [packet]) rest' ⟨?_, hrest, rfl, hreads,
        (fun hp => absurd (htakes.2.1.symm.trans hp) (by decide)), ?_⟩
      · rw [← h.packets]
        simp
      · rcases h.buffer with ⟨a, ha, hacc, hcount, hle⟩ | ⟨wiped, kept, rfl, hacc, hkept, hwiped⟩
        · refine Or.inl ⟨a, ha, ?_, ?_, hlt⟩
          · show c.state.statics.accumulatedBuffer ++ packet = _
            rw [hacc, hflat, List.append_assoc]
          · show c.state.statics.stringInsertCount + 1 = _
            rw [List.length_append, List.length_singleton, hcount]
            omega
        · refine Or.inr ⟨wiped, kept ++ [packet], by simp, ?_, ?_, hwiped⟩
          · show c.state.statics.accumulatedBuffer ++ packet = _
            rw [hacc]
            simp
          · show c.state.statics.stringInsertCount + 1 = _
            rw [List.length_append, List.length_singleton, hkept]
  -- a frame from before is dropped, and with it what stood in front
  | emptyFrame hpending hfull =>
    obtain ⟨rfl, hzero⟩ := h.pending hpending
    refine .inFirst [] rest ⟨h.packets, h.more, h.radio, by simpa using h.reads,
      (fun hp => nomatch hp), ?_⟩
    rcases h.buffer with ⟨a, -, -, hcount, hle⟩ | hwiped
    · exact Or.inl ⟨[], k.clean_body, rfl, hcount, hle⟩
    · obtain ⟨wiped, kept, hdone, -, hkept, hw⟩ := hwiped
      obtain ⟨rfl, rfl⟩ := List.nil_eq_append_iff.mp hdone
      exact Or.inr ⟨[], [], rfl, rfl, hkept, hw⟩
  | rejected hpending hfull hprocess =>
    obtain ⟨rfl, hzero⟩ := h.pending hpending
    exact .inFirst [] rest ⟨h.packets, h.more, h.radio,
      by simpa [WaitingForMessage.reads] using h.reads, (fun hp => nomatch hp), h.buffer⟩
  | unparsed text hpending hfull hprocess hparse =>
    obtain ⟨rfl, hzero⟩ := h.pending hpending
    refine .inFirst [] rest ⟨h.packets, h.more, h.radio,
      by simpa [WaitingForMessage.reads] using h.reads, (fun hp => nomatch hp), ?_⟩
    rcases h.buffer with ⟨a, -, -, hcount, hle⟩ | ⟨wiped, kept, hdone, -, hkept, hw⟩
    · exact Or.inl ⟨[], k.clean_body, rfl, hzero.symm.trans hcount, Nat.zero_le 51⟩
    · obtain ⟨rfl, rfl⟩ := List.nil_eq_append_iff.mp hdone
      exact Or.inr ⟨[], [], rfl, rfl, rfl, hw⟩
  -- accepted before anything of frame `k` was read
  | accepted text hpending hfull hprocess hparse =>
    obtain ⟨rfl, -⟩ := h.pending hpending
    refine .accepted ⟨c.trace ++ [.handed (handedString c.state.statics.fullMessage)], text, [],
      by simp, ?_⟩
    rw [reads_append, h.reads]
    exact List.nil_prefix

/-- **One poll between the frames.** -/
theorem Between.step {c : Config Reception Event} (h : Between k k' c) (i : Poll) :
    Phase st k k' (advance poll c i) := by
  cases hidle : c.state.statics.messageReceived with
  | false =>
    have hreading : Reading k'.packets c.state [] k'.packets :=
      ⟨rfl, k'.cut.ne_nil, h.radio, hidle, h.buffer, h.count⟩
    rcases hreading.step k'.cut k'.clean_body i with ⟨done, rest, hnext, -⟩ | ⟨hcomplete, -⟩
    · exact .inSecond done rest hnext
    · exact .complete hcomplete
  | true =>
    have hlen : ∀ p ∈ c.state.radio, p.length ≤ 255 := fun p hp =>
      (k'.cut.packet_len p (by rwa [h.radio] at hp)).2
    have heff := poll_effect i hlen
    unfold advance
    generalize poll c.state i = res at heff ⊢
    cases heff with
    | nothing statics hst =>
      rcases hst with rfl | rfl
      · exact .between ⟨h.radio, by simpa using h.reads, h.buffer, h.count⟩
      · exact .between ⟨h.radio, by simpa using h.reads, h.buffer, h.count⟩
    | emptyPacket radio htakes => exact nomatch hidle.symm.trans htakes.2.1
    | limit packet radio htakes => exact nomatch hidle.symm.trans htakes.2.1
    | frame packet radio full rest htakes => exact nomatch hidle.symm.trans htakes.2.1
    | insert packet radio htakes => exact nomatch hidle.symm.trans htakes.2.1
    | emptyFrame hpending hfull => exact .between ⟨h.radio, by simpa using h.reads, rfl, h.count⟩
    | rejected hpending hfull hprocess =>
      exact .between ⟨h.radio, by simpa [WaitingForMessage.reads] using h.reads, h.buffer, h.count⟩
    | unparsed text hpending hfull hprocess hparse =>
      exact .between ⟨h.radio, by simpa [WaitingForMessage.reads] using h.reads, rfl, rfl⟩
    | accepted text hpending hfull hprocess hparse =>
      refine .accepted ⟨c.trace ++ [.handed (handedString c.state.statics.fullMessage)], text, [],
        by simp, ?_⟩
      rw [reads_append, h.reads]
      simp [WaitingForMessage.reads]

/-- **One poll while frame `k + 1` waits to be processed.** -/
theorem complete_step {c : Config Reception Event} (h : Complete k'.body c.state)
    (hk' : k'.body ≠ []) (i : Poll) : Phase st k k' (advance poll c i) := by
  have heff := poll_effect i (r := c.state) (by rw [h.radio]; exact fun p hp => nomatch hp)
  have hhanded : handedString c.state.statics.fullMessage = k'.body := by
    rw [h.full]
    exact handedString_eq k'.nulFree k'.short
  unfold advance
  generalize poll c.state i = res at heff ⊢
  cases heff with
  | nothing statics hst =>
    rcases hst with rfl | rfl
    · exact .complete ⟨h.radio, h.pending, h.full⟩
    · exact .complete ⟨h.radio, h.pending, h.full⟩
  | emptyPacket radio htakes hnext => exact nomatch h.radio.symm.trans hnext
  | limit packet radio htakes hnext => exact nomatch h.radio.symm.trans hnext
  | frame packet radio full rest htakes hnext => exact nomatch h.radio.symm.trans hnext
  | insert packet radio htakes hnext => exact nomatch h.radio.symm.trans hnext
  | emptyFrame hp hempty => exact absurd (h.full.symm.trans hempty) hk'
  | rejected hp hne hprocess =>
    exact .handed (by rw [handed_append, hhanded]; simp [WaitingForMessage.handed])
  | unparsed text hp hne hprocess hparse =>
    exact .handed (by rw [handed_append, hhanded]; simp [WaitingForMessage.handed])
  | accepted text hp hne hprocess hparse =>
    exact .handed (by rw [handed_append, hhanded]; simp [WaitingForMessage.handed])

/-- **One poll, in any phase.** -/
theorem Phase.step {c : Config Reception Event} (h : Phase st k k' c) (hk' : k'.body ≠ [])
    (hlimit : LimitSpares st k) (i : Poll) :
    Phase st k k' (advance poll c i) := by
  cases h with
  | accepted h => exact .accepted (h.append _)
  | inFirst done rest h => exact h.step hlimit i
  | between h => exact h.step i
  | inSecond done rest h =>
    rcases h.step k'.cut k'.clean_body i with ⟨done', rest', hnext, -⟩ | ⟨hcomplete, -⟩
    · exact .inSecond done' rest' hnext
    · exact .complete hcomplete
  | complete h => exact complete_step h hk' i
  | handed h =>
    refine .handed ?_
    show k'.body ∈ WaitingForMessage.handed (c.trace ++ _)
    rw [handed_append]
    exact List.mem_append_left _ h

/-- Before the two frames. -/
theorem phase_start (hst : Searched st) (hk : Separated st k) :
    Phase st k k' ⟨⟨k.packets ++ k'.packets, st⟩, []⟩ :=
  .inFirst [] k.packets
    ⟨rfl, k.cut.ne_nil, rfl, rfl, fun hp => ⟨rfl, hst.pending hp⟩,
      Or.inl ⟨st.accumulatedBuffer, k.clean_append hk hst.clean, (List.append_nil _).symm, rfl,
        hst.count⟩⟩

/-- After them. -/
theorem Phase.recovers {c : Config Reception Event} (h : Phase st k k' c)
    (hradio : c.state.radio = []) (hidle : c.state.statics.messageReceived = false) :
    AcceptedWithin k c.trace ∨ k'.body ∈ WaitingForMessage.handed c.trace := by
  cases h with
  | accepted h => exact Or.inl h
  | inFirst done rest h =>
    rw [h.radio] at hradio
    exact absurd (List.append_eq_nil_iff.mp hradio).1 h.more
  | between h => exact absurd (h.radio.symm.trans hradio) k'.cut.ne_nil
  | inSecond done rest h => exact absurd (h.radio.symm.trans hradio) h.more
  | complete h => exact nomatch hidle.symm.trans h.pending
  | handed h => exact Or.inr h

end Phases

/-! ## The result

  The phases are the invariant; when the packets are read and nothing is pending, only two of them
  are left. -/

/-- **Whatever was lost before, frame `k + 1` is handed byte for byte**, in every run in which each
    read completes at most one frame, if frame `k` is told from what stands before it, frame `k + 1`
    has a body, and the limit does not strike between the two halves of the delimiter of frame `k`. -/
theorem next_frame_handed (sent : List Frame) (received : List Bytes) (before polls : List Poll)
    (st : Statics) (hst : ReachedUnder CompletesOne sent received before st) (k k' : Frame)
    (hk : Separated st k) (hk' : k'.body ≠ []) (hlimit : LimitSpares st k) :
    Recovers st k k' polls :=
  (run_induction (I := Phase st k k') (phase_start (searched_of_reached hst) hk)
    (fun _ i h => h.step hk' hlimit i) polls).recovers

/-! ## A lost packet in the middle of a frame

  Bodies may hold single bars, so that two packets of a frame, brought together by the loss of the
  one between them, may make a delimiter. -/

/-- A frame in three packets whose body holds two single bars. -/
def frameAXB : Frame where
  body := ascii "a|X|b"
  packets := [ascii "a|", ascii "X", ascii "|b||"]
  cut := ⟨by decide, by decide, by decide⟩
  nulFree := by decide
  short := by decide
  clean := by decide
  head := by decide
  last := by decide

/-- A frame in one packet. -/
def frameC : Frame where
  body := ascii "c"
  packets := [ascii "c||"]
  cut := ⟨by decide, by decide, by decide⟩
  nulFree := by decide
  short := by decide
  clean := by decide
  head := by decide
  last := by decide

/-- Another. -/
def frameD : Frame where
  body := ascii "d"
  packets := [ascii "d||"]
  cut := ⟨by decide, by decide, by decide⟩
  nulFree := by decide
  short := by decide
  clean := by decide
  head := by decide
  last := by decide

/-- What the first frame leaves when its middle packet is lost: a complete frame in the
    accumulator that nobody looks for. -/
def stalled : Statics := ⟨false, ascii "b||", ascii "a", false, 0⟩

/-- That something was accepted can be seen in the trace. -/
theorem AcceptedWithin.any {k : Frame} {trace : List Event} (h : AcceptedWithin k trace) :
    trace.any (fun | .accepted _ => true | _ => false) = true := by
  obtain ⟨before, text, after, rfl, -⟩ := h
  simp

/-- What the first packet of that frame leaves when the two others are lost. -/
def interrupted : Statics := ⟨false, ascii "a|", [], false, 1⟩

/-- **After the loss of two packets the second of two frames is handed**; the first one is handed
    with the rest of the broken frame in front of it. -/
theorem frameD_handed :
    Recovers interrupted frameC frameD [refuse, refuse, refuse, refuse] :=
  next_frame_handed [frameAXB] [ascii "a|"] [refuse] [refuse, refuse, refuse, refuse] interrupted
    ⟨by decide, by decide, by decide⟩ frameC frameD (Or.inl (by decide)) (by decide)
    (by unfold LimitSpares; decide)

/-- **After the loss of one packet every later frame is handed one frame late**: both frames are
    received completely, nothing is accepted, and the second is not handed. -/
theorem frameD_not_handed :
    ReachedUnder (fun _ _ => True) [frameAXB] [ascii "a|", ascii "|b||"] [refuse, refuse, refuse]
        stalled ∧
      ¬ Recovers stalled frameC frameD [refuse, refuse, refuse, refuse] := by
  refine ⟨⟨by decide, ⟨trivial, trivial, trivial, trivial⟩, by decide⟩, fun h => ?_⟩
  rcases h (by decide) (by decide) with hacc | hhanded
  · exact absurd hacc.any (by decide)
  · exact absurd hhanded (by decide)

end WaitingForMessage

end GatewayLoRa
