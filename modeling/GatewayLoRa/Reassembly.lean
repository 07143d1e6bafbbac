/-
  No received frame is skipped or delayed, AS LONG AS frames come one at a time.

  The frames of a byte stream are its `||`-terminated segments; the gateway should hand the
  non-empty ones to `processLoRaMessage`, in order, however the bytes fall into packets.  The
  invariant that carries the proof is `Tracks`: the frames found so far and the accumulator
  together determine every later frame (`Delimiter.Aligned`), the accumulator holds no delimiter
  that has not been looked for, and the insert counter is at most the number of packets since the
  last frame.

  `waitForMessage` looks for one delimiter in each packet it reads, and empties the accumulator
  when it meets an empty frame or when the parser refuses a decrypted text.  So a second frame in
  the same packet is delayed or lost.  `OneFrameAtATime` is the condition on a poll under which
  that cannot happen, and `handed_eq_frames` is the result for every run whose polls meet it.

  The crux is that two readings of the same bytes must agree.  The promise cuts the whole stream
  into segments; the code finds a delimiter in what it has, drops a frame, and goes on with what is
  left.  They agree as long as what is left holds no delimiter (`clean`), and the two conditions say
  no more than this: a read may not leave one, and where the accumulator is emptied there may not be
  anything in it.
-/

import GatewayLoRa.WaitingForMessage

namespace GatewayLoRa

open CMemory Machine Delimiter

namespace WaitingForMessage

/-! ## Streams of packets

  What is promised, and of which traffic: the limit of inserts and the size of the buffer are the
  code's own, and traffic beyond them is cut on purpose. -/

/-- The frames that the gateway should process. -/
def frames (stream : Bytes) : List Bytes := (segments bar stream).filter (· ≠ [])

/-- A sequence of packets as the radio receives them: at most 255 bytes each, fewer than 52 of
    them between two delimiters, and frames without NUL that fit the buffer. -/
structure Receivable (packets : List Bytes) : Prop where
  packet_len : ∀ p ∈ packets, p.length ≤ 255
  few : ∀ before since after, before ++ since ++ after = packets → 51 ≤ since.length →
    after ≠ [] → segments bar before.flatten ≠ segments bar (before ++ since).flatten
  frame_nulFree : ∀ s ∈ segments bar packets.flatten, NulFree s
  frame_len : ∀ s ∈ segments bar packets.flatten, s.length < readBufferSize

/-- The run begins with all packets still to come and the statics as the program starts. -/
def start (packets : List Bytes) : Config Reception Event := ⟨⟨packets, .initial⟩, []⟩

/-! ## The condition on a poll

  It is on the state before the poll, on the packet it reads, and on the verdicts of the gateway;
  nothing of what the poll computes is in it. -/

/-- **Frames come one at a time**: no packet completes two of them, and nothing stands behind a
    frame that is empty or that the parser is going to refuse. -/
structure OneFrameAtATime (c : Config Reception Event) (i : Poll) : Prop where
  read : CompletesOne c.state i
  empty : c.state.statics.messageReceived = true → c.state.statics.fullMessage = [] →
    c.state.statics.accumulatedBuffer = []
  unparsed : c.state.statics.messageReceived = true → c.state.statics.fullMessage ≠ [] →
    ∀ text, i.calls.processLoRaMessage (handedString c.state.statics.fullMessage) = some text →
      i.calls.parseReceptedLoRaMessage text = false → c.state.statics.accumulatedBuffer = []

instance (c : Config Reception Event) (i : Poll) : Decidable (OneFrameAtATime c i) :=
  decidable_of_iff (CompletesOne c.state i ∧
      (c.state.statics.messageReceived = true → c.state.statics.fullMessage = [] →
        c.state.statics.accumulatedBuffer = []) ∧
      (c.state.statics.messageReceived = true → c.state.statics.fullMessage ≠ [] →
        ∀ text ∈ i.calls.processLoRaMessage (handedString c.state.statics.fullMessage),
          i.calls.parseReceptedLoRaMessage text = false →
            c.state.statics.accumulatedBuffer = []))
    ⟨fun h => ⟨h.1, h.2.1, h.2.2⟩, fun h => ⟨h.read, h.empty, h.unparsed⟩⟩

/-! ## The invariant

  The three lists cut the traffic and the frames at the same place: what was looked through, what
  came since, what was answered. -/

/-- The frame that waits to be processed. -/
def Statics.pending (st : Statics) : List Bytes :=
  if st.messageReceived then [st.fullMessage] else []

/-- **The invariant of reception.** `before` are the packets up to the last frame found, `since`
    those after it, `done` the frames that have been processed. -/
structure Tracks (packets : List Bytes) (c : Config Reception Event)
    (before since done : List Bytes) : Prop where
  radio : before ++ since ++ c.state.radio = packets
  count : c.state.statics.stringInsertCount ≤ since.length
  aligned : Aligned bar (before ++ since).flatten (done ++ c.state.statics.pending)
    c.state.statics.accumulatedBuffer
  settled : segments bar before.flatten = done ++ c.state.statics.pending
  clean : Clean bar c.state.statics.accumulatedBuffer
  handed : handed c.trace = done.filter (· ≠ [])

/-- Nothing was read, and nothing is pending. -/
theorem tracks_start (packets : List Bytes) : Tracks packets (start packets) [] [] [] where
  radio := rfl
  count := Nat.le_refl 0
  aligned := aligned_nil
  settled := rfl
  clean := clean_nil
  handed := rfl

section Step

variable {packets before since done : List Bytes} {c : Config Reception Event}

/-- Every frame found is a frame of the stream. -/
theorem Tracks.mem_segments (h : Tracks packets c before since done) {s : Bytes}
    (hs : s ∈ done ++ c.state.statics.pending) : s ∈ segments bar packets.flatten := by
  rw [← h.radio, List.flatten_append]
  exact h.aligned.mem_segments hs _

/-- When nothing is pending, the frames of what was read have been handed. -/
theorem Tracks.handed_eq (h : Tracks packets c before since done)
    (hidle : c.state.statics.messageReceived = false) :
    WaitingForMessage.handed c.trace = frames (before ++ since).flatten := by
  have hseg := h.aligned.segments_eq h.clean
  rw [Statics.pending, hidle] at hseg
  rw [h.handed, frames, hseg]
  simp

/-- **One poll keeps the invariant**, or accepts a message with every frame before it handed. -/
theorem Tracks.step (h : Tracks packets c before since done) (hp : Receivable packets) {i : Poll}
    (hone : OneFrameAtATime c i) :
    (∃ before' since' done', Tracks packets (advance poll c i) before' since' done') ∨
      (Accepted (advance poll c i).trace ∧ ∃ read,
        read ++ (advance poll c i).state.radio = packets ∧
        WaitingForMessage.handed (advance poll c i).trace = frames read.flatten) := by
  have hlen : ∀ p ∈ c.state.radio, p.length ≤ 255 := fun p hp' => hp.packet_len p (by
    rw [← h.radio]
    exact List.mem_append_right _ hp')
  obtain ⟨hradio, hcount, haligned, hsettled, hclean, hhanded⟩ := h
  -- a pending frame is one of the stream, so `strncpy` hands it whole
  have hmem : c.state.statics.messageReceived = true →
      handedString c.state.statics.fullMessage = c.state.statics.fullMessage := by
    intro hpending
    have hs : c.state.statics.fullMessage ∈ segments bar packets.flatten :=
      Tracks.mem_segments ⟨hradio, hcount, haligned, hsettled, hclean, hhanded⟩
        (by simp [Statics.pending, hpending])
    exact handedString_eq (hp.frame_nulFree _ hs) (hp.frame_len _ hs)
  unfold advance
  have heff := poll_effect i hlen
  generalize poll c.state i = res at heff ⊢
  cases heff with
  | nothing statics hst =>
    refine Or.inl ⟨before, since, done, ?_⟩
    rcases hst with rfl | rfl
    · exact ⟨hradio, hcount, haligned, hsettled, hclean, by simpa using hhanded⟩
    · exact ⟨hradio, hcount, haligned, hsettled, hclean, by simpa using hhanded⟩
  | emptyPacket radio htakes hnext =>
    refine Or.inl ⟨before, since ++ [[]], done, ?_, ?_, ?_, hsettled, hclean, by simpa using hhanded⟩
    · rw [← hradio, hnext]
      simp
    · simp only [List.length_append, List.length_singleton]
      exact Nat.le_succ_of_le hcount
    · have hflat : (before ++ (since ++ [([] : Bytes)])).flatten = (before ++ since).flatten := by
        simp
      rw [hflat]
      exact haligned
  | limit packet radio htakes hnext hne hlimit =>
    -- 51 packets since the last frame and another one: the traffic excludes it
    exfalso
    refine hp.few before since (packet :: radio) (by rw [← hnext]; exact hradio) (by omega)
      (by simp) ?_
    rw [hsettled, haligned.segments_eq hclean]
  -- a delimiter: the frames up to here are settled, and no other one is left behind
  | frame packet radio full rest htakes hnext hne hlt hsplit =>
    have hidle : c.state.statics.pending = [] := by rw [Statics.pending, htakes.2.1]; rfl
    rw [hidle, List.append_nil] at haligned
    have hfound := (haligned.insert packet).found hsplit
    rw [show (before ++ since).flatten ++ packet = (before ++ since ++ [packet]).flatten by simp]
      at hfound
    refine Or.inl ⟨before ++ since ++ [packet], [], done, ?_, Nat.le_refl 0, ?_, ?_, ?_, ?_⟩
    · rw [← hradio, hnext]
      simp
    · rw [List.append_nil]
      exact hfound
    · exact hfound.segments_eq (hone.read htakes packet radio full rest hnext hlt hsplit)
    · exact hone.read htakes packet radio full rest hnext hlt hsplit
    · rw [handed_append, hhanded]
      simp [WaitingForMessage.handed]
  -- no delimiter yet, so the stream has none either
  | insert packet radio htakes hnext hne hlt hsplit =>
    refine Or.inl ⟨before, since ++ [packet], done, ?_, ?_, ?_, hsettled,
      split_eq_none_iff.mp hsplit, ?_⟩
    · rw [← hradio, hnext]
      simp
    · simp only [List.length_append, List.length_singleton]
      exact Nat.succ_le_succ hcount
    · have := haligned.insert packet
      rw [show (before ++ since).flatten ++ packet = (before ++ (since ++ [packet])).flatten by
        simp] at this
      exact this
    · rw [handed_append, hhanded]
      simp [WaitingForMessage.handed]
  -- the accumulator is emptied, and the condition says that it was empty
  | emptyFrame hpending hfull =>
    have hpend : c.state.statics.pending = [[]] := by rw [Statics.pending, hpending, hfull]; rfl
    rw [hpend] at haligned hsettled
    rw [hone.empty hpending hfull] at haligned
    refine Or.inl ⟨before, since, done ++ [[]], hradio, hcount, ?_, ?_, clean_nil, ?_⟩
    · simpa [Statics.pending] using haligned
    · simpa [Statics.pending] using hsettled
    · simpa using hhanded
  -- a refused frame leaves the accumulator as it is
  | rejected hpending hfull hprocess =>
    have hpend : c.state.statics.pending = [c.state.statics.fullMessage] := by
      rw [Statics.pending, hpending]; rfl
    rw [hpend] at haligned hsettled
    refine Or.inl ⟨before, since, done ++ [c.state.statics.fullMessage], hradio, hcount, ?_, ?_,
      hclean, ?_⟩
    · simpa [Statics.pending] using haligned
    · simpa [Statics.pending] using hsettled
    · rw [handed_append, hhanded, hmem hpending]
      simp [WaitingForMessage.handed, hfull]
  | unparsed text hpending hfull hprocess hparse =>
    have hpend : c.state.statics.pending = [c.state.statics.fullMessage] := by
      rw [Statics.pending, hpending]; rfl
    rw [hpend] at haligned hsettled
    rw [hone.unparsed hpending hfull text hprocess hparse] at haligned
    refine Or.inl ⟨before, since, done ++ [c.state.statics.fullMessage], hradio, Nat.zero_le _, ?_,
      ?_, clean_nil, ?_⟩
    · simpa [Statics.pending] using haligned
    · simpa [Statics.pending] using hsettled
    · rw [handed_append, hhanded, hmem hpending]
      simp [WaitingForMessage.handed, hfull]
  -- from here on another state of the gateway takes over: what was read so far is what counts
  | accepted text hpending hfull hprocess hparse =>
    have hpend : c.state.statics.pending = [c.state.statics.fullMessage] := by
      rw [Statics.pending, hpending]; rfl
    rw [hpend] at haligned
    refine Or.inr ⟨⟨text, by simp⟩, before ++ since, hradio, ?_⟩
    rw [handed_append, hhanded, hmem hpending, frames, haligned.segments_eq hclean]
    simp [WaitingForMessage.handed, hfull]

end Step

/-! ## The result

  The invariant up to the first acceptance, and at it one last time. -/

/-- **No frame is skipped or delayed**: whenever no frame is pending, what was handed is exactly the
    non-empty frames of what was read. -/
def HandsEveryFrame (packets : List Bytes) (c : Config Reception Event) : Prop :=
  ∃ read, read ++ c.state.radio = packets ∧
    (c.state.statics.messageReceived = false → handed c.trace = frames read.flatten)

/-- **In every run up to the first acceptance whose frames come one at a time, no frame is skipped
    or delayed.** -/
theorem handed_eq_frames (packets : List Bytes) (hp : Receivable packets) (polls : List Poll)
    (h : Always poll (fun c i => ¬ Accepted c.trace ∧ OneFrameAtATime c i) (start packets) polls) :
    HandsEveryFrame packets (run poll (start packets) polls) := by
  have hinv := run_induction_of
    (I := fun c => (∃ before since done, Tracks packets c before since done) ∨
      (Accepted c.trace ∧ ∃ read, read ++ c.state.radio = packets ∧
        handed c.trace = frames read.flatten))
    (Or.inl ⟨[], [], [], tracks_start packets⟩) (fun c i hcond hinv => ?_) h
  · rcases hinv with ⟨before, since, done, ht⟩ | ⟨-, read, hread, hhanded⟩
    · exact ⟨before ++ since, ht.radio, ht.handed_eq⟩
    · exact ⟨read, hread, fun _ => hhanded⟩
  · rcases hinv with ⟨before, since, done, ht⟩ | ⟨hacc, -⟩
    · exact ht.step hp hcond.2
    · exact absurd hacc hcond.1

/-! ## Two frames in one packet

  The shortest traffic that breaks the promise, and one that only looks like it: two frames over
  three packets. -/

/-- A short sequence of packets has fewer than 52 between its delimiters. -/
theorem receivable_of_short {packets : List Bytes} (hfew : packets.length ≤ 51)
    (hlen : ∀ p ∈ packets, p.length ≤ 255)
    (hframes : ∀ s ∈ segments bar packets.flatten, NulFree s ∧ s.length < readBufferSize) :
    Receivable packets where
  packet_len := hlen
  few before since after h hsince hafter := by
    have hl := congrArg List.length h
    have := List.length_pos_iff.mpr hafter
    simp only [List.length_append] at hl
    omega
  frame_nulFree s hs := (hframes s hs).1
  frame_len s hs := (hframes s hs).2

/-- Two frames that lie across three packets are handed one after the other: the second packet ends
    the first frame and begins the second one. -/
theorem two_frames_handed :
    HandsEveryFrame [ascii "a|", ascii "|b", ascii "|c||"]
      (run poll (start [ascii "a|", ascii "|b", ascii "|c||"])
        [refuse, refuse, refuse, refuse, refuse]) :=
  handed_eq_frames [ascii "a|", ascii "|b", ascii "|c||"]
    (receivable_of_short (by decide) (by decide) (by decide))
    [refuse, refuse, refuse, refuse, refuse] (by decide)

/-- These are the frames. -/
example : handed (run poll (start [ascii "a|", ascii "|b", ascii "|c||"])
    [refuse, refuse, refuse, refuse, refuse]).trace = [ascii "a", ascii "b|c"] := by
  decide

/-- **Two frames in one packet: the radio is empty, nothing is pending, and the second frame was
    never handed.** -/
theorem second_frame_not_handed :
    Receivable [ascii "a||b||"] ∧
      (run poll (start [ascii "a||b||"]) [refuse, refuse]).state.radio = [] ∧
      (run poll (start [ascii "a||b||"]) [refuse, refuse]).state.statics.messageReceived = false ∧
      ¬ HandsEveryFrame [ascii "a||b||"] (run poll (start [ascii "a||b||"]) [refuse, refuse]) := by
  refine ⟨receivable_of_short (by decide) (by decide) (by decide), by decide, by decide, ?_⟩
  rintro ⟨read, hread, hhanded⟩
  obtain rfl : read = [ascii "a||b||"] := (List.append_nil read).symm.trans hread
  exact absurd (hhanded (by decide)) (by decide)

end WaitingForMessage

end GatewayLoRa
