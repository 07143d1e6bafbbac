/-
  When the wire frame can be told from its end.

  A frame is the encrypted text, the 32 raw bytes of the HMAC, eight hexadecimal digits, and `||`.
  The text is in the base64 alphabet and the digits are digits, so a `|` can only come from the
  HMAC, of which only the zero bytes are rewritten.  `transparent_iff` says that the frame is
  transparent if and only if no two neighbouring bytes of the HMAC are both `|`.

  The first half of transparency is about the bytes (`clean_frame`).  The second is about
  reception: however the frame is cut into packets, a receiver whose accumulator is empty
  completes exactly its body.  `Reading` is the invariant of reading a cut frame into an empty
  accumulator, and `Reading.step` is what one poll does to it.

  The crux is where a bar can stand.  A delimiter is two bars in a row, so it is enough to know
  where one bar may be followed by another.  Neither the base64 alphabet nor the digits have a bar,
  so both bars would have to be in the HMAC; the only place where one part could end and the next
  one begin with a bar is the end of the frame, where the delimiter itself begins.  `Clean bar (body
  ++ [bar])` is the form that reception needs: the body has no delimiter in it, and none begins with
  its last byte.
-/

import GatewayLoRa.WaitingForMessage
import GatewayLoRa.MessageHandler

namespace GatewayLoRa

open CMemory Machine Delimiter

namespace WaitingForMessage

/-! ## A frame cut into packets

  The radio gives the frame in packets, cut anywhere, also inside the delimiter.  The two bounds are
  those of the receiver: a packet is at most 255 bytes long, and at most 51 of them fit into one
  message. -/

/-- The packets carry the body and its delimiter, and nothing else. -/
structure Cuts (packets : List Bytes) (body : Bytes) : Prop where
  flatten : packets.flatten = body ++ [bar, bar]
  few : packets.length ≤ 51
  packet_len : ∀ p ∈ packets, 0 < p.length ∧ p.length ≤ 255

namespace Cuts

variable {packets : List Bytes} {body : Bytes}

/-- A frame has a packet at least. -/
theorem ne_nil (h : Cuts packets body) : packets ≠ [] := by
  rintro rfl
  have := h.flatten
  simp at this

/-- All of the frame but its last packet stops before the delimiter is complete. -/
theorem not_last (h : Cuts packets body) {read rest : List Bytes} {p : Bytes}
    (hp : read ++ p :: rest = packets) (hrest : rest ≠ []) :
    ∃ z, read.flatten ++ p ++ z = body ++ [bar] := by
  have hcut := h.flatten
  rw [← hp] at hcut
  have hne : rest.flatten ≠ [] := by
    obtain ⟨q, rest, rfl⟩ := List.exists_cons_of_ne_nil hrest
    have hq := (h.packet_len q (by rw [← hp]; simp)).1
    simp only [List.flatten_cons, ne_eq, List.append_eq_nil_iff, not_and]
    intro hnil
    rw [hnil] at hq
    exact absurd hq (by simp)
  have hz := List.dropLast_concat_getLast hne
  refine ⟨rest.flatten.dropLast, ?_⟩
  have hcut' : (read.flatten ++ p ++ rest.flatten.dropLast) ++ [rest.flatten.getLast hne]
      = (body ++ [bar]) ++ [bar] := by
    rw [List.append_assoc, hz]
    simpa using hcut
  exact (List.append_inj' hcut' rfl).1

/-- With the last packet the delimiter is complete. -/
theorem last_packet (h : Cuts packets body) {read : List Bytes} {p : Bytes}
    (hp : read ++ [p] = packets) : read.flatten ++ p = body ++ [bar, bar] := by
  have hcut := h.flatten
  rw [← hp] at hcut
  simpa using hcut

end Cuts

/-- The next packet of a frame that is being read. -/
theorem next_packet {rest after radio : List Bytes} {packet : Bytes} (hrest : rest ≠ [])
    (h : rest ++ after = packet :: radio) :
    ∃ rest', rest = packet :: rest' ∧ radio = rest' ++ after := by
  obtain ⟨q, rest', rfl⟩ := List.exists_cons_of_ne_nil hrest
  obtain ⟨rfl, hradio⟩ := List.cons.inj h
  exact ⟨rest', rfl, hradio.symm⟩

/-! ## Reading a frame into an empty accumulator

  The receiver is a function of one poll.  What a poll can do is listed once (`poll_effect`), and
  the step lemma goes through the list: while the frame is being read it can only insert a packet,
  or find the delimiter in the last one. -/

/-- **The invariant**: `done` are the packets read so far, `rest` those to come. -/
structure Reading (packets : List Bytes) (r : Reception) (done rest : List Bytes) : Prop where
  packets : done ++ rest = packets
  more : rest ≠ []
  radio : r.radio = rest
  idle : r.statics.messageReceived = false
  buffer : r.statics.accumulatedBuffer = done.flatten
  count : r.statics.stringInsertCount = done.length

/-- The body is complete and waits to be processed; nothing of the frame is left. -/
structure Complete (body : Bytes) (r : Reception) : Prop where
  radio : r.radio = []
  pending : r.statics.messageReceived = true
  full : r.statics.fullMessage = body

/-- **One poll while a frame is being read** goes on reading it, or completes its body. -/
theorem Reading.step {packets done rest : List Bytes} {body : Bytes} {r : Reception}
    (h : Reading packets r done rest) (hcut : Cuts packets body) (hclean : Clean bar (body ++ [bar]))
    (i : Poll) :
    (∃ done' rest', Reading packets (poll r i).1 done' rest' ∧ completed (poll r i).2 = []) ∨
      (Complete body (poll r i).1 ∧ completed (poll r i).2 = [body]) := by
  have hlen : ∀ p ∈ r.radio, p.length ≤ 255 := by
    intro p hp
    rw [h.radio] at hp
    exact (hcut.packet_len p (by rw [← h.packets]; exact List.mem_append_right _ hp)).2
  have heff := poll_effect i hlen
  generalize poll r i = res at heff ⊢
  have hradio : r.radio = rest ++ [] := by rw [h.radio, List.append_nil]
  -- before the last packet there is no delimiter in what was read
  have hnone : ∀ p rest', rest = p :: rest' → rest' ≠ [] →
      split bar (r.statics.accumulatedBuffer ++ p) = none := by
    rintro p rest' rfl hrest
    obtain ⟨z, hz⟩ := hcut.not_last h.packets hrest
    rw [← hz] at hclean
    rw [split_eq_none_iff, h.buffer]
    exact hclean.left
  -- with it there is one, at the end
  have hlast : ∀ p, rest = [p] →
      split bar (r.statics.accumulatedBuffer ++ p) = some (body, []) := by
    rintro p rfl
    rw [h.buffer, hcut.last_packet h.packets]
    exact split_of_clean hclean []
  cases heff with
  | nothing statics hst =>
    refine Or.inl ⟨done, rest, ?_, rfl⟩
    rcases hst with rfl | rfl
    · exact ⟨h.packets, h.more, h.radio, h.idle, h.buffer, h.count⟩
    · exact ⟨h.packets, h.more, h.radio, h.idle, h.buffer, h.count⟩
  | emptyPacket radio htakes hnext =>
    obtain ⟨rest', rfl, -⟩ := next_packet h.more (hradio.symm.trans hnext)
    have := (hcut.packet_len [] (by rw [← h.packets]; simp)).1
    exact absurd this (by simp)
  | limit packet radio htakes hnext hne hcount =>
    exfalso
    have hpackets := congrArg List.length h.packets
    have hmore := List.length_pos_iff.mpr h.more
    have hfew := hcut.few
    have hdone := h.count
    rw [List.length_append] at hpackets
    omega
  | frame packet radio full after htakes hnext hne hlt hsplit =>
    obtain ⟨rest', rfl, rfl⟩ := next_packet h.more (hradio.symm.trans hnext)
    by_cases hrest : rest' = []
    · subst hrest
      have hsplit' := hlast packet rfl
      rw [hsplit] at hsplit'
      obtain ⟨rfl, -⟩ : full = body ∧ after = [] := by simpa using hsplit'
      exact Or.inr ⟨⟨rfl, rfl, rfl⟩, rfl⟩
    · exact nomatch hsplit.symm.trans (hnone packet rest' rfl hrest)
  | insert packet radio htakes hnext hne hlt hsplit =>
    obtain ⟨rest', rfl, rfl⟩ := next_packet h.more (hradio.symm.trans hnext)
    by_cases hrest : rest' = []
    · subst hrest
      exact nomatch hsplit.symm.trans (hlast packet rfl)
    · refine Or.inl ⟨done ++ [packet], rest', ⟨?_, hrest, by simp, h.idle, ?_, ?_⟩, rfl⟩
      · rw [← h.packets]
        simp
      · show r.statics.accumulatedBuffer ++ packet = _
        rw [h.buffer]
        simp
      · show r.statics.stringInsertCount + 1 = _
        rw [List.length_append, List.length_singleton, h.count]
  | emptyFrame hpending => exact nomatch h.idle.symm.trans hpending
  | rejected hpending => exact nomatch h.idle.symm.trans hpending
  | unparsed text hpending => exact nomatch h.idle.symm.trans hpending
  | accepted text hpending => exact nomatch h.idle.symm.trans hpending

/-- With no packet to come nothing more is completed. -/
theorem poll_silent {r : Reception} (h : r.radio = []) (i : Poll) :
    (poll r i).1.radio = [] ∧ completed (poll r i).2 = [] := by
  have heff := poll_effect i (r := r) (by rw [h]; exact fun p hp => nomatch hp)
  generalize poll r i = res at heff ⊢
  cases heff with
  | nothing statics hst => exact ⟨h, rfl⟩
  | emptyPacket radio htakes hnext => exact nomatch h.symm.trans hnext
  | limit packet radio htakes hnext => exact nomatch h.symm.trans hnext
  | frame packet radio full rest htakes hnext => exact nomatch h.symm.trans hnext
  | insert packet radio htakes hnext => exact nomatch h.symm.trans hnext
  | emptyFrame => exact ⟨h, rfl⟩
  | rejected => exact ⟨h, rfl⟩
  | unparsed => exact ⟨h, rfl⟩
  | accepted => exact ⟨h, rfl⟩

/-- Nothing is held back and nothing is pending. -/
structure Statics.Empty (st : Statics) : Prop where
  idle : st.messageReceived = false
  buffer : st.accumulatedBuffer = []
  count : st.stringInsertCount = 0

/-- **The invariant** of a reception: the frame is being read, or was completed. -/
def Delivers (packets : List Bytes) (body : Bytes) (c : Config Reception Event) : Prop :=
  (∃ done rest, Reading packets c.state done rest ∧ completed c.trace = []) ∨
    (c.state.radio = [] ∧ completed c.trace = [body])

/-- **Each poll keeps it.** -/
theorem Delivers.step {packets : List Bytes} {body : Bytes} (hcut : Cuts packets body)
    (hclean : Clean bar (body ++ [bar])) {c : Config Reception Event}
    (h : Delivers packets body c) (i : Poll) : Delivers packets body (advance poll c i) := by
  rcases h with ⟨done, rest, hreading, hnone⟩ | ⟨hradio, hdone⟩
  · rcases hreading.step hcut hclean i with ⟨done', rest', hnext, hc⟩ | ⟨hcomplete, hc⟩
    · exact Or.inl ⟨done', rest', hnext, by simp [advance, hnone, hc]⟩
    · exact Or.inr ⟨hcomplete.radio, by simp [advance, hnone, hc]⟩
  · obtain ⟨hradio', hc⟩ := poll_silent hradio i
    exact Or.inr ⟨hradio', by simp [advance, hdone, hc]⟩

/-- **A frame read from an empty accumulator is completed exactly once, as it was sent.** -/
theorem completed_of_cuts {packets : List Bytes} {body : Bytes} (hcut : Cuts packets body)
    (hclean : Clean bar (body ++ [bar])) {st : Statics} (hst : st.Empty) (polls : List Poll)
    (hradio : (run poll ⟨⟨packets, st⟩, []⟩ polls).state.radio = []) :
    completed (run poll ⟨⟨packets, st⟩, []⟩ polls).trace = [body] := by
  have hstart : Delivers packets body ⟨⟨packets, st⟩, []⟩ :=
    Or.inl ⟨[], packets, ⟨rfl, hcut.ne_nil, rfl, hst.idle, hst.buffer, hst.count⟩, rfl⟩
  have hend := run_induction hstart (fun c i hc => hc.step hcut hclean i) polls
  rcases hend with ⟨done, rest, hreading, -⟩ | ⟨-, hdone⟩
  · exact absurd (hreading.radio.symm.trans hradio) hreading.more
  · exact hdone

end WaitingForMessage

/-! ## The bytes of a frame

  What the generators leave, as bytes.  Whether they succeed is their affair; a frame that was never
  built is not sent. -/

section Bytes

variable {P : Primitives} {n : Nat}

/-- **What the two generators leave when they succeed.** -/
theorem generators_leave {mem mem' : Mem n} {size : Nat} {text : Bytes}
    (h : Holds mem.message text)
    (hrun : AuthenticationGenerator.handleMessage P
      (some (ChecksumGenerator.handleMessage P none)) mem size = .ok (.processed, mem')) :
    ∃ crc, P.crc (text ++ hmacTag P text) = some crc ∧
      Holds mem'.message (text ++ hmacTag P text ++ Stdio.hexText 8 crc.toNat) := by
  have hread := Holds.readRange_prefix (p := text) (s := []) (by simpa using h)
  -- without room for the tag, and below for the checksum, the run would have ended in a fault
  by_cases hfit : text.length + 33 ≤ n
  · obtain ⟨mem₁, hchain, hm⟩ : ∃ mem₁, AuthenticationGenerator.handleMessage P
        (some (ChecksumGenerator.handleMessage P none)) mem size =
          ChecksumGenerator.handleMessage P none mem₁ size ∧
        Holds mem₁.message (text ++ hmacTag P text) := by
      obtain ⟨m, hm, heq⟩ := AuthenticationGenerator.spec (P := P)
        (some (ChecksumGenerator.handleMessage P none)) size h hfit
      exact ⟨_, heq, hm⟩
    rw [hchain] at hrun
    cases hcrc : P.crc (text ++ hmacTag P text) with
    | none =>
      have hfail := ChecksumGenerator.fails none size hm hcrc
      cases hfail.symm.trans hrun
    | some crc =>
      have hread' := Holds.readRange_prefix (p := text ++ hmacTag P text) (s := [])
        (by simpa using hm)
      have hlen : (text ++ hmacTag P text).length = text.length + 32 := by
        rw [List.length_append, length_hmacTag]
      by_cases hroom : text.length + 41 ≤ n ∧ text.length + 40 < 4000
      · obtain ⟨m', hm', heq'⟩ := ChecksumGenerator.spec none size hm hcrc (by omega) (by omega)
        obtain rfl := (Prod.mk.inj (Except.ok.inj (heq'.symm.trans hrun))).2
        exact ⟨crc, rfl, hm'⟩
      · exfalso
        simp only [ChecksumGenerator.handleMessage, hm.strlen, ok_bind, hread', hcrc] at hrun
        by_cases hlong : (text ++ hmacTag P text).length + (Stdio.hexText 8 crc.toNat).length ≥ 4000
        · rw [if_pos hlong] at hrun
          cases hrun
        · rw [if_neg hlong, writeRange, dif_neg ?_] at hrun
          · cases hrun
          · rw [Stdio.length_hexText] at hlong
            rw [List.length_append, List.length_append, length_hmacTag, Stdio.length_hexText,
              List.length_singleton]
            omega
  · exfalso
    simp only [AuthenticationGenerator.handleMessage, h.strlen, ok_bind, hread] at hrun
    rw [writeRange, dif_neg ?_] at hrun
    · cases hrun
    · rw [List.length_append, length_hmacTag, List.length_singleton]
      omega

/-- **A bar can only come from the HMAC.** -/
theorem clean_frame {text tag digits : Bytes} (htext : ∀ c ∈ text, Base64.Alphabet c)
    (hdigits : ∀ c ∈ digits, c ≠ bar) (hne : digits ≠ []) (htag : Clean bar tag) :
    Clean bar (text ++ tag ++ digits ++ [bar]) := by
  have htext' : bar ∉ text := fun h => (htext bar h).ne.2 rfl
  have hdigits' : bar ∉ digits := fun h => hdigits bar h rfl
  refine clean_append_iff.mpr ⟨clean_append_iff.mpr ⟨clean_append_iff.mpr
    ⟨clean_of_not_mem htext', htag, ?_⟩, clean_of_not_mem hdigits', ?_⟩, clean_singleton _, ?_⟩
  · rintro ⟨hlast, -⟩
    exact htext' (List.mem_of_getLast? hlast)
  · rintro ⟨-, hhead⟩
    exact hdigits' (List.mem_of_head? hhead)
  · rintro ⟨hlast, -⟩
    rw [List.getLast?_append, List.getLast?_eq_some_getLast hne, Option.some_or] at hlast
    exact hdigits' (by rw [← Option.some.inj hlast]; exact List.getLast_mem hne)

end Bytes

/-! ## Transparency

  Both halves say the same of the bytes, so either of them already gives the HMAC without two bars.
  -/

/-- **The framing is transparent**: `||` occurs only at the very end of the frame, and a reception
    that begins with an empty accumulator completes exactly the body, for every cut of the frame
    into packets. -/
structure Transparent (frame body : Bytes) : Prop where
  only_at_end : ∀ x y, frame = x ++ [bar, bar] ++ y → y = []
  reassembled : ∀ packets, packets.flatten = frame → packets.length ≤ 51 →
    (∀ p ∈ packets, 0 < p.length ∧ p.length ≤ 255) →
    ∀ st : WaitingForMessage.Statics, st.Empty → ∀ polls,
      (run WaitingForMessage.poll ⟨⟨packets, st⟩, []⟩ polls).state.radio = [] →
      WaitingForMessage.completed (run WaitingForMessage.poll ⟨⟨packets, st⟩, []⟩ polls).trace
        = [body]

/-- A frame with no delimiter but its own is transparent. -/
theorem transparent_of_clean {body : Bytes} (h : Clean bar (body ++ [bar])) :
    Transparent (body ++ [bar, bar]) body where
  only_at_end x y hxy := by
    rcases List.eq_nil_or_concat y with rfl | ⟨y, c, rfl⟩
    · rfl
    · exfalso
      have hcut : (body ++ [bar]) ++ [bar] = (x ++ [bar, bar] ++ y) ++ [c] := by
        simpa using hxy
      refine h x y ?_
      rw [(List.append_inj' hcut rfl).1]
      simp
  reassembled packets hflat hfew hlen st hst polls hradio :=
    WaitingForMessage.completed_of_cuts ⟨hflat, hfew, hlen⟩ h hst polls hradio

/-- **The frame built from an encrypted text is transparent if and only if no two neighbouring
    bytes of its HMAC are both `|`.** -/
theorem transparent_iff (P : Primitives) (n size : Nat) (mem mem' : Mem n) (text body : Bytes)
    (h : Holds mem.message text) (htext : ∀ c ∈ text, Base64.Alphabet c)
    (hrun : AuthenticationGenerator.handleMessage P
      (some (ChecksumGenerator.handleMessage P none)) mem size = .ok (.processed, mem'))
    (hbody : Holds mem'.message body) :
    Transparent (body ++ [bar, bar]) body ↔ Clean bar (hmacTag P text) := by
  obtain ⟨crc, -, hm⟩ := generators_leave h hrun
  obtain rfl := hbody.unique hm
  constructor
  · intro ht x y hxy
    have hend := ht.only_at_end (text ++ x) (y ++ Stdio.hexText 8 crc.toNat ++ [bar, bar])
      (by rw [hxy]; simp)
    simp at hend
  · intro htag
    exact transparent_of_clean (clean_frame htext (fun c hc => (Stdio.hexText_ne 8 _ c hc).2)
      (fun hnil => absurd (congrArg List.length hnil) (by simp)) htag)

/-! ## An HMAC with two bars

  One frame for each direction.  The HMAC is a parameter here, since a text whose HMAC has two bars
  in a row would have to be searched for; of all HMACs about one in two thousand has them. -/

/-- Primitives whose HMAC is some fixed 32 bytes. -/
def withHmac (tag : Digest) : Primitives := { Primitives.reference with hmac := fun _ _ => tag }

/-- Two bars and thirty other bytes. -/
def barTag : Digest := ⟨bar :: bar :: List.replicate 30 1, rfl⟩

/-- Thirty-two bytes without a bar. -/
def plainTag : Digest := ⟨List.replicate 32 1, rfl⟩

/-- An encrypted text. -/
def sampleText : Bytes := ascii "QUNL"

/-- It is a text as the encrypter leaves it, -/
theorem sampleText_alphabet : ∀ c ∈ sampleText, Base64.Alphabet c := by
  have hall : sampleText.all (fun c => decide (Base64.Alphabet c)) = true := by decide
  intro c hc
  exact of_decide_eq_true (List.all_eq_true.mp hall c hc)

/-- and stands in an array. -/
theorem holds_sampleText : Holds (Mem.holding messageBufferSize sampleText).message sampleText :=
  holds_cstring (by decide) (by decide)

/-- The generators succeed on it, whatever the HMAC. -/
theorem sampleText_framed (tag : Digest) :
    ∃ mem' body, AuthenticationGenerator.handleMessage (withHmac tag)
        (some (ChecksumGenerator.handleMessage (withHmac tag) none))
        (Mem.holding messageBufferSize sampleText) 4 = .ok (.processed, mem') ∧
      Holds mem'.message body := by
  obtain ⟨m, hm, heq⟩ := AuthenticationGenerator.spec (P := withHmac tag)
    (some (ChecksumGenerator.handleMessage (withHmac tag) none)) 4 holds_sampleText (by decide)
  let mem₁ : Mem messageBufferSize :=
    { Mem.holding messageBufferSize sampleText with message := m }
  have hm : Holds mem₁.message (sampleText ++ hmacTag (withHmac tag) sampleText) := hm
  have hlen : (sampleText ++ hmacTag (withHmac tag) sampleText).length = 36 := by
    rw [List.length_append, length_hmacTag]
    rfl
  obtain ⟨m', hm', heq'⟩ := ChecksumGenerator.spec (P := withHmac tag) none 4 hm rfl
    (by rw [hlen]; decide) (by rw [hlen]; decide)
  exact ⟨_, _, heq.trans heq', hm'⟩

/-- A frame whose HMAC has no bar is transparent. -/
theorem plainTag_transparent :
    ∃ mem' body, AuthenticationGenerator.handleMessage (withHmac plainTag)
        (some (ChecksumGenerator.handleMessage (withHmac plainTag) none))
        (Mem.holding messageBufferSize sampleText) 4 = .ok (.processed, mem') ∧
      Holds mem'.message body ∧ Transparent (body ++ [bar, bar]) body := by
  obtain ⟨mem', body, hrun, hbody⟩ := sampleText_framed plainTag
  exact ⟨mem', body, hrun, hbody, (transparent_iff (withHmac plainTag) _ 4 _ mem' sampleText body
    holds_sampleText sampleText_alphabet hrun hbody).mpr (by decide)⟩

/-- **A frame whose HMAC begins with two bars is not.** -/
theorem barTag_not_transparent :
    ∃ mem' body, AuthenticationGenerator.handleMessage (withHmac barTag)
        (some (ChecksumGenerator.handleMessage (withHmac barTag) none))
        (Mem.holding messageBufferSize sampleText) 4 = .ok (.processed, mem') ∧
      Holds mem'.message body ∧ ¬ Transparent (body ++ [bar, bar]) body := by
  obtain ⟨mem', body, hrun, hbody⟩ := sampleText_framed barTag
  obtain ⟨crc, -, hm⟩ := generators_leave holds_sampleText hrun
  refine ⟨mem', body, hrun, hbody, fun ht => ?_⟩
  obtain rfl := hbody.unique hm
  have htag : hmacTag (withHmac barTag) sampleText = [bar, bar] ++ List.replicate 30 1 := by decide
  have hend := ht.only_at_end sampleText
    (List.replicate 30 1 ++ Stdio.hexText 8 crc.toNat ++ [bar, bar]) (by rw [htag]; simp)
  simp at hend

end GatewayLoRa
