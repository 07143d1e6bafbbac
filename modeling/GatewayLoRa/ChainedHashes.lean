/-
  `FormattingMessage::addMetaData` in its arrays, byte by byte.

  The payload text stands in `messageBuffer`.  The function hashes it, prints the intermediate JSON
  around it into `workBuffer`, hashes that, takes the outer braces off with a NUL and an overlapping
  `memmove`, and prints the final JSON over the payload it began with.  What a server needs is that
  the hash in front is the hash of what stands behind it, in braces: `chained_hashes`.

  Each array operation is checked (`Checked`), and each has one lemma that says what it does to the
  string in its array.  `addMetaData_refines` connects the arrays with the strings of
  `FormattingMessage`: for the hash the gateway uses, they hold exactly what `addMetaData` says.

  The crux is that nothing is parsed.  A server that verifies the hash cuts the text behind the
  first member and puts braces around the rest, and the payload between them may itself have braces
  and quotes; so the statement must be an equation of texts, with every comma and quote in its
  place.  `hashedText` writes them out, and `chainedMembers_eq` says that the printing functions of
  the model print exactly this.  What the arrays do is then a chain of five lemmas, one for each
  call: hash, print, hash, strip, print.  The order matters in one place, the stripping: the hash
  was taken before the braces came off.
-/

import GatewayLoRa.MessageLengths

namespace GatewayLoRa

open CMemory

/-! ## The arrays

  The function as the source has it, on arrays of the sizes that the source gives them.  The arrays
  are local, so only the payload is in them to begin with; that the others may hold anything is what
  `ChainArrays` leaves open. -/

/-- The size of the arrays for hashes. -/
abbrev sizeOfHash : Nat := 100

/-- The arrays of one call: the message, the auxiliary buffer, the two hashes, and the gateway's
    `currChainHash`.  Only the first holds anything to begin with. -/
structure ChainArrays where
  messageBuffer : CArray sizeOfMessageBuffer
  workBuffer : CArray sizeOfMessageBuffer
  hashCanonicData : CArray sizeOfHash
  hashCurrentJson : CArray sizeOfHash
  currChainHash : CArray sizeOfHash

/-- The string in an array, as `%s` prints it. -/
def printString {n : Nat} (a : CArray n) : Checked Bytes := do
  let len ← strlen a
  readRange a 0 len

/-- `hash_and_base64 (input, output, output_size)`; the encoder refuses an output too small for the
    text and its NUL. -/
def hash_and_base64 {n k : Nat} (H : Bytes → Bytes) (input : CArray n) (output : CArray k) :
    Checked (CArray k) := do
  let text ← printString input
  if (H text).length + 1 ≤ k then writeRange output 0 (H text ++ [0]) else .ok output

/-- The lines of `addMetaData` that take the outer braces off. -/
def stripBracesInPlace (workBuffer : CArray sizeOfMessageBuffer) :
    Checked (CArray sizeOfMessageBuffer) := do
  let len ← strlen workBuffer
  if len > 2 then
    let first ← readByte workBuffer 0
    let last ← readByte workBuffer (len - 1)
    if first = 0x7b ∧ last = 0x7d then
      let workBuffer ← writeRange workBuffer (len - 1) [0]
      -- source and target overlap, so the source uses `memmove`
      let moved ← readRange workBuffer 1 (len - 1)
      writeRange workBuffer 0 moved
    else .ok workBuffer
  else .ok workBuffer

/-- The intermediate JSON of a text, for any hash. -/
def chainedIntermediate (m : Metadata) (d text : Bytes) : Bytes :=
  ascii "\x7b" ++ members (metadataMembers m d) ++ ascii "," ++ text ++ ascii "\x7d"

/-- The final JSON, for any hash. -/
def chainedFinal (h rest : Bytes) : Bytes :=
  ascii "\x7b" ++ member ("curr", quoted h) ++ ascii "," ++ rest ++ ascii "\x7d"

/-- **`addMetaData`** on its arrays. -/
def addMetaDataInPlace (H : Bytes → Bytes) (m : Metadata) (a : ChainArrays) :
    Checked ChainArrays := do
  let hashCanonicData ← hash_and_base64 H a.messageBuffer a.hashCanonicData
  let d ← printString hashCanonicData
  let text ← printString a.messageBuffer
  let workBuffer ← snprintf a.workBuffer (chainedIntermediate m d text)
  let hashCurrentJson ← hash_and_base64 H workBuffer a.hashCurrentJson
  let workBuffer ← stripBracesInPlace workBuffer
  let h ← printString hashCurrentJson
  let rest ← printString workBuffer
  let messageBuffer ← snprintf a.messageBuffer (chainedFinal h rest)
  let currChainHash ← strcpy a.currChainHash hashCurrentJson
  .ok { messageBuffer, workBuffer, hashCanonicData, hashCurrentJson, currChainHash }

/-! ## What each operation does to a string

  One lemma for each operation of the function: a string goes in, and a string comes out. -/

/-- What is printed is the string. -/
theorem printString_holds {n : Nat} {a : CArray n} {s : Bytes} (h : Holds a s) :
    printString a = .ok s := by
  have hread := Holds.readRange_prefix (p := s) (s := []) (by simpa using h)
  simp only [printString, h.strlen, ok_bind, hread]

/-- **A hash into base64 text**: a C string that the arrays have room for. -/
structure HashesToText (H : Bytes → Bytes) : Prop where
  alphabet : ∀ s, ∀ c ∈ H s, Base64.Alphabet c
  short : ∀ s, (H s).length < sizeOfHash

/-- Such a text is a string. -/
theorem HashesToText.nulFree {H : Bytes → Bytes} (hH : HashesToText H) (s : Bytes) :
    NulFree (H s) := fun c hc => (hH.alphabet s c hc).ne.1

/-- The hash of the gateway is one. -/
theorem hashesToText_hashAndBase64 {P : Primitives} (hP : P.Lawful) :
    HashesToText (hashAndBase64 P) where
  alphabet s := hP.base64Encode_alphabet (P.sha256 s).1
  short s := by
    rw [length_hashAndBase64 hP]
    decide

/-- The hash of a string is written as a string. -/
theorem hash_and_base64_holds {n : Nat} {H : Bytes → Bytes} (hH : HashesToText H)
    {input : CArray n} {s : Bytes} (h : Holds input s) (output : CArray sizeOfHash) :
    ∃ output', hash_and_base64 H input output = .ok output' ∧ Holds output' (H s) := by
  have hshort := hH.short s
  obtain ⟨output', hw, hout⟩ := holds_writeRange (b := output) (hH.nulFree s) hshort
  refine ⟨output', ?_, hout⟩
  simp only [hash_and_base64, printString_holds h, ok_bind, if_pos (show _ + 1 ≤ sizeOfHash from hshort),
    hw]

/-- A byte of the string can be read. -/
theorem readByte_holds {n : Nat} {a : CArray n} {p s : Bytes} {c : UInt8}
    (h : Holds a (p ++ c :: s)) : readByte a p.length = .ok c := by
  obtain ⟨-, t, ht⟩ := h
  unfold readByte
  rw [ht, List.append_assoc, List.getElem?_append_right (Nat.le_refl _), Nat.sub_self]
  rfl

/-- **The braces come off**: what stood between them begins the array. -/
theorem stripBracesInPlace_holds {a : CArray sizeOfMessageBuffer} {r : Bytes} (hne : r ≠ [])
    (h : Holds a (0x7b :: r ++ [0x7d])) :
    ∃ a', stripBracesInPlace a = .ok a' ∧ Holds a' r := by
  have hpos := List.length_pos_iff.mpr hne
  have hlen : (0x7b :: r ++ [0x7d] : Bytes).length = r.length + 2 := by simp
  have hfirst : readByte a 0 = .ok 0x7b :=
    readByte_holds (p := []) (s := r ++ [0x7d]) (by simpa using h)
  have hlast : readByte a (r.length + 1) = .ok 0x7d := by
    have := readByte_holds (p := 0x7b :: r) (s := []) h
    rwa [List.length_cons] at this
  -- the NUL over the closing brace
  obtain ⟨b, hw, hb⟩ := h.truncate
  rw [List.length_cons] at hw
  obtain ⟨hfree, t, ht⟩ := hb
  -- the move takes the string and its NUL one byte down
  have hmoved : readRange b 1 (r.length + 1) = .ok (r ++ [0]) := by
    have := readRange_append (b := b) (p := [0x7b]) (m := r ++ [0]) (s := t) (by rw [ht]; simp)
    simpa using this
  have hfree : NulFree r := fun c hc => hfree c (List.mem_cons_of_mem _ hc)
  have hsize := b.2
  rw [ht] at hsize
  simp only [List.length_append, List.length_cons] at hsize
  obtain ⟨a', hw', ha'⟩ := holds_writeRange (b := b) hfree (by omega)
  refine ⟨a', ?_, ha'⟩
  have hgt : r.length + 2 > 2 := by omega
  have hsub : r.length + 2 - 1 = r.length + 1 := by omega
  simp only [stripBracesInPlace, h.strlen, hlen, ok_bind, if_pos hgt, hfirst, hsub, hlast, hw,
    hmoved, hw', and_self, if_true]

/-! ## The texts are C strings

  No NUL stands in any of the texts, so that what is printed is what is read again.  For the
  metadata this is a hypothesis of the theorem, for they are strings in the gateway; for the members
  it is proved. -/

/-- The metadata are C strings. -/
structure Metadata.CStrings (m : Metadata) : Prop where
  deviceIdentifier : NulFree m.deviceIdentifier
  urlPathChannel : NulFree m.urlPathChannel
  timestamp : NulFree m.timestamp
  timestampExpiration : NulFree m.timestampExpiration
  hashPrevJson : NulFree m.hashPrevJson

/-- The two ways to say it. -/
theorem nulFree_iff {s : Bytes} : NulFree s ↔ 0 ∉ s := by
  constructor
  · exact fun h hmem => h 0 hmem rfl
  · rintro h c hc rfl
    exact h hc

/-- What stands between the braces of the intermediate JSON. -/
def chainedMembers (m : Metadata) (d text : Bytes) : Bytes :=
  members (metadataMembers m d) ++ ascii "," ++ text

/-- The braces, as bytes. -/
theorem chainedIntermediate_eq (m : Metadata) (d text : Bytes) :
    chainedIntermediate m d text = 0x7b :: chainedMembers m d text ++ [0x7d] := by
  show [0x7b] ++ _ ++ _ ++ _ ++ [0x7d] = _
  simp only [chainedMembers, List.append_assoc, List.cons_append, List.nil_append]

/-- The members are a string, -/
theorem nulFree_chainedMembers {m : Metadata} (hm : m.CStrings) {d text : Bytes} (hd : NulFree d)
    (htext : NulFree text) : NulFree (chainedMembers m d text) := by
  have hquoted : ∀ {s}, NulFree s → (0 : UInt8) ∉ quoted s := fun hs =>
    not_mem_quoted (by decide) (nulFree_iff.mp hs)
  have hseq : (0 : UInt8) ∉ Stdio.intText m.sequenceNumber :=
    nulFree_iff.mp (Stdio.intText_nulFree _)
  refine NulFree.append (NulFree.append (nulFree_iff.mpr ?_) (by decide)) htext
  refine not_mem_members (by decide) (by decide) (by decide) ?_
  simp only [metadataMembers, List.forall_mem_cons, List.not_mem_nil, false_imp_iff, implies_true,
    and_true]
  exact ⟨⟨by decide, hquoted hm.deviceIdentifier⟩, ⟨by decide, hquoted hm.urlPathChannel⟩,
    ⟨by decide, hquoted hm.timestamp⟩, ⟨by decide, hquoted hm.timestampExpiration⟩,
    ⟨by decide, hquoted hd⟩, ⟨by decide, hseq⟩, ⟨by decide, hquoted hm.hashPrevJson⟩⟩

/-- and not the empty one, -/
theorem chainedMembers_ne_nil (m : Metadata) (d text : Bytes) : chainedMembers m d text ≠ [] := by
  intro hnil
  have := congrArg List.length hnil
  simp only [chainedMembers, List.length_append] at this
  have hcomma : (ascii ",").length = 1 := by decide
  have hzero : ([] : Bytes).length = 0 := rfl
  omega

/-- and so is what is printed at the end. -/
theorem nulFree_chainedFinal {h rest : Bytes} (hh : NulFree h) (hrest : NulFree rest) :
    NulFree (chainedFinal h rest) := by
  have hcurr : NulFree (member ("curr", quoted h)) :=
    nulFree_iff.mpr (not_mem_member (by decide) (by decide) (show 0 ∉ ascii "curr" by decide)
      (not_mem_quoted (by decide) (nulFree_iff.mp hh)))
  refine NulFree.append (NulFree.append (NulFree.append (NulFree.append ?_ hcurr) ?_) hrest) ?_
  · decide
  · decide
  · decide

/-! ## The result

  `Verifiable` is stated without the printing functions, in `hashedText`; the two hypotheses on
  lengths say that the texts fit, which `MessageLengths` proves for the messages of the gateway. -/

/-- What the hash of a message covers, written out: the seven members that the gateway adds, the
    sequence number a bare number and the others in quotes, and behind them the payload `p`. -/
def hashedText (m : Metadata) (d p : Bytes) : Bytes :=
  ascii "\"iss\":\"" ++ m.deviceIdentifier ++
  ascii "\",\"aud\":\"" ++ m.urlPathChannel ++
  ascii "\",\"ias\":\"" ++ m.timestamp ++
  ascii "\",\"exp\":\"" ++ m.timestampExpiration ++
  ascii "\",\"d\":\"" ++ d ++
  ascii "\",\"seq\":" ++ Stdio.intText m.sequenceNumber ++
  ascii ",\"prev\":\"" ++ m.hashPrevJson ++ ascii "\"," ++ p

/-- The members that are printed are these: between two values stand the closing quote, the comma,
    and the quoted name of the next one. -/
theorem chainedMembers_eq (m : Metadata) (d p : Bytes) : chainedMembers m d p = hashedText m d p := by
  have hiss : ascii "\"iss\":\"" = ascii "\"" ++ ascii "iss" ++ ascii "\":" ++ ascii "\"" := by
    decide
  have haud : ascii "\",\"aud\":\"" =
      ascii "\"" ++ ascii "," ++ ascii "\"" ++ ascii "aud" ++ ascii "\":" ++ ascii "\"" := by
    decide
  have hias : ascii "\",\"ias\":\"" =
      ascii "\"" ++ ascii "," ++ ascii "\"" ++ ascii "ias" ++ ascii "\":" ++ ascii "\"" := by
    decide
  have hexp : ascii "\",\"exp\":\"" =
      ascii "\"" ++ ascii "," ++ ascii "\"" ++ ascii "exp" ++ ascii "\":" ++ ascii "\"" := by
    decide
  have hd : ascii "\",\"d\":\"" =
      ascii "\"" ++ ascii "," ++ ascii "\"" ++ ascii "d" ++ ascii "\":" ++ ascii "\"" := by
    decide
  have hseq : ascii "\",\"seq\":" =
      ascii "\"" ++ ascii "," ++ ascii "\"" ++ ascii "seq" ++ ascii "\":" := by
    decide
  have hprev : ascii ",\"prev\":\"" =
      ascii "," ++ ascii "\"" ++ ascii "prev" ++ ascii "\":" ++ ascii "\"" := by
    decide
  have hend : ascii "\"," = ascii "\"" ++ ascii "," := by decide
  simp only [chainedMembers, metadataMembers, members, member, quoted, hashedText, hiss, haud, hias,
    hexp, hd, hseq, hprev, hend, List.append_assoc]

/-- In braces they are the intermediate JSON. -/
theorem braced_hashedText (m : Metadata) (d p : Bytes) :
    ascii "\x7b" ++ hashedText m d p ++ ascii "\x7d" = chainedIntermediate m d p := by
  rw [← chainedMembers_eq]
  exact (chainedIntermediate_eq m d p).symm

/-- **The hashes of the message are verifiable**: the buffer holds a text that names a hash in front,
    the hash is the one of the rest of the text in braces, the rest is the seven members (with the
    hash of the payload, the gateway's sequence number and its previous hash among them) and the
    payload unchanged, and the gateway remembers the hash. -/
structure Verifiable (H : Bytes → Bytes) (m : Metadata) (p : Bytes) (a : ChainArrays) : Prop where
  message : Holds a.messageBuffer
    (ascii "\x7b\"curr\":\"" ++ H (ascii "\x7b" ++ hashedText m (H p) p ++ ascii "\x7d") ++
      ascii "\"," ++ hashedText m (H p) p ++ ascii "\x7d")
  remembered : Holds a.currChainHash
    (H (ascii "\x7b" ++ hashedText m (H p) p ++ ascii "\x7d"))

/-- The final JSON, written out. -/
theorem chainedFinal_eq (h rest : Bytes) :
    chainedFinal h rest = ascii "\x7b\"curr\":\"" ++ h ++ ascii "\"," ++ rest ++ ascii "\x7d" := by
  have hopen : ascii "\x7b\"curr\":\"" = ascii "\x7b" ++ (ascii "\"" ++ ascii "curr" ++
      ascii "\":" ++ ascii "\"") := by decide
  have hclose : ascii "\"," = ascii "\"" ++ ascii "," := by decide
  rw [hopen, hclose]
  simp only [chainedFinal, member, quoted, List.append_assoc]

/-- **`addMetaData` leaves a message whose hashes are verifiable**, whatever the payload contains. -/
theorem chained_hashes (H : Bytes → Bytes) (hH : HashesToText H) (m : Metadata) (hm : m.CStrings)
    (p : Bytes) (a : ChainArrays) (hp : Holds a.messageBuffer p)
    (hinter : (chainedIntermediate m (H p) p).length < sizeOfMessageBuffer)
    (hfinal : (chainedFinal (H (chainedIntermediate m (H p) p)) (chainedMembers m (H p) p)).length
      < sizeOfMessageBuffer) :
    ∃ a', addMetaDataInPlace H m a = .ok a' ∧ Verifiable H m p a' := by
  have hmembers := nulFree_chainedMembers hm (hH.nulFree p) hp.1
  have hfree : NulFree (chainedIntermediate m (H p) p) := by
    rw [chainedIntermediate_eq]
    exact NulFree.append (NulFree.append (s := [0x7b]) (by decide) hmembers) (by decide)
  obtain ⟨hd, hhash, hdHolds⟩ := hash_and_base64_holds hH hp a.hashCanonicData
  obtain ⟨work, hprint, hwork⟩ := holds_snprintf (b := a.workBuffer) hfree hinter
  obtain ⟨hc, hhash', hcHolds⟩ := hash_and_base64_holds hH hwork a.hashCurrentJson
  -- the braces come off after the hash was taken
  have hbraced := hwork
  rw [chainedIntermediate_eq] at hbraced
  obtain ⟨work', hstrip, hwork'⟩ :=
    stripBracesInPlace_holds (chainedMembers_ne_nil m (H p) p) hbraced
  obtain ⟨message, hfinalPrint, hmessage⟩ := holds_snprintf (b := a.messageBuffer)
    (nulFree_chainedFinal (hH.nulFree (chainedIntermediate m (H p) p)) hmembers) hfinal
  obtain ⟨chain, hcopy, hchain⟩ := hcHolds.strcpy a.currChainHash hcHolds.length_lt
  refine ⟨⟨message, work', hd, hc, chain⟩, ?_, ?_, ?_⟩
  · simp only [addMetaDataInPlace, hhash, ok_bind, printString_holds hdHolds, printString_holds hp,
      hprint, hhash', hstrip, printString_holds hcHolds, printString_holds hwork', hfinalPrint, hcopy]
  · show Holds message _
    rw [braced_hashedText, ← chainedMembers_eq, ← chainedFinal_eq]
    exact hmessage
  · show Holds chain _
    rw [braced_hashedText]
    exact hchain

/-- A payload with braces and a quote in it. -/
def bracedPayload : Bytes := ascii "\"EVNT\":\"\x7d\\\"\x7b\""

/-- Empty arrays, but for the payload. -/
def arraysHolding (p : Bytes) : ChainArrays :=
  ⟨cstring _ p, cstring _ [], cstring _ [], cstring _ [], cstring _ []⟩

/-- A payload in which a server could lose its way. -/
theorem bracedPayload_chained :
    ∃ a', addMetaDataInPlace (hashAndBase64 .reference) firstMetadata (arraysHolding bracedPayload)
        = .ok a' ∧
      Verifiable (hashAndBase64 .reference) firstMetadata bracedPayload a' :=
  chained_hashes (hashAndBase64 .reference) (hashesToText_hashAndBase64 Primitives.reference_lawful)
    firstMetadata ⟨by decide, by decide, by decide, by decide, by decide⟩ bracedPayload
    (arraysHolding bracedPayload) (holds_cstring (by decide) (by decide)) (by decide +kernel)
    (by decide +kernel)

/-! ## The arrays and the strings

  The rest of the development speaks of strings.  This is what allows it to: the arrays and the
  strings were translated from the source separately, and agree. -/

/-- **The arrays hold what the strings of `FormattingMessage` say**, for the hash of the gateway. -/
theorem addMetaData_refines {P : Primitives} (hP : P.Lawful) {m : Metadata} (hm : m.CStrings)
    {p : Bytes} {a : ChainArrays} (hp : Holds a.messageBuffer p)
    (hinter : (completeIntermediate P m p).length < sizeOfMessageBuffer)
    (hfinal : (completeFinal P m p).length < sizeOfMessageBuffer) :
    ∃ a', addMetaDataInPlace (hashAndBase64 P) m a = .ok a' ∧
      Holds a'.messageBuffer (addMetaData P m p) ∧
      Holds a'.currChainHash (hashCurrentJson P m p) := by
  have hH := hashesToText_hashAndBase64 hP
  have hsame : intermediateJson P m p = chainedIntermediate m (hashAndBase64 P p) p := by
    rw [intermediateJson_eq, printed_of_lt hinter]
    rfl
  have hstrip : stripBraces (intermediateJson P m p) = chainedMembers m (hashAndBase64 P p) p := by
    have hne := List.length_pos_iff.mpr (chainedMembers_ne_nil m (hashAndBase64 P p) p)
    rw [hsame, chainedIntermediate_eq, stripBraces, if_pos]
    · rw [List.cons_append, List.tail_cons, List.dropLast_concat]
    · refine ⟨?_, rfl, List.getLast?_concat⟩
      rw [List.length_append, List.length_cons, List.length_singleton]
      omega
  have hwhole : completeFinal P m p = chainedFinal (hashAndBase64 P (chainedIntermediate m
      (hashAndBase64 P p) p)) (chainedMembers m (hashAndBase64 P p) p) := by
    rw [completeFinal, hashCurrentJson, hstrip, hsame]
    rfl
  obtain ⟨a', hrun, hverifiable⟩ := chained_hashes (hashAndBase64 P) hH m hm p a hp hinter
    (by rw [← hwhole]; exact hfinal)
  refine ⟨a', hrun, ?_, ?_⟩
  · have hmessage := hverifiable.message
    rw [braced_hashedText, ← chainedMembers_eq, ← chainedFinal_eq] at hmessage
    rw [addMetaData_eq, printed_of_lt hfinal, hwhole]
    exact hmessage
  · have hchain := hverifiable.remembered
    rw [braced_hashedText] at hchain
    rw [hashCurrentJson, hsame]
    exact hchain

end GatewayLoRa
