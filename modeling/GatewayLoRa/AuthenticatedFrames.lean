/-
  Generation and verification of a frame, one against the other.

  `AuthenticationGenerator` and `ChecksumGenerator` append two trailers to a body: 32 bytes of
  HMAC with the zero bytes rewritten, and eight hexadecimal digits of the CRC of all that stands
  before them.  `ChecksumVerifier` and `AuthenticationVerifier` take them off again.  Two questions:

  1. **Is what is generated accepted?**  Yes, for every HMAC and every CRC, and what is left is
     the body: `verify_generate`.  The two sides agree on every byte because both rewrite the
     zeros of the HMAC, and `%8X` reads back what `%08X` prints.

  2. **Is what is accepted generated?**  Not always.  `%8X` also reads lower-case digits, white
     space, a sign, a prefix, and stops at whatever is not a digit, so one CRC has many spellings
     and the verifier takes them all.  `onlyGenerated_iff` says which strings are safe: those that
     end in eight upper-case digits (and are short enough for the generator).

  The crux of both is `Authentic`, which reads the two trailers off a received string.  The
  verifiers accept the authentic strings and no others, so both questions are about bytes: the first
  is that what the generators leave is authentic, and the second how many strings are authentic for
  the same body and checksum.
-/

import GatewayLoRa.HandlerSafety
import GatewayLoRa.Framing
import GatewayLoRa.Lib.ReadBack

namespace GatewayLoRa

open CMemory

/-! ## The two layers, both ways

  The chains without the layer of encryption, which has a module of its own.  Everything is said
  with the next handler as a parameter, so that the lemmas also hold inside the chains of the
  gateway. -/

section Layers

variable {n : Nat} (P : Primitives)

/-- `AuthenticationGenerator`, and `ChecksumGenerator` after it. -/
def generate (next : Option (Handler n)) : Handler n :=
  AuthenticationGenerator.handleMessage P (some (ChecksumGenerator.handleMessage P next))

/-- `ChecksumVerifier`, and `AuthenticationVerifier` after it. -/
def verify (uninit : UInt32) (next : Option (Handler n)) : Handler n :=
  ChecksumVerifier.handleMessage P uninit (some (AuthenticationVerifier.handleMessage P next))

/-- The string the checksum of a body is computed over. -/
def tagged (body : Bytes) : Bytes := body ++ hmacTag P body

/-- It is longer by the HMAC. -/
@[simp] theorem length_tagged (body : Bytes) : (tagged P body).length = body.length + 32 := by
  rw [tagged, List.length_append, length_hmacTag]

variable {P} {mem : Mem n} {body : Bytes} {crc : UInt32}

/-- **The generators** leave body, HMAC and checksum, one behind the other. -/
theorem generate_spec (next : Option (Handler n)) (size : Nat) (h : Holds mem.message body)
    (hcrc : P.crc (tagged P body) = some crc) (hlen : body.length + 40 < 4000)
    (hn : body.length + 41 ≤ n) :
    ∃ message, Holds message (tagged P body ++ Stdio.hexText 8 crc.toNat) ∧
      generate P next mem size = pass next { mem with message } size := by
  obtain ⟨m, hm, heq⟩ := AuthenticationGenerator.spec (P := P)
    (some (ChecksumGenerator.handleMessage P next)) size h (by omega)
  let mem₁ : Mem n := { mem with message := m }
  have hm : Holds mem₁.message (tagged P body) := hm
  have htagged := length_tagged P body
  obtain ⟨m', hm', heq'⟩ := ChecksumGenerator.spec next size hm hcrc (by omega) (by omega)
  exact ⟨m', hm', heq.trans heq'⟩

/-- From 4000 bytes on the generators refuse. -/
theorem generate_long (size : Nat) (h : Holds mem.message body)
    (hlen : 4000 ≤ body.length + 40) (hn : body.length + 41 ≤ n) :
    ∃ mem', generate P none mem size = .ok (.failToComputeChecksum, mem') := by
  obtain ⟨m, hm, heq⟩ := AuthenticationGenerator.spec (P := P)
    (some (ChecksumGenerator.handleMessage P none)) size h (by omega)
  let mem₁ : Mem n := { mem with message := m }
  have hm : Holds mem₁.message (tagged P body) := hm
  have htagged := length_tagged P body
  refine ⟨mem₁, heq.trans ?_⟩
  show ChecksumGenerator.handleMessage P none mem₁ size = _
  cases hcrc : P.crc (tagged P body) with
  | none => exact ChecksumGenerator.fails none size hm hcrc
  | some crc =>
    have hread := Holds.readRange_prefix (p := tagged P body) (s := []) (by simpa using hm)
    have hlong : (tagged P body).length + (Stdio.hexText 8 crc.toNat).length ≥ 4000 := by
      rw [Stdio.length_hexText]
      omega
    simp only [ChecksumGenerator.handleMessage, hm.strlen, ok_bind, hread, hcrc, if_pos hlong]

/-- Checksum and HMAC of a received string are the ones its trailers spell. -/
def Authentic (P : Primitives) (uninit : UInt32) (r : Bytes) : Prop :=
  ChecksumMatches P uninit (crcBody r) (crcTrailer r) ∧ tagOf r = hmacTag P (textOf r)

instance (uninit : UInt32) (r : Bytes) : Decidable (Authentic P uninit r) :=
  inferInstanceAs (Decidable (_ ∧ _))

variable {uninit : UInt32} {r : Bytes}

/-- **The verifiers** pass an authentic string on without its trailers. -/
theorem verify_accepts (next : Option (Handler n)) (size : Nat) (h : Holds mem.message r)
    (h40 : 40 ≤ r.length) (hr : r.length < sizeRange) (hauth : Authentic P uninit r) :
    ∃ message, Holds message (textOf r) ∧
      verify P uninit next mem size = pass next { mem with message } size := by
  obtain ⟨hcrc, htag⟩ := hauth
  rw [← crcBody_append_crcTrailer r] at h
  obtain ⟨m, hm, heq⟩ := ChecksumVerifier.accept h (length_crcTrailer (by omega)) hcrc
  rw [← textOf_append_tagOf r] at hm
  let mem₁ : Mem n := { mem with message := m }
  have hm : Holds mem₁.message (textOf r ++ tagOf r) := hm
  have hlen : (textOf r ++ tagOf r).length < sizeRange := by
    rw [textOf_append_tagOf, length_crcBody]
    omega
  obtain ⟨m', hm', heq'⟩ := AuthenticationVerifier.split_of_length hm (length_tagOf h40) hlen
  rw [if_pos htag] at heq'
  exact ⟨m', hm', heq.trans heq'⟩

/-- They accept nothing else. -/
theorem authentic_of_verify {mem' : Mem n} {size : Nat} (h : Holds mem.message r)
    (h40 : 40 ≤ r.length) (hr : r.length < sizeRange)
    (hrun : verify P uninit none mem size = .ok (.processed, mem')) : Authentic P uninit r := by
  rw [← crcBody_append_crcTrailer r] at h
  -- each of the two comparisons refuses otherwise
  by_cases hcrc : ChecksumMatches P uninit (crcBody r) (crcTrailer r)
  · obtain ⟨m, hm, heq⟩ := ChecksumVerifier.accept h (length_crcTrailer (by omega)) hcrc
    rw [← textOf_append_tagOf r] at hm
    let mem₁ : Mem n := { mem with message := m }
    have hm : Holds mem₁.message (textOf r ++ tagOf r) := hm
    have hlen : (textOf r ++ tagOf r).length < sizeRange := by
      rw [textOf_append_tagOf, length_crcBody]
      omega
    obtain ⟨m', -, heq'⟩ := AuthenticationVerifier.split_of_length hm (length_tagOf h40) hlen
    by_cases htag : tagOf r = hmacTag P (textOf r)
    · exact ⟨hcrc, htag⟩
    · rw [if_neg htag] at heq'
      cases hrun.symm.trans (heq.trans heq')
  · obtain ⟨st, hst, heq⟩ := ChecksumVerifier.reject h (length_crcTrailer (by omega)) hcrc
    obtain ⟨rfl, -⟩ := Prod.mk.inj (Except.ok.inj (hrun.symm.trans heq))
    exact absurd rfl hst.2

/-- What they leave of an accepted string. -/
theorem textOf_of_verify {mem' : Mem n} {size : Nat} {b : Bytes} (h : Holds mem.message r)
    (h40 : 40 ≤ r.length) (hr : r.length < sizeRange)
    (hrun : verify P uninit none mem size = .ok (.processed, mem'))
    (hb : Holds mem'.message b) : b = textOf r := by
  obtain ⟨m, hm, heq⟩ :=
    verify_accepts none size h h40 hr (authentic_of_verify h h40 hr hrun)
  obtain ⟨-, rfl⟩ := Prod.mk.inj (Except.ok.inj (hrun.symm.trans heq))
  exact hb.unique hm

end Layers

/-! ## What is generated is accepted

  For every HMAC and every checksum; nothing is asked of the two functions but that they are
  functions. -/

/-- The primitives with a checksum that never fails. -/
def Primitives.withCrc (P : Primitives) (crc : Bytes → UInt32) : Primitives :=
  { P with crc := fun data => some (crc data) }

/-- The parts of a string that is put together from them. -/
theorem parts_of_append (body : Bytes) {tag digits : Bytes} (htag : tag.length = 32)
    (hdigits : digits.length = 8) :
    crcBody (body ++ tag ++ digits) = body ++ tag ∧ crcTrailer (body ++ tag ++ digits) = digits ∧
      textOf (body ++ tag ++ digits) = body ∧ tagOf (body ++ tag ++ digits) = tag := by
  have hlen : (body ++ tag ++ digits).length - 8 = (body ++ tag).length := by
    rw [List.length_append, hdigits, Nat.add_sub_cancel]
  have hlen' : (body ++ tag).length - 32 = body.length := by
    rw [List.length_append, htag, Nat.add_sub_cancel]
  have hbody : crcBody (body ++ tag ++ digits) = body ++ tag := by
    rw [crcBody, hlen, List.take_left]
  refine ⟨hbody, ?_, ?_, ?_⟩
  · rw [crcTrailer, hlen, List.drop_left]
  · rw [textOf, hbody, hlen', List.take_left]
  · rw [tagOf, hbody, hlen', List.drop_left]

/-- **Verification undoes generation**: the generators leave a C string, and from every buffer
    that holds it the verifiers pass the body on. -/
theorem verify_generate (P : Primitives) (crc : Bytes → UInt32) (uninit : UInt32) (n size : Nat)
    (tx : Mem n) (b : Bytes) (h : Holds tx.message b) (hlen : b.length + 40 < 4000)
    (hn : b.length + 41 ≤ n) :
    ∃ (tx' : Mem n) (r : Bytes), generate (P.withCrc crc) none tx size = .ok (.processed, tx') ∧
      Holds tx'.message r ∧
      ∀ (m : Nat) (rx : Mem m), Holds rx.message r →
        ∀ (next : Option (Handler m)) (size' : Nat), ∃ message, Holds message b ∧
          verify (P.withCrc crc) uninit next rx size' = pass next { rx with message } size' := by
  have hcrc : (P.withCrc crc).crc (tagged (P.withCrc crc) b)
      = some (crc (tagged (P.withCrc crc) b)) := rfl
  generalize P.withCrc crc = Q at hcrc ⊢
  generalize crc (tagged Q b) = v at hcrc
  obtain ⟨m, hm, heq⟩ := generate_spec none size h hcrc hlen hn
  refine ⟨{ tx with message := m }, _, heq, hm, ?_⟩
  intro k rx hrx next size'
  obtain ⟨hbody, htrailer, htext, htag⟩ := parts_of_append b
    (length_hmacTag Q b) (Stdio.length_hexText 8 v.toNat)
  have htotal : (tagged Q b ++ Stdio.hexText 8 v.toNat).length = b.length + 40 := by
    rw [List.length_append, length_tagged, Stdio.length_hexText]
  -- the digits spell the checksum, and both sides rewrite the same zeros of the HMAC
  have hauth : Authentic Q uninit (tagged Q b ++ Stdio.hexText 8 v.toNat) := by
    constructor
    · show Q.crc (crcBody (b ++ hmacTag Q b ++ _)) = some (receivedCRC uninit (crcTrailer
        (b ++ hmacTag Q b ++ _)))
      rw [hbody, htrailer, receivedCRC, Stdio.scanHex_hexText, Option.getD_some]
      exact hcrc
    · show tagOf (b ++ hmacTag Q b ++ _) = hmacTag Q (textOf (b ++ hmacTag Q b ++ _))
      rw [htag, htext]
  obtain ⟨message, hmessage, hverify⟩ := verify_accepts next size' hrx (by omega)
    (by rw [sizeRange_eq]; omega) hauth
  have hsame : textOf (tagged Q b ++ Stdio.hexText 8 v.toNat) = b := htext
  rw [hsame] at hmessage
  exact ⟨message, hmessage, hverify⟩

/-- An encrypted text comes back from its frame. -/
theorem sampleText_verified :
    ∃ (tx' : Mem messageBufferSize) (r : Bytes),
      generate (Primitives.reference.withCrc crc32) none (Mem.holding _ sampleText) 4
        = .ok (.processed, tx') ∧
      Holds tx'.message r ∧
      ∀ (m : Nat) (rx : Mem m), Holds rx.message r →
        ∀ (next : Option (Handler m)) (size' : Nat), ∃ message, Holds message sampleText ∧
          verify (Primitives.reference.withCrc crc32) 0 next rx size'
            = pass next { rx with message } size' :=
  verify_generate .reference crc32 0 messageBufferSize 4 (Mem.holding _ sampleText) sampleText
    holds_sampleText (by decide) (by decide)

/-! ## What is accepted may not be what is generated

  Of the two trailers the HMAC is compared byte by byte, so it is the generator's own.  The checksum
  is scanned, and compared as a number. -/

/-- **The frame is what the generators produce from the body**, in every buffer with room. -/
def Generated (P : Primitives) (b r : Bytes) : Prop :=
  ∀ (n : Nat) (mem : Mem n) (size : Nat), Holds mem.message b → r.length < n →
    ∃ mem', generate P none mem size = .ok (.processed, mem') ∧ Holds mem'.message r

/-- **Only generated strings are accepted**: if the verifiers accept `r` and leave `b`, then `r` is
    the frame of `b`. -/
def OnlyGenerated (P : Primitives) (uninit : UInt32) (r : Bytes) : Prop :=
  ∀ (n : Nat) (mem mem' : Mem n) (size : Nat) (b : Bytes), Holds mem.message r →
    verify P uninit none mem size = .ok (.processed, mem') → Holds mem'.message b → Generated P b r

/-- The checksum is spelt as the generator spells it, and the length is one it takes. -/
def Canonical (r : Bytes) : Prop := (∀ c ∈ crcTrailer r, Stdio.UpperHex c) ∧ r.length < 4000

instance (r : Bytes) : Decidable (Canonical r) := inferInstanceAs (Decidable (_ ∧ _))

section Spellings

variable {P : Primitives} {uninit : UInt32} {r : Bytes}

/-- A string is put together from its parts, -/
theorem textOf_append_trailers (r : Bytes) : textOf r ++ tagOf r ++ crcTrailer r = r := by
  rw [textOf_append_tagOf, crcBody_append_crcTrailer]

/-- and if it is authentic, the first two are what the generator makes. -/
theorem tagged_textOf (hauth : Authentic P uninit r) : tagged P (textOf r) = crcBody r := by
  rw [tagged, ← hauth.2, textOf_append_tagOf]

/-- An authentic string is the frame of its text if and only if it is canonical. -/
theorem generated_iff (hfree : NulFree r) (h40 : 40 ≤ r.length) (hauth : Authentic P uninit r) :
    Generated P (textOf r) r ↔ Canonical r := by
  have hlenText := length_textOf r
  have hcrc : P.crc (tagged P (textOf r)) = some (receivedCRC uninit (crcTrailer r)) := by
    rw [tagged_textOf hauth]
    exact hauth.1
  have hfreeText : NulFree (textOf r) := by
    rw [← textOf_append_trailers r] at hfree
    exact hfree.left.left
  constructor
  -- the generator prints upper-case digits, and refuses long bodies
  · intro hgen
    -- generated in a buffer that has just enough room
    have hheld : Holds (Mem.holding (r.length + 1) (textOf r)).message (textOf r) :=
      holds_cstring hfreeText (by omega)
    obtain ⟨mem', hrun, hr⟩ := hgen (r.length + 1) _ 0 hheld (by omega)
    refine ⟨?_, ?_⟩
    · obtain ⟨crc, -, hframe⟩ := generators_leave hheld hrun
      have hsame := hr.unique hframe
      have htrailer := (parts_of_append (textOf r) (length_hmacTag P (textOf r))
        (Stdio.length_hexText 8 crc.toNat)).2.1
      rw [← hsame] at htrailer
      rw [htrailer]
      exact Stdio.hexText_upper 8 crc.toNat
    · apply Nat.lt_of_not_le
      intro hlong
      obtain ⟨mem'', hfail⟩ := generate_long (P := P) 0 hheld (by omega) (by omega)
      cases hfail.symm.trans hrun
  · rintro ⟨hupper, hshort⟩ n mem size hmem hroom
    obtain ⟨v, hv⟩ : ∃ v, Stdio.scanHex 8 (crcTrailer r) = some v := by
      have hlen := length_crcTrailer (r := r) (by omega)
      have hne : crcTrailer r ≠ [] := by
        intro hnil
        rw [hnil] at hlen
        exact absurd hlen (by decide)
      exact ⟨_, Stdio.scanHex_upper hne (by omega) hupper⟩
    have hspelt : Stdio.hexText 8 (receivedCRC uninit (crcTrailer r)).toNat = crcTrailer r := by
      rw [receivedCRC, hv, Option.getD_some]
      exact Stdio.hexText_of_scanHex (length_crcTrailer (by omega)) hupper hv
    obtain ⟨m, hm, heq⟩ := generate_spec none size hmem hcrc (by omega) (by omega)
    refine ⟨{ mem with message := m }, heq, ?_⟩
    rw [hspelt, tagged_textOf hauth, crcBody_append_crcTrailer] at hm
    exact hm

/-- An authentic string that is not canonical is accepted, and is no frame of what is left. -/
theorem not_onlyGenerated (hfree : NulFree r) (h40 : 40 ≤ r.length) (hr : r.length < sizeRange)
    (hauth : Authentic P uninit r) (hbad : ¬ Canonical r) : ¬ OnlyGenerated P uninit r := by
  intro honly
  have hheld : Holds (Mem.holding (r.length + 1) r).message r := holds_cstring hfree (by omega)
  obtain ⟨m, hm, heq⟩ := verify_accepts none 0 hheld h40 hr hauth
  have hgen := honly _ _ _ 0 _ hheld heq hm
  exact hbad ((generated_iff hfree h40 hauth).mp hgen)

end Spellings

/-- **Only generated strings are accepted if and only if the string, if authentic, is canonical.** -/
theorem onlyGenerated_iff (P : Primitives) (uninit : UInt32) (r : Bytes) (hfree : NulFree r)
    (h40 : 40 ≤ r.length) (hr : r.length < sizeRange) :
    OnlyGenerated P uninit r ↔ (Authentic P uninit r → Canonical r) := by
  constructor
  · intro honly hauth
    by_cases hcan : Canonical r
    · exact hcan
    · exact absurd honly (not_onlyGenerated hfree h40 hr hauth hcan)
  · intro hcan n mem mem' size b hmem hrun hb
    have hauth := authentic_of_verify hmem h40 hr hrun
    obtain rfl := textOf_of_verify hmem h40 hr hrun hb
    exact (generated_iff hfree h40 hauth).mpr (hcan hauth)

/-! ## A checksum in lower case

  The checksum is right, and differs in one letter from how it is printed. -/

/-- The frame of the empty body. -/
def upperFrame : Bytes := hmacTag .reference [] ++ ascii "8457616A"

/-- The same frame with the last digit of its checksum in lower case. -/
def lowerFrame : Bytes := hmacTag .reference [] ++ ascii "8457616a"

/-- Printed as the generator prints it, it is generated. -/
theorem upperFrame_onlyGenerated : OnlyGenerated .reference 0 upperFrame :=
  (onlyGenerated_iff .reference 0 upperFrame (by decide) (by decide)
    (by rw [sizeRange_eq]; decide)).mpr fun _ => by decide +kernel

/-- **A checksum in lower case is accepted, and no generator writes it.** -/
theorem lowerFrame_accepted :
    NulFree lowerFrame ∧ 40 ≤ lowerFrame.length ∧ Authentic .reference 0 lowerFrame ∧
      ¬ OnlyGenerated .reference 0 lowerFrame := by
  have hauth : Authentic .reference 0 lowerFrame := by decide +kernel
  exact ⟨by decide, by decide, hauth,
    not_onlyGenerated (by decide) (by decide) (by rw [sizeRange_eq]; decide) hauth (by decide)⟩

end GatewayLoRa
