/-
  Base64: three bytes as four letters, `=` filling the last group.

  The letters and their values are two tables, `letter` and `value`, inverse to each other on the
  64 values (`value_letter`, by evaluation).  What a user of base64 relies on follows from that
  and from arithmetic modulo 4, 16 and 64:

  * `decode_encode`    — decoding gives the bytes back;
  * `length_encode`    — `n` bytes become `4 * ((n + 2) / 3)` letters;
  * `encode_alphabet`  — and nothing outside the alphabet;
  * `length_decode`    — a text of `n` letters holds at most `3 * n / 4` bytes.

  The recursion of `encode` goes by groups of three bytes and that of `decode` by groups of four
  letters, so every proof has four cases: a whole group and what follows it, two bytes, one byte,
  and the end.  A decoder has to refuse a fill letter anywhere but at the end of the last group; it
  is this refusal that makes `decode` a function of the text and not of a prefix.
-/

import GatewayLoRa.Lib.CMemory

namespace Base64

open CMemory

/-- The fill letter `=`. -/
def pad : UInt8 := 61

/-- The letters: `A`–`Z`, `a`–`z`, `0`–`9`, `+`, `/`. -/
def letter (n : Nat) : UInt8 :=
  if n < 26 then UInt8.ofNat (65 + n)
  else if n < 52 then UInt8.ofNat (71 + n)
  else if n < 62 then UInt8.ofNat (n - 4)
  else if n = 62 then 43 else 47

/-- The value of a letter. -/
def value (c : UInt8) : Option Nat :=
  let n := c.toNat
  if 65 ≤ n ∧ n < 91 then some (n - 65)
  else if 97 ≤ n ∧ n < 123 then some (n - 71)
  else if 48 ≤ n ∧ n < 58 then some (n + 4)
  else if n = 43 then some 62 else if n = 47 then some 63 else none

/-- The alphabet of encoded texts: the letters and the fill letter. -/
def Alphabet (c : UInt8) : Prop := (value c).isSome ∨ c = pad

instance : DecidablePred Alphabet := fun _ => instDecidableOr

/-- The two tables are inverse on the 64 values, and no value has the fill letter. -/
theorem value_letter : ∀ n, n < 64 → value (letter n) = some n ∧ letter n ≠ pad := by decide

theorem alphabet_letter {n : Nat} (h : n < 64) : Alphabet (letter n) := by
  left
  rw [(value_letter n h).1]
  rfl

theorem alphabet_pad : Alphabet pad := Or.inr rfl

/-- Nothing in the alphabet is NUL, or the byte `|` that frames end with. -/
theorem Alphabet.ne {c : UInt8} (h : Alphabet c) : c ≠ 0 ∧ c ≠ 124 := by
  constructor
  · rintro rfl
    exact absurd h (by decide)
  · rintro rfl
    exact absurd h (by decide)

/-- Encode, three bytes at a time. -/
def encode : Bytes → Bytes
  | a :: b :: c :: l =>
      letter (a.toNat / 4) :: letter (a.toNat % 4 * 16 + b.toNat / 16) ::
        letter (b.toNat % 16 * 4 + c.toNat / 64) :: letter (c.toNat % 64) :: encode l
  | [a, b] =>
      [letter (a.toNat / 4), letter (a.toNat % 4 * 16 + b.toNat / 16), letter (b.toNat % 16 * 4),
        pad]
  | [a] => [letter (a.toNat / 4), letter (a.toNat % 4 * 16), pad, pad]
  | [] => []

/-- Decode, four letters at a time; the fill letter only at the end of the last group. -/
def decode : Bytes → Option Bytes
  | w :: x :: y :: z :: l => do
      let p ← value w
      let q ← value x
      if y = pad then
        if z = pad ∧ l = [] then some [UInt8.ofNat (p * 4 + q / 16)] else none
      else
        let r ← value y
        if z = pad then
          if l = [] then some [UInt8.ofNat (p * 4 + q / 16), UInt8.ofNat (q % 16 * 16 + r / 4)]
          else none
        else
          let s ← value z
          let rest ← decode l
          some (UInt8.ofNat (p * 4 + q / 16) :: UInt8.ofNat (q % 16 * 16 + r / 4) ::
            UInt8.ofNat (r % 4 * 64 + s) :: rest)
  | [] => some []
  | _ => none

/-- Two lists of bytes agree when their values do. -/
theorem ofNat_eq {a : UInt8} {n : Nat} (h : n = a.toNat) : UInt8.ofNat n = a := by
  rw [h, UInt8.ofNat_toNat]

/-- **Decoding undoes encoding.** In each group the bytes are taken apart by divisions by 4, 16 and
    64 and put together again by the products; `omega` sees both. -/
theorem decode_encode (d : Bytes) : decode (encode d) = some d := by
  induction d using encode.induct with
  | case1 a b c l ih =>
    have ha := a.toNat_lt
    have hb := b.toNat_lt
    have hc := c.toNat_lt
    obtain ⟨h1, -⟩ := value_letter (a.toNat / 4) (by omega)
    obtain ⟨h2, -⟩ := value_letter (a.toNat % 4 * 16 + b.toNat / 16) (by omega)
    obtain ⟨h3, h3'⟩ := value_letter (b.toNat % 16 * 4 + c.toNat / 64) (by omega)
    obtain ⟨h4, h4'⟩ := value_letter (c.toNat % 64) (by omega)
    simp only [encode, decode, h1, h2, h3, h4, ih, Option.bind_eq_bind, Option.bind_some,
      if_neg h3', if_neg h4', Option.some.injEq, List.cons.injEq, and_true]
    exact ⟨ofNat_eq (by omega), ofNat_eq (by omega), ofNat_eq (by omega)⟩
  | case2 a b =>
    have ha := a.toNat_lt
    have hb := b.toNat_lt
    obtain ⟨h1, -⟩ := value_letter (a.toNat / 4) (by omega)
    obtain ⟨h2, -⟩ := value_letter (a.toNat % 4 * 16 + b.toNat / 16) (by omega)
    obtain ⟨h3, h3'⟩ := value_letter (b.toNat % 16 * 4) (by omega)
    simp only [encode, decode, h1, h2, h3, Option.bind_eq_bind, Option.bind_some, if_neg h3',
      if_true, Option.some.injEq, List.cons.injEq, and_true]
    exact ⟨ofNat_eq (by omega), ofNat_eq (by omega)⟩
  | case3 a =>
    have ha := a.toNat_lt
    obtain ⟨h1, -⟩ := value_letter (a.toNat / 4) (by omega)
    obtain ⟨h2, -⟩ := value_letter (a.toNat % 4 * 16) (by omega)
    simp only [encode, decode, h1, h2, Option.bind_eq_bind, Option.bind_some, if_true, and_true,
      Option.some.injEq, List.cons.injEq]
    exact ofNat_eq (by omega)
  | case4 => rfl

/-- Every begun group of three bytes takes four letters. -/
theorem length_encode (d : Bytes) : (encode d).length = 4 * ((d.length + 2) / 3) := by
  induction d using encode.induct with
  | case1 a b c l ih => simp only [encode, List.length_cons, ih]; omega
  | case2 a b => simp [encode]
  | case3 a => simp [encode]
  | case4 => simp [encode]

/-- An encoded text has nothing in it but the alphabet; so it has no NUL and no bar. -/
theorem encode_alphabet (d : Bytes) : ∀ c ∈ encode d, Alphabet c := by
  induction d using encode.induct with
  | case1 a b c l ih =>
    have ha := a.toNat_lt
    have hb := b.toNat_lt
    have hc := c.toNat_lt
    simp only [encode, List.forall_mem_cons]
    exact ⟨alphabet_letter (by omega), alphabet_letter (by omega), alphabet_letter (by omega),
      alphabet_letter (by omega), ih⟩
  | case2 a b =>
    have ha := a.toNat_lt
    have hb := b.toNat_lt
    simp only [encode, List.forall_mem_cons]
    exact ⟨alphabet_letter (by omega), alphabet_letter (by omega), alphabet_letter (by omega),
      alphabet_pad, by simp⟩
  | case3 a =>
    have ha := a.toNat_lt
    simp only [encode, List.forall_mem_cons]
    exact ⟨alphabet_letter (by omega), alphabet_letter (by omega), alphabet_pad, alphabet_pad,
      by simp⟩
  | case4 => simp [encode]

/-- A text holds at most three bytes for four letters. -/
theorem length_decode (t d : Bytes) (h : decode t = some d) : 4 * d.length ≤ 3 * t.length := by
  induction t using decode.induct generalizing d with
  | case1 w x y z l ih =>
    simp only [decode, Option.bind_eq_bind, Option.bind_eq_some_iff] at h
    obtain ⟨p, -, q, -, h⟩ := h
    simp only [List.length_cons]
    split at h
    · split at h
      · obtain rfl := Option.some.inj h
        simp only [List.length_cons, List.length_nil]
        omega
      · exact nomatch h
    · obtain ⟨r, -, h⟩ := Option.bind_eq_some_iff.mp h
      split at h
      · split at h
        · obtain rfl := Option.some.inj h
          simp only [List.length_cons, List.length_nil]
          omega
        · exact nomatch h
      · obtain ⟨s, -, h⟩ := Option.bind_eq_some_iff.mp h
        obtain ⟨rest, hrest, h⟩ := Option.bind_eq_some_iff.mp h
        obtain rfl := Option.some.inj h
        have := ih rest hrest
        simp only [List.length_cons]
        omega
  | case2 => obtain rfl := Option.some.inj h; simp
  | case3 t hne hnil =>
    rw [decode] at h
    · exact nomatch h
    · exact hne
    · exact hnil

example : encode (ascii "ACK") = ascii "QUNL" := by decide
example : decode (ascii "TWE=") = some (ascii "Ma") := by decide

end Base64
