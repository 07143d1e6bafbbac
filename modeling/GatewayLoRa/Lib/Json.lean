/-
  JSON TEXTS, read by a parser of the whole grammar: UTF-8, white space, strings with their escapes,
  numbers, literals, arrays, objects.  `parse` gives the value of a text, or nothing when it is not
  well formed.

  What a string printed without escapes is read as:

  1. `scanString_plain` — one without quotes, backslashes and control characters is read back as it
     is;
  2. `scanString_cases` — one that has any is read as a shorter one, or ends before its text does,
     or behind it.

  A number is made of few different bytes: `number_numeric`.

  The parser is a specification: it is written from the grammar, not from any program of this
  development, and is used to say what the texts are that programs print.  It runs on fuel, the
  length of the text being enough, since each step reads a byte at least.

  The crux is `scanString_cases`.  A text that was printed between quotes without escapes is read by
  the rules of JSON strings: at its first quote the string ends too early, a backslash makes the
  string shorter than its text or lets it run over its closing quote, and a control character ends
  the text.  Of these only the unharmed text has the length it was printed with, so a comparison of
  lengths tells it from all others.
-/

import GatewayLoRa.Lib.ReadBack

namespace Json

open CMemory Stdio

/-! ## UTF-8 -/

/-- The ranges of the bytes that a character begun still needs. -/
abbrev Pending := List (UInt8 × UInt8)

/-- The range of a continuation byte. -/
def continuation : UInt8 × UInt8 := (0x80, 0xBF)

/-- One byte of a text: it begins a character, or goes on with the one begun.

    The table is the one of well-formed UTF-8: no character has two spellings, there are no
    surrogates, and none lies behind the last code point. -/
def utf8Step : Pending → UInt8 → Option Pending
  | [], c =>
      if c < 0x80 then some []
      else if 0xC2 ≤ c ∧ c ≤ 0xDF then some [continuation]
      else if c = 0xE0 then some [(0xA0, 0xBF), continuation]
      else if c = 0xED then some [(0x80, 0x9F), continuation]
      else if 0xE1 ≤ c ∧ c ≤ 0xEF then some [continuation, continuation]
      else if c = 0xF0 then some [(0x90, 0xBF), continuation, continuation]
      else if 0xF1 ≤ c ∧ c ≤ 0xF3 then some [continuation, continuation, continuation]
      else if c = 0xF4 then some [(0x80, 0x8F), continuation, continuation]
      else none
  | r :: rs, c => if 0x80 ≤ c ∧ r.1 ≤ c ∧ c ≤ r.2 then some rs else none

/-- The bytes are whole characters. -/
def Utf8 (s : Bytes) : Prop := s.foldlM utf8Step [] = some []

instance (s : Bytes) : Decidable (Utf8 s) := inferInstanceAs (Decidable (_ = _))

/-- The empty text is whole. -/
theorem utf8_nil : Utf8 [] := rfl

/-- **An ASCII character stands between whole characters.** -/
theorem utf8_append_cons {c : UInt8} (hc : c < 0x80) (s t : Bytes) :
    Utf8 (s ++ c :: t) ↔ Utf8 s ∧ Utf8 t := by
  unfold Utf8
  rw [List.foldlM_append]
  cases hs : s.foldlM utf8Step [] with
  | none => simp
  | some p =>
    -- between two characters, or inside one: there an ASCII byte goes on with nothing
    cases p with
    | nil =>
      have hstep : utf8Step [] c = some [] := if_pos hc
      simp [hstep]
    | cons r rs =>
      have hstep : utf8Step (r :: rs) c = none := if_neg fun h => absurd h.1 (UInt8.not_le.mpr hc)
      simp [hstep]

/-- Only ASCII characters. -/
def Ascii (s : Bytes) : Prop := ∀ c ∈ s, c < 0x80

instance (s : Bytes) : Decidable (Ascii s) := List.decidableBAll _ s

/-- ASCII characters in front change nothing, -/
theorem Ascii.utf8_append {s : Bytes} (h : Ascii s) (t : Bytes) : Utf8 (s ++ t) ↔ Utf8 t := by
  induction s with
  | nil => exact Iff.rfl
  | cons c s ih =>
    have hcons := utf8_append_cons (h c List.mem_cons_self) [] (s ++ t)
    rw [List.cons_append]
    exact hcons.trans ((and_iff_right utf8_nil).trans (ih fun d hd => h d (List.mem_cons_of_mem c hd)))

/-- and are whole characters themselves. -/
theorem Ascii.utf8 {s : Bytes} (h : Ascii s) : Utf8 s := by
  have := (h.utf8_append []).mpr utf8_nil
  rwa [List.append_nil] at this

/-- The bytes of a character. -/
def utf8Encode (n : Nat) : Bytes :=
  if n < 0x80 then [UInt8.ofNat n]
  else if n < 0x800 then [UInt8.ofNat (0xC0 + n / 64), UInt8.ofNat (0x80 + n % 64)]
  else if n < 0x10000 then
    [UInt8.ofNat (0xE0 + n / 4096), UInt8.ofNat (0x80 + n / 64 % 64), UInt8.ofNat (0x80 + n % 64)]
  else
    [UInt8.ofNat (0xF0 + n / 262144), UInt8.ofNat (0x80 + n / 4096 % 64),
      UInt8.ofNat (0x80 + n / 64 % 64), UInt8.ofNat (0x80 + n % 64)]

/-- A character takes at most four bytes. -/
theorem length_utf8Encode (n : Nat) : (utf8Encode n).length ≤ 4 := by
  unfold utf8Encode
  repeat' split
  all_goals simp

/-! ## Strings -/

/-- The character of an escape of one letter. -/
def escapeLetter : UInt8 → Option UInt8
  | 34 => some 34
  | 92 => some 92
  | 47 => some 47
  | 98 => some 8
  | 102 => some 12
  | 110 => some 10
  | 114 => some 13
  | 116 => some 9
  | _ => none

/-- Four hexadecimal digits. -/
def codeUnit : Bytes → Option (Nat × Bytes)
  | a :: b :: c :: d :: l =>
      match hexValue a, hexValue b, hexValue c, hexValue d with
      | some a, some b, some c, some d => some (((a * 16 + b) * 16 + c) * 16 + d, l)
      | _, _, _, _ => none
  | _ => none

/-- An escape, behind its backslash: the bytes it stands for.  Two code units that are surrogates of
    one character stand for that character. -/
def escape : Bytes → Option (Bytes × Bytes)
  | 117 :: l =>
      match codeUnit l with
      | none => none
      | some (high, 92 :: 117 :: m) =>
          match codeUnit m with
          | some (low, rest) =>
              if (0xD800 ≤ high ∧ high < 0xDC00) ∧ 0xDC00 ≤ low ∧ low < 0xE000 then
                some (utf8Encode (0x10000 + (high - 0xD800) * 0x400 + (low - 0xDC00)), rest)
              else some (utf8Encode high, 92 :: 117 :: m)
          | none => some (utf8Encode high, 92 :: 117 :: m)
      | some (high, rest) => some (utf8Encode high, rest)
  | c :: l => (escapeLetter c).map fun d => ([d], l)
  | [] => none

/-- A string behind its opening quote: its bytes, and what stands behind the closing one.  A control
    character is an error, as the grammar has it. -/
def scanString : Nat → Bytes → Option (Bytes × Bytes)
  | 0, _ => none
  | _ + 1, [] => none
  | fuel + 1, c :: l =>
      if c = 34 then some ([], l)
      else if c = 92 then
        match escape l with
        | none => none
        | some (d, l) => (scanString fuel l).map fun p => (d ++ p.1, p.2)
      else if c < 32 then none
      else (scanString fuel l).map fun p => (c :: p.1, p.2)

/-! ## Values

  A number is kept as its text, because what a number means is the reader's business: some read it
  as an integer, some as a float. -/

/-- White space is skipped. -/
def skip (s : Bytes) : Bytes := s.dropWhile fun c => c = 32 ∨ c = 9 ∨ c = 10 ∨ c = 13

/-- An optional `-`. -/
def minus : Bytes → Bytes × Bytes
  | 45 :: l => ([45], l)
  | s => ([], s)

/-- One digit, or several of which the first is not zero. -/
def Whole (s : Bytes) : Prop := s ≠ [] ∧ (s.head? = some 48 → s = [48])

instance (s : Bytes) : Decidable (Whole s) := inferInstanceAs (Decidable (_ ∧ _))

/-- An optional fraction; a point without digits is none of a number. -/
def fraction : Bytes → Option (Bytes × Bytes)
  | 46 :: l =>
      if l.takeWhile isDigit = [] then none
      else some (46 :: l.takeWhile isDigit, l.dropWhile isDigit)
  | s => some ([], s)

/-- An optional sign of an exponent. -/
def exponentSign : Bytes → Bytes × Bytes
  | 43 :: l => ([43], l)
  | s => minus s

/-- An optional exponent. -/
def exponent : Bytes → Option (Bytes × Bytes)
  | c :: l =>
      if c = 101 ∨ c = 69 then
        let ⟨sign, l⟩ := exponentSign l
        if l.takeWhile isDigit = [] then none
        else some (c :: sign ++ l.takeWhile isDigit, l.dropWhile isDigit)
      else some ([], c :: l)
  | [] => some ([], [])

/-- A number: its text. -/
def number (s : Bytes) : Option (Bytes × Bytes) :=
  let ⟨sign, s⟩ := minus s
  if Whole (s.takeWhile isDigit) then
    match fraction (s.dropWhile isDigit) with
    | none => none
    | some (f, l) => (exponent l).map fun e => (sign ++ s.takeWhile isDigit ++ f ++ e.1, e.2)
  else none

/-- The bytes of a number. -/
def Numeric (c : UInt8) : Prop := isDigit c = true ∨ c ∈ [43, 45, 46, 69, 101]

instance (c : UInt8) : Decidable (Numeric c) := inferInstanceAs (Decidable (_ ∨ _))

/-- Digits are bytes of a number, -/
theorem numeric_digits (s : Bytes) : ∀ c ∈ s.takeWhile isDigit, Numeric c :=
  fun _ hc => .inl (List.mem_takeWhile_imp hc)

/-- and so is a minus sign, -/
theorem minus_numeric (s : Bytes) : ∀ c ∈ (minus s).1, Numeric c := by
  unfold minus
  split
  · exact List.forall_mem_singleton.mpr (.inr (by decide))
  · exact fun _ hc => absurd hc List.not_mem_nil

/-- a fraction, -/
theorem fraction_numeric {s f r : Bytes} (h : fraction s = some (f, r)) : ∀ c ∈ f, Numeric c := by
  unfold fraction at h
  split at h
  · split at h
    · cases h
    · obtain ⟨rfl, -⟩ := Prod.mk.inj (Option.some.inj h)
      exact List.forall_mem_cons.mpr ⟨.inr (by decide), numeric_digits _⟩
  · obtain ⟨rfl, -⟩ := Prod.mk.inj (Option.some.inj h)
    exact fun _ hc => absurd hc List.not_mem_nil

/-- the sign of an exponent, -/
theorem exponentSign_numeric (s : Bytes) : ∀ c ∈ (exponentSign s).1, Numeric c := by
  unfold exponentSign
  split
  · exact List.forall_mem_singleton.mpr (.inr (by decide))
  · exact minus_numeric _

/-- and an exponent. -/
theorem exponent_numeric {s e r : Bytes} (h : exponent s = some (e, r)) : ∀ c ∈ e, Numeric c := by
  unfold exponent at h
  split at h
  · next c l =>
    by_cases hc : c = 101 ∨ c = 69
    · simp only [if_pos hc] at h
      split at h
      · cases h
      · obtain ⟨rfl, -⟩ := Prod.mk.inj (Option.some.inj h)
        rw [List.cons_append]
        refine List.forall_mem_cons.mpr ⟨.inr (by rcases hc with rfl | rfl <;> decide), ?_⟩
        exact List.forall_mem_append.mpr ⟨exponentSign_numeric l, numeric_digits _⟩
    · rw [if_neg hc] at h
      obtain ⟨rfl, -⟩ := Prod.mk.inj (Option.some.inj h)
      exact fun _ hd => absurd hd List.not_mem_nil
  · obtain ⟨rfl, -⟩ := Prod.mk.inj (Option.some.inj h)
    exact fun _ hc => absurd hc List.not_mem_nil

/-- **A number is not empty, and nothing but digits, signs, points and exponents is in it.** -/
theorem number_numeric {s w r : Bytes} (h : number s = some (w, r)) :
    w ≠ [] ∧ ∀ c ∈ w, Numeric c := by
  simp only [number] at h
  split at h
  · next hwhole =>
    split at h
    · cases h
    · next f l hfraction =>
      obtain ⟨⟨e, r'⟩, hexponent, heq⟩ := Option.map_eq_some_iff.mp h
      obtain ⟨rfl, -⟩ := Prod.mk.inj heq
      refine ⟨by simp [hwhole.1], List.forall_mem_append.mpr ⟨?_, exponent_numeric hexponent⟩⟩
      refine List.forall_mem_append.mpr ⟨?_, fraction_numeric hfraction⟩
      exact List.forall_mem_append.mpr ⟨minus_numeric s, numeric_digits _⟩
  · cases h

/-- A JSON value; a number is kept as its text, an object with its members in order. -/
inductive Value where
  | null
  | bool (b : Bool)
  | number (text : Bytes)
  | string (s : Bytes)
  | array (elements : List Value)
  | object (members : List (Bytes × Value))

mutual

/-- A value that begins a text, and the rest of the text. -/
def value : Nat → Bytes → Option (Value × Bytes)
  | 0, _ => none
  | fuel + 1, s =>
      match s with
      | 34 :: l => (scanString (l.length + 1) l).map fun p => (.string p.1, p.2)
      | 123 :: l =>
          match skip l with
          | 125 :: l => some (.object [], l)
          | l => (members fuel l).map fun p => (.object p.1, p.2)
      | 91 :: l =>
          match skip l with
          | 93 :: l => some (.array [], l)
          | l => (elements fuel l).map fun p => (.array p.1, p.2)
      | 116 :: 114 :: 117 :: 101 :: l => some (.bool true, l)
      | 102 :: 97 :: 108 :: 115 :: 101 :: l => some (.bool false, l)
      | 110 :: 117 :: 108 :: 108 :: l => some (.null, l)
      | s => (number s).map fun p => (.number p.1, p.2)

/-- The members of an object, and its closing brace. -/
def members : Nat → Bytes → Option (List (Bytes × Value) × Bytes)
  | 0, _ => none
  | fuel + 1, s =>
      match s with
      | 34 :: l =>
          match scanString (l.length + 1) l with
          | none => none
          | some (name, l) =>
              match skip l with
              | 58 :: l =>
                  match value fuel (skip l) with
                  | none => none
                  | some (v, l) =>
                      match skip l with
                      | 44 :: l => (members fuel (skip l)).map fun p => ((name, v) :: p.1, p.2)
                      | 125 :: l => some ([(name, v)], l)
                      | _ => none
              | _ => none
      | _ => none

/-- The elements of an array, and its closing bracket. -/
def elements : Nat → Bytes → Option (List Value × Bytes)
  | 0, _ => none
  | fuel + 1, s =>
      match value fuel s with
      | none => none
      | some (v, l) =>
          match skip l with
          | 44 :: l => (elements fuel (skip l)).map fun p => (v :: p.1, p.2)
          | 93 :: l => some ([v], l)
          | _ => none

end

/-- **The value of a JSON text**; nothing but white space stands around it. -/
def parse (s : Bytes) : Option Value :=
  if Utf8 s then
    match value (s.length + 1) (skip s) with
    | some (v, rest) => if skip rest = [] then some v else none
    | none => none
  else none

/-! ## Plain strings -/

/-- Neither a quote, nor a backslash, nor a control character. -/
def Plain (s : Bytes) : Prop := ∀ c ∈ s, c ≠ 34 ∧ c ≠ 92 ∧ 32 ≤ c

instance (s : Bytes) : Decidable (Plain s) := List.decidableBAll _ s

/-- **A plain string is read back.** -/
theorem scanString_plain {s : Bytes} (hs : Plain s) (l : Bytes) {fuel : Nat}
    (hfuel : s.length < fuel) : scanString fuel (s ++ 34 :: l) = some (s, l) := by
  induction s generalizing fuel with
  | nil =>
    obtain ⟨fuel, rfl⟩ : ∃ k, fuel = k + 1 := ⟨fuel - 1, by simp at hfuel; omega⟩
    rfl
  | cons c s ih =>
    obtain ⟨fuel, rfl⟩ : ∃ k, fuel = k + 1 := ⟨fuel - 1, by simp at hfuel; omega⟩
    obtain ⟨hquote, hslash, hcontrol⟩ := hs c List.mem_cons_self
    have hrest := ih (fun d hd => hs d (List.mem_cons_of_mem c hd))
      (by simpa using hfuel)
    rw [List.cons_append, scanString, if_neg hquote, if_neg hslash,
      if_neg (UInt8.not_lt.mpr hcontrol), hrest]
    rfl

theorem codeUnit_eq {s r : Bytes} {n : Nat} (h : codeUnit s = some (n, r)) :
    ∃ x, s = x ++ r ∧ x.length = 4 ∧ ∀ c ∈ x, hexValue c ≠ none := by
  unfold codeUnit at h
  split at h
  · rename_i a b c d l
    split at h
    · rename_i ha hb hc hd
      obtain ⟨-, rfl⟩ := Prod.mk.inj (Option.some.inj h)
      refine ⟨[a, b, c, d], rfl, rfl, ?_⟩
      simp [ha, hb, hc, hd]
    · cases h
  · cases h

/-- What an escape takes: a letter, or more behind a `u`, without quotes, and no fewer bytes than
    it stands for. -/
theorem escape_eq {s r d : Bytes} (h : escape s = some (d, r)) :
    ∃ a x, s = a :: x ++ r ∧ d.length ≤ x.length + 1 ∧ 34 ∉ x ∧ (a = 34 → x = []) := by
  have hquote : hexValue 34 = none := by decide
  have hletter : (117 : UInt8) ≠ 34 := by decide
  unfold escape at h
  split at h
  · -- a code unit, or two
    rename_i l
    split at h
    · cases h
    · rename_i high m hunit
      obtain ⟨x, rfl, hx, hhex⟩ := codeUnit_eq hunit
      have hfree : 34 ∉ x := fun hmem => hhex 34 hmem hquote
      split at h
      · rename_i low rest hsecond
        obtain ⟨y, rfl, hy, hhex'⟩ := codeUnit_eq hsecond
        have hfree' : 34 ∉ y := fun hmem => hhex' 34 hmem hquote
        split at h
        · obtain ⟨rfl, rfl⟩ := Prod.mk.inj (Option.some.inj h)
          refine ⟨117, x ++ 92 :: 117 :: y, by simp, ?_, ?_, fun h => absurd h hletter⟩
          · have := length_utf8Encode (0x10000 + (high - 0xD800) * 0x400 + (low - 0xDC00))
            simp only [List.length_append, List.length_cons, hx, hy]
            omega
          · simp [hfree, hfree']
        · obtain ⟨rfl, rfl⟩ := Prod.mk.inj (Option.some.inj h)
          have := length_utf8Encode high
          exact ⟨117, x, by simp, by omega, hfree, fun h => absurd h hletter⟩
      · obtain ⟨rfl, rfl⟩ := Prod.mk.inj (Option.some.inj h)
        have := length_utf8Encode high
        exact ⟨117, x, by simp, by omega, hfree, fun h => absurd h hletter⟩
    · rename_i high rest _ hunit
      obtain ⟨x, rfl, hx, hhex⟩ := codeUnit_eq hunit
      obtain ⟨rfl, rfl⟩ := Prod.mk.inj (Option.some.inj h)
      have := length_utf8Encode high
      exact ⟨117, x, by simp, by omega, fun hmem => hhex 34 hmem hquote,
        fun h => absurd h hletter⟩
  · rename_i c l _
    obtain ⟨e, -, heq⟩ := Option.map_eq_some_iff.mp h
    obtain ⟨rfl, rfl⟩ := Prod.mk.inj heq
    exact ⟨c, [], rfl, Nat.le_refl _, List.not_mem_nil, fun _ => rfl⟩
  · cases h

/-- **A string read from a text with a quote behind it**: it is the text, or shorter than it; or it
    ended before that quote; or the quote was escaped and it goes on behind. -/
theorem scanString_cases {fuel : Nat} {e t p r : Bytes}
    (h : scanString fuel (e ++ 34 :: t) = some (p, r)) :
    (r = t ∧ p.length ≤ e.length ∧ (p.length = e.length → Plain e)) ∨
      (∃ e', e' <:+ e ∧ r = e' ++ 34 :: t) ∨
      ∃ fuel' q, scanString fuel' t = some (q, r) := by
  -- over the bytes that are scanned; `e` is what is left in front of the quote
  induction fuel generalizing e p with
  | zero => cases h
  | succ fuel ih =>
    cases e with
    | nil =>
      obtain ⟨rfl, rfl⟩ : [] = p ∧ t = r := by simpa [scanString] using h
      exact .inl ⟨rfl, Nat.le_refl _, fun _ c hc => absurd hc List.not_mem_nil⟩
    | cons c e =>
      rw [List.cons_append, scanString] at h
      by_cases hquote : c = 34
      · -- an unescaped quote
        rw [if_pos hquote] at h
        obtain ⟨-, rfl⟩ := Prod.mk.inj (Option.some.inj h)
        exact .inr (.inl ⟨e, List.suffix_cons c e, rfl⟩)
      · rw [if_neg hquote] at h
        by_cases hslash : c = 92
        · rw [if_pos hslash] at h
          cases hescape : escape (e ++ 34 :: t) with
          | none => simp [hescape] at h
          | some q =>
            obtain ⟨d, l⟩ := q
            simp only [hescape] at h
            obtain ⟨⟨p', r'⟩, hscan, heq⟩ := Option.map_eq_some_iff.mp h
            obtain ⟨rfl, rfl⟩ := Prod.mk.inj heq
            -- an escape takes a byte at least, so the text that comes out is shorter
            obtain ⟨a, x, hax, hlen, hfree, halone⟩ := escape_eq hescape
            cases e with
            | nil =>
              -- the quote behind the text is escaped
              obtain ⟨rfl, htail⟩ := List.cons.inj hax
              rw [halone rfl] at htail
              obtain rfl : t = l := htail
              exact .inr (.inr ⟨fuel, p', hscan⟩)
            | cons b e =>
              obtain ⟨rfl, htail⟩ := List.cons.inj hax
              obtain ⟨m, rfl, rfl⟩ : ∃ m, e = x ++ m ∧ l = m ++ 34 :: t := by
                rcases List.append_eq_append_iff.mp htail with ⟨m, rfl, hm⟩ | ⟨m, rfl, hm⟩
                · -- an escape does not go over a quote
                  cases m with
                  | nil => exact ⟨[], by simp, by simpa using hm.symm⟩
                  | cons c' m =>
                    obtain ⟨rfl, -⟩ := List.cons.inj hm
                    exact absurd (List.mem_append_right _ List.mem_cons_self) hfree
                · exact ⟨m, rfl, hm⟩
              rcases ih hscan with ⟨rfl, hle, -⟩ | ⟨e', hsuffix, rfl⟩ | hlate
              · refine .inl ⟨rfl, ?_, fun heq => ?_⟩
                · simp only [List.length_append, List.length_cons] at hlen hle ⊢
                  omega
                · simp only [List.length_append, List.length_cons] at hlen hle heq
                  omega
              · refine .inr (.inl ⟨e', hsuffix.trans ?_, rfl⟩)
                exact (List.suffix_append x m).trans
                  ((List.suffix_cons b _).trans (List.suffix_cons c _))
              · exact .inr (.inr hlate)
        · rw [if_neg hslash] at h
          -- any other byte stands for itself
          by_cases hcontrol : c < 32
          · rw [if_pos hcontrol] at h
            cases h
          · rw [if_neg hcontrol] at h
            obtain ⟨⟨p', r'⟩, hscan, heq⟩ := Option.map_eq_some_iff.mp h
            obtain ⟨rfl, rfl⟩ := Prod.mk.inj heq
            rcases ih hscan with ⟨rfl, hle, hplain⟩ | ⟨e', hsuffix, rfl⟩ | hlate
            · refine .inl ⟨rfl, Nat.succ_le_succ hle, fun heq => ?_⟩
              refine List.forall_mem_cons.mpr ⟨⟨hquote, hslash, UInt8.not_lt.mp hcontrol⟩, ?_⟩
              exact hplain (Nat.succ.inj heq)
            · exact .inr (.inl ⟨e', hsuffix.trans (List.suffix_cons c e), rfl⟩)
            · exact .inr (.inr hlate)

example : (parse (ascii "\x7b\"a\": [1, -2.5e3, \"\\u0041\"], \"b\": \x7b\x7d\x7d")).isSome := by
  decide +kernel

end Json
