/-
  Formatted text in the C way: what `printf` prints for a number and what `sscanf` reads back.

  Printing is total.  `natText`, `intText` are `%d`; `hexText 8` is `%08X`.  What the buffers that
  take such a text need to know is how long it gets: `length_natText_le`, `length_intText_le`,
  `length_hexText`.

  Scanning is a list of `Directive`s run from left to right.  Each one either matches, STORES what
  it read, and leaves the rest of the input to the next, or stops the scan.  What the earlier
  directives stored stays stored: `sscanf` returns the number of conversions made together with
  the store they made them in.  The float conversion is a parameter (`strtof`), because its
  arithmetic is the platform's; everything else is computed here.

  The crux is `sscanf_complete`.  A directive's match does not depend on the store
  (`Directive.run_cases`), so a scan that was complete once is complete from every store, and what
  it leaves there is an update of it that the text alone decides.  An incomplete scan has no such
  update: what it stored before it stopped stays.
-/

import GatewayLoRa.Lib.CMemory

namespace Stdio

open CMemory

/-! ## Printing numbers -/

/-- The last `fuel` decimal digits of `n`, without leading zeros. -/
def natTextAux : Nat → Nat → Bytes
  | 0, _ => []
  | fuel + 1, n =>
      if n < 10 then [UInt8.ofNat (48 + n)]
      else natTextAux fuel (n / 10) ++ [UInt8.ofNat (48 + n % 10)]

/-- A natural number in decimal. -/
def natText (n : Nat) : Bytes := natTextAux (n + 1) n

/-- An integer in decimal, `%d` or `%lld`. -/
def intText (i : Int) : Bytes := if i < 0 then 45 :: natText i.natAbs else natText i.natAbs

/-- An upper-case hexadecimal digit. -/
def hexDigit (n : Nat) : UInt8 := if n < 10 then UInt8.ofNat (48 + n) else UInt8.ofNat (55 + n)

/-- The last `k` hexadecimal digits of `n`, zeros in front: `%08X` is `hexText 8`. -/
def hexText : Nat → Nat → Bytes
  | 0, _ => []
  | k + 1, n => hexText k (n / 16) ++ [hexDigit (n % 16)]

/-- `%08X` prints eight digits, whatever the number is. -/
@[simp] theorem length_hexText (k n : Nat) : (hexText k n).length = k := by
  induction k generalizing n with
  | zero => rfl
  | succ k ih => simp [hexText, ih]

/-- A number below `10 ^ k` has at most `k` digits, with any fuel, -/
theorem length_natTextAux_le {k : Nat} (hk : 0 < k) (fuel n : Nat) (h : n < 10 ^ k) :
    (natTextAux fuel n).length ≤ k := by
  induction fuel generalizing k n with
  | zero => simp [natTextAux]
  | succ fuel ih =>
    unfold natTextAux
    by_cases hn : n < 10
    · rw [if_pos hn]
      exact hk
    · rw [if_neg hn, List.length_append, List.length_singleton]
      obtain ⟨k, rfl⟩ : ∃ j, k = j + 1 := ⟨k - 1, by omega⟩
      have hk' : 0 < k := by
        rcases Nat.eq_zero_or_pos k with rfl | hpos
        · omega
        · exact hpos
      have hdiv : n / 10 < 10 ^ k := by
        rw [Nat.pow_succ] at h
        omega
      have := ih hk' (n / 10) hdiv
      omega

/-- and with the fuel that is there. -/
theorem length_natText_le {k n : Nat} (hk : 0 < k) (h : n < 10 ^ k) : (natText n).length ≤ k :=
  length_natTextAux_le hk _ _ h

/-- It has at least one. -/
theorem length_natText_pos (n : Nat) : 0 < (natText n).length := by
  unfold natText natTextAux
  split <;> simp

/-- A sign may come in front. -/
theorem length_intText_le {k : Nat} {i : Int} (hk : 0 < k) (h : i.natAbs < 10 ^ k) :
    (intText i).length ≤ k + 1 := by
  have := length_natText_le hk h
  unfold intText
  split
  · rw [List.length_cons]
    omega
  · omega

/-- An integer prints something. -/
theorem length_intText_pos (i : Int) : 0 < (intText i).length := by
  have := length_natText_pos i.natAbs
  unfold intText
  split
  · rw [List.length_cons]
    omega
  · exact this

/-- The printed digits and the sign: nothing else appears in a printed number. -/
def Numeric (c : UInt8) : Prop := c = 45 ∨ (48 ≤ c ∧ c ≤ 57)

/-- A decimal digit is numeric, -/
theorem digit_numeric {n : Nat} (h : n < 10) : Numeric (UInt8.ofNat (48 + n)) := by
  right
  have hlt : 48 + n < 2 ^ 8 := by omega
  rw [UInt8.le_iff_toNat_le, UInt8.le_iff_toNat_le, UInt8.toNat_ofNat_of_lt' hlt]
  show 48 ≤ 48 + n ∧ 48 + n ≤ 57
  omega

/-- so is everything in a printed natural number, -/
theorem natTextAux_numeric (fuel n : Nat) : ∀ c ∈ natTextAux fuel n, Numeric c := by
  induction fuel generalizing n with
  | zero => simp [natTextAux]
  | succ fuel ih =>
    unfold natTextAux
    split
    · rename_i hn
      simpa using digit_numeric hn
    · intro c hc
      rcases List.mem_append.mp hc with hc | hc
      · exact ih _ c hc
      · obtain rfl := List.mem_singleton.mp hc
        exact digit_numeric (Nat.mod_lt n (by omega))

/-- and in a printed integer. -/
theorem intText_numeric (i : Int) : ∀ c ∈ intText i, Numeric c := by
  unfold intText
  split
  · rw [List.forall_mem_cons]
    exact ⟨Or.inl rfl, natTextAux_numeric _ _⟩
  · exact natTextAux_numeric _ _

/-- No numeric character is NUL. -/
theorem Numeric.ne_zero {c : UInt8} (h : Numeric c) : c ≠ 0 := by
  rintro rfl
  exact absurd h (by unfold Numeric; decide)

/-- A printed integer is a C string. -/
theorem intText_nulFree (i : Int) : NulFree (intText i) :=
  fun c hc => (intText_numeric i c hc).ne_zero

/-! ## Hexadecimal digits are printable -/

/-- A hexadecimal digit is neither NUL nor a bar, -/
theorem hexDigit_ne : ∀ n, n < 16 → hexDigit n ≠ 0 ∧ hexDigit n ≠ 124 := by decide

/-- and so is nothing in a printed hexadecimal number. -/
theorem hexText_ne (k n : Nat) : ∀ c ∈ hexText k n, c ≠ 0 ∧ c ≠ 124 := by
  induction k generalizing n with
  | zero => simp [hexText]
  | succ k ih =>
    intro c hc
    rcases List.mem_append.mp hc with hc | hc
    · exact ih _ c hc
    · obtain rfl := List.mem_singleton.mp hc
      exact hexDigit_ne _ (Nat.mod_lt n (by omega))

/-! ## Scanning numbers

  The integer conversions skip white space, take a sign and then digits.  `%d` of a value that the
  type cannot hold is undefined in the standard; the C library of the boards reads the nearest value
  that it can, and so does `scanInt`. -/

/-- `isspace`. -/
def isSpace (c : UInt8) : Bool := c == 32 || (9 ≤ c && c ≤ 13)

/-- A sign, if there is one: whether it is a minus, and the rest. -/
def sign : Bytes → Bool × Bytes
  | 43 :: s => (false, s)
  | 45 :: s => (true, s)
  | s => (false, s)

/-- `isdigit`. -/
def isDigit (c : UInt8) : Bool := 48 ≤ c && c ≤ 57

/-- The value of decimal digits. -/
def decimal (s : Bytes) : Nat := s.foldl (fun n c => n * 10 + (c.toNat - 48)) 0

/-- The value of a hexadecimal digit, of either case. -/
def hexValue (c : UInt8) : Option Nat :=
  let n := c.toNat
  if 48 ≤ n ∧ n < 58 then some (n - 48)
  else if 65 ≤ n ∧ n < 71 then some (n - 55)
  else if 97 ≤ n ∧ n < 103 then some (n - 87) else none

/-- The value of hexadecimal digits. -/
def hexadecimal (s : Bytes) : Nat := s.foldl (fun n c => n * 16 + (hexValue c).getD 0) 0

/-- A `0x` in front of a hexadecimal digit is skipped. -/
def dropHexPrefix : Bytes → Bytes
  | 48 :: x :: c :: s =>
      if (x = 120 ∨ x = 88) ∧ (hexValue c).isSome then c :: s else 48 :: x :: c :: s
  | s => s

/-- `%<width>X` into an `unsigned int`: white space, then a sign, a prefix and digits within the
    width; the value in 32 bits, `none` when no digit was read. -/
def scanHex (width : Nat) (s : Bytes) : Option UInt32 :=
  let field := (s.dropWhile isSpace).take width
  let digits := (dropHexPrefix (sign field).2).takeWhile fun c => (hexValue c).isSome
  if digits = [] then none
  else
    let v := UInt32.ofNat (hexadecimal digits)
    some (if (sign field).1 then 0 - v else v)

/-- `%d` or `%lld`: white space, a sign, digits.  A value that `bits` bits cannot hold is read as
    the nearest one they can. -/
def scanInt (bits : Nat) (s : Bytes) : Option (Int × Bytes) :=
  let s := s.dropWhile isSpace
  let digits := (sign s).2.takeWhile isDigit
  let rest := (sign s).2.dropWhile isDigit
  if digits = [] then none
  else
    let v : Int := if (sign s).1 then - decimal digits else decimal digits
    some (max (-2 ^ (bits - 1)) (min (2 ^ (bits - 1) - 1) v), rest)

/-- `atoi` and `atoll`: 0 when there is no number. -/
def atoi (bits : Nat) (s : Bytes) : Int := ((scanInt bits s).map Prod.fst).getD 0

/-- `strtol` to base 16. -/
def strtol16 (bits : Nat) (s : Bytes) : Int :=
  let s := s.dropWhile isSpace
  let digits := (dropHexPrefix (sign s).2).takeWhile fun c => (hexValue c).isSome
  let v : Int := if (sign s).1 then - hexadecimal digits else hexadecimal digits
  max (-2 ^ (bits - 1)) (min (2 ^ (bits - 1) - 1) v)

/-! ## The directives of a scan

  A format is a list of directives.  Each conversion carries the function that stores what it read,
  so one scan may store into local variables and into members of an object, as the sources do. -/

/-- A directive of a format, with the store of what it reads: a literal text, an integer of a
    width in bits, a non-empty field of at most `width` characters up to `stop`, a float. -/
inductive Directive (φ σ : Type)
  | text (s : Bytes)
  | int (bits : Nat) (store : Int → σ → σ)
  | field (width : Nat) (stop : UInt8) (store : Bytes → σ → σ)
  | float (store : φ → σ → σ)

variable {φ σ : Type} (strtof : Bytes → Option (φ × Bytes))

/-- One directive: the rest of the input, the conversions made (0 or 1) and the store after it;
    `none` when the input does not match. -/
def Directive.run : Directive φ σ → Bytes → σ → Option (Bytes × Nat × σ)
  | text s, inp, st => if s <+: inp then some (inp.drop s.length, 0, st) else none
  | int bits store, inp, st =>
      (scanInt bits inp).map fun p => (p.2, 1, store p.1 st)
  | field width stop store, inp, st =>
      let x := (inp.take width).takeWhile (· != stop)
      if x = [] then none else some (inp.drop x.length, 1, store x st)
  | float store, inp, st =>
      (strtof (inp.dropWhile isSpace)).map fun p => (p.2, 1, store p.1 st)

/-- **`sscanf`**: the number of conversions made before the first mismatch, and the store. -/
def sscanf : List (Directive φ σ) → Bytes → σ → Nat × σ
  | [], _, st => (0, st)
  | d :: ds, inp, st =>
      match d.run strtof inp st with
      | none => (0, st)
      | some (rest, n, st') => ((sscanf ds rest st').1 + n, (sscanf ds rest st').2)

example : scanHex 8 (ascii " 0x1fz..") = some 31 := by decide
example : scanInt 32 (ascii "-12,x") = some (-12, ascii ",x") := by decide
example : intText (-9223372036854775808) = ascii "-9223372036854775808" := by decide

/-! ## Complete scans

  `sscanf` returns how many conversions it made.  The sources compare that number with the one in
  the format; a scan that reaches it is complete. -/

/-- The number of conversions in a format. -/
def conversions : List (Directive φ σ) → Nat
  | [] => 0
  | .text _ :: ds => conversions ds
  | .int _ _ :: ds | .field _ _ _ :: ds | .float _ :: ds => conversions ds + 1

/-- `update` is what the conversions of a format store, for some values, after `before` did what it
    does to the store. -/
def Stores : List (Directive φ σ) → (σ → σ) → (σ → σ) → Prop
  | [], before, update => update = before
  | .text _ :: ds, before, update => Stores ds before update
  | .int _ store :: ds, before, update => ∃ v, Stores ds (fun st => store v (before st)) update
  | .field _ _ store :: ds, before, update => ∃ x, Stores ds (fun st => store x (before st)) update
  | .float store :: ds, before, update => ∃ v, Stores ds (fun st => store v (before st)) update

/-- Whether a directive matches, and what it leaves of the input, does not depend on the store; what
    it stores is one of its updates. -/
theorem Directive.run_cases (d : Directive φ σ) (inp : Bytes) :
    (∀ st, d.run strtof inp st = none) ∨
    ∃ (rest : Bytes) (update : σ → σ),
      (∀ st, d.run strtof inp st = some (rest, conversions [d], update st)) ∧
      ∀ ds before later, Stores ds (fun st => update (before st)) later →
        Stores (d :: ds) before later := by
  cases d with
  | text s =>
    by_cases h : s <+: inp
    · refine Or.inr ⟨inp.drop s.length, id, fun st => ?_, fun ds before later hlater => hlater⟩
      exact if_pos h
    · exact Or.inl fun st => if_neg h
  | int bits store =>
    cases h : scanInt bits inp with
    | none => exact Or.inl fun st => by rw [run, h]; rfl
    | some p =>
      exact Or.inr ⟨p.2, store p.1, fun st => by rw [run, h]; rfl,
        fun ds before later hlater => ⟨p.1, hlater⟩⟩
  | field width stop store =>
    by_cases h : (inp.take width).takeWhile (· != stop) = []
    · exact Or.inl fun st => if_pos h
    · exact Or.inr ⟨_, store _, fun st => if_neg h, fun ds before later hlater => ⟨_, hlater⟩⟩
  | float store =>
    cases h : strtof (inp.dropWhile isSpace) with
    | none => exact Or.inl fun st => by rw [run, h]; rfl
    | some p =>
      exact Or.inr ⟨p.2, store p.1, fun st => by rw [run, h]; rfl,
        fun ds before later hlater => ⟨p.1, hlater⟩⟩

variable {strtof}

/-- The conversions of a format are counted one directive at a time. -/
theorem conversions_cons (d : Directive φ σ) (ds : List (Directive φ σ)) :
    conversions (d :: ds) = conversions ds + conversions [d] := by
  cases d <;> rfl

/-- A scan makes no more conversions than the format has. -/
theorem sscanf_le (ds : List (Directive φ σ)) (inp : Bytes) (st : σ) :
    (sscanf strtof ds inp st).1 ≤ conversions ds := by
  induction ds generalizing inp st with
  | nil => exact Nat.le_refl 0
  | cons d ds ih =>
    rw [conversions_cons]
    rcases d.run_cases strtof inp with hnone | ⟨rest, update, hsome, -⟩
    · simp [sscanf, hnone]
    · have := ih rest (update st)
      simp only [sscanf, hsome]
      omega

/-- A format without conversions stores nothing. -/
theorem stores_nothing {ds : List (Directive φ σ)} (h : conversions ds = 0) (before : σ → σ) :
    Stores ds before before := by
  induction ds with
  | nil => rfl
  | cons d ds ih =>
    cases d with
    | text s => exact ih h
    | _ => simp [conversions] at h

/-- **A complete scan is complete whatever was in the store before, and stores the same.** -/
theorem sscanf_complete {ds : List (Directive φ σ)} {inp : Bytes} {st : σ} (before : σ → σ)
    (h : (sscanf strtof ds inp st).1 = conversions ds) :
    ∃ update, Stores ds before update ∧
      ∀ st', sscanf strtof ds inp (before st') = (conversions ds, update st') := by
  induction ds generalizing inp st before with
  | nil => exact ⟨before, rfl, fun st' => rfl⟩
  | cons d ds ih =>
    -- where the first directive matches nothing, the scan is complete only if nothing was to be
    -- converted
    rcases d.run_cases strtof inp with hnone | ⟨rest, now, hsome, hstores⟩
    · have hzero : conversions (d :: ds) = 0 := by simpa [sscanf, hnone] using h.symm
      exact ⟨before, stores_nothing hzero before, fun st' => by simp [sscanf, hnone, hzero]⟩
    · have hrest : (sscanf strtof ds rest (now st)).1 = conversions ds := by
        simp only [sscanf, hsome, conversions_cons d ds] at h
        omega
      obtain ⟨update, hupdate, hscan⟩ := ih (fun st => now (before st)) hrest
      refine ⟨update, hstores ds before update hupdate, fun st' => ?_⟩
      simp only [sscanf, hsome, hscan, conversions_cons d ds]

end Stdio
