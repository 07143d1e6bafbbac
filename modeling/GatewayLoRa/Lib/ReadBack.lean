/-
  Printing and scanning numbers UNDO each other.

  1. **Hexadecimal.**  `%08X` prints eight upper-case digits; `%8X` reads a much larger language
     (white space, a sign, a prefix, lower case, an early stop).  On the strings of upper-case
     digits the two are inverse to one another: `scanHex_hexText` (scan of print) and
     `hexText_hexadecimal` (print of scan).

  2. **Decimal.**  `%d` prints a sign and digits, and `scanInt` reads the number back and stops
     exactly where the digits stop: `scanInt_intText`.  `%2d` reads two digits and goes on behind
     them, whatever stands there: `scanIntWithin_digits`.

  Both are inductions on the digits from the LAST one, because this is the digit a print appends
  and a scan folds in last.
-/

import Mathlib.Data.List.Induction
import Mathlib.Data.List.TakeWhile
import GatewayLoRa.Lib.Stdio

namespace Stdio

open CMemory

/-! ## Upper-case hexadecimal digits -/

/-- `0` to `9` or `A` to `F`. -/
def UpperHex (c : UInt8) : Prop := (48 ≤ c ∧ c ≤ 57) ∨ (65 ≤ c ∧ c ≤ 70)

instance (c : UInt8) : Decidable (UpperHex c) := inferInstanceAs (Decidable (_ ∨ _))

/-- A printed digit is an upper-case one, -/
theorem hexDigit_upper : ∀ v, v < 16 → UpperHex (hexDigit v) := by decide

/-- and its value is the number that was printed. -/
theorem hexValue_hexDigit : ∀ v, v < 16 → hexValue (hexDigit v) = some v := by decide

/-- An upper-case digit is the digit of its value. -/
theorem UpperHex.exists_value {c : UInt8} (h : UpperHex c) : ∃ v, v < 16 ∧ hexDigit v = c := by
  have hc : UInt8.ofNat c.toNat = c := UInt8.ofNat_toNat
  rcases h with ⟨hlo, hhi⟩ | ⟨hlo, hhi⟩
  · have hlo : 48 ≤ c.toNat := UInt8.le_iff_toNat_le.mp hlo
    have hhi : c.toNat ≤ 57 := UInt8.le_iff_toNat_le.mp hhi
    refine ⟨c.toNat - 48, by omega, ?_⟩
    rw [hexDigit, if_pos (by omega), show 48 + (c.toNat - 48) = c.toNat by omega, hc]
  · have hlo : 65 ≤ c.toNat := UInt8.le_iff_toNat_le.mp hlo
    have hhi : c.toNat ≤ 70 := UInt8.le_iff_toNat_le.mp hhi
    refine ⟨c.toNat - 55, by omega, ?_⟩
    rw [hexDigit, if_neg (by omega), show 55 + (c.toNat - 55) = c.toNat by omega, hc]

/-- A digit begins neither white space nor a sign nor a prefix, and it has a value. -/
theorem UpperHex.scanned {c : UInt8} (h : UpperHex c) :
    isSpace c = false ∧ c ≠ 43 ∧ c ≠ 45 ∧ c ≠ 120 ∧ c ≠ 88 ∧ (hexValue c).isSome := by
  obtain ⟨v, hv, rfl⟩ := h.exists_value
  have hall : ∀ v, v < 16 → isSpace (hexDigit v) = false ∧ hexDigit v ≠ 43 ∧ hexDigit v ≠ 45 ∧
      hexDigit v ≠ 120 ∧ hexDigit v ≠ 88 ∧ (hexValue (hexDigit v)).isSome := by decide
  exact hall v hv

/-- One more digit at the end. -/
theorem hexadecimal_concat (s : Bytes) (c : UInt8) :
    hexadecimal (s ++ [c]) = hexadecimal s * 16 + (hexValue c).getD 0 := by
  rw [hexadecimal, List.foldl_append]
  rfl

/-- What is printed are upper-case digits. -/
theorem hexText_upper (k n : Nat) : ∀ c ∈ hexText k n, UpperHex c := by
  induction k generalizing n with
  | zero => simp [hexText]
  | succ k ih =>
    intro c hc
    rcases List.mem_append.mp hc with hc | hc
    · exact ih _ c hc
    · obtain rfl := List.mem_singleton.mp hc
      exact hexDigit_upper _ (Nat.mod_lt n (by omega))

/-- The value of `k` printed digits is the number modulo `16 ^ k`. -/
theorem hexadecimal_hexText (k n : Nat) : hexadecimal (hexText k n) = n % 16 ^ k := by
  induction k generalizing n with
  | zero =>
    show 0 = n % 1
    omega
  | succ k ih =>
    have hlast := hexValue_hexDigit (n % 16) (Nat.mod_lt n (by omega))
    rw [hexText, hexadecimal_concat, ih, hlast, Option.getD_some, Nat.pow_succ, Nat.mul_comm,
      Nat.mul_comm (16 ^ k), Nat.mod_mul, Nat.add_comm]

/-- **Upper-case digits are what their value prints.** -/
theorem hexText_hexadecimal {s : Bytes} (h : ∀ c ∈ s, UpperHex c) :
    hexText s.length (hexadecimal s) = s := by
  -- from the last digit, the one `hexText` appends
  induction s using List.reverseRecOn with
  | nil => rfl
  | append_singleton s c ih =>
    obtain ⟨v, hv, rfl⟩ := (h c (by simp)).exists_value
    have hs := ih fun d hd => h d (List.mem_append_left _ hd)
    rw [List.length_append, List.length_singleton, hexText, hexadecimal_concat,
      hexValue_hexDigit v hv, Option.getD_some]
    rw [show (hexadecimal s * 16 + v) / 16 = hexadecimal s by omega,
      show (hexadecimal s * 16 + v) % 16 = v by omega, hs]

/-- The value of `k` digits is less than `16 ^ k`. -/
theorem hexadecimal_lt {s : Bytes} (h : ∀ c ∈ s, UpperHex c) :
    hexadecimal s < 16 ^ s.length := by
  have hval := hexadecimal_hexText s.length (hexadecimal s)
  rw [hexText_hexadecimal h] at hval
  rw [hval]
  exact Nat.mod_lt _ (Nat.pow_pos (by omega))

/-- **Upper-case digits within the width are all read**: nothing is skipped and nothing stops. -/
theorem scanHex_upper {width : Nat} {s : Bytes} (hne : s ≠ []) (hlen : s.length ≤ width)
    (h : ∀ c ∈ s, UpperHex c) : scanHex width s = some (UInt32.ofNat (hexadecimal s)) := by
  obtain ⟨c, s, rfl⟩ := List.exists_cons_of_ne_nil hne
  obtain ⟨hspace, hplus, hminus, -, -, -⟩ := (h c (by simp)).scanned
  have hdrop : (c :: s).dropWhile isSpace = c :: s := by
    rw [List.dropWhile_cons, hspace]
    rfl
  have hsign : sign (c :: s) = (false, c :: s) := by
    unfold sign
    split
    · rename_i heq
      exact absurd (List.cons.inj heq).1 hplus
    · rename_i heq
      exact absurd (List.cons.inj heq).1 hminus
    · rfl
  have hpre : dropHexPrefix (c :: s) = c :: s := by
    unfold dropHexPrefix
    split
    · rename_i x d t heq
      have hx : x ∈ c :: s := by
        rw [heq]
        simp
      obtain ⟨-, -, -, hsmall, hbig, -⟩ := (h x hx).scanned
      rw [if_neg (by rintro ⟨hx | hx, -⟩; exacts [hsmall hx, hbig hx]), heq]
    · rfl
  have hall : (c :: s).takeWhile (fun c => (hexValue c).isSome) = c :: s :=
    List.takeWhile_eq_self_iff.mpr fun d hd => (h d hd).scanned.2.2.2.2.2
  unfold scanHex
  simp only [hdrop, List.take_of_length_le hlen, hsign, hpre, hall, if_neg hne]
  rfl

/-- **A printed number is read back.** -/
theorem scanHex_hexText (v : UInt32) : scanHex 8 (hexText 8 v.toNat) = some v := by
  have hlen := length_hexText 8 v.toNat
  have hne : hexText 8 v.toNat ≠ [] := by
    intro hnil
    rw [hnil] at hlen
    exact absurd hlen (by decide)
  rw [scanHex_upper hne (by omega) (hexText_upper 8 _), hexadecimal_hexText]
  show some (UInt32.ofNat (v.toNat % 2 ^ 32)) = some v
  rw [Nat.mod_eq_of_lt v.toNat_lt, UInt32.ofNat_toNat]

/-- What `%8X` reads from eight upper-case digits is printed as the same digits. -/
theorem hexText_of_scanHex {s : Bytes} {v : UInt32} (hlen : s.length = 8)
    (h : ∀ c ∈ s, UpperHex c) (hv : scanHex 8 s = some v) : hexText 8 v.toNat = s := by
  have hne : s ≠ [] := by
    rintro rfl
    exact absurd hlen (by decide)
  have hlt := hexadecimal_lt h
  rw [hlen] at hlt
  rw [scanHex_upper hne (by omega) h] at hv
  obtain rfl := Option.some.inj hv
  rw [UInt32.toNat_ofNat_of_lt' hlt, ← hlen]
  exact hexText_hexadecimal h

example : scanHex 8 (ascii "0000BEEF") = some 0xBEEF := by decide
example : scanHex 8 (ascii "    BEEF") = some 0xBEEF := by decide

/-! ## Decimal numbers -/

/-- A printed digit is a digit, -/
theorem isDigit_ofNat : ∀ d, d < 10 → isDigit (UInt8.ofNat (48 + d)) = true := by decide

/-- and its value is the number. -/
theorem digit_value : ∀ d, d < 10 → (UInt8.ofNat (48 + d)).toNat - 48 = d := by decide

/-- One more digit at the end. -/
theorem decimal_concat (s : Bytes) (c : UInt8) :
    decimal (s ++ [c]) = decimal s * 10 + (c.toNat - 48) := by
  rw [decimal, List.foldl_append]
  rfl

/-- What is printed are digits, -/
theorem natTextAux_digits (fuel n : Nat) : ∀ c ∈ natTextAux fuel n, isDigit c = true := by
  induction fuel generalizing n with
  | zero => simp [natTextAux]
  | succ fuel ih =>
    unfold natTextAux
    split
    · rename_i hn
      simpa using isDigit_ofNat n hn
    · intro c hc
      rcases List.mem_append.mp hc with hc | hc
      · exact ih _ c hc
      · obtain rfl := List.mem_singleton.mp hc
        exact isDigit_ofNat _ (Nat.mod_lt n (by omega))

/-- for every number. -/
theorem natText_digits (n : Nat) : ∀ c ∈ natText n, isDigit c = true := natTextAux_digits _ n

/-- With fuel enough the value of the printed digits is the number, -/
theorem decimal_natTextAux {fuel n : Nat} (h : n < fuel) : decimal (natTextAux fuel n) = n := by
  induction fuel generalizing n with
  | zero => omega
  | succ fuel ih =>
    unfold natTextAux
    by_cases hn : n < 10
    · rw [if_pos hn]
      show 0 * 10 + ((UInt8.ofNat (48 + n)).toNat - 48) = n
      rw [digit_value n hn]
      omega
    · rw [if_neg hn, decimal_concat, ih (by omega), digit_value _ (Nat.mod_lt n (by omega))]
      omega

/-- and there is enough. -/
theorem decimal_natText (n : Nat) : decimal (natText n) = n := decimal_natTextAux (by omega)

/-- At least one digit is printed. -/
theorem natText_ne_nil (n : Nat) : natText n ≠ [] :=
  List.length_pos_iff.mp (length_natText_pos n)

/-- A digit is the digit of some number below ten. -/
theorem exists_digit {c : UInt8} (h : isDigit c = true) :
    ∃ d, d < 10 ∧ UInt8.ofNat (48 + d) = c := by
  simp only [isDigit, Bool.and_eq_true, decide_eq_true_eq] at h
  have hlo : 48 ≤ c.toNat := UInt8.le_iff_toNat_le.mp h.1
  have hhi : c.toNat ≤ 57 := UInt8.le_iff_toNat_le.mp h.2
  refine ⟨c.toNat - 48, by omega, ?_⟩
  rw [show 48 + (c.toNat - 48) = c.toNat by omega, UInt8.ofNat_toNat]

/-- A digit begins neither white space nor a sign. -/
theorem isDigit_scanned {c : UInt8} (h : isDigit c = true) :
    isSpace c = false ∧ c ≠ 43 ∧ c ≠ 45 := by
  obtain ⟨d, hd, rfl⟩ := exists_digit h
  have hall : ∀ d, d < 10 → isSpace (UInt8.ofNat (48 + d)) = false ∧
      UInt8.ofNat (48 + d) ≠ 43 ∧ UInt8.ofNat (48 + d) ≠ 45 := by decide
  exact hall d hd

/-- Digits have no sign in front. -/
theorem sign_digits {s t : Bytes} (hne : s ≠ []) (h : ∀ c ∈ s, isDigit c = true) :
    sign (s ++ t) = (false, s ++ t) := by
  obtain ⟨c, s, rfl⟩ := List.exists_cons_of_ne_nil hne
  obtain ⟨-, hplus, hminus⟩ := isDigit_scanned (h c (by simp))
  unfold sign
  split
  · rename_i heq
    exact absurd (List.cons.inj heq).1 hplus
  · rename_i heq
    exact absurd (List.cons.inj heq).1 hminus
  · rfl

/-- The text goes on with something that is not a digit, or ends. -/
def NoDigit (t : Bytes) : Prop := ∀ c, t.head? = some c → isDigit c = false

/-- Digits are read to their end, and no further. -/
theorem split_digits {s t : Bytes} (h : ∀ c ∈ s, isDigit c = true) (ht : NoDigit t) :
    (s ++ t).takeWhile isDigit = s ∧ (s ++ t).dropWhile isDigit = t := by
  have hnil : t.takeWhile isDigit = [] ∧ t.dropWhile isDigit = t := by
    cases t with
    | nil => exact ⟨rfl, rfl⟩
    | cons c t =>
      have hc := ht c rfl
      rw [List.takeWhile_cons, List.dropWhile_cons, hc]
      exact ⟨rfl, rfl⟩
  constructor
  · rw [List.takeWhile_append_of_pos h, hnil.1, List.append_nil]
  · rw [List.dropWhile_append_of_pos h, hnil.2]

/-- The parts of a printed number: its sign, its digits, and what stands behind it. -/
theorem intText_parts (i : Int) {t : Bytes} (ht : NoDigit t) :
    (sign ((intText i ++ t).dropWhile isSpace)).1 = decide (i < 0) ∧
      (sign ((intText i ++ t).dropWhile isSpace)).2.takeWhile isDigit = natText i.natAbs ∧
      (sign ((intText i ++ t).dropWhile isSpace)).2.dropWhile isDigit = t := by
  have hdigits := natText_digits i.natAbs
  have hne := natText_ne_nil i.natAbs
  have hsplit := split_digits hdigits ht
  by_cases hneg : i < 0
  · -- a minus sign in front of the digits
    have htext : intText i = 45 :: natText i.natAbs := if_pos hneg
    have hspace : (intText i ++ t).dropWhile isSpace = 45 :: (natText i.natAbs ++ t) := by
      rw [htext]
      rfl
    rw [hspace, decide_eq_true hneg]
    exact ⟨rfl, hsplit⟩
  · have htext : intText i = natText i.natAbs := if_neg hneg
    obtain ⟨c, s, hcs⟩ := List.exists_cons_of_ne_nil hne
    have hspace : (intText i ++ t).dropWhile isSpace = natText i.natAbs ++ t := by
      have hc := (isDigit_scanned (hdigits c (by rw [hcs]; simp))).1
      rw [htext, hcs, List.cons_append, List.dropWhile_cons, hc]
      rfl
    rw [hspace, sign_digits hne hdigits, decide_eq_false hneg]
    exact ⟨rfl, hsplit⟩

/-- The sign and the digits of a printed number give the number. -/
theorem signed_decimal (i : Int) :
    (if decide (i < 0) = true then -(decimal (natText i.natAbs) : Int)
      else decimal (natText i.natAbs)) = i := by
  rw [decimal_natText]
  by_cases hneg : i < 0
  · rw [if_pos (decide_eq_true hneg)]
    omega
  · rw [if_neg (by simpa using hneg)]
    omega

/-- **A printed number is read back**, and the scan stops where the digits stop. -/
theorem scanInt_intText {bits : Nat} {i : Int} {t : Bytes} (hlo : -2 ^ (bits - 1) ≤ i)
    (hhi : i < 2 ^ (bits - 1)) (ht : NoDigit t) : scanInt bits (intText i ++ t) = some (i, t) := by
  obtain ⟨hsign, htake, hdrop⟩ := intText_parts i ht
  have hclamp : max (-2 ^ (bits - 1)) (min (2 ^ (bits - 1) - 1) i) = i := by omega
  unfold scanInt
  simp only [hsign, htake, hdrop, if_neg (natText_ne_nil i.natAbs), signed_decimal, hclamp]

/-! ## Numbers of a fixed width

  `%2d` and its like: the scan looks at a window of the input and goes on behind what it has read,
  even where more digits follow. -/

/-- `%<width>d`: white space, and a number within the next `width` characters. -/
def scanIntWithin (bits width : Nat) (s : Bytes) : Option (Int × Bytes) :=
  let s := s.dropWhile isSpace
  (scanInt bits (s.take width)).map fun p => (p.1, p.2 ++ s.drop width)

/-- The value of `k` digits is less than `10 ^ k`. -/
theorem decimal_lt {s : Bytes} (h : ∀ c ∈ s, isDigit c = true) : decimal s < 10 ^ s.length := by
  induction s using List.reverseRecOn with
  | nil => exact Nat.one_pos
  | append_singleton s c ih =>
    have hs := ih fun c' hc' => h c' (List.mem_append_left _ hc')
    obtain ⟨d, hd, rfl⟩ := exists_digit (h c (by simp))
    rw [decimal_concat, digit_value d hd, List.length_append, List.length_singleton, Nat.pow_succ]
    omega

/-- **Digits that fill the width are read as they are**, and the scan goes on behind them. -/
theorem scanIntWithin_digits {bits : Nat} {ds : Bytes} (hne : ds ≠ [])
    (hds : ∀ c ∈ ds, isDigit c = true) (hfits : 10 ^ ds.length ≤ 2 ^ (bits - 1)) (t : Bytes) :
    scanIntWithin bits ds.length (ds ++ t) = some ((decimal ds : Int), t) := by
  have hspace (u : Bytes) : (ds ++ u).dropWhile isSpace = ds ++ u := by
    obtain ⟨c, s, rfl⟩ := List.exists_cons_of_ne_nil hne
    have hc := (isDigit_scanned (hds c (by simp))).1
    rw [List.cons_append, List.dropWhile_cons, hc]
    rfl
  have hsplit := split_digits hds (t := []) nofun
  have hclamp : max (-2 ^ (bits - 1)) (min (2 ^ (bits - 1) - 1) (decimal ds : Int)) = decimal ds := by
    have hlt : decimal ds < 2 ^ (bits - 1) := Nat.lt_of_lt_of_le (decimal_lt hds) hfits
    have hlt : (decimal ds : Int) < 2 ^ (bits - 1) := by exact_mod_cast hlt
    omega
  have hscan : scanInt bits ds = some ((decimal ds : Int), []) := by
    have hspace := hspace []
    have hsign := sign_digits hne hds (t := [])
    rw [List.append_nil] at hspace hsign hsplit
    unfold scanInt
    simp only [hspace, hsign, hsplit.1, hsplit.2, if_neg hne, Bool.false_eq_true, if_false, hclamp]
  simp only [scanIntWithin, hspace, List.take_left, List.drop_left, hscan]
  rfl

end Stdio
