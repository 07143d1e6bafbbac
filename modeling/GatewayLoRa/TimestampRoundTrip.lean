/-
  A TIMESTAMP and the epoch it stands for.

  `epochToTimestamp` prints a broken-down time as `DDMMYYHHMMSS`, `timestampToEpoch` scans one and
  puts it together again.  Between the numbers and the epoch stand `localtime` and `mktime` of the
  platform, which are taken to be the conversions of the Gregorian calendar in UTC (`IsUTC`).

  1. **The calendar** (`utcSeconds_utcTime`, `utcTime_utcSeconds`) — the two conversions are inverse
     to each other.

  2. **The digits** (`two_flatMap`, `digits_eq`) — twelve digits are six numbers below 100, each
     printed with a leading zero.

  3. **The result** (`timestamp_round_trips`) — over the years 2000 to 2099, the epoch of the
     timestamp of an epoch is that epoch, and the timestamp of the epoch of a timestamp is that
     timestamp.

  The crux is the list of six numbers in the middle (`Tm.numbers`).  Both directions of the round
  trip go through it: a valid time has six numbers below 100, which are printed two digits each, and
  twelve digits are read two at a time.  What is lost on the way is the century, and for this the
  years are those of one century; 2000 is a leap year, so the calendar has no other exception in it.
-/

import GatewayLoRa.Lib.Calendar
import GatewayLoRa.RealTimeClock

namespace GatewayLoRa

open CMemory

/-! ## UTC

  The conversions between an epoch and a broken-down time, by the calendar of days (`Calendar`).
  `mktime` is asked for nothing on a time that does not exist. -/

/-- The date of a broken-down time. -/
def Tm.date (t : Tm) : Calendar.Date := ⟨t.year + 1900, t.mon.toNat, t.mday.toNat⟩

/-- There is such a date and such a time of the day. -/
structure Tm.Valid (t : Tm) : Prop where
  date : t.date.Valid
  mon : 0 ≤ t.mon
  hour : 0 ≤ t.hour ∧ t.hour < 24
  min : 0 ≤ t.min ∧ t.min < 60
  sec : 0 ≤ t.sec ∧ t.sec < 60

/-- The broken-down time of an epoch. -/
def utcTime (e : Int) : Tm where
  mday := (Calendar.date (e / 86400)).day
  mon := (Calendar.date (e / 86400)).month
  year := (Calendar.date (e / 86400)).year - 1900
  hour := e % 86400 / 3600
  min := e % 3600 / 60
  sec := e % 60

/-- The epoch of a broken-down time. -/
def utcSeconds (t : Tm) : Int := t.date.dayNumber * 86400 + t.hour * 3600 + t.min * 60 + t.sec

/-- `localtime` and `mktime` are the conversions of the Gregorian calendar, in UTC. -/
structure IsUTC (localtime : Int → Tm) (mktime : Tm → Int) : Prop where
  localtime_eq : ∀ e, localtime e = utcTime e
  mktime_eq : ∀ t, t.Valid → mktime t = utcSeconds t

/-- The date of an epoch is that of its day, -/
theorem date_utcTime (e : Int) : (utcTime e).date = Calendar.date (e / 86400) := by
  show Calendar.Date.mk (_ - 1900 + 1900) _ _ = _
  rw [Int.sub_add_cancel]
  rfl

/-- and its time is one that exists. -/
theorem valid_utcTime (e : Int) : (utcTime e).Valid where
  date := date_utcTime e ▸ Calendar.valid_date _
  mon := Int.natCast_nonneg _
  hour := by
    show 0 ≤ e % 86400 / 3600 ∧ e % 86400 / 3600 < 24
    omega
  min := by
    show 0 ≤ e % 3600 / 60 ∧ e % 3600 / 60 < 60
    omega
  sec := by
    show 0 ≤ e % 60 ∧ e % 60 < 60
    omega

/-- **The epoch of the time of an epoch.** -/
theorem utcSeconds_utcTime (e : Int) : utcSeconds (utcTime e) = e := by
  rw [utcSeconds, date_utcTime, Calendar.dayNumber_date]
  show e / 86400 * 86400 + e % 86400 / 3600 * 3600 + e % 3600 / 60 * 60 + e % 60 = e
  omega

/-- **The time of the epoch of a time.** -/
theorem utcTime_utcSeconds {t : Tm} (h : t.Valid) : utcTime (utcSeconds t) = t := by
  obtain ⟨hdate, hmon, hhour, hmin, hsec⟩ := h
  -- the day and the second of the day are quotient and remainder
  have hday : utcSeconds t / 86400 = t.date.dayNumber := by
    rw [utcSeconds]
    omega
  have hmday : 0 < t.mday := by
    have : 1 ≤ t.mday.toNat := hdate.2.1
    omega
  have hhour' : utcSeconds t % 86400 / 3600 = t.hour := by
    rw [utcSeconds]
    omega
  have hmin' : utcSeconds t % 3600 / 60 = t.min := by
    rw [utcSeconds]
    omega
  have hsec' : utcSeconds t % 60 = t.sec := by
    rw [utcSeconds]
    omega
  rw [utcTime, hday, Calendar.date_dayNumber hdate, hhour', hmin', hsec']
  show Tm.mk t.mday.toNat t.mon.toNat (t.year + 1900 - 1900) t.hour t.min t.sec = t
  rw [Int.toNat_of_nonneg hmday.le, Int.toNat_of_nonneg hmon, Int.add_sub_cancel]

/-! ## Six numbers, twelve digits

  What `%02d` prints and `%2d` reads, for a number below 100 and for a list of them. -/

/-- A number below 100 has two digits, and they say it. -/
theorem twoDigits_digits : ∀ n : Nat, n < 100 →
    (twoDigits n).length = 2 ∧ (∀ c ∈ twoDigits n, Stdio.isDigit c = true) ∧
      Stdio.decimal (twoDigits n) = n := by
  decide +kernel

/-- Two digits are those of the number they say. -/
theorem twoDigits_decimal : ∀ a < 10, ∀ b < 10,
    twoDigits (Stdio.decimal [UInt8.ofNat (48 + a), UInt8.ofNat (48 + b)]) =
      [UInt8.ofNat (48 + a), UInt8.ofNat (48 + b)] := by
  decide +kernel

/-- A number that two digits show. -/
def TwoDigit (i : Int) : Prop := 0 ≤ i ∧ i < 100

/-- Such a number is a natural one. -/
theorem TwoDigit.exists_nat {i : Int} (h : TwoDigit i) : ∃ n : Nat, n < 100 ∧ i = n :=
  ⟨i.toNat, by have := h.2; omega, (Int.toNat_of_nonneg h.1).symm⟩

/-- It takes two bytes, -/
theorem TwoDigit.length {i : Int} (h : TwoDigit i) : (twoDigits i).length = 2 := by
  obtain ⟨n, hn, rfl⟩ := h.exists_nat
  exact (twoDigits_digits n hn).1

section Digits

variable {ns : List Int}

/-- and a list of them twice its length. -/
theorem length_flatMap_twoDigits (h : ∀ n ∈ ns, TwoDigit n) :
    (ns.flatMap twoDigits).length = 2 * ns.length := by
  induction ns with
  | nil => rfl
  | cons n ns ih =>
    obtain ⟨hn, hns⟩ := List.forall_mem_cons.mp h
    rw [List.flatMap_cons, List.length_append, hn.length, ih hns, List.length_cons]
    omega

/-- **Where a number stands** among the digits. -/
theorem two_flatMap (h : ∀ n ∈ ns, TwoDigit n) {k : Nat} (hk : k < ns.length) :
    ((ns.flatMap twoDigits).drop (2 * k)).take 2 = twoDigits ns[k] := by
  induction ns generalizing k with
  | nil => exact absurd hk (Nat.not_lt_zero k)
  | cons n ns ih =>
    obtain ⟨hn, hns⟩ := List.forall_mem_cons.mp h
    rw [List.flatMap_cons]
    cases k with
    | zero =>
      rw [Nat.mul_zero, List.drop_zero, ← hn.length, List.take_left]
      rfl
    | succ k =>
      have hdrop : 2 * (k + 1) = (twoDigits n).length + 2 * k := by
        rw [hn.length]
        omega
      rw [hdrop, List.drop_length_add_append]
      exact ih hns (Nat.lt_of_succ_lt_succ hk)

end Digits

/-- The numbers that a timestamp shows. -/
def Tm.numbers (t : Tm) : List Int :=
  [t.mday, t.mon + 1, t.year % 100, t.hour, t.min, t.sec]

/-- `epochToTimestamp`, into an array of `len` bytes. -/
def epochToTimestampIn (len : Nat) (localtime : Int → Tm) (seconds : Int) : Bytes :=
  ((localtime seconds).numbers.flatMap twoDigits).take (len - 1)

/-- The arrays of `FormattingMessage` have 20 bytes. -/
theorem epochToTimestamp_eq : epochToTimestamp = epochToTimestampIn 20 := by
  funext localtime seconds
  simp [epochToTimestamp, epochToTimestampIn, Tm.numbers]

/-- The numbers of a valid time are below 100, the year without its century. -/
theorem Tm.Valid.numbers {t : Tm} (h : t.Valid) : ∀ n ∈ t.numbers, TwoDigit n := by
  obtain ⟨hdate, hmon, hhour, hmin, hsec⟩ := h
  have hday := hdate.day_le
  obtain ⟨hmonth, hpos, -⟩ := hdate
  have hmday : TwoDigit t.mday := by
    simp only [Tm.date] at hpos hday
    exact ⟨by omega, by omega⟩
  have hmonth' : TwoDigit (t.mon + 1) := by
    simp only [Tm.date] at hmonth
    exact ⟨by omega, by omega⟩
  have hyear : TwoDigit (t.year % 100) := ⟨by omega, by omega⟩
  simp only [Tm.numbers, List.forall_mem_cons]
  exact ⟨hmday, hmonth', hyear, ⟨hhour.1, by omega⟩, ⟨hmin.1, by omega⟩, ⟨hsec.1, by omega⟩, nofun⟩

/-- The digits of a time are complete. -/
theorem digits_numbers {t : Tm} (h : t.Valid) : ∃ d : CompleteTime,
    d.digits = t.numbers.flatMap twoDigits := by
  refine ⟨⟨_, length_flatMap_twoDigits h.numbers, fun c hc => ?_⟩, rfl⟩
  obtain ⟨i, hi, hc⟩ := List.mem_flatMap.mp hc
  obtain ⟨n, hn, rfl⟩ := (h.numbers i hi).exists_nat
  exact (twoDigits_digits n hn).2.1 c hc

/-- A number that a timestamp shows is read back. -/
theorem two_of_numbers {d : CompleteTime} {ns : List Int} (hd : d.digits = ns.flatMap twoDigits)
    (hns : ∀ n ∈ ns, TwoDigit n) {k : Nat} (hk : k < ns.length) : d.two (2 * k) = ns[k] := by
  obtain ⟨n, hn, heq⟩ := (hns _ (List.getElem_mem hk)).exists_nat
  rw [CompleteTime.two, hd, two_flatMap hns hk, heq, (twoDigits_digits n hn).2.2]

/-- **Twelve digits are six numbers.** -/
theorem CompleteTime.digits_eq (d : CompleteTime) :
    d.digits = [d.two 0, d.two 2, d.two 4, d.two 6, d.two 8, d.two 10].flatMap twoDigits := by
  have hpair {k : Nat} (hk : k ≤ 10) :
      d.digits.drop k = twoDigits (d.two k) ++ d.digits.drop (k + 2) := by
    have hlength : ((d.digits.drop k).take 2).length = 2 := by
      rw [List.length_take, List.length_drop, d.length_digits]
      omega
    obtain ⟨c, c', hcc⟩ := List.length_eq_two.mp hlength
    have hdigit : ∀ x ∈ [c, c'], ∃ a, a < 10 ∧ UInt8.ofNat (48 + a) = x := fun x hx => by
      rw [← hcc] at hx
      exact Stdio.exists_digit
        (d.isDigit_digits x (List.mem_of_mem_drop (List.mem_of_mem_take hx)))
    obtain ⟨a, ha, rfl⟩ := hdigit c (by simp)
    obtain ⟨b, hb, rfl⟩ := hdigit c' (by simp)
    rw [CompleteTime.two, hcc, twoDigits_decimal a ha b hb, ← hcc, ← List.drop_drop,
      List.take_append_drop]
  have hend : d.digits.drop 12 = [] := List.drop_of_length_le d.length_digits.le
  calc d.digits = d.digits.drop 0 := rfl
    _ = _ := by
      rw [hpair (k := 0) (by decide), hpair (k := 0 + 2) (by decide),
        hpair (k := 0 + 2 + 2) (by decide), hpair (k := 0 + 2 + 2 + 2) (by decide),
        hpair (k := 0 + 2 + 2 + 2 + 2) (by decide),
        hpair (k := 0 + 2 + 2 + 2 + 2 + 2) (by decide), hend]
      simp

/-! ## The result

  The two directions, with the length of the array as a parameter: all that is asked of it is room
  for the digits and the NUL. -/

/-- The epoch is of one of the years 2000 to 2099. -/
def InCentury (e : Int) : Prop :=
  utcSeconds ⟨1, 0, 100, 0, 0, 0⟩ ≤ e ∧ e ≤ utcSeconds ⟨31, 11, 199, 23, 59, 59⟩

instance (e : Int) : Decidable (InCentury e) := inferInstanceAs (Decidable (_ ∧ _))

/-- Between the first and the last second the year is one of the hundred. -/
theorem InCentury.year {e : Int} (h : InCentury e) :
    100 ≤ (utcTime e).year ∧ (utcTime e).year < 200 := by
  obtain ⟨hlo, hhi⟩ := h
  have hfirst : utcSeconds ⟨1, 0, 100, 0, 0, 0⟩ = Calendar.newYear 2000 * 86400 := by decide
  have hlast : utcSeconds ⟨31, 11, 199, 23, 59, 59⟩ = Calendar.newYear 2100 * 86400 - 1 := by decide
  obtain ⟨hle, hlt⟩ := Calendar.yearOf_spec (e / 86400)
  have hlower : 2000 ≤ Calendar.yearOf (e / 86400) := by
    by_contra hyear
    have := Calendar.newYear_le (show Calendar.yearOf (e / 86400) + 1 ≤ 2000 by omega)
    omega
  have hupper : Calendar.yearOf (e / 86400) < 2100 := by
    by_contra hyear
    have := Calendar.newYear_le (show 2100 ≤ Calendar.yearOf (e / 86400) by omega)
    omega
  show 100 ≤ Calendar.yearOf (e / 86400) - 1900 ∧ Calendar.yearOf (e / 86400) - 1900 < 200
  omega

/-- An array of thirteen bytes cuts nothing. -/
theorem take_digits (d : CompleteTime) {len : Nat} (hlen : 13 ≤ len) :
    d.digits.take (len - 1) = d.digits :=
  List.take_of_length_le (by rw [d.length_digits]; omega)

section RoundTrip

variable {localtime : Int → Tm} {mktime : Tm → Int} {len : Nat}

/-- **From an epoch and back.** -/
theorem timestampToEpoch_epochToTimestamp (hutc : IsUTC localtime mktime) (hlen : 13 ≤ len)
    {e : Int} (he : InCentury e) (u : TimestampInts) :
    timestampToEpoch mktime u (epochToTimestampIn len localtime e) = e := by
  have hvalid := valid_utcTime e
  obtain ⟨hlo, hhi⟩ := he.year
  obtain ⟨d, hd⟩ := digits_numbers hvalid
  have htext : epochToTimestampIn len localtime e = d.digits := by
    rw [epochToTimestampIn, hutc.localtime_eq, ← hd, take_digits d hlen]
  have hread {k : Nat} (hk : k < 6) : d.two (2 * k) = (utcTime e).numbers[k] :=
    two_of_numbers hd hvalid.numbers hk
  have htm : d.tm = utcTime e := by
    have h₀ : d.two 0 = (utcTime e).mday := hread (k := 0) (by decide)
    have h₁ : d.two 2 = (utcTime e).mon + 1 := hread (k := 1) (by decide)
    have h₂ : d.two 4 = (utcTime e).year % 100 := hread (k := 2) (by decide)
    have h₃ : d.two 6 = (utcTime e).hour := hread (k := 3) (by decide)
    have h₄ : d.two 8 = (utcTime e).min := hread (k := 4) (by decide)
    have h₅ : d.two 10 = (utcTime e).sec := hread (k := 5) (by decide)
    -- the year is printed without its century, and scanned into the same one
    have hyear : 2000 + (utcTime e).year % 100 - 1900 = (utcTime e).year := by omega
    rw [CompleteTime.tm, h₀, h₁, h₂, h₃, h₄, h₅, hyear, Int.add_sub_cancel]
  rw [htext, timestampToEpoch_digits, htm, hutc.mktime_eq _ hvalid, utcSeconds_utcTime]

/-- **From twelve digits and back.** -/
theorem epochToTimestamp_timestampToEpoch (hutc : IsUTC localtime mktime) (hlen : 13 ≤ len)
    {d : CompleteTime} (hvalid : d.tm.Valid) (u : TimestampInts) :
    epochToTimestampIn len localtime (timestampToEpoch mktime u d.digits) = d.digits := by
  have hyear : (2000 + d.two 4 - 1900) % 100 = d.two 4 := by
    have hlt : d.two 4 < 100 := by
      have h := Stdio.decimal_lt (s := (d.digits.drop 4).take 2) fun c hc =>
        d.isDigit_digits c (List.mem_of_mem_drop (List.mem_of_mem_take hc))
      have hlength : ((d.digits.drop 4).take 2).length = 2 := by
        rw [List.length_take, List.length_drop, d.length_digits]
        rfl
      rw [hlength] at h
      exact Int.ofNat_lt.mpr h
    have hnonneg : 0 ≤ d.two 4 := Int.natCast_nonneg _
    omega
  have hnumbers : d.tm.numbers =
      [d.two 0, d.two 2, d.two 4, d.two 6, d.two 8, d.two 10] := by
    rw [Tm.numbers, CompleteTime.tm, Int.sub_add_cancel, hyear]
  rw [timestampToEpoch_digits, hutc.mktime_eq _ hvalid, epochToTimestampIn, hutc.localtime_eq,
    utcTime_utcSeconds hvalid, hnumbers, ← d.digits_eq, take_digits d hlen]

/-- **Timestamps round-trip**, in an array that has room for twelve digits. -/
theorem timestamp_round_trips (hutc : IsUTC localtime mktime) (hlen : 13 ≤ len) :
    (∀ e, InCentury e → ∀ u,
      timestampToEpoch mktime u (epochToTimestampIn len localtime e) = e) ∧
    ∀ d : CompleteTime, d.tm.Valid → ∀ u,
      epochToTimestampIn len localtime (timestampToEpoch mktime u d.digits) = d.digits :=
  ⟨fun _ he u => timestampToEpoch_epochToTimestamp hutc hlen he u,
    fun _ hvalid u => epochToTimestamp_timestampToEpoch hutc hlen hvalid u⟩

end RoundTrip

/-- The last second of 29 February 2000, as twelve digits. -/
def leapDay : CompleteTime := ⟨ascii "290200235959", by decide +kernel, by decide +kernel⟩

/-- There was such a second. -/
theorem valid_leapDay : leapDay.tm.Valid := ⟨by decide, by decide, by decide, by decide, by decide⟩

/-- This second, in the arrays of `FormattingMessage`: from the epoch and back, and from the digits
    and back. -/
theorem leap_day_round_trips :
    epochToTimestamp utcTime 951868799 = leapDay.digits ∧
      timestampToEpoch utcSeconds ⟨0, 0, 0, 0, 0, 0⟩ (epochToTimestamp utcTime 951868799) =
        951868799 ∧
      epochToTimestamp utcTime (timestampToEpoch utcSeconds ⟨7, 7, 7, 7, 7, 7⟩ leapDay.digits) =
        leapDay.digits := by
  refine ⟨by decide +kernel, ?_, ?_⟩
  · rw [epochToTimestamp_eq]
    exact (timestamp_round_trips ⟨fun _ => rfl, fun _ _ => rfl⟩ (by decide)).1 _ (by decide) _
  · rw [epochToTimestamp_eq]
    exact (timestamp_round_trips ⟨fun _ => rfl, fun _ _ => rfl⟩ (by decide)).2 leapDay valid_leapDay _

end GatewayLoRa
