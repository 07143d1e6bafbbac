/-
  WRITING JSON WITHOUT ESCAPES: what the text of an object is read as when its strings are printed
  between quotes just as they are, and its numbers in decimal.

  A text `Reads` a value when the parser reads it so wherever a member's value may stand, and it is
  `Only` read as a kind of value when otherwise what is left behind it does not end well.

  1. `parse_objectText` — an object whose values are read is read;
  2. `parse_only`       — an object that is read at all was read member by member;
  3. `reads_string`, `only_string` — a string without a comma is read back if it is plain, and only
     then;
  4. `reads_number`     — a number in decimal is read.

  The crux is to show that a text that should not be read is not read after all.  A string with a
  quote inside ends too early, and then the parser stands somewhere in the middle of it; one with a
  backslash at its end runs on into the next member.  In both cases what is left is `Dead`: neither
  a comma nor the last brace follows, and an object goes on with one of these only (`dead_of_quote`,
  `dead_of_late`).  This is why commas are kept out of the strings: behind one of them the parser
  could find its feet again.
-/

import GatewayLoRa.Lib.Json

namespace Json

open CMemory Stdio

/-! ## The members of an object -/

/-- White space. -/
def Blank (c : UInt8) : Prop := c = 32 ∨ c = 9 ∨ c = 10 ∨ c = 13

instance (c : UInt8) : Decidable (Blank c) := inferInstanceAs (Decidable (_ ∨ _))

/-- What is not blank is not skipped, -/
theorem skip_cons {c : UInt8} (hc : ¬ Blank c) (l : Bytes) : skip (c :: l) = c :: l :=
  List.dropWhile_cons_of_neg (by simpa [Blank] using hc)

/-- what is blank is, -/
theorem skip_blank {c : UInt8} (hc : Blank c) (l : Bytes) : skip (c :: l) = skip l :=
  List.dropWhile_cons_of_pos (by simpa [Blank] using hc)

/-- and something is left where anything else stands. -/
theorem skip_ne_nil {c : UInt8} (hc : ¬ Blank c) {s : Bytes} (hmem : c ∈ s) : skip s ≠ [] := by
  induction s with
  | nil => exact absurd hmem List.not_mem_nil
  | cons d s ih =>
    by_cases hd : Blank d
    · rw [skip_blank hd]
      rcases List.mem_cons.mp hmem with rfl | hmem
      · exact absurd hd hc
      · exact ih hmem
    · rw [skip_cons hd]
      exact List.cons_ne_nil d s

/-- What may stand at the beginning of a member's name. -/
def Letter (c : UInt8) : Prop := ¬ Blank c ∧ c ≠ 44 ∧ c ≠ 125

instance (c : UInt8) : Decidable (Letter c) := inferInstanceAs (Decidable (_ ∧ _))

/-- What stands behind a member: the closing brace, or the next name. -/
def Follows (tail : Bytes) : Prop := tail = [125] ∨ ∃ c l, tail = 44 :: 34 :: c :: l ∧ Letter c

/-- **Nothing that ends well**: neither a comma nor a brace that closes the text. -/
def Dead (r : Bytes) : Prop := ∃ c l, skip r = c :: l ∧ c ≠ 44 ∧ (c = 125 → skip l ≠ [])

/-- The text is read as the value, wherever a member's value may stand and with any fuel that is
    left. -/
def Reads (x : Bytes) (v : Value) : Prop :=
  ∀ fuel tail, Follows tail → value (fuel + 1) (skip (x ++ tail)) = some (v, tail)

/-- The text is read as a value of the kind, or what is left of it does not end well.  The parser
    may well accept something at this place; the object as a whole is then not accepted. -/
def Only (x : Bytes) (kind : Value → Prop) : Prop :=
  ∀ fuel tail v r, Follows tail → value fuel (skip (x ++ tail)) = some (v, r) →
    (r = tail ∧ kind v) ∨ Dead r

theorem Reads.only {x : Bytes} {v : Value} (h : Reads x v) {kind : Value → Prop} (hv : kind v) :
    Only x kind := by
  intro fuel tail w r htail hvalue
  cases fuel with
  | zero => cases hvalue
  | succ fuel =>
    rw [h fuel tail htail] at hvalue
    obtain ⟨rfl, rfl⟩ := Prod.mk.inj (Option.some.inj hvalue)
    exact .inl ⟨rfl, hv⟩

/-- A member, without white space. -/
def memberText (m : Bytes × Bytes) : Bytes := 34 :: m.1 ++ 34 :: 58 :: m.2

/-- Members, with commas between them. -/
def membersText : List (Bytes × Bytes) → Bytes
  | [] => []
  | [m] => memberText m
  | m :: ms => memberText m ++ 44 :: membersText ms

/-- The text begins with a letter. -/
def startsWithLetter : Bytes → Bool
  | [] => false
  | c :: _ => decide (Letter c)

/-- A name that can be printed as it is. -/
def Name (s : Bytes) : Prop := Plain s ∧ startsWithLetter s = true

instance (s : Bytes) : Decidable (Name s) := inferInstanceAs (Decidable (_ ∧ _))

/-- What stands behind the first of the members. -/
def behindFirst : List (Bytes × Bytes) → Bytes
  | [] => [125]
  | m :: ms => 44 :: membersText (m :: ms) ++ [125]

/-- The text of members, with the first of them taken apart. -/
theorem membersText_cons (m : Bytes × Bytes) (ms : List (Bytes × Bytes)) :
    membersText (m :: ms) ++ [125] = 34 :: (m.1 ++ 34 :: 58 :: (m.2 ++ behindFirst ms)) := by
  cases ms with
  | nil => simp [membersText, memberText, behindFirst]
  | cons m' ms => simp [membersText, memberText, behindFirst]

/-- Behind the first member stands the closing brace, or a comma and the next name. -/
theorem follows_behindFirst {ms : List (Bytes × Bytes)} (hnames : ∀ m ∈ ms, Name m.1) :
    Follows (behindFirst ms) := by
  cases ms with
  | nil => exact .inl rfl
  | cons m ms =>
    obtain ⟨c, l, hname, hletter⟩ : ∃ c l, m.1 = c :: l ∧ Letter c := by
      have hstarts := (hnames m List.mem_cons_self).2
      cases hname : m.1 with
      | nil =>
        rw [hname] at hstarts
        cases hstarts
      | cons c l =>
        rw [hname] at hstarts
        exact ⟨c, l, rfl, of_decide_eq_true hstarts⟩
    refine .inr ⟨c, l ++ 34 :: 58 :: (m.2 ++ behindFirst ms), ?_, hletter⟩
    rw [behindFirst, List.cons_append, membersText_cons, hname]
    rfl

section Cons

variable {name s l : Bytes} {v : Value} {fuel : Nat}

/-- A name is read, -/
theorem scan_name (hname : Plain name) :
    scanString ((name ++ 34 :: 58 :: s).length + 1) (name ++ 34 :: 58 :: s)
      = some (name, 58 :: s) := by
  refine scanString_plain hname (58 :: s) ?_
  simp only [List.length_append]
  omega

/-- Between a name and its value there is no white space. -/
theorem skip_colon : skip (58 :: s) = 58 :: s := skip_cons (by decide) s

/-- and its value decides: when there is none, -/
theorem members_none (hname : Plain name) (h : value fuel (skip s) = none) :
    members (fuel + 1) (34 :: (name ++ 34 :: 58 :: s)) = none := by
  rw [members]
  simp only [scan_name hname, skip_colon, h]

/-- and when there is one, what stands behind it: a comma, -/
theorem members_comma {r : Bytes} (hname : Plain name) (h : value fuel (skip s) = some (v, l))
    (hl : skip l = 44 :: r) :
    members (fuel + 1) (34 :: (name ++ 34 :: 58 :: s)) =
      (members fuel (skip r)).map fun p => ((name, v) :: p.1, p.2) := by
  rw [members]
  simp only [scan_name hname, skip_colon, h, hl]

/-- a closing brace, -/
theorem members_brace {r : Bytes} (hname : Plain name) (h : value fuel (skip s) = some (v, l))
    (hl : skip l = 125 :: r) :
    members (fuel + 1) (34 :: (name ++ 34 :: 58 :: s)) = some ([(name, v)], r) := by
  rw [members]
  simp only [scan_name hname, skip_colon, h, hl]

/-- or anything else. -/
theorem members_other {c : UInt8} {r : Bytes} (hname : Plain name)
    (h : value fuel (skip s) = some (v, l)) (hl : skip l = c :: r) (hcomma : c ≠ 44)
    (hbrace : c ≠ 125) : members (fuel + 1) (34 :: (name ++ 34 :: 58 :: s)) = none := by
  rw [members]
  simp only [scan_name hname, skip_colon, h, hl]
  split
  · rename_i heq
    exact absurd (List.cons.inj heq).1 hcomma
  · rename_i heq
    exact absurd (List.cons.inj heq).1 hbrace
  · rfl

end Cons

/-- **Members whose values are read are read.** -/
theorem members_read {ms : List (Bytes × Bytes)} {vs : List (Bytes × Value)} {fuel : Nat}
    (hne : ms ≠ []) (hnames : ∀ m ∈ ms, Name m.1) (hfuel : ms.length < fuel)
    (hreads : List.Forall₂ (fun m v => v.1 = m.1 ∧ Reads m.2 v.2) ms vs) :
    members fuel (membersText ms ++ [125]) = some (vs, []) := by
  induction hreads generalizing fuel with
  | nil => exact absurd rfl hne
  | @cons m v ms vs hfirst hrest ih =>
    obtain ⟨fuel, rfl⟩ : ∃ k, fuel = k + 2 := ⟨fuel - 2, by simp at hfuel; omega⟩
    obtain ⟨name, w⟩ := v
    obtain ⟨rfl, hread⟩ : name = m.1 ∧ Reads m.2 w := hfirst
    have htail : ∀ m' ∈ ms, Name m'.1 := fun m' hm' => hnames m' (List.mem_cons_of_mem m hm')
    have hname := (hnames m List.mem_cons_self).1
    have hvalue := hread fuel _ (follows_behindFirst htail)
    rw [membersText_cons]
    cases ms with
    | nil =>
      cases hrest
      exact members_brace hname hvalue (skip_cons (by decide) [])
    | cons m' ms =>
      have hrest : members (fuel + 1) (membersText (m' :: ms) ++ [125]) = some (_, []) :=
        ih (List.cons_ne_nil m' ms) htail (by simpa using hfuel)
      have hskip : skip (membersText (m' :: ms) ++ [125]) = membersText (m' :: ms) ++ [125] := by
        rw [membersText_cons]
        exact skip_cons (by decide) _
      have hcomma : skip (behindFirst (m' :: ms)) = 44 :: (membersText (m' :: ms) ++ [125]) :=
        skip_cons (by decide) _
      rw [members_comma hname hvalue hcomma, hskip, hrest]
      rfl

/-- **Members that are read are read one by one**, if nothing stands behind them. -/
theorem members_only {ms : List (Bytes × Bytes)} {vs : List (Bytes × Value)} {r : Bytes}
    {fuel : Nat} {kind : Bytes → Value → Prop} (hnames : ∀ m ∈ ms, Name m.1)
    (honly : ∀ m ∈ ms, Only m.2 (kind m.2)) (hne : ms ≠ [])
    (h : members fuel (membersText ms ++ [125]) = some (vs, r)) (hr : skip r = []) :
    List.Forall₂ (fun m v => v.1 = m.1 ∧ kind m.2 v.2) ms vs := by
  induction ms generalizing fuel vs with
  | nil => exact absurd rfl hne
  | cons m ms ih =>
    cases fuel with
    | zero => cases h
    | succ fuel =>
      have htail : ∀ m' ∈ ms, Name m'.1 := fun m' hm' => hnames m' (List.mem_cons_of_mem m hm')
      have hname := (hnames m List.mem_cons_self).1
      rw [membersText_cons] at h
      cases hvalue : value fuel (skip (m.2 ++ behindFirst ms)) with
      | none =>
        rw [members_none hname hvalue] at h
        cases h
      | some p =>
        obtain ⟨v, rest⟩ := p
        -- the text of the first value is read as a value of its kind, or the parser has gone beyond
        -- it
        rcases honly m List.mem_cons_self fuel _ v rest (follows_behindFirst htail) hvalue with
          ⟨rfl, hkind⟩ | ⟨c, l, hskip, hcomma, hbrace⟩
        · cases ms with
          | nil =>
            rw [members_brace hname hvalue (skip_cons (by decide) [])] at h
            obtain ⟨rfl, rfl⟩ := Prod.mk.inj (Option.some.inj h)
            exact .cons ⟨rfl, hkind⟩ .nil
          | cons m' ms =>
            have hstart : skip (membersText (m' :: ms) ++ [125]) = membersText (m' :: ms) ++ [125] := by
              rw [membersText_cons]
              exact skip_cons (by decide) _
            have hskip : skip (behindFirst (m' :: ms)) = 44 :: (membersText (m' :: ms) ++ [125]) :=
              skip_cons (by decide) _
            rw [members_comma hname hvalue hskip, hstart] at h
            obtain ⟨⟨vs', r'⟩, hmembers, heq⟩ := Option.map_eq_some_iff.mp h
            obtain ⟨rfl, rfl⟩ := Prod.mk.inj heq
            exact .cons ⟨rfl, hkind⟩ (ih htail (fun m hm => honly m (List.mem_cons_of_mem _ hm))
              (List.cons_ne_nil m' ms) hmembers)
        · -- the text would have to end behind this value
          by_cases hclosed : c = 125
          · subst hclosed
            rw [members_brace hname hvalue hskip] at h
            obtain ⟨-, rfl⟩ := Prod.mk.inj (Option.some.inj h)
            exact absurd hr (hbrace rfl)
          · rw [members_other hname hvalue hskip hcomma hclosed] at h
            cases h

/-! ## The texts of values -/

/-- A string, printed without escapes. -/
def stringText (s : Bytes) : Bytes := 34 :: s ++ [34]

/-- A printed string determines the string. -/
theorem stringText_inj {s t : Bytes} (h : stringText s = stringText t) : s = t :=
  List.append_cancel_right (List.cons.inj h).2

/-- A value that begins with a quote is a string, as far as it goes. -/
theorem value_stringText (fuel : Nat) (s tail : Bytes) :
    value (fuel + 1) (skip (stringText s ++ tail)) =
      (scanString ((s ++ 34 :: tail).length + 1) (s ++ 34 :: tail)).map
        fun p => (.string p.1, p.2) := by
  have hshape : stringText s ++ tail = 34 :: (s ++ 34 :: tail) := by simp [stringText]
  rw [hshape, skip_cons (by decide), value]

/-- A plain string is read back. -/
theorem reads_string {s : Bytes} (hs : Plain s) : Reads (stringText s) (.string s) := by
  intro fuel tail _
  have hroom : s.length < (s ++ 34 :: tail).length + 1 := by
    rw [List.length_append]
    omega
  rw [value_stringText, scanString_plain hs tail hroom]
  rfl

/-- A quote with no comma in front of it does not end well. -/
theorem dead_of_quote {e : Bytes} (he : 44 ∉ e) (t : Bytes) : Dead (e ++ 34 :: t) := by
  induction e with
  | nil => exact ⟨34, t, skip_cons (by decide) t, by decide, fun h => absurd h (by decide)⟩
  | cons c e ih =>
    obtain ⟨hc, he⟩ := not_or.mp (mt List.mem_cons.mpr he)
    by_cases hblank : Blank c
    · have h := ih he
      rwa [Dead, List.cons_append, skip_blank hblank]
    · refine ⟨c, e ++ 34 :: t, skip_cons hblank _, fun h => hc h.symm, fun _ => ?_⟩
      exact skip_ne_nil (c := 34) (by decide) (List.mem_append_right e List.mem_cons_self)

/-- What a string that goes on behind its text ends with does not end well. -/
theorem dead_of_late {tail q r : Bytes} {fuel : Nat} (htail : Follows tail)
    (h : scanString fuel tail = some (q, r)) : Dead r := by
  rcases htail with rfl | ⟨c, l, rfl, hblank, hcomma, hbrace⟩
  · -- there is no other quote
    rcases fuel with _ | _ | fuel
    · cases h
    · cases h
    · cases h
  · -- the quote that opens the next name closes the string
    rcases fuel with _ | _ | fuel
    · cases h
    · cases h
    · obtain ⟨-, rfl⟩ : _ ∧ c :: l = r := by simpa [scanString] using h
      exact ⟨c, l, skip_cons hblank l, hcomma, fun h => absurd h hbrace⟩

/-- **A string without a comma, printed without escapes**, is read as another one unless it is
    plain. -/
theorem only_string {s : Bytes} (hs : 44 ∉ s) :
    Only (stringText s) fun v => ∃ p, v = .string p ∧ (p = s → Plain s) := by
  intro fuel tail v r htail hvalue
  cases fuel with
  | zero => cases hvalue
  | succ fuel =>
    rw [value_stringText] at hvalue
    obtain ⟨⟨p, r'⟩, hscan, heq⟩ := Option.map_eq_some_iff.mp hvalue
    obtain ⟨rfl, rfl⟩ := Prod.mk.inj heq
    -- read to its end, or ended too early, or run over its closing quote
    rcases scanString_cases hscan with ⟨rfl, -, hplain⟩ | ⟨e, hsuffix, rfl⟩ | ⟨fuel', q, hlate⟩
    · exact .inl ⟨rfl, p, rfl, fun hp => hplain (congrArg List.length hp)⟩
    · exact .inr (dead_of_quote (fun hmem => hs (hsuffix.subset hmem)) tail)
    · exact .inr (dead_of_late htail hlate)

/-- The text of a number without an exponent. -/
def Decimal (s : Bytes) : Prop :=
  ∃ sign whole frac, s = sign ++ whole ++ frac ∧ (sign = [] ∨ sign = [45]) ∧
    (Whole whole ∧ ∀ c ∈ whole, isDigit c = true) ∧
    (frac = [] ∨ ∃ ds, frac = 46 :: ds ∧ ds ≠ [] ∧ ∀ c ∈ ds, isDigit c = true)

/-- What follows a member is no digit, -/
theorem Follows.noDigit {tail : Bytes} (h : Follows tail) : NoDigit tail := by
  rcases h with rfl | ⟨c, l, rfl, -⟩
  · rintro d ⟨⟩
    rfl
  · rintro d ⟨⟩
    rfl

/-- and begins no exponent. -/
theorem exponent_follows {tail : Bytes} (h : Follows tail) : exponent tail = some ([], tail) := by
  rcases h with rfl | ⟨c, l, rfl, -⟩ <;> rfl

/-- **The text of a number is read to its end.** -/
theorem number_decimal {s tail : Bytes} (hs : Decimal s) (htail : Follows tail) :
    number (s ++ tail) = some (s, tail) := by
  obtain ⟨sign, whole, frac, rfl, hsign, ⟨hwhole, hdigits⟩, hfrac⟩ := hs
  have hminus : minus (sign ++ whole ++ frac ++ tail) = (sign, whole ++ (frac ++ tail)) := by
    rcases hsign with rfl | rfl
    · obtain ⟨c, w, rfl⟩ := List.exists_cons_of_ne_nil hwhole.1
      have hc : c ≠ 45 := by
        rintro rfl
        exact absurd (hdigits 45 List.mem_cons_self) (by decide)
      simp only [List.nil_append, List.cons_append, List.append_assoc]
      unfold minus
      split
      · rename_i heq
        exact absurd (List.cons.inj heq).1 hc
      · rfl
    · simp [minus]
  have hnodigit : NoDigit (frac ++ tail) := by
    rcases hfrac with rfl | ⟨ds, rfl, -⟩
    · exact htail.noDigit
    · rintro d ⟨⟩
      rfl
  have hfraction : fraction (frac ++ tail) = some (frac, tail) := by
    rcases hfrac with rfl | ⟨ds, rfl, hne, hds⟩
    · rcases htail with rfl | ⟨c, l, rfl, -⟩ <;> rfl
    · obtain ⟨htake, hdrop⟩ := split_digits hds htail.noDigit
      rw [List.cons_append, fraction, htake, hdrop, if_neg hne]
  obtain ⟨htake, hdrop⟩ := split_digits hdigits hnodigit
  simp only [number, hminus, htake, hdrop, if_pos hwhole, hfraction, exponent_follows htail]
  simp

/-- Where no other value begins, a number does. -/
theorem value_number {c : UInt8} (hc : c = 45 ∨ isDigit c = true) (fuel : Nat) (l : Bytes) :
    value (fuel + 1) (c :: l) = (number (c :: l)).map fun p => (.number p.1, p.2) := by
  have hother : c ∉ [34, 123, 91, 116, 102, 110] := by
    rcases hc with rfl | hc
    · decide
    · intro hmem
      simp only [List.mem_cons, List.not_mem_nil, or_false] at hmem
      rcases hmem with rfl | rfl | rfl | rfl | rfl | rfl <;> exact absurd hc (by decide)
  unfold value
  split <;> simp_all

theorem reads_number {s : Bytes} (hs : Decimal s) : Reads s (.number s) := by
  intro fuel tail htail
  obtain ⟨c, l, rfl, hc⟩ : ∃ c l, s = c :: l ∧ (c = 45 ∨ isDigit c = true) := by
    obtain ⟨sign, whole, frac, rfl, hsign, ⟨hwhole, hdigits⟩, -⟩ := hs
    rcases hsign with rfl | rfl
    · obtain ⟨c, w, rfl⟩ := List.exists_cons_of_ne_nil hwhole.1
      exact ⟨c, w ++ frac, rfl, .inr (hdigits c List.mem_cons_self)⟩
    · exact ⟨45, whole ++ frac, rfl, .inl rfl⟩
  have hblank : ¬ Blank c := by
    rintro (rfl | rfl | rfl | rfl) <;> rcases hc with hc | hc <;> exact absurd hc (by decide)
  rw [List.cons_append, skip_cons hblank, value_number hc, ← List.cons_append,
    number_decimal hs htail]
  rfl

/-- What a number in decimal is written with. -/
theorem Decimal.chars {s : Bytes} (hs : Decimal s) :
    ∀ c ∈ s, isDigit c = true ∨ c = 45 ∨ c = 46 := by
  obtain ⟨sign, whole, frac, rfl, hsign, ⟨-, hdigits⟩, hfrac⟩ := hs
  intro c hc
  rcases List.mem_append.mp hc with hc | hc
  · rcases List.mem_append.mp hc with hc | hc
    · rcases hsign with rfl | rfl
      · exact absurd hc List.not_mem_nil
      · exact .inr (.inl (List.mem_singleton.mp hc))
    · exact .inl (hdigits c hc)
  · rcases hfrac with rfl | ⟨ds, rfl, -, hds⟩
    · exact absurd hc List.not_mem_nil
    · rcases List.mem_cons.mp hc with rfl | hc
      · exact .inr (.inr rfl)
      · exact .inl (hds c hc)

theorem Decimal.ascii {s : Bytes} (hs : Decimal s) : Ascii s := by
  intro c hc
  rcases hs.chars c hc with hdigit | rfl | rfl
  · simp only [isDigit, Bool.and_eq_true, decide_eq_true_eq] at hdigit
    exact Nat.lt_of_le_of_lt hdigit.2 (by decide)
  · decide
  · decide

/-- A number is not a string. -/
theorem Decimal.ne_stringText {s : Bytes} (h : Decimal (stringText s)) : False := by
  rcases h.chars 34 List.mem_cons_self with h | h | h <;> exact absurd h (by decide)

/-- A printed number that is not zero does not begin with a zero. -/
theorem head_natTextAux {fuel n : Nat} (hpos : 0 < n) (hfuel : n < fuel) :
    ∃ c l, natTextAux fuel n = c :: l ∧ c ≠ 48 := by
  induction fuel generalizing n with
  | zero => omega
  | succ fuel ih =>
    unfold natTextAux
    by_cases hn : n < 10
    · have hdigit : ∀ d < 10, 0 < d → UInt8.ofNat (48 + d) ≠ 48 := by decide
      rw [if_pos hn]
      exact ⟨_, [], rfl, hdigit n hn hpos⟩
    · obtain ⟨c, l, hhead, hc⟩ := ih (n := n / 10) (by omega) (by omega)
      rw [if_neg hn, hhead]
      exact ⟨c, _, rfl, hc⟩

theorem whole_natText (n : Nat) : Whole (natText n) := by
  refine ⟨natText_ne_nil n, fun hhead => ?_⟩
  rcases Nat.eq_zero_or_pos n with rfl | hpos
  · rfl
  · obtain ⟨c, l, htext, hc⟩ := head_natTextAux hpos (Nat.lt_succ_self n)
    rw [natText, htext] at hhead
    exact absurd (Option.some.inj hhead) hc

theorem intText_whole (i : Int) : ∃ sign whole, intText i = sign ++ whole ∧
    (sign = [] ∨ sign = [45]) ∧ Whole whole ∧ ∀ c ∈ whole, isDigit c = true := by
  have hwhole := whole_natText i.natAbs
  have hdigits := natText_digits i.natAbs
  by_cases hneg : i < 0
  · exact ⟨[45], natText i.natAbs, if_pos hneg, .inr rfl, hwhole, hdigits⟩
  · exact ⟨[], natText i.natAbs, if_neg hneg, .inl rfl, hwhole, hdigits⟩

theorem decimal_intText (i : Int) : Decimal (intText i) := by
  obtain ⟨sign, whole, htext, hsign, hwhole⟩ := intText_whole i
  exact ⟨sign, whole, [], by rw [htext, List.append_nil], hsign, hwhole, .inl rfl⟩

/-- An integer with decimals behind it. -/
theorem decimal_point (i : Int) {ds : Bytes} (hne : ds ≠ []) (hds : ∀ c ∈ ds, isDigit c = true) :
    Decimal (intText i ++ 46 :: ds) := by
  obtain ⟨sign, whole, htext, hsign, hwhole⟩ := intText_whole i
  exact ⟨sign, whole, 46 :: ds, by rw [htext], hsign, hwhole, .inr ⟨ds, rfl, hne, hds⟩⟩

/-- A text is read as one value only. -/
theorem Reads.unique {x : Bytes} {v w : Value} (hv : Reads x v) (hw : Reads x w) : v = w := by
  have h := (hv 0 [125] (.inl rfl)).symm.trans (hw 0 [125] (.inl rfl))
  exact (Prod.mk.inj (Option.some.inj h)).1

/-- What does not begin like any value is not read. -/
theorem only_of_none {x : Bytes} (h : ∀ fuel tail, value fuel (skip (x ++ tail)) = none)
    (kind : Value → Prop) : Only x kind := by
  intro fuel tail v r _ hvalue
  rw [h] at hvalue
  cases hvalue

/-! ## The text of an object -/

/-- An object, printed without white space. -/
def objectText (ms : List (Bytes × Bytes)) : Bytes := 123 :: (membersText ms ++ [125])

theorem utf8_stringText {s : Bytes} : Utf8 (stringText s) ↔ Utf8 s := by
  have hopen : Ascii [34] := by decide
  have hclose := utf8_append_cons (c := 34) (by decide) s []
  exact (hopen.utf8_append (s ++ [34])).trans (hclose.trans (and_iff_left utf8_nil))

theorem utf8_membersText {ms : List (Bytes × Bytes)} (hne : ms ≠ [])
    (hnames : ∀ m ∈ ms, Ascii m.1) : Utf8 (membersText ms ++ [125]) ↔ ∀ m ∈ ms, Utf8 m.2 := by
  induction ms with
  | nil => exact absurd rfl hne
  | cons m ms ih =>
    have hfront : Ascii (34 :: (m.1 ++ [34, 58])) := by
      refine List.forall_mem_cons.mpr ⟨by decide, fun c hc => ?_⟩
      rcases List.mem_append.mp hc with hc | hc
      · exact hnames m List.mem_cons_self c hc
      · exact (by decide : Ascii [34, 58]) c hc
    have hshape : membersText (m :: ms) ++ [125]
        = 34 :: (m.1 ++ [34, 58]) ++ (m.2 ++ behindFirst ms) := by
      rw [membersText_cons]
      simp
    rw [hshape, hfront.utf8_append, List.forall_mem_cons]
    cases ms with
    | nil =>
      have hvalue := utf8_append_cons (c := 125) (by decide) m.2 []
      rw [behindFirst, hvalue]
      simp [utf8_nil]
    | cons m' ms =>
      have hvalue := utf8_append_cons (c := 44) (by decide) m.2 (membersText (m' :: ms) ++ [125])
      rw [behindFirst, List.cons_append, hvalue,
        ih (List.cons_ne_nil m' ms) fun m hm => hnames m (List.mem_cons_of_mem _ hm)]

theorem length_membersText (ms : List (Bytes × Bytes)) : ms.length ≤ (membersText ms).length := by
  induction ms with
  | nil => exact Nat.le_refl 0
  | cons m ms ih =>
    have hfirst : 0 < (memberText m).length := by simp [memberText]
    cases ms with
    | nil =>
      show 1 ≤ (memberText m).length
      omega
    | cons m' ms =>
      have hlen : (membersText (m :: m' :: ms)).length
          = (memberText m).length + (membersText (m' :: ms)).length + 1 := by
        simp only [membersText, List.length_append, List.length_cons]
        omega
      simp only [List.length_cons] at ih ⊢
      omega

/-- The object behind its opening brace. -/
theorem value_objectText (fuel : Nat) {ms : List (Bytes × Bytes)} (hne : ms ≠ []) :
    value (fuel + 1) (skip (objectText ms)) =
      (members fuel (membersText ms ++ [125])).map fun p => (.object p.1, p.2) := by
  obtain ⟨m, ms, rfl⟩ := List.exists_cons_of_ne_nil hne
  have hfirst : skip (34 :: (m.1 ++ 34 :: 58 :: (m.2 ++ behindFirst ms)))
      = 34 :: (m.1 ++ 34 :: 58 :: (m.2 ++ behindFirst ms)) := skip_cons (by decide) _
  rw [objectText, skip_cons (by decide), value]
  simp only [membersText_cons, hfirst]
  rfl

/-- **An object whose values are read is read.** -/
theorem parse_objectText {ms : List (Bytes × Bytes)} {vs : List (Bytes × Value)} (hne : ms ≠ [])
    (hnames : ∀ m ∈ ms, Name m.1 ∧ Ascii m.1) (hutf8 : ∀ m ∈ ms, Utf8 m.2)
    (hreads : List.Forall₂ (fun m v => v.1 = m.1 ∧ Reads m.2 v.2) ms vs) :
    parse (objectText ms) = some (.object vs) := by
  have htext : Utf8 (objectText ms) := by
    have hbrace : Ascii [123] := by decide
    exact (hbrace.utf8_append _).mpr
      ((utf8_membersText hne fun m hm => (hnames m hm).2).mpr hutf8)
  have hlen : ms.length < (objectText ms).length := by
    have := length_membersText ms
    simp only [objectText, List.length_cons, List.length_append, List.length_nil]
    omega
  have hmembers := members_read hne (fun m hm => (hnames m hm).1) hlen hreads
  rw [parse, if_pos htext, value_objectText _ hne, hmembers]
  rfl

/-- **An object that is read at all is read member by member.** -/
theorem parse_only {ms : List (Bytes × Bytes)} {v : Value} {kind : Bytes → Value → Prop}
    (hne : ms ≠ []) (hnames : ∀ m ∈ ms, Name m.1 ∧ Ascii m.1)
    (honly : ∀ m ∈ ms, Only m.2 (kind m.2)) (h : parse (objectText ms) = some v) :
    (∀ m ∈ ms, Utf8 m.2) ∧
      ∃ vs, v = .object vs ∧ List.Forall₂ (fun m v => v.1 = m.1 ∧ kind m.2 v.2) ms vs := by
  by_cases htext : Utf8 (objectText ms)
  · have hbrace : Ascii [123] := by decide
    have hutf8 := (utf8_membersText hne fun m hm => (hnames m hm).2).mp
      ((hbrace.utf8_append _).mp htext)
    rw [parse, if_pos htext, value_objectText _ hne] at h
    cases hmembers : members (objectText ms).length (membersText ms ++ [125]) with
    | none => simp [hmembers] at h
    | some p =>
      obtain ⟨vs, r⟩ := p
      simp only [hmembers, Option.map_some] at h
      by_cases hr : skip r = []
      · rw [if_pos hr] at h
        obtain rfl := Option.some.inj h
        exact ⟨hutf8, vs, rfl, members_only (fun m hm => (hnames m hm).1) honly hne hmembers hr⟩
      · rw [if_neg hr] at h
        cases h
  · rw [parse, if_neg htext] at h
    cases h

/-- The values that texts are read as, one by one. -/
theorem exists_values {ms : List (Bytes × Bytes)} (h : ∀ m ∈ ms, ∃ v, Reads m.2 v) :
    ∃ vs : List (Bytes × Value), List.Forall₂ (fun m v => v.1 = m.1 ∧ Reads m.2 v.2) ms vs := by
  induction ms with
  | nil => exact ⟨[], .nil⟩
  | cons m ms ih =>
    obtain ⟨v, hv⟩ := h m List.mem_cons_self
    obtain ⟨vs, hvs⟩ := ih fun m' hm' => h m' (List.mem_cons_of_mem m hm')
    exact ⟨(m.1, v) :: vs, .cons ⟨rfl, hv⟩ hvs⟩

/-- The member of a name, in the texts and in the object they are read as. -/
theorem lookup_of_forall₂ {R : Bytes → Value → Prop} {ms : List (Bytes × Bytes)}
    {vs : List (Bytes × Value)} (h : List.Forall₂ (fun m v => v.1 = m.1 ∧ R m.2 v.2) ms vs)
    {name x : Bytes} (hx : ms.lookup name = some x) : ∃ v, vs.lookup name = some v ∧ R x v := by
  induction h with
  | nil => cases hx
  | @cons m v ms vs hfirst _ ih =>
    obtain ⟨a, w⟩ := v
    obtain ⟨rfl, hR⟩ : a = m.1 ∧ R m.2 w := hfirst
    rw [List.lookup_cons] at hx ⊢
    split at hx
    · obtain rfl := Option.some.inj hx
      exact ⟨w, by simp, hR⟩
    · rename_i heq
      simpa [heq] using ih hx

theorem exists_of_forall₂ {R : Bytes → Value → Prop} {ms : List (Bytes × Bytes)}
    {vs : List (Bytes × Value)} (h : List.Forall₂ (fun m v => v.1 = m.1 ∧ R m.2 v.2) ms vs) :
    ∀ m ∈ ms, ∃ v, R m.2 v := by
  induction h with
  | nil => exact fun m hm => absurd hm List.not_mem_nil
  | cons hfirst _ ih => exact List.forall_mem_cons.mpr ⟨⟨_, hfirst.2⟩, ih⟩

theorem mem_of_lookup {ms : List (Bytes × Bytes)} {key x : Bytes} (h : ms.lookup key = some x) :
    ∃ m ∈ ms, m.2 = x := by
  induction ms with
  | nil => cases h
  | cons m ms ih =>
    rw [List.lookup_cons] at h
    split at h
    · exact ⟨m, List.mem_cons_self, Option.some.inj h⟩
    · obtain ⟨m', hm', hx⟩ := ih h
      exact ⟨m', List.mem_cons_of_mem m hm', hx⟩

end Json
