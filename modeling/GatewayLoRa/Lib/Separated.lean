/-
  What a scan reads, in terms of the TEXT alone, and what it leaves alone in the store.

  1. **Matching.**  `formatMatches ds inp` says that every conversion of the format can be made on
     the text.  It does not mention a store, and `sscanf_eq_conversions_iff` says that it is exactly
     the condition under which `sscanf` returns the number of conversions.

  2. **Frames.**  A directive `Keeps` a part of the store if none of its stores touches it.  A scan
     whose directives keep a part keeps it (`sscanf_keeps`), complete or not.

  3. **Fields between commas.**  In a format `%a,%b,...` whose conversions never read past a comma,
     the conversion at a position sees exactly the piece of the text at that position
     (`piece_of_complete`, and `conversion_at` for the last one too): what an index into
     `splitOn ','` would find.  What was stored is what the piece spells (`int_of_piece`,
     `field_of_piece`, and `int_scanned`, `float_scanned` for any position).

  4. **Two stores.**  Two formats that differ only in where they store make the same conversions
     (`sscanf_map`).

  The crux is `Directive.Local`: a conversion that is given a text with a comma reads what it would
  read of the piece in front of that comma.  Scanning is greedy and knows no fields; it is this
  property, together with the commas of the format itself, that makes fields out of a text.  A scan
  that stops early may leave a conversion in the middle of a piece, which is why the statements
  about pieces ask for a complete scan.
-/

import Mathlib.Data.List.Forall2
import Mathlib.Data.List.TakeWhile
import GatewayLoRa.Lib.Stdio

namespace Stdio

open CMemory

variable {φ σ α : Type} {strtof : Bytes → Option (φ × Bytes)}

/-! ## Matching

  Whether a scan is complete is a matter of the text: no conversion looks at what an earlier one has
  stored. -/

/-- What a directive leaves of the input, if it matches. -/
def Directive.rest (strtof : Bytes → Option (φ × Bytes)) : Directive φ σ → Bytes → Option Bytes
  | text s, inp => if s <+: inp then some (inp.drop s.length) else none
  | int bits _, inp => (scanInt bits inp).map Prod.snd
  | field width stop _, inp =>
      let x := (inp.take width).takeWhile (· != stop)
      if x = [] then none else some (inp.drop x.length)
  | float _, inp => (strtof (inp.dropWhile isSpace)).map Prod.snd

/-- **Every conversion of the format can be made on the text.** Literal text behind the last
    conversion does not count: a scan that does not match it has made all its conversions. -/
def formatMatches (strtof : Bytes → Option (φ × Bytes)) : List (Directive φ σ) → Bytes → Bool
  | [], _ => true
  | d :: ds, inp =>
      conversions (d :: ds) == 0 ||
        match d.rest strtof inp with
        | none => false
        | some rest => formatMatches strtof ds rest

/-- A directive matches where its text does, whatever the store. -/
theorem Directive.run_eq_none_iff {d : Directive φ σ} {inp : Bytes} {st : σ} :
    d.run strtof inp st = none ↔ d.rest strtof inp = none := by
  cases d with
  | text s => by_cases h : s <+: inp <;> simp [run, rest, h]
  | int bits store => simp [run, rest]
  | field width stop store =>
    by_cases h : (inp.take width).takeWhile (· != stop) = [] <;> simp [run, rest, h]
  | float store => simp [run, rest]

/-- What a directive makes of a store: a text nothing, a conversion one of its stores. -/
def Directive.Stored : Directive φ σ → σ → σ → Prop
  | text _, st, st' => st' = st
  | int _ store, st, st' => ∃ v, st' = store v st
  | field _ _ store, st, st' => ∃ x, st' = store x st
  | float store, st, st' => ∃ v, st' = store v st

/-- What a run of a directive tells: the rest and the count come from the text, the store from the
    stores. -/
theorem Directive.of_run {d : Directive φ σ} {inp rest : Bytes} {n : Nat} {st st' : σ}
    (h : d.run strtof inp st = some (rest, n, st')) :
    d.rest strtof inp = some rest ∧ n = conversions [d] ∧ d.Stored st st' := by
  cases d with
  | text s =>
    by_cases hs : s <+: inp
    · rw [run, if_pos hs] at h
      obtain ⟨rfl, rfl, rfl⟩ : inp.drop s.length = rest ∧ 0 = n ∧ st = st' := by simpa using h
      exact ⟨if_pos hs, rfl, rfl⟩
    · rw [run, if_neg hs] at h
      cases h
  | int bits store =>
    obtain ⟨p, hp, hrest⟩ := Option.map_eq_some_iff.mp h
    obtain ⟨rfl, rfl, rfl⟩ : p.2 = rest ∧ 1 = n ∧ store p.1 st = st' := by simpa using hrest
    exact ⟨by rw [Directive.rest, hp]; rfl, rfl, p.1, rfl⟩
  | field width stop store =>
    by_cases hx : (inp.take width).takeWhile (· != stop) = []
    · simp [run, hx] at h
    · simp only [run, if_neg hx] at h
      obtain ⟨rfl, rfl, rfl⟩ : inp.drop _ = rest ∧ 1 = n ∧ store _ st = st' := by simpa using h
      exact ⟨if_neg hx, rfl, _, rfl⟩
  | float store =>
    obtain ⟨p, hp, hrest⟩ := Option.map_eq_some_iff.mp h
    obtain ⟨rfl, rfl, rfl⟩ : p.2 = rest ∧ 1 = n ∧ store p.1 st = st' := by simpa using hrest
    exact ⟨by rw [Directive.rest, hp]; rfl, rfl, p.1, rfl⟩

/-- **A scan is complete if and only if the text matches the format.** -/
theorem sscanf_eq_conversions_iff {ds : List (Directive φ σ)} {inp : Bytes} {st : σ} :
    (sscanf strtof ds inp st).1 = conversions ds ↔ formatMatches strtof ds inp = true := by
  induction ds generalizing inp st with
  | nil => exact ⟨fun _ => rfl, fun _ => rfl⟩
  | cons d ds ih =>
    have hcons := conversions_cons d ds
    rw [formatMatches, Bool.or_eq_true, beq_iff_eq]
    cases hrun : d.run strtof inp st with
    | none =>
      rw [Directive.run_eq_none_iff.mp hrun]
      simp only [sscanf, hrun, Bool.false_eq_true, or_false]
      exact eq_comm
    | some res =>
      obtain ⟨rest, n, st'⟩ := res
      obtain ⟨hrest, rfl, -⟩ := Directive.of_run hrun
      have hle : (sscanf strtof ds rest st').1 ≤ conversions ds := sscanf_le ds rest st'
      have ih : (sscanf strtof ds rest st').1 = conversions ds ↔ formatMatches strtof ds rest = true :=
        ih
      simp only [sscanf, hrun, hrest]
      constructor
      · intro h
        exact Or.inr (ih.mp (by omega))
      · rintro (hzero | hmatch)
        · omega
        · have := ih.mpr hmatch
          omega

/-! ## Frames

  A part of the store is any function of it.  What no directive of a format stores into is what it
  was, even where the scan breaks off. -/

/-- No store of the directive touches the part `f` of the store. -/
def Directive.Keeps (f : σ → α) : Directive φ σ → Prop
  | text _ => True
  | int _ store => ∀ v st, f (store v st) = f st
  | field _ _ store => ∀ x st, f (store x st) = f st
  | float store => ∀ v st, f (store v st) = f st

/-- What a directive leaves alone is the same behind it. -/
theorem Directive.Keeps.of_stored {f : σ → α} {d : Directive φ σ} (hkeeps : d.Keeps f) {st st' : σ}
    (h : d.Stored st st') : f st' = f st := by
  cases d with
  | text s => exact congrArg f h
  | int bits store =>
    obtain ⟨v, rfl⟩ := h
    exact hkeeps v st
  | field width stop store =>
    obtain ⟨x, rfl⟩ := h
    exact hkeeps x st
  | float store =>
    obtain ⟨v, rfl⟩ := h
    exact hkeeps v st

/-- **A scan keeps what its directives keep**, wherever it stops. -/
theorem sscanf_keeps {f : σ → α} {ds : List (Directive φ σ)} (h : ∀ d ∈ ds, d.Keeps f)
    (inp : Bytes) (st : σ) : f (sscanf strtof ds inp st).2 = f st := by
  induction ds generalizing inp st with
  | nil => rfl
  | cons d ds ih =>
    cases hrun : d.run strtof inp st with
    | none => simp only [sscanf, hrun]
    | some res =>
      obtain ⟨rest, n, st'⟩ := res
      simp only [sscanf, hrun]
      rw [ih (fun d' hd' => h d' (List.mem_cons_of_mem d hd'))]
      exact (h d List.mem_cons_self).of_stored (Directive.of_run hrun).2.2

/-! ## One directive at a time -/

/-- A scan that converts something gets past its first text. -/
theorem sscanf_text {s : Bytes} {ds : List (Directive φ σ)} {inp : Bytes} {st : σ}
    (h : (sscanf strtof (.text s :: ds) inp st).1 ≠ 0) :
    ∃ rest, inp = s ++ rest ∧
      sscanf strtof (.text s :: ds) inp st = sscanf strtof ds rest st := by
  by_cases hs : s <+: inp
  · obtain ⟨rest, rfl⟩ := hs
    refine ⟨rest, rfl, ?_⟩
    rw [sscanf, Directive.run, if_pos (List.prefix_append s rest)]
    simp
  · rw [sscanf, Directive.run, if_neg hs] at h
    exact absurd rfl h

/-- One that converts something reads its first field up to the stop or the width. -/
theorem sscanf_field {width : Nat} {stop : UInt8} {store : Bytes → σ → σ}
    {ds : List (Directive φ σ)} {inp : Bytes} {st : σ}
    (h : (sscanf strtof (.field width stop store :: ds) inp st).1 ≠ 0) :
    ∃ x rest, inp = x ++ rest ∧ stop ∉ x ∧
      sscanf strtof (.field width stop store :: ds) inp st =
        ((sscanf strtof ds rest (store x st)).1 + 1, (sscanf strtof ds rest (store x st)).2) := by
  let x := (inp.take width).takeWhile (· != stop)
  have hprefix : x <+: inp := (List.takeWhile_prefix _).trans (List.take_prefix width inp)
  by_cases hx : x = []
  · rw [sscanf, Directive.run, if_pos hx] at h
    exact absurd rfl h
  · refine ⟨x, inp.drop x.length, ?_, ?_, ?_⟩
    · exact (List.prefix_iff_eq_append.mp hprefix).symm
    · intro hmem
      have := List.mem_takeWhile_imp hmem
      simp at this
    · rw [sscanf, Directive.run, if_neg hx]

/-- One that converts something reads its first integer. -/
theorem sscanf_int {bits : Nat} {store : Int → σ → σ} {ds : List (Directive φ σ)} {inp : Bytes}
    {st : σ} (h : (sscanf strtof (.int bits store :: ds) inp st).1 ≠ 0) :
    ∃ v rest, scanInt bits inp = some (v, rest) ∧
      sscanf strtof (.int bits store :: ds) inp st =
        ((sscanf strtof ds rest (store v st)).1 + 1, (sscanf strtof ds rest (store v st)).2) := by
  cases hscan : scanInt bits inp with
  | none =>
    rw [sscanf, Directive.run, hscan] at h
    exact absurd rfl h
  | some p =>
    refine ⟨p.1, p.2, rfl, ?_⟩
    rw [sscanf, Directive.run, hscan]
    rfl

/-! ## Fields between commas -/

/-- A format of conversions with a comma between any two. -/
def separate : List (Directive φ σ) → List (Directive φ σ)
  | [] => []
  | [d] => [d]
  | d :: ds => d :: .text [44] :: separate ds

/-- The conversion sees no further than the next comma: what it reads up to one, it reads of the
    piece before it, to the end. -/
def Directive.UpToComma (strtof : Bytes → Option (φ × Bytes)) (d : Directive φ σ) : Prop :=
  conversions [d] = 1 ∧
    ∀ (inp rest : Bytes) (n : Nat) (st st' : σ),
      d.run strtof inp st = some (44 :: rest, n, st') →
      ∃ piece, inp = piece ++ 44 :: rest ∧ 44 ∉ piece ∧
        d.run strtof piece st = some ([], n, st')

/-- What stands in such a format is one of its conversions, or a comma. -/
theorem mem_separate {ds : List (Directive φ σ)} {d : Directive φ σ} (h : d ∈ separate ds) :
    d ∈ ds ∨ d = .text [44] := by
  induction ds using separate.induct with
  | case1 => exact absurd h List.not_mem_nil
  | case2 e => exact Or.inl h
  | case3 e ds hne ih =>
    rw [separate, List.mem_cons, List.mem_cons] at h
    · rcases h with rfl | rfl | h
      · exact Or.inl List.mem_cons_self
      · exact Or.inr rfl
      · exact (ih h).imp_left (List.mem_cons_of_mem e)
    · exact hne

/-- Commas store nothing. -/
theorem separate_keeps {ds : List (Directive φ σ)} {f : σ → α} (h : ∀ d ∈ ds, d.Keeps f) :
    ∀ d ∈ separate ds, d.Keeps f := by
  intro d hd
  rcases mem_separate hd with hd | rfl
  · exact h d hd
  · trivial

/-- Such a format has a conversion to make. -/
theorem conversions_separate_pos {d : Directive φ σ} (ds : List (Directive φ σ))
    (h : conversions [d] = 1) : 0 < conversions (separate (d :: ds)) := by
  have hd : 0 < conversions (separate [d]) := by
    show 0 < conversions [d]
    omega
  cases ds with
  | nil => exact hd
  | cons e es =>
    show 0 < conversions (d :: .text [44] :: separate (e :: es))
    rw [conversions_cons]
    omega

/-- The first field of a complete scan ends at a comma, and the scan goes on behind it. -/
theorem first_piece {e e' : Directive φ σ} {es : List (Directive φ σ)} {inp : Bytes} {st : σ}
    (he : e.UpToComma strtof) (he' : e'.UpToComma strtof)
    (hfull : (sscanf strtof (separate (e :: e' :: es)) inp st).1
      = conversions (separate (e :: e' :: es))) :
    ∃ piece rest st', inp = piece ++ 44 :: rest ∧ 44 ∉ piece ∧
      e.run strtof piece st = some ([], 1, st') ∧
      (sscanf strtof (separate (e' :: es)) rest st').1 = conversions (separate (e' :: es)) ∧
      (sscanf strtof (separate (e :: e' :: es)) inp st).2
        = (sscanf strtof (separate (e' :: es)) rest st').2 := by
  have hsep : separate (e :: e' :: es) = e :: .text [44] :: separate (e' :: es) := rfl
  have hpos := conversions_separate_pos es he'.1
  have hcount : conversions (e :: .text [44] :: separate (e' :: es))
      = conversions (separate (e' :: es)) + 1 := by
    rw [conversions_cons, he.1]
    rfl
  rw [hsep] at hfull ⊢
  rw [hcount] at hfull
  cases hrun : e.run strtof inp st with
  | none =>
    simp only [sscanf, hrun] at hfull
    omega
  | some res =>
    obtain ⟨rest, n, st'⟩ := res
    obtain ⟨-, rfl, -⟩ := Directive.of_run hrun
    rw [he.1] at hrun
    cases rest with
    | nil =>
      -- the text ends where the comma should be
      have hno : (Directive.text [44] : Directive φ σ).run strtof [] st' = none := by
        rw [Directive.run, if_neg (by simp)]
      simp only [sscanf, hrun, hno] at hfull
      omega
    | cons c rest =>
      by_cases hc : c = 44
      · subst hc
        obtain ⟨piece, hinp, hfree, hpiece⟩ := he.2 inp rest 1 st st' hrun
        have hcomma : (Directive.text [44] : Directive φ σ).run strtof (44 :: rest) st'
            = some (rest, 0, st') := by
          rw [Directive.run, if_pos (by simp)]
          rfl
        simp only [sscanf, hrun, hcomma] at hfull ⊢
        exact ⟨piece, rest, st', hinp, hfree, hpiece, by omega, rfl⟩
      · have hno : (Directive.text [44] : Directive φ σ).run strtof (c :: rest) st' = none := by
          rw [Directive.run, if_neg]
          intro hpre
          exact hc (List.cons_prefix_cons.mp hpre).1.symm
        simp only [sscanf, hrun, hno] at hfull
        omega

/-- **A conversion of a complete scan sees the piece at its position**, and what it stored into a
    part that the later ones keep is there in the end. -/
theorem piece_of_complete {ds : List (Directive φ σ)} (hds : ∀ d ∈ ds, d.UpToComma strtof)
    {inp : Bytes} {st : σ}
    (hfull : (sscanf strtof (separate ds) inp st).1 = conversions (separate ds))
    {i : Nat} {d : Directive φ σ} (hi : ds[i]? = some d) (hlast : i + 1 < ds.length) {f : σ → α}
    (hkeeps : ∀ d' ∈ ds.drop (i + 1), d'.Keeps f) :
    ∃ piece st₁ st₂, (inp.splitOn 44)[i]? = some piece ∧
      d.run strtof piece st₁ = some ([], 1, st₂) ∧
      f (sscanf strtof (separate ds) inp st).2 = f st₂ := by
  induction ds generalizing inp st i with
  | nil => simp at hi
  | cons e ds ih =>
    obtain ⟨e', es, rfl⟩ : ∃ e' es, ds = e' :: es := by
      cases ds with
      | nil => simp at hlast
      | cons e' es => exact ⟨e', es, rfl⟩
    obtain ⟨piece, rest, st', rfl, hfree, hrun, hrest, hstore⟩ :=
      first_piece (hds e List.mem_cons_self) (hds e' (by simp)) hfull
    rw [hstore, List.splitOn_append_cons_self_of_not_mem hfree]
    cases i with
    | zero =>
      obtain rfl : e = d := by simpa using hi
      refine ⟨piece, st, st', rfl, hrun, ?_⟩
      exact sscanf_keeps (separate_keeps (by simpa using hkeeps)) rest st'
    | succ i =>
      exact ih (fun d' hd' => hds d' (List.mem_cons_of_mem e hd')) hrest (by simpa using hi)
        (by simpa using hlast) (by simpa using hkeeps)

/-! ## Conversions that stop at a comma -/

theorem takeWhile_stop {p : UInt8 → Bool} {c : UInt8} (hc : p c = false) (x tail : Bytes) :
    (x ++ c :: tail).takeWhile p = x.takeWhile p := by
  induction x with
  | nil => rw [List.nil_append, List.takeWhile_cons, hc, List.takeWhile_nil]; rfl
  | cons a x ih => rw [List.cons_append, List.takeWhile_cons, List.takeWhile_cons, ih]

theorem dropWhile_stop {p : UInt8 → Bool} {c : UInt8} (hc : p c = false) (x tail : Bytes) :
    (x ++ c :: tail).dropWhile p = x.dropWhile p ++ c :: tail := by
  induction x with
  | nil => rw [List.nil_append, List.dropWhile_cons, hc]; rfl
  | cons a x ih =>
    rw [List.cons_append, List.dropWhile_cons, List.dropWhile_cons, ih]
    split <;> rfl

theorem sign_comma (x tail : Bytes) :
    sign (x ++ 44 :: tail) = ((sign x).1, (sign x).2 ++ 44 :: tail) := by
  cases x with
  | nil => rfl
  | cons a x =>
    by_cases hplus : a = 43
    · subst hplus
      rfl
    · by_cases hminus : a = 45
      · subst hminus
        rfl
      · have hsign : ∀ t, sign (a :: t) = (false, a :: t) := by
          intro t
          unfold sign
          split
          · rename_i heq
            exact absurd (List.cons.inj heq).1 hplus
          · rename_i heq
            exact absurd (List.cons.inj heq).1 hminus
          · rfl
        rw [List.cons_append, hsign, hsign]
        rfl

/-- What stands behind a sign ends the text. -/
theorem sign_suffix (x : Bytes) : (sign x).2 <:+ x := by
  unfold sign
  split
  · exact List.suffix_cons _ _
  · exact List.suffix_cons _ _
  · exact List.suffix_rfl

/-- A comma ends a number. -/
theorem scanInt_comma (bits : Nat) (x tail : Bytes) :
    scanInt bits (x ++ 44 :: tail)
      = (scanInt bits x).map fun p => (p.1, p.2 ++ 44 :: tail) := by
  unfold scanInt
  simp only [dropWhile_stop (show isSpace 44 = false from rfl), sign_comma,
    takeWhile_stop (show isDigit 44 = false from rfl),
    dropWhile_stop (show isDigit 44 = false from rfl)]
  split <;> rfl

/-- What an integer leaves ends the text. -/
theorem scanInt_suffix {bits : Nat} {x rest : Bytes} {v : Int}
    (h : scanInt bits x = some (v, rest)) : rest <:+ x := by
  unfold scanInt at h
  dsimp only at h
  split at h
  · cases h
  · obtain ⟨-, rfl⟩ := Prod.mk.inj (Option.some.inj h)
    exact (List.dropWhile_suffix _).trans ((sign_suffix _).trans (List.dropWhile_suffix _))

/-- The conversion reads the same with a comma behind, and leaves a part of the text. -/
structure Directive.Local (strtof : Bytes → Option (φ × Bytes)) (d : Directive φ σ) : Prop where
  one : conversions [d] = 1
  comma : ∀ (x tail : Bytes) (st : σ), 44 ∉ x →
    d.run strtof (x ++ 44 :: tail) st
      = (d.run strtof x st).map fun r => (r.1 ++ 44 :: tail, r.2)
  suffix : ∀ (inp rest : Bytes) (n : Nat) (st st' : σ),
    d.run strtof inp st = some (rest, n, st') → rest <:+ inp

/-- A local conversion that stops at a comma has read the whole piece before it. -/
theorem Directive.Local.upToComma {d : Directive φ σ} (h : d.Local strtof) :
    d.UpToComma strtof := by
  refine ⟨h.one, ?_⟩
  intro inp rest n st st' hrun
  have hmem : (44 : UInt8) ∈ inp :=
    (h.suffix inp _ n st st' hrun).subset List.mem_cons_self
  -- split at the first comma: what is left of the piece before it must be nothing
  obtain ⟨x, tail, rfl, hx⟩ := List.eq_append_cons_of_mem hmem
  rw [h.comma x tail st hx] at hrun
  obtain ⟨⟨left, m, st''⟩, hx', heq⟩ := Option.map_eq_some_iff.mp hrun
  obtain ⟨hleft, rfl, rfl⟩ : left ++ 44 :: tail = 44 :: rest ∧ m = n ∧ st'' = st' := by
    simpa using heq
  have hnil : left = [] := by
    cases left with
    | nil => rfl
    | cons c left =>
      obtain ⟨rfl, -⟩ := List.cons.inj hleft
      exact absurd ((h.suffix x _ m st st'' hx').subset List.mem_cons_self) hx
  subst hnil
  obtain rfl : tail = rest := (List.cons.inj hleft).2
  exact ⟨x, rfl, hx, hx'⟩

/-- The integer conversion is local: a comma is no digit, -/
theorem int_local (bits : Nat) (store : Int → σ → σ) :
    (Directive.int bits store : Directive φ σ).Local strtof where
  one := rfl
  comma x tail st _ := by
    rw [Directive.run, Directive.run, scanInt_comma]
    cases scanInt bits x <;> rfl
  suffix inp rest n st st' h := by
    obtain ⟨⟨v, left⟩, hscan, heq⟩ := Option.map_eq_some_iff.mp h
    obtain ⟨rfl, -⟩ : left = rest ∧ _ := by simpa using heq
    exact scanInt_suffix hscan

/-- and so is the string conversion up to a comma, whether the width or the comma ends it. -/
theorem field_local (width : Nat) (store : Bytes → σ → σ) :
    (Directive.field width 44 store : Directive φ σ).Local strtof where
  one := rfl
  comma x tail st hx := by
    have hall : ∀ k, (x.take k).takeWhile (· != 44) = x.take k := fun k =>
      List.takeWhile_eq_self_iff.mpr fun c hc =>
        bne_iff_ne.mpr fun h => hx (h ▸ List.mem_of_mem_take hc)
    have htake : ((x ++ 44 :: tail).take width).takeWhile (· != 44) = x.take width := by
      rw [List.take_append]
      -- the width reaches behind the comma, or ends before it
      rcases Nat.lt_or_ge x.length width with hlt | hge
      · obtain ⟨k, hk⟩ : ∃ k, width - x.length = k + 1 := ⟨width - x.length - 1, by omega⟩
        rw [hk, List.take_succ_cons, takeWhile_stop (by decide), hall]
      · rw [Nat.sub_eq_zero_of_le hge, List.take_zero, List.append_nil, hall]
    have hdrop : (x ++ 44 :: tail).drop (x.take width).length
        = x.drop (x.take width).length ++ 44 :: tail := by
      rw [List.drop_append_of_le_length]
      rw [List.length_take]
      omega
    simp only [Directive.run, htake, hall, hdrop]
    split <;> rfl
  suffix inp rest n st st' h := by
    by_cases hx : (inp.take width).takeWhile (· != 44) = []
    · simp [Directive.run, hx] at h
    · simp only [Directive.run, if_neg hx] at h
      obtain ⟨rfl, -⟩ : inp.drop _ = rest ∧ _ := by simpa using h
      exact List.drop_suffix _ _

/-- A float conversion stops at a comma if `strtof` does. -/
theorem float_local (hcomma : ∀ x tail, 44 ∉ x →
      strtof (x ++ 44 :: tail) = (strtof x).map fun p => (p.1, p.2 ++ 44 :: tail))
    (hsuffix : ∀ s v rest, strtof s = some (v, rest) → rest <:+ s) (store : φ → σ → σ) :
    (Directive.float store : Directive φ σ).Local strtof where
  one := rfl
  comma x tail st hx := by
    have hdrop : 44 ∉ x.dropWhile isSpace := fun h => hx ((List.dropWhile_suffix _).subset h)
    rw [Directive.run, Directive.run, dropWhile_stop (by rfl), hcomma _ _ hdrop]
    cases strtof (x.dropWhile isSpace) <;> rfl
  suffix inp rest n st st' h := by
    obtain ⟨⟨v, left⟩, hscan, heq⟩ := Option.map_eq_some_iff.mp h
    obtain ⟨rfl, -⟩ : left = rest ∧ _ := by simpa using heq
    exact (hsuffix _ v left hscan).trans (List.dropWhile_suffix _)

/-- The conversion at the front of a text sees its first piece. -/
theorem Directive.Local.first {d : Directive φ σ} (hd : d.Local strtof) {inp rest : Bytes} {n : Nat}
    {st st' : σ} (h : d.run strtof inp st = some (rest, n, st')) :
    ∃ piece left, (inp.splitOn 44)[0]? = some piece ∧
      d.run strtof piece st = some (left, n, st') := by
  by_cases hmem : 44 ∈ inp
  · obtain ⟨x, tail, rfl, hx⟩ := List.eq_append_cons_of_mem hmem
    rw [hd.comma x tail st hx] at h
    obtain ⟨⟨left, m, st''⟩, hrun, heq⟩ := Option.map_eq_some_iff.mp h
    obtain ⟨-, rfl, rfl⟩ : left ++ 44 :: tail = rest ∧ m = n ∧ st'' = st' := by simpa using heq
    rw [List.splitOn_append_cons_self_of_not_mem hx]
    exact ⟨x, left, rfl, hrun⟩
  · rw [List.splitOn_eq_singleton hmem]
    exact ⟨inp, rest, rfl, h⟩

/-- **A conversion of a complete scan sees the piece at its position**, the last one too; what is
    left of that is not looked at. -/
theorem conversion_at {ds : List (Directive φ σ)} (hds : ∀ d ∈ ds, d.Local strtof)
    {inp : Bytes} {st : σ}
    (hfull : (sscanf strtof (separate ds) inp st).1 = conversions (separate ds))
    {i : Nat} {d : Directive φ σ} (hi : ds[i]? = some d) {f : σ → α}
    (hkeeps : ∀ d' ∈ ds.drop (i + 1), d'.Keeps f) :
    ∃ piece left st₁ st₂, (inp.splitOn 44)[i]? = some piece ∧
      d.run strtof piece st₁ = some (left, 1, st₂) ∧
      f (sscanf strtof (separate ds) inp st).2 = f st₂ := by
  induction ds generalizing inp st i with
  | nil => simp at hi
  | cons e ds ih =>
    have he := hds e List.mem_cons_self
    -- the last conversion has no comma behind it: it sees the first piece of what is left
    cases ds with
    | nil =>
      obtain ⟨rfl, rfl⟩ : i = 0 ∧ e = d := by
        cases i with
        | zero => exact ⟨rfl, by simpa using hi⟩
        | succ i => simp at hi
      have hsep : separate [e] = [e] := rfl
      rw [hsep, he.one] at hfull
      rw [hsep]
      cases hrun : e.run strtof inp st with
      | none =>
        simp only [sscanf, hrun] at hfull
        omega
      | some res =>
        obtain ⟨rest, n, st'⟩ := res
        obtain ⟨-, rfl, -⟩ := Directive.of_run hrun
        rw [he.one] at hrun
        obtain ⟨piece, left, hpiece, hread⟩ := he.first hrun
        refine ⟨piece, left, st, st', hpiece, hread, ?_⟩
        simp only [sscanf, hrun]
    | cons e' es =>
      obtain ⟨piece, rest, st', rfl, hfree, hrun, hrest, hstore⟩ :=
        first_piece he.upToComma (hds e' (by simp)).upToComma hfull
      rw [hstore, List.splitOn_append_cons_self_of_not_mem hfree]
      cases i with
      | zero =>
        obtain rfl : e = d := by simpa using hi
        refine ⟨piece, [], st, st', rfl, hrun, ?_⟩
        exact sscanf_keeps (separate_keeps (by simpa using hkeeps)) rest st'
      | succ i =>
        exact ih (fun d' hd' => hds d' (List.mem_cons_of_mem e hd')) hrest (by simpa using hi)
          (by simpa using hkeeps)

/-! ## What a piece says -/

/-- An integer of a complete scan is the one its piece spells, to its end. -/
theorem int_of_piece {bits : Nat} {store : Int → σ → σ} {piece : Bytes} {st₁ st₂ : σ}
    (h : (Directive.int bits store).run strtof piece st₁ = some ([], 1, st₂)) :
    ∃ v, scanInt bits piece = some (v, []) ∧ st₂ = store v st₁ := by
  obtain ⟨⟨v, rest⟩, hscan, heq⟩ := Option.map_eq_some_iff.mp h
  obtain ⟨rfl, rfl⟩ : rest = [] ∧ store v st₁ = st₂ := by simpa using heq
  exact ⟨v, hscan, rfl⟩

/-- A string of a complete scan is its piece: not empty, and within the width. -/
theorem field_of_piece {width : Nat} {store : Bytes → σ → σ} {piece : Bytes} {st₁ st₂ : σ}
    (h : (Directive.field width 44 store).run strtof piece st₁ = some ([], 1, st₂)) :
    piece ≠ [] ∧ piece.length ≤ width ∧ 44 ∉ piece ∧ st₂ = store piece st₁ := by
  by_cases hx : (piece.take width).takeWhile (· != 44) = []
  · simp [Directive.run, hx] at h
  · simp only [Directive.run, if_neg hx] at h
    obtain ⟨hdrop, rfl⟩ : piece.drop ((piece.take width).takeWhile (· != 44)).length = [] ∧
        store ((piece.take width).takeWhile (· != 44)) st₁ = st₂ := by simpa using h
    have hpre : (piece.take width).takeWhile (· != 44) <+: piece :=
      (List.takeWhile_prefix _).trans (List.take_prefix _ _)
    have hall : (piece.take width).takeWhile (· != 44) = piece := by
      refine hpre.eq_of_length_le ?_
      have := List.drop_eq_nil_iff.mp hdrop
      exact this
    have hwidth : piece.length ≤ width := by
      have hle := (List.takeWhile_prefix (p := (· != (44 : UInt8))) (l := piece.take width)).length_le
      rw [hall, List.length_take] at hle
      omega
    refine ⟨?_, hwidth, ?_, by rw [hall]⟩
    · rw [← hall]
      exact hx
    · intro hmem
      rw [← hall] at hmem
      exact absurd (List.mem_takeWhile_imp hmem) (by decide)

section Scanned

variable {ds : List (Directive φ σ)} {inp : Bytes} {st : σ} {i : Nat}

/-- **A float of a complete scan**, wherever it stands, is what its piece begins with. -/
theorem float_conversion (hds : ∀ d ∈ ds, d.Local strtof)
    (hfull : (sscanf strtof (separate ds) inp st).1 = conversions (separate ds))
    {store : φ → σ → σ} (hi : ds[i]? = some (.float store)) {f : σ → α} {conv : φ → α}
    (hf : ∀ v st, f (store v st) = conv v) (hkeeps : ∀ d' ∈ ds.drop (i + 1), d'.Keeps f) :
    ∃ piece v rest, (inp.splitOn 44)[i]? = some piece ∧
      strtof (piece.dropWhile isSpace) = some (v, rest) ∧
      f (sscanf strtof (separate ds) inp st).2 = conv v := by
  obtain ⟨piece, left, st₁, st₂, hpiece, hrun, hstored⟩ := conversion_at hds hfull hi hkeeps
  obtain ⟨⟨v, rest⟩, hread, heq⟩ := Option.map_eq_some_iff.mp hrun
  obtain ⟨-, rfl⟩ : rest = left ∧ store v st₁ = st₂ := by simpa using heq
  exact ⟨piece, v, rest, hpiece, hread, hstored.trans (hf v st₁)⟩

/-- The same for a float that is stored as it was read, as an equation between the text and the
    store. -/
theorem float_scanned (hds : ∀ d ∈ ds, d.Local strtof)
    (hfull : (sscanf strtof (separate ds) inp st).1 = conversions (separate ds))
    {store : φ → σ → σ} (hi : ds[i]? = some (.float store)) {f : σ → φ}
    (hf : ∀ v st, f (store v st) = v) (hkeeps : ∀ d' ∈ ds.drop (i + 1), d'.Keeps f) :
    ((inp.splitOn 44)[i]?.bind fun piece => (strtof (piece.dropWhile isSpace)).map Prod.fst) =
      some (f (sscanf strtof (separate ds) inp st).2) := by
  obtain ⟨piece, v, rest, hpiece, hread, hstored⟩ := float_conversion hds hfull hi hf hkeeps
  rw [hstored, hpiece, Option.bind_some, hread]
  rfl

/-- So is an integer. -/
theorem int_scanned (hds : ∀ d ∈ ds, d.Local strtof)
    (hfull : (sscanf strtof (separate ds) inp st).1 = conversions (separate ds))
    {bits : Nat} {store : Int → σ → σ} (hi : ds[i]? = some (.int bits store)) {f : σ → Int}
    (hf : ∀ v st, f (store v st) = v) (hkeeps : ∀ d' ∈ ds.drop (i + 1), d'.Keeps f) :
    ((inp.splitOn 44)[i]?.bind fun piece => (scanInt bits piece).map Prod.fst) =
      some (f (sscanf strtof (separate ds) inp st).2) := by
  obtain ⟨piece, left, st₁, st₂, hpiece, hrun, hstored⟩ := conversion_at hds hfull hi hkeeps
  obtain ⟨⟨v, rest⟩, hscan, heq⟩ := Option.map_eq_some_iff.mp hrun
  obtain ⟨-, rfl⟩ : rest = left ∧ store v st₁ = st₂ := by simpa using heq
  rw [hstored, hf, hpiece, Option.bind_some, hscan]
  rfl

end Scanned

/-! ## Scans that store elsewhere -/

/-- The second directive does to the image of a store what the first one does to the store. -/
inductive Directive.Maps {τ : Type} (f : σ → τ) : Directive φ σ → Directive φ τ → Prop
  | text (s : Bytes) : Maps f (.text s) (.text s)
  | int (bits : Nat) {store : Int → σ → σ} {store' : Int → τ → τ}
      (h : ∀ v st, f (store v st) = store' v (f st)) : Maps f (.int bits store) (.int bits store')
  | field (width : Nat) (stop : UInt8) {store : Bytes → σ → σ} {store' : Bytes → τ → τ}
      (h : ∀ v st, f (store v st) = store' v (f st)) :
      Maps f (.field width stop store) (.field width stop store')
  | float {store : φ → σ → σ} {store' : φ → τ → τ}
      (h : ∀ v st, f (store v st) = store' v (f st)) : Maps f (.float store) (.float store')

theorem separate_maps {τ : Type} {f : σ → τ} {ds : List (Directive φ σ)} {ds' : List (Directive φ τ)}
    (h : List.Forall₂ (Directive.Maps f) ds ds') :
    List.Forall₂ (Directive.Maps f) (separate ds) (separate ds') := by
  induction h with
  | nil => exact .nil
  | cons hd htail ih =>
    cases htail with
    | nil => exact .cons hd .nil
    | cons hd' htail => exact .cons hd (.cons (.text [44]) ih)

/-- **A scan into the image of a store** makes the same conversions and stores the image. -/
theorem sscanf_map {τ : Type} {f : σ → τ} {ds : List (Directive φ σ)} {ds' : List (Directive φ τ)}
    (h : List.Forall₂ (Directive.Maps f) ds ds') (inp : Bytes) (st : σ) :
    sscanf strtof ds' inp (f st) =
      ((sscanf strtof ds inp st).1, f (sscanf strtof ds inp st).2) := by
  induction h generalizing inp st with
  | nil => rfl
  | @cons d d' ds ds' hd _ ih =>
    have hrun : d'.run strtof inp (f st) = (d.run strtof inp st).map fun r => (r.1, r.2.1, f r.2.2) := by
      cases hd with
      | text s =>
        rw [Directive.run, Directive.run]
        split <;> rfl
      | int bits hstore =>
        rw [Directive.run, Directive.run]
        cases scanInt bits inp with
        | none => rfl
        | some p => simp only [Option.map_some, hstore]
      | field width stop hstore =>
        simp only [Directive.run]
        split
        · rfl
        · simp only [Option.map_some, hstore]
      | float hstore =>
        rw [Directive.run, Directive.run]
        cases strtof (inp.dropWhile isSpace) with
        | none => rfl
        | some p => simp only [Option.map_some, hstore]
    cases hr : d.run strtof inp st with
    | none => simp only [sscanf, hrun, hr, Option.map_none]
    | some r =>
      obtain ⟨rest, n, st'⟩ := r
      simp only [sscanf, hrun, hr, Option.map_some, ih]

end Stdio
