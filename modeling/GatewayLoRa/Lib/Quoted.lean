/-
  Texts cut into STRETCHES by quotes, and what a scan for a quoted key finds in them.

  `joined q ps` is the text of the stretches `ps`, with a quote between each two.  A scanner that
  knows no more of a text than its quotes looks for a key between two of them, then for a mark, and
  takes the word behind it.  Whether the key is found where its writer meant it is a matter of
  stretches:

  1. `search_joined` — the key is found at the first stretch that is the key, if a quote stands on
     both sides of it;
  2. `beyond_joined` — the mark is found in the first stretch that has one;
  3. `word_joined`   — the word is taken from the first stretch that is not blank.

  `scan_joined` puts the three together.

  The crux is that such a scanner does not parse: to it a text is a list of stretches between
  quotes, whatever they mean.  So the text is rewritten as its stretches once, and each of the three
  steps of the scan becomes a recursion on that list.  A key is found only between two quotes, so a
  stretch that happens to be the key is as good as a name; that is where a scanner and the writer of
  the text may differ.
-/

import Mathlib.Data.List.TakeWhile

namespace Quoted

variable {α : Type}

/-- The text of stretches, with a quote between each two. -/
def joined (q : α) (ps : List (List α)) : List α := [q].intercalate ps

theorem joined_singleton (q : α) (p : List α) : joined q [p] = p := List.intercalate_singleton

/-- The first of several stretches, and the quote behind it. -/
theorem joined_cons_cons (q : α) (p p' : List α) (ps : List (List α)) :
    joined q (p :: p' :: ps) = p ++ q :: joined q (p' :: ps) := by
  simp [joined]

theorem joined_cons {q : α} {ps : List (List α)} (h : ps ≠ []) (p : List α) :
    joined q (p :: ps) = p ++ q :: joined q ps := by
  obtain ⟨p', ps, rfl⟩ := List.exists_cons_of_ne_nil h
  exact joined_cons_cons q p p' ps

/-- No quote stands inside a stretch. -/
def Free (q : α) (ps : List (List α)) : Prop := ∀ p ∈ ps, q ∉ p

theorem Free.tail {q : α} {p : List α} {ps : List (List α)} (h : Free q (p :: ps)) : Free q ps :=
  fun p' hp' => h p' (List.mem_cons_of_mem p hp')

variable [DecidableEq α]

/-! ## The key -/

/-- The text from the first occurrence of a key on, as `strstr` gives it. -/
def search (key : List α) : List α → Option (List α)
  | [] => if key = [] then some [] else none
  | a :: l => if key <+: a :: l then some (a :: l) else search key l

/-- The stretches behind the first one that is `k` and has another one behind it. -/
def behind (k : List α) : List (List α) → Option (List (List α))
  | p :: p' :: ps => if p = k then some (p' :: ps) else behind k (p' :: ps)
  | _ => none

/-- What stands behind the key is still free of quotes, -/
theorem behind_free {q : α} {k : List α} {ps rest : List (List α)} (h : Free q ps)
    (hrest : behind k ps = some rest) : Free q rest := by
  induction ps with
  | nil => cases hrest
  | cons p ps ih =>
    cases ps with
    | nil => cases hrest
    | cons p' ps =>
      rw [behind] at hrest
      split at hrest
      · exact Option.some.inj hrest ▸ h.tail
      · exact ih h.tail hrest

/-- and it is not empty. -/
theorem ne_nil_of_behind {k : List α} {ps rest : List (List α)} (h : behind k ps = some rest) :
    rest ≠ [] := by
  induction ps with
  | nil => cases h
  | cons p ps ih =>
    cases ps with
    | nil => cases h
    | cons p' ps =>
      rw [behind] at h
      split at h
      · exact Option.some.inj h ▸ List.cons_ne_nil p' ps
      · exact ih h

/-- A key that begins with a quote is not found before the first one. -/
theorem search_append {q : α} {key p : List α} (hp : q ∉ p) (l : List α) :
    search (q :: key) (p ++ l) = search (q :: key) l := by
  induction p with
  | nil => rfl
  | cons a p ih =>
    have hprefix : ¬ q :: key <+: a :: (p ++ l) := fun h =>
      List.ne_of_not_mem_cons hp (List.cons_prefix_cons.mp h).1
    rw [List.cons_append, search, if_neg hprefix, ih (List.not_mem_of_not_mem_cons hp)]

/-- A stretch is read up to its quote. -/
theorem takeWhile_closed {q : α} {p : List α} (hp : q ∉ p) (l : List α) :
    (p ++ q :: l).takeWhile (fun a => decide (a ≠ q)) = p := by
  have hall : ∀ a ∈ p, decide (a ≠ q) = true := fun a ha =>
    decide_eq_true (ne_of_mem_of_not_mem ha hp)
  rw [List.takeWhile_append_of_pos hall]
  simp

/-- What stands behind a quote, up to the next one, is a key or is not. -/
theorem closed_prefix_iff {q : α} {k p : List α} (hk : q ∉ k) (hp : q ∉ p) (l : List α) :
    k ++ [q] <+: p ++ q :: l ↔ p = k := by
  constructor
  · rintro ⟨t, ht⟩
    rw [List.append_assoc, List.singleton_append] at ht
    rw [← takeWhile_closed hp l, ← ht, takeWhile_closed hk t]
  · rintro rfl
    exact ⟨l, by simp⟩

/-- **A quoted key is found at the first stretch that is the key**, provided that a quote stands in
    front of it and behind it: the first stretch and the last one do not count. -/
theorem search_joined {q : α} {k : List α} (hk : q ∉ k) {p : List α} {ps : List (List α)}
    (h : Free q (p :: ps)) :
    search (q :: (k ++ [q])) (joined q (p :: ps)) =
      (behind k ps).map fun rest => q :: (k ++ q :: joined q rest) := by
  have hnone {l : List α} (hl : q ∉ l) : search (q :: (k ++ [q])) l = none := by
    rw [← List.append_nil l, search_append hl]
    rfl
  induction ps generalizing p with
  | nil =>
    rw [joined_singleton]
    exact hnone (h p List.mem_cons_self)
  | cons p' ps ih =>
    have hp' : q ∉ p' := h.tail p' List.mem_cons_self
    rw [joined_cons_cons, search_append (h p List.mem_cons_self), search]
    cases ps with
    | nil =>
      -- no quote stands behind the last stretch
      have hprefix : ¬ q :: (k ++ [q]) <+: q :: p' := fun hkey =>
        hp' ((List.cons_prefix_cons.mp hkey).2.subset (by simp))
      rw [joined_singleton, if_neg hprefix, hnone hp']
      rfl
    | cons p'' ps =>
      have hfirst : q :: (k ++ [q]) <+: q :: joined q (p' :: p'' :: ps) ↔ p' = k := by
        rw [joined_cons_cons, List.cons_prefix_cons, closed_prefix_iff hk hp']
        exact and_iff_right rfl
      by_cases hkey : p' = k
      · rw [if_pos (hfirst.mpr hkey), behind, if_pos hkey, joined_cons_cons, hkey]
        rfl
      · rw [if_neg fun hprefix => hkey (hfirst.mp hprefix), behind, if_neg hkey]
        exact ih h.tail

/-! ## The mark -/

/-- What stands behind the first mark. -/
def beyond (mark : α) : List α → Option (List α)
  | [] => none
  | a :: l => if a = mark then some l else beyond mark l

/-- The stretches behind the first mark. -/
def beyondIn (mark : α) : List (List α) → Option (List (List α))
  | [] => none
  | p :: ps =>
      match beyond mark p with
      | some p => some (p :: ps)
      | none => beyondIn mark ps

/-- The first mark of two texts is the one of the first text, if it has one. -/
theorem beyond_append (mark : α) (l l' : List α) :
    beyond mark (l ++ l') =
      match beyond mark l with
      | some r => some (r ++ l')
      | none => beyond mark l' := by
  induction l with
  | nil => rfl
  | cons a l ih =>
    rw [List.cons_append, beyond, beyond]
    by_cases ha : a = mark
    · rw [if_pos ha, if_pos ha]
    · rw [if_neg ha, if_neg ha, ih]

/-- No mark is found exactly where there is none. -/
theorem beyond_eq_none_iff {mark : α} {l : List α} : beyond mark l = none ↔ mark ∉ l := by
  induction l with
  | nil => simp [beyond]
  | cons a l ih =>
    by_cases ha : a = mark
    · simp [beyond, ha]
    · simp [beyond, ha, ih, Ne.symm ha]

/-- What stands behind a mark ends the text. -/
theorem suffix_of_beyond {mark : α} {l r : List α} (h : beyond mark l = some r) : r <:+ l := by
  induction l with
  | nil => cases h
  | cons a l ih =>
    rw [beyond] at h
    split at h
    · exact Option.some.inj h ▸ List.suffix_cons a l
    · exact (ih h).trans (List.suffix_cons a l)

/-- Behind the mark the stretches are free of quotes as well. -/
theorem beyondIn_free {q mark : α} {ps rest : List (List α)} (h : Free q ps)
    (hrest : beyondIn mark ps = some rest) : Free q rest := by
  induction ps with
  | nil => cases hrest
  | cons p ps ih =>
    rw [beyondIn] at hrest
    split at hrest
    · next r hr =>
      rw [← Option.some.inj hrest]
      refine List.forall_mem_cons.mpr ⟨fun hq => ?_, h.tail⟩
      exact h p List.mem_cons_self ((suffix_of_beyond hr).subset hq)
    · exact ih h.tail hrest

/-- **The mark is found in the first stretch that has one.** -/
theorem beyond_joined {q mark : α} (hmark : q ≠ mark) (ps : List (List α)) :
    beyond mark (joined q ps) = (beyondIn mark ps).map (joined q) := by
  induction ps with
  | nil => rfl
  | cons p ps ih =>
    cases ps with
    | nil =>
      rw [joined_singleton, beyondIn]
      -- the mark stands in the first stretch, or the quote behind it is no mark and the search goes
      -- on
      cases beyond mark p with
      | none => rfl
      | some r => exact congrArg some (joined_singleton q r).symm
    | cons p' ps =>
      rw [joined_cons_cons, beyond_append, beyondIn]
      cases beyond mark p with
      | none =>
        show beyond mark (q :: joined q (p' :: ps)) = _
        rw [beyond, if_neg hmark, ih]
      | some r => exact congrArg some (joined_cons_cons q r p' ps).symm

/-! ## The word -/

/-- A word: behind blanks and quotes, up to a quote or a separator. -/
def word (q blank separator : α) (l : List α) : List α :=
  (l.dropWhile fun a => decide (a = blank ∨ a = q)).takeWhile fun a =>
    decide (a ≠ q ∧ a ≠ separator)

/-- A stretch without the blanks at its begin. -/
def stripped (blank : α) (p : List α) : List α := p.dropWhile fun a => decide (a = blank)

/-- A text up to its first separator. -/
def upTo (separator : α) (p : List α) : List α := p.takeWhile fun a => decide (a ≠ separator)

/-- The word of stretches: in the first one that is not blank, up to a separator. -/
def wordIn (blank separator : α) : List (List α) → List α
  | [] => []
  | p :: ps =>
      if stripped blank p = [] then wordIn blank separator ps
      else upTo separator (stripped blank p)

/-- What is stripped of blanks does not begin with one. -/
theorem head?_stripped (blank : α) (p : List α) : (stripped blank p).head? ≠ some blank := by
  intro h
  have := List.head?_dropWhile_not (fun a => decide (a = blank)) p
  rw [show p.dropWhile (fun a => decide (a = blank)) = stripped blank p from rfl, h] at this
  simp at this

/-- Nothing is taken off a stretch that does not begin with a blank. -/
theorem stripped_of_head {blank : α} {p : List α} (h : p.head? ≠ some blank) :
    stripped blank p = p := by
  cases p with
  | nil => rfl
  | cons a p => simp_all [stripped]

theorem stripped_append_of_blank {blank : α} {l : List α} (h : ∀ a ∈ l, a = blank) (l' : List α) :
    stripped blank (l ++ l') = stripped blank l' :=
  List.dropWhile_append_of_pos fun a ha => decide_eq_true (h a ha)

/-- Text without a separator is passed over, -/
theorem upTo_append {separator : α} {l : List α} (h : separator ∉ l) (l' : List α) :
    upTo separator (l ++ l') = l ++ upTo separator l' :=
  List.takeWhile_append_of_pos fun _ ha => decide_eq_true (ne_of_mem_of_not_mem ha h)

/-- to its end if there is none. -/
theorem upTo_of_not_mem {separator : α} {l : List α} (h : separator ∉ l) : upTo separator l = l :=
  List.takeWhile_eq_self_iff.mpr fun _ ha => decide_eq_true (ne_of_mem_of_not_mem ha h)

/-- Quotes are skipped with the blanks, but there is none in a stretch. -/
theorem dropWhile_of_free {q : α} (blank : α) {p : List α} (hp : q ∉ p) :
    (p.dropWhile fun a => decide (a = blank ∨ a = q)) = stripped blank p := by
  induction p with
  | nil => rfl
  | cons a p ih =>
    have ha : a ≠ q := (List.ne_of_not_mem_cons hp).symm
    have ih := ih (List.not_mem_of_not_mem_cons hp)
    by_cases hblank : a = blank
    · simpa [stripped, hblank] using ih
    · simp [stripped, hblank, ha]

/-- A stretch without a quote is read up to its separator. -/
theorem takeWhile_of_free {q : α} (separator : α) {p : List α} (hp : q ∉ p) :
    (p.takeWhile fun a => decide (a ≠ q ∧ a ≠ separator)) = upTo separator p := by
  induction p with
  | nil => rfl
  | cons a p ih =>
    have ha : a ≠ q := (List.ne_of_not_mem_cons hp).symm
    have ih := ih (List.not_mem_of_not_mem_cons hp)
    by_cases hseparator : a = separator
    · simp [upTo, hseparator]
    · simpa [upTo, hseparator, ha] using ih

/-- A word that begins in a stretch ends in it. -/
theorem takeWhile_closed_of_free {q : α} (separator : α) {p : List α} (hp : q ∉ p) (l : List α) :
    ((p ++ q :: l).takeWhile fun a => decide (a ≠ q ∧ a ≠ separator)) = upTo separator p := by
  rw [← takeWhile_of_free separator hp, List.takeWhile_append]
  split
  · next hlength =>
    rw [(List.takeWhile_prefix _).eq_of_length hlength]
    simp
  · rfl

theorem stripped_subset (blank : α) (p : List α) : stripped blank p ⊆ p :=
  (List.dropWhile_suffix _).subset

/-- **The word is taken from the first stretch that is not blank.** -/
theorem word_joined {q : α} (blank separator : α) {ps : List (List α)} (h : Free q ps) :
    word q blank separator (joined q ps) = wordIn blank separator ps := by
  induction ps with
  | nil => rfl
  | cons p ps ih =>
    have hp : q ∉ p := h p List.mem_cons_self
    have hstripped : q ∉ stripped blank p := fun hq => hp (stripped_subset blank p hq)
    cases ps with
    | nil =>
      rw [joined_singleton, word, dropWhile_of_free blank hp, takeWhile_of_free separator hstripped,
        wordIn]
      split
      · next hblank => rw [hblank]; rfl
      · rfl
    | cons p' ps =>
      rw [joined_cons_cons, word, List.dropWhile_append, dropWhile_of_free blank hp, wordIn]
      -- a blank stretch is skipped together with its quote; otherwise the word begins here and ends
      -- here
      split
      · next hblank =>
        rw [if_pos (List.isEmpty_iff.mp hblank), ← ih h.tail]
        simp [word]
      · next hblank =>
        rw [if_neg fun hnil => hblank (List.isEmpty_iff.mpr hnil)]
        exact takeWhile_closed_of_free separator hstripped _

/-! ## The scan -/

/-- What a scanner takes: the word behind the first mark behind a quoted key. -/
def scan (q mark blank separator : α) (k l : List α) : Option (List α) :=
  ((search (q :: (k ++ [q])) l).bind (beyond mark)).map (word q blank separator)

/-- The same on the stretches; the key may have a mark of its own. -/
def scanIn (mark blank separator : α) (k : List α) (ps : List (List α)) : Option (List α) :=
  ((behind k ps).bind fun rest => beyondIn mark (k :: rest)).map (wordIn blank separator)

theorem scanIn_cons (mark blank separator : α) (k p : List α) {ps : List (List α)} (h : ps ≠ []) :
    scanIn mark blank separator k (p :: ps) =
      if p = k then (beyondIn mark (k :: ps)).map (wordIn blank separator)
      else scanIn mark blank separator k ps := by
  obtain ⟨p', ps, rfl⟩ := List.exists_cons_of_ne_nil h
  rw [scanIn, behind]
  split <;> rfl

/-- **A scan is a matter of the stretches.** -/
theorem scan_joined {q mark : α} (hmark : q ≠ mark) (blank separator : α) {k : List α}
    (hk : q ∉ k) {p : List α} {ps : List (List α)} (h : Free q (p :: ps)) :
    scan q mark blank separator k (joined q (p :: ps)) = scanIn mark blank separator k ps := by
  rw [scan, search_joined hk h, scanIn]
  cases hbehind : behind k ps with
  | none => rfl
  | some rest =>
    have hfree : Free q (k :: rest) := List.forall_mem_cons.mpr ⟨hk, behind_free h.tail hbehind⟩
    have hne : rest ≠ [] := ne_nil_of_behind hbehind
    have hbeyond : beyond mark (q :: (k ++ q :: joined q rest)) =
        (beyondIn mark (k :: rest)).map (joined q) := by
      rw [beyond, if_neg hmark, ← joined_cons hne, beyond_joined hmark]
    show ((beyond mark (q :: (k ++ q :: joined q rest))).map _) = (beyondIn mark (k :: rest)).map _
    rw [hbeyond, Option.map_map]
    cases hin : beyondIn mark (k :: rest) with
    | none => rfl
    | some stretches =>
      exact congrArg some (word_joined blank separator (beyondIn_free hfree hin))

end Quoted
