/-
  Streams cut by a DOUBLED delimiter symbol `d d`: the search for its first occurrence, and the
  segments it cuts a stream into.

  `split d l` is what `std::search` for the two-symbol needle finds: the symbols before the first
  `d d` and those after it.  `segments d l` is the abstract meaning of a delimited stream: the
  symbols before each delimiter, in order, the unterminated rest left out.

  A receiver does not see the stream, it sees it arrive in pieces.  The two facts such a receiver
  rests on are

  * `split_append`    — a delimiter once found stays where it was found, whatever arrives later;
  * `clean_append_iff` — a junction of two delimiter-free pieces makes a delimiter only when the
    left one ends and the right one starts with `d`.

  `Aligned read found rest` is the invariant of a receiver that works piece by piece: of what it
  has read it has found the segments `found`, and what it holds back, `rest`, is all that the
  segments still to come depend on.

  The crux is that delimiters overlap: in `d d d` the search takes the first two symbols and leaves
  the third, so the segments of a stream are not determined by its pieces taken apart.  `Aligned`
  therefore compares with the segments of the WHOLE stream, for whatever may still come; it survives
  a piece without a search (`Aligned.insert`) and a search that finds something (`Aligned.found`),
  which are the only two things a receiver does.
-/

namespace Delimiter

/-! ## Lists without the delimiter -/

/-- No `d d` occurs in the list.  A single `d` may, at the end as well, where a later piece can
    complete it. -/
def Clean {α : Type} (d : α) (l : List α) : Prop := ∀ x y, l ≠ x ++ d :: d :: y

section Clean

variable {α : Type} {d : α}

theorem clean_nil : Clean d ([] : List α) := by
  intro x y h
  cases x <;> simp at h

theorem clean_singleton (a : α) : Clean d [a] := by
  intro x y h
  have hl := congrArg List.length h
  simp only [List.length_append, List.length_cons, List.length_nil] at hl
  omega

/-- The begin of a clean list is clean, -/
theorem Clean.left {l m : List α} (h : Clean d (l ++ m)) : Clean d l := by
  intro x y hl
  exact h x (y ++ m) (by rw [hl]; simp)

/-- and so is its end. -/
theorem Clean.right {l m : List α} (h : Clean d (l ++ m)) : Clean d m := by
  intro x y hm
  exact h (l ++ x) y (by rw [hm]; simp)

/-- One more symbol in front makes a delimiter with the first one, or none. -/
theorem clean_cons_iff {a : α} {l : List α} :
    Clean d (a :: l) ↔ Clean d l ∧ ¬ (a = d ∧ l.head? = some d) := by
  constructor
  · intro h
    refine ⟨Clean.right (l := [a]) h, ?_⟩
    rintro ⟨rfl, hl⟩
    cases l with
    | nil => simp at hl
    | cons b l =>
      obtain rfl : b = a := by simpa using hl
      exact h [] l rfl
  · rintro ⟨hl, hne⟩ x y h
    cases x with
    | nil =>
      obtain ⟨rfl, rfl⟩ : a = d ∧ l = d :: y := by simpa using h
      exact hne ⟨rfl, rfl⟩
    | cons b x =>
      obtain ⟨-, h⟩ : a = b ∧ l = x ++ d :: d :: y := by simpa using h
      exact hl x y h

/-- **Two clean pieces make a delimiter only at their junction**: where the left one ends and the
    right one begins with `d`. -/
theorem clean_append_iff {l m : List α} :
    Clean d (l ++ m) ↔ Clean d l ∧ Clean d m ∧ ¬ (l.getLast? = some d ∧ m.head? = some d) := by
  induction l with
  | nil => simp [clean_nil]
  | cons a l ih =>
    rw [List.cons_append, clean_cons_iff, ih, clean_cons_iff]
    cases l with
    | nil => simp [clean_nil]
    | cons b l =>
      rw [List.getLast?_cons_cons]
      constructor
      · rintro ⟨⟨hl, hm, hj⟩, hh⟩
        exact ⟨⟨hl, by simpa using hh⟩, hm, hj⟩
      · rintro ⟨⟨hl, hh⟩, hm, hj⟩
        exact ⟨⟨hl, hm, hj⟩, by simpa using hh⟩

/-- A list without the symbol at all is clean. -/
theorem clean_of_not_mem {l : List α} (h : d ∉ l) : Clean d l := by
  intro x y hl
  exact h (by rw [hl]; simp)

end Clean

/-! ## The search for the first delimiter -/

variable {α : Type} [DecidableEq α] (d : α)

/-- Split at the first `d d`.  The recursion looks at two symbols and moves on by one, as
    `std::search` does. -/
def split : List α → Option (List α × List α)
  | a :: b :: l =>
      if a = d ∧ b = d then some ([], l)
      else (split (b :: l)).map fun p => (a :: p.1, p.2)
  | _ => none

variable {d}

/-- **The search finds the first delimiter**, and nothing else.  That it is the first one is said by
    `Clean d (x ++ [d])`: not even the first symbol of the delimiter makes one with what stands
    before it. -/
theorem split_eq_some_iff {l x y : List α} :
    split d l = some (x, y) ↔ l = x ++ d :: d :: y ∧ Clean d (x ++ [d]) := by
  induction l generalizing x with
  | nil => simp [split]
  | cons a l ih =>
    cases l with
    | nil =>
      simp only [split, reduceCtorEq, false_iff, not_and]
      intro h
      exact absurd h (clean_singleton a x y)
    | cons b l =>
      by_cases hab : a = d ∧ b = d
      · rw [split, if_pos hab, hab.1, hab.2]
        constructor
        · intro h
          obtain ⟨rfl, rfl⟩ : [] = x ∧ l = y := by simpa using h
          exact ⟨rfl, clean_singleton _⟩
        · rintro ⟨h, hc⟩
          -- the delimiter stands at the front: anything in front of it would make an earlier one
          cases x with
          | nil => simpa using h
          | cons c x =>
            exfalso
            obtain ⟨hdc, h⟩ : d = c ∧ d :: l = x ++ d :: d :: y := by simpa using h
            refine (clean_cons_iff.mp hc).2 ⟨hdc.symm, ?_⟩
            cases x with
            | nil => rfl
            | cons e x =>
              obtain ⟨hde, -⟩ : d = e ∧ l = x ++ d :: d :: y := by simpa using h
              simp [hde]
      · rw [split, if_neg hab]
        cases x with
        | nil =>
          simp only [Option.map_eq_some_iff, Prod.mk.injEq, reduceCtorEq, false_and, and_false,
            exists_false, List.nil_append, List.cons.injEq, false_iff, not_and]
          rintro ⟨rfl, rfl, -⟩
          exact absurd ⟨rfl, rfl⟩ hab
        | cons c x =>
          have hhead : b :: l = x ++ d :: d :: y → ¬ (a = d ∧ (x ++ [d]).head? = some d) := by
            rintro h ⟨rfl, hx⟩
            refine hab ⟨rfl, ?_⟩
            cases x with
            | nil => simpa using congrArg List.head? h
            | cons e x =>
              obtain rfl : e = a := by simpa using hx
              simpa using congrArg List.head? h
          constructor
          · intro h
            obtain ⟨⟨x', y'⟩, hs, hxy⟩ := Option.map_eq_some_iff.mp h
            obtain ⟨⟨rfl, rfl⟩, rfl⟩ : (a = c ∧ x' = x) ∧ y' = y := by simpa using hxy
            obtain ⟨hl, hc⟩ := ih.mp hs
            exact ⟨by rw [hl]; rfl, clean_cons_iff.mpr ⟨hc, hhead hl⟩⟩
          · rintro ⟨h, hc⟩
            obtain ⟨rfl, hl⟩ : a = c ∧ b :: l = x ++ d :: d :: y := by simpa using h
            rw [ih.mpr ⟨hl, (clean_cons_iff.mp hc).1⟩]
            rfl

/-- The search finds nothing exactly in a clean list. -/
theorem split_eq_none_iff {l : List α} : split d l = none ↔ Clean d l := by
  induction l with
  | nil => simp [split, clean_nil]
  | cons a l ih =>
    cases l with
    | nil => simp [split, clean_singleton]
    | cons b l =>
      rw [split, clean_cons_iff, ← ih]
      by_cases hab : a = d ∧ b = d
      · simp [hab]
      · rw [if_neg hab]
        have hh : ¬ (a = d ∧ (b :: l).head? = some d) := by simpa using hab
        rw [Option.map_eq_none_iff, and_iff_left hh]

instance (l : List α) : Decidable (Clean d l) :=
  decidable_of_iff _ split_eq_none_iff

/-- A clean segment and its delimiter. -/
theorem split_of_clean {x : List α} (h : Clean d (x ++ [d])) (y : List α) :
    split d (x ++ d :: d :: y) = some (x, y) :=
  split_eq_some_iff.mpr ⟨rfl, h⟩

/-- **A delimiter once found stays where it was found**, whatever arrives later. -/
theorem split_append {l x y : List α} (h : split d l = some (x, y)) (m : List α) :
    split d (l ++ m) = some (x, y ++ m) := by
  obtain ⟨hl, hc⟩ := split_eq_some_iff.mp h
  exact split_eq_some_iff.mpr ⟨by rw [hl]; simp, hc⟩

/-! ## The segments of a stream -/

variable (d)

/-- The segments of a stream whose current segment began with `cur`. -/
def scan (cur : List α) : List α → List (List α)
  | a :: b :: l => if a = d ∧ b = d then cur :: scan [] l else scan (cur ++ [a]) (b :: l)
  | _ => []

/-- **The delimited segments of a stream**, in order. -/
def segments (l : List α) : List (List α) := scan d [] l

variable {d}

/-- The scan, told by its searches: what was collected and what stands before the first delimiter
    make a segment, and it begins anew behind the delimiter. -/
theorem scan_eq (cur l : List α) :
    scan d cur l = match split d l with
      | none => []
      | some (x, y) => (cur ++ x) :: segments d y := by
  induction l generalizing cur with
  | nil => rfl
  | cons a l ih =>
    cases l with
    | nil => rfl
    | cons b l =>
      rw [scan, split]
      by_cases hab : a = d ∧ b = d
      · rw [if_pos hab, if_pos hab]
        simp [segments]
      · rw [if_neg hab, if_neg hab, ih]
        cases split d (b :: l) with
        | none => rfl
        | some p => simp

/-- A clean stream has no segments, -/
theorem segments_of_clean {l : List α} (h : Clean d l) : segments d l = [] := by
  rw [segments, scan_eq, split_eq_none_iff.mpr h]

/-- and otherwise the first one is what the search finds. -/
theorem segments_of_split {l x y : List α} (h : split d l = some (x, y)) :
    segments d l = x :: segments d y := by
  rw [segments, scan_eq, h]
  rfl

/-! ## A receiver that works piece by piece -/

/-- **Of `read` the segments `found` are found and `rest` is held back**: whatever arrives later,
    the remaining segments are those of `rest` and what arrives. -/
def Aligned (d : α) (read : List α) (found : List (List α)) (rest : List α) : Prop :=
  ∀ more, segments d (read ++ more) = found ++ segments d (rest ++ more)

/-- Nothing read, nothing found, nothing held back. -/
theorem aligned_nil : Aligned d ([] : List α) [] [] := fun _ => rfl

/-- A piece in which no delimiter is found is held back. -/
theorem Aligned.insert {read rest : List α} {found : List (List α)}
    (h : Aligned d read found rest) (piece : List α) :
    Aligned d (read ++ piece) found (rest ++ piece) := by
  intro more
  rw [List.append_assoc, List.append_assoc]
  exact h (piece ++ more)

/-- A delimiter that is found completes a segment. -/
theorem Aligned.found {read rest x y : List α} {found : List (List α)}
    (h : Aligned d read found rest) (hs : split d rest = some (x, y)) :
    Aligned d read (found ++ [x]) y := by
  intro more
  rw [h more, segments_of_split (split_append hs more), List.append_assoc]
  rfl

/-- When nothing is left to be found, everything has been. -/
theorem Aligned.segments_eq {read rest : List α} {found : List (List α)}
    (h : Aligned d read found rest) (hc : Clean d rest) : segments d read = found := by
  have := h []
  rwa [List.append_nil, List.append_nil, segments_of_clean hc, List.append_nil] at this

/-- The segments found so far are segments of the whole stream. -/
theorem Aligned.mem_segments {read rest s : List α} {found : List (List α)}
    (h : Aligned d read found rest) (hs : s ∈ found) (more : List α) :
    s ∈ segments d (read ++ more) := by
  rw [h more]
  exact List.mem_append_left _ hs

end Delimiter
