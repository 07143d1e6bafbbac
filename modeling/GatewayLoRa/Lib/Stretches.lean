/-
  A stream cut by single TERMINATORS: the stretches that are free of them, each with the terminator
  that ends it.

  `ended p l` is the abstract meaning of a stream of lines.  A terminator behind another one ends an
  empty stretch, and what stands behind the last terminator is not ended yet.  A reader that sees
  one symbol at a time holds the begin of a stretch, which is what came since the last terminator:
  `ended_concat` says what the next symbol makes of it.

  Every symbol keeps its stretch company: a stretch is a list of symbols that are no terminators,
  and `ended` gives it together with the terminator that ended it, since a reader may go by which
  one it was.  The crux is `free_or_last`: a stream has no terminator, or a last one; the first case
  and what stands behind the last one are both free stretches, so one argument serves them.
-/

import GatewayLoRa.Lib.Machine

namespace Stretches

open Machine

variable {α : Type} (p : α → Bool)

/-- The stretches that are ended, in order.

    The recursion is from the front: a symbol that is no terminator joins the first stretch that is
    ended behind it, and belongs to none when there is none. -/
def ended : List α → List (List α × α)
  | [] => []
  | a :: l =>
      if p a then ([], a) :: ended l
      else match ended l with
        | [] => []
        | (x, t) :: rest => (a :: x, t) :: rest

/-- The symbols are no terminators. -/
def Free (l : List α) : Prop := ∀ a ∈ l, p a = false

variable {p}

/-- A free stretch and one more symbol that is no terminator. -/
theorem Free.concat {x : List α} {a : α} (h : Free p x) (ha : p a = false) : Free p (x ++ [a]) := by
  intro b hb
  rcases List.mem_append.mp hb with hb | hb
  · exact h b hb
  · rwa [List.mem_singleton.mp hb]

/-- **The begin of a stretch and its terminator.** -/
theorem ended_append {x l : List α} {t : α} (hx : Free p x) (ht : p t = true) :
    ended p (x ++ t :: l) = (x, t) :: ended p l := by
  induction x with
  | nil => simp [ended, ht]
  | cons a x ih =>
    obtain ⟨ha, hx'⟩ := List.forall_mem_cons.mp hx
    simp [ended, ha, ih hx']

/-- Nothing is ended exactly where there is no terminator. -/
theorem ended_eq_nil_iff {l : List α} : ended p l = [] ↔ Free p l := by
  induction l with
  | nil => simp [ended, Free]
  | cons a l ih =>
    cases ha : p a with
    | true => simp [ended, ha, Free]
    | false =>
      rw [Free, List.forall_mem_cons, ended]
      rw [Free] at ih
      simp only [ha, Bool.false_eq_true, if_false, true_and, ← ih]
      cases ended p l <;> simp

/-- What stands behind a terminator has nothing to do with what stands before it. -/
theorem ended_append_terminator {l : List α} {t : α} (ht : p t = true) (l' : List α) :
    ended p (l ++ t :: l') = ended p (l ++ [t]) ++ ended p l' := by
  induction l with
  | nil => simp [ended, ht]
  | cons a l ih =>
    -- the stretch that `a` joins exists, because the terminator ends it
    have hne : ended p (l ++ [t]) ≠ [] := by
      rw [Ne, ended_eq_nil_iff]
      exact fun h => absurd (h t (by simp)) (by simp [ht])
    simp only [List.cons_append, ended, ih]
    split
    · rfl
    · cases hl : ended p (l ++ [t]) with
      | nil => exact absurd hl hne
      | cons e es => rfl

/-- A stream is free of terminators, or there is a last one. -/
theorem free_or_last (l : List α) :
    Free p l ∨ ∃ before t x, l = before ++ t :: x ∧ p t = true ∧ Free p x := by
  induction l with
  | nil => exact .inl nofun
  | cons a l ih =>
    rcases ih with hfree | ⟨before, t, x, rfl, ht, hx⟩
    · cases ha : p a with
      | true => exact .inr ⟨[], a, l, rfl, ha, hfree⟩
      | false => exact .inl (List.forall_mem_cons.mpr ⟨ha, hfree⟩)
    · exact .inr ⟨a :: before, t, x, rfl, ht, hx⟩

/-- **The next symbol** ends the stretch since the last terminator, or does not.

    This is the step of a reader that sees one symbol at a time: `since p l` is what it holds. -/
theorem ended_concat (l : List α) (a : α) :
    ended p (l ++ [a]) = ended p l ++ if p a then [(since p l, a)] else [] := by
  -- a stream without a terminator: the symbol ends it, or it stays free
  have hend {x : List α} (hx : Free p x) :
      ended p (x ++ [a]) = ended p x ++ if p a then [(x, a)] else [] := by
    rw [ended_eq_nil_iff.mpr hx, List.nil_append]
    cases ha : p a with
    | true =>
      rw [ended_append hx ha]
      rfl
    | false => exact ended_eq_nil_iff.mpr (hx.concat ha)
  rcases free_or_last l with hfree | ⟨before, t, x, rfl, ht, hx⟩
  · have hsince : since p l = l := by
      rw [← List.nil_append l, since_append hfree]
      rfl
    rw [hend hfree, hsince]
  · have hsince : since p (before ++ t :: x) = x := by
      rw [List.append_cons, since_append hx, since_concat, ht]
      rfl
    rw [List.append_assoc, List.cons_append, ended_append_terminator ht, hend hx,
      ended_append_terminator ht x, hsince, List.append_assoc]

/-- A stretch is made of symbols of the stream. -/
theorem subset_of_ended {l : List α} {e : List α × α} (h : e ∈ ended p l) : e.1 ⊆ l := by
  induction l generalizing e with
  | nil => exact absurd h List.not_mem_nil
  | cons a l ih =>
    rw [ended] at h
    split at h
    · rcases List.mem_cons.mp h with rfl | h
      · exact List.nil_subset _
      · exact List.subset_cons_of_subset a (ih h)
    · split at h
      · cases h
      · next x t rest hl =>
        rcases List.mem_cons.mp h with rfl | h
        · exact List.cons_subset_cons a (ih (e := (x, t)) (by rw [hl]; exact List.mem_cons_self))
        · exact List.subset_cons_of_subset a (ih (by rw [hl]; exact List.mem_cons_of_mem _ h))

end Stretches
