/-
  Logs whose entries are LINKED: numbered one after the other, each naming the hash of the one
  before it.

  An entry is of any type with a `number`, a `prev` and a `hash`.  A log is linked from a number
  and a hash, those that its first entry carries; an entry may be appended if and only if it
  carries the number that comes next and the hash of the last entry (`linked_concat`).

  The relation runs forward from what the first entry has to carry, while a program appends at the
  other end.  `lastHash` closes the gap: it walks the same way and ends with what the next entry has
  to carry.  `Linked.number_eq` and `Linked.prev_eq` read the relation back at a position, as a
  server does that checks the log.
-/

namespace HashLog

variable {α η : Type} (number : α → Int) (prev hash : α → η)

/-- **The log is linked**, from the number `n` and the hash `h` on: each entry carries the number
    that is due and the hash that is due, and makes the next number and its own hash due. -/
def Linked : Int → η → List α → Prop
  | _, _, [] => True
  | n, h, e :: es => number e = n ∧ prev e = h ∧ Linked (n + 1) (hash e) es

/-- The hash that the next entry has to name. -/
def lastHash : η → List α → η
  | h, [] => h
  | _, e :: es => lastHash (hash e) es

variable {number prev hash} {n : Int} {h : η} {es : List α} {e : α}

/-- After an entry it is the hash of that entry that is due, whatever was due before. -/
@[simp] theorem lastHash_concat : lastHash hash h (es ++ [e]) = hash e := by
  induction es generalizing h with
  | nil => rfl
  | cons a as ih => exact ih

/-- **What may be appended to a linked log**: an entry with the next number and the last hash, and
    no other. -/
theorem linked_concat : Linked number prev hash n h (es ++ [e]) ↔
    Linked number prev hash n h es ∧ number e = n + es.length ∧ prev e = lastHash hash h es := by
  induction es generalizing n h with
  | nil => simp [Linked, lastHash]
  | cons a as ih =>
    have hlen : n + 1 + as.length = n + (a :: as).length := by
      rw [List.length_cons]
      omega
    rw [List.cons_append, Linked, ih, Linked, lastHash, hlen]
    simp only [and_assoc]

/-- The entries of a linked log carry consecutive numbers. -/
theorem Linked.number_eq {k : Nat} (hl : Linked number prev hash n h es) (hk : es[k]? = some e) :
    number e = n + k := by
  induction es generalizing n h k with
  | nil => simp at hk
  | cons a as ih =>
    cases k with
    | zero =>
      obtain rfl : a = e := by simpa using hk
      simpa using hl.1
    | succ k =>
      have := ih hl.2.2 (by simpa using hk)
      omega

/-- An entry of a linked log names the hash of the one before it. -/
theorem Linked.prev_eq {k : Nat} {e' : α} (hl : Linked number prev hash n h es)
    (hk : es[k]? = some e) (hk' : es[k + 1]? = some e') : prev e' = hash e := by
  induction es generalizing n h k with
  | nil => simp at hk
  | cons a as ih =>
    cases k with
    | succ k => exact ih hl.2.2 (by simpa using hk) (by simpa using hk')
    | zero =>
      obtain rfl : a = e := by simpa using hk
      cases as with
      | nil => simp at hk'
      | cons b bs =>
        obtain rfl : b = e' := by simpa using hk'
        exact hl.2.2.2.1

end HashLog
