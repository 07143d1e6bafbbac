/-
  NUL-terminated strings in fixed arrays, and the CHECKED accesses a C program makes to them.

  A C array of `n` bytes is `CArray n`: the bytes together with the proof that there are `n` of
  them, so that no access can change its size.  A string function of C walks such an array to its
  first NUL; an index computed with `size_t` arithmetic may fall outside it.  Both are faults
  here: every access returns in `Checked = Except Fault`, and a run that ends in `.ok` is a run
  in which every index was inside its array.

  `Holds b s` is the abstract reading: the array `b` holds the C string `s` (the bytes before its
  first NUL are exactly `s`, whatever stands after).  The lemmas below say what each access does
  to an array that holds a string, so that a proof about a string program never looks at an index:

  * `Holds.strlen`, `Holds.readRange`   — the length and any part of the string can be read;
  * `Holds.truncate`                    — a NUL written inside the string cuts it;
  * `Holds.append`                      — bytes and a NUL written over the NUL extend it;
  * `Holds.unique`, `Holds.cstr_eq`     — an array holds one string.

  What the code computes with these functions and what it costs to reason about them are kept apart:
  `readRange` and `writeRange` check their indices, as the code's array would fault, while `Holds`
  says what an array means.  A function of the source is modelled with the first; its lemma is
  stated with the second.  Where the code reads an array that it did not fill (an array on the
  stack, one that an earlier call left), no `Holds` is at hand, and `strlen` may fault.

  `Agrees` relates a program to the same program with accesses left out whose results nobody looks
  at, such as those of a debug print: the shorter one does what the longer one does wherever that
  does not fault.
-/

import Mathlib.Algebra.GroupWithZero.Nat
import Mathlib.Algebra.Ring.Int.Defs

namespace CMemory

/-- A string of bytes. -/
abbrev Bytes := List UInt8

/-- The bytes of an ASCII text.  Characters of a literal above 255 do not occur in the sources. -/
def ascii (s : String) : Bytes := s.toList.map fun c => UInt8.ofNat c.toNat

/-- The characters of a literal; to compute with a long one, it is rewritten with this. -/
theorem ascii_ofList (l : List Char) :
    ascii (String.ofList l) = l.map fun c => UInt8.ofNat c.toNat := by
  rw [ascii, String.toList_ofList]

theorem length_ascii (l : List Char) : (ascii (String.ofList l)).length = l.length := by
  rw [ascii_ofList, List.length_map]

/-- A C array of `n` bytes.  The size is part of the type, so an access is checked against the size
    the source declares and not against what happens to stand there. -/
abbrev CArray (n : Nat) := {b : Bytes // b.length = n}

/-- What can go wrong with an access: the index or the range is outside the array, or the walk
    to a NUL leaves it. -/
inductive Fault
  | outOfBounds (index size : Nat)
  | unterminated
  deriving DecidableEq, Repr

/-- A computation on arrays that may fault.  The fault is the result: nothing is said of what a C
    program would go on to do. -/
abbrev Checked := Except Fault

-- `(rfl)` and not `rfl`: used as a definitional rewrite, this lemma would make the kernel compare
-- whole programs by unfolding them
@[simp] theorem ok_bind {α β : Type} (a : α) (f : α → Checked β) :
    ((Except.ok a : Checked α) >>= f) = f a := (rfl)

@[simp] theorem error_bind {α β : Type} (e : Fault) (f : α → Checked β) :
    ((Except.error e : Checked α) >>= f) = Except.error e := (rfl)

/-- The computation does not fault: every index is inside its array, and every walk to a NUL ends
    inside. -/
def Safe {α : Type} (x : Checked α) : Prop := ∃ a, x = .ok a

theorem safe_ok {α : Type} (a : α) : Safe (.ok a : Checked α) := ⟨a, rfl⟩

theorem not_safe_error {α : Type} (e : Fault) : ¬ Safe (.error e : Checked α) := by
  rintro ⟨a, h⟩
  exact nomatch h

/-- **Two computations agree** when the second does whatever the first does without a fault.  The
    first may fault where the second goes on: it makes accesses that the second leaves out. -/
def Agrees {α : Type} (x y : Checked α) : Prop := ∀ a, x = .ok a → y = .ok a

theorem Agrees.refl {α : Type} (x : Checked α) : Agrees x x := fun _ h => h

/-- Step by step: what the first computation hands on, the second hands on as well. -/
theorem Agrees.bind {α β : Type} {x y : Checked α} {f g : α → Checked β} (h : Agrees x y)
    (hfg : ∀ a, x = .ok a → Agrees (f a) (g a)) : Agrees (x >>= f) (y >>= g) := by
  intro b hb
  cases x with
  | error e => exact nomatch hb
  | ok a =>
    have hy : y = .ok a := h a rfl
    rw [hy]
    exact hfg a rfl b hb

/-- An access whose result nobody looks at: the second computation leaves it out. -/
theorem Agrees.skip {α β : Type} {x : Checked α} {f : α → Checked β} {y : Checked β}
    (h : ∀ a, Agrees (f a) y) : Agrees (x >>= f) y := by
  intro b hb
  cases x with
  | error e => exact nomatch hb
  | ok a => exact h a b hb

/-- A branch, on a condition that both have. -/
theorem Agrees.ite {α : Type} {c : Prop} [Decidable c] {x y x' y' : Checked α} (h : Agrees x x')
    (h' : Agrees y y') : Agrees (if c then x else y) (if c then x' else y') := by
  by_cases hc : c
  · rw [if_pos hc, if_pos hc]
    exact h
  · rw [if_neg hc, if_neg hc]
    exact h'

/-- Where the first does not fault, the second does not either. -/
theorem Agrees.safe {α : Type} {x y : Checked α} (h : Agrees x y) (hx : Safe x) : Safe y := by
  obtain ⟨a, ha⟩ := hx
  exact ⟨a, h a ha⟩

/-! ## `size_t` arithmetic

  `size_t` is unsigned and has 32 bits on the boards this code runs on.  A length computed as a
  difference can therefore wrap, and a range with a wrapped length is outside every array. -/

/-- `SIZE_MAX + 1`. -/
@[irreducible] def sizeRange : Nat := 2 ^ 32

theorem sizeRange_eq : sizeRange = 4294967296 := by
  unfold sizeRange
  rfl

/-- `a - b` in `size_t`, 32 bits wide: it wraps below 0.  It is irreducible, so that a proof has to
    say on which side of the wrap it is. -/
@[irreducible] def sizeSub (a b : Nat) : Nat := (a + sizeRange - b) % sizeRange

/-- Without a borrow it is the difference of the numbers. -/
theorem sizeSub_of_le {a b : Nat} (h : b ≤ a) (ha : a < sizeRange) : sizeSub a b = a - b := by
  unfold sizeSub
  rw [show a + sizeRange - b = (a - b) + sizeRange by omega, Nat.add_mod_right]
  exact Nat.mod_eq_of_lt (by omega)

/-- Below 0 the difference lands `b - a` below the end of the range. -/
theorem sizeSub_of_lt {a b : Nat} (h : a < b) (hb : b ≤ sizeRange) :
    sizeSub a b + b = a + sizeRange := by
  unfold sizeSub
  rw [Nat.mod_eq_of_lt (by omega)]
  omega

/-! ## Accesses

  The elementary accesses, and the functions of `string.h` made of them.  All of them return in
  `Checked`, so a program is safe when the `do` block that models it returns `.ok`. -/

/-- One byte of an array. -/
def readByte {n : Nat} (b : CArray n) (i : Nat) : Checked UInt8 :=
  match b.1[i]? with
  | some x => .ok x
  | none => .error (.outOfBounds i n)

/-- `k` bytes of an array from index `i` on (the source of a `memcpy`). -/
def readRange {n : Nat} (b : CArray n) (i k : Nat) : Checked Bytes :=
  if i + k ≤ n then .ok ((b.1.drop i).take k) else .error (.outOfBounds i n)

/-- The bytes `x` written into an array from index `i` on (the target of a `memcpy`). -/
def writeRange {n : Nat} (b : CArray n) (i : Nat) (x : Bytes) : Checked (CArray n) :=
  if h : i + x.length ≤ n then
    .ok ⟨b.1.take i ++ x ++ b.1.drop (i + x.length), by
      obtain ⟨b, hb⟩ := b
      simp only [List.length_append, List.length_take, List.length_drop]
      omega⟩
  else .error (.outOfBounds i n)

/-- The bytes before the first NUL. -/
def cstr (b : Bytes) : Bytes := b.takeWhile (· != 0)

/-- `strlen`: the walk to the first NUL must end inside the array.  An array without a NUL is a
    fault, even if the memory behind it has one. -/
def strlen {n : Nat} (b : CArray n) : Checked Nat :=
  if (0 : UInt8) ∈ b.1 then .ok (cstr b.1).length else .error .unterminated

/-- `strcpy` of the C string in `src` over the start of `dst`, with its NUL.  It faults in two ways:
    no NUL in `src`, or too little room in `dst`. -/
def strcpy {n m : Nat} (dst : CArray n) (src : CArray m) : Checked (CArray n) := do
  let len ← strlen src
  let s ← readRange src 0 len
  writeRange dst 0 (s ++ [0])

/-- `snprintf (dst, n, ...)` of the text `s`: it is cut to the array and NUL-terminated. -/
def snprintf {n : Nat} (dst : CArray n) (s : Bytes) : Checked (CArray n) :=
  writeRange dst 0 (s.take (n - 1) ++ [0])

/-- `strcmp`: 0 for equal strings, else the sign of the first difference. -/
def strcmp : Bytes → Bytes → Int
  | [], [] => 0
  | [], _ :: _ => -1
  | _ :: _, [] => 1
  | a :: s, b :: t => if a = b then strcmp s t else if a < b then -1 else 1

/-- `strcmp` is 0 for equal strings and for no others. -/
theorem strcmp_eq_zero {s t : Bytes} : strcmp s t = 0 ↔ s = t := by
  induction s generalizing t with
  | nil => cases t <;> simp [strcmp]
  | cons a s ih =>
    cases t with
    | nil => simp [strcmp]
    | cons b t =>
      rw [strcmp, List.cons.injEq, ← ih]
      by_cases hab : a = b
      · simp [hab]
      · rw [if_neg hab]
        split <;> simp [hab]

/-- A range inside the array is read. -/
theorem readRange_eq {n i k : Nat} (b : CArray n) (h : i + k ≤ n) :
    readRange b i k = .ok ((b.1.drop i).take k) :=
  if_pos h

/-- A range inside the array is written, and nothing else of it changes. -/
theorem writeRange_eq {n i : Nat} (b : CArray n) {x : Bytes} (h : i + x.length ≤ n) :
    ∃ b', writeRange b i x = .ok b' ∧ b'.1 = b.1.take i ++ x ++ b.1.drop (i + x.length) := by
  unfold writeRange
  rw [dif_pos h]
  exact ⟨_, rfl, rfl⟩

/-- What was written is in the array. -/
theorem mem_of_writeRange {n i : Nat} {b b' : CArray n} {x : Bytes}
    (h : writeRange b i x = .ok b') {c : UInt8} (hc : c ∈ x) : c ∈ b'.1 := by
  unfold writeRange at h
  split at h
  case isTrue hle =>
    cases h
    exact List.mem_append_left _ (List.mem_append_right _ hc)
  case isFalse hlt => exact nomatch h

/-- `snprintf` fits every text into an array that has a byte at all, and terminates it. -/
theorem snprintf_terminated {n : Nat} (hn : 0 < n) (dst : CArray n) (s : Bytes) :
    ∃ b, snprintf dst s = .ok b ∧ (0 : UInt8) ∈ b.1 := by
  obtain ⟨b, hw, -⟩ := writeRange_eq dst (i := 0) (x := s.take (n - 1) ++ [0])
    (by rw [List.length_append, List.length_take, List.length_singleton]; omega)
  refine ⟨b, hw, mem_of_writeRange hw ?_⟩
  simp

/-- Reading the middle of an array given in three parts.  The positions are lengths of the parts, so
    no index has to be computed. -/
theorem readRange_append {n : Nat} {b : CArray n} {p m s : Bytes} (hb : b.1 = p ++ m ++ s) :
    readRange b p.length m.length = .ok m := by
  have hn := b.2
  rw [hb, List.length_append, List.length_append] at hn
  unfold readRange
  rw [if_pos (by omega), hb, List.append_assoc, List.drop_left, List.take_left]

/-- Writing the middle of an array given in three parts: the parts around it stay. -/
theorem writeRange_append {n : Nat} {b : CArray n} {p m s x : Bytes} (hb : b.1 = p ++ m ++ s)
    (hx : x.length = m.length) :
    ∃ b', writeRange b p.length x = .ok b' ∧ b'.1 = p ++ x ++ s := by
  have hn := b.2
  rw [hb, List.length_append, List.length_append] at hn
  obtain ⟨b', hw, hb'⟩ := writeRange_eq b (i := p.length) (x := x) (by omega)
  refine ⟨b', hw, ?_⟩
  rw [hb', hb, hx, ← List.length_append, List.drop_left, List.append_assoc p m s, List.take_left]

/-- A range that ends outside is a fault. -/
theorem readRange_of_lt {n i k : Nat} (b : CArray n) (h : n < i + k) :
    readRange b i k = .error (.outOfBounds i n) :=
  if_neg (by omega)

/-- A byte outside is a fault. -/
theorem readByte_of_ge {n i : Nat} (b : CArray n) (h : n ≤ i) :
    readByte b i = .error (.outOfBounds i n) := by
  unfold readByte
  rw [List.getElem?_eq_none (by rw [b.2]; exact h)]

theorem readByte_of_lt {n i : Nat} (b : CArray n) (h : i < n) :
    ∃ c, b.1[i]? = some c ∧ readByte b i = .ok c := by
  have hi : i < b.1.length := by rw [b.2]; exact h
  refine ⟨b.1.get ⟨i, hi⟩, List.getElem?_eq_getElem hi, ?_⟩
  unfold readByte
  rw [List.getElem?_eq_getElem hi]
  rfl

/-! ## The string an array holds -/

/-- No byte of the string is NUL. -/
def NulFree (s : Bytes) : Prop := ∀ c ∈ s, c ≠ 0

instance (s : Bytes) : Decidable (NulFree s) := List.decidableBAll _ s

theorem NulFree.append {s t : Bytes} (hs : NulFree s) (ht : NulFree t) : NulFree (s ++ t) := by
  intro c hc
  rcases List.mem_append.mp hc with h | h
  · exact hs c h
  · exact ht c h

theorem NulFree.left {s t : Bytes} (h : NulFree (s ++ t)) : NulFree s :=
  fun c hc => h c (List.mem_append_left t hc)

theorem NulFree.right {s t : Bytes} (h : NulFree (s ++ t)) : NulFree t :=
  fun c hc => h c (List.mem_append_right s hc)

/-- The first NUL ends the string, whatever stands after it. -/
theorem cstr_append_nul {s : Bytes} (hs : NulFree s) (t : Bytes) : cstr (s ++ 0 :: t) = s := by
  unfold cstr
  rw [List.takeWhile_append_of_pos fun c hc => bne_iff_ne.mpr (hs c hc)]
  simp

/-- Without a NUL the whole of the bytes are the string. -/
theorem cstr_of_nulFree {s : Bytes} (hs : NulFree s) : cstr s = s := by
  have h : List.takeWhile (· != (0 : UInt8)) (s ++ []) = s ++ List.takeWhile (· != 0) [] :=
    List.takeWhile_append_of_pos fun c hc => bne_iff_ne.mpr (hs c hc)
  simpa [cstr] using h

/-- **The array holds the C string `s`.** What stands behind the NUL is not mentioned: nobody who
    reads the string can see it. -/
def Holds {n : Nat} (b : CArray n) (s : Bytes) : Prop := NulFree s ∧ ∃ t, b.1 = s ++ 0 :: t

/-- The string and its NUL fit the array, so the string is shorter than it. -/
theorem Holds.length_lt {n : Nat} {b : CArray n} {s : Bytes} (h : Holds b s) : s.length < n := by
  obtain ⟨-, t, ht⟩ := h
  have hn := b.2
  rw [ht, List.length_append, List.length_cons] at hn
  omega

/-- The bytes before the first NUL are the string. -/
theorem Holds.cstr_eq {n : Nat} {b : CArray n} {s : Bytes} (h : Holds b s) : cstr b.1 = s := by
  obtain ⟨hs, t, ht⟩ := h
  rw [ht]
  exact cstr_append_nul hs t

/-- An array holds at most one string. -/
theorem Holds.unique {n : Nat} {b : CArray n} {s s' : Bytes} (h : Holds b s) (h' : Holds b s') :
    s = s' := h.cstr_eq.symm.trans h'.cstr_eq

/-- `strlen` of an array that holds a string is the length of the string, and no fault. -/
@[simp] theorem Holds.strlen {n : Nat} {b : CArray n} {s : Bytes} (h : Holds b s) :
    strlen b = .ok s.length := by
  have hc := h.cstr_eq
  obtain ⟨-, t, ht⟩ := h
  unfold CMemory.strlen
  rw [if_pos (by rw [ht]; simp), hc]

/-- Any part of the string can be read. -/
theorem Holds.readRange {n : Nat} {b : CArray n} {p m s : Bytes} (h : Holds b (p ++ m ++ s)) :
    readRange b p.length m.length = .ok m := by
  obtain ⟨-, t, ht⟩ := h
  exact readRange_append (s := s ++ 0 :: t) (by rw [ht]; simp)

theorem Holds.readRange_prefix {n : Nat} {b : CArray n} {p s : Bytes} (h : Holds b (p ++ s)) :
    CMemory.readRange b 0 p.length = .ok p :=
  Holds.readRange (p := []) (m := p) (s := s) h

theorem Holds.readRange_suffix {n : Nat} {b : CArray n} {p s : Bytes} (h : Holds b (p ++ s)) :
    CMemory.readRange b p.length s.length = .ok s :=
  Holds.readRange (p := p) (m := s) (s := []) (by simpa using h)

/-- An array of `n` bytes filled from a string, zeros behind it (`strncpy`). -/
def cstring (n : Nat) (s : Bytes) : CArray n := ⟨(s ++ List.replicate n 0).take n, by simp⟩

theorem holds_cstring {n : Nat} {s : Bytes} (hs : NulFree s) (h : s.length < n) :
    Holds (cstring n s) s := by
  obtain ⟨m, rfl⟩ : ∃ m, n = s.length + (m + 1) := ⟨n - s.length - 1, by omega⟩
  refine ⟨hs, List.replicate m 0, ?_⟩
  show (s ++ List.replicate _ 0).take (s.length + (m + 1)) = s ++ 0 :: List.replicate m 0
  rw [List.take_length_add_append, List.take_replicate, Nat.min_eq_left (by omega)]
  rfl

/-- A NUL written inside the string cuts it there. -/
theorem Holds.truncate {n : Nat} {b : CArray n} {p s : Bytes} (h : Holds b (p ++ s)) :
    ∃ b', writeRange b p.length [0] = .ok b' ∧ Holds b' p := by
  obtain ⟨hs, t, ht⟩ := h
  -- the byte that the NUL replaces is the old NUL, or the first byte of what is cut off
  cases s with
  | nil =>
    obtain ⟨b', hw, hb'⟩ := writeRange_append (b := b) (p := p) (m := [0]) (s := t) (x := [0])
      (by rw [ht]; simp) rfl
    exact ⟨b', hw, hs.left, t, by rw [hb']; simp⟩
  | cons c s =>
    obtain ⟨b', hw, hb'⟩ := writeRange_append (b := b) (p := p) (m := [c]) (s := s ++ 0 :: t)
      (x := [0]) (by rw [ht]; simp) rfl
    exact ⟨b', hw, hs.left, s ++ 0 :: t, by rw [hb']; simp⟩

/-- Bytes and a NUL written from the start of an array leave it holding those bytes. -/
theorem holds_writeRange {n : Nat} {b : CArray n} {x : Bytes} (hx : NulFree x)
    (h : x.length + 1 ≤ n) : ∃ b', writeRange b 0 (x ++ [0]) = .ok b' ∧ Holds b' x := by
  have hlen : (x ++ [0]).length = x.length + 1 := by simp
  obtain ⟨b', hw, hb'⟩ := writeRange_append (b := b) (p := []) (m := b.1.take (x.length + 1))
    (s := b.1.drop (x.length + 1)) (x := x ++ [0]) (by simp)
    (by rw [hlen, List.length_take, b.2]; omega)
  exact ⟨b', hw, hx, b.1.drop (x.length + 1), by rw [hb']; simp⟩

/-- Bytes and a NUL written over the end of the string extend it. -/
theorem Holds.append {n : Nat} {b : CArray n} {s x : Bytes} (h : Holds b s) (hx : NulFree x)
    (hn : s.length + x.length + 1 ≤ n) :
    ∃ b', writeRange b s.length (x ++ [0]) = .ok b' ∧ Holds b' (s ++ x) := by
  obtain ⟨hs, t, ht⟩ := h
  have hlen := b.2
  rw [ht, List.length_append, List.length_cons] at hlen
  obtain ⟨b', hw, hb'⟩ := writeRange_append (b := b) (p := s) (m := 0 :: t.take x.length)
    (s := t.drop x.length) (x := x ++ [0]) (by rw [ht]; simp)
    (by simp only [List.length_append, List.length_cons, List.length_take, List.length_nil]; omega)
  exact ⟨b', hw, hs.append hx, t.drop x.length, by rw [hb']; simp⟩

/-- `snprintf` of a text that fits leaves the array holding it. -/
theorem holds_snprintf {n : Nat} {b : CArray n} {x : Bytes} (hx : NulFree x)
    (h : x.length + 1 ≤ n) : ∃ b', snprintf b x = .ok b' ∧ Holds b' x := by
  unfold snprintf
  rw [List.take_of_length_le (by omega)]
  exact holds_writeRange hx h

/-- `strcpy` copies the string. -/
theorem Holds.strcpy {n m : Nat} {src : CArray m} {s : Bytes} (h : Holds src s) (dst : CArray n)
    (hn : s.length + 1 ≤ n) : ∃ b', strcpy dst src = .ok b' ∧ Holds b' s := by
  have hr : CMemory.readRange src 0 s.length = .ok s :=
    Holds.readRange_prefix (s := []) (by simpa using h)
  obtain ⟨b', hw, hb'⟩ := holds_writeRange (b := dst) h.1 hn
  exact ⟨b', by simp only [CMemory.strcpy, h.strlen, ok_bind, hr, hw], hb'⟩

end CMemory
