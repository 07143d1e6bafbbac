/-
  The FIELDS OF A REPLY, and what `extractField` makes of them.

  `extractField` is no parser: it looks for a name between quotes, then for a colon, and takes what
  stands behind it up to a quote, a comma or the end of its array.

  1. **Flat objects** (`FlatObject`) — the texts that it is meant for, and the stretches between
     their quotes (`text_eq_joined`).

  2. **The place** (`follows`) — a name may first stand in front of its colon, but also as the value
     of another member, or between two strings.  `extractField_text` says what is taken where.

  3. **The result** (`extracts_iff`) — what is taken is the value of the member, if and only if the
     name stands first in front of its colon and the value ends with a quote or a comma; or another
     part of the object stands at the place, and is the same text.  The value of `SUCS` in a reply
     that ends with it is not taken so (`success_with_brace`).

  The crux is that `extractField` sees no structure.  It looks for a pattern of bytes, so the
  statement about objects must be carried over to one about bytes, and the bytes that matter are the
  quotes: cut at them, the text of an object is a list of stretches, of which some are names, some
  are strings, and the others stand between two of these (`text_eq_joined`).  The name is found at
  the first stretch that equals it, whichever kind that is.  `follows` is the same walk over the
  members instead of the stretches, and `scanIn_stretches` says so by induction on the members; from
  there on nothing is about bytes.
-/

import GatewayLoRa.Gateway
import GatewayLoRa.Lib.Json
import GatewayLoRa.Lib.Quoted

namespace GatewayLoRa

open CMemory Quoted

/-! ## Flat objects

  The objects without escapes, nested values, and commas in their strings.  The replies of the
  server are of this form.  The invariants are fields: a name is plain, a string has no comma, and
  the names are distinct. -/

/-- The name of a member, without escapes. -/
abbrev FlatName := { k : Bytes // Json.Plain k }

/-- A name between quotes. -/
def FlatName.quoted (k : FlatName) : Bytes := 34 :: (k.1 ++ [34])

/-- A value that is a string without escapes and commas, a number, or a literal. -/
inductive FlatValue where
  | string (s : Bytes) (plain : Json.Plain s) (whole : 44 ∉ s)
  | number (w : Bytes) (isNumber : Json.number w = some (w, []))
  | bool (b : Bool)

namespace FlatValue

/-- The text of a value, without the quotes of a string. -/
def text : FlatValue → Bytes
  | string s _ _ => s
  | number w _ => w
  | bool b => ascii (if b then "true" else "false")

/-- Strings are printed with quotes. -/
def isString : FlatValue → Bool
  | string _ _ _ => true
  | _ => false

/-- A value as it is printed. -/
def printed (v : FlatValue) : Bytes := if v.isString then 34 :: (v.text ++ [34]) else v.text

/-- No value has a quote in its text, -/
theorem quote_not_mem_text (v : FlatValue) : 34 ∉ v.text := by
  cases v with
  | string s plain whole => exact fun h => (plain 34 h).1 rfl
  | number w isNumber =>
    exact fun h => absurd ((Json.number_numeric isNumber).2 34 h) (by decide)
  | bool b => cases b <;> decide

/-- nor a comma. -/
theorem comma_not_mem_text (v : FlatValue) : 44 ∉ v.text := by
  cases v with
  | string s plain whole => exact whole
  | number w isNumber =>
    exact fun h => absurd ((Json.number_numeric isNumber).2 44 h) (by decide)
  | bool b => cases b <;> decide

/-- A value without quotes has no blanks to be skipped. -/
theorem stripped_text {v : FlatValue} (h : v.isString = false) :
    v.text ≠ [] ∧ ∀ l, stripped 32 (v.text ++ l) = v.text ++ l := by
  have hbegin : ∃ c w, v.text = c :: w ∧ c ≠ 32 := by
    cases v with
    | string s plain whole => cases h
    | number w isNumber =>
      obtain ⟨hne, hall⟩ := Json.number_numeric isNumber
      obtain ⟨c, w, rfl⟩ := List.exists_cons_of_ne_nil hne
      refine ⟨c, w, rfl, ?_⟩
      rintro rfl
      exact absurd (hall 32 List.mem_cons_self) (by decide)
    | bool b =>
      cases b
      · exact ⟨102, ascii "alse", rfl, by decide⟩
      · exact ⟨116, ascii "rue", rfl, by decide⟩
  obtain ⟨c, w, heq, hc⟩ := hbegin
  rw [heq]
  exact ⟨List.cons_ne_nil c w, fun l => by simp [stripped, hc]⟩

end FlatValue

/-- A member, with its blanks behind the colon. -/
structure FlatMember where
  name : FlatName
  blanks : Nat
  value : FlatValue

/-- The colon of a member and the blanks behind it. -/
def FlatMember.colon (m : FlatMember) : Bytes := 58 :: List.replicate m.blanks 32

/-- The text of a member. -/
def FlatMember.text (m : FlatMember) : Bytes := m.name.quoted ++ m.colon ++ m.value.printed

/-- A flat object: its members have distinct names. -/
structure FlatObject where
  members : List FlatMember
  distinct : (members.map (·.name)).Nodup

/-- **The text of a flat object.** -/
def FlatObject.text (o : FlatObject) : Bytes :=
  123 :: ([44].intercalate (o.members.map (·.text)) ++ [125])

/-! ## Stretches

  What stands between two quotes.  A member with a string has four of them, name, colon, string and
  closing; one without has two, since nothing is quoted in it but the name. -/

/-- What stands behind a member. -/
def closing (isLast : Bool) : UInt8 := if isLast then 125 else 44

/-- The stretches of a member, behind its name. -/
def FlatMember.stretches (m : FlatMember) (isLast : Bool) : List Bytes :=
  if m.value.isString then [m.colon, m.value.text, [closing isLast]]
  else [m.colon ++ m.value.text ++ [closing isLast]]

/-- The stretches of members, behind the first quote. -/
def stretches : List FlatMember → List Bytes
  | [] => []
  | m :: ms => m.name.1 :: (m.stretches ms.isEmpty ++ stretches ms)

/-- The stretches of one member, joined again. -/
theorem quote_joined_stretches (m : FlatMember) (isLast : Bool) (ps : List Bytes) :
    34 :: joined 34 (m.name.1 :: (m.stretches isLast ++ ps)) =
      m.text ++ closing isLast :: if ps = [] then [] else 34 :: joined 34 ps := by
  rw [FlatMember.stretches, FlatMember.text, FlatName.quoted, FlatValue.printed]
  cases m.value.isString <;> cases ps <;> simp [joined_cons_cons, joined_singleton]

/-- A member has a stretch at least: its name. -/
theorem stretches_ne_nil {ms : List FlatMember} (h : ms ≠ []) : stretches ms ≠ [] := by
  cases ms with
  | nil => exact absurd rfl h
  | cons m ms => exact List.cons_ne_nil _ _

/-- The stretches of all members, joined again. -/
theorem quote_joined_members {ms : List FlatMember} (h : ms ≠ []) :
    34 :: joined 34 (stretches ms) = [44].intercalate (ms.map (·.text)) ++ [125] := by
  induction ms with
  | nil => exact absurd rfl h
  | cons m ms ih =>
    rw [stretches, quote_joined_stretches]
    cases ms with
    | nil => simp [stretches, closing]
    | cons n ms =>
      have hne : n :: ms ≠ [] := List.cons_ne_nil n ms
      rw [if_neg (stretches_ne_nil hne), ih hne]
      simp [closing]

/-- **The text of an object is made of its stretches.** -/
theorem text_eq_joined (o : FlatObject) :
    o.text = joined 34 ((if o.members = [] then [123, 125] else [123]) :: stretches o.members) := by
  rw [FlatObject.text]
  by_cases h : o.members = []
  · rw [if_pos h, h]
    rfl
  · rw [if_neg h, joined_cons (stretches_ne_nil h), quote_joined_members h]
    rfl

/-- There is no quote in front of a value, -/
theorem colon_free (m : FlatMember) : 34 ∉ m.colon := by
  simp [FlatMember.colon]

/-- and none in any stretch. -/
theorem stretches_free (ms : List FlatMember) : Free 34 (stretches ms) := by
  induction ms with
  | nil => exact nofun
  | cons m ms ih =>
    refine List.forall_mem_cons.mpr ⟨fun h => (m.name.2 34 h).1 rfl, ?_⟩
    refine List.forall_mem_append.mpr ⟨?_, ih⟩
    have hclosing : 34 ∉ [closing ms.isEmpty] := by cases ms.isEmpty <;> decide
    have htext := m.value.quote_not_mem_text
    have hcolon := colon_free m
    rw [FlatMember.stretches]
    split <;> simp_all

/-! ## The scan

  The calls of the C library, in the words of `Lib.Quoted`. -/

namespace ExchangingMessages

/-- `strstr` looks for the key from each place on. -/
theorem strstr_eq_search (key s : Bytes) : strstr key s = search key s := by
  induction s with
  | nil => rfl
  | cons c s ih => rw [strstr, search, ih]

/-- What stands behind the character that `strchr` finds. -/
theorem strchr_tail (s : Bytes) (c : UInt8) : (strchr s c).map List.tail = beyond c s := by
  induction s with
  | nil => rfl
  | cons d s ih =>
    rw [strchr] at ih ⊢
    by_cases hd : d = c
    · simp [beyond, hd]
    · rw [beyond, if_neg hd, ← ih]
      simp [hd]

/-- **`extractField` scans for a name between quotes**, and cuts what it finds. -/
theorem extractField_eq_scan (json k : Bytes) (maxLen : Nat) :
    extractField json (34 :: (k ++ [34])) maxLen =
      (scan 34 58 32 44 k json).map (List.take (maxLen - 1)) := by
  have hskip : (fun c : UInt8 => c == 32 || c == 34) = fun c => decide (c = 32 ∨ c = 34) := by
    funext c
    simp [Bool.decide_or, beq_eq_decide]
  have hstop : (fun c : UInt8 => c != 34 && c != 44) = fun c => decide (c ≠ 34 ∧ c ≠ 44) := by
    funext c
    simp [Bool.decide_and, bne, beq_eq_decide]
  rw [extractField, hskip, hstop, scan, strstr_eq_search]
  cases search (34 :: (k ++ [34])) json with
  | none => rfl
  | some found =>
    show ((strchr found 58).map _) = ((beyond 58 found).map _).map _
    rw [← strchr_tail, Option.map_map, Option.map_map]
    rfl

end ExchangingMessages

open ExchangingMessages

/-! ## The place

  Where the name is found decides what is taken, and there are four places: a name, the colon
  between a name and its value, a string, and the comma between two members.  At each of them the
  next colon is looked for, and it is not always the colon of the same member. -/

/-- What is taken of a member from its value on: nothing but a quote or a comma ends it. -/
def FlatMember.fromValue (m : FlatMember) (isLast : Bool) : Bytes :=
  let t := stripped 32 m.value.text
  if isLast ∧ (t = [] ∨ m.value.isString = false) then t ++ [125] else t

/-- What is taken of a member from its colon on. -/
def FlatMember.fromColon (m : FlatMember) (isLast : Bool) : Bytes :=
  if m.value.isString then m.colon
  else m.colon ++ m.value.text ++ if isLast then [125] else []

/-- What is taken of a member from its name on, which may have a colon of its own. -/
def FlatMember.fromName (m : FlatMember) (isLast : Bool) : Bytes :=
  match beyond 58 m.name.1 with
  | none => m.fromValue isLast
  | some b => if stripped 32 b = [] then m.fromColon isLast else upTo 44 (stripped 32 b)

/-- The name stands in a member from its colon on up to a quote. -/
def FlatMember.IsColon (m : FlatMember) (isLast : Bool) (k : Bytes) : Prop :=
  if m.value.isString then m.colon = k
  else isLast = false ∧ m.colon ++ m.value.text ++ [44] = k

instance (m : FlatMember) (isLast : Bool) (k : Bytes) : Decidable (m.IsColon isLast k) :=
  inferInstanceAs (Decidable (ite _ _ _))

/-- The name stands as the string value of a member, or behind it up to the next member. -/
def FlatMember.IsString (m : FlatMember) (isLast : Bool) (k : Bytes) : Prop :=
  m.value.isString = true ∧ (m.value.text = k ∨ isLast = false ∧ k = [44])

instance (m : FlatMember) (isLast : Bool) (k : Bytes) : Decidable (m.IsString isLast k) :=
  inferInstanceAs (Decidable (_ ∧ _))

/-- What is taken of the next member, if there is one. -/
def fromNext : List FlatMember → Option Bytes
  | [] => none
  | m :: ms => some (m.fromName ms.isEmpty)

/-- What is taken where the name stands as a string: what it has behind a colon of its own, or the
    next member. -/
def fromString (k : Bytes) (ms : List FlatMember) : Option Bytes :=
  match beyond 58 k with
  | none => fromNext ms
  | some b =>
      some (if stripped 32 b = [] then (if ms.isEmpty then [125] else []) else stripped 32 b)

/-- **What is taken**, by the place where the name first stands between two quotes. -/
def follows (k : Bytes) : List FlatMember → Option Bytes
  | [] => none
  | m :: ms =>
      if m.name.1 = k then some (m.fromName ms.isEmpty)
      else if m.IsColon ms.isEmpty k then some (m.fromValue ms.isEmpty)
      else if m.IsString ms.isEmpty k then fromString k ms
      else follows k ms

/-- The word behind the first colon of the stretches. -/
abbrev colonWord (ps : List Bytes) : Option Bytes := (beyondIn 58 ps).map (wordIn 32 44)

/-- Behind the last member stands a brace, which nothing stops; behind another one a comma, which
    does. -/
theorem wordIn_closing (isLast : Bool) (ps : List Bytes) :
    wordIn 32 44 ([closing isLast] :: ps) = if isLast then [125] else [] := by
  cases isLast <;> rfl

/-- Blanks are blanks. -/
theorem blanks_eq (m : FlatMember) : ∀ c ∈ List.replicate m.blanks (32 : UInt8), c = 32 :=
  fun _ hc => List.eq_of_mem_replicate hc

/-- A colon and its blanks have no comma. -/
theorem comma_not_mem_colon (m : FlatMember) : 44 ∉ m.colon := by
  simp [FlatMember.colon]

/-- What is left in front of a comma of what closes a member. -/
theorem upTo_closing (isLast : Bool) : upTo 44 [closing isLast] = if isLast then [125] else [] := by
  cases isLast <;> rfl

/-- **From a value on.** -/
theorem colonWord_stretches (m : FlatMember) (isLast : Bool) (ps : List Bytes) :
    colonWord (m.stretches isLast ++ ps) = some (m.fromValue isLast) := by
  have hwhole := m.value.comma_not_mem_text
  rw [FlatMember.stretches, FlatMember.fromValue]
  -- a string ends at its quote; any other value at the comma behind it, or with the brace
  cases hstring : m.value.isString with
  | true =>
    have hblank : stripped 32 (List.replicate m.blanks (32 : UInt8)) = [] := by
      have := stripped_append_of_blank (blanks_eq m) []
      rwa [List.append_nil] at this
    have hupTo : upTo 44 (stripped 32 m.value.text) = stripped 32 m.value.text :=
      upTo_of_not_mem fun h => hwhole (stripped_subset 32 _ h)
    show some (wordIn 32 44
      (List.replicate m.blanks 32 :: m.value.text :: [closing isLast] :: ps)) = _
    rw [wordIn, if_pos hblank, wordIn, wordIn_closing, hupTo]
    cases isLast <;> by_cases ht : stripped 32 m.value.text = [] <;> simp [ht]
  | false =>
    obtain ⟨hne, hstripped⟩ := FlatValue.stripped_text hstring
    have htext : stripped 32 m.value.text = m.value.text := by
      have := hstripped []
      rwa [List.append_nil] at this
    show some (wordIn 32 44
      ((List.replicate m.blanks 32 ++ m.value.text ++ [closing isLast]) :: ps)) = _
    rw [wordIn, List.append_assoc, stripped_append_of_blank (blanks_eq m), hstripped,
      if_neg (by simp), upTo_append hwhole, upTo_closing, htext]
    cases isLast <;> simp

/-- **From a name on.** -/
theorem colonWord_member (m : FlatMember) (isLast : Bool) (ps : List Bytes) :
    colonWord (m.name.1 :: (m.stretches isLast ++ ps)) = some (m.fromName isLast) := by
  rw [FlatMember.fromName, colonWord, beyondIn]
  cases beyond 58 m.name.1 with
  | none => exact colonWord_stretches m isLast ps
  | some b =>
    have hcolon : wordIn 32 44 (m.stretches isLast ++ ps) = m.fromColon isLast := by
      rw [FlatMember.stretches, FlatMember.fromColon]
      cases m.value.isString with
      | true =>
        show upTo 44 m.colon = _
        exact upTo_of_not_mem (comma_not_mem_colon m)
      | false =>
        show upTo 44 (m.colon ++ m.value.text ++ [closing isLast]) = _
        rw [List.append_assoc, upTo_append (comma_not_mem_colon m),
          upTo_append m.value.comma_not_mem_text, upTo_closing, ← List.append_assoc]
        rfl
    show some (wordIn 32 44 (b :: (m.stretches isLast ++ ps))) = _
    rw [wordIn, hcolon]

/-- Behind a string there is no colon but in the next member. -/
theorem colonWord_closing (ms : List FlatMember) :
    colonWord ([closing ms.isEmpty] :: stretches ms) = fromNext ms := by
  cases ms with
  | nil => rfl
  | cons m ms => exact colonWord_member m ms.isEmpty (stretches ms)

/-- **From a string on.** -/
theorem colonWord_string {k : Bytes} (hk : 44 ∉ k) (ms : List FlatMember) :
    colonWord (k :: [closing ms.isEmpty] :: stretches ms) = fromString k ms := by
  rw [fromString, ← colonWord_closing, colonWord, beyondIn]
  cases hb : beyond 58 k with
  | none => rfl
  | some b =>
    have hupTo : upTo 44 (stripped 32 b) = stripped 32 b :=
      upTo_of_not_mem fun h => hk ((suffix_of_beyond hb).subset (stripped_subset 32 b h))
    show some (wordIn 32 44 (b :: [closing ms.isEmpty] :: stretches ms)) = _
    rw [wordIn, wordIn_closing, hupTo]

/-- Between two members. -/
theorem scanIn_closing (k : Bytes) (ms : List FlatMember) :
    scanIn 58 32 44 k ([closing ms.isEmpty] :: stretches ms) =
      if ms.isEmpty = false ∧ k = [44] then fromString k ms
      else scanIn 58 32 44 k (stretches ms) := by
  cases ms with
  | nil => rfl
  | cons m ms =>
    rw [scanIn_cons _ _ _ _ _ (stretches_ne_nil (List.cons_ne_nil m ms))]
    by_cases hk : [44] = k
    · subst hk
      have hclosing : [closing (m :: ms).isEmpty] = [44] := rfl
      rw [if_pos hclosing, if_pos ⟨rfl, rfl⟩]
      exact colonWord_member m ms.isEmpty (stretches ms)
    · have hclosing : ¬ [closing (m :: ms).isEmpty] = k := hk
      rw [if_neg hclosing, if_neg fun h => hk h.2.symm]

/-- **Behind a name** come its colon, its value and the next member. -/
theorem scanIn_member (k : Bytes) (m : FlatMember) (ms : List FlatMember) :
    scanIn 58 32 44 k (m.stretches ms.isEmpty ++ stretches ms) =
      if m.IsColon ms.isEmpty k then some (m.fromValue ms.isEmpty)
      else if m.IsString ms.isEmpty k then fromString k ms
      else scanIn 58 32 44 k (stretches ms) := by
  have hvalue := colonWord_stretches m ms.isEmpty (stretches ms)
  rw [FlatMember.stretches] at hvalue ⊢
  -- behind the name stand three stretches if the value is in quotes, and one if it is not
  cases hstring : m.value.isString with
  | true =>
    have hIsColon : m.IsColon ms.isEmpty k ↔ m.colon = k := by simp [FlatMember.IsColon, hstring]
    have hIsString : m.IsString ms.isEmpty k ↔
        m.value.text = k ∨ ms.isEmpty = false ∧ k = [44] := and_iff_right hstring
    rw [hstring, if_pos rfl] at hvalue
    rw [if_pos rfl, if_congr hIsColon rfl (if_congr hIsString rfl rfl)]
    show scanIn 58 32 44 k (m.colon :: m.value.text :: [closing ms.isEmpty] :: stretches ms) = _
    rw [scanIn_cons _ _ _ _ _ (List.cons_ne_nil _ _), scanIn_cons _ _ _ _ _ (List.cons_ne_nil _ _),
      scanIn_closing]
    by_cases hcolon : m.colon = k
    · rw [if_pos hcolon, if_pos hcolon]
      exact hcolon ▸ hvalue
    · rw [if_neg hcolon, if_neg hcolon]
      by_cases htext : m.value.text = k
      · rw [if_pos htext, if_pos (.inl htext)]
        exact colonWord_string (htext ▸ m.value.comma_not_mem_text) ms
      · rw [if_neg htext, if_congr (or_iff_right htext) rfl rfl]
  | false =>
    have hIsColon : m.IsColon ms.isEmpty k ↔
        ms.isEmpty = false ∧ m.colon ++ m.value.text ++ [44] = k := by
      simp [FlatMember.IsColon, hstring]
    have hIsString : ¬ m.IsString ms.isEmpty k := fun h => absurd h.1 (by simp [hstring])
    rw [hstring, if_neg Bool.false_ne_true] at hvalue
    rw [if_neg Bool.false_ne_true, if_neg hIsString, if_congr hIsColon rfl rfl,
      List.singleton_append]
    cases ms with
    -- the last stretch of an object is not closed by a quote, and is never looked at
    | nil => rfl
    | cons n ms =>
      rw [scanIn_cons _ _ _ _ _ (stretches_ne_nil (List.cons_ne_nil n ms))]
      by_cases hk : m.colon ++ m.value.text ++ [44] = k
      · have hclosing : m.colon ++ m.value.text ++ [closing (n :: ms).isEmpty] = k := hk
        rw [if_pos hclosing, if_pos ⟨rfl, hk⟩, ← hclosing]
        exact hvalue
      · have hclosing : m.colon ++ m.value.text ++ [closing (n :: ms).isEmpty] ≠ k := hk
        rw [if_neg hclosing, if_neg fun h => hk h.2]

/-- **The scan finds what follows the place.** -/
theorem scanIn_stretches (k : Bytes) (ms : List FlatMember) :
    scanIn 58 32 44 k (stretches ms) = follows k ms := by
  induction ms with
  | nil => rfl
  | cons m ms ih =>
    have hne : m.stretches ms.isEmpty ++ stretches ms ≠ [] := by
      rw [FlatMember.stretches]
      split <;> simp
    rw [stretches, scanIn_cons _ _ _ _ _ hne, scanIn_member, ih, follows]
    split
    · next hname => exact hname ▸ colonWord_member m ms.isEmpty (stretches ms)
    · rfl

/-- **What `extractField` takes of a flat object.** -/
theorem extractField_text (o : FlatObject) (k : FlatName) (maxLen : Nat) :
    extractField o.text k.quoted maxLen = (follows k.1 o.members).map (List.take (maxLen - 1)) := by
  have hk : 34 ∉ k.1 := fun h => (k.2 34 h).1 rfl
  have hfree : Free 34 ((if o.members = [] then [123, 125] else [123]) :: stretches o.members) := by
    refine List.forall_mem_cons.mpr ⟨?_, stretches_free o.members⟩
    split <;> decide
  rw [FlatName.quoted, extractField_eq_scan, text_eq_joined, scan_joined (by decide) 32 44 hk hfree,
    scanIn_stretches]

/-! ## A name found in front of its colon

  The case that `extractField` was written for.  Even here a value may be read wrongly: the last one
  ends with a brace, and a string that begins with a blank loses it. -/

/-- The name stands nowhere in front of the member, and ends before the colon. -/
def FoundFirst (front : List FlatMember) (k : Bytes) : Prop :=
  58 ∉ k ∧ ∀ m ∈ front, ¬ m.IsString false k

/-- The value ends with a quote or a comma, or where the array does, and does not begin with a
    blank. -/
def FlatMember.Readable (m : FlatMember) (isLast : Bool) : Prop :=
  if m.value.isString then
    if m.value.text = [] then isLast = false else m.value.text.head? ≠ some 32
  else isLast = true → m.value.text.length = 29

/-- A name that equals what stands around a colon has a colon in it. -/
theorem FlatMember.IsColon.colon_mem {m : FlatMember} {isLast : Bool} {k : Bytes}
    (h : m.IsColon isLast k) : 58 ∈ k := by
  rw [IsColon] at h
  split at h
  · rw [← h]
    exact List.mem_cons_self
  · rw [← h.2]
    exact List.mem_cons_self

/-- If the name stands nowhere in front of the member, the walk comes to it. -/
theorem follows_of_first {k : Bytes} {front behind : List FlatMember} {m : FlatMember}
    (hfirst : FoundFirst front k) (hfront : ∀ m' ∈ front, m'.name.1 ≠ k) (hm : m.name.1 = k) :
    follows k (front ++ m :: behind) = some (m.fromValue behind.isEmpty) := by
  induction front with
  | nil =>
    rw [List.nil_append, follows, if_pos hm, FlatMember.fromName, hm,
      beyond_eq_none_iff.mpr hfirst.1]
  | cons m' front ih =>
    obtain ⟨hname, hfront⟩ := List.forall_mem_cons.mp hfront
    obtain ⟨hstring, hstrings⟩ := List.forall_mem_cons.mp hfirst.2
    have hnext : (front ++ m :: behind).isEmpty = false := by simp
    rw [List.cons_append, follows, hnext, if_neg hname,
      if_neg fun h : m'.IsColon false k => hfirst.1 h.colon_mem, if_neg hstring]
    exact ih ⟨hfirst.1, hstrings⟩ hfront

/-- **What is taken from a value on is the value**, if it is readable. -/
theorem take_fromValue_iff {m : FlatMember} {isLast : Bool} (hlength : m.value.text.length ≤ 29) :
    (m.fromValue isLast).take 29 = m.value.text ↔ m.Readable isLast := by
  rw [FlatMember.Readable, FlatMember.fromValue]
  cases hstring : m.value.isString with
  | true =>
    rw [if_pos rfl]
    by_cases hnil : m.value.text = []
    · rw [if_pos hnil, hnil]
      cases isLast <;> simp [stripped]
    · rw [if_neg hnil]
      constructor
      · intro htake hhead
        -- what is taken does not begin with a blank
        split at htake
        · next h =>
          rw [h.2.resolve_right (by decide)] at htake
          rw [← htake] at hhead
          exact absurd hhead (by decide)
        · rw [← htake, List.head?_take, if_neg (by decide)] at hhead
          exact head?_stripped 32 m.value.text hhead
      · intro hhead
        rw [stripped_of_head hhead, if_neg fun h => hnil (h.2.resolve_right (by decide))]
        exact List.take_of_length_le hlength
  | false =>
    obtain ⟨hne, hstripped⟩ := FlatValue.stripped_text hstring
    have htext : stripped 32 m.value.text = m.value.text := by
      have := hstripped []
      rwa [List.append_nil] at this
    rw [if_neg Bool.false_ne_true, htext]
    cases isLast with
    | false =>
      rw [if_neg fun h => Bool.false_ne_true h.1]
      exact iff_of_true (List.take_of_length_le hlength) fun h => absurd h Bool.false_ne_true
    | true =>
      rw [if_pos ⟨rfl, .inr rfl⟩, List.take_append]
      constructor
      · intro htake _
        have := congrArg List.length htake
        simp only [List.length_append, List.length_take, List.length_singleton] at this
        omega
      · intro hfull
        have hfull := hfull rfl
        rw [List.take_of_length_le hlength, hfull]
        simp

/-! ## A name that is not found

  Nothing is taken only if the pattern occurs nowhere, or occurs in the last member with no colon
  behind it. -/

/-- Behind a string nothing is taken if it is the last one and has no colon. -/
theorem fromString_eq_none_iff {k : Bytes} {ms : List FlatMember} :
    fromString k ms = none ↔ ms = [] ∧ 58 ∉ k := by
  rw [fromString, ← beyond_eq_none_iff]
  cases beyond 58 k <;> cases ms <;> simp [fromNext]

/-- **A name that no member has is not found**, if it stands nowhere else with a colon in it or
    behind it. -/
theorem follows_eq_none_iff {k : Bytes} {ms : List FlatMember} (hname : ∀ m ∈ ms, m.name.1 ≠ k) :
    follows k ms = none ↔
      ∀ m behind, m :: behind <:+ ms → m.IsColon behind.isEmpty k ∨ m.IsString behind.isEmpty k →
        behind = [] ∧ 58 ∉ k := by
  induction ms with
  | nil =>
    refine iff_of_true rfl fun m behind h => ?_
    exact absurd (List.suffix_nil.mp h) (List.cons_ne_nil m behind)
  | cons m ms ih =>
    obtain ⟨hm, hms⟩ := List.forall_mem_cons.mp hname
    have hsplit : (∀ m' behind, m' :: behind <:+ m :: ms →
          m'.IsColon behind.isEmpty k ∨ m'.IsString behind.isEmpty k → behind = [] ∧ 58 ∉ k) ↔
        (m.IsColon ms.isEmpty k ∨ m.IsString ms.isEmpty k → ms = [] ∧ 58 ∉ k) ∧
          follows k ms = none := by
      rw [ih hms]
      constructor
      · exact fun h => ⟨h m ms (List.suffix_refl _),
          fun m' behind hsuffix => h m' behind (hsuffix.trans (List.suffix_cons m ms))⟩
      · rintro ⟨hfirst, hrest⟩ m' behind hsuffix
        rcases List.suffix_cons_iff.mp hsuffix with heq | hsuffix
        · obtain ⟨rfl, rfl⟩ := List.cons.inj heq
          exact hfirst
        · exact hrest m' behind hsuffix
    rw [hsplit, follows, if_neg hm]
    by_cases hcolon : m.IsColon ms.isEmpty k
    · rw [if_pos hcolon]
      exact iff_of_false nofun fun h => (h.1 (.inl hcolon)).2 hcolon.colon_mem
    · rw [if_neg hcolon]
      by_cases hstring : m.IsString ms.isEmpty k
      · rw [if_pos hstring, fromString_eq_none_iff]
        constructor
        · rintro ⟨rfl, hmark⟩
          exact ⟨fun _ => ⟨rfl, hmark⟩, rfl⟩
        · exact fun h => h.1 (.inr hstring)
      · rw [if_neg hstring]
        exact (and_iff_right fun h => (h.elim hcolon hstring).elim).symm

/-! ## The result -/

/-- **What `ExchangingMessages` expects of a reply**: asked for the name of a member it gets the
    member's value, and asked for a name that no member has it gets nothing. -/
def FieldAgrees (o : FlatObject) (k : FlatName) : Prop :=
  (∀ m ∈ o.members, m.name = k → m.value.text.length ≤ 29 →
    extractField o.text k.quoted 30 = some m.value.text) ∧
  ((∀ m ∈ o.members, m.name ≠ k) → extractField o.text k.quoted 30 = none)

/-- **When a name is read as the object has it.**  The three fields are the three places where the
    name may stand first. -/
structure Extracts (o : FlatObject) (k : FlatName) : Prop where
  /-- In front of its own colon: then the value must end where the scan stops, at a quote or a
      comma. -/
  first : ∀ front m behind, o.members = front ++ m :: behind → m.name = k →
    m.value.text.length ≤ 29 → FoundFirst front k.1 → m.Readable behind.isEmpty
  /-- Earlier, between two quotes that are not those of a name, as the value of another member or
      as what stands between two strings: then what follows there must be the same text. -/
  elsewhere : ∀ front m behind, o.members = front ++ m :: behind → m.name = k →
    m.value.text.length ≤ 29 → ¬ FoundFirst front k.1 →
      (follows k.1 o.members).map (List.take 29) = some m.value.text
  /-- Never as a name: then it may stand between other quotes only where no colon is left behind
      it, which is in the last member. -/
  absent : (∀ m ∈ o.members, m.name ≠ k) → ∀ m behind, m :: behind <:+ o.members →
    m.IsColon behind.isEmpty k.1 ∨ m.IsString behind.isEmpty k.1 → behind = [] ∧ 58 ∉ k.1

theorem extractField_first {o : FlatObject} {k : FlatName} {front behind : List FlatMember}
    {m : FlatMember} (ho : o.members = front ++ m :: behind) (hm : m.name = k)
    (hfirst : FoundFirst front k.1) :
    extractField o.text k.quoted 30 = some ((m.fromValue behind.isEmpty).take 29) := by
  have hfront : ∀ m' ∈ front, m'.name.1 ≠ k.1 := by
    intro m' hm' heq
    have hdistinct := o.distinct
    rw [ho, List.map_append, List.map_cons, List.nodup_append] at hdistinct
    exact hdistinct.2.2 m'.name (List.mem_map_of_mem hm') m.name List.mem_cons_self
      ((Subtype.ext heq).trans hm.symm)
  rw [extractField_text, ho, follows_of_first hfirst hfront (congrArg Subtype.val hm)]
  rfl

/-- **A field is extracted as the object has it** exactly then. -/
theorem extracts_iff (o : FlatObject) (k : FlatName) : FieldAgrees o k ↔ Extracts o k := by
  have hnone : extractField o.text k.quoted 30 = none ↔ follows k.1 o.members = none := by
    rw [extractField_text, Option.map_eq_none_iff]
  have hnames : (∀ m ∈ o.members, m.name ≠ k) → ∀ m ∈ o.members, m.name.1 ≠ k.1 :=
    fun h m hm heq => h m hm (Subtype.ext heq)
  constructor
  · rintro ⟨hmember, habsent⟩
    have hread : ∀ front m behind, o.members = front ++ m :: behind → m.name = k →
        m.value.text.length ≤ 29 → extractField o.text k.quoted 30 = some m.value.text :=
      fun front m behind ho hm hlength => hmember m (by simp [ho]) hm hlength
    refine ⟨fun front m behind ho hm hlength hfirst => ?_,
      fun front m behind ho hm hlength _ => ?_, fun hname => ?_⟩
    · have := hread front m behind ho hm hlength
      rw [extractField_first ho hm hfirst] at this
      exact (take_fromValue_iff hlength).mp (Option.some.inj this)
    · rw [← hread front m behind ho hm hlength, extractField_text]
    · exact (follows_eq_none_iff (hnames hname)).mp (hnone.mp (habsent hname))
  · intro h
    refine ⟨fun m hmem hm hlength => ?_, fun hname => ?_⟩
    · obtain ⟨front, behind, ho⟩ := List.append_of_mem hmem
      by_cases hfirst : FoundFirst front k.1
      · rw [extractField_first ho hm hfirst]
        have hreadable := h.first front m behind ho hm hlength hfirst
        exact congrArg some ((take_fromValue_iff hlength).mpr hreadable)
      · rw [extractField_text]
        exact h.elsewhere front m behind ho hm hlength hfirst
    · exact hnone.mpr ((follows_eq_none_iff (hnames hname)).mpr (h.absent hname))

/-- A reply with one member. -/
def successReply : FlatObject := ⟨[⟨⟨ascii "SUCS", by decide⟩, 0, .bool true⟩], by simp⟩

/-- **Success is read with the brace behind it**, and is none. -/
theorem success_with_brace :
    successReply.text = ascii "\x7b\"SUCS\":true\x7d" ∧
      extractField successReply.text (ascii "\"SUCS\"") 30 = some (ascii "true\x7d") ∧
      ¬ FieldAgrees successReply ⟨ascii "SUCS", by decide⟩ := by
  have hread : extractField successReply.text (ascii "\"SUCS\"") 30 = some (ascii "true\x7d") := by
    decide
  refine ⟨by decide, hread, fun h => ?_⟩
  have hvalue := h.1 _ List.mem_cons_self rfl (by decide)
  exact absurd (hread.symm.trans hvalue) (by decide)

end GatewayLoRa
