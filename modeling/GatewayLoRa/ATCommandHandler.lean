/-
  `ATCommandHandler`: LINES out of the bytes of the modem, one byte a call.

  A call of `readATResponse` takes one byte off the UART, if there is one.  It appends the byte to
  the buffer of the handler, or, when the byte is a CR or LF and the buffer is not empty, copies the
  line to the caller and begins a new one.  There are two overloads.  The one with a buffer size
  cuts the line to it; when the handler's own buffer is full, it begins anew, where the other one
  drops the byte.  The buffer belongs to the handler, and outlives the calls of all its callers.

  1. **The line** (`ATCommandHandler`) — what the buffer holds before `bufferIndex`, with the proof
     that there is room for a NUL behind it.

  2. **One call** (`readATResponse_snd`, `readATResponseSized_snd`) — a line that was completed, cut.

  3. **The buffer** (`kept`) — what it holds, computed from the bytes of the stretch under way alone.

  4. **A run** (`lines_assembled`) — whatever the polls and the overloads, the strings returned are
     the non-empty stretches between the terminators, in order.

  The crux is the buffer between two terminators.  Several state machines read through one handler,
  each with its own overload, so a line may be begun by one, go on with another, and be returned to
  a third.  What the buffer holds is therefore not a property of a caller; it is a fold over the
  bytes of the stretch, each with the overload that read it (`kept`), and the invariant says no more
  than that.  As long as the stretch has at most 1023 bytes the overloads do not matter, and a line
  is what the modem has sent.
-/

import GatewayLoRa.Lib.Stretches
import GatewayLoRa.Transceiver
import Mathlib.Data.List.Basic
import Mathlib.Data.List.Induction
import Mathlib.Data.List.TakeWhile

namespace GatewayLoRa

open CMemory Machine Stretches

/-! ## The handler

  The two overloads differ in one branch each, so they are one function with a parameter: the
  handler that is left when there is no room. -/

/-- `BUFFER_LEN_AT_COMMAND_HANDLER`. -/
abbrev bufferLenATCommandHandler : Nat := 1024

/-- The handler: the bytes of `buffer` before `bufferIndex`. -/
structure ATCommandHandler where
  line : Bytes
  room : line.length ≤ bufferLenATCommandHandler - 1
  deriving DecidableEq

/-- A carriage return or a line feed. -/
def isTerminator (c : UInt8) : Bool := c == 13 || c == 10

namespace ATCommandHandler

/-- The handler after a line, or as it is constructed. -/
def empty : ATCommandHandler := ⟨[], Nat.zero_le _⟩

/-- `buffer[bufferIndex++] = receivedChar`, where there is room; else `full`. -/
def push (h full : ATCommandHandler) (c : UInt8) : ATCommandHandler :=
  if hroom : h.line.length < bufferLenATCommandHandler - 1 then
    ⟨h.line ++ [c], by rw [List.length_append]; exact hroom⟩
  else full

/-- A call that finds `byte` at the UART: the handler after it, and the string in the buffer if the
    line is complete. -/
def receive (h full : ATCommandHandler) (byte : Option UInt8) : ATCommandHandler × Option Bytes :=
  match byte with
  | none => (h, none)
  | some c =>
      if isTerminator c then if 0 < h.line.length then (empty, some (cstr h.line)) else (h, none)
      else (h.push full c, none)

/-- `readATResponse (StringToBeRead)`: a byte too many is dropped. -/
def readATResponse (h : ATCommandHandler) (byte : Option UInt8) :
    ATCommandHandler × Option Bytes :=
  h.receive h byte

/-- `readATResponse (StringToBeRead, bufferSize)`: a byte too many empties the buffer, and the line
    is cut to the array. -/
def readATResponseSized (bufferSize : Nat) (h : ATCommandHandler) (byte : Option UInt8) :
    ATCommandHandler × Option Bytes :=
  if bufferSize = 0 then (h, none)
  else
    let (h', line) := h.receive empty byte
    (h', line.map fun l => l.take (bufferSize - 1))

/-- `readChar`. -/
def readChar (byte : Option UInt8) : Option UInt8 := byte

/-- The line that a call finds completed. -/
def completes (h : ATCommandHandler) (byte : Option UInt8) : Option Bytes :=
  if byte.any isTerminator ∧ 0 < h.line.length then some h.line else none

/-- A terminator ends the line, unless it is empty. -/
theorem receive_terminator (h full : ATCommandHandler) {c : UInt8} (hc : isTerminator c = true) :
    h.receive full (some c) = (empty, if h.line = [] then none else some (cstr h.line)) := by
  obtain ⟨line, room⟩ := h
  cases line with
  | nil => simp [receive, hc, empty]
  | cons b line => simp [receive, hc]

/-- Another byte goes behind the line. -/
theorem receive_other (h full : ATCommandHandler) {c : UInt8} (hc : isTerminator c = false) :
    h.receive full (some c) = (h.push full c, none) := by
  simp [receive, hc]

/-- With room, the byte is appended. -/
theorem push_line {h full : ATCommandHandler} {c : UInt8}
    (hroom : h.line.length < bufferLenATCommandHandler - 1) :
    (h.push full c).line = h.line ++ [c] := by
  rw [push, dif_pos hroom]

/-- What is returned is the line in front of its first NUL. -/
theorem receive_snd (h full : ATCommandHandler) (byte : Option UInt8) :
    (h.receive full byte).2 = (h.completes byte).map cstr := by
  cases byte with
  | none => rfl
  | some c =>
    rw [receive, completes, Option.any_some]
    by_cases hc : isTerminator c = true <;> by_cases hline : 0 < h.line.length <;> simp [hc, hline]

/-- **What a call without a buffer size returns.** -/
theorem readATResponse_snd (h : ATCommandHandler) (byte : Option UInt8) :
    (h.readATResponse byte).2 = (h.completes byte).map cstr := h.receive_snd h byte

/-- **What a call with a buffer size returns** is what the polls of the state machines say. -/
theorem readATResponseSized_snd {bufferSize : Nat} (hsize : bufferSize ≠ 0) (h : ATCommandHandler)
    (byte : Option UInt8) :
    (h.readATResponseSized bufferSize byte).2 =
      GatewayLoRa.readATResponse bufferSize (h.completes byte) := by
  rw [readATResponseSized, if_neg hsize, GatewayLoRa.readATResponse]
  show (h.receive empty byte).2.map _ = _
  rw [receive_snd, Option.map_map]
  rfl

end ATCommandHandler

/-! ## The machine

  A run is a list of reads, each with its overload and with the byte that the UART has ready, if
  any.  The schedule of the callers is in that list. -/

/-- How a caller reads: without a buffer size, or with one. -/
inductive Overload
  | unsized
  | sized (bufferSize : Nat)
  deriving DecidableEq

/-- One call: the overload, and the byte that the UART has ready. -/
structure ReadPoll where
  overload : Overload
  byte : Option UInt8
  deriving DecidableEq

/-- The call of an overload. -/
def Overload.read : Overload → ATCommandHandler → Option UInt8 → ATCommandHandler × Option Bytes
  | .unsized => ATCommandHandler.readATResponse
  | .sized bufferSize => ATCommandHandler.readATResponseSized bufferSize

/-- **One call**, with the string that it returns. -/
def ATCommandHandler.step (h : ATCommandHandler) (i : ReadPoll) : ATCommandHandler × List Bytes :=
  ((i.overload.read h i.byte).1, (i.overload.read h i.byte).2.toList)

/-- What a caller gets of a line. -/
def Overload.cut : Overload → Bytes → Bytes
  | .unsized, line => line
  | .sized bufferSize, line => line.take (bufferSize - 1)

/-- The bytes that arrive, each with the overload that reads it. -/
def arrivals (is : List ReadPoll) : List (UInt8 × Overload) :=
  is.filterMap fun i => i.byte.map fun c => (c, i.overload)

/-- The byte is a terminator. -/
def ends (a : UInt8 × Overload) : Bool := isTerminator a.1

/-- What a caller gets of a stretch and its terminator, if anything. -/
def returned (e : List (UInt8 × Overload) × (UInt8 × Overload)) : Option Bytes :=
  if e.1 = [] then none else some (e.2.2.cut (e.1.map Prod.fst))

/-- The buffer size is at least 1, if there is one. -/
def ReadPoll.HasSize (i : ReadPoll) : Prop := i.overload ≠ .sized 0

instance (i : ReadPoll) : Decidable i.HasSize := inferInstanceAs (Decidable (_ ≠ _))

/-! ## What the buffer holds

  For stretches of any length.  A stretch that fills the buffer goes two ways: reads without a size
  wait for the terminator, and a bounded read throws the buffer away, together with its own byte,
  and the rest of the stretch begins a new one.  `unflushed` is the stretch from the last such place
  on. -/

/-- One more byte behind a line; where there is no room it is dropped, or empties the buffer. -/
def Overload.keep (o : Overload) (line : Bytes) (c : UInt8) : Bytes :=
  if line.length < bufferLenATCommandHandler - 1 then line ++ [c]
  else match o with
    | .unsized => line
    | .sized _ => []

/-- **What the buffer holds of a stretch** that is under way. -/
def kept (x : List (UInt8 × Overload)) : Bytes := x.foldl (fun line a => a.2.keep line a.1) []

/-- What is returned of a stretch that is ended. -/
def yielded (e : List (UInt8 × Overload) × (UInt8 × Overload)) : Option Bytes :=
  if kept e.1 = [] then none else some (e.2.2.cut (cstr (kept e.1)))

/-- One byte more. -/
theorem kept_concat (x : List (UInt8 × Overload)) (c : UInt8) (o : Overload) :
    kept (x ++ [(c, o)]) = o.keep (kept x) c := by
  rw [kept, List.foldl_append]
  rfl

/-- A stretch with room in the buffer is kept whole. -/
theorem kept_of_length_le {x : List (UInt8 × Overload)}
    (hx : x.length ≤ bufferLenATCommandHandler - 1) : kept x = x.map Prod.fst := by
  induction x using List.reverseRecOn with
  | nil => rfl
  | append_singleton x a ih =>
    rw [List.length_append, List.length_singleton] at hx
    have hkept := ih (by omega)
    have hroom : (x.map Prod.fst).length < bufferLenATCommandHandler - 1 := by
      rw [List.length_map]
      omega
    rw [kept_concat, hkept, List.map_append]
    exact if_pos hroom

/-- A stretch without the bytes that bounded reads have thrown away: when such a read meets the full
    buffer it empties it, and drops the byte that it has read.  The stretch then goes on as if it
    began behind that byte. -/
def unflushed (x : List (UInt8 × Overload)) : List (UInt8 × Overload) :=
  match _h : (x.drop (bufferLenATCommandHandler - 1)).dropWhile fun a => a.2 == .unsized with
  | [] => x
  | _ :: rest => unflushed rest
termination_by x.length
decreasing_by
  have hle := (List.dropWhile_suffix (l := x.drop (bufferLenATCommandHandler - 1))
    fun a => a.2 == .unsized).length_le
  rw [_h, List.length_cons, List.length_drop] at hle
  omega

/-- Reads without a size drop what they read while the buffer is full. -/
theorem foldl_keep_unsized {x : List (UInt8 × Overload)} {line : Bytes}
    (hfull : x ≠ [] → ¬ line.length < bufferLenATCommandHandler - 1)
    (hx : ∀ a ∈ x, a.2 = .unsized) : x.foldl (fun line a => a.2.keep line a.1) line = line := by
  induction x with
  | nil => rfl
  | cons a x ih =>
    have hfull := hfull (List.cons_ne_nil a x)
    have ha : a.2.keep line a.1 = line := by
      rw [hx a (List.mem_cons_self ..)]
      exact if_neg hfull
    rw [List.foldl_cons, ha]
    exact ih (fun _ => hfull) fun b hb => hx b (List.mem_cons_of_mem a hb)

/-- The first bytes of a stretch fill the buffer. -/
theorem full_of_drop_ne_nil {x : List (UInt8 × Overload)}
    (h : x.drop (bufferLenATCommandHandler - 1) ≠ []) :
    ¬ ((x.take (bufferLenATCommandHandler - 1)).map Prod.fst).length <
      bufferLenATCommandHandler - 1 := by
  have hlen := List.length_pos_iff.mpr h
  rw [List.length_drop] at hlen
  rw [List.length_map, List.length_take]
  omega

/-- After them nothing happens up to the first bounded read. -/
theorem kept_eq_foldl (x : List (UInt8 × Overload)) :
    kept x = ((x.drop (bufferLenATCommandHandler - 1)).dropWhile fun a => a.2 == .unsized).foldl
      (fun line a => a.2.keep line a.1)
      ((x.take (bufferLenATCommandHandler - 1)).map Prod.fst) := by
  have htake : kept (x.take (bufferLenATCommandHandler - 1)) =
      (x.take (bufferLenATCommandHandler - 1)).map Prod.fst :=
    kept_of_length_le (by rw [List.length_take]; omega)
  have hunsized : ∀ a ∈ (x.drop (bufferLenATCommandHandler - 1)).takeWhile
      fun a => a.2 == .unsized, a.2 = .unsized := by
    intro a ha
    have heq := List.mem_takeWhile_imp ha
    exact beq_iff_eq.mp heq
  have hdropped := foldl_keep_unsized
    (fun hsome => full_of_drop_ne_nil fun hnil => hsome (by rw [hnil, List.takeWhile_nil])) hunsized
  calc kept x = (x.drop (bufferLenATCommandHandler - 1)).foldl (fun line a => a.2.keep line a.1)
        (kept (x.take (bufferLenATCommandHandler - 1))) := by
        unfold kept
        rw [← List.foldl_append, List.take_append_drop]
    _ = _ := by
        rw [htake]
        conv_lhs => rw [← List.takeWhile_append_dropWhile (p := fun a => a.2 == .unsized)
          (l := x.drop (bufferLenATCommandHandler - 1))]
        rw [List.foldl_append, hdropped]

/-- **The buffer holds the first bytes of what was not thrown away**, as many as it has room for. -/
theorem kept_eq (x : List (UInt8 × Overload)) :
    kept x = ((unflushed x).map Prod.fst).take (bufferLenATCommandHandler - 1) := by
  induction x using unflushed.induct with
  | case1 x hnone =>
    rw [unflushed, hnone, kept_eq_foldl, hnone, List.map_take]
    rfl
  | case2 x a rest hcons ih =>
    -- a bounded read meets the full buffer
    have hsized : (a.2 == Overload.unsized) = false := by
      have hhead := List.head?_dropWhile_not (fun a => a.2 == Overload.unsized)
        (x.drop (bufferLenATCommandHandler - 1))
      rwa [hcons] at hhead
    have hfull := full_of_drop_ne_nil (x := x) fun hnil => by
      rw [hnil] at hcons
      exact nomatch hcons
    have hempties : a.2.keep ((x.take (bufferLenATCommandHandler - 1)).map Prod.fst) a.1 = [] := by
      unfold Overload.keep
      rw [if_neg hfull]
      cases ha : a.2 with
      | unsized => exact absurd (ha ▸ hsized) (by decide)
      | sized bufferSize => rfl
    rw [unflushed, hcons, kept_eq_foldl, hcons, List.foldl_cons, hempties]
    exact ih

/-! ## A run

  By induction on its end, since what the buffer holds is determined by the last bytes. -/

section Run

variable {h : ATCommandHandler} {o : Overload} {c : UInt8}

/-- Without a byte nothing happens. -/
theorem Overload.read_none : o.read h none = (h, none) := by
  cases o with
  | unsized => rfl
  | sized bufferSize =>
    rw [Overload.read, ATCommandHandler.readATResponseSized]
    split <;> rfl

/-- A terminator returns the line and empties the buffer. -/
theorem Overload.read_terminator (ho : o ≠ .sized 0) (hc : isTerminator c = true) :
    o.read h (some c) = (.empty, if h.line = [] then none else some (o.cut (cstr h.line))) := by
  cases o with
  | unsized =>
    rw [Overload.read, ATCommandHandler.readATResponse, h.receive_terminator h hc]
    rfl
  | sized bufferSize =>
    have hsize : bufferSize ≠ 0 := fun h => ho (h ▸ rfl)
    rw [Overload.read, ATCommandHandler.readATResponseSized, if_neg hsize,
      h.receive_terminator .empty hc]
    dsimp only
    split <;> rfl

/-- Another byte goes behind the line, if there is room, and nothing is returned. -/
theorem Overload.read_other (ho : o ≠ .sized 0) (hc : isTerminator c = false) :
    (o.read h (some c)).2 = none ∧ (o.read h (some c)).1.line = o.keep h.line c := by
  unfold Overload.keep
  cases o with
  | unsized =>
    rw [Overload.read, ATCommandHandler.readATResponse, h.receive_other h hc]
    refine ⟨rfl, ?_⟩
    split
    · next hroom => exact ATCommandHandler.push_line hroom
    · next hfull => exact congrArg ATCommandHandler.line (dif_neg hfull)
  | sized bufferSize =>
    have hsize : bufferSize ≠ 0 := fun h => ho (h ▸ rfl)
    rw [Overload.read, ATCommandHandler.readATResponseSized, if_neg hsize,
      h.receive_other .empty hc]
    dsimp only
    refine ⟨rfl, ?_⟩
    split
    · next hroom => exact ATCommandHandler.push_line hroom
    · next hfull => exact congrArg ATCommandHandler.line (dif_neg hfull)

/-- **One read**: the buffer holds what it keeps of the stretch under way, and what is returned is
    what is kept of the stretch that the read ends, if it ends one. -/
theorem read_ends {is : List ReadPoll} {i : ReadPoll} (hi : i.HasSize)
    (hline : h.line = kept (since ends (arrivals is))) :
    (i.overload.read h i.byte).1.line = kept (since ends (arrivals (is ++ [i]))) ∧
      ∃ new, ended ends (arrivals (is ++ [i])) = ended ends (arrivals is) ++ new ∧
        (∀ e ∈ new, e.2.2 = i.overload) ∧
        (i.overload.read h i.byte).2.toList = new.filterMap yielded := by
  obtain ⟨o, byte⟩ := i
  cases byte with
  | none =>
    have harrivals : arrivals (is ++ [⟨o, none⟩]) = arrivals is := by simp [arrivals]
    rw [harrivals, Overload.read_none]
    exact ⟨hline, [], (List.append_nil _).symm, nofun, rfl⟩
  | some c =>
    have harrivals : arrivals (is ++ [⟨o, some c⟩]) = arrivals is ++ [(c, o)] := by simp [arrivals]
    rw [harrivals, ended_concat, since_concat]
    cases hc : isTerminator c with
    | true =>
      have hends : ends (c, o) = true := hc
      rw [Overload.read_terminator hi hc, if_pos hends, if_pos hends]
      refine ⟨rfl, _, rfl, fun e he => ?_, ?_⟩
      · rw [List.mem_singleton.mp he]
      · rw [List.filterMap_cons, yielded, hline]
        split <;> split <;> simp_all
    | false =>
      have hends : ¬ ends (c, o) = true := by rw [ends, hc]; exact Bool.false_ne_true
      obtain ⟨hnothing, hkeep⟩ := Overload.read_other (h := h) hi hc
      rw [if_neg hends, if_neg hends]
      refine ⟨?_, [], rfl, nofun, ?_⟩
      · rw [hkeep, hline, kept_concat]
      · rw [hnothing]
        rfl

/-- **The invariant of a run**, by induction on its end. -/
theorem run_yields {is : List ReadPoll} (hsize : ∀ i ∈ is, i.HasSize) :
    (run ATCommandHandler.step ⟨.empty, []⟩ is).state.line = kept (since ends (arrivals is)) ∧
      (run ATCommandHandler.step ⟨.empty, []⟩ is).trace =
        (ended ends (arrivals is)).filterMap yielded := by
  induction is using List.reverseRecOn with
  | nil => exact ⟨rfl, rfl⟩
  | append_singleton is i ih =>
    have hboth := List.forall_mem_append.mp hsize
    obtain ⟨hline, htrace⟩ := ih hboth.1
    obtain ⟨hline', new, hended, -, hreturned⟩ :=
      read_ends (hboth.2 i (List.mem_singleton.mpr rfl)) hline
    rw [run_append, run_cons, run_nil, hended, List.filterMap_append, ← htrace, ← hreturned]
    exact ⟨hline', rfl⟩

end Run

/-- **Lines are assembled exactly, whatever the polls.**  The strings that the calls return are the
    non-empty stretches free of terminators that a terminator ends, in order, each cut as the
    overload cuts that reads the terminator. -/
theorem lines_assembled {is : List ReadPoll} (hsize : ∀ i ∈ is, i.HasSize)
    (hnul : NulFree ((arrivals is).map Prod.fst))
    (hlong : ∀ e ∈ ended ends (arrivals is), e.1.length ≤ 1023) :
    (run ATCommandHandler.step ⟨.empty, []⟩ is).trace =
      (ended ends (arrivals is)).filterMap returned := by
  rw [(run_yields hsize).2]
  refine List.filterMap_congr fun e he => ?_
  have hkept : kept e.1 = e.1.map Prod.fst := kept_of_length_le (hlong e he)
  have hwhole : cstr (e.1.map Prod.fst) = e.1.map Prod.fst :=
    cstr_of_nulFree fun b hb => hnul b (List.map_subset Prod.fst (subset_of_ended he) hb)
  simp only [yielded, returned, hkept, hwhole, List.map_eq_nil_iff]

/-- Two lines: the first read by both overloads, the second completed by a caller with four bytes. -/
def twoLines : List ReadPoll :=
  [⟨.unsized, some 79⟩, ⟨.sized 1, none⟩, ⟨.sized 128, some 75⟩, ⟨.unsized, some 13⟩,
    ⟨.sized 128, some 10⟩] ++
  (ascii "CONNECT").map (fun c => ⟨.sized 1, some c⟩) ++ [⟨.sized 4, some 13⟩, ⟨.unsized, some 69⟩]

/-- The two lines, one of them cut to three characters. -/
theorem twoLines_assembled :
    (run ATCommandHandler.step ⟨.empty, []⟩ twoLines).trace = [ascii "OK", ascii "CON"] := by
  have hsize : ∀ i ∈ twoLines, i.HasSize := by decide
  exact (lines_assembled hsize (by decide) (by decide)).trans (by decide)

end GatewayLoRa
