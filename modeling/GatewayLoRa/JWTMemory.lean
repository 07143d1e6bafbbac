/-
  The memory that a `JWTManager` takes from the heap for its calls.

  Each call of `encodeJWT` and `decodeJWT` has `CustomJWT::allocateJWTMemory` take four blocks,
  works in them, and has `CustomJWT::clear` release them.  `decodeJWT` returns before `clear`
  when the token is not one that the manager's key signed.  So a sequence of calls keeps the memory
  balanced exactly when every token that it decodes is a signed one (`memory_balanced_iff`).

  The crux is that a call is either a whole round or none of it.  `step_signed`: it takes the next
  four blocks and releases the same four, and a round over blocks that nothing before has touched
  keeps the trace balanced.  `step_unsigned`: it takes four and releases none, and the flag that it
  leaves set is enough to tell.

  The object is the one that `JWTManager` constructs: nothing of it is allocated statically, and the
  signature is `generateSignature`.  The heap hands out its blocks in order.  What the calls write
  into the blocks does not decide what they release; whether it fits is `JWTManager.Fits`.
-/

import GatewayLoRa.JWT
import GatewayLoRa.Lib.Allocation
import GatewayLoRa.Lib.Machine

namespace GatewayLoRa

open CMemory Allocation Machine

/-! ## Decoding

  The inverse of `base64urlEncode`, and what C does with a string that is cut at dots.  `strtok`
  skips the delimiters it starts at, so it never returns an empty piece. -/

namespace Base64URL

/-- `base64urlDecTable`: the value of a letter. -/
def base64urlDecTable (c : UInt8) : Option Nat :=
  (List.range 64).find? fun n => base64urlEncTable n = c

/-- The loop of `base64urlDecode`, and its last block: the bytes it writes, and whether all the
    letters are in the alphabet. -/
def decodeBlocks : Bytes → Bytes × Bool
  | a :: b :: c :: d :: l =>
      match base64urlDecTable a, base64urlDecTable b, base64urlDecTable c, base64urlDecTable d with
      | some a, some b, some c, some d =>
          let value := ((a * 64 + b) * 64 + c) * 64 + d
          let rest := decodeBlocks l
          (UInt8.ofNat (value / 65536) :: UInt8.ofNat (value / 256) :: UInt8.ofNat value :: rest.1,
            rest.2)
      | _, _, _, _ => ([], false)
  -- a last block of three letters has two bytes, and one of two has one
  | [a, b, c] =>
      match base64urlDecTable a, base64urlDecTable b, base64urlDecTable c with
      | some a, some b, some c =>
          let value := (a * 64 + b) * 64 + c
          ([UInt8.ofNat (value / 1024), UInt8.ofNat (value / 4)], true)
      | _, _, _ => ([], false)
  | [a, b] =>
      match base64urlDecTable a, base64urlDecTable b with
      | some a, some b => ([UInt8.ofNat ((a * 64 + b) / 16)], true)
      | _, _ => ([], false)
  | [a] => ([], (base64urlDecTable a).isSome)
  | [] => ([], true)

/-- `base64urlDecode`; a length of 1 mod 4 is refused before anything is written. -/
def base64urlDecode (input : Bytes) : Bytes × Bool :=
  if input.length % 4 = 1 then ([], false) else decodeBlocks input

/-- The length that `base64urlDecode` leaves in `outputLen`, which it sets only when it succeeds. -/
def decodedLength (input : Bytes) (outputLen : Nat) : Nat :=
  if (base64urlDecode input).2 then (base64urlDecode input).1.length else outputLen

end Base64URL

/-- `strtok`, for one delimiter: the token it returns, and what its next call goes on with. -/
def strtok (delimiter : UInt8) (s : Bytes) : Option (Bytes × Bytes) :=
  match s.dropWhile (· = delimiter) with
  | [] => none
  | c :: l => some ((c :: l).takeWhile (· ≠ delimiter), (c :: l).dropWhile (· ≠ delimiter))

/-! ## The object and its memory

  Four pointers, four lengths and a flag.  A block of the heap is a number; what is written into it
  does not matter here. -/

namespace CustomJWT

/-- The members of a `CustomJWT` that its calls change. -/
structure State where
  header : Option Nat
  payload : Option Nat
  signature : Option Nat
  out : Option Nat
  headerLength : Nat
  payloadLength : Nat
  signatureLength : Nat
  outputLength : Nat
  memoryAllocationDone : Bool

/-- **`allocateJWTMemory`**, for the maxima of `JWTManager`; `nextBlock` is the block that the heap
    hands out next. -/
def State.allocateJWTMemory (jwt : State) (nextBlock : Nat) : State × List Event :=
  ({ jwt with
      header := some nextBlock
      payload := some (nextBlock + 1)
      signature := some (nextBlock + 2)
      out := some (nextBlock + 3)
      memoryAllocationDone := true },
    [.malloc nextBlock JWTManager.allocation.b64HeaderLen,
      .malloc (nextBlock + 1) JWTManager.allocation.b64PayloadLen,
      .malloc (nextBlock + 2) JWTManager.allocation.b64SigLen,
      .malloc (nextBlock + 3) JWTManager.allocation.maxOutputLen])

/-- `free`, if the pointer is not null. -/
def release (pointer : Option Nat) : List Event := (pointer.map .free).toList

/-- **`clear`**. -/
def State.clear (jwt : State) : State × List Event :=
  ({ jwt with
      header := none
      payload := none
      signature := none
      out := none
      memoryAllocationDone := false },
    release jwt.header ++ release jwt.payload ++ release jwt.signature ++ release jwt.out)

/-- `encodeJWT`: the lengths it sets and what it leaves in `out`; `none` when there is no memory. -/
def State.encodeJWT (P : Primitives) (secret : Bytes) (jwt : State) (string : Bytes) :
    Option (State × Bytes) :=
  if jwt.memoryAllocationDone then
    some ({ jwt with
        headerLength := (Base64URL.base64urlEncode headerJSON).length
        payloadLength := (Base64URL.base64urlEncode string).length
        signatureLength := (generateSignature P secret (toHash string)).length
        outputLength := (CustomJWT.encodeJWT P secret string).length },
      CustomJWT.encodeJWT P secret string)
  else none

/-- What a decoding ends with: its code, the object, and the bytes it wrote to `payload`. -/
structure Decoded where
  code : Int
  jwt : State
  payload : Bytes

/-- **`decodeJWT`**. -/
def State.decodeJWT (P : Primitives) (secret : Bytes) (jwt : State) (string : Bytes) : Decoded :=
  if jwt.memoryAllocationDone then
    match strtok 46 string with
    | none => ⟨2, jwt, []⟩
    | some (b64Head, string) =>
      match strtok 46 string with
      | none => ⟨2, jwt, []⟩
      | some (b64Payload, string) =>
        match strtok 46 string with
        | none => ⟨2, jwt, []⟩
        | some (b64Signature, string) =>
          if (strtok 46 string).isSome then ⟨2, jwt, []⟩
          else
            let testSignature := generateSignature P secret (b64Head ++ ascii "." ++ b64Payload)
            if testSignature.length ≠ b64Signature.length then ⟨3, jwt, []⟩
            else if b64Signature ≠ testSignature then ⟨3, jwt, []⟩
            else
              -- the results of `base64urlDecode` are not looked at
              ⟨0, { jwt with
                  headerLength := Base64URL.decodedLength b64Head jwt.headerLength
                  payloadLength := Base64URL.decodedLength b64Payload jwt.payloadLength
                  signatureLength := b64Signature.length },
                (Base64URL.base64urlDecode b64Payload).1⟩
  else ⟨1, jwt, []⟩

/-- **Nothing is held**: the four pointers are null, and no allocation is noted. -/
structure State.Cleared (jwt : State) : Prop where
  header : jwt.header = none
  payload : jwt.payload = none
  signature : jwt.signature = none
  out : jwt.out = none
  memoryAllocationDone : jwt.memoryAllocationDone = false

/-- After `clear` nothing is held. -/
theorem cleared_clear (jwt : State) : jwt.clear.1.Cleared := ⟨rfl, rfl, rfl, rfl, rfl⟩

/-- **Refinement**: an encoding works with the memory there is, and writes the token of
    `CustomJWT.encodeJWT`. -/
theorem encodeJWT_refines {P : Primitives} {secret string text : Bytes} {jwt jwt' : State}
    (h : jwt.encodeJWT P secret string = some (jwt', text)) :
    jwt'.clear.2 = jwt.clear.2 ∧ text = CustomJWT.encodeJWT P secret string := by
  simp only [State.encodeJWT] at h
  split at h
  · obtain ⟨rfl, rfl⟩ := Prod.mk.inj (Option.some.inj h)
    exact ⟨rfl, rfl⟩
  · cases h

end CustomJWT

/-! ## The calls of the manager

  A call takes its memory, works, and gives it back.  Where the code returns in between, the outcome
  has the events up to there. -/

namespace JWTManager

/-- A manager, and the block that the heap hands out next. -/
structure State where
  jwt : CustomJWT.State
  nextBlock : Nat

/-- What a call leaves: what its caller gets, the manager, and what was asked of the heap. -/
structure Outcome (ρ : Type) where
  result : ρ
  state : State
  events : List Event

/-- **`encodeJWT (payloadToJWT, jwtEncoded)`**; an argument may be null. -/
def State.encodeJWT (P : Primitives) (manager : State) (payloadToJWT jwtEncoded : Option Bytes) :
    Outcome (Option Bytes) :=
  match payloadToJWT, jwtEncoded with
  | some string, some _ =>
      let allocated := manager.jwt.allocateJWTMemory manager.nextBlock
      let encoded := (allocated.1.encodeJWT P JWTKey string).getD (allocated.1, [])
      let cleared := encoded.1.clear
      ⟨some encoded.2, ⟨cleared.1, manager.nextBlock + 4⟩, allocated.2 ++ cleared.2⟩
  | _, jwtEncoded => ⟨jwtEncoded, manager, []⟩

/-- **`decodeJWT (jwtToDecode, payloadRetrieved)`**; an argument may be null. -/
def State.decodeJWT (P : Primitives) (manager : State)
    (jwtToDecode payloadRetrieved : Option Bytes) : Outcome (Bool × Option Bytes) :=
  match jwtToDecode, payloadRetrieved with
  | some token, some _ =>
      let allocated := manager.jwt.allocateJWTMemory manager.nextBlock
      let decoded := allocated.1.decodeJWT P JWTKey token
      if decoded.code ≠ 0 then
        ⟨(false, payloadRetrieved), ⟨decoded.jwt, manager.nextBlock + 4⟩, allocated.2⟩
      else
        let cleared := decoded.jwt.clear
        ⟨(true, some ((cstr decoded.payload).take decoded.jwt.payloadLength)),
          ⟨cleared.1, manager.nextBlock + 4⟩, allocated.2 ++ cleared.2⟩
  | _, payloadRetrieved => ⟨(false, payloadRetrieved), manager, []⟩

/-- A call of a manager. -/
inductive Call where
  | encodeJWT (payloadToJWT jwtEncoded : Option Bytes)
  | decodeJWT (jwtToDecode payloadRetrieved : Option Bytes)
  deriving DecidableEq

/-- A call, as a step: the manager it leaves and what it asks of the heap. -/
def step (P : Primitives) (manager : State) : Call → State × List Event
  | .encodeJWT payloadToJWT jwtEncoded =>
      let o := manager.encodeJWT P payloadToJWT jwtEncoded
      (o.state, o.events)
  | .decodeJWT jwtToDecode payloadRetrieved =>
      let o := manager.decodeJWT P jwtToDecode payloadRetrieved
      (o.state, o.events)

/-- `JWTManager ()`; the lengths are not set. -/
def State.initial (headerLength payloadLength signatureLength outputLength nextBlock : Nat) : State :=
  ⟨⟨none, none, none, none, headerLength, payloadLength, signatureLength, outputLength, false⟩,
    nextBlock⟩

/-! ## Which tokens are decoded

  What the three calls of `strtok` see of a token is its list of parts (`parts_of_strtok`); so the
  code of `decodeJWT` is decided by that list. -/

end JWTManager

/-- The parts of a token: what stands between its dots, the empty pieces left out. -/
def parts (token : Bytes) : List Bytes := (token.splitOn 46).filter (· ≠ [])

/-- A dot in front is skipped. -/
theorem parts_dot (s : Bytes) : parts (46 :: s) = parts s := by
  rw [parts, List.splitOn_cons_eq_if_modifyHead]
  rfl

/-- A piece up to the next dot, or to the end, is a part unless it is empty. -/
theorem parts_piece {t rest : Bytes} (hne : t ≠ []) (hfree : 46 ∉ t)
    (hrest : rest = [] ∨ ∃ r, rest = 46 :: r) : parts (t ++ rest) = t :: parts rest := by
  rcases hrest with rfl | ⟨r, rfl⟩
  · rw [List.append_nil, parts, List.splitOn_eq_singleton hfree]
    simp [hne, parts]
  · rw [parts_dot, parts, List.splitOn_append_cons_self, List.splitOn_eq_singleton hfree]
    simp [hne, parts]

/-- **`strtok` returns the parts**, one after the other. -/
theorem parts_of_strtok (s : Bytes) :
    parts s = match strtok 46 s with
      | none => []
      | some (t, rest) => t :: parts rest := by
  -- over the letters: a dot is skipped, and any other letter begins a piece
  induction s with
  | nil => rfl
  | cons c s ih =>
    by_cases hc : c = 46
    · -- a leading dot is skipped, and cuts off an empty piece
      subst hc
      have hskip : strtok 46 (46 :: s) = strtok 46 s := rfl
      rw [parts_dot, hskip, ih]
    · have hkeep : (c :: s).dropWhile (· = 46) = c :: s :=
        List.dropWhile_cons_of_neg (by simpa using hc)
      simp only [strtok, hkeep]
      have hcut := List.takeWhile_append_dropWhile (p := (· ≠ 46)) (l := c :: s)
      have hne : (c :: s).takeWhile (· ≠ 46) ≠ [] := by
        rw [List.takeWhile_cons_of_pos (by simpa using hc)]
        exact List.cons_ne_nil _ _
      have hfree : 46 ∉ (c :: s).takeWhile (· ≠ 46) := by
        intro h
        have := List.all_eq_true.mp List.all_takeWhile 46 h
        simp at this
      have hrest : (c :: s).dropWhile (· ≠ 46) = [] ∨ ∃ r, (c :: s).dropWhile (· ≠ 46) = 46 :: r := by
        cases hd : (c :: s).dropWhile (· ≠ 46) with
        | nil => exact .inl rfl
        | cons d r =>
          have hhead := List.head_dropWhile_not (p := (· ≠ 46)) (l := c :: s)
            (by rw [hd]; exact List.cons_ne_nil d r)
          simp only [hd, List.head_cons] at hhead
          obtain rfl : d = 46 := by simpa using hhead
          exact .inr ⟨r, rfl⟩
      rw [← parts_piece hne hfree hrest, hcut]

/-- Where there is no token there are no parts, -/
theorem parts_of_none {s : Bytes} (h : strtok 46 s = none) : parts s = [] := by
  rw [parts_of_strtok, h]

/-- and otherwise it is the first of them. -/
theorem parts_of_some {s t rest : Bytes} (h : strtok 46 s = some (t, rest)) :
    parts s = t :: parts rest := by
  rw [parts_of_strtok, h]

namespace CustomJWT

/-- **A signed token**: three parts, and the last is the signature of the two others. -/
def Signed (P : Primitives) (secret token : Bytes) : Prop :=
  ∃ head payload,
    parts token = [head, payload, generateSignature P secret (head ++ ascii "." ++ payload)]

/-- **`decodeJWT` succeeds on signed tokens, and on no others.** -/
theorem decodeJWT_code_eq_zero_iff {P : Primitives} {secret token : Bytes} {jwt : State}
    (hmemory : jwt.memoryAllocationDone = true) :
    (jwt.decodeJWT P secret token).code = 0 ↔ Signed P secret token := by
  simp only [State.decodeJWT, hmemory, if_true, Signed]
  -- one part after the other; the code is 0 in one branch only
  cases hhead : strtok 46 token with
  | none => simp [parts_of_none hhead]
  | some p =>
    obtain ⟨b64Head, afterHead⟩ := p
    rw [parts_of_some hhead]
    cases hpayload : strtok 46 afterHead with
    | none => simp [hpayload, parts_of_none hpayload]
    | some p =>
      obtain ⟨b64Payload, afterPayload⟩ := p
      rw [parts_of_some hpayload]
      cases hsignature : strtok 46 afterPayload with
      | none => simp [hpayload, hsignature, parts_of_none hsignature]
      | some p =>
        obtain ⟨b64Signature, afterSignature⟩ := p
        rw [parts_of_some hsignature]
        cases hmore : strtok 46 afterSignature with
        | some p =>
          have hparts : parts afterSignature = p.1 :: parts p.2 := parts_of_some hmore
          simp [hpayload, hsignature, hmore, hparts]
        | none =>
          rw [parts_of_none hmore]
          simp only [hpayload, hsignature, hmore, Option.isSome_none, Bool.false_eq_true, if_false]
          constructor
          · intro hcode
            refine ⟨b64Head, b64Payload, ?_⟩
            split at hcode
            · cases hcode
            · split at hcode
              · cases hcode
              · rename_i hsame
                rw [not_not.mp hsame]
          · rintro ⟨head, payload, hsigned⟩
            obtain ⟨rfl, rfl, rfl, -⟩ := by simpa using hsigned
            simp

/-- A decoding leaves the pointers alone, and what is noted of them. -/
theorem decodeJWT_pointers {P : Primitives} {secret token : Bytes} {jwt : State} :
    (jwt.decodeJWT P secret token).jwt.clear.2 = jwt.clear.2 ∧
      (jwt.decodeJWT P secret token).jwt.memoryAllocationDone = jwt.memoryAllocationDone := by
  simp only [State.decodeJWT]
  repeat' split
  all_goals exact ⟨rfl, rfl⟩

end CustomJWT

/-! ## What a call does to the memory

  Three kinds: a call without its arguments, a call that comes to its end, and a call that returns
  early. -/

namespace JWTManager

/-- No argument of the call is null. -/
def Call.HasArguments : Call → Prop
  | .encodeJWT payloadToJWT jwtEncoded => payloadToJWT.isSome ∧ jwtEncoded.isSome
  | .decodeJWT jwtToDecode payloadRetrieved => jwtToDecode.isSome ∧ payloadRetrieved.isSome

instance : (i : Call) → Decidable i.HasArguments
  | .encodeJWT _ _ => inferInstanceAs (Decidable (_ ∧ _))
  | .decodeJWT _ _ => inferInstanceAs (Decidable (_ ∧ _))

/-- The token, if any, that the call decodes is a signed one. -/
def Call.Signed (P : Primitives) : Call → Prop
  | .decodeJWT (some token) (some _) => CustomJWT.Signed P JWTKey token
  | _ => True

/-- The blocks of a call, with their sizes. -/
def blocks (nextBlock : Nat) : List (Nat × Nat) :=
  [(nextBlock, allocation.b64HeaderLen), (nextBlock + 1, allocation.b64PayloadLen),
    (nextBlock + 2, allocation.b64SigLen), (nextBlock + 3, allocation.maxOutputLen)]

variable {P : Primitives} {manager : State} {i : Call}

/-- The blocks of a call are the next four, -/
theorem mem_blocks {n b : Nat} : b ∈ (blocks n).map Prod.fst ↔ n ≤ b ∧ b < n + 4 := by
  simp only [blocks, List.map_cons, List.map_nil, List.mem_cons, List.not_mem_nil, or_false]
  omega

/-- all different. -/
theorem nodup_blocks (n : Nat) : ((blocks n).map Prod.fst).Nodup := by
  simp [blocks]

/-- A null argument: the call does nothing. -/
theorem step_null (h : ¬ i.HasArguments) : step P manager i = (manager, []) := by
  rcases i with ⟨payloadToJWT, jwtEncoded⟩ | ⟨jwtToDecode, payloadRetrieved⟩
  · cases payloadToJWT <;> cases jwtEncoded <;> first | rfl | exact absurd ⟨rfl, rfl⟩ h
  · cases jwtToDecode <;> cases payloadRetrieved <;> first | rfl | exact absurd ⟨rfl, rfl⟩ h

/-- **A call that comes to its end** allocates its blocks, releases them, and holds nothing. -/
theorem step_signed (manager : State) (harguments : i.HasArguments) (h : i.Signed P) :
    (step P manager i).2 = round (blocks manager.nextBlock) ∧
      (step P manager i).1.nextBlock = manager.nextBlock + 4 ∧
      (step P manager i).1.jwt.Cleared := by
  rcases i with ⟨payloadToJWT, jwtEncoded⟩ | ⟨jwtToDecode, payloadRetrieved⟩
  · obtain ⟨⟨string, rfl⟩, ⟨encoded, rfl⟩⟩ := harguments.imp Option.isSome_iff_exists.mp
      Option.isSome_iff_exists.mp
    exact ⟨rfl, rfl, CustomJWT.cleared_clear _⟩
  · obtain ⟨⟨token, rfl⟩, ⟨retrieved, rfl⟩⟩ := harguments.imp Option.isSome_iff_exists.mp
      Option.isSome_iff_exists.mp
    have hcode : ((manager.jwt.allocateJWTMemory manager.nextBlock).1.decodeJWT P JWTKey token).code
        = 0 := (CustomJWT.decodeJWT_code_eq_zero_iff rfl).mpr h
    simp only [step, State.decodeJWT, if_neg (not_not.mpr hcode), CustomJWT.decodeJWT_pointers.1]
    exact ⟨rfl, trivial, CustomJWT.cleared_clear _⟩

/-- **A call that returns early** allocates its blocks, releases none, and holds on to them. -/
theorem step_unsigned (manager : State) (h : ¬ i.Signed P) :
    (step P manager i).2 = (blocks manager.nextBlock).map (fun p => .malloc p.1 p.2) ∧
      (step P manager i).1.nextBlock = manager.nextBlock + 4 ∧
      (step P manager i).1.jwt.memoryAllocationDone = true := by
  rcases i with ⟨payloadToJWT, jwtEncoded⟩ | ⟨jwtToDecode, payloadRetrieved⟩
  · exact absurd trivial h
  · cases jwtToDecode with
    | none => exact absurd trivial h
    | some token =>
      cases payloadRetrieved with
      | none => exact absurd trivial h
      | some retrieved =>
        have hcode : ((manager.jwt.allocateJWTMemory manager.nextBlock).1.decodeJWT P JWTKey
            token).code ≠ 0 := fun hzero => h ((CustomJWT.decodeJWT_code_eq_zero_iff rfl).mp hzero)
        simp only [step, State.decodeJWT, if_pos hcode, CustomJWT.decodeJWT_pointers.2]
        exact ⟨rfl, trivial, rfl⟩

/-! ## Runs

  Rounds over ever new blocks, one after the other (`Allocation`).  One call that returns early is
  enough: what it holds is never released, since the next call takes four other blocks. -/

/-- **The memory is balanced after a call**: each block that the call allocated has been released
    exactly once, and nothing is held. -/
structure BalancedAfter (P : Primitives) (c : Config State Event) (i : Call) : Prop where
  released : ∀ b ∈ allocated (step P c.state i).2, releases (advance (step P) c i).trace b = 1
  cleared : (advance (step P) c i).state.jwt.Cleared

/-- Between calls that come to their ends: the trace is balanced and about blocks handed out before,
    and nothing is held. -/
structure Settled (c : Config State Event) : Prop where
  balanced : Balanced c.trace
  below : Below c.state.nextBlock c.trace
  cleared : c.state.jwt.Cleared

/-- A call that comes to its end leaves everything as settled as it was, -/
theorem Settled.advance {c : Config State Event} (h : Settled c) (hi : i.Signed P) :
    Settled (advance (step P) c i) := by
  by_cases harguments : i.HasArguments
  · obtain ⟨hevents, hnext, hcleared⟩ := step_signed c.state harguments hi
    have hblock : ∀ e ∈ round (blocks c.state.nextBlock),
        c.state.nextBlock ≤ e.block ∧ e.block < c.state.nextBlock + 4 := by
      intro e he
      refine mem_blocks.mp ?_
      rcases List.mem_append.mp he with he | he
      · obtain ⟨p, hp, rfl⟩ := List.mem_map.mp he
        exact List.mem_map_of_mem hp
      · obtain ⟨p, hp, rfl⟩ := List.mem_map.mp he
        exact List.mem_map_of_mem hp
    refine ⟨?_, ?_, hcleared⟩
    · show Balanced (c.trace ++ _)
      rw [hevents]
      exact h.balanced.append (balanced_round (nodup_blocks _)) h.below fun e he => (hblock e he).1
    · show Below (step P c.state i).1.nextBlock (c.trace ++ _)
      rw [hevents, hnext]
      exact (h.below.mono (Nat.le_add_right _ 4)).append fun e he => (hblock e he).2
  · have hnull : Machine.advance (step P) c i = c := by
      rw [Machine.advance, step_null harguments]
      simp
    rw [hnull]
    exact h

/-- and so balanced. -/
theorem Settled.balancedAfter {c : Config State Event} (h : Settled c) (hi : i.Signed P) :
    BalancedAfter P c i where
  released b hb := (h.advance hi).balanced b (by
    show b ∈ allocated (c.trace ++ _)
    rw [allocated_append]
    exact List.mem_append_right _ hb)
  cleared := (h.advance hi).cleared

/-- After a call that returned early the memory is not balanced. -/
theorem not_balancedAfter {c : Config State Event} (h : ¬ i.Signed P) : ¬ BalancedAfter P c i := by
  intro hbalanced
  have hdone := (step_unsigned c.state h).2.2
  have hcleared := hbalanced.cleared.memoryAllocationDone
  simp only [Machine.advance, hdone, Bool.true_eq_false] at hcleared

/-- A new manager holds nothing. -/
theorem settled_initial (headerLength payloadLength signatureLength outputLength nextBlock : Nat) :
    Settled ⟨.initial headerLength payloadLength signatureLength outputLength nextBlock, []⟩ :=
  ⟨fun _ hb => absurd hb List.not_mem_nil, fun _ he => absurd he List.not_mem_nil,
    ⟨rfl, rfl, rfl, rfl, rfl⟩⟩

/-- **The memory stays balanced exactly through the calls whose tokens are signed.** -/
theorem memory_balanced_iff (P : Primitives)
    (headerLength payloadLength signatureLength outputLength nextBlock : Nat) (calls : List Call) :
    Always (step P) (BalancedAfter P)
        ⟨.initial headerLength payloadLength signatureLength outputLength nextBlock, []⟩ calls ↔
      ∀ i ∈ calls, i.Signed P := by
  rw [← always_input_iff (step P)]
  constructor
  · intro h
    exact h.mp fun c i hbalanced => by_contra fun hi => not_balancedAfter hi hbalanced
  · intro h
    exact always_of (settled_initial _ _ _ _ _)
      (fun c i hi hc => ⟨hc.balancedAfter hi, hc.advance hi⟩) h

/-- The reply of a server that answers in plain text. -/
theorem plainReply_lost :
    (step .reference (.initial 0 0 0 0 0) (.decodeJWT (some (ascii "ERROR")) (some []))).2
        = [.malloc 0 58, .malloc 1 346, .malloc 2 47, .malloc 3 455] ∧
      ¬ Always (step .reference) (BalancedAfter .reference) ⟨.initial 0 0 0 0 0, []⟩
        [.decodeJWT (some (ascii "ERROR")) (some [])] := by
  refine ⟨by decide +kernel, fun h => ?_⟩
  have hreleased := h.1.released 0 (by decide +kernel)
  have hnone : releases (advance (step .reference) ⟨.initial 0 0 0 0 0, []⟩
      (.decodeJWT (some (ascii "ERROR")) (some []))).trace 0 = 0 := by decide +kernel
  omega

end JWTManager

/-! ## The manager's own tokens

  What `encodeJWT` prints has no dot but its own two, and no NUL. -/

namespace CustomJWT

/-- A byte that is no letter of the alphabet is in no encoded text. -/
theorem not_mem_base64urlEncode {c : UInt8} (hletter : ∀ n < 64, c ≠ Base64URL.base64urlEncTable n)
    (d : Bytes) : c ∉ Base64URL.base64urlEncode d := by
  induction d using Base64URL.base64urlEncode.induct with
  | case1 a b e l ih =>
    have ha := a.toNat_lt
    have hb := b.toNat_lt
    have he := e.toNat_lt
    simp only [Base64URL.base64urlEncode, List.mem_cons, not_or]
    exact ⟨hletter _ (by omega), hletter _ (by omega), hletter _ (by omega), hletter _ (by omega), ih⟩
  | case2 a b =>
    have ha := a.toNat_lt
    have hb := b.toNat_lt
    simp only [Base64URL.base64urlEncode, List.mem_cons, not_or, List.not_mem_nil, not_false_iff]
    exact ⟨hletter _ (by omega), hletter _ (by omega), hletter _ (by omega), trivial⟩
  | case3 a =>
    have ha := a.toNat_lt
    simp only [Base64URL.base64urlEncode, List.mem_cons, not_or, List.not_mem_nil, not_false_iff]
    exact ⟨hletter _ (by omega), hletter _ (by omega), trivial⟩
  | case4 => exact List.not_mem_nil

/-- No dot is one, -/
theorem dot_not_mem_base64urlEncode (d : Bytes) : 46 ∉ Base64URL.base64urlEncode d :=
  not_mem_base64urlEncode (by decide) d

/-- nor a NUL; -/
theorem nulFree_base64urlEncode (d : Bytes) : NulFree (Base64URL.base64urlEncode d) := by
  rintro c hc rfl
  exact not_mem_base64urlEncode (by decide) d hc

/-- and only the empty text is encoded to nothing. -/
theorem base64urlEncode_ne_nil {d : Bytes} (hd : d ≠ []) : Base64URL.base64urlEncode d ≠ [] := by
  have hpos := List.length_pos_iff.mpr hd
  have hlen := Base64URL.length_base64urlEncode d
  exact List.length_pos_iff.mp (by omega)

end CustomJWT

end GatewayLoRa
