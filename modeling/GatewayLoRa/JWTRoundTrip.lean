/-
  A JWT from `encodeJWT` to `decodeJWT`, and the array in between that is too short.

  1. **The round trip.**  `base64urlDecode` undoes `base64urlEncode`; a token that `encodeJWT` made
     falls into the three parts it was made of (`strtok_parts`); so `decodeJWT` returns the payload.
     The one exception is the empty payload: `strtok` never returns an empty part, and the token
     is refused.

  2. **The blocks.**  `encodeJWT` writes into four blocks and two local arrays, and the payload
     block is the tightest: 346 bytes, enough for the base64url of 258 and for no more
     (`encodeChecked_eq`).  What `decodeJWT` stores of the token of such a payload is shorter
     than the blocks again (`safe_storeChecked`).

  3. **The array `testSignature`.**  `decodeJWT` recomputes the signature into
     `char testSignature[strlen(b64Signature)]`.  A signature has 43 letters, and
     `base64urlEncode` writes a NUL behind them: 44 bytes.  `decodeChecked` is `decodeJWT` with
     this array and `toCheckHash` as arrays; `decodeChecked_eq` says when it faults, which is for
     every token of three parts whose last has less than 44 letters.  Those that are accepted have
     43.

  The crux of the first is that the parts of the token have no dot in them and are not empty; then
  `strtok`, which skips dots and cuts at dots, finds each of them whole (`strtok_parts`), and the
  signature is compared with itself.  The other two are about lengths alone.  The blocks have sizes
  that the manager computes from its maxima, and every length in a token is a function of the length
  of the payload.
-/

import GatewayLoRa.JWTMemory

namespace GatewayLoRa

open CMemory

/-! ## Base64URL

  Decoding follows the blocks of the encoding: four letters for three bytes, and less for a rest. -/

namespace Base64URL

/-- The table of the letters is read backwards. -/
theorem decTable_encTable : ∀ n < 64, base64urlDecTable (base64urlEncTable n) = some n := by
  decide +kernel

/-- A byte is what is left of it modulo 256. -/
theorem ofNat_eq {a : UInt8} {n : Nat} (h : n % 256 = a.toNat) : UInt8.ofNat n = a := by
  apply UInt8.toNat_inj.mp
  rw [UInt8.toNat_ofNat']
  exact h

theorem decodeBlocks_encode (d : Bytes) : decodeBlocks (base64urlEncode d) = (d, true) := by
  -- over the blocks of three, as `base64urlEncode` takes them
  induction d using base64urlEncode.induct with
  | case1 a b c l ih =>
    have ha := a.toNat_lt
    have hb := b.toNat_lt
    have hc := c.toNat_lt
    have h1 := decTable_encTable (a.toNat / 4) (by omega)
    have h2 := decTable_encTable (a.toNat % 4 * 16 + b.toNat / 16) (by omega)
    have h3 := decTable_encTable (b.toNat % 16 * 4 + c.toNat / 64) (by omega)
    have h4 := decTable_encTable (c.toNat % 64) (by omega)
    simp only [base64urlEncode, decodeBlocks, h1, h2, h3, h4, ih, Prod.mk.injEq, List.cons.injEq,
      and_true]
    exact ⟨ofNat_eq (by omega), ofNat_eq (by omega), ofNat_eq (by omega)⟩
  | case2 a b =>
    have ha := a.toNat_lt
    have hb := b.toNat_lt
    have h1 := decTable_encTable (a.toNat / 4) (by omega)
    have h2 := decTable_encTable (a.toNat % 4 * 16 + b.toNat / 16) (by omega)
    have h3 := decTable_encTable (b.toNat % 16 * 4) (by omega)
    simp only [base64urlEncode, decodeBlocks, h1, h2, h3, Prod.mk.injEq, List.cons.injEq, and_true]
    exact ⟨ofNat_eq (by omega), ofNat_eq (by omega)⟩
  | case3 a =>
    have ha := a.toNat_lt
    have h1 := decTable_encTable (a.toNat / 4) (by omega)
    have h2 := decTable_encTable (a.toNat % 4 * 16) (by omega)
    simp only [base64urlEncode, decodeBlocks, h1, h2, Prod.mk.injEq, List.cons.injEq, and_true]
    exact ofNat_eq (by omega)
  | case4 => rfl

/-- **Decoding undoes encoding.** -/
theorem base64urlDecode_encode (d : Bytes) : base64urlDecode (base64urlEncode d) = (d, true) := by
  have hlen := length_base64urlEncode d
  rw [base64urlDecode, if_neg (by omega), decodeBlocks_encode]

end Base64URL

/-! ## The round trip

  Through the three parts, first for the object and below for the manager. -/

namespace CustomJWT

/-- Three parts, joined by dots. -/
theorem strtok_parts {a : Bytes} (rest : Bytes) (hne : a ≠ []) (hfree : 46 ∉ a)
    (hrest : rest = [] ∨ ∃ r, rest = 46 :: r) : strtok 46 (a ++ rest) = some (a, rest) := by
  obtain ⟨c, l, rfl⟩ := List.exists_cons_of_ne_nil hne
  have hc : c ≠ 46 := fun h => hfree (h ▸ List.mem_cons_self)
  have hkeep : (c :: l ++ rest).dropWhile (· = 46) = c :: (l ++ rest) :=
    List.dropWhile_cons_of_neg (by simpa using hc)
  have hall : ∀ x ∈ c :: l, decide (x ≠ 46) = true := by
    intro x hx
    have : x ≠ 46 := fun h => hfree (h ▸ hx)
    simpa using this
  have hend : rest.takeWhile (· ≠ 46) = [] ∧ rest.dropWhile (· ≠ 46) = rest := by
    rcases hrest with rfl | ⟨r, rfl⟩
    · exact ⟨rfl, rfl⟩
    · exact ⟨rfl, rfl⟩
  rw [strtok, hkeep]
  show some ((c :: l ++ rest).takeWhile _, (c :: l ++ rest).dropWhile _) = _
  rw [List.takeWhile_append_of_pos hall, List.dropWhile_append_of_pos hall, hend.1, hend.2,
    List.append_nil]

/-- The dot between two parts is skipped. -/
theorem strtok_dot (s : Bytes) : strtok 46 (46 :: s) = strtok 46 s := rfl

/-- A token as its three parts. -/
theorem encodeJWT_eq (P : Primitives) (secret string : Bytes) :
    CustomJWT.encodeJWT P secret string = Base64URL.base64urlEncode headerJSON ++
      46 :: (Base64URL.base64urlEncode string ++
        46 :: (generateSignature P secret (toHash string) ++ [])) := by
  have hdot : ascii "." = [46] := by decide
  simp only [CustomJWT.encodeJWT, toHash, hdot, List.append_assoc, List.cons_append,
    List.nil_append, List.append_nil]

/-- A signature is never empty. -/
theorem signature_ne_nil (P : Primitives) (secret data : Bytes) :
    generateSignature P secret data ≠ [] :=
  base64urlEncode_ne_nil (List.length_pos_iff.mp (by rw [(P.hmac secret _).2]; decide))

/-- **What `encodeJWT` makes of a payload, `decodeJWT` takes apart.** -/
theorem decodeJWT_token (P : Primitives) {secret string : Bytes} {jwt : State}
    (hmemory : jwt.memoryAllocationDone = true) (hne : string ≠ []) :
    jwt.decodeJWT P secret (CustomJWT.encodeJWT P secret string) =
      ⟨0, { jwt with
          headerLength := headerJSON.length
          payloadLength := string.length
          signatureLength := (generateSignature P secret (toHash string)).length }, string⟩ := by
  have hheader := strtok_parts (46 :: (Base64URL.base64urlEncode string ++
    46 :: (generateSignature P secret (toHash string) ++ [])))
    (base64urlEncode_ne_nil (d := headerJSON) (by decide)) (dot_not_mem_base64urlEncode _)
    (.inr ⟨_, rfl⟩)
  have hpayload := strtok_parts (46 :: (generateSignature P secret (toHash string) ++ []))
    (base64urlEncode_ne_nil hne) (dot_not_mem_base64urlEncode _) (.inr ⟨_, rfl⟩)
  have hsignature := strtok_parts [] (signature_ne_nil P secret (toHash string))
    (dot_not_mem_base64urlEncode _) (.inl rfl)
  have hend : strtok 46 [] = none := rfl
  have hhash : Base64URL.base64urlEncode headerJSON ++ ascii "." ++
      Base64URL.base64urlEncode string = toHash string := rfl
  rw [State.decodeJWT, if_pos hmemory, encodeJWT_eq, hheader]
  simp only [strtok_dot, hpayload, hsignature, hend, Option.isSome_none, Bool.false_eq_true,
    if_false, hhash, ne_eq, not_true_eq_false, Base64URL.decodedLength,
    Base64URL.base64urlDecode_encode, if_true]

/-- The token of the empty text has two parts. -/
theorem decodeJWT_empty (P : Primitives) {secret : Bytes} {jwt : State}
    (hmemory : jwt.memoryAllocationDone = true) :
    jwt.decodeJWT P secret (CustomJWT.encodeJWT P secret []) = ⟨2, jwt, []⟩ := by
  have hheader := strtok_parts (46 :: 46 :: (generateSignature P secret (toHash []) ++ []))
    (base64urlEncode_ne_nil (d := headerJSON) (by decide)) (dot_not_mem_base64urlEncode _)
    (.inr ⟨_, rfl⟩)
  have hsignature := strtok_parts [] (signature_ne_nil P secret (toHash []))
    (dot_not_mem_base64urlEncode _) (.inl rfl)
  have hend : strtok 46 [] = none := rfl
  have hnil : Base64URL.base64urlEncode [] = [] := rfl
  rw [State.decodeJWT, if_pos hmemory, encodeJWT_eq, hnil, List.nil_append, hheader]
  simp only [strtok_dot, hsignature, hend]

/-! ## The arrays of `decodeJWT`

  `decodeChecked` repeats `decodeJWT` with every access to the arrays checked; where nothing faults,
  it is the same function. -/

/-- An array of `n` zeros. -/
def zeros (n : Nat) : CArray n := ⟨List.replicate n 0, List.length_replicate⟩

/-- **`decodeJWT` with its two arrays**, up to the code it returns. -/
def State.decodeChecked (P : Primitives) (secret : Bytes) (jwt : State) (string : Bytes) :
    Checked Int :=
  if jwt.memoryAllocationDone then
    match strtok 46 string with
    | none => .ok 2
    | some (b64Head, string) =>
      match strtok 46 string with
      | none => .ok 2
      | some (b64Payload, string) =>
        match strtok 46 string with
        | none => .ok 2
        | some (b64Signature, string) =>
          if (strtok 46 string).isSome then .ok 2
          else do
            let data := b64Head ++ ascii "." ++ b64Payload
            let toCheckHash := zeros (b64Head.length + b64Payload.length + 3)
            let _ ← writeRange toCheckHash 0 (data ++ [0])
            -- the letters, and the NUL that `base64urlEncode` writes behind them
            let signature := generateSignature P secret data
            let testSignature ← writeRange (zeros b64Signature.length) 0 (signature ++ [0])
            if signature.length ≠ b64Signature.length then .ok 3
            else if testSignature.1.take signature.length ≠ b64Signature then .ok 3
            else .ok 0
  else .ok 1

/-- A signature has 43 letters. -/
theorem length_generateSignature (P : Primitives) (secret data : Bytes) :
    (generateSignature P secret data).length = 43 := by
  rw [generateSignature, Base64URL.length_base64urlEncode, (P.hmac secret data).2]

/-- **A token that overruns `testSignature`**: three parts, the last of less than 44 letters. -/
def Overruns (token : Bytes) : Prop :=
  ∃ head payload signature, parts token = [head, payload, signature] ∧ signature.length < 44

/-- **The arrays hold what is written into them unless the token is of that kind**, and then the
    code is the one of `decodeJWT`. -/
theorem decodeChecked_eq (P : Primitives) (secret token : Bytes) {jwt : State}
    (hmemory : jwt.memoryAllocationDone = true) :
    (Overruns token ∧ ¬ Safe (jwt.decodeChecked P secret token)) ∨
      (¬ Overruns token ∧
        jwt.decodeChecked P secret token = .ok (jwt.decodeJWT P secret token).code) := by
  simp only [State.decodeChecked, State.decodeJWT, if_pos hmemory, Overruns]
  -- with fewer than three parts, or more, both functions return before they touch an array
  cases hhead : strtok 46 token with
  | none => exact .inr ⟨by simp [parts_of_none hhead], rfl⟩
  | some p =>
    obtain ⟨b64Head, afterHead⟩ := p
    rw [parts_of_some hhead]
    cases hpayload : strtok 46 afterHead with
    | none => exact .inr ⟨by simp [parts_of_none hpayload], by simp only [hpayload]⟩
    | some p =>
      obtain ⟨b64Payload, afterPayload⟩ := p
      rw [parts_of_some hpayload]
      cases hsignature : strtok 46 afterPayload with
      | none =>
        exact .inr ⟨by simp [parts_of_none hsignature], by simp only [hpayload, hsignature]⟩
      | some p =>
        obtain ⟨b64Signature, afterSignature⟩ := p
        rw [parts_of_some hsignature]
        cases hmore : strtok 46 afterSignature with
        | some p =>
          have hparts : parts afterSignature = p.1 :: parts p.2 := parts_of_some hmore
          exact .inr ⟨by simp [hparts], by simp [hpayload, hsignature, hmore]⟩
        | none =>
          rw [parts_of_none hmore]
          simp only [hpayload, hsignature, hmore, Option.isSome_none, Bool.false_eq_true, if_false]
          generalize hdata : b64Head ++ ascii "." ++ b64Payload = data
          have hfirst : data.length = b64Head.length + b64Payload.length + 1 := by
            have hdot : (ascii ".").length = 1 := by decide
            rw [← hdata, List.length_append, List.length_append, hdot]
            omega
          -- the first array is long enough for any three parts
          obtain ⟨toCheckHash, hw, -⟩ := writeRange_eq
            (zeros (b64Head.length + b64Payload.length + 3)) (i := 0) (x := data ++ [0])
            (by rw [List.length_append, List.length_singleton]; omega)
          have h43 := length_generateSignature P secret data
          have h44 : (generateSignature P secret data ++ [0]).length = 44 := by
            rw [List.length_append, h43, List.length_singleton]
          rw [hw, ok_bind]
          -- the second is as long as the signature of the token, and 44 bytes go into it
          rcases Nat.lt_or_ge b64Signature.length 44 with hlt | hge
          · refine .inl ⟨⟨b64Head, b64Payload, b64Signature, rfl, hlt⟩, ?_⟩
            have hfault : writeRange (zeros b64Signature.length) 0
                (generateSignature P secret data ++ [0]) = .error (.outOfBounds 0 _) :=
              dif_neg (by omega)
            rw [hfault, error_bind]
            exact not_safe_error _
          · refine .inr ⟨?_, ?_⟩
            · rintro ⟨head, payload, signature, heq, hlt⟩
              obtain ⟨-, -, rfl, -⟩ := by simpa using heq
              omega
            · obtain ⟨testSignature, hw', -⟩ := writeRange_eq (zeros b64Signature.length) (i := 0)
                (x := generateSignature P secret data ++ [0]) (by omega)
              rw [hw', ok_bind, if_pos (by omega), if_pos (by omega)]

/-! ## The blocks of `encodeJWT`

  The writes in their order, each into a block of its own.  The first that does not fit decides. -/

/-- **`encodeJWT` with the arrays that it works in**: `headerJSON` of `maxHeadLen` bytes, the four
    blocks, and `toHash`; the string that it leaves in `out`. -/
def State.encodeChecked (P : Primitives) (secret : Bytes) (jwt : State) (string : Bytes) :
    Checked (Option Bytes) :=
  if jwt.memoryAllocationDone then do
    let b64Head := Base64URL.base64urlEncode headerJSON
    let b64Payload := Base64URL.base64urlEncode string
    let _ ← writeRange (zeros 40) 0 (headerJSON ++ [0])
    -- `base64urlEncode` writes a NUL behind the letters
    let _ ← writeRange (zeros JWTManager.allocation.b64HeaderLen) 0 (b64Head ++ [0])
    let _ ← writeRange (zeros JWTManager.allocation.b64PayloadLen) 0 (b64Payload ++ [0])
    let data := b64Head ++ ascii "." ++ b64Payload
    let _ ← writeRange (zeros (b64Payload.length + b64Head.length + 3)) 0 (data ++ [0])
    let signature := generateSignature P secret data
    let _ ← writeRange (zeros JWTManager.allocation.b64SigLen) 0 (signature ++ [0])
    let out ← writeRange (zeros JWTManager.allocation.maxOutputLen) 0
      (data ++ ascii "." ++ signature ++ [0])
    .ok (some (cstr out.1))
  else .ok none

/-- What `decodeJWT` stores in the blocks once it has found the signature right. -/
def storeChecked (b64Head b64Payload b64Signature : Bytes) : Checked Unit := do
  let _ ← writeRange (zeros JWTManager.allocation.b64HeaderLen) 0
    (Base64URL.base64urlDecode b64Head).1
  let _ ← writeRange (zeros JWTManager.allocation.b64PayloadLen) 0
    (Base64URL.base64urlDecode b64Payload).1
  let _ ← writeRange (zeros JWTManager.allocation.b64SigLen) 0 (b64Signature ++ [0])
  .ok ()

/-- What is not longer than an array of zeros can be written at its start. -/
theorem writeRange_zeros {n : Nat} {x : Bytes} (h : x.length ≤ n) :
    ∃ b, writeRange (zeros n) 0 x = .ok b ∧ b.1 = x ++ List.replicate (n - x.length) 0 := by
  obtain ⟨b, hw, hb⟩ := writeRange_eq (zeros n) (i := 0) (x := x) (by omega)
  refine ⟨b, hw, ?_⟩
  rw [hb, List.take_zero, List.nil_append, Nat.zero_add]
  exact congrArg (x ++ ·) List.drop_replicate

/-- And what is longer cannot. -/
theorem writeRange_zeros_fault {n : Nat} {x : Bytes} (h : n < x.length) :
    writeRange (zeros n) 0 x = .error (.outOfBounds 0 n) := dif_neg (by omega)

/-- A token has no NUL, so that its string is all of it. -/
theorem nulFree_encodeJWT (P : Primitives) (secret string : Bytes) :
    NulFree (CustomJWT.encodeJWT P secret string) := by
  have hdot : NulFree (ascii ".") := by decide
  exact (((nulFree_base64urlEncode _).append hdot).append (nulFree_base64urlEncode _)).append hdot
    |>.append (nulFree_base64urlEncode _)

/-- **The blocks hold the token of a payload of at most 258 bytes**, and the payload block is the
    one that a longer payload leaves first. -/
theorem encodeChecked_eq (P : Primitives) (secret string : Bytes) (jwt : State)
    (hmemory : jwt.memoryAllocationDone = true) :
    (string.length ≤ 258 ∧
      jwt.encodeChecked P secret string = .ok (some (CustomJWT.encodeJWT P secret string))) ∨
    (258 < string.length ∧ ¬ Safe (jwt.encodeChecked P secret string)) := by
  have hjson : headerJSON.length = 28 := by decide
  have hhead : (Base64URL.base64urlEncode headerJSON).length = 38 := by
    rw [Base64URL.length_base64urlEncode, hjson]
  have hpayload := Base64URL.length_base64urlEncode string
  have hb64Payload : JWTManager.allocation.b64PayloadLen = 346 := by decide
  have hb64Sig : JWTManager.allocation.b64SigLen = 47 := by decide
  have hmaxOutput : JWTManager.allocation.maxOutputLen = 455 := by decide
  have hdot : (ascii ".").length = 1 := by decide
  -- the header is the same for every payload
  obtain ⟨_, hw₁, -⟩ := writeRange_zeros (n := 40) (x := headerJSON ++ [0]) (by decide)
  obtain ⟨_, hw₂, -⟩ := writeRange_zeros (n := JWTManager.allocation.b64HeaderLen)
    (x := Base64URL.base64urlEncode headerJSON ++ [0])
    (by rw [List.length_append, hhead]; decide)
  simp only [State.encodeChecked, if_pos hmemory, hw₁, ok_bind, hw₂]
  rcases Nat.lt_or_ge 258 string.length with hlong | hshort
  · refine .inr ⟨hlong, ?_⟩
    rw [writeRange_zeros_fault
      (by rw [List.length_append, hpayload, List.length_singleton]; omega), error_bind]
    exact not_safe_error _
  · refine .inl ⟨hshort, ?_⟩
    obtain ⟨_, hw₃, -⟩ := writeRange_zeros (n := JWTManager.allocation.b64PayloadLen)
      (x := Base64URL.base64urlEncode string ++ [0])
      (by rw [List.length_append, hpayload, List.length_singleton]; omega)
    rw [hw₃, ok_bind]
    have hhash : Base64URL.base64urlEncode headerJSON ++ ascii "." ++
      Base64URL.base64urlEncode string = toHash string := rfl
    have hlen : (toHash string).length = 39 + (Base64URL.base64urlEncode string).length := by
      rw [← hhash, List.length_append, List.length_append, hhead, hdot]
    have hsig := length_generateSignature P secret (toHash string)
    obtain ⟨_, hw₄, -⟩ := writeRange_zeros (x := toHash string ++ [0])
      (n := (Base64URL.base64urlEncode string).length +
        (Base64URL.base64urlEncode headerJSON).length + 3)
      (by rw [List.length_append, List.length_singleton, hlen, hhead]; omega)
    obtain ⟨_, hw₅, -⟩ := writeRange_zeros (n := JWTManager.allocation.b64SigLen)
      (x := generateSignature P secret (toHash string) ++ [0])
      (by rw [List.length_append, List.length_singleton, hsig, hb64Sig]; decide)
    obtain ⟨out, hw₆, hout⟩ := writeRange_zeros (n := JWTManager.allocation.maxOutputLen)
      (x := CustomJWT.encodeJWT P secret string ++ [0])
      (by rw [List.length_append, length_encodeJWT, List.length_singleton]; omega)
    have htoken : toHash string ++ ascii "." ++ generateSignature P secret (toHash string) =
        CustomJWT.encodeJWT P secret string := rfl
    rw [hhash, hw₄, ok_bind, hw₅, ok_bind, htoken, hw₆, ok_bind, hout, List.append_assoc,
      List.singleton_append, cstr_append_nul (nulFree_encodeJWT P secret string)]

/-- The parts of such a token are stored inside the blocks again. -/
theorem safe_storeChecked (P : Primitives) (secret : Bytes) {string : Bytes}
    (h : string.length ≤ 258) :
    Safe (storeChecked (Base64URL.base64urlEncode headerJSON) (Base64URL.base64urlEncode string)
      (generateSignature P secret (toHash string))) := by
  have hsig := length_generateSignature P secret (toHash string)
  have hb64Payload : JWTManager.allocation.b64PayloadLen = 346 := by decide
  have hb64Sig : JWTManager.allocation.b64SigLen = 47 := by decide
  obtain ⟨_, hw₁, -⟩ := writeRange_zeros (n := JWTManager.allocation.b64HeaderLen)
    (x := headerJSON) (by decide)
  obtain ⟨_, hw₂, -⟩ := writeRange_zeros (n := JWTManager.allocation.b64PayloadLen) (x := string)
    (by omega)
  obtain ⟨_, hw₃, -⟩ := writeRange_zeros (n := JWTManager.allocation.b64SigLen)
    (x := generateSignature P secret (toHash string) ++ [0])
    (by rw [List.length_append, List.length_singleton, hsig, hb64Sig]; decide)
  simp only [storeChecked, Base64URL.base64urlDecode_encode, hw₁, hw₂, hw₃, ok_bind]
  exact safe_ok _

end CustomJWT

/-! ## The results

  What the manager encodes it decodes; and on the way one byte is written behind an array, whatever
  the token that is accepted. -/

namespace JWTManager

/-- **A payload is encoded inside the blocks exactly when it has at most 258 bytes, and what
    `encodeJWT` then returns, `decodeJWT` turns back into the payload**, whatever the two managers
    were used for before; but for the empty payload, whose token is refused. -/
theorem decodeJWT_encodeJWT (P : Primitives) (manager manager' : State) {payload : Bytes}
    (hpayload : NulFree payload) (jwtEncoded payloadRetrieved : Bytes) :
    (Safe ((manager.jwt.allocateJWTMemory manager.nextBlock).1.encodeChecked P JWTKey payload) ↔
      payload.length ≤ 258) ∧
    (payload.length ≤ 258 →
      ((manager.jwt.allocateJWTMemory manager.nextBlock).1.encodeChecked P JWTKey payload =
        .ok (manager.encodeJWT P (some payload) (some jwtEncoded)).result) ∧
      Safe (CustomJWT.storeChecked (Base64URL.base64urlEncode CustomJWT.headerJSON)
        (Base64URL.base64urlEncode payload)
        (CustomJWT.generateSignature P JWTKey (CustomJWT.toHash payload))) ∧
      (manager'.decodeJWT P (manager.encodeJWT P (some payload) (some jwtEncoded)).result
        (some payloadRetrieved)).result =
          if payload = [] then (false, some payloadRetrieved) else (true, some payload)) := by
  have htoken : (manager.encodeJWT P (some payload) (some jwtEncoded)).result =
      some (CustomJWT.encodeJWT P JWTKey payload) := rfl
  have hmemory : (manager'.jwt.allocateJWTMemory manager'.nextBlock).1.memoryAllocationDone = true :=
    rfl
  have hblocks := CustomJWT.encodeChecked_eq P JWTKey payload
    (manager.jwt.allocateJWTMemory manager.nextBlock).1 rfl
  refine ⟨?_, fun hshort => ⟨?_, CustomJWT.safe_storeChecked P JWTKey hshort, ?_⟩⟩
  · rcases hblocks with ⟨hshort, hok⟩ | ⟨hlong, hfault⟩
    · refine iff_of_true ?_ hshort
      rw [hok]
      exact safe_ok _
    · exact iff_of_false hfault (by omega)
  · rcases hblocks with ⟨-, hok⟩ | ⟨hlong, -⟩
    · rw [hok, htoken]
    · omega
  · rw [htoken]
    simp only [State.decodeJWT]
    by_cases hempty : payload = []
    · rw [hempty, CustomJWT.decodeJWT_empty P hmemory]
      rfl
    · rw [CustomJWT.decodeJWT_token P hmemory hempty]
      simp only [ne_eq, not_true_eq_false, if_false, cstr_of_nulFree hpayload, List.take_length,
        if_neg hempty]

/-- The acknowledgement of the server, encoded by one manager and decoded by another. -/
theorem decodeJWT_encodeJWT_ack :
    (Safe (((State.initial 1 2 3 4 0).jwt.allocateJWTMemory 0).1.encodeChecked Primitives.reference
        JWTKey (ascii "ACK")) ↔ (ascii "ACK").length ≤ 258) ∧
    ((ascii "ACK").length ≤ 258 →
      ((State.initial 1 2 3 4 0).jwt.allocateJWTMemory 0).1.encodeChecked Primitives.reference
        JWTKey (ascii "ACK") = .ok ((State.initial 1 2 3 4 0).encodeJWT Primitives.reference
          (some (ascii "ACK")) (some [])).result ∧
      Safe (CustomJWT.storeChecked (Base64URL.base64urlEncode CustomJWT.headerJSON)
        (Base64URL.base64urlEncode (ascii "ACK"))
        (CustomJWT.generateSignature Primitives.reference JWTKey (CustomJWT.toHash (ascii "ACK")))) ∧
      ((State.initial 0 0 0 0 7).decodeJWT Primitives.reference
        ((State.initial 1 2 3 4 0).encodeJWT Primitives.reference (some (ascii "ACK"))
          (some [])).result (some [])).result =
          if ascii "ACK" = [] then (false, some []) else (true, some (ascii "ACK"))) :=
  decodeJWT_encodeJWT Primitives.reference (State.initial 1 2 3 4 0) (State.initial 0 0 0 0 7)
    (by decide) [] []

end JWTManager

/-- **`decodeJWT` writes behind `testSignature` for every token it accepts**, and for exactly those
    tokens of three parts whose last has less than 44 letters. -/
theorem CustomJWT.testSignature_overrun (P : Primitives) (secret token : Bytes) {jwt : State}
    (hmemory : jwt.memoryAllocationDone = true) :
    (¬ Safe (jwt.decodeChecked P secret token) ↔ Overruns token) ∧
      ((jwt.decodeJWT P secret token).code = 0 → ¬ Safe (jwt.decodeChecked P secret token)) := by
  have hcases := decodeChecked_eq P secret token hmemory
  have hiff : ¬ Safe (jwt.decodeChecked P secret token) ↔ Overruns token := by
    rcases hcases with ⟨hover, hfault⟩ | ⟨hnot, hok⟩
    · exact iff_of_true hfault hover
    · refine iff_of_false (not_not_intro ?_) hnot
      rw [hok]
      exact safe_ok _
  refine ⟨hiff, ?_⟩
  intro hcode
  apply hiff.mpr
  obtain ⟨head, payload, hparts⟩ := (decodeJWT_code_eq_zero_iff hmemory).mp hcode
  exact ⟨head, payload, _, hparts, by rw [length_generateSignature]; decide⟩

/-- A `CustomJWT` with its memory. -/
def CustomJWT.sampleState : CustomJWT.State :=
  ⟨some 0, some 1, some 2, some 3, 0, 0, 0, 0, true⟩

/-- The token of the acknowledgement overruns the array and is accepted. -/
theorem CustomJWT.testSignature_overrun_ack :
    (¬ Safe (sampleState.decodeChecked Primitives.reference JWTManager.JWTKey
        (CustomJWT.encodeJWT Primitives.reference JWTManager.JWTKey (ascii "ACK"))) ↔
      Overruns (CustomJWT.encodeJWT Primitives.reference JWTManager.JWTKey (ascii "ACK"))) ∧
      ((sampleState.decodeJWT Primitives.reference JWTManager.JWTKey
          (CustomJWT.encodeJWT Primitives.reference JWTManager.JWTKey (ascii "ACK"))).code = 0 →
        ¬ Safe (sampleState.decodeChecked Primitives.reference JWTManager.JWTKey
          (CustomJWT.encodeJWT Primitives.reference JWTManager.JWTKey (ascii "ACK")))) :=
  CustomJWT.testSignature_overrun Primitives.reference JWTManager.JWTKey _ rfl

end GatewayLoRa
