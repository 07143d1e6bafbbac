/-
  An `AES` object: its modes, its carry vector, and the calls that work in place.

  `AES::encrypt (data, length)` writes the ciphertext over the plaintext while it reads it.  The
  bytes go block by block through `m_State`; a last partial block is not padded but made up with
  bytes of the ciphertext before it (ciphertext stealing), so the ciphertext is as long as the
  plaintext; only a message shorter than one block is padded, and grows to 16 bytes.

  1. **In place** (`Object.encrypt`, `Object.decrypt`): the loops on the array, with every access
     checked.
  2. **As texts** (`sealLoop`, `openLoop`): what is read, and what is written, apart.
  3. **The crux**, `openLoop_sealLoop`: the loops on texts undo each other, whatever the length and
     the mode.  On a stolen block, decryption gets the bytes of the state that were written behind
     the block back into the state before it deciphers it (`unsteal`).
  4. `Object.encryptLoop_eq` and `Object.decryptLoop_eq` carry it to the arrays: a loop in place
     reads each byte before it writes over it, so it leaves what the loop on texts returns.

  The loops of `AES.lean` are the loops on texts in CBC mode (`sealLoop_cbc`, `openLoop_cbc`).
-/

import GatewayLoRa.AES
import GatewayLoRa.AESRounds
import GatewayLoRa.MessageHandler

namespace GatewayLoRa

open CMemory

namespace AES

/-- `AES::CipherMode`. -/
inductive CipherMode
  | ecb | cbc
deriving DecidableEq, Repr

/-! ## The loops on texts -/

section Texts

variable (E D : Block → Block) (mode : CipherMode)

/-- The XOR with a vector, which only CBC mode does. -/
def chain (v b : Block) : Block :=
  match mode with
  | .ecb => b
  | .cbc => xorBlock b v

/-- `m_CarryVector` after a block, `next` what CBC mode saves. -/
def carried (carry next : Block) : Block :=
  match mode with
  | .ecb => carry
  | .cbc => next

/-- The state for a last partial block: ECB mode leaves the ciphertext behind the partial block,
    CBC mode pads with zeros and XORs with the carry vector. -/
def steal (carry state : Block) (rest : Bytes) : Block :=
  match mode with
  | .ecb => block (rest ++ state.1.drop rest.length)
  | .cbc => xorBlock (block rest) carry

/-- The loop of `AES::encrypt`: what it writes, and the carry vector it leaves. -/
def sealLoop : Nat → Block → Bytes → Bytes × Block
  | 0, carry, _ => ([], carry)
  | n + 1, carry, src =>
      if src = [] then ([], carry)
      else
        let state := E (chain mode carry (block src))
        let carry := carried mode carry state
        let rest := src.drop 16
        if 0 < rest.length ∧ rest.length < 16 then
          ((E (steal mode carry state rest)).1 ++ state.1.take rest.length, carry)
        else
          let out := sealLoop n carry rest
          (state.1 ++ out.1, out.2)

/-- The loop of `AES::decrypt`. -/
def openLoop : Nat → Block → Bytes → Bytes × Block
  | 0, carry, _ => ([], carry)
  | n + 1, carry, src =>
      if src = [] then ([], carry)
      else
        let state := D (block src)
        let rest := src.drop 16
        if 0 < rest.length ∧ rest.length < 16 then
          let state := chain mode (block rest) state
          let last := D (block (rest ++ state.1.drop rest.length))
          ((chain mode carry last).1 ++ state.1.take rest.length,
            carried mode carry (block src))
        else
          let out := openLoop n (carried mode carry (block src)) rest
          ((chain mode carry (D (block src))).1 ++ out.1, out.2)

variable {E D mode}

/-- The XOR of CBC mode is its own inverse. -/
theorem chain_chain (v b : Block) : chain mode v (chain mode v b) = b := by
  cases mode with
  | ecb => rfl
  | cbc => exact xorBlock_cancel b v

/-- A partial block is filled up with zeros. -/
theorem block_eq {t : Bytes} (h : t.length ≤ 16) :
    (block t).1 = t ++ List.replicate (16 - t.length) 0 := by
  show (t ++ List.replicate 16 0).take 16 = _
  rw [List.take_append, List.take_of_length_le h, List.take_replicate]
  congr 2
  omega

/-- XOR with zeros, before and after, changes nothing. -/
theorem zipWith_xor_zeros (q : Bytes) : List.zipWith (· ^^^ ·)
    (List.zipWith (· ^^^ ·) (List.replicate q.length 0) q) (List.replicate q.length 0) = q := by
  induction q with
  | nil => rfl
  | cons x q ih =>
    simp only [List.length_cons, List.replicate_succ, List.zipWith_cons_cons, ih,
      UInt8.zero_xor, UInt8.xor_zero]

/-- XOR with a block, then with its first bytes: the first bytes come back, and the others are
    those of the block. -/
theorem xor_padded {s : Block} {rest : Bytes} (h : rest.length ≤ 16) :
    (xorBlock (xorBlock (block rest) s) (block (s.1.take rest.length))).1 =
      rest ++ s.1.drop rest.length := by
  have hs : s.1.take rest.length ++ s.1.drop rest.length = s.1 := List.take_append_drop ..
  have hp : (s.1.take rest.length).length = rest.length := by
    rw [List.length_take, s.2]
    omega
  have hq : (s.1.drop rest.length).length = 16 - rest.length := by rw [List.length_drop, s.2]
  show List.zipWith (· ^^^ ·) (List.zipWith (· ^^^ ·) (block rest).1 s.1)
    (block (s.1.take rest.length)).1 = _
  rw [block_eq h, block_eq (by omega), hp]
  generalize s.1.take rest.length = p at hs hp ⊢
  generalize s.1.drop rest.length = q at hs hq ⊢
  rw [← hs, List.zipWith_append hp.symm, List.zipWith_append (by rw [List.length_zipWith, hp]; simp),
    zipWith_xor_cancel _ _ (by omega), ← hq, zipWith_xor_zeros]

/-- **Stealing is undone**: with the stolen bytes XORed off, the state holds the partial block and
    behind it the rest of the block that was stolen from. -/
theorem unsteal (mode : CipherMode) {carry state : Block} {rest : Bytes} (h : rest.length ≤ 16)
    (hcarry : mode = .cbc → carry = state) :
    (chain mode (block (state.1.take rest.length)) (steal mode carry state rest)).1 =
      rest ++ state.1.drop rest.length := by
  cases mode with
  | ecb =>
    show (block (rest ++ state.1.drop rest.length)).1 = _
    have hlen : (rest ++ state.1.drop rest.length).length = 16 := by
      rw [List.length_append, List.length_drop, state.2]
      omega
    rw [block_bytes (by omega), List.take_of_length_le (by omega)]
  | cbc =>
    rw [hcarry rfl]
    exact xor_padded h

/-- A block is the next block of itself. -/
theorem block_of_append {b : Block} {s : Bytes} (h : s = b.1) : block s = b := by
  subst h
  have := block_append b []
  rwa [List.append_nil] at this

/-- What is left after a block is nothing or at least another block. -/
theorem rest_cases {src : Bytes} (hwhole : ¬ (0 < src.length - 16 ∧ src.length - 16 < 16)) :
    src.drop 16 = [] ∨ 16 ≤ (src.drop 16).length := by
  rw [List.drop_eq_nil_iff, List.length_drop]
  omega

/-- A ciphertext is as long as its plaintext. -/
theorem length_sealLoop (E : Block → Block) (mode : CipherMode) {n : Nat} (carry : Block)
    {src : Bytes} (h : src = [] ∨ 16 ≤ src.length)
    (hn : src.length ≤ n) : (sealLoop E mode n carry src).1.length = src.length := by
  induction n generalizing carry src with
  | zero =>
    rw [List.eq_nil_of_length_eq_zero (by omega : src.length = 0)]
    rfl
  | succ n ih =>
    rw [sealLoop]
    split
    case isTrue hnil => rw [hnil]
    case isFalse hne =>
      have h16 : 16 ≤ src.length := h.resolve_left hne
      dsimp only
      split
      case isTrue hpart =>
        rw [List.length_drop] at hpart
        rw [List.length_append, (E _).2, List.length_take, (E _).2, List.length_drop]
        omega
      case isFalse hwhole =>
        rw [List.length_drop] at hwhole
        have hrest := rest_cases hwhole
        rw [List.length_append, (E _).2, ih _ hrest (by rw [List.length_drop]; omega),
          List.length_drop]
        omega

/-- **The loops undo each other**, in both modes and for every length from one block on.

    The induction is on the fuel, which follows the source block by block.  A turn takes a whole
    block and goes on, or ends with a stolen one; in the second case both loops look at the same two
    pieces of ciphertext, in the opposite order. -/
theorem openLoop_sealLoop (hED : ∀ b, D (E b) = b) {n : Nat} {carry : Block} {src : Bytes}
    (h : src = [] ∨ 16 ≤ src.length) (hn : src.length ≤ n) :
    (openLoop D mode n carry (sealLoop E mode n carry src).1).1 = src := by
  induction n generalizing carry src with
  | zero =>
    rw [List.eq_nil_of_length_eq_zero (by omega : src.length = 0)]
    rfl
  | succ n ih =>
    rw [sealLoop]
    split
    case isTrue hnil =>
      rw [hnil, openLoop, if_pos rfl]
    case isFalse hne =>
      have h16 : 16 ≤ src.length := h.resolve_left hne
      have hfirst : (block src).1 ++ src.drop 16 = src := by
        rw [block_bytes h16, List.take_append_drop]
      dsimp only
      -- what encryption has in the state, and in the carry vector, after the first block
      generalize hstate : E (chain mode carry (block src)) = state
      have hcarry : mode = .cbc → carried mode carry state = state := by
        intro hcbc
        rw [hcbc]
        rfl
      have hback : chain mode carry (D state) = block src := by
        rw [← hstate, hED, chain_chain]
      split
      -- stolen: the second block of the text was encrypted with the end of the first
      case isTrue hpart =>
        rw [List.length_drop] at hpart
        have hk : (src.drop 16).length ≤ 16 := by
          rw [List.length_drop]
          omega
        generalize hE : E (steal mode (carried mode carry state) state (src.drop 16)) = first
        have hne' : first.1 ++ state.1.take (src.drop 16).length ≠ [] := by
          apply List.ne_nil_of_length_pos
          rw [List.length_append, first.2]
          omega
        have hlen : (state.1.take (src.drop 16).length).length = (src.drop 16).length := by
          rw [List.length_take, state.2]
          omega
        have htext := unsteal mode hk hcarry
        rw [openLoop, if_neg hne', block_append, List.drop_left' first.2]
        dsimp only
        rw [if_pos (by rw [hlen, List.length_drop]; exact hpart), hlen, ← hE, hED, htext,
          List.drop_left, List.take_left, List.take_append_drop, block_of_append rfl, hback]
        exact hfirst
      -- the first block comes back, and the rest by induction, with the same carry vector on both
      -- sides
      case isFalse hwhole =>
        rw [List.length_drop] at hwhole
        have hrest := rest_cases hwhole
        have hrestn : (src.drop 16).length ≤ n := by
          rw [List.length_drop]
          omega
        have hout := length_sealLoop E mode (carried mode carry state) hrest hrestn
        have hne' : state.1 ++ (sealLoop E mode n (carried mode carry state) (src.drop 16)).1
            ≠ [] := by
          apply List.ne_nil_of_length_pos
          rw [List.length_append, state.2]
          omega
        rw [openLoop, if_neg hne', block_append, List.drop_left' state.2]
        dsimp only
        rw [if_neg (by rw [hout, List.length_drop]; exact hwhole), hback, ih hrest hrestn]
        exact hfirst

/-- The loops of `AES.lean` are these in CBC mode. -/
theorem sealLoop_cbc (n : Nat) (carry : Block) (src : Bytes) :
    (sealLoop E .cbc n carry src).1 = encryptLoop E n carry src := by
  induction n generalizing carry src with
  | zero => rfl
  | succ n ih =>
    rw [sealLoop, encryptLoop]
    split
    · rfl
    · dsimp only
      split
      · rfl
      · exact congrArg (_ ++ ·) (ih ..)

/-- The same for decryption. -/
theorem openLoop_cbc (n : Nat) (carry : Block) (src : Bytes) :
    (openLoop D .cbc n carry src).1 = decryptLoop D n carry src := by
  induction n generalizing carry src with
  | zero => rfl
  | succ n ih =>
    rw [openLoop, decryptLoop]
    split
    · rfl
    · dsimp only
      split
      · rfl
      · exact congrArg (_ ++ ·) (ih ..)

end Texts

/-! ## The object -/

/-- The members of an `AES` object that a later call reads.  `m_State` is filled anew by every
    call before it is read. -/
structure Object where
  cipherMode : CipherMode
  rounds : Nat
  key : List UInt32
  carryVector : Block

/-- Sixteen zero bytes. -/
def zeroBlock : Block := ⟨List.replicate 16 0, List.length_replicate⟩

namespace Object

/-- `AES::setup`: nothing of the object as it was is kept. -/
def setup (key : Option Bytes) (keySize : KeySize) (mode : CipherMode) (iv : Option Block) :
    Object where
  cipherMode := mode
  rounds := keySize.rounds
  key := (key.map (expandKey keySize)).getD (List.replicate 60 0)
  carryVector := iv.getD zeroBlock

/-- `aesEncrypt ()` on the state. -/
def E (o : Object) : Block → Block := aesEncrypt o.key o.rounds

/-- `aesDecrypt ()` on the state. -/
def D (o : Object) : Block → Block := aesDecrypt o.key o.rounds

/-- `memcpy (m_CarryVector, ..., 16)`. -/
def next (o : Object) (carry : Block) : Object := { o with carryVector := carry }

@[simp] theorem E_next (o : Object) (carry : Block) : (o.next carry).E = o.E := rfl
@[simp] theorem D_next (o : Object) (carry : Block) : (o.next carry).D = o.D := rfl
@[simp] theorem cipherMode_next (o : Object) (carry : Block) :
    (o.next carry).cipherMode = o.cipherMode := rfl
@[simp] theorem carryVector_next (o : Object) (carry : Block) :
    (o.next carry).carryVector = carry := rfl
@[simp] theorem next_next (o : Object) (carry carry' : Block) :
    (o.next carry).next carry' = o.next carry' := rfl
@[simp] theorem next_self (o : Object) : o.next o.carryVector = o := rfl

theorem D_E (o : Object) (b : Block) : o.D (o.E b) = b := aesDecrypt_aesEncrypt ..

variable {n : Nat}

/-- The loop of `AES::encrypt` in place: `pos` is where `srcBytes` and `dest` point. -/
def encryptLoop : Nat → Object → CArray n → Nat → Nat → Checked (Object × CArray n)
  | 0, o, data, _, _ => .ok (o, data)
  | fuel + 1, o, data, pos, length =>
      if length = 0 then .ok (o, data)
      else do
        let source ← readRange data pos 16
        let state := o.E (chain o.cipherMode o.carryVector (block source))
        let o := o.next (carried o.cipherMode o.carryVector state)
        let length := length - 16
        if 0 < length ∧ length < 16 then
          let temp ← readRange data (pos + 16) length
          let data ← writeRange data (pos + 16) (state.1.take length)
          let data ← writeRange data pos (o.E (steal o.cipherMode o.carryVector state temp)).1
          .ok (o, data)
        else
          let data ← writeRange data pos state.1
          encryptLoop fuel o data (pos + 16) length

/-- `AES::encrypt (data, length)`. -/
def encrypt (o : Object) (data : CArray n) (length : Nat) : Checked (Object × CArray n) :=
  if 0 < length ∧ length < 16 then do
    let source ← readRange data 0 length
    let state := o.E (chain o.cipherMode o.carryVector (block source))
    let data ← writeRange data 0 state.1
    .ok (o.next (carried o.cipherMode o.carryVector state), data)
  else encryptLoop length o data 0 length

/-- The loop of `AES::decrypt` in place. -/
def decryptLoop : Nat → Object → CArray n → Nat → Nat → Checked (Object × CArray n)
  | 0, o, data, _, _ => .ok (o, data)
  | fuel + 1, o, data, pos, length =>
      if length = 0 then .ok (o, data)
      else do
        let source ← readRange data pos 16
        let state := o.D (block source)
        let o' := o.next (carried o.cipherMode o.carryVector (block source))
        let length := length - 16
        if 0 < length ∧ length < 16 then
          let temp ← readRange data (pos + 16) length
          -- the XOR with the partial block stops at its end, as one with zeros behind it does
          let state := chain o.cipherMode (block temp) state
          let data ← writeRange data (pos + 16) (state.1.take length)
          let state := o.D (block (temp ++ state.1.drop length))
          let data ← writeRange data pos (chain o.cipherMode o.carryVector state).1
          .ok (o', data)
        else
          let data ← writeRange data pos (chain o.cipherMode o.carryVector state).1
          decryptLoop fuel o' data (pos + 16) length

/-- `AES::decrypt (data, length)`. -/
def decrypt (o : Object) (data : CArray n) (length : Nat) : Checked (Object × CArray n) :=
  if 0 < length ∧ length < 16 then do
    let source ← readRange data 0 16
    let state := chain o.cipherMode o.carryVector (o.D (block source))
    let data ← writeRange data 0 (state.1.take length)
    .ok (o.next (carried o.cipherMode o.carryVector (block source)), data)
  else decryptLoop length o data 0 length

/-! ## In place is as good as apart -/

section Accesses

variable {data : CArray n} {pre src post : Bytes}

/-- A text of at least a block is its first block and the rest. -/
theorem split16 (h : 16 ≤ src.length) : src = (block src).1 ++ src.drop 16 := by
  rw [block_bytes h, List.take_append_drop]

/-- The block that a turn reads. -/
theorem read_block (hdata : data.1 = pre ++ src ++ post) (h : 16 ≤ src.length) :
    readRange data pre.length 16 = .ok (block src).1 := by
  have hread := readRange_append (b := data) (p := pre) (m := (block src).1)
    (s := src.drop 16 ++ post) (by rw [hdata, List.append_assoc, List.append_assoc,
      ← List.append_assoc (block src).1, ← split16 h])
  rwa [(block src).2] at hread

/-- The partial block behind it. -/
theorem read_rest (hdata : data.1 = pre ++ src ++ post) (h : 16 ≤ src.length) :
    readRange data (pre.length + 16) (src.length - 16) = .ok (src.drop 16) := by
  have hread := readRange_append (b := data) (p := pre ++ (block src).1) (m := src.drop 16)
    (s := post) (by rw [hdata, List.append_assoc pre (block src).1, ← split16 h])
  rwa [List.length_append, (block src).2, List.length_drop] at hread

/-- Sixteen bytes written over the block. -/
theorem write_block (hdata : data.1 = pre ++ src ++ post) (h : 16 ≤ src.length) (y : Block) :
    ∃ data', writeRange data pre.length y.1 = .ok data' ∧
      data'.1 = (pre ++ y.1) ++ src.drop 16 ++ post := by
  obtain ⟨data', hw, hdata'⟩ := writeRange_append (b := data) (p := pre) (m := (block src).1)
    (s := src.drop 16 ++ post) (x := y.1) (by rw [hdata, List.append_assoc, List.append_assoc,
      ← List.append_assoc (block src).1, ← split16 h]) (y.2.trans (block src).2.symm)
  exact ⟨data', hw, by rw [hdata', ← List.append_assoc]⟩

/-- The writes of a turn that steals: first behind the block, then over it. -/
theorem write_stolen (hdata : data.1 = pre ++ src ++ post) (h : 16 ≤ src.length) {x : Bytes}
    (hx : x.length = src.length - 16) (y : Block) :
    ∃ data₁ data₂, writeRange data (pre.length + 16) x = .ok data₁ ∧
      writeRange data₁ pre.length y.1 = .ok data₂ ∧ data₂.1 = pre ++ (y.1 ++ x) ++ post := by
  obtain ⟨data₁, hw₁, hdata₁⟩ := writeRange_append (b := data) (p := pre ++ (block src).1)
    (m := src.drop 16) (s := post) (x := x)
    (by rw [hdata, List.append_assoc pre (block src).1, ← split16 h])
    (by rw [hx, List.length_drop])
  rw [List.length_append, (block src).2] at hw₁
  obtain ⟨data₂, hw₂, hdata₂⟩ := writeRange_append (b := data₁) (p := pre) (m := (block src).1)
    (s := x ++ post) (x := y.1) (by rw [hdata₁, List.append_assoc])
    (y.2.trans (block src).2.symm)
  exact ⟨data₁, data₂, hw₁, hw₂, by simp only [hdata₂, List.append_assoc]⟩

end Accesses

theorem block_block (b : Block) : block b.1 = b := block_of_append rfl

/-- **Encryption in place leaves what the loop on texts returns.** -/
theorem encryptLoop_eq {fuel : Nat} (o : Object) {data : CArray n} {pre src post : Bytes}
    (hdata : data.1 = pre ++ src ++ post) (h : src = [] ∨ 16 ≤ src.length)
    (hfuel : src.length ≤ fuel) :
    ∃ data', encryptLoop fuel o data pre.length src.length =
        .ok (o.next (sealLoop o.E o.cipherMode fuel o.carryVector src).2, data') ∧
      data'.1 = pre ++ (sealLoop o.E o.cipherMode fuel o.carryVector src).1 ++ post := by
  induction fuel generalizing o data pre src with
  | zero =>
    obtain rfl := List.eq_nil_of_length_eq_zero (by omega : src.length = 0)
    exact ⟨data, rfl, hdata⟩
  | succ fuel ih =>
    rcases h with rfl | h16
    · exact ⟨data, rfl, hdata⟩
    · have hne : src ≠ [] := List.ne_nil_of_length_pos (by omega)
      rw [encryptLoop, if_neg (by omega), sealLoop, if_neg hne, read_block hdata h16]
      simp only [ok_bind, block_block, List.length_drop, E_next, cipherMode_next, carryVector_next]
      generalize o.E (chain o.cipherMode o.carryVector (block src)) = state
      generalize carried o.cipherMode o.carryVector state = carry
      split
      case isTrue hpart =>
        rw [read_rest hdata h16, ok_bind]
        generalize o.E (steal o.cipherMode carry state (src.drop 16)) = last
        obtain ⟨data₁, data₂, hw₁, hw₂, hdata₂⟩ := write_stolen hdata h16
          (x := state.1.take (src.length - 16)) (by rw [List.length_take, state.2]; omega) last
        rw [hw₁, ok_bind, hw₂]
        exact ⟨data₂, rfl, hdata₂⟩
      case isFalse hwhole =>
        obtain ⟨data₁, hw₁, hdata₁⟩ := write_block hdata h16 state
        obtain ⟨data₂, hrun, hdata₂⟩ := ih (o.next carry) hdata₁ (rest_cases hwhole)
          (by rw [List.length_drop]; omega)
        rw [List.length_append, state.2, List.length_drop] at hrun
        rw [hw₁, ok_bind, hrun]
        refine ⟨data₂, rfl, ?_⟩
        rw [hdata₂, List.append_assoc pre]
        rfl

/-- **So does decryption.** -/
theorem decryptLoop_eq {fuel : Nat} (o : Object) {data : CArray n} {pre src post : Bytes}
    (hdata : data.1 = pre ++ src ++ post) (h : src = [] ∨ 16 ≤ src.length)
    (hfuel : src.length ≤ fuel) :
    ∃ data', decryptLoop fuel o data pre.length src.length =
        .ok (o.next (openLoop o.D o.cipherMode fuel o.carryVector src).2, data') ∧
      data'.1 = pre ++ (openLoop o.D o.cipherMode fuel o.carryVector src).1 ++ post := by
  induction fuel generalizing o data pre src with
  | zero =>
    obtain rfl := List.eq_nil_of_length_eq_zero (by omega : src.length = 0)
    exact ⟨data, rfl, hdata⟩
  | succ fuel ih =>
    rcases h with rfl | h16
    · exact ⟨data, rfl, hdata⟩
    · have hne : src ≠ [] := List.ne_nil_of_length_pos (by omega)
      rw [decryptLoop, if_neg (by omega), openLoop, if_neg hne, read_block hdata h16]
      simp only [ok_bind, block_block, List.length_drop]
      generalize o.D (block src) = state
      generalize carried o.cipherMode o.carryVector (block src) = carry
      split
      -- two blocks are left, the last one not whole: both are written in this pass
      case isTrue hpart =>
        rw [read_rest hdata h16, ok_bind]
        generalize chain o.cipherMode (block (src.drop 16)) state = stolen
        generalize chain o.cipherMode o.carryVector
          (o.D (block (src.drop 16 ++ stolen.1.drop (src.length - 16)))) = last
        obtain ⟨data₁, data₂, hw₁, hw₂, hdata₂⟩ := write_stolen hdata h16
          (x := stolen.1.take (src.length - 16)) (by rw [List.length_take, stolen.2]; omega) last
        rw [hw₁, ok_bind, hw₂]
        exact ⟨data₂, rfl, hdata₂⟩
      -- a whole block, and the loop goes on behind it
      case isFalse hwhole =>
        obtain ⟨data₁, hw₁, hdata₁⟩ :=
          write_block hdata h16 (chain o.cipherMode o.carryVector state)
        obtain ⟨data₂, hrun, hdata₂⟩ := ih (o.next carry) hdata₁ (rest_cases hwhole)
          (by rw [List.length_drop]; omega)
        rw [List.length_append, (chain _ _ _).2, List.length_drop] at hrun
        rw [hw₁, ok_bind, hrun]
        refine ⟨data₂, rfl, ?_⟩
        rw [hdata₂, List.append_assoc pre]
        rfl

/-- The two parts of an array, at a length. -/
theorem array_split (data : CArray n) (k : Nat) :
    data.1 = ([] : Bytes) ++ data.1.take k ++ data.1.drop k := by
  rw [List.nil_append, List.take_append_drop]

theorem encrypt_long (o : Object) (data : CArray n) {length : Nat} (h : 16 ≤ length)
    (hn : length ≤ n) : ∃ data', o.encrypt data length =
        .ok (o.next (sealLoop o.E o.cipherMode length o.carryVector (data.1.take length)).2, data') ∧
      data'.1 = (sealLoop o.E o.cipherMode length o.carryVector (data.1.take length)).1 ++
        data.1.drop length := by
  have hlen : (data.1.take length).length = length := by
    rw [List.length_take, data.2]
    omega
  have hrun := encryptLoop_eq o (array_split data length) (.inr (by omega)) (Nat.le_of_eq hlen)
  rw [hlen] at hrun
  rw [encrypt, if_neg (by omega)]
  exact hrun

theorem decrypt_long (o : Object) (data : CArray n) {length : Nat} (h : 16 ≤ length)
    (hn : length ≤ n) : ∃ data', o.decrypt data length =
        .ok (o.next (openLoop o.D o.cipherMode length o.carryVector (data.1.take length)).2, data') ∧
      data'.1 = (openLoop o.D o.cipherMode length o.carryVector (data.1.take length)).1 ++
        data.1.drop length := by
  have hlen : (data.1.take length).length = length := by
    rw [List.length_take, data.2]
    omega
  have hrun := decryptLoop_eq o (array_split data length) (.inr (by omega)) (Nat.le_of_eq hlen)
  rw [hlen] at hrun
  rw [decrypt, if_neg (by omega)]
  exact hrun

/-- A message shorter than a block becomes a block. -/
theorem encrypt_short (o : Object) (data : CArray n) {length : Nat} (hpos : 0 < length)
    (h : length < 16) (hn : 16 ≤ n) : ∃ o' data', o.encrypt data length = .ok (o', data') ∧
      data'.1 = (o.E (chain o.cipherMode o.carryVector (block (data.1.take length)))).1 ++
        data.1.drop 16 := by
  obtain ⟨data', hw, hdata'⟩ := writeRange_eq data (i := 0)
    (x := (o.E (chain o.cipherMode o.carryVector (block (data.1.take length)))).1)
    (by rw [(o.E _).2]; omega)
  rw [(o.E _).2, List.take_zero, List.nil_append, Nat.zero_add] at hdata'
  rw [encrypt, if_pos ⟨hpos, h⟩, readRange_eq data (by omega), ok_bind, List.drop_zero]
  simp only [hw, ok_bind]
  exact ⟨_, data', rfl, hdata'⟩

theorem decrypt_short (o : Object) (data : CArray n) {length : Nat} (hpos : 0 < length)
    (h : length < 16) (hn : 16 ≤ n) : ∃ o' data', o.decrypt data length = .ok (o', data') ∧
      data'.1 = (chain o.cipherMode o.carryVector (o.D (block (data.1.take 16)))).1.take length ++
        data.1.drop length := by
  generalize hstate : chain o.cipherMode o.carryVector (o.D (block (data.1.take 16))) = state
  have hlen : (state.1.take length).length = length := by
    rw [List.length_take, state.2]
    omega
  obtain ⟨data', hw, hdata'⟩ := writeRange_eq data (i := 0) (x := state.1.take length)
    (by rw [hlen]; omega)
  rw [hlen, List.take_zero, List.nil_append, Nat.zero_add] at hdata'
  rw [decrypt, if_pos ⟨hpos, h⟩, readRange_eq data (by omega), ok_bind, List.drop_zero]
  simp only [hstate, hw, ok_bind]
  exact ⟨_, data', rfl, hdata'⟩

/-- **What one object encrypts in place, another set up alike decrypts in place**: both modes,
    every key, every length.  The message is as it was, and so is everything behind the bytes that
    the ciphertext takes. -/
theorem decrypt_encrypt (o : Object) (data : CArray n) {length : Nat} (hlength : length ≤ n)
    (hn : 16 ≤ n) :
    ∃ o' o'' sealed opened, o.encrypt data length = .ok (o', sealed) ∧
      o.decrypt sealed length = .ok (o'', opened) ∧
      opened.1.take length = data.1.take length ∧
      opened.1.drop (max length 16) = data.1.drop (max length 16) := by
  have hlen : (data.1.take length).length = length := by
    rw [List.length_take, data.2]
    omega
  rcases Nat.eq_zero_or_pos length with rfl | hpos
  · exact ⟨o, o, data, data, rfl, rfl, rfl, rfl⟩
  rcases Nat.lt_or_ge length 16 with hshort | hlong
  · obtain ⟨o', sealed, henc, hsealed⟩ := encrypt_short o data hpos hshort hn
    obtain ⟨o'', opened, hdec, hopened⟩ := decrypt_short o sealed hpos hshort hn
    refine ⟨o', o'', sealed, opened, henc, hdec, ?_, ?_⟩
    · rw [hopened, hsealed, List.take_left' (o.E _).2, block_block, D_E, chain_chain,
        block_eq (by omega), List.take_left' hlen, List.take_left' hlen]
    · have hmax : max length 16 = length + (16 - length) := by omega
      have hfirst : ((chain o.cipherMode o.carryVector
          (o.D (block (sealed.1.take 16)))).1.take length).length = length := by
        rw [List.length_take, (chain _ _ _).2]
        omega
      rw [hopened, hmax, ← List.drop_drop, List.drop_left' hfirst, List.drop_drop, ← hmax,
        show max length 16 = 16 by omega, hsealed, List.drop_left' (o.E _).2]
  · obtain ⟨sealed, henc, hsealed⟩ := encrypt_long o data hlong hlength
    have hc := length_sealLoop o.E o.cipherMode o.carryVector (.inr (by omega)) (Nat.le_of_eq hlen)
    rw [hlen] at hc
    obtain ⟨opened, hdec, hopened⟩ := decrypt_long o sealed hlong hlength
    rw [hsealed, List.take_left' hc, List.drop_left' hc, openLoop_sealLoop o.D_E
      (.inr (by omega)) (Nat.le_of_eq hlen), List.take_append_drop] at hopened
    refine ⟨_, _, sealed, opened, henc, hdec, ?_, ?_⟩
    · rw [hopened]
    · rw [hopened]

/-! ## The loops of `AES.lean` -/

/-- In CBC mode the call in place writes what `AES.encrypt` returns. -/
theorem encrypt_cbc {o : Object} (hmode : o.cipherMode = .cbc) (data : CArray n) {length : Nat}
    (h : length = 0 ∨ 16 ≤ length) (hn : length ≤ n) :
    ∃ o' data', o.encrypt data length = .ok (o', data') ∧
      readRange data 0 length = .ok (data.1.take length) ∧
      writeRange data 0 (AES.encrypt o.E o.carryVector (data.1.take length)) = .ok data' := by
  have hlen : (data.1.take length).length = length := by
    rw [List.length_take, data.2]
    omega
  have hread : readRange data 0 length = .ok (data.1.take length) := by
    rw [readRange_eq data (by omega), List.drop_zero]
  rcases h with rfl | hlong
  · obtain ⟨data', hw, hdata'⟩ := writeRange_eq data (i := 0) (x := []) (by simp)
    have hsame : data' = data := Subtype.ext (by simpa using hdata')
    exact ⟨o, data', by rw [hsame]; rfl, hread, hw⟩
  · obtain ⟨data', henc, hdata'⟩ := encrypt_long o data hlong hn
    have hc := length_sealLoop o.E o.cipherMode o.carryVector (.inr (by omega)) (Nat.le_of_eq hlen)
    rw [hlen, hmode, sealLoop_cbc] at hc
    rw [hmode, sealLoop_cbc] at hdata'
    rw [AES.encrypt, hlen]
    obtain ⟨data'', hw, hdata''⟩ := writeRange_eq data (i := 0) (by rw [hc]; omega)
    have hsame : data'' = data' := Subtype.ext (by rw [hdata'', hdata', hc]; simp)
    exact ⟨_, data', henc, hread, by rw [hw, hsame]⟩

theorem length_openLoop (D : Block → Block) (mode : CipherMode) {n : Nat} (carry : Block)
    {src : Bytes} (h : src = [] ∨ 16 ≤ src.length) (hn : src.length ≤ n) :
    (openLoop D mode n carry src).1.length = src.length := by
  induction n generalizing carry src with
  | zero =>
    rw [List.eq_nil_of_length_eq_zero (by omega : src.length = 0)]
    rfl
  | succ n ih =>
    rw [openLoop]
    split
    case isTrue hnil => rw [hnil]
    case isFalse hne =>
      have h16 : 16 ≤ src.length := h.resolve_left hne
      have hdrop : (src.drop 16).length = src.length - 16 := List.length_drop
      dsimp only
      split
      case isTrue hpart =>
        rw [List.length_append, (chain _ _ _).2, List.length_take, (chain _ _ _).2]
        omega
      case isFalse hwhole =>
        rw [List.length_append, (chain _ _ _).2, ih _ (rest_cases (hdrop ▸ hwhole)) (by omega)]
        omega

/-- In CBC mode the call in place writes what `AES.decrypt` returns. -/
theorem decrypt_cbc {o : Object} (hmode : o.cipherMode = .cbc) (data : CArray n) {length : Nat}
    (h : length = 0 ∨ 16 ≤ length) (hn : length ≤ n) :
    ∃ o' data', o.decrypt data length = .ok (o', data') ∧
      readRange data 0 length = .ok (data.1.take length) ∧
      writeRange data 0 (AES.decrypt o.D o.carryVector (data.1.take length)) = .ok data' := by
  have hlen : (data.1.take length).length = length := by
    rw [List.length_take, data.2]
    omega
  have hread : readRange data 0 length = .ok (data.1.take length) := by
    rw [readRange_eq data (by omega), List.drop_zero]
  rcases h with rfl | hlong
  · obtain ⟨data', hw, hdata'⟩ := writeRange_eq data (i := 0) (x := []) (by simp)
    have hsame : data' = data := Subtype.ext (by simpa using hdata')
    exact ⟨o, data', by rw [hsame]; rfl, hread, hw⟩
  · obtain ⟨data', hdec, hdata'⟩ := decrypt_long o data hlong hn
    have hc := length_openLoop o.D o.cipherMode o.carryVector (.inr (by omega)) (Nat.le_of_eq hlen)
    rw [hlen, hmode, openLoop_cbc] at hc
    rw [hmode, openLoop_cbc] at hdata'
    rw [AES.decrypt, hlen]
    obtain ⟨data'', hw, hdata''⟩ := writeRange_eq data (i := 0) (by rw [hc]; omega)
    have hsame : data'' = data' := Subtype.ext (by rw [hdata'', hdata', hc]; simp)
    exact ⟨_, data', hdec, hread, by rw [hw, hsame]⟩

end Object

end AES

/-! ## The handlers -/

/-- The primitives with the block cipher of `AES.cpp`, under a 256-bit key. -/
def Primitives.withAES (P : Primitives) : Primitives :=
  { P with
    aesEncrypt := fun key b =>
      AES.aesEncrypt (AES.expandKey .key256 key) AES.KeySize.key256.rounds b
    aesDecrypt := fun key b =>
      AES.aesDecrypt (AES.expandKey .key256 key) AES.KeySize.key256.rounds b }

/-- `aes->setup (this->key, AES::KEY_256, AES::MODE_CBC, this->iv)`, in all four handlers. -/
def cipherObject : AES.Object := AES.Object.setup (some aesKey) .key256 .cbc (some aesIv)

section Handlers

variable {n : Nat} (P : Primitives) (next : Option (Handler n))

def Encrypter.handleMessage : Handler n := fun mem sizeOfMessage => do
  let (_, message) ← cipherObject.encrypt mem.message sizeOfMessage
  pass next { mem with message } sizeOfMessage

def Decrypter.handleMessage : Handler n := fun mem sizeOfMessage => do
  let (_, message) ← cipherObject.decrypt mem.message sizeOfMessage
  pass next { mem with message } sizeOfMessage

/-- `EncrypterBase64::handleMessage` with the object's call on the message. -/
def EncrypterBase64.onObject : Handler n := fun mem sizeOfMessage => do
  let (_, message) ← cipherObject.encrypt mem.message (encryptedSize sizeOfMessage)
  let text := P.base64Encode (← readRange message 0 (encryptedSize sizeOfMessage))
  let base64Encoded ←
    if text.length + 1 ≤ encodedBufferSize then writeRange mem.base64Encoded 0 (text ++ [0])
    else .ok mem.base64Encoded
  let message ← strcpy message base64Encoded
  pass next { mem with message, base64Encoded } sizeOfMessage

/-- `DecrypterBase64::handleMessage` with the object's call on the decoded bytes. -/
def DecrypterBase64.onObject : Handler n := fun mem sizeOfMessage => do
  let len ← strlen mem.message
  let text ← readRange mem.message 0 len
  let (decodedLen, base64Decoded) ← DecrypterBase64.decode P mem text
  let (_, base64Decoded) ← cipherObject.decrypt base64Decoded sizeOfMessage
  let padding ← readByte base64Decoded (sizeSub decodedLen 1)
  let decodedLen := DecrypterBase64.strippedLen decodedLen padding sizeOfMessage
  let data ← readRange base64Decoded 0 decodedLen
  let message ← writeRange mem.message 0 (data ++ [0])
  pass next { mem with message, base64Decoded } sizeOfMessage

/-- **The handlers of the chain are the handlers on the object.** -/
theorem EncrypterBase64.onObject_eq (mem : Mem n) {size : Nat} (h : encryptedSize size ≤ n) :
    onObject P next mem size = handleMessage P.withAES next mem size := by
  have hblocks : encryptedSize size = 0 ∨ 16 ≤ encryptedSize size := by
    unfold encryptedSize
    omega
  obtain ⟨o', message, henc, hread, hwrite⟩ :=
    AES.Object.encrypt_cbc (o := cipherObject) rfl mem.message hblocks h
  rw [onObject, handleMessage, henc, hread, ok_bind, ok_bind]
  show _ = (writeRange mem.message 0 (AES.encrypt cipherObject.E cipherObject.carryVector
    (mem.message.1.take (encryptedSize size))) >>= _)
  rw [hwrite, ok_bind]
  rfl

theorem DecrypterBase64.onObject_eq (mem : Mem n) {size : Nat} (h16 : size = 0 ∨ 16 ≤ size)
    (h : size ≤ decodedBufferSize) :
    onObject P next mem size = handleMessage P.withAES next mem size := by
  have hdecode (text : Bytes) : decode P.withAES mem text = decode P mem text := by
    rw [decode, decode, Primitives.withAES]
  rw [onObject, handleMessage]
  simp only [hdecode]
  cases strlen mem.message with
  | error e => rfl
  | ok len =>
    simp only [ok_bind]
    cases readRange mem.message 0 len with
    | error e => rfl
    | ok text =>
      simp only [ok_bind]
      cases decode P mem text with
      | error e => rfl
      | ok decoded =>
        obtain ⟨decodedLen, base64Decoded⟩ := decoded
        obtain ⟨o', opened, hdec, hread, hwrite⟩ :=
          AES.Object.decrypt_cbc (o := cipherObject) rfl base64Decoded h16 h
        simp only [ok_bind, hdec, hread]
        show _ = (writeRange base64Decoded 0 (AES.decrypt cipherObject.D cipherObject.carryVector
          (base64Decoded.1.take size)) >>= _)
        rw [hwrite, ok_bind]

end Handlers

/-! ## The results -/

/-- **The law of the block cipher is a fact about `AES.cpp`**: with its cipher the primitives are
    lawful as soon as base64 is. -/
theorem Primitives.withAES_lawful {P : Primitives}
    (hdecode : ∀ d, P.base64Decode (P.base64Encode d) = some d)
    (hlength : ∀ d, (P.base64Encode d).length = 4 * ((d.length + 2) / 3))
    (halphabet : ∀ d, ∀ c ∈ P.base64Encode d, Base64.Alphabet c) : P.withAES.Lawful where
  aesDecrypt_aesEncrypt _ b := AES.aesDecrypt_aesEncrypt _ _ b
  base64Decode_encode := hdecode
  base64Encode_length := hlength
  base64Encode_alphabet := halphabet

theorem reference_withAES_lawful : Primitives.reference.withAES.Lawful :=
  Primitives.withAES_lawful Base64.decode_encode Base64.length_encode Base64.encode_alphabet

/-- **The chain's ciphers are calls on an `AES` object**: the handlers of the chain, with the
    cipher of `AES.cpp`, do what the handlers do that encrypt and decrypt in place. -/
theorem handlers_run_the_object {n : Nat} (P : Primitives) (next : Option (Handler n)) (mem : Mem n)
    {toEncrypt toDecrypt : Nat} (hn : encryptedSize toEncrypt ≤ n)
    (h16 : toDecrypt = 0 ∨ 16 ≤ toDecrypt) (hbuffer : toDecrypt ≤ decodedBufferSize) :
    EncrypterBase64.onObject P next mem toEncrypt =
        EncrypterBase64.handleMessage P.withAES next mem toEncrypt ∧
      DecrypterBase64.onObject P next mem toDecrypt =
        DecrypterBase64.handleMessage P.withAES next mem toDecrypt :=
  ⟨EncrypterBase64.onObject_eq P next mem hn, DecrypterBase64.onObject_eq P next mem h16 hbuffer⟩

/-- Three blocks, the last of them filled up. -/
def threeBlocks : Bytes := ascii "LORALORA,1,2,STOP,1,90,010125120000,0"

theorem handlers_run_the_object_blocks :
    EncrypterBase64.onObject Primitives.reference none (Mem.holding 64 threeBlocks) 37 =
        EncrypterBase64.handleMessage Primitives.reference.withAES none
          (Mem.holding 64 threeBlocks) 37 ∧
      DecrypterBase64.onObject Primitives.reference none (Mem.holding 64 threeBlocks) 48 =
        DecrypterBase64.handleMessage Primitives.reference.withAES none
          (Mem.holding 64 threeBlocks) 48 :=
  handlers_run_the_object Primitives.reference none (Mem.holding 64 threeBlocks) (by decide)
    (.inr (by decide)) (by decide)

/-- **What `Encrypter` did, `Decrypter` undoes**, for a message of any size: the message is as it
    was, and so is the buffer behind the ciphertext. -/
theorem Decrypter.restores {n : Nat} (mem : Mem n) {size : Nat} (hsize : size ≤ n) (hn : 16 ≤ n) :
    ∃ sealed opened, Encrypter.handleMessage none mem size = .ok (.processed, sealed) ∧
      Decrypter.handleMessage none sealed size = .ok (.processed, opened) ∧
      opened.message.1.take size = mem.message.1.take size ∧
      opened.message.1.drop (max size 16) = mem.message.1.drop (max size 16) := by
  obtain ⟨o', o'', sealed, opened, henc, hdec, htake, hdrop⟩ :=
    AES.Object.decrypt_encrypt cipherObject mem.message hsize hn
  refine ⟨{ mem with message := sealed }, { mem with message := opened }, ?_, ?_, htake, hdrop⟩
  · rw [Encrypter.handleMessage, henc, ok_bind]
    rfl
  · rw [Decrypter.handleMessage, hdec, ok_bind]
    rfl

theorem Decrypter.restores_seventeen :
    ∃ sealed opened, Encrypter.handleMessage none (Mem.holding 40 (ascii "seventeen letters")) 17
        = .ok (.processed, sealed) ∧
      Decrypter.handleMessage none sealed 17 = .ok (.processed, opened) ∧
      opened.message.1.take 17 =
        (Mem.holding 40 (ascii "seventeen letters")).message.1.take 17 ∧
      opened.message.1.drop (max 17 16) =
        (Mem.holding 40 (ascii "seventeen letters")).message.1.drop (max 17 16) :=
  Decrypter.restores (Mem.holding 40 (ascii "seventeen letters")) (by decide) (by decide)

end GatewayLoRa
