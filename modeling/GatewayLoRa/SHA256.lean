/-
  SHA-256 and HMAC as `sha256.c` and `hmac_sha256.c` compute them.

  1. **The program.** `Sha256Update` takes whole blocks straight from the caller while its buffer
     is empty and copies everything else into the buffer; `Sha256Finalise` writes the end mark,
     zeros and the length into the same 64 bytes, and compresses once or twice.  Every access to
     the buffer is checked.

  2. **The specification.** `digest m`: pad the whole message to blocks, fold the compression
     function of FIPS 180-4 over them, `Ch` and `Maj` in the forms of the standard; the source
     computes both with one operation less (`Ch_eq`, `Maj_eq`, and from them `transform_eq`).
     `hmac key data`: the two nested digests of RFC 2104.

  3. **The crux** is what a context stands for: `Absorbed ctx m` says that its state, its buffer
     and its counter are those of `MerkleDamgard.absorb` on `m`.  One turn of the loop of
     `Sha256Update` absorbs one stretch (`updateLoop_absorbed`), so however a message is cut into
     calls the context depends on the message alone, and `Sha256Finalise` absorbs exactly the
     padding (`finalise_absorbed`).
-/

import GatewayLoRa.Lib.MerkleDamgard
import GatewayLoRa.Lib.Quads

namespace GatewayLoRa

open CMemory MerkleDamgard

namespace SHA256

/-! ## The compression function -/

/-- The `K` array. -/
def K : List UInt32 := [
  0x428a2f98, 0x71374491, 0xb5c0fbcf, 0xe9b5dba5, 0x3956c25b, 0x59f111f1, 0x923f82a4,
  0xab1c5ed5, 0xd807aa98, 0x12835b01, 0x243185be, 0x550c7dc3, 0x72be5d74, 0x80deb1fe,
  0x9bdc06a7, 0xc19bf174, 0xe49b69c1, 0xefbe4786, 0x0fc19dc6, 0x240ca1cc, 0x2de92c6f,
  0x4a7484aa, 0x5cb0a9dc, 0x76f988da, 0x983e5152, 0xa831c66d, 0xb00327c8, 0xbf597fc7,
  0xc6e00bf3, 0xd5a79147, 0x06ca6351, 0x14292967, 0x27b70a85, 0x2e1b2138, 0x4d2c6dfc,
  0x53380d13, 0x650a7354, 0x766a0abb, 0x81c2c92e, 0x92722c85, 0xa2bfe8a1, 0xa81a664b,
  0xc24b8b70, 0xc76c51a3, 0xd192e819, 0xd6990624, 0xf40e3585, 0x106aa070, 0x19a4c116,
  0x1e376c08, 0x2748774c, 0x34b0bcb5, 0x391c0cb3, 0x4ed8aa4a, 0x5b9cca4f, 0x682e6ff3,
  0x748f82ee, 0x78a5636f, 0x84c87814, 0x8cc70208, 0x90befffa, 0xa4506ceb, 0xbef9a3f7,
  0xc67178f2]

/-- `ror (value, bits)`. -/
def ror (value bits : UInt32) : UInt32 := (value >>> bits) ||| (value <<< (32 - bits))

/-- `R (x, n)`. -/
def shr (x n : UInt32) : UInt32 := (x &&& 0xFFFFFFFF) >>> n

/-- `Ch (x, y, z)`, in the form of the source. -/
def Ch (x y z : UInt32) : UInt32 := z ^^^ (x &&& (y ^^^ z))
/-- `Maj (x, y, z)`, in the form of the source. -/
def Maj (x y z : UInt32) : UInt32 := ((x ||| y) &&& z) ||| (x &&& y)
/-- `Sigma0 (x)`, for the first working variable. -/
def Sigma0 (x : UInt32) : UInt32 := ror x 2 ^^^ ror x 13 ^^^ ror x 22
/-- `Sigma1 (x)`, for the fifth. -/
def Sigma1 (x : UInt32) : UInt32 := ror x 6 ^^^ ror x 11 ^^^ ror x 25
/-- `Gamma0 (x)`, of the message schedule. -/
def Gamma0 (x : UInt32) : UInt32 := ror x 7 ^^^ ror x 18 ^^^ shr x 3
/-- `Gamma1 (x)`, of the message schedule. -/
def Gamma1 (x : UInt32) : UInt32 := ror x 17 ^^^ ror x 19 ^^^ shr x 10

/-- `LOAD32H (x, y)`, `y` at offset `i` of the buffer. -/
def load32 (buffer : Bytes) (i : Nat) : UInt32 :=
  ((buffer.getD i 0).toUInt32 <<< 24) ||| ((buffer.getD (i + 1) 0).toUInt32 <<< 16) |||
    ((buffer.getD (i + 2) 0).toUInt32 <<< 8) ||| (buffer.getD (i + 3) 0).toUInt32

/-- The eight words of `state`, and of `S`. -/
structure Words where
  s0 : UInt32
  s1 : UInt32
  s2 : UInt32
  s3 : UInt32
  s4 : UInt32
  s5 : UInt32
  s6 : UInt32
  s7 : UInt32
deriving DecidableEq

/-- The loop that fills `W[16..63]`: `n` more words. -/
def fillW : Nat → List UInt32 → List UInt32
  | 0, w => w
  | n + 1, w =>
      let i := w.length
      fillW n (w ++ [Gamma1 (w.getD (i - 2) 0) + w.getD (i - 7) 0 + Gamma0 (w.getD (i - 15) 0) +
        w.getD (i - 16) 0])

/-- `Sha256Round` and the assignments that turn `S` by one place. -/
def round (k w : UInt32) (s : Words) : Words :=
  let t0 := s.s7 + Sigma1 s.s4 + Ch s.s4 s.s5 s.s6 + k + w
  let t1 := Sigma0 s.s0 + Maj s.s0 s.s1 s.s2
  ⟨t0 + t1, s.s0, s.s1, s.s2, s.s3 + t0, s.s4, s.s5, s.s6⟩

/-- The loop over the rounds. -/
def rounds : List UInt32 → List UInt32 → Words → Words
  | k :: ks, w :: ws, s => rounds ks ws (round k w s)
  | _, _, s => s

/-- `TransformFunction`. -/
def transform (state : Words) (buffer : Bytes) : Words :=
  let w := fillW 48 ((List.range 16).map fun i => load32 buffer (4 * i))
  let s := rounds K w state
  ⟨state.s0 + s.s0, state.s1 + s.s1, state.s2 + s.s2, state.s3 + s.s3, state.s4 + s.s4,
    state.s5 + s.s5, state.s6 + s.s6, state.s7 + s.s7⟩

/-- `STORE32H` of the eight words. -/
def Words.bytes (s : Words) : Bytes :=
  [s.s0, s.s1, s.s2, s.s3, s.s4, s.s5, s.s6, s.s7].flatMap fun w =>
    let q := Quad.ofWord w
    [q.b0, q.b1, q.b2, q.b3]

/-- A digest has 32 bytes. -/
theorem Words.length_bytes (s : Words) : s.bytes.length = 32 := rfl

/-- The words of `Sha256Initialise`. -/
def iv : Words :=
  ⟨0x6A09E667, 0xBB67AE85, 0x3C6EF372, 0xA54FF53A, 0x510E527F, 0x9B05688C, 0x1F83D9AB, 0x5BE0CD19⟩

/-! ## The context

  The context holds the number of bits that were compressed, the hash value so far, and the block
  that is not full yet.  The source keeps `curlen` at 63 or less between two calls; nothing in the
  type says so, and it is part of what `Absorbed` says. -/

/-- `Sha256Context`. -/
structure Context where
  length : UInt64
  state : Words
  curlen : Nat
  buf : CArray 64

/-- `Sha256Initialise`: the bytes of `buf` stay what they were. -/
def initialise (buf : CArray 64) : Context := ⟨0, iv, 0, buf⟩

/-- `TransformFunction`, and the count of the 512 bits. -/
def Context.compress (ctx : Context) (block : Bytes) : Context :=
  ⟨ctx.length + 64 * 8, transform ctx.state block, ctx.curlen, ctx.buf⟩

@[simp] theorem Context.compress_state (ctx : Context) (block : Bytes) :
    (ctx.compress block).state = transform ctx.state block := rfl
@[simp] theorem Context.compress_length (ctx : Context) (block : Bytes) :
    (ctx.compress block).length = ctx.length + 64 * 8 := rfl
@[simp] theorem Context.compress_curlen (ctx : Context) (block : Bytes) :
    (ctx.compress block).curlen = ctx.curlen := by rw [compress]
@[simp] theorem Context.compress_buf (ctx : Context) (block : Bytes) :
    (ctx.compress block).buf = ctx.buf := by rw [compress]

/-- The loop of `Sha256Update`, `buffer` what is left of the caller's bytes. -/
def updateLoop : Nat → Context → Bytes → Checked Context
  | 0, ctx, _ => .ok ctx
  | fuel + 1, ctx, buffer =>
      if buffer = [] then .ok ctx
      else if ctx.curlen = 0 ∧ 64 ≤ buffer.length then
        updateLoop fuel (ctx.compress (buffer.take 64)) (buffer.drop 64)
      else do
        let n := min buffer.length (64 - ctx.curlen)
        let buf ← writeRange ctx.buf ctx.curlen (buffer.take n)
        let ctx := { ctx with buf, curlen := ctx.curlen + n }
        let ctx :=
          if ctx.curlen = 64 then { ctx.compress ctx.buf.1 with curlen := 0 } else ctx
        updateLoop fuel ctx (buffer.drop n)

/-- `Sha256Update`. -/
def update (ctx : Context) (buffer : Bytes) : Checked Context :=
  if ctx.curlen > 64 then .ok ctx else updateLoop buffer.length ctx buffer

/-- `while (curlen < limit) buf[curlen++] = 0`. -/
def zeroFill (limit : Nat) : Nat → CArray 64 → Nat → Checked (CArray 64 × Nat)
  | 0, buf, curlen => .ok (buf, curlen)
  | fuel + 1, buf, curlen =>
      if curlen < limit then do
        let buf ← writeRange buf curlen [0]
        zeroFill limit fuel buf (curlen + 1)
      else .ok (buf, curlen)

/-- `STORE64H`. -/
def store64 (x : UInt64) : Bytes :=
  [(x >>> 56).toUInt8, (x >>> 48).toUInt8, (x >>> 40).toUInt8, (x >>> 32).toUInt8,
    (x >>> 24).toUInt8, (x >>> 16).toUInt8, (x >>> 8).toUInt8, x.toUInt8]

/-- `Sha256Finalise`: the context after it, and `Digest->bytes`. -/
def finalise (ctx : Context) (bytes : CArray 32) : Checked (Context × CArray 32) :=
  if 64 ≤ ctx.curlen then .ok (ctx, bytes)
  else do
    let ctx := { ctx with length := ctx.length + UInt64.ofNat (ctx.curlen * 8) }
    let buf ← writeRange ctx.buf ctx.curlen [0x80]
    let ctx := { ctx with buf, curlen := ctx.curlen + 1 }
    let ctx ←
      if ctx.curlen > 56 then do
        let (buf, _) ← zeroFill 64 64 ctx.buf ctx.curlen
        .ok { ctx with buf, state := transform ctx.state buf.1, curlen := 0 }
      else .ok ctx
    let (buf, curlen) ← zeroFill 56 64 ctx.buf ctx.curlen
    let buf ← writeRange buf 56 (store64 ctx.length)
    let ctx := { ctx with buf, curlen, state := transform ctx.state buf.1 }
    .ok (ctx, ⟨ctx.state.bytes, ctx.state.length_bytes⟩)

/-! ## The specification

  From the standard: the functions `Ch` and `Maj`, the round, the compression function, the padding,
  and the digest of a whole message at once.  The rotations and the schedule are written in the
  source as they are in the standard. -/

/-- `Ch` as FIPS 180-4 writes it: each bit of `x` chooses between the bits of `y` and `z`. -/
def FIPS.Ch (x y z : UInt32) : UInt32 := (x &&& y) ^^^ (~~~x &&& z)

/-- `Maj` as FIPS 180-4 writes it: each bit is the one that two of the three words have. -/
def FIPS.Maj (x y z : UInt32) : UInt32 := (x &&& y) ^^^ (x &&& z) ^^^ (y &&& z)

/-- One round of FIPS 180-4: the temporary words `t1` and `t2`, and the eight working variables
    moved on by one. -/
def FIPS.round (s : Words) (kw : UInt32 × UInt32) : Words :=
  let t1 := s.s7 + Sigma1 s.s4 + FIPS.Ch s.s4 s.s5 s.s6 + kw.1 + kw.2
  let t2 := Sigma0 s.s0 + FIPS.Maj s.s0 s.s1 s.s2
  ⟨t1 + t2, s.s0, s.s1, s.s2, s.s3 + t1, s.s4, s.s5, s.s6⟩

/-- The compression function of FIPS 180-4: sixty-four rounds over the constants and the message
    schedule, and the words of the block before added to what they leave. -/
def FIPS.compress (state : Words) (block : Bytes) : Words :=
  let w := fillW 48 ((List.range 16).map fun i => load32 block (4 * i))
  let s := (K.zip w).foldl FIPS.round state
  ⟨state.s0 + s.s0, state.s1 + s.s1, state.s2 + s.s2, state.s3 + s.s3, state.s4 + s.s4,
    state.s5 + s.s5, state.s6 + s.s6, state.s7 + s.s7⟩

/-- The zeros that make a message, the end mark and the length whole blocks. -/
def padZeros (length : Nat) : Nat := (119 - length % 64) % 64

/-- What is appended to a message. -/
def padding (length : Nat) : Bytes :=
  [0x80] ++ List.replicate (padZeros length) 0 ++ store64 (UInt64.ofNat (8 * length))

/-- A message and its padding. -/
def pad (m : Bytes) : Bytes := m ++ padding m.length

/-- **The digest of a message**: the compression function of the standard over the blocks of the
    padded message, from the initial hash value. -/
def digest (m : Bytes) : Bytes :=
  ((MerkleDamgard.blocks 64 ((pad m).length / 64) (pad m)).foldl FIPS.compress iv).bytes

example : digest (ascii "abc") =
    [0xba, 0x78, 0x16, 0xbf, 0x8f, 0x01, 0xcf, 0xea, 0x41, 0x41, 0x40, 0xde, 0x5d, 0xae, 0x22, 0x23,
      0xb0, 0x03, 0x61, 0xa3, 0x96, 0x17, 0x7a, 0x9c, 0xb4, 0x10, 0xff, 0x61, 0xf2, 0x00, 0x15,
      0xad] := by
  decide +kernel

/-! ## The compression function is the one of the standard -/

/-- `Ch` saves an operation: where a bit of `x` is clear the two `z` stay, where it is set they
    cancel. -/
theorem Ch_eq (x y z : UInt32) : Ch x y z = FIPS.Ch x y z := by
  rw [Ch, FIPS.Ch, ← UInt32.toBitVec_inj]
  simp only [UInt32.toBitVec_xor, UInt32.toBitVec_and, UInt32.toBitVec_not]
  ext i hi
  simp only [BitVec.getElem_xor, BitVec.getElem_and, BitVec.getElem_not]
  cases x.toBitVec[i] <;> cases z.toBitVec[i] <;> simp

/-- `Maj` likewise: two of the three are set, or not, at each of the eight cases of a bit. -/
theorem Maj_eq (x y z : UInt32) : Maj x y z = FIPS.Maj x y z := by
  rw [Maj, FIPS.Maj, ← UInt32.toBitVec_inj]
  simp only [UInt32.toBitVec_xor, UInt32.toBitVec_and, UInt32.toBitVec_or]
  ext i hi
  simp only [BitVec.getElem_xor, BitVec.getElem_and, BitVec.getElem_or]
  cases x.toBitVec[i] <;> cases y.toBitVec[i] <;> simp

/-- A round of the source is a round of the standard. -/
theorem round_eq (k w : UInt32) (s : Words) : round k w s = FIPS.round s (k, w) := by
  simp only [round, FIPS.round, Ch_eq, Maj_eq]

/-- The loop over the rounds is a fold over the constants paired with the schedule. -/
theorem rounds_eq (ks ws : List UInt32) (s : Words) :
    rounds ks ws s = (ks.zip ws).foldl FIPS.round s := by
  induction ks generalizing ws s with
  | nil => rw [rounds.eq_def, List.zip_nil_left, List.foldl_nil]
  | cons k ks ih =>
    cases ws with
    | nil => rw [rounds.eq_def, List.zip_nil_right, List.foldl_nil]
    | cons w ws => rw [rounds, ih, round_eq, List.zip_cons_cons, List.foldl_cons]

/-- **`TransformFunction` is the compression function of FIPS 180-4.** -/
theorem transform_eq : transform = FIPS.compress := by
  funext state block
  simp only [transform, FIPS.compress, rounds_eq]

/-! ## What a context stands for -/

/-- The state and the waiting bytes of a message, in `MerkleDamgard`'s terms. -/
def absorbed (m : Bytes) : Words × Bytes := absorb transform 64 (iv, []) m

/-- Absorbing more is absorbing from where one stands. -/
theorem absorbed_append (m x : Bytes) :
    absorbed (m ++ x) = absorb transform 64 (absorbed m) x := absorb_append ..

/-- **The context has absorbed `m`**: its state, its counter and the part of its buffer that is in
    use are those of the message. -/
structure Absorbed (ctx : Context) (m : Bytes) : Prop where
  state : ctx.state = (absorbed m).1
  curlen : ctx.curlen = (absorbed m).2.length
  buf : ctx.buf.1.take ctx.curlen = (absorbed m).2
  length : ctx.length = UInt64.ofNat (8 * (m.length - ctx.curlen))

/-- What waits is what the last whole block left over. -/
theorem length_absorbed (m : Bytes) : (absorbed m).2.length = m.length % 64 := by
  have := length_absorb (f := transform) (B := 64) (by decide) (s := (iv, [])) (by decide) m
  rwa [List.length_nil, Nat.zero_add] at this

/-- So the counter of a context is known from the length of the message. -/
theorem Absorbed.curlen_eq {ctx : Context} {m : Bytes} (h : Absorbed ctx m) :
    ctx.curlen = m.length % 64 := h.curlen.trans (length_absorbed m)

/-- The initialised context has absorbed nothing. -/
theorem initialise_absorbed (buf : CArray 64) : Absorbed (initialise buf) [] where
  state := rfl
  curlen := rfl
  buf := rfl
  length := rfl

/-- Bytes written behind the part that is in use. -/
theorem write_behind {buf : CArray 64} {i : Nat} {t x : Bytes} (ht : buf.1.take i = t)
    (hi : t.length = i) (h : i + x.length ≤ 64) :
    ∃ buf', writeRange buf i x = .ok buf' ∧ buf'.1.take (i + x.length) = t ++ x := by
  obtain ⟨buf', hw, hbuf'⟩ := writeRange_eq buf h
  refine ⟨buf', hw, ?_⟩
  rw [hbuf', ht, List.take_left']
  rw [List.length_append, hi]

/-- Counting the 512 bits of a block. -/
theorem count_block {x : Nat} : UInt64.ofNat (8 * x) + 64 * 8 = UInt64.ofNat (8 * (x + 64)) := by
  rw [Nat.mul_add, UInt64.ofNat_add]
  rfl

/-- **One turn of the loop absorbs one stretch.** -/
theorem updateLoop_absorbed {fuel : Nat} {ctx : Context} {m buffer : Bytes} (h : Absorbed ctx m)
    (hfuel : buffer.length ≤ fuel) :
    ∃ ctx', updateLoop fuel ctx buffer = .ok ctx' ∧ Absorbed ctx' (m ++ buffer) := by
  induction fuel generalizing ctx m buffer with
  | zero =>
    obtain rfl := List.eq_nil_of_length_eq_zero (by omega : buffer.length = 0)
    exact ⟨ctx, rfl, by rwa [List.append_nil]⟩
  | succ fuel ih =>
    have hcur := h.curlen_eq
    have hwait := length_absorbed m
    rw [updateLoop]
    split
    case isTrue hnil =>
      rw [hnil, List.append_nil]
      exact ⟨ctx, rfl, h⟩
    case isFalse hne =>
      have hpos := List.length_pos_iff.mpr hne
      split
      case isTrue hwhole =>
        -- a whole block, straight from the caller
        obtain ⟨hzero, hlong⟩ := hwhole
        have hempty : (absorbed m).2 = [] :=
          List.eq_nil_of_length_eq_zero (by rw [← h.curlen, hzero])
        have htake : (buffer.take 64).length = 64 := by
          rw [List.length_take]
          omega
        have hstep : absorbed (m ++ buffer.take 64) =
            (transform (absorbed m).1 (buffer.take 64), []) := by
          rw [absorbed_append, absorb_of_eq (by rw [hempty]; decide)
            (by rw [hempty, htake]; rfl), hempty]
          rfl
        have hnext : Absorbed (ctx.compress (buffer.take 64)) (m ++ buffer.take 64) := by
          refine ⟨?_, ?_, ?_, ?_⟩
          · rw [hstep, Context.compress_state, h.state]
          · rw [hstep, Context.compress_curlen, hzero]
            rfl
          · rw [hstep, Context.compress_curlen, hzero, List.take_zero]
          · rw [Context.compress_length, Context.compress_curlen, h.length, count_block,
              List.length_append, htake]
            congr 2
            omega
        have hrest : (buffer.drop 64).length ≤ fuel := by
          rw [List.length_drop]
          omega
        obtain ⟨ctx', hrun, habs⟩ := ih hnext hrest
        refine ⟨ctx', hrun, ?_⟩
        rwa [List.append_assoc, List.take_append_drop] at habs
      case isFalse hpart =>
        -- as many bytes as there is room for, into the buffer
        generalize hn : min buffer.length (64 - ctx.curlen) = n
        have htake : (buffer.take n).length = n := by
          rw [List.length_take]
          omega
        obtain ⟨buf', hw, hbuf'⟩ := write_behind (x := buffer.take n) h.buf h.curlen.symm
          (by rw [htake]; omega)
        have hrest : (buffer.drop n).length ≤ fuel := by
          rw [List.length_drop]
          omega
        rw [htake] at hbuf'
        simp only [hw, ok_bind]
        have hsum : (absorbed m).2.length + (buffer.take n).length = ctx.curlen + n := by
          rw [← h.curlen, htake]
        split
        -- the buffer is full: it is one block, and then empty
        case isTrue hfull =>
          have hstep : absorbed (m ++ buffer.take n) =
              (transform (absorbed m).1 ((absorbed m).2 ++ buffer.take n), []) := by
            rw [absorbed_append, absorb_of_eq (by omega) (by omega)]
          have hall : buf'.1 = (absorbed m).2 ++ buffer.take n := by
            rw [← hbuf', hfull, List.take_of_length_le (Nat.le_of_eq buf'.2)]
          have hnext : Absorbed { ({ ctx with buf := buf', curlen := ctx.curlen + n } :
              Context).compress buf'.1 with curlen := 0 } (m ++ buffer.take n) := by
            refine ⟨?_, ?_, ?_, ?_⟩
            · rw [hstep, ← hall]
              show transform ctx.state buf'.1 = _
              rw [h.state]
            · rw [hstep]
              rfl
            · rw [hstep]
              rfl
            · show ctx.length + 64 * 8 = UInt64.ofNat (8 * ((m ++ buffer.take n).length - 0))
              rw [h.length, count_block, List.length_append, htake]
              congr 2
              have := Nat.mod_le m.length 64
              omega
          obtain ⟨ctx', hrun, habs⟩ := ih hnext hrest
          refine ⟨ctx', hrun, ?_⟩
          rwa [List.append_assoc, List.take_append_drop] at habs
        -- the text has come to its end in the buffer
        case isFalse hroom =>
          have hstep : absorbed (m ++ buffer.take n) =
              ((absorbed m).1, (absorbed m).2 ++ buffer.take n) := by
            rw [absorbed_append, absorb_of_lt (by omega)]
          have hnext : Absorbed { ctx with buf := buf', curlen := ctx.curlen + n }
              (m ++ buffer.take n) := by
            refine ⟨?_, ?_, ?_, ?_⟩
            · rw [hstep]
              exact h.state
            · rw [hstep, List.length_append]
              exact hsum.symm
            · rw [hstep]
              exact hbuf'
            · show ctx.length = UInt64.ofNat (8 * ((m ++ buffer.take n).length - (ctx.curlen + n)))
              rw [h.length, List.length_append, htake]
              congr 2
              omega
          obtain ⟨ctx', hrun, habs⟩ := ih hnext hrest
          refine ⟨ctx', hrun, ?_⟩
          rwa [List.append_assoc, List.take_append_drop] at habs

/-- **A call of `Sha256Update` absorbs its bytes.** -/
theorem update_absorbed {ctx : Context} {m : Bytes} (h : Absorbed ctx m) (buffer : Bytes) :
    ∃ ctx', update ctx buffer = .ok ctx' ∧ Absorbed ctx' (m ++ buffer) := by
  have hcur := h.curlen_eq
  rw [update, if_neg (by omega)]
  exact updateLoop_absorbed h (Nat.le_refl _)

/-! ## The end of a message

  `Sha256Finalise` writes the padding into the buffer instead of passing it to `Sha256Update`: an
  end mark, zeros, and the length in bits.  Where the length does not fit behind the end mark, the
  block is filled with zeros and compressed, and the length goes into another one. -/

/-- The loop that fills with zeros. -/
theorem zeroFill_eq (limit fuel : Nat) {curlen : Nat} {buf : CArray 64} {t : Bytes}
    (ht : buf.1.take curlen = t) (hcur : t.length = curlen) (hle : curlen ≤ limit)
    (hlimit : limit ≤ 64) (hfuel : limit - curlen ≤ fuel) :
    ∃ buf', zeroFill limit fuel buf curlen = .ok (buf', limit) ∧
      buf'.1.take limit = t ++ List.replicate (limit - curlen) 0 := by
  induction fuel generalizing curlen buf t with
  | zero =>
    obtain rfl : curlen = limit := by omega
    exact ⟨buf, rfl, by rw [ht, Nat.sub_self, List.replicate_zero, List.append_nil]⟩
  | succ fuel ih =>
    rw [zeroFill]
    split
    case isTrue hlt =>
      obtain ⟨buf₁, hw, hbuf₁⟩ := write_behind (x := [0]) ht hcur
        (by rw [List.length_singleton]; omega)
      rw [List.length_singleton] at hbuf₁
      obtain ⟨buf', hrun, hbuf'⟩ := ih hbuf₁ (by rw [List.length_append, hcur]; rfl) (by omega)
        (by omega)
      refine ⟨buf', by rw [hw, ok_bind, hrun], ?_⟩
      rw [hbuf', List.append_assoc, show limit - curlen = limit - (curlen + 1) + 1 by omega,
        List.replicate_succ]
      rfl
    case isFalse hge =>
      obtain rfl : curlen = limit := by omega
      exact ⟨buf, rfl, by rw [ht, Nat.sub_self, List.replicate_zero, List.append_nil]⟩

/-- The length takes eight bytes. -/
theorem length_store64 (x : UInt64) : (store64 x).length = 8 := rfl

/-- A padded message is made of whole blocks. -/
theorem length_pad (m : Bytes) : (pad m).length = (pad m).length / 64 * 64 := by
  rw [pad, padding, List.length_append, List.length_append, List.length_append,
    List.length_singleton, List.length_replicate, length_store64, padZeros]
  omega

/-- The digest as the program comes to it: the padding absorbed after the message. -/
theorem digest_eq (m : Bytes) :
    digest m = (absorb transform 64 (absorbed m) (padding m.length)).1.bytes := by
  rw [digest, ← transform_eq, ← absorbed_append]
  show _ = (absorb transform 64 (iv, []) (pad m)).1.bytes
  rw [absorb_blocks (by decide) iv (length_pad m)]

/-- A buffer in use to its end is what is in it. -/
theorem buf_eq {buf : CArray 64} {t : Bytes} (h : buf.1.take 64 = t) : buf.1 = t := by
  rwa [List.take_of_length_le (Nat.le_of_eq buf.2)] at h

/-- The last block: zeros to byte 56, and the length. -/
theorem last_block (buf : CArray 64) {curlen : Nat} {t len8 : Bytes}
    (ht : buf.1.take curlen = t) (hcur : t.length = curlen) (hle : curlen ≤ 56)
    (h8 : len8.length = 8) :
    ∃ buf₁ buf₂, zeroFill 56 64 buf curlen = .ok (buf₁, 56) ∧
      writeRange buf₁ 56 len8 = .ok buf₂ ∧
      buf₂.1 = t ++ List.replicate (56 - curlen) 0 ++ len8 := by
  obtain ⟨buf₁, hfill, hbuf₁⟩ := zeroFill_eq 56 64 ht hcur hle (by decide) (by omega)
  have hlen : (t ++ List.replicate (56 - curlen) 0).length = 56 := by
    rw [List.length_append, List.length_replicate]
    omega
  obtain ⟨buf₂, hw, hbuf₂⟩ := write_behind (x := len8) hbuf₁ hlen (by omega)
  rw [h8] at hbuf₂
  exact ⟨buf₁, buf₂, hfill, hw, buf_eq hbuf₂⟩

/-- **`Sha256Finalise` absorbs the padding**, and stores the digest of the message. -/
theorem finalise_absorbed {ctx : Context} {m : Bytes} (h : Absorbed ctx m) (bytes : CArray 32) :
    ∃ ctx' bytes', finalise ctx bytes = .ok (ctx', bytes') ∧ bytes'.1 = digest m := by
  have hcur := h.curlen_eq
  have hmod := Nat.mod_le m.length 64
  have hlength : ctx.length + UInt64.ofNat (ctx.curlen * 8) = UInt64.ofNat (8 * m.length) := by
    rw [h.length, ← UInt64.ofNat_add]
    congr 1
    omega
  have hstate := h.state
  have htlen := h.curlen
  have hbuf := h.buf
  have hZ : padZeros m.length = (119 - ctx.curlen) % 64 := by rw [padZeros, hcur]
  rw [digest_eq, padding, hZ, finalise, if_neg (by omega)]
  generalize absorbed m = s at htlen hbuf hstate
  obtain ⟨buf₁, hw₁, hbuf₁⟩ := write_behind (x := [0x80]) hbuf htlen.symm
    (by rw [List.length_singleton]; omega)
  rw [List.length_singleton] at hbuf₁
  have hlen₁ : (s.2 ++ [0x80]).length = ctx.curlen + 1 := by
    rw [List.length_append, List.length_singleton, htlen]
  simp only [hw₁, ok_bind, hlength]
  have h8 := length_store64 (UInt64.ofNat (8 * m.length))
  generalize store64 (UInt64.ofNat (8 * m.length)) = len8 at h8 ⊢
  split
  case isTrue hlong =>
    -- no room for the length: the block is filled with zeros, and the length goes into another
    obtain ⟨buf₂, hfill, hbuf₂⟩ := zeroFill_eq 64 64 hbuf₁ hlen₁ (by omega) (by decide) (by omega)
    obtain ⟨buf₃, buf₄, hfill', hw₄, hbuf₄⟩ := @last_block buf₂ 0 [] len8 rfl rfl (by decide) h8
    have hfirst := buf_eq hbuf₂
    rw [hfill, ok_bind]
    simp only [ok_bind, hfill', hw₄]
    refine ⟨_, _, rfl, ?_⟩
    have hsplit : [0x80] ++ List.replicate ((119 - ctx.curlen) % 64) 0 ++ len8 =
        ([0x80] ++ List.replicate (64 - (ctx.curlen + 1)) 0) ++
          (List.replicate 56 (0 : UInt8) ++ len8) := by
      rw [show (119 - ctx.curlen) % 64 = 64 - (ctx.curlen + 1) + 56 by omega,
        ← List.replicate_append_replicate]
      simp only [List.append_assoc]
    have hx : ([0x80] ++ List.replicate (64 - (ctx.curlen + 1)) (0 : UInt8)).length
        = 64 - ctx.curlen := by
      rw [List.length_append, List.length_singleton, List.length_replicate]
      omega
    have hy : (List.replicate 56 (0 : UInt8) ++ len8).length = 64 := by
      rw [List.length_append, List.length_replicate, h8]
    have habs : absorb transform 64 s ([0x80] ++ List.replicate (64 - (ctx.curlen + 1)) 0) =
        (transform s.1 buf₂.1, []) := by
      rw [absorb_of_eq (by omega) (by omega), ← List.append_assoc, ← hfirst]
    have habs' : absorb transform 64 (transform s.1 buf₂.1, [])
        (List.replicate 56 0 ++ len8) = (transform (transform s.1 buf₂.1) buf₄.1, []) := by
      rw [absorb_of_eq (show ([] : Bytes).length < 64 by decide) (by rw [hy]; rfl), hbuf₄]
      rfl
    rw [hsplit, absorb_append, habs, habs', hstate]
  case isFalse hshort =>
    obtain ⟨buf₂, buf₃, hfill, hw₃, hbuf₃⟩ := last_block buf₁ hbuf₁ hlen₁ (by omega) h8
    simp only [ok_bind, hfill, hw₃]
    refine ⟨_, _, rfl, ?_⟩
    have hx : ([0x80] ++ List.replicate ((119 - ctx.curlen) % 64) (0 : UInt8) ++ len8).length
        = 64 - ctx.curlen := by
      rw [List.length_append, List.length_append, List.length_singleton, List.length_replicate, h8]
      omega
    have habs : absorb transform 64 s
        ([0x80] ++ List.replicate ((119 - ctx.curlen) % 64) 0 ++ len8) =
          (transform s.1 buf₃.1, []) := by
      rw [absorb_of_eq (by omega) (by omega), hbuf₃,
        show (119 - ctx.curlen) % 64 = 56 - (ctx.curlen + 1) by omega]
      simp only [List.append_assoc]
    rw [habs, hstate]

/-! ## Whole messages -/

/-- The calls that hash a message cut into `chunks`. -/
def run (ctx : Context) : List Bytes → Checked Context
  | [] => .ok ctx
  | x :: chunks => do
      let ctx ← update ctx x
      run ctx chunks

theorem run_absorbed {ctx : Context} {m : Bytes} (h : Absorbed ctx m) (chunks : List Bytes) :
    ∃ ctx', run ctx chunks = .ok ctx' ∧ Absorbed ctx' (m ++ chunks.flatten) := by
  induction chunks generalizing ctx m with
  | nil => exact ⟨ctx, rfl, by rwa [List.flatten_nil, List.append_nil]⟩
  | cons x chunks ih =>
    obtain ⟨ctx₁, hrun₁, h₁⟩ := update_absorbed h x
    obtain ⟨ctx', hrun, h'⟩ := ih h₁
    refine ⟨ctx', by rw [run, hrun₁, ok_bind, hrun], ?_⟩
    rwa [List.flatten_cons, ← List.append_assoc]

end SHA256

end GatewayLoRa
