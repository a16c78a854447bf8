import Ithute.Library.SecureHash

/-!
# Digests of the native accelerator

SHA-256 and HMAC-SHA256 as the accelerator computes them, over byte buffers
of fixed sizes, against the standard.
-/

namespace Ithute

open BlockFolding SecureHash

namespace NativeDigests

def sha256Initial : Vector Word 8 :=
  #v[0x6a09e667, 0xbb67ae85, 0x3c6ef372, 0xa54ff53a, 0x510e527f, 0x9b05688c, 0x1f83d9ab, 0x5be0cd19]

def sha256K : List Word :=
  [0x428a2f98, 0x71374491, 0xb5c0fbcf, 0xe9b5dba5, 0x3956c25b, 0x59f111f1, 0x923f82a4, 0xab1c5ed5,
    0xd807aa98, 0x12835b01, 0x243185be, 0x550c7dc3, 0x72be5d74, 0x80deb1fe, 0x9bdc06a7, 0xc19bf174,
    0xe49b69c1, 0xefbe4786, 0x0fc19dc6, 0x240ca1cc, 0x2de92c6f, 0x4a7484aa, 0x5cb0a9dc, 0x76f988da,
    0x983e5152, 0xa831c66d, 0xb00327c8, 0xbf597fc7, 0xc6e00bf3, 0xd5a79147, 0x06ca6351, 0x14292967,
    0x27b70a85, 0x2e1b2138, 0x4d2c6dfc, 0x53380d13, 0x650a7354, 0x766a0abb, 0x81c2c92e, 0x92722c85,
    0xa2bfe8a1, 0xa81a664b, 0xc24b8b70, 0xc76c51a3, 0xd192e819, 0xd6990624, 0xf40e3585, 0x106aa070,
    0x19a4c116, 0x1e376c08, 0x2748774c, 0x34b0bcb5, 0x391c0cb3, 0x4ed8aa4a, 0x5b9cca4f, 0x682e6ff3,
    0x748f82ee, 0x78a5636f, 0x84c87814, 0x8cc70208, 0x90befffa, 0xa4506ceb, 0xbef9a3f7, 0xc67178f2]

/-- `u32::from_be_bytes` -/
def fromBeBytes (b0 b1 b2 b3 : Octet) : Word := b0 ++ b1 ++ b2 ++ b3

/-- `to_be_bytes` of an integer of so many bytes. -/
def toBeBytes {width : ℕ} (count : ℕ) (value : BitVec width) : List Octet :=
  (List.range count).map fun index => value.extractLsb' (8 * (count - 1 - index)) 8

def blockWord (block : List Octet) (index : ℕ) : Word :=
  let offset := index * 4
  fromBeBytes (block.getD offset 0) (block.getD (offset + 1) 0) (block.getD (offset + 2) 0)
    (block.getD (offset + 3) 0)

def extendWord (w : List Word) (index : ℕ) : Word :=
  let w15 := w.getD (index - 15) 0
  let w2 := w.getD (index - 2) 0
  let s0 := w15.rotateRight 7 ^^^ w15.rotateRight 18 ^^^ (w15 >>> 3)
  let s1 := w2.rotateRight 17 ^^^ w2.rotateRight 19 ^^^ (w2 >>> 10)
  w.getD (index - 16) 0 + s0 + w.getD (index - 7) 0 + s1

def sha256Round (w : List Word) (v : Working) (index : ℕ) : Working :=
  let bigS1 := v.e.rotateRight 6 ^^^ v.e.rotateRight 11 ^^^ v.e.rotateRight 25
  let choose := (v.e &&& v.f) ^^^ (~~~v.e &&& v.g)
  let temp1 := v.h + bigS1 + choose + sha256K.getD index 0 + w.getD index 0
  let bigS0 := v.a.rotateRight 2 ^^^ v.a.rotateRight 13 ^^^ v.a.rotateRight 22
  let majority := (v.a &&& v.b) ^^^ (v.a &&& v.c) ^^^ (v.b &&& v.c)
  let temp2 := bigS0 + majority
  { h := v.g
    g := v.f
    f := v.e
    e := v.d + temp1
    d := v.c
    c := v.b
    b := v.a
    a := temp1 + temp2 }

def scheduleWords (block : List Octet) : List Word :=
  fill extendWord 16 48 (fill (fun _ index => blockWord block index) 0 16 (List.replicate 64 0))

def sha256Compress (state : Vector Word 8) (block : List Octet) : Vector Word 8 :=
  let v := (List.range 64).foldl (sha256Round (scheduleWords block))
    { a := state[0]
      b := state[1]
      c := state[2]
      d := state[3]
      e := state[4]
      f := state[5]
      g := state[6]
      h := state[7] }
  #v[state[0] + v.a, state[1] + v.b, state[2] + v.c, state[3] + v.d,
    state[4] + v.e, state[5] + v.f, state[6] + v.g, state[7] + v.h]

def paddedLength (remainder : ℕ) : ℕ := if remainder < 56 then 64 else 128

/-- The buffer after the full blocks: the rest of the message, the end mark
and the length in bits, which wraps at 64 bits. -/
def sha256Tail (bytes : List Octet) : List Octet :=
  let remainder := bytes.length % 64
  let tail := copyFromSlice (List.replicate 128 0) 0 (bytes.drop (bytes.length - remainder))
  let tail := tail.set remainder 0x80
  let bitLength : BitVec 64 := BitVec.ofNat 64 bytes.length * 8
  copyFromSlice tail (paddedLength remainder - 8) (toBeBytes 8 bitLength)

def sha256Digest (bytes : List Octet) : List Octet :=
  let state := foldBlocks 64 sha256Compress (bytes.length / 64) sha256Initial bytes
  let paddedLength := paddedLength (bytes.length % 64)
  let state := foldBlocks 64 sha256Compress (paddedLength / 64) state (sha256Tail bytes)
  state.toList.flatMap fun value => toBeBytes 4 value

def hmacSha256 (key data : List Octet) : List Octet :=
  let keyBlock := copyFromSlice (List.replicate 64 0) 0
    (if 64 < key.length then sha256Digest key else key)
  let innerPad := fill (fun _ index => keyBlock.getD index 0 ^^^ 0x36) 0 64 (List.replicate 64 0)
  let outerPad := fill (fun _ index => keyBlock.getD index 0 ^^^ 0x5c) 0 64 (List.replicate 64 0)
  let innerDigest := sha256Digest (innerPad ++ data)
  sha256Digest (outerPad ++ innerDigest)

theorem sha256K_eq : sha256K = roundConstants := by decide +kernel

def hashArray (hash : Working) : Vector Word 8 :=
  #v[hash.a, hash.b, hash.c, hash.d, hash.e, hash.f, hash.g, hash.h]

theorem sha256Initial_eq : sha256Initial = hashArray initialHash := by decide +kernel

theorem toBeBytes_eq {width : ℕ} (count : ℕ) (value : BitVec width) :
    toBeBytes count value = bigEndian count value.toNat := by
  apply List.map_congr_left
  intro index _
  rw [BitVec.extractLsb', Nat.shiftRight_eq_div_pow, Nat.pow_mul]

theorem toBeBytes_bitLength (length : ℕ) :
    toBeBytes 8 (BitVec.ofNat 64 length * 8) = bigEndian 8 (8 * length) := by
  rw [toBeBytes_eq, ← bigEndian_mod 8 (8 * length)]
  apply congrArg
  rw [BitVec.toNat_mul, BitVec.toNat_ofNat, Nat.mod_mul_mod, Nat.mul_comm]
  rfl

variable (block : List Octet)

theorem blockWord_eq (index : ℕ) : blockWord block index = messageWord block index := by
  rw [blockWord, messageWord, Nat.mul_comm]
  rfl

theorem scheduleWords_spec {index : ℕ} (within : index < 64) :
    (scheduleWords block)[index]? = some (schedule block index) := by
  have first : ∀ index < 16,
      (fill (fun _ index => blockWord block index) 0 16 (List.replicate 64 0))[index]? =
        some (schedule block index) := by
    intro index below
    refine fill_spec (by simp) (fun _ none => absurd none (Nat.not_lt_zero _)) ?_ index (by omega)
    intro _ index _ below _
    rw [schedule, if_pos (by omega), blockWord_eq]
  refine @fill_spec _ 48 _ 16 _ _ ?_ first ?_ index within
  · rw [length_fill, List.length_replicate]
  · intro table index later _ filled
    have read (earlier : ℕ) (before : earlier < index) :
        table.getD earlier 0 = schedule block earlier := by
      rw [List.getD_eq_getElem?_getD, filled earlier before]
      rfl
    rw [schedule, if_neg (by omega), extendWord, read _ (by omega), read _ (by omega),
      read _ (by omega), read _ (by omega)]
    unfold smallSigma0 smallSigma1
    ac_rfl

theorem sha256Round_eq (v : Working) {index : ℕ} (within : index < 64) :
    sha256Round (scheduleWords block) v index = round block v index := by
  have word : (scheduleWords block).getD index 0 = schedule block index := by
    rw [List.getD_eq_getElem?_getD, scheduleWords_spec block within]
    rfl
  rw [sha256Round, SecureHash.round, sha256K_eq, word]
  rfl

theorem sha256Compress_eq (hash : Working) (block : List Octet) :
    sha256Compress (hashArray hash) block = hashArray (compress hash block) := by
  have rounds : (List.range 64).foldl (sha256Round (scheduleWords block)) hash =
      (List.range 64).foldl (round block) hash := by
    apply List.foldl_ext
    intro v index member
    exact sha256Round_eq block v (List.mem_range.mp member)
  rw [compress, ← rounds]
  rfl

theorem take_copyFromSlice {target source : List Octet} {start : ℕ} (fits : start ≤ target.length) :
    (copyFromSlice target start source).take (start + source.length) =
      target.take start ++ source := by
  rw [copyFromSlice, List.take_append_of_le_length, List.take_of_length_le]
  · rw [List.length_append, List.length_take]
    omega
  · rw [List.length_append, List.length_take]
    omega

theorem marked_tail {rest : List Octet} (short : rest.length < 128) :
    (copyFromSlice (List.replicate 128 0) 0 rest).set rest.length 0x80 =
      rest ++ 0x80 :: List.replicate (127 - rest.length) 0 := by
  obtain ⟨zeros, split⟩ : ∃ zeros, 128 = rest.length + (zeros + 1) := ⟨127 - rest.length, by omega⟩
  have after : 127 - rest.length = zeros := by omega
  rw [copyFromSlice, List.take_zero, List.nil_append, Nat.zero_add, List.drop_replicate, split,
    Nat.add_sub_cancel_left, List.replicate_succ, List.set_append_right _ _ (Nat.le_refl _),
    Nat.sub_self, List.set_cons_zero, after]

theorem take_tail {rest field : List Octet} {zeros : ℕ}
    (fits : rest.length + (zeros + 1) + field.length ≤ 128) :
    (copyFromSlice ((copyFromSlice (List.replicate 128 0) 0 rest).set rest.length 0x80)
        (rest.length + (zeros + 1)) field).take (rest.length + (zeros + 1) + field.length) =
      rest ++ 0x80 :: List.replicate zeros 0 ++ field := by
  rw [marked_tail (by omega), take_copyFromSlice, List.take_length_add_append, List.take_succ_cons,
    List.take_replicate, Nat.min_eq_left (by omega)]
  rw [List.length_append, List.length_cons, List.length_replicate]
  omega

theorem paddedLength_eq (length : ℕ) :
    paddedLength (length % 64) = length % 64 + (zeroCount length + 1) + 8 := by
  unfold paddedLength zeroCount
  split <;> omega

variable (bytes : List Octet)

theorem take_sha256Tail : (sha256Tail bytes).take (paddedLength (bytes.length % 64)) =
      bytes.drop (bytes.length / 64 * 64) ++ 0x80 :: List.replicate (zeroCount bytes.length) 0 ++
        bigEndian 8 (8 * bytes.length) := by
  have aligned : bytes.length - bytes.length % 64 = bytes.length / 64 * 64 := by omega
  have restLength : (bytes.drop (bytes.length / 64 * 64)).length = bytes.length % 64 := by
    rw [List.length_drop]
    omega
  have room := paddedLength_eq bytes.length
  have within : paddedLength (bytes.length % 64) ≤ 128 := by
    unfold paddedLength
    split <;> omega
  have fieldLength : (bigEndian 8 (8 * bytes.length)).length = 8 := by
    rw [bigEndian, List.length_map, List.length_range]
  simp only [sha256Tail, aligned, toBeBytes_bitLength]
  generalize bytes.drop (bytes.length / 64 * 64) = rest at restLength ⊢
  rw [room] at within
  rw [room, Nat.add_sub_cancel, ← restLength]
  nth_rewrite 1 [← fieldLength]
  refine take_tail ?_
  rw [fieldLength, restLength]
  exact within

theorem pad_eq : pad bytes = bytes.take (bytes.length / 64 * 64) ++
    (sha256Tail bytes).take (paddedLength (bytes.length % 64)) := by
  rw [take_sha256Tail, pad, ← List.append_assoc, ← List.append_assoc, List.take_append_drop]

theorem sha256Digest_eq : sha256Digest bytes = sha256 bytes := by
  have front : (bytes.take (bytes.length / 64 * 64)).length = bytes.length / 64 * 64 := by
    rw [List.length_take]
    omega
  have blocks : paddedLength (bytes.length % 64) / 64 * 64 = paddedLength (bytes.length % 64) := by
    unfold paddedLength
    split <;> rfl
  have tail : ((sha256Tail bytes).take (paddedLength (bytes.length % 64))).length =
      paddedLength (bytes.length % 64) := by
    have total := congrArg List.length (pad_eq bytes)
    rw [List.length_append, front, length_pad] at total
    have room := paddedLength_eq bytes.length
    omega
  have count : (pad bytes).length / 64 =
      bytes.length / 64 + paddedLength (bytes.length % 64) / 64 := by
    rw [pad_eq, List.length_append, front, tail]
    omega
  have full (state : Vector Word 8) : foldBlocks 64 sha256Compress (bytes.length / 64) state bytes =
      foldBlocks 64 sha256Compress (bytes.length / 64) state
        (bytes.take (bytes.length / 64 * 64)) := by
    nth_rewrite 2 [← List.take_append_drop (bytes.length / 64 * 64) bytes]
    exact foldBlocks_front (Nat.le_of_eq front.symm)
  have rest (state : Vector Word 8) :
      foldBlocks 64 sha256Compress (paddedLength (bytes.length % 64) / 64) state (sha256Tail bytes) =
        foldBlocks 64 sha256Compress (paddedLength (bytes.length % 64) / 64) state
          ((sha256Tail bytes).take (paddedLength (bytes.length % 64))) := by
    nth_rewrite 1 [← List.take_append_drop (paddedLength (bytes.length % 64)) (sha256Tail bytes)]
    exact foldBlocks_front (Nat.le_of_eq (blocks.trans tail.symm))
  have folded : foldBlocks 64 sha256Compress (paddedLength (bytes.length % 64) / 64)
        (foldBlocks 64 sha256Compress (bytes.length / 64) sha256Initial bytes) (sha256Tail bytes) =
      hashArray (foldBlocks 64 compress ((pad bytes).length / 64) initialHash (pad bytes)) := by
    rw [full, rest, ← foldBlocks_append front, ← pad_eq, ← count, sha256Initial_eq]
    exact foldBlocks_hom hashArray sha256Compress_eq _
  simp only [sha256Digest, folded, toBeBytes_eq]
  rfl

theorem fill_pad {key : List Octet} (length : key.length = 64) (mask : Octet) :
    fill (fun _ index => key.getD index 0 ^^^ mask) 0 64 (List.replicate 64 0) =
      key.map (· ^^^ mask) := by
  have filled := fill_all (fun index => key.getD index 0 ^^^ mask) (List.replicate 64 0)
  rw [List.length_replicate] at filled
  rw [filled]
  apply List.ext_getElem
  · rw [List.length_map, List.length_map, List.length_range, length]
  · intro index _ within
    rw [List.length_map] at within
    rw [List.getElem_map, List.getElem_map, List.getElem_range,
      List.getD_eq_getElem?_getD, List.getElem?_eq_getElem within, Option.getD_some]

theorem length_sha256Digest : (sha256Digest bytes).length = 32 := by
  rw [sha256Digest_eq]
  simp [sha256, Working.words, bigEndian]

/-- The accelerator computes SHA-256 of every message, and for every key and
data the keyed construction over it. -/
theorem digests_standard (message key data : List Octet) : sha256Digest message = sha256 message ∧
    hmacSha256 key data = hmac sha256Digest 64 key data := by
  refine ⟨sha256Digest_eq message, ?_⟩
  have keyBlock : copyFromSlice (List.replicate 64 0) 0
        (if 64 < key.length then sha256Digest key else key) = hmacKey sha256Digest 64 key := by
    rw [copyFromSlice, List.take_zero, List.nil_append, Nat.zero_add, List.drop_replicate]
    rfl
  have length : (hmacKey sha256Digest 64 key).length = 64 := by
    rw [hmacKey]
    split
    · simp [length_sha256Digest]
    · simp
      omega
  rw [hmacSha256, keyBlock, fill_pad length, fill_pad length, hmac]

/-- The digest of "abc" that the standard gives as an example. -/
example : sha256Digest [0x61, 0x62, 0x63] =
    [0xba, 0x78, 0x16, 0xbf, 0x8f, 0x01, 0xcf, 0xea, 0x41, 0x41, 0x40, 0xde, 0x5d, 0xae, 0x22, 0x23,
      0xb0, 0x03, 0x61, 0xa3, 0x96, 0x17, 0x7a, 0x9c, 0xb4, 0x10, 0xff, 0x61, 0xf2, 0x00, 0x15,
      0xad] := by
  decide +kernel

end NativeDigests

end Ithute
