import Ithute.Library.BlockFolding
import Mathlib.Algebra.Ring.Nat
import Mathlib.Data.Nat.NthRoot.Defs

/-!
# The secure hash standard

SHA-256 as FIPS 180-4 defines it, for messages of whole bytes, and the keyed
construction of RFC 2104 over a hash function.
-/

namespace SecureHash

open BlockFolding

abbrev Octet := BitVec 8

abbrev Word := BitVec 32

/-- The last bytes of a number, the most significant one first. -/
def bigEndian (count value : ℕ) : List Octet :=
  (List.range count).map fun index => BitVec.ofNat 8 (value / 256 ^ (count - 1 - index))

/-- So many bytes do not tell numbers apart that differ by a multiple of their
range. -/
theorem bigEndian_mod (count value : ℕ) :
    bigEndian count (value % 256 ^ count) = bigEndian count value := by
  apply List.map_congr_left
  intro index member
  have below := List.mem_range.mp member
  obtain ⟨more, split⟩ : ∃ more, count = (count - 1 - index) + (more + 1) := ⟨index, by omega⟩
  have range : 256 ^ count = 256 ^ (count - 1 - index) * (256 ^ more * 256) := by
    rw [← Nat.pow_succ, ← Nat.pow_add, ← split]
  apply BitVec.eq_of_toNat_eq
  rw [BitVec.toNat_ofNat, BitVec.toNat_ofNat, range, Nat.mod_mul_right_div_self]
  exact Nat.mod_mod_of_dvd _ (Nat.dvd_mul_left 256 (256 ^ more))

def ch (x y z : Word) : Word := (x &&& y) ^^^ (~~~x &&& z)

def maj (x y z : Word) : Word := (x &&& y) ^^^ (x &&& z) ^^^ (y &&& z)

def bigSigma0 (x : Word) : Word := x.rotateRight 2 ^^^ x.rotateRight 13 ^^^ x.rotateRight 22

def bigSigma1 (x : Word) : Word := x.rotateRight 6 ^^^ x.rotateRight 11 ^^^ x.rotateRight 25

def smallSigma0 (x : Word) : Word := x.rotateRight 7 ^^^ x.rotateRight 18 ^^^ (x >>> 3)

def smallSigma1 (x : Word) : Word := x.rotateRight 17 ^^^ x.rotateRight 19 ^^^ (x >>> 10)

/-- The first 64 primes. -/
def primes : List ℕ :=
  (List.range 312).filter fun number =>
    decide (2 ≤ number ∧ ∀ factor ∈ List.range number, factor ∣ number → factor = 1)

/-- The first thirty-two bits of the fractional part of a root. -/
def rootFraction (degree number : ℕ) : Word :=
  BitVec.ofNat 32 (Nat.nthRoot degree (number * 2 ^ (32 * degree)))

def roundConstants : List Word := primes.map (rootFraction 3)

/-- The working variables, and the parts of a hash value. -/
structure Working where
  a : Word
  b : Word
  c : Word
  d : Word
  e : Word
  f : Word
  g : Word
  h : Word

def Working.words (v : Working) : List Word := [v.a, v.b, v.c, v.d, v.e, v.f, v.g, v.h]

/-- The square roots are those of the first eight primes. -/
def initialHash : Working where
  a := rootFraction 2 2
  b := rootFraction 2 3
  c := rootFraction 2 5
  d := rootFraction 2 7
  e := rootFraction 2 11
  f := rootFraction 2 13
  g := rootFraction 2 17
  h := rootFraction 2 19

def messageWord (block : List Octet) (t : ℕ) : Word :=
  block.getD (4 * t) 0 ++ block.getD (4 * t + 1) 0 ++ block.getD (4 * t + 2) 0 ++
    block.getD (4 * t + 3) 0

/-- The message schedule. -/
def schedule (block : List Octet) (t : ℕ) : Word :=
  if t < 16 then messageWord block t
  else
    smallSigma1 (schedule block (t - 2)) + schedule block (t - 7) +
      smallSigma0 (schedule block (t - 15)) + schedule block (t - 16)

def round (block : List Octet) (v : Working) (t : ℕ) : Working :=
  let t1 := v.h + bigSigma1 v.e + ch v.e v.f v.g + roundConstants.getD t 0 + schedule block t
  let t2 := bigSigma0 v.a + maj v.a v.b v.c
  ⟨t1 + t2, v.a, v.b, v.c, v.d + t1, v.e, v.f, v.g⟩

def compress (hash : Working) (block : List Octet) : Working :=
  let v := (List.range 64).foldl (round block) hash
  ⟨hash.a + v.a, hash.b + v.b, hash.c + v.c, hash.d + v.d, hash.e + v.e, hash.f + v.f,
    hash.g + v.g, hash.h + v.h⟩

/-- The zero bytes between the end mark and the length. -/
def zeroCount (length : ℕ) : ℕ := (119 - length % 64) % 64

/-- The message, an end mark, zeros and the length in bits. -/
def pad (message : List Octet) : List Octet :=
  message ++ 0x80 :: List.replicate (zeroCount message.length) 0 ++ bigEndian 8 (8 * message.length)

theorem length_pad (message : List Octet) : (pad message).length =
    message.length + 1 + zeroCount message.length + 8 := by
  simp only [pad, bigEndian, List.length_append, List.length_cons, List.length_replicate,
    List.length_map, List.length_range]
  omega

def sha256 (message : List Octet) : List Octet :=
  let padded := pad message
  (foldBlocks 64 compress (padded.length / 64) initialHash padded).words.flatMap
    fun word => bigEndian 4 word.toNat

/-- A key with zeros up to the block size, after a longer one has been
hashed. -/
def hmacKey (hash : List Octet → List Octet) (size : ℕ) (key : List Octet) : List Octet :=
  let key := if size < key.length then hash key else key
  key ++ List.replicate (size - key.length) 0

def hmac (hash : List Octet → List Octet) (size : ℕ) (key text : List Octet) : List Octet :=
  let key := hmacKey hash size key
  hash (key.map (· ^^^ 0x5c) ++ hash (key.map (· ^^^ 0x36) ++ text))

end SecureHash
