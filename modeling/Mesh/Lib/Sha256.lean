import Mathlib.Data.List.Basic
import Mathlib.Tactic

/-!
# Mesh.Lib.Sha256

SHA-256 over lists of bytes, with its two text forms. Words are natural numbers below `2^32`; every
sum is reduced. The functions are structurally recursive, so a digest of a closed text evaluates in
the kernel.

`hexDigits_isHex` and `hex_length` are the only facts the callers need: a hexadecimal digest is
sixty-four lower-case hexadecimal characters.
-/

namespace Mesh
namespace Sha256

def wordSize : Nat := 4294967296

def rotr (n x : Nat) : Nat := ((x >>> n) ||| (x <<< (32 - n))) % wordSize

def ch (x y z : Nat) : Nat := (x &&& y) ^^^ ((wordSize - 1 - x) &&& z)

def maj (x y z : Nat) : Nat := (x &&& y) ^^^ (x &&& z) ^^^ (y &&& z)

def bigSigma0 (x : Nat) : Nat := rotr 2 x ^^^ rotr 13 x ^^^ rotr 22 x

def bigSigma1 (x : Nat) : Nat := rotr 6 x ^^^ rotr 11 x ^^^ rotr 25 x

def smallSigma0 (x : Nat) : Nat := rotr 7 x ^^^ rotr 18 x ^^^ (x >>> 3)

def smallSigma1 (x : Nat) : Nat := rotr 17 x ^^^ rotr 19 x ^^^ (x >>> 10)

def roundConstants : List Nat := [
  0x428a2f98, 0x71374491, 0xb5c0fbcf, 0xe9b5dba5, 0x3956c25b, 0x59f111f1, 0x923f82a4, 0xab1c5ed5,
  0xd807aa98, 0x12835b01, 0x243185be, 0x550c7dc3, 0x72be5d74, 0x80deb1fe, 0x9bdc06a7, 0xc19bf174,
  0xe49b69c1, 0xefbe4786, 0x0fc19dc6, 0x240ca1cc, 0x2de92c6f, 0x4a7484aa, 0x5cb0a9dc, 0x76f988da,
  0x983e5152, 0xa831c66d, 0xb00327c8, 0xbf597fc7, 0xc6e00bf3, 0xd5a79147, 0x06ca6351, 0x14292967,
  0x27b70a85, 0x2e1b2138, 0x4d2c6dfc, 0x53380d13, 0x650a7354, 0x766a0abb, 0x81c2c92e, 0x92722c85,
  0xa2bfe8a1, 0xa81a664b, 0xc24b8b70, 0xc76c51a3, 0xd192e819, 0xd6990624, 0xf40e3585, 0x106aa070,
  0x19a4c116, 0x1e376c08, 0x2748774c, 0x34b0bcb5, 0x391c0cb3, 0x4ed8aa4a, 0x5b9cca4f, 0x682e6ff3,
  0x748f82ee, 0x78a5636f, 0x84c87814, 0x8cc70208, 0x90befffa, 0xa4506ceb, 0xbef9a3f7, 0xc67178f2]

/-- The chaining value: eight words. -/
structure Chain where
  a : Nat
  b : Nat
  c : Nat
  d : Nat
  e : Nat
  f : Nat
  g : Nat
  h : Nat
  deriving DecidableEq, Repr

def Chain.init : Chain :=
  ⟨0x6a09e667, 0xbb67ae85, 0x3c6ef372, 0xa54ff53a, 0x510e527f, 0x9b05688c, 0x1f83d9ab, 0x5be0cd19⟩

/-- Extends a message schedule by `n` words. The newest word stands first, so the four words a new
one reads are at fixed positions. -/
def extend : Nat → List Nat → List Nat
  | 0, ws => ws
  | n + 1, ws =>
    extend n (((smallSigma1 (ws.getD 1 0) + ws.getD 6 0 + smallSigma0 (ws.getD 14 0) +
      ws.getD 15 0) % wordSize) :: ws)

def round (s : Chain) (kw : Nat × Nat) : Chain :=
  let t1 := (s.h + bigSigma1 s.e + ch s.e s.f s.g + kw.1 + kw.2) % wordSize
  let t2 := (bigSigma0 s.a + maj s.a s.b s.c) % wordSize
  ⟨(t1 + t2) % wordSize, s.a, s.b, s.c, (s.d + t1) % wordSize, s.e, s.f, s.g⟩

def compress (s : Chain) (block : List Nat) : Chain :=
  let r := (roundConstants.zip (extend 48 block.reverse).reverse).foldl round s
  ⟨(s.a + r.a) % wordSize, (s.b + r.b) % wordSize, (s.c + r.c) % wordSize,
    (s.d + r.d) % wordSize, (s.e + r.e) % wordSize, (s.f + r.f) % wordSize,
    (s.g + r.g) % wordSize, (s.h + r.h) % wordSize⟩

/-- Big-endian words. The padded message is a whole number of words. -/
def words : List Nat → List Nat
  | a :: b :: c :: d :: rest => (a * 16777216 + b * 65536 + c * 256 + d) :: words rest
  | _ => []

/-- Big-endian bytes of a word, most significant first, `n` of them. -/
def beBytes (n x : Nat) : List Nat :=
  (List.range n).map fun i => (x >>> (8 * (n - 1 - i))) % 256

def pad (message : List Nat) : List Nat :=
  message ++ [0x80] ++ List.replicate ((119 - message.length % 64) % 64) 0 ++
    beBytes 8 (message.length * 8)

def blocks : Nat → List Nat → List (List Nat)
  | 0, _ => []
  | n + 1, ws => ws.take 16 :: blocks n (ws.drop 16)

def chain (message : List Nat) : Chain :=
  let ws := words (pad message)
  (blocks (ws.length / 16) ws).foldl compress Chain.init

/-- The thirty-two bytes of the digest. -/
def sum256 (message : List Nat) : List Nat :=
  let s := chain message
  [s.a, s.b, s.c, s.d, s.e, s.f, s.g, s.h].flatMap (beBytes 4)

theorem length_beBytes (n x : Nat) : (beBytes n x).length = n := by simp [beBytes]

theorem lt_of_mem_beBytes {n x y : Nat} (h : y ∈ beBytes n x) : y < 256 := by
  simp only [beBytes, List.mem_map] at h
  obtain ⟨i, -, rfl⟩ := h
  exact Nat.mod_lt _ (by decide)

theorem length_sum256 (message : List Nat) : (sum256 message).length = 32 := by
  simp [sum256, length_beBytes]

theorem lt_of_mem_sum256 {message : List Nat} {y : Nat} (h : y ∈ sum256 message) : y < 256 := by
  simp only [sum256, List.mem_flatMap] at h
  obtain ⟨w, -, hy⟩ := h
  exact lt_of_mem_beBytes hy

/-! ## Hexadecimal text -/

def hexDigit (n : Nat) : Char :=
  if n < 10 then Char.ofNat (48 + n) else Char.ofNat (87 + n)

/-- Lower-case hexadecimal characters. -/
def isHex (c : Char) : Bool := ('0' ≤ c && c ≤ '9') || ('a' ≤ c && c ≤ 'f')

def hexDigits (bytes : List Nat) : List Char :=
  bytes.flatMap fun b => [hexDigit (b / 16), hexDigit (b % 16)]

/-- `hex.EncodeToString`. -/
def hex (bytes : List Nat) : String := String.ofList (hexDigits bytes)

theorem isHex_hexDigit {n : Nat} (h : n < 16) : isHex (hexDigit n) = true := by
  have : ∀ m < 16, isHex (hexDigit m) = true := by decide
  exact this n h

theorem hexDigits_isHex {bytes : List Nat} (hb : ∀ b ∈ bytes, b < 256) :
    ∀ c ∈ hexDigits bytes, isHex c = true := by
  intro c hc
  simp only [hexDigits, List.mem_flatMap, List.mem_cons, List.not_mem_nil, or_false] at hc
  obtain ⟨b, hbm, rfl | rfl⟩ := hc
  · have := hb b hbm
    exact isHex_hexDigit (by omega)
  · exact isHex_hexDigit (by omega)

theorem length_hexDigits (bytes : List Nat) : (hexDigits bytes).length = 2 * bytes.length := by
  induction bytes with
  | nil => rfl
  | cons b bs ih =>
    simp only [hexDigits, List.flatMap_cons, List.length_append, List.length_cons,
      List.length_nil] at ih ⊢
    omega

end Sha256

/-- The UTF-8 bytes of a text, as Go's conversion to a byte slice gives them. -/
def utf8Bytes (s : String) : List Nat := s.toByteArray.data.toList.map UInt8.toNat

/-- The hexadecimal SHA-256 digest of a text. -/
def sha256Hex (text : String) : String := Sha256.hex (Sha256.sum256 (utf8Bytes text))

theorem sha256Hex_toList (text : String) :
    (sha256Hex text).toList.length = 64 ∧ ∀ c ∈ (sha256Hex text).toList, Sha256.isHex c = true := by
  simp only [sha256Hex, Sha256.hex, String.toList_ofList]
  refine ⟨?_, Sha256.hexDigits_isHex fun b hb => Sha256.lt_of_mem_sum256 hb⟩
  rw [Sha256.length_hexDigits, Sha256.length_sum256]

example : sha256Hex "abc" =
    "ba7816bf8f01cfea414140de5dae2223b00361a396177a9cb410ff61f20015ad" := by
  decide +kernel

end Mesh
