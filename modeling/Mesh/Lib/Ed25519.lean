import Mesh.Lib.Sha256

/-!
# Mesh.Lib.Ed25519

Ed25519 signatures over lists of bytes as the Go standard library computes them: SHA-512, the curve
in extended coordinates, and signing and verification by RFC 8032. Everything is structurally
recursive over natural numbers, so that a signature over a closed text evaluates in the kernel.
-/

namespace Mesh
namespace Sha512

def wordSize : Nat := 18446744073709551616

def rotr (n x : Nat) : Nat := ((x >>> n) ||| (x <<< (64 - n))) % wordSize

def ch (x y z : Nat) : Nat := (x &&& y) ^^^ ((wordSize - 1 - x) &&& z)

def maj (x y z : Nat) : Nat := (x &&& y) ^^^ (x &&& z) ^^^ (y &&& z)

def bigSigma0 (x : Nat) : Nat := rotr 28 x ^^^ rotr 34 x ^^^ rotr 39 x

def bigSigma1 (x : Nat) : Nat := rotr 14 x ^^^ rotr 18 x ^^^ rotr 41 x

def smallSigma0 (x : Nat) : Nat := rotr 1 x ^^^ rotr 8 x ^^^ (x >>> 7)

def smallSigma1 (x : Nat) : Nat := rotr 19 x ^^^ rotr 61 x ^^^ (x >>> 6)

def roundConstants : List Nat := [
  0x428a2f98d728ae22, 0x7137449123ef65cd, 0xb5c0fbcfec4d3b2f, 0xe9b5dba58189dbbc,
  0x3956c25bf348b538, 0x59f111f1b605d019, 0x923f82a4af194f9b, 0xab1c5ed5da6d8118,
  0xd807aa98a3030242, 0x12835b0145706fbe, 0x243185be4ee4b28c, 0x550c7dc3d5ffb4e2,
  0x72be5d74f27b896f, 0x80deb1fe3b1696b1, 0x9bdc06a725c71235, 0xc19bf174cf692694,
  0xe49b69c19ef14ad2, 0xefbe4786384f25e3, 0x0fc19dc68b8cd5b5, 0x240ca1cc77ac9c65,
  0x2de92c6f592b0275, 0x4a7484aa6ea6e483, 0x5cb0a9dcbd41fbd4, 0x76f988da831153b5,
  0x983e5152ee66dfab, 0xa831c66d2db43210, 0xb00327c898fb213f, 0xbf597fc7beef0ee4,
  0xc6e00bf33da88fc2, 0xd5a79147930aa725, 0x06ca6351e003826f, 0x142929670a0e6e70,
  0x27b70a8546d22ffc, 0x2e1b21385c26c926, 0x4d2c6dfc5ac42aed, 0x53380d139d95b3df,
  0x650a73548baf63de, 0x766a0abb3c77b2a8, 0x81c2c92e47edaee6, 0x92722c851482353b,
  0xa2bfe8a14cf10364, 0xa81a664bbc423001, 0xc24b8b70d0f89791, 0xc76c51a30654be30,
  0xd192e819d6ef5218, 0xd69906245565a910, 0xf40e35855771202a, 0x106aa07032bbd1b8,
  0x19a4c116b8d2d0c8, 0x1e376c085141ab53, 0x2748774cdf8eeb99, 0x34b0bcb5e19b48a8,
  0x391c0cb3c5c95a63, 0x4ed8aa4ae3418acb, 0x5b9cca4f7763e373, 0x682e6ff3d6b2b8a3,
  0x748f82ee5defb2fc, 0x78a5636f43172f60, 0x84c87814a1f0ab72, 0x8cc702081a6439ec,
  0x90befffa23631e28, 0xa4506cebde82bde9, 0xbef9a3f7b2c67915, 0xc67178f2e372532b,
  0xca273eceea26619c, 0xd186b8c721c0c207, 0xeada7dd6cde0eb1e, 0xf57d4f7fee6ed178,
  0x06f067aa72176fba, 0x0a637dc5a2c898a6, 0x113f9804bef90dae, 0x1b710b35131c471b,
  0x28db77f523047d84, 0x32caab7b40c72493, 0x3c9ebe0a15c9bebc, 0x431d67c49c100d4c,
  0x4cc5d4becb3e42b6, 0x597f299cfc657e2a, 0x5fcb6fab3ad6faec, 0x6c44198c4a475817]

def init : Sha256.Chain :=
  ⟨0x6a09e667f3bcc908, 0xbb67ae8584caa73b, 0x3c6ef372fe94f82b, 0xa54ff53a5f1d36f1,
    0x510e527fade682d1, 0x9b05688c2b3e6c1f, 0x1f83d9abfb41bd6b, 0x5be0cd19137e2179⟩

def extend : Nat → List Nat → List Nat
  | 0, ws => ws
  | n + 1, ws =>
    extend n (((smallSigma1 (ws.getD 1 0) + ws.getD 6 0 + smallSigma0 (ws.getD 14 0) +
      ws.getD 15 0) % wordSize) :: ws)

def round (s : Sha256.Chain) (kw : Nat × Nat) : Sha256.Chain :=
  let t1 := (s.h + bigSigma1 s.e + ch s.e s.f s.g + kw.1 + kw.2) % wordSize
  let t2 := (bigSigma0 s.a + maj s.a s.b s.c) % wordSize
  ⟨(t1 + t2) % wordSize, s.a, s.b, s.c, (s.d + t1) % wordSize, s.e, s.f, s.g⟩

def compress (s : Sha256.Chain) (block : List Nat) : Sha256.Chain :=
  let r := (roundConstants.zip (extend 64 block.reverse).reverse).foldl round s
  ⟨(s.a + r.a) % wordSize, (s.b + r.b) % wordSize, (s.c + r.c) % wordSize,
    (s.d + r.d) % wordSize, (s.e + r.e) % wordSize, (s.f + r.f) % wordSize,
    (s.g + r.g) % wordSize, (s.h + r.h) % wordSize⟩

def words : List Nat → List Nat
  | a :: b :: c :: d :: e :: f :: g :: h :: rest =>
    (((((((a * 256 + b) * 256 + c) * 256 + d) * 256 + e) * 256 + f) * 256 + g) * 256 + h) ::
      words rest
  | _ => []

def pad (message : List Nat) : List Nat :=
  message ++ [0x80] ++ List.replicate ((239 - message.length % 128) % 128) 0 ++
    Sha256.beBytes 16 (message.length * 8)

/-- The sixty-four bytes of the digest. -/
def sum512 (message : List Nat) : List Nat :=
  let ws := words (pad message)
  let s := (Sha256.blocks (ws.length / 16) ws).foldl compress init
  [s.a, s.b, s.c, s.d, s.e, s.f, s.g, s.h].flatMap (Sha256.beBytes 8)

end Sha512

namespace Ed25519

/-- The field is the integers modulo `2^255 - 19`. -/
def p : Nat := 0x7fffffffffffffffffffffffffffffffffffffffffffffffffffffffffffffed

/-- The order of the base point. -/
def order : Nat := 0x1000000000000000000000000000000014def9dea2f79cd65812631a5cf5d3ed

def d : Nat := 0x52036cee2b6ffe738cc740797779e89800700a4d4141d8ab75eb4dca135978a3

def sqrtMinusOne : Nat := 0x2b8324804fc1df0b2b4d00993dfbd7a72f431806ad2fe478c4ee1b274a0ea0b0

/-- The `n` low bits of `k`, most significant first. -/
def bits : Nat → Nat → List Bool
  | 0, _ => []
  | n + 1, k => k.testBit n :: bits n k

def powMod (x k : Nat) : Nat :=
  (bits 255 k).foldl (fun acc b => if b then acc * acc % p * x % p else acc * acc % p) 1

def inverse (x : Nat) : Nat := powMod x (p - 2)

def minus (a b : Nat) : Nat := (a + (p - b % p)) % p

/-- A point in extended coordinates: `x = X/Z`, `y = Y/Z`, `x y = T/Z`. -/
structure Point where
  X : Nat
  Y : Nat
  Z : Nat
  T : Nat

def identity : Point := ⟨0, 1, 1, 0⟩

def base : Point :=
  ⟨0x216936d3cd6e53fec0a4e231fdd6dc5c692cc7609525a7b2c9562d608f25d51a,
    0x6666666666666666666666666666666666666666666666666666666666666658, 1,
    0x67875f0fd78b766566ea4e8e64abe37d20f09f80775152f56dde8ab3a5b7dda3⟩

/-- The coordinates of a sum from its four products. -/
def ofProducts (e f g h : Nat) : Point := ⟨e * f % p, g * h % p, f * g % p, e * h % p⟩

def Point.add (P Q : Point) : Point :=
  let a := minus P.Y P.X * minus Q.Y Q.X % p
  let b := (P.Y + P.X) * (Q.Y + Q.X) % p
  let c := P.T * 2 * d % p * Q.T % p
  let e := P.Z * 2 * Q.Z % p
  ofProducts (minus b a) (minus e c) ((e + c) % p) ((b + a) % p)

def Point.neg (P : Point) : Point := ⟨minus 0 P.X, P.Y, P.Z, minus 0 P.T⟩

/-- Double and add, over the 256 bits of the scalar. -/
def Point.mul (k : Nat) (P : Point) : Point :=
  (bits 256 k).foldl (fun acc b => if b then (acc.add acc).add P else acc.add acc) identity

def leBytes : Nat → Nat → List Nat
  | 0, _ => []
  | n + 1, x => x % 256 :: leBytes n (x / 256)

def ofLeBytes : List Nat → Nat
  | [] => 0
  | b :: bs => b + 256 * ofLeBytes bs

/-- The thirty-two bytes of a point: `y`, with the parity of `x` in the top bit. -/
def Point.bytes (P : Point) : List Nat :=
  let z := inverse P.Z
  let x := P.X * z % p
  let y := P.Y * z % p
  leBytes 32 (y + (x % 2) * 2 ^ 255)

/-- A square root of `u/v`, if it has one; the even one. -/
def sqrtRatio (u v : Nat) : Option Nat :=
  let v3 := v * v % p * v % p
  let v7 := v3 * v3 % p * v % p
  let r := u * v3 % p * powMod (u * v7 % p) ((p - 5) / 8) % p
  let check := v * r % p * r % p
  let even (x : Nat) : Nat := if x % 2 = 0 then x else p - x
  if check = u % p then some (even r)
  else if check = minus 0 u then some (even (r * sqrtMinusOne % p))
  else none

def ofBytes (bytes : List Nat) : Option Point :=
  let n := ofLeBytes bytes
  let y := n % 2 ^ 255 % p
  let yy := y * y % p
  (sqrtRatio (minus yy 1) ((d * yy + 1) % p)).map fun x =>
    let x := if n / 2 ^ 255 = 1 then minus 0 x else x
    ⟨x, y, 1, x * y % p⟩

/-- The secret scalar of a digest half. -/
def clamp (n : Nat) : Nat := n % 2 ^ 254 / 8 * 8 + 2 ^ 254

/-- The public half of a sixty-four byte private key. -/
def publicKey (privateKey : List Nat) : List Nat := privateKey.drop 32

/-- `ed25519.NewKeyFromSeed`. -/
def newKeyFromSeed (seed : List Nat) : List Nat :=
  seed ++ (base.mul (clamp (ofLeBytes ((Sha512.sum512 seed).take 32)))).bytes

/-- `ed25519.Sign`, for a private key of sixty-four bytes. -/
def sign (privateKey message : List Nat) : List Nat :=
  let h := Sha512.sum512 (privateKey.take 32)
  let s := clamp (ofLeBytes (h.take 32))
  let r := ofLeBytes (Sha512.sum512 (h.drop 32 ++ message)) % order
  let R := (base.mul r).bytes
  let k := ofLeBytes (Sha512.sum512 (R ++ publicKey privateKey ++ message)) % order
  R ++ leBytes 32 ((k * s + r) % order)

/-- `ed25519.Verify`, for a public key of thirty-two bytes: the scalar must be reduced and the
recomputed point must encode to the bytes of the signature. -/
def verify (key message signature : List Nat) : Bool :=
  match ofBytes key with
  | none => false
  | some A =>
    let R := signature.take 32
    let s := ofLeBytes (signature.drop 32)
    let k := ofLeBytes (Sha512.sum512 (R ++ key ++ message)) % order
    signature.length == 64 && s < order && ((A.neg.mul k).add (base.mul s)).bytes == R

end Ed25519
end Mesh
