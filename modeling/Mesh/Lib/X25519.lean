import Mesh.Lib.Base64
import Mesh.Lib.Ed25519

/-!
# Mesh.Lib.X25519

Keys of the Montgomery curve as files hold them: the public key of a private one, and the padded base64
text of thirty-two bytes. The two curves are birationally equivalent, so the public key is computed on
the Edwards form and carried over with `u = (1 + y) / (1 - y)`.
-/

namespace Mesh
namespace X25519

/-- `ecdh.X25519().NewPrivateKey(key).PublicKey()`. -/
def publicKey (privateKey : List Nat) : List Nat :=
  let P := Ed25519.Point.mul (Ed25519.clamp (Ed25519.ofLeBytes privateKey)) Ed25519.base
  let u := (P.Z + P.Y) * Ed25519.inverse (Ed25519.minus P.Z P.Y) % Ed25519.p
  Ed25519.leBytes 32 u

end X25519

namespace Base64

/-- The value of a digit of the standard alphabet. -/
def standardDigitValue (c : Char) : Option Nat :=
  if c = '+' then some 62
  else if c = '/' then some 63
  else if c = '-' ∨ c = '_' then none
  else digitValue c

/-- The thirty-two bytes of a padded text that is the standard encoding of what it decodes to. -/
def decodeStandard32 (text : List Char) : Option (List Nat) :=
  match text.getLast? with
  | some '=' => do
    let digits ← text.dropLast.mapM standardDigitValue
    let bytes ← decodeDigits digits
    if bytes.length = 32 ∧ encodeDigits bytes = digits then some bytes else none
  | _ => none

end Base64
end Mesh
