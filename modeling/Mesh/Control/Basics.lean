import Mesh.Lib.Base64
import Mesh.Lib.Checks
import Mesh.Lib.Sha256

/-!
# Mesh.Control.Basics

What every file of the control package uses: its errors (a sentinel and a text), the text patterns
that identifiers, names and digests are matched against, `int64` increments, and the token hashes.
-/

namespace Mesh

/-! ## Errors -/

/-- The sentinel a caller can test for; `internal` is an error that wraps none. -/
inductive ErrorKind where
  | notFound
  | conflict
  | invalid
  | unauthorized
  | rateLimited
  | internal
deriving DecidableEq, Repr

structure Failure where
  kind : ErrorKind
  text : String
deriving DecidableEq, Repr

abbrev Result (α : Type) := Except Failure α

def errNotFound : Failure := ⟨.notFound, "not found"⟩

def errUnauthorized : Failure := ⟨.unauthorized, "unauthorized"⟩

/-- `fmt.Errorf("%w: …", ErrInvalid)`. -/
def invalid (text : String) : Failure := ⟨.invalid, "invalid input: " ++ text⟩

/-- `fmt.Errorf("%w: …", ErrConflict)`. -/
def conflict (text : String) : Failure := ⟨.conflict, "conflict: " ++ text⟩

def internal (text : String) : Failure := ⟨.internal, text⟩

/-- `fmt.Errorf("text: %w", err)` keeps the sentinel. -/
def Failure.wrap (text : String) (e : Failure) : Failure := { e with text := text ++ ": " ++ e.text }

/-! ## Texts -/

/-- Go's `unicode.IsSpace`. -/
def isSpace (c : Char) : Bool :=
  let n := c.toNat
  (9 ≤ n && n ≤ 13) || n == 0x20 || n == 0x85 || n == 0xA0 || n == 0x1680 ||
    (0x2000 ≤ n && n ≤ 0x200a) || n == 0x2028 || n == 0x2029 || n == 0x202f || n == 0x205f ||
    n == 0x3000

def trimSpace (s : String) : String :=
  String.ofList ((s.toList.dropWhile isSpace).reverse.dropWhile isSpace).reverse

def isLower (c : Char) : Bool := 'a' ≤ c && c ≤ 'z'

def isUpper (c : Char) : Bool := 'A' ≤ c && c ≤ 'Z'

def isDecimal (c : Char) : Bool := '0' ≤ c && c ≤ '9'

def isAlphanumeric (c : Char) : Bool := isLower c || isUpper c || isDecimal c

/-- `^[first][rest]{0,extra}$`. -/
def matchesLabel (first rest : Char → Bool) (extra : Nat) (s : String) : Bool :=
  match s.toList with
  | [] => false
  | c :: cs => first c && cs.length ≤ extra && cs.all rest

def namePattern (s : String) : Bool :=
  matchesLabel isAlphanumeric (fun c => isAlphanumeric c || c == '.' || c == '_' || c == '-') 62 s

def groupPattern (s : String) : Bool :=
  matchesLabel isAlphanumeric (fun c => isAlphanumeric c || c == '_' || c == '-') 31 s

def topologyLabelPattern (s : String) : Bool :=
  matchesLabel (fun c => isLower c || isDecimal c)
    (fun c => isLower c || isDecimal c || c == '.' || c == '_' || c == '-') 62 s

def fingerprintPattern (s : String) : Bool :=
  s.toList.length == 64 && s.toList.all Sha256.isHex

def isPersistedIDChar (c : Char) : Bool := isAlphanumeric c || c == '-' || c == '_'

/-- The characters allowed are ASCII and none is a space, so the byte length is the number of
characters and the source's comparison with `strings.TrimSpace` cannot fail after the loop. -/
def validPersistedID (s : String) : Bool :=
  0 < s.utf8ByteSize && s.utf8ByteSize ≤ 128 && trimSpace s == s && s.toList.all isPersistedIDChar

/-- `strings.ContainsAny(s, "\r\n")`. -/
def containsLineBreak (s : String) : Bool := s.toList.any fun c => c == '\r' || c == '\n'

/-- `unicode.ToLower` where its result is ASCII: besides the upper-case letters, the Kelvin sign and
the dotted capital I have an ASCII lower case. -/
def lowerChar (c : Char) : Char :=
  if isUpper c then Char.ofNat (c.toNat + 32)
  else if c.toNat = 0x212a then 'k'
  else if c.toNat = 0x130 then 'i'
  else c

/-- `strings.ToLower` of a text whose result is compared with ASCII patterns only. -/
def toLower (s : String) : String := String.ofList (s.toList.map lowerChar)

/-- `strings.EqualFold` on names, which are ASCII. -/
def equalFold (a b : String) : Bool := toLower a == toLower b

/-- `strings.Join`. -/
def joinWith (sep : String) : List String → String
  | [] => ""
  | [s] => s
  | s :: t :: rest => s ++ sep ++ joinWith sep (t :: rest)

/-! ## Integers -/

def maxInt64 : Int := 9223372036854775807

/-- `n + 1` on an `int64`: the largest value wraps to the smallest. -/
def inc64 (n : Int) : Int := if n = maxInt64 then -maxInt64 - 1 else n + 1

/-- A positive successor of a positive counter did not wrap. -/
theorem inc64_eq {n : Int} (h : 1 ≤ inc64 n) : inc64 n = n + 1 := by
  unfold inc64 maxInt64 at *
  split at h <;> simp_all

/-! ## Tokens -/

def hashToken (token : String) : String := Base64.encode (Sha256.sum256 (utf8Bytes token))

def validTokenHash (encoded : String) : Bool := Base64.canonical 32 encoded

def validBearerToken (token : String) : Bool := Base64.canonical 32 token

/-- Both texts decode to the same 32 bytes. -/
def tokenHashEqual (expected actual : String) : Bool :=
  match Base64.decode expected, Base64.decode actual with
  | some a, some b => a.length == 32 && b.length == 32 && a == b
  | _, _ => false

/-- `expectedHash` decodes to the digest of `token`. -/
def tokenEqual (expectedHash token : String) : Bool :=
  match Base64.decode expectedHash with
  | some a => a.length == 32 && a == Sha256.sum256 (utf8Bytes token)
  | none => false

theorem validTokenHash_hashToken (token : String) : validTokenHash (hashToken token) = true := by
  have hbytes : ∀ b ∈ Sha256.sum256 (utf8Bytes token), b < 256 := fun _ hb => Sha256.lt_of_mem_sum256 hb
  have h := Base64.canonical_encode hbytes
  rwa [Sha256.length_sum256] at h

/-- On canonical hashes the comparison of the decoded bytes is equality of the texts. -/
theorem tokenHashEqual_iff {a b : String} (ha : validTokenHash a = true)
    (hb : validTokenHash b = true) : tokenHashEqual a b = true ↔ a = b := by
  obtain ⟨x, hx, hlx, hex⟩ := Base64.canonical_iff.mp ha
  obtain ⟨y, hy, hly, hey⟩ := Base64.canonical_iff.mp hb
  simp only [tokenHashEqual, hx, hy, hlx, hly, beq_self_eq_true, Bool.true_and, beq_iff_eq]
  constructor
  · rintro rfl
    rw [← hex, ← hey]
  · rintro rfl
    rw [hx] at hy
    exact Option.some.inj hy

end Mesh
