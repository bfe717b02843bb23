import Mesh.Control.Basics
import Mesh.Lib.Calendar
import Mesh.Lib.Json

/-!
# Mesh.Identity.Model

The records of the identity store (`model.go`, `store.go`, `desktop_authorization.go`, `audit.go`), the
checks on their fields, and the errors of the package. Times are instants, as in the control plane: a
time that is in no other zone than UTC is canonical unless it is zero.

What the package takes from other libraries is an `Env`: the sealer of login payloads and the parser
of URLs.
-/

namespace Mesh
namespace Identity

open Calendar

/-! ## Errors -/

inductive ErrorKind where
  | unauthorized
  | notFound
  | conflict
  | limit
  | other
deriving DecidableEq, Repr

structure Failure where
  kind : ErrorKind
  text : String
deriving DecidableEq, Repr

abbrev Result (α : Type) := Except Failure α

def errUnauthorized : Failure := ⟨.unauthorized, "unauthorized"⟩

def errNotFound : Failure := ⟨.notFound, "not found"⟩

def errLimit : Failure := ⟨.limit, "record limit reached"⟩

/-- `fmt.Errorf("%w: …", ErrConflict)`. -/
def conflict (text : String) : Failure := ⟨.conflict, "conflict: " ++ text⟩

def plain (text : String) : Failure := ⟨.other, text⟩

/-- `fmt.Errorf("text: %w", err)` keeps the sentinel. -/
def Failure.wrap (text : String) (e : Failure) : Failure := { e with text := text ++ ": " ++ e.text }

/-! ## Texts -/

/-- `^[A-Za-z0-9_-]{1,128}$`. -/
def identifierPattern (s : String) : Bool :=
  1 ≤ s.toList.length && s.toList.length ≤ 128 && s.toList.all isPersistedIDChar

/-- `^desktop_[A-Za-z0-9_-]{43}$`. -/
def validDesktopAuthorizationRequestID (s : String) : Bool :=
  s.toList.take 8 == "desktop_".toList && s.toList.length == 51 && s.toList.all isPersistedIDChar

def hasPrefix (pre s : String) : Bool := pre.toList.isPrefixOf s.toList

/-- `strings.TrimPrefix`. -/
def trimLeading (pre s : String) : String :=
  if hasPrefix pre s then String.ofList (s.toList.drop pre.toList.length) else s

def validPrefixedID (id leading : String) : Bool :=
  hasPrefix leading id && identifierPattern (trimLeading leading id)

def isControl (c : Char) : Bool := c.toNat < 0x20 || c.toNat == 0x7f

def validBoundedText (value : String) (minimum maximum : Nat) : Bool :=
  minimum ≤ value.utf8ByteSize && value.utf8ByteSize ≤ maximum && trimSpace value == value &&
    !value.toList.any isControl

def validReason (reason : String) : Bool := validBoundedText reason 1 256

/-- `^[0-9a-f]{64}$`. -/
def validPolicyFingerprint (value : String) : Bool := fingerprintPattern value

/-- `strings.Cut(value, "@")`. -/
def cutAt (cs : List Char) : List Char × List Char :=
  (cs.takeWhile (· != '@'), (cs.dropWhile (· != '@')).drop 1)

def hasDoubleDot : List Char → Bool
  | '.' :: '.' :: _ => true
  | _ :: cs => hasDoubleDot cs
  | [] => false

def validCanonicalEmail (value : String) : Bool :=
  let cs := value.toList
  let (name, domain) := cutAt cs
  value == toLower value && 3 ≤ value.utf8ByteSize && value.utf8ByteSize ≤ 254 && cs.count '@' == 1 &&
    validBoundedText value 3 254 && !name.isEmpty && (String.ofList name).utf8ByteSize ≤ 64 &&
    !domain.isEmpty && domain.head? != some '.' && domain.getLast? != some '.' && !hasDoubleDot domain &&
    !cs.any fun c => 0x7f < c.toNat || c == ' ' || c == '<' || c == '>' || c == ',' || c == ';'

/-! ## Tokens -/

def validOpaqueToken (token : String) : Bool := Base64.canonical 32 token

def hashOpaqueToken (token : String) : Result String :=
  if validOpaqueToken token then .ok (hashToken token)
  else .error (plain "opaque token must be canonical unpadded base64url containing 32 random bytes")

def validCredentialHash (value : String) : Bool := validTokenHash value

def credentialHashEqual (left right : String) : Bool :=
  validCredentialHash left && validCredentialHash right && tokenHashEqual left right

def credentialMatches (hash token : String) : Bool :=
  validCredentialHash hash && validOpaqueToken token && tokenEqual hash token

/-! ## The surroundings -/

/-- A parsed URL, as far as it is looked at. -/
structure URL where
  scheme : String
  host : String
  hostname : String
  port : String
  path : String
  rawQuery : String
  fragment : String
  hasUser : Bool
deriving DecidableEq

/-- What the package is given: the sealer of login payloads and the URL library. -/
structure Env where
  sealFor : String → Json → Except String String
  openFor : String → String → Except String Json
  parseURL : String → Option URL
  parseRequestURI : String → Option URL
  queryUnescape : String → Option String
  isLoopbackIP : String → Bool

/-! ## Principals -/

/-- `other` is a word that is none of the four. -/
inductive PrincipalKind where
  | oidcAdmin
  | legacyAdmin
  | service
  | breakGlass
  | other (word : String)
deriving DecidableEq

def PrincipalKind.text : PrincipalKind → String
  | .oidcAdmin => "oidc_admin"
  | .legacyAdmin => "legacy_admin"
  | .service => "service_account"
  | .breakGlass => "break_glass"
  | .other word => word

structure Principal where
  id : String := ""
  kind : PrincipalKind := .other ""
  issuer : String := ""
  subject : String := ""
  displayName : String := ""
  email : String := ""
  groups : List String := []
  acr : String := ""
  amr : List String := []
  authTime : Int := 0
deriving DecidableEq

structure Actor where
  id : String
  kind : PrincipalKind
  sessionID : String := ""
deriving DecidableEq

def isCanonicalTime (t : Int) : Bool := t != 0

/-- The number a text is the decimal form of, if it lies between 1 and the maximum. -/
def canonicalDecimal (maximum : Nat) (text : String) : Option Nat :=
  let n := Nat.ofDigitChars 10 text.toList 0
  if text.toList.all Char.isDigit ∧ toString n = text ∧ 1 ≤ n ∧ n ≤ maximum then some n else none

def validateCanonicalURLPort (parsed : URL) : Result Unit :=
  if parsed.port = "" then .ok ()
  else
    match canonicalDecimal 65535 parsed.port with
    | none => .error (plain "port must be a canonical decimal value between 1 and 65535")
    | some n =>
      reject ((parsed.scheme = "https" ∧ n = 443) ∨ (parsed.scheme = "http" ∧ n = 80))
        (plain "scheme default port must be omitted")

def isLoopbackHost (env : Env) (host : String) : Bool := equalFold host "localhost" || env.isLoopbackIP host

def validateIssuerURL (env : Env) (raw : String) (allowInsecureLoopback : Bool) : Result Unit := do
  reject (raw.utf8ByteSize = 0 ∨ 2048 < raw.utf8ByteSize)
    (plain "OIDC issuer must contain 1-2048 characters")
  let parsed ← require ((env.parseURL raw).filter fun u => u.scheme != "" && u.host != "")
    (plain "OIDC issuer must be an absolute URL")
  reject (parsed.hasUser ∨ parsed.rawQuery ≠ "" ∨ parsed.fragment ≠ "")
    (plain "OIDC issuer must be canonical and contain no credentials, query, or fragment")
  reject (parsed.hostname = "" ∨ parsed.hostname.toList.getLast? = some '.' ∨
      parsed.host ≠ toLower parsed.host ∨ parsed.scheme ≠ toLower parsed.scheme)
    (plain "OIDC issuer must use a canonical lowercase scheme and host")
  mapError (Failure.wrap "OIDC issuer") (validateCanonicalURLPort parsed)
  reject (parsed.scheme ≠ "https" ∧
      (parsed.scheme ≠ "http" ∨ ¬ allowInsecureLoopback ∨ ¬ isLoopbackHost env parsed.hostname))
    (plain "OIDC issuer must use HTTPS except for explicitly allowed loopback development")

def hasOIDCClaims (p : Principal) : Bool :=
  p.issuer != "" || p.subject != "" || !p.groups.isEmpty || p.acr != "" || !p.amr.isEmpty

/-- `values[index]` is preceded by an equal value. -/
def checkClaimValues (maxLength : Nat) : Nat → Option String → List String → Result Unit
  | _, _, [] => .ok ()
  | index, previous, value :: rest => do
    reject (¬ validBoundedText value 1 maxLength) (plain ("value " ++ toString index ++ " is invalid"))
    reject (previous = some value) (plain ("value " ++ toString index ++ " is duplicated"))
    checkClaimValues maxLength (index + 1) (some value) rest

def isSorted (values : List String) : Bool :=
  (values.zip (values.drop 1)).all fun p => decide (p.1 ≤ p.2)

def validateCanonicalClaimValues (values : List String) (maximum maxLength : Nat) : Result Unit := do
  reject (maximum < values.length) (plain ("contains more than " ++ toString maximum ++ " values"))
  reject (¬ isSorted values) (plain "values are not canonically sorted")
  checkClaimValues maxLength 0 none values

/-- The digest an OIDC administrator is named after. -/
def oidcPrincipalID (issuer subject : String) : String := "oidc_" ++ hashToken (issuer ++ "\x00" ++ subject)

/-- The rules of one kind of principal. -/
def Principal.validateKind (env : Env) (p : Principal) : Result Unit :=
  match p.kind with
  | .oidcAdmin => do
    reject (¬ (validateIssuerURL env p.issuer true).isOk ∨ ¬ validBoundedText p.subject 1 512)
      (plain "OIDC principal is missing a valid issuer or subject")
    reject (p.id ≠ oidcPrincipalID p.issuer p.subject)
      (plain "OIDC principal ID does not match issuer and subject")
  | .legacyAdmin =>
    reject (p.id ≠ "legacy_admin" ∨ hasOIDCClaims p ∨ p.displayName ≠ "" ∨ p.email ≠ "")
      (plain "legacy administrator principal is not canonical")
  | .service =>
    reject (¬ validPrefixedID p.id "service_" ∨ hasOIDCClaims p ∨ p.email ≠ "")
      (plain "service principal is not canonical")
  | .breakGlass =>
    reject (¬ validPrefixedID p.id "breakglass_bg_" ∨ hasOIDCClaims p ∨ p.displayName ≠ "" ∨ p.email ≠ "")
      (plain "break-glass principal is not canonical")
  | .other word => .error (plain ("unsupported principal kind \"" ++ word ++ "\""))

def Principal.validate (env : Env) (p : Principal) : Result Unit := do
  reject (¬ identifierPattern p.id ∨ ¬ isCanonicalTime p.authTime)
    (plain "principal has an invalid identity or authentication time")
  p.validateKind env
  reject (p.displayName ≠ "" ∧ ¬ validBoundedText p.displayName 1 256)
    (plain "principal display name is invalid")
  reject (p.email ≠ "" ∧ ¬ validCanonicalEmail p.email) (plain "principal email is not canonical")
  mapError (Failure.wrap "principal groups") (validateCanonicalClaimValues p.groups 256 256)
  reject (p.acr ≠ "" ∧ ¬ validBoundedText p.acr 1 256) (plain "principal ACR is invalid")
  mapError (Failure.wrap "principal AMR") (validateCanonicalClaimValues p.amr 16 64)

/-- `Principal.Actor`. -/
def Principal.actor (env : Env) (p : Principal) (sessionID : String) : Result Actor := do
  p.validate env
  reject (sessionID ≠ "" ∧ ¬ identifierPattern sessionID) (plain "actor session ID is invalid")
  .ok ⟨p.id, p.kind, sessionID⟩

def Actor.validate (a : Actor) : Result Unit := do
  reject (¬ identifierPattern a.id ∨ (a.sessionID ≠ "" ∧ ¬ identifierPattern a.sessionID))
    (plain "actor has invalid identifiers")
  let mismatch := plain "actor ID does not match its kind"
  match a.kind with
  | .oidcAdmin => reject (¬ validPrefixedID a.id "oidc_") mismatch
  | .legacyAdmin => reject (a.id ≠ "legacy_admin") mismatch
  | .service => reject (¬ validPrefixedID a.id "service_") mismatch
  | .breakGlass => reject (¬ validPrefixedID a.id "breakglass_bg_") mismatch
  | .other word => .error (plain ("actor has unsupported kind \"" ++ word ++ "\""))

def newBreakGlassPrincipal (env : Env) (codeID : String) (authTime : Int) : Result Principal := do
  reject (¬ identifierPattern codeID ∨ ¬ hasPrefix "bg_" codeID ∨ 128 < ("breakglass_" ++ codeID).utf8ByteSize)
    (plain "break-glass code ID is invalid")
  let p : Principal := { id := "breakglass_" ++ codeID, kind := .breakGlass, authTime := authTime }
  p.validate env
  .ok p

/-! ## Records -/

structure LoginAttempt where
  id : String
  transactionHash : String
  stateHash : String
  sealedOIDCPayload : String
  returnPath : String
  createdAt : Int
  expiresAt : Int
deriving DecidableEq

structure OIDCPayload where
  nonce : String
  pkceVerifier : String
deriving DecidableEq

structure Session where
  id : String
  tokenHash : String
  csrfHash : String
  principal : Principal
  policyFingerprint : String
  authMethod : String
  createdAt : Int
  lastSeenAt : Int
  idleExpiresAt : Int
  absoluteExpiresAt : Int
  revokedAt : Option Int := none
  revocationReason : String := ""
  version : UInt64
deriving DecidableEq

structure BreakGlassCode where
  id : String
  tokenHash : String
  createdAt : Int
  expiresAt : Int
  usedAt : Option Int := none
  revokedAt : Option Int := none
deriving DecidableEq

inductive DesktopAuthorizationState where
  | pending
  | approved
  | denied
  | expired
  | other (word : String)
deriving DecidableEq

structure DesktopAuthorization where
  id : String
  pollSecretHash : String
  state : DesktopAuthorizationState
  principal : Principal
  createdAt : Int
  expiresAt : Int
  pollIntervalSeconds : Int
  lastPolledAt : Option Int := none
  decidedAt : Option Int := none
  version : UInt64
deriving DecidableEq

inductive AuditEventType where
  | sessionCreated
  | sessionRotated
  | sessionRevoked
  | principalRevoked
  | breakGlassRegistered
  | breakGlassConsumed
  | breakGlassRevoked
  | other (word : String)
deriving DecidableEq

structure AuditEvent where
  id : String
  type : AuditEventType
  time : Int
  actor : Actor
  targetPrincipalID : String
  targetSessionID : String
  details : List (String × String)
deriving DecidableEq

inductive Schema where
  | legacy
  | current
  | other (word : String)
deriving DecidableEq

/-- The whole document. -/
structure State where
  schema : Schema
  loginAttempts : List LoginAttempt
  sessions : List Session
  breakGlassCodes : List BreakGlassCode
  desktopAuthorizations : List DesktopAuthorization
  audit : List AuditEvent
deriving DecidableEq

/-- `time.Duration(n) * time.Second` on an `int64`. -/
def seconds (n : Int) : Int :=
  (n * second + 2 ^ 63) % 2 ^ 64 - 2 ^ 63

end Identity
end Mesh
