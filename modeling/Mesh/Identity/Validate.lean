import Mesh.Identity.Model

/-!
# Mesh.Identity.Validate

`validateState`: what every document of the identity store passes, before it is written and when it is
loaded. Identifiers are unique over all kinds of records, and so are credential hashes; every record has a
lifetime within its bounds, and its stages follow each other.
-/

namespace Mesh
namespace Identity

open Calendar

def maxLoginAttempts : Nat := 1024
def maxSessions : Nat := 4096
def maxBreakGlassCodes : Nat := 256
def maxDesktopAuthorizations : Nat := 256
def maxIdentityAuditEvents : Nat := 8192
def maxIdentityAuditDetails : Nat := 8

def minBreakGlassCodeLifetime : Int := 10 * minute
def maxBreakGlassCodeLifetime : Int := 90 * 24 * hour
def minDesktopAuthorizationLifetime : Int := minute
def maxDesktopAuthorizationLifetime : Int := 10 * minute
def minDesktopAuthorizationInterval : Int := second
def maxDesktopAuthorizationInterval : Int := 30 * second
def desktopAuthorizationExpiryGrace : Int := 5 * minute

/-! ## Login payloads -/

def oidcTransactionSealPurpose : String := "oidc-login-transaction-v1"

def payloadCodec : Codec OIDCPayload :=
  (((Fields.field "nonce" .str).and (Fields.field "pkce_verifier" .str)).as
    (fun p => ⟨p.1, p.2⟩) fun p => (p.nonce, p.pkceVerifier)).codec ⟨"", ""⟩ (by decide)

def sealOIDCPayload (env : Env) (payload : OIDCPayload) : Result String :=
  mapError plain (payloadCodec.encode payload >>= env.sealFor oidcTransactionSealPurpose)

def openOIDCPayload (env : Env) (encoded : String) : Result OIDCPayload := do
  let raw ← mapError plain (env.openFor oidcTransactionSealPurpose encoded)
  let payload ← mapError plain (payloadCodec.decode raw)
  reject (¬ validOpaqueToken payload.nonce ∨ ¬ validOpaqueToken payload.pkceVerifier)
    (plain "OIDC login payload contains invalid credentials")
  .ok payload

def containsUnsafeRedirectText (value : String) : Bool := value.toList.any fun c => c == '\\' || isControl c

def validReturnPath (env : Env) (value : String) : Bool :=
  1 ≤ value.utf8ByteSize && value.utf8ByteSize ≤ 1024 && hasPrefix "/" value && !hasPrefix "//" value &&
    !value.toList.any (fun c => c == '\r' || c == '\n' || c == '\\') &&
    match env.parseRequestURI value with
    | none => false
    | some parsed =>
      parsed.scheme == "" && parsed.host == "" && parsed.fragment == "" && hasPrefix "/" parsed.path &&
        !hasPrefix "//" parsed.path && !containsUnsafeRedirectText parsed.path &&
        match env.queryUnescape parsed.rawQuery with
        | none => false
        | some query => !containsUnsafeRedirectText query

/-! ## Audit events -/

def AuditEvent.detail (e : AuditEvent) (key : String) : String := (e.details.lookup key).getD ""

def exactAuditDetailKeys (details : List (String × String)) (keys : List String) : Bool :=
  details.length == keys.length && keys.all fun key => (details.lookup key).isSome

def validAuditSessionVersion (value : String) : Bool := (canonicalDecimal (2 ^ 64 - 1) value).isSome

def validAuditRevokedCount (value : String) : Bool := (canonicalDecimal maxSessions value).isSome

def validAuditAuthMethod (value : String) : Bool :=
  ["oidc", "legacy_token", "service_account", "break_glass"].contains value

/-- `t.Format(time.RFC3339)` of a time in UTC: the seconds without a fraction. -/
def rfc3339 (t : Int) : String := rfc3339Nano (t / second * second)

def validCanonicalAuditTime (value : String) : Bool :=
  match parseRFC3339 value with
  | some t => rfc3339 t == value
  | none => false

def reservedDetailKeys : List String :=
  ["id", "type", "at", "actor", "actor_id", "actor_kind", "actor_session_id", "target_principal_id",
    "target_session_id", "details"]

def validateIdentityAuditEvent (e : AuditEvent) : Result Unit := do
  reject (¬ hasPrefix "audit_" e.id ∨ ¬ validOpaqueToken (trimLeading "audit_" e.id))
    (plain "identity audit event has an invalid ID")
  reject (¬ isCanonicalTime e.time) (plain "identity audit event has an invalid timestamp")
  mapError (Failure.wrap "identity audit actor") e.actor.validate
  reject (¬ identifierPattern e.targetPrincipalID ∨
      (e.targetSessionID ≠ "" ∧ ¬ identifierPattern e.targetSessionID))
    (plain "identity audit event has an invalid target")
  reject (maxIdentityAuditDetails < e.details.length)
    (plain "identity audit event details must be present and bounded")
  checkAll (fun d => reject
      (reservedDetailKeys.contains d.1 ∨ ¬ identifierPattern d.1 ∨ ¬ validBoundedText d.2 1 256)
      (plain ("identity audit event has invalid detail \"" ++ d.1 ++ "\""))) e.details
  match e.type with
  | .sessionCreated =>
    reject (e.targetSessionID = "" ∨ e.actor.id ≠ e.targetPrincipalID ∨
        e.actor.sessionID ≠ e.targetSessionID ∨
        ¬ exactAuditDetailKeys e.details ["auth_method", "session_version"] ∨
        ¬ validAuditSessionVersion (e.detail "session_version") ∨
        ¬ validAuditAuthMethod (e.detail "auth_method"))
      (plain "session.created audit event is not canonical")
  | .sessionRotated =>
    reject (e.targetSessionID = "" ∨ e.actor.id ≠ e.targetPrincipalID ∨
        e.actor.sessionID ≠ e.targetSessionID ∨ ¬ exactAuditDetailKeys e.details ["session_version"] ∨
        ¬ validAuditSessionVersion (e.detail "session_version"))
      (plain "session.rotated audit event is not canonical")
  | .sessionRevoked =>
    reject (e.targetSessionID = "" ∨ ¬ exactAuditDetailKeys e.details ["reason", "session_version"] ∨
        ¬ validReason (e.detail "reason") ∨ ¬ validAuditSessionVersion (e.detail "session_version"))
      (plain "session.revoked audit event is not canonical")
  | .principalRevoked =>
    reject (e.targetSessionID ≠ "" ∨ ¬ exactAuditDetailKeys e.details ["reason", "revoked_sessions"] ∨
        ¬ validReason (e.detail "reason") ∨ ¬ validAuditRevokedCount (e.detail "revoked_sessions"))
      (plain "principal.revoked audit event is not canonical")
  | .breakGlassRegistered =>
    reject (e.targetSessionID ≠ "" ∨ e.actor.kind = .breakGlass ∨
        ¬ validPrefixedID e.targetPrincipalID "breakglass_bg_" ∨
        ¬ exactAuditDetailKeys e.details ["expires_at"] ∨ ¬ validCanonicalAuditTime (e.detail "expires_at"))
      (plain "break_glass.registered audit event is not canonical")
  | .breakGlassConsumed =>
    reject (e.targetSessionID ≠ "" ∨ e.actor.kind ≠ .breakGlass ∨ e.actor.id ≠ e.targetPrincipalID ∨
        ¬ exactAuditDetailKeys e.details ["expires_at"] ∨ ¬ validCanonicalAuditTime (e.detail "expires_at"))
      (plain "break_glass.consumed audit event is not canonical")
  | .breakGlassRevoked =>
    reject (e.targetSessionID ≠ "" ∨ e.actor.kind = .breakGlass ∨
        ¬ validPrefixedID e.targetPrincipalID "breakglass_bg_" ∨
        ¬ exactAuditDetailKeys e.details ["expires_at"] ∨ ¬ validCanonicalAuditTime (e.detail "expires_at"))
      (plain "break_glass.revoked audit event is not canonical")
  | .other word => .error (plain ("unsupported identity audit event type \"" ++ word ++ "\""))

/-- The token of the identifier is drawn by the caller. -/
def newIdentityAuditEvent (token : String) (type : AuditEventType) (time : Int) (actor : Actor)
    (targetPrincipalID targetSessionID : String) (details : List (String × String)) : Result AuditEvent := do
  let event : AuditEvent := ⟨"audit_" ++ token, type, time, actor, targetPrincipalID, targetSessionID, details⟩
  validateIdentityAuditEvent event
  .ok event

/-! ## Records -/

/-- The method a kind of principal signs in with. -/
def PrincipalKind.authMethod : PrincipalKind → String
  | .oidcAdmin => "oidc"
  | .legacyAdmin => "legacy_token"
  | .service => "service_account"
  | .breakGlass => "break_glass"
  | .other _ => ""

def validateSession (env : Env) (s : Session) : Result Unit := do
  reject (¬ identifierPattern s.id ∨ ¬ validCredentialHash s.tokenHash ∨ ¬ validCredentialHash s.csrfHash ∨
      credentialHashEqual s.tokenHash s.csrfHash ∨ ¬ validPolicyFingerprint s.policyFingerprint ∨
      s.version < 1)
    (plain "invalid identity, credential, policy, or version")
  s.principal.validate env
  reject (s.authMethod ≠ s.principal.kind.authMethod)
    (plain "authentication method does not match principal kind")
  reject (¬ isCanonicalTime s.createdAt ∨ ¬ isCanonicalTime s.lastSeenAt ∨ ¬ isCanonicalTime s.idleExpiresAt ∨
      ¬ isCanonicalTime s.absoluteExpiresAt ∨ s.lastSeenAt < s.createdAt ∨ s.idleExpiresAt ≤ s.lastSeenAt ∨
      hour < s.idleExpiresAt - s.lastSeenAt ∨ s.absoluteExpiresAt ≤ s.createdAt ∨
      s.absoluteExpiresAt - s.createdAt < 15 * minute ∨ s.absoluteExpiresAt < s.idleExpiresAt ∨
      8 * hour < s.absoluteExpiresAt - s.createdAt)
    (plain "invalid session lifetime")
  reject (s.createdAt + 2 * minute < s.principal.authTime)
    (plain "principal authentication time is after session creation")
  reject (¬ (s.revokedAt = none ↔ s.revocationReason = "") ∨
      (∃ t ∈ s.revokedAt, ¬ isCanonicalTime t ∨ t < s.createdAt) ∨
      (s.revocationReason ≠ "" ∧ ¬ validReason s.revocationReason))
    (plain "invalid session revocation metadata")

/-- The lifetime of a record lies within its bounds. -/
def badLifetime (createdAt expiresAt minimum maximum : Int) : Bool :=
  !isCanonicalTime createdAt || !isCanonicalTime expiresAt || expiresAt ≤ createdAt ||
    expiresAt - createdAt < minimum || maximum < expiresAt - createdAt

def validateLoginAttempt (env : Env) (owner : String) (a : LoginAttempt) : Result Unit := do
  reject (badLifetime a.createdAt a.expiresAt minute (10 * minute) ∨ ¬ validReturnPath env a.returnPath ∨
      a.sealedOIDCPayload.utf8ByteSize < 1 ∨ 8192 < a.sealedOIDCPayload.utf8ByteSize)
    (plain (owner ++ " has invalid lifecycle metadata"))
  mapError (Failure.wrap (owner ++ " payload")) (openOIDCPayload env a.sealedOIDCPayload >>= fun _ => .ok ())

def validateBreakGlassCode (owner : String) (c : BreakGlassCode) : Result Unit :=
  reject (badLifetime c.createdAt c.expiresAt minBreakGlassCodeLifetime maxBreakGlassCodeLifetime ∨
      (∃ t ∈ c.usedAt, ¬ isCanonicalTime t ∨ t < c.createdAt ∨ c.expiresAt ≤ t) ∨
      (∃ t ∈ c.revokedAt, ¬ isCanonicalTime t ∨ t < c.createdAt) ∨
      (c.usedAt ≠ none ∧ c.revokedAt ≠ none))
    (plain (owner ++ " has invalid lifecycle metadata"))

def validateDesktopAuthorizationRecord (env : Env) (r : DesktopAuthorization) : Result Unit := do
  let interval := seconds r.pollIntervalSeconds
  reject (badLifetime r.createdAt r.expiresAt minDesktopAuthorizationLifetime maxDesktopAuthorizationLifetime ∨
      interval < minDesktopAuthorizationInterval ∨ maxDesktopAuthorizationInterval < interval ∨ r.version < 1)
    (plain "invalid lifecycle metadata")
  reject (∃ t ∈ r.lastPolledAt, ¬ isCanonicalTime t ∨ t < r.createdAt ∨ r.expiresAt ≤ t)
    (plain "invalid poll metadata")
  match r.state with
  | .pending =>
    reject (r.decidedAt ≠ none ∨ r.principal.id ≠ "") (plain "pending request contains decision data")
  | .approved | .denied =>
    reject (r.decidedAt = none ∨
        (∃ t ∈ r.decidedAt, ¬ isCanonicalTime t ∨ t < r.createdAt ∨ r.expiresAt ≤ t) ∨
        ¬ (r.principal.validate env).isOk)
      (plain "decided request contains invalid decision data")
  | .expired | .other _ => .error (plain "invalid state")

/-! ## The document -/

/-- The identifiers and the credential hashes met so far, each with its owner. -/
structure Claims where
  identities : List (String × String) := []
  credentials : List (String × String) := []

def claimIdentity (kind id : String) (c : Claims) : Result Claims := do
  reject (¬ identifierPattern id) (plain (kind ++ " has invalid ID \"" ++ id ++ "\""))
  rejectFound (c.identities.lookup id) fun owner =>
    plain (kind ++ " ID \"" ++ id ++ "\" is already used by " ++ owner)
  .ok { c with identities := (id, kind) :: c.identities }

def claimCredential (owner hash : String) (c : Claims) : Result Claims := do
  reject (¬ validCredentialHash hash) (plain (owner ++ " has an invalid credential hash"))
  rejectFound (c.credentials.lookup hash) fun existing =>
    plain (owner ++ " reuses a credential hash from " ++ existing)
  .ok { c with credentials := (hash, owner) :: c.credentials }

/-- `for index, x := range xs`, with the claims made on the way. -/
def claimEach {α : Type} (f : Nat → α → Claims → Result Claims) : Nat → List α → Claims → Result Claims
  | _, [], c => .ok c
  | index, x :: xs, c => do
    let c ← f index x c
    claimEach f (index + 1) xs c

def claimLoginAttempt (env : Env) (index : Nat) (a : LoginAttempt) (c : Claims) : Result Claims := do
  let owner := "login attempt " ++ toString index
  let c ← claimIdentity owner a.id c
  let c ← claimCredential (owner ++ " transaction") a.transactionHash c
  let c ← claimCredential (owner ++ " state") a.stateHash c
  validateLoginAttempt env owner a
  .ok c

def claimSession (env : Env) (index : Nat) (s : Session) (c : Claims) : Result Claims := do
  let owner := "session " ++ toString index
  let c ← claimIdentity owner s.id c
  let c ← claimCredential (owner ++ " token") s.tokenHash c
  let c ← claimCredential (owner ++ " CSRF") s.csrfHash c
  mapError (Failure.wrap owner) (validateSession env s)
  .ok c

def claimBreakGlassCode (index : Nat) (code : BreakGlassCode) (c : Claims) : Result Claims := do
  let owner := "break-glass code " ++ toString index
  let c ← claimIdentity owner code.id c
  reject (¬ hasPrefix "bg_" code.id) (plain (owner ++ " has a noncanonical ID"))
  let c ← claimCredential owner code.tokenHash c
  validateBreakGlassCode owner code
  .ok c

def claimDesktopAuthorization (env : Env) (index : Nat) (r : DesktopAuthorization) (c : Claims) :
    Result Claims := do
  let owner := "desktop authorization " ++ toString index
  let c ← claimIdentity owner r.id c
  reject (¬ validDesktopAuthorizationRequestID r.id) (plain (owner ++ " has a noncanonical ID"))
  let c ← claimCredential owner r.pollSecretHash c
  mapError (Failure.wrap owner) (validateDesktopAuthorizationRecord env r)
  .ok c

def checkAudit : Nat → List String → List AuditEvent → Result Unit
  | _, _, [] => .ok ()
  | index, seen, e :: rest => do
    mapError (Failure.wrap ("identity audit event " ++ toString index)) (validateIdentityAuditEvent e)
    reject (e.id ∈ seen)
      (plain ("identity audit event " ++ toString index ++ " duplicates ID \"" ++ e.id ++ "\""))
    checkAudit (index + 1) (e.id :: seen) rest

def Schema.check : Schema → Result Unit
  | .legacy | .current => .ok ()
  | .other word => .error (plain ("unsupported identity state schema \"" ++ word ++ "\""))

def validateState (env : Env) (s : State) : Result Unit := do
  s.schema.check
  reject (maxLoginAttempts < s.loginAttempts.length ∨ maxSessions < s.sessions.length ∨
      maxBreakGlassCodes < s.breakGlassCodes.length ∨
      maxDesktopAuthorizations < s.desktopAuthorizations.length ∨ maxIdentityAuditEvents < s.audit.length)
    (plain "identity state exceeds a record-count limit")
  let c ← claimEach (claimLoginAttempt env) 0 s.loginAttempts {}
  let c ← claimEach (claimSession env) 0 s.sessions c
  let c ← claimEach claimBreakGlassCode 0 s.breakGlassCodes c
  let _ ← claimEach (claimDesktopAuthorization env) 0 s.desktopAuthorizations c
  checkAudit 0 [] s.audit

end Identity
end Mesh
