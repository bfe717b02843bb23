import Mesh.Identity.Validate

/-!
# Mesh.Identity.Operations

The operations of the identity store (`filestore.go`, `desktop_authorization.go`). An operation checks its
input first (`Op.begin`) and then gives a callback that works on a copy of the document. The callback's
answer is what the caller gets once the document is written; it may be an error, as when an expired login
attempt is removed and the caller is unauthorized all the same.

The random part of an audit identifier is an input. `Op.apply` is the whole transaction: the callback, and
the validation of what it made.
-/

namespace Mesh
namespace Identity

open Calendar

/-! ## Inputs and answers -/

structure LoginAttemptInput where
  id : String
  transactionToken : String
  stateToken : String
  nonce : String
  pkceVerifier : String
  returnPath : String
  createdAt : Int
  expiresAt : Int

structure ConsumedLoginAttempt where
  id : String
  nonce : String
  pkceVerifier : String
  returnPath : String
  createdAt : Int
  expiresAt : Int
deriving DecidableEq

structure CreateSessionInput where
  id : String
  token : String
  csrfToken : String
  principal : Principal
  policyFingerprint : String
  authMethod : String
  createdAt : Int
  lastSeenAt : Int
  idleExpiresAt : Int
  absoluteExpiresAt : Int

structure BreakGlassCodeInput where
  id : String
  token : String
  createdAt : Int
  expiresAt : Int

inductive BreakGlassCodeState where
  | usable
  | used
  | revoked
  | expired
deriving DecidableEq

structure BreakGlassCodeSummary where
  id : String
  createdAt : Int
  expiresAt : Int
  usedAt : Option Int
  revokedAt : Option Int
  state : BreakGlassCodeState
deriving DecidableEq

structure CreateDesktopAuthorizationInput where
  id : String
  pollSecret : String
  createdAt : Int
  expiresAt : Int
  pollInterval : Int

/-- `other` is a word that is no decision. -/
inductive DesktopAuthorizationDecision where
  | approve
  | deny
  | other (word : String)
deriving DecidableEq

structure DesktopAuthorizationPoll where
  state : DesktopAuthorizationState
  principal : Principal
  expiresAt : Int
  pollInterval : Int
deriving DecidableEq

structure CleanupResult where
  loginAttempts : Nat
  sessions : Nat
  breakGlassCodes : Nat
  desktopAuthorizations : Nat
deriving DecidableEq

/-- What an operation returns besides an error. -/
inductive Reply where
  | done
  | attempt (a : ConsumedLoginAttempt)
  | session (s : Session)
  | count (n : Nat)
  | code (c : BreakGlassCode)
  | summary (s : BreakGlassCodeSummary) (created : Bool)
  | poll (p : DesktopAuthorizationPoll)
  | cleaned (r : CleanupResult)
deriving DecidableEq

/-- The callback of a transaction. -/
abbrev Callback := State → Result (Result Reply × State)

/-- The answer and the document as it is now. -/
def answer (r : Reply) (s : State) : Result (Result Reply × State) := .ok (.ok r, s)

/-- The document is written, but the caller gets an error. -/
def answerError (e : Failure) (s : State) : Result (Result Reply × State) := .ok (.error e, s)

/-! ## Expiry -/

def LoginAttempt.live (now : Int) (a : LoginAttempt) : Bool := now < a.expiresAt

def Session.live (now : Int) (s : Session) : Bool := now < s.idleExpiresAt && now < s.absoluteExpiresAt

def BreakGlassCode.live (now : Int) (c : BreakGlassCode) : Bool := now < c.expiresAt

def pruneDesktopAuthorizations (now : Int) (removeExpired : Bool) (s : State) : State :=
  { s with
    desktopAuthorizations := s.desktopAuthorizations.filter fun r =>
      now < if removeExpired then r.expiresAt else r.expiresAt + desktopAuthorizationExpiryGrace }

def pruneExpired (now : Int) (s : State) : State :=
  pruneDesktopAuthorizations now true
    { s with
      loginAttempts := s.loginAttempts.filter (LoginAttempt.live now)
      sessions := s.sessions.filter (Session.live now)
      breakGlassCodes := s.breakGlassCodes.filter (BreakGlassCode.live now) }

/-! ## Audit -/

def appendIdentityAudit (event : AuditEvent) (s : State) : Result State := do
  validateIdentityAuditEvent event
  reject (maxIdentityAuditEvents ≤ s.audit.length)
    ⟨.limit, "record limit reached: identity audit log is full"⟩
  reject (event.id ∈ s.audit.map AuditEvent.id) (conflict "identity audit ID already exists")
  .ok { s with audit := s.audit ++ [event] }

def authenticateAuditCaller (s : State) (actor : Actor) (at' : Int) : Result Unit := do
  reject (¬ actor.validate.isOk ∨ ¬ isCanonicalTime at') errUnauthorized
  if actor.sessionID = "" then
    reject (actor.kind ≠ .legacyAdmin ∧ actor.kind ≠ .service) errUnauthorized
  else
    let session ← require (s.sessions.find? fun x => x.id == actor.sessionID) errUnauthorized
    reject (session.principal.id ≠ actor.id ∨ session.principal.kind ≠ actor.kind ∨
        session.revokedAt ≠ none ∨ at' < session.lastSeenAt ∨ ¬ session.live at') errUnauthorized

/-! ## Login attempts -/

def canonicalLoginInput (env : Env) (input : LoginAttemptInput) : Result OIDCPayload := do
  reject (¬ identifierPattern input.id ∨ ¬ validOpaqueToken input.transactionToken ∨
      ¬ validOpaqueToken input.stateToken ∨ ¬ validOpaqueToken input.nonce ∨
      ¬ validOpaqueToken input.pkceVerifier)
    (plain "login transaction contains invalid identifiers or credentials")
  reject (badLifetime input.createdAt input.expiresAt minute (10 * minute) ∨
      ¬ validReturnPath env input.returnPath)
    (plain "login transaction contains invalid lifecycle metadata")
  .ok ⟨input.nonce, input.pkceVerifier⟩

def createLoginAttempt (env : Env) (input : LoginAttemptInput) : Result Callback := do
  let payload ← canonicalLoginInput env input
  let sealedPayload ← mapError (Failure.wrap "seal OIDC login transaction") (sealOIDCPayload env payload)
  let record : LoginAttempt :=
    ⟨input.id, hashToken input.transactionToken, hashToken input.stateToken, sealedPayload, input.returnPath,
      input.createdAt, input.expiresAt⟩
  .ok fun state => do
    let state := pruneExpired input.createdAt state
    let clashes (x : LoginAttempt) : Bool :=
      x.id == record.id || credentialHashEqual x.transactionHash record.transactionHash ||
        credentialHashEqual x.stateHash record.stateHash
    match state.loginAttempts.find? clashes with
    | some existing => do
      let existingPayload ← openOIDCPayload env existing.sealedOIDCPayload
      if existing.id = record.id ∧ credentialHashEqual existing.transactionHash record.transactionHash ∧
          credentialHashEqual existing.stateHash record.stateHash ∧
          existing.returnPath = record.returnPath ∧ existing.createdAt = record.createdAt ∧
          existing.expiresAt = record.expiresAt ∧ existingPayload = payload then
        answer .done state
      else
        .error (conflict "login transaction identity or credential already exists")
    | none => do
      reject (maxLoginAttempts ≤ state.loginAttempts.length) errLimit
      answer .done { state with loginAttempts := state.loginAttempts ++ [record] }

/-- `append(xs[:i], xs[i+1:]...)` where `xs[i]` is the first that is found. -/
def removeFirst {α : Type} (found : α → Bool) : List α → List α
  | [] => []
  | x :: xs => if found x then xs else x :: removeFirst found xs

def consumeLoginAttempt (env : Env) (transactionToken stateToken : String) (now : Int) : Result Callback := do
  let transactionHash ← mapError (fun _ => errUnauthorized) (hashOpaqueToken transactionToken)
  let stateHash ← mapError (fun _ => errUnauthorized) (hashOpaqueToken stateToken)
  reject (now = 0) errUnauthorized
  .ok fun state =>
    let found (x : LoginAttempt) : Bool := credentialHashEqual x.transactionHash transactionHash
    let without := { state with loginAttempts := removeFirst found state.loginAttempts }
    match state.loginAttempts.find? found with
    | none => answerError errUnauthorized (pruneExpired now state)
    | some x =>
      if ¬ credentialHashEqual x.stateHash stateHash then answerError errUnauthorized state
      else if x.expiresAt ≤ now then answerError errUnauthorized without
      else do
        let payload ← openOIDCPayload env x.sealedOIDCPayload
        answer (.attempt ⟨x.id, payload.nonce, payload.pkceVerifier, x.returnPath, x.createdAt, x.expiresAt⟩)
          without

/-! ## Sessions -/

def canonicalSessionInput (env : Env) (input : CreateSessionInput) : Result Session := do
  let tokenHash ← hashOpaqueToken input.token
  let csrfHash ← hashOpaqueToken input.csrfToken
  reject (credentialHashEqual tokenHash csrfHash) (plain "session and CSRF credentials must be distinct")
  let record : Session :=
    { id := input.id, tokenHash := tokenHash, csrfHash := csrfHash, principal := input.principal,
      policyFingerprint := input.policyFingerprint, authMethod := input.authMethod,
      createdAt := input.createdAt, lastSeenAt := input.lastSeenAt, idleExpiresAt := input.idleExpiresAt,
      absoluteExpiresAt := input.absoluteExpiresAt, version := 1 }
  validateSession env record
  .ok record

def Session.actor (env : Env) (s : Session) : Result Actor := s.principal.actor env s.id

def createSession (env : Env) (input : CreateSessionInput) (auditToken : String) : Result Callback := do
  let record ← canonicalSessionInput env input
  let actor ← record.actor env
  let audit ← newIdentityAuditEvent auditToken .sessionCreated record.createdAt actor record.principal.id
    record.id [("auth_method", record.authMethod), ("session_version", "1")]
  .ok fun state => do
    let state := pruneExpired record.createdAt state
    let clashes (x : Session) : Bool :=
      x.id == record.id || credentialHashEqual x.tokenHash record.tokenHash ||
        credentialHashEqual x.csrfHash record.csrfHash
    match state.sessions.find? clashes with
    | some existing =>
      if existing = record then answer (.session existing) state
      else .error (conflict "session identity or credential already exists")
    | none => do
      reject (maxSessions ≤ state.sessions.length) errLimit
      let state ← appendIdentityAudit audit { state with sessions := state.sessions ++ [record] }
      answer (.session record) state

def replaceFirst {α : Type} (found : α → Bool) (y : α) : List α → List α
  | [] => []
  | x :: xs => if found x then y :: xs else x :: replaceFirst found y xs

/-- Works on the session with the identifier, and puts back what becomes of it. -/
def State.putSession (s : State) (x : Session) : State :=
  { s with sessions := replaceFirst (fun y => y.id == x.id) x s.sessions }

def State.session (s : State) (id : String) : Result Session :=
  require (s.sessions.find? fun x => x.id == id) errNotFound

/-- The touch would change nothing. -/
def Session.seen (s : Session) (seenAt idleExpiresAt : Int) : Bool :=
  s.lastSeenAt == seenAt && s.idleExpiresAt == idleExpiresAt

def touchSession (sessionID : String) (expectedVersion : UInt64) (seenAt idleExpiresAt : Int) :
    Result Callback := do
  reject (¬ identifierPattern sessionID ∨ expectedVersion = 0 ∨ seenAt = 0 ∨ idleExpiresAt = 0)
    (conflict "invalid session touch")
  .ok fun state => do
    let session ← state.session sessionID
    reject (session.revokedAt ≠ none ∨ ¬ session.live seenAt) errUnauthorized
    if session.version = expectedVersion + 1 ∧ session.seen seenAt idleExpiresAt then
      answer (.session session) state
    else do
      reject (session.version ≠ expectedVersion ∨ seenAt < session.lastSeenAt ∨ idleExpiresAt ≤ seenAt ∨
          session.absoluteExpiresAt < idleExpiresAt)
        (conflict "stale or invalid session touch")
      if session.seen seenAt idleExpiresAt then answer (.session session) state
      else
        let touched := { session with
          lastSeenAt := seenAt, idleExpiresAt := idleExpiresAt, version := session.version + 1 }
        answer (.session touched) (state.putSession touched)

/-- A session's credentials, version and times are those of a rotation that was already done. -/
def Session.rotatedTo (s : Session) (expectedVersion : UInt64) (tokenHash csrfHash : String)
    (seenAt idleExpiresAt : Int) : Bool :=
  s.version == expectedVersion + 1 && credentialHashEqual s.tokenHash tokenHash &&
    credentialHashEqual s.csrfHash csrfHash && s.lastSeenAt == seenAt && s.idleExpiresAt == idleExpiresAt

def rotateSession (env : Env) (sessionID : String) (expectedVersion : UInt64)
    (newToken newCSRFToken : String) (seenAt idleExpiresAt : Int) (auditToken : String) : Result Callback := do
  reject (¬ identifierPattern sessionID ∨ expectedVersion = 0 ∨ seenAt = 0 ∨ idleExpiresAt = 0)
    (conflict "invalid session rotation")
  let tokenHash ← hashOpaqueToken newToken
  let distinct := plain "session and CSRF credentials must be distinct"
  let csrfHash ← mapError (fun _ => distinct) (hashOpaqueToken newCSRFToken)
  reject (credentialHashEqual tokenHash csrfHash) distinct
  .ok fun state => do
    let session ← state.session sessionID
    if session.rotatedTo expectedVersion tokenHash csrfHash seenAt idleExpiresAt then
      answer (.session session) state
    else do
      reject (session.revokedAt ≠ none ∨ session.version ≠ expectedVersion ∨ ¬ session.live seenAt ∨
          seenAt < session.lastSeenAt ∨ idleExpiresAt ≤ seenAt ∨ session.absoluteExpiresAt < idleExpiresAt)
        (conflict "stale, expired, or invalid session rotation")
      reject (credentialHashEqual session.tokenHash tokenHash ∨ credentialHashEqual session.csrfHash csrfHash)
        (conflict "rotation credentials must be new")
      reject ((removeFirst (fun x => x.id == sessionID) state.sessions).any fun x =>
          credentialHashEqual x.tokenHash tokenHash || credentialHashEqual x.csrfHash tokenHash ||
            credentialHashEqual x.tokenHash csrfHash || credentialHashEqual x.csrfHash csrfHash)
        (conflict "rotation credential already exists")
      let rotated := { session with
        tokenHash := tokenHash, csrfHash := csrfHash, lastSeenAt := seenAt, idleExpiresAt := idleExpiresAt,
        version := session.version + 1 }
      let actor ← rotated.actor env
      let audit ← newIdentityAuditEvent auditToken .sessionRotated seenAt actor rotated.principal.id rotated.id
        [("session_version", toString rotated.version.toNat)]
      let state ← appendIdentityAudit audit (state.putSession rotated)
      answer (.session rotated) state

/-- The methods that name their actor look at it first. -/
def checkCaller (context : String) : Option Actor → Result Unit
  | some actor => mapError (Failure.wrap context) actor.validate
  | none => .ok ()

/-- The caller, or the session itself. -/
def revocationActor (env : Env) (session : Session) : Option Actor → Result Actor
  | none => session.actor env
  | some actor => .ok actor

def revokeSession (env : Env) (caller : Option Actor) (sessionID : String) (at' : Int) (reason : String)
    (auditToken : String) : Result Callback := do
  checkCaller "invalid session revocation actor" caller
  reject (¬ identifierPattern sessionID ∨ at' = 0 ∨ ¬ validReason reason) (plain "invalid session revocation")
  .ok fun state => do
    let session ← state.session sessionID
    match session.revokedAt with
    | some t =>
      if t = at' ∧ session.revocationReason = reason then answer (.session session) state
      else .error (conflict "session was already revoked with different metadata")
    | none => do
      reject (at' < session.createdAt) (plain "session revocation predates creation")
      let actor ← revocationActor env session caller
      authenticateAuditCaller state actor at'
      let revoked := { session with
        revokedAt := some at', revocationReason := reason, version := session.version + 1 }
      let audit ← newIdentityAuditEvent auditToken .sessionRevoked at' actor revoked.principal.id revoked.id
        [("reason", reason), ("session_version", toString revoked.version.toNat)]
      let state ← appendIdentityAudit audit (state.putSession revoked)
      answer (.session revoked) state

/-- The actor of a principal's revocation: without a caller, the principal of the first session. -/
def coveredActor (env : Env) (caller actor : Option Actor) (n : Nat) (x : Session) : Result (Option Actor) :=
  if caller = none ∧ n = 0 then some <$> x.principal.actor env "" else .ok actor

/-- The loop of `revokePrincipal`: the sessions after it, how many were revoked, and the actor of the first
of them where there is no caller. -/
def revokeCovered (env : Env) (caller : Option Actor) (principalID : String) (at' : Int) (reason : String) :
    List Session → Nat → Option Actor → Result (List Session × Nat × Option Actor)
  | [], n, actor => .ok ([], n, actor)
  | x :: xs, n, actor =>
    if x.principal.id ≠ principalID ∨ x.revokedAt ≠ none then do
      let (ys, rest) ← revokeCovered env caller principalID at' reason xs n actor
      .ok (x :: ys, rest)
    else do
      reject (at' < x.createdAt) (plain "principal revocation predates a session")
      let actor ← coveredActor env caller actor n x
      let (ys, rest) ← revokeCovered env caller principalID at' reason xs (n + 1) actor
      .ok ({ x with revokedAt := some at', revocationReason := reason, version := x.version + 1 } :: ys, rest)

def revokePrincipal (env : Env) (caller : Option Actor) (principalID : String) (at' : Int) (reason : String)
    (auditToken : String) : Result Callback := do
  checkCaller "invalid principal revocation actor" caller
  reject (¬ identifierPattern principalID ∨ at' = 0 ∨ ¬ validReason reason)
    (plain "invalid principal revocation")
  .ok fun state => do
    checkAll (fun actor => authenticateAuditCaller state actor at') caller.toList
    let (sessions, n, actor) ← revokeCovered env caller principalID at' reason state.sessions 0 caller
    let state := { state with sessions := sessions }
    if n = 0 then answer (.count 0) state
    else do
      let audit ← newIdentityAuditEvent auditToken .principalRevoked at' (actor.getD ⟨"", .other "", ""⟩)
        principalID "" [("reason", reason), ("revoked_sessions", toString n)]
      let state ← appendIdentityAudit audit state
      answer (.count n) state

/-! ## Break-glass codes -/

def validBreakGlassCodeInput (input : BreakGlassCodeInput) : Bool :=
  identifierPattern input.id && hasPrefix "bg_" input.id &&
    !badLifetime input.createdAt input.expiresAt minBreakGlassCodeLifetime maxBreakGlassCodeLifetime

def breakGlassCodeState (c : BreakGlassCode) (now : Int) : BreakGlassCodeState :=
  if c.usedAt ≠ none then .used
  else if c.revokedAt ≠ none then .revoked
  else if c.expiresAt ≤ now then .expired
  else .usable

def breakGlassCodeSummary (c : BreakGlassCode) (now : Int) : BreakGlassCodeSummary :=
  ⟨c.id, c.createdAt, c.expiresAt, c.usedAt, c.revokedAt, breakGlassCodeState c now⟩

def createBreakGlassCode (input : BreakGlassCodeInput) : Result Callback := do
  reject (¬ validBreakGlassCodeInput input) (plain "invalid break-glass code metadata")
  let tokenHash ← hashOpaqueToken input.token
  let record : BreakGlassCode := ⟨input.id, tokenHash, input.createdAt, input.expiresAt, none, none⟩
  .ok fun state => do
    let state := pruneExpired record.createdAt state
    let clashes (x : BreakGlassCode) : Bool :=
      x.id == record.id || credentialHashEqual x.tokenHash record.tokenHash
    match state.breakGlassCodes.find? clashes with
    | some existing =>
      if existing = record then answer .done state
      else .error (conflict "break-glass identity or credential already exists")
    | none => do
      reject (maxBreakGlassCodes ≤ state.breakGlassCodes.length) errLimit
      answer .done { state with breakGlassCodes := state.breakGlassCodes ++ [record] }

def registerBreakGlassCodeAs (env : Env) (actor : Actor) (input : BreakGlassCodeInput) (auditToken : String) :
    Result Callback := do
  reject (actor.kind = .breakGlass) errUnauthorized
  reject (¬ identifierPattern input.id ∨ ¬ hasPrefix "bg_" input.id ∨ input.createdAt = 0 ∨ input.expiresAt = 0)
    (plain "invalid break-glass code metadata")
  let tokenHash ← hashOpaqueToken input.token
  let record : BreakGlassCode := ⟨input.id, tokenHash, input.createdAt, input.expiresAt, none, none⟩
  let principal ← newBreakGlassPrincipal env record.id record.createdAt
  let audit ← newIdentityAuditEvent auditToken .breakGlassRegistered record.createdAt actor principal.id ""
    [("expires_at", rfc3339 record.expiresAt)]
  .ok fun state => do
    authenticateAuditCaller state actor record.createdAt
    let state := pruneExpired record.createdAt state
    let clashes (x : BreakGlassCode) : Bool :=
      x.id == record.id || credentialHashEqual x.tokenHash record.tokenHash
    match state.breakGlassCodes.find? clashes with
    | some existing =>
      if existing.id = record.id ∧ credentialHashEqual existing.tokenHash record.tokenHash ∧
          existing.expiresAt = record.expiresAt then
        answer (.summary (breakGlassCodeSummary existing existing.createdAt) false) state
      else
        .error (conflict "break-glass identity or credential already exists")
    | none => do
      reject (¬ validBreakGlassCodeInput input) (plain "invalid break-glass code metadata")
      reject (maxBreakGlassCodes ≤ state.breakGlassCodes.length) errLimit
      let state ← appendIdentityAudit audit
        { state with breakGlassCodes := state.breakGlassCodes ++ [record] }
      answer (.summary (breakGlassCodeSummary record record.createdAt) true) state

def State.putCode (s : State) (x : BreakGlassCode) : State :=
  { s with breakGlassCodes := replaceFirst (fun y => y.id == x.id) x s.breakGlassCodes }

def auditConsumption (env : Env) (code : BreakGlassCode) (now : Int) (auditToken : String) (state : State) :
    Result State := do
  let principal ← newBreakGlassPrincipal env code.id now
  let actor ← principal.actor env ""
  let audit ← newIdentityAuditEvent auditToken .breakGlassConsumed now actor principal.id ""
    [("expires_at", rfc3339 code.expiresAt)]
  appendIdentityAudit audit state

def recordConsumption (env : Env) (audited : Bool) (code : BreakGlassCode) (now : Int) (auditToken : String)
    (state : State) : Result State :=
  if audited then auditConsumption env code now auditToken state else .ok state

def consumeBreakGlassCode (env : Env) (codeID token : String) (now : Int) (audited : Bool)
    (auditToken : String) : Result Callback := do
  reject (¬ identifierPattern codeID ∨ ¬ validOpaqueToken token ∨ now = 0) errUnauthorized
  .ok fun state =>
    match state.breakGlassCodes.find? fun x => x.id == codeID with
    | none => answerError errUnauthorized state
    | some code =>
      if code.usedAt ≠ none ∨ code.revokedAt ≠ none ∨ code.expiresAt ≤ now ∨
          ¬ credentialMatches code.tokenHash token then
        answerError errUnauthorized state
      else do
        let used := { code with usedAt := some now }
        let state ← recordConsumption env audited code now auditToken state
        answer (.code used) (state.putCode used)

def revokeBreakGlassCodeAs (env : Env) (actor : Actor) (codeID : String) (at' : Int) (auditToken : String) :
    Result Callback := do
  reject (¬ identifierPattern codeID ∨ ¬ hasPrefix "bg_" codeID ∨ at' = 0 ∨ actor.kind = .breakGlass)
    errUnauthorized
  .ok fun state => do
    authenticateAuditCaller state actor at'
    let code ← require (state.breakGlassCodes.find? fun x => x.id == codeID) errNotFound
    reject (at' < code.createdAt) (conflict "break-glass revocation predates registration")
    reject (code.usedAt ≠ none) (conflict "used break-glass code cannot be revoked")
    if code.revokedAt ≠ none then answer (.summary (breakGlassCodeSummary code at') false) state
    else do
      let principal ← newBreakGlassPrincipal env code.id at'
      let audit ← newIdentityAuditEvent auditToken .breakGlassRevoked at' actor principal.id ""
        [("expires_at", rfc3339 code.expiresAt)]
      let revoked := { code with revokedAt := some at' }
      let state ← appendIdentityAudit audit (state.putCode revoked)
      answer (.summary (breakGlassCodeSummary revoked at') false) state

/-! ## Desktop authorizations -/

def createDesktopAuthorization (input : CreateDesktopAuthorizationInput) : Result Callback := do
  reject (¬ validDesktopAuthorizationRequestID input.id ∨ ¬ validOpaqueToken input.pollSecret ∨
      badLifetime input.createdAt input.expiresAt minDesktopAuthorizationLifetime
        maxDesktopAuthorizationLifetime ∨
      input.pollInterval < minDesktopAuthorizationInterval ∨
      maxDesktopAuthorizationInterval < input.pollInterval ∨ input.pollInterval % second ≠ 0)
    (plain "desktop authorization request is invalid")
  let record : DesktopAuthorization :=
    { id := input.id, pollSecretHash := hashToken input.pollSecret, state := .pending, principal := {},
      createdAt := input.createdAt, expiresAt := input.expiresAt,
      pollIntervalSeconds := input.pollInterval / second, version := 1 }
  .ok fun state => do
    let state := pruneDesktopAuthorizations input.createdAt false state
    reject (state.desktopAuthorizations.any fun x =>
        x.id == record.id || credentialHashEqual x.pollSecretHash record.pollSecretHash)
      (conflict "desktop authorization identity or credential already exists")
    reject (maxDesktopAuthorizations ≤ state.desktopAuthorizations.length) errLimit
    answer .done { state with desktopAuthorizations := state.desktopAuthorizations ++ [record] }

/-- `principalsEqual` compares every field. -/
def principalsEqual (left right : Principal) : Bool := left == right

def DesktopAuthorizationDecision.target : DesktopAuthorizationDecision → DesktopAuthorizationState
  | .deny => .denied
  | _ => .approved

def decideDesktopAuthorization (env : Env) (requestID : String) (principal : Principal)
    (decision : DesktopAuthorizationDecision) (now : Int) : Result Callback := do
  reject (¬ validDesktopAuthorizationRequestID requestID ∨ ¬ (principal.validate env).isOk ∨
      (decision ≠ .approve ∧ decision ≠ .deny) ∨ ¬ isCanonicalTime now)
    (plain "desktop authorization decision is invalid")
  .ok fun state => do
    let found (x : DesktopAuthorization) : Bool := x.id == requestID
    -- the pruning before ErrNotFound is thrown away with the error
    let record ← require (state.desktopAuthorizations.find? found) errNotFound
    reject (record.expiresAt ≤ now) (conflict "desktop authorization request expired")
    if record.state ≠ .pending then
      if record.state = decision.target ∧ principalsEqual record.principal principal then answer .done state
      else .error (conflict "desktop authorization request is already decided")
    else
      let decided := { record with
        state := decision.target, principal := principal, decidedAt := some now, version := record.version + 1 }
      answer .done
        { state with desktopAuthorizations := replaceFirst found decided state.desktopAuthorizations }

def pollDesktopAuthorization (requestID pollSecret : String) (now : Int) : Result Callback := do
  let hash ← mapError (fun _ => errUnauthorized) (hashOpaqueToken pollSecret)
  reject (¬ validDesktopAuthorizationRequestID requestID ∨ ¬ isCanonicalTime now) errUnauthorized
  .ok fun state =>
    let found (x : DesktopAuthorization) : Bool :=
      x.id == requestID && credentialHashEqual x.pollSecretHash hash
    match state.desktopAuthorizations.find? found with
    | none => answerError errUnauthorized state
    | some record => do
      let interval := seconds record.pollIntervalSeconds
      reject (∃ t ∈ record.lastPolledAt, now < t + interval) errLimit
      let without := { state with desktopAuthorizations := removeFirst found state.desktopAuthorizations }
      let result (state : DesktopAuthorizationState) (principal : Principal) : Reply :=
        .poll ⟨state, principal, record.expiresAt, interval⟩
      if record.expiresAt ≤ now then answer (result .expired {}) without
      else if record.state = .denied then answer (result .denied {}) without
      else if record.state = .approved then answer (result .approved record.principal) without
      else
        let polled := { record with lastPolledAt := some now, version := record.version + 1 }
        answer (result record.state {})
          { state with desktopAuthorizations := replaceFirst found polled state.desktopAuthorizations }

/-! ## Cleaning up -/

def cleanupExpired (now : Int) : Result Callback := do
  reject (now = 0) (plain "cleanup time is required")
  .ok fun state =>
    let kept := pruneExpired now state
    answer (.cleaned ⟨state.loginAttempts.length - kept.loginAttempts.length,
      state.sessions.length - kept.sessions.length,
      state.breakGlassCodes.length - kept.breakGlassCodes.length,
      state.desktopAuthorizations.length - kept.desktopAuthorizations.length⟩) kept

/-! ## Reading -/

def authenticateSession (token policyFingerprint : String) (now : Int) : Result (State → Result Session) := do
  let tokenHash ← mapError (fun _ => errUnauthorized) (hashOpaqueToken token)
  reject (¬ validPolicyFingerprint policyFingerprint ∨ now = 0) errUnauthorized
  .ok fun state => do
    let session ← require (state.sessions.find? fun x => credentialHashEqual x.tokenHash tokenHash)
      errUnauthorized
    reject (session.revokedAt ≠ none ∨ now < session.lastSeenAt ∨ ¬ session.live now ∨
        session.policyFingerprint ≠ policyFingerprint) errUnauthorized
    .ok session

/-! ## All operations -/

inductive Op where
  | createLoginAttempt (input : LoginAttemptInput)
  | consumeLoginAttempt (transactionToken stateToken : String) (now : Int)
  | createSession (input : CreateSessionInput) (auditToken : String)
  | touchSession (sessionID : String) (expectedVersion : UInt64) (seenAt idleExpiresAt : Int)
  | rotateSession (sessionID : String) (expectedVersion : UInt64) (newToken newCSRFToken : String)
      (seenAt idleExpiresAt : Int) (auditToken : String)
  /-- `RevokeSession` without a caller, `RevokeSessionAs` with one -/
  | revokeSession (caller : Option Actor) (sessionID : String) (at' : Int) (reason auditToken : String)
  | revokePrincipal (caller : Option Actor) (principalID : String) (at' : Int) (reason auditToken : String)
  | createBreakGlassCode (input : BreakGlassCodeInput)
  | registerBreakGlassCodeAs (actor : Actor) (input : BreakGlassCodeInput) (auditToken : String)
  /-- audited by `ConsumeBreakGlassCodeAs`, not by `ConsumeBreakGlassCode` -/
  | consumeBreakGlassCode (codeID token : String) (now : Int) (audited : Bool) (auditToken : String)
  | revokeBreakGlassCodeAs (actor : Actor) (codeID : String) (at' : Int) (auditToken : String)
  | createDesktopAuthorization (input : CreateDesktopAuthorizationInput)
  | decideDesktopAuthorization (requestID : String) (principal : Principal)
      (decision : DesktopAuthorizationDecision) (now : Int)
  | pollDesktopAuthorization (requestID pollSecret : String) (now : Int)
  | cleanupExpired (now : Int)

def Op.begin (env : Env) : Op → Result Callback
  | .createLoginAttempt input => Identity.createLoginAttempt env input
  | .consumeLoginAttempt transactionToken stateToken now =>
    Identity.consumeLoginAttempt env transactionToken stateToken now
  | .createSession input auditToken => Identity.createSession env input auditToken
  | .touchSession sessionID expectedVersion seenAt idleExpiresAt =>
    Identity.touchSession sessionID expectedVersion seenAt idleExpiresAt
  | .rotateSession sessionID expectedVersion newToken newCSRFToken seenAt idleExpiresAt auditToken =>
    Identity.rotateSession env sessionID expectedVersion newToken newCSRFToken seenAt idleExpiresAt auditToken
  | .revokeSession caller sessionID at' reason auditToken =>
    Identity.revokeSession env caller sessionID at' reason auditToken
  | .revokePrincipal caller principalID at' reason auditToken =>
    Identity.revokePrincipal env caller principalID at' reason auditToken
  | .createBreakGlassCode input => Identity.createBreakGlassCode input
  | .registerBreakGlassCodeAs actor input auditToken =>
    Identity.registerBreakGlassCodeAs env actor input auditToken
  | .consumeBreakGlassCode codeID token now audited auditToken =>
    Identity.consumeBreakGlassCode env codeID token now audited auditToken
  | .revokeBreakGlassCodeAs actor codeID at' auditToken =>
    Identity.revokeBreakGlassCodeAs env actor codeID at' auditToken
  | .createDesktopAuthorization input => Identity.createDesktopAuthorization input
  | .decideDesktopAuthorization requestID principal decision now =>
    Identity.decideDesktopAuthorization env requestID principal decision now
  | .pollDesktopAuthorization requestID pollSecret now =>
    Identity.pollDesktopAuthorization requestID pollSecret now
  | .cleanupExpired now => Identity.cleanupExpired now

/-- The transaction: the callback, and the validation of the document it made. -/
def Op.apply (env : Env) (o : Op) (s : State) : Result (Result Reply × State) := do
  let callback ← o.begin env
  let (r, next) ← callback s
  mapError (Failure.wrap "refuse invalid identity mutation") (validateState env next)
  .ok (r, next)

end Identity
end Mesh
