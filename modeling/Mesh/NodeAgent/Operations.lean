import Mesh.Control.Agents
import Mesh.Lib.Program
import Mesh.NodeAgent.Model

/-!
# Mesh.NodeAgent.Operations

The operations of the agent as programs over the calls it makes: to its files, to the Nebula tools, to
the clock and the random generator, and to the server. Each operation is written in the order of the
source, so a crash can fall between any two of its calls.

A bundle is identified with the directory it was written to: these directories are immutable, and the
current link is the only thing that decides which one is live.
-/

namespace Mesh
namespace NodeAgent

/-! ## Calls -/

/-- What the Nebula tools print about a certificate. -/
structure CertificateDetails where
  fingerprint : String
  expiresAt : Int
deriving DecidableEq, Inhabited

/-- The answer to a config request: the config, or that the signature the agent named is current. -/
inductive ConfigResponse where
  | notModified
  | config (desired : AgentConfig)
deriving Inhabited

inductive Call where
  | acquireLock
  | loadState
  | saveState (state : State)
  | loadRecoveryKeyPair
  /-- The files of the bundle the current link points to. -/
  | readCurrent
  /-- Preflight, lock, ownership marker and pruning of the output directory; answers with the bundle
  the current link points to. -/
  | prepareOutput
  | stage (bundle : Bundle)
  /-- `BundleValidator.Validate` on the files of the bundle. -/
  | validate (bundle : Bundle)
  | publish (bundle : Bundle)
  | switchLink (bundle : Bundle)
  | removeLink
  | syncOutput
  | reload
  | generateBearer
  | now
  | systemBootID
  | getConfig (bearer etag : String)
  | bootstrap (bearer : String)
  | renewCertificate (bearer publicKey : String)
  | rotateCredential (bearer newTokenHash : String)
  | recoverAgent (recoveryToken publicKey newAgentTokenHash : String)
  | heartbeat (bearer : String) (input : HeartbeatInput)
  | reportConfigApplyFailure (bearer : String) (input : ConfigApplyFailureInput)

/-- What a call yields when it succeeds. -/
abbrev Call.Value : Call → Type
  | loadState => State
  | loadRecoveryKeyPair => KeyPair
  | readCurrent => Bundle
  | prepareOutput => Option Bundle
  | validate _ => CertificateDetails
  | generateBearer => String
  | now => Int
  | systemBootID => Option String
  | getConfig _ _ => ConfigResponse
  | bootstrap _ => EnrollmentBundle
  | renewCertificate _ _ => RenewalBundle
  | rotateCredential _ _ => CredentialRotation
  | recoverAgent _ _ _ => AgentRecoveryBundle
  | _ => Unit

abbrev Call.Answer (c : Call) : Type := Checked c.Value

abbrev Host := Program Call Call.Answer AgentError

def ask (c : Call) : Host c.Value := .call c Program.check

/-- `if err := …; err != nil { return fmt.Errorf("context: %w", err) }`. -/
def wrapping {α : Type} (context : String) (p : Host α) : Host α := p.mapFail (.wrap context)

/-- `errors.Join` of an earlier error with that of the program. -/
def joining {α : Type} (cause : AgentError) (p : Host α) : Host α := p.mapFail (.join cause)

def check {α : Type} (x : Checked α) : Host α := Program.check x

/-- What an agent is started with. -/
structure Agent where
  agentVersion : String
  configSuccessPersistInterval : Int

structure SyncResult where
  changed : Bool := false
  revision : Int
  digest : String
deriving DecidableEq

structure Activation where
  previousTarget : Option Bundle
  certificateExpiresAt : Int

def Agent.ready (a : Agent) : Host Unit := do
  check (reject (trimSpace a.agentVersion = "" ∨ 64 < a.agentVersion.utf8ByteSize)
    (.text "agent version is required"))
  ask .acquireLock

/-- `StateStore.Load`. -/
def load : Host State := do
  let state : State ← ask .loadState
  wrapping "validate agent state" (check state.validate)
  pure state

/-- `StateStore.Save`. -/
def save (state : State) : Host Unit := do
  wrapping "validate agent state" (check state.validate)
  ask (.saveState state)

/-- `NewClient`: requests are made with a bearer of the right form. -/
def newClient (bearer : String) : Checked String := do
  let bearer := trimSpace bearer
  reject (¬ validBearerToken bearer) (.text "agent bearer is missing or too short")
  pure bearer

/-! ## Activation -/

/-- How often the text occurs without overlap, after the characters to skip. -/
def countText (text : List Char) : Nat → List Char → Nat
  | _, [] => 0
  | skip + 1, _ :: cs => countText text skip cs
  | 0, c :: cs =>
    if text.isPrefixOf (c :: cs) then 1 + countText text (text.length - 1) cs else countText text 0 cs

/-- `rewritePKIPaths` accepts the config. -/
def checkPKIPaths (config : String) : Checked Unit :=
  checkAll (fun path => reject (countText path.toList 0 config.toList ≠ 1)
      (.text ("signed config must contain exactly one " ++ path ++ " path")))
    ["/etc/nebula/ca.crt", "/etc/nebula/host.crt", "/etc/nebula/host.key"]

def validatePinned (state : State) (bundle : Bundle) : Checked Unit :=
  validateBundle bundle state.nodeID state.networkID state.configSigningPublicKey
    state.caCertificateSHA256 state.publicKeyHash

/-- `Activator.rollback`. -/
def rollback : Option Bundle → Host Unit
  | some bundle => do
    wrapping "restore previous Nebula bundle" (ask (.switchLink bundle))
    wrapping "sync Nebula bundle rollback" (ask .syncOutput)
    wrapping "reload previous Nebula bundle" (ask .reload)
  | none => do
    wrapping "remove failed initial Nebula bundle" (ask .removeLink)
    wrapping "sync Nebula bundle rollback" (ask .syncOutput)

/-- A step after the switch; if it fails, the previous bundle is restored. -/
def orRollback (previous : Option Bundle) (context : String) (p : Host Unit) : Host Unit := do
  match ← p.attempt with
  | .ok () => pure ()
  | .error e =>
    match ← (rollback previous).attempt with
    | .ok () => .fail (.wrap context e)
    | .error rollbackErr => .fail (.join (.wrap context e) rollbackErr)

/-- `Activator.Apply`, for an activator with the pins of the state. -/
def apply (pins : State) (bundle : Bundle) : Host Activation := do
  check (validatePinned pins bundle)
  let previous : Option Bundle ← ask .prepareOutput
  check (checkPKIPaths bundle.signedConfig)
  ask (.stage bundle)
  let details : CertificateDetails ← ask (.validate bundle)
  check (reject (details.fingerprint ≠ bundle.certificateFingerprint ∨
      details.expiresAt ≠ bundle.certificateExpiresAt)
    (.text "verified Nebula certificate does not match the signed artifact metadata"))
  ask (.publish bundle)
  ask (.switchLink bundle)
  orRollback previous "sync activated Nebula bundle" (ask .syncOutput)
  orRollback previous "reload staged Nebula bundle" (ask .reload)
  pure ⟨previous, details.expiresAt⟩

/-- `Activator.CurrentBundle`. -/
def currentBundle (state : State) : Host Bundle := do
  let bundle : Bundle ← ask .readCurrent
  wrapping "validate current Nebula bundle" (check (validatePinned state bundle))
  let details : CertificateDetails ← wrapping "validate current Nebula runtime" (ask (.validate bundle))
  check (reject (details.fingerprint ≠ bundle.certificateFingerprint ∨
      details.expiresAt ≠ bundle.certificateExpiresAt)
    (.text "current Nebula certificate does not match immutable signed metadata"))
  pure bundle

/-! ## Operations -/

/-- The server was reached at this time. -/
def State.contacted (state : State) (now : Int) : State := { state with lastSuccessfulConfigAt := now }

/-- The bearer to change to. -/
def State.pendingTo (state : State) (bearer : String) : State := { state with pendingBearer := bearer }

/-- The pins for activating an artifact that names its own trust bundle. -/
def State.pinnedTo (state : State) (desired : AgentConfig) : State :=
  { state with caCertificateSHA256 := desired.caCertificateSHA256 }

def applyBootstrap (state : State) (keys : KeyPair) (bootstrap : EnrollmentBundle) :
    Host (State × SyncResult) := do
  let (desired, bundle) ← check (verifyBootstrapBundle state keys bootstrap)
  let activation ← apply (state.pinnedTo desired) bundle
  let state := state.bootstrapped bootstrap activation.certificateExpiresAt
  wrapping "persist recovered agent bootstrap" (save state)
  pure (state, ⟨true, desired.revision, desired.sha256⟩)

/-- The live bundle, restored from a bootstrap of the server if it cannot be read. -/
def recoverCurrentBundle (state : State) (cause : AgentError) : Host (State × Bundle) := do
  let client ← joining cause (check (newClient state.bearer))
  let bootstrap : EnrollmentBundle ← joining cause (ask (.bootstrap client))
  let keys : KeyPair ← joining cause (ask .loadRecoveryKeyPair)
  let (state, _) ← joining cause (applyBootstrap state keys bootstrap)
  let current ← currentBundle state
  pure (state, current)

/-- The live bundle, or the one a bootstrap of the server restores. -/
def readOrRecover (state : State) : Host (State × Bundle) := do
  match ← (currentBundle state).attempt with
  | .ok current => pure (state, current)
  | .error e => recoverCurrentBundle state e

/-- The saved state catches up with the live bundle. -/
def reconcile (state : State) (current : Bundle) : Host (State × Bundle) := do
  check (checkLiveBundle state current)
  if liveBundleChanged state current then
    wrapping "reconcile live Nebula bundle state" (save (state.reconciled current))
    pure (state.reconciled current, current)
  else pure (state, current)

def loadReconciledState : Host (State × Bundle) := do
  let state ← load
  check (rejectPendingAgentRecovery state)
  let (state, current) ← readOrRecover state
  reconcile state current

def Agent.persistInterval (a : Agent) : Int :=
  if a.configSuccessPersistInterval ≤ 0 then Calendar.minute else a.configSuccessPersistInterval

/-- `recordConfigSuccess`: unchanged polls are saved once per interval. -/
def Agent.recordConfigSuccess (a : Agent) (state : State) : Host State := do
  let now : Int ← ask .now
  if state.lastSuccessfulConfigAt ≠ 0 ∧ state.lastSuccessfulConfigAt ≤ now ∧
      now - state.lastSuccessfulConfigAt < a.persistInterval then pure state
  else
    wrapping "persist successful config contact" (save (state.contacted now))
    pure (state.contacted now)

/-- The bundle of a renewal, for the node of the state. -/
def bundleOfRenewal (state : State) (keys : KeyPair) (renewal : RenewalBundle) : Bundle :=
  bundleOf state.nodeID state.networkID (desiredOfRenewal renewal) renewal.ca renewal.certificate keys

/-- What a renewal returned is activated and saved. -/
def activateRenewal (state : State) (keys : KeyPair) (renewal : RenewalBundle) : Host SyncResult := do
  let desired := desiredOfRenewal renewal
  let activation ← wrapping "activate renewed certificate"
    (apply (state.pinnedTo desired) (bundleOfRenewal state keys renewal))
  wrapping "persist certificate renewal" (save (state.activated desired activation.certificateExpiresAt))
  pure ⟨true, desired.revision, desired.sha256⟩

/-- The renewal failed, and a bootstrap tells whether it took place nevertheless. -/
def recoverRenewal (state : State) (keys : KeyPair) (client : String) (cause : AgentError) :
    Host SyncResult := do
  match ← (ask (.bootstrap client)).attempt with
  | .error _ => .fail cause
  | .ok bootstrap =>
    if bootstrap.certificateGeneration ≤ state.certificateGeneration then .fail cause
    else
      match ← (applyBootstrap state keys bootstrap).attempt with
      | .ok (_, result) => pure result
      | .error e => .fail (.join cause (.wrap "recover ambiguous certificate renewal" e))

def renewCertificateLocked : Host SyncResult := do
  let state ← load
  check (rejectPendingAgentRecovery state)
  let keys : KeyPair ← wrapping "load node keypair for renewal" (ask .loadRecoveryKeyPair)
  let client ← check (newClient state.bearer)
  match ← (ask (.renewCertificate client keys.publicKey)).attempt with
  | .error e => recoverRenewal state keys client e
  | .ok renewal =>
    let desired := desiredOfRenewal renewal
    wrapping "verify renewal config" (check (verifySignedConfig state desired))
    match ← (currentBundle state).attempt with
    | .ok current =>
      if sameSignedArtifact current desired then pure ⟨false, desired.revision, desired.sha256⟩
      else activateRenewal state keys renewal
    | .error _ => activateRenewal state keys renewal

def Agent.renewCertificate (a : Agent) : Host SyncResult := do
  a.ready
  renewCertificateLocked

/-- A bootstrap is fetched and activated, and the contact with the server recorded. -/
def syncBootstrap (context client : String) (state : State) : Host SyncResult := do
  let bootstrap : EnrollmentBundle ← wrapping context (ask (.bootstrap client))
  let keys : KeyPair ← ask .loadRecoveryKeyPair
  let now : Int ← ask .now
  let (_, result) ← applyBootstrap (state.contacted now) keys bootstrap
  pure result

/-- The config names another certificate than the live bundle has. -/
def certificateChanged (current : Bundle) (desired : AgentConfig) : Bool :=
  desired.certificateGeneration != current.certificateGeneration ||
    desired.certificateFingerprint != current.certificateFingerprint ||
    desired.certificateExpiresAt != current.certificateExpiresAt ||
    desired.certificateRenewAfter != current.certificateRenewAfter

/-- A config for the live certificate is activated. -/
def syncConfig (state : State) (current : Bundle) (desired : AgentConfig) : Host SyncResult := do
  let activation ← (apply (state.pinnedTo desired) (current.withDesired desired)).mapFail
    fun e => .activation desired.revision desired.sha256 (.wrap "activate signed config" e)
  let now : Int ← ask .now
  wrapping "persist applied config revision"
    (save ((state.activated desired activation.certificateExpiresAt).contacted now))
  pure ⟨true, desired.revision, desired.sha256⟩

def Agent.sync (a : Agent) : Host SyncResult := do
  a.ready
  let (state, current) ← loadReconciledState
  let client ← check (newClient state.bearer)
  match ← ask (.getConfig client ("\"" ++ current.signature ++ "\"")) with
  | .notModified =>
    let state ← a.recordConfigSuccess state
    pure { revision := state.appliedConfigRevision, digest := state.appliedConfigSHA256 }
  | .config desired =>
    check (verifySignedConfig state desired)
    if desired.caCertificateSHA256 ≠ state.caCertificateSHA256 then
      syncBootstrap "fetch signed CA trust transition" client state
    else if desired.caRotationRequired ∨ desired.certificateProfileRenewalRequired then
      renewCertificateLocked
    else if certificateChanged current desired then
      syncBootstrap "recover changed signed certificate artifact" client state
    else if desired.revision = state.appliedConfigRevision then
      check (reject (¬ sameSignedArtifact current desired) .configEquivocation)
      let _ ← a.recordConfigSuccess state
      pure { revision := desired.revision, digest := desired.sha256 }
    else syncConfig state current desired

/-! ## Credentials -/

/-- Whether the server refused the bearer. -/
def unauthorized (e : AgentError) : Bool := e.apiStatus? == some 401

/-- The bearer to rotate to is drawn once and kept until the rotation is over. -/
def journalRotation (state : State) : Host State := do
  if state.pendingBearer = "" then
    let bearer : String ← ask .generateBearer
    wrapping "persist pending agent credential" (save (state.pendingTo bearer))
    pure (state.pendingTo bearer)
  else pure state

/-- The rotation is asked for with the bearer in use; if that is refused, with the pending one, which
the server may have put in its place. -/
def requestRotation (state : State) : Host CredentialRotation := do
  let newHash := hashToken state.pendingBearer
  let client ← check (newClient state.bearer)
  match ← (ask (.rotateCredential client newHash)).attempt with
  | .ok rotation => pure rotation
  | .error e =>
    if unauthorized e then
      let pendingClient ← check (newClient state.pendingBearer)
      ask (.rotateCredential pendingClient newHash)
    else .fail e

def State.rotated (state : State) (rotation : CredentialRotation) : State :=
  { state with
    bearer := state.pendingBearer
    pendingBearer := ""
    agentCredentialGeneration := rotation.generation
    agentCredentialExpiresAt := rotation.expiresAt }

def Agent.rotateCredential (a : Agent) : Host CredentialRotation := do
  a.ready
  let state ← load
  check (rejectPendingAgentRecovery state)
  let state ← journalRotation state
  let rotation ← requestRotation state
  let now : Int ← ask .now
  check (validateCredentialRotation state rotation now)
  wrapping "commit rotated agent credential" (save (state.rotated rotation))
  pure rotation

/-- Four draws for a bearer that is neither of the two. -/
def generateDistinctRecoveryBearer (activeBearer previousPending : String) : Nat → Host String
  | 0 => .fail (.text "could not generate a distinct replacement recovery bearer")
  | attempts + 1 => do
    let bearer : String ← ask .generateBearer
    if ¬ tokenEqual (hashToken activeBearer) bearer ∧ ¬ tokenEqual (hashToken previousPending) bearer then
      pure bearer
    else generateDistinctRecoveryBearer activeBearer previousPending attempts

/-- The journal of a recovery with the token, and whether the generation may have advanced unseen. -/
def State.recovering (state : State) (token bearer : String) (allowsAdvance : Bool) : State :=
  { state with
    pendingRecoveryToken := token
    pendingBearer := bearer
    pendingRecoveryAllowsGenerationAdvance := allowsAdvance }

/-- The journal is overwritten only if the server refuses the pending bearer. -/
def replacePendingRecoveryAfterAuthoritativeRejection (state : State) (keys : KeyPair)
    (replacementToken : String) : Host State := do
  let pendingClient ← check (newClient state.pendingBearer)
  match ← (ask (.bootstrap pendingClient)).attempt with
  | .ok bootstrap =>
    let _ ← wrapping "verify pending recovery bearer before token replacement"
      (check (verifyBootstrapBundle state keys bootstrap))
    .fail .recoveryResumeRequired
  | .error e =>
    if unauthorized e then
      let freshBearer ← generateDistinctRecoveryBearer state.bearer state.pendingBearer 4
      wrapping "persist replacement agent recovery request"
        (save (state.recovering replacementToken freshBearer true))
      pure (state.recovering replacementToken freshBearer true)
    else .fail (.wrap "probe pending recovery bearer before token replacement" e)

/-- The Nebula tools on a bundle that is not made live. -/
def validateRecoveryActivationCandidate (bundle : Bundle) : Host Unit := do
  check (checkPKIPaths bundle.signedConfig)
  let details : CertificateDetails ← ask (.validate bundle)
  check (reject (details.fingerprint ≠ bundle.certificateFingerprint ∨
      details.expiresAt ≠ bundle.certificateExpiresAt)
    (.text "verified recovery certificate does not match its signed metadata"))

/-- An expired certificate is not activated but renewed with the recovered bearer. -/
def renewRecoveredCertificate (state : State) (keys : KeyPair) (minimumGeneration : Int) :
    Host SyncResult := do
  let client ← check (newClient state.bearer)
  let renewal : RenewalBundle ← wrapping "renew expired certificate after agent recovery"
    (ask (.renewCertificate client keys.publicKey))
  let desired := desiredOfRenewal renewal
  wrapping "verify post-recovery certificate renewal" (check (verifySignedConfig state desired))
  let now : Int ← ask .now
  check (reject (desired.certificateGeneration ≤ minimumGeneration ∨ ¬ now < desired.certificateExpiresAt)
    (.text "post-recovery certificate renewal did not return a newer valid certificate"))
  let activation ← wrapping "activate post-recovery certificate renewal"
    (apply (state.pinnedTo desired) (bundleOfRenewal state keys renewal))
  let now : Int ← ask .now
  wrapping "persist post-recovery certificate renewal"
    (save ((state.activated desired activation.certificateExpiresAt).contacted now))
  pure ⟨true, desired.revision, desired.sha256⟩

/-- The recovery to go on with: the pending one, or one for the token that was given. -/
def chooseRecovery (state : State) (keys : KeyPair) (providedToken : String) : Host State := do
  if state.pendingRecoveryToken ≠ "" then
    if providedToken ≠ "" ∧ ¬ tokenEqual (hashToken state.pendingRecoveryToken) providedToken then
      check (reject (¬ validBearerToken providedToken)
        (.text "a canonical replacement agent recovery token is required"))
      replacePendingRecoveryAfterAuthoritativeRejection state keys providedToken
    else pure state
  else
    check (reject (¬ validBearerToken providedToken)
      (.text "a canonical agent recovery token is required"))
    pure (state.recovering providedToken "" false)

/-- A pending bearer is drawn if there is none. -/
def drawPendingBearer (state : State) : Host State := do
  if state.pendingBearer = "" then
    let bearer : String ← ask .generateBearer
    pure (state.pendingTo bearer)
  else pure state

/-- The journal of a recovery: the token and the bearer that is asked for. -/
def journalRecovery (state : State) (keys : KeyPair) (providedToken : String) : Host State := do
  let state ← chooseRecovery state keys (trimSpace providedToken)
  check (reject (¬ validBearerToken state.pendingRecoveryToken)
    (.text "pending agent recovery token is invalid"))
  let state ← drawPendingBearer state
  check (reject (tokenEqual (hashToken state.bearer) state.pendingBearer)
    (.text "pending recovery bearer must differ from the active bearer"))
  wrapping "persist pending agent recovery request" (save state)
  pure state

/-- A certificate that is still valid must pass the Nebula tools before the bearer is adopted. -/
def checkRecoveredCertificate (bundle : Bundle) (now : Int) : Host Unit :=
  if now < bundle.certificateExpiresAt then
    wrapping "validate recovered Nebula bootstrap before credential commit"
      (validateRecoveryActivationCandidate bundle)
  else pure ()

/-- The recovered bearer is in use and the bootstrap it returns can be activated. -/
def proveRecoveredBearer (state : State) (keys : KeyPair) (recovered : AgentRecoveryBundle) :
    Host EnrollmentBundle := do
  let pendingClient ← check (newClient state.pendingBearer)
  let confirmed : EnrollmentBundle ← wrapping "prove recovered agent credential"
    (ask (.bootstrap pendingClient))
  let (_, confirmedBundle) ← wrapping "verify recovered credential bootstrap"
    (check (verifyBootstrapBundle state keys confirmed))
  check (validateRecoveryBootstrapAdvance recovered.toEnrollmentBundle confirmed recovered.recoveryReceipt)
  let now : Int ← ask .now
  checkRecoveredCertificate confirmedBundle now
  pure confirmed

/-- The state after the recovery was proved. -/
def State.recovered (state : State) (receipt : RecoveryReceipt) (now : Int) : State :=
  { state with
    bearer := state.pendingBearer
    pendingBearer := ""
    pendingRecoveryToken := ""
    pendingRecoveryAllowsGenerationAdvance := false
    agentCredentialGeneration := receipt.agentCredentialGeneration
    agentCredentialExpiresAt := receipt.agentCredentialExpiresAt
    lastSuccessfulConfigAt := now }

def Agent.recoverCredential (a : Agent) (providedToken : String) : Host SyncResult := do
  a.ready
  let state ← load
  let keys : KeyPair ← wrapping "load immutable node keypair for agent recovery" (ask .loadRecoveryKeyPair)
  check (validateRecoveryKeyPair keys state.publicKeyHash)
  let state ← journalRecovery state keys providedToken
  let _ ← check (newClient state.bearer)
  let recovered : AgentRecoveryBundle ← ask (.recoverAgent state.pendingRecoveryToken keys.publicKey
    (hashToken state.pendingBearer))
  let verifiedAt : Int ← ask .now
  let _ ← check (verifyRecoveredAgentBundle state keys recovered state.pendingBearer verifiedAt)
  let confirmed ← proveRecoveredBearer state keys recovered
  let now : Int ← ask .now
  let state := state.recovered recovered.recoveryReceipt now
  wrapping "commit recovered agent credential" (save state)
  let later : Int ← ask .now
  if later < confirmed.certificateExpiresAt then
    let (_, result) ← applyBootstrap state keys confirmed
    pure result
  else renewRecoveredCertificate state keys confirmed.certificateGeneration

/-! ## Reports -/

structure Health where
  nebulaVersion : String
  certificateFingerprint : String
  nebulaRunning : Bool
  nativeDNSActive : Bool
  status : String
  lastError : String

/-- The digits at the front. -/
def takeNumber (cs : List Char) : Option (Nat × List Char) :=
  match cs.span isDecimal with
  | ([], _) => none
  | (digits, rest) => some (digits.foldl (fun n c => 10 * n + (c.toNat - 48)) 0, rest)

/-- Three numbers with dots between them, after an optional `v`. -/
def versionAt (cs : List Char) : Option (Nat × Nat × Nat) :=
  let cs := match cs with
    | 'v' :: rest => rest
    | _ => cs
  match takeNumber cs with
  | some (major, '.' :: cs) =>
    match takeNumber cs with
    | some (minor, '.' :: cs) => (takeNumber cs).map fun (patch, _) => (major, minor, patch)
    | _ => none
  | _ => none

/-- The first version that no digit stands before. -/
def findVersion : List Char → Option (Nat × Nat × Nat)
  | [] => none
  | c :: cs => (if isDecimal c then none else versionAt cs) <|> findVersion cs

def parseSemanticVersion (output : String) : Checked (Nat × Nat × Nat) := do
  let version ← require (versionAt output.toList <|> findVersion output.toList)
    (.text "could not determine Nebula semantic version")
  reject (maxInt64 < version.1 ∨ maxInt64 < version.2.1 ∨ maxInt64 < version.2.2)
    (.text "could not determine Nebula semantic version")
  pure version

def minimumNebulaVersion : String := "1.10.3"

def enforceMinimumNebulaVersion (output : String) : Checked Unit := do
  let (major, minor, patch) ← parseSemanticVersion output
  reject (major < 1 ∨ major = 1 ∧ (minor < 10 ∨ minor = 10 ∧ patch < 3))
    (.text ("Nebula " ++ toString major ++ "." ++ toString minor ++ "." ++ toString patch ++
      " is unsupported; version " ++ minimumNebulaVersion ++ " or newer is required"))

/-- The state that numbers the next heartbeat. -/
def State.beating (state : State) (bootID : Option String) : State :=
  { state with
    bootID := bootID.getD state.bootID
    heartbeatSequence := inc64 state.heartbeatSequence }

def Agent.heartbeatInput (a : Agent) (health : Health) (state : State) (current : Bundle) :
    HeartbeatInput where
  agentVersion := a.agentVersion
  nebulaVersion := health.nebulaVersion
  appliedConfigRevision := state.appliedConfigRevision
  appliedConfigSHA256 := state.appliedConfigSHA256
  certificateFingerprint := current.certificateFingerprint
  certificateGeneration := state.certificateGeneration
  nebulaRunning := health.nebulaRunning
  nativeDNSActive := health.nativeDNSActive
  status := if trimSpace health.status = "" then "healthy" else trimSpace health.status
  lastError := health.lastError
  bootID := state.bootID
  sequence := state.heartbeatSequence

def Agent.heartbeat (a : Agent) (health : Health) : Host Int := do
  a.ready
  check (enforceMinimumNebulaVersion health.nebulaVersion)
  let (state, current) ← loadReconciledState
  check (reject (health.certificateFingerprint ≠ "" ∧
      health.certificateFingerprint ≠ current.certificateFingerprint)
    (.text "reported certificate fingerprint does not match the verified live bundle"))
  let bootID : Option String ← ask .systemBootID
  wrapping "persist heartbeat sequence" (save (state.beating bootID))
  let client ← check (newClient (state.beating bootID).bearer)
  ask (.heartbeat client (a.heartbeatInput health (state.beating bootID) current))
  pure (state.beating bootID).heartbeatSequence

def Agent.reportConfigApplyFailure (a : Agent) (input : ConfigApplyFailureInput) : Host Unit := do
  a.ready
  let state ← load
  let client ← check (newClient state.bearer)
  ask (.reportConfigApplyFailure client input)

end NodeAgent
end Mesh
