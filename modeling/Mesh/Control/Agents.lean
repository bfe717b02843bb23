import Mesh.Control.Render
import Mesh.Control.Validate

/-!
# Mesh.Control.Agents

What an enrolled agent does with its bearer credential: it fetches the signed config, reports a
heartbeat, rotates the credential, and reports a failed activation. An administrator can reset a lost
credential with a recovery token, which the agent redeems in two transactions, a claim and a commit.

Random identifiers, bearers and clock readings are arguments. `Env` holds the functions of other
packages: unsealing a stored key, and the two readers of Nebula PEM texts.
-/

namespace Mesh

structure Env where
  /-- `SecretBox.Open`. -/
  openBox : String → Option (List Nat)
  /-- `SecretBox.OpenFor`: a purpose and a sealed text. -/
  openFor : String → String → Option (List Nat)
  canonicalNebulaPublicKeyPEM : String → Option String
  /-- The public key in a host certificate, as PEM text. -/
  certificatePublicKeyPEM : String → Option String

/-! ## Credentials in use -/

/-- Every retained secret hash counts as consumed. -/
def strictCredentialHashInUse (s : State) (hash : String) : Bool :=
  s.nodes.any (fun n => tokenHashEqual n.agentTokenHash hash ||
      tokenHashEqual n.previousAgentTokenHash hash) ||
    s.enrollments.any (fun e => tokenHashEqual e.tokenHash hash) ||
    s.agentRecoveries.any fun r => tokenHashEqual r.tokenHash hash ||
      r.result.any fun b => tokenHashEqual b.recoveryReceipt.newAgentTokenHash hash

/-- The first bearer of the generator's draws that is not in use, within the given number of tries. -/
def firstUnusedBearer (s : State) (exhausted : String) : Nat → List String → Result String
  | 0, _ => .error (internal exhausted)
  | _ + 1, [] => .error (internal "bearer generator is not configured")
  | tries + 1, token :: draws => do
    reject (¬ validBearerToken token) (internal "bearer generator returned an invalid token")
    if strictCredentialHashInUse s (hashToken token) then firstUnusedBearer s exhausted tries draws
    else pure token

def uniqueBearer (s : State) (draws : List String) : Result String :=
  firstUnusedBearer s "could not generate a unique bearer credential" 16 draws

def uniqueUnseenEnrollmentBearer (s : State) (draws : List String) : Result String :=
  firstUnusedBearer s "could not generate a globally unique enrollment bearer" 16 draws

def uniqueUnseenRecoveryBearer (s : State) (draws : List String) : Result String :=
  firstUnusedBearer s "could not generate a globally unique agent recovery bearer" 16 draws

def recordIDInUse (s : State) (id : String) : Bool :=
  s.enrollments.any (fun e => e.id == id) || s.agentRecoveries.any fun r => r.id == id

/-- The first drawn identifier that no enrollment and no recovery has. -/
def firstUnusedID (s : State) (exhausted : String) : Nat → List String → Result String
  | 0, _ | _ + 1, [] => .error (internal exhausted)
  | tries + 1, id :: draws =>
    if recordIDInUse s id then firstUnusedID s exhausted tries draws else pure id

def uniqueEnrollmentID (s : State) (draws : List String) : Result String :=
  firstUnusedID s "could not generate a unique enrollment record ID" 16 draws

def uniqueAgentRecoveryID (s : State) (draws : List String) : Result String :=
  firstUnusedID s "could not generate a unique agent recovery record ID" 16 draws

theorem firstUnusedBearer_spec {s : State} {exhausted token : String} :
    ∀ {tries : Nat} {draws : List String}, firstUnusedBearer s exhausted tries draws = .ok token →
      validBearerToken token = true ∧ strictCredentialHashInUse s (hashToken token) = false ∧
        token ∈ draws := by
  intro tries draws
  induction tries generalizing draws with
  | zero => simp [firstUnusedBearer]
  | succ tries ih =>
    cases draws with
    | nil => simp [firstUnusedBearer]
    | cons t draws =>
      simp only [firstUnusedBearer, bind_unit_eq_ok, reject_eq_ok]
      rintro ⟨hv, h⟩
      split at h
      · obtain ⟨h1, h2, h3⟩ := ih h
        exact ⟨h1, h2, List.mem_cons_of_mem _ h3⟩
      · rename_i hu
        rw [pure_eq_ok] at h
        subst h
        exact ⟨by simpa using hv, by simpa using hu, List.mem_cons_self⟩

/-- Whether the hash is the node's credential at the instant, and whether it is the current one. -/
def agentCredentialMatch (n : Node) (tokenHash : String) (now : Int) : Bool × Bool :=
  if (n.agentCredentialExpiresAt.any fun t => now < t) ∧ tokenHashEqual n.agentTokenHash tokenHash then
    (true, true)
  else if (n.previousAgentTokenExpiresAt.any fun t => now < t) ∧
      tokenHashEqual n.previousAgentTokenHash tokenHash then
    (true, false)
  else (false, false)

def authenticates (tokenHash : String) (now : Int) (n : Node) : Bool :=
  n.status == .active && (agentCredentialMatch n tokenHash now).1

/-- The node of a credential, if it is the only one. -/
def findAgent (s : State) (tokenHash : String) (now : Int) : Option Node :=
  match s.nodes.filter (authenticates tokenHash now) with
  | [n] => some n
  | _ => none

/-- The first node the loops of the transactions stop at. -/
def firstAgent (s : State) (tokenHash : String) (now : Int) : Option Node :=
  s.nodes.find? (authenticates tokenHash now)

theorem firstAgent_spec {s : State} {tokenHash : String} {now : Int} {n : Node}
    (h : firstAgent s tokenHash now = some n) :
    n ∈ s.nodes ∧ n.status = .active ∧ (agentCredentialMatch n tokenHash now).1 = true := by
  have hp := List.find?_some h
  simp only [authenticates, Bool.and_eq_true, beq_iff_eq] at hp
  exact ⟨List.mem_of_find?_eq_some h, hp.1, hp.2⟩

def preflightAgentCredential (s : State) (tokenHash : String) (now : Int) : Result Node :=
  require (findAgent s tokenHash now) errUnauthorized

/-! ## Signed configs -/

def configSigningPurpose : String := "config-signing-key-v1"

/-- What the server says about a node's config at the network's revision. -/
def signatureMetadata (w : Network) (n : Node) (issuedAt : Int) : ConfigSignatureMetadata where
  nodeID := n.id
  networkID := w.id
  revision := w.configRevision
  issuedAt := if w.configUpdatedAt ≠ 0 then w.configUpdatedAt else issuedAt
  caCertificateSHA256 := configDigest (networkTrustBundle w)
  previousCACertificateSHA256 := w.caRotation.previousTrustBundleSHA256
  caRotationRequired := networkCARotationRequired w n
  certificateProfileRenewalRequired := networkCertificateProfileRenewalRequired w n
  certificateFingerprint := n.certificateFingerprint
  certificateExpiresAt := n.certificateExpiresAt.getD 0
  certificateRenewAfter := n.certificateRenewAfter.getD 0
  certificateGeneration := n.certificateGeneration
  publicKeyHash := n.publicKeyHash

/-- `Service.signConfig`. -/
def signNodeConfig (env : Env) (w : Network) (n : Node) (config : String) (issuedAt : Int) :
    Result AgentConfig := do
  let privateKey ← require (env.openFor configSigningPurpose w.encryptedConfigSigningKey)
    (internal "open config signing key")
  let m := signatureMetadata w n issuedAt
  let (digest, signature) ← signConfig privateKey m config
  pure {
    nodeID := m.nodeID, networkID := m.networkID, revision := m.revision, config := config
    issuedAt := m.issuedAt, sha256 := digest, caCertificateSHA256 := m.caCertificateSHA256
    previousCACertificateSHA256 := m.previousCACertificateSHA256
    caRotationRequired := m.caRotationRequired
    certificateProfileRenewalRequired := m.certificateProfileRenewalRequired
    certificateFingerprint := m.certificateFingerprint
    certificateGeneration := m.certificateGeneration, publicKeyHash := m.publicKeyHash
    signature := signature, certificateExpiresAt := m.certificateExpiresAt
    certificateRenewAfter := m.certificateRenewAfter }

def enrollmentBundle (w : Network) (n : Node) (config : String) (signed : AgentConfig) :
    EnrollmentBundle where
  nodeID := signed.nodeID
  networkID := signed.networkID
  node := n
  certificate := n.certificate
  ca := networkTrustBundle w
  config := config
  configRevision := signed.revision
  certificateExpiresAt := signed.certificateExpiresAt
  certificateRenewAfter := signed.certificateRenewAfter
  agentCredentialExpiresAt := n.agentCredentialExpiresAt.getD 0
  agentCredentialGeneration := n.agentCredentialGeneration
  configIssuedAt := signed.issuedAt
  configSHA256 := signed.sha256
  caCertificateSHA256 := signed.caCertificateSHA256
  previousCACertificateSHA256 := signed.previousCACertificateSHA256
  caRotationRequired := signed.caRotationRequired
  certificateProfileRenewalRequired := signed.certificateProfileRenewalRequired
  certificateFingerprint := signed.certificateFingerprint
  certificateGeneration := signed.certificateGeneration
  publicKeyHash := signed.publicKeyHash
  configSignature := signed.signature
  configSigningPublicKey := w.configSigningPublicKey

def renewalBundle (w : Network) (n : Node) (config : String) (signed : AgentConfig) : RenewalBundle where
  nodeID := signed.nodeID
  networkID := signed.networkID
  ca := networkTrustBundle w
  certificate := n.certificate
  certificateExpiresAt := signed.certificateExpiresAt
  certificateRenewAfter := signed.certificateRenewAfter
  config := config
  configRevision := signed.revision
  configIssuedAt := signed.issuedAt
  configSHA256 := signed.sha256
  caCertificateSHA256 := signed.caCertificateSHA256
  previousCACertificateSHA256 := signed.previousCACertificateSHA256
  caRotationRequired := signed.caRotationRequired
  certificateProfileRenewalRequired := signed.certificateProfileRenewalRequired
  certificateFingerprint := signed.certificateFingerprint
  certificateGeneration := signed.certificateGeneration
  publicKeyHash := signed.publicKeyHash
  configSignature := signed.signature

/-- `AgentConfig`: what an agent fetches. -/
def agentConfig (env : Env) (token : String) (now : Int) (s : State) : Result AgentConfig := do
  let token := trimSpace token
  reject (¬ validBearerToken token) errUnauthorized
  let n ← preflightAgentCredential s (hashToken token) now
  let w ← require (findNetwork s n.networkID) errUnauthorized
  reject (n.certificateExpiresAt = none) errUnauthorized
  signNodeConfig env w n (renderConfig s w n) now

/-- `AgentBootstrap`: the config with the trust bundle and the certificate. -/
def agentBootstrap (env : Env) (token : String) (now : Int) (s : State) : Result EnrollmentBundle := do
  let token := trimSpace token
  reject (¬ validBearerToken token) errUnauthorized
  let n ← preflightAgentCredential s (hashToken token) now
  reject (n.certificateExpiresAt = none ∨ n.agentCredentialExpiresAt = none) errUnauthorized
  let w ← require (findNetwork s n.networkID) errUnauthorized
  let config := renderConfig s w n
  let signed ← signNodeConfig env w n config now
  pure (enrollmentBundle w n config signed)

/-! ## Firewall rollback -/

/-- Ends a canary rollout on evidence from one of its canaries; `n` is the node as already updated. -/
def autoRollbackFirewallRollout (eventID : String) (now : Int) (reasonCode : String)
    (evidence : AuditDetails) (s : State) (w : Network) (n : Node) : Result State := do
  reject (w.firewallRollout.phase ≠ .canary ∨ n.id ∉ w.firewallRollout.canaryNodeIDs)
    (conflict "node is not a selected firewall canary")
  let nextRevision ← nextConfigRevision w.configRevision true
  let event ← newAttributedAudit eventID now "network.firewall_rollout_auto_rolled_back" "network" w.id
    ([("previous_config_revision", .int w.configRevision), ("config_revision", .int nextRevision),
      ("failed_node_id", .str n.id), ("reason_code", .str reasonCode),
      ("canary_nodes", .int w.firewallRollout.canaryNodeIDs.length),
      ("retained_sha256", .str (firewallPolicySHA256 w.firewallPolicy)),
      ("discarded_sha256", .str (firewallPolicySHA256 w.firewallRollout.targetPolicy))] ++ evidence)
    { id := n.id, kind := actorKindNodeAgent }
  pure (addAudit (putNetwork s { w with
    firewallRollout := {}, configRevision := nextRevision, configUpdatedAt := now }) event)

structure ConfigApplyFailureInput where
  attemptedConfigRevision : Int
  attemptedConfigSHA256 : String
  failureCode : String

def configApplyFailureCodeActivation : String := "activation_failed"

def reportConfigApplyFailure (token : String) (input : ConfigApplyFailureInput) (eventID : String)
    (now : Int) (s : State) : Result State := do
  let token := trimSpace token
  let attempted := trimSpace input.attemptedConfigSHA256
  let failureCode := trimSpace input.failureCode
  reject (¬ validBearerToken token) errUnauthorized
  reject (input.attemptedConfigRevision < 1 ∨ ¬ fingerprintPattern attempted ∨
      failureCode ≠ configApplyFailureCodeActivation)
    (invalid "exact attempted revision, digest, and supported failure_code are required")
  reject (now = 0) (internal "config activation failure requires a valid timestamp")
  let tokenHash := hashToken token
  let _ ← preflightAgentCredential s tokenHash now
  let n ← require (firstAgent s tokenHash now) errUnauthorized
  let w ← require (findNetwork s n.networkID) (internal "authoritative node network is missing")
  reject (input.attemptedConfigRevision ≠ w.configRevision)
    (conflict "activation failure does not match the current rollout revision")
  reject (attempted ≠ configDigest (renderConfig s w n))
    (conflict "activation failure does not match the current signed canary artifact")
  autoRollbackFirewallRollout eventID now "canary_config_activation_failed"
    [("failed_config_revision", .int input.attemptedConfigRevision),
      ("failed_config_sha256", .str attempted), ("failure_code", .str failureCode)] s w n

/-! ## Heartbeats -/

structure HeartbeatInput where
  agentVersion : String
  nebulaVersion : String
  appliedConfigRevision : Int
  certificateGeneration : Int := 0
  appliedConfigSHA256 : String
  certificateFingerprint : String
  nebulaRunning : Bool
  nativeDNSActive : Bool := false
  status : String
  lastError : String := ""
  bootID : String
  sequence : Int

def HeartbeatInput.trimmed (input : HeartbeatInput) : HeartbeatInput :=
  { input with
    agentVersion := trimSpace input.agentVersion
    nebulaVersion := trimSpace input.nebulaVersion
    status := trimSpace input.status
    lastError := trimSpace input.lastError
    bootID := trimSpace input.bootID
    appliedConfigSHA256 := trimSpace input.appliedConfigSHA256
    certificateFingerprint := trimSpace input.certificateFingerprint }

def heartbeatStatus (text : String) : Result AgentStatus :=
  if text = "" ∨ text = "healthy" then .ok .healthy
  else if text = "degraded" then .ok .degraded
  else .error (invalid "status must be healthy or degraded")

def heartbeatMismatch : Failure := conflict "applied state does not match the desired signed configuration"

/-- The counters of a report against those of the node. -/
def checkHeartbeatCounters (input : HeartbeatInput) (w : Network) (n : Node) (now : Int) : Result Unit := do
  reject (w.configRevision < 1 ∨ n.certificateGeneration < 1 ∨ n.appliedConfigRevision < 0 ∨
      n.appliedCertificateGeneration < 0 ∨ n.heartbeatSequence < 0)
    (internal "authoritative node state is invalid")
  reject (w.configRevision < input.appliedConfigRevision ∨
      input.appliedConfigRevision < n.appliedConfigRevision)
    (invalid "applied config revision is not valid")
  reject (n.certificateGeneration < input.certificateGeneration ∨
      (0 < input.certificateGeneration ∧ input.certificateGeneration < n.appliedCertificateGeneration))
    (invalid "certificate generation is not valid")
  reject (input.sequence ≤ n.heartbeatSequence) (conflict "heartbeat sequence must increase")
  reject (1000000 < input.sequence - n.heartbeatSequence)
    (invalid "heartbeat sequence advanced too far")
  reject (n.lastSeenAt.any fun t => now - t < 5 * Calendar.second)
    ⟨.rateLimited, "rate limited: heartbeat interval is at least 5 seconds"⟩
  reject (0 < input.appliedConfigRevision ∧ ¬ fingerprintPattern input.appliedConfigSHA256)
    (invalid "applied config digest is invalid")
  reject (input.certificateFingerprint ≠ "" ∧ ¬ fingerprintPattern input.certificateFingerprint)
    (invalid "certificate fingerprint is invalid")

/-- The report says that a canary applied the target and Nebula stopped. -/
def canaryRuntimeStopped (input : HeartbeatInput) (status : AgentStatus) (w : Network) (n : Node) : Bool :=
  w.firewallRollout.phase == .canary && n.id ∈ w.firewallRollout.canaryNodeIDs &&
    input.certificateGeneration == n.certificateGeneration && status == .degraded

/-- A report of the current revision must be of the very config the server has for the node. The
result says whether it ends a rollout. -/
def checkAppliedState (input : HeartbeatInput) (status : AgentStatus) (s : State) (w : Network)
    (n : Node) : Result Bool := do
  if input.appliedConfigRevision ≠ w.configRevision then pure false
  else
    reject (input.appliedConfigSHA256 ≠ configDigest (renderConfig s w n) ∨
        input.certificateFingerprint ≠ n.certificateFingerprint ∨
        (0 < input.certificateGeneration ∧ input.certificateGeneration ≠ n.certificateGeneration) ∨
        input.nativeDNSActive ≠ (effectiveNetworkDNSSettings w.dnsSettings).nativeResolver)
      heartbeatMismatch
    if input.nebulaRunning then pure false
    else
      reject (¬ canaryRuntimeStopped input status w n) heartbeatMismatch
      pure true

/-- The node with the report stored. An agent without the generation field proves the current
generation with the fingerprint. -/
def reportedNode (input : HeartbeatInput) (status : AgentStatus) (now : Int) (current : Bool) (n : Node) :
    Node :=
  { n with
    agentVersion := input.agentVersion
    nebulaVersion := input.nebulaVersion
    appliedConfigRevision := input.appliedConfigRevision
    appliedCertificateGeneration :=
      if 0 < input.certificateGeneration then input.certificateGeneration
      else if input.certificateFingerprint = n.certificateFingerprint then n.certificateGeneration
      else n.appliedCertificateGeneration
    appliedConfigSHA256 := input.appliedConfigSHA256
    reportedCertificateFingerprint := input.certificateFingerprint
    nebulaRunning := input.nebulaRunning
    nativeDNSActive := input.nativeDNSActive
    agentStatus := status
    agentBootID := input.bootID
    heartbeatSequence := input.sequence
    lastError := input.lastError
    lastSeenAt := some now
    agentCredentialLastUsedAt := some now
    previousAgentTokenHash := if current then "" else n.previousAgentTokenHash
    previousAgentTokenExpiresAt := if current then none else n.previousAgentTokenExpiresAt }

def heartbeat (token : String) (report : HeartbeatInput) (eventID : String) (now : Int) (s : State) :
    Result State := do
  let token := trimSpace token
  let input := report.trimmed
  reject (¬ validBearerToken token ∨ ¬ validTelemetry input.agentVersion maxPersistedAgentVersionBytes ∨
      ¬ validTelemetry input.nebulaVersion maxPersistedNebulaVersionBytes ∨
      ¬ validTelemetry input.lastError maxPersistedLastErrorBytes ∨ ¬ namePattern input.bootID)
    errUnauthorized
  let tokenHash := hashToken token
  let _ ← preflightAgentCredential s tokenHash now
  let status ← heartbeatStatus input.status
  reject (input.appliedConfigRevision < 0 ∨ input.certificateGeneration < 0 ∨ input.sequence < 1 ∨
      maxPersistedHeartbeatSequence < input.sequence)
    (invalid "heartbeat counters are invalid")
  reject (input.appliedConfigRevision = 0 ∧ input.appliedConfigSHA256 ≠ "")
    (invalid "applied config digest requires an applied revision")
  let n ← require (firstAgent s tokenHash now) errUnauthorized
  let w ← require (findNetwork s n.networkID) (internal "authoritative node state is invalid")
  checkHeartbeatCounters input w n now
  let rollback ← checkAppliedState input status s w n
  let n' := reportedNode input status now (agentCredentialMatch n tokenHash now).2 n
  if rollback then
    autoRollbackFirewallRollout eventID now "canary_target_runtime_stopped"
      [("failed_config_revision", .int input.appliedConfigRevision),
        ("failed_config_sha256", .str input.appliedConfigSHA256),
        ("heartbeat_sequence", .int input.sequence), ("nebula_running", .bool false),
        ("agent_status", .str "degraded")] (putNode s n') w n'
  else pure (putNode s n')

/-! ## Credential rotation -/

def credentialGraceLifetime : Int := Calendar.hour

def rotateAgentCredential (token newTokenHash : String) (eventID : String) (now : Int) (s : State) :
    Result State := do
  let token := trimSpace token
  let newTokenHash := trimSpace newTokenHash
  reject (¬ validBearerToken token ∨ ¬ validTokenHash newTokenHash) errUnauthorized
  let tokenHash := hashToken token
  let _ ← preflightAgentCredential s tokenHash now
  let n ← require (firstAgent s tokenHash now) errUnauthorized
  let current := (agentCredentialMatch n tokenHash now).2
  if n.agentTokenHash = newTokenHash then
    -- a repeated request, also with the credential it replaced
    reject (n.agentCredentialGeneration < 1 ∨ ¬ (n.agentCredentialExpiresAt.any fun t => now < t))
      (internal "authoritative credential state is invalid")
    pure s
  else
    reject (¬ current) errUnauthorized
    reject (strictCredentialHashInUse s newTokenHash) (conflict "agent credential hash is already in use")
    reject (n.agentCredentialGeneration < 1 ∨ n.agentCredentialGeneration = maxInt64)
      (conflict "agent credential generation cannot advance")
    let n' := { n with
      previousAgentTokenHash := n.agentTokenHash
      previousAgentTokenExpiresAt := some (now + credentialGraceLifetime)
      agentTokenHash := newTokenHash
      agentCredentialExpiresAt := some (now + agentCredentialLifetime)
      agentCredentialGeneration := n.agentCredentialGeneration + 1
      agentCredentialLastUsedAt := some now }
    pure (addAudit (putNode s n') (newAudit eventID now "node.credential_rotated" "node" n.id
      [("generation", .int n'.agentCredentialGeneration)]))

/-! ## Recovery -/

def issueAgentRecovery (actor : Option Actor) (nodeID : String) (bearers ids : List String)
    (eventID : String) (now : Int) (s : State) : Result State := do
  let nodeID := trimSpace nodeID
  let n ← require (findNode s nodeID) errNotFound
  reject (n.status ≠ .active ∨ n.enrolledAt = none ∨ n.revokedAt ≠ none ∨ ¬ validTokenHash n.publicKeyHash)
    (conflict "agent recovery requires an active, non-revoked enrolled node")
  let token ← uniqueUnseenRecoveryBearer s bearers
  let recoveryID ← uniqueAgentRecoveryID s ids
  let expiresAt := now + agentRecoveryLifetime
  let unused (r : AgentRecoveryToken) : Bool := r.nodeID = nodeID && r.usedAt = none
  let event ← newOptionalAttributedAudit eventID now "node.agent_recovery_issued" "node" nodeID
    [("expires_at", .time expiresAt),
      ("invalidated_tokens", .int (s.agentRecoveries.countP unused)),
      ("retained_used_results",
        .int (s.agentRecoveries.countP fun r => r.nodeID = nodeID && r.usedAt ≠ none))] actor
  pure (addAudit { s with
    agentRecoveries := (s.agentRecoveries.filter fun r => ¬ unused r) ++
      [{ id := recoveryID, nodeID := nodeID, tokenHash := hashToken token, createdAt := now,
         expiresAt := expiresAt }] } event)

/-- How long a claim keeps others out. -/
def claimLifetime : Int := 5 * Calendar.minute

/-- The binding of a request: its key and the credential it asks for. -/
def requestHash (publicKey agentTokenHash : String) : String := hashToken (publicKey ++ "\x00" ++ agentTokenHash)

/-- A request to recover, with its texts in canonical form. -/
structure RecoverRequest where
  token : String
  publicKey : String
  newAgentTokenHash : String

def recoverRequest (env : Env) (token publicKey newAgentTokenHash : String) : Result RecoverRequest := do
  let token := trimSpace token
  let newAgentTokenHash := trimSpace newAgentTokenHash
  reject (¬ validBearerToken token ∨ ¬ validTokenHash newAgentTokenHash) errUnauthorized
  let publicKey ← require (env.canonicalNebulaPublicKeyPEM publicKey) errUnauthorized
  pure ⟨token, publicKey, newAgentTokenHash⟩

/-- The node can be recovered with this key. -/
def recoverableNode (publicKeyHash : String) (n : Node) : Bool :=
  n.status == .active && n.enrolledAt.isSome && n.revokedAt.isNone &&
    tokenHashEqual n.publicKeyHash publicKeyHash

/-- A used token may replay its request after it expired; an unused one expires strictly. -/
def recoveryTokenLive (now : Int) (r : AgentRecoveryToken) : Bool := r.usedAt.isSome || now < r.expiresAt

/-- The record a token is for. -/
def recoveryOfToken (s : State) (token : String) (now : Int) : Option AgentRecoveryToken :=
  s.agentRecoveries.find? fun r => tokenEqual r.tokenHash token && recoveryTokenLive now r

/-- What a claim leads to: the stored answer of a used token, or a claim of the record. -/
inductive RecoverClaim where
  | replay (bundle : AgentRecoveryBundle)
  | claimed (recovery : AgentRecoveryToken)

def recoverClaim (request : RecoverRequest) (claimID : String) (now : Int) (s : State) :
    Result (State × RecoverClaim) := do
  let publicKeyHash := hashToken request.publicKey
  let binding := requestHash request.publicKey request.newAgentTokenHash
  let r ← require (recoveryOfToken s request.token now) errUnauthorized
  let n ← require ((findNode s r.nodeID).filter fun n => recoverableNode publicKeyHash n) errUnauthorized
  if r.usedAt.isSome then
    let b ← require r.result errUnauthorized
    reject (¬ tokenHashEqual r.claimKeyHash binding ∨
        r.credentialGeneration ≠ n.agentCredentialGeneration ∨ r.credentialExpiresAt = none ∨
        n.agentCredentialExpiresAt ≠ r.credentialExpiresAt ∨
        ¬ tokenHashEqual n.agentTokenHash request.newAgentTokenHash) errUnauthorized
    pure (s, .replay b)
  else
    reject (strictCredentialHashInUse s request.newAgentTokenHash)
      (conflict "agent credential hash is already in use")
    reject (r.claimedAt.any fun t => now - t < claimLifetime) errUnauthorized
    let r' := { r with
      claimID := claimID, claimedAt := some now, claimKeyHash := binding
      claimedCredentialGeneration := n.agentCredentialGeneration }
    pure (putRecovery s r', .claimed r')

/-- The node with the credential of a recovery: every earlier one is gone at once. -/
def recoveredNode (newAgentTokenHash : String) (now : Int) (n : Node) : Node :=
  { n with
    agentTokenHash := newAgentTokenHash
    previousAgentTokenHash := ""
    previousAgentTokenExpiresAt := none
    agentCredentialExpiresAt := some (now + agentCredentialLifetime)
    agentCredentialGeneration := n.agentCredentialGeneration + 1
    agentCredentialLastUsedAt := some now }

/-- The bundle and the receipt of a recovery, both signed. -/
def recoveryBundle (env : Env) (newAgentTokenHash : String) (now : Int) (s : State) (w : Network) (n : Node) :
    Result AgentRecoveryBundle := do
  let config := renderConfig s w n
  let signed ← signNodeConfig env w n config now
  let bundle := enrollmentBundle w n config signed
  let receipt : RecoveryReceipt := {
    nodeID := n.id, networkID := n.networkID, newAgentTokenHash := newAgentTokenHash
    agentCredentialGeneration := n.agentCredentialGeneration
    agentCredentialExpiresAt := now + agentCredentialLifetime
    configSHA256 := bundle.configSHA256, configSignature := bundle.configSignature }
  let privateKey ← require (env.openFor configSigningPurpose w.encryptedConfigSigningKey)
    (internal "open config signing key")
  let signature ← signRecoveryReceipt privateKey receipt
  pure { bundle with recoveryReceipt := { receipt with signature := signature } }

def recoverCommit (env : Env) (request : RecoverRequest) (recoveryID claimID : String) (eventID : String)
    (now : Int) (s : State) : Result (State × AgentRecoveryBundle) := do
  let r ← require (Keyed.lookup AgentRecoveryToken.id recoveryID s.agentRecoveries) errUnauthorized
  reject (r.usedAt ≠ none ∨ ¬ now < r.expiresAt ∨ r.claimID ≠ claimID ∨
      ¬ tokenHashEqual r.claimKeyHash (requestHash request.publicKey request.newAgentTokenHash))
    errUnauthorized
  let n ← require ((findNode s r.nodeID).filter fun n => recoverableNode (hashToken request.publicKey) n)
    errUnauthorized
  reject (n.agentCredentialGeneration ≠ r.claimedCredentialGeneration) errUnauthorized
  reject (strictCredentialHashInUse s request.newAgentTokenHash)
    (conflict "agent credential hash is already in use")
  reject (n.agentCredentialGeneration < 1 ∨ n.agentCredentialGeneration = maxInt64)
    (conflict "agent credential generation cannot advance")
  let n' := recoveredNode request.newAgentTokenHash now n
  let s' := putNode s n'
  let w ← require (findNetwork s' n'.networkID) errUnauthorized
  let bundle ← recoveryBundle env request.newAgentTokenHash now s' w n'
  let r' := { r with
    usedAt := some now, credentialGeneration := n'.agentCredentialGeneration
    credentialExpiresAt := n'.agentCredentialExpiresAt, result := some bundle }
  pure (addAudit { s' with
    agentRecoveries := (Keyed.put AgentRecoveryToken.id r' s'.agentRecoveries).filter fun c =>
      c.nodeID ≠ n.id ∨ c.id = r.id } (newAudit eventID now "node.agent_recovered" "node" n.id
        [("credential_generation", .int n'.agentCredentialGeneration), ("recovery_id", .str r.id)]),
    bundle)

/-- A failed attempt gives its claim back. -/
def releaseAgentRecoveryClaim (recoveryID claimID : String) (s : State) : State :=
  { s with agentRecoveries := s.agentRecoveries.map fun r =>
      if r.id = recoveryID ∧ r.usedAt = none ∧ r.claimID = claimID then
        { r with claimID := "", claimedAt := none, claimKeyHash := "", claimedCredentialGeneration := 0 }
      else r }

end Mesh
