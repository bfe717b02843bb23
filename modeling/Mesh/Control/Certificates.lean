import Mesh.Control.Nodes

/-!
# Mesh.Control.Certificates

Host certificates are issued in three moves. A first transaction (or a read) checks the request,
marks it and copies what signing needs; the issuer then signs outside any transaction; a last
transaction checks that its mark still stands and stores the certificate. Between the moves any other
operation may run, so a request carries its copies with it: they are the `…Flight` structures below.

Enrollment turns a pending node into an active one, renewal is asked for by the node's agent, and an
administrator can replace a certificate at once or with other groups.
-/

namespace Mesh

open Address

/-- What the issuer returned for a signing request. -/
structure SignedCertificate where
  certificate : String
  fingerprint : String
  expiresAt : Int
deriving DecidableEq

/-- What the issuer is asked to sign. -/
structure SigningRequest where
  caCertificate : String
  publicKey : String
  name : String
  address : String
  groups : List String
  routedSubnets : List String
  ttl : Int
deriving DecidableEq

def prefixLength (cidr : String) : String := toString (((parseCIDR4 cidr).map fun c => c.2.bits).getD 0)

def signingRequest (w : Network) (n : Node) (publicKey : String) (groups routedSubnets : List String) :
    SigningRequest where
  caCertificate := (networkSigningAuthority w).1
  publicKey := publicKey
  name := n.name
  address := n.ip ++ "/" ++ prefixLength w.cidr
  groups := groups
  routedSubnets := routedSubnets
  ttl := w.certificateTTL * Calendar.hour

/-- How long before its expiry a certificate is renewed: a third of its lifetime, at least an hour and
at most thirty days. -/
def renewalWindow (ttl : Int) : Int :=
  let window := ttl / 3
  if window < Calendar.hour then Calendar.hour
  else if 30 * 24 * Calendar.hour < window then 30 * 24 * Calendar.hour
  else window

def networkRenewalWindow (w : Network) : Int := renewalWindow (w.certificateTTL * Calendar.hour)

/-- The node with a new certificate in place of its last one. -/
def withCertificate (s : State) (ca : String) (c : SignedCertificate) (renewAfter : Int) (n : Node) : Node :=
  { n with
    certificate := c.certificate
    certificateFingerprint := c.fingerprint
    certificateAuthoritySHA256 :=
      if controlStateVersionCARotation ≤ s.version then configDigest ca else n.certificateAuthoritySHA256
    certificateExpiresAt := some c.expiresAt
    certificateRenewAfter := some renewAfter }

def issuanceOf (n : Node) (c : SignedCertificate) (now : Int) : CertificateIssuance where
  fingerprint := c.fingerprint
  nodeID := n.id
  networkID := n.networkID
  issuedAt := now
  expiresAt := c.expiresAt

/-- `state.Issuances = append(state.Issuances, …)`. -/
def addIssuance (s : State) (i : CertificateIssuance) : State := { s with issuances := s.issuances ++ [i] }

/-! ## Enrollment -/

/-- A request to enroll, with its texts in canonical form. -/
structure EnrollRequest where
  token : String
  publicKey : String
  agentTokenHash : String
deriving DecidableEq

def enrollRequest (env : Env) (token publicKey agentTokenHash : String) : Result EnrollRequest := do
  let token := trimSpace token
  let agentTokenHash := trimSpace agentTokenHash
  reject (¬ validBearerToken token ∨ ¬ validTokenHash agentTokenHash) errUnauthorized
  let publicKey ← require (env.canonicalNebulaPublicKeyPEM publicKey) errUnauthorized
  pure ⟨token, publicKey, agentTokenHash⟩

def EnrollRequest.binding (request : EnrollRequest) : String :=
  requestHash request.publicKey request.agentTokenHash

/-- An attempt that has claimed its enrollment record and goes on to sign. -/
structure EnrollFlight where
  request : EnrollRequest
  claimID : String
  enrollmentID : String
  node : Node
  network : Network

def EnrollFlight.signing (f : EnrollFlight) : SigningRequest :=
  signingRequest f.network f.node f.request.publicKey f.node.groups f.node.routedSubnets

inductive EnrollClaim where
  | replay (bundle : EnrollmentBundle)
  | claimed (flight : EnrollFlight)

/-- The record a token is for. A read before the transaction looks for the same record, so it refuses
nothing that the transaction accepts. -/
def enrollmentOfToken (s : State) (token : String) (now : Int) : Option EnrollmentToken :=
  s.enrollments.find? fun e => now < e.expiresAt && tokenEqual e.tokenHash token

/-- The answer to a request that was committed before. -/
def replayEnrollment (env : Env) (request : EnrollRequest) (now : Int) (s : State) (e : EnrollmentToken) :
    Result EnrollmentBundle := do
  reject (e.claimKeyHash ≠ request.binding) errUnauthorized
  let n ← require ((findNode s e.nodeID).filter fun n =>
    n.status = .active ∧ n.agentTokenHash = request.agentTokenHash) errUnauthorized
  let w ← require (findNetwork s n.networkID) errUnauthorized
  let config := renderConfig s w n
  let signed ← signNodeConfig env w n config now
  pure (enrollmentBundle w n config signed)

def enrollClaim (env : Env) (request : EnrollRequest) (claimID : String) (now : Int) (s : State) :
    Result (State × EnrollClaim) := do
  let e ← require (enrollmentOfToken s request.token now) errUnauthorized
  if e.usedAt.isSome then
    let bundle ← replayEnrollment env request now s e
    pure (s, .replay bundle)
  else
    reject (strictCredentialHashInUse s request.agentTokenHash) errUnauthorized
    reject (e.claimedAt.any fun t => now - t < claimLifetime) errUnauthorized
    let n ← require ((findNode s e.nodeID).filter fun n => n.status = .pending) errUnauthorized
    let w ← require (findNetwork s n.networkID) errUnauthorized
    pure (putEnrollment s { e with
        claimID := claimID, claimedAt := some now, claimKeyHash := request.binding },
      .claimed { request := request, claimID := claimID, enrollmentID := e.id, node := n, network := w })

/-- The checks of the issuer's answer, before the last transaction. -/
def checkIssued (c : SignedCertificate) (now : Int) : Result Unit := do
  reject (¬ fingerprintPattern c.fingerprint ∨ c.expiresAt = 0)
    (internal "certificate issuer returned invalid certificate metadata")
  reject (¬ now < c.expiresAt) (internal "certificate issuer returned an expired certificate")

def checkRenewAfter (renewAfter now expiresAt : Int) : Result Unit :=
  reject (renewAfter = 0 ∨ ¬ now < renewAfter ∨ ¬ renewAfter < expiresAt)
    (internal "certificate issuer returned invalid renewal metadata")

/-- The node as its enrollment makes it. -/
def enrolledNode (s : State) (request : EnrollRequest) (ca : String) (c : SignedCertificate)
    (renewAfter now : Int) (n : Node) : Node :=
  { withCertificate s ca c renewAfter n with
    status := .active
    certificateGeneration := 1
    agentTokenHash := request.agentTokenHash
    agentCredentialExpiresAt := some (now + agentCredentialLifetime)
    agentCredentialGeneration := 1
    publicKeyHash := hashToken request.publicKey
    enrolledAt := some now }

/-- The network after an enrollment: its configs change with a lighthouse or with routes. -/
def enrolledNetwork (s : State) (n : Node) (now : Int) (w : Network) : Network :=
  let w := if n.role = .lighthouse ∨ n.routedSubnets ≠ [] then
      { w with configRevision := inc64 w.configRevision, configUpdatedAt := now }
    else w
  reconcileNetworkRoutePolicies s w

def enrollCommit (env : Env) (f : EnrollFlight) (c : SignedCertificate) (eventID : String) (now : Int)
    (s : State) : Result (State × EnrollmentBundle) := do
  let ca := (networkSigningAuthority f.network).1
  let _ ← require (env.openBox (networkSigningAuthority f.network).2) (internal "open CA key")
  checkIssued c now
  let renewAfter := c.expiresAt - networkRenewalWindow f.network
  checkRenewAfter renewAfter now c.expiresAt
  let latest ← require (findNetwork s f.network.id) errUnauthorized
  reject ((networkSigningAuthority latest).1 ≠ ca)
    (conflict "network CA lifecycle changed during enrollment")
  reject (strictCredentialHashInUse s f.request.agentTokenHash) errUnauthorized
  let e ← require (Keyed.lookup EnrollmentToken.id f.enrollmentID s.enrollments) errUnauthorized
  reject (e.usedAt ≠ none ∨ e.claimID ≠ f.claimID ∨ e.claimKeyHash ≠ f.request.binding) errUnauthorized
  let n ← require ((findNode s f.node.id).filter fun n => n.status = .pending) errUnauthorized
  let n' := enrolledNode s f.request ca c renewAfter now n
  let s₁ := addIssuance (putNode (putEnrollment s { e with usedAt := some now }) n')
    (issuanceOf n' c now)
  let w := enrolledNetwork s₁ n' now latest
  let s₂ := putNetwork s₁ w
  let config := renderConfig s₂ w n'
  let signed ← signNodeConfig env w n' config now
  pure (addAudit s₂ (newAudit eventID now "node.enrolled" "node" n'.id []),
    enrollmentBundle w n' config signed)

/-- A failed attempt gives its claim back. -/
def releaseEnrollmentClaim (enrollmentID claimID : String) (s : State) : State :=
  { s with enrollments := s.enrollments.map fun e =>
      if e.id = enrollmentID ∧ e.usedAt = none ∧ e.claimID = claimID then
        { e with claimID := "", claimedAt := none, claimKeyHash := "" }
      else e }

/-! ## Renewal -/

/-- A renewal that has marked its node and goes on to sign. -/
structure RenewFlight where
  tokenHash : String
  publicKey : String
  claimID : String
  node : Node
  network : Network

def RenewFlight.signing (f : RenewFlight) : SigningRequest :=
  signingRequest f.network f.node f.publicKey f.node.groups (certificateRoutedSubnets f.network f.node)

inductive RenewClaim where
  | replay (bundle : RenewalBundle)
  | claimed (flight : RenewFlight)

/-- A repeated request within this time is answered with the last certificate. -/
def renewalReplayWindow : Int := 10 * Calendar.minute

def renewClaim (env : Env) (token publicKey claimID : String) (now : Int) (s : State) :
    Result (State × RenewClaim) := do
  let token := trimSpace token
  reject (¬ validBearerToken token) errUnauthorized
  let publicKey ← require (env.canonicalNebulaPublicKeyPEM publicKey) errUnauthorized
  let tokenHash := hashToken token
  let seen ← preflightAgentCredential s tokenHash now
  reject (¬ tokenEqual seen.publicKeyHash publicKey) errUnauthorized
  let n ← require (firstAgent s tokenHash now) errUnauthorized
  reject (¬ tokenEqual n.publicKeyHash publicKey) errUnauthorized
  let w ← require (findNetwork s n.networkID) errUnauthorized
  let demanded : Bool := networkCARotationRequired w n || networkCertificateProfileRenewalRequired w n
  if (n.lastRenewedAt.any fun t => now - t < renewalReplayWindow) ∧ ¬ demanded then
    let config := renderConfig s w n
    let signed ← signNodeConfig env w n config now
    pure (s, .replay (renewalBundle w n config signed))
  else
    let err := conflict "certificate is not yet eligible for renewal"
    reject (n.certificateExpiresAt = none) err
    let renewAfter ← require n.certificateRenewAfter err
    reject (now < renewAfter ∧ ¬ demanded) err
    reject (n.certificateGeneration < 1 ∨ n.certificateGeneration = maxInt64)
      (conflict "certificate generation cannot advance")
    reject (n.renewalClaimedAt.any fun t => now - t < claimLifetime) errUnauthorized
    let n' := { n with renewalClaimID := claimID, renewalClaimedAt := some now }
    pure (putNode s n', .claimed {
      tokenHash := tokenHash, publicKey := publicKey, claimID := claimID, node := n', network := w })

/-- The node as its renewal makes it. -/
def renewedNode (s : State) (ca : String) (c : SignedCertificate) (renewAfter now : Int) (n : Node) : Node :=
  { withCertificate s ca c renewAfter n with
    certificateGeneration := inc64 n.certificateGeneration
    lastRenewedAt := some now
    renewalClaimID := ""
    renewalClaimedAt := none }

/-- The transaction checks the signing CA, the mark and the credential again. -/
def renewCommit (env : Env) (f : RenewFlight) (c : SignedCertificate) (eventID : String) (now : Int)
    (s : State) : Result (State × RenewalBundle) := do
  let ca := (networkSigningAuthority f.network).1
  let _ ← require (env.openBox (networkSigningAuthority f.network).2) (internal "open CA key")
  checkIssued c now
  let latest ← require (findNetwork s f.node.networkID) errUnauthorized
  reject ((networkSigningAuthority latest).1 ≠ ca)
    (conflict "network CA lifecycle changed during certificate renewal")
  let renewAfter := c.expiresAt - networkRenewalWindow latest
  checkRenewAfter renewAfter now c.expiresAt
  let n ← require (findNode s f.node.id) errUnauthorized
  reject (n.status ≠ .active ∨ n.renewalClaimID ≠ f.claimID ∨
    ¬ (agentCredentialMatch n f.tokenHash now).1) errUnauthorized
  let n' := renewedNode s ca c renewAfter now n
  reject (n'.certificateGeneration ≤ n.certificateGeneration)
    (internal "authoritative certificate generation did not advance")
  let s' := addIssuance (putNode s n') (issuanceOf n' c now)
  let config := renderConfig s' latest n'
  let signed ← signNodeConfig env latest n' config now
  pure (addAudit s' (newAudit eventID now "node.certificate_renewed" "node" n'.id
      [("fingerprint", .str c.fingerprint), ("config_revision", .int latest.configRevision),
        ("certificate_generation", .int n'.certificateGeneration)]),
    renewalBundle latest n' config signed)

/-- A failed renewal gives its mark back. -/
def releaseRenewalClaim (nodeID claimID : String) (s : State) : State :=
  { s with nodes := s.nodes.map fun n =>
      if n.id = nodeID ∧ n.renewalClaimID = claimID then
        { n with renewalClaimID := "", renewalClaimedAt := none }
      else n }

/-! ## Replacement by an administrator -/

/-- The certificate of the node is complete and no renewal of it is under way. -/
def validateActiveCertificateRotationSource (n : Node) (now : Int) : Result Unit := do
  reject (n.certificate = "" ∨ ¬ fingerprintPattern n.certificateFingerprint ∨
      n.certificateExpiresAt = none ∨ n.certificateRenewAfter = none ∨ n.certificateGeneration < 1 ∨
      ¬ validTokenHash n.publicKeyHash)
    (conflict "active node is missing complete certificate metadata")
  reject (n.renewalClaimID ≠ "" ∧ ¬ (n.renewalClaimedAt.any fun t => t ≤ now && claimLifetime ≤ now - t))
    (conflict "node certificate renewal is already in progress")

def publicKeyFromNodeCertificate (env : Env) (n : Node) : Result String := do
  let pem ← require (env.certificatePublicKeyPEM n.certificate)
    (conflict "active node certificate cannot be parsed")
  let err := conflict "active node certificate public key does not match its pinned identity"
  let publicKey ← require (env.canonicalNebulaPublicKeyPEM pem) err
  reject (¬ tokenHashEqual n.publicKeyHash (hashToken publicKey)) err
  pure publicKey

/-- Something is changing in the network that a replacement must not cross. -/
def replacementUnavailable (w : Network) (n : Node) : Bool :=
  w.caRotation.phase != .stable || w.firewallRollout.phase != .stable ||
    routeTransferIncludesNode w.routeTransfer n.id || routeProfileEditIncludesNode w.routeProfileEdit n.id

/-- Network and node as they were read before signing. -/
structure Snapshot where
  node : Node
  network : Network

/-- The read before signing. The texts are those of the request that asks. -/
def replacementSnapshot (inactive unavailable : String) (nodeID confirmationName : String)
    (expectedRevision now : Int) (extra : Node → Result Unit) (s : State) : Result Snapshot := do
  let n ← require (findNode s nodeID) errNotFound
  reject (n.status ≠ .active ∨ n.enrolledAt = none ∨ n.revokedAt ≠ none) (conflict inactive)
  reject (n.name ≠ confirmationName)
    (conflict "confirmation name does not exactly match the active node")
  extra n
  let w ← require (findNetwork s n.networkID) errNotFound
  reject (w.configRevision ≠ expectedRevision) (revisionConflict expectedRevision w.configRevision)
  reject (replacementUnavailable w n) (conflict unavailable)
  validateActiveCertificateRotationSource n now
  pure ⟨n, w⟩

/-- The issuer's answer to a replacement. -/
def checkReplacement (invalidText : String) (w : Network) (c : SignedCertificate) (now : Int) : Result Int := do
  reject (trimSpace c.certificate = "" ∨ ¬ fingerprintPattern c.fingerprint ∨ ¬ now < c.expiresAt)
    (internal invalidText)
  let renewAfter := c.expiresAt - networkRenewalWindow w
  checkRenewAfter renewAfter now c.expiresAt
  pure renewAfter

/-- The certificate of the node is the one that was read. -/
def sameCertificateLifecycle (a b : Node) : Bool :=
  a.certificate == b.certificate && a.certificateFingerprint == b.certificateFingerprint &&
    a.certificateGeneration == b.certificateGeneration && a.publicKeyHash == b.publicKeyHash &&
    a.certificateExpiresAt == b.certificateExpiresAt &&
    a.certificateRenewAfter == b.certificateRenewAfter && a.renewalClaimID == b.renewalClaimID &&
    a.renewalClaimedAt == b.renewalClaimedAt

/-- `appendRevocation`: once for each fingerprint. -/
def appendRevocation (s : State) (nodeID fingerprint reason : String) (now : Int) (expiresAt : Option Int) :
    State :=
  if fingerprint = "" ∨ (s.revocations.any fun r => r.fingerprint = fingerprint) then s
  else
    { s with revocations := s.revocations ++ [{
        fingerprint := fingerprint, nodeID := nodeID
        networkID := ((findNode s nodeID).map Node.networkID).getD "", reason := reason
        revokedAt := now, expiresAt := expiresAt }] }

/-- The checks of the last transaction: network and node stand as they were read. -/
def replacementCurrent (operation : String) (snapshot : Snapshot) (confirmationName : String)
    (expectedRevision : Int) (s : State) : Result (Node × Network) := do
  let n ← require (findNode s snapshot.node.id) errNotFound
  reject (n.status ≠ .active ∨ n.enrolledAt = none ∨ n.revokedAt ≠ none ∨ n.name ≠ confirmationName)
    (conflict ("active node lifecycle changed during " ++ operation))
  let w ← require (findNetwork s n.networkID) errNotFound
  reject (w.configRevision ≠ expectedRevision ∨ replacementUnavailable w n ∨
      networkSigningAuthority w ≠ networkSigningAuthority snapshot.network ∨
      w.configSigningPublicKey ≠ snapshot.network.configSigningPublicKey ∨
      w.encryptedConfigSigningKey ≠ snapshot.network.encryptedConfigSigningKey)
    (conflict ("network lifecycle changed during " ++ operation))
  pure (n, w)

/-- The state with the replacement stored: the old certificate is revoked, recoveries of the node are
gone, and the network has a new revision. -/
def replaceCertificate (s : State) (reason : String) (w : Network) (n : Node) (groups : List String)
    (c : SignedCertificate) (renewAfter now nextRevision : Int) : State :=
  let ca := (networkSigningAuthority w).1
  let s₁ := { s with agentRecoveries := s.agentRecoveries.filter fun r => r.nodeID ≠ n.id }
  let s₂ := appendRevocation s₁ n.id n.certificateFingerprint reason now n.certificateExpiresAt
  let n' := { renewedNode s ca c renewAfter now n with groups := groups }
  let s₃ := putNetwork (putNode s₂ n') { w with configRevision := nextRevision, configUpdatedAt := now }
  addIssuance s₃ (issuanceOf n' c now)

/-- A replacement that was read and goes on to sign. -/
structure RotateFlight where
  nodeID : String
  input : RotateNodeCertificateInput
  operationAt : Int
  snapshot : Snapshot
  publicKey : String

def RotateFlight.signing (f : RotateFlight) : SigningRequest :=
  signingRequest f.snapshot.network f.snapshot.node f.publicKey f.snapshot.node.groups
    f.snapshot.node.routedSubnets

def receiptInputError : Failure :=
  invalid ("node ID, expected_config_revision, exact confirmation_name, and a 16-128 character " ++
    "request_id are required")

/-- `none` when the request was committed before. -/
def rotateStart (env : Env) (nodeID : String) (input : RotateNodeCertificateInput) (now : Int) (s : State) :
    Result (Option RotateFlight) := do
  let nodeID := trimSpace nodeID
  reject (¬ validPersistedID nodeID ∨ input.expectedConfigRevision < 1 ∨
    ¬ namePattern input.confirmationName ∨ ¬ validReceiptRequestID input.requestID) receiptInputError
  reject (now = 0) (invalid "certificate rotation requires a valid timestamp")
  let replay ← findCertificateRotationReplay s nodeID input
  if replay.isSome then pure none
  else
    let snapshot ← replacementSnapshot
      "immediate certificate rotation requires an active enrolled node"
      "certificate rotation is unavailable during a CA, firewall, or participating route-transfer lifecycle"
      nodeID input.confirmationName input.expectedConfigRevision now (fun _ => .ok ()) s
    let publicKey ← publicKeyFromNodeCertificate env snapshot.node
    let _ ← require (env.openBox (networkSigningAuthority snapshot.network).2) (internal "open CA key")
    pure (some { nodeID := nodeID, input := input, operationAt := now, snapshot := snapshot,
                 publicKey := publicKey })

def indistinctCertificate : Failure :=
  conflict "replacement certificate was not distinct; retry the same request_id"

/-- `none` when the request was committed since it was read. -/
def rotateCommit (actor : Option Actor) (f : RotateFlight) (c : SignedCertificate) (eventID : String)
    (s : State) : Result (Option State) := do
  let now := f.operationAt
  let old := f.snapshot.node
  -- the issuer was asked once more if its first answer repeated the fingerprint
  reject (c.fingerprint = old.certificateFingerprint) indistinctCertificate
  let renewAfter ← checkReplacement "certificate issuer returned invalid rotation metadata"
    f.snapshot.network c now
  let replay ← findCertificateRotationReplay s f.nodeID f.input
  if replay.isSome then pure none
  else
    let (n, w) ← replacementCurrent "certificate rotation" f.snapshot f.input.confirmationName
      f.input.expectedConfigRevision s
    reject (¬ sameCertificateLifecycle n old)
      (conflict "node certificate lifecycle changed during certificate rotation")
    reject (s.revocations.any fun r => r.fingerprint = old.certificateFingerprint)
      (conflict "active certificate is already blocklisted")
    let nextRevision ← nextConfigRevision w.configRevision true
    -- the source compares the incremented generation with a sum that wraps like it: no request fails
    let s' := replaceCertificate s "certificate rotated by administrator" w n n.groups c renewAfter now
      nextRevision
    let receipt : RotatedNodeCertificate := {
      requestID := f.input.requestID, nodeID := n.id, networkID := n.networkID, name := n.name
      ip := n.ip, role := n.role, rotatedAt := now
      previousCertificateExpiresAt := old.certificateExpiresAt.getD 0
      certificateExpiresAt := c.expiresAt, certificateRenewAfter := renewAfter
      previousCertificateGeneration := n.certificateGeneration
      certificateGeneration := inc64 n.certificateGeneration
      agentRecoveryRecordsInvalidated := s.agentRecoveries.countP fun r => r.nodeID = n.id
      certificateIssuancesAdded := 1, blocklistEntriesAdded := 1
      previousCertificateBlocklisted := true, configRevision := nextRevision }
    let event ← newOptionalAttributedAudit eventID now nodeCertificateRotatedAuditAction "node" n.id
      (certificateRotationAuditDetails receipt f.input.expectedConfigRevision) actor
    pure (some (addAudit s' event))

structure GroupsFlight where
  nodeID : String
  input : UpdateNodeGroupsInput
  groups : List String
  operationAt : Int
  snapshot : Snapshot
  publicKey : String

def GroupsFlight.signing (f : GroupsFlight) : SigningRequest :=
  signingRequest f.snapshot.network f.snapshot.node f.publicKey f.groups f.snapshot.node.routedSubnets

def groupsStart (env : Env) (nodeID : String) (input : UpdateNodeGroupsInput) (now : Int) (s : State) :
    Result (Option GroupsFlight) := do
  let nodeID := trimSpace nodeID
  let groups ← canonicalNodeMembershipGroups input.groups
  reject (¬ validPersistedID nodeID ∨ input.expectedConfigRevision < 1 ∨
    ¬ namePattern input.confirmationName ∨ ¬ validReceiptRequestID input.requestID) receiptInputError
  reject (now = 0) (invalid "group update requires a valid timestamp")
  let replay ← findNodeGroupsReplay s nodeID input groups
  if replay.isSome then pure none
  else
    let snapshot ← replacementSnapshot
      "group membership can only be changed for an active enrolled node"
      "group membership is unavailable during a CA, firewall, or participating route lifecycle"
      nodeID input.confirmationName input.expectedConfigRevision now
      (fun n => reject (n.groups = groups)
        (conflict "requested groups already match the node certificate")) s
    let publicKey ← publicKeyFromNodeCertificate env snapshot.node
    let _ ← require (env.openBox (networkSigningAuthority snapshot.network).2) (internal "open CA key")
    pure (some { nodeID := nodeID, input := input, groups := groups, operationAt := now,
                 snapshot := snapshot, publicKey := publicKey })

/-- Only the current certificate is revoked. -/
def groupsCommit (actor : Option Actor) (f : GroupsFlight) (c : SignedCertificate) (eventID : String)
    (s : State) : Result (Option State) := do
  let now := f.operationAt
  let old := f.snapshot.node
  reject (c.fingerprint = old.certificateFingerprint) indistinctCertificate
  let renewAfter ← checkReplacement "certificate issuer returned invalid group replacement metadata"
    f.snapshot.network c now
  let replay ← findNodeGroupsReplay s f.nodeID f.input f.groups
  if replay.isSome then pure none
  else
    let (n, w) ← replacementCurrent "group update" f.snapshot f.input.confirmationName
      f.input.expectedConfigRevision s
    reject (n.groups ≠ old.groups ∨ ¬ sameCertificateLifecycle n old)
      (conflict "node certificate lifecycle changed during group update")
    reject (s.revocations.any fun r => r.fingerprint = old.certificateFingerprint)
      (conflict "active certificate is already blocklisted")
    let nextRevision ← nextConfigRevision w.configRevision true
    let s' := replaceCertificate s "certificate groups changed by administrator" w n f.groups c renewAfter
      now nextRevision
    let receipt : UpdatedNodeGroups := {
      requestID := f.input.requestID, nodeID := n.id, networkID := n.networkID, name := n.name
      ip := n.ip, previousGroups := old.groups, groups := f.groups, updatedAt := now
      previousCertificateExpiresAt := old.certificateExpiresAt.getD 0
      certificateExpiresAt := c.expiresAt, certificateRenewAfter := renewAfter
      previousCertificateGeneration := n.certificateGeneration
      certificateGeneration := inc64 n.certificateGeneration
      agentRecoveryRecordsInvalidated := s.agentRecoveries.countP fun r => r.nodeID = n.id
      previousCertificateBlocklisted := true, configRevision := nextRevision }
    let event ← newOptionalAttributedAudit eventID now nodeGroupsUpdatedAuditAction "node" n.id
      (nodeGroupsAuditDetails receipt f.input.expectedConfigRevision) actor
    pure (some (addAudit s' event))

end Mesh
