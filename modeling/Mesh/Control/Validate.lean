import Mesh.Control.Receipts
import Mesh.Control.RoutePolicies

/-!
# Mesh.Control.Validate

The graph validator. Every transaction of the store runs it on the state it is about to write, so a
stored state has passed it. The loops of the source become checks of one record against the records
before it; the facts a passed check gives are stated below the definitions, one lemma for each list of
records.
-/

namespace Mesh

open Address

/-! ## Texts of nodes -/

def maxPublicEndpointHostBytes : Nat := 253
def maxPublicEndpointBytes : Nat := maxPublicEndpointHostBytes + 8
def maxPersistedAgentVersionBytes : Nat := 64
def maxPersistedNebulaVersionBytes : Nat := 64
def maxPersistedLastErrorBytes : Nat := 512
def maxPersistedHeartbeatSequence : Int := 9007199254740991
def maxRevocationReasonBytes : Nat := 256

def validTelemetry (value : String) (maxBytes : Nat) : Bool :=
  value.utf8ByteSize ≤ maxBytes && value.toList.all fun c => 0x20 ≤ c.toNat || c == '\t'

def isDNSLabelChar (c : Char) : Bool := isAlphanumeric c || c == '-'

/-- `strings.TrimSuffix(host, ".")`. -/
def trimDot (cs : List Char) : List Char := if cs.getLast? = some '.' then cs.dropLast else cs

def validateEndpointHost (host : String) : Result Unit := do
  reject (¬ validBoundedPlainText host maxPublicEndpointHostBytes false)
    (invalid ("endpoint host is empty, oversized, not valid UTF-8, or contains control characters"))
  if (parseIP host).isSome then pure ()
  else
    let trimmed := trimDot host.toList
    reject (trimmed = []) (invalid "endpoint host must be a DNS name or IP address")
    checkAll (fun label : List Char => do
      reject (label = [] ∨ 63 < (String.ofList label).utf8ByteSize ∨ label.head? = some '-' ∨
          label.getLast? = some '-')
        (invalid ("endpoint DNS labels must be 1-63 characters and cannot start or end with a dash"))
      reject (¬ label.all isDNSLabelChar)
        (invalid ("endpoint DNS name must use letters, digits, dots, or dashes (use punycode for " ++
          "international names)")))
      (fields '.' trimmed)

def validateEndpoint (value : String) : Result Unit := do
  reject (maxPublicEndpointBytes < value.utf8ByteSize)
    (invalid "endpoint is oversized or not valid UTF-8")
  let (host, port) ← require ((splitHostPort value).filter fun hp => hp.1 ≠ "")
    (invalid "endpoint must be host:port (IPv6 in brackets)")
  validateEndpointHost host
  reject (¬ port.toList.all isDecimal) (invalid "endpoint port must be numeric")
  reject (¬ ((decimal? port.toList).any fun n => 1 ≤ n && n ≤ 65535))
    (invalid "endpoint port is invalid")

def validTopologyLabel (value : String) : Bool := topologyLabelPattern value

/-! ## Telemetry -/

/-- Nothing was reported yet. -/
def noHeartbeatEvidence (n : Node) : Bool :=
  n.heartbeatSequence == 0 && n.appliedConfigRevision == 0 && n.appliedCertificateGeneration == 0 &&
    n.appliedConfigSHA256 == "" && n.reportedCertificateFingerprint == "" && !n.nebulaRunning &&
    n.agentVersion == "" && n.nebulaVersion == "" && n.agentBootID == "" && n.lastError == ""

/-- What a node without a heartbeat may carry. -/
def validateSilentNode (n : Node) : Result Unit := do
  reject (¬ noHeartbeatEvidence n) (internal "heartbeat evidence is present without a last-seen time")
  if n.status = .revoked then
    reject (n.agentStatus ≠ .none ∧ n.agentStatus ≠ .revoked)
      (internal "revoked node has a non-terminal agent status")
  else
    reject (n.agentStatus ≠ .none) (internal "node outside heartbeat lifecycle has an agent status")

/-- What a node that was seen must carry. -/
def validateSeenNode (n : Node) (lastSeenAt : Int) : Result Unit := do
  reject (lastSeenAt = 0 ∨ ¬ (n.enrolledAt.any fun t => t ≤ lastSeenAt))
    (internal "last-seen time is outside the enrolled lifecycle")
  reject (n.heartbeatSequence < 1) (internal "last-seen time is missing a positive heartbeat sequence")
  reject (n.agentBootID = "") (internal "last-seen time is missing its agent boot ID")
  match n.status with
  | .active =>
    reject (n.agentStatus ≠ .healthy ∧ n.agentStatus ≠ .degraded)
      (internal "active heartbeat has an unsupported agent status")
  | .pending => .error (internal "pending node contains heartbeat evidence")
  | .revoked =>
    reject (n.agentStatus ≠ .none ∧ n.agentStatus ≠ .revoked)
      (internal "revoked heartbeat has a non-terminal agent status")

def validatePersistedNodeTelemetry (n : Node) (w : Network) : Result Unit := do
  reject (¬ validTelemetry n.agentVersion maxPersistedAgentVersionBytes)
    (internal "agent version is oversized or contains unsafe text")
  reject (¬ validTelemetry n.nebulaVersion maxPersistedNebulaVersionBytes)
    (internal "Nebula version is oversized or contains unsafe text")
  reject (¬ validTelemetry n.lastError maxPersistedLastErrorBytes)
    (internal "last error is oversized or contains unsafe text")
  reject (n.appliedConfigRevision < 0 ∨ w.configRevision < n.appliedConfigRevision)
    (internal "applied config revision is outside the authoritative network range")
  reject (n.heartbeatSequence < 0 ∨ maxPersistedHeartbeatSequence < n.heartbeatSequence)
    (internal "heartbeat sequence is outside its safety bound")
  reject (n.appliedConfigSHA256 ≠ "" ∧ ¬ fingerprintPattern n.appliedConfigSHA256)
    (internal "applied config digest is not a canonical SHA-256 value")
  reject (n.appliedConfigRevision = 0 ∧ n.appliedConfigSHA256 ≠ "")
    (internal "applied config digest is set without an applied revision")
  reject (0 < n.appliedConfigRevision ∧ n.appliedConfigSHA256 = "")
    (internal "applied config revision is missing its SHA-256 digest")
  reject (n.reportedCertificateFingerprint ≠ "" ∧ ¬ fingerprintPattern n.reportedCertificateFingerprint)
    (internal "reported certificate fingerprint is not a canonical SHA-256 value")
  reject (n.agentBootID ≠ "" ∧ ¬ namePattern n.agentBootID) (internal "agent boot ID is invalid")
  match n.lastSeenAt with
  | none => validateSilentNode n
  | some t => validateSeenNode n t

/-! ## Networks -/

def adminCredentialVerifierStem : String := "v1:"

def validAdminCredentialVerifier (verifier : String) : Bool :=
  (afterStem adminCredentialVerifierStem verifier).any validTokenHash

def validMasterKeyVerifier (verifier : String) : Bool := validAdminCredentialVerifier verifier

def validateStateVersion (s : State) : Result Unit := do
  reject (s.version < 1 ∨ controlStateVersionFirewallScopes < s.version)
    (internal ("unsupported store version " ++ toString s.version))
  reject (s.version = 1 ∧ (s.masterKeyVerifier ≠ "" ∨ s.adminCredentialVerifier ≠ ""))
    (internal "version 1 state must not contain recovery credential verifiers")
  reject (controlStateVersionCredentialBinding ≤ s.version ∧
      (¬ validMasterKeyVerifier s.masterKeyVerifier ∨
        ¬ validAdminCredentialVerifier s.adminCredentialVerifier))
    (internal ("version " ++ toString s.version ++
      " state requires valid master-key and administrator credential verifiers"))

/-- A part of a record that did not exist before a version must be absent there, and is checked from
then on. -/
def sinceVersion (s : State) (version : Int) (absent : Prop) [Decidable absent] (early : Failure)
    (check : Result Unit) : Result Unit :=
  if s.version < version then reject (¬ absent) early else check

/-- The checks of one network that do not look at the other networks. -/
def validateNetworkRecord (s : State) (w : Network) : Result Unit := do
  let label := "network \"" ++ w.id ++ "\" has "
  reject (¬ validRetiredNetworkCIDR w.cidr) (internal (label ++ "an invalid canonical IPv4 CIDR"))
  reject (w.listenPort < 1 ∨ 65535 < w.listenPort ∨ w.certificateTTL < 24 ∨ 8760 < w.certificateTTL ∨
      w.configRevision < 1 ∨ w.createdAt = 0 ∨ w.configUpdatedAt = 0)
    (internal (label ++ "invalid lifecycle metadata"))
  reject (trimSpace w.caCertificate = "" ∨ trimSpace w.encryptedCAKey = "")
    (internal ("network \"" ++ w.id ++ "\" is missing CA material"))
  mapError (Failure.wrap (label ++ "invalid key material")) (validatePersistedNetworkMaterial w)
  mapError (Failure.wrap (label ++ "invalid firewall policy"))
    (validateStoredFirewallPolicy w.firewallPolicy w.cidr)
  reject (s.version < controlStateVersionFirewallScopes ∧ firewallPolicyUsesNodeScopes w.firewallPolicy)
    (internal (label ++ "scoped firewall fields before control state v13"))
  sinceVersion s controlStateVersionNetworkDNS (w.dnsSettings = {})
    (internal (label ++ "DNS settings before control state v4"))
    (mapError (Failure.wrap (label ++ "invalid DNS settings")) (validateNetworkDNSInvariant w))
  sinceVersion s controlStateVersionNetworkRelays (w.relaySettings = {})
    (internal (label ++ "relay settings before control state v5"))
    (mapError (Failure.wrap (label ++ "invalid relay settings")) (validateNetworkRelaySettings s w))
  sinceVersion s controlStateVersionCARotation (w.caRotation = {})
    (internal (label ++ "CA rotation state before control state v6"))
    (mapError (Failure.wrap (label ++ "invalid CA rotation")) (validateNetworkCARotation w))
  sinceVersion s controlStateVersionFirewallRollout (w.firewallRollout = {})
    (internal (label ++ "firewall rollout state before control state v7"))
    (mapError (Failure.wrap (label ++ "invalid firewall rollout")) (validateNetworkFirewallRollout s w))
  reject (s.version < controlStateVersionFirewallScopes ∧ w.firewallRollout.phase ≠ .stable ∧
      firewallPolicyUsesNodeScopes w.firewallRollout.targetPolicy)
    (internal (label ++ "scoped firewall rollout fields before control state v13"))
  sinceVersion s controlStateVersionRouteTransfer (w.routeTransfer = {})
    (internal (label ++ "route-transfer state before control state v9"))
    (mapError (Failure.wrap (label ++ "invalid route transfer")) (validateNetworkRouteTransfer s w))
  sinceVersion s controlStateVersionRouteProfileEdit (w.routeProfileEdit = {})
    (internal (label ++ "route-profile edit state before control state v10"))
    (mapError (Failure.wrap (label ++ "invalid route-profile edit")) (validateNetworkRouteProfileEdit s w))
  sinceVersion s controlStateVersionRoutePolicies (w.routePolicies = [])
    (internal (label ++ "route policies before control state v11"))
    (mapError (Failure.wrap (label ++ "invalid route policies")) (validateNetworkRoutePolicies s w))

/-- One network after the networks before it. -/
def validateNetworkEntry (s : State) (seen : List Network) (w : Network) : Result Unit := do
  reject (¬ validPersistedID w.id ∨ ¬ namePattern w.name)
    (internal ("network " ++ toString seen.length ++ " has an invalid identity"))
  reject (seen.any fun w' => w'.id = w.id) (internal ("duplicate network ID \"" ++ w.id ++ "\""))
  reject (seen.any fun w' => toLower w'.name = toLower w.name)
    (internal ("duplicate network name \"" ++ w.name ++ "\""))
  validateNetworkRecord s w
  rejectFound (seen.find? fun w' => cidrsOverlap w'.cidr w.cidr) fun w' =>
    internal ("network \"" ++ w.id ++ "\" overlaps network \"" ++ w'.id ++ "\"")

/-! ## Nodes -/

/-- Credential hashes in use, each with the text that names its owner. -/
abbrev CredentialHashes := List (String × String)

/-- The hashes of a node's current and previous credential. -/
def nodeCredentialHashes (n : Node) : CredentialHashes :=
  [(n.agentTokenHash, "current"), (n.previousAgentTokenHash, "previous")].filter fun h => h.1 ≠ ""

def nodeHashOwners (n : Node) : CredentialHashes :=
  (nodeCredentialHashes n).map fun h => (h.1, "node " ++ n.id ++ " " ++ h.2)

/-- The hashes of a node are well formed and not in use; the current one is looked at first. -/
def checkNodeHashes (n : Node) : CredentialHashes → CredentialHashes → Result Unit
  | _, [] => .ok ()
  | taken, (hash, slot) :: rest => do
    reject (¬ validTokenHash hash)
      (internal ("node \"" ++ n.id ++ "\" has an invalid " ++ slot ++ " agent credential hash"))
    rejectFound (taken.lookup hash) fun owner => internal ("node \"" ++ n.id ++
      "\" has an agent credential hash already used by " ++ owner)
    checkNodeHashes n ((hash, "node " ++ n.id ++ " " ++ slot) :: taken) rest

def nodeAddress (n : Node) : Option Nat := (parseIP n.ip).bind Addr.to4

/-- What the status of a node says about its credential. -/
def validateNodeStatus (n : Node) : Result Unit :=
  match n.status with
  | .pending =>
    reject (n.enrolledAt ≠ none ∨ n.revokedAt ≠ none ∨ n.agentTokenHash ≠ "" ∨
        n.agentCredentialExpiresAt ≠ none ∨ n.agentCredentialGeneration ≠ 0 ∨ n.publicKeyHash ≠ "")
      (internal ("pending node \"" ++ n.id ++ "\" has invalid enrolled credential state"))
  | .active =>
    reject (n.enrolledAt = none ∨ n.revokedAt ≠ none ∨ ¬ validTokenHash n.agentTokenHash ∨
        n.agentCredentialExpiresAt = none ∨ n.agentCredentialGeneration < 1 ∨
        ¬ validTokenHash n.publicKeyHash)
      (internal ("active node \"" ++ n.id ++ "\" has incomplete enrolled credential state"))
  | .revoked =>
    reject (n.revokedAt = none ∨ n.agentTokenHash ≠ "" ∨ n.previousAgentTokenHash ≠ "" ∨
        n.agentCredentialExpiresAt ≠ none)
      (internal ("revoked node \"" ++ n.id ++ "\" retains live credential state"))

/-- The checks of one node that do not look at the other nodes. -/
def validateNodeRecord (s : State) (w : Network) (n : Node) : Result Unit := do
  let label := "node \"" ++ n.id ++ "\" has "
  reject (¬ validCanonicalNodeGroups n.groups) (internal (label ++ "non-canonical certificate groups"))
  mapError (Failure.wrap (label ++ "invalid routed subnets")) (validateCanonicalRoutedSubnets n.routedSubnets)
  if controlStateVersionTopology ≤ s.version then
    reject (¬ validTopologyLabel n.site ∨ ¬ validTopologyLabel n.failureDomain)
      (internal (label ++ "non-canonical topology metadata"))
  else
    reject (n.site ≠ "" ∨ n.failureDomain ≠ "")
      (internal (label ++ "topology metadata before control state v3"))
  if n.publicEndpoint ≠ "" then
    mapError (Failure.wrap (label ++ "an invalid public endpoint")) (validateEndpoint n.publicEndpoint)
  reject (¬ validBoundedUTF8 n.certificate maxNebulaHostCertificateSize true)
    (internal (label ++ "an oversized or invalid UTF-8 certificate"))
  reject (n.certificateGeneration < 0 ∨ n.appliedCertificateGeneration < 0 ∨
      n.certificateGeneration < n.appliedCertificateGeneration ∨ n.agentCredentialGeneration < 0)
    (internal (label ++ "invalid certificate generation state"))
  if s.version < controlStateVersionCARotation then
    reject (n.certificateAuthoritySHA256 ≠ "")
      (internal (label ++ "certificate authority metadata before control state v6"))
  else if n.certificate = "" then
    reject (n.certificateAuthoritySHA256 ≠ "")
      (internal (label ++ "a certificate authority without a certificate"))
  else
    reject (¬ fingerprintPattern n.certificateAuthoritySHA256)
      (internal (label ++ "an invalid certificate authority digest"))
  reject ((n.renewalClaimID ≠ "" ∧ n.renewalClaimedAt = none) ∨
      (n.renewalClaimID = "" ∧ n.renewalClaimedAt ≠ none) ∨
      (n.renewalClaimID ≠ "" ∧ (¬ validPersistedID n.renewalClaimID ∨ n.renewalClaimedAt = some 0)))
    (internal (label ++ "invalid renewal claim metadata"))
  reject (s.version < controlStateVersionNativeDNS ∧ n.nativeDNSActive)
    (internal (label ++ "native DNS telemetry before control state v12"))
  mapError (Failure.wrap (label ++ "invalid lifecycle telemetry")) (validatePersistedNodeTelemetry n w)
  reject ((n.previousAgentTokenHash = "" ∧ n.previousAgentTokenExpiresAt ≠ none) ∨
      (n.previousAgentTokenHash ≠ "" ∧ n.previousAgentTokenExpiresAt = none))
    (internal (label ++ "incomplete previous agent credential state"))
  validateNodeStatus n
  reject (¬ ((nodeAddress n).any fun a => (parseCIDR4 w.cidr).any fun c => c.2.contains a))
    (internal (label ++ "an address outside its network"))

/-- One node after the nodes before it. -/
def validateNodeEntry (s : State) (seen : List Node) (n : Node) : Result Unit := do
  let err := internal ("node " ++ toString seen.length ++ " has an invalid identity or network reference")
  let w ← require (findNetwork s n.networkID) err
  reject (¬ validPersistedID n.id ∨ ¬ namePattern n.name) err
  reject (seen.any fun m => m.id = n.id) (internal ("duplicate node ID \"" ++ n.id ++ "\""))
  validateNodeRecord s w n
  rejectFound (seen.find? fun m => m.networkID = n.networkID ∧ nodeAddress m = nodeAddress n) fun m =>
    internal ("nodes \"" ++ m.id ++ "\" and \"" ++ n.id ++ "\" have the same address")
  reject (n.createdAt = 0) (internal ("node \"" ++ n.id ++ "\" is missing its creation time"))
  checkNodeHashes n (seen.flatMap nodeHashOwners) (nodeCredentialHashes n)

/-- Firewall rules name nodes of their network, in the active policy and in a rollout. -/
def validateFirewallReferences (s : State) (w : Network) : Result Unit := do
  mapError (Failure.wrap ("network \"" ++ w.id ++ "\" has invalid firewall references"))
    (validateFirewallPolicyReferences s w w.firewallPolicy)
  if w.firewallRollout.phase ≠ .stable then
    mapError (Failure.wrap ("network \"" ++ w.id ++ "\" has invalid firewall rollout references"))
      (validateFirewallPolicyReferences s w w.firewallRollout.targetPolicy)

/-! ## Enrollments -/

def validatePersistedEnrollmentClaim (e : EnrollmentToken) : Result Unit := do
  reject ((e.claimID ≠ "" ∨ e.claimedAt ≠ none ∨ e.claimKeyHash ≠ "") ∧
      (e.claimID = "" ∨ e.claimedAt = none ∨ e.claimKeyHash = "" ∨ ¬ validPersistedID e.claimID ∨
        ¬ validTokenHash e.claimKeyHash ∨ e.claimedAt = some 0))
    (internal "claim metadata is incomplete or invalid")
  reject (e.usedAt = some 0) (internal "used-at time is zero")

def enrollmentHashOwner (e : EnrollmentToken) : String × String := (e.tokenHash, "enrollment " ++ e.id)

def validateEnrollmentEntry (s : State) (seen : List EnrollmentToken) (e : EnrollmentToken) :
    Result Unit := do
  let label := "enrollment \"" ++ e.id ++ "\" "
  reject (¬ validPersistedID e.id ∨ ¬ validTokenHash e.tokenHash ∨ e.createdAt = 0 ∨
      ¬ e.createdAt < e.expiresAt)
    (internal (label ++ "has invalid metadata"))
  mapError (Failure.wrap (label ++ "has invalid claim metadata")) (validatePersistedEnrollmentClaim e)
  reject (findNode s e.nodeID = none) (internal (label ++ "references a missing node"))
  reject (seen.any fun e' => e'.id = e.id) (internal ("duplicate enrollment ID \"" ++ e.id ++ "\""))
  rejectFound ((s.nodes.flatMap nodeHashOwners ++ seen.map enrollmentHashOwner).lookup e.tokenHash)
    fun owner => internal (label ++ "has a token hash already used by " ++ owner)

/-! ## Recoveries -/

/-- The bundle a recovery answered with is well formed and belongs to the network as it is now. -/
def validatePersistedRecoveryResultMaterial (b : AgentRecoveryBundle) (w : Network) : Result Unit := do
  let n := b.node
  reject (n.networkID ≠ w.id ∨ ¬ validCanonicalNodeGroups n.groups)
    (internal "recovery result node identity or groups are not canonical")
  mapError (Failure.wrap "recovery result routed subnets are not canonical")
    (validateCanonicalRoutedSubnets n.routedSubnets)
  reject ((n.site = "" ∧ n.failureDomain ≠ "") ∨ (n.site ≠ "" ∧ n.failureDomain = "") ∨
      (n.site ≠ "" ∧ (¬ validTopologyLabel n.site ∨ ¬ validTopologyLabel n.failureDomain)))
    (internal "recovery result node topology metadata is not canonical")
  reject (¬ validPersistedID n.id ∨ ¬ namePattern n.name ∨ n.status ≠ .active)
    (internal "recovery result node metadata is invalid")
  reject (¬ ((parsePrefix4 w.cidr).any fun p =>
      match parseAddr n.ip with
      | some (.v4 a) => formatIPv4 a == n.ip && p.contains a
      | _ => false))
    (internal "recovery result node address is invalid")
  if n.publicEndpoint ≠ "" then
    mapError (Failure.wrap "recovery result node endpoint") (validateEndpoint n.publicEndpoint)
  reject (¬ validBoundedUTF8 n.certificate maxNebulaHostCertificateSize false ∨
      ¬ validBoundedUTF8 b.certificate maxNebulaHostCertificateSize false ∨
      n.certificate ≠ b.certificate)
    (internal "recovery result certificate is empty, oversized, invalid UTF-8, or inconsistent")
  reject (¬ fingerprintPattern n.certificateFingerprint ∨
      n.certificateFingerprint ≠ b.certificateFingerprint ∨
      n.certificateExpiresAt ≠ some b.certificateExpiresAt ∨
      n.certificateRenewAfter ≠ some b.certificateRenewAfter ∨
      ¬ b.certificateRenewAfter < b.certificateExpiresAt ∨ n.certificateGeneration < 1 ∨
      n.certificateGeneration ≠ b.certificateGeneration)
    (internal "recovery result certificate lifecycle is invalid or inconsistent")
  reject (n.agentCredentialExpiresAt ≠ some b.agentCredentialExpiresAt ∨
      n.agentCredentialGeneration < 1 ∨ n.agentCredentialGeneration ≠ b.agentCredentialGeneration ∨
      n.createdAt = 0 ∨ ¬ (n.enrolledAt.any fun t => n.createdAt ≤ t) ∨ n.revokedAt ≠ none)
    (internal "recovery result node lifecycle is invalid or inconsistent")
  reject (b.configRevision < 1 ∨ w.configRevision < b.configRevision ∨ b.configIssuedAt = 0)
    (internal "recovery result config lifecycle is invalid")
  mapError (Failure.wrap "recovery result node telemetry") (validatePersistedNodeTelemetry n w)
  reject (¬ validBoundedUTF8 b.ca maxNebulaCATrustBundleSize false ∨ b.ca ≠ networkTrustBundle w)
    (internal "recovery result CA certificate is empty, oversized, invalid UTF-8, or inconsistent")
  reject (¬ validConfigSigningPublicKey b.configSigningPublicKey)
    (internal "recovery result config signing public key is not canonical")
  mapError (Failure.wrap "recovery result config") (validateManagedConfig b.config)

def agentRecoveryLifetime : Int := 30 * Calendar.minute

def agentCredentialLifetime : Int := 90 * 24 * Calendar.hour

/-- Claim metadata of a recovery: all of it or none, within the lifetime of the token. -/
def validateRecoveryClaim (r : AgentRecoveryToken) : Result Unit := do
  let label := "agent recovery \"" ++ r.id ++ "\" has "
  let claimed := r.claimID ≠ ""
  reject ((claimed ∧ (r.claimedAt = none ∨ r.claimKeyHash = "" ∨ ¬ validPersistedID r.claimID ∨
        ¬ validTokenHash r.claimKeyHash ∨ r.claimedCredentialGeneration < 1)) ∨
      (¬ claimed ∧ (r.claimedAt ≠ none ∨ r.claimKeyHash ≠ "" ∨ r.claimedCredentialGeneration ≠ 0)))
    (internal (label ++ "invalid claim metadata"))
  reject (r.claimedAt.any fun t => t < r.createdAt || r.expiresAt < t)
    (internal (label ++ "a claim outside its lifetime"))

/-- The node of a bundle is the node as it is now, and the bundle is the one the record tells of. -/
def recoveryResultMatches (s : State) (w : Network) (n : Node) (r : AgentRecoveryToken)
    (b : AgentRecoveryBundle) : Bool :=
  b.nodeID == r.nodeID && b.networkID == n.networkID && b.node.id == r.nodeID && b.node.site == n.site &&
    b.node.failureDomain == n.failureDomain && b.node.routedSubnets == n.routedSubnets &&
    (s.version < controlStateVersionCARotation ||
      b.node.certificateAuthoritySHA256 == n.certificateAuthoritySHA256) &&
    tokenHashEqual b.publicKeyHash n.publicKeyHash &&
    b.agentCredentialGeneration == r.credentialGeneration &&
    some b.agentCredentialExpiresAt == r.credentialExpiresAt &&
    b.configSigningPublicKey == w.configSigningPublicKey

def recoveryReceiptMatches (b : AgentRecoveryBundle) : Bool :=
  let receipt := b.recoveryReceipt
  receipt.nodeID == b.nodeID && receipt.networkID == b.networkID &&
    receipt.agentCredentialGeneration == b.agentCredentialGeneration &&
    receipt.agentCredentialExpiresAt == b.agentCredentialExpiresAt &&
    receipt.configSHA256 == b.configSHA256 && receipt.configSignature == b.configSignature

/-- The credential a used recovery handed out. -/
def recoveredHash (r : AgentRecoveryToken) : Option String :=
  if r.usedAt = none then none else r.result.map fun b => b.recoveryReceipt.newAgentTokenHash

def recoveryHashOwner (r : AgentRecoveryToken) : String × String := (r.tokenHash, "agent recovery " ++ r.id)

/-- The owner of a hash when a recovery is checked, the recoveries before it included. -/
def credentialHashOwner (s : State) (seen : List AgentRecoveryToken) (hash : String) : Option String :=
  (s.nodes.flatMap nodeHashOwners ++ s.enrollments.map enrollmentHashOwner ++
    seen.map recoveryHashOwner).lookup hash

/-- A recovery that was used: its result, the signatures on it, and the credential it handed out. -/
def validateUsedRecovery (s : State) (seen : List AgentRecoveryToken) (n : Node) (r : AgentRecoveryToken)
    (usedAt : Int) : Result Unit := do
  let label := "used agent recovery \"" ++ r.id ++ "\" "
  let err := internal (label ++ "has invalid result metadata")
  let claimedAt ← require r.claimedAt err
  let expiresAt ← require r.credentialExpiresAt err
  let b ← require r.result err
  reject (usedAt < claimedAt ∨ r.expiresAt < usedAt ∨
      r.credentialGeneration ≠ inc64 r.claimedCredentialGeneration ∨
      n.agentCredentialGeneration < r.credentialGeneration ∨ ¬ usedAt < expiresAt ∨
      usedAt + agentCredentialLifetime < expiresAt) err
  let w ← require (findNetwork s n.networkID) err
  reject (¬ recoveryResultMatches s w n r b) (internal (label ++ "has a mismatched bootstrap result"))
  mapError (Failure.wrap (label ++ "has invalid bounded bootstrap material"))
    (validatePersistedRecoveryResultMaterial b w)
  mapError (Failure.wrap (label ++ "has an invalid signed bootstrap"))
    (verifyConfig b.configSigningPublicKey b.signatureMetadata b.config b.configSHA256 b.configSignature)
  reject (¬ recoveryReceiptMatches b) (internal (label ++ "has a mismatched receipt"))
  mapError (Failure.wrap (label ++ "has an invalid receipt"))
    (verifyRecoveryReceipt b.configSigningPublicKey b.recoveryReceipt)
  let hash := b.recoveryReceipt.newAgentTokenHash
  rejectFound (seen.find? fun r' => recoveredHash r' = some hash) fun r' => internal (label ++
    "reuses the recovered credential hash from agent recovery " ++ r'.id)
  reject ((credentialHashOwner s (r :: seen) hash).isSome ∧ ¬ tokenHashEqual n.agentTokenHash hash ∧
      ¬ tokenHashEqual n.previousAgentTokenHash hash)
    (internal (label ++ "has a recovered credential hash used by another credential domain"))
  reject (r.credentialGeneration = n.agentCredentialGeneration ∧
      (n.agentCredentialExpiresAt ≠ some expiresAt ∨ ¬ tokenHashEqual n.agentTokenHash hash))
    (internal (label ++ "does not match the current node credential"))

def validateRecoveryEntry (s : State) (seen : List AgentRecoveryToken) (r : AgentRecoveryToken) :
    Result Unit := do
  let label := "agent recovery \"" ++ r.id ++ "\" "
  reject (¬ validPersistedID r.id ∨ ¬ validTokenHash r.tokenHash ∨ r.createdAt = 0 ∨
      ¬ r.createdAt < r.expiresAt ∨ agentRecoveryLifetime < r.expiresAt - r.createdAt)
    (internal (label ++ "has invalid metadata"))
  let n ← require ((findNode s r.nodeID).filter fun n =>
      n.status = .active ∧ n.enrolledAt ≠ none ∧ n.revokedAt = none)
    (internal (label ++ "references a node outside the active enrolled lifecycle"))
  reject (seen.any fun r' => r'.id = r.id) (internal ("duplicate agent recovery ID \"" ++ r.id ++ "\""))
  reject (s.enrollments.any fun e => e.id = r.id)
    (internal ("agent recovery ID \"" ++ r.id ++ "\" is already used by an enrollment"))
  reject (seen.any fun r' => r'.tokenHash = r.tokenHash)
    (internal ("duplicate agent recovery token hash for \"" ++ r.id ++ "\""))
  rejectFound (credentialHashOwner s seen r.tokenHash) fun owner => internal (label ++
    "has a token hash already used by " ++ owner)
  validateRecoveryClaim r
  match r.usedAt with
  | none =>
    reject (r.credentialGeneration ≠ 0 ∨ r.credentialExpiresAt ≠ none ∨ r.result.isSome)
      (internal ("unused " ++ label ++ "has committed result metadata"))
  | some usedAt => validateUsedRecovery s seen n r usedAt

/-! ## Certificates and audit -/

def validateIssuance (s : State) (i : CertificateIssuance) : Result Unit :=
  reject (¬ nodeInNetwork s i.networkID i.nodeID ∨ ¬ fingerprintPattern i.fingerprint ∨ i.issuedAt = 0 ∨
      ¬ i.issuedAt < i.expiresAt)
    (internal ("certificate issuance for node \"" ++ i.nodeID ++ "\" is invalid"))

def validateRevocation (s : State) (r : CertificateRevocation) : Result Unit := do
  reject (¬ nodeInNetwork s r.networkID r.nodeID ∨ ¬ fingerprintPattern r.fingerprint ∨ r.revokedAt = 0)
    (internal ("certificate revocation for node \"" ++ r.nodeID ++ "\" is invalid"))
  reject (r.expiresAt = some 0)
    (internal ("certificate revocation for node \"" ++ r.nodeID ++ "\" has an empty expiry"))
  reject (¬ validBoundedPlainText r.reason maxRevocationReasonBytes true)
    (internal ("certificate revocation for node \"" ++ r.nodeID ++ "\" has an unsafe reason"))

/-- One event, whatever its action. -/
def validateAuditEvent (e : AuditEvent) : Result Unit := do
  let label := "audit event \"" ++ e.id ++ "\" has invalid "
  reject (¬ validPersistedID e.id ∨ e.occurredAt = 0 ∨ ¬ validAuditLabel e.action maxAuditActionBytes ∨
      ¬ validAuditLabel e.resource maxAuditResourceBytes ∨ ¬ validPersistedID e.resourceID)
    (internal (label ++ "metadata"))
  mapError (Failure.wrap (label ++ "details")) (validateAuditDetails e.details)
  mapError (Failure.wrap (label ++ "actor metadata")) (validateAuditActorMetadata e.details)

def validateAuditEntry (seen : List AuditEvent) (e : AuditEvent) : Result Unit := do
  validateAuditEvent e
  reject (seen.any fun e' => e'.id = e.id) (internal ("duplicate audit event ID \"" ++ e.id ++ "\""))

def validateStateGraph (s : State) : Result Unit := do
  validateStateVersion s
  checkSeen (validateNetworkEntry s) [] s.networks
  checkSeen (validateNodeEntry s) [] s.nodes
  checkAll (validateFirewallReferences s) s.networks
  checkSeen (validateEnrollmentEntry s) [] s.enrollments
  checkSeen (validateRecoveryEntry s) [] s.agentRecoveries
  checkAll (validateIssuance s) s.issuances
  checkAll (validateRevocation s) s.revocations
  mapError (Failure.wrap "managed and routed address graph is invalid")
    (validateReservedIPv4PrefixGraph s)
  checkSeen validateAuditEntry [] s.audit
  mapError (Failure.wrap "retired network reservation graph is invalid")
    (validateRetiredNetworkReservations s)
  mapError (Failure.wrap "archived node tombstone graph is invalid") (validateArchivedNodeTombstones s)
  mapError (Failure.wrap "node certificate rotation audit graph is invalid")
    (validateNodeCertificateRotationAudits s)
  mapError (Failure.wrap "node group audit graph is invalid") (validateNodeGroupAudits s)
  mapError (Failure.wrap "node revocation audit graph is invalid") (validateNodeRevocationAudits s)

end Mesh
