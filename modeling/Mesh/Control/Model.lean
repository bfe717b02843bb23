/-!
# Mesh.Control.Model

The records of the control plane, field by field as `model.go` and the files of the staged changes
declare them. A `time.Time` is the number of nanoseconds since 1 January of year 1 (so the zero time
is `0`), a `*time.Time` an `Option`, an `int64` an `Int`; a nil slice and an empty one are the same
list. Closed sets of words (roles, statuses, phases) are inductive types, the empty word included
where the source uses it.
-/

namespace Mesh

/-! ## Words -/

inductive Role where
  | member
  | lighthouse
deriving DecidableEq, Repr, Inhabited

inductive NodeStatus where
  | pending
  | active
  | revoked
deriving DecidableEq, Repr, Inhabited

/-- What an agent reported, `revoked` after revocation and `none` (the empty word) before any report. -/
inductive AgentStatus where
  | none
  | healthy
  | degraded
  | revoked
deriving DecidableEq, Repr, Inhabited

inductive CARotationPhase where
  | stable
  | prepared
  | rotating
  | finalizing
  | aborting
deriving DecidableEq, Repr, Inhabited

inductive FirewallRolloutPhase where
  | stable
  | canary
  | paused
deriving DecidableEq, Repr, Inhabited

inductive RouteTransferPhase where
  | none
  | preparingTarget
  | cleaningSource
  | cleaningTarget
  | completed
  | cancelled
deriving DecidableEq, Repr, Inhabited

inductive RouteProfileEditPhase where
  | none
  | preparingOwner
  | cleaningOwner
  | cleaningCancelledOwner
  | completed
  | cancelled
deriving DecidableEq, Repr, Inhabited

inductive FirewallPolicyMode where
  | unset
  | legacyDefault
  | managed
deriving DecidableEq, Repr, Inhabited

def Role.text : Role → String
  | .member => "member"
  | .lighthouse => "lighthouse"

def NodeStatus.text : NodeStatus → String
  | .pending => "pending"
  | .active => "active"
  | .revoked => "revoked"

def AgentStatus.text : AgentStatus → String
  | .none => ""
  | .healthy => "healthy"
  | .degraded => "degraded"
  | .revoked => "revoked"

def CARotationPhase.text : CARotationPhase → String
  | .stable => ""
  | .prepared => "prepared"
  | .rotating => "rotating"
  | .finalizing => "finalizing"
  | .aborting => "aborting"

def FirewallRolloutPhase.text : FirewallRolloutPhase → String
  | .stable => ""
  | .canary => "canary"
  | .paused => "paused"

def RouteTransferPhase.text : RouteTransferPhase → String
  | .none => ""
  | .preparingTarget => "preparing_target"
  | .cleaningSource => "cleaning_source"
  | .cleaningTarget => "cleaning_target"
  | .completed => "completed"
  | .cancelled => "cancelled"

def RouteProfileEditPhase.text : RouteProfileEditPhase → String
  | .none => ""
  | .preparingOwner => "preparing_owner"
  | .cleaningOwner => "cleaning_owner"
  | .cleaningCancelledOwner => "cleaning_cancelled_owner"
  | .completed => "completed"
  | .cancelled => "cancelled"

def FirewallPolicyMode.text : FirewallPolicyMode → String
  | .unset => ""
  | .legacyDefault => "legacy-default"
  | .managed => "managed"

/-! ## Networks -/

structure NetworkDNSSettings where
  enabled : Bool := false
  listenPort : Int := 0
  nativeResolver : Bool := false
  searchDomain : String := ""
deriving DecidableEq, Inhabited

structure NetworkRelaySettings where
  enabled : Bool := false
  relayNodeIDs : List String := []
deriving DecidableEq, Inhabited

structure NetworkCARotation where
  phase : CARotationPhase := .stable
  nextCACertificate : String := ""
  encryptedNextCAKey : String := ""
  previousTrustBundleSHA256 : String := ""
  targetCACertificateSHA256 : String := ""
  startedAt : Int := 0
  stageStartedAt : Int := 0
  stageConfigRevision : Int := 0
deriving DecidableEq, Inhabited

structure FirewallRule where
  proto : String := ""
  port : String := ""
  group : String := ""
  host : String := ""
  peerNodeID : String := ""
  targetGroup : String := ""
  targetNodeID : String := ""
deriving DecidableEq, Inhabited

structure FirewallPolicy where
  mode : FirewallPolicyMode := .unset
  rendererVersion : Int := 0
  inbound : List FirewallRule := []
  outbound : List FirewallRule := []
deriving DecidableEq, Inhabited

structure NetworkFirewallRollout where
  phase : FirewallRolloutPhase := .stable
  targetPolicy : FirewallPolicy := {}
  canaryNodeIDs : List String := []
  startedAt : Int := 0
  pausedAt : Int := 0
  stageConfigRevision : Int := 0
deriving DecidableEq, Inhabited

structure NetworkRouteTransfer where
  requestID : String := ""
  phase : RouteTransferPhase := .none
  sourceNodeID : String := ""
  targetNodeID : String := ""
  routedSubnets : List String := []
  sourceOriginalSubnets : List String := []
  targetOriginalSubnets : List String := []
  targetCertificateGeneration : Int := 0
  sourceCertificateGeneration : Int := 0
  startedAt : Int := 0
  promotedAt : Int := 0
  finishedAt : Int := 0
deriving DecidableEq, Inhabited

structure NetworkRouteProfileEdit where
  requestID : String := ""
  phase : RouteProfileEditPhase := .none
  nodeID : String := ""
  originalSubnets : List String := []
  desiredSubnets : List String := []
  preparedCertificateGeneration : Int := 0
  cleanupCertificateGeneration : Int := 0
  startedAt : Int := 0
  promotedAt : Int := 0
  finishedAt : Int := 0
deriving DecidableEq, Inhabited

structure NetworkRoutePolicyGateway where
  nodeID : String := ""
  weight : Int := 0
deriving DecidableEq, Inhabited

/-- Route-specific controls of one live routed prefix; `subnet` is the source's `Prefix`. -/
structure NetworkRoutePolicy where
  subnet : String := ""
  gateways : List NetworkRoutePolicyGateway := []
  mtu : Int := 0
  metric : Int := 0
  requestID : String := ""
  configRevision : Int := 0
  updatedAt : Int := 0
deriving DecidableEq, Inhabited

structure Network where
  id : String := ""
  name : String := ""
  cidr : String := ""
  dnsSettings : NetworkDNSSettings := {}
  relaySettings : NetworkRelaySettings := {}
  caRotation : NetworkCARotation := {}
  firewallRollout : NetworkFirewallRollout := {}
  routeTransfer : NetworkRouteTransfer := {}
  routeProfileEdit : NetworkRouteProfileEdit := {}
  routePolicies : List NetworkRoutePolicy := []
  firewallPolicy : FirewallPolicy := {}
  listenPort : Int := 0
  certificateTTL : Int := 0
  caCertificate : String := ""
  encryptedCAKey : String := ""
  configSigningPublicKey : String := ""
  encryptedConfigSigningKey : String := ""
  configRevision : Int := 0
  configUpdatedAt : Int := 0
  createdAt : Int := 0
deriving Inhabited

/-! ## Nodes and credentials -/

structure Node where
  id : String := ""
  networkID : String := ""
  name : String := ""
  ip : String := ""
  routedSubnets : List String := []
  site : String := ""
  failureDomain : String := ""
  groups : List String := []
  role : Role := .member
  publicEndpoint : String := ""
  status : NodeStatus := .pending
  certificate : String := ""
  certificateFingerprint : String := ""
  certificateAuthoritySHA256 : String := ""
  certificateExpiresAt : Option Int := none
  certificateRenewAfter : Option Int := none
  certificateGeneration : Int := 0
  appliedConfigRevision : Int := 0
  appliedCertificateGeneration : Int := 0
  appliedConfigSHA256 : String := ""
  reportedCertificateFingerprint : String := ""
  nebulaRunning : Bool := false
  nativeDNSActive : Bool := false
  agentVersion : String := ""
  nebulaVersion : String := ""
  agentStatus : AgentStatus := .none
  agentBootID : String := ""
  heartbeatSequence : Int := 0
  lastError : String := ""
  lastSeenAt : Option Int := none
  agentTokenHash : String := ""
  previousAgentTokenHash : String := ""
  previousAgentTokenExpiresAt : Option Int := none
  agentCredentialExpiresAt : Option Int := none
  agentCredentialLastUsedAt : Option Int := none
  agentCredentialGeneration : Int := 0
  publicKeyHash : String := ""
  renewalClaimID : String := ""
  renewalClaimedAt : Option Int := none
  lastRenewedAt : Option Int := none
  createdAt : Int := 0
  enrolledAt : Option Int := none
  revokedAt : Option Int := none
deriving Inhabited

structure EnrollmentToken where
  id : String := ""
  nodeID : String := ""
  tokenHash : String := ""
  createdAt : Int := 0
  expiresAt : Int := 0
  usedAt : Option Int := none
  claimID : String := ""
  claimedAt : Option Int := none
  claimKeyHash : String := ""
deriving DecidableEq, Inhabited

structure EnrollmentBundle where
  nodeID : String := ""
  networkID : String := ""
  node : Node := {}
  certificate : String := ""
  ca : String := ""
  config : String := ""
  configRevision : Int := 0
  certificateExpiresAt : Int := 0
  certificateRenewAfter : Int := 0
  agentCredentialExpiresAt : Int := 0
  agentCredentialGeneration : Int := 0
  configIssuedAt : Int := 0
  configSHA256 : String := ""
  caCertificateSHA256 : String := ""
  previousCACertificateSHA256 : String := ""
  caRotationRequired : Bool := false
  certificateProfileRenewalRequired : Bool := false
  certificateFingerprint : String := ""
  certificateGeneration : Int := 0
  publicKeyHash : String := ""
  configSignature : String := ""
  configSigningPublicKey : String := ""
deriving Inhabited

structure RecoveryReceipt where
  nodeID : String := ""
  networkID : String := ""
  newAgentTokenHash : String := ""
  agentCredentialGeneration : Int := 0
  agentCredentialExpiresAt : Int := 0
  configSHA256 : String := ""
  configSignature : String := ""
  signature : String := ""
deriving Inhabited

structure AgentRecoveryBundle extends EnrollmentBundle where
  recoveryReceipt : RecoveryReceipt := {}
deriving Inhabited

structure AgentRecoveryToken where
  id : String := ""
  nodeID : String := ""
  tokenHash : String := ""
  createdAt : Int := 0
  expiresAt : Int := 0
  usedAt : Option Int := none
  claimID : String := ""
  claimedAt : Option Int := none
  claimKeyHash : String := ""
  claimedCredentialGeneration : Int := 0
  credentialGeneration : Int := 0
  credentialExpiresAt : Option Int := none
  result : Option AgentRecoveryBundle := none
deriving Inhabited

structure CertificateRevocation where
  fingerprint : String := ""
  nodeID : String := ""
  networkID : String := ""
  reason : String := ""
  revokedAt : Int := 0
  expiresAt : Option Int := none
deriving DecidableEq, Inhabited

structure CertificateIssuance where
  fingerprint : String := ""
  nodeID : String := ""
  networkID : String := ""
  issuedAt : Int := 0
  expiresAt : Int := 0
deriving DecidableEq, Inhabited

/-! ## Audit and state -/

/-- A value of an audit event's detail map. -/
inductive AuditValue where
  | null
  | bool (value : Bool)
  | int (value : Int)
  | time (value : Int)
  | str (value : String)
  | strs (values : List String)
deriving DecidableEq, Inhabited

/-- Details are a finite map, kept as an association list; `at` of the source is `occurredAt`. -/
structure AuditEvent where
  id : String := ""
  action : String := ""
  resource : String := ""
  resourceID : String := ""
  occurredAt : Int := 0
  details : List (String × AuditValue) := []
deriving DecidableEq, Inhabited

structure State where
  version : Int := 0
  masterKeyVerifier : String := ""
  adminCredentialVerifier : String := ""
  networks : List Network := []
  nodes : List Node := []
  enrollments : List EnrollmentToken := []
  agentRecoveries : List AgentRecoveryToken := []
  issuances : List CertificateIssuance := []
  revocations : List CertificateRevocation := []
  audit : List AuditEvent := []
deriving Inhabited

/-! ## What agents are sent -/

structure ConfigSignatureMetadata where
  nodeID : String := ""
  networkID : String := ""
  revision : Int := 0
  issuedAt : Int := 0
  caCertificateSHA256 : String := ""
  previousCACertificateSHA256 : String := ""
  caRotationRequired : Bool := false
  certificateProfileRenewalRequired : Bool := false
  certificateFingerprint : String := ""
  certificateExpiresAt : Int := 0
  certificateRenewAfter : Int := 0
  certificateGeneration : Int := 0
  publicKeyHash : String := ""
deriving DecidableEq, Inhabited

structure AgentConfig where
  nodeID : String := ""
  networkID : String := ""
  revision : Int := 0
  config : String := ""
  issuedAt : Int := 0
  sha256 : String := ""
  caCertificateSHA256 : String := ""
  previousCACertificateSHA256 : String := ""
  caRotationRequired : Bool := false
  certificateProfileRenewalRequired : Bool := false
  certificateFingerprint : String := ""
  certificateGeneration : Int := 0
  publicKeyHash : String := ""
  signature : String := ""
  certificateExpiresAt : Int := 0
  certificateRenewAfter : Int := 0
deriving DecidableEq, Inhabited

structure RenewalBundle where
  nodeID : String := ""
  networkID : String := ""
  ca : String := ""
  certificate : String := ""
  certificateExpiresAt : Int := 0
  certificateRenewAfter : Int := 0
  config : String := ""
  configRevision : Int := 0
  configIssuedAt : Int := 0
  configSHA256 : String := ""
  caCertificateSHA256 : String := ""
  previousCACertificateSHA256 : String := ""
  caRotationRequired : Bool := false
  certificateProfileRenewalRequired : Bool := false
  certificateFingerprint : String := ""
  certificateGeneration : Int := 0
  publicKeyHash : String := ""
  configSignature : String := ""
deriving DecidableEq, Inhabited

def AgentConfig.signatureMetadata (a : AgentConfig) : ConfigSignatureMetadata where
  nodeID := a.nodeID
  networkID := a.networkID
  revision := a.revision
  issuedAt := a.issuedAt
  caCertificateSHA256 := a.caCertificateSHA256
  previousCACertificateSHA256 := a.previousCACertificateSHA256
  caRotationRequired := a.caRotationRequired
  certificateProfileRenewalRequired := a.certificateProfileRenewalRequired
  certificateFingerprint := a.certificateFingerprint
  certificateExpiresAt := a.certificateExpiresAt
  certificateRenewAfter := a.certificateRenewAfter
  certificateGeneration := a.certificateGeneration
  publicKeyHash := a.publicKeyHash

def EnrollmentBundle.signatureMetadata (b : EnrollmentBundle) : ConfigSignatureMetadata where
  nodeID := b.nodeID
  networkID := b.networkID
  revision := b.configRevision
  issuedAt := b.configIssuedAt
  caCertificateSHA256 := b.caCertificateSHA256
  previousCACertificateSHA256 := b.previousCACertificateSHA256
  caRotationRequired := b.caRotationRequired
  certificateProfileRenewalRequired := b.certificateProfileRenewalRequired
  certificateFingerprint := b.certificateFingerprint
  certificateExpiresAt := b.certificateExpiresAt
  certificateRenewAfter := b.certificateRenewAfter
  certificateGeneration := b.certificateGeneration
  publicKeyHash := b.publicKeyHash

def RenewalBundle.signatureMetadata (b : RenewalBundle) : ConfigSignatureMetadata where
  nodeID := b.nodeID
  networkID := b.networkID
  revision := b.configRevision
  issuedAt := b.configIssuedAt
  caCertificateSHA256 := b.caCertificateSHA256
  previousCACertificateSHA256 := b.previousCACertificateSHA256
  caRotationRequired := b.caRotationRequired
  certificateProfileRenewalRequired := b.certificateProfileRenewalRequired
  certificateFingerprint := b.certificateFingerprint
  certificateExpiresAt := b.certificateExpiresAt
  certificateRenewAfter := b.certificateRenewAfter
  certificateGeneration := b.certificateGeneration
  publicKeyHash := b.publicKeyHash

end Mesh
