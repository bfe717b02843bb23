import Mesh.Control.Certificates

/-!
# Mesh.Control.Revocation

Revoking a node, on its own or to replace its identity with a new pending node. Revocation blocklists
every unexpired certificate that was issued to the node, takes the node out of the relays and of a
firewall rollout, and gives the network a new revision.
-/

namespace Mesh

/-- The node without its credential. -/
def revokedNode (now : Int) (n : Node) : Node :=
  { n with
    status := .revoked
    revokedAt := some now
    agentTokenHash := ""
    previousAgentTokenHash := ""
    previousAgentTokenExpiresAt := none
    agentCredentialExpiresAt := none
    renewalClaimID := ""
    renewalClaimedAt := none
    agentStatus := .revoked }

def revocationReason : String := "node revoked"

/-- Blocklists the unexpired issuances of a node, one after the other. -/
def revokeIssuances (nodeID : String) (now : Int) : List CertificateIssuance → State → State
  | [], s => s
  | i :: rest, s =>
    if i.nodeID = nodeID ∧ now < i.expiresAt then
      revokeIssuances nodeID now rest
        (appendRevocation s nodeID i.fingerprint revocationReason now (some i.expiresAt))
    else revokeIssuances nodeID now rest s

/-- Everything issued to the node and unexpired, and its last certificate. -/
def revokeCertificates (n : Node) (now : Int) (s : State) : State :=
  let s' := revokeIssuances n.id now s.issuances s
  if n.certificateFingerprint ≠ "" then
    appendRevocation s' n.id n.certificateFingerprint revocationReason now n.certificateExpiresAt
  else s'

/-- The node is one of the canaries of a rollout that runs or is paused. -/
def isRolloutCanary (w : Network) (nodeID : String) : Bool :=
  (w.firewallRollout.phase == .canary || w.firewallRollout.phase == .paused) &&
    nodeID ∈ w.firewallRollout.canaryNodeIDs

/-- The rollout without a canary; it ends with the last one. -/
def withoutCanary (nodeID : String) (w : Network) : Network :=
  let ids := w.firewallRollout.canaryNodeIDs.filter fun id => id ≠ nodeID
  { w with firewallRollout := if ids = [] then {} else { w.firewallRollout with canaryNodeIDs := ids } }

/-- What a revocation found in the network's settings. -/
structure DetachedNode where
  network : Network
  relayRemoved : Bool
  canaryRemoved : Bool
  rolledBack : Bool

def detachNode (s : State) (nodeID : String) (w : Network) : DetachedNode :=
  if s.version < controlStateVersionNetworkRelays then ⟨w, false, false, false⟩
  else
    let relay : Bool := nodeID ∈ w.relaySettings.relayNodeIDs
    let w₁ := if relay then withoutRelay nodeID w else w
    let canary : Bool := controlStateVersionFirewallRollout ≤ s.version ∧ isRolloutCanary w nodeID
    let w₂ := if canary then withoutCanary nodeID w₁ else w₁
    ⟨w₂, relay, canary, canary && w₂.firewallRollout.phase == .stable⟩

/-- The network without a revoked node. -/
def revokedNetwork (s : State) (nodeID : String) (now nextRevision : Int) (w : Network) : Network :=
  reconcileNetworkRoutePolicies s
    { (detachNode s nodeID w).network with configRevision := nextRevision, configUpdatedAt := now }

/-- The event of a canary's removal, which may end the rollout. -/
def canaryRemovedEvent (actor : Option Actor) (eventID : String) (now nextRevision : Int) (w : Network)
    (d : DetachedNode) (nodeID : String) : Result AuditEvent :=
  let previous := w.firewallRollout.canaryNodeIDs.length
  let base : AuditDetails := [("node_id", .str nodeID), ("previous_canary_nodes", .int previous),
    ("remaining_canary_nodes", .int (previous - 1)), ("config_revision", .int nextRevision)]
  if d.rolledBack then
    newOptionalAttributedAudit eventID now "network.firewall_rollout_auto_rolled_back" "network" w.id
      (base ++ [("discarded_sha256", .str (firewallPolicySHA256 w.firewallRollout.targetPolicy)),
        ("retained_sha256", .str (firewallPolicySHA256 w.firewallPolicy)),
        ("reason_code", .str "last_canary_revoked")]) actor
  else
    newOptionalAttributedAudit eventID now "network.firewall_rollout_canary_removed" "network" w.id base
      actor

/-- The state with that event, if a canary was removed. -/
def recordCanaryRemoval (actor : Option Actor) (eventID : String) (now nextRevision : Int) (w : Network)
    (d : DetachedNode) (nodeID : String) (s : State) : Result State :=
  if d.canaryRemoved then do
    let e ← canaryRemovedEvent actor eventID now nextRevision w d nodeID
    pure (addAudit s e)
  else .ok s

/-- A revocation with a receipt may repeat one that was committed, and otherwise names the node and the
revision it was decided on. -/
def checkRevocationInput (s : State) (source : Node) (input : RevokeNodeInput) : Result Unit := do
  reject (source.status = .revoked ∨ source.revokedAt ≠ none) (conflict "node already revoked")
  reject (source.name ≠ input.confirmationName)
    (conflict "confirmation name does not exactly match the node")
  let err := conflict "expected config revision does not match the node network"
  let w ← require (findNetwork s source.networkID) err
  reject (w.configRevision ≠ input.expectedConfigRevision) err

/-- The records of a revoked node: its recoveries are gone, with a receipt also its enrollments, and its
certificates are blocklisted. -/
def revokeRecords (withReceipt : Bool) (now : Int) (source : Node) (s : State) : State :=
  let n := revokedNode now source
  let s₁ := putNode s n
  revokeCertificates n now { s₁ with
    agentRecoveries := s₁.agentRecoveries.filter fun r => r.nodeID ≠ n.id
    enrollments := if withReceipt then s₁.enrollments.filter fun e => e.nodeID ≠ n.id
      else s₁.enrollments }

/-- The transaction of a revocation, up to the event of the node. -/
def revokeTransaction (actor : Option Actor) (receipt : Option RevokeNodeInput)
    (eventID rolloutEventID : String) (now : Int) (s : State) (source : Node) : Result State := do
  reject (source.status = .revoked) (conflict "node already revoked")
  let n := revokedNode now source
  let s₃ := revokeRecords receipt.isSome now source s
  let w ← require (findNetwork s₃ n.networkID) (internal "revoked node network is missing")
  let d := detachNode s₃ n.id w
  let nextRevision ← nextConfigRevision w.configRevision true
  let s₄ := putNetwork s₃ (revokedNetwork s₃ n.id now nextRevision w)
  let s₅ ← recordCanaryRemoval actor rolloutEventID now nextRevision w d n.id s₄
  let (action, details) : String × AuditDetails := match receipt with
    | none => ("node.revoked", [("fingerprint", .str n.certificateFingerprint),
        ("relay_assignment_removed", .bool d.relayRemoved),
        ("firewall_canary_removed", .bool d.canaryRemoved),
        ("firewall_rollout_auto_rolled_back", .bool d.rolledBack)])
    | some input => (nodeRevocationCommittedAuditAction, nodeRevocationAuditDetails {
        requestID := input.requestID, nodeID := n.id, networkID := n.networkID, name := n.name
        ip := n.ip, role := n.role, revokedAt := now, wasEnrolled := n.enrolledAt.isSome
        enrollmentRecordsInvalidated := s.enrollments.countP fun e => e.nodeID = n.id
        agentRecoveryRecordsInvalidated := s.agentRecoveries.countP fun r => r.nodeID = n.id
        blocklistEntriesAdded := (s₃.revocations.length : Int) - s.revocations.length
        relayAssignmentRemoved := d.relayRemoved, firewallCanaryRemoved := d.canaryRemoved
        firewallRolloutAutoRolledBack := d.rolledBack, credentialsInvalidated := true
        routedSubnetReservationsReleased := n.routedSubnets.length
        configRevision := nextRevision } input.expectedConfigRevision)
  let event ← newOptionalAttributedAudit eventID now action "node" n.id details actor
  pure (addAudit s₅ event)

/-- A node that takes part in a staged route change keeps its place until that ends. -/
def checkNotInRouteChange (s : State) (source : Node) : Result Unit :=
  reject ((findNetwork s source.networkID).any fun w =>
      routeTransferIncludesNode w.routeTransfer source.id ||
        routeProfileEditIncludesNode w.routeProfileEdit source.id)
    (conflict "node lifecycle changes are unavailable while it participates in a route transition")

def revokeNode (actor : Option Actor) (nodeID eventID rolloutEventID : String) (now : Int) (s : State) :
    Result State := do
  let source ← require (findNode s nodeID) errNotFound
  checkNotInRouteChange s source
  revokeTransaction actor none eventID rolloutEventID now s source

def revokeNodeWithReceipt (actor : Option Actor) (nodeID : String) (input : RevokeNodeInput)
    (eventID rolloutEventID : String) (now : Int) (s : State) : Result State := do
  let nodeID := trimSpace nodeID
  reject (¬ validPersistedID nodeID ∨ input.expectedConfigRevision < 1 ∨
    ¬ namePattern input.confirmationName ∨ ¬ validReceiptRequestID input.requestID) receiptInputError
  let source ← require (findNode s nodeID) errNotFound
  checkNotInRouteChange s source
  let replay ← findNodeRevocationReplay s nodeID input
  if replay.isSome then pure s
  else
    checkRevocationInput s source input
    revokeTransaction actor (some input) eventID rolloutEventID now s source

/-- Random values a replacement draws. -/
structure ReplacementDraws where
  nodeID : String
  enrollmentIDs : List String
  bearers : List String
  eventID : String

/-- The pending node that takes a revoked node's place. -/
def replacementNode (source : Node) (id address : String) (now : Int) : Node :=
  { id := id, networkID := source.networkID, name := source.name, ip := address
    routedSubnets := source.routedSubnets, site := source.site, failureDomain := source.failureDomain
    groups := source.groups, role := source.role, publicEndpoint := source.publicEndpoint
    status := .pending, createdAt := now }

/-- The second half of a replacement, on the state with the source revoked. Firewall rules that name
the source name the new node. -/
def createReplacement (actor : Option Actor) (draws : ReplacementDraws) (now : Int) (source : Node)
    (s : State) : Result State := do
  let w ← require (findNetwork s source.networkID) (internal "replacement source network is missing")
  validateRoutedSubnetsForNode s source.id source.routedSubnets
  let address ← nextAddress s w
  let enrollmentID ← uniqueEnrollmentID s draws.enrollmentIDs
  let token ← uniqueUnseenEnrollmentBearer s draws.bearers
  let expiresAt := now + enrollmentLifetime
  let created := replacementNode source draws.nodeID address now
  let (policy, transferred) := replaceFirewallPolicyNodeReferences w.firewallPolicy source.id draws.nodeID
  let event ← newOptionalAttributedAudit draws.eventID now "node.identity_replacement_created" "node"
    draws.nodeID [("revoked_node_id", .str source.id), ("name", .str created.name),
      ("ip", .str created.ip), ("role", .str created.role.text),
      ("config_revision", .int w.configRevision), ("expires_at", .time expiresAt),
      ("firewall_references_transferred", .int transferred)] actor
  let s' := putNetwork s { w with firewallPolicy := policy }
  pure (addAudit { s' with
    nodes := s'.nodes ++ [created]
    enrollments := s'.enrollments ++ [{
      id := enrollmentID, nodeID := draws.nodeID, tokenHash := hashToken token, createdAt := now
      expiresAt := expiresAt }] } event)

def replaceNode (actor : Option Actor) (nodeID : String) (expectedConfigRevision : Int)
    (eventID rolloutEventID : String) (draws : ReplacementDraws) (now : Int) (s : State) :
    Result State := do
  reject (¬ validPersistedID nodeID ∨ expectedConfigRevision < 1)
    (invalid "node ID and expected_config_revision are required")
  let source ← require (findNode s nodeID) errNotFound
  checkNotInRouteChange s source
  reject (source.status ≠ .active ∨ source.enrolledAt = none ∨ source.revokedAt ≠ none)
    (conflict "identity replacement requires an active enrolled node")
  let err := conflict "expected config revision does not match the active node network"
  let w ← require (findNetwork s source.networkID) err
  reject (w.configRevision ≠ expectedConfigRevision) err
  reject (w.firewallRollout.phase ≠ .stable)
    (conflict "identity replacement is unavailable during a firewall rollout")
  let s' ← revokeTransaction actor none eventID rolloutEventID now s source
  createReplacement actor draws now source s'

end Mesh
