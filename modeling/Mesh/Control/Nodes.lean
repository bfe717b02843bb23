import Mesh.Control.Agents

/-!
# Mesh.Control.Nodes

The administrator's work on networks and nodes outside a node's enrolled life: creating a network and
a pending node, placing a node, reissuing or cancelling a pending enrollment, archiving a revoked node
once its certificates have expired, and retiring a network.
-/

namespace Mesh

open Address

/-! ## Networks -/

structure CreateNetworkInput where
  name : String
  cidr : String
  listenPort : Int := 0
  certificateTTL : Int := 0

/-- What the issuer and the secret box return for a new network. -/
structure NetworkMaterial where
  caCertificate : String
  caKey : String
  encryptedCAKey : String
  configSigningPublicKey : String
  encryptedConfigSigningKey : String

/-- The checked input: the name, the canonical address space, the port and the certificate lifetime. -/
def checkCreateNetworkInput (input : CreateNetworkInput) : Result (String × String × Int × Int) := do
  let name := trimSpace input.name
  reject (¬ namePattern name)
    (invalid "name must be 1-63 letters, digits, dots, dashes, or underscores")
  let (_, p) ← require (parseCIDR4 (trimSpace input.cidr)) (invalid "CIDR must be a valid IPv4 network")
  reject (p.bits < 16 ∨ 28 < p.bits) (invalid "CIDR prefix must be between /16 and /28")
  let listenPort := if input.listenPort = 0 then 4242 else input.listenPort
  reject (listenPort < 1 ∨ 65535 < listenPort) (invalid "listen port must be 1-65535")
  let ttl := if input.certificateTTL = 0 then 8760 else input.certificateTTL
  reject (ttl < 24 ∨ 8760 < ttl) (invalid "certificate lifetime must be between 24 and 8760 hours")
  pure (name, p.text, listenPort, ttl)

def createNetwork (actor : Option Actor) (input : CreateNetworkInput) (material : NetworkMaterial)
    (id eventID : String) (now : Int) (s : State) : Result State := do
  let (name, cidr, listenPort, ttl) ← checkCreateNetworkInput input
  mapError (fun e => invalid e.text) (validateGeneratedCA material.caCertificate material.caKey)
  reject (s.networks.any fun w => equalFold w.name name || cidrsOverlap w.cidr cidr)
    (conflict "network name or address range already exists")
  let retiredConflict ← retiredNetworkReservationConflict s name cidr
  reject retiredConflict (conflict "retired network names and address ranges are permanently reserved")
  rejectFound (managedCIDROverlapsRoutedSubnet s cidr) fun routed =>
    conflict ("network address range overlaps reserved routed subnet " ++ routed)
  let event ← newOptionalAttributedAudit eventID now "network.created" "network" id
    [("name", .str name), ("cidr", .str cidr)] actor
  let w : Network := {
    id := id, name := name, cidr := cidr, firewallPolicy := defaultManagedFirewallPolicy
    listenPort := listenPort, certificateTTL := ttl, caCertificate := material.caCertificate
    encryptedCAKey := material.encryptedCAKey
    configSigningPublicKey := material.configSigningPublicKey
    encryptedConfigSigningKey := material.encryptedConfigSigningKey
    configRevision := 1, configUpdatedAt := now, createdAt := now
    dnsSettings := if controlStateVersionNetworkDNS ≤ s.version then defaultNetworkDNSSettings else {} }
  pure (addAudit { s with networks := s.networks ++ [w] } event)

structure RetireNetworkInput where
  expectedConfigRevision : Int
  confirmationName : String

/-- The identifiers of the nodes of a network. -/
def networkNodeIDs (s : State) (networkID : String) : List String :=
  (s.nodes.filter fun n => n.networkID = networkID).map Node.id

def countStatus (s : State) (networkID : String) (status : NodeStatus) : Nat :=
  s.nodes.countP fun n => n.networkID = networkID && n.status = status

def retireNetwork (actor : Option Actor) (networkID : String) (input : RetireNetworkInput)
    (eventID : String) (now : Int) (s : State) : Result State := do
  reject (¬ validPersistedID networkID ∨ input.expectedConfigRevision < 1 ∨
      ¬ namePattern input.confirmationName)
    (invalid "network ID, expected_config_revision, and exact confirmation_name are required")
  reject (now = 0) (invalid "network retirement requires a valid timestamp")
  let w ← require (findNetwork s networkID) errNotFound
  reject (w.name ≠ input.confirmationName)
    (conflict "confirmation name does not exactly match the network")
  reject (w.configRevision ≠ input.expectedConfigRevision)
    (revisionConflict input.expectedConfigRevision w.configRevision)
  let ids := networkNodeIDs s networkID
  let event ← newOptionalAttributedAudit eventID now networkRetiredAuditAction "network" networkID
    [("name", .str w.name), ("cidr", .str w.cidr), ("config_revision", .int w.configRevision),
      ("node_count", .int ids.length), ("pending_nodes", .int (countStatus s networkID .pending)),
      ("active_nodes", .int (countStatus s networkID .active)),
      ("revoked_nodes", .int (countStatus s networkID .revoked)),
      ("enrollment_records_removed", .int (s.enrollments.countP fun e => e.nodeID ∈ ids)),
      ("agent_recovery_records_removed", .int (s.agentRecoveries.countP fun r => r.nodeID ∈ ids)),
      ("certificate_issuances_removed", .int (s.issuances.countP fun i => i.networkID = networkID)),
      ("revocations_removed", .int (s.revocations.countP fun r => r.networkID = networkID)),
      ("credentials_invalidated", .bool true), ("encrypted_key_material_removed", .bool true),
      ("name_cidr_permanently_reserved", .bool true)] actor
  pure (addAudit { s with
    networks := Keyed.drop Network.id networkID s.networks
    nodes := s.nodes.filter fun n => n.networkID ≠ networkID
    enrollments := s.enrollments.filter fun e => e.nodeID ∉ ids
    agentRecoveries := s.agentRecoveries.filter fun r => r.nodeID ∉ ids
    issuances := s.issuances.filter fun i => i.networkID ≠ networkID
    revocations := s.revocations.filter fun r => r.networkID ≠ networkID } event)

/-! ## Node inputs -/

def unassignedTopologyLabel : String := "unassigned"

def normalizeTopologyLabel (value field : String) : Result String := do
  let value := toLower (trimSpace value)
  if value = "" then pure unassignedTopologyLabel
  else
    reject (¬ topologyLabelPattern value)
      (invalid (field ++ " must be a 1-63 character lowercase placement label"))
    pure value

def appendUnique (values : List String) (value : String) : List String :=
  if value ∈ values then values else values ++ [value]

def tooManyGroups : Failure :=
  invalid ("a node may have at most " ++ toString maxNodeGroups ++ " groups including all")

/-- The trimmed groups without blanks and repetitions, in the order given. -/
def collectGroups (acc : List String) : List String → Result (List String)
  | [] => .ok acc
  | raw :: rest => do
    let group := trimSpace raw
    if group = "" then collectGroups acc rest
    else
      reject (¬ groupPattern group) (invalid ("invalid group \"" ++ group ++ "\""))
      collectGroups (appendUnique acc group) rest

def normalizeGroups (groups : List String) : Result (List String) := do
  reject (maxNodeGroups < groups.length) tooManyGroups
  let result ← collectGroups [] groups
  pure (sortStrings result)

/-- `canonicalNodeMembershipGroups`: the groups with `all`, in order. -/
def canonicalNodeMembershipGroups (groups : List String) : Result (List String) := do
  let normalized ← normalizeGroups groups
  let canonical := sortStrings (appendUnique normalized "all")
  reject (maxNodeGroups < canonical.length) tooManyGroups
  pure canonical

/-! ## Addresses -/

/-- An address as a slice of four bytes. -/
def ipv4Bytes (a : Nat) : List Nat := [a / 16777216 % 256, a / 65536 % 256, a / 256 % 256, a % 256]

/-- `net.IPv4`: an address as a slice of sixteen bytes. -/
def netIPv4 (a : Nat) : List Nat := List.replicate 10 0 ++ [255, 255] ++ ipv4Bytes a

/-- The first four bytes of the slice are those of the last address of the network. Of a slice of sixteen
bytes they are zero. -/
def isBroadcast (p : Subnet) (ip : List Nat) : Bool := ip.take 4 == ipv4Bytes (p.addr + p.size - 1)

/-- The first free address at the offset or after it. -/
def addressFrom (s : State) (w : Network) (base : Nat) (p : Subnet) : Nat → Nat → Result String
  | 0, _ => .error (conflict "network address space is exhausted")
  | tries + 1, offset =>
    let candidate := (base + offset) % 4294967296
    let value := formatIPv4 candidate
    if ¬ p.contains candidate then .error (conflict "network address space is exhausted")
    else if (s.nodes.any fun n => n.networkID = w.id && n.ip = value) || isBroadcast p (netIPv4 candidate) then
      addressFrom s w base p tries (offset + 1)
    else .ok value

def nextAddress (s : State) (w : Network) : Result String := do
  let (base, p) ← require (parseCIDR4 w.cidr) (internal "network has an invalid CIDR")
  addressFrom s w base p 65526 10

def validateNodeIP (s : State) (w : Network) (value : String) : Result Unit := do
  let err := invalid ("IP must be a usable address in " ++ w.cidr)
  let a ← require ((parseIP value).bind Addr.to4) err
  let (_, p) ← require (parseCIDR4 w.cidr) err
  reject (¬ p.contains a ∨ a = p.addr ∨ isBroadcast p (ipv4Bytes a)) err
  reject (s.nodes.any fun n => n.networkID = w.id && n.ip = value) (conflict "IP is already assigned")

/-- The address asked for, or the next free one. -/
def chooseAddress (s : State) (w : Network) (ip : String) : Result String :=
  if ip = "" then nextAddress s w
  else do
    validateNodeIP s w ip
    pure ip

/-! ## Pending nodes -/

structure CreateNodeInput where
  name : String
  ip : String := ""
  routedSubnets : List String := []
  site : String := ""
  failureDomain : String := ""
  groups : List String := []
  role : String := ""
  publicEndpoint : String := ""

def enrollmentLifetime : Int := 30 * Calendar.minute

/-- The node an input describes, without its address. -/
def checkCreateNodeInput (input : CreateNodeInput) : Result Node := do
  let name := trimSpace input.name
  reject (¬ namePattern name) (invalid "invalid node name")
  let role ← require (if input.role = "" then some .member else Role.ofText? input.role)
    (invalid "role must be member or lighthouse")
  let endpoint := trimSpace input.publicEndpoint
  reject (role = .lighthouse ∧ endpoint = "")
    (invalid "a lighthouse requires a public host:port endpoint")
  if endpoint ≠ "" then validateEndpoint endpoint
  let site ← normalizeTopologyLabel input.site "site"
  let failureDomain ← normalizeTopologyLabel input.failureDomain "failure domain"
  let groups ← canonicalNodeMembershipGroups input.groups
  let routedSubnets ← normalizeRoutedSubnets input.routedSubnets
  pure { name := name, role := role, publicEndpoint := endpoint, site := site,
         failureDomain := failureDomain, groups := groups, routedSubnets := routedSubnets,
         status := .pending }

/-- `later` is the second clock reading, from which the token's expiry counts. -/
def createNode (actor : Option Actor) (networkID : String) (input : CreateNodeInput)
    (nodeID enrollmentID : String) (bearers : List String) (eventID : String) (now later : Int)
    (s : State) : Result State := do
  let template ← checkCreateNodeInput input
  reject (s.version < controlStateVersionTopology ∧ (input.site ≠ "" ∨ input.failureDomain ≠ ""))
    (conflict "topology schema is not current")
  let w ← require (findNetwork s networkID) errNotFound
  validateNewRoutedSubnets s template.routedSubnets
  reject (s.nodes.any fun n => n.networkID = networkID && equalFold n.name template.name &&
      n.status ≠ .revoked)
    (conflict "node name already exists")
  let address ← chooseAddress s w (trimSpace input.ip)
  let token ← uniqueBearer s bearers
  let routes : AuditDetails :=
    if template.routedSubnets = [] then [] else [("routed_subnets", .strs template.routedSubnets)]
  let event ← newOptionalAttributedAudit eventID now "node.created" "node" nodeID
    ([("name", .str template.name), ("ip", .str address), ("role", .str template.role.text)] ++ routes)
    actor
  let created := { template with
    id := nodeID, networkID := networkID, ip := address, createdAt := now
    site := if controlStateVersionTopology ≤ s.version then template.site else ""
    failureDomain := if controlStateVersionTopology ≤ s.version then template.failureDomain else "" }
  pure (addAudit { s with
    nodes := s.nodes ++ [created]
    enrollments := s.enrollments ++ [{
      id := enrollmentID, nodeID := nodeID, tokenHash := hashToken token, createdAt := now
      expiresAt := later + enrollmentLifetime }] } event)

structure UpdateNodeTopologyInput where
  site : String
  failureDomain : String

/-- The placement of the node in a recovery's stored answer, which the validator compares. -/
def placeRecovery (nodeID site failureDomain : String) (r : AgentRecoveryToken) : AgentRecoveryToken :=
  { r with result := r.result.map fun b =>
      if b.node.id = nodeID then
        { b with node := { b.node with site := site, failureDomain := failureDomain } }
      else b }

def updateNodeTopology (actor : Option Actor) (nodeID : String) (input : UpdateNodeTopologyInput)
    (eventID : String) (now : Int) (s : State) : Result State := do
  reject (¬ validPersistedID nodeID) (invalid "invalid node ID")
  let site ← normalizeTopologyLabel input.site "site"
  let failureDomain ← normalizeTopologyLabel input.failureDomain "failure domain"
  reject (s.version < controlStateVersionTopology) (conflict "topology schema is not current")
  let n ← require (findNode s nodeID) errNotFound
  reject (n.status = .revoked) (conflict "revoked node placement cannot be changed")
  if n.site = site ∧ n.failureDomain = failureDomain then pure s
  else
    reject (now = 0) (internal "topology update requires a valid timestamp")
    let event ← newOptionalAttributedAudit eventID now "node.topology_updated" "node" nodeID
      [("old_site", .str n.site), ("site", .str site), ("old_failure_domain", .str n.failureDomain),
        ("failure_domain", .str failureDomain)] actor
    let s' := putNode s { n with site := site, failureDomain := failureDomain }
    pure (addAudit { s' with
      agentRecoveries := s'.agentRecoveries.map (placeRecovery nodeID site failureDomain) } event)

def reissueEnrollment (actor : Option Actor) (nodeID : String) (bearers ids : List String)
    (eventID : String) (now : Int) (s : State) : Result State := do
  let nodeID := trimSpace nodeID
  let n ← require (findNode s nodeID) errNotFound
  reject (n.status ≠ .pending ∨ n.enrolledAt ≠ none)
    (conflict "enrollment can only be reissued for a never-enrolled pending node")
  -- the old records still count as used while the new token is drawn
  let token ← uniqueUnseenEnrollmentBearer s bearers
  let enrollmentID ← uniqueEnrollmentID s ids
  let expiresAt := now + enrollmentLifetime
  let event ← newOptionalAttributedAudit eventID now "node.enrollment_reissued" "node" nodeID
    [("expires_at", .time expiresAt),
      ("invalidated_tokens", .int (s.enrollments.countP fun e => e.nodeID = nodeID))] actor
  pure (addAudit { s with
    enrollments := (s.enrollments.filter fun e => e.nodeID ≠ nodeID) ++ [{
      id := enrollmentID, nodeID := nodeID, tokenHash := hashToken token, createdAt := now
      expiresAt := expiresAt }] } event)

/-- The network without a relay; relaying ends with the last one. -/
def withoutRelay (nodeID : String) (w : Network) : Network :=
  let ids := w.relaySettings.relayNodeIDs.filter fun id => id ≠ nodeID
  { w with relaySettings := {
      enabled := if ids = [] then false else w.relaySettings.enabled, relayNodeIDs := ids } }

def cancelPendingNode (actor : Option Actor) (nodeID confirmationName : String) (eventID : String)
    (now : Int) (s : State) : Result State := do
  let nodeID := trimSpace nodeID
  reject (¬ validPersistedID nodeID ∨ ¬ namePattern confirmationName)
    (invalid "node ID and exact confirmation_name are required")
  reject (now = 0) (invalid "pending enrollment cancellation requires a valid timestamp")
  let n ← require (findNode s nodeID) errNotFound
  reject (n.status ≠ .pending ∨ n.enrolledAt ≠ none ∨ n.certificate ≠ "" ∨ n.certificateFingerprint ≠ "")
    (conflict "only a never-enrolled pending node can be cancelled")
  reject (n.name ≠ confirmationName)
    (conflict "confirmation name does not exactly match the pending node")
  let w ← require (findNetwork s n.networkID) errNotFound
  let relay : Bool := controlStateVersionNetworkRelays ≤ s.version ∧ n.id ∈ w.relaySettings.relayNodeIDs
  let revision ← nextConfigRevision w.configRevision relay
  let w' := if relay then
      { withoutRelay n.id w with configRevision := revision, configUpdatedAt := now }
    else w
  let event ← newOptionalAttributedAudit eventID now "node.pending_cancelled" "node" n.id
    [("network_id", .str n.networkID), ("name", .str n.name), ("ip", .str n.ip),
      ("role", .str n.role.text),
      ("enrollment_records_invalidated", .int (s.enrollments.countP fun e => e.nodeID = n.id)),
      ("relay_assignment_removed", .bool relay),
      ("routed_subnet_reservations_released", .int n.routedSubnets.length),
      ("config_revision", .int w'.configRevision)] actor
  let s' := putNetwork s w'
  pure (addAudit { s' with
    nodes := Keyed.drop Node.id n.id s'.nodes
    enrollments := s'.enrollments.filter fun e => e.nodeID ≠ n.id } event)

/-! ## Archival -/

structure ArchiveNodeInput where
  expectedConfigRevision : Int
  confirmationName : String

/-- The later of two instants. -/
def laterOf (a b : Int) : Int := if a < b then b else a

/-- The last expiry of a node's certificates, from its record, its issuances and its revocations. A
revocation without an expiry keeps the node. -/
def lastCertificateExpiry (s : State) (n : Node) : Result Int := do
  let own := n.certificateExpiresAt.getD 0
  let issued := (s.issuances.filter fun i => i.nodeID = n.id).foldl (fun t i => laterOf t i.expiresAt) own
  let revoked := s.revocations.filter fun r => r.nodeID = n.id
  reject (revoked.any fun r => r.expiresAt = none)
    (conflict "revoked node has a permanent or legacy blocklist entry without an expiry")
  pure (revoked.foldl (fun t r => laterOf t (r.expiresAt.getD 0)) issued)

def archiveNode (actor : Option Actor) (nodeID : String) (input : ArchiveNodeInput) (eventID : String)
    (now : Int) (s : State) : Result State := do
  let nodeID := trimSpace nodeID
  reject (¬ validPersistedID nodeID ∨ input.expectedConfigRevision < 1 ∨
      ¬ namePattern input.confirmationName)
    (invalid "node ID, expected_config_revision, and exact confirmation_name are required")
  reject (now = 0) (invalid "node archival requires a valid timestamp")
  let n ← require (findNode s nodeID) errNotFound
  let err := conflict "only a revoked node can be archived"
  reject (n.status ≠ .revoked) err
  let revokedAt ← require n.revokedAt err
  reject (n.name ≠ input.confirmationName)
    (conflict "confirmation name does not exactly match the revoked node")
  let w ← require (findNetwork s n.networkID) errNotFound
  reject (w.configRevision ≠ input.expectedConfigRevision)
    (revisionConflict input.expectedConfigRevision w.configRevision)
  reject (firewallPolicyReferencesNode w.firewallPolicy n.id ∨ (w.firewallRollout.phase ≠ .stable ∧
      firewallPolicyReferencesNode w.firewallRollout.targetPolicy n.id))
    (conflict "remove firewall rules that reference this node before archiving its identity")
  let lastExpiry ← lastCertificateExpiry s n
  let issuanceRecords := s.issuances.countP fun i => i.nodeID = n.id
  let revocationRecords := s.revocations.countP fun r => r.nodeID = n.id
  let enrolled := n.enrolledAt.isSome
  reject (enrolled ∧ (issuanceRecords = 0 ∨ revocationRecords = 0 ∨ lastExpiry = 0))
    (conflict "enrolled revoked node is missing complete certificate history")
  reject (enrolled ∧ now < lastExpiry + nodeArchiveCertificateSafetyMargin)
    (conflict ("certificate blocklist authority remains required until " ++
      Calendar.rfc3339Nano (lastExpiry + nodeArchiveCertificateSafetyMargin)))
  reject (¬ enrolled ∧ (issuanceRecords ≠ 0 ∨ revocationRecords ≠ 0 ∨ lastExpiry ≠ 0))
    (conflict "never-enrolled revoked node has unexpected certificate history")
  let blocked : Bool := 0 < revocationRecords
  let revision ← nextConfigRevision w.configRevision blocked
  let w' := if blocked then { w with configRevision := revision, configUpdatedAt := now } else w
  let event ← newOptionalAttributedAudit eventID now nodeArchivedAuditAction "node" n.id
    [("network_id", .str n.networkID), ("name", .str n.name), ("ip", .str n.ip),
      ("role", .str n.role.text), ("revoked_at", .str (Calendar.rfc3339Nano revokedAt)),
      ("enrolled", .bool enrolled),
      ("last_certificate_expired_at",
        .str (if lastExpiry = 0 then "" else Calendar.rfc3339Nano lastExpiry)),
      ("enrollment_records_removed", .int (s.enrollments.countP fun e => e.nodeID = n.id)),
      ("agent_recovery_records_removed", .int (s.agentRecoveries.countP fun r => r.nodeID = n.id)),
      ("certificate_issuances_removed", .int issuanceRecords),
      ("revocations_removed", .int revocationRecords),
      ("blocklist_entries_removed", .int revocationRecords),
      ("routed_subnet_reservations_released", .int n.routedSubnets.length),
      ("certificate_material_removed", .bool true), ("agent_credentials_invalidated", .bool true),
      ("all_certificate_records_expired", .bool true), ("config_revision", .int w'.configRevision)] actor
  let s' := putNetwork s w'
  pure (addAudit { s' with
    nodes := Keyed.drop Node.id n.id s'.nodes
    enrollments := s'.enrollments.filter fun e => e.nodeID ≠ n.id
    agentRecoveries := s'.agentRecoveries.filter fun r => r.nodeID ≠ n.id
    issuances := s'.issuances.filter fun i => i.nodeID ≠ n.id
    revocations := s'.revocations.filter fun r => r.nodeID ≠ n.id } event)

end Mesh
