import Mesh.Control.CaRotation

/-!
# Mesh.Control.Receipts

Audit events as durable receipts. An administrator's certificate rotation, group change or revocation
can be asked for again with the same request identifier and is then answered from its audit event;
an archived node and a retired network leave an event that reserves their identity. Every stored
event of these kinds is parsed again by the graph validator.
-/

namespace Mesh

open Address

/-! ## Details -/

def maxAuditActionBytes : Nat := 128
def maxAuditResourceBytes : Nat := 64
def maxAuditDetailKeysPerObject : Nat := 32
def maxAuditDetailArrayItems : Nat := 32
def maxAuditDetailScalars : Nat := 128
def maxAuditDetailStringBytes : Nat := 1024
def maxAuditDetailAggregateStringBytes : Nat := 16384

def auditLabelPattern (s : String) : Bool :=
  match s.toList with
  | [] => false
  | c :: cs => isAlphanumeric c && cs.all fun c => isAlphanumeric c || c == '.' || c == '_' || c == '-'

def validAuditLabel (value : String) (maxBytes : Nat) : Bool :=
  value.utf8ByteSize ≤ maxBytes && auditLabelPattern value

def validateAuditText (value : String) : Result Unit :=
  reject (¬ validBoundedPlainText value maxAuditDetailStringBytes true)
    (internal "string is oversized, not valid UTF-8, or contains control characters")

def validateAuditDetailValue : AuditValue → Result Unit
  | .null | .bool _ | .int _ => .ok ()
  | .time t => reject (t = 0) (internal "time is zero")
  | .str value => validateAuditText value
  | .strs values => do
    reject (maxAuditDetailArrayItems < values.length)
      (internal ("detail array exceeds " ++ toString maxAuditDetailArrayItems ++ " items"))
    checkAll validateAuditText values

def AuditValue.scalars : AuditValue → Nat
  | .strs values => values.length
  | _ => 1

def AuditValue.stringBytes : AuditValue → Nat
  | .str value => value.utf8ByteSize
  | .time t => (Calendar.rfc3339Nano t).utf8ByteSize
  | .strs values => (values.map String.utf8ByteSize).sum
  | _ => 0

/-- The budget is counted while the map is walked in no fixed order; it is exceeded on the way exactly
when it is exceeded in the end. -/
def validateAuditDetails (d : AuditDetails) : Result Unit := do
  reject (maxAuditDetailKeysPerObject < d.length)
    (internal ("detail object exceeds " ++ toString maxAuditDetailKeysPerObject ++ " keys"))
  checkAll (fun (key, value) => do
    reject (¬ validAuditLabel key maxAuditResourceBytes)
      (internal ("detail key \"" ++ key ++ "\" is invalid"))
    mapError (Failure.wrap ("detail \"" ++ key ++ "\"")) (validateAuditDetailValue value)) d
  reject (maxAuditDetailScalars < (d.map fun kv => kv.2.scalars).sum)
    (internal ("details exceed " ++ toString maxAuditDetailScalars ++ " scalar values"))
  reject (maxAuditDetailAggregateStringBytes < (d.map fun kv => kv.2.stringBytes).sum)
    (internal ("detail strings exceed " ++ toString maxAuditDetailAggregateStringBytes ++
      " aggregate bytes"))

def auditActorKeys : List String := [auditActorIDKey, auditActorKindKey, auditActorSessionIDKey]

def validateAuditActorMetadata (d : AuditDetails) : Result Unit := do
  let present := auditActorKeys.countP d.has
  if present = 0 then pure ()
  else
    reject (present ≠ 3) (internal "partial actor attribution metadata")
    let err := internal "actor attribution metadata must contain strings"
    let id ← require (d.text? auditActorIDKey) err
    let kind ← require (d.text? auditActorKindKey) err
    let sessionID ← require (d.text? auditActorSessionIDKey) err
    validateActor ⟨id, kind, sessionID⟩

/-- `auditRFC3339Time`. -/
def AuditDetails.time? (d : AuditDetails) (key : String) : Option Int :=
  match d.get key with
  | some (.str text) => (Calendar.parseRFC3339 text).filter (· ≠ 0)
  | some (.time t) => if t ≠ 0 then some t else none
  | _ => none

def Role.ofText? (text : String) : Option Role :=
  if text = "member" then some .member else if text = "lighthouse" then some .lighthouse else none

def AuditDetails.role? (d : AuditDetails) (key : String) : Option Role := (d.text? key).bind Role.ofText?

/-- A truth value that must be there. -/
def AuditDetails.isTrue (d : AuditDetails) (key : String) : Bool := d.bool? key == some true

/-- The details have the required keys and, apart from the actor, no others. -/
def checkDetailKeys (required : List String) (d : AuditDetails) : Result Unit := do
  checkAll (fun kv : String × AuditValue => reject (kv.1 ∉ required ++ auditActorKeys)
    (internal ("unexpected detail \"" ++ kv.1 ++ "\""))) d
  checkAll (fun key => reject (¬ d.has key) (internal ("missing detail \"" ++ key ++ "\""))) required

/-- `validCertificateRotationRequestID` and `validNodeRevocationRequestID`. -/
def validReceiptRequestID (value : String) : Bool := 16 ≤ value.utf8ByteSize && validPersistedID value

def maxNodeGroups : Nat := 64

/-- Group names in strictly increasing order. -/
def groupsIncrease : List String → Bool
  | a :: b :: rest => a < b && groupsIncrease (b :: rest)
  | _ => true

def validCanonicalNodeGroups (groups : List String) : Bool :=
  groups ≠ [] && groups.length ≤ maxNodeGroups && groups.all groupPattern && groupsIncrease groups &&
    "all" ∈ groups

/-! ## Looking receipts up -/

section Receipts

variable {ρ : Type}

/-- The events of an action. -/
def actionEvents (action : String) (s : State) : List AuditEvent := s.audit.filter fun e => e.action = action

def AuditEvent.requestID? (e : AuditEvent) : Option String := AuditDetails.text? e.details "request_id"

def sameRequest (requestID : String) (e : AuditEvent) : Bool := e.requestID? == some requestID

/-- The committed result of a request. The first event with the request's identifier decides: it must
parse and belong to this very request. -/
def findReceipt (action invalidText boundText : String) (parse : AuditEvent → Result (ρ × Int))
    (same : AuditEvent → ρ → Int → Bool) (requestID : String) (s : State) : Result (Option ρ) := do
  match (actionEvents action s).find? (sameRequest requestID) with
  | none => pure none
  | some e =>
    let (receipt, expectedRevision) ← mapError (Failure.wrap invalidText) (parse e)
    reject (¬ same e receipt expectedRevision) (conflict boundText)
    pure (some receipt)

/-- Every event of the action parses and no two carry the same request identifier. -/
def validateReceipts (action label duplicateLabel : String) (parse : AuditEvent → Result (ρ × Int))
    (s : State) : Result Unit :=
  checkSeen (fun seen e => do
    let _ ← mapError (Failure.wrap (label ++ " \"" ++ e.id ++ "\"")) (parse e)
    reject (seen.any fun e' => e'.requestID? == e.requestID?)
      (internal ("duplicate " ++ duplicateLabel ++ " request_id \"" ++ e.requestID?.getD "" ++ "\"")))
    [] (actionEvents action s)

end Receipts

/-! ## Certificate rotation -/

def nodeCertificateRotatedAuditAction : String := "node.certificate_rotated"

structure RotatedNodeCertificate where
  requestID : String
  nodeID : String
  networkID : String
  name : String
  ip : String
  role : Role
  rotatedAt : Int
  previousCertificateExpiresAt : Int
  certificateExpiresAt : Int
  certificateRenewAfter : Int
  previousCertificateGeneration : Int
  certificateGeneration : Int
  agentRecoveryRecordsInvalidated : Int
  certificateIssuancesAdded : Int
  blocklistEntriesAdded : Int
  previousCertificateBlocklisted : Bool
  configRevision : Int

def certificateRotationAuditDetails (r : RotatedNodeCertificate) (expectedRevision : Int) : AuditDetails := [
  ("request_id", .str r.requestID), ("network_id", .str r.networkID), ("name", .str r.name),
  ("ip", .str r.ip), ("role", .str r.role.text),
  ("rotated_at", .str (Calendar.rfc3339Nano r.rotatedAt)),
  ("previous_certificate_expires_at", .str (Calendar.rfc3339Nano r.previousCertificateExpiresAt)),
  ("certificate_expires_at", .str (Calendar.rfc3339Nano r.certificateExpiresAt)),
  ("certificate_renew_after", .str (Calendar.rfc3339Nano r.certificateRenewAfter)),
  ("previous_certificate_generation", .int r.previousCertificateGeneration),
  ("certificate_generation", .int r.certificateGeneration),
  ("expected_config_revision", .int expectedRevision), ("config_revision", .int r.configRevision),
  ("agent_recovery_records_invalidated", .int r.agentRecoveryRecordsInvalidated),
  ("certificate_issuances_added", .int r.certificateIssuancesAdded),
  ("blocklist_entries_added", .int r.blocklistEntriesAdded),
  ("previous_certificate_blocklisted", .bool r.previousCertificateBlocklisted)]

def rotationDetailKeys : List String := ["request_id", "network_id", "name", "ip", "role", "rotated_at",
  "previous_certificate_expires_at", "certificate_expires_at", "certificate_renew_after",
  "previous_certificate_generation", "certificate_generation", "expected_config_revision",
  "config_revision", "agent_recovery_records_invalidated", "certificate_issuances_added",
  "blocklist_entries_added", "previous_certificate_blocklisted"]

def receiptResourceError : Failure := internal "invalid resource metadata"

def parseNodeCertificateRotationEvent (e : AuditEvent) : Result (RotatedNodeCertificate × Int) := do
  let d : AuditDetails := e.details
  checkDetailKeys rotationDetailKeys d
  reject (e.resource ≠ "node" ∨ ¬ validPersistedID e.resourceID) receiptResourceError
  let err := internal "identity, lifecycle, or transition details are invalid"
  let requestID ← require ((d.text? "request_id").filter fun v => validReceiptRequestID v) err
  let networkID ← require ((d.text? "network_id").filter fun v => validPersistedID v) err
  let name ← require ((d.text? "name").filter fun v => namePattern v) err
  let ip ← require ((d.text? "ip").filter fun v => isCanonicalIPv4 v) err
  let role ← require (d.role? "role") err
  let rotatedAt ← require (d.time? "rotated_at") err
  let previousExpiry ← require (d.time? "previous_certificate_expires_at") err
  let expiresAt ← require (d.time? "certificate_expires_at") err
  let renewAfter ← require (d.time? "certificate_renew_after") err
  let previousGeneration ← require (d.nat? "previous_certificate_generation") err
  let generation ← require (d.nat? "certificate_generation") err
  let expectedRevision ← require (d.nat? "expected_config_revision") err
  let configRevision ← require (d.nat? "config_revision") err
  let recoveries ← require (d.nat? "agent_recovery_records_invalidated") err
  let issuances ← require (d.nat? "certificate_issuances_added") err
  let blocklisted ← require (d.nat? "blocklist_entries_added") err
  reject (e.occurredAt ≠ rotatedAt ∨ ¬ rotatedAt < expiresAt ∨ ¬ rotatedAt < renewAfter ∨
      ¬ renewAfter < expiresAt ∨ previousGeneration < 1 ∨ generation ≠ inc64 previousGeneration ∨
      expectedRevision < 1 ∨ configRevision ≠ inc64 expectedRevision ∨ issuances ≠ 1 ∨
      blocklisted ≠ 1 ∨ ¬ d.isTrue "previous_certificate_blocklisted") err
  pure ({
    requestID := requestID, nodeID := e.resourceID, networkID := networkID, name := name, ip := ip
    role := role, rotatedAt := rotatedAt, previousCertificateExpiresAt := previousExpiry
    certificateExpiresAt := expiresAt, certificateRenewAfter := renewAfter
    previousCertificateGeneration := previousGeneration, certificateGeneration := generation
    agentRecoveryRecordsInvalidated := recoveries, certificateIssuancesAdded := issuances
    blocklistEntriesAdded := blocklisted, previousCertificateBlocklisted := true
    configRevision := configRevision }, expectedRevision)

structure RotateNodeCertificateInput where
  expectedConfigRevision : Int
  confirmationName : String
  requestID : String

def findCertificateRotationReplay (s : State) (nodeID : String) (input : RotateNodeCertificateInput) :
    Result (Option RotatedNodeCertificate) :=
  findReceipt nodeCertificateRotatedAuditAction "persisted certificate rotation receipt is invalid"
    "request_id is already bound to a different certificate rotation"
    parseNodeCertificateRotationEvent
    (fun e r expected => e.resourceID == nodeID && r.name == input.confirmationName &&
      expected == input.expectedConfigRevision)
    input.requestID s

def validateNodeCertificateRotationAudits (s : State) : Result Unit :=
  validateReceipts nodeCertificateRotatedAuditAction "certificate rotation audit" "certificate rotation"
    parseNodeCertificateRotationEvent s

/-! ## Group changes -/

def nodeGroupsUpdatedAuditAction : String := "node.groups_updated"

structure UpdatedNodeGroups where
  requestID : String
  nodeID : String
  networkID : String
  name : String
  ip : String
  previousGroups : List String
  groups : List String
  updatedAt : Int
  previousCertificateExpiresAt : Int
  certificateExpiresAt : Int
  certificateRenewAfter : Int
  previousCertificateGeneration : Int
  certificateGeneration : Int
  agentRecoveryRecordsInvalidated : Int
  previousCertificateBlocklisted : Bool
  configRevision : Int

def nodeGroupsAuditDetails (r : UpdatedNodeGroups) (expectedRevision : Int) : AuditDetails := [
  ("request_id", .str r.requestID), ("network_id", .str r.networkID), ("name", .str r.name),
  ("ip", .str r.ip), ("previous_groups", .strs r.previousGroups), ("groups", .strs r.groups),
  ("updated_at", .str (Calendar.rfc3339Nano r.updatedAt)),
  ("previous_certificate_expires_at", .str (Calendar.rfc3339Nano r.previousCertificateExpiresAt)),
  ("certificate_expires_at", .str (Calendar.rfc3339Nano r.certificateExpiresAt)),
  ("certificate_renew_after", .str (Calendar.rfc3339Nano r.certificateRenewAfter)),
  ("previous_certificate_generation", .int r.previousCertificateGeneration),
  ("certificate_generation", .int r.certificateGeneration),
  ("expected_config_revision", .int expectedRevision), ("config_revision", .int r.configRevision),
  ("agent_recovery_records_invalidated", .int r.agentRecoveryRecordsInvalidated),
  ("previous_certificate_blocklisted", .bool r.previousCertificateBlocklisted)]

def AuditDetails.groups? (d : AuditDetails) (key : String) : Option (List String) :=
  (d.texts? key).filter fun groups => validCanonicalNodeGroups groups

/-- Unlike the other receipts, this one may carry details that nothing reads. -/
def parseNodeGroupsEvent (e : AuditEvent) : Result (UpdatedNodeGroups × Int) := do
  let d : AuditDetails := e.details
  reject (e.resource ≠ "node" ∨ ¬ validPersistedID e.resourceID) receiptResourceError
  let err := internal "identity, groups, lifecycle, or transition details are invalid"
  let requestID ← require ((d.text? "request_id").filter fun v => validReceiptRequestID v) err
  let networkID ← require ((d.text? "network_id").filter fun v => validPersistedID v) err
  let name ← require ((d.text? "name").filter fun v => namePattern v) err
  let ip ← require ((d.text? "ip").filter fun v => isCanonicalIPv4 v) err
  let previousGroups ← require (d.groups? "previous_groups") err
  let groups ← require (d.groups? "groups") err
  let updatedAt ← require (d.time? "updated_at") err
  let previousExpiry ← require (d.time? "previous_certificate_expires_at") err
  let expiresAt ← require (d.time? "certificate_expires_at") err
  let renewAfter ← require (d.time? "certificate_renew_after") err
  let previousGeneration ← require (d.nat? "previous_certificate_generation") err
  let generation ← require (d.nat? "certificate_generation") err
  let expectedRevision ← require (d.nat? "expected_config_revision") err
  let configRevision ← require (d.nat? "config_revision") err
  let recoveries ← require (d.nat? "agent_recovery_records_invalidated") err
  reject (previousGroups = groups ∨ e.occurredAt ≠ updatedAt ∨ ¬ updatedAt < expiresAt ∨
      ¬ updatedAt < renewAfter ∨ ¬ renewAfter < expiresAt ∨ previousGeneration < 1 ∨
      generation ≠ inc64 previousGeneration ∨ expectedRevision < 1 ∨
      configRevision ≠ inc64 expectedRevision ∨ ¬ d.isTrue "previous_certificate_blocklisted") err
  pure ({
    requestID := requestID, nodeID := e.resourceID, networkID := networkID, name := name, ip := ip
    previousGroups := previousGroups, groups := groups, updatedAt := updatedAt
    previousCertificateExpiresAt := previousExpiry, certificateExpiresAt := expiresAt
    certificateRenewAfter := renewAfter, previousCertificateGeneration := previousGeneration
    certificateGeneration := generation, agentRecoveryRecordsInvalidated := recoveries
    previousCertificateBlocklisted := true, configRevision := configRevision }, expectedRevision)

structure UpdateNodeGroupsInput where
  expectedConfigRevision : Int
  confirmationName : String
  requestID : String
  groups : List String

def findNodeGroupsReplay (s : State) (nodeID : String) (input : UpdateNodeGroupsInput)
    (groups : List String) : Result (Option UpdatedNodeGroups) :=
  findReceipt nodeGroupsUpdatedAuditAction "persisted group update receipt is invalid"
    "request_id is already bound to a different group update" parseNodeGroupsEvent
    (fun e r expected => e.resourceID == nodeID && r.name == input.confirmationName &&
      expected == input.expectedConfigRevision && r.groups == groups)
    input.requestID s

def validateNodeGroupAudits (s : State) : Result Unit :=
  validateReceipts nodeGroupsUpdatedAuditAction "node group audit" "node group" parseNodeGroupsEvent s

/-! ## Revocation -/

def nodeRevocationCommittedAuditAction : String := "node.revocation_committed"

structure RevokedNodeReceipt where
  requestID : String
  nodeID : String
  networkID : String
  name : String
  ip : String
  role : Role
  revokedAt : Int
  wasEnrolled : Bool
  enrollmentRecordsInvalidated : Int
  agentRecoveryRecordsInvalidated : Int
  blocklistEntriesAdded : Int
  relayAssignmentRemoved : Bool
  firewallCanaryRemoved : Bool
  firewallRolloutAutoRolledBack : Bool
  credentialsInvalidated : Bool
  routedSubnetReservationsReleased : Int
  configRevision : Int

def nodeRevocationAuditDetails (r : RevokedNodeReceipt) (expectedRevision : Int) : AuditDetails := [
  ("request_id", .str r.requestID), ("network_id", .str r.networkID), ("name", .str r.name),
  ("ip", .str r.ip), ("role", .str r.role.text),
  ("revoked_at", .str (Calendar.rfc3339Nano r.revokedAt)), ("was_enrolled", .bool r.wasEnrolled),
  ("expected_config_revision", .int expectedRevision), ("config_revision", .int r.configRevision),
  ("enrollment_records_invalidated", .int r.enrollmentRecordsInvalidated),
  ("agent_recovery_records_invalidated", .int r.agentRecoveryRecordsInvalidated),
  ("blocklist_entries_added", .int r.blocklistEntriesAdded),
  ("relay_assignment_removed", .bool r.relayAssignmentRemoved),
  ("firewall_canary_removed", .bool r.firewallCanaryRemoved),
  ("firewall_rollout_auto_rolled_back", .bool r.firewallRolloutAutoRolledBack),
  ("credentials_invalidated", .bool r.credentialsInvalidated),
  ("routed_subnet_reservations_released", .int r.routedSubnetReservationsReleased)]

def revocationDetailKeys : List String := ["request_id", "network_id", "name", "ip", "role", "revoked_at",
  "was_enrolled", "expected_config_revision", "config_revision", "enrollment_records_invalidated",
  "agent_recovery_records_invalidated", "blocklist_entries_added", "relay_assignment_removed",
  "firewall_canary_removed", "firewall_rollout_auto_rolled_back", "credentials_invalidated",
  "routed_subnet_reservations_released"]

def parseNodeRevocationEvent (e : AuditEvent) : Result (RevokedNodeReceipt × Int) := do
  let d : AuditDetails := e.details
  checkDetailKeys revocationDetailKeys d
  reject (e.resource ≠ "node" ∨ ¬ validPersistedID e.resourceID) receiptResourceError
  let err := internal "identity, lifecycle, or transition details are invalid"
  let requestID ← require ((d.text? "request_id").filter fun v => validReceiptRequestID v) err
  let networkID ← require ((d.text? "network_id").filter fun v => validPersistedID v) err
  let name ← require ((d.text? "name").filter fun v => namePattern v) err
  let ip ← require ((d.text? "ip").filter fun v => isCanonicalIPv4 v) err
  let role ← require (d.role? "role") err
  let revokedAt ← require (d.time? "revoked_at") err
  let wasEnrolled ← require (d.bool? "was_enrolled") err
  let expectedRevision ← require (d.nat? "expected_config_revision") err
  let configRevision ← require (d.nat? "config_revision") err
  let enrollments ← require (d.nat? "enrollment_records_invalidated") err
  let recoveries ← require (d.nat? "agent_recovery_records_invalidated") err
  let blocked ← require (d.nat? "blocklist_entries_added") err
  let relayRemoved ← require (d.bool? "relay_assignment_removed") err
  let canaryRemoved ← require (d.bool? "firewall_canary_removed") err
  let autoRolledBack ← require (d.bool? "firewall_rollout_auto_rolled_back") err
  let routesReleased ← require (d.nat? "routed_subnet_reservations_released") err
  reject (e.occurredAt ≠ revokedAt ∨ expectedRevision < 1 ∨ configRevision ≠ inc64 expectedRevision ∨
      (wasEnrolled ∧ blocked < 1) ∨ (¬ wasEnrolled ∧ blocked ≠ 0) ∨
      (autoRolledBack ∧ ¬ canaryRemoved) ∨ ¬ d.isTrue "credentials_invalidated") err
  pure ({
    requestID := requestID, nodeID := e.resourceID, networkID := networkID, name := name, ip := ip
    role := role, revokedAt := revokedAt, wasEnrolled := wasEnrolled
    enrollmentRecordsInvalidated := enrollments, agentRecoveryRecordsInvalidated := recoveries
    blocklistEntriesAdded := blocked, relayAssignmentRemoved := relayRemoved
    firewallCanaryRemoved := canaryRemoved, firewallRolloutAutoRolledBack := autoRolledBack
    credentialsInvalidated := true, routedSubnetReservationsReleased := routesReleased
    configRevision := configRevision }, expectedRevision)

structure RevokeNodeInput where
  expectedConfigRevision : Int
  confirmationName : String
  requestID : String

def findNodeRevocationReplay (s : State) (nodeID : String) (input : RevokeNodeInput) :
    Result (Option RevokedNodeReceipt) :=
  findReceipt nodeRevocationCommittedAuditAction "persisted node revocation receipt is invalid"
    "request_id is already bound to a different node revocation" parseNodeRevocationEvent
    (fun e r expected => e.resourceID == nodeID && r.name == input.confirmationName &&
      expected == input.expectedConfigRevision)
    input.requestID s

def validateNodeRevocationAudits (s : State) : Result Unit :=
  validateReceipts nodeRevocationCommittedAuditAction "node revocation audit" "node revocation"
    parseNodeRevocationEvent s

/-! ## Archived nodes -/

def nodeArchivedAuditAction : String := "node.archived"

def nodeArchiveCertificateSafetyMargin : Int := 5 * Calendar.minute

def tombstoneDetailKeys : List String := ["network_id", "name", "ip", "role", "revoked_at", "enrolled",
  "last_certificate_expired_at", "enrollment_records_removed", "agent_recovery_records_removed",
  "certificate_issuances_removed", "revocations_removed", "blocklist_entries_removed",
  "routed_subnet_reservations_released", "certificate_material_removed",
  "agent_credentials_invalidated", "all_certificate_records_expired", "config_revision"]

def requireCount (d : AuditDetails) (key : String) : Result Int :=
  require (d.nat? key) (internal ("detail \"" ++ key ++ "\" is not a non-negative integer"))

def validateArchivedNodeTombstone (e : AuditEvent) : Result Unit := do
  let d : AuditDetails := e.details
  checkDetailKeys tombstoneDetailKeys d
  let err := internal "identity or lifecycle details are invalid"
  let _ ← require ((d.text? "network_id").filter fun v => validPersistedID v) err
  let _ ← require ((d.text? "name").filter fun v => namePattern v) err
  let _ ← require ((d.text? "ip").filter fun v => isCanonicalIPv4 v) err
  let _ ← require (d.role? "role") err
  let revokedAt ← require (d.time? "revoked_at") err
  let lastExpiryText ← require (d.text? "last_certificate_expired_at") err
  let enrolled ← require (d.bool? "enrolled") err
  let configRevision ← require (d.nat? "config_revision") err
  reject (e.occurredAt < revokedAt ∨ configRevision < 1) err
  let _ ← requireCount d "enrollment_records_removed"
  let _ ← requireCount d "agent_recovery_records_removed"
  let issuances ← requireCount d "certificate_issuances_removed"
  let revocations ← requireCount d "revocations_removed"
  let blocked ← requireCount d "blocklist_entries_removed"
  let routes ← requireCount d "routed_subnet_reservations_released"
  reject (blocked ≠ revocations ∨ (maxRoutedSubnetsPerNode : Int) < routes)
    (internal "removal counts are inconsistent")
  checkAll (fun key => reject (¬ d.isTrue key) (internal ("detail \"" ++ key ++ "\" is not true")))
    ["certificate_material_removed", "agent_credentials_invalidated", "all_certificate_records_expired"]
  if ¬ enrolled then
    reject (lastExpiryText ≠ "" ∨ issuances ≠ 0 ∨ revocations ≠ 0)
      (internal "never-enrolled tombstone carries certificate history")
  else
    let err := internal "enrolled tombstone was archived before certificate authority expired"
    let lastExpiry ← require (Calendar.parseRFC3339 lastExpiryText) err
    reject (issuances < 1 ∨ revocations < 1 ∨
      e.occurredAt < lastExpiry + nodeArchiveCertificateSafetyMargin) err

def validateArchivedNodeTombstones (s : State) : Result Unit :=
  checkSeen (fun seen e => do
    reject (e.resource ≠ "node" ∨ ¬ validPersistedID e.resourceID)
      (internal "archived node tombstone has invalid resource metadata")
    reject (seen.any fun e' => e'.resourceID == e.resourceID)
      (internal ("duplicate archived node tombstone for \"" ++ e.resourceID ++ "\""))
    reject (findNode s e.resourceID).isSome
      (internal ("archived node tombstone \"" ++ e.resourceID ++ "\" conflicts with live node"))
    mapError (Failure.wrap ("archived node tombstone \"" ++ e.resourceID ++ "\""))
      (validateArchivedNodeTombstone e))
    [] (actionEvents nodeArchivedAuditAction s)

/-! ## Retired networks -/

def networkRetiredAuditAction : String := "network.retired"

structure RetiredNetworkReservation where
  id : String
  name : String
  cidr : String
  configRevision : Int
  nodeCount : Int
  pendingNodes : Int
  activeNodes : Int
  revokedNodes : Int

/-- A canonical IPv4 network of 16 to 28 bits. -/
def validRetiredNetworkCIDR (value : String) : Bool :=
  (parseCIDR4 value).any fun (_, p) => p.text == value && 16 ≤ p.bits && p.bits ≤ 28

/-- Either network contains the address of the other. Both texts were accepted before. -/
def cidrsOverlap (a b : String) : Bool :=
  match parseCIDR4 a, parseCIDR4 b with
  | some (aip, an), some (bip, bn) => an.contains bip || bn.contains aip
  | _, _ => false

/-- The reservation of a retirement event; events of other actions are skipped by the callers. -/
def parseRetiredNetworkReservation (e : AuditEvent) : Result RetiredNetworkReservation := do
  let d : AuditDetails := e.details
  let label := "network retirement audit \"" ++ e.id ++ "\""
  reject (e.resource ≠ "network") (internal (label ++ " has the wrong resource"))
  let err := internal (label ++ " has an invalid permanent reservation")
  let name ← require ((d.text? "name").filter fun v => namePattern v) err
  let cidr ← require ((d.text? "cidr").filter fun v => validRetiredNetworkCIDR v) err
  checkAll (fun key => reject (d.nat? key = none)
      (internal (label ++ " has an invalid " ++ key ++ " count")))
    ["enrollment_records_removed", "agent_recovery_records_removed", "certificate_issuances_removed",
      "revocations_removed"]
  let err := internal (label ++ " has invalid lifecycle counts")
  let configRevision ← require (d.nat? "config_revision") err
  let nodeCount ← require (d.nat? "node_count") err
  let pendingNodes ← require (d.nat? "pending_nodes") err
  let activeNodes ← require (d.nat? "active_nodes") err
  let revokedNodes ← require (d.nat? "revoked_nodes") err
  reject (configRevision < 1 ∨ pendingNodes + activeNodes + revokedNodes ≠ nodeCount) err
  checkAll (fun key => reject (¬ d.isTrue key) (internal (label ++ " is missing " ++ key ++ " proof")))
    ["credentials_invalidated", "encrypted_key_material_removed", "name_cidr_permanently_reserved"]
  pure { id := e.resourceID, name := name, cidr := cidr, configRevision := configRevision,
         nodeCount := nodeCount, pendingNodes := pendingNodes, activeNodes := activeNodes,
         revokedNodes := revokedNodes }

/-- A network of this identity, name or address space stands against the reservation. -/
def RetiredNetworkReservation.clashes (r : RetiredNetworkReservation) (id name cidr : String) : Bool :=
  id == r.id || equalFold name r.name || cidrsOverlap cidr r.cidr

def retiredReservationClashes (e : AuditEvent) (r : RetiredNetworkReservation) : Bool :=
  match parseRetiredNetworkReservation e with
  | .ok previous => r.clashes previous.id previous.name previous.cidr
  | .error _ => false

def validateRetiredNetworkReservations (s : State) : Result Unit :=
  checkSeen (fun seen e => do
    let r ← parseRetiredNetworkReservation e
    checkAll (fun w : Network => reject (r.clashes w.id w.name w.cidr)
      (internal ("retired network \"" ++ r.id ++ "\" conflicts with active network \"" ++ w.id ++ "\"")))
      s.networks
    reject (seen.any fun e' => retiredReservationClashes e' r)
      (internal ("retired network reservation \"" ++ r.id ++ "\" is duplicated")))
    [] (actionEvents networkRetiredAuditAction s)

/-- Whether a name or an address space is reserved for good. -/
def retiredNetworkReservationConflict (s : State) (name cidr : String) : Result Bool := do
  let reservations ← mapAll parseRetiredNetworkReservation (actionEvents networkRetiredAuditAction s)
  pure (reservations.any fun r => equalFold r.name name || cidrsOverlap r.cidr cidr)

end Mesh
