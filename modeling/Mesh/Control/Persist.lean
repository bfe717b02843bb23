import Mesh.Lib.Json
import Mesh.Control.Validate

/-!
# Mesh.Control.Persist

The state file. Every record is an object with the member names of its tags; secrets that the records hide
from JSON travel in the shadow records of the file. An audit detail is read back into an untyped value, so
a number becomes a float and an instant the text it was written as (`AuditValue.reread`).
-/

namespace Mesh

open Fields

namespace Fields

variable {α β : Type}

theorem as_exact {f : Fields α} [f.Exact] {make : α → β} {parts : β → α} (h : ∀ b, make (parts b) = b) :
    (f.as make parts).Exact := ⟨fun b => (congrArg make (f.reread_eq (parts b))).trans (h b)⟩

end Fields

/-! ## Words -/

section Words

variable {α : Type}

def wordOf (all : List α) (text : α → String) (s : String) : Option α := all.find? fun a => text a == s

def omitWord (name : String) (zero : α) (text : α → String) (parse : String → Option α)
    (h : ∀ a, parse (text a) = some a) (hzero : ∀ a, text a = "" → a = zero) : Fields α :=
  omitEmpty name (.word zero text parse h) (fun a => text a == "") fun a ha =>
    ⟨hzero a (beq_iff_eq.mp ha), rfl⟩

instance {name : String} {zero : α} {text : α → String} {parse : String → Option α}
    {h : ∀ a, parse (text a) = some a} {hzero : ∀ a, text a = "" → a = zero} :
    (omitWord name zero text parse h hzero).Exact := ⟨fun _ => rfl⟩

end Words

def roleCodec : Codec Role :=
  .word .member Role.text (wordOf [.member, .lighthouse] Role.text) fun a => by cases a <;> rfl

def nodeStatusCodec : Codec NodeStatus :=
  .word .pending NodeStatus.text (wordOf [.pending, .active, .revoked] NodeStatus.text)
    fun a => by cases a <;> rfl

def modeCodec : Codec FirewallPolicyMode :=
  .word .unset FirewallPolicyMode.text (wordOf [.unset, .legacyDefault, .managed] FirewallPolicyMode.text)
    fun a => by cases a <;> rfl

def agentStatusField (name : String) : Fields AgentStatus :=
  omitWord name .none AgentStatus.text (wordOf [.none, .healthy, .degraded, .revoked] AgentStatus.text)
    (fun a => by cases a <;> rfl) fun a h => by cases a <;> first | rfl | exact absurd h (by decide)

def caPhaseField (name : String) : Fields CARotationPhase :=
  omitWord name .stable CARotationPhase.text
    (wordOf [.stable, .prepared, .rotating, .finalizing, .aborting] CARotationPhase.text)
    (fun a => by cases a <;> rfl) fun a h => by cases a <;> first | rfl | exact absurd h (by decide)

def rolloutPhaseField (name : String) : Fields FirewallRolloutPhase :=
  omitWord name .stable FirewallRolloutPhase.text
    (wordOf [.stable, .canary, .paused] FirewallRolloutPhase.text)
    (fun a => by cases a <;> rfl) fun a h => by cases a <;> first | rfl | exact absurd h (by decide)

def transferPhaseField (name : String) : Fields RouteTransferPhase :=
  omitWord name .none RouteTransferPhase.text
    (wordOf [.none, .preparingTarget, .cleaningSource, .cleaningTarget, .completed, .cancelled]
      RouteTransferPhase.text)
    (fun a => by cases a <;> rfl) fun a h => by cases a <;> first | rfl | exact absurd h (by decide)

def editPhaseField (name : String) : Fields RouteProfileEditPhase :=
  omitWord name .none RouteProfileEditPhase.text
    (wordOf [.none, .preparingOwner, .cleaningOwner, .cleaningCancelledOwner, .completed, .cancelled]
      RouteProfileEditPhase.text)
    (fun a => by cases a <;> rfl) fun a h => by cases a <;> first | rfl | exact absurd h (by decide)

instance : roleCodec.Exact := ⟨fun _ => rfl⟩
instance : nodeStatusCodec.Exact := ⟨fun _ => rfl⟩
instance : modeCodec.Exact := ⟨fun _ => rfl⟩
instance {name : String} : (agentStatusField name).Exact := ⟨fun _ => rfl⟩
instance {name : String} : (caPhaseField name).Exact := ⟨fun _ => rfl⟩
instance {name : String} : (rolloutPhaseField name).Exact := ⟨fun _ => rfl⟩
instance {name : String} : (transferPhaseField name).Exact := ⟨fun _ => rfl⟩
instance {name : String} : (editPhaseField name).Exact := ⟨fun _ => rfl⟩

/-! ## Settings of a network -/

def dnsSettingsFields : Fields NetworkDNSSettings :=
  ((field "enabled" .bool).and <| (field "listen_port" .int64).and <| (omitBool "native_resolver").and <|
    omitStr "search_domain").as
    (fun ⟨enabled, listenPort, nativeResolver, searchDomain⟩ =>
      ⟨enabled, listenPort, nativeResolver, searchDomain⟩)
    fun x => ⟨x.enabled, x.listenPort, x.nativeResolver, x.searchDomain⟩

def dnsSettingsCodec : Codec NetworkDNSSettings := dnsSettingsFields.codec {} (by decide)

def relaySettingsFields : Fields NetworkRelaySettings :=
  ((field "enabled" .bool).and <| field "relay_node_ids" (.list .str)).as
    (fun ⟨enabled, relayNodeIDs⟩ => ⟨enabled, relayNodeIDs⟩) fun x => ⟨x.enabled, x.relayNodeIDs⟩

def relaySettingsCodec : Codec NetworkRelaySettings := relaySettingsFields.codec {} (by decide)

/-- Without the key, which is hidden. -/
def caRotationFields : Fields NetworkCARotation :=
  ((caPhaseField "phase").and <| (omitStr "next_ca_certificate").and <|
    (omitStr "previous_trust_bundle_sha256").and <| (omitStr "target_ca_certificate_sha256").and <|
    (field "started_at" .time).and <| (field "stage_started_at" .time).and <|
    omitInt "stage_config_revision").as
    (fun ⟨phase, next, previous, target, startedAt, stageStartedAt, revision⟩ =>
      ⟨phase, next, "", previous, target, startedAt, stageStartedAt, revision⟩)
    fun x => ⟨x.phase, x.nextCACertificate, x.previousTrustBundleSHA256, x.targetCACertificateSHA256,
      x.startedAt, x.stageStartedAt, x.stageConfigRevision⟩

def caRotationCodec : Codec NetworkCARotation := caRotationFields.codec {} (by decide)

def firewallRuleFields : Fields FirewallRule :=
  ((field "proto" .str).and <| (field "port" .str).and <| (omitStr "group").and <| (omitStr "host").and <|
    (omitStr "peer_node_id").and <| (omitStr "target_group").and <| omitStr "target_node_id").as
    (fun ⟨proto, port, group, host, peer, targetGroup, targetNode⟩ =>
      ⟨proto, port, group, host, peer, targetGroup, targetNode⟩)
    fun x => ⟨x.proto, x.port, x.group, x.host, x.peerNodeID, x.targetGroup, x.targetNodeID⟩

def firewallRuleCodec : Codec FirewallRule := firewallRuleFields.codec {} (by decide)

instance : dnsSettingsFields.Exact := Fields.as_exact fun _ => rfl
instance : dnsSettingsCodec.Exact := inferInstanceAs (Fields.codec _ _ _).Exact
instance : relaySettingsFields.Exact := Fields.as_exact fun _ => rfl
instance : relaySettingsCodec.Exact := inferInstanceAs (Fields.codec _ _ _).Exact
instance : firewallRuleFields.Exact := Fields.as_exact fun _ => rfl
instance : firewallRuleCodec.Exact := inferInstanceAs (Fields.codec _ _ _).Exact


/-- A policy is an object also when it is empty. -/
def firewallPolicyFields : Fields FirewallPolicy :=
  ((field "mode" modeCodec).and <| (field "renderer_version" .int64).and <|
    (field "inbound" (.list firewallRuleCodec)).and <| field "outbound" (.list firewallRuleCodec)).as
    (fun ⟨mode, rendererVersion, inbound, outbound⟩ => ⟨mode, rendererVersion, inbound, outbound⟩)
    fun x => ⟨x.mode, x.rendererVersion, x.inbound, x.outbound⟩

instance : firewallPolicyFields.Exact := Fields.as_exact fun _ => rfl

def firewallPolicyCodec : Codec FirewallPolicy := firewallPolicyFields.codec {} (by decide)

instance : firewallPolicyCodec.Exact := inferInstanceAs (Fields.codec _ _ _).Exact

def firewallRolloutFields : Fields NetworkFirewallRollout :=
  ((rolloutPhaseField "phase").and <| (field "target_policy" firewallPolicyCodec).and <|
    (omitList "canary_node_ids" .str).and <| (field "started_at" .time).and <|
    (field "paused_at" .time).and <| omitInt "stage_config_revision").as
    (fun ⟨phase, target, canaries, startedAt, pausedAt, revision⟩ =>
      ⟨phase, target, canaries, startedAt, pausedAt, revision⟩)
    fun x => ⟨x.phase, x.targetPolicy, x.canaryNodeIDs, x.startedAt, x.pausedAt, x.stageConfigRevision⟩

instance : firewallRolloutFields.Exact := Fields.as_exact fun _ => rfl

def firewallRolloutCodec : Codec NetworkFirewallRollout := firewallRolloutFields.codec {} (by decide)

instance : firewallRolloutCodec.Exact := inferInstanceAs (Fields.codec _ _ _).Exact

def routeTransferFields : Fields NetworkRouteTransfer :=
  ((omitStr "request_id").and <| (transferPhaseField "phase").and <| (omitStr "source_node_id").and <|
    (omitStr "target_node_id").and <| (omitList "routed_subnets" .str).and <|
    (omitList "source_original_subnets" .str).and <| (omitList "target_original_subnets" .str).and <|
    (omitInt "target_certificate_generation").and <| (omitInt "source_certificate_generation").and <|
    (field "started_at" .time).and <| (field "promoted_at" .time).and <| field "finished_at" .time).as
    (fun ⟨requestID, phase, source, target, subnets, sourceOriginal, targetOriginal, targetGeneration,
      sourceGeneration, startedAt, promotedAt, finishedAt⟩ =>
      ⟨requestID, phase, source, target, subnets, sourceOriginal, targetOriginal, targetGeneration,
        sourceGeneration, startedAt, promotedAt, finishedAt⟩)
    fun x => ⟨x.requestID, x.phase, x.sourceNodeID, x.targetNodeID, x.routedSubnets, x.sourceOriginalSubnets,
      x.targetOriginalSubnets, x.targetCertificateGeneration, x.sourceCertificateGeneration, x.startedAt,
      x.promotedAt, x.finishedAt⟩

instance : routeTransferFields.Exact := Fields.as_exact fun _ => rfl

def routeTransferCodec : Codec NetworkRouteTransfer := routeTransferFields.codec {} (by decide)

instance : routeTransferCodec.Exact := inferInstanceAs (Fields.codec _ _ _).Exact

def routeProfileEditFields : Fields NetworkRouteProfileEdit :=
  ((omitStr "request_id").and <| (editPhaseField "phase").and <| (omitStr "node_id").and <|
    (omitList "original_subnets" .str).and <| (omitList "desired_subnets" .str).and <|
    (omitInt "prepared_certificate_generation").and <| (omitInt "cleanup_certificate_generation").and <|
    (field "started_at" .time).and <| (field "promoted_at" .time).and <| field "finished_at" .time).as
    (fun ⟨requestID, phase, nodeID, original, desired, prepared, cleanup, startedAt, promotedAt,
      finishedAt⟩ =>
      ⟨requestID, phase, nodeID, original, desired, prepared, cleanup, startedAt, promotedAt, finishedAt⟩)
    fun x => ⟨x.requestID, x.phase, x.nodeID, x.originalSubnets, x.desiredSubnets,
      x.preparedCertificateGeneration, x.cleanupCertificateGeneration, x.startedAt, x.promotedAt,
      x.finishedAt⟩

instance : routeProfileEditFields.Exact := Fields.as_exact fun _ => rfl

def routeProfileEditCodec : Codec NetworkRouteProfileEdit := routeProfileEditFields.codec {} (by decide)

instance : routeProfileEditCodec.Exact := inferInstanceAs (Fields.codec _ _ _).Exact

def gatewayFields : Fields NetworkRoutePolicyGateway :=
  ((field "node_id" .str).and <| field "weight" .int64).as (fun ⟨nodeID, weight⟩ => ⟨nodeID, weight⟩)
    fun x => ⟨x.nodeID, x.weight⟩

instance : gatewayFields.Exact := Fields.as_exact fun _ => rfl

def gatewayCodec : Codec NetworkRoutePolicyGateway := gatewayFields.codec {} (by decide)

instance : gatewayCodec.Exact := inferInstanceAs (Fields.codec _ _ _).Exact

def routePolicyFields : Fields NetworkRoutePolicy :=
  ((field "prefix" .str).and <| (field "gateways" (.list gatewayCodec)).and <| (field "mtu" .int64).and <|
    (field "metric" .int64).and <| (field "request_id" .str).and <| (field "config_revision" .int64).and <|
    field "updated_at" .time).as
    (fun ⟨subnet, gateways, mtu, metric, requestID, revision, updatedAt⟩ =>
      ⟨subnet, gateways, mtu, metric, requestID, revision, updatedAt⟩)
    fun x => ⟨x.subnet, x.gateways, x.mtu, x.metric, x.requestID, x.configRevision, x.updatedAt⟩

instance : routePolicyFields.Exact := Fields.as_exact fun _ => rfl

def routePolicyCodec : Codec NetworkRoutePolicy := routePolicyFields.codec {} (by decide)

instance : routePolicyCodec.Exact := inferInstanceAs (Fields.codec _ _ _).Exact

/-! ## Networks -/

def networkFields : Fields Network :=
  ((field "id" .str).and <| (field "name" .str).and <| (field "cidr" .str).and <|
    (field "dns_settings" dnsSettingsCodec).and <| (field "relay_settings" relaySettingsCodec).and <|
    (field "ca_rotation" caRotationCodec).and <| (field "firewall_rollout" firewallRolloutCodec).and <|
    (field "route_transfer" routeTransferCodec).and <| (field "route_profile_edit" routeProfileEditCodec).and <|
    (omitList "route_policies" routePolicyCodec).and <| (field "firewall_policy" firewallPolicyCodec).and <|
    (field "listen_port" .int64).and <| (field "certificate_ttl_hours" .int64).and <|
    (field "ca_certificate" .str).and <| (field "config_signing_public_key" .str).and <|
    (field "config_revision" .int64).and <| (field "config_updated_at" .time).and <|
    field "created_at" .time).as
    (fun ⟨id, name, cidr, dns, relays, rotation, rollout, transfer, edit, policies, policy, port, ttl, ca, key,
      revision, updatedAt, createdAt⟩ =>
      ⟨id, name, cidr, dns, relays, rotation, rollout, transfer, edit, policies, policy, port, ttl, ca, "", key,
        "", revision, updatedAt, createdAt⟩)
    fun x => ⟨x.id, x.name, x.cidr, x.dnsSettings, x.relaySettings, x.caRotation, x.firewallRollout,
      x.routeTransfer, x.routeProfileEdit, x.routePolicies, x.firewallPolicy, x.listenPort, x.certificateTTL,
      x.caCertificate, x.configSigningPublicKey, x.configRevision, x.configUpdatedAt, x.createdAt⟩

/-- A network and the keys it hides. -/
def persistedNetworkFields : Fields Network :=
  (networkFields.and <| (field "encrypted_ca_key" .str).and <| (omitStr "encrypted_next_ca_key").and <|
    field "encrypted_config_signing_key" .str).as
    (fun ⟨network, caKey, nextCAKey, signingKey⟩ =>
      { network with
        encryptedCAKey := caKey
        caRotation := { network.caRotation with encryptedNextCAKey := nextCAKey }
        encryptedConfigSigningKey := signingKey })
    fun x => ⟨x, x.encryptedCAKey, x.caRotation.encryptedNextCAKey, x.encryptedConfigSigningKey⟩

def persistedNetworkCodec : Codec Network := persistedNetworkFields.codec {} (by decide)

/-! ## Nodes -/

def nodeFields : Fields Node :=
  ((field "id" .str).and <| (field "network_id" .str).and <| (field "name" .str).and <| (field "ip" .str).and <|
    (omitList "routed_subnets" .str).and <| (omitStr "site").and <| (omitStr "failure_domain").and <|
    (field "groups" (.list .str)).and <| (field "role" roleCodec).and <| (omitStr "public_endpoint").and <|
    (field "status" nodeStatusCodec).and <| (omitStr "certificate").and <|
    (omitStr "certificate_fingerprint").and <| (omitStr "certificate_authority_sha256").and <|
    (omitTime "certificate_expires_at").and <| (omitTime "certificate_renew_after").and <|
    (field "certificate_generation" .int64).and <| (field "applied_config_revision" .int64).and <|
    (field "applied_certificate_generation" .int64).and <| (omitStr "applied_config_sha256").and <|
    (omitStr "reported_certificate_fingerprint").and <| (field "nebula_running" .bool).and <|
    (omitBool "native_dns_active").and <| (omitStr "agent_version").and <| (omitStr "nebula_version").and <|
    (agentStatusField "agent_status").and <| (omitStr "agent_boot_id").and <|
    (field "heartbeat_sequence" .int64).and <| (omitStr "last_error").and <| (omitTime "last_seen_at").and <|
    (omitTime "agent_credential_expires_at").and <| (omitTime "agent_credential_last_used_at").and <|
    (field "agent_credential_generation" .int64).and <| (omitTime "last_renewed_at").and <|
    (field "created_at" .time).and <| (omitTime "enrolled_at").and <| omitTime "revoked_at").as
    (fun ⟨id, networkID, name, ip, subnets, site, domain, groups, role, endpoint, status, certificate,
      fingerprint, authority, expiresAt, renewAfter, generation, appliedRevision, appliedGeneration, appliedSHA,
      reported, running, dnsActive, agentVersion, nebulaVersion, agentStatus, bootID, sequence, lastError,
      seenAt, credentialExpiresAt, credentialUsedAt, credentialGeneration, renewedAt, createdAt, enrolledAt,
      revokedAt⟩ =>
      ⟨id, networkID, name, ip, subnets, site, domain, groups, role, endpoint, status, certificate,
        fingerprint, authority, expiresAt, renewAfter, generation, appliedRevision, appliedGeneration,
        appliedSHA, reported, running, dnsActive, agentVersion, nebulaVersion, agentStatus, bootID, sequence,
        lastError, seenAt, "", "", none, credentialExpiresAt, credentialUsedAt, credentialGeneration, "", "",
        none, renewedAt, createdAt, enrolledAt, revokedAt⟩)
    fun x => ⟨x.id, x.networkID, x.name, x.ip, x.routedSubnets, x.site, x.failureDomain, x.groups, x.role,
      x.publicEndpoint, x.status, x.certificate, x.certificateFingerprint, x.certificateAuthoritySHA256,
      x.certificateExpiresAt, x.certificateRenewAfter, x.certificateGeneration, x.appliedConfigRevision,
      x.appliedCertificateGeneration, x.appliedConfigSHA256, x.reportedCertificateFingerprint, x.nebulaRunning,
      x.nativeDNSActive, x.agentVersion, x.nebulaVersion, x.agentStatus, x.agentBootID, x.heartbeatSequence,
      x.lastError, x.lastSeenAt, x.agentCredentialExpiresAt, x.agentCredentialLastUsedAt,
      x.agentCredentialGeneration, x.lastRenewedAt, x.createdAt, x.enrolledAt, x.revokedAt⟩

/-- A node as it is shown, in the result of a recovery. -/
def nodeCodec : Codec Node := nodeFields.codec {} (by decide)

/-- A node and the credentials it hides. -/
def persistedNodeFields : Fields Node :=
  (nodeFields.and <| (omitStr "agent_token_hash").and <| (omitStr "previous_agent_token_hash").and <|
    (omitTime "previous_agent_token_expires_at").and <| (omitStr "public_key_hash").and <|
    (omitStr "renewal_claim_id").and <| omitTime "renewal_claimed_at").as
    (fun ⟨node, hash, previous, previousExpiresAt, keyHash, claimID, claimedAt⟩ =>
      { node with
        agentTokenHash := hash
        previousAgentTokenHash := previous
        previousAgentTokenExpiresAt := previousExpiresAt
        publicKeyHash := keyHash
        renewalClaimID := claimID
        renewalClaimedAt := claimedAt })
    fun x => ⟨x, x.agentTokenHash, x.previousAgentTokenHash, x.previousAgentTokenExpiresAt, x.publicKeyHash,
      x.renewalClaimID, x.renewalClaimedAt⟩

def persistedNodeCodec : Codec Node := persistedNodeFields.codec {} (by decide)

/-! ## Enrollments and recoveries -/

def enrollmentFields : Fields EnrollmentToken :=
  ((field "id" .str).and <| (field "node_id" .str).and <| (field "token_hash" .str).and <|
    (field "created_at" .time).and <| (field "expires_at" .time).and <| (omitTime "used_at").and <|
    (omitStr "claim_id").and <| (omitTime "claimed_at").and <| omitStr "claim_key_hash").as
    (fun ⟨id, nodeID, hash, createdAt, expiresAt, usedAt, claimID, claimedAt, keyHash⟩ =>
      ⟨id, nodeID, hash, createdAt, expiresAt, usedAt, claimID, claimedAt, keyHash⟩)
    fun x => ⟨x.id, x.nodeID, x.tokenHash, x.createdAt, x.expiresAt, x.usedAt, x.claimID, x.claimedAt,
      x.claimKeyHash⟩

instance : enrollmentFields.Exact := Fields.as_exact fun _ => rfl

def enrollmentCodec : Codec EnrollmentToken := enrollmentFields.codec {} (by decide)

instance : enrollmentCodec.Exact := inferInstanceAs (Fields.codec _ _ _).Exact

def enrollmentBundleFields : Fields EnrollmentBundle :=
  ((field "node_id" .str).and <| (field "network_id" .str).and <| (field "node" nodeCodec).and <|
    (field "certificate" .str).and <| (field "ca" .str).and <| (field "config" .str).and <|
    (field "config_revision" .int64).and <| (field "certificate_expires_at" .time).and <|
    (field "certificate_renew_after" .time).and <| (field "agent_credential_expires_at" .time).and <|
    (field "agent_credential_generation" .int64).and <| (field "config_issued_at" .time).and <|
    (field "config_sha256" .str).and <| (field "ca_sha256" .str).and <| (omitStr "previous_ca_sha256").and <|
    (omitBool "ca_rotation_required").and <| (omitBool "certificate_profile_renewal_required").and <|
    (field "certificate_fingerprint" .str).and <| (field "certificate_generation" .int64).and <|
    (field "public_key_hash" .str).and <| (field "config_signature" .str).and <|
    field "config_signing_public_key" .str).as
    (fun ⟨nodeID, networkID, node, certificate, ca, config, revision, expiresAt, renewAfter,
      credentialExpiresAt, credentialGeneration, issuedAt, sha, caSHA, previousCASHA, rotation, renewal,
      fingerprint, generation, keyHash, signature, signingKey⟩ =>
      ⟨nodeID, networkID, node, certificate, ca, config, revision, expiresAt, renewAfter,
        credentialExpiresAt, credentialGeneration, issuedAt, sha, caSHA, previousCASHA, rotation, renewal,
        fingerprint, generation, keyHash, signature, signingKey⟩)
    fun x => ⟨x.nodeID, x.networkID, x.node, x.certificate, x.ca, x.config, x.configRevision,
      x.certificateExpiresAt, x.certificateRenewAfter, x.agentCredentialExpiresAt, x.agentCredentialGeneration,
      x.configIssuedAt, x.configSHA256, x.caCertificateSHA256, x.previousCACertificateSHA256,
      x.caRotationRequired, x.certificateProfileRenewalRequired, x.certificateFingerprint,
      x.certificateGeneration, x.publicKeyHash, x.configSignature, x.configSigningPublicKey⟩

def recoveryReceiptFields : Fields RecoveryReceipt :=
  ((field "node_id" .str).and <| (field "network_id" .str).and <| (field "new_agent_token_hash" .str).and <|
    (field "agent_credential_generation" .int64).and <| (field "agent_credential_expires_at" .time).and <|
    (field "config_sha256" .str).and <| (field "config_signature" .str).and <| field "signature" .str).as
    (fun ⟨nodeID, networkID, hash, generation, expiresAt, sha, configSignature, signature⟩ =>
      ⟨nodeID, networkID, hash, generation, expiresAt, sha, configSignature, signature⟩)
    fun x => ⟨x.nodeID, x.networkID, x.newAgentTokenHash, x.agentCredentialGeneration,
      x.agentCredentialExpiresAt, x.configSHA256, x.configSignature, x.signature⟩

instance : recoveryReceiptFields.Exact := Fields.as_exact fun _ => rfl

def recoveryReceiptCodec : Codec RecoveryReceipt := recoveryReceiptFields.codec {} (by decide)

instance : recoveryReceiptCodec.Exact := inferInstanceAs (Fields.codec _ _ _).Exact

/-- The members of the bundle stand beside the receipt. -/
def recoveryBundleFields : Fields AgentRecoveryBundle :=
  (enrollmentBundleFields.and <| field "recovery_receipt" recoveryReceiptCodec).as
    (fun ⟨bundle, receipt⟩ => ⟨bundle, receipt⟩) fun x => ⟨x.toEnrollmentBundle, x.recoveryReceipt⟩

def recoveryBundleCodec : Codec AgentRecoveryBundle := recoveryBundleFields.codec {} (by decide)

def recoveryFields : Fields AgentRecoveryToken :=
  ((field "id" .str).and <| (field "node_id" .str).and <| (field "token_hash" .str).and <|
    (field "created_at" .time).and <| (field "expires_at" .time).and <| (omitTime "used_at").and <|
    (omitStr "claim_id").and <| (omitTime "claimed_at").and <| (omitStr "claim_key_hash").and <|
    (omitInt "claimed_credential_generation").and <| (omitInt "credential_generation").and <|
    (omitTime "credential_expires_at").and <| omitOption "result" recoveryBundleCodec codec_ne_null).as
    (fun ⟨id, nodeID, hash, createdAt, expiresAt, usedAt, claimID, claimedAt, keyHash, claimedGeneration,
      generation, credentialExpiresAt, result⟩ =>
      ⟨id, nodeID, hash, createdAt, expiresAt, usedAt, claimID, claimedAt, keyHash, claimedGeneration,
        generation, credentialExpiresAt, result⟩)
    fun x => ⟨x.id, x.nodeID, x.tokenHash, x.createdAt, x.expiresAt, x.usedAt, x.claimID, x.claimedAt,
      x.claimKeyHash, x.claimedCredentialGeneration, x.credentialGeneration, x.credentialExpiresAt, x.result⟩

def recoveryCodec : Codec AgentRecoveryToken := recoveryFields.codec {} (by decide)

/-! ## Certificates -/

def revocationFields : Fields CertificateRevocation :=
  ((field "fingerprint" .str).and <| (field "node_id" .str).and <| (field "network_id" .str).and <|
    (field "reason" .str).and <| (field "at" .time).and <| omitTime "expires_at").as
    (fun ⟨fingerprint, nodeID, networkID, reason, revokedAt, expiresAt⟩ =>
      ⟨fingerprint, nodeID, networkID, reason, revokedAt, expiresAt⟩)
    fun x => ⟨x.fingerprint, x.nodeID, x.networkID, x.reason, x.revokedAt, x.expiresAt⟩

instance : revocationFields.Exact := Fields.as_exact fun _ => rfl

def revocationCodec : Codec CertificateRevocation := revocationFields.codec {} (by decide)

instance : revocationCodec.Exact := inferInstanceAs (Fields.codec _ _ _).Exact

def issuanceFields : Fields CertificateIssuance :=
  ((field "fingerprint" .str).and <| (field "node_id" .str).and <| (field "network_id" .str).and <|
    (field "issued_at" .time).and <| field "expires_at" .time).as
    (fun ⟨fingerprint, nodeID, networkID, issuedAt, expiresAt⟩ =>
      ⟨fingerprint, nodeID, networkID, issuedAt, expiresAt⟩)
    fun x => ⟨x.fingerprint, x.nodeID, x.networkID, x.issuedAt, x.expiresAt⟩

instance : issuanceFields.Exact := Fields.as_exact fun _ => rfl

def issuanceCodec : Codec CertificateIssuance := issuanceFields.codec {} (by decide)

instance : issuanceCodec.Exact := inferInstanceAs (Fields.codec _ _ _).Exact

/-! ## Audit events -/

/-- A detail as it is read back, without a type to read it by. -/
def AuditValue.reread : AuditValue → AuditValue
  | .int n => .int (float64 n)
  | .time t => .str (Calendar.rfc3339Nano t)
  | v => v

def AuditValue.decode : Json → Except String AuditValue
  | .null => .ok .null
  | .bool b => .ok (.bool b)
  | .num n => .ok (.int (float64 n))
  | .str text => .ok (.str text)
  | .arr items => .strs <$> mapAll Codec.str.decode items
  | .obj _ => .error "no detail is an object"

/-- Details are written by what they are. -/
def auditValueCodec : Codec AuditValue where
  zero := .null
  encode
    | .null => .ok .null
    | .bool b => .ok (.bool b)
    | .int n => .ok (.num n)
    | .time t => Codec.time.encode t
    | .str text => .ok (.str text)
    | .strs texts => (Codec.list .str).encode texts
  decode := AuditValue.decode
  Fits _ := True
  times
    | .time t => [t]
    | _ => []
  reread := AuditValue.reread
  decode_encode {v} _ ht := by
    cases v with
    | time t =>
      refine ⟨.str (Calendar.rfc3339Nano t), if_pos (ht t (by simp)), rfl⟩
    | strs texts =>
      obtain ⟨js, hjs, hread⟩ := Codec.mapAll_decode .str texts (fun _ _ => trivial)
        fun _ _ _ h => by cases h
      refine ⟨.arr js, by simp [Codec.list, hjs], ?_⟩
      simp only [AuditValue.decode, hread]
      exact congrArg (fun xs => Except.ok (AuditValue.strs xs)) texts.map_id
    | _ => exact ⟨_, rfl, rfl⟩
  writable {v j} h := by
    cases v with
    | time t => exact Codec.time.writable h
    | _ => simp

def auditMemberEncode (kv : String × AuditValue) : Except String (String × Json) :=
  (kv.1, ·) <$> auditValueCodec.encode kv.2

def auditMemberDecode (kv : String × Json) : Except String (String × AuditValue) :=
  (kv.1, ·) <$> auditValueCodec.decode kv.2

def rereadDetails (d : AuditDetails) : AuditDetails := d.map fun kv => (kv.1, kv.2.reread)

theorem auditMembers_decode {d : AuditDetails}
    (ht : ∀ kv ∈ d, ∀ t ∈ auditValueCodec.times kv.2, Writable t) :
    ∃ ms, mapAll auditMemberEncode d = .ok ms ∧ ms.map Prod.fst = d.map Prod.fst ∧
      mapAll auditMemberDecode ms = .ok (rereadDetails d) := by
  induction d with
  | nil => exact ⟨[], rfl, rfl, rfl⟩
  | cons kv d ih =>
    obtain ⟨j, hj, hread⟩ := auditValueCodec.decode_encode (a := kv.2) trivial (ht kv (by simp))
    obtain ⟨ms, hms, hkeys, hreads⟩ := ih fun kv' h => ht kv' (by simp [h])
    refine ⟨(kv.1, j) :: ms, by simp [mapAll, auditMemberEncode, hj, hms], by simp [hkeys], ?_⟩
    simp [mapAll, auditMemberDecode, hread, hreads, rereadDetails]
    rfl

/-- A map: its keys are distinct. -/
def detailsCodec : Codec AuditDetails where
  zero := []
  encode d := .obj <$> mapAll auditMemberEncode d
  decode
    | .obj members => do
      reject (¬ (members.map Prod.fst).Nodup) "duplicate JSON object name"
      mapAll auditMemberDecode members
    | .null => .ok []
    | _ => .error Codec.mismatch
  Fits d := (d.map Prod.fst).Nodup
  times d := d.flatMap fun kv => auditValueCodec.times kv.2
  reread := rereadDetails
  decode_encode {d} hfits ht := by
    obtain ⟨ms, hms, hkeys, hread⟩ := auditMembers_decode fun kv hkv t h =>
      ht t (List.mem_flatMap.mpr ⟨kv, hkv, h⟩)
    refine ⟨.obj ms, by simp [hms], ?_⟩
    simp only [bind_unit_eq_ok, reject_eq_ok, Decidable.not_not]
    exact ⟨hkeys ▸ hfits, hread⟩
  writable {d j} h t ht := by
    simp only [map_eq_ok, mapAll_eq_ok] at h
    obtain ⟨ms, hms, -⟩ := h
    obtain ⟨kv, hkv, hta⟩ := List.mem_flatMap.mp ht
    obtain ⟨i, hi, rfl⟩ := List.mem_iff_getElem.mp hkv
    have hi' := (List.forall₂_iff_get.mp hms).2 i hi (hms.length_eq ▸ hi)
    simp only [auditMemberEncode, map_eq_ok] at hi'
    obtain ⟨j, hj, -⟩ := hi'
    exact auditValueCodec.writable hj t hta

def auditEventFields : Fields AuditEvent :=
  ((field "id" .str).and <| (field "action" .str).and <| (field "resource" .str).and <|
    (field "resource_id" .str).and <| (field "at" .time).and <|
    omitEmpty "details" detailsCodec List.isEmpty fun d h => by
      rw [List.isEmpty_iff.mp h]
      exact ⟨rfl, rfl⟩).as
    (fun ⟨id, action, resource, resourceID, occurredAt, details⟩ =>
      ⟨id, action, resource, resourceID, occurredAt, details⟩)
    fun x => ⟨x.id, x.action, x.resource, x.resourceID, x.occurredAt, x.details⟩

def auditEventCodec : Codec AuditEvent := auditEventFields.codec {} (by decide)

/-! ## The state file -/

def persistedStateFields : Fields State :=
  ((field "version" .int64).and <| (omitStr "master_key_verifier").and <|
    (omitStr "admin_credential_verifier").and <| (field "networks" (.list persistedNetworkCodec)).and <|
    (field "nodes" (.list persistedNodeCodec)).and <| (field "enrollments" (.list enrollmentCodec)).and <|
    (omitList "agent_recoveries" recoveryCodec).and <| (omitList "issuances" issuanceCodec).and <|
    (omitList "revocations" revocationCodec).and <| field "audit" (.list auditEventCodec)).as
    (fun ⟨version, master, admin, networks, nodes, enrollments, recoveries, issuances, revocations, audit⟩ =>
      ⟨version, master, admin, networks, nodes, enrollments, recoveries, issuances, revocations, audit⟩)
    fun x => ⟨x.version, x.masterKeyVerifier, x.adminCredentialVerifier, x.networks, x.nodes, x.enrollments,
      x.agentRecoveries, x.issuances, x.revocations, x.audit⟩

def persistedStateCodec : Codec State := persistedStateFields.codec {} (by decide)

def encodePersistedState (s : State) : Except String Json := persistedStateCodec.encode s

/-- A network as files before some settings existed have it. -/
def restoredNetwork (w : Network) : Network :=
  let w := if w.configRevision = 0 then { w with configRevision := 1 } else w
  let w := if w.configUpdatedAt = 0 then { w with configUpdatedAt := w.createdAt } else w
  if w.firewallPolicy.mode = .unset then { w with firewallPolicy := legacyDefaultFirewallPolicy }
  else if w.firewallPolicy.rendererVersion = 0 then
    { w with firewallPolicy := { w.firewallPolicy with rendererVersion := firewallRendererVersionV1 } }
  else w

def decodePersistedState (j : Json) : Except String State := do
  let s ← persistedStateCodec.decode j
  pure { s with networks := s.networks.map restoredNetwork }

end Mesh
