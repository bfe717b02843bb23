import Mesh.Control.AdminEffects

/-!
# Mesh.Control.AgentEffects

What the requests of agents perform, and the transactions that issue certificates. A release of a
claim and a step of a recovery leave networks, nodes and certificates as they are.
-/

namespace Mesh

variable {inputs : Inputs} {promotes : Option String} {s s' : State} {env : Env} {actor : Option Actor}
  {token nodeID claimID eventID : String} {now : Int} {w : Network} {n : Node} {c : SignedCertificate}

/-! ## Reports -/

variable {reason : String} {renewAfter : Int} {groups : List String}

theorem autoRollbackFirewallRollout_spec (inputs : Inputs) {evidence : AuditDetails}
    (h : autoRollbackFirewallRollout eventID now reason evidence s w n = .ok s') :
    ∃ w', w'.core = w.core ∧ (w.configRevision ≠ maxInt64 ∧ w.configRevision + 1 = w'.configRevision) ∧
      w'.firewallPolicy = w.firewallPolicy ∧ w'.routePolicies = w.routePolicies ∧ s.audit <+: s'.audit ∧
      Records inputs s s' (Keyed.put Network.id w' s.networks) s.nodes s.enrollments s.issuances s.revocations := by
  simp only [autoRollbackFirewallRollout, bind_eq_ok, exists_unit, nextConfigRevision_true,
    pure_eq_ok] at h
  obtain ⟨-, next, ⟨hne, rfl⟩, event, -, rfl⟩ := h
  exact ⟨{ w with firewallRollout := {}, configRevision := w.configRevision + 1, configUpdatedAt := now },
    rfl, ⟨hne, rfl⟩, rfl, rfl, List.prefix_append _ _, ⟨rfl, rfl, rfl, rfl, rfl, rfl, .of_eq rfl⟩⟩

theorem reportConfigApplyFailure_performed {input : ConfigApplyFailureInput}
    (h : reportConfigApplyFailure token input eventID now s = .ok s') : Performed inputs promotes s s' none := by
  simp only [reportConfigApplyFailure, bind_eq_ok, exists_unit, require_eq_ok] at h
  obtain ⟨-, -, -, _, -, n, -, w, hw, -, -, h⟩ := h
  obtain ⟨w', hcore, ⟨hne, hrev⟩, hpolicy, -, haudit, hr⟩ := autoRollbackFirewallRollout_spec inputs h
  exact .changed hw (.settings hcore hrev.symm) (.of_core hcore)
    (.revised (Network.id_of_core hcore) hne hrev hpolicy) haudit hr

theorem reportedNode_credential (input : HeartbeatInput) (status : AgentStatus) (now : Int) (current : Bool)
    (n : Node) : (reportedNode input status now current n).credential = n.credential ∨
      (reportedNode input status now current n).credential = n.credential.confirmed := by
  cases current with
  | false => exact .inl rfl
  | true => exact .inr rfl

/-- A stored report moves no counter back. Without the generation field it counts the certificate of the
node, which is never behind what was reported before. -/
theorem reportedNode_written {input : HeartbeatInput} {status : AgentStatus} {current : Bool}
    (hcount : checkHeartbeatCounters input w n now = .ok ())
    (hle : n.appliedCertificateGeneration ≤ n.certificateGeneration) :
    NodeWritten n (reportedNode input status now current n) := by
  simp only [checkHeartbeatCounters, bind_unit_eq_ok, reject_eq_ok, not_or, not_and, not_lt, not_le] at hcount
  obtain ⟨-, ⟨-, happlied⟩, ⟨-, hgen⟩, hseq, -⟩ := hcount
  refine ⟨rfl, fun hp => ⟨hp, rfl⟩, .inl rfl, .inl rfl, hseq.le, happlied, ?_⟩
  simp only [reportedNode]
  split_ifs with hpos
  · exact hgen hpos
  · exact hle
  · exact le_refl _

theorem heartbeat_performed (hv : ValidGraph s) (hc : Current s) {report : HeartbeatInput}
    (hi : inputs.report = some (hashToken (trimSpace token), report.trimmed))
    (h : heartbeat token report eventID now s = .ok s') : Performed inputs promotes s s' none := by
  simp only [heartbeat, bind_eq_ok, exists_unit, require_eq_ok] at h
  obtain ⟨-, _, -, status, -, -, -, n, hn, w, hw, hcount, rollback, -, h⟩ := h
  obtain ⟨hmem, hactive, hmatch⟩ := firstAgent_spec hn
  obtain ⟨_, -, hrecord⟩ := hv.nodeRecord hc hmem
  have hwritten : ∀ current, NodeWritten n (reportedNode report.trimmed status now current n) :=
    fun _ => reportedNode_written hcount hrecord.generations.2.2.1
  simp only [checkHeartbeatCounters, bind_unit_eq_ok, reject_eq_ok, not_or, not_lt] at hcount
  obtain ⟨-, ⟨hle, hrev⟩, -⟩ := hcount
  have hself := hv.findNode_of_mem hmem
  split at h
  · obtain ⟨w', hcore, ⟨hne, hw'⟩, hpolicy, hroutes, haudit, hr⟩ := autoRollbackFirewallRollout_spec inputs h
    exact ⟨.reported ⟨hr.version, hr.networks, hr.nodes, hr.enrollments, hr.issuances, hr.revocations,
        hr.recoveries⟩ hself
        hactive hw rfl hi hmatch hrev hle rfl (.inr ⟨w', hcore, hw'.symm, rfl⟩) (reportedNode_credential ..),
      .network hw hr.networks (.revised (Network.id_of_core hcore) hne hw' hpolicy) haudit
        (hr.nodes ▸ nodes_put hmem (hwritten _)) (.inl hroutes)⟩
  · rw [pure_eq_ok] at h
    subst h
    exact ⟨.reported ⟨rfl, rfl, rfl, rfl, rfl, rfl, .of_eq rfl⟩ hself hactive hw rfl hi hmatch hrev hle rfl
        (.inl rfl) (reportedNode_credential ..),
      .nodes (List.prefix_refl _) rfl (nodes_put hmem (hwritten _))⟩

/-- A change of a node's credential, which is the successor of the one before. -/
theorem Performed.credential (hv : ValidGraph s) {n' : Node} {id : String}
    (hr : Records inputs s s' s.networks (Keyed.put Node.id n' s.nodes) s.enrollments s.issuances s.revocations)
    (haudit : s.audit <+: s'.audit) (hn : findNode s id = some n) (hcore : n'.core = n.core)
    (hreport : n'.report = n.report) (hne : n.agentCredentialGeneration ≠ maxInt64)
    (h : n'.counters = { n.counters with agentCredentialGeneration := n.agentCredentialGeneration + 1 })
    (hi : inputs.credential = true) : Performed inputs promotes s s' none := by
  have hid : n'.id = n.id := Node.eq_of_core Node.id (fun _ => rfl) hcore
  have hstatus : n'.status = n.status := Node.eq_of_core Node.status (fun _ => rfl) hcore
  simp only [Node.counters, NodeCounters.mk.injEq] at h
  obtain ⟨hgen, hcred, hseq, happ, hag⟩ := h
  have hwritten : NodeWritten n n' := by
    refine ⟨hid, fun hp => ⟨hstatus.symm.trans hp, hgen⟩, .inl hgen, .inr (.inl ?_), hseq.ge, happ.ge, hag.ge⟩
    rw [hcred, inc64_of_ne hne]
  exact ⟨.touched hr (map_putNode hv (findNode_self hn) hid hcore) (map_putNode hv (findNode_self hn) hid hreport)
      fun h => absurd (hi.symm.trans h) Bool.noConfusion,
    .nodes haudit hr.networks (hr.nodes ▸ nodes_put (mem_of_findNode hn) hwritten)⟩

theorem rotateAgentCredential_performed (hv : ValidGraph s) {newTokenHash : String}
    (hi : inputs.credential = true) (h : rotateAgentCredential token newTokenHash eventID now s = .ok s') :
    Performed inputs promotes s s' none := by
  simp only [rotateAgentCredential, bind_eq_ok, exists_unit, require_eq_ok] at h
  obtain ⟨-, _, -, n, hn, h⟩ := h
  split at h
  · simp only [bind_unit_eq_ok, pure_eq_ok] at h
    exact h.2 ▸ .refl s
  · simp only [bind_unit_eq_ok, reject_eq_ok, not_or, pure_eq_ok] at h
    obtain ⟨-, -, ⟨-, hne⟩, rfl⟩ := h
    exact .credential hv ⟨rfl, rfl, rfl, rfl, rfl, rfl, .of_eq rfl⟩ (List.prefix_append _ _)
      (hv.findNode_of_mem (firstAgent_spec hn).1) rfl rfl hne rfl hi

/-! ## Recovery -/

/-- The records of recoveries alone change. -/
theorem Performed.recovery (hr : Records inputs s s' s.networks s.nodes s.enrollments s.issuances s.revocations)
    (haudit : s.audit <+: s'.audit) : Performed inputs promotes s s' none :=
  ⟨.touched hr rfl rfl fun _ => rfl, .quiet haudit hr.networks hr.nodes⟩

theorem issueAgentRecovery_performed {bearers ids : List String} (hi : inputs.recovery = true)
    (h : issueAgentRecovery actor nodeID bearers ids eventID now s = .ok s') :
    Performed inputs promotes s s' none := by
  simp only [issueAgentRecovery, bind_eq_ok, exists_unit, require_eq_ok, pure_eq_ok] at h
  obtain ⟨n, -, -, token, -, id, -, event, -, rfl⟩ := h
  exact .recovery ⟨rfl, rfl, rfl, rfl, rfl, rfl, .of_request hi⟩ (List.prefix_append _ _)

theorem recoverClaim_performed {request : RecoverRequest} {c : RecoverClaim} (hi : inputs.recovery = true)
    (h : recoverClaim request claimID now s = .ok (s', c)) : Performed inputs promotes s s' none := by
  simp only [recoverClaim, bind_eq_ok, require_eq_ok] at h
  obtain ⟨r, -, n, -, h⟩ := h
  split at h
  · simp only [bind_eq_ok, exists_unit, pure_eq_ok, Prod.mk.injEq] at h
    obtain ⟨_, -, -, rfl, -⟩ := h
    exact .refl s
  · simp only [bind_unit_eq_ok, pure_eq_ok, Prod.mk.injEq] at h
    obtain ⟨-, -, rfl, -⟩ := h
    exact .recovery ⟨rfl, rfl, rfl, rfl, rfl, rfl, .of_request hi⟩ (List.prefix_refl _)

theorem recoverCommit_performed (hv : ValidGraph s) {request : RecoverRequest} {recoveryID : String}
    {b : AgentRecoveryBundle} (hi : inputs.credential = true) (hi' : inputs.recovery = true)
    (h : recoverCommit env request recoveryID claimID eventID now s = .ok (s', b)) :
    Performed inputs promotes s s' none := by
  simp only [recoverCommit, bind_eq_ok, exists_unit, require_eq_ok, reject_eq_ok, pure_eq_ok,
    Prod.mk.injEq, Option.filter_eq_some_iff, not_or] at h
  obtain ⟨r, -, -, n, ⟨hn, -⟩, -, -, ⟨-, hne⟩, w, -, _, -, rfl, -⟩ := h
  exact .credential hv ⟨rfl, rfl, rfl, rfl, rfl, rfl, .of_request hi'⟩ (List.prefix_append _ _) hn rfl rfl hne rfl hi

/-! ## Enrollment -/

theorem enrollClaim_performed {request : EnrollRequest} {c : EnrollClaim} (hid : claimID ∈ inputs.drawn)
    (h : enrollClaim env request claimID now s = .ok (s', c)) : Performed inputs promotes s s' none := by
  simp only [enrollClaim, bind_eq_ok, require_eq_ok] at h
  obtain ⟨e, he, h⟩ := h
  split at h
  · simp only [bind_eq_ok, pure_eq_ok, Prod.mk.injEq] at h
    obtain ⟨_, -, rfl, -⟩ := h
    exact .refl s
  · rename_i hused
    simp only [bind_eq_ok, exists_unit, require_eq_ok, pure_eq_ok, Prod.mk.injEq] at h
    obtain ⟨-, -, n, -, w, -, rfl, -⟩ := h
    exact ⟨.enrollmentClaimed ⟨rfl, rfl, rfl, rfl, rfl, rfl, .of_eq rfl⟩ (List.mem_of_find?_eq_some he)
      (by simpa using hused) hid, .quiet (List.prefix_refl _) rfl rfl⟩

theorem checkIssued_spec (h : checkIssued c now = .ok ()) :
    fingerprintPattern c.fingerprint = true ∧ now < c.expiresAt := by
  simp only [checkIssued, bind_unit_eq_ok, reject_eq_ok, not_or, Decidable.not_not] at h
  exact ⟨h.1.1, h.2⟩

theorem enrolledNetwork_written (s₁ : State) (n : Node) (now : Int) (w : Network) :
    NetworkWritten promotes s w (enrolledNetwork s₁ n now w) := by
  simp only [enrolledNetwork]
  split_ifs
  · exact ⟨rfl, .inr rfl, .kept rfl⟩
  · exact .kept rfl rfl rfl

/-- An enrollment makes its node an owner; the network is reconciled with it. -/
theorem enrolledNetwork_policies (s₁ : State) (n : Node) (now : Int) (w : Network) :
    (enrolledNetwork s₁ n now w).routePolicies = w.routePolicies ∨
      (enrolledNetwork s₁ n now w).routePolicies = (reconcileNetworkRoutePolicies s₁ w).routePolicies := by
  simp only [enrolledNetwork]
  split_ifs <;> exact .inr rfl

/-- A pending node has not been counted, so an enrollment starts its counters. -/
theorem enrolledNode_written {s₁ : State} {request : EnrollRequest} {ca : String} (hp : n.status = .pending) :
    NodeWritten n (enrolledNode s₁ request ca c renewAfter now n) :=
  ⟨rfl, fun h => NodeStatus.noConfusion h, .inr (.inr ⟨hp, rfl⟩), .inr (.inr ⟨hp, rfl⟩), le_refl _, le_refl _,
    le_refl _⟩

theorem enrollCommit_performed {f : EnrollFlight} {b : EnrollmentBundle}
    (h : enrollCommit env f c eventID now s = .ok (s', b)) :
    ∃ n, findNode s f.node.id = some n ∧
      Performed inputs promotes s s' (some (.enroll f, ⟨.enrolled, n.id, n.networkID, f.signing, c, 1⟩)) := by
  simp only [enrollCommit, bind_eq_ok, exists_unit, require_eq_ok, reject_eq_ok, pure_eq_ok,
    Prod.mk.injEq, Option.filter_eq_some_iff, decide_eq_true_eq, Decidable.not_not, not_or] at h
  obtain ⟨_, -, hc, -, w, hw, hca, -, e, he, ⟨hused, hclaim, hkey⟩, n, ⟨hn, hpending⟩, _, -, rfl, -⟩ := h
  rw [← hca]
  exact ⟨n, hn, .enrolled ⟨rfl, rfl, rfl, rfl, rfl, rfl, .of_eq rfl⟩ hn hpending hw hca.symm he hused hclaim hkey
      (checkIssued_spec hc).1,
    .network hw rfl (enrolledNetwork_written _ _ now w) (List.prefix_append _ _)
      (nodes_put (mem_of_findNode hn) (enrolledNode_written hpending)) (enrolledNetwork_policies _ _ now w)⟩

/-! ## Renewal -/

theorem renewClaim_performed (hv : ValidGraph s) {publicKey : String} {c : RenewClaim}
    (hid : claimID ∈ inputs.drawn) (h : renewClaim env token publicKey claimID now s = .ok (s', c)) :
    Performed inputs promotes s s' none := by
  simp only [renewClaim, bind_eq_ok, exists_unit, require_eq_ok] at h
  obtain ⟨-, _, -, _, -, -, n, hn, -, w, -, h⟩ := h
  obtain ⟨hmem, hactive, -⟩ := firstAgent_spec hn
  split at h
  · simp only [bind_eq_ok, pure_eq_ok, Prod.mk.injEq] at h
    obtain ⟨_, -, rfl, -⟩ := h
    exact .refl s
  · simp only [bind_eq_ok, exists_unit, require_eq_ok, pure_eq_ok, Prod.mk.injEq] at h
    obtain ⟨-, _, -, -, -, -, rfl, -⟩ := h
    exact ⟨.renewalClaimed ⟨rfl, rfl, rfl, rfl, rfl, rfl, .of_eq rfl⟩ (hv.findNode_of_mem hmem) hactive hid,
      .nodes (List.prefix_refl _) rfl (nodes_put hmem (.of_counters rfl (fun hp => hp) rfl))⟩

theorem renewedNode_written {s₁ : State} {ca : String} (hactive : n.status = .active) :
    NodeWritten n { renewedNode s₁ ca c renewAfter now n with groups := groups } :=
  ⟨rfl, fun h => absurd (hactive.symm.trans h) (by decide), .inr (.inl rfl), .inl rfl, le_refl _, le_refl _,
    le_refl _⟩

theorem renewCommit_performed {f : RenewFlight} {b : RenewalBundle}
    (h : renewCommit env f c eventID now s = .ok (s', b)) :
    ∃ n, findNode s f.node.id = some n ∧ Performed inputs promotes s s' (some (.renew f,
      ⟨.renewed, n.id, n.networkID, f.signing, c, inc64 n.certificateGeneration⟩)) := by
  simp only [renewCommit, bind_eq_ok, exists_unit, require_eq_ok, reject_eq_ok, pure_eq_ok,
    Prod.mk.injEq, Decidable.not_not, not_or] at h
  obtain ⟨_, -, hc, w, hw, hca, -, n, hn, ⟨hactive, hclaim, -⟩, hgen, _, -, rfl, -⟩ := h
  rw [← hca]
  exact ⟨n, hn, .renewed ⟨rfl, rfl, rfl, rfl, rfl, rfl, .of_eq rfl⟩ hn hactive hw hca.symm hclaim
      (checkIssued_spec hc).1 (not_le.mp hgen),
    .nodes (List.prefix_append _ _) rfl (nodes_put (mem_of_findNode hn) (renewedNode_written hactive))⟩

/-! ## Released claims -/

theorem releaseEnrollmentClaim_performed (enrollmentID claimID : String) :
    Performed inputs promotes s (releaseEnrollmentClaim enrollmentID claimID s) none :=
  ⟨.enrollmentReleased ⟨rfl, rfl, rfl, rfl, rfl, rfl, .of_eq rfl⟩, .quiet (List.prefix_refl _) rfl rfl⟩

theorem releaseRenewalClaim_performed (nodeID claimID : String) :
    Performed inputs promotes s (releaseRenewalClaim nodeID claimID s) none := by
  refine ⟨.renewalReleased ⟨rfl, rfl, rfl, rfl, rfl, rfl, .of_eq rfl⟩,
    .nodes (List.prefix_refl _) rfl fun n' hn' => ?_⟩
  simp only [releaseRenewalClaim, List.mem_map] at hn'
  obtain ⟨n, hn, rfl⟩ := hn'
  refine .inl ⟨n, hn, ?_⟩
  split_ifs
  · exact .of_counters rfl (fun hp => hp) rfl
  · exact .refl n

theorem releaseAgentRecoveryClaim_performed (recoveryID claimID : String) (hi : inputs.recovery = true) :
    Performed inputs promotes s (releaseAgentRecoveryClaim recoveryID claimID s) none :=
  .recovery ⟨rfl, rfl, rfl, rfl, rfl, rfl, .of_request hi⟩ (List.prefix_refl _)

/-! ## Replacement -/

theorem checkReplacement_spec {text : String} (h : checkReplacement text w c now = .ok renewAfter) :
    fingerprintPattern c.fingerprint = true := by
  simp only [checkReplacement, bind_unit_eq_ok, reject_eq_ok, not_or, Decidable.not_not] at h
  exact h.1.2.1

structure ReplacementCurrent (s : State) (snapshot : Snapshot) (expectedRevision : Int) (n : Node)
    (w : Network) : Prop where
  node : findNode s snapshot.node.id = some n
  active : n.status = .active
  network : findNetwork s n.networkID = some w
  available : replacementUnavailable w n = false
  authority : networkSigningAuthority w = networkSigningAuthority snapshot.network
  revision : w.configRevision = expectedRevision

theorem replacementCurrent_spec {operation name : String} {snapshot : Snapshot} {expected : Int}
    (h : replacementCurrent operation snapshot name expected s = .ok (n, w)) :
    ReplacementCurrent s snapshot expected n w := by
  simp only [replacementCurrent, bind_eq_ok, exists_unit, require_eq_ok, reject_eq_ok, pure_eq_ok,
    Prod.mk.injEq, not_or, Decidable.not_not, Bool.not_eq_true] at h
  obtain ⟨_, hn, ⟨hactive, -⟩, _, hw, ⟨hrev, havail, hauth, -⟩, rfl, rfl⟩ := h
  exact ⟨hn, hactive, hw, havail, hauth, hrev⟩

/-- A certificate that is not on record as revoked is appended. -/
theorem appendRevocation_of_new (hn : findNode s n.id = some n)
    (hfp : n.certificateFingerprint ≠ "")
    (hnew : ¬ s.revocations.any (fun r => r.fingerprint = n.certificateFingerprint) = true)
    (reason : String) (now : Int) :
    appendRevocation s n.id n.certificateFingerprint reason now n.certificateExpiresAt =
      { s with revocations := s.revocations ++ [{
          fingerprint := n.certificateFingerprint, nodeID := n.id, networkID := n.networkID
          reason := reason, revokedAt := now, expiresAt := n.certificateExpiresAt }] } := by
  rw [appendRevocation, if_neg (not_or.mpr ⟨hfp, hnew⟩), hn]
  rfl

theorem replaceCertificate_records (inputs : Inputs) {event : AuditEvent} (hn : findNode s n.id = some n)
    (hfp : n.certificateFingerprint ≠ "")
    (hnew : ¬ s.revocations.any (fun r => r.fingerprint = n.certificateFingerprint) = true) :
    Records inputs s (addAudit (replaceCertificate s reason w n groups c renewAfter now (w.configRevision + 1)) event)
      (Keyed.put Network.id { w with configRevision := w.configRevision + 1, configUpdatedAt := now }
        s.networks)
      (Keyed.put Node.id { renewedNode s (networkSigningAuthority w).1 c renewAfter now n with
        groups := groups } s.nodes)
      s.enrollments (s.issuances ++ [issuanceOf n c now])
      (s.revocations ++ [{ fingerprint := n.certificateFingerprint, nodeID := n.id
                           networkID := n.networkID, reason := reason, revokedAt := now
                           expiresAt := n.certificateExpiresAt }]) ∧
      s.audit <+: (addAudit (replaceCertificate s reason w n groups c renewAfter now (w.configRevision + 1))
        event).audit := by
  simp only [replaceCertificate]
  rw [appendRevocation_of_new
    (s := { s with agentRecoveries := s.agentRecoveries.filter fun r => r.nodeID ≠ n.id }) hn hfp hnew]
  exact ⟨⟨rfl, rfl, rfl, rfl, rfl, rfl, .of_filter rfl⟩, List.prefix_append _ _⟩

theorem sameCertificateLifecycle_fingerprint {a b : Node} (h : sameCertificateLifecycle a b = true) :
    a.certificateFingerprint = b.certificateFingerprint := by
  simp only [sameCertificateLifecycle, Bool.and_eq_true, beq_iff_eq] at h
  exact h.1.1.1.1.1.1.2

/-- The replacement of a certificate that was read with a fingerprint. -/
theorem Performed.replacement {flight : Flight} {r : Replacement} {event : AuditEvent}
    (hr : flight.replacement? = some r) (hcur : ReplacementCurrent s r.snapshot r.expectedConfigRevision n w)
    (hne : w.configRevision ≠ maxInt64) (hfp : n.certificateFingerprint ≠ "")
    (hc : fingerprintPattern c.fingerprint = true)
    (hnew : ¬ s.revocations.any (fun r => r.fingerprint = n.certificateFingerprint) = true)
    (hgroups : r.kind = .rotated ∧ groups = n.groups ∨ r.kind = .regrouped ∧ groups = r.request.groups) :
    Performed inputs promotes s
      (addAudit (replaceCertificate s reason w n groups c renewAfter now (w.configRevision + 1)) event)
      (some (flight, ⟨r.kind, n.id, n.networkID, r.request, c, inc64 n.certificateGeneration⟩)) := by
  obtain ⟨hrec, haudit⟩ := replaceCertificate_records inputs (findNode_self hcur.node) hfp hnew
  exact ⟨.replaced hrec hr hcur.node hcur.active hcur.network hcur.available hcur.authority hcur.revision hc hgroups,
    .network hcur.network hrec.networks (.revised rfl hne rfl rfl) haudit
      (hrec.nodes ▸ nodes_put (mem_of_findNode hcur.node) (renewedNode_written hcur.active)) (.inl rfl)⟩

theorem rotateCommit_performed {f : RotateFlight} (hfp : f.snapshot.node.certificateFingerprint ≠ "")
    (h : rotateCommit actor f c eventID s = .ok (some s')) :
    ∃ n, findNode s f.snapshot.node.id = some n ∧ Performed inputs promotes s s' (some (.rotate actor f,
      ⟨.rotated, n.id, n.networkID, f.signing, c, inc64 n.certificateGeneration⟩)) := by
  simp only [rotateCommit, bind_eq_ok, exists_unit] at h
  obtain ⟨-, renewAfter, hc, replay, -, h⟩ := h
  split at h
  · cases h
  simp only [bind_eq_ok, exists_unit, reject_eq_ok, nextConfigRevision_true, pure_eq_ok, Prod.exists,
    Decidable.not_not, Option.some.injEq] at h
  obtain ⟨n, w, hcur, hsame, hnew, next, ⟨hne, rfl⟩, event, -, rfl⟩ := h
  have hcur := replacementCurrent_spec hcur
  rw [← sameCertificateLifecycle_fingerprint hsame] at hfp hnew
  have hr : (Flight.rotate actor f).replacement? =
    some ⟨.rotated, f.snapshot, f.signing, f.input.expectedConfigRevision⟩ := rfl
  exact ⟨n, hcur.node, .replacement hr hcur hne hfp (checkReplacement_spec hc) hnew (.inl ⟨rfl, rfl⟩)⟩

theorem groupsCommit_performed {f : GroupsFlight} (hfp : f.snapshot.node.certificateFingerprint ≠ "")
    (h : groupsCommit actor f c eventID s = .ok (some s')) :
    ∃ n, findNode s f.snapshot.node.id = some n ∧ Performed inputs promotes s s' (some (.groups actor f,
        ⟨.regrouped, n.id, n.networkID, f.signing, c, inc64 n.certificateGeneration⟩)) := by
  simp only [groupsCommit, bind_eq_ok, exists_unit] at h
  obtain ⟨-, renewAfter, hc, replay, -, h⟩ := h
  split at h
  · cases h
  simp only [bind_eq_ok, exists_unit, reject_eq_ok, nextConfigRevision_true, pure_eq_ok, Prod.exists,
    not_or, Decidable.not_not, Option.some.injEq] at h
  obtain ⟨n, w, hcur, ⟨-, hsame⟩, hnew, next, ⟨hne, rfl⟩, event, -, rfl⟩ := h
  have hcur := replacementCurrent_spec hcur
  rw [← sameCertificateLifecycle_fingerprint hsame] at hfp hnew
  have hr : (Flight.groups actor f).replacement? =
    some ⟨.regrouped, f.snapshot, f.signing, f.input.expectedConfigRevision⟩ := rfl
  exact ⟨n, hcur.node, .replacement hr hcur hne hfp (checkReplacement_spec hc) hnew (.inr ⟨rfl, rfl⟩)⟩

end Mesh
