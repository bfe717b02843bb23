import Mesh.Control.Ledger

/-!
# Mesh.Control.AdminEffects

What each operation an administrator asks for performs, except those that issue certificates.
-/

namespace Mesh

variable {inputs : Inputs} {promotes : Option String} {s s' : State} {actor : Option Actor}
  {networkID nodeID eventID rolloutEventID : String} {now : Int}

/-! ## Settings -/

theorem updateNetworkDNS_performed {input : UpdateNetworkDNSInput}
    (h : updateNetworkDNS actor networkID input eventID now s = .ok s') : Performed inputs promotes s s' none := by
  simp only [updateNetworkDNS, bind_eq_ok, exists_unit, require_eq_ok] at h
  obtain ⟨-, -, -, w, hw, -, h⟩ := h
  split at h
  · rw [pure_eq_ok] at h
    exact h ▸ .refl s
  · simp only [bind_eq_ok, exists_unit, nextConfigRevision_true, pure_eq_ok] at h
    obtain ⟨-, -, -, -, next, hnext, event, -, rfl⟩ := h
    exact .settings hw rfl hnext (.kept rfl)

theorem updateNetworkRelays_performed {input : UpdateNetworkRelaysInput}
    (h : updateNetworkRelays actor networkID input eventID now s = .ok s') :
    Performed inputs promotes s s' none := by
  simp only [updateNetworkRelays, bind_eq_ok, exists_unit, require_eq_ok] at h
  obtain ⟨-, -, desired, -, -, w, hw, -, h⟩ := h
  split at h
  · rw [pure_eq_ok] at h
    exact h ▸ .refl s
  · simp only [bind_eq_ok, exists_unit, nextConfigRevision_true, pure_eq_ok] at h
    obtain ⟨-, -, -, next, hnext, event, -, rfl⟩ := h
    exact .settings hw rfl hnext (.kept rfl)

theorem updateNetworkRoutePolicy_performed {input : UpdateNetworkRoutePolicyInput}
    (h : updateNetworkRoutePolicy actor networkID input eventID now s = .ok s') :
    Performed inputs promotes s s' none := by
  simp only [updateNetworkRoutePolicy, bind_eq_ok, exists_unit, require_eq_ok] at h
  obtain ⟨⟨subnet, gateways⟩, -, -, -, w, hw, -, -, h⟩ := h
  split at h
  · simp only [bind_eq_ok, exists_unit, pure_eq_ok] at h
    exact h.2 ▸ .refl s
  · simp only [bind_eq_ok, exists_unit, nextConfigRevision_true, pure_eq_ok] at h
    obtain ⟨-, next, hnext, event, -, rfl⟩ := h
    exact .settings hw rfl hnext (.kept rfl)

/-- A direct change of the policy waits for the end of a rollout. -/
theorem updateFirewallPolicy_performed {input : UpdateFirewallPolicyInput}
    (h : updateFirewallPolicy actor networkID input eventID now s = .ok s') :
    Performed inputs promotes s s' none := by
  simp only [updateFirewallPolicy, bind_eq_ok, exists_unit, require_eq_ok] at h
  obtain ⟨-, w, hw, desired, -, -, -, -, h⟩ := h
  split at h
  · rw [pure_eq_ok] at h
    exact h ▸ .refl s
  · simp only [bind_eq_ok, exists_unit, reject_eq_ok, nextConfigRevision_true, pure_eq_ok,
      Decidable.not_not] at h
    obtain ⟨hstable, -, -, -, next, hnext, event, -, rfl⟩ := h
    exact .settings hw rfl hnext (.replaced hstable rfl)

variable {input : UpdateNetworkFirewallRolloutInput} {ids bearers : List String} {f g : String → Prop}
  {next : Int} {details : AuditDetails} {generated : String × String} {s₁ : State} {draws : ReplacementDraws}

theorem all_converged {w : Network} {f : Failure}
    (h : checkAll (fun id => reject (¬ (findNode s id).any (firewallRolloutNodeConverged s w)) f) ids = .ok ()) :
    ∀ id ∈ ids, ∃ n, findNode s id = some n ∧ firewallRolloutNodeConverged s w n = true := by
  intro id hid
  have hany := checkAll_eq_ok.mp h id hid
  rw [reject_eq_ok, Decidable.not_not] at hany
  cases hn : findNode s id with
  | none => rw [hn] at hany; cases hany
  | some n =>
    rw [hn] at hany
    exact ⟨n, rfl, hany⟩

/-- A rollout action changes the rollout alone, and the active policy only to promote the target. -/
theorem applyFirewallRollout_spec {canaries : List String} {w w' : Network} {action : String}
    (h : applyFirewallRollout input canaries now next s w = .ok (w', action, details)) :
    w'.core = w.core ∧ (w'.firewallPolicy = w.firewallPolicy ∨
      (input.action = .promote ∧ RolloutConverged s w ∧
        w'.firewallPolicy = w.firewallRollout.targetPolicy ∧ w'.firewallRollout = {})) := by
  unfold applyFirewallRollout at h
  split at h <;> simp only [bind_eq_ok, exists_unit, pure_eq_ok, Prod.mk.injEq] at h
  · obtain ⟨-, target, -, -, -, -, -, -, rfl, -⟩ := h
    exact ⟨rfl, .inl rfl⟩
  · rename_i haction
    obtain ⟨hphase, hall, rfl, -⟩ := h
    rw [reject_eq_ok, Decidable.not_not] at hphase
    exact ⟨rfl, .inr ⟨haction, ⟨hphase, all_converged hall⟩, rfl, rfl⟩⟩
  all_goals
    obtain ⟨-, rfl, -⟩ := h
    exact ⟨rfl, .inl rfl⟩

theorem updateNetworkFirewallRollout_performed (hp : input.action = .promote → promotes = some networkID)
    (h : updateNetworkFirewallRollout actor networkID input eventID now s = .ok s') :
    Performed inputs promotes s s' none := by
  simp only [updateNetworkFirewallRollout, bind_eq_ok, exists_unit, require_eq_ok,
    nextConfigRevision_true, pure_eq_ok] at h
  obtain ⟨-, canaries, -, -, -, w, hw, -, next, hnext, ⟨w', action, details⟩, happly, event, -, rfl⟩ := h
  obtain ⟨hcore, hpolicy⟩ := applyFirewallRollout_spec happly
  refine .settings hw hcore hnext ?_
  obtain hkept | ⟨haction, hconv, htarget, hdone⟩ := hpolicy
  · exact .kept hkept
  · exact .promoted ((hp haction).trans (by rw [findNetwork_id hw])) hconv htarget hdone

/-! ## CA rotation -/

theorem pruneExpiredNetworkRecoveryReplays_spec
    (h : pruneExpiredNetworkRecoveryReplays s networkID now = .ok s') :
    ∃ recoveries ⊆ s.agentRecoveries, s' = { s with agentRecoveries := recoveries } := by
  simp only [pruneExpiredNetworkRecoveryReplays, bind_eq_ok, exists_unit, pure_eq_ok] at h
  exact ⟨_, List.filter_subset_self _, h.2.symm⟩

theorem all_active_iff {w : Network} :
    ((s.nodes.filter fun n => n.networkID = w.id && n.status = .active).all (caRotationNodeConverged w)
        = true) ↔
      ∀ n ∈ s.nodes, n.networkID = w.id → n.status = .active → caRotationNodeConverged w n = true := by
  simp only [List.all_eq_true, List.mem_filter, Bool.and_eq_true, decide_eq_true_eq, and_imp]

/-- Each action is a rotation step, on a state that has at most lost recoveries. -/
theorem applyCARotation_spec {action : CARotationAction} {w w' : Network} {event : String}
    (h : applyCARotation action generated now (w.configRevision + 1)
      ((s.nodes.filter fun n => n.networkID = w.id && n.status = .active).all
        (caRotationNodeConverged w)) s w = .ok (s₁, w', event, details)) :
    (∃ recoveries ⊆ s.agentRecoveries, s₁ = { s with agentRecoveries := recoveries }) ∧
      ∃ rotation ca key, RotationStep s w now rotation ca key ∧
        w' = { w with caRotation := rotation, caCertificate := ca, encryptedCAKey := key } := by
  unfold applyCARotation at h
  cases action <;>
    simp only [bind_eq_ok, exists_unit, reject_eq_ok, pure_eq_ok, Prod.mk.injEq, not_or, not_and,
      Decidable.not_not, all_active_iff] at h
  · obtain ⟨⟨hp, -⟩, s₂, hs, rfl, rfl, -⟩ := h
    exact ⟨pruneExpiredNetworkRecoveryReplays_spec hs, _, _, _, .prepared _ _ hp, rfl⟩
  · obtain ⟨⟨hp, hall⟩, rfl, rfl, -⟩ := h
    exact ⟨⟨_, List.Subset.refl _, rfl⟩, _, _, _, .activated hp hall, rfl⟩
  · obtain ⟨⟨hp, hall⟩, s₂, hs, rfl, rfl, -⟩ := h
    exact ⟨pruneExpiredNetworkRecoveryReplays_spec hs, _, _, _, .finalized hp hall, rfl⟩
  · obtain ⟨hp, s₂, hs, rfl, rfl, -⟩ := h
    exact ⟨pruneExpiredNetworkRecoveryReplays_spec hs, _, _, _, .aborted hp, rfl⟩
  · obtain ⟨⟨hp, hall⟩, rfl, rfl, -⟩ := h
    exact ⟨⟨_, List.Subset.refl _, rfl⟩, _, _, _, .completed (Decidable.or_iff_not_imp_left.mpr hp) hall, rfl⟩

theorem updateNetworkCARotation_performed {input : UpdateNetworkCARotationInput}
    (h : updateNetworkCARotation actor networkID input generated eventID now s = .ok s') :
    Performed inputs promotes s s' none := by
  simp only [updateNetworkCARotation, bind_eq_ok, exists_unit, require_eq_ok, nextConfigRevision_true,
    pure_eq_ok] at h
  obtain ⟨-, -, -, w, hw, -, next, ⟨hne, rfl⟩, ⟨s₁, w', action, details⟩, happly, event, -, rfl⟩ := h
  obtain ⟨⟨recoveries, hkept, rfl⟩, rotation, ca, key, hstep, rfl⟩ := applyCARotation_spec happly
  exact .changed hw (.rotation hstep) (.of_kept rfl) (.revised rfl hne rfl rfl) (List.prefix_append _ _)
    ⟨rfl, rfl, rfl, rfl, rfl, rfl, .of_subset hkept⟩

/-! ## Networks and pending nodes -/

theorem createNetwork_performed {input : CreateNetworkInput} {material : NetworkMaterial} {id : String}
    (hid : id ∈ inputs.drawn) (h : createNetwork actor input material id eventID now s = .ok s') :
    Performed inputs promotes s s' none := by
  simp only [createNetwork, bind_eq_ok, exists_unit, pure_eq_ok] at h
  obtain ⟨⟨name, cidr, port, ttl⟩, -, -, -, conflict, -, -, -, event, -, rfl⟩ := h
  refine ⟨.networkCreated ⟨rfl, rfl, rfl, rfl, rfl, rfl, .of_eq rfl⟩ hid rfl rfl rfl,
    ⟨List.prefix_append _ _, .append (networks_kept rfl) fun w hw => ?_, nodes_kept rfl⟩, .quiet rfl⟩
  rw [List.mem_singleton.mp hw]
  exact ⟨hid, rfl⟩

theorem retireNetwork_performed {input : RetireNetworkInput}
    (h : retireNetwork actor networkID input eventID now s = .ok s') : Performed inputs promotes s s' none := by
  simp only [retireNetwork, bind_eq_ok, exists_unit, require_eq_ok, pure_eq_ok] at h
  obtain ⟨-, -, w, hw, -, -, event, -, rfl⟩ := h
  exact ⟨.networkRetired ⟨rfl, rfl, rfl, rfl, rfl, rfl, .of_filter rfl⟩,
    ⟨List.prefix_append _ _, .of_subset NetworkWritten.refl (List.filter_subset_self _),
      .of_subset NodeWritten.refl (List.filter_subset_self _)⟩,
    .moved (.of_subset (PoliciesWritten.refl _) (List.filter_subset_self _))⟩

theorem checkCreateNodeInput_spec {input : CreateNodeInput} {n : Node}
    (h : checkCreateNodeInput input = .ok n) : NewNode n ∧ n.counters = ⟨0, 0, 0, 0, 0⟩ := by
  simp only [checkCreateNodeInput, bind_eq_ok, exists_unit] at h
  obtain ⟨-, role, -, -, h⟩ := h
  split at h <;> simp only [bind_eq_ok, exists_unit, pure_eq_ok] at h
  · obtain ⟨-, site, -, domain, -, groups, -, routes, -, rfl⟩ := h
    exact ⟨⟨rfl, rfl, rfl, rfl⟩, rfl⟩
  · obtain ⟨site, -, domain, -, groups, -, routes, -, rfl⟩ := h
    exact ⟨⟨rfl, rfl, rfl, rfl⟩, rfl⟩

theorem createNode_performed {enrollmentID : String} {input : CreateNodeInput} {later : Int}
    (hid : nodeID ∈ inputs.drawn) (hb : ∀ b ∈ bearers, hashToken b ∈ inputs.drawn)
    (h : createNode actor networkID input nodeID enrollmentID bearers eventID now later s = .ok s') :
    Performed inputs promotes s s' none := by
  simp only [createNode, bind_eq_ok, exists_unit, pure_eq_ok] at h
  obtain ⟨template, ht, -, w, -, hroutes, -, address, -, token, htoken, event, -, rfl⟩ := h
  obtain ⟨hnew, hzero⟩ := checkCreateNodeInput_spec ht
  refine ⟨.nodeCreated ⟨rfl, rfl, rfl, rfl, rfl, rfl, .of_eq rfl⟩
      ⟨hnew.status, hnew.fingerprint, hnew.report, hnew.claim⟩ hid
      ⟨hb token (firstUnusedBearer_spec htoken).2.2, rfl, rfl, rfl⟩ hroutes,
    .nodes (List.prefix_append _ _) rfl (.append (nodes_kept rfl) fun n hn => ?_)⟩
  rw [List.mem_singleton.mp hn]
  exact ⟨hid, hzero⟩

theorem reissueEnrollment_performed (hb : ∀ b ∈ bearers, hashToken b ∈ inputs.drawn)
    (h : reissueEnrollment actor nodeID bearers ids eventID now s = .ok s') :
    Performed inputs promotes s s' none := by
  simp only [reissueEnrollment, bind_eq_ok, exists_unit, require_eq_ok, reject_eq_ok, pure_eq_ok, not_or,
    Decidable.not_not] at h
  obtain ⟨n, hn, ⟨hpending, -⟩, token, htoken, id, -, event, -, rfl⟩ := h
  rw [← findNode_id hn]
  exact ⟨.reissued ⟨rfl, rfl, rfl, rfl, rfl, rfl, .of_eq rfl⟩ (findNode_self hn) hpending
    ⟨hb token (firstUnusedBearer_spec htoken).2.2, rfl, rfl, rfl⟩, .quiet (List.prefix_append _ _) rfl rfl⟩

theorem cancelPendingNode_performed {confirmationName : String}
    (h : cancelPendingNode actor nodeID confirmationName eventID now s = .ok s') :
    Performed inputs promotes s s' none := by
  simp only [cancelPendingNode, bind_eq_ok, exists_unit, require_eq_ok, reject_eq_ok, pure_eq_ok, not_or,
    Decidable.not_not] at h
  obtain ⟨-, -, n, hn, ⟨hpending, -⟩, -, w, hw, next, hnext, event, -, rfl⟩ := h
  refine ⟨.nodeCancelled ⟨rfl, rfl, rfl, rfl, rfl, rfl, .of_eq rfl⟩ (findNode_self hn) hpending hw ?_ ?_,
    .network hw rfl ?_ (List.prefix_append _ _) (.of_subset NodeWritten.refl (List.filter_subset_self _))
      (.inl (by split <;> rfl))⟩
  · split <;> rfl
  · split
    · rename_i hrelay
      rw [hrelay, nextConfigRevision_true] at hnext
      exact .inr hnext.2.symm
    · exact .inl rfl
  · split
    · rename_i hrelay
      rw [hrelay, nextConfigRevision_true] at hnext
      exact .revised rfl hnext.1 hnext.2 rfl
    · exact .refl w

/-! ## Archival -/

theorem le_laterOf_left (a b : Int) : a ≤ laterOf a b := by
  unfold laterOf
  split <;> omega

theorem le_foldl_laterOf {α : Type} (f : α → Int) (xs : List α) :
    ∀ t : Int, t ≤ xs.foldl (fun t x => laterOf t (f x)) t ∧
      ∀ x ∈ xs, f x ≤ xs.foldl (fun t x => laterOf t (f x)) t := by
  induction xs with
  | nil => intro t; simp
  | cons x xs ih =>
    intro t
    obtain ⟨h1, h2⟩ := ih (laterOf t (f x))
    have hx : f x ≤ laterOf t (f x) := by
      unfold laterOf
      split <;> omega
    refine ⟨(le_laterOf_left t (f x)).trans h1, fun y hy => ?_⟩
    rcases List.mem_cons.mp hy with rfl | hy
    · exact hx.trans h1
    · exact h2 y hy

/-- No issuance of the node expires later. -/
theorem lastCertificateExpiry_spec {n : Node} {last : Int} (h : lastCertificateExpiry s n = .ok last) :
    ∀ i ∈ s.issuances, i.nodeID = n.id → i.expiresAt ≤ last := by
  simp only [lastCertificateExpiry, bind_eq_ok, exists_unit, pure_eq_ok] at h
  obtain ⟨-, rfl⟩ := h
  intro i hi hid
  have hissued := (le_foldl_laterOf CertificateIssuance.expiresAt
    (s.issuances.filter fun i => i.nodeID = n.id) (n.certificateExpiresAt.getD 0)).2 i
    (List.mem_filter.mpr ⟨hi, by simpa using hid⟩)
  exact hissued.trans (le_foldl_laterOf (fun r : CertificateRevocation => r.expiresAt.getD 0) _ _).1

theorem archiveNode_performed {input : ArchiveNodeInput}
    (h : archiveNode actor nodeID input eventID now s = .ok s') : Performed inputs promotes s s' none := by
  simp only [archiveNode, bind_eq_ok, exists_unit, require_eq_ok, reject_eq_ok, pure_eq_ok] at h
  obtain ⟨-, -, n, hn, hrevoked, revokedAt, -, -, w, hw, -, -, last, hlast, hmissing, hsafe, hunexpected, next, hnext,
    event, -, rfl⟩ := h
  rw [Decidable.not_not] at hrevoked
  have hexp := lastCertificateExpiry_spec hlast
  have hexpired : ∀ i ∈ s.issuances, i.nodeID = n.id → i.expiresAt < now := by
    intro i hi hid
    have hle := hexp i hi hid
    by_cases henrolled : n.enrolledAt.isSome
    · have hnow : last + nodeArchiveCertificateSafetyMargin ≤ now := by
        by_contra hc
        exact hsafe ⟨henrolled, by omega⟩
      have : (0 : Int) < nodeArchiveCertificateSafetyMargin := by decide
      omega
    · -- a node that never enrolled has no issuances
      exfalso
      refine hunexpected ⟨henrolled, .inl fun hz => ?_⟩
      rw [List.countP_eq_zero] at hz
      exact hz i hi (by simpa using hid)
  refine ⟨.nodeArchived ⟨rfl, rfl, rfl, rfl, rfl, rfl, .of_filter rfl⟩ (findNode_self hn) hrevoked hw ?_ ?_ hexpired,
    .network hw rfl ?_ (List.prefix_append _ _) (.of_subset NodeWritten.refl (List.filter_subset_self _))
      (.inl (by split <;> rfl))⟩
  · split <;> rfl
  · by_cases hb : 0 < s.revocations.countP fun r => r.nodeID = n.id
    · rw [decide_eq_true hb, nextConfigRevision_true] at hnext
      simp only [hb, decide_true, if_true]
      exact .inr hnext.2.symm
    · have hzero : (s.revocations.countP fun r => r.nodeID = n.id) = 0 := by omega
      simp only [hb, decide_false, Bool.false_eq_true, if_false, true_and]
      refine .inl ⟨?_, fun r hr hid => ?_⟩
      · by_contra hc
        exact hmissing ⟨Option.isSome_iff_ne_none.mpr hc, .inr (.inl hzero)⟩
      · rw [List.countP_eq_zero] at hzero
        exact hzero r hr (by simpa using hid)
  · split
    · rename_i hblocked
      rw [hblocked, nextConfigRevision_true] at hnext
      exact .revised rfl hnext.1 hnext.2 rfl
    · exact .refl w

/-! ## Placement -/

/-- A changed node looks the same to everything that the change leaves alone. -/
theorem map_putNode {β : Type} {g : Node → β} (hv : ValidGraph s) {n n' : Node}
    (hn : findNode s n.id = some n) (hid : n'.id = n.id) (hg : g n' = g n) :
    (Keyed.put Node.id n' s.nodes).map g = s.nodes.map g := by
  refine Keyed.map_put fun y hy hk => ?_
  have : y = n := Keyed.eq_of_key_eq hv.nodeIDs hy (Keyed.mem_of_lookup hn) (hk.trans hid)
  rw [this, hg]

theorem placeRecovery_unplaced (nodeID site failureDomain : String) (r : AgentRecoveryToken) :
    (placeRecovery nodeID site failureDomain r).unplaced = r.unplaced := by
  cases hr : r.result with
  | none => simp [placeRecovery, AgentRecoveryToken.unplaced, hr]
  | some b =>
    by_cases hb : b.node.id = nodeID
    · simp [placeRecovery, AgentRecoveryToken.unplaced, hr, hb]
    · simp [placeRecovery, AgentRecoveryToken.unplaced, hr, hb]

theorem updateNodeTopology_performed (hv : ValidGraph s) {input : UpdateNodeTopologyInput}
    (h : updateNodeTopology actor nodeID input eventID now s = .ok s') : Performed inputs promotes s s' none := by
  simp only [updateNodeTopology, bind_eq_ok, exists_unit, require_eq_ok] at h
  obtain ⟨-, site, -, domain, -, -, n, hn, -, h⟩ := h
  split at h
  · rw [pure_eq_ok] at h
    exact h ▸ .refl s
  · simp only [bind_eq_ok, exists_unit, pure_eq_ok] at h
    obtain ⟨-, event, -, rfl⟩ := h
    have hplaced : RecoveriesKept inputs s (addAudit { putNode s
          { n with site := site, failureDomain := domain } with
        agentRecoveries := s.agentRecoveries.map (placeRecovery nodeID site domain) } event) := by
      intro _ r' hr'
      obtain ⟨r, hr, rfl⟩ := List.mem_map.mp hr'
      exact ⟨r, hr, placeRecovery_unplaced ..⟩
    exact ⟨.touched ⟨rfl, rfl, rfl, rfl, rfl, rfl, hplaced⟩ (map_putNode hv (findNode_self hn) rfl rfl)
        (map_putNode hv (findNode_self hn) rfl rfl) fun _ => map_putNode hv (findNode_self hn) rfl rfl,
      .nodes (List.prefix_append _ _) rfl (nodes_put (mem_of_findNode hn) (.of_counters rfl (fun hp => hp) rfl))⟩

/-! ## Revocation -/

/-- What an operation on the recorded revocations of a node may do: it adds ones of the node and its
network with the given fingerprints. -/
structure RevocationsGrow (s s' : State) (nodeID networkID : String) (fingerprints : String → Prop) :
    Prop where
  only : s' = { s with revocations := s'.revocations }
  appended : ∃ extra, s'.revocations = s.revocations ++ extra ∧
    ∀ r ∈ extra, r.nodeID = nodeID ∧ r.networkID = networkID ∧ fingerprints r.fingerprint

theorem RevocationsGrow.refl (s : State) (nodeID networkID : String) (fingerprints : String → Prop) :
    RevocationsGrow s s nodeID networkID fingerprints := ⟨rfl, [], (List.append_nil _).symm, by simp⟩

theorem RevocationsGrow.kept (h : RevocationsGrow s s' nodeID networkID f) {r : CertificateRevocation}
    (hr : r ∈ s.revocations) : r ∈ s'.revocations := by
  obtain ⟨extra, happ, -⟩ := h.appended
  rw [happ]
  exact List.mem_append_left _ hr

theorem RevocationsGrow.trans {s₂ : State} (h₁ : RevocationsGrow s s₁ nodeID networkID f)
    (h₂ : RevocationsGrow s₁ s₂ nodeID networkID g) : RevocationsGrow s s₂ nodeID networkID fun x => f x ∨ g x := by
  obtain ⟨extra₁, happ₁, he₁⟩ := h₁.appended
  obtain ⟨extra₂, happ₂, he₂⟩ := h₂.appended
  refine ⟨by rw [h₂.only, h₁.only], extra₁ ++ extra₂, ?_, fun r hr => ?_⟩
  · rw [happ₂, happ₁, List.append_assoc]
  · rcases List.mem_append.mp hr with hr | hr
    · obtain ⟨h1, h2, h3⟩ := he₁ r hr
      exact ⟨h1, h2, .inl h3⟩
    · obtain ⟨h1, h2, h3⟩ := he₂ r hr
      exact ⟨h1, h2, .inr h3⟩

theorem RevocationsGrow.imp (h : RevocationsGrow s s' nodeID networkID f) (hfg : ∀ x, f x → g x) :
    RevocationsGrow s s' nodeID networkID g := by
  obtain ⟨extra, happ, he⟩ := h.appended
  refine ⟨h.only, extra, happ, fun r hr => ?_⟩
  obtain ⟨h1, h2, h3⟩ := he r hr
  exact ⟨h1, h2, hfg _ h3⟩

/-- The node of a state that only gained revocations. -/
theorem RevocationsGrow.findNode_eq (h : RevocationsGrow s s' nodeID networkID f) (id : String) :
    findNode s' id = findNode s id := by
  rw [h.only]
  rfl

theorem appendRevocation_spec {n : Node} (hn : findNode s nodeID = some n)
    (fingerprint reason : String) (now : Int) (expiresAt : Option Int) :
    RevocationsGrow s (appendRevocation s nodeID fingerprint reason now expiresAt) nodeID n.networkID
        (· = fingerprint) ∧
      (fingerprint ≠ "" →
        ∃ r ∈ (appendRevocation s nodeID fingerprint reason now expiresAt).revocations,
          r.fingerprint = fingerprint) := by
  unfold appendRevocation
  split_ifs with hc
  · refine ⟨.refl s _ _ _, fun hne => ?_⟩
    simpa using hc.resolve_left hne
  · refine ⟨⟨rfl, _, rfl, fun r hr => ?_⟩, fun _ => ?_⟩
    · rw [List.mem_singleton] at hr
      subst hr
      simp [hn]
    · exact ⟨_, List.mem_append_right _ (List.mem_singleton.mpr rfl), rfl⟩

theorem revokeIssuances_spec {n : Node} (now : Int) (is : List CertificateIssuance) :
    ∀ {s : State}, findNode s nodeID = some n →
      RevocationsGrow s (revokeIssuances nodeID now is s) nodeID n.networkID
          (fun x => ∃ i ∈ is, i.nodeID = nodeID ∧ i.fingerprint = x) ∧
        ∀ i ∈ is, i.nodeID = nodeID → now < i.expiresAt → i.fingerprint ≠ "" →
          ∃ r ∈ (revokeIssuances nodeID now is s).revocations, r.fingerprint = i.fingerprint := by
  induction is with
  | nil => exact fun _ => ⟨.refl _ _ _ _, by simp⟩
  | cons i is ih =>
    intro s hn
    rw [revokeIssuances]
    split_ifs with hc
    · obtain ⟨hgrow, hthere⟩ :=
        appendRevocation_spec hn i.fingerprint revocationReason now (some i.expiresAt)
      obtain ⟨hgrow', hthere'⟩ := ih ((hgrow.findNode_eq nodeID).trans hn)
      refine ⟨(hgrow.trans hgrow').imp ?_, ?_⟩
      · rintro x (rfl | ⟨j, hj, hjid, rfl⟩)
        · exact ⟨i, List.mem_cons_self, hc.1, rfl⟩
        · exact ⟨j, List.mem_cons_of_mem _ hj, hjid, rfl⟩
      · intro j hj hjid hlt hne
        rcases List.mem_cons.mp hj with rfl | hj
        · obtain ⟨r, hr, hfp⟩ := hthere hne
          exact ⟨r, hgrow'.kept hr, hfp⟩
        · exact hthere' j hj hjid hlt hne
    · obtain ⟨hgrow, hthere⟩ := ih hn
      refine ⟨hgrow.imp ?_, ?_⟩
      · rintro x ⟨j, hj, hjid, rfl⟩
        exact ⟨j, List.mem_cons_of_mem _ hj, hjid, rfl⟩
      · intro j hj hjid hlt hne
        rcases List.mem_cons.mp hj with rfl | hj
        · exact absurd ⟨hjid, hlt⟩ hc
        · exact hthere j hj hjid hlt hne

theorem revokeCertificates_spec {n : Node} (now : Int) (hn : findNode s n.id = some n) :
    (revokeCertificates n now s) =
        { s with revocations := (revokeCertificates n now s).revocations } ∧
      RevocationsOf s n now (revokeCertificates n now s).revocations := by
  obtain ⟨hgrow, hthere⟩ := revokeIssuances_spec now s.issuances hn
  unfold revokeCertificates
  split_ifs with hc
  · obtain ⟨hgrow', hthere'⟩ := appendRevocation_spec ((hgrow.findNode_eq n.id).trans hn)
      n.certificateFingerprint revocationReason now n.certificateExpiresAt
    have hall := (hgrow.trans hgrow').imp fun _ => Or.symm
    refine ⟨hall.only, hall.appended, fun i hi hid hlt hne => ?_, fun _ => hthere' hc⟩
    obtain ⟨r, hr, hfp⟩ := hthere i hi hid hlt hne
    exact ⟨r, hgrow'.kept hr, hfp⟩
  · have hall : RevocationsGrow s (revokeIssuances n.id now s.issuances s) n.id n.networkID fun x =>
        x = n.certificateFingerprint ∨ ∃ i ∈ s.issuances, i.nodeID = n.id ∧ i.fingerprint = x :=
      hgrow.imp fun _ => Or.inr
    exact ⟨hall.only, hall.appended, hthere, fun h => absurd h hc⟩

/-- A node leaves the rollout of its network, and without a rollout there is no canary to remove. -/
theorem detachNode_spec (s : State) (nodeID : String) (w : Network) :
    (detachNode s nodeID w).network.core = w.core ∧
      (detachNode s nodeID w).network.firewallPolicy = w.firewallPolicy ∧
      (detachNode s nodeID w).network.routePolicies = w.routePolicies ∧
      (w.firewallRollout.phase = .stable →
        (detachNode s nodeID w).network.firewallRollout = w.firewallRollout) := by
  unfold detachNode
  by_cases hcanary : isRolloutCanary w nodeID = true
  · have hrollout : w.firewallRollout.phase ≠ .stable := by
      intro h
      simp [isRolloutCanary, h] at hcanary
    split_ifs
    · exact ⟨rfl, rfl, rfl, fun h => absurd h hrollout⟩
    · simp only
      split_ifs <;> exact ⟨rfl, rfl, rfl, fun h => absurd h hrollout⟩
  · simp only [hcanary, and_false, decide_false, Bool.false_eq_true, if_false]
    split_ifs <;> exact ⟨rfl, rfl, rfl, fun _ => rfl⟩

/-- What the transaction of a revocation stores, whoever asked for it. -/
structure RevocationStored (inputs : Inputs) (s s' : State) (n : Node) (now : Int) (w w' : Network)
    (enrollments : List EnrollmentToken) (revocations : List CertificateRevocation) : Prop where
  records : Records inputs s s' (Keyed.put Network.id w' s.networks) (Keyed.put Node.id (revokedNode now n) s.nodes)
    enrollments s.issuances revocations
  status : n.status ≠ .revoked
  network : findNetwork s n.networkID = some w
  core : w'.core = w.core
  revision : w.configRevision ≠ maxInt64 ∧ w.configRevision + 1 = w'.configRevision
  enrollments : enrollments = s.enrollments ∨ enrollments = s.enrollments.filter fun e => e.nodeID ≠ n.id
  revocations : RevocationsOf s n now revocations
  audit : s.audit <+: s'.audit
  policy : w'.firewallPolicy = w.firewallPolicy
  rollout : w.firewallRollout.phase = .stable → w'.firewallRollout = w.firewallRollout
  routePolicies : w'.routePolicies = (reconcileNetworkRoutePolicies s' w).routePolicies

theorem recordCanaryRemoval_spec {w : Network} {d : DetachedNode}
    (h : recordCanaryRemoval actor eventID now next w d nodeID s = .ok s') :
    ∃ audit, s' = { s with audit := audit } ∧ s.audit <+: audit := by
  unfold recordCanaryRemoval at h
  split_ifs at h
  · simp only [bind_eq_ok, pure_eq_ok] at h
    obtain ⟨e, -, rfl⟩ := h
    exact ⟨_, rfl, List.prefix_append _ _⟩
  · cases h
    exact ⟨_, rfl, List.prefix_refl _⟩

theorem revokeRecords_spec (inputs : Inputs) (withReceipt : Bool) (now : Int) {n : Node}
    (hn : findNode s n.id = some n) :
    ∃ enrollments revocations, Records inputs s (revokeRecords withReceipt now n s) s.networks
        (Keyed.put Node.id (revokedNode now n) s.nodes) enrollments s.issuances revocations ∧
      (enrollments = s.enrollments ∨ enrollments = s.enrollments.filter fun e => e.nodeID ≠ n.id) ∧
      RevocationsOf s n now revocations ∧ (revokeRecords withReceipt now n s).audit = s.audit := by
  have hput : findNode (putNode s (revokedNode now n)) n.id = some (revokedNode now n) :=
    Keyed.lookup_put_self (x := revokedNode now n) hn
  obtain ⟨honly, hrevs⟩ := revokeCertificates_spec now (n := revokedNode now n)
    (s := { putNode s (revokedNode now n) with
      agentRecoveries := s.agentRecoveries.filter fun r => r.nodeID ≠ n.id
      enrollments := if withReceipt then s.enrollments.filter fun e => e.nodeID ≠ n.id
        else s.enrollments }) hput
  refine ⟨if withReceipt then s.enrollments.filter fun e => e.nodeID ≠ n.id else s.enrollments,
    (revokeRecords withReceipt now n s).revocations, ?_, ?_, ⟨hrevs.1, hrevs.2, hrevs.3⟩, ?_⟩
  · rw [show revokeRecords withReceipt now n s = _ from honly]
    exact ⟨rfl, rfl, rfl, rfl, rfl, rfl, .of_filter rfl⟩
  · split_ifs
    · exact .inr rfl
    · exact .inl rfl
  · rw [show revokeRecords withReceipt now n s = _ from honly]
    rfl

theorem revokeTransaction_spec (inputs : Inputs) {receipt : Option RevokeNodeInput} {n : Node}
    (hn : findNode s n.id = some n) (h : revokeTransaction actor receipt eventID rolloutEventID now s n = .ok s') :
    ∃ w w' enrollments revocations, RevocationStored inputs s s' n now w w' enrollments revocations := by
  obtain ⟨enrollments, revocations, hrec, henr, hrev, haudit⟩ := revokeRecords_spec inputs receipt.isSome now hn
  simp only [revokeTransaction, bind_eq_ok, exists_unit, require_eq_ok, reject_eq_ok,
    nextConfigRevision_true] at h
  obtain ⟨hstatus, w, hw, next, ⟨hne, rfl⟩, s₅, hs₅, h⟩ := h
  obtain ⟨audit, rfl, hprefix⟩ := recordCanaryRemoval_spec hs₅
  simp only [pure_eq_ok] at h
  obtain ⟨event, -, rfl⟩ := h
  rw [findNetwork, hrec.networks] at hw
  obtain ⟨hcore, hpolicy, hpolicies, hrollout⟩ := detachNode_spec (revokeRecords receipt.isSome now n s) n.id w
  refine ⟨w, revokedNetwork (revokeRecords receipt.isSome now n s) n.id now (w.configRevision + 1) w,
    enrollments, revocations, ?_, hstatus, hw, hcore, ⟨hne, rfl⟩, henr, hrev, ?_, hpolicy, hrollout, ?_⟩
  · exact ⟨hrec.version, congrArg _ hrec.networks, hrec.nodes, hrec.enrollments, hrec.issuances,
      hrec.revocations, hrec.recoveries⟩
  · rw [← haudit]
    exact List.IsPrefix.trans hprefix (List.prefix_append _ _)
  · -- the routes are reconciled before the network and the events are written, which own nothing
    have hreconciled :
        (revokedNetwork (revokeRecords receipt.isSome now n s) n.id now (w.configRevision + 1) w).routePolicies =
        (reconcileNetworkRoutePolicies (revokeRecords receipt.isSome now n s) w).routePolicies := by
      simp only [revokedNetwork, reconcileNetworkRoutePolicies, hpolicies, Network.id_of_core hcore]
    exact hreconciled.trans
      (congrArg Network.routePolicies (reconcile_congr (activeRouteOwners_of_nodes rfl w.id)).symm)

/-- A node outside every staged route change. -/
theorem checkNotInRouteChange_spec {n : Node} {w : Network}
    (h : checkNotInRouteChange s n = .ok ()) (hw : findNetwork s n.networkID = some w) :
    routeTransferIncludesNode w.routeTransfer n.id = false ∧
      routeProfileEditIncludesNode w.routeProfileEdit n.id = false := by
  simp only [checkNotInRouteChange, hw, Option.any_some, reject_eq_ok, Bool.or_eq_true, not_or,
    Bool.not_eq_true] at h
  exact h

theorem revokedNode_written (now : Int) (n : Node) : NodeWritten n (revokedNode now n) :=
  .of_counters rfl (fun hp => by cases hp) rfl

section
variable {n : Node} {w w' : Network} {enrollments : List EnrollmentToken} {revocations : List CertificateRevocation}

theorem RevocationStored.written (h : RevocationStored inputs s s' n now w w' enrollments revocations)
    (hn : findNode s n.id = some n) : Transacted promotes inputs.drawn s s' :=
  .network h.network h.records.networks (.revised (Network.id_of_core h.core) h.revision.1 h.revision.2 h.policy)
    h.audit (h.records.nodes ▸ nodes_put (mem_of_findNode hn) (revokedNode_written now n))
    (.inr h.routePolicies)

theorem RevocationStored.performed (h : RevocationStored inputs s s' n now w w' enrollments revocations)
    (hn : findNode s n.id = some n) (hroute : checkNotInRouteChange s n = .ok ()) :
    Performed inputs promotes s s' none := by
  obtain ⟨ht, he⟩ := checkNotInRouteChange_spec hroute h.network
  have hrec : Records inputs s s' (Keyed.put Network.id w' s.networks)
      (Keyed.put Node.id (revokedNode now n) s.nodes ++ List.map Prod.fst ([] : List (Node × EnrollmentToken)))
      (enrollments ++ List.map Prod.snd ([] : List (Node × EnrollmentToken))) s.issuances revocations := by
    simpa using h.records
  exact ⟨.revoked hrec hn h.status h.network h.core h.revision.2.symm ht he h.enrollments (by simp)
    h.revocations (by simp), h.written hn⟩

end

theorem revokeNode_performed (h : revokeNode actor nodeID eventID rolloutEventID now s = .ok s') :
    Performed inputs promotes s s' none := by
  simp only [revokeNode, bind_eq_ok, exists_unit, require_eq_ok] at h
  obtain ⟨n, hn, hroute, h⟩ := h
  obtain ⟨w, w', enrollments, revocations, hst⟩ := revokeTransaction_spec inputs (findNode_self hn) h
  exact hst.performed (findNode_self hn) hroute

theorem revokeNodeWithReceipt_performed {input : RevokeNodeInput}
    (h : revokeNodeWithReceipt actor nodeID input eventID rolloutEventID now s = .ok s') :
    Performed inputs promotes s s' none := by
  simp only [revokeNodeWithReceipt, bind_eq_ok, exists_unit, require_eq_ok] at h
  obtain ⟨-, n, hn, hroute, replay, -, h⟩ := h
  split at h
  · rw [pure_eq_ok] at h
    exact h ▸ .refl s
  · simp only [bind_unit_eq_ok] at h
    obtain ⟨w, w', enrollments, revocations, hst⟩ := revokeTransaction_spec inputs (findNode_self hn) h.2
    exact hst.performed (findNode_self hn) hroute

/-- What the second half of a replacement stores. The pending node owns nothing yet. -/
structure ReplacementStored (inputs : Inputs) (s s' : State) (source : Node) (nodeID : String) (w : Network)
    (policy : FirewallPolicy) (created : Node) (e : EnrollmentToken) : Prop where
  network : findNetwork s source.networkID = some w
  records : Records inputs s s' (Keyed.put Network.id { w with firewallPolicy := policy } s.networks)
    (s.nodes ++ [created]) (s.enrollments ++ [e]) s.issuances s.revocations
  fresh : NewNode created
  id : created.id = nodeID
  networkID : created.networkID = source.networkID
  routes : created.routedSubnets = source.routedSubnets
  enrollment : NewEnrollment inputs created.id e
  counters : created.counters = ⟨0, 0, 0, 0, 0⟩
  audit : s.audit <+: s'.audit

theorem createReplacement_spec {source : Node} (hb : ∀ b ∈ draws.bearers, hashToken b ∈ inputs.drawn)
    (h : createReplacement actor draws now source s = .ok s') :
    ∃ w policy created e, ReplacementStored inputs s s' source draws.nodeID w policy created e := by
  simp only [createReplacement, bind_eq_ok, exists_unit, require_eq_ok, pure_eq_ok] at h
  obtain ⟨w, hw, -, address, -, id, -, token, htoken, event, -, rfl⟩ := h
  exact ⟨w, _, replacementNode source draws.nodeID address now, _, hw, ⟨rfl, rfl, rfl, rfl, rfl, rfl, .of_eq rfl⟩,
    ⟨rfl, rfl, rfl, rfl⟩, rfl, rfl, rfl, ⟨hb token (firstUnusedBearer_spec htoken).2.2, rfl, rfl, rfl⟩, rfl,
    List.prefix_append _ _⟩

/-- A replacement hands the policy's references on, which it only may while no rollout runs. -/
theorem replaceNode_performed {expectedConfigRevision : Int} (hnode : draws.nodeID ∈ inputs.drawn)
    (hb : ∀ b ∈ draws.bearers, hashToken b ∈ inputs.drawn)
    (h : replaceNode actor nodeID expectedConfigRevision eventID rolloutEventID draws now s = .ok s') :
    Performed inputs promotes s s' none := by
  simp only [replaceNode, bind_eq_ok, exists_unit, require_eq_ok, reject_eq_ok, Decidable.not_not] at h
  obtain ⟨-, n, hn, hroute, -, w₀, hw₀, -, hstable, s₁, hrevoke, hcreate⟩ := h
  obtain ⟨w, w', enrollments, revocations, hst⟩ := revokeTransaction_spec inputs (findNode_self hn) hrevoke
  obtain ⟨w₁, policy, created, e, hnew⟩ := createReplacement_spec hb hcreate
  obtain ⟨ht, he⟩ := checkNotInRouteChange_spec hroute hst.network
  have hid : w'.id = w.id := Network.id_of_core hst.core
  have hfound : findNetwork s₁ w.id = some w' := findNetwork_put_self hst.records.networks hst.network hid
  rw [hst.network, Option.some.injEq] at hw₀
  subst hw₀
  obtain rfl : w' = w₁ := by
    rw [findNetwork_id hst.network, hnew.network, Option.some.injEq] at hfound
    exact hfound.symm
  have hboth : Records inputs s s' (Keyed.put Network.id { w' with firewallPolicy := policy } s.networks)
      (Keyed.put Node.id (revokedNode now n) s.nodes ++ List.map Prod.fst [(created, e)])
      (enrollments ++ List.map Prod.snd [(created, e)]) s.issuances revocations := by
    have hrec := hnew.records
    refine ⟨hrec.version.trans hst.records.version, ?_, ?_, ?_, ?_, ?_,
      hst.records.recoveries.trans hrec.recoveries⟩
    · rw [hrec.networks, hst.records.networks]
      exact Keyed.put_put rfl
    · rw [hrec.nodes, hst.records.nodes]
      rfl
    · rw [hrec.enrollments, hst.records.enrollments]
      rfl
    · rw [hrec.issuances, hst.records.issuances]
    · rw [hrec.revocations, hst.records.revocations]
  have hpolicies : w'.routePolicies = (reconcileNetworkRoutePolicies s' w).routePolicies := by
    rw [hst.routePolicies, ← reconcile_congr (activeRouteOwners_append hnew.records.nodes (fun m hm => by
      rw [List.mem_singleton.mp hm]; exact hnew.fresh.status) w.id)]
  have hwritten : NetworkWritten promotes s w { w' with firewallPolicy := policy } :=
    ⟨hid, .inr (by rw [inc64_of_ne hst.revision.1, hst.revision.2]), .replaced hstable (hst.rollout hstable)⟩
  refine ⟨.revoked hboth (findNode_self hn) hst.status hst.network hst.core hst.revision.2.symm ht he
    hst.enrollments ?_ hst.revocations ?_, .network hst.network hboth.networks hwritten
    (hst.audit.trans hnew.audit) ?_ (.inr hpolicies)⟩
  · intro p hp
    rw [List.mem_singleton.mp hp]
    exact ⟨hnew.fresh, hnew.id ▸ hnode, hnew.enrollment⟩
  · intro p hp
    rw [List.mem_singleton.mp hp]
    exact ⟨hnew.networkID, hnew.routes⟩
  · rw [hboth.nodes]
    refine .append (nodes_put (mem_of_findNode hn) (revokedNode_written now n)) fun m hm => ?_
    rw [List.mem_singleton.mp hm]
    exact ⟨hnew.id ▸ hnode, hnew.counters⟩

end Mesh
