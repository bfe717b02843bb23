import Mesh.Control.Graph
import Mesh.Control.RouteUpdates

/-!
# Mesh.Control.RouteGraph

What a valid graph says about the staged route changes of its networks: the participants of an active
change are active nodes of the network, and their routes are those of the phase.
-/

namespace Mesh

variable {s : State} {w : Network}

/-- The participants of an active transfer. -/
structure TransferOwners (s : State) (w : Network) (source target : Node) : Prop where
  sourceFound : findNode s w.routeTransfer.sourceNodeID = some source
  targetFound : findNode s w.routeTransfer.targetNodeID = some target
  distinct : w.routeTransfer.sourceNodeID ≠ w.routeTransfer.targetNodeID
  sourceNetwork : source.networkID = w.id
  targetNetwork : target.networkID = w.id
  sourceActive : source.status = .active
  targetActive : target.status = .active
  sourceRoutes : source.routedSubnets =
    if w.routeTransfer.phase = .cleaningSource then
      subtractSubnets w.routeTransfer.sourceOriginalSubnets w.routeTransfer.routedSubnets
    else w.routeTransfer.sourceOriginalSubnets
  targetRoutes : target.routedSubnets =
    if w.routeTransfer.phase = .cleaningSource then
      mergeSubnets w.routeTransfer.targetOriginalSubnets w.routeTransfer.routedSubnets
    else w.routeTransfer.targetOriginalSubnets

theorem routeTransferActive_ne_default {t : NetworkRouteTransfer} (h : routeTransferActive t = true) :
    t ≠ {} := by
  rintro rfl
  exact absurd h (by decide)

theorem validateRouteTransferOwnership_spec (h : validateRouteTransferOwnership s w = .ok ())
    (hd : w.routeTransfer.sourceNodeID ≠ w.routeTransfer.targetNodeID) :
    ∃ source target, TransferOwners s w source target := by
  simp only [validateRouteTransferOwnership, bind_eq_ok, exists_unit, require_eq_ok, reject_eq_ok, not_or,
    Decidable.not_not] at h
  obtain ⟨source, hs, target, ht, ⟨hsn, htn, hsa, hta⟩, h⟩ := h
  refine ⟨source, target, hs, ht, hd, hsn, htn, hsa, hta, ?_, ?_⟩
  · split_ifs at h ⊢ with hp <;>
      simp only [reject_eq_ok, not_or, Decidable.not_not] at h <;> exact h.1
  · split_ifs at h ⊢ with hp <;>
      simp only [reject_eq_ok, not_or, Decidable.not_not] at h <;> exact h.2

/-- The owner of an active route-profile edit. -/
structure EditOwner (s : State) (w : Network) (n : Node) : Prop where
  owner : findNode s w.routeProfileEdit.nodeID = some n
  network : n.networkID = w.id
  active : n.status = .active
  enrolled : n.enrolledAt ≠ none
  noTransfer : routeTransferActive w.routeTransfer = false
  generation : routeProfileEditDesiredGeneration w.routeProfileEdit = n.certificateGeneration ∨
    (n.certificateGeneration ≠ maxInt64 ∧
      routeProfileEditDesiredGeneration w.routeProfileEdit = n.certificateGeneration + 1)
  routes : n.routedSubnets =
    if w.routeProfileEdit.phase = .cleaningOwner then w.routeProfileEdit.desiredSubnets
    else w.routeProfileEdit.originalSubnets

theorem validateRouteProfileEditOwnership_eq_ok :
    validateRouteProfileEditOwnership s w = .ok () ↔ ∃ n, EditOwner s w n := by
  simp only [validateRouteProfileEditOwnership, bind_eq_ok, exists_unit, require_eq_ok, reject_eq_ok,
    not_or, not_and, Decidable.not_not, Bool.not_eq_true]
  constructor
  · rintro ⟨ht, n, hn, ⟨hnet, hact, henr⟩, hgen, hroutes⟩
    refine ⟨n, hn, hnet, hact, henr, ht, ?_, hroutes⟩
    by_cases he : routeProfileEditDesiredGeneration w.routeProfileEdit = n.certificateGeneration
    · exact .inl he
    · exact .inr (hgen he)
  · rintro ⟨n, h⟩
    exact ⟨h.noTransfer, n, h.owner, ⟨h.network, h.active, h.enrolled⟩, fun he =>
      h.generation.resolve_left he, h.routes⟩

theorem routeProfileEditActive_ne_default {e : NetworkRouteProfileEdit}
    (h : routeProfileEditActive e = true) : e ≠ {} := by
  rintro rfl
  exact absurd h (by decide)

namespace ValidGraph

theorem networkRecord (hv : ValidGraph s) (hc : Current s) (hw : w ∈ s.networks) : NetworkRecord s w :=
  (validateNetworkRecord_eq_ok hc).mp (hv.networks w hw).record

theorem transferOwners (hv : ValidGraph s) (hc : Current s) (hw : w ∈ s.networks)
    (ha : routeTransferActive w.routeTransfer = true) :
    ∃ source target, TransferOwners s w source target := by
  have h := (hv.networkRecord hc hw).transfer
  simp only [validateNetworkRouteTransfer, if_neg (routeTransferActive_ne_default ha), ha, if_true,
    bind_eq_ok, exists_unit, reject_eq_ok, not_or] at h
  obtain ⟨⟨-, -, -, hd, -⟩, -, -, -, -, -, -, -, -, h⟩ := h
  exact validateRouteTransferOwnership_spec h hd

theorem editOwner (hv : ValidGraph s) (hc : Current s) (hw : w ∈ s.networks)
    (ha : routeProfileEditActive w.routeProfileEdit = true) : ∃ n, EditOwner s w n := by
  have h := (hv.networkRecord hc hw).edit
  simp only [validateNetworkRouteProfileEdit, if_neg (routeProfileEditActive_ne_default ha), ha, if_true,
    bind_eq_ok, exists_unit] at h
  obtain ⟨-, -, -, -, -, -, -, h⟩ := h
  exact validateRouteProfileEditOwnership_eq_ok.mp h

/-- A network has at most one active staged change. -/
theorem not_both_active (hv : ValidGraph s) (hc : Current s) (hw : w ∈ s.networks)
    (ha : routeTransferActive w.routeTransfer = true) :
    routeProfileEditActive w.routeProfileEdit = false := by
  by_contra he
  obtain ⟨n, hn⟩ := hv.editOwner hc hw (by simpa using he)
  rw [hn.noTransfer] at ha
  cases ha

/-- Only while a change is being prepared must a certificate carry more than the routes of its node. -/
theorem certificateRoutedSubnets_eq (hv : ValidGraph s) (hc : Current s) (hw : w ∈ s.networks) {n : Node}
    (hn : n ∈ s.nodes) (ht : w.routeTransfer.phase ≠ .preparingTarget)
    (he : w.routeProfileEdit.phase ≠ .preparingOwner) :
    certificateRoutedSubnets w n = n.routedSubnets := by
  have hroutes : routeProfileEditActive w.routeProfileEdit = true → n.id = w.routeProfileEdit.nodeID →
      n.routedSubnets = if w.routeProfileEdit.phase = .cleaningOwner then w.routeProfileEdit.desiredSubnets
        else w.routeProfileEdit.originalSubnets := by
    intro ha hid
    obtain ⟨m, hm⟩ := hv.editOwner hc hw ha
    have hfound := hm.owner
    rw [← hid, hv.findNode_iff.mpr ⟨hn, rfl⟩, Option.some.injEq] at hfound
    rw [hfound, hm.routes]
  have hedit : (routeProfileCertificateRoutedSubnets w n).getD n.routedSubnets = n.routedSubnets := by
    simp only [routeProfileCertificateRoutedSubnets]
    split_ifs with hid
    · rfl
    · rw [not_not] at hid
      cases hp : w.routeProfileEdit.phase with
      | preparingOwner => exact absurd hp he
      | cleaningOwner =>
        rw [hroutes (by simp [routeProfileEditActive, hp]) hid, if_pos hp]
        rfl
      | cleaningCancelledOwner =>
        rw [hroutes (by simp [routeProfileEditActive, hp]) hid, if_neg (by rw [hp]; decide)]
        rfl
      | none => rfl
      | completed => rfl
      | cancelled => rfl
  unfold certificateRoutedSubnets
  rw [if_neg fun h => ht h.1]
  split_ifs with htarget
  · obtain ⟨source, target, ho⟩ := hv.transferOwners hc hw (by simp [routeTransferActive, htarget.1])
    have htf := ho.targetFound
    rw [← htarget.2, hv.findNode_iff.mpr ⟨hn, rfl⟩, Option.some.injEq] at htf
    rw [htf, ho.targetRoutes, if_neg (by rw [htarget.1]; decide)]
  · exact hedit

end ValidGraph

/-! ## Route policies -/

theorem checkRoutePolicyGateways_spec {gs : List NetworkRoutePolicyGateway} :
    ∀ {index : Nat} {seen : List String} {out : List NetworkRoutePolicyGateway},
      checkRoutePolicyGateways index seen gs = .ok out →
      (out.map NetworkRoutePolicyGateway.nodeID).Nodup ∧ (∀ g ∈ out, g.nodeID ∉ seen) ∧
        ∀ g ∈ out, 1 ≤ g.weight := by
  induction gs with
  | nil =>
    intro index seen out h
    cases h
    simp
  | cons g gs ih =>
    intro index seen out h
    simp only [checkRoutePolicyGateways, bind_eq_ok, exists_unit, reject_eq_ok, pure_eq_ok, not_or,
      not_lt] at h
    obtain ⟨-, ⟨hweight, -⟩, hseen, rest, hrest, rfl⟩ := h
    obtain ⟨hd, hnot, hpos⟩ := ih hrest
    refine ⟨?_, ?_, ?_⟩
    · rw [List.map_cons, List.nodup_cons]
      refine ⟨fun hmem => ?_, hd⟩
      obtain ⟨g', hg', he⟩ := List.mem_map.mp hmem
      exact hnot g' hg' (he ▸ List.mem_cons_self)
    · intro g' hg'
      rcases List.mem_cons.mp hg' with rfl | hg'
      · exact hseen
      · exact fun hs => hnot g' hg' (List.mem_cons_of_mem _ hs)
    · intro g' hg'
      rcases List.mem_cons.mp hg' with rfl | hg'
      · exact hweight
      · exact hpos g' hg'

theorem normalizeRoutePolicyGatewayInput_spec {gs out : List NetworkRoutePolicyGateway}
    (h : normalizeRoutePolicyGatewayInput gs = .ok out) :
    out ≠ [] ∧ (out.map NetworkRoutePolicyGateway.nodeID).Nodup ∧ ∀ g ∈ out, 1 ≤ g.weight := by
  simp only [normalizeRoutePolicyGatewayInput, bind_eq_ok, exists_unit, reject_eq_ok, pure_eq_ok, not_or,
    not_lt] at h
  obtain ⟨⟨hlen, -⟩, checked, hchecked, rfl⟩ := h
  obtain ⟨hd, -, hpos⟩ := checkRoutePolicyGateways_spec hchecked
  have hperm : (sortGateways checked).Perm checked := List.perm_insertionSort _ _
  refine ⟨fun hnil => ?_, ?_, fun g hg => hpos g (hperm.mem_iff.mp hg)⟩
  · have hlength : ∀ {gs : List NetworkRoutePolicyGateway} {index : Nat} {seen : List String}
        {out : List NetworkRoutePolicyGateway}, checkRoutePolicyGateways index seen gs = .ok out →
        out = [] → gs = [] := by
      intro gs index seen out h ho
      cases gs with
      | nil => rfl
      | cons g gs =>
        simp only [checkRoutePolicyGateways, bind_eq_ok, exists_unit, pure_eq_ok] at h
        obtain ⟨-, -, -, rest, -, rfl⟩ := h
        cases ho
    have hnone : checked = [] := by
      rw [hnil] at hperm
      exact hperm.symm.eq_nil
    rw [hlength hchecked hnone] at hlen
    exact absurd hlen (by decide)
  · exact (hperm.map _).nodup_iff.mpr hd

/-- With distinct identifiers and positive weights, the weight of a gateway is its own. -/
theorem gatewayWeight_eq {gs : List NetworkRoutePolicyGateway} {g : NetworkRoutePolicyGateway}
    (hd : (gs.map NetworkRoutePolicyGateway.nodeID).Nodup) (hg : g ∈ gs) (hpos : 1 ≤ g.weight) :
    gatewayWeight gs g.nodeID = g.weight := by
  have hfind : gs.reverse.find? (fun x => x.nodeID == g.nodeID) = some g := by
    have hd' : (gs.reverse.map NetworkRoutePolicyGateway.nodeID).Nodup := by
      rw [List.map_reverse, List.nodup_reverse]
      exact hd
    have := (Keyed.lookup_eq_some_iff hd').mpr
      ⟨List.mem_reverse.mpr hg, rfl⟩
    simpa only [Keyed.lookup, beq_eq_decide] using this
  unfold gatewayWeight
  rw [hfind, Option.map_some]
  exact if_neg (by omega)

/-- Gateways that are exactly the owners are what the owners make of them. -/
theorem ownerGateways_eq {gs : List NetworkRoutePolicyGateway} {owners : List Node}
    (hids : gs.map NetworkRoutePolicyGateway.nodeID = owners.map Node.id)
    (hd : (gs.map NetworkRoutePolicyGateway.nodeID).Nodup) (hpos : ∀ g ∈ gs, 1 ≤ g.weight) :
    ownerGateways gs owners = gs := by
  have hmap : ownerGateways gs owners = (owners.map Node.id).map fun id => ⟨id, gatewayWeight gs id⟩ := by
    rw [ownerGateways, List.map_map]
    rfl
  rw [hmap, ← hids, List.map_map]
  conv_rhs => rw [← List.map_id gs]
  refine List.map_congr_left fun g hg => ?_
  simp only [Function.comp, gatewayWeight_eq hd hg (hpos g hg), id]

/-- A stored policy of a valid network. -/
structure PolicyStored (s : State) (w : Network) (p : NetworkRoutePolicy) : Prop where
  controls : validateRoutePolicyControls p.mtu p.metric = .ok ()
  normal : normalizeRoutePolicyGatewayInput p.gateways = .ok p.gateways
  owners : p.gateways.map NetworkRoutePolicyGateway.nodeID =
    (activeRouteOwners s w.id p.subnet).map Node.id
  request : validRouteTransferRequestID p.requestID = true
  revision : 1 ≤ p.configRevision ∧ p.configRevision ≤ w.configRevision
  updated : p.updatedAt ≠ 0

theorem validateNetworkRoutePolicy_eq_ok {p : NetworkRoutePolicy} :
    validateNetworkRoutePolicy s w p = .ok () ↔ PolicyStored s w p := by
  simp only [validateNetworkRoutePolicy, bind_eq_ok, exists_unit, mapError_eq_ok, reject_eq_ok, not_or,
    not_lt, Decidable.not_not, routePolicyOwnersMatch, beq_iff_eq]
  constructor
  · rintro ⟨h1, gs, h2, rfl, h3, h4, h5, h6, h7⟩
    exact ⟨h1, h2, h3, h4, ⟨h5, h6⟩, h7⟩
  · rintro ⟨h1, h2, h3, h4, ⟨h5, h6⟩, h7⟩
    exact ⟨h1, _, h2, rfl, h3, h4, h5, h6, h7⟩

theorem validateRoutePolicyList_spec {ps : List NetworkRoutePolicy} :
    ∀ {previous : String}, validateRoutePolicyList s w previous ps = .ok () →
      ∀ p ∈ ps, PolicyStored s w p := by
  induction ps with
  | nil => simp
  | cons p ps ih =>
    intro previous h
    simp only [validateRoutePolicyList, bind_eq_ok, exists_unit, validateNetworkRoutePolicy_eq_ok] at h
    obtain ⟨_, -, -, hp, hrest⟩ := h
    intro q hq
    rcases List.mem_cons.mp hq with rfl | hq
    · exact hp
    · exact ih hrest q hq

theorem ValidGraph.policyStored (hv : ValidGraph s) (hc : Current s) (hw : w ∈ s.networks) :
    ∀ p ∈ w.routePolicies, PolicyStored s w p :=
  validateRoutePolicyList_spec (hv.networkRecord hc hw).policies

/-- Reconciling changes nothing while the owners are those the policies were stored with. -/
theorem reconcile_eq_self (hv : ValidGraph s) (hc : Current s) (hw : w ∈ s.networks) {t : State}
    (howners : ∀ subnet, (activeRouteOwners t w.id subnet).map Node.id =
      (activeRouteOwners s w.id subnet).map Node.id) : reconcileNetworkRoutePolicies t w = w := by
  have hpolicies : (w.routePolicies.filterMap fun policy =>
      let owners := activeRouteOwners t w.id policy.subnet
      if owners = [] then none
      else some { policy with gateways := ownerGateways policy.gateways owners }) = w.routePolicies := by
    conv_rhs => rw [← List.filterMap_some (l := w.routePolicies)]
    refine List.filterMap_congr fun p hp => ?_
    have hst := hv.policyStored hc hw p hp
    obtain ⟨hne, hd, hpos⟩ := normalizeRoutePolicyGatewayInput_spec hst.normal
    have hids := hst.owners.trans (howners p.subnet).symm
    have hsome : activeRouteOwners t w.id p.subnet ≠ [] := by
      intro hnil
      rw [hnil] at hids
      exact hne (List.map_eq_nil_iff.mp hids)
    simp only [if_neg hsome, ownerGateways_eq hids hd hpos]
  unfold reconcileNetworkRoutePolicies
  rw [hpolicies]

end Mesh
