import Mesh.Control.NodeSteps
import Mesh.Control.Play
import Mesh.Control.Reservations

/-!
# Mesh.Control.Ownership

Who owns a routed prefix while ownership moves. A node holds a prefix when it owns it or a staged change
is about to give it to the node; `SingleOwnership` says of a state that the prefixes held are apart from
managed networks and from other networks, shared only whole and by a bounded number of gateways, and that
every config shows exactly one of the two parties of a transfer as the owner.

The first parts are what the validator checks. The last rests on `TransferSound`: while a transfer is
active, the prefixes it moves have one owner, counting nodes that are only pending. The step that starts a
transfer does not count those, so runs are restricted to the starts that find none (`StartsClear`).
-/

namespace Mesh

open Address

variable {s s' : State} {w w' : Network} {n n' : Node}

/-! ## Holding a prefix -/

/-- An active change is about to give the prefix to the node, or is taking back what it gave. -/
def stages (w : Network) (n : Node) (route : String) : Bool :=
  (routeTransferActive w.routeTransfer && n.id == w.routeTransfer.targetNodeID &&
    w.routeTransfer.routedSubnets.contains route) ||
  (routeProfileEditActive w.routeProfileEdit && n.id == w.routeProfileEdit.nodeID &&
    (routeProfileEditAdditions w.routeProfileEdit).contains route)

def holds (w : Network) (n : Node) (route : String) : Bool :=
  n.networkID == w.id && n.status != .revoked && (n.routedSubnets.contains route || stages w n route)

/-- The config of the node shows the owner: the node itself when its certificate carries the prefix, and
otherwise a gateway of the route. -/
def rendersOwner (s : State) (w : Network) (n owner : Node) (route : String) : Bool :=
  if owner.id = n.id then (certificateRoutedSubnets w n).contains route
  else (routedEntries s w n).any fun e => e.route == route && (e.gateways.map Prod.fst).contains owner.ip

structure SingleOwnership (s : State) : Prop where
  managed : ∀ w ∈ s.networks, ∀ n ∈ s.nodes, ∀ route, holds w n route = true → ∀ v ∈ s.networks,
    prefixesOverlap (storedSubnet route) (storedSubnet v.cidr) = false
  across : ∀ w ∈ s.networks, ∀ n ∈ s.nodes, ∀ route, holds w n route = true →
    ∀ w' ∈ s.networks, ∀ n' ∈ s.nodes, ∀ route', holds w' n' route' = true → w.id ≠ w'.id →
    prefixesOverlap (storedSubnet route) (storedSubnet route') = false
  shared : ∀ w ∈ s.networks, ∀ n ∈ s.nodes, ∀ route, holds w n route = true →
    ∀ n' ∈ s.nodes, ∀ route', holds w n' route' = true →
    prefixesOverlap (storedSubnet route) (storedSubnet route') = true → route = route'
  bounded : ∀ w ∈ s.networks, ∀ route,
    (s.nodes.filter fun n => holds w n route).length ≤ maxRoutePolicyGateways
  rendered : ∀ w ∈ s.networks, routeTransferActive w.routeTransfer = true →
    ∀ source target, findNode s w.routeTransfer.sourceNodeID = some source →
    findNode s w.routeTransfer.targetNodeID = some target →
    ∀ route ∈ w.routeTransfer.routedSubnets, ∀ n ∈ s.nodes, n.networkID = w.id → n.status ≠ .revoked →
    rendersOwner s w n source route = !rendersOwner s w n target route

/-! ## The owner during a transfer -/

/-- Who owns the prefixes that a transfer moves. -/
def NetworkRouteTransfer.owner (t : NetworkRouteTransfer) : String :=
  if t.phase = .cleaningSource then t.targetNodeID else t.sourceNodeID

structure TransferSound (s : State) (w : Network) : Prop where
  merged : ∃ out, normalizeRoutedSubnets
    (w.routeTransfer.targetOriginalSubnets ++ w.routeTransfer.routedSubnets) = .ok out
  sole : ∀ route ∈ w.routeTransfer.routedSubnets, ∀ n ∈ s.nodes, n.networkID = w.id → n.status ≠ .revoked →
    route ∈ n.routedSubnets → n.id = w.routeTransfer.owner

def TransfersSound (s : State) : Prop :=
  ∀ w ∈ s.networks, routeTransferActive w.routeTransfer = true → TransferSound s w

structure TransferRoutes (t : NetworkRouteTransfer) : Prop where
  moved : ∀ r ∈ t.routedSubnets, CanonicalRoute r
  target : ∀ r ∈ t.targetOriginalSubnets, CanonicalRoute r
  owned : ∀ r ∈ t.routedSubnets, r ∈ t.sourceOriginalSubnets

theorem ValidGraph.transferRoutes (hv : ValidGraph s) (hc : Current s) (hw : w ∈ s.networks)
    (ha : routeTransferActive w.routeTransfer = true) : TransferRoutes w.routeTransfer := by
  have h := (hv.networkRecord hc hw).transfer
  simp only [validateNetworkRouteTransfer, if_neg (routeTransferActive_ne_default ha), bind_eq_ok,
    exists_unit, mapError_eq_ok, reject_eq_ok, not_or, Decidable.not_not] at h
  obtain ⟨-, -, hmoved, -, -, -, htarget, ⟨howned, -⟩, -⟩ := h
  refine ⟨validateCanonicalRoutedSubnets_spec hmoved, validateCanonicalRoutedSubnets_spec htarget, ?_⟩
  simpa [subnetSetContainsAll] using howned

/-- The owner of the prefixes that an active transfer moves is one of its parties and has them all. -/
theorem TransferSound.ownerFound (h : TransferSound s w) (hv : ValidGraph s) (hc : Current s)
    (hw : w ∈ s.networks) (ha : routeTransferActive w.routeTransfer = true) :
    ∃ o ∈ s.nodes, o.id = w.routeTransfer.owner ∧ o.networkID = w.id ∧ o.status = .active ∧
      ∀ r ∈ w.routeTransfer.routedSubnets, r ∈ o.routedSubnets := by
  obtain ⟨source, target, ho⟩ := hv.transferOwners hc hw ha
  have hroutes := hv.transferRoutes hc hw ha
  unfold NetworkRouteTransfer.owner
  by_cases hp : w.routeTransfer.phase = .cleaningSource
  · refine ⟨target, mem_of_findNode ho.targetFound, ?_, ho.targetNetwork, ho.targetActive, fun r hr => ?_⟩
    · rw [if_pos hp, findNode_id ho.targetFound]
    · rw [ho.targetRoutes, if_pos hp]
      exact (mem_mergeSubnets hroutes.target hroutes.moved h.merged).mpr (.inr hr)
  · refine ⟨source, mem_of_findNode ho.sourceFound, ?_, ho.sourceNetwork, ho.sourceActive, fun r hr => ?_⟩
    · rw [if_neg hp, findNode_id ho.sourceFound]
    · rw [ho.sourceRoutes, if_neg hp]
      exact hroutes.owned r hr

/-! ## What the validator gives -/

/-- A prefix that is held is reserved for its network. -/
theorem reserved_of_holds (hv : ValidGraph s) (hc : Current s) (hI : TransfersSound s) (hw : w ∈ s.networks)
    (hn : n ∈ s.nodes) {route : String} (h : holds w n route = true) :
    CanonicalRoute route ∧ ∃ o, o.networkID = w.id ∧ HasReservation s (routeReservation o route) := by
  simp only [holds, stages, Bool.and_eq_true, Bool.or_eq_true, beq_iff_eq, bne_iff_ne,
    List.contains_iff_mem] at h
  obtain ⟨⟨hnet, hst⟩, hroute | ⟨⟨ha, -⟩, hroute⟩ | ⟨⟨ha, hid⟩, hroute⟩⟩ := h
  · exact ⟨hv.nodeRoutes hc hn _ hroute, n, hnet, .owned hn hst hroute⟩
  · obtain ⟨o, ho, -, honet, hactive, hall⟩ := (hI w hw ha).ownerFound hv hc hw ha
    exact ⟨hv.nodeRoutes hc ho _ (hall route hroute), o, honet,
      .owned ho (by rw [hactive]; decide) (hall route hroute)⟩
  · have hfound := hv.findNode_iff.mpr ⟨hn, rfl⟩
    refine ⟨hv.editRoutes hc hw ha _ (List.mem_of_mem_filter hroute), n, hnet, ?_⟩
    by_cases howned : route ∈ n.routedSubnets
    · exact .owned hn hst howned
    · exact .staged hw ha (hid ▸ hfound) (List.mem_filter.mpr ⟨hroute, by simpa using howned⟩)

/-- A holder of a prefix that no transfer moves has a reservation of its own. -/
theorem reserved_by_holder (hv : ValidGraph s) (hw : w ∈ s.networks) (hn : n ∈ s.nodes) {route : String}
    (hfree : routeTransferActive w.routeTransfer = true → route ∉ w.routeTransfer.routedSubnets)
    (h : holds w n route = true) : HasReservation s (routeReservation n route) ∧ n.networkID = w.id := by
  simp only [holds, stages, Bool.and_eq_true, Bool.or_eq_true, beq_iff_eq, bne_iff_ne,
    List.contains_iff_mem] at h
  obtain ⟨⟨hnet, hst⟩, hroute | ⟨⟨ha, -⟩, hroute⟩ | ⟨⟨ha, hid⟩, hroute⟩⟩ := h
  · exact ⟨.owned hn hst hroute, hnet⟩
  · exact absurd hroute (hfree ha)
  · refine ⟨?_, hnet⟩
    by_cases howned : route ∈ n.routedSubnets
    · exact .owned hn hst howned
    · exact .staged hw ha (hid ▸ hv.findNode_iff.mpr ⟨hn, rfl⟩)
        (List.mem_filter.mpr ⟨hroute, by simpa using howned⟩)

theorem nodup_holders (hv : ValidGraph s) (p : Node → Bool) : ((s.nodes.filter p).map Node.id).Nodup :=
  (List.filter_sublist.map _).nodup hv.nodeIDs

/-- While a transfer moves the prefix, only its two parties hold it. -/
theorem holders_of_transfer (hv : ValidGraph s) (hc : Current s) (hI : TransfersSound s)
    (hw : w ∈ s.networks) (ha : routeTransferActive w.routeTransfer = true) {route : String}
    (hroute : route ∈ w.routeTransfer.routedSubnets) :
    (s.nodes.filter fun n => holds w n route).length ≤ maxRoutePolicyGateways := by
  have hedit := hv.not_both_active hc hw ha
  have hsub : (s.nodes.filter fun n => holds w n route).map Node.id ⊆
      [w.routeTransfer.owner, w.routeTransfer.targetNodeID] := by
    intro id hid
    obtain ⟨n, hn, rfl⟩ := List.mem_map.mp hid
    obtain ⟨hn, hh⟩ := List.mem_filter.mp hn
    simp only [holds, stages, hedit, Bool.false_and, Bool.or_false, Bool.and_eq_true, Bool.or_eq_true,
      beq_iff_eq, bne_iff_ne, List.contains_iff_mem] at hh
    obtain ⟨⟨hnet, hst⟩, howned | ⟨⟨-, htarget⟩, -⟩⟩ := hh
    · simp [(hI w hw ha).sole route hroute n hn hnet hst howned]
    · simp [htarget]
  have hle := ((nodup_holders hv _).subperm hsub).length_le
  rw [List.length_map] at hle
  exact hle.trans (by simp [maxRoutePolicyGateways])

theorem holders_le (hv : ValidGraph s) (hc : Current s) (hI : TransfersSound s) (hw : w ∈ s.networks)
    (route : String) : (s.nodes.filter fun n => holds w n route).length ≤ maxRoutePolicyGateways := by
  by_cases hmoved : routeTransferActive w.routeTransfer = true ∧ route ∈ w.routeTransfer.routedSubnets
  · exact holders_of_transfer hv hc hI hw hmoved.1 hmoved.2
  · obtain ⟨rs, hmem, -, hbound⟩ := hv.reservationsApart
    -- each holder has its own reservation among those that share the prefix
    let group : ReservedIPv4Prefix := ⟨storedSubnet route, "", w.id, .routedSubnet⟩
    have hsub : (s.nodes.filter fun n => holds w n route).map Node.id ⊆
        (rs.filter (sharedRoute group)).map ReservedIPv4Prefix.owner := by
      intro id hid
      obtain ⟨n, hn, rfl⟩ := List.mem_map.mp hid
      obtain ⟨hn, hh⟩ := List.mem_filter.mp hn
      obtain ⟨hres, hnet⟩ := reserved_by_holder hv hw hn (fun ha hr => hmoved ⟨ha, hr⟩) hh
      refine List.mem_map.mpr ⟨routeReservation n route, List.mem_filter.mpr ⟨(hmem _).mpr hres, ?_⟩, rfl⟩
      exact sharedRoute_iff.mpr ⟨rfl, rfl, hnet.symm, rfl⟩
    have hle := ((nodup_holders hv _).subperm hsub).length_le
    rw [List.length_map, List.length_map] at hle
    exact hle.trans (hbound group)

/-! ## What configs show -/

theorem eq_singleton_of_forall {α : Type} {l : List α} {x : α} (hd : l.Nodup) (hx : x ∈ l)
    (hall : ∀ y ∈ l, y = x) : l = [x] := by
  have hsub : l ⊆ [x] := fun y hy => List.mem_singleton.mpr (hall y hy)
  exact (List.singleton_sublist.mpr hx).eq_of_length_le (hd.subperm hsub).length_le |>.symm

section Rendered

variable {o : Node} {route : String}

/-- The node is the only one of its network, active or not, that owns the prefix. -/
structure SoleOwner (s : State) (w : Network) (route : String) (o : Node) : Prop where
  mem : o ∈ s.nodes
  network : o.networkID = w.id
  active : o.status = .active
  owns : route ∈ o.routedSubnets
  sole : ∀ n ∈ s.nodes, n.networkID = w.id → n.status ≠ .revoked → route ∈ n.routedSubnets → n = o

theorem SoleOwner.activeRouteOwners (h : SoleOwner s w route o) (hv : ValidGraph s) (hc : Current s) :
    activeRouteOwners s w.id route = [o] := by
  have hmem : ∀ x, x ∈ Mesh.activeRouteOwners s w.id route ↔
      x ∈ s.nodes ∧ liveIn w.id x = true ∧ route ∈ x.routedSubnets := by
    intro x
    rw [Mesh.activeRouteOwners, sortNodesByID, (List.perm_insertionSort _ _).mem_iff, List.mem_filter]
    simp
  refine eq_singleton_of_forall ?_ ((hmem o).mpr ⟨h.mem, ?_, h.owns⟩) fun x hx => ?_
  · refine (List.perm_insertionSort _ _).nodup_iff.mpr ?_
    exact (List.Nodup.of_map _ hv.nodeIDs).filter _
  · have := hv.enrolledAt_ne_none hc h.mem h.active
    simp [liveIn, h.network, h.active, Option.isSome_iff_ne_none, this]
  · obtain ⟨hx, hlive, hroute⟩ := (hmem x).mp hx
    simp only [liveIn, Bool.and_eq_true, beq_iff_eq] at hlive
    exact h.sole x hx hlive.1.1 (by rw [hlive.1.2]; decide) hroute

theorem SoleOwner.gateways (h : SoleOwner s w route o) (hv : ValidGraph s) (hc : Current s) :
    (routedConfigEntry s w route).gateways.map Prod.fst = [o.ip] := by
  simp [routedConfigEntry, effectiveRoutePolicy, h.activeRouteOwners hv hc, ownerGateways,
    hv.findNode_of_mem h.mem]

theorem SoleOwner.mem_ownedRoutes (h : SoleOwner s w route o) : route ∈ ownedRoutes s w := by
  rw [ownedRoutes, sortStrings, (List.perm_insertionSort _ _).mem_iff, List.mem_dedup, List.mem_flatMap]
  exact ⟨o, List.mem_filter.mpr ⟨h.mem, by simp [h.network, h.active]⟩, h.owns⟩

theorem mem_routedEntries {e : RoutedConfigEntry} : e ∈ routedEntries s w n ↔
    ∃ r ∈ ownedRoutes s w, r ∉ certificateRoutedSubnets w n ∧ routedConfigEntry s w r = e ∧
      e.gateways ≠ [] := by
  simp only [routedEntries, List.mem_filter, List.mem_map, decide_eq_true_eq]
  constructor
  · rintro ⟨⟨r, ⟨hr, hcert⟩, he⟩, hne⟩
    exact ⟨r, hr, hcert, he, hne⟩
  · rintro ⟨r, hr, hcert, he, hne⟩
    exact ⟨⟨r, ⟨hr, hcert⟩, he⟩, hne⟩

/-- A config routes the prefix through its owner, unless the certificate of the node carries it. -/
theorem SoleOwner.rendersOwner_eq (h : SoleOwner s w route o) (hv : ValidGraph s) (hc : Current s)
    (n x : Node) : rendersOwner s w n x route =
      if x.id = n.id then (certificateRoutedSubnets w n).contains route
      else !(certificateRoutedSubnets w n).contains route && x.ip == o.ip := by
  have hgateways := h.gateways hv hc
  unfold rendersOwner
  split_ifs with hid
  · rfl
  rw [Bool.eq_iff_iff, List.any_eq_true]
  simp only [Bool.and_eq_true, beq_iff_eq, Bool.not_eq_true', List.contains_iff_mem, mem_routedEntries,
    ← Bool.not_eq_true (List.contains _ _)]
  constructor
  · rintro ⟨_, ⟨r, -, hcert, rfl, -⟩, rfl, hip⟩
    exact ⟨hcert, List.mem_singleton.mp (hgateways ▸ hip)⟩
  · rintro ⟨hcert, hip⟩
    refine ⟨_, ⟨route, h.mem_ownedRoutes, hcert, rfl, fun hnil => ?_⟩, rfl, ?_⟩
    · rw [hnil] at hgateways
      cases hgateways
    · rw [hgateways, hip]
      exact List.mem_singleton_self _

end Rendered

theorem TransferSound.soleOwner (h : TransferSound s w) (hv : ValidGraph s) (hc : Current s)
    (hw : w ∈ s.networks) (ha : routeTransferActive w.routeTransfer = true) {route : String}
    (hroute : route ∈ w.routeTransfer.routedSubnets) :
    ∃ o, o.id = w.routeTransfer.owner ∧ SoleOwner s w route o := by
  obtain ⟨o, ho, hid, hnet, hactive, hall⟩ := h.ownerFound hv hc hw ha
  refine ⟨o, hid, ho, hnet, hactive, hall route hroute, fun n hn hnnet hst hr => ?_⟩
  exact Keyed.eq_of_key_eq hv.nodeIDs hn ho ((h.sole route hroute n hn hnnet hst hr).trans hid.symm)

variable {t : NetworkRouteTransfer} {source target : Node} {inputs : Inputs}

theorem routeTransferActive_iff : routeTransferActive t = true ↔
    t.phase = .preparingTarget ∨ t.phase = .cleaningSource ∨ t.phase = .cleaningTarget := by
  simp [routeTransferActive, or_assoc]

theorem routeProfileCertificateRoutedSubnets_of_inactive (h : routeProfileEditActive w.routeProfileEdit = false)
    (n : Node) : routeProfileCertificateRoutedSubnets w n = none := by
  simp only [routeProfileCertificateRoutedSubnets]
  split_ifs with hid
  · rfl
  · cases hp : w.routeProfileEdit.phase <;> first | rfl | simp [routeProfileEditActive, hp] at h

/-- Of the nodes of the network the owner must carry the prefix in its certificate, and the target
while it is prepared. -/
theorem TransferSound.carries_iff (h : TransferSound s w) (hv : ValidGraph s) (hc : Current s)
    (hw : w ∈ s.networks) (ha : routeTransferActive w.routeTransfer = true) {route : String}
    (hroute : route ∈ w.routeTransfer.routedSubnets) (hn : n ∈ s.nodes) (hnet : n.networkID = w.id)
    (hst : n.status ≠ .revoked) : route ∈ certificateRoutedSubnets w n ↔
      n.id = w.routeTransfer.owner ∨
        (w.routeTransfer.phase = .preparingTarget ∧ n.id = w.routeTransfer.targetNodeID) := by
  have hroutes := hv.transferRoutes hc hw ha
  have hedit := hv.not_both_active hc hw ha
  have howned : route ∈ n.routedSubnets ↔ n.id = w.routeTransfer.owner := by
    refine ⟨h.sole route hroute n hn hnet hst, fun hid => ?_⟩
    obtain ⟨o, hoid, hsole⟩ := h.soleOwner hv hc hw ha hroute
    exact Keyed.eq_of_key_eq hv.nodeIDs hn hsole.mem (hid.trans hoid.symm) ▸ hsole.owns
  simp only [certificateRoutedSubnets]
  split_ifs with hprep hclean
  · simp only [hprep, and_self, or_true, iff_true]
    exact (mem_mergeSubnets hroutes.target hroutes.moved h.merged).mpr (.inr hroute)
  · obtain ⟨source, target, ho⟩ := hv.transferOwners hc hw ha
    have htarget : n = target := by
      have hfound := ho.targetFound
      rw [← hclean.2, hv.findNode_of_mem hn, Option.some.injEq] at hfound
      exact hfound
    have horiginal : w.routeTransfer.targetOriginalSubnets = n.routedSubnets := by
      rw [htarget, ho.targetRoutes, if_neg (by rw [hclean.1]; decide)]
    rw [horiginal, howned, or_iff_left hprep]
  · rw [routeProfileCertificateRoutedSubnets_of_inactive hedit, Option.getD_none, howned,
      or_iff_left hprep]

/-- Of the owner `o` and the other party `x`, a config shows exactly one. -/
theorem shown_once {o x n : Node} {carried : Bool} (hid : o.id ≠ x.id) (hip : o.ip ≠ x.ip)
    (howner : n.id = o.id → carried = true) (hother : n.id ≠ o.id → n.id ≠ x.id → carried = false) :
    (if o.id = n.id then carried else !carried && o.ip == o.ip) =
      !(if x.id = n.id then carried else !carried && x.ip == o.ip) := by
  by_cases ho : o.id = n.id
  · have hx : x.id ≠ n.id := fun hx => hid (ho.trans hx.symm)
    simp [ho, hx, howner ho.symm]
  · by_cases hx : x.id = n.id
    · simp [ho, hx]
    · simp [ho, hx, hother (Ne.symm ho) (Ne.symm hx), hip.symm]

/-- Every config shows exactly one of the two parties of a transfer. -/
theorem TransferSound.rendered (h : TransferSound s w) (hv : ValidGraph s) (hc : Current s)
    (hw : w ∈ s.networks) (ha : routeTransferActive w.routeTransfer = true)
    (hsource : findNode s w.routeTransfer.sourceNodeID = some source)
    (htarget : findNode s w.routeTransfer.targetNodeID = some target) {route : String}
    (hroute : route ∈ w.routeTransfer.routedSubnets) (hn : n ∈ s.nodes) (hnet : n.networkID = w.id)
    (hst : n.status ≠ .revoked) : rendersOwner s w n source route = !rendersOwner s w n target route := by
  obtain ⟨source', target', ho⟩ := hv.transferOwners hc hw ha
  obtain rfl : source' = source := Option.some.inj (ho.sourceFound.symm.trans hsource)
  obtain rfl : target' = target := Option.some.inj (ho.targetFound.symm.trans htarget)
  obtain ⟨o, hoid, hsole⟩ := h.soleOwner hv hc hw ha hroute
  have hsid := findNode_id hsource
  have htid := findNode_id htarget
  have hd : source'.id ≠ target'.id := by rw [hsid, htid]; exact ho.distinct
  have hip : source'.ip ≠ target'.ip := hv.ip_ne_of_ne (mem_of_findNode hsource) (mem_of_findNode htarget)
    (ho.sourceNetwork.trans ho.targetNetwork.symm) hd
  have hcarries := h.carries_iff hv hc hw ha hroute hn hnet hst
  rw [← hoid, ← htid, ← List.contains_iff_mem] at hcarries
  rw [hsole.rendersOwner_eq hv hc, hsole.rendersOwner_eq hv hc]
  -- the owner is the source until the promotion and the target from then on
  by_cases hp : w.routeTransfer.phase = .cleaningSource
  · obtain rfl : o = target' := Keyed.eq_of_key_eq hv.nodeIDs hsole.mem (mem_of_findNode htarget)
      (by rw [hoid, htid, NetworkRouteTransfer.owner, if_pos hp])
    have hcarried : n.id ≠ o.id → (certificateRoutedSubnets w n).contains route = false := fun hne =>
      Bool.eq_false_iff.mpr fun hct => (hcarries.mp hct).elim hne fun hprep => hne hprep.2
    rw [shown_once hd.symm hip.symm (fun he => hcarries.mpr (.inl he)) fun hne _ => hcarried hne,
      Bool.not_not]
  · obtain rfl : o = source' := Keyed.eq_of_key_eq hv.nodeIDs hsole.mem (mem_of_findNode hsource)
      (by rw [hoid, hsid, NetworkRouteTransfer.owner, if_neg hp])
    exact shown_once hd hip (fun he => hcarries.mpr (.inl he)) fun hne hne' =>
      Bool.eq_false_iff.mpr fun hct => (hcarries.mp hct).elim hne fun hprep => hne' hprep.2

theorem singleOwnership_of_sound (hv : ValidGraph s) (hc : Current s) (hI : TransfersSound s) :
    SingleOwnership s := by
  obtain ⟨rs, hmem, happart, -⟩ := hv.reservationsApart
  refine ⟨?_, ?_, ?_, fun w hw route => holders_le hv hc hI hw route, ?_⟩
  · intro w hw n hn route h v hv'
    obtain ⟨-, o, -, hres⟩ := reserved_of_holds hv hc hI hw hn h
    refine Bool.eq_false_iff.mpr fun hov => ?_
    have hshared := happart _ ((hmem _).mpr hres) _ ((hmem _).mpr (.managed hv')) hov
      fun he => absurd (congrArg ReservedIPv4Prefix.kind he) (by simp [routeReservation, managedReservation])
    cases (sharedRoute_iff.mp hshared).2.1
  · intro w hw n hn route h w' hw' n' hn' route' h' hne
    obtain ⟨-, o, honet, hres⟩ := reserved_of_holds hv hc hI hw hn h
    obtain ⟨-, o', honet', hres'⟩ := reserved_of_holds hv hc hI hw' hn' h'
    refine Bool.eq_false_iff.mpr fun hov => hne ?_
    have hnet : (routeReservation o route).networkID = (routeReservation o' route').networkID := by
      by_cases he : routeReservation o route = routeReservation o' route'
      · rw [he]
      · exact (sharedRoute_iff.mp (happart _ ((hmem _).mpr hres) _ ((hmem _).mpr hres') hov he)).2.2.1
    exact honet.symm.trans (hnet.trans honet')
  · intro w hw n hn route h n' hn' route' h' hov
    obtain ⟨hcanon, o, -, hres⟩ := reserved_of_holds hv hc hI hw hn h
    obtain ⟨hcanon', o', -, hres'⟩ := reserved_of_holds hv hc hI hw hn' h'
    refine hcanon.eq_of_subnet hcanon' ?_
    by_cases he : routeReservation o route = routeReservation o' route'
    · exact congrArg ReservedIPv4Prefix.subnet he
    · exact (sharedRoute_iff.mp (happart _ ((hmem _).mpr hres) _ ((hmem _).mpr hres') hov he)).2.2.2
  · intro w hw ha source target hsource htarget route hroute n hn hnet hst
    exact (hI w hw ha).rendered hv hc hw ha hsource htarget hroute hn hnet hst

/-! ## Steps -/

/-- The transfers that are active after a step were active before it, as they are. -/
def TransfersKept (s s' : State) : Prop :=
  ∀ w' ∈ s'.networks, routeTransferActive w'.routeTransfer = true →
    ∃ w ∈ s.networks, w.id = w'.id ∧ w.routeTransfer = w'.routeTransfer

/-- The node before a step that stands for one after it. -/
structure Stood (n n' : Node) : Prop where
  id : n.id = n'.id
  network : n.networkID = n'.networkID
  status : n'.status ≠ .revoked → n.status ≠ .revoked
  routes : n.routedSubnets = n'.routedSubnets

theorem Stood.refl (n : Node) : Stood n n := ⟨rfl, rfl, fun h => h, rfl⟩

theorem Stood.of_core (h : n'.core = n.core) : Stood n n' :=
  ⟨(Node.eq_of_core Node.id (fun _ => rfl) h).symm, (Node.eq_of_core Node.networkID (fun _ => rfl) h).symm,
    fun hst => Node.eq_of_core Node.status (fun _ => rfl) h ▸ hst,
    (Node.eq_of_core Node.routedSubnets (fun _ => rfl) h).symm⟩

theorem TransfersKept.of_subset (h : s'.networks ⊆ s.networks) : TransfersKept s s' :=
  fun w' hw' _ => ⟨w', h hw', rfl, rfl⟩

theorem TransfersKept.of_put (hnets : s'.networks = Keyed.put Network.id w' s.networks) (hw : w ∈ s.networks)
    (hid : w'.id = w.id) (ht : w'.routeTransfer = w.routeTransfer) : TransfersKept s s' := by
  intro u hu _
  rw [hnets] at hu
  rcases Keyed.mem_put.mp hu with ⟨hu, -⟩ | ⟨rfl, -⟩
  · exact ⟨u, hu, rfl, rfl⟩
  · exact ⟨w, hw, hid.symm, ht.symm⟩

theorem TransfersKept.of_put_core (hnets : s'.networks = Keyed.put Network.id w' s.networks)
    {id : String} (hw : findNetwork s id = some w) (h : w'.core = w.core) : TransfersKept s s' :=
  .of_put hnets (mem_of_findNetwork hw) (Network.id_of_core h)
    (Network.eq_of_core Network.routeTransfer (fun _ => rfl) h)

def NodesStood (s s' : State) : Prop := ∀ n' ∈ s'.nodes, ∃ n ∈ s.nodes, Stood n n'

theorem NodesStood.of_subset (h : s'.nodes ⊆ s.nodes) : NodesStood s s' :=
  fun n' hn' => ⟨n', h hn', .refl n'⟩

theorem NodesStood.of_put (hnodes : s'.nodes = Keyed.put Node.id n' s.nodes) {id : String}
    (hn : findNode s id = some n) (h : Stood n n') : NodesStood s s' := by
  intro m hm
  rw [hnodes] at hm
  rcases Keyed.mem_put.mp hm with ⟨hm, -⟩ | ⟨rfl, -⟩
  · exact ⟨m, hm, .refl m⟩
  · exact ⟨n, mem_of_findNode hn, h⟩

theorem TransfersSound.carry (hI : TransfersSound s) (hnets : TransfersKept s s')
    (hnodes : ∀ n' ∈ s'.nodes, (∃ n ∈ s.nodes, Stood n n') ∨
      ∀ w ∈ s.networks, routeTransferActive w.routeTransfer = true → n'.networkID = w.id →
        ∀ route ∈ w.routeTransfer.routedSubnets, route ∉ n'.routedSubnets) : TransfersSound s' := by
  intro w' hw' ha
  obtain ⟨w, hw, hid, ht⟩ := hnets w' hw' ha
  have h := hI w hw (ht ▸ ha)
  refine ⟨ht ▸ h.merged, fun route hroute n' hn' hnet hst hr => ?_⟩
  obtain ⟨n, hn, hstood⟩ | hfree := hnodes n' hn'
  · rw [← hstood.id, ← ht]
    exact h.sole route (ht ▸ hroute) n hn (hstood.network.trans (hnet.trans hid.symm)) (hstood.status hst)
      (hstood.routes ▸ hr)
  · exact absurd hr (hfree w hw (ht ▸ ha) (hnet.trans hid.symm) route (ht ▸ hroute))

theorem TransfersSound.stood (hI : TransfersSound s) (hnets : TransfersKept s s') (hnodes : NodesStood s s') :
    TransfersSound s' := hI.carry hnets fun n' hn' => .inl (hnodes n' hn')

/-- A new node does not take a prefix that is in transfer: its prefixes are reserved. -/
theorem TransfersSound.created_free (hI : TransfersSound s) (hv : ValidGraph s) (hc : Current s)
    (h : validateNewRoutedSubnets s n'.routedSubnets = .ok ()) (hw : w ∈ s.networks)
    (ha : routeTransferActive w.routeTransfer = true) {route : String}
    (hroute : route ∈ w.routeTransfer.routedSubnets) : route ∉ n'.routedSubnets := by
  intro hmem
  obtain ⟨o, ho, -, -, hactive, hall⟩ := (hI w hw ha).ownerFound hv hc hw ha
  unfold validateNewRoutedSubnets at h
  rw [if_neg (List.ne_nil_of_mem hmem)] at h
  simp only [bind_eq_ok, checkAll_eq_ok, reject_eq_ok] at h
  obtain ⟨rs, hrs, h⟩ := h
  have hres : HasReservation s (routeReservation o route) :=
    .owned ho (by rw [hactive]; decide) (hall route hroute)
  exact h route hmem _ ((mem_activeReservedIPv4Prefixes hrs).mpr hres) (prefixesOverlap_self _)

/-- Neither does the node that stands for a revoked one: a party of a transfer is not replaced. -/
theorem TransfersSound.replacing_free (hI : TransfersSound s) (hv : ValidGraph s)
    (hn : n ∈ s.nodes) (hst : n.status ≠ .revoked) (hfound : findNetwork s n.networkID = some w)
    (hfree : routeTransferIncludesNode w.routeTransfer n.id = false)
    (hroutes : n'.routedSubnets = n.routedSubnets) {u : Network} (hu : u ∈ s.networks)
    (ha : routeTransferActive u.routeTransfer = true) (hnet : n.networkID = u.id) {route : String}
    (hroute : route ∈ u.routeTransfer.routedSubnets) : route ∉ n'.routedSubnets := by
  intro hmem
  obtain rfl : w = u := Option.some.inj (hfound.symm.trans (hv.findNetwork_iff.mpr ⟨hu, hnet.symm⟩))
  have hid := (hI w hu ha).sole route hroute n hn hnet hst (hroutes ▸ hmem)
  have hincluded : routeTransferIncludesNode w.routeTransfer n.id = true := by
    rw [hid]
    unfold NetworkRouteTransfer.owner
    split_ifs <;> simp [routeTransferIncludesNode, ha]
  rw [hincluded] at hfree
  cases hfree

theorem routeTransferActive_of_terminal (h : routeTransferTerminal t = true) : routeTransferActive t = false := by
  simp only [routeTransferTerminal, Bool.or_eq_true, decide_eq_true_eq, beq_iff_eq] at h
  obtain (rfl | h) | h := h
  · decide
  · simp [routeTransferActive, h]
  · simp [routeTransferActive, h]

/-- A change of one network leaves the transfers of the others sound. -/
theorem TransfersSound.put_network (hI : TransfersSound s) (hnodes : s'.nodes = s.nodes)
    (hnets : s'.networks = Keyed.put Network.id w' s.networks)
    (h : routeTransferActive w'.routeTransfer = true → TransferSound s w') : TransfersSound s' := by
  intro u hu ha
  rw [hnets] at hu
  have hsound : TransferSound s u := by
    rcases Keyed.mem_put.mp hu with ⟨hu, -⟩ | ⟨rfl, -⟩
    · exact hI u hu ha
    · exact h ha
  exact ⟨hsound.merged, hnodes ▸ hsound.sole⟩

/-- The prefixes a step may start to transfer are not waiting with a pending node. -/
def StartsFree (inputs : Inputs) (s : State) : Prop :=
  ∀ start ∈ inputs.starts, ∀ n ∈ s.nodes, n.networkID = start.1 → n.status = .pending →
    ∀ route ∈ start.2, route ∉ n.routedSubnets

theorem transferSound_of_started {routes : List String} {requestID : String} {now : Int} (hv : ValidGraph s)
    (hc : Current s) (hcheck : checkTransferParticipants s w source target routes = .ok ())
    (hfree : ∀ n ∈ s.nodes, n.networkID = w.id → n.status = .pending → ∀ route ∈ routes,
      route ∉ n.routedSubnets) (hid : w'.id = w.id)
    (ht : w'.routeTransfer = startedTransfer requestID source target routes now) : TransferSound s w' := by
  simp only [checkTransferParticipants, bind_eq_ok, exists_unit, checkAll_eq_ok, reject_eq_ok,
    mapError_eq_ok, Decidable.not_not] at hcheck
  obtain ⟨-, -, howners, out, hmerged, -⟩ := hcheck
  refine ⟨?_, ?_⟩
  · rw [ht]
    exact ⟨out, hmerged⟩
  · rw [ht, hid]
    intro route hroute n hn hnet hst hr
    have hactive : n.status = .active := by
      cases hs : n.status with
      | active => rfl
      | revoked => exact absurd hs hst
      | pending => exact absurd hr (hfree n hn hnet hs route hroute)
    have hlive : liveIn w.id n = true := by
      have := hv.enrolledAt_ne_none hc hn hactive
      simp [liveIn, hnet, hactive, Option.isSome_iff_ne_none, this]
    have hmem : n ∈ activeRouteOwners s w.id route := by
      rw [activeRouteOwners, sortNodesByID, (List.perm_insertionSort _ _).mem_iff, List.mem_filter]
      exact ⟨hn, by simp [hlive, hr]⟩
    have := List.mem_map_of_mem (f := Node.id) hmem
    rw [howners route hroute, List.mem_singleton] at this
    exact this

theorem transferSound_of_transferStep {now : Int} {bump : Bool} (hI : TransfersSound s) (hv : ValidGraph s)
    (hc : Current s) (hw : w ∈ s.networks) (hfree : StartsFree inputs s) (hnamed : StartNamed inputs w w')
    (h : TransferStep s w now t bump) (hid : w'.id = w.id) (ht : w'.routeTransfer = t)
    (ha : routeTransferActive w'.routeTransfer = true) : TransferSound s w' := by
  cases h with
  | started requestID source target routes hterm _ _ _ _ hcheck _ =>
    obtain hold | hstart := hnamed ha
    · rw [routeTransferActive_of_terminal hterm] at hold
      cases hold
    · rw [ht] at hstart
      exact transferSound_of_started hv hc hcheck
        (fun n hn hnet hst route hroute => hfree _ hstart n hn hnet hst route hroute) hid ht
  | cancellationStarted target hp =>
    have h := hI w hw (routeTransferActive_iff.mpr (.inl hp))
    refine ⟨by rw [ht]; exact h.merged, ?_⟩
    have howner : w'.routeTransfer.owner = w.routeTransfer.owner := by
      simp [NetworkRouteTransfer.owner, ht, hp]
    rw [howner, ht, hid]
    exact h.sole
  | cancelledEarly => exact absurd ha (by rw [ht]; simp [routeTransferActive])
  | cancelled => exact absurd ha (by rw [ht]; simp [routeTransferActive])
  | completed => exact absurd ha (by rw [ht]; simp [routeTransferActive])

theorem Network.bumped_id (bump : Bool) (now : Int) (w : Network) : (w.bumped bump now).id = w.id := by
  cases bump <;> rfl

theorem Network.bumped_routeTransfer (bump : Bool) (now : Int) (w : Network) :
    (w.bumped bump now).routeTransfer = w.routeTransfer := by
  cases bump <;> rfl

theorem TransfersSound.networkStep (hI : TransfersSound s) (hv : ValidGraph s) (hc : Current s)
    (hfree : StartsFree inputs s) (hnodes : s'.nodes = s.nodes)
    (hnets : s'.networks = Keyed.put Network.id w' s.networks) (hw : findNetwork s w.id = some w)
    (hnamed : StartNamed inputs w w') (h : NetworkStep s w w') : TransfersSound s' := by
  have hmem := mem_of_findNetwork hw
  have hsame : NodesStood s s' := .of_subset (hnodes ▸ List.Subset.refl _)
  cases h with
  | settings hcore => exact hI.stood (.of_put_core hnets hw hcore) hsame
  | rotation => exact hI.stood (.of_put hnets hmem rfl rfl) hsame
  | edit =>
    exact hI.stood (.of_put hnets hmem (Network.bumped_id _ _ _) (Network.bumped_routeTransfer _ _ _)) hsame
  | transfer hstep =>
    exact hI.put_network hnodes hnets (transferSound_of_transferStep hI hv hc hmem hfree hnamed hstep
      (Network.bumped_id _ _ _) (Network.bumped_routeTransfer _ _ _))

/-- At the promotion the owner changes from the source to the target. -/
theorem TransfersSound.promoted (hI : TransfersSound s) (hv : ValidGraph s) (hc : Current s)
    (hw : findNetwork s w.id = some w) (hp : w.routeTransfer.phase = .preparingTarget)
    (hsource : findNode s w.routeTransfer.sourceNodeID = some source)
    (htarget : findNode s w.routeTransfer.targetNodeID = some target)
    (hnets : s'.networks = Keyed.put Network.id w' s.networks) (hid : w'.id = w.id)
    (ht : ∃ now generation, w'.routeTransfer = { w.routeTransfer with
      phase := .cleaningSource, promotedAt := now, sourceCertificateGeneration := generation })
    (hnodes : s'.nodes = (promoteOwnership s w.routeTransfer source target).nodes) : TransfersSound s' := by
  obtain ⟨now, generation, ht⟩ := ht
  have hmem := mem_of_findNetwork hw
  have hactive : routeTransferActive w.routeTransfer = true := routeTransferActive_iff.mpr (.inl hp)
  have h := hI w hmem hactive
  obtain ⟨source', target', ho⟩ := hv.transferOwners hc hmem hactive
  obtain rfl : source' = source := Option.some.inj (ho.sourceFound.symm.trans hsource)
  obtain rfl : target' = target := Option.some.inj (ho.targetFound.symm.trans htarget)
  -- a node after the promotion is one of the parties or as it was
  have hcases : ∀ n' ∈ s'.nodes,
      (n'.id = source'.id ∧ n'.networkID = w.id ∧ n'.routedSubnets =
        subtractSubnets w.routeTransfer.sourceOriginalSubnets w.routeTransfer.routedSubnets) ∨
      (n'.id = target'.id ∧ n'.networkID = w.id) ∨ (n' ∈ s.nodes ∧ n'.id ≠ source'.id) := by
    intro n' hn'
    rw [hnodes, promoteOwnership] at hn'
    rcases Keyed.mem_put.mp hn' with ⟨hn', hne⟩ | ⟨rfl, -⟩
    · rcases Keyed.mem_put.mp hn' with ⟨hn', -⟩ | ⟨rfl, -⟩
      · exact .inr (.inr ⟨hn', hne⟩)
      · exact .inr (.inl ⟨rfl, ho.targetNetwork⟩)
    · exact .inl ⟨rfl, ho.sourceNetwork, rfl⟩
  intro u hu ha
  rw [hnets] at hu
  rcases Keyed.mem_put.mp hu with ⟨hu, hne⟩ | ⟨rfl, -⟩
  · have hu' := hI u hu ha
    refine ⟨hu'.merged, fun route hroute n' hn' hnet hst hr => ?_⟩
    obtain ⟨-, hn, -⟩ | ⟨-, hn⟩ | ⟨hn', -⟩ := hcases n' hn'
    · exact absurd (hnet.symm.trans (hn.trans hid.symm)) hne
    · exact absurd (hnet.symm.trans (hn.trans hid.symm)) hne
    · exact hu'.sole route hroute n' hn' hnet hst hr
  · refine ⟨by rw [ht]; exact h.merged, ?_⟩
    rw [ht, hid]
    intro route hroute n' hn' hnet hst hr
    obtain ⟨-, -, hroutes⟩ | ⟨hid', -⟩ | ⟨hn', hne⟩ := hcases n' hn'
    · rw [hroutes, subtractSubnets, List.mem_filter, decide_eq_true_eq] at hr
      exact absurd hroute hr.2
    · rw [hid', findNode_id htarget]
      rfl
    · have howner := h.sole route hroute n' hn' hnet hst hr
      rw [NetworkRouteTransfer.owner, if_neg (by rw [hp]; decide), ← findNode_id hsource] at howner
      exact absurd howner hne

/-- A node of a network without an active transfer gets other prefixes. -/
theorem TransfersSound.put_routes {subnets : List String} (hI : TransfersSound s) (hv : ValidGraph s)
    (hw : w ∈ s.networks) (hinactive : routeTransferActive w.routeTransfer = false) (hnet : n.networkID = w.id)
    (hnets : TransfersKept s s')
    (hnodes : s'.nodes = Keyed.put Node.id { n with routedSubnets := subnets } s.nodes) :
    TransfersSound s' := by
  refine hI.carry hnets fun n' hn' => ?_
  rw [hnodes] at hn'
  rcases Keyed.mem_put.mp hn' with ⟨hn', -⟩ | ⟨rfl, -⟩
  · exact .inl ⟨n', hn', .refl n'⟩
  · refine .inr fun u hu ha hnet' => ?_
    obtain rfl : u = w := Keyed.eq_of_key_eq hv.networkIDs hu hw (hnet'.symm.trans hnet)
    rw [hinactive] at ha
    cases ha

theorem TransfersSound.effect {new : Option (Flight × Issued)} (hI : TransfersSound s) (hv : ValidGraph s)
    (hc : Current s) (hfree : StartsFree inputs s) (h : Effect inputs s s' new) : TransfersSound s' := by
  cases h with
  | touched hr hcore hreport =>
    refine hI.stood (.of_subset (hr.networks ▸ List.Subset.refl _)) fun n' hn' => ?_
    obtain ⟨n, hn, hc, -⟩ := exists_of_map_eq hcore hreport n' (hr.nodes ▸ hn')
    exact ⟨n, hn, .of_core hc⟩
  | reported hr hn _ hw hcore _ _ _ _ _ hnets =>
    refine hI.stood ?_ (.of_put hr.nodes hn (.of_core hcore))
    obtain hsame | ⟨w', hcore', -, hput⟩ := hnets
    · exact .of_subset (hr.networks ▸ hsame ▸ List.Subset.refl _)
    · exact .of_put_core (hr.networks.trans hput) hw hcore'
  | renewalClaimed hr hn =>
    exact hI.stood (.of_subset (hr.networks ▸ List.Subset.refl _))
      (.of_put hr.nodes hn ⟨rfl, rfl, fun h => h, rfl⟩)
  | renewalReleased hr =>
    refine hI.stood (.of_subset (hr.networks ▸ List.Subset.refl _)) fun n' hn' => ?_
    rw [hr.nodes, releaseRenewalClaim, List.mem_map] at hn'
    obtain ⟨n, hn, rfl⟩ := hn'
    refine ⟨n, hn, ?_⟩
    split_ifs
    · exact ⟨rfl, rfl, fun h => h, rfl⟩
    · exact .refl n
  | enrollmentClaimed hr | enrollmentReleased hr | reissued hr =>
    exact hI.stood (.of_subset (hr.networks ▸ List.Subset.refl _)) (.of_subset (hr.nodes ▸ List.Subset.refl _))
  | networkCreated hr _ _ ht =>
    refine hI.stood (fun w' hw' ha => ?_) (.of_subset (hr.nodes ▸ List.Subset.refl _))
    rw [hr.networks, List.mem_append, List.mem_singleton] at hw'
    rcases hw' with hw' | rfl
    · exact ⟨w', hw', rfl, rfl⟩
    · rw [ht] at ha
      exact absurd ha (by decide)
  | networkRetired hr =>
    exact hI.stood (.of_subset (hr.networks ▸ List.filter_subset_self _))
      (.of_subset (hr.nodes ▸ List.filter_subset_self _))
  | nodeCreated hr _ _ _ hroutes =>
    refine hI.carry (.of_subset (hr.networks ▸ List.Subset.refl _)) fun n' hn' => ?_
    rw [hr.nodes, List.mem_append, List.mem_singleton] at hn'
    rcases hn' with hn' | rfl
    · exact .inl ⟨n', hn', .refl n'⟩
    · exact .inr fun w hw ha _ route hroute => hI.created_free hv hc hroutes hw ha hroute
  | nodeCancelled hr _ _ hw hcore =>
    exact hI.stood (.of_put_core hr.networks hw hcore) (.of_subset (hr.nodes ▸ List.filter_subset_self _))
  | nodeArchived hr _ _ hw hcore =>
    exact hI.stood (.of_put_core hr.networks hw hcore) (.of_subset (hr.nodes ▸ List.filter_subset_self _))
  | networkChanged hr hw hstep hnamed => exact hI.networkStep hv hc hfree hr.nodes hr.networks hw hnamed hstep
  | transferPromoted hr hw hp hsource htarget =>
    exact hI.promoted hv hc hw hp hsource htarget hr.networks rfl ⟨_, _, rfl⟩ hr.nodes
  | editPromoted hr hw hp hn =>
    have hmem := mem_of_findNetwork hw
    obtain ⟨m, hm⟩ := hv.editOwner hc hmem (by simp [routeProfileEditActive, hp])
    obtain rfl := Option.some.inj (hm.owner.symm.trans hn)
    exact hI.put_routes hv hmem hm.noTransfer hm.network (.of_put hr.networks hmem rfl rfl) hr.nodes
  | editNarrowed hr hw _ hnet _ hterm =>
    have hmem := mem_of_findNetwork hw
    exact hI.put_routes hv hmem (routeTransferActive_of_terminal hterm) hnet
      (.of_put hr.networks hmem rfl rfl) hr.nodes
  | enrolled hr hn hpending hw =>
    refine hI.stood (.of_put hr.networks (mem_of_findNetwork hw) ?_ ?_)
      (.of_put hr.nodes hn ⟨rfl, rfl, fun _ => by rw [hpending]; decide, rfl⟩)
    · simp only [enrolledNetwork]
      split_ifs <;> rfl
    · simp only [enrolledNetwork]
      split_ifs <;> rfl
  | renewed hr hn =>
    exact hI.stood (.of_subset (hr.networks ▸ List.Subset.refl _))
      (.of_put hr.nodes hn ⟨rfl, rfl, fun h => h, rfl⟩)
  | replaced hr _ hn _ hw =>
    exact hI.stood (.of_put hr.networks (mem_of_findNetwork hw) rfl rfl)
      (.of_put hr.nodes hn ⟨rfl, rfl, fun h => h, rfl⟩)
  | revoked hr hn hst hw hcore _ hparty _ _ _ _ hcreated =>
    refine hI.carry (.of_put_core hr.networks hw hcore) fun n' hn' => ?_
    rw [hr.nodes, List.mem_append] at hn'
    rcases hn' with hn' | hn'
    · rcases Keyed.mem_put.mp hn' with ⟨hn', -⟩ | ⟨rfl, -⟩
      · exact .inl ⟨n', hn', .refl n'⟩
      · exact .inl ⟨_, mem_of_findNode hn, ⟨rfl, rfl, fun h => absurd rfl h, rfl⟩⟩
    · obtain ⟨p, hp, rfl⟩ := List.mem_map.mp hn'
      obtain ⟨hnet, hroutes⟩ := hcreated p hp
      exact .inr fun u hu ha hnet' route hroute => hI.replacing_free hv (mem_of_findNode hn) hst hw hparty
        hroutes hu ha (hnet.symm.trans hnet') hroute

/-! ## Runs -/

namespace World

variable {env : Env} {w : World}

/-- A transfer is started only for prefixes that no pending node of the network has. -/
def StartsClear (w : World) (a : Action) : Prop := StartsFree a.inputs w.state

theorem transfersSound (h : Runs.Reachable Initial (Runs.Restrict (Step env) StartsClear) w) :
    TransfersSound w.state := by
  refine h.invariant (I := fun w => TransfersSound w.state) ?_ ?_
  · intro w h0 v hv
    rw [h0.networks] at hv
    cases hv
  · rintro w a w' hr hI ⟨⟨-, hstep⟩, hclear⟩
    have hs := sound hr.of_restrict
    obtain ⟨new, he⟩ := step_effect hs hstep
    exact hI.effect hs.valid hs.current hclear he.effect

end World

/-- In every run that starts transfers only for prefixes no pending node has, ownership is single. -/
theorem routed_prefixes_owned_once {env : Env} {w : World}
    (h : Runs.Reachable World.Initial (Runs.Restrict (World.Step env) World.StartsClear) w) :
    SingleOwnership w.state :=
  have hs := World.sound h.of_restrict
  singleOwnership_of_sound hs.valid hs.current (World.transfersSound h)

/-! ## Two runs -/

namespace Gateways

def route : String := "192.168.1.0/24"

/-- The node of the number is created and enrolled; the bearer of its agent has the given hash. -/
def member (n : Nat) (tokenHash : String) (routes : List String) : List Action := [
  Setting.node n { name := "", routedSubnets := routes },
  .enrollClaim (Setting.bytes32 n) ("key" ++ toString n) tokenHash ("k" ++ toString n) (Setting.minutes n),
  .issue 0 (Setting.certificate n) ("e" ++ toString n) (Setting.minutes n)]

/-- A gateway for the prefix and the node that is to take it over. -/
def parties : List Action :=
  Setting.network :: (member 2 (Setting.bytes32 102) [route] ++ member 4 (Setting.bytes32 104) [])

def transfer (expectedConfigRevision : Int) : Action :=
  .op { eventID := "e10", now := Setting.minutes 10 } (.startRouteTransfer "w1" {
    sourceNodeID := "n2", targetNodeID := "n4", routedSubnets := [route]
    expectedConfigRevision := expectedConfigRevision, requestID := "request-00000010" })

def transferStarted : World.Passed (World.playLast (stepEval.1 Setting.env) Setting.start parties (transfer 2)
    (fun w₁ w₂ => (w₁.state.nodes.all fun n => n.status == .active) &&
      w₂.state.networks.any fun v => routeTransferActive v.routeTransfer)) where
  holds := by decide +kernel

/-- A third node becomes a second gateway for the prefix. -/
def join : List Action :=
  member 3 (hashToken (Setting.bytes32 103)) [] ++ [
    .op { eventID := "e5", now := Setting.minutes 5 } (.startRouteProfileEdit "n3" {
      routedSubnets := [route], expectedConfigRevision := 2, requestID := "request-00000005" }),
    .renewClaim (Setting.bytes32 103) "key3" "k6" (Setting.minutes 6),
    .issue 0 (Setting.certificate 6) "e6" (Setting.minutes 6),
    .op { eventID := "", now := Setting.minutes 7 } (.heartbeat (Setting.bytes32 103) {
      agentVersion := "1", nebulaVersion := "1", appliedConfigRevision := 3, certificateGeneration := 2
      appliedConfigSHA256 := "fc56bfb9aba2f7670098ff16169c0eea0d702fa619e17da09fbdfb664abed151"
      certificateFingerprint := (Setting.certificate 6).fingerprint
      nebulaRunning := true, status := "healthy", bootID := "boot", sequence := 1 }),
    .op { eventID := "e8", now := Setting.minutes 8 } (.updateRouteProfileEdit "n3" {
      expectedConfigRevision := 3, requestID := "request-00000005" } false)]

/-- The second gateway is replaced, and while its successor is pending the transfer starts. -/
def replaced : List Action := [
  .op { eventID := "e9", now := Setting.minutes 9 } (.replaceNode "n3" 4 "f9" {
    nodeID := "n5", enrollmentIDs := ["t5"], bearers := [Setting.bytes32 5], eventID := "g9" }),
  transfer 5,
  .enrollClaim (Setting.bytes32 5) "key5" (Setting.bytes32 105) "k5" (Setting.minutes 11)]

/-- A node whose config shows neither party of an active transfer. -/
def unshown (s : State) (w : Network) (n : Node) (route : String) : Bool :=
  match findNode s w.routeTransfer.sourceNodeID, findNode s w.routeTransfer.targetNodeID with
  | some source, some target => !rendersOwner s w n source route && !rendersOwner s w n target route
  | _, _ => false

def anyUnshown (s : State) : Bool :=
  s.networks.any fun w => routeTransferActive w.routeTransfer &&
    w.routeTransfer.routedSubnets.any fun route =>
      s.nodes.any fun n => n.networkID == w.id && n.status != .revoked && unshown s w n route

theorem not_singleOwnership_of_unshown {s : State} (h : anyUnshown s = true) : ¬ SingleOwnership s := by
  intro hs
  simp only [anyUnshown, List.any_eq_true, Bool.and_eq_true, beq_iff_eq, bne_iff_ne] at h
  obtain ⟨w, hw, ha, route, hroute, n, hn, ⟨hnet, hst⟩, h⟩ := h
  unfold unshown at h
  split at h
  · rename_i source target hsource htarget
    simp only [Bool.and_eq_true, Bool.not_eq_true'] at h
    have := hs.rendered w hw ha source target hsource htarget route hroute n hn hnet hst
    rw [h.1, h.2] at this
    cases this
  · cases h

def successorEnrolled : World.Passed (World.playLast (stepEval.1 Setting.env) Setting.start
    (parties ++ join ++ replaced) (.issue 0 (Setting.certificate 5) "e11" (Setting.minutes 11))
    (fun _ w => anyUnshown w.state)) where
  holds := by decide +kernel

end Gateways

theorem routed_prefixes_owned_once_transfer :
    ∃ w, Runs.Reachable World.Initial (Runs.Restrict (World.Step Setting.env) World.StartsClear) w ∧
      (∃ v ∈ w.state.networks, routeTransferActive v.routeTransfer = true) ∧ SingleOwnership w.state := by
  obtain ⟨w₁, w₂, hplay, hstep, hseen⟩ := World.playLast_played Gateways.transferStarted.holds
  simp only [Bool.and_eq_true, List.all_eq_true, List.any_eq_true, beq_iff_eq] at hseen
  have hquiet : ∀ w : World, ∀ a ∈ Gateways.parties, World.StartsClear w a := by
    have hnone : ∀ a ∈ Gateways.parties, a.inputs.starts = [] := by decide
    intro w a ha start hstart
    rw [hnone a ha] at hstart
    cases hstart
  have hclear : World.StartsClear w₁ (Gateways.transfer 2) := by
    intro start _ n hn _ hpending
    rw [hseen.1 n hn] at hpending
    cases hpending
  have hr := Runs.Reachable.next (World.play_restricted (.start Setting.start_initial) hquiet hplay)
    ⟨hstep, hclear⟩
  exact ⟨w₂, hr, hseen.2, routed_prefixes_owned_once hr⟩

/-- The successor of a replaced gateway enrolls during a transfer of the prefix it has, and its config
then shows neither party as the owner. -/
theorem routed_prefix_shown_as_neither :
    ∃ w, World.Reachable Setting.env w ∧ ¬ SingleOwnership w.state := by
  obtain ⟨w₁, w₂, hr, hstep, hseen⟩ :=
    World.playLast_spec Setting.start_reachable Gateways.successorEnrolled.holds
  exact ⟨w₂, .next hr hstep, Gateways.not_singleOwnership_of_unshown hseen⟩

end Mesh
