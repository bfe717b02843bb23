import Mesh.Control.NodeSteps
import Mesh.Control.Play
import Mesh.Control.View

/-!
# Mesh.Control.Announce

Config texts change only with a new revision of their network. For every effect and every network,
either the effect raised the network's revision, or it changed nothing that the network's configs are
rendered from (`Effect.announced`).

One effect is excepted: a pending node that was selected as a relay becomes active without a new
revision, and the other nodes are then told to use it.
-/

namespace Mesh

variable {s s' : State} {w w' : Network}

/-! ## Records a network's configs do not see -/

/-- The part of a node that its own config reads, and that others look up by its identifier. -/
def Node.profile (n : Node) : Node where
  id := n.id
  networkID := n.networkID
  ip := n.ip
  routedSubnets := n.routedSubnets
  groups := n.groups
  role := n.role

variable {n n' : Node} {id : String} {v v' : Network} {now : Int}

theorem Node.eq_of_profile {β : Type} (f : Node → β) (hf : ∀ n, f n.profile = f n) (h : n'.profile = n.profile) :
    f n' = f n := by rw [← hf, h, hf]

/-- All that the configs of a network read of its nodes. -/
def Node.visible (n : Node) : Node :=
  { n.outward with groups := n.groups }

/-- Nothing changed that the configs of the network read of nodes and revocations. -/
structure Unseen (s s' : State) (w : Network) : Prop where
  profile : ∀ id m m', findNode s id = some m → m.networkID = w.id → findNode s' id = some m' →
    m'.profile = m.profile
  shown : shownNodes s' w = shownNodes s w
  revocations : networkRevocations s' w.id = networkRevocations s w.id

theorem Unseen.ofVisible (hn : s'.nodes.map Node.visible = s.nodes.map Node.visible)
    (hr : s'.revocations = s.revocations) (w : Network) : Unseen s s' w := by
  refine ⟨fun id m m' hm _ hm' => ?_, ?_, by rw [networkRevocations, hr, networkRevocations]⟩
  · have hlookup : (findNode s' id).map Node.visible = (findNode s id).map Node.visible :=
      Keyed.lookup_map_congr (fun _ => (rfl : Node.id _ = _)) hn
    rw [hm, hm', Option.map_some, Option.map_some, Option.some.injEq] at hlookup
    have key : ∀ n : Node, n.visible.profile = n.profile := fun _ => rfl
    rw [← key m', hlookup, key]
  · have key : ∀ t : State, shownNodes t w = (t.nodes.map Node.visible).filterMap (Node.shown w) := by
      intro t
      rw [List.filterMap_map]
      rfl
    rw [key, key, hn]

theorem Unseen.ofEq (hn : s'.nodes = s.nodes) (hr : s'.revocations = s.revocations) (w : Network) :
    Unseen s s' w := .ofVisible (by rw [hn]) hr w

/-- One node was replaced by another with its identifier. -/
theorem Unseen.ofPut (hd : (s.nodes.map Node.id).Nodup) (hput : s'.nodes = Keyed.put Node.id n' s.nodes)
    (hn : findNode s n.id = some n) (hid : n'.id = n.id)
    (hprofile : n.networkID = w.id → n'.profile = n.profile) (hshown : n'.shown w = n.shown w)
    (hr : networkRevocations s' w.id = networkRevocations s w.id) : Unseen s s' w := by
  refine ⟨fun id m m' hm hw hm' => ?_, ?_, hr⟩
  · by_cases hk : id = n.id
    · subst hk
      rw [findNode_put_self hput hn hid, Option.some.injEq] at hm'
      rw [hn, Option.some.injEq] at hm
      subst hm hm'
      exact hprofile hw
    · rw [findNode, hput, Keyed.lookup_put_ne (by rw [hid]; exact hk)] at hm'
      rw [findNode, hm', Option.some.injEq] at hm
      rw [hm]
  · unfold shownNodes
    rw [hput]
    refine Keyed.filterMap_put fun y hy hk => ?_
    have : y = n := Keyed.eq_of_key_eq hd hy (mem_of_findNode hn) (hk.trans hid)
    rw [this, hshown]

/-- The replaced node belongs to another network. -/
theorem Unseen.ofPutElsewhere (hd : (s.nodes.map Node.id).Nodup)
    (hput : s'.nodes = Keyed.put Node.id n' s.nodes) (hn : findNode s n.id = some n) (hid : n'.id = n.id)
    (hnet : n.networkID ≠ w.id) (hnet' : n'.networkID = n.networkID)
    (hr : networkRevocations s' w.id = networkRevocations s w.id) : Unseen s s' w :=
  .ofPut hd hput hn hid (fun h => absurd h hnet)
    (by rw [Node.shown_of_ne hnet, Node.shown_of_ne (by rw [hnet']; exact hnet)]) hr

theorem Unseen.trans {t : State} (h : Unseen s t w) (h' : Unseen t s' w)
    (hkept : ∀ id m, findNode s id = some m → ∃ m', findNode t id = some m') : Unseen s s' w := by
  refine ⟨fun id m m' hm hw hm' => ?_, h'.shown.trans h.shown, h'.revocations.trans h.revocations⟩
  obtain ⟨m₁, hm₁⟩ := hkept id m hm
  have hp := h.profile id m m₁ hm hw hm₁
  have hw₁ : m₁.networkID = w.id := (Node.eq_of_profile Node.networkID (fun _ => rfl) hp).trans hw
  exact (h'.profile id m₁ m' hm₁ hw₁ hm').trans hp

/-- Nodes that show nothing to the network are gone. -/
theorem Unseen.ofFilter (hv : ValidGraph s) {p : Node → Bool} (hnodes : s'.nodes = s.nodes.filter p)
    (hgone : ∀ n ∈ s.nodes, p n = false → n.shown w = none)
    (hr : networkRevocations s' w.id = networkRevocations s w.id) : Unseen s s' w := by
  refine ⟨fun id m m' hm _ hm' => ?_, ?_, hr⟩
  · have hmem : m' ∈ s.nodes := by
      have := mem_of_findNode hm'
      rw [hnodes] at this
      exact List.mem_of_mem_filter this
    rw [hv.findNode_iff.mpr ⟨hmem, findNode_id hm'⟩, Option.some.injEq] at hm
    rw [hm]
  · unfold shownNodes
    rw [hnodes, List.filterMap_filter]
    refine List.filterMap_congr fun n hn => ?_
    cases hp : p n with
    | true => rfl
    | false => exact (hgone n hn hp).symm

theorem lookup_append_of_some {α κ : Type} [DecidableEq κ] {key : α → κ} {k : κ} {xs ys : List α} {x : α}
    (h : Keyed.lookup key k xs = some x) : Keyed.lookup key k (xs ++ ys) = some x := by
  rw [Keyed.lookup, List.find?_append]
  rw [Keyed.lookup] at h
  rw [h]
  rfl

/-- Pending nodes were added. -/
theorem Unseen.append {t : State} (hu : Unseen s t w) {created : List Node}
    (hnodes : s'.nodes = t.nodes ++ created) (hc : ∀ n ∈ created, n.status = .pending)
    (hkept : ∀ id m, findNode s id = some m → ∃ m', findNode t id = some m')
    (hr : networkRevocations s' w.id = networkRevocations s w.id) : Unseen s s' w := by
  refine ⟨fun id m m' hm hw hm' => ?_, ?_, hr⟩
  · obtain ⟨m₁, hm₁⟩ := hkept id m hm
    have : findNode s' id = some m₁ := by
      rw [findNode, hnodes]
      exact lookup_append_of_some hm₁
    rw [hm', Option.some.injEq] at this
    exact this ▸ hu.profile id m m₁ hm hw hm₁
  · have hnone : created.filterMap (Node.shown w) = [] := by
      rw [List.filterMap_eq_nil_iff]
      exact fun n hn => Node.shown_pending (hc n hn)
    rw [← hu.shown, shownNodes, hnodes, List.filterMap_append, hnone, List.append_nil, shownNodes]

/-! ## Networks whose configs stay the same -/

/-- The settings that rendering reads, and the routes that certificates must carry. -/
structure SameSettings (s : State) (w w' : Network) : Prop where
  id : w'.id = w.id
  cidr : w'.cidr = w.cidr
  dns : w'.dnsSettings = w.dnsSettings
  relays : w'.relaySettings = w.relaySettings
  rollout : w'.firewallRollout = w.firewallRollout
  policy : w'.firewallPolicy = w.firewallPolicy
  policies : w'.routePolicies = w.routePolicies
  port : w'.listenPort = w.listenPort
  subnets : ∀ n ∈ s.nodes, n.networkID = w.id →
    certificateRoutedSubnets w' n = certificateRoutedSubnets w n

theorem SameSettings.refl (s : State) (w : Network) : SameSettings s w w :=
  ⟨rfl, rfl, rfl, rfl, rfl, rfl, rfl, rfl, fun _ _ _ => rfl⟩

theorem sameView_of_unseen (hv : ValidGraph s) (hv' : ValidGraph s') (hn : findNode s id = some n)
    (hn' : findNode s' id = some n') (hw : findNetwork s n.networkID = some w)
    (hw' : findNetwork s' n.networkID = some w') (hu : Unseen s s' w) (hs : SameSettings s w w') :
    SameView s s' w w' n n' := by
  have hnet : n.networkID = w.id := (findNetwork_id hw).symm
  have hp : n'.profile = n.profile := hu.profile id n n' hn hnet hn'
  have hnodeID : n'.id = n.id := Node.eq_of_profile Node.id (fun _ => rfl) hp
  refine ⟨hs.id, hs.cidr, hs.dns, hs.relays, hs.rollout, hs.policy, hs.policies, hs.port, hnodeID,
    Node.eq_of_profile Node.networkID (fun _ => rfl) hp, Node.eq_of_profile Node.ip (fun _ => rfl) hp,
    Node.eq_of_profile Node.role (fun _ => rfl) hp, Node.eq_of_profile Node.groups (fun _ => rfl) hp, ?_,
    hu.shown, hu.revocations, ?_⟩
  · rw [Node.eq_of_profile (certificateRoutedSubnets w') (fun _ => rfl) hp]
    exact hs.subnets n (mem_of_findNode hn) hnet
  · intro r hr hpeer
    have hpolicy : firewallPolicyForNode w' n' = firewallPolicyForNode w n := by
      simp only [firewallPolicyForNode, hs.rollout, hs.policy, hnodeID]
    obtain ⟨m, hm, hmnet⟩ := nodeInNetwork_eq_true.mp
      (hv.policyReferences (mem_of_findNetwork hw) n r hr hpeer)
    obtain ⟨m', hm', -⟩ := nodeInNetwork_eq_true.mp
      (hv'.policyReferences (mem_of_findNetwork hw') n' r (by rw [hpolicy]; exact hr) hpeer)
    rw [hm, hm', Option.map_some, Option.map_some,
      Node.eq_of_profile (fun m => (m.networkID, m.ip)) (fun _ => rfl) (hu.profile _ m m' hm hmnet hm')]

/-! ## Networks before and after -/

theorem findNetwork_eq_of_networks (hnets : s'.networks = s.networks) (hw : findNetwork s w.id = some w)
    (hw' : findNetwork s' w.id = some w') : w' = w := by
  rw [findNetwork, hnets] at hw'
  rw [findNetwork, hw', Option.some.injEq] at hw
  exact hw

/-- After a network was replaced, a network is the new one or was not the replaced one. -/
theorem findNetwork_put (hput : s'.networks = Keyed.put Network.id v' s.networks) (hid : v'.id = v.id)
    (hv : findNetwork s v.id = some v) (hw : findNetwork s w.id = some w) (hw' : findNetwork s' w.id = some w') :
    (w = v ∧ w' = v') ∨ (w.id ≠ v.id ∧ w' = w) := by
  by_cases hk : w.id = v.id
  · rw [hk, hv, Option.some.injEq] at hw
    rw [hk, findNetwork_put_self hput hv hid, Option.some.injEq] at hw'
    exact .inl ⟨hw.symm, hw'.symm⟩
  · rw [findNetwork, hput, Keyed.lookup_put_ne (by rw [hid]; exact hk)] at hw'
    rw [findNetwork, hw', Option.some.injEq] at hw
    exact .inr ⟨hk, hw⟩

/-- A change of the network's configs comes with a new revision. -/
def Announced (s s' : State) (w w' : Network) : Prop :=
  w.configRevision < w'.configRevision ∨ (Unseen s s' w ∧ SameSettings s w w')

theorem Announced.ofSame (hnets : s'.networks = s.networks) (hu : Unseen s s' w)
    (hw : findNetwork s w.id = some w) (hw' : findNetwork s' w.id = some w') : Announced s s' w w' := by
  rw [findNetwork_eq_of_networks hnets hw hw']
  exact .inr ⟨hu, .refl s w⟩

/-- One network was replaced: it is announced, and the others do not see what happened. -/
theorem Announced.ofPut (hv : findNetwork s v.id = some v)
    (hput : s'.networks = Keyed.put Network.id v' s.networks) (hid : v'.id = v.id) (hself : Announced s s' v v')
    (hother : w.id ≠ v.id → Unseen s s' w) (hw : findNetwork s w.id = some w)
    (hw' : findNetwork s' w.id = some w') : Announced s s' w w' := by
  obtain ⟨rfl, rfl⟩ | ⟨hne, rfl⟩ := findNetwork_put hput hid hv hw hw'
  · exact hself
  · exact .inr ⟨hother hne, .refl s _⟩

theorem Announced.raised (h : v'.configRevision = v.configRevision + 1) : Announced s s' v v' := .inl (by omega)

/-! ## Effects -/

theorem NetworkStep.networkID (h : NetworkStep s w w') : w'.id = w.id := by
  cases h with
  | settings hcore => exact Network.id_of_core hcore
  | rotation => rfl
  | @transfer _ _ bump => cases bump <;> rfl
  | @edit _ _ bump => cases bump <;> rfl

section Steps

variable (hv : ValidGraph s) (hc : Current s) (hv' : ValidGraph s') (hc' : Current s')
include hv hc hv' hc'

/-- No change of routes is being prepared, neither before nor after. -/
theorem sameSubnets_of_settled (hnodes : s'.nodes = s.nodes) (hw : w ∈ s.networks) (hw' : w' ∈ s'.networks)
    (ht : w.routeTransfer.phase ≠ .preparingTarget) (he : w.routeProfileEdit.phase ≠ .preparingOwner)
    (ht' : w'.routeTransfer.phase ≠ .preparingTarget) (he' : w'.routeProfileEdit.phase ≠ .preparingOwner) :
    ∀ n ∈ s.nodes, certificateRoutedSubnets w' n = certificateRoutedSubnets w n := by
  intro n hn
  rw [hv.certificateRoutedSubnets_eq hc hw hn ht he,
    hv'.certificateRoutedSubnets_eq hc' hw' (by rw [hnodes]; exact hn) ht' he']

theorem TransferStep.announced {r : NetworkRouteTransfer} {bump : Bool} (hnodes : s'.nodes = s.nodes)
    (hrevs : s'.revocations = s.revocations) (hw : w ∈ s.networks)
    (hw' : ({ w with routeTransfer := r }.bumped bump now) ∈ s'.networks) (h : TransferStep s w now r bump) :
    Announced s s' w ({ w with routeTransfer := r }.bumped bump now) := by
  have hidle : routeTransferActive w.routeTransfer = true → w.routeProfileEdit.phase ≠ .preparingOwner := by
    intro ha hp
    have := hv.not_both_active hc hw ha
    simp [routeProfileEditActive, hp] at this
  cases h with
  | started => exact .raised rfl
  | cancelledEarly => exact .raised rfl
  | cancellationStarted => exact .raised rfl
  | cancelled _ hp =>
    have he := hidle (by simp [routeTransferActive, hp])
    exact .inr ⟨.ofEq hnodes hrevs w, rfl, rfl, rfl, rfl, rfl, rfl, rfl, rfl, fun n hn _ =>
      sameSubnets_of_settled hv hc hv' hc' hnodes hw hw' (by rw [hp]; decide) he (by rintro ⟨⟩) he n hn⟩
  | completed _ hp =>
    have he := hidle (by simp [routeTransferActive, hp])
    exact .inr ⟨.ofEq hnodes hrevs w, rfl, rfl, rfl, rfl, rfl, rfl, rfl, rfl, fun n hn _ =>
      sameSubnets_of_settled hv hc hv' hc' hnodes hw hw' (by rw [hp]; decide) he (by rintro ⟨⟩) he n hn⟩

theorem EditStep.announced {e : NetworkRouteProfileEdit} {bump : Bool} (hnodes : s'.nodes = s.nodes)
    (hrevs : s'.revocations = s.revocations) (hw : w ∈ s.networks)
    (hw' : ({ w with routeProfileEdit := e }.bumped bump now) ∈ s'.networks) (h : EditStep s w now e bump) :
    Announced s s' w ({ w with routeProfileEdit := e }.bumped bump now) := by
  have hidle : routeProfileEditActive w.routeProfileEdit = true →
      w.routeTransfer.phase ≠ .preparingTarget := by
    intro ha hp
    rw [hv.not_both_active hc hw (by simp [routeTransferActive, hp])] at ha
    cases ha
  cases h with
  | started => exact .raised rfl
  | cancelledEarly => exact .raised rfl
  | cancellationStarted => exact .raised rfl
  | cancelled _ hp =>
    have ht := hidle (by simp [routeProfileEditActive, hp])
    exact .inr ⟨.ofEq hnodes hrevs w, rfl, rfl, rfl, rfl, rfl, rfl, rfl, rfl, fun n hn _ =>
      sameSubnets_of_settled hv hc hv' hc' hnodes hw hw' ht (by rw [hp]; decide) ht (by rintro ⟨⟩) n hn⟩
  | completed _ hp =>
    have ht := hidle (by simp [routeProfileEditActive, hp])
    exact .inr ⟨.ofEq hnodes hrevs w, rfl, rfl, rfl, rfl, rfl, rfl, rfl, rfl, fun n hn _ =>
      sameSubnets_of_settled hv hc hv' hc' hnodes hw hw' ht (by rw [hp]; decide) ht (by rintro ⟨⟩) n hn⟩

theorem NetworkStep.announced (hnodes : s'.nodes = s.nodes) (hrevs : s'.revocations = s.revocations)
    (hw : w ∈ s.networks) (hw' : w' ∈ s'.networks) (h : NetworkStep s w w') : Announced s s' w w' := by
  cases h with
  | settings _ hrev => exact .raised hrev
  | rotation => exact .raised rfl
  | transfer ht => exact ht.announced hv hc hv' hc' hnodes hrevs hw hw'
  | edit he => exact he.announced hv hc hv' hc' hnodes hrevs hw hw'

end Steps

theorem map_visible_of_core {nodes : List Node} (h : nodes.map Node.core = s.nodes.map Node.core) :
    nodes.map Node.visible = s.nodes.map Node.visible := by
  have key : ∀ ns : List Node, ns.map Node.visible = (ns.map Node.core).map Node.visible := by
    intro ns
    rw [List.map_map]
    rfl
  rw [key, h, ← key]

/-- An active node shows the same after its certificate was replaced. -/
theorem Node.shown_of_active (h : n.status = .active) (h' : n'.status = .active)
    (ho : { n'.outward with certificateFingerprint := "" } =
      { n.outward with certificateFingerprint := "" }) : n'.shown w = n.shown w := by
  have key : ∀ m : Node, m.status = .active →
      m.shown w = Node.shown w { m.outward with certificateFingerprint := "" } := by
    intro m hm
    simp [Node.shown, Node.outward, hm]
  rw [key n' h', ho, ← key n h]

theorem networkRevocations_filter {p : CertificateRevocation → Bool}
    (hrevs : s'.revocations = s.revocations.filter p)
    (hgone : ∀ r ∈ s.revocations, p r = false → r.networkID ≠ w.id) :
    networkRevocations s' w.id = networkRevocations s w.id := by
  unfold networkRevocations
  rw [hrevs, List.filter_filter]
  congr 1
  refine List.filter_congr fun r hr => ?_
  cases hp : p r with
  | true => simp
  | false => simp [hgone r hr hp]

theorem networkRevocations_append {extra : List CertificateRevocation}
    (hrevs : s'.revocations = s.revocations ++ extra) (hextra : ∀ r ∈ extra, r.networkID ≠ w.id) :
    networkRevocations s' w.id = networkRevocations s w.id := by
  have hnone : (extra.filter fun r => r.networkID = w.id) = [] := by
    simpa [List.filter_eq_nil_iff] using hextra
  rw [networkRevocations, hrevs, List.filter_append, hnone, List.append_nil, networkRevocations]

theorem networkRevocations_eq (hrevs : s'.revocations = s.revocations) (id : String) :
    networkRevocations s' id = networkRevocations s id := by
  rw [networkRevocations, hrevs, networkRevocations]

/-- A pending node that became active without being a lighthouse, a relay or a gateway. -/
theorem enrolledNode_shown {request : EnrollRequest} {ca : String} {c : SignedCertificate} {renewAfter : Int}
    (hl : ¬ (n.role = .lighthouse ∨ n.routedSubnets ≠ [])) (hrelay : n.id ∉ v.relaySettings.relayNodeIDs) :
    (enrolledNode s request ca c renewAfter now n).shown v = none := by
  rw [not_or, not_not] at hl
  simp [Node.shown, enrolledNode, withCertificate, hl.1, hl.2, hrelay]

theorem enrolledNetwork_id (t : State) (n : Node) (now : Int) (v : Network) :
    (enrolledNetwork t n now v).id = v.id := by
  simp only [enrolledNetwork]
  split_ifs <;> rfl

section Effects

variable {inputs : Inputs} {new : Option (Flight × Issued)}

theorem findNode_putNode {m : Node} (hm : findNode s id = some m) : ∃ m', findNode (putNode s n) id = some m' := by
  rw [← Option.isSome_iff_exists, findNode, Keyed.lookup_isSome]
  have hkeys : id ∈ (putNode s n).nodes.map Node.id := by
    rw [putNode, Keyed.map_key_put]
    exact List.mem_map.mpr ⟨m, mem_of_findNode hm, findNode_id hm⟩
  simpa using hkeys

/-- Routes moved between two nodes of another network. -/
theorem unseen_of_promotion (hd : (s.nodes.map Node.id).Nodup) {r : NetworkRouteTransfer}
    {source target : Node} (hnodes : s'.nodes = (promoteOwnership s r source target).nodes)
    (hrevs : s'.revocations = s.revocations) (hsource : findNode s source.id = some source)
    (htarget : findNode s target.id = some target) (hdistinct : source.id ≠ target.id) (hsn : source.networkID ≠ w.id)
    (htn : target.networkID ≠ w.id) : Unseen s s' w := by
  have hfirst : Unseen s (putNode s { target with
      routedSubnets := mergeSubnets r.targetOriginalSubnets r.routedSubnets }) w :=
    .ofPutElsewhere hd rfl htarget rfl htn rfl rfl
  refine hfirst.trans ?_ fun id m hm => findNode_putNode hm
  refine .ofPutElsewhere ?_ hnodes (n := source) ?_ rfl hsn rfl (networkRevocations_eq hrevs _)
  · rw [putNode, Keyed.map_key_put]
    exact hd
  · have hne : source.id ≠ ({ target with
        routedSubnets := mergeSubnets r.targetOriginalSubnets r.routedSubnets } : Node).id := hdistinct
    exact (Keyed.lookup_put_ne hne).trans hsource

/-- An enrollment that no config shows, or that raises the revision of its network. -/
theorem Announced.enrolled (hv : ValidGraph s) (hc : Current s) (hv' : ValidGraph s') (hc' : Current s')
    (hput : s'.nodes = Keyed.put Node.id n' s.nodes) (hrevs : s'.revocations = s.revocations)
    (hnets : s'.networks = Keyed.put Network.id (enrolledNetwork (putNode s n') n' now v) s.networks)
    (hn : findNode s n.id = some n) (hpending : n.status = .pending) (hprofile : n'.profile = n.profile)
    (hvn : findNetwork s v.id = some v)
    (hquiet : ¬ (n'.role = .lighthouse ∨ n'.routedSubnets ≠ []) → n'.shown v = none) :
    Announced s s' v (enrolledNetwork (putNode s n') n' now v) := by
  have hself := findNetwork_put_self hnets hvn (enrolledNetwork_id _ _ _ _)
  by_cases hl : n'.role = .lighthouse ∨ n'.routedSubnets ≠ []
  · have hrev : (enrolledNetwork (putNode s n') n' now v).configRevision = inc64 v.configRevision := by
      simp only [enrolledNetwork, if_pos hl]
      rfl
    have hpos := (hv'.networkRecord hc' (mem_of_findNetwork hself)).revision
    rw [hrev] at hpos
    exact .raised (hrev.trans (inc64_eq hpos))
  · have hid : n'.id = n.id := Node.eq_of_profile Node.id (fun _ => rfl) hprofile
    have hshown : n'.shown v = n.shown v := by rw [hquiet hl, Node.shown_pending hpending]
    have hunseen : ∀ t : State, t.nodes = Keyed.put Node.id n' s.nodes → t.revocations = s.revocations →
        Unseen s t v := fun t hnodes hr =>
      .ofPut hv.nodeIDs hnodes hn hid (fun _ => hprofile) hshown (networkRevocations_eq hr _)
    have howners := activeRouteOwners_congr (hunseen (putNode s n') rfl rfl).shown
    have hsame : enrolledNetwork (putNode s n') n' now v = v := by
      simp only [enrolledNetwork, if_neg hl]
      refine reconcile_eq_self hv hc (mem_of_findNetwork hvn) fun subnet => ?_
      have key : ∀ ns : List Node, ns.map Node.id = (ns.map ownerKey).map Prod.fst := by
        intro ns
        rw [List.map_map]
        rfl
      rw [key, howners subnet, ← key]
    rw [hsame]
    exact .inr ⟨hunseen s' hput hrevs, .refl s v⟩

theorem Effect.announced (hv : ValidGraph s) (hc : Current s) (hv' : ValidGraph s')
    (h : Effect inputs s s' new)
    (hfp : ∀ n ∈ s.nodes, n.enrolledAt = none → n.certificateFingerprint = "")
    (hnet : ∀ f x n, new = some (.enroll f, x) → findNode s f.node.id = some n → n.networkID = f.network.id)
    (hrelay : ∀ f x n v, new = some (.enroll f, x) → findNode s f.node.id = some n →
      findNetwork s f.network.id = some v → n.id ∈ v.relaySettings.relayNodeIDs →
      n.role = .lighthouse ∨ n.routedSubnets ≠ [])
    (hw : findNetwork s w.id = some w) (hw' : findNetwork s' w.id = some w') : Announced s s' w w' := by
  have hc' : Current s' := h.version.trans hc
  have hd := hv.nodeIDs
  cases h with
  | touched hr hcore =>
    exact .ofSame hr.networks (.ofVisible (by rw [hr.nodes, map_visible_of_core hcore]) hr.revocations w)
      hw hw'
  | @reported _ n n' v _ _ _ hr hn _ hvn hcore _ _ _ _ _ hnets =>
    have hid := (SameIdentity.of_core hcore).id
    have hu : ∀ u, Unseen s s' u := fun u => by
      refine .ofPut hd hr.nodes hn hid (fun _ => ?_) ?_ (networkRevocations_eq hr.revocations _)
      · exact Node.eq_of_core Node.profile (fun _ => rfl) hcore
      · exact Node.eq_of_core (Node.shown u) (fun _ => rfl) hcore
    rcases hnets with hsame | ⟨v', hcore', hrev, hput⟩
    · exact .ofSame (hr.networks.trans hsame) (hu w) hw hw'
    · exact .ofPut (findNetwork_self hvn) (hr.networks.trans hput) (Network.id_of_core hcore') (.raised hrev)
        (fun _ => hu w) hw hw'
  | renewalClaimed hr hn =>
    exact .ofSame hr.networks (.ofPut hd hr.nodes hn rfl (fun _ => rfl) rfl
      (networkRevocations_eq hr.revocations _)) hw hw'
  | renewalReleased hr =>
    refine .ofSame hr.networks (.ofVisible ?_ hr.revocations w) hw hw'
    rw [hr.nodes, releaseRenewalClaim, List.map_map]
    refine List.map_congr_left fun n _ => ?_
    simp only [Function.comp]
    split_ifs <;> rfl
  | enrollmentClaimed hr => exact .ofSame hr.networks (.ofEq hr.nodes hr.revocations w) hw hw'
  | enrollmentReleased hr => exact .ofSame hr.networks (.ofEq hr.nodes hr.revocations w) hw hw'
  | reissued hr => exact .ofSame hr.networks (.ofEq hr.nodes hr.revocations w) hw hw'
  | networkCreated hr =>
    have hsame : findNetwork s' w.id = some w := by
      rw [findNetwork, hr.networks]
      exact lookup_append_of_some hw
    rw [hw', Option.some.injEq] at hsame
    rw [hsame]
    exact .inr ⟨.ofEq hr.nodes hr.revocations w, .refl s w⟩
  | @networkRetired networkID hr =>
    have hne : w.id ≠ networkID := by
      rintro rfl
      rw [findNetwork, hr.networks, Keyed.lookup_drop_self] at hw'
      cases hw'
    have hsame : w' = w := by
      rw [findNetwork, hr.networks, Keyed.lookup_drop_ne hne] at hw'
      exact Option.some.inj (hw'.symm.trans hw)
    have hrevs : networkRevocations s' w.id = networkRevocations s w.id :=
      networkRevocations_filter hr.revocations fun r _ hp => by
        simp only [decide_eq_false_iff_not, not_not] at hp
        rw [hp]
        exact hne.symm
    rw [hsame]
    refine .inr ⟨.ofFilter hv hr.nodes (fun n _ hp => Node.shown_of_ne ?_) hrevs, .refl s w⟩
    simp only [decide_eq_false_iff_not, not_not] at hp
    rw [hp]
    exact hne.symm
  | nodeCreated hr hnew =>
    refine .ofSame hr.networks (.append (Unseen.ofEq (rfl : s.nodes = s.nodes) rfl w) hr.nodes (fun n hn => ?_)
      (fun id m hm => ⟨m, hm⟩) (networkRevocations_eq hr.revocations _)) hw hw'
    rw [List.mem_singleton.mp hn]
    exact hnew.status
  | @nodeCancelled n v v' hr hn hpending hvn hcore hstep =>
    have hu : ∀ u, Unseen s s' u := fun u =>
      .ofFilter hv hr.nodes (fun m hm hp => by
        simp only [decide_eq_false_iff_not, not_not] at hp
        have : m = n := Keyed.eq_of_key_eq hd hm (mem_of_findNode hn) hp
        rw [this]
        exact Node.shown_pending hpending) (networkRevocations_eq hr.revocations _)
    refine .ofPut (findNetwork_self hvn) hr.networks (Network.id_of_core hcore) ?_ (fun _ => hu w) hw hw'
    rcases hstep with rfl | hrev
    · exact .inr ⟨hu v', .refl s v'⟩
    · exact .raised hrev
  | @nodeArchived n v v' _ hr hn hrevoked hvn hcore hstep =>
    have hvid := findNetwork_id hvn
    have hother : ∀ u : Network, (n.networkID ≠ u.id ∨
        (n.certificateFingerprint = "" ∧ ∀ r ∈ s.revocations, r.nodeID ≠ n.id)) → Unseen s s' u := by
      intro u hu
      refine .ofFilter hv hr.nodes (fun m hm hp => ?_) (networkRevocations_filter hr.revocations ?_)
      · simp only [decide_eq_false_iff_not, not_not] at hp
        have : m = n := Keyed.eq_of_key_eq hd hm (mem_of_findNode hn) hp
        rw [this]
        rcases hu with hne | ⟨hempty, -⟩
        · exact Node.shown_of_ne hne
        · simp [Node.shown, hrevoked, hempty]
      · intro r hrm hp
        simp only [decide_eq_false_iff_not, not_not] at hp
        rcases hu with hne | ⟨-, hnone⟩
        · obtain ⟨m, hm, hmnet⟩ := hv.revocationNode hrm
          rw [hp, hn, Option.some.injEq] at hm
          rw [← hmnet, ← hm]
          exact hne
        · exact absurd hp (hnone r hrm)
    refine .ofPut (findNetwork_self hvn) hr.networks (Network.id_of_core hcore) ?_
      (fun hne => hother w (.inl (by rw [← hvid]; exact hne.symm))) hw hw'
    rcases hstep with ⟨rfl, hunenrolled, hnone⟩ | hrev
    · exact .inr ⟨hother v' (.inr ⟨hfp n (mem_of_findNode hn) hunenrolled, hnone⟩), .refl s v'⟩
    · exact .raised hrev
  | networkChanged hr hvn hstep =>
    have hself := findNetwork_put_self hr.networks hvn hstep.networkID
    exact .ofPut hvn hr.networks hstep.networkID
      (hstep.announced hv hc hv' hc' hr.nodes hr.revocations (mem_of_findNetwork hvn)
        (mem_of_findNetwork hself)) (fun _ => .ofEq hr.nodes hr.revocations w) hw hw'
  | @transferPromoted v source target _ hr hvn hphase hsource htarget =>
    obtain ⟨source', target', ho⟩ := hv.transferOwners hc (mem_of_findNetwork hvn)
      (by simp [routeTransferActive, hphase])
    have hs := ho.sourceFound
    have ht := ho.targetFound
    rw [hsource, Option.some.injEq] at hs
    rw [htarget, Option.some.injEq] at ht
    subst hs ht
    refine .ofPut hvn hr.networks rfl (.raised rfl) (fun hne => ?_) hw hw'
    -- both participants belong to the network of the transfer
    exact unseen_of_promotion hd hr.nodes hr.revocations (findNode_self hsource) (findNode_self htarget)
      (by rw [findNode_id hsource, findNode_id htarget]; exact ho.distinct)
      (by rw [ho.sourceNetwork]; exact hne.symm) (by rw [ho.targetNetwork]; exact hne.symm)
  | editPromoted hr hvn hphase hn =>
    obtain ⟨m, hm⟩ := hv.editOwner hc (mem_of_findNetwork hvn) (by simp [routeProfileEditActive, hphase])
    have howner := hm.owner
    rw [hn, Option.some.injEq] at howner
    subst howner
    exact .ofPut hvn hr.networks rfl (.raised rfl) (fun hne =>
      .ofPutElsewhere hd hr.nodes (findNode_self hn) rfl (by rw [hm.network]; exact hne.symm) rfl
        (networkRevocations_eq hr.revocations _)) hw hw'
  | editNarrowed hr hvn hn howner =>
    exact .ofPut hvn hr.networks rfl (.raised rfl) (fun hne =>
      .ofPutElsewhere hd hr.nodes hn rfl (by rw [howner]; exact hne.symm) rfl
        (networkRevocations_eq hr.revocations _)) hw hw'
  | @enrolled f c n v e renewAfter now hr hn hpending hvn =>
    have hnetwork : n.networkID = v.id := (hnet f _ n rfl hn).trans (findNetwork_id hvn).symm
    refine .ofPut (findNetwork_self hvn) hr.networks (enrolledNetwork_id _ _ _ _) ?_ (fun hne =>
      .ofPutElsewhere hd hr.nodes (findNode_self hn) rfl (by rw [hnetwork]; exact hne.symm) rfl
        (networkRevocations_eq hr.revocations _)) hw hw'
    refine .enrolled hv hc hv' hc' hr.nodes hr.revocations hr.networks (findNode_self hn) hpending rfl
      (findNetwork_self hvn) fun hl => enrolledNode_shown hl fun hmem => ?_
    exact hl (hrelay f _ n v rfl hn hvn hmem)
  | renewed hr hn hactive =>
    exact .ofSame hr.networks (.ofPut hd hr.nodes (findNode_self hn) rfl (fun _ => rfl)
      (Node.shown_of_active hactive hactive rfl) (networkRevocations_eq hr.revocations _)) hw hw'
  | replaced hr _ hn _ hvn =>
    have hvid := findNetwork_id hvn
    exact .ofPut (findNetwork_self hvn) hr.networks rfl (.raised rfl) (fun hne =>
      .ofPutElsewhere hd hr.nodes (findNode_self hn) rfl (by rw [← hvid]; exact hne.symm) rfl
        (networkRevocations_append hr.revocations fun r hrm => by
          rw [List.mem_singleton.mp hrm, ← hvid]
          exact hne.symm)) hw hw'
  | @revoked n v v' created _ _ now hr hn _ hvn hcore hrev _ _ _ hcreated hrevs =>
    have hvid := findNetwork_id hvn
    refine .ofPut (findNetwork_self hvn) hr.networks (Network.id_of_core hcore) (.raised hrev)
      (fun hne => ?_) hw hw'
    obtain ⟨extra, happ, hextra⟩ := hrevs.appended
    have hrevs' : networkRevocations s' w.id = networkRevocations s w.id :=
      networkRevocations_append (hr.revocations.trans happ) fun r hrm => by
        rw [(hextra r hrm).2.1, ← hvid]
        exact hne.symm
    have hput : Unseen s (putNode s (revokedNode now n)) w :=
      .ofPutElsewhere hd rfl hn rfl (by rw [← hvid]; exact hne.symm) rfl rfl
    refine .append hput hr.nodes (fun m hm => ?_) (fun id m hm => findNode_putNode hm) hrevs'
    obtain ⟨p, hp, rfl⟩ := List.mem_map.mp hm
    exact (hcreated p hp).1.status

end Effects

/-! ## Runs -/

/-- The config of a node that stays active changes. -/
structure ConfigChanged (s s' : State) (n n' : Node) (v v' : Network) : Prop where
  before : findNode s n.id = some n
  after : findNode s' n.id = some n'
  active : n.status = .active
  stays : n'.status = .active
  network : findNetwork s n.networkID = some v
  network' : findNetwork s' n'.networkID = some v'
  changed : renderConfig s' v' n' ≠ renderConfig s v n

/-- A pending node that others are told to relay through is about to become active, and it is neither
a lighthouse nor a gateway. -/
def EnrollsPendingRelay (w : World) (a : Action) : Prop :=
  ∃ i c eventID now f n v, a = .issue i c eventID now ∧ w.flights[i]? = some (.enroll f) ∧
    findNode w.state f.node.id = some n ∧ findNetwork w.state f.network.id = some v ∧
    n.id ∈ v.relaySettings.relayNodeIDs ∧ n.role ≠ .lighthouse ∧ n.routedSubnets = []

/-- The revisions around a change of a node's config, if it changes. -/
def configChange (s s' : State) (id : String) : Option (Int × Int) := do
  let n ← findNode s id
  let n' ← findNode s' id
  let v ← findNetwork s n.networkID
  let v' ← findNetwork s' n'.networkID
  if n.status = .active ∧ n'.status = .active ∧ renderConfig s' v' n' ≠ renderConfig s v n then
    some (v.configRevision, v'.configRevision)
  else none

theorem configChange_spec {r r' : Int} (h : configChange s s' id = some (r, r')) :
    ∃ n n' v v', ConfigChanged s s' n n' v v' ∧ v.configRevision = r ∧ v'.configRevision = r' := by
  simp only [configChange, Option.bind_eq_bind, Option.bind_eq_some_iff, Option.ite_none_right_eq_some,
    Option.some.injEq, Prod.mk.injEq] at h
  obtain ⟨n, hn, n', hn', v, hv, v', hv', ⟨ha, ha', hne⟩, hr, hr'⟩ := h
  have hid := findNode_id hn
  exact ⟨n, n', v, v', ⟨by rw [hid]; exact hn, by rw [hid]; exact hn', ha, ha', hv, hv', hne⟩, hr, hr'⟩

/-- A policy that refuses all inbound traffic. -/
def closeInbound : Action :=
  .op { eventID := "e3", now := Setting.minutes 5 }
    (.updateFirewallPolicy "w1" ⟨1, some [], some [{ proto := "any", port := "any", host := "any" }]⟩)

def policyClosed : World.Passed
    (World.playLast (stepEval.1 Setting.env) Setting.start memberRun closeInbound (fun w w' =>
      configChange w.state w'.state "n2" == some (1, 2) && w.state.nodes.length == 1 &&
        (findNetwork w.state "w1").isSome)) where
  holds := by decide +kernel

/-- A second member, which is selected as a relay before it enrolls. -/
def relayRun : List Action := memberRun ++ [
  Setting.node 5 { name := "" },
  .op { eventID := "e3", now := Setting.minutes 6 } (.updateNetworkRelays "w1" ⟨1, true, some ["n5"]⟩),
  Setting.claim 5 (Setting.minutes 7)]

/-- The two members are active and served configs of different digests. -/
def membersApart (s : State) : Bool :=
  match findNode s "n2", findNode s "n5", findNetwork s "w1" with
  | some n, some m, some v =>
    n.status = .active && n.role = .member && n.networkID = v.id && m.status = .active && m.role = .member &&
      m.networkID = v.id && configDigest (renderConfig s v n) ≠ configDigest (renderConfig s v m)
  | _, _, _ => false

def relayEnrolled : World.Passed
    (World.playLast (stepEval.1 Setting.env) Setting.start relayRun
      (.issue 0 (Setting.certificate 2) "e4" (Setting.minutes 8)) (fun w w' =>
        configChange w.state w'.state "n2" == some (2, 2) && membersApart w'.state &&
          w'.state.nodes.length == 2)) where
  holds := by decide +kernel

end Mesh
