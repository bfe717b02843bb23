import Mesh.Lib.Sorting
import Mesh.Control.Play
import Mesh.Control.Steps
import Mesh.Control.View

/-!
# Mesh.Control.LocalView

A config is rendered from the records of one network, whatever their order. Every list the renderer collects is
filtered by the network and sorted by what tells its members apart, so two valid states with the same record of
a network, the same nodes and the same revocations in it render the same configs (`renderConfig_local`): the
order of the records and all that belongs to other networks do not show.

All revocations count. The renderer knows no time, and a revocation is on the blocklist until it is removed with
the record of its node.
-/

namespace Mesh

/-- Two states hold the same records of a network, in whatever order. -/
structure SameNetwork (s t : State) (w : Network) : Prop where
  network : w ∈ s.networks
  network' : w ∈ t.networks
  nodes : ∀ n : Node, n.networkID = w.id → (n ∈ s.nodes ↔ n ∈ t.nodes)
  revocations : ∀ r : CertificateRevocation, r.networkID = w.id → (r ∈ s.revocations ↔ r ∈ t.revocations)

section Collected

variable {s t : State} {w : Network}

theorem ValidGraph.nodup (hv : ValidGraph s) : s.nodes.Nodup := hv.nodeIDs.of_map

/-- What is selected among the nodes of the network is the same up to order. -/
theorem SameNetwork.perm_filter (h : SameNetwork s t w) (hs : ValidGraph s) (ht : ValidGraph t)
    {P : Node → Bool} (hP : ∀ n, P n = true → n.networkID = w.id) :
    (s.nodes.filter P).Perm (t.nodes.filter P) := by
  rw [List.perm_ext_iff_of_nodup (hs.nodup.filter P) (ht.nodup.filter P)]
  intro n
  rw [List.mem_filter, List.mem_filter]
  exact and_congr_left fun hn => h.nodes n (hP n hn)

theorem sortStrings_eq_of_perm {xs ys : List String} (h : xs.Perm ys) : sortStrings xs = sortStrings ys :=
  Sorting.insertionSort_eq_of_perm (f := id) h fun _ _ _ _ => id

/-- A set of texts, sorted, is a function of the set. -/
theorem sortStrings_dedup_congr {xs ys : List String} (h : ∀ x, x ∈ xs ↔ x ∈ ys) :
    sortStrings xs.dedup = sortStrings ys.dedup := by
  refine sortStrings_eq_of_perm ((List.perm_ext_iff_of_nodup xs.nodup_dedup ys.nodup_dedup).mpr fun x => ?_)
  rw [List.mem_dedup, List.mem_dedup, h]

section Same

variable (h : SameNetwork s t w) (hs : ValidGraph s) (ht : ValidGraph t)
include h hs ht

theorem nativeDNSResolvers_local : nativeDNSResolvers s w = nativeDNSResolvers t w := by
  have hP : ∀ n, isActiveLighthouse w.id n = true → n.networkID = w.id := by
    intro n hn
    simp only [isActiveLighthouse, Bool.and_eq_true, beq_iff_eq] at hn
    exact hn.1.1
  unfold nativeDNSResolvers
  rw [sortStrings_eq_of_perm ((h.perm_filter hs ht hP).map Node.ip)]

theorem lighthouses_local : lighthouses s w = lighthouses t w := by
  have hP : ∀ n, (isActiveLighthouse w.id n && decide (n.publicEndpoint ≠ "")) = true → n.networkID = w.id := by
    intro n hn
    simp only [isActiveLighthouse, Bool.and_eq_true, beq_iff_eq] at hn
    exact hn.1.1.1
  refine Sorting.insertionSort_eq_of_perm (h.perm_filter hs ht hP) fun a ha b hb hip => ?_
  have hna := hP a (List.mem_filter.mp ha).2
  have hnb := hP b (List.mem_filter.mp hb).2
  by_contra hne
  have hid : a.id ≠ b.id := fun hid =>
    hne (Keyed.eq_of_key_eq hs.nodeIDs (List.mem_filter.mp ha).1 (List.mem_filter.mp hb).1 hid)
  exact hs.ip_ne_of_ne (List.mem_filter.mp ha).1 (List.mem_filter.mp hb).1 (hna.trans hnb.symm) hid hip

theorem activeRouteOwners_local (subnet : String) :
    activeRouteOwners s w.id subnet = activeRouteOwners t w.id subnet := by
  have hP : ∀ n, (liveIn w.id n && decide (subnet ∈ n.routedSubnets)) = true → n.networkID = w.id := by
    intro n hn
    simp only [liveIn, Bool.and_eq_true, beq_iff_eq] at hn
    exact hn.1.1.1
  refine Sorting.insertionSort_eq_of_perm (h.perm_filter hs ht hP) fun a ha b hb hid => ?_
  exact Keyed.eq_of_key_eq hs.nodeIDs (List.mem_filter.mp ha).1 (List.mem_filter.mp hb).1 hid

theorem ownedRoutes_local : ownedRoutes s w = ownedRoutes t w := by
  have hperm := h.perm_filter hs ht (P := fun n => n.networkID = w.id && n.status = .active) fun n hn => by
    simp only [Bool.and_eq_true, decide_eq_true_eq] at hn
    exact hn.1
  exact sortStrings_dedup_congr fun route => (hperm.flatMap_right Node.routedSubnets).mem_iff

/-- The relays are told apart by their identifiers. -/
theorem activeNetworkRelays_local : activeNetworkRelays s w = activeNetworkRelays t w := by
  have hP : ∀ n, isActiveRelay w n = true → n.networkID = w.id := by
    intro n hn
    simp only [isActiveRelay, Bool.and_eq_true, beq_iff_eq] at hn
    exact hn.1.1
  have htotal : Std.Total fun a b : NetworkRelay =>
      a.name < b.name ∨ (a.name = b.name ∧ a.nodeID ≤ b.nodeID) := ⟨fun a b => by
    rcases lt_trichotomy a.name b.name with hlt | heq | hgt
    · exact .inl (.inl hlt)
    · exact (le_total a.nodeID b.nodeID).imp (fun hle => .inr ⟨heq, hle⟩) fun hle => .inr ⟨heq.symm, hle⟩
    · exact .inr (.inl hgt)⟩
  have htrans : IsTrans NetworkRelay fun a b =>
      a.name < b.name ∨ (a.name = b.name ∧ a.nodeID ≤ b.nodeID) := ⟨fun a b c => by
    rintro (hab | ⟨hab, hid⟩) (hbc | ⟨hbc, hid'⟩)
    · exact .inl (hab.trans hbc)
    · exact .inl (hbc ▸ hab)
    · exact .inl (hab ▸ hbc)
    · exact .inr ⟨hab.trans hbc, hid.trans hid'⟩⟩
  unfold activeNetworkRelays
  by_cases henabled : w.relaySettings.enabled = true
  swap
  · rw [if_pos henabled, if_pos henabled]
  rw [if_neg (not_not.mpr henabled), if_neg (not_not.mpr henabled)]
  refine Sorting.insertionSort_perm_eq ((h.perm_filter hs ht hP).map _) fun x hx y hy hxy hyx => ?_
  obtain ⟨a, ha, rfl⟩ := List.mem_map.mp hx
  obtain ⟨b, hb, rfl⟩ := List.mem_map.mp hy
  have hid : a.id = b.id := by
    rcases hxy with hlt | ⟨heq, hle⟩
    · rcases hyx with hlt' | ⟨heq', -⟩
      · exact absurd hlt' hlt.asymm
      · exact absurd heq' hlt.ne'
    · rcases hyx with hlt' | ⟨-, hle'⟩
      · exact absurd heq hlt'.ne'
      · exact le_antisymm hle hle'
  rw [Keyed.eq_of_key_eq hs.nodeIDs (List.mem_filter.mp ha).1 (List.mem_filter.mp hb).1 hid]

/-- The revocations of the network are the same set, and those of other networks are passed over. -/
theorem blocklist_local : blocklist s w = blocklist t w := by
  have hperm := h.perm_filter hs ht
    (P := fun n => n.networkID = w.id && n.status = .revoked && n.certificateFingerprint ≠ "") fun n hn => by
      simp only [Bool.and_eq_true, decide_eq_true_eq] at hn
      exact hn.1.1
  refine sortStrings_dedup_congr fun fp => ?_
  rw [blockedFingerprints_eq hs.renderable, blockedFingerprints_eq ht.renderable, List.mem_append,
    List.mem_append, (hperm.map Node.certificateFingerprint).mem_iff]
  refine or_congr_right ?_
  simp only [networkRevocations, List.mem_map, List.mem_filter, decide_eq_true_eq]
  refine exists_congr fun r => and_congr_left fun _ => and_congr_left fun hr => h.revocations r hr

/-- A peer of the network is found in both states; a node of another network is none in either. -/
theorem compileFirewallRule_local {n : Node} (hn : n.networkID = w.id) (r : FirewallRule) :
    compileFirewallRule s n r = compileFirewallRule t n r := by
  have hfind : ∀ p : Node, p.networkID = n.networkID →
      (findNode s r.peerNodeID = some p ↔ findNode t r.peerNodeID = some p) := by
    intro p hp
    rw [hs.findNode_iff, ht.findNode_iff]
    exact and_congr_left fun _ => h.nodes p (hp.trans hn)
  have hpeer : ∀ u : State, compileFirewallRule u n r =
      if ¬ firewallRuleTargetsNode r n then none
      else if r.peerNodeID = "" then some { r with targetGroup := "", targetNodeID := "" }
      else ((findNode u r.peerNodeID).filter fun p => p.networkID = n.networkID).map fun p =>
        { r with targetGroup := "", targetNodeID := "", peerNodeID := "", host := p.ip } := by
    intro u
    unfold compileFirewallRule
    cases findNode u r.peerNodeID with
    | none => rfl
    | some p =>
      by_cases hp : p.networkID = n.networkID <;> simp [Option.filter_some, hp]
  have hsame : (findNode s r.peerNodeID).filter (fun p => p.networkID = n.networkID) =
      (findNode t r.peerNodeID).filter fun p => p.networkID = n.networkID := by
    refine Option.ext fun p => ?_
    simp only [Option.filter_eq_some_iff, decide_eq_true_eq]
    exact and_congr_left fun hp => hfind p hp
  rw [hpeer, hpeer, hsame]

theorem routedConfigEntry_local (route : String) : routedConfigEntry s w route = routedConfigEntry t w route := by
  have hg : (routedConfigEntry s w route).gateways = (routedConfigEntry t w route).gateways := by
    rw [routedConfigEntry_gateways hs.renderable, routedConfigEntry_gateways ht.renderable,
      activeRouteOwners_local h hs ht]
  calc routedConfigEntry s w route
      = ⟨route, (routedConfigEntry s w route).gateways, (effectiveRoutePolicy s w route).mtu,
          (effectiveRoutePolicy s w route).metric⟩ := rfl
    _ = routedConfigEntry t w route := by
      rw [hg]
      rfl

end Same

end Collected

/-! ## Configs -/

/-- Two valid states with the same records of a network render the same config for each of its nodes. -/
theorem renderConfig_local {s t : State} {w : Network} {n : Node} (hs : ValidGraph s) (ht : ValidGraph t)
    (h : SameNetwork s t w) (hnet : n.networkID = w.id) :
    renderConfig s w n = renderConfig t w n := by
  have hfirewall : effectiveFirewallPolicyForNode s n (firewallPolicyForNode w n) =
      effectiveFirewallPolicyForNode t n (firewallPolicyForNode w n) := by
    simp only [effectiveFirewallPolicyForNode, compileFirewallRulesForNode,
      funext (compileFirewallRule_local h hs ht hnet)]
  unfold renderConfig renderNativeDNSPolicy nativeDNSPolicyJSON renderPKI renderStaticHostMap renderLighthouse
    renderRelay renderRoutes routedEntries renderFirewall
  rw [nativeDNSResolvers_local h hs ht, blocklist_local h hs ht, lighthouses_local h hs ht,
    activeNetworkRelays_local h hs ht, ownedRoutes_local h hs ht, funext (routedConfigEntry_local h hs ht),
    hfirewall]

/-- The state with the records of one network only, and its nodes the other way round. -/
def reversedNetwork (s : State) (networkID : String) : State :=
  { s with
    networks := s.networks.filter fun w => w.id = networkID
    nodes := (s.nodes.filter fun n => n.networkID = networkID).reverse }

/-- Two nodes in a network, and another network. -/
def orderedRun : World.Passed (World.playLast (stepEval.1 Setting.env) Setting.start
    [Setting.network, Setting.node 2 { name := "" }, Setting.node 3 { name := "" }]
    (.op { eventID := "e4", now := Setting.minutes 4 } (.createNetwork ⟨"other", "10.1.0.0/24", 0, 0⟩ {
      caCertificate := "ca"
      caKey := "key"
      encryptedCAKey := Base64.encode (List.replicate 64 1)
      configSigningPublicKey := "6kpsY-KcUgq-9VB7Ey7F-ZVHdq6-vnuSQh7qaRRG0iw"
      encryptedConfigSigningKey := Base64.encode (List.replicate 92 3) } "w2")) fun _ w =>
    decide (w.state.networks.length = 2 ∧ w.state.nodes.map Node.id = ["n2", "n3"] ∧
      validateStateGraph (reversedNetwork w.state "w1") = .ok () ∧
      (w.state.networks.any fun v => v.id = "w1") ∧ w.state.nodes.any fun n => n.networkID = "w1")) where
  holds := by decide +kernel

theorem renderConfig_reversedNetwork :
    ∃ s : State, ∃ w ∈ s.networks, ∃ n ∈ s.nodes, s.networks.length = 2 ∧ s.nodes.map Node.id = ["n2", "n3"] ∧
      renderConfig s w n = renderConfig (reversedNetwork s w.id) w n := by
  obtain ⟨w₁, w₂, hr, hstep, h⟩ := World.playLast_spec Setting.start_reachable orderedRun.holds
  obtain ⟨hlength, hids, hvalid, hnetwork, hnode⟩ := of_decide_eq_true h
  simp only [List.any_eq_true, decide_eq_true_eq] at hnetwork hnode
  obtain ⟨v, hv, hid⟩ := hnetwork
  obtain ⟨n, hn, hnet⟩ := hnode
  have hs := (World.sound (.next hr hstep)).valid
  have hsame : SameNetwork w₂.state (reversedNetwork w₂.state v.id) v := {
    network := hv
    network' := List.mem_filter.mpr ⟨hv, decide_eq_true rfl⟩
    nodes := fun n hn => by simp [reversedNetwork, hn]
    revocations := fun _ _ => Iff.rfl }
  rw [← hid] at hvalid
  exact ⟨w₂.state, v, hv, n, hn, hlength, hids,
    renderConfig_local hs (validateStateGraph_eq_ok.mp hvalid) hsame (hnet.trans hid.symm)⟩

/-! ## Expired revocations -/

/-- Not expired at the instant, as the health of the fleet counts it. -/
def CertificateRevocation.Unexpired (now : Int) (r : CertificateRevocation) : Prop :=
  ∀ expires, r.expiresAt = some expires → now < expires

/-- A revocation of the second node that expired after two minutes. -/
def expiredRevocation : CertificateRevocation where
  fingerprint := String.ofList (List.replicate 64 'a')
  nodeID := "n2"
  networkID := "w1"
  revokedAt := Setting.minutes 3
  expiresAt := some (Setting.minutes 5)

def revokedRun : World.Passed (World.playLast (stepEval.1 Setting.env) Setting.start [Setting.network]
    (Setting.node 2 { name := "" }) fun _ w =>
    decide (w.state.revocations = [] ∧
      validateStateGraph { w.state with revocations := [expiredRevocation] } = .ok () ∧
      w.state.networks.any fun v => w.state.nodes.any fun n => n.networkID = v.id &&
        renderConfig w.state v n ≠ renderConfig { w.state with revocations := [expiredRevocation] } v n)) where
  holds := by decide +kernel

/-- Two valid states that differ in a revocation which has long expired render different configs. -/
theorem expired_revocation_is_rendered :
    ∃ s t : State, ∃ w ∈ s.networks, ∃ n ∈ s.nodes, n.networkID = w.id ∧ ValidGraph s ∧ ValidGraph t ∧
      t.networks = s.networks ∧ t.nodes = s.nodes ∧
      (∀ r, r.Unexpired (Setting.minutes 1000) → (r ∈ s.revocations ↔ r ∈ t.revocations)) ∧
      renderConfig s w n ≠ renderConfig t w n := by
  obtain ⟨w₁, w₂, hr, hstep, h⟩ := World.playLast_spec Setting.start_reachable revokedRun.holds
  obtain ⟨hnone, hvalid, hdiffer⟩ := of_decide_eq_true h
  simp only [List.any_eq_true, Bool.and_eq_true, decide_eq_true_eq] at hdiffer
  obtain ⟨v, hv, n, hn, hnet, hne⟩ := hdiffer
  refine ⟨w₂.state, _, v, hv, n, hn, hnet, (World.sound (.next hr hstep)).valid,
    validateStateGraph_eq_ok.mp hvalid, rfl, rfl, fun r hunexpired => ?_, hne⟩
  rw [hnone, List.mem_singleton]
  refine iff_of_false List.not_mem_nil fun hexpired => ?_
  have hnow := hunexpired (Setting.minutes 5) (by rw [hexpired]; rfl)
  exact absurd hnow (by decide)

end Mesh
