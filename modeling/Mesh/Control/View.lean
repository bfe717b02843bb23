import Mesh.Control.Graph
import Mesh.Control.Render

/-!
# Mesh.Control.View

What a config reads. The nodes of a network enter the configs of the others only through `Node.shown`:
a pending node shows nothing, a revoked one its fingerprint, and an active one its addresses if it is a
lighthouse, a relay or a gateway. `renderConfig_congr` says that the config of a node is a function of
what is shown, the settings of its network, its own identity and the routes of its certificate.
-/

namespace Mesh

/-! ## What nodes show -/

inductive Shown where
  | blocked (fingerprint : String)
  | active (id name ip : String) (role : Role) (publicEndpoint : String) (routedSubnets : List String)
      (enrolled : Bool)

def Node.shown (w : Network) (n : Node) : Option Shown :=
  if n.networkID ≠ w.id then none
  else
    match n.status with
    | .pending => none
    | .revoked => if n.certificateFingerprint = "" then none else some (.blocked n.certificateFingerprint)
    | .active =>
      if n.role = .lighthouse ∨ n.routedSubnets ≠ [] ∨ n.id ∈ w.relaySettings.relayNodeIDs then
        some (.active n.id n.name n.ip n.role n.publicEndpoint n.routedSubnets n.enrolledAt.isSome)
      else none

def shownNodes (s : State) (w : Network) : List Shown := s.nodes.filterMap (Node.shown w)

/-- The four ways in which a node is shown. -/
theorem Node.shown_cases (w : Network) (n : Node) :
    (n.networkID ≠ w.id ∧ n.shown w = none) ∨
    (n.networkID = w.id ∧ n.status = .pending ∧ n.shown w = none) ∨
    (n.networkID = w.id ∧ n.status = .revoked ∧
      n.shown w = if n.certificateFingerprint = "" then none else some (.blocked n.certificateFingerprint)) ∨
    (n.networkID = w.id ∧ n.status = .active ∧ n.shown w =
      if n.role = .lighthouse ∨ n.routedSubnets ≠ [] ∨ n.id ∈ w.relaySettings.relayNodeIDs then
        some (.active n.id n.name n.ip n.role n.publicEndpoint n.routedSubnets n.enrolledAt.isSome)
      else none) := by
  by_cases hn : n.networkID = w.id
  · have hs : n.status = .pending ∨ n.status = .revoked ∨ n.status = .active := by
      cases n.status <;> simp
    obtain hs | hs | hs := hs <;> simp [Node.shown, hn, hs]
  · exact .inl ⟨hn, if_pos hn⟩

theorem Node.shown_of_ne {w : Network} {n : Node} (h : n.networkID ≠ w.id) : n.shown w = none := if_pos h

theorem Node.shown_pending {w : Network} {n : Node} (h : n.status = .pending) : n.shown w = none := by
  obtain ⟨-, hs⟩ | ⟨-, -, hs⟩ | ⟨-, hr, -⟩ | ⟨-, hr, -⟩ := n.shown_cases w
  · exact hs
  · exact hs
  · rw [h] at hr
    cases hr
  · rw [h] at hr
    cases hr

/-- The part of a node that the other configs of its network show. -/
def Node.outward (n : Node) : Node where
  id := n.id
  networkID := n.networkID
  name := n.name
  ip := n.ip
  routedSubnets := n.routedSubnets
  role := n.role
  publicEndpoint := n.publicEndpoint
  status := n.status
  certificateFingerprint := n.certificateFingerprint
  enrolledAt := n.enrolledAt

variable {β : Type} {P : Node → Bool} {p : FirewallPolicy}

/-- A list that is collected from what nodes show. -/
theorem map_filter_eq_shown {w : Network} {f : Node → β} {k : Shown → Option β}
    (h : ∀ n, (if P n then some (f n) else none) = (n.shown w).bind k) (ns : List Node) :
    (ns.filter P).map f = (ns.filterMap (Node.shown w)).filterMap k := by
  induction ns with
  | nil => rfl
  | cons n ns ih =>
    have hn := h n
    rw [List.filter_cons, List.filterMap_cons]
    cases hs : n.shown w with
    | none =>
      rw [hs, Option.bind_none] at hn
      split at hn
      · cases hn
      · rename_i hp
        rw [if_neg hp, ih]
    | some v =>
      rw [hs, Option.bind_some] at hn
      rw [List.filterMap_cons, ← hn]
      split
      · rw [List.map_cons, ih]
      · rw [ih]

theorem flatMap_eq_shown {w : Network} {f : Node → List β} {k : Shown → List β}
    (h : ∀ n, (if P n then f n else []) = ((n.shown w).map k).getD []) (ns : List Node) :
    (ns.filter P).flatMap f = (ns.filterMap (Node.shown w)).flatMap k := by
  induction ns with
  | nil => rfl
  | cons n ns ih =>
    have hn := h n
    rw [List.filter_cons, List.filterMap_cons]
    cases hs : n.shown w with
    | none =>
      rw [hs, Option.map_none, Option.getD_none] at hn
      split
      · rename_i hp
        rw [if_pos hp] at hn
        rw [List.flatMap_cons, hn, ih, List.nil_append]
      · exact ih
    | some v =>
      rw [hs, Option.map_some, Option.getD_some] at hn
      rw [List.flatMap_cons, ← hn]
      split
      · rw [List.flatMap_cons, ih]
      · rw [ih, List.nil_append]

/-! ## What is collected from the nodes -/

section Collected

variable {s s' : State} {w : Network}

theorem nativeDNSResolvers_congr (h : shownNodes s' w = shownNodes s w) :
    nativeDNSResolvers s' w = nativeDNSResolvers s w := by
  have key : ∀ t : State, (t.nodes.filter (isActiveLighthouse w.id)).map Node.ip =
      (shownNodes t w).filterMap fun
        | .active _ _ ip role _ _ _ => if role = .lighthouse then some ip else none
        | .blocked _ => none := by
    intro t
    refine map_filter_eq_shown (fun n => ?_) t.nodes
    obtain ⟨hn, hs⟩ | ⟨hn, hst, hs⟩ | ⟨hn, hst, hs⟩ | ⟨hn, hst, hs⟩ := n.shown_cases w
    · simp [isActiveLighthouse, hn, hs]
    · simp [isActiveLighthouse, hst, hs]
    · rw [hs]
      split_ifs <;> simp_all [isActiveLighthouse]
    · rw [hs]
      split_ifs <;> simp_all [isActiveLighthouse]
  unfold nativeDNSResolvers
  rw [key, key, h]

/-- What static hosts and the lighthouse section read of a lighthouse. -/
def lighthouseKey (n : Node) : String × String × String := (n.id, n.ip, n.publicEndpoint)

theorem lighthouses_congr (h : shownNodes s' w = shownNodes s w) :
    (lighthouses s' w).map lighthouseKey = (lighthouses s w).map lighthouseKey := by
  have key : ∀ t : State, (lighthouses t w).map lighthouseKey =
      ((shownNodes t w).filterMap fun
        | .active id _ ip role endpoint _ _ =>
          if role = .lighthouse ∧ endpoint ≠ "" then some (id, ip, endpoint) else none
        | .blocked _ => none).insertionSort fun a b => a.2.1 ≤ b.2.1 := by
    intro t
    rw [lighthouses, List.map_insertionSort (fun a b : Node => a.ip ≤ b.ip)
      (fun a b : String × String × String => a.2.1 ≤ b.2.1) lighthouseKey _ (fun _ _ _ _ => Iff.rfl)]
    congr 1
    refine map_filter_eq_shown (fun n => ?_) t.nodes
    obtain ⟨hn, hs⟩ | ⟨hn, hst, hs⟩ | ⟨hn, hst, hs⟩ | ⟨hn, hst, hs⟩ := n.shown_cases w
    · simp [isActiveLighthouse, hn, hs]
    · simp [isActiveLighthouse, hst, hs]
    · rw [hs]
      split_ifs <;> simp_all [isActiveLighthouse]
    · rw [hs]
      split_ifs <;> simp_all [isActiveLighthouse, lighthouseKey]
  rw [key, key, h]

theorem activeNetworkRelays_congr (h : shownNodes s' w = shownNodes s w) :
    activeNetworkRelays s' w = activeNetworkRelays s w := by
  have key : ∀ t : State, (t.nodes.filter (isActiveRelay w)).map
      (fun n => (⟨n.id, n.name, n.ip, n.role⟩ : NetworkRelay)) =
      (shownNodes t w).filterMap fun
        | .active id name ip role _ _ _ =>
          if id ∈ w.relaySettings.relayNodeIDs then some ⟨id, name, ip, role⟩ else none
        | .blocked _ => none := by
    intro t
    refine map_filter_eq_shown (fun n => ?_) t.nodes
    obtain ⟨hn, hs⟩ | ⟨hn, hst, hs⟩ | ⟨hn, hst, hs⟩ | ⟨hn, hst, hs⟩ := n.shown_cases w
    · simp [isActiveRelay, hn, hs]
    · simp [isActiveRelay, hst, hs]
    · rw [hs]
      split_ifs <;> simp_all [isActiveRelay]
    · rw [hs]
      split_ifs <;> simp_all [isActiveRelay]
  unfold activeNetworkRelays
  rw [key, key, h]

theorem ownedRoutes_congr (h : shownNodes s' w = shownNodes s w) : ownedRoutes s' w = ownedRoutes s w := by
  have key : ∀ t : State, (t.nodes.filter fun n => n.networkID = w.id && n.status = .active).flatMap
      Node.routedSubnets =
      (shownNodes t w).flatMap fun
        | .active _ _ _ _ _ routes _ => routes
        | .blocked _ => [] := by
    intro t
    refine flatMap_eq_shown (fun n => ?_) t.nodes
    obtain ⟨hn, hs⟩ | ⟨hn, hst, hs⟩ | ⟨hn, hst, hs⟩ | ⟨hn, hst, hs⟩ := n.shown_cases w
    · simp [hn, hs]
    · simp [hst, hs]
    · rw [hs]
      split_ifs <;> simp_all
    · rw [hs]
      split_ifs <;> simp_all
  unfold ownedRoutes
  rw [key, key, h]

/-- What a config reads of the gateways of a route. -/
def ownerKey (n : Node) : String × String := (n.id, n.ip)

theorem activeRouteOwners_congr (h : shownNodes s' w = shownNodes s w) (subnet : String) :
    (activeRouteOwners s' w.id subnet).map ownerKey = (activeRouteOwners s w.id subnet).map ownerKey := by
  have key : ∀ t : State, (activeRouteOwners t w.id subnet).map ownerKey =
      ((shownNodes t w).filterMap fun
        | .active id _ ip _ _ routes enrolled =>
          if enrolled = true ∧ subnet ∈ routes then some (id, ip) else none
        | .blocked _ => none).insertionSort fun a b => a.1 ≤ b.1 := by
    intro t
    rw [activeRouteOwners, sortNodesByID, List.map_insertionSort (fun a b : Node => a.id ≤ b.id)
      (fun a b : String × String => a.1 ≤ b.1) ownerKey _ (fun _ _ _ _ => Iff.rfl)]
    congr 1
    refine map_filter_eq_shown (fun n => ?_) t.nodes
    obtain ⟨hn, hs⟩ | ⟨hn, hst, hs⟩ | ⟨hn, hst, hs⟩ | ⟨hn, hst, hs⟩ := n.shown_cases w
    · simp [liveIn, hn, hs]
    · simp [liveIn, hst, hs]
    · rw [hs]
      split_ifs <;> simp_all [liveIn]
    · rw [hs]
      by_cases hr : n.routedSubnets = []
      · split_ifs <;> simp_all [liveIn]
      · simp [liveIn, ownerKey, hn, hst, hr]
  rw [key, key, h]

theorem blockedNodes_congr (h : shownNodes s' w = shownNodes s w) :
    (s'.nodes.filter fun n => n.networkID = w.id && n.status = .revoked &&
        n.certificateFingerprint ≠ "").map Node.certificateFingerprint =
      (s.nodes.filter fun n => n.networkID = w.id && n.status = .revoked &&
        n.certificateFingerprint ≠ "").map Node.certificateFingerprint := by
  have key : ∀ t : State, (t.nodes.filter fun n => n.networkID = w.id && n.status = .revoked &&
        n.certificateFingerprint ≠ "").map Node.certificateFingerprint =
      (shownNodes t w).filterMap fun
        | .active _ _ _ _ _ _ _ => none
        | .blocked fp => some fp := by
    intro t
    refine map_filter_eq_shown (fun n => ?_) t.nodes
    obtain ⟨hn, hs⟩ | ⟨hn, hst, hs⟩ | ⟨hn, hst, hs⟩ | ⟨hn, hst, hs⟩ := n.shown_cases w
    · simp [hn, hs]
    · simp [hst, hs]
    · rw [hs]
      split_ifs <;> simp_all
    · rw [hs]
      split_ifs <;> simp_all
  rw [key, key, h]

end Collected

/-! ## Sections -/

section Sections

variable {s s' : State} {w w' : Network} {n n' : Node}

theorem nodeInNetwork_eq_true {networkID nodeID : String} :
    nodeInNetwork s networkID nodeID = true ↔ ∃ m, findNode s nodeID = some m ∧ m.networkID = networkID := by
  cases hf : findNode s nodeID <;> simp [nodeInNetwork, hf]

variable {r : CertificateRevocation}

theorem ValidGraph.revocationNode (hv : ValidGraph s) (hr : r ∈ s.revocations) :
    ∃ m, findNode s r.nodeID = some m ∧ m.networkID = r.networkID := by
  have h := hv.revocations r hr
  simp only [validateRevocation, bind_unit_eq_ok, reject_eq_ok, not_or, Decidable.not_not] at h
  exact nodeInNetwork_eq_true.mp h.1.1

theorem ValidGraph.issuanceNode (hv : ValidGraph s) {i : CertificateIssuance} (hi : i ∈ s.issuances) :
    ∃ m, findNode s i.nodeID = some m ∧ m.networkID = i.networkID := by
  have h := hv.issuances i hi
  simp only [validateIssuance, reject_eq_ok, not_or, Decidable.not_not] at h
  exact nodeInNetwork_eq_true.mp h.1

/-- In a valid graph a revocation names the network of its node. -/
theorem revocationNetworkID_eq (hv : ValidGraph s) (hr : r ∈ s.revocations) :
    revocationNetworkID s r = r.networkID := by
  obtain ⟨m, hm, hnet⟩ := hv.revocationNode hr
  unfold revocationNetworkID
  split
  · rw [hm]
    exact hnet
  · rfl

/-- Identifiers of nodes are distinct, and revocations name the network of their node. -/
structure Renderable (s : State) : Prop where
  nodes : (s.nodes.map Node.id).Nodup
  revocations : ∀ r ∈ s.revocations, revocationNetworkID s r = r.networkID

theorem ValidGraph.renderable (hv : ValidGraph s) : Renderable s :=
  ⟨hv.nodeIDs, fun _ hr => revocationNetworkID_eq hv hr⟩

/-- The recorded revocations of a network. -/
def networkRevocations (s : State) (networkID : String) : List String :=
  (s.revocations.filter fun r => r.networkID = networkID).map CertificateRevocation.fingerprint

theorem blockedFingerprints_eq (hv : Renderable s) (w : Network) :
    blockedFingerprints s w =
      (s.nodes.filter fun n => n.networkID = w.id && n.status = .revoked &&
        n.certificateFingerprint ≠ "").map Node.certificateFingerprint ++ networkRevocations s w.id := by
  unfold blockedFingerprints networkRevocations
  congr 2
  refine List.filter_congr fun r hr => ?_
  rw [hv.revocations r hr]

/-- With distinct identifiers the gateways of a route are its owners. -/
theorem routedConfigEntry_gateways (hv : Renderable s) (w : Network) (route : String) :
    (routedConfigEntry s w route).gateways =
      ((activeRouteOwners s w.id route).map ownerKey).map fun k =>
        (k.2, gatewayWeight ((storedRoutePolicy w route).getD { subnet := route }).gateways k.1) := by
  simp only [routedConfigEntry, effectiveRoutePolicy, ownerGateways, List.filterMap_map, List.map_map]
  rw [← List.filterMap_eq_map]
  refine List.filterMap_congr fun o ho => ?_
  have hmem : o ∈ s.nodes := by
    simp only [activeRouteOwners, sortNodesByID, List.mem_insertionSort, List.mem_filter] at ho
    exact ho.1
  have hfind : findNode s o.id = some o := (Keyed.lookup_eq_some_iff hv.nodes).mpr ⟨hmem, rfl⟩
  simp only [Function.comp, hfind, Option.map_some, ownerKey]

/-- What two configs are rendered from, when they must be the same. -/
structure SameView (s s' : State) (w w' : Network) (n n' : Node) : Prop where
  id : w'.id = w.id
  cidr : w'.cidr = w.cidr
  dns : w'.dnsSettings = w.dnsSettings
  relays : w'.relaySettings = w.relaySettings
  rollout : w'.firewallRollout = w.firewallRollout
  policy : w'.firewallPolicy = w.firewallPolicy
  policies : w'.routePolicies = w.routePolicies
  port : w'.listenPort = w.listenPort
  nodeID : n'.id = n.id
  networkID : n'.networkID = n.networkID
  ip : n'.ip = n.ip
  role : n'.role = n.role
  groups : n'.groups = n.groups
  subnets : certificateRoutedSubnets w' n' = certificateRoutedSubnets w n
  nodes : shownNodes s' w = shownNodes s w
  revocations : networkRevocations s' w.id = networkRevocations s w.id
  peers : ∀ r ∈ (firewallPolicyForNode w n).inbound ++ (firewallPolicyForNode w n).outbound,
    r.peerNodeID ≠ "" → (findNode s' r.peerNodeID).map (fun m => (m.networkID, m.ip)) =
      (findNode s r.peerNodeID).map fun m => (m.networkID, m.ip)

theorem renderNativeDNSPolicy_congr (h : SameView s s' w w' n n') :
    renderNativeDNSPolicy s' w' n' = renderNativeDNSPolicy s w n := by
  have hw : nativeDNSResolvers s' w' = nativeDNSResolvers s' w := by
    unfold nativeDNSResolvers
    rw [h.id]
  have hr := hw.trans (nativeDNSResolvers_congr h.nodes)
  have hjson : nativeDNSPolicyJSON s' w' n' = nativeDNSPolicyJSON s w n := by
    unfold nativeDNSPolicyJSON
    rw [hr, h.dns, h.ip, h.cidr]
  unfold renderNativeDNSPolicy
  rw [hjson, h.dns]

theorem blocklist_congr (hv : Renderable s) (hv' : Renderable s') (hid : w'.id = w.id)
    (hn : shownNodes s' w = shownNodes s w)
    (hr : networkRevocations s' w.id = networkRevocations s w.id) : blocklist s' w' = blocklist s w := by
  unfold blocklist
  rw [blockedFingerprints_eq hv', blockedFingerprints_eq hv, hid, blockedNodes_congr hn, hr]

/-- The addresses of the other lighthouses. -/
theorem remoteLighthouses_eq (s : State) (w : Network) (id : String) :
    ((lighthouses s w).filter fun lh => lh.id ≠ id).map Node.ip =
      (((lighthouses s w).map lighthouseKey).filter fun k => k.1 ≠ id).map fun k => k.2.1 := by
  rw [List.filter_map, List.map_map]
  rfl

/-- The list of hosts is a function of their addresses. -/
theorem hosts_congr {xs ys : List Node} (h : xs.map Node.ip = ys.map Node.ip) :
    (if xs = [] then "  hosts: []\n"
      else "  hosts:\n" ++ concat (xs.map fun lh => "    - " ++ quoted lh.ip ++ "\n")) =
      if ys = [] then "  hosts: []\n"
      else "  hosts:\n" ++ concat (ys.map fun lh => "    - " ++ quoted lh.ip ++ "\n") := by
  have hnil : xs = [] ↔ ys = [] := by
    rw [← List.map_eq_nil_iff (f := Node.ip) (l := xs), h, List.map_eq_nil_iff]
  have hmap : ∀ zs : List Node, (zs.map fun lh => "    - " ++ quoted lh.ip ++ "\n") =
      (zs.map Node.ip).map fun ip => "    - " ++ quoted ip ++ "\n" := fun zs => by
    rw [List.map_map]
    rfl
  by_cases hy : ys = []
  · rw [if_pos hy, if_pos (hnil.mpr hy)]
  · rw [if_neg hy, if_neg (mt hnil.mp hy), hmap, hmap, h]

theorem lighthouses_view (h : SameView s s' w w' n n') :
    (lighthouses s' w').map lighthouseKey = (lighthouses s w).map lighthouseKey := by
  have hw : lighthouses s' w' = lighthouses s' w := by
    unfold lighthouses
    rw [h.id]
  rw [hw, lighthouses_congr h.nodes]

theorem renderStaticHostMap_congr (h : SameView s s' w w' n n') :
    renderStaticHostMap s' w' = renderStaticHostMap s w := by
  have hlines : ∀ ns : List Node, (ns.map fun lh =>
      "  " ++ quoted lh.ip ++ ": [" ++ quoted lh.publicEndpoint ++ "]\n") =
      (ns.map lighthouseKey).map fun k => "  " ++ quoted k.2.1 ++ ": [" ++ quoted k.2.2 ++ "]\n" := by
    intro ns
    rw [List.map_map]
    rfl
  unfold renderStaticHostMap
  rw [hlines, hlines, lighthouses_view h]

theorem renderLighthouse_congr (h : SameView s s' w w' n n') :
    renderLighthouse s' w' n' = renderLighthouse s w n := by
  have hhosts : ((lighthouses s' w').filter fun lh => lh.id ≠ n.id).map Node.ip =
      ((lighthouses s w).filter fun lh => lh.id ≠ n.id).map Node.ip := by
    rw [remoteLighthouses_eq, remoteLighthouses_eq, lighthouses_view h]
  unfold renderLighthouse
  rw [h.role, h.dns, h.ip, h.nodeID]
  dsimp only
  rw [hosts_congr hhosts]

theorem renderRelay_congr (h : SameView s s' w w' n n') : renderRelay s' w' n' = renderRelay s w n := by
  have hrelay : isActiveRelay w' = isActiveRelay w := by
    funext m
    simp only [isActiveRelay, h.relays, h.id]
  have hw : activeNetworkRelays s' w' = activeNetworkRelays s' w := by
    unfold activeNetworkRelays
    rw [h.relays, hrelay]
  unfold renderRelay
  rw [hw, activeNetworkRelays_congr h.nodes, h.relays, h.nodeID]

theorem renderRoutes_congr (hv : Renderable s) (hv' : Renderable s') (h : SameView s s' w w' n n') :
    renderRoutes s' w' n' = renderRoutes s w n := by
  have hw : ownedRoutes s' w' = ownedRoutes s' w := by
    unfold ownedRoutes
    rw [h.id]
  have howned := hw.trans (ownedRoutes_congr h.nodes)
  have hentry : ∀ route, routedConfigEntry s' w' route = routedConfigEntry s w route := by
    intro route
    have hstored : storedRoutePolicy w' route = storedRoutePolicy w route := by
      simp only [storedRoutePolicy, h.policies]
    have hg : (routedConfigEntry s' w' route).gateways = (routedConfigEntry s w route).gateways := by
      rw [routedConfigEntry_gateways hv', routedConfigEntry_gateways hv, h.id,
        activeRouteOwners_congr h.nodes, hstored]
    have hm : (routedConfigEntry s' w' route).mtu = (routedConfigEntry s w route).mtu := by
      simp only [routedConfigEntry, effectiveRoutePolicy, hstored]
    have hk : (routedConfigEntry s' w' route).metric = (routedConfigEntry s w route).metric := by
      simp only [routedConfigEntry, effectiveRoutePolicy, hstored]
    calc routedConfigEntry s' w' route
        = ⟨route, (routedConfigEntry s' w' route).gateways, (routedConfigEntry s' w' route).mtu,
            (routedConfigEntry s' w' route).metric⟩ := rfl
      _ = routedConfigEntry s w route := by rw [hg, hm, hk]; rfl
  have hentries : routedEntries s' w' n' = routedEntries s w n := by
    unfold routedEntries
    rw [howned, h.subnets, funext hentry]
  unfold renderRoutes
  rw [hentries]

/-- What the rules of a policy are compiled from, when it must be the same. -/
structure SameRuleView (s s' : State) (n n' : Node) (p : FirewallPolicy) : Prop where
  nodeID : n'.id = n.id
  networkID : n'.networkID = n.networkID
  groups : n'.groups = n.groups
  peers : ∀ r ∈ p.inbound ++ p.outbound, r.peerNodeID ≠ "" →
    (findNode s' r.peerNodeID).map (fun m => (m.networkID, m.ip)) =
      (findNode s r.peerNodeID).map fun m => (m.networkID, m.ip)

theorem SameRuleView.compileFirewallRule (h : SameRuleView s s' n n' p) {r : FirewallRule}
    (hr : r ∈ p.inbound ++ p.outbound) : compileFirewallRule s' n' r = compileFirewallRule s n r := by
  have htarget : firewallRuleTargetsNode r n' = firewallRuleTargetsNode r n := by
    simp only [firewallRuleTargetsNode, h.nodeID, h.groups]
  unfold Mesh.compileFirewallRule
  rw [htarget]
  by_cases hp : r.peerNodeID = ""
  · simp only [hp, if_true]
  · have hpeer := h.peers r hr hp
    rw [if_neg hp, if_neg hp]
    cases h1 : findNode s r.peerNodeID with
    | none =>
      rw [h1, Option.map_none, Option.map_eq_none_iff] at hpeer
      rw [hpeer]
    | some m =>
      rw [h1, Option.map_some, Option.map_eq_some_iff] at hpeer
      obtain ⟨m', hm', hkey⟩ := hpeer
      rw [Prod.mk.injEq] at hkey
      simp only [hm', hkey.1, hkey.2, h.networkID]

theorem effectiveFirewallPolicyForNode_congr (h : SameRuleView s s' n n' p) :
    effectiveFirewallPolicyForNode s' n' p = effectiveFirewallPolicyForNode s n p := by
  simp only [effectiveFirewallPolicyForNode, compileFirewallRulesForNode]
  rw [List.filterMap_congr fun r hr => h.compileFirewallRule (List.mem_append_left _ hr),
    List.filterMap_congr fun r hr => h.compileFirewallRule (List.mem_append_right _ hr)]

theorem renderFirewall_congr (h : SameView s s' w w' n n') :
    renderFirewall s' w' n' = renderFirewall s w n := by
  have hpolicy : firewallPolicyForNode w' n' = firewallPolicyForNode w n := by
    simp only [firewallPolicyForNode, h.rollout, h.policy, h.nodeID]
  unfold renderFirewall
  rw [hpolicy, h.subnets,
    effectiveFirewallPolicyForNode_congr ⟨h.nodeID, h.networkID, h.groups, h.peers⟩]

/-- The config of a node is a function of what it is rendered from. -/
theorem renderConfig_congr (hv : Renderable s) (hv' : Renderable s') (h : SameView s s' w w' n n') :
    renderConfig s' w' n' = renderConfig s w n := by
  have hpki : renderPKI s' w' = renderPKI s w := by
    unfold renderPKI
    rw [blocklist_congr hv hv' h.id h.nodes h.revocations]
  have hlisten : renderListen w' = renderListen w := by
    unfold renderListen
    rw [h.port]
  unfold renderConfig
  rw [renderNativeDNSPolicy_congr h, hpki, renderStaticHostMap_congr h, renderLighthouse_congr h, hlisten,
    renderRelay_congr h, renderRoutes_congr hv hv' h, renderFirewall_congr h]

end Sections

/-! ## References of a firewall policy -/

section References

variable {s : State} {w : Network}

theorem checkRuleReferences_spec {direction : String} {rules : List FirewallRule} :
    ∀ {index : Nat}, checkRuleReferences s w direction index rules = .ok () →
      ∀ r ∈ rules, ∀ id ∈ [r.peerNodeID, r.targetNodeID], id ≠ "" → nodeInNetwork s w.id id = true := by
  induction rules with
  | nil => simp
  | cons r rules ih =>
    intro index h
    simp only [checkRuleReferences, bind_unit_eq_ok, reject_eq_ok, not_and, Decidable.not_not] at h
    obtain ⟨hpeer, htarget, hrest⟩ := h
    intro q hq
    rcases List.mem_cons.mp hq with rfl | hq
    · simpa using ⟨hpeer, htarget⟩
    · exact ih hrest q hq

theorem validateFirewallPolicyReferences_spec (h : validateFirewallPolicyReferences s w p = .ok ()) :
    ∀ r ∈ p.inbound ++ p.outbound, ∀ id ∈ [r.peerNodeID, r.targetNodeID], id ≠ "" →
      nodeInNetwork s w.id id = true := by
  simp only [validateFirewallPolicyReferences, bind_unit_eq_ok] at h
  intro r hr
  rcases List.mem_append.mp hr with hr | hr
  · exact checkRuleReferences_spec h.1 r hr
  · exact checkRuleReferences_spec h.2 r hr

/-- The policy a node receives names nodes of its network only. -/
theorem ValidGraph.policyReferences (hv : ValidGraph s) (hw : w ∈ s.networks) (n : Node) :
    ∀ r ∈ (firewallPolicyForNode w n).inbound ++ (firewallPolicyForNode w n).outbound,
      r.peerNodeID ≠ "" → nodeInNetwork s w.id r.peerNodeID = true := by
  have h := hv.firewall w hw
  simp only [validateFirewallReferences, bind_unit_eq_ok, mapError_eq_ok] at h
  unfold firewallPolicyForNode
  split_ifs with hcanary
  · have hphase : w.firewallRollout.phase ≠ .stable := by
      rw [hcanary.1]
      decide
    rw [if_pos hphase, mapError_eq_ok] at h
    exact fun r hr => validateFirewallPolicyReferences_spec h.2 r hr _ List.mem_cons_self
  · exact fun r hr => validateFirewallPolicyReferences_spec h.1 r hr _ List.mem_cons_self

end References

end Mesh
