import Mesh.Control.CaRotation
import Mesh.Control.RoutePolicies

/-!
# Mesh.Control.Render

The Nebula configuration of one node, as a text. It is put together from named sections, one for each
block of the text, so that what a section reads of the state can be said section by section.
-/

namespace Mesh

/-- `%q` of a text without characters that Go escapes, which is all that reaches a config. -/
def quoted (s : String) : String := "\"" ++ s ++ "\""

/-! ## What is collected from the state -/

/-- Active lighthouses with an endpoint, by address. -/
def lighthouses (s : State) (w : Network) : List Node :=
  (s.nodes.filter fun n => isActiveLighthouse w.id n && n.publicEndpoint ≠ "").insertionSort
    fun a b => a.ip ≤ b.ip

/-- A revocation without a network belongs to the network of its node. -/
def revocationNetworkID (s : State) (r : CertificateRevocation) : String :=
  if r.networkID = "" then ((findNode s r.nodeID).map Node.networkID).getD "" else r.networkID

/-- The fingerprints peers must refuse: those of revoked nodes and of recorded revocations. -/
def blockedFingerprints (s : State) (w : Network) : List String :=
  (s.nodes.filter fun n => n.networkID = w.id && n.status = .revoked && n.certificateFingerprint ≠ "").map
      Node.certificateFingerprint ++
    (s.revocations.filter fun r => revocationNetworkID s r = w.id).map CertificateRevocation.fingerprint

def blocklist (s : State) (w : Network) : List String := sortStrings (blockedFingerprints s w).dedup

/-- The subnets that active nodes own. -/
def ownedRoutes (s : State) (w : Network) : List String :=
  sortStrings (((s.nodes.filter fun n => n.networkID = w.id && n.status = .active).flatMap
    Node.routedSubnets).dedup)

structure RoutedConfigEntry where
  route : String
  gateways : List (String × Int)
  mtu : Int
  metric : Int

def routedConfigEntry (s : State) (w : Network) (route : String) : RoutedConfigEntry :=
  let policy := effectiveRoutePolicy s w route
  { route := route
    gateways := policy.gateways.filterMap fun g => (findNode s g.nodeID).map fun n => (n.ip, g.weight)
    mtu := policy.mtu
    metric := policy.metric }

/-- The routes the node reaches through other gateways. -/
def routedEntries (s : State) (w : Network) (n : Node) : List RoutedConfigEntry :=
  (((ownedRoutes s w).filter fun route => route ∉ certificateRoutedSubnets w n).map
    (routedConfigEntry s w)).filter fun e => e.gateways ≠ []

/-! ## Sections -/

def renderPKI (s : State) (w : Network) : String :=
  "pki:\n  ca: /etc/nebula/ca.crt\n  cert: /etc/nebula/host.crt\n  key: /etc/nebula/host.key\n" ++
    (if blocklist s w = [] then ""
      else "  blocklist:\n" ++ concat ((blocklist s w).map fun fp => "    - " ++ quoted fp ++ "\n")) ++
    "  disconnect_invalid: true\n"

def renderStaticHostMap (s : State) (w : Network) : String :=
  "static_host_map:\n" ++ concat ((lighthouses s w).map fun lh =>
    "  " ++ quoted lh.ip ++ ": [" ++ quoted lh.publicEndpoint ++ "]\n")

def renderLighthouse (s : State) (w : Network) (n : Node) : String :=
  let remote := (lighthouses s w).filter fun lh => lh.id ≠ n.id
  "lighthouse:\n  am_lighthouse: " ++ formatBool (n.role = .lighthouse) ++ "\n" ++
    (if n.role = .lighthouse ∧ w.dnsSettings.enabled then
      "  serve_dns: true\n  dns:\n    host: " ++ quoted n.ip ++ "\n    port: " ++
        toString w.dnsSettings.listenPort ++ "\n"
    else "") ++
    "  interval: 60\n" ++
    (if remote = [] then "  hosts: []\n"
    else "  hosts:\n" ++ concat (remote.map fun lh => "    - " ++ quoted lh.ip ++ "\n"))

def renderListen (w : Network) : String :=
  "listen:\n  host: 0.0.0.0\n  port: " ++ toString w.listenPort ++ "\npunchy:\n  punch: true\n"

def renderRelay (s : State) (w : Network) (n : Node) : String :=
  if ¬ w.relaySettings.enabled then ""
  else if n.id ∈ w.relaySettings.relayNodeIDs then "relay:\n  am_relay: true\n  use_relays: false\n"
  else
    "relay:\n" ++
      (if activeNetworkRelays s w = [] then "  relays: []\n"
      else "  relays:\n" ++
        concat ((activeNetworkRelays s w).map fun r => "    - " ++ quoted r.ip ++ "\n")) ++
      "  am_relay: false\n  use_relays: true\n"

def renderRoutedEntry (e : RoutedConfigEntry) : String :=
  "    - route: " ++ quoted e.route ++ "\n" ++
    (match e.gateways with
    | [g] => "      via: " ++ quoted g.1 ++ "\n"
    | gs => "      via:\n" ++ concat (gs.map fun g =>
        "        - gateway: " ++ quoted g.1 ++ "\n          weight: " ++ toString g.2 ++ "\n")) ++
    (if e.mtu ≠ 0 then "      mtu: " ++ toString e.mtu ++ "\n" else "") ++
    (if e.metric ≠ 0 then "      metric: " ++ toString e.metric ++ "\n" else "")

def renderRoutes (s : State) (w : Network) (n : Node) : String :=
  match routedEntries s w n with
  | [] => ""
  | entries => "tun:\n  unsafe_routes:\n" ++ concat (entries.map renderRoutedEntry)

def renderFirewall (s : State) (w : Network) (n : Node) : String :=
  renderFirewallPolicyForNode (effectiveFirewallPolicyForNode s n (firewallPolicyForNode w n))
    (certificateRoutedSubnets w n)

def renderConfig (s : State) (w : Network) (n : Node) : String :=
  renderNativeDNSPolicy s w n ++ renderPKI s w ++ renderStaticHostMap s w ++ renderLighthouse s w n ++
    renderListen w ++ renderRelay s w n ++ renderRoutes s w n ++ renderFirewall s w n ++
    "logging:\n  level: info\n  format: json\n"

/-! ## Convergence -/

/-- The node runs the certificate and the very config its network has for it now. -/
def routeTransferNodeConverged (s : State) (w : Network) (n : Node) (desiredGeneration : Int) : Bool :=
  if desiredGeneration < 1 ∨ n.status ≠ .active ∨ n.certificateGeneration < desiredGeneration ∨
      n.appliedCertificateGeneration ≠ n.certificateGeneration ∨
      n.appliedConfigRevision ≠ w.configRevision ∨
      n.reportedCertificateFingerprint ≠ n.certificateFingerprint ∨ ¬ n.nebulaRunning ∨
      n.agentStatus ≠ .healthy ∨ n.lastSeenAt = none then false
  else n.appliedConfigSHA256 == configDigest (renderConfig s w n)

def firewallRolloutNodeConverged (s : State) (w : Network) (n : Node) : Bool :=
  if w.firewallRollout.phase ≠ .canary ∨ n.status ≠ .active ∨
      n.id ∉ w.firewallRollout.canaryNodeIDs then false
  else
    n.appliedConfigRevision == w.configRevision &&
      n.appliedConfigSHA256 == configDigest (renderConfig s w n) &&
      n.appliedCertificateGeneration == n.certificateGeneration &&
      n.reportedCertificateFingerprint == n.certificateFingerprint && n.nebulaRunning

end Mesh
