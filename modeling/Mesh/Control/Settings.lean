import Mesh.Control.Firewall

/-!
# Mesh.Control.Settings

The network settings that rendering reads: managed DNS on the lighthouses, relays, and the canary
rollout of a firewall policy. Each has its normal form, its check against the rest of the state, and
the update that changes it with a new config revision.
-/

namespace Mesh

open Address

/-- "expected config revision %d does not match current revision %d". -/
def revisionConflict (expected current : Int) : Failure :=
  conflict ("expected config revision " ++ toString expected ++ " does not match current revision " ++
    toString current)

/-! ## DNS -/

def defaultNetworkDNSPort : Int := 53

def maxNativeDNSResolvers : Nat := 8

def nativeDNSPolicySchema : String := "mesh-native-dns-v1"

def nativeDNSPolicyPrefix : String := "# mesh-native-dns-v1 "

def defaultNetworkDNSSettings : NetworkDNSSettings := { listenPort := defaultNetworkDNSPort }

def effectiveNetworkDNSSettings (d : NetworkDNSSettings) : NetworkDNSSettings :=
  if d = {} then defaultNetworkDNSSettings else d

/-- `^[a-z0-9](?:[a-z0-9-]{0,61}[a-z0-9])?$`. -/
def nativeDNSDomainLabelPattern (cs : List Char) : Bool :=
  let edge (c : Char) : Bool := isLower c || isDecimal c
  cs.length ≤ 63 && cs.all (fun c => edge c || c == '-') && cs.head?.any edge && cs.getLast?.any edge

/-- `strings.HasSuffix`. -/
def hasSuffix (s tail : String) : Bool := tail.toList.isSuffixOf s.toList

def validateNativeDNSDomain (value : String) : Result Unit := do
  reject (value = "" ∨ 253 < value.utf8ByteSize ∨ hasSuffix value "." ∨ value ≠ toLower value)
    (invalid "native DNS search domain must be a lowercase canonical DNS name")
  reject (¬ (fields '.' value.toList).all nativeDNSDomainLabelPattern)
    (invalid "native DNS search domain contains an invalid label")
  reject (value = "local" ∨ hasSuffix value ".local")
    (invalid ".local is reserved for multicast DNS")

def validateNetworkDNSSettings (d : NetworkDNSSettings) (nebulaListenPort : Int) : Result Unit := do
  reject (d.listenPort < 1 ∨ 65535 < d.listenPort) (invalid "DNS listen port must be 1-65535")
  reject (¬ d.enabled ∧ d.listenPort ≠ defaultNetworkDNSPort)
    (invalid ("disabled DNS settings must use the default port " ++ toString defaultNetworkDNSPort))
  reject (d.enabled ∧ d.listenPort = nebulaListenPort)
    (invalid "DNS and Nebula listeners cannot use the same UDP port")
  reject (¬ d.enabled ∧ (d.nativeResolver ∨ d.searchDomain ≠ ""))
    (invalid "disabled DNS cannot configure native resolver integration")
  if d.nativeResolver then validateNativeDNSDomain d.searchDomain
  else reject (d.searchDomain ≠ "") (invalid "search domain requires native resolver integration")

/-- The rule lets every node of the network reach the port over UDP. -/
def ruleAllowsNetworkDNS (network : Subnet) (port : Int) (r : FirewallRule) : Bool :=
  r.targetGroup == "" && r.targetNodeID == "" && (r.proto == "any" || r.proto == "udp") &&
    (match parseCanonicalFirewallPort r.port with
    | .ok .any => true
    | .ok (.range first last) => (first : Int) ≤ port && port ≤ (last : Int)
    | .error _ => false) &&
    (r.group == "all" || r.host == "any" || r.host == network.text)

def firewallAllowsNetworkDNS (p : FirewallPolicy) (networkCIDR : String) (port : Int) : Bool :=
  match parsePrefix4 networkCIDR with
  | some network => p.inbound.any (ruleAllowsNetworkDNS network port)
  | none => false

def validateNetworkDNSInvariant (w : Network) : Result Unit := do
  validateNetworkDNSSettings w.dnsSettings w.listenPort
  reject (w.dnsSettings.enabled ∧
      ¬ firewallAllowsNetworkDNS w.firewallPolicy w.cidr w.dnsSettings.listenPort)
    (internal ("enabled network DNS is not permitted by an inbound UDP rule covering all managed " ++
      "nodes"))

structure UpdateNetworkDNSInput where
  expectedConfigRevision : Int
  enabled : Bool
  listenPort : Int
  nativeResolver : Bool
  searchDomain : String

/-- The settings an update asks for. -/
def UpdateNetworkDNSInput.settings (input : UpdateNetworkDNSInput) : NetworkDNSSettings where
  enabled := input.enabled
  listenPort := input.listenPort
  nativeResolver := input.nativeResolver
  searchDomain := input.searchDomain

def updateNetworkDNS (actor : Option Actor) (networkID : String) (input : UpdateNetworkDNSInput)
    (eventID : String) (now : Int) (s : State) : Result State := do
  reject (¬ validPersistedID networkID) (invalid "invalid network ID")
  reject (input.expectedConfigRevision < 1) (invalid "expected_config_revision must be positive")
  reject (s.version < controlStateVersionNetworkRelays ∨ controlStateVersionFirewallScopes < s.version)
    (conflict "network DNS schema is not current")
  let w ← require (findNetwork s networkID) errNotFound
  let desired := input.settings
  validateNetworkDNSSettings desired w.listenPort
  if desired = w.dnsSettings then pure s
  else
    reject (w.firewallRollout.phase ≠ .stable)
      (conflict "network DNS cannot change during a firewall canary rollout")
    reject (input.expectedConfigRevision ≠ w.configRevision)
      (revisionConflict input.expectedConfigRevision w.configRevision)
    reject (desired.enabled ∧ ¬ firewallAllowsNetworkDNS w.firewallPolicy w.cidr desired.listenPort)
      (conflict ("inbound firewall must allow UDP port " ++ toString desired.listenPort ++
        " from group all, host any, or the complete network CIDR before DNS can be enabled"))
    reject (now = 0) (internal "network DNS update requires a valid timestamp")
    let nextRevision ← nextConfigRevision w.configRevision true
    let event ← newOptionalAttributedAudit eventID now "network.dns_settings_updated" "network" w.id [
      ("old_enabled", .bool w.dnsSettings.enabled), ("enabled", .bool desired.enabled),
      ("old_listen_port", .int w.dnsSettings.listenPort), ("listen_port", .int desired.listenPort),
      ("old_native_resolver", .bool w.dnsSettings.nativeResolver),
      ("native_resolver", .bool desired.nativeResolver),
      ("old_search_domain", .str w.dnsSettings.searchDomain),
      ("search_domain", .str desired.searchDomain), ("config_revision", .int nextRevision)] actor
    pure (addAudit (putNetwork s { w with
      dnsSettings := desired, configRevision := nextRevision, configUpdatedAt := now }) event)

def isActiveLighthouse (networkID : String) (n : Node) : Bool :=
  n.networkID == networkID && n.role == .lighthouse && n.status == .active

/-- The addresses of the active lighthouses in text order, at most eight. -/
def nativeDNSResolvers (s : State) (w : Network) : List String :=
  (sortStrings ((s.nodes.filter (isActiveLighthouse w.id)).map Node.ip)).take maxNativeDNSResolvers

def nativeDNSPolicyJSON (s : State) (w : Network) (n : Node) : String :=
  let d := effectiveNetworkDNSSettings w.dnsSettings
  "\x7b\"schema\":" ++ jsonString nativeDNSPolicySchema ++ ",\"local_ip\":" ++ jsonString n.ip ++
    ",\"network_cidr\":" ++ jsonString w.cidr ++ ",\"search_domain\":" ++ jsonString d.searchDomain ++
    ",\"resolvers\":[" ++ joinWith "," ((nativeDNSResolvers s w).map fun ip =>
      "\x7b\"ip\":" ++ jsonString ip ++ ",\"port\":" ++ toString d.listenPort ++ "\x7d") ++ "]\x7d"

def renderNativeDNSPolicy (s : State) (w : Network) (n : Node) : String :=
  let d := effectiveNetworkDNSSettings w.dnsSettings
  if ¬ d.enabled ∨ ¬ d.nativeResolver then ""
  else nativeDNSPolicyPrefix ++ Base64.encode (utf8Bytes (nativeDNSPolicyJSON s w n)) ++ "\n"

/-! ## Relays -/

def maxNetworkRelayNodes : Nat := 8

/-- Every identifier is well formed; the message names the first that is not. -/
def checkIDs (err : Nat → Failure) : Nat → List String → Result Unit
  | _, [] => .ok ()
  | index, id :: rest => do
    reject (¬ validPersistedID id) (err index)
    checkIDs err (index + 1) rest

/-- Whether two neighbours are equal. -/
def hasEqualNeighbours : List String → Bool
  | a :: b :: rest => a == b || hasEqualNeighbours (b :: rest)
  | _ => false

/-- A missing list is refused; stored settings have one. -/
def normalizeNetworkRelaySettings (enabled : Bool) (relayNodeIDs : Option (List String)) :
    Result NetworkRelaySettings := do
  let ids ← require relayNodeIDs (invalid "relay_node_ids must be a JSON array")
  if ¬ enabled then
    reject (ids ≠ []) (invalid "disabled relay settings must have no relay nodes")
    pure {}
  else
    reject (ids = [] ∨ maxNetworkRelayNodes < ids.length)
      (invalid ("enabled relay settings require 1-" ++ toString maxNetworkRelayNodes ++ " relay nodes"))
    checkIDs (fun index => invalid ("relay node " ++ toString index ++ " has an invalid ID")) 1 ids
    reject (hasEqualNeighbours (sortStrings ids)) (invalid "relay node IDs must be unique")
    pure { enabled := true, relayNodeIDs := sortStrings ids }

def validateNetworkRelaySettings (s : State) (w : Network) : Result Unit := do
  let settings := w.relaySettings
  let normalized ← normalizeNetworkRelaySettings settings.enabled (some settings.relayNodeIDs)
  reject (settings ≠ normalized) (internal "relay settings are not canonical")
  checkAll (fun id => do
    let n ← require ((findNode s id).filter fun n => n.networkID = w.id)
      (internal ("relay node \"" ++ id ++ "\" does not belong to the network"))
    reject (n.status = .revoked) (internal ("relay node \"" ++ id ++ "\" is revoked")))
    settings.relayNodeIDs

structure NetworkRelay where
  nodeID : String
  name : String
  ip : String
  role : Role
deriving DecidableEq

def isActiveRelay (w : Network) (n : Node) : Bool :=
  n.networkID == w.id && n.status == .active && n.id ∈ w.relaySettings.relayNodeIDs

/-- The active relays by name, then identifier. -/
def activeNetworkRelays (s : State) (w : Network) : List NetworkRelay :=
  if ¬ w.relaySettings.enabled then []
  else
    ((s.nodes.filter (isActiveRelay w)).map fun n => ⟨n.id, n.name, n.ip, n.role⟩).insertionSort
      fun a b => a.name < b.name ∨ (a.name = b.name ∧ a.nodeID ≤ b.nodeID)

def validateRelaySelection (s : State) (networkID : String) (settings : NetworkRelaySettings) :
    Result Unit := do
  let w ← require (findNetwork s networkID) errNotFound
  mapError (fun e => invalid e.text)
    (validateNetworkRelaySettings s { w with relaySettings := settings })

def relaySettingsDigest (r : NetworkRelaySettings) : String :=
  configDigest ("enabled=" ++ formatBool r.enabled ++ "\n" ++ joinWith "\n" r.relayNodeIDs)

structure UpdateNetworkRelaysInput where
  expectedConfigRevision : Int
  enabled : Bool
  relayNodeIDs : Option (List String)

def updateNetworkRelays (actor : Option Actor) (networkID : String) (input : UpdateNetworkRelaysInput)
    (eventID : String) (now : Int) (s : State) : Result State := do
  reject (¬ validPersistedID networkID) (invalid "invalid network ID")
  reject (input.expectedConfigRevision < 1) (invalid "expected_config_revision must be positive")
  let desired ← normalizeNetworkRelaySettings input.enabled input.relayNodeIDs
  reject (s.version < controlStateVersionNetworkRelays ∨ controlStateVersionFirewallScopes < s.version)
    (conflict "network relay schema is not current")
  let w ← require (findNetwork s networkID) errNotFound
  validateRelaySelection s networkID desired
  if desired = w.relaySettings then pure s
  else
    reject (w.firewallRollout.phase ≠ .stable)
      (conflict "network relay settings cannot change during a firewall canary rollout")
    reject (input.expectedConfigRevision ≠ w.configRevision)
      (revisionConflict input.expectedConfigRevision w.configRevision)
    reject (now = 0) (internal "network relay update requires a valid timestamp")
    let nextRevision ← nextConfigRevision w.configRevision true
    let event ← newOptionalAttributedAudit eventID now "network.relay_settings_updated" "network" w.id [
      ("old_sha256", .str (relaySettingsDigest w.relaySettings)),
      ("new_sha256", .str (relaySettingsDigest desired)),
      ("old_relay_nodes", .int w.relaySettings.relayNodeIDs.length),
      ("relay_nodes", .int desired.relayNodeIDs.length), ("enabled", .bool desired.enabled),
      ("config_revision", .int nextRevision)] actor
    pure (addAudit (putNetwork s { w with
      relaySettings := desired, configRevision := nextRevision, configUpdatedAt := now }) event)

/-! ## Firewall rollouts -/

/-- A canary is a well-formed identifier of an active node of the network, after another one. -/
def checkCanaries (s : State) (w : Network) : Option String → List String → Result Unit
  | _, [] => .ok ()
  | previous, id :: rest => do
    reject (¬ validPersistedID id ∨ previous = some id)
      (internal "firewall rollout canary selection is not canonical")
    reject (¬ ((findNode s id).any fun n => n.networkID = w.id && n.status = .active))
      (internal ("firewall rollout canary \"" ++ id ++ "\" is not an active node in the network"))
    checkCanaries s w (some id) rest

def validateNetworkFirewallRollout (s : State) (w : Network) : Result Unit := do
  let r := w.firewallRollout
  if r.phase = .stable then
    reject (r ≠ {}) (internal "stable firewall rollout must have no transition metadata")
  else
    reject (r.phase ≠ .canary ∧ (s.version < controlStateVersionFirewallPause ∨ r.phase ≠ .paused))
      (internal "firewall rollout phase is invalid")
    reject (s.version < controlStateVersionFirewallPause ∧ r.pausedAt ≠ 0)
      (internal "firewall rollout pause metadata exists before control state v8")
    reject ((r.phase = .canary ∧ r.pausedAt ≠ 0) ∨ (r.phase = .paused ∧ r.pausedAt = 0))
      (internal "firewall rollout pause metadata is inconsistent")
    reject (w.caRotation.phase ≠ .stable) (internal "firewall rollout cannot overlap a CA rotation")
    reject (r.startedAt = 0 ∨ r.stageConfigRevision < 1 ∨ w.configRevision < r.stageConfigRevision)
      (internal "firewall rollout lifecycle metadata is invalid")
    mapError (Failure.wrap "target policy") (validateStoredFirewallPolicy r.targetPolicy w.cidr)
    mapError (Failure.wrap "target policy") (validateFirewallPolicyReferences s w r.targetPolicy)
    reject (sameEffectiveFirewallPolicy w.firewallPolicy r.targetPolicy)
      (internal "firewall rollout target equals the active policy")
    reject (w.dnsSettings.enabled ∧
        ¬ firewallAllowsNetworkDNS r.targetPolicy w.cidr w.dnsSettings.listenPort)
      (internal "firewall rollout target blocks managed network DNS")
    reject (r.canaryNodeIDs.length < 1 ∨ maxFirewallRolloutCanaries < r.canaryNodeIDs.length ∨
        sortStrings r.canaryNodeIDs ≠ r.canaryNodeIDs)
      (internal "firewall rollout canary selection is invalid")
    checkCanaries s w none r.canaryNodeIDs

end Mesh
