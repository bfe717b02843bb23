import Mesh.Control.Crypto
import Mesh.Control.RouteChanges

/-!
# Mesh.Control.Firewall

Firewall policies: the canonical form of a rule set, how a policy is compiled and rendered for one
node, and the canary rollout of a new policy. A rule selects a remote peer by group, host or node and
may be targeted at the nodes of a group or at one node.
-/

namespace Mesh

open Address

def firewallRendererVersionV1 : Int := 1

def firewallRendererVersionV2 : Int := 2

def currentFirewallRendererVersion : Int := firewallRendererVersionV2

def maxFirewallRulesPerDirection : Nat := 128

def maxFirewallExpandedPortSlots : Nat := 16384

def maxFirewallRolloutCanaries : Nat := 16

def legacyDefaultFirewallPolicy : FirewallPolicy where
  mode := .legacyDefault
  rendererVersion := firewallRendererVersionV1
  inbound := [{ proto := "any", port := "any", group := "all" }]
  outbound := [{ proto := "any", port := "any", host := "any" }]

def defaultManagedFirewallPolicy : FirewallPolicy :=
  { legacyDefaultFirewallPolicy with
    mode := .managed, rendererVersion := currentFirewallRendererVersion }

/-! ## Ports -/

inductive FirewallPort where
  | any
  | range (first last : Nat)
deriving DecidableEq

def FirewallPort.slots : FirewallPort → Nat
  | .any => 1
  | .range first last => last - first + 1

def parseCanonicalPortNumber (cs : List Char) : Result Nat :=
  require ((strictDecimal? 65535 cs).filter (1 ≤ ·))
    (internal "port numbers must be canonical decimal values from 1 through 65535")

def parseCanonicalFirewallPort (value : String) : Result FirewallPort := do
  if value = "any" then pure .any
  else
    reject (trimSpace value ≠ value ∨ value = "" ∨ 1 < value.toList.count '-')
      (internal "port must be any, a canonical port, or a canonical port range")
    match splitFirst '-' value.toList with
    | some (left, right) => do
      let first ← parseCanonicalPortNumber left
      let last ← parseCanonicalPortNumber right
      reject (last ≤ first) (internal "port range must be ascending and contain more than one port")
      pure (.range first last)
    | none => do
      let port ← parseCanonicalPortNumber value.toList
      pure (.range port port)

/-! ## Canonical rules -/

/-- The canonical host and the key it is compared by. -/
def normalizeFirewallHost (value : String) (network : Subnet) : Result (String × String) := do
  reject (trimSpace value ≠ value ∨ value = "")
    (internal "host must be any, a canonical IPv4 address, or a canonical IPv4 CIDR")
  if value = "any" then pure (value, "host\x00any")
  else
    match parseAddr value with
    | some address => do
      let err := internal "host IPv4 address must be canonical and contained in the network CIDR"
      match address with
      | .v4 n => do
        reject (formatIPv4 n ≠ value ∨ ¬ network.contains n) err
        pure (formatIPv4 n, "cidr\x00" ++ Subnet.text ⟨n, 32⟩)
      | .v6 _ _ => .error err
    | none => do
      let p ← require ((parsePrefix4 value).filter fun p => p = p.masked ∧ p.text = value ∧
          network.bits ≤ p.bits ∧ network.contains p.addr)
        (internal "host CIDR must be canonical IPv4 and contained in the network CIDR")
      pure (if p.bits = 32 then formatIPv4 p.addr else p.text, "cidr\x00" ++ p.text)

/-- The part of a rule's key that names its target. -/
def targetKey (r : FirewallRule) : String :=
  if r.targetGroup ≠ "" then "target_group\x00" ++ r.targetGroup
  else if r.targetNodeID ≠ "" then "target_node\x00" ++ r.targetNodeID
  else "target\x00all"

/-- The canonical rule, its ports and the key of its selector and target. -/
def normalizeFirewallRule (r : FirewallRule) (network : Subnet) :
    Result (FirewallRule × FirewallPort × String) := do
  reject (trimSpace r.proto ≠ r.proto) (internal "proto must not contain surrounding whitespace")
  reject (r.proto ∉ ["any", "tcp", "udp", "icmp"]) (internal "proto must be any, tcp, udp, or icmp")
  let port ← parseCanonicalFirewallPort r.port
  reject (r.proto = "icmp" ∧ port ≠ .any) (internal "icmp rules require port any")
  reject (([r.group, r.host, r.peerNodeID].filter (· ≠ "")).length ≠ 1)
    (internal "exactly one of group, host, or peer_node_id must be provided")
  reject (r.targetGroup ≠ "" ∧ r.targetNodeID ≠ "")
    (internal "target_group and target_node_id are mutually exclusive")
  reject (r.targetGroup ≠ "" ∧ (trimSpace r.targetGroup ≠ r.targetGroup ∨
      ¬ groupPattern r.targetGroup ∨ r.targetGroup = "all"))
    (internal ("target_group must match the certificate-group grammar, must not be all, and be at " ++
      "most 32 characters"))
  reject (r.targetNodeID ≠ "" ∧ ¬ validPersistedID r.targetNodeID)
    (internal "target_node_id must be a valid node ID")
  if r.group ≠ "" then
    reject (trimSpace r.group ≠ r.group ∨ ¬ groupPattern r.group)
      (internal "group must match the certificate-group grammar and be at most 32 characters")
    reject (r.group = "any") (internal "group any is a wildcard; use host any explicitly")
    pure (r, port, "group\x00" ++ r.group ++ "\x00" ++ targetKey r)
  else if r.peerNodeID ≠ "" then
    reject (¬ validPersistedID r.peerNodeID) (internal "peer_node_id must be a valid node ID")
    pure (r, port, "peer_node\x00" ++ r.peerNodeID ++ "\x00" ++ targetKey r)
  else
    let (host, key) ← normalizeFirewallHost r.host network
    pure ({ r with host := host }, port, key ++ "\x00" ++ targetKey r)

def slotsError : Failure :=
  invalid ("firewall rules expand to more than " ++ toString maxFirewallExpandedPortSlots ++ " port slots")

/-- The rules in their given order; `slots` counts the ports of the rules before. -/
def checkFirewallRules (direction : String) (network : Subnet) :
    Nat → List String → Nat → List FirewallRule → Result (List FirewallRule × Nat)
  | _, _, slots, [] => .ok ([], slots)
  | index, seen, slots, candidate :: rest => do
    let label := direction ++ " firewall rule " ++ toString index
    let (rule, port, selector) ← mapError (fun e => invalid (label ++ ": " ++ e.text))
      (normalizeFirewallRule candidate network)
    reject (maxFirewallExpandedPortSlots < slots + port.slots) slotsError
    let key := rule.proto ++ "\x00" ++ rule.port ++ "\x00" ++ selector
    reject (key ∈ seen) (invalid (label ++ " duplicates an equivalent rule"))
    let (rules, total) ← checkFirewallRules direction network (index + 1) (key :: seen)
      (slots + port.slots) rest
    pure (rule :: rules, total)

/-- Five decimal digits. -/
def fiveDigits (n : Nat) : String := String.ofList (Calendar.padded 5 n)

def firewallRuleSortKey (r : FirewallRule) : String :=
  let protoRank :=
    if r.proto = "any" then "0" else if r.proto = "icmp" then "1"
    else if r.proto = "tcp" then "2" else if r.proto = "udp" then "3" else ""
  let portKey :=
    match parseCanonicalFirewallPort r.port with
    | .ok .any => "0"
    | .ok (.range first last) => "1" ++ fiveDigits first ++ fiveDigits last
    | .error _ => "1" ++ fiveDigits 0 ++ fiveDigits 0
  let selectorKey :=
    if r.host ≠ "" then "host\x00" ++ r.host
    else if r.peerNodeID ≠ "" then "peer_node\x00" ++ r.peerNodeID
    else "group\x00" ++ r.group
  targetKey r ++ "\x00" ++ protoRank ++ "\x00" ++ portKey ++ "\x00" ++ selectorKey

def sortFirewallRules (rules : List FirewallRule) : List FirewallRule :=
  rules.insertionSort fun a b => firewallRuleSortKey a ≤ firewallRuleSortKey b

def normalizeFirewallRules (direction : String) (rules : List FirewallRule) (network : Subnet)
    (slots : Nat) : Result (List FirewallRule × Nat) := do
  let (normalized, total) ← checkFirewallRules direction network 1 [] slots rules
  pure (sortFirewallRules normalized, total)

def firewallRuleLimitError (direction : String) : Failure :=
  invalid (direction ++ " firewall rules exceed the " ++ toString maxFirewallRulesPerDirection ++
    "-rule limit")

/-- A missing rule list is refused; the stored policies have both. -/
def normalizeFirewallPolicy (inbound outbound : Option (List FirewallRule)) (networkCIDR : String) :
    Result FirewallPolicy := do
  let err := invalid "inbound and outbound must each be a JSON array"
  let inbound ← require inbound err
  let outbound ← require outbound err
  reject (maxFirewallRulesPerDirection < inbound.length) (firewallRuleLimitError "inbound")
  reject (maxFirewallRulesPerDirection < outbound.length) (firewallRuleLimitError "outbound")
  let network ← require ((parsePrefix4 networkCIDR).filter fun p => p = p.masked)
    (internal "network has an invalid canonical IPv4 CIDR")
  let (inboundRules, slots) ← normalizeFirewallRules "inbound" inbound network 0
  let (outboundRules, total) ← normalizeFirewallRules "outbound" outbound network slots
  reject (maxFirewallExpandedPortSlots < total) slotsError
  pure { mode := .managed, rendererVersion := currentFirewallRendererVersion,
         inbound := inboundRules, outbound := outboundRules }

def sameEffectiveFirewallPolicy (a b : FirewallPolicy) : Bool :=
  a.inbound == b.inbound && a.outbound == b.outbound

def validateStoredFirewallPolicy (p : FirewallPolicy) (networkCIDR : String) : Result Unit := do
  reject (p.mode = .unset) (internal "unsupported firewall policy mode \"\"")
  reject (p.rendererVersion ≠ firewallRendererVersionV1 ∧ p.rendererVersion ≠ firewallRendererVersionV2)
    (internal ("unsupported firewall renderer version " ++ toString p.rendererVersion))
  reject (p.mode = .legacyDefault ∧ p.rendererVersion ≠ firewallRendererVersionV1)
    (internal "legacy-default firewall policy must use the historical renderer version")
  let normalized ← normalizeFirewallPolicy (some p.inbound) (some p.outbound) networkCIDR
  reject (p.inbound ≠ normalized.inbound ∨ p.outbound ≠ normalized.outbound)
    (internal "firewall policy rules are not canonical")
  reject (p.mode = .legacyDefault ∧ ¬ sameEffectiveFirewallPolicy p legacyDefaultFirewallPolicy)
    (internal "legacy-default firewall policy differs from the historical connectivity policy")

/-! ## Node references -/

def ruleUsesNodeScopes (r : FirewallRule) : Bool :=
  r.peerNodeID ≠ "" || r.targetGroup ≠ "" || r.targetNodeID ≠ ""

def firewallPolicyUsesNodeScopes (p : FirewallPolicy) : Bool :=
  p.inbound.any ruleUsesNodeScopes || p.outbound.any ruleUsesNodeScopes

def ruleReferencesNode (nodeID : String) (r : FirewallRule) : Bool :=
  r.peerNodeID = nodeID || r.targetNodeID = nodeID

def firewallPolicyReferencesNode (p : FirewallPolicy) (nodeID : String) : Bool :=
  p.inbound.any (ruleReferencesNode nodeID) || p.outbound.any (ruleReferencesNode nodeID)

def replaceRuleNode (old new : String) (r : FirewallRule) : FirewallRule :=
  { r with
    peerNodeID := if r.peerNodeID = old then new else r.peerNodeID
    targetNodeID := if r.targetNodeID = old then new else r.targetNodeID }

def ruleReferenceCount (nodeID : String) (r : FirewallRule) : Nat :=
  (if r.peerNodeID = nodeID then 1 else 0) + (if r.targetNodeID = nodeID then 1 else 0)

/-- The policy with the references moved, and how many there were. -/
def replaceFirewallPolicyNodeReferences (p : FirewallPolicy) (old new : String) : FirewallPolicy × Nat :=
  ({ p with inbound := p.inbound.map (replaceRuleNode old new),
            outbound := p.outbound.map (replaceRuleNode old new) },
    ((p.inbound ++ p.outbound).map (ruleReferenceCount old)).sum)

def nodeInNetwork (s : State) (networkID nodeID : String) : Bool :=
  (findNode s nodeID).any fun n => n.networkID = networkID

def checkRuleReferences (s : State) (w : Network) (direction : String) :
    Nat → List FirewallRule → Result Unit
  | _, [] => .ok ()
  | index, r :: rest => do
    let err (field : String) := invalid (direction ++ " firewall rule " ++ toString index ++ " " ++
      field ++ " must reference a node in this network")
    reject (r.peerNodeID ≠ "" ∧ ¬ nodeInNetwork s w.id r.peerNodeID) (err "peer_node_id")
    reject (r.targetNodeID ≠ "" ∧ ¬ nodeInNetwork s w.id r.targetNodeID) (err "target_node_id")
    checkRuleReferences s w direction (index + 1) rest

/-- The source ranges over maps here, so which of several faulty references it names is not fixed. -/
def validateFirewallPolicyReferences (s : State) (w : Network) (p : FirewallPolicy) : Result Unit := do
  checkRuleReferences s w "inbound" 1 p.inbound
  checkRuleReferences s w "outbound" 1 p.outbound

/-! ## Rendering -/

def renderFirewallRule (r : FirewallRule) (rendererVersion : Int) (localCIDR : String) : String :=
  "    - port: " ++ r.port ++ "\n      proto: " ++ r.proto ++ "\n" ++
    (if r.group ≠ "" then
      if firewallRendererVersionV2 ≤ rendererVersion then "      group: \"" ++ r.group ++ "\"\n"
      else "      group: " ++ r.group ++ "\n"
    else if r.host = "any" then "      host: any\n"
    else if r.peerNodeID ≠ "" then "      cidr: 0.0.0.0/32\n"
    else if '/' ∈ r.host.toList then "      cidr: " ++ r.host ++ "\n"
    else "      cidr: " ++ r.host ++ "/32\n") ++
    (if localCIDR ≠ "" then "      local_cidr: " ++ localCIDR ++ "\n" else "")

/-- Texts one after the other. -/
def concat (texts : List String) : String := texts.foldr (· ++ ·) ""

def renderFirewallDirection (direction : String) (rules : List FirewallRule) (rendererVersion : Int)
    (routedSubnets : List String) : String :=
  if rules = [] then "  " ++ direction ++ ": []\n"
  else
    "  " ++ direction ++ ":\n" ++ concat (rules.map fun r =>
      concat (("" :: routedSubnets).map (renderFirewallRule r rendererVersion)))

/-- An inbound rule is repeated for every subnet the node routes. -/
def renderFirewallPolicyForNode (p : FirewallPolicy) (routedSubnets : List String) : String :=
  "firewall:\n" ++ renderFirewallDirection "outbound" p.outbound p.rendererVersion [] ++
    renderFirewallDirection "inbound" p.inbound p.rendererVersion routedSubnets

def renderFirewallPolicy (p : FirewallPolicy) : String := renderFirewallPolicyForNode p []

/-- The texts of an accepted policy have no character that JSON escapes. -/
def jsonString (s : String) : String := "\"" ++ s ++ "\""

def ruleJSON (r : FirewallRule) : String :=
  let optional (name value : String) : String :=
    if value = "" then "" else "," ++ jsonString name ++ ":" ++ jsonString value
  "\x7b\"proto\":" ++ jsonString r.proto ++ ",\"port\":" ++ jsonString r.port ++ optional "group" r.group ++
    optional "host" r.host ++ optional "peer_node_id" r.peerNodeID ++
    optional "target_group" r.targetGroup ++ optional "target_node_id" r.targetNodeID ++ "\x7d"

def policyJSON (p : FirewallPolicy) : String :=
  "\x7b\"mode\":" ++ jsonString p.mode.text ++ ",\"renderer_version\":" ++ toString p.rendererVersion ++
    ",\"inbound\":[" ++ joinWith "," (p.inbound.map ruleJSON) ++ "],\"outbound\":[" ++
    joinWith "," (p.outbound.map ruleJSON) ++ "]\x7d"

def firewallPolicySHA256 (p : FirewallPolicy) : String :=
  if ¬ firewallPolicyUsesNodeScopes p then configDigest (renderFirewallPolicy p)
  else configDigest ("mesh-firewall-policy-v1\n" ++ policyJSON p)

def firewallRuleTargetsNode (r : FirewallRule) (n : Node) : Bool :=
  if r.targetNodeID ≠ "" then r.targetNodeID == n.id
  else if r.targetGroup ≠ "" then r.targetGroup ∈ n.groups
  else true

/-- The rule as the node receives it: targets are gone and a peer node is its address. -/
def compileFirewallRule (s : State) (n : Node) (r : FirewallRule) : Option FirewallRule :=
  if ¬ firewallRuleTargetsNode r n then none
  else if r.peerNodeID = "" then some { r with targetGroup := "", targetNodeID := "" }
  else
    match findNode s r.peerNodeID with
    | some peer =>
      if peer.networkID ≠ n.networkID then none
      else some { r with targetGroup := "", targetNodeID := "", peerNodeID := "", host := peer.ip }
    | none => none

def compileFirewallRulesForNode (s : State) (n : Node) (rules : List FirewallRule) : List FirewallRule :=
  rules.filterMap (compileFirewallRule s n)

def effectiveFirewallPolicyForNode (s : State) (n : Node) (p : FirewallPolicy) : FirewallPolicy :=
  { p with inbound := compileFirewallRulesForNode s n p.inbound,
           outbound := compileFirewallRulesForNode s n p.outbound }

/-! ## Canary rollouts -/

/-- Canaries of a running rollout receive the target policy, all others the active one. -/
def firewallPolicyForNode (w : Network) (n : Node) : FirewallPolicy :=
  if w.firewallRollout.phase = .canary ∧ n.id ∈ w.firewallRollout.canaryNodeIDs then
    w.firewallRollout.targetPolicy
  else w.firewallPolicy

end Mesh
