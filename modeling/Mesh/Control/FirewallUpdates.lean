import Mesh.Control.Render

/-!
# Mesh.Control.FirewallUpdates

Changing the firewall of a network, at once or through a rollout: a rollout starts on a few canaries,
may pause and resume, and ends by promotion to the whole network or by being rolled back. Every
change gives the network a new revision.
-/

namespace Mesh

def firewallScopeError : Failure := conflict "firewall scope schema is not current"

def firewallDNSError (port : Int) : Failure :=
  conflict ("firewall must keep UDP port " ++ toString port ++
    " available from all managed nodes while network DNS is enabled")

/-- Enabled DNS needs the policy to let every node reach it. -/
def firewallBlocksDNS (w : Network) (p : FirewallPolicy) : Bool :=
  w.dnsSettings.enabled && !firewallAllowsNetworkDNS p w.cidr w.dnsSettings.listenPort

structure UpdateFirewallPolicyInput where
  expectedConfigRevision : Int
  inbound : Option (List FirewallRule)
  outbound : Option (List FirewallRule)

def updateFirewallPolicy (actor : Option Actor) (networkID : String) (input : UpdateFirewallPolicyInput)
    (eventID : String) (now : Int) (s : State) : Result State := do
  reject (input.expectedConfigRevision < 1) (invalid "expected_config_revision must be positive")
  let w ← require (findNetwork s networkID) errNotFound
  let desired ← normalizeFirewallPolicy input.inbound input.outbound w.cidr
  validateFirewallPolicyReferences s w desired
  reject (firewallPolicyUsesNodeScopes desired ∧ s.version < controlStateVersionFirewallScopes)
    firewallScopeError
  reject (firewallBlocksDNS w desired) (firewallDNSError w.dnsSettings.listenPort)
  if sameEffectiveFirewallPolicy w.firewallPolicy desired then pure s
  else
    reject (w.firewallRollout.phase ≠ .stable)
      (conflict "direct firewall updates are disabled during a canary rollout")
    reject (routeTransferActive w.routeTransfer)
      (conflict "direct firewall updates are disabled during a route transfer")
    reject (routeProfileEditActive w.routeProfileEdit)
      (conflict "direct firewall updates are disabled during a route-profile edit")
    reject (input.expectedConfigRevision ≠ w.configRevision)
      (revisionConflict input.expectedConfigRevision w.configRevision)
    let nextRevision ← nextConfigRevision w.configRevision true
    let event ← newOptionalAttributedAudit eventID now "network.firewall_policy_updated" "network" w.id [
      ("old_sha256", .str (firewallPolicySHA256 w.firewallPolicy)),
      ("new_sha256", .str (firewallPolicySHA256 desired)),
      ("inbound_rules", .int desired.inbound.length), ("outbound_rules", .int desired.outbound.length),
      ("config_revision", .int nextRevision)] actor
    pure (addAudit (putNetwork s { w with
      firewallPolicy := desired, configRevision := nextRevision, configUpdatedAt := now }) event)

/-! ## Rollouts -/

inductive FirewallRolloutAction where
  | start
  | promote
  | pause
  | resume
  | rollback
deriving DecidableEq

/-- A list that was not sent is `none`. -/
structure UpdateNetworkFirewallRolloutInput where
  action : FirewallRolloutAction
  expectedConfigRevision : Int
  canaryNodeIDs : Option (List String)
  inbound : Option (List FirewallRule)
  outbound : Option (List FirewallRule)

def canonicalCanaryNodeIDs (input : Option (List String)) : Result (List String) := do
  let ids ← require (input.filter fun ids => 1 ≤ ids.length ∧ ids.length ≤ maxFirewallRolloutCanaries)
    (invalid ("canary_node_ids must contain 1 through " ++ toString maxFirewallRolloutCanaries ++
      " active nodes"))
  reject (¬ ids.all validPersistedID) (invalid "canary_node_ids contains an invalid node ID")
  reject (hasEqualNeighbours (sortStrings ids)) (invalid "canary_node_ids must not contain duplicates")
  pure (sortStrings ids)

/-- The canaries of an input; only a start has any. -/
def rolloutCanaries (input : UpdateNetworkFirewallRolloutInput) : Result (List String) := do
  if input.action ≠ .start then
    reject (input.canaryNodeIDs.isSome ∨ input.inbound.isSome ∨ input.outbound.isSome)
      (invalid "only start accepts canary_node_ids, inbound, and outbound")
    pure []
  else
    let ids ← canonicalCanaryNodeIDs input.canaryNodeIDs
    reject (input.inbound = none ∨ input.outbound = none)
      (invalid "start requires inbound and outbound JSON arrays")
    pure ids

def isActiveIn (networkID : String) (n : Node) : Bool := n.networkID == networkID && n.status == .active

def startedRollout (target : FirewallPolicy) (canaries : List String) (now nextRevision : Int) :
    NetworkFirewallRollout where
  phase := .canary
  targetPolicy := target
  canaryNodeIDs := canaries
  startedAt := now
  stageConfigRevision := nextRevision

/-- What an action does to the network, the name of its event and the details it adds. -/
def applyFirewallRollout (input : UpdateNetworkFirewallRolloutInput) (canaries : List String)
    (now nextRevision : Int) (s : State) (w : Network) : Result (Network × String × AuditDetails) := do
  let r := w.firewallRollout
  let canaryNodes : String × AuditValue := ("canary_nodes", .int r.canaryNodeIDs.length)
  match input.action with
  | .start =>
    reject (w.caRotation.phase ≠ .stable ∨ r.phase ≠ .stable ∨ routeTransferActive w.routeTransfer ∨
        routeProfileEditActive w.routeProfileEdit)
      (conflict "firewall rollout can only start while CA and firewall state are stable")
    let target ← normalizeFirewallPolicy input.inbound input.outbound w.cidr
    validateFirewallPolicyReferences s w target
    reject (firewallPolicyUsesNodeScopes target ∧ s.version < controlStateVersionFirewallScopes)
      firewallScopeError
    reject (sameEffectiveFirewallPolicy w.firewallPolicy target)
      (conflict "firewall rollout target must differ from the active policy")
    reject (firewallBlocksDNS w target) (firewallDNSError w.dnsSettings.listenPort)
    checkAll (fun id => reject (¬ (findNode s id).any (isActiveIn w.id))
      (conflict ("canary \"" ++ id ++ "\" is not an active node in this network"))) canaries
    pure ({ w with firewallRollout := startedRollout target canaries now nextRevision },
      "network.firewall_rollout_started",
      [("old_sha256", .str (firewallPolicySHA256 w.firewallPolicy)),
        ("target_sha256", .str (firewallPolicySHA256 target)), ("canary_node_ids", .strs canaries),
        ("canary_nodes", .int canaries.length), ("inbound_rules", .int target.inbound.length),
        ("outbound_rules", .int target.outbound.length)])
  | .promote =>
    reject (r.phase ≠ .canary) (conflict "no firewall canary is available to promote")
    checkAll (fun id => reject (¬ (findNode s id).any (firewallRolloutNodeConverged s w))
      (conflict "every canary must apply the exact signed target config before promotion"))
      r.canaryNodeIDs
    pure ({ w with firewallPolicy := r.targetPolicy, firewallRollout := {} },
      "network.firewall_rollout_promoted",
      [("old_sha256", .str (firewallPolicySHA256 w.firewallPolicy)),
        ("new_sha256", .str (firewallPolicySHA256 r.targetPolicy)), canaryNodes])
  | .pause =>
    reject (r.phase ≠ .canary) (conflict "only an active firewall canary can be paused")
    pure ({ w with firewallRollout := { r with phase := .paused, pausedAt := now } },
      "network.firewall_rollout_paused",
      [("target_sha256", .str (firewallPolicySHA256 r.targetPolicy)),
        ("retained_sha256", .str (firewallPolicySHA256 w.firewallPolicy)), canaryNodes])
  | .resume =>
    reject (r.phase ≠ .paused) (conflict "only a paused firewall rollout can be resumed")
    pure ({ w with firewallRollout :=
        { r with phase := .canary, pausedAt := 0, stageConfigRevision := nextRevision } },
      "network.firewall_rollout_resumed",
      [("target_sha256", .str (firewallPolicySHA256 r.targetPolicy)), canaryNodes])
  | .rollback =>
    reject (r.phase ≠ .canary ∧ r.phase ≠ .paused)
      (conflict "no firewall canary is available to roll back")
    pure ({ w with firewallRollout := {} }, "network.firewall_rollout_rolled_back",
      [("retained_sha256", .str (firewallPolicySHA256 w.firewallPolicy)),
        ("discarded_sha256", .str (firewallPolicySHA256 r.targetPolicy)), canaryNodes])

def updateNetworkFirewallRollout (actor : Option Actor) (networkID : String)
    (input : UpdateNetworkFirewallRolloutInput) (eventID : String) (now : Int) (s : State) :
    Result State := do
  reject (¬ validPersistedID networkID ∨ input.expectedConfigRevision < 1)
    (invalid "network ID and expected_config_revision are required")
  let canaries ← rolloutCanaries input
  reject (now = 0) (internal "firewall rollout requires a valid timestamp")
  reject (s.version < controlStateVersionFirewallPause ∨ controlStateVersionFirewallScopes < s.version)
    (conflict "firewall rollout schema is not current")
  let w ← require (findNetwork s networkID) errNotFound
  reject (w.configRevision ≠ input.expectedConfigRevision)
    (revisionConflict input.expectedConfigRevision w.configRevision)
  let nextRevision ← nextConfigRevision w.configRevision true
  let (w', action, details) ← applyFirewallRollout input canaries now nextRevision s w
  let event ← newOptionalAttributedAudit eventID now action "network" w.id
    ([("previous_config_revision", .int w.configRevision), ("config_revision", .int nextRevision)] ++
      details) actor
  pure (addAudit (putNetwork s { w' with configRevision := nextRevision, configUpdatedAt := now }) event)

end Mesh
