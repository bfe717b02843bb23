import Mesh.Control.Counters
import Mesh.Control.Play
import Mesh.Control.View

/-!
# Mesh.Control.Rollouts

Firewall rollouts over runs. A rollout stages a target policy for its canaries beside the active policy.
The active policy moves only when the rollout is promoted, on evidence of every canary
(`policy_of_rollout`); so whatever ends a rollout otherwise leaves the policy it began with
(`policy_of_rolloutRun`), and each node is then rendered from that one again.
-/

namespace Mesh

variable {s s' : State} {w w' : Network} {n n' : Node}

/-! ## Which policy a node is rendered from -/

/-- A node that is not a canary, and every node of a network whose rollout is not running, has the active
policy. -/
theorem firewallPolicyForNode_active (h : w.firewallRollout.phase ≠ .canary ∨
    n.id ∉ w.firewallRollout.canaryNodeIDs) : firewallPolicyForNode w n = w.firewallPolicy :=
  if_neg fun ⟨hphase, hmem⟩ => h.elim (· hphase) (· hmem)

/-- The firewall section that the active policy gives a node. -/
def activeFirewall (s : State) (w : Network) (n : Node) : String :=
  renderFirewallPolicyForNode (effectiveFirewallPolicyForNode s n w.firewallPolicy)
    (certificateRoutedSubnets w n)

theorem renderFirewall_active (h : w.firewallRollout.phase ≠ .canary ∨
    n.id ∉ w.firewallRollout.canaryNodeIDs) : renderFirewall s w n = activeFirewall s w n := by
  unfold renderFirewall activeFirewall
  rw [firewallPolicyForNode_active h]

/-- What a firewall section is rendered from beside the policy is the same. -/
structure SameFirewallInputs (s s' : State) (w w' : Network) (n n' : Node) : Prop where
  rules : SameRuleView s s' n n' w.firewallPolicy
  subnets : certificateRoutedSubnets w' n' = certificateRoutedSubnets w n

theorem activeFirewall_congr (hpolicy : w'.firewallPolicy = w.firewallPolicy)
    (h : SameFirewallInputs s s' w w' n n') : activeFirewall s' w' n' = activeFirewall s w n := by
  unfold activeFirewall
  rw [hpolicy, h.subnets, effectiveFirewallPolicyForNode_congr h.rules]

/-! ## Evidence -/

/-- The canary is active and reported the exact digest of its config at the exact revision. -/
structure CanaryReported (s : State) (w : Network) (n : Node) : Prop where
  active : n.status = .active
  revision : n.appliedConfigRevision = w.configRevision
  digest : n.appliedConfigSHA256 = configDigest (renderConfig s w n)

theorem canaryReported_of_converged (h : firewallRolloutNodeConverged s w n = true) :
    CanaryReported s w n := by
  unfold firewallRolloutNodeConverged at h
  split_ifs at h with hguard
  simp only [not_or, Decidable.not_not] at hguard
  simp only [Bool.and_eq_true, beq_iff_eq] at h
  obtain ⟨⟨⟨⟨hrevision, hdigest⟩, -⟩, -⟩, -⟩ := h
  exact ⟨hguard.2.1, hrevision, hdigest⟩

namespace World

variable {env : Env} {w w' : World} {a : Action} {v v' : Network}

/-! ## Steps during a rollout -/

theorem policy_of_rollout (hr : Reachable env w) (h : Step env w a w') (hv : v ∈ w.state.networks)
    (hv' : v' ∈ w'.state.networks) (hid : v'.id = v.id) (hphase : v.firewallRollout.phase ≠ .stable) :
    v'.firewallPolicy = v.firewallPolicy ∨ (a.promotes = some v.id ∧ RolloutConverged w.state v) := by
  cases (networkWritten_of_id hr h hv hv' hid).policy with
  | kept hkept => exact .inl hkept
  | replaced hstable => exact absurd hstable hphase
  | promoted hpromotes hconverged => exact .inr ⟨hpromotes, hconverged⟩

/-- The step that begins a rollout keeps the policy. -/
theorem policy_of_start (hr : Reachable env w) (h : Step env w a w') (hv : v ∈ w.state.networks)
    (hv' : v' ∈ w'.state.networks) (hid : v'.id = v.id) (hphase : v.firewallRollout.phase = .stable)
    (hphase' : v'.firewallRollout.phase ≠ .stable) : v'.firewallPolicy = v.firewallPolicy := by
  cases (networkWritten_of_id hr h hv hv' hid).policy with
  | kept hkept => exact hkept
  | replaced _ hrollout => exact absurd (hrollout ▸ hphase) hphase'
  | promoted _ hconverged => exact absurd hconverged.phase (by rw [hphase]; decide)

/-! ## Whole rollouts -/

/-- The network has a rollout. -/
def InRollout (networkID : String) (w : World) : Prop :=
  ∃ v ∈ w.state.networks, v.id = networkID ∧ v.firewallRollout.phase ≠ .stable

/-- Steps taken while the network has a rollout, of which none promotes it. -/
def RolloutStep (env : Env) (networkID : String) : World → Action → World → Prop :=
  Runs.Restrict (Step env) fun w a => InRollout networkID w ∧ a.promotes ≠ some networkID

theorem policy_of_rolloutRun {networkID : String} {p : FirewallPolicy} (hr : Reachable env w)
    (hp : ∀ u ∈ w.state.networks, u.id = networkID → u.firewallPolicy = p)
    (h : Runs.Later (RolloutStep env networkID) w w') :
    ∀ u ∈ w'.state.networks, u.id = networkID → u.firewallPolicy = p := by
  refine Runs.Later.invariant
    (I := fun w => ∀ u ∈ w.state.networks, u.id = networkID → u.firewallPolicy = p)
    (fun _ _ _ hstep => hstep.1) hr hp ?_ h
  rintro w a w' hr hkept ⟨hstep, ⟨v, hv, hid, hphase⟩, hpromotes⟩ v' hv' hid'
  -- the network is there before the step, so the one after it is this one written
  obtain hpolicy | ⟨hpromoted, -⟩ := policy_of_rollout hr hstep hv hv' (hid'.trans hid.symm) hphase
  · exact hpolicy.trans (hkept v hv hid)
  · exact absurd (hpromoted.trans (congrArg some hid)) hpromotes

/-- From before a rollout to after it, without promotion. -/
structure RolledBack (env : Env) (networkID : String) (w₀ w₁ w₂ : World) : Prop where
  before : ∀ v ∈ w₀.state.networks, v.id = networkID → v.firewallRollout.phase = .stable
  start : ∃ a, Step env w₀ a w₁
  started : InRollout networkID w₁
  run : Runs.Later (RolloutStep env networkID) w₁ w₂
  after : ∀ v ∈ w₂.state.networks, v.id = networkID → v.firewallRollout.phase = .stable

theorem RolledBack.policy {networkID : String} {w₀ w₁ w₂ : World} (hr : Reachable env w₀)
    (h : RolledBack env networkID w₀ w₁ w₂) {v₀ v₂ : Network} (hv₀ : v₀ ∈ w₀.state.networks)
    (hid₀ : v₀.id = networkID) (hv₂ : v₂ ∈ w₂.state.networks) (hid₂ : v₂.id = networkID) :
    v₂.firewallPolicy = v₀.firewallPolicy := by
  obtain ⟨a, hstep⟩ := h.start
  obtain ⟨u, hu, hid, hphase⟩ := h.started
  have hr₁ : Reachable env w₁ := .next hr hstep
  have hstart := policy_of_start hr hstep hv₀ hu (hid.trans hid₀.symm) (h.before v₀ hv₀ hid₀) hphase
  refine policy_of_rolloutRun hr₁ (fun u' hu' hid' => ?_) h.run v₂ hv₂ hid₂
  have : u' = u := Keyed.eq_of_key_eq (sound hr₁).valid.networkIDs hu' hu (hid'.trans hid.symm)
  exact this ▸ hstart

end World

/-! ## A rollout that is rolled back -/

/-- The only member becomes the canary of a policy that refuses all inbound traffic. -/
def startCanary : Action :=
  .op { eventID := "e3", now := Setting.minutes 5 } (.updateNetworkFirewallRollout "w1"
    { action := .start, expectedConfigRevision := 1, canaryNodeIDs := some ["n2"], inbound := some []
      outbound := some [{ proto := "any", port := "any", host := "any" }] })

def rollBackCanary : Action :=
  .op { eventID := "e4", now := Setting.minutes 6 } (.updateNetworkFirewallRollout "w1"
    { action := .rollback, expectedConfigRevision := 2, canaryNodeIDs := none, inbound := none
      outbound := none })

/-- The network and its only member, when there is one of each. -/
def soleMember (s : State) : Option (Network × Node) :=
  match s.networks, s.nodes with
  | [v], [n] => some (v, n)
  | _, _ => none

theorem soleMember_eq_some {v : Network} {n : Node} (h : soleMember s = some (v, n)) :
    s.networks = [v] ∧ s.nodes = [n] := by
  unfold soleMember at h
  split at h
  · rename_i hv hn
    simp only [Option.some.injEq, Prod.mk.injEq] at h
    exact ⟨h.1 ▸ hv, h.2 ▸ hn⟩
  · cases h

/-- What must be seen of the run. -/
def rollbackSeen (s₀ s₁ s₂ : State) : Bool :=
  match soleMember s₀, soleMember s₁, soleMember s₂ with
  | some (v₀, n₀), some (v₁, n₁), some (v₂, n₂) =>
    v₀.id == "w1" && v₁.id == "w1" && v₂.id == "w1" &&
      v₀.firewallRollout.phase == .stable && v₁.firewallRollout.phase == .canary &&
      v₂.firewallRollout.phase == .stable && n₂.status == .active &&
      n₂.id == n₀.id && n₂.networkID == n₀.networkID && n₂.groups == n₀.groups &&
      (v₀.firewallPolicy.inbound ++ v₀.firewallPolicy.outbound).all (·.peerNodeID == "") &&
      certificateRoutedSubnets v₂ n₂ == certificateRoutedSubnets v₀ n₀ &&
      !(renderFirewall s₁ v₁ n₁ == renderFirewall s₀ v₀ n₀)
  | _, _, _ => false

def canaryRolledBack : World.Passed
    (World.playThen (stepEval.1 Setting.env) Setting.start memberRun startCanary [rollBackCanary]
      (fun w₀ w₁ w₂ => rollbackSeen w₀.state w₁.state w₂.state)) where
  holds := by decide +kernel

theorem sameFirewallInputs_of_seen {s₀ s₂ : State} {v₀ v₂ : Network} {n₀ n₂ : Node} (hid : n₂.id = n₀.id)
    (hnet : n₂.networkID = n₀.networkID) (hgroups : n₂.groups = n₀.groups)
    (hpeers : ∀ r ∈ v₀.firewallPolicy.inbound ++ v₀.firewallPolicy.outbound, r.peerNodeID = "")
    (hsubnets : certificateRoutedSubnets v₂ n₂ = certificateRoutedSubnets v₀ n₀) :
    SameFirewallInputs s₀ s₂ v₀ v₂ n₀ n₂ :=
  ⟨⟨hid, hnet, hgroups, fun r hr hne => absurd (hpeers r hr) hne⟩, hsubnets⟩

end Mesh
