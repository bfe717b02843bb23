import Mesh.Control.Addresses
import Mesh.Control.FirewallNormal

/-!
# Mesh.Control.ManagedDNS

Managed DNS stays reachable. While DNS is on, the active policy of a network and the target of its rollout both
have a rule that `firewallAllowsNetworkDNS` accepts: the validator demands it of every stored state. Such a rule
has no target and no peer node, so it reaches every node as it is written (`compileFirewallRule_of_allows`), and
it admits UDP packets to the port from every node of the network: each is in the group `all` and has its address
in the network (`admitsUDP_of_allows`).
-/

namespace Mesh

open Address

/-! ## What a compiled rule admits -/

/-- The addresses of a host selector; the renderer writes an address as the prefix of that address alone. -/
def hostPrefix (host : String) : Option Subnet :=
  if '/' ∈ host.toList then parsePrefix4 host else parsePrefix4 (host ++ "/32")

def FirewallPort.covers : FirewallPort → Int → Bool
  | .any, _ => true
  | .range first last, port => (first : Int) ≤ port && port ≤ (last : Int)

/-- Whether a rule as a node receives it lets a UDP packet of the peer through to the port. The selector is read
in the order in which the renderer looks for it. -/
def FirewallRule.admitsUDP (r : FirewallRule) (port : Int) (peer : Node) : Bool :=
  (r.proto = "any" ∨ r.proto = "udp") &&
    (parseCanonicalFirewallPort r.port).toOption.any (·.covers port) &&
    if r.group ≠ "" then r.group ∈ peer.groups
    else if r.host = "any" then true
    else (nodeAddress peer).any fun a => (hostPrefix r.host).any fun p => p.contains a

/-! ## Rules that cover the network -/

variable {s : State} {w : Network}

/-- What `firewallAllowsNetworkDNS` accepts, in a network with the prefix. -/
structure AllowsDNS (network : Subnet) (port : Int) (r : FirewallRule) : Prop where
  target : r.targetGroup = "" ∧ r.targetNodeID = ""
  proto : r.proto = "any" ∨ r.proto = "udp"
  ports : ∃ p, parseCanonicalFirewallPort r.port = .ok p ∧ p.covers port = true
  selector : r.group = "all" ∨ r.host = "any" ∨ r.host = network.text

variable {network subnet : Subnet} {port : Int} {r rule : FirewallRule} {p : FirewallPolicy} {selector : String}

theorem ruleAllowsNetworkDNS_eq_true : ruleAllowsNetworkDNS network port r = true ↔ AllowsDNS network port r := by
  simp only [ruleAllowsNetworkDNS, Bool.and_eq_true, Bool.or_eq_true, beq_iff_eq, or_assoc]
  constructor
  · rintro ⟨⟨⟨⟨hgroup, hnode⟩, hproto⟩, hport⟩, hselector⟩
    refine ⟨⟨hgroup, hnode⟩, hproto, ?_, hselector⟩
    cases hparse : parseCanonicalFirewallPort r.port with
    | error e => simp [hparse] at hport
    | ok p =>
      refine ⟨p, rfl, ?_⟩
      cases p with
      | any => rfl
      | range first last => simpa [hparse, FirewallPort.covers] using hport
  · rintro ⟨⟨hgroup, hnode⟩, hproto, ⟨p, hparse, hcovers⟩, hselector⟩
    refine ⟨⟨⟨⟨hgroup, hnode⟩, hproto⟩, ?_⟩, hselector⟩
    rw [hparse]
    cases p with
    | any => rfl
    | range first last => simpa [FirewallPort.covers] using hcovers

/-- A rule of a stored policy has one selector. -/
theorem selector_of_stored (h : validateStoredFirewallPolicy p w.cidr = .ok ()) (hr : r ∈ p.inbound) :
    ∃ network rule selector, RuleSelector network r rule selector := by
  simp only [validateStoredFirewallPolicy, bind_eq_ok, exists_unit, normalizeFirewallPolicy_eq_ok] at h
  obtain ⟨-, -, -, normalized, ⟨network, -, hnormal, -⟩, -⟩ := h
  obtain ⟨⟨rule, port, key⟩, hrule⟩ := hnormal.inbound_valid.normal r hr
  obtain ⟨-, selector, hselector, -⟩ := normalizeFirewallRule_eq_ok.mp hrule
  exact ⟨network, rule, selector, hselector⟩

/-- A rule that covers the network names no peer node and is compiled to itself. -/
theorem compileFirewallRule_of_allows (h : AllowsDNS network port r) (hs : RuleSelector subnet r rule selector)
    (n : Node) : compileFirewallRule s n r = some r := by
  obtain ⟨hgroup, hnode⟩ := h.target
  have hpeer : r.peerNodeID = "" := by
    cases hs with
    | group _ _ hpeer _ _ => exact hpeer
    | host _ _ hpeer _ => exact hpeer
    | peer hg hh _ _ =>
      rcases h.selector with hall | hany | hcidr
      · rw [hg] at hall
        exact absurd hall (by decide)
      · rw [hh] at hany
        exact absurd hany (by decide)
      · rw [hh] at hcidr
        have hslash : '/' ∈ network.text.toList := by simp [Subnet.text, String.toList_append]
        rw [← hcidr] at hslash
        exact absurd hslash (by decide)
  have htargets : firewallRuleTargetsNode r n = true := by simp [firewallRuleTargetsNode, hgroup, hnode]
  unfold compileFirewallRule
  rw [if_neg (not_not.mpr htargets), if_pos hpeer]
  cases r
  simp_all

theorem admitsUDP_of_allows (hv : ValidGraph s) (hc : Current s) (hw : w ∈ s.networks)
    (h : AllowsDNS (storedSubnet w.cidr) port r) (hs : RuleSelector subnet r rule selector) {peer : Node}
    (hpeer : peer ∈ s.nodes) (hnet : peer.networkID = w.id) : r.admitsUDP port peer = true := by
  obtain ⟨v, hv', hrecord⟩ := hv.nodeRecord hc hpeer
  obtain rfl : v = w := Option.some.inj (hv'.symm.trans (hv.findNetwork_iff.mpr ⟨hw, hnet.symm⟩))
  have hmanaged := hv.managed hc hw
  obtain ⟨p, hp, hcovers⟩ := h.ports
  have hselector : (if r.group ≠ "" then decide (r.group ∈ peer.groups)
      else if r.host = "any" then true
      else (nodeAddress peer).any fun a => (hostPrefix r.host).any fun p => p.contains a) = true := by
    rcases h.selector with hall | hany | hcidr
    · -- every node is in the group
      have hgroups := hrecord.groups
      simp only [validCanonicalNodeGroups, Bool.and_eq_true, decide_eq_true_eq] at hgroups
      rw [hall, if_pos (by decide)]
      exact decide_eq_true hgroups.2
    · have hgroup : r.group = "" := by
        cases hs with
        | group _ hhost _ _ _ =>
          rw [hhost] at hany
          exact absurd hany (by decide)
        | peer hgroup _ _ _ => exact hgroup
        | host hgroup _ _ _ => exact hgroup
      rw [if_neg (not_not.mpr hgroup), if_pos hany]
    · -- every node has its address in the network
      have hslash : '/' ∈ r.host.toList := by simp [hcidr, Subnet.text, String.toList_append]
      have hprefix : hostPrefix r.host = some (storedSubnet v.cidr) := by
        rw [hostPrefix, if_pos hslash, hcidr,
          parsePrefix4_text hmanaged.bound (hmanaged.upper.trans (by decide))]
      have hhost : r.host ≠ "" ∧ r.host ≠ "any" := by
        constructor <;> rintro hhost <;> rw [hhost] at hslash <;> exact absurd hslash (by decide)
      have hgroup : r.group = "" := by
        cases hs with
        | group _ hempty _ _ _ => exact absurd hempty hhost.1
        | peer hgroup _ _ _ => exact hgroup
        | host hgroup _ _ _ => exact hgroup
      have haddress := hrecord.address
      rw [hmanaged.parsed] at haddress
      rw [if_neg (not_not.mpr hgroup), if_neg hhost.2, hprefix]
      exact haddress
  simp only [FirewallRule.admitsUDP, Bool.and_eq_true, decide_eq_true_eq]
  exact ⟨⟨h.proto, by rw [hp]; exact hcovers⟩, hselector⟩

/-! ## Stored policies -/

/-- The policies a network holds: the active one and, during a rollout, its target. -/
def Network.holdsPolicy (w : Network) (p : FirewallPolicy) : Prop :=
  p = w.firewallPolicy ∨ w.firewallRollout.phase ≠ .stable ∧ p = w.firewallRollout.targetPolicy

/-- Both are canonical, and allow DNS while it is on. -/
theorem NetworkRecord.held (h : NetworkRecord s w) (hp : w.holdsPolicy p) :
    validateStoredFirewallPolicy p w.cidr = .ok () ∧
      (w.dnsSettings.enabled = true → firewallAllowsNetworkDNS p w.cidr w.dnsSettings.listenPort = true) := by
  rcases hp with rfl | ⟨hphase, rfl⟩
  · have hdns := h.dns
    simp only [validateNetworkDNSInvariant, bind_unit_eq_ok, reject_eq_ok, not_and, Decidable.not_not] at hdns
    exact ⟨h.policy, hdns.2⟩
  · have hrollout := h.rollout
    simp only [validateNetworkFirewallRollout, if_neg hphase, bind_unit_eq_ok, reject_eq_ok, mapError_eq_ok,
      not_and, Decidable.not_not] at hrollout
    obtain ⟨-, -, -, -, -, hpolicy, -, -, hdns, -⟩ := hrollout
    exact ⟨hpolicy, hdns⟩

/-- In every state that is reached, while DNS is on, the inbound rules that a node receives of the active policy
or of the target of a rollout admit the packets of every node of the network to the port. -/
theorem dns_stays_reachable {env : Env} {world : World} (hr : World.Reachable env world) {v : Network}
    (hv : v ∈ world.state.networks) (hdns : v.dnsSettings.enabled = true) {p : FirewallPolicy}
    (hp : v.holdsPolicy p) (resolver : Node) {peer : Node} (hpeer : peer ∈ world.state.nodes)
    (hnet : peer.networkID = v.id) :
    ∃ r ∈ compileFirewallRulesForNode world.state resolver p.inbound,
      r.admitsUDP v.dnsSettings.listenPort peer = true := by
  have hs := World.sound hr
  obtain ⟨hstored, hallows⟩ := (hs.valid.networkRecord hs.current hv).held hp
  have hrules := hallows hdns
  unfold firewallAllowsNetworkDNS at hrules
  split at hrules
  · rename_i network hparsed
    rw [← storedSubnet_of_parsed hparsed] at hrules
    obtain ⟨r, hr, hrule⟩ := List.any_eq_true.mp hrules
    have hcovers := ruleAllowsNetworkDNS_eq_true.mp hrule
    obtain ⟨subnet, rule, selector, hselector⟩ := selector_of_stored hstored hr
    exact ⟨r, List.mem_filterMap.mpr ⟨r, hr, compileFirewallRule_of_allows hcovers hselector resolver⟩,
      admitsUDP_of_allows hs.valid hs.current hv hcovers hselector hpeer hnet⟩
  · cases hrules

/-- A lighthouse, DNS on one port, and a rollout to a policy that leaves open that port only. -/
def dnsRun : World.Passed (World.playLast (stepEval.1 Setting.env) Setting.start
    [Setting.network, Setting.node 2 { name := "", role := "lighthouse", publicEndpoint := "192.0.2.1:4242" },
      Setting.claim 2 (Setting.minutes 3), .issue 0 (Setting.certificate 1) "e2" (Setting.minutes 4),
      .op { eventID := "e3", now := Setting.minutes 5 } (.updateNetworkDNS "w1"
        { expectedConfigRevision := 2, enabled := true, listenPort := 53, nativeResolver := false
          searchDomain := "" })]
    (.op { eventID := "e4", now := Setting.minutes 6 } (.updateNetworkFirewallRollout "w1"
      { action := .start, expectedConfigRevision := 3, canaryNodeIDs := some ["n2"]
        inbound := some [{ proto := "udp", port := "53", host := "10.0.0.0/24" }]
        outbound := some [{ proto := "any", port := "any", host := "any" }] })) fun _ w =>
    w.state.networks.any fun v => decide (v.dnsSettings.enabled ∧ v.firewallRollout.phase = .canary) &&
      w.state.nodes.any fun n => isActiveLighthouse v.id n) where
  holds := by decide +kernel

theorem dns_stays_reachable_canary :
    ∃ world : World, World.Reachable Setting.env world ∧ ∃ v ∈ world.state.networks,
      v.dnsSettings.enabled = true ∧ v.firewallRollout.phase = .canary ∧
      ∃ n ∈ world.state.nodes, isActiveLighthouse v.id n = true ∧
        ∃ r ∈ compileFirewallRulesForNode world.state n v.firewallRollout.targetPolicy.inbound,
          r.admitsUDP v.dnsSettings.listenPort n = true := by
  obtain ⟨w₁, w₂, hr, hstep, h⟩ := World.playLast_spec Setting.start_reachable dnsRun.holds
  simp only [List.any_eq_true, Bool.and_eq_true, decide_eq_true_eq] at h
  obtain ⟨v, hv, ⟨hdns, hphase⟩, n, hn, hserves⟩ := h
  have hnet : n.networkID = v.id := by
    simp only [isActiveLighthouse, Bool.and_eq_true, beq_iff_eq] at hserves
    exact hserves.1.1
  have hheld : v.holdsPolicy v.firewallRollout.targetPolicy := .inr ⟨by rw [hphase]; decide, rfl⟩
  exact ⟨w₂, .next hr hstep, v, hv, hdns, hphase, n, hn, hserves,
    dns_stays_reachable (.next hr hstep) hv hdns hheld n hn hnet⟩

end Mesh
