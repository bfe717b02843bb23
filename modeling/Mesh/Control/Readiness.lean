import Mesh.Control.Health
import Mesh.Telemetry.Model

/-!
# Mesh.Control.Readiness

The three readiness checks that rest on telemetry records (`readiness.go`): UDP probes, client routes and member
DNS. Each goes over the records once, counts those that are current evidence for a node it requires, and passes
when as many were counted as it requires nodes. `ReadinessEvidence` is what tells the three apart.

A node with two records has no evidence, so the counted records have different nodes (`nodup_current`). All of
these nodes are required, so there are as many only if every required node is among them (`backed_of_count`).
-/

namespace Mesh

open Telemetry (Record validateRecord)

/-- `readinessSnapshot`, without the other networks, which only the check of managed routes reads. -/
structure ReadinessSnapshot where
  network : Network
  nodes : List Node
  lighthouses : List Node
  health : List FleetNodeHealth
  generatedAt : Int

inductive ReadinessStatus where
  | pass
  | warning
  | blocked
  | unknown
deriving DecidableEq, Repr

def millisecond : Int := 1000000

/-- `t.Sub(u)`, which stops at the ends of a `time.Duration`. -/
def timeSub (t u : Int) : Int := max (-maxInt64 - 1) (min maxInt64 (t - u))

def pluralSuffix (value : Nat) : String := if value = 1 then "" else "s"

/-! ## Evidence -/

/-- What a check requires and what it takes from a record: the age of the sample in milliseconds, and whether
the sample tells of a failure. -/
structure ReadinessEvidence where
  required : Node → Bool
  windowMS : Nat
  bounded : windowMS ≤ 90000
  sample : Record → Option (Nat × Bool)

namespace ReadinessEvidence

variable (k : ReadinessEvidence) (snapshot : ReadinessSnapshot) (records : List Record)

def requiredNodes : Nat := snapshot.nodes.countP k.required

/-- The body of the loop over the records: the time of the sample if the record counts. Of several nodes of one
identifier the last is in the map, and the same for the health of nodes. A record that passed its check has an
age below the window, so the age in nanoseconds does not overflow. -/
def current (r : Record) : Option (Int × Bool) := do
  guard (records.countP (·.nodeID = r.nodeID) = 1 ∧ validateRecord r = .ok ())
  let node ← Keyed.lookup Node.id r.nodeID snapshot.nodes.reverse
  let projected ← Keyed.lookup FleetNodeHealth.id r.nodeID snapshot.health.reverse
  guard (k.required node ∧ projected.operational ∧ projected.heartbeatSequence = r.heartbeatSequence)
  let (ageMS, failed) ← k.sample r
  let sampleAge := ageMS * millisecond
  let receiveAge := timeSub snapshot.generatedAt r.receivedAt.instant
  let freshness := k.windowMS * millisecond
  guard (r.receivedAt.instant ≤ snapshot.generatedAt ∧ 0 ≤ receiveAge ∧ sampleAge ≤ freshness ∧
    receiveAge ≤ freshness - sampleAge)
  pure (r.receivedAt.instant - sampleAge, failed)

def samples : List (Int × Bool) := records.filterMap (k.current snapshot records)

/-- The zero time stands for no sample yet. -/
def oldest : Int := (k.samples snapshot records).foldl (fun t p => if t = 0 ∨ p.1 < t then p.1 else t) 0

def failures : List (Int × Bool) := (k.samples snapshot records).filter (·.2)

def latestFailure : Int := (k.failures snapshot records).foldl (fun t p => if t = 0 ∨ t < p.1 then p.1 else t) 0

/-- The outcome of the loop. -/
def status : ReadinessStatus :=
  if 0 < (k.failures snapshot records).length then .blocked
  else if (k.samples snapshot records).length ≠ k.requiredNodes snapshot then .unknown
  else .pass

end ReadinessEvidence

/-! ## The checks -/

/-- The fields that the three results share. -/
structure ReadinessCheck where
  status : ReadinessStatus := .unknown
  evidenceSource : String := "not_observed"
  observed : Nat := 0
  required : Nat
  freshnessWindowSeconds : Nat
  evidenceAt : Option Int := none
  summary : String
  action : String

def readinessProbeTargetAllowed (rules : List FirewallRule) (target : Nat) : Bool :=
  rules.any fun r => (r.proto = "any" || r.proto = "icmp") && r.port = "any" &&
    (r.group = "all" || r.host = "any" || Address.parseAddr r.host = some (.v4 target) ||
      (Address.parsePrefix4 r.host).any (·.contains target))

/-- How many lighthouses are active, and how many of them the policy lets a probe reach. -/
def readinessProbeTargetCounts (policy : FirewallPolicy) (lighthouses : List Node) : Nat × Nat :=
  let active := lighthouses.filter (·.status = .active)
  (active.countP fun n =>
    match Address.parseAddr n.ip with
    | some (.v4 target) => readinessProbeTargetAllowed policy.outbound target
    | _ => false, active.length)

structure ReadinessUDPCheck extends ReadinessCheck where
  verifiedLighthouses : Int := 0
  requiredLighthouses : Int

/-- A probe of all lighthouses that were all reached. -/
def probeEvidence (snapshot : ReadinessSnapshot) (requiredLighthouses : Int) : ReadinessEvidence where
  required := activeMember
  windowMS := Telemetry.maxActiveProbeSampleAgeMS
  bounded := by decide
  sample r :=
    let (eligible, total) := readinessProbeTargetCounts snapshot.network.firewallPolicy snapshot.lighthouses
    if (total : Int) ≠ requiredLighthouses ∨ eligible ≠ total ∨ Telemetry.maxActiveProbeTargets < total ∨
      r.activeProbe.state ≠ .attempted ∨ r.activeProbe.attempted ≠ total ∨ r.activeProbe.replied ≠ total then none
    else r.activeProbe.sampleAgeMS.map (·, false)

def deriveReadinessUDP (snapshot : ReadinessSnapshot) (records : List Record) (requiredLighthouses : Int) :
    ReadinessUDPCheck :=
  let k := probeEvidence snapshot requiredLighthouses
  let result : ReadinessUDPCheck := {
    required := k.requiredNodes snapshot, requiredLighthouses := requiredLighthouses
    freshnessWindowSeconds := Telemetry.maxActiveProbeSampleAgeMS / 1000
    summary := "A configured endpoint and successful DNS lookup do not prove that public UDP packets reach Nebula."
    action := s!"Allow each public endpoint's UDP port and forward it to Nebula UDP {snapshot.network.listenPort}, " ++
      "then activate a member from an external network and confirm authenticated overlay traffic." }
  let observed := (k.samples snapshot records).length
  if k.requiredNodes snapshot = 0 ∨ requiredLighthouses = 0 ∨ Telemetry.maxActiveProbeTargets < requiredLighthouses ∨
    observed ≠ k.requiredNodes snapshot then result
  else { result with
    status := .pass, evidenceSource := "authenticated_member_active_probe", observed := observed
    verifiedLighthouses := requiredLighthouses, evidenceAt := some (k.oldest snapshot records)
    summary := s!"Fresh authenticated overlay replies reached all {requiredLighthouses} active lighthouses from all " ++
      s!"{observed} current active member{pluralSuffix observed}."
    action := "Keep every active member reporting current all-lighthouse probe evidence; loss or staleness returns " ++
      "this check to unverified." }

structure ReadinessClientRouteCheck extends ReadinessCheck where
  overlappingNodes : Nat := 0

def routeEvidence : ReadinessEvidence where
  required n := n.status = .active
  windowMS := Telemetry.maxRouteOverlapSampleAgeMS
  bounded := by decide
  sample r := if r.routeOverlap.state ≠ .observed then none
    else r.routeOverlap.sampleAgeMS.map (·, r.routeOverlap.overlap)

def deriveReadinessClientRoutes (snapshot : ReadinessSnapshot) (records : List Record) : ReadinessClientRouteCheck :=
  let k := routeEvidence
  let cidr := snapshot.network.cidr
  let result : ReadinessClientRouteCheck := {
    required := k.requiredNodes snapshot, freshnessWindowSeconds := Telemetry.maxRouteOverlapSampleAgeMS / 1000
    summary := "Current node route inventories have not all been observed for this configuration."
    action := s!"Run every active node's current Mesh agent and confirm that {cidr} does not overlap its non-default " ++
      "LAN, VPN, VPC, or policy routes." }
  let observed := (k.samples snapshot records).length
  let overlapping := (k.failures snapshot records).length
  if k.requiredNodes snapshot = 0 then result
  else
    match k.status snapshot records with
    | .blocked => { result with
        status := .blocked, evidenceSource := "authenticated_node_route_inventory", observed := observed
        overlappingNodes := overlapping, evidenceAt := some (k.latestFailure snapshot records)
        summary := s!"{overlapping} current active node{pluralSuffix overlapping} reported a non-default route " ++
          s!"overlapping {cidr}."
        action := "Choose an unused Mesh CIDR or remove the conflicting LAN, VPN, VPC, or policy route before relying " ++
          "on the overlay." }
    | .pass => { result with
        status := .pass, evidenceSource := "authenticated_node_route_inventory", observed := observed
        evidenceAt := some (k.oldest snapshot records)
        summary := s!"All {observed} active node{pluralSuffix observed} reported no non-default route overlapping {cidr}."
        action := "Re-run readiness after adding a node or changing LAN, VPN, VPC, or policy routes." }
    | _ => result

structure ReadinessMemberDNSCheck extends ReadinessCheck where
  failingMembers : Nat := 0
  dnsNames : Int

def dnsEvidence (requiredNames : Int) : ReadinessEvidence where
  required := activeMember
  windowMS := Telemetry.maxEndpointDNSSampleAgeMS
  bounded := by decide
  sample r := if r.endpointDNS.state ≠ .observed ∨ (r.endpointDNS.dnsNames : Int) ≠ requiredNames then none
    else r.endpointDNS.sampleAgeMS.map (·, decide (r.endpointDNS.resolvedNames ≠ r.endpointDNS.dnsNames))

def deriveReadinessMemberDNS (snapshot : ReadinessSnapshot) (records : List Record) (requiredNames : Int) :
    ReadinessMemberDNSCheck :=
  let k := dnsEvidence requiredNames
  let result : ReadinessMemberDNSCheck := {
    required := k.requiredNodes snapshot, dnsNames := requiredNames
    freshnessWindowSeconds := Telemetry.maxEndpointDNSSampleAgeMS / 1000
    summary := "Current member-side resolution has not been observed for every active member."
    action := "Run every active member's current Mesh agent and confirm its resolver can reach every active " ++
      "lighthouse DNS name." }
  let observed := (k.samples snapshot records).length
  let failing := (k.failures snapshot records).length
  if k.requiredNodes snapshot = 0 ∨ requiredNames < 0 ∨ Telemetry.maxEndpointDNSNames < requiredNames then result
  else
    match k.status snapshot records with
    | .blocked => { result with
        status := .blocked, evidenceSource := "authenticated_member_dns_resolution", observed := observed
        failingMembers := failing, evidenceAt := some (k.latestFailure snapshot records)
        summary := s!"{failing} current active member{pluralSuffix failing} could not resolve every configured " ++
          "lighthouse DNS name."
        action := "Correct member DNS, split-horizon records, or resolver reachability before relying on this " ++
          "overlay." }
    | .pass => { result with
        status := .pass, evidenceSource := "authenticated_member_dns_resolution", observed := observed
        evidenceAt := some (k.oldest snapshot records)
        summary := if requiredNames = 0 then s!"All {observed} active member{pluralSuffix observed} confirmed that " ++
          "lighthouse endpoints use IP literals, so member DNS is not required."
          else s!"All {observed} active member{pluralSuffix observed} resolved all {requiredNames} configured " ++
            s!"lighthouse DNS name{pluralSuffix requiredNames.toNat}."
        action := "Re-run readiness after adding a member or changing lighthouse endpoints or member DNS." }
    | _ => result

/-! ## Counting -/

namespace ReadinessEvidence

variable {k : ReadinessEvidence} {snapshot : ReadinessSnapshot} {records : List Record} {r : Record} {p : Int × Bool}

/-- What it takes for a record to count. -/
structure Current (k : ReadinessEvidence) (snapshot : ReadinessSnapshot) (records : List Record) (r : Record)
    (failed : Bool) : Prop where
  once : records.countP (·.nodeID = r.nodeID) = 1
  valid : validateRecord r = .ok ()
  node : ∃ n ∈ snapshot.nodes, n.id = r.nodeID ∧ k.required n = true
  health : ∃ h ∈ snapshot.health, h.id = r.nodeID ∧ h.operational = true ∧ h.heartbeatSequence = r.heartbeatSequence
  sample : ∃ ageMS, k.sample r = some (ageMS, failed) ∧ r.receivedAt.instant ≤ snapshot.generatedAt ∧
    snapshot.generatedAt - k.windowMS * millisecond ≤ r.receivedAt.instant - ageMS * millisecond

theorem current_spec (h : k.current snapshot records r = some p) :
    Current k snapshot records r p.2 := by
  simp only [current, bind, Option.bind_eq_some_iff, Option.guard_eq_some', exists_const, pure, Option.some.injEq,
    Prod.exists] at h
  obtain ⟨⟨honce, hvalid⟩, node, hnode, projected, hprojected, ⟨hrequired, hoperational, hsequence⟩, ageMS, failed,
    hsample, ⟨hpast, -, hage, hreceived⟩, rfl⟩ := h
  refine ⟨honce, hvalid, ⟨node, List.mem_reverse.mp (Keyed.mem_of_lookup hnode), Keyed.key_of_lookup hnode, hrequired⟩,
    ⟨projected, List.mem_reverse.mp (Keyed.mem_of_lookup hprojected), Keyed.key_of_lookup hprojected, hoperational,
      hsequence⟩, ageMS, hsample, hpast, ?_⟩
  have hwindow := k.bounded
  unfold timeSub maxInt64 millisecond at hreceived
  unfold millisecond at hage ⊢
  omega

theorem current_congr {records' : List Record}
    (h : records.countP (·.nodeID = r.nodeID) = records'.countP (·.nodeID = r.nodeID)) :
    k.current snapshot records r = k.current snapshot records' r := by
  simp only [current, h]

/-- The records that count. -/
def counted (k : ReadinessEvidence) (snapshot : ReadinessSnapshot) (records : List Record) : List Record :=
  records.filter fun r => (k.current snapshot records r).isSome

theorem length_samples : (k.samples snapshot records).length = (k.counted snapshot records).length := by
  rw [samples, counted, List.length_filterMap_eq_countP, List.countP_eq_length_filter]

/-- No two records that count are of one node. -/
theorem nodup_current : ((k.counted snapshot records).map Record.nodeID).Nodup := by
  rw [List.nodup_iff_count_le_one]
  intro id
  by_cases hid : id ∈ (k.counted snapshot records).map Record.nodeID
  · obtain ⟨r, hr, rfl⟩ := List.mem_map.mp hid
    obtain ⟨p, hp⟩ := Option.isSome_iff_exists.mp (List.mem_filter.mp hr).2
    rw [List.count, List.countP_map, ← (current_spec hp).once]
    exact List.filter_sublist.countP_le.trans (List.countP_mono_left fun q _ hq => by simpa using hq)
  · rw [List.count_eq_zero_of_not_mem hid]
    exact Nat.zero_le 1

/-- As many records as required nodes count only if each required node has one. -/
theorem backed_of_count (h : (k.samples snapshot records).length = k.requiredNodes snapshot) {n : Node}
    (hn : n ∈ snapshot.nodes) (hrequired : k.required n = true) :
    ∃ r, ∃ p ∈ k.samples snapshot records, records.filter (·.nodeID = n.id) = [r] ∧ r.nodeID = n.id ∧
      Current k snapshot records r p.2 := by
  have hsub : (k.counted snapshot records).map Record.nodeID ⊆ (snapshot.nodes.filter k.required).map Node.id := by
    intro id hid
    obtain ⟨r, hr, rfl⟩ := List.mem_map.mp hid
    obtain ⟨p, hp⟩ := Option.isSome_iff_exists.mp (List.mem_filter.mp hr).2
    obtain ⟨m, hm, hmid, hmr⟩ := (current_spec hp).node
    exact List.mem_map.mpr ⟨m, List.mem_filter.mpr ⟨hm, hmr⟩, hmid⟩
  have hlength : ((snapshot.nodes.filter k.required).map Node.id).length ≤
      ((k.counted snapshot records).map Record.nodeID).length := by
    rw [List.length_map, List.length_map, ← length_samples, h, requiredNodes, List.countP_eq_length_filter]
  have hperm := (nodup_current.subperm hsub).perm_of_length_le hlength
  have hid : n.id ∈ (k.counted snapshot records).map Record.nodeID :=
    hperm.mem_iff.mpr (List.mem_map.mpr ⟨n, List.mem_filter.mpr ⟨hn, hrequired⟩, rfl⟩)
  obtain ⟨r, hr, hrid⟩ := List.mem_map.mp hid
  obtain ⟨hmem, hsome⟩ := List.mem_filter.mp hr
  obtain ⟨p, hp⟩ := Option.isSome_iff_exists.mp hsome
  have hcurrent := current_spec hp
  have hone := hcurrent.once
  rw [List.countP_eq_length_filter, List.length_eq_one_iff, hrid] at hone
  obtain ⟨x, hx⟩ := hone
  have hrx : r ∈ [x] := hx ▸ List.mem_filter.mpr ⟨hmem, by simpa using hrid⟩
  exact ⟨r, p, List.mem_filterMap.mpr ⟨r, hmem, hp⟩, List.mem_singleton.mp hrx ▸ hx, hrid, hcurrent⟩

/-- A passing check has as many samples as it requires, and none that tells of a failure. -/
theorem status_pass : k.status snapshot records = .pass ↔
    k.failures snapshot records = [] ∧ (k.samples snapshot records).length = k.requiredNodes snapshot := by
  unfold status
  split_ifs with hf hs
  · simp [List.ne_nil_of_length_pos hf]
  · simp [hs]
  · simp only [true_iff]
    exact ⟨List.eq_nil_of_length_eq_zero (by omega), not_not.mp hs⟩

/-- A record of a node that is not required does not count among any records. -/
theorem current_eq_none (h : ∀ n ∈ snapshot.nodes, n.id = r.nodeID → k.required n = false) :
    k.current snapshot records r = none := by
  rw [Option.eq_none_iff_forall_ne_some]
  intro p hp
  obtain ⟨n, hn, hnid, hrequired⟩ := (current_spec hp).node
  rw [h n hn hnid] at hrequired
  cases hrequired

/-- Records of nodes that are not required neither count nor keep others from counting. -/
theorem samples_perm {extra records' : List Record}
    (hextra : ∀ r ∈ extra, ∀ n ∈ snapshot.nodes, n.id = r.nodeID → k.required n = false)
    (hperm : records'.Perm (records ++ extra)) :
    (k.samples snapshot records').Perm (k.samples snapshot records) := by
  have hsame : k.current snapshot records' = k.current snapshot records := by
    funext r
    by_cases hr : ∃ q ∈ extra, q.nodeID = r.nodeID
    · obtain ⟨q, hq, hid⟩ := hr
      have hnot : ∀ n ∈ snapshot.nodes, n.id = r.nodeID → k.required n = false :=
        fun n hn hnid => hextra q hq n hn (hnid.trans hid.symm)
      rw [current_eq_none hnot, current_eq_none hnot]
    · have hzero : extra.countP (·.nodeID = r.nodeID) = 0 := by
        rw [List.countP_eq_zero]
        intro q hq
        simpa using fun hid => hr ⟨q, hq, hid⟩
      refine current_congr ?_
      rw [hperm.countP_eq, List.countP_append, hzero, Nat.add_zero]
  have hnone : extra.filterMap (k.current snapshot records) = [] :=
    List.filterMap_eq_nil_iff.mpr fun r hr => current_eq_none (hextra r hr)
  unfold samples
  rw [hsame]
  refine (hperm.filterMap _).trans ?_
  rw [List.filterMap_append, hnone, List.append_nil]

theorem status_perm {records' : List Record} (h : (k.samples snapshot records').Perm (k.samples snapshot records)) :
    k.status snapshot records' = k.status snapshot records := by
  unfold status failures
  rw [(h.filter _).length_eq, h.length_eq]

end ReadinessEvidence

/-! ## What a pass rests on -/

/-- A node has one record, which is valid, of its current heartbeat while it is operational, sampled within the
window before the report, and a success. -/
def ReadinessBacked (snapshot : ReadinessSnapshot) (records : List Record) (windowMS : Nat)
    (success : Record → Nat → Prop) (n : Node) : Prop :=
  ∃ (r : Record) (ageMS : Nat), records.filter (·.nodeID = n.id) = [r] ∧ validateRecord r = .ok () ∧
    (∃ h ∈ snapshot.health, h.id = n.id ∧ h.operational = true ∧ h.heartbeatSequence = r.heartbeatSequence) ∧
    r.receivedAt.instant ≤ snapshot.generatedAt ∧
    snapshot.generatedAt - windowMS * millisecond ≤ r.receivedAt.instant - ageMS * millisecond ∧ success r ageMS

section Checks

variable {snapshot : ReadinessSnapshot} {records records' : List Record} {lighthouses names : Int}

theorem ReadinessEvidence.backed {k : ReadinessEvidence} {success : Record → Nat → Prop}
    (hsuccess : ∀ r ageMS p, p ∈ k.samples snapshot records → k.sample r = some (ageMS, p.2) → success r ageMS)
    (h : (k.samples snapshot records).length = k.requiredNodes snapshot) {n : Node} (hn : n ∈ snapshot.nodes)
    (hrequired : k.required n = true) : ReadinessBacked snapshot records k.windowMS success n := by
  obtain ⟨r, p, hp, hone, hid, hc⟩ := k.backed_of_count h hn hrequired
  obtain ⟨ageMS, hsample, hpast, hfresh⟩ := hc.sample
  exact ⟨r, ageMS, hone, hc.valid, hid ▸ hc.health, hpast, hfresh, hsuccess r ageMS p hp hsample⟩

theorem ReadinessEvidence.not_failed {k : ReadinessEvidence} (h : k.failures snapshot records = []) {p : Int × Bool}
    (hp : p ∈ k.samples snapshot records) : p.2 = false :=
  Bool.eq_false_iff.mpr (List.filter_eq_nil_iff.mp h p hp)

theorem deriveReadinessUDP_pass : (deriveReadinessUDP snapshot records lighthouses).status = .pass ↔
    ¬ ((probeEvidence snapshot lighthouses).requiredNodes snapshot = 0 ∨ lighthouses = 0 ∨
      Telemetry.maxActiveProbeTargets < lighthouses) ∧
    ((probeEvidence snapshot lighthouses).samples snapshot records).length =
      (probeEvidence snapshot lighthouses).requiredNodes snapshot := by
  simp only [deriveReadinessUDP]
  split_ifs with h
  · simp only [false_iff]
    tauto
  · simp only [true_iff]
    tauto

theorem deriveReadinessClientRoutes_pass : (deriveReadinessClientRoutes snapshot records).status = .pass ↔
    routeEvidence.requiredNodes snapshot ≠ 0 ∧ routeEvidence.status snapshot records = .pass := by
  simp only [deriveReadinessClientRoutes]
  split_ifs with h
  · simp [h]
  · cases hs : routeEvidence.status snapshot records <;> simp [h]

theorem deriveReadinessMemberDNS_pass : (deriveReadinessMemberDNS snapshot records names).status = .pass ↔
    ¬ ((dnsEvidence names).requiredNodes snapshot = 0 ∨ names < 0 ∨ Telemetry.maxEndpointDNSNames < names) ∧
    (dnsEvidence names).status snapshot records = .pass := by
  unfold deriveReadinessMemberDNS
  by_cases h : (dnsEvidence names).requiredNodes snapshot = 0 ∨ names < 0 ∨ Telemetry.maxEndpointDNSNames < names
  · simp [h]
  · simp only [h, if_false, not_false_eq_true, true_and]
    cases hs : (dnsEvidence names).status snapshot records <;> simp

end Checks

/-- Whatever the snapshot and the records are: a check that passes has for every node it requires one record that
backs it, and records of nodes that are not required, put anywhere among the others, make no check pass. -/
theorem readiness_pass_backed (snapshot : ReadinessSnapshot) (records : List Record) (lighthouses names : Int) :
    ((deriveReadinessUDP snapshot records lighthouses).status = .pass → ∀ n ∈ snapshot.nodes,
      activeMember n = true → ReadinessBacked snapshot records Telemetry.maxActiveProbeSampleAgeMS (fun r ageMS =>
        r.activeProbe.state = .attempted ∧ r.activeProbe.sampleAgeMS = some ageMS ∧
        (r.activeProbe.attempted : Int) = lighthouses ∧ (r.activeProbe.replied : Int) = lighthouses) n) ∧
    ((deriveReadinessClientRoutes snapshot records).status = .pass → ∀ n ∈ snapshot.nodes,
      n.status = .active → ReadinessBacked snapshot records Telemetry.maxRouteOverlapSampleAgeMS (fun r ageMS =>
        r.routeOverlap.state = .observed ∧ r.routeOverlap.sampleAgeMS = some ageMS ∧
        r.routeOverlap.overlap = false) n) ∧
    ((deriveReadinessMemberDNS snapshot records names).status = .pass → ∀ n ∈ snapshot.nodes,
      activeMember n = true → ReadinessBacked snapshot records Telemetry.maxEndpointDNSSampleAgeMS (fun r ageMS =>
        r.endpointDNS.state = .observed ∧ r.endpointDNS.sampleAgeMS = some ageMS ∧
        (r.endpointDNS.dnsNames : Int) = names ∧ r.endpointDNS.resolvedNames = r.endpointDNS.dnsNames) n) ∧
    ∀ extra records', records'.Perm (records ++ extra) →
      ((∀ r ∈ extra, ∀ n ∈ snapshot.nodes, n.id = r.nodeID → activeMember n = false) →
        ((deriveReadinessUDP snapshot records' lighthouses).status = .pass →
          (deriveReadinessUDP snapshot records lighthouses).status = .pass) ∧
        ((deriveReadinessMemberDNS snapshot records' names).status = .pass →
          (deriveReadinessMemberDNS snapshot records names).status = .pass)) ∧
      ((∀ r ∈ extra, ∀ n ∈ snapshot.nodes, n.id = r.nodeID → n.status ≠ .active) →
        (deriveReadinessClientRoutes snapshot records').status = .pass →
          (deriveReadinessClientRoutes snapshot records).status = .pass) := by
  refine ⟨fun h n hn hrequired => ?_, fun h n hn hrequired => ?_, fun h n hn hrequired => ?_,
    fun extra records' hperm => ⟨fun hextra => ⟨?_, ?_⟩, fun hextra => ?_⟩⟩
  · refine (probeEvidence snapshot lighthouses).backed (fun r ageMS p _ hs => ?_)
      (deriveReadinessUDP_pass.mp h).2 hn hrequired
    simp only [probeEvidence] at hs
    split_ifs at hs with hc
    simp only [not_or, not_not] at hc
    obtain ⟨htotal, -, -, hstate, hattempted, hreplied⟩ := hc
    obtain ⟨age, hage, heq⟩ := Option.map_eq_some_iff.mp hs
    obtain ⟨rfl, -⟩ := Prod.mk.inj heq
    exact ⟨hstate, hage, hattempted ▸ htotal, hreplied ▸ htotal⟩
  · obtain ⟨hf, hcount⟩ := ReadinessEvidence.status_pass.mp (deriveReadinessClientRoutes_pass.mp h).2
    refine routeEvidence.backed (fun r ageMS p hp hs => ?_) hcount hn (decide_eq_true hrequired)
    simp only [routeEvidence] at hs
    split_ifs at hs with hc
    obtain ⟨age, hage, heq⟩ := Option.map_eq_some_iff.mp hs
    obtain ⟨rfl, hoverlap⟩ := Prod.mk.inj heq
    exact ⟨not_not.mp hc, hage, hoverlap.trans (ReadinessEvidence.not_failed hf hp)⟩
  · obtain ⟨hf, hcount⟩ := ReadinessEvidence.status_pass.mp (deriveReadinessMemberDNS_pass.mp h).2
    refine (dnsEvidence names).backed (fun r ageMS p hp hs => ?_) hcount hn hrequired
    simp only [dnsEvidence] at hs
    split_ifs at hs with hc
    rw [not_or, not_not, not_not] at hc
    obtain ⟨age, hage, heq⟩ := Option.map_eq_some_iff.mp hs
    obtain ⟨rfl, hresolved⟩ := Prod.mk.inj heq
    rw [ReadinessEvidence.not_failed hf hp, decide_eq_false_iff_not, not_not] at hresolved
    exact ⟨hc.1, hage, hc.2, hresolved⟩
  · rw [deriveReadinessUDP_pass, deriveReadinessUDP_pass,
      (ReadinessEvidence.samples_perm hextra hperm).length_eq]
    exact fun h => h
  · rw [deriveReadinessMemberDNS_pass, deriveReadinessMemberDNS_pass,
      ReadinessEvidence.status_perm (ReadinessEvidence.samples_perm hextra hperm)]
    exact fun h => h
  · rw [deriveReadinessClientRoutes_pass, deriveReadinessClientRoutes_pass, ReadinessEvidence.status_perm
      (ReadinessEvidence.samples_perm (fun r hr n hn hid => decide_eq_false (hextra r hr n hn hid)) hperm)]
    exact fun h => h

/-! ### A member and a lighthouse -/

namespace Readied

def health (id : String) : FleetNodeHealth where
  id := id
  name := id
  ip := ""
  routedSubnets := []
  site := ""
  failureDomain := ""
  role := .member
  lifecycleStatus := .active
  heartbeatSequence := 4
  phase := ""
  operational := true
  lastSeenAt := none
  agentStatus := .healthy
  nebulaRunning := true
  desiredConfigRevision := 1
  appliedConfigRevision := 1
  desiredCertificateGeneration := 1
  appliedCertificateGeneration := 1
  certificateExpiresAt := none
  certificateRenewAfter := none
  agentCredentialExpiresAt := none

def snapshot : ReadinessSnapshot where
  network := { id := "w", firewallPolicy := { outbound := [{ proto := "any", port := "any", host := "any" }] } }
  nodes := [{ id := "m", role := .member, status := .active }, { id := "l", role := .lighthouse, status := .active }]
  lighthouses := [{ id := "l", ip := "10.0.0.1", role := .lighthouse, status := .active }]
  health := [health "m", health "l"]
  generatedAt := Calendar.hour

def record (id : String) : Record where
  nodeID := id
  heartbeatSequence := 4
  receivedAt := ⟨Calendar.hour - Calendar.second, true⟩
  processContinuity := .unavailable
  observation := { version := 2, state := .unknown }
  activeProbe := { version := 1, state := .attempted, sampleAgeMS := some 29000, attempted := 1, replied := 1 }
  appliedConfigSHA256 := ""
  probeTransition := .unclassified
  routeOverlap := { version := 1, state := .observed, sampleAgeMS := some 0 }
  endpointDNS := { version := 1, state := .observed, sampleAgeMS := some 0 }

end Readied

/-- A sample just as old as the window allows, in records that let all three checks pass. -/
theorem readiness_pass_backed_member :
    (deriveReadinessClientRoutes Readied.snapshot [Readied.record "m", Readied.record "l"]).status = .pass ∧
    (deriveReadinessMemberDNS Readied.snapshot [Readied.record "m"] 0).status = .pass ∧
    ∀ n ∈ Readied.snapshot.nodes, activeMember n = true → ReadinessBacked Readied.snapshot [Readied.record "m"]
      Telemetry.maxActiveProbeSampleAgeMS (fun r ageMS => r.activeProbe.state = .attempted ∧
        r.activeProbe.sampleAgeMS = some ageMS ∧ (r.activeProbe.attempted : Int) = 1 ∧
        (r.activeProbe.replied : Int) = 1) n :=
  ⟨by decide +kernel, by decide +kernel,
    (readiness_pass_backed Readied.snapshot [Readied.record "m"] 1 0).1 (by decide +kernel)⟩

end Mesh
