import Mesh.Control.NodeSteps
import Mesh.Control.Play

/-!
# Mesh.Control.Retirement

A retired network is gone from the records; what keeps its name, its address space and its identifier
from coming back is one audit event. The log only grows (`World.audit_of_later`), and the validator
reads every retirement in it against the networks that there are.
-/

namespace Mesh

variable {s : State}

/-! ## Details of an event -/

variable {eventID id name cidr networkID : String} {now : Int} {actor : Option Actor} {e : AuditEvent}
  {input : RetireNetworkInput}

/-- What an event was made with is there, whoever the actor. -/
theorem newOptionalAttributedAudit_get {action resource key : String} {details : AuditDetails}
    {value : AuditValue} (h : newOptionalAttributedAudit eventID now action resource id details actor = .ok e)
    (hget : details.get key = some value) : AuditDetails.get e.details key = some value := by
  cases actor with
  | none =>
    simp only [newOptionalAttributedAudit, Except.ok.injEq] at h
    exact h ▸ hget
  | some actor =>
    simp only [newOptionalAttributedAudit, newAttributedAudit, bind_unit_eq_ok, pure_eq_ok] at h
    obtain ⟨-, -, rfl⟩ := h
    simp only [AuditDetails.get, newAudit] at hget ⊢
    rw [List.lookup_append, hget]
    rfl

/-! ## Reservations -/

/-- A retirement event keeps its network away: identifier, name and address space. -/
structure Reserves (e : AuditEvent) (id name cidr : String) : Prop where
  action : e.action = networkRetiredAuditAction
  id : e.resourceID = id
  name : AuditDetails.get e.details "name" = some (.str name)
  cidr : AuditDetails.get e.details "cidr" = some (.str cidr)

theorem parseRetiredNetworkReservation_spec {r : RetiredNetworkReservation} (he : Reserves e id name cidr)
    (h : parseRetiredNetworkReservation e = .ok r) : r.id = id ∧ r.name = name ∧ r.cidr = cidr := by
  simp only [parseRetiredNetworkReservation, bind_eq_ok, exists_unit, require_eq_ok, pure_eq_ok,
    AuditDetails.text?, he.name, he.cidr, Option.filter_eq_some_iff, Option.some.injEq] at h
  obtain ⟨-, _, ⟨rfl, -⟩, _, ⟨rfl, -⟩, -, _, -, _, -, _, -, _, -, _, -, -, -, rfl⟩ := h
  exact ⟨he.id, rfl, rfl⟩

/-- No network of a valid state stands against a retirement in its log. -/
theorem ValidGraph.reserved (hv : ValidGraph s) (hmem : e ∈ s.audit) (he : Reserves e id name cidr)
    {u : Network} (hu : u ∈ s.networks) :
    u.id ≠ id ∧ equalFold u.name name = false ∧ cidrsOverlap u.cidr cidr = false := by
  obtain ⟨r, hparse, hall⟩ := (validateRetiredNetworkReservations_eq_ok.mp hv.retired).1 e
    (by simp [actionEvents, hmem, he.action])
  obtain ⟨rfl, rfl, rfl⟩ := parseRetiredNetworkReservation_spec he hparse
  have hfree := hall u hu
  simp only [RetiredNetworkReservation.clashes, Bool.or_eq_false_iff, beq_eq_false_iff_ne] at hfree
  exact ⟨hfree.1.1, hfree.1.2, hfree.2⟩

/-- So it has no node or enrollment of the network either. -/
theorem ValidGraph.no_node (hv : ValidGraph s) (hid : ∀ u ∈ s.networks, u.id ≠ id) {n : Node} (hn : n ∈ s.nodes) :
    n.networkID ≠ id := by
  obtain ⟨w, hw, hwid, -⟩ := hv.nodeNetwork hn
  exact hwid ▸ hid w hw

theorem retireNetwork_spec {s' : State} (h : retireNetwork actor networkID input eventID now s = .ok s') :
    ∃ r e, findNetwork s networkID = some r ∧ s'.audit = s.audit ++ [e] ∧ Reserves e networkID r.name r.cidr := by
  simp only [retireNetwork, bind_eq_ok, exists_unit, require_eq_ok, pure_eq_ok] at h
  obtain ⟨-, -, r, hr, -, -, e, hevent, rfl⟩ := h
  obtain ⟨-, haction, -, hid, -⟩ := newOptionalAttributedAudit_spec hevent
  exact ⟨r, e, hr, rfl, haction, hid, newOptionalAttributedAudit_get hevent rfl,
    newOptionalAttributedAudit_get hevent rfl⟩

/-! ## Ever after -/

namespace World

variable {env : Env} {w w' : World}

theorem audit_of_later (hr : Reachable env w) (h : Runs.Later (Step env) w w') :
    w.state.audit <+: w'.state.audit := by
  refine Runs.Later.invariant (I := fun v => w.state.audit <+: v.state.audit) (fun _ _ _ h => h) hr
    (List.prefix_refl _) ?_ h
  intro v a v' hv hkept hstep
  exact hkept.trans (step_transacted (sound hv) hstep.2).written.audit

theorem step_retireNetwork {c : Stamp} (h : w.step env (.op c (.retireNetwork networkID input)) = .ok w') :
    ∃ r e, findNetwork w.state networkID = some r ∧ w'.state.audit = w.state.audit ++ [e] ∧
      Reserves e networkID r.name r.cidr := by
  simp only [step, move, bind_eq_ok, commit_eq_ok, pure_eq_ok] at h
  obtain ⟨_, ⟨s₁, hrun, s', ⟨-, rfl⟩, rfl⟩, rfl⟩ := h
  exact retireNetwork_spec hrun

end World

/-- Once a network is retired, no later state has a network of its identifier, of its name under case
folding or of an address space that overlaps its own, nor a node or an enrollment of it; and the event of
the retirement keeps its place in the log. -/
theorem retired_networks_stay_retired {env : Env} {w w₁ v : World} {c : Stamp} {networkID : String}
    {input : RetireNetworkInput} (hr : World.Reachable env w)
    (hstep : World.Step env w (.op c (.retireNetwork networkID input)) w₁)
    (hlater : Runs.Later (World.Step env) w₁ v) :
    ∃ r e, findNetwork w.state networkID = some r ∧
      (∀ u ∈ v.state.networks, u.id ≠ networkID ∧ equalFold u.name r.name = false ∧
        cidrsOverlap u.cidr r.cidr = false) ∧
      (∀ n ∈ v.state.nodes, n.networkID ≠ networkID) ∧
      (∀ t ∈ v.state.enrollments, ∃ n, findNode v.state t.nodeID = some n ∧ n.networkID ≠ networkID) ∧
      w₁.state.audit = w.state.audit ++ [e] ∧ Reserves e networkID r.name r.cidr ∧
      w₁.state.audit <+: v.state.audit := by
  obtain ⟨r, e, hfound, haudit, hreserves⟩ := World.step_retireNetwork hstep.2
  have hr₁ : World.Reachable env w₁ := .next hr hstep
  have hkept := World.audit_of_later hr₁ hlater
  have hv := (World.sound (hr₁.later hlater)).valid
  have hmem : e ∈ v.state.audit := hkept.subset (by simp [haudit])
  have hnodes : ∀ n ∈ v.state.nodes, n.networkID ≠ networkID := fun n hn =>
    hv.no_node (fun u hu => (hv.reserved hmem hreserves hu).1) hn
  refine ⟨r, e, hfound, fun u hu => hv.reserved hmem hreserves hu, hnodes, fun t ht => ?_, haudit, hreserves,
    hkept⟩
  obtain ⟨n, hn⟩ := Option.ne_none_iff_exists'.mp (hv.enrollments t ht).node
  exact ⟨n, hn, hnodes n (mem_of_findNode hn)⟩

/-! ## A retirement, and the next network -/

def retireFirst : Action :=
  .op { eventID := "e3", now := Setting.minutes 5 } (.retireNetwork "w1" ⟨1, "net"⟩)

def nextNetwork : Action :=
  .op { eventID := "e4", now := Setting.minutes 6 } (.createNetwork ⟨"other", "10.1.0.0/24", 0, 0⟩ {
    caCertificate := "ca"
    caKey := "key"
    encryptedCAKey := Base64.encode (List.replicate 64 1)
    configSigningPublicKey := "6kpsY-KcUgq-9VB7Ey7F-ZVHdq6-vnuSQh7qaRRG0iw"
    encryptedConfigSigningKey := Base64.encode (List.replicate 92 3) } "w2")

theorem retired_then_next :
    World.playThen (stepEval.1 Setting.env) Setting.start [Setting.network] retireFirst [nextNetwork]
      (fun _ _ v => v.state.networks.any (·.id == "w2")) = true := by
  decide +kernel

theorem retired_networks_stay_retired_next :
    ∃ w w₁ v r, World.Reachable Setting.env w ∧ World.Step Setting.env w retireFirst w₁ ∧
      Runs.Later (World.Step Setting.env) w₁ v ∧ findNetwork w.state "w1" = some r ∧
      (∃ u ∈ v.state.networks, u.id = "w2") ∧
      ∀ u ∈ v.state.networks, u.id ≠ "w1" ∧ equalFold u.name r.name = false ∧
        cidrsOverlap u.cidr r.cidr = false := by
  obtain ⟨w, w₁, v, hr, hstep, hplay, hcheck⟩ := World.playThen_spec Setting.start_reachable retired_then_next
  have hlater := World.later_of_play hplay
  obtain ⟨r, e, hfound, hfree, -⟩ := retired_networks_stay_retired hr hstep hlater
  simp only [List.any_eq_true, beq_iff_eq] at hcheck
  exact ⟨w, w₁, v, r, hr, hstep, hlater, hfound, hcheck, hfree⟩

end Mesh
