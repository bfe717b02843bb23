import Mesh.Control.Reservations
import Mesh.Control.RouteChanges

/-!
# Mesh.Control.StagedRoutes

The routes a certificate carries while a route-profile edit is staged. They come from
`mergeSubnets`, which normalizes the two lists one after the other and drops the error. The
normalizer takes no prefix twice (`normalizeRoutedSubnets_eq_ok`), whereas the transition check counts
a prefix of both lists once. So an edit that keeps a prefix is accepted and staged with no routes
at all, and the staged routes are the union of the lists only where they have no prefix in common
(`stagedRoutes_union_iff`).
-/

namespace Mesh

open Address

/-! ## What the normalizer accepts -/

/-- A text `parseCanonicalRoutedSubnet` accepts. -/
def RouteText (value : String) : Prop := ∃ p, parseCanonicalRoutedSubnet value = .ok p

variable {value r r' : String} {values out left right original desired : List String}

theorem RouteText.canonical (h : RouteText value) : CanonicalRoute value := by
  obtain ⟨p, hp⟩ := h
  exact (parseCanonicalRoutedSubnet_spec hp).1

theorem RouteText.parse (h : RouteText value) : parseCanonicalRoutedSubnet value = .ok (storedSubnet value) := by
  obtain ⟨p, hp⟩ := h
  rw [hp, (parseCanonicalRoutedSubnet_spec hp).2]

/-- Trimmed texts are read to their prefixes when each is canonical and none was seen before. -/
theorem parseRoutedSubnets_eq_ok (htrim : ∀ v ∈ values, trimSpace v = v) :
    ∀ {index : Nat} {seen ps : List Subnet}, parseRoutedSubnets index seen values = .ok ps ↔
      ps = values.map storedSubnet ∧ (∀ v ∈ values, RouteText v) ∧ (values.map storedSubnet).Nodup ∧
        ∀ v ∈ values, storedSubnet v ∉ seen := by
  induction values with
  | nil =>
    intro index seen ps
    simp [parseRoutedSubnets, eq_comm]
  | cons v values ih =>
    intro index seen ps
    have hv : trimSpace v = v := htrim v List.mem_cons_self
    have ih' := @ih fun u hu => htrim u (List.mem_cons_of_mem _ hu)
    simp only [parseRoutedSubnets, bind_eq_ok, exists_unit, mapError_eq_ok, pure_eq_ok, reject_eq_ok, ih', hv,
      List.map_cons, List.nodup_cons, List.mem_cons, not_or, List.mem_map, forall_eq_or_imp]
    constructor
    · rintro ⟨p, hp, hseen, qs, ⟨rfl, htexts, hnodup, hfresh⟩, rfl⟩
      obtain ⟨-, rfl⟩ := parseCanonicalRoutedSubnet_spec hp
      refine ⟨rfl, ⟨⟨_, hp⟩, htexts⟩, ⟨?_, hnodup⟩, hseen, fun u hu => (hfresh u hu).2⟩
      rintro ⟨u, hu, heq⟩
      exact (hfresh u hu).1 heq
    · rintro ⟨rfl, ⟨hv, htexts⟩, ⟨hnew, hnodup⟩, hseen, hfresh⟩
      exact ⟨_, hv.parse, hseen, _,
        ⟨rfl, htexts, hnodup, fun u hu => ⟨fun heq => hnew ⟨u, hu, heq⟩, hfresh u hu⟩⟩, rfl⟩

theorem checkNeighbours_eq_ok {ps : List Subnet} :
    checkNeighbours ps = .ok () ↔ ps.IsChain fun p q => prefixesOverlap p q ≠ true := by
  induction ps with
  | nil => simp [checkNeighbours]
  | cons p ps ih =>
    cases ps with
    | nil => simp [checkNeighbours]
    | cons q ps =>
      rw [checkNeighbours, bind_unit_eq_ok, reject_eq_ok, ih, List.isChain_cons_cons]

theorem sortSubnets_perm (ps : List Subnet) : (sortSubnets ps).Perm ps := List.perm_insertionSort _ ps

theorem sortSubnets_pairwise (ps : List Subnet) :
    (sortSubnets ps).Pairwise fun p q => p.le q = true := by
  have : Std.Total fun p q : Subnet => p.le q = true := ⟨le_total⟩
  have : IsTrans Subnet fun p q => p.le q = true := ⟨fun _ _ _ => le_trans⟩
  exact List.pairwise_insertionSort _ ps

/-- The two prefixes have no address in common. -/
def Apart (r r' : String) : Prop := prefixesOverlap (storedSubnet r) (storedSubnet r') ≠ true

theorem Apart.symm (h : Apart r r') : Apart r' r := by
  rwa [Apart, prefixesOverlap_comm]

theorem Apart.ne (h : Apart r r') : storedSubnet r ≠ storedSubnet r' := by
  intro heq
  rw [Apart, heq] at h
  exact h (prefixesOverlap_self _)

/-- The normalizer takes at most eight canonical texts of prefixes that are apart, and sorts them. -/
theorem normalizeRoutedSubnets_eq_ok (htrim : ∀ v ∈ values, trimSpace v = v) :
    normalizeRoutedSubnets values = .ok out ↔
      out = (sortSubnets (values.map storedSubnet)).map Subnet.text ∧
        values.length ≤ maxRoutedSubnetsPerNode ∧ (∀ v ∈ values, RouteText v) ∧ values.Pairwise Apart := by
  simp only [normalizeRoutedSubnets, bind_eq_ok, exists_unit, reject_eq_ok, not_lt, pure_eq_ok,
    parseRoutedSubnets_eq_ok htrim, checkNeighbours_eq_ok]
  have hperm := sortSubnets_perm (values.map storedSubnet)
  have hsort : (sortSubnets (values.map storedSubnet)).Pairwise (fun p q => prefixesOverlap p q ≠ true) ↔
      values.Pairwise Apart := by
    rw [hperm.pairwise_iff fun {p q} h => prefixesOverlap_comm p q ▸ h, List.pairwise_map]
    exact Iff.rfl
  constructor
  · rintro ⟨hlen, ps, ⟨rfl, htexts, -, -⟩, hchain, rfl⟩
    refine ⟨rfl, hlen, htexts, ?_⟩
    -- neighbours of the sorted prefixes are apart, hence any two of them, in whatever order
    have hsorted := pairwise_of_neighbours (f := id) (C := fun _ _ => False) False.elim (fun h _ => h)
      (sortSubnets_pairwise _) hchain
    exact hsort.mp hsorted
  · rintro ⟨rfl, hlen, htexts, hapart⟩
    have hnodup : (values.map storedSubnet).Nodup := List.pairwise_map.mpr (hapart.imp Apart.ne)
    refine ⟨hlen, _, ⟨rfl, htexts, hnodup, fun _ _ => List.not_mem_nil⟩, ?_, rfl⟩
    exact (hsort.mpr hapart).isChain

theorem validateCanonicalRoutedSubnets_texts (h : validateCanonicalRoutedSubnets values = .ok ()) :
    (∀ v ∈ values, RouteText v) ∧ values.Pairwise Apart := by
  have htrim : ∀ v ∈ values, trimSpace v = v := fun v hv =>
    (validateCanonicalRoutedSubnets_spec h v hv).trimmed
  simp only [validateCanonicalRoutedSubnets, bind_eq_ok] at h
  obtain ⟨out, hout, -⟩ := h
  exact ((normalizeRoutedSubnets_eq_ok htrim).mp hout).2.2

/-! ## The union of two lists -/

/-- The list has the values of both lists, each of them once, in the order of their prefixes. -/
structure SortedUnion (left right out : List String) : Prop where
  mem : ∀ r, r ∈ out ↔ r ∈ left ∨ r ∈ right
  nodup : out.Nodup
  sorted : out.Pairwise fun r r' => (storedSubnet r).le (storedSubnet r') = true

theorem SortedUnion.of_normalized (htexts : ∀ v ∈ left ++ right, RouteText v)
    (h : normalizeRoutedSubnets (left ++ right) = .ok out) : SortedUnion left right out := by
  obtain ⟨rfl, -, -, hapart⟩ :=
    (normalizeRoutedSubnets_eq_ok fun v hv => (htexts v hv).canonical.trimmed).mp h
  have htext : ∀ v ∈ left ++ right, (storedSubnet v).text = v := fun v hv => (htexts v hv).canonical.text
  have hsubnets : (left ++ right).map (Subnet.text ∘ storedSubnet) = left ++ right :=
    (List.map_congr_left (g := id) htext).trans (List.map_id _)
  have hperm : ((sortSubnets ((left ++ right).map storedSubnet)).map Subnet.text).Perm (left ++ right) := by
    have := (sortSubnets_perm ((left ++ right).map storedSubnet)).map Subnet.text
    rwa [List.map_map, hsubnets] at this
  refine ⟨fun r => ?_, ?_, ?_⟩
  · rw [hperm.mem_iff, List.mem_append]
  · rw [hperm.nodup_iff]
    exact hapart.imp fun {a b} (hab : Apart a b) => mt (congrArg storedSubnet) hab.ne
  · refine List.pairwise_map.mpr (List.Pairwise.imp_of_mem (fun {p q} hp hq hpq => ?_) (sortSubnets_pairwise _))
    have hread : ∀ p ∈ sortSubnets ((left ++ right).map storedSubnet), storedSubnet p.text = p := by
      intro p hp
      obtain ⟨v, hv, rfl⟩ := List.mem_map.mp ((sortSubnets_perm _).mem_iff.mp hp)
      rw [htext v hv]
    rwa [hread p hp, hread q hq]

/-- The merge of two lists is their union exactly when the normalizer takes them together; an error
leaves the empty list, which is the union of empty lists only. -/
theorem mergeSubnets_union_iff (hleft : ∀ v ∈ left, RouteText v) (hright : ∀ v ∈ right, RouteText v) :
    SortedUnion left right (mergeSubnets left right) ↔
      ∃ out, normalizeRoutedSubnets (left ++ right) = .ok out := by
  have htexts : ∀ v ∈ left ++ right, RouteText v := List.forall_mem_append.mpr ⟨hleft, hright⟩
  constructor
  · intro hunion
    cases hnorm : normalizeRoutedSubnets (left ++ right) with
    | ok out => exact ⟨out, rfl⟩
    | error e =>
      rw [mergeSubnets, hnorm] at hunion
      have hnil : left ++ right = [] := List.eq_nil_iff_forall_not_mem.mpr fun r hr =>
        List.not_mem_nil ((hunion.mem r).mpr (List.mem_append.mp hr))
      rw [hnil] at hnorm
      cases hnorm
  · rintro ⟨out, hout⟩
    rw [mergeSubnets, hout]
    exact .of_normalized htexts hout

/-- What the transition check says about canonical lists: what is added is apart from what the
node has, and the prefixes of either list, each counted once, are at most eight. -/
theorem validateRouteProfileTransition_spec (h : validateRouteProfileTransition original desired = .ok ()) :
    (∀ a ∈ subnetDifference desired original, ∀ r ∈ original, Apart a r) ∧
      original.length + (subnetDifference desired original).length ≤ maxRoutedSubnetsPerNode := by
  simp only [validateRouteProfileTransition, bind_eq_ok, exists_unit, checkAll_eq_ok, require_eq_ok, reject_eq_ok,
    not_lt] at h
  obtain ⟨hadded, hcount⟩ := h
  refine ⟨fun a ha r hr => ?_, hcount⟩
  obtain ⟨p, hp, hexisting⟩ := hadded a ha
  obtain ⟨q, hq, hpq⟩ := hexisting r hr
  rwa [Apart, storedSubnet_of_parsed hp, storedSubnet_of_parsed hq]

/-- Canonical lists of an accepted transition are taken together when they have no prefix in common. -/
theorem normalizeRoutedSubnets_append_iff (ho : validateCanonicalRoutedSubnets original = .ok ())
    (hd : validateCanonicalRoutedSubnets desired = .ok ())
    (ht : validateRouteProfileTransition original desired = .ok ()) :
    (∃ out, normalizeRoutedSubnets (original ++ desired) = .ok out) ↔ ∀ r ∈ original, r ∉ desired := by
  obtain ⟨hotexts, hoapart⟩ := validateCanonicalRoutedSubnets_texts ho
  obtain ⟨hdtexts, hdapart⟩ := validateCanonicalRoutedSubnets_texts hd
  obtain ⟨hadded, hcount⟩ := validateRouteProfileTransition_spec ht
  have htexts : ∀ v ∈ original ++ desired, RouteText v := List.forall_mem_append.mpr ⟨hotexts, hdtexts⟩
  have htrim : ∀ v ∈ original ++ desired, trimSpace v = v := fun v hv => (htexts v hv).canonical.trimmed
  constructor
  · rintro ⟨out, hout⟩ r hr hr'
    obtain ⟨-, -, -, hapart⟩ := (normalizeRoutedSubnets_eq_ok htrim).mp hout
    exact ((List.pairwise_append.mp hapart).2.2 r hr r hr').ne rfl
  · intro hdisjoint
    -- nothing is in both lists, so all that is desired is an addition
    have hall : subnetDifference desired original = desired :=
      List.filter_eq_self.mpr fun r hr => by simpa using fun hr' => hdisjoint r hr' hr
    rw [hall] at hadded hcount
    refine ⟨_, (normalizeRoutedSubnets_eq_ok htrim).mpr ⟨rfl, ?_, htexts, ?_⟩⟩
    · rwa [List.length_append]
    · exact List.pairwise_append.mpr ⟨hoapart, hdapart, fun r hr a ha => (hadded a ha r hr).symm⟩

/-! ## Staged edits -/

/-- While an accepted edit is staged, the certificate of its node carries the union of the two lists
exactly when they have no prefix in common. -/
theorem stagedRoutes_union_iff {w : Network} {n : Node}
    (hphase : w.routeProfileEdit.phase = .preparingOwner) (hnode : n.id = w.routeProfileEdit.nodeID)
    (ho : validateCanonicalRoutedSubnets w.routeProfileEdit.originalSubnets = .ok ())
    (hd : validateCanonicalRoutedSubnets w.routeProfileEdit.desiredSubnets = .ok ())
    (ht : validateRouteProfileTransition w.routeProfileEdit.originalSubnets
      w.routeProfileEdit.desiredSubnets = .ok ()) :
    (∃ routes, routeProfileCertificateRoutedSubnets w n = some routes ∧
      SortedUnion w.routeProfileEdit.originalSubnets w.routeProfileEdit.desiredSubnets routes) ↔
    ∀ r ∈ w.routeProfileEdit.originalSubnets, r ∉ w.routeProfileEdit.desiredSubnets := by
  have hstaged : routeProfileCertificateRoutedSubnets w n =
      some (mergeSubnets w.routeProfileEdit.originalSubnets w.routeProfileEdit.desiredSubnets) := by
    simp only [routeProfileCertificateRoutedSubnets, hnode, hphase, ne_eq, not_true_eq_false, if_false]
  rw [hstaged, ← normalizeRoutedSubnets_append_iff ho hd ht,
    ← mergeSubnets_union_iff (validateCanonicalRoutedSubnets_texts ho).1 (validateCanonicalRoutedSubnets_texts hd).1]
  constructor
  · rintro ⟨routes, heq, hunion⟩
    cases heq
    exact hunion
  · exact fun hunion => ⟨_, rfl, hunion⟩

/-- The first stage of an edit of one node, from the first list to the second. -/
def stagedEdit (original desired : List String) : Network where
  routeProfileEdit.phase := .preparingOwner
  routeProfileEdit.nodeID := "gateway"
  routeProfileEdit.originalSubnets := original
  routeProfileEdit.desiredSubnets := desired

theorem stagedRoutes_union_disjoint :
    SortedUnion ["10.61.0.0/24"] ["10.60.0.0/24"] ["10.60.0.0/24", "10.61.0.0/24"] := by
  obtain ⟨routes, heq, hunion⟩ := (stagedRoutes_union_iff (w := stagedEdit ["10.61.0.0/24"] ["10.60.0.0/24"])
    (n := { id := "gateway" }) rfl rfl (by decide +kernel) (by decide +kernel) (by decide +kernel)).mpr
      (by decide)
  have hroutes : routes = ["10.60.0.0/24", "10.61.0.0/24"] :=
    Option.some.inj (heq.symm.trans (by decide +kernel))
  exact hroutes ▸ hunion

/-- A gateway that has one prefix asks for a second one and keeps the first. The transition is
accepted, and the certificate of its first stage carries neither. -/
theorem stagedRoutes_lost :
    validateCanonicalRoutedSubnets ["10.60.0.0/24"] = .ok () ∧
    validateCanonicalRoutedSubnets ["10.60.0.0/24", "10.61.0.0/24"] = .ok () ∧
    validateRouteProfileTransition ["10.60.0.0/24"] ["10.60.0.0/24", "10.61.0.0/24"] = .ok () ∧
    routeProfileCertificateRoutedSubnets (stagedEdit ["10.60.0.0/24"] ["10.60.0.0/24", "10.61.0.0/24"])
      { id := "gateway" } = some [] ∧
    ¬ SortedUnion ["10.60.0.0/24"] ["10.60.0.0/24", "10.61.0.0/24"] [] := by
  refine ⟨by decide +kernel, by decide +kernel, by decide +kernel, by decide +kernel, fun h => ?_⟩
  exact List.not_mem_nil ((h.mem "10.60.0.0/24").mpr (by decide))

end Mesh
