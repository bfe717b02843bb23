import Mathlib.Data.List.TakeWhile
import Mesh.Control.RouteGraph

/-!
# Mesh.Control.Reservations

What the check of the reserved address space says. It looks at neighbours of the sorted reservations;
since the addresses between two overlapping prefixes lie in one of the two, that is a statement about any two
of them (`ValidGraph.reservationsApart`): they overlap only as gateways of one network for one prefix, of
which there are at most eight. The check accepts whenever this holds (`validateReservedIPv4PrefixGraph_exact`).
-/

namespace Mesh

open Address

variable {s : State} {w : Network} {n : Node}

/-! ## Canonical texts -/

/-- The text is the canonical text of a prefix, which is the one that is read from it. -/
structure CanonicalRoute (value : String) : Prop where
  trimmed : trimSpace value = value
  parsed : parsePrefix4 value = some (storedSubnet value)
  masked : (storedSubnet value).IsMasked
  text : (storedSubnet value).text = value

theorem storedSubnet_of_parsed {value : String} {p : Subnet} (h : parsePrefix4 value = some p) :
    storedSubnet value = p := by
  rw [storedSubnet, h, Option.getD_some]

theorem CanonicalRoute.eq_of_subnet {a b : String} (ha : CanonicalRoute a) (hb : CanonicalRoute b)
    (h : storedSubnet a = storedSubnet b) : a = b := by
  rw [← ha.text, ← hb.text, h]

theorem parseCanonicalRoutedSubnet_spec {value : String} {p : Subnet}
    (h : parseCanonicalRoutedSubnet value = .ok p) : CanonicalRoute value ∧ storedSubnet value = p := by
  simp only [parseCanonicalRoutedSubnet, bind_eq_ok, exists_unit, reject_eq_ok, require_eq_ok, pure_eq_ok,
    Option.filter_eq_some_iff, decide_eq_true_eq, not_or, Decidable.not_not] at h
  obtain ⟨⟨-, htrim⟩, q, ⟨hq, hmasked, htext⟩, -, rfl⟩ := h
  have hstored := storedSubnet_of_parsed hq
  exact ⟨⟨htrim, hstored ▸ hq, hstored ▸ masked_eq_iff.mp hmasked.symm, hstored ▸ htext⟩, hstored⟩

variable {a b r : ReservedIPv4Prefix} {values : List String} {α : Type} {rs : List ReservedIPv4Prefix}

theorem parseRoutedSubnets_spec :
    ∀ {index : Nat} {seen ps : List Subnet}, parseRoutedSubnets index seen values = .ok ps →
      ps.map Subnet.text = values.map trimSpace ∧ ∀ v ∈ values, CanonicalRoute (trimSpace v) := by
  induction values with
  | nil =>
    intro index seen ps h
    cases h
    simp
  | cons v values ih =>
    intro index seen ps h
    simp only [parseRoutedSubnets, bind_eq_ok, exists_unit, mapError_eq_ok, pure_eq_ok] at h
    obtain ⟨p, hp, -, rest, hrest, rfl⟩ := h
    obtain ⟨hc, rfl⟩ := parseCanonicalRoutedSubnet_spec hp
    obtain ⟨htexts, hall⟩ := ih hrest
    refine ⟨by rw [List.map_cons, List.map_cons, hc.text, htexts], ?_⟩
    intro v' hv'
    rcases List.mem_cons.mp hv' with rfl | hv'
    · exact hc
    · exact hall v' hv'

/-- A normalized list has the trimmed values, in another order. -/
theorem normalizeRoutedSubnets_spec {out : List String} (h : normalizeRoutedSubnets values = .ok out) :
    out.Perm (values.map trimSpace) ∧ ∀ r ∈ out, CanonicalRoute r := by
  simp only [normalizeRoutedSubnets, bind_eq_ok, exists_unit, pure_eq_ok] at h
  obtain ⟨-, ps, hps, -, rfl⟩ := h
  obtain ⟨htexts, hall⟩ := parseRoutedSubnets_spec hps
  have hperm : ((sortSubnets ps).map Subnet.text).Perm (values.map trimSpace) :=
    htexts ▸ (List.perm_insertionSort _ ps).map _
  refine ⟨hperm, fun r hr => ?_⟩
  obtain ⟨v, hv, rfl⟩ := List.mem_map.mp (hperm.mem_iff.mp hr)
  exact hall v hv

theorem validateCanonicalRoutedSubnets_spec (h : validateCanonicalRoutedSubnets values = .ok ()) :
    ∀ r ∈ values, CanonicalRoute r := by
  simp only [validateCanonicalRoutedSubnets, bind_eq_ok, exists_unit, reject_eq_ok, Decidable.not_not] at h
  obtain ⟨out, hout, -, rfl⟩ := h
  exact (normalizeRoutedSubnets_spec hout).2

/-- A merge that succeeds has the values of both lists. -/
theorem mem_mergeSubnets {left right : List String} {r : String}
    (hleft : ∀ v ∈ left, CanonicalRoute v) (hright : ∀ v ∈ right, CanonicalRoute v)
    (h : ∃ out, normalizeRoutedSubnets (left ++ right) = .ok out) :
    r ∈ mergeSubnets left right ↔ r ∈ left ∨ r ∈ right := by
  obtain ⟨out, hout⟩ := h
  have htrim : (left ++ right).map trimSpace = left ++ right := by
    conv_rhs => rw [← List.map_id (left ++ right)]
    refine List.map_congr_left fun v hv => ?_
    rcases List.mem_append.mp hv with hv | hv
    · exact (hleft v hv).trimmed
    · exact (hright v hv).trimmed
  rw [mergeSubnets, hout]
  simp only [(normalizeRoutedSubnets_spec hout).1.mem_iff, htrim, List.mem_append]

namespace ValidGraph

theorem nodeRoutes (hv : ValidGraph s) (hc : Current s) (hn : n ∈ s.nodes) :
    ∀ r ∈ n.routedSubnets, CanonicalRoute r := by
  obtain ⟨w, -, hrec⟩ := hv.nodeRecord hc hn
  exact validateCanonicalRoutedSubnets_spec hrec.subnets

theorem editRoutes (hv : ValidGraph s) (hc : Current s) (hw : w ∈ s.networks)
    (ha : routeProfileEditActive w.routeProfileEdit = true) :
    ∀ r ∈ w.routeProfileEdit.desiredSubnets, CanonicalRoute r := by
  have h := (hv.networkRecord hc hw).edit
  simp only [validateNetworkRouteProfileEdit, if_neg (routeProfileEditActive_ne_default ha), bind_eq_ok,
    exists_unit, mapError_eq_ok] at h
  exact validateCanonicalRoutedSubnets_spec h.2.2.2.1

end ValidGraph

/-! ## The reservations of a state -/

def routeReservation (n : Node) (route : String) : ReservedIPv4Prefix :=
  ⟨storedSubnet route, n.id, n.networkID, .routedSubnet⟩

def managedReservation (w : Network) : ReservedIPv4Prefix :=
  ⟨storedSubnet w.cidr, w.id, w.id, .managedNetwork⟩

theorem mapAll_eq_map {β ε : Type} {f : α → Except ε β} {g : α → β} {xs : List α} {ys : List β}
    (hf : ∀ x ∈ xs, ∀ y, f x = .ok y → y = g x) (h : mapAll f xs = .ok ys) : ys = xs.map g := by
  rw [mapAll_eq_ok] at h
  induction h with
  | nil => rfl
  | cons hxy _ ih =>
    rw [List.map_cons, hf _ List.mem_cons_self _ hxy,
      ih fun x hx => hf x (List.mem_cons_of_mem _ hx)]

theorem nodeReservations_spec {e : Failure} (h : nodeReservations n e values = .ok rs) :
    rs = values.map (routeReservation n) := by
  refine mapAll_eq_map (fun value _ r hr => ?_) h
  simp only [bind_eq_ok, require_eq_ok, pure_eq_ok] at hr
  obtain ⟨p, hp, rfl⟩ := hr
  rw [routeReservation, storedSubnet_of_parsed hp]

/-- The additions an active edit stages and its node does not own yet. -/
def stagedRoutes (w : Network) (n : Node) : List String :=
  (routeProfileEditAdditions w.routeProfileEdit).filter fun v => v ∉ n.routedSubnets

/-- What a state reserves. -/
inductive HasReservation (s : State) : ReservedIPv4Prefix → Prop where
  | managed {w : Network} : w ∈ s.networks → HasReservation s (managedReservation w)
  | owned {n : Node} {route : String} : n ∈ s.nodes → n.status ≠ .revoked → route ∈ n.routedSubnets →
      HasReservation s (routeReservation n route)
  | staged {w : Network} {n : Node} {route : String} : w ∈ s.networks →
      routeProfileEditActive w.routeProfileEdit = true → findNode s w.routeProfileEdit.nodeID = some n →
      route ∈ stagedRoutes w n → HasReservation s (routeReservation n route)

theorem networkReservation_spec (h : networkReservation w = .ok r) : r = managedReservation w := by
  simp only [networkReservation, bind_eq_ok, require_eq_ok, pure_eq_ok] at h
  obtain ⟨p, hp, rfl⟩ := h
  rw [managedReservation, storedSubnet_of_parsed hp]

theorem mem_stagedReservations (h : stagedReservations s w = .ok rs) :
    r ∈ rs ↔ routeProfileEditActive w.routeProfileEdit = true ∧
      ∃ n, findNode s w.routeProfileEdit.nodeID = some n ∧
        ∃ route ∈ stagedRoutes w n, routeReservation n route = r := by
  unfold stagedReservations at h
  split_ifs at h with ha
  · simp only [bind_eq_ok, require_eq_ok] at h
    obtain ⟨n, hn, hrs⟩ := h
    rw [nodeReservations_spec hrs, List.mem_map]
    constructor
    · exact fun hr => ⟨ha, n, hn, hr⟩
    · rintro ⟨-, m, hm, hr⟩
      rw [hn, Option.some.injEq] at hm
      exact hm ▸ hr
  · rw [pure_eq_ok] at h
    simp [← h, ha]

theorem mem_of_forall₂_flatten {β : Type} {R : α → List β → Prop} {P : α → β → Prop}
    (hR : ∀ x ys, R x ys → ∀ y, y ∈ ys ↔ P x y) {xs : List α} {yss : List (List β)} (h : List.Forall₂ R xs yss)
    {y : β} : y ∈ yss.flatten ↔ ∃ x ∈ xs, P x y := by
  induction h with
  | nil => simp
  | cons hxy _ ih => simp [hR _ _ hxy, ih]

theorem mem_activeReservedIPv4Prefixes (h : activeReservedIPv4Prefixes s = .ok rs) : r ∈ rs ↔ HasReservation s r := by
  simp only [activeReservedIPv4Prefixes, bind_eq_ok, pure_eq_ok] at h
  obtain ⟨managed, hm, routed, hr, staged, hs, rfl⟩ := h
  have hmanaged : r ∈ managed ↔ ∃ w ∈ s.networks, managedReservation w = r := by
    rw [mapAll_eq_map (fun w _ r hr => networkReservation_spec hr) hm, List.mem_map]
  have hrouted : r ∈ routed.flatten ↔ ∃ n ∈ s.nodes.filter (fun n => n.status ≠ .revoked),
      ∃ route ∈ n.routedSubnets, routeReservation n route = r :=
    mem_of_forall₂_flatten (P := fun n r => ∃ route ∈ n.routedSubnets, routeReservation n route = r)
      (fun n ys hys y => by rw [nodeReservations_spec hys, List.mem_map]) (mapAll_eq_ok.mp hr)
  have hstaged : r ∈ staged.flatten ↔ ∃ w ∈ s.networks, routeProfileEditActive w.routeProfileEdit = true ∧
      ∃ n, findNode s w.routeProfileEdit.nodeID = some n ∧
        ∃ route ∈ stagedRoutes w n, routeReservation n route = r :=
    mem_of_forall₂_flatten (P := fun w r => routeProfileEditActive w.routeProfileEdit = true ∧
        ∃ n, findNode s w.routeProfileEdit.nodeID = some n ∧
          ∃ route ∈ stagedRoutes w n, routeReservation n route = r)
      (fun (w : Network) ys (hys : stagedReservations s w = .ok ys) y => mem_stagedReservations hys)
      (mapAll_eq_ok.mp hs)
  rw [List.mem_append, List.mem_append, hmanaged, hrouted, hstaged]
  constructor
  · rintro ((⟨w, hw, rfl⟩ | ⟨n, hn, route, hroute, rfl⟩) | ⟨w, hw, ha, n, hn, route, hroute, rfl⟩)
    · exact .managed hw
    · exact .owned (List.mem_of_mem_filter hn) (by simpa using List.of_mem_filter hn) hroute
    · exact .staged hw ha hn hroute
  · rintro (hw | ⟨hn, hst, hroute⟩ | ⟨hw, ha, hn, hroute⟩)
    · exact .inl (.inl ⟨_, hw, rfl⟩)
    · exact .inl (.inr ⟨_, List.mem_filter.mpr ⟨hn, by simpa using hst⟩, _, hroute, rfl⟩)
    · exact .inr ⟨_, hw, ha, _, hn, _, hroute, rfl⟩

/-! ## Neighbours -/

theorem sharedRoute_iff : sharedRoute a b = true ↔
    a.kind = .routedSubnet ∧ b.kind = .routedSubnet ∧ a.networkID = b.networkID ∧ a.subnet = b.subnet := by
  simp [sharedRoute, and_assoc]

theorem sharedRoute_trans {c : ReservedIPv4Prefix} (h : sharedRoute a b = true) (h' : sharedRoute b c = true) :
    sharedRoute a c = true := by
  rw [sharedRoute_iff] at *
  exact ⟨h.1, h'.2.1, h.2.2.1.trans h'.2.2.1, h.2.2.2.trans h'.2.2.2⟩

theorem sharedRoute_symm (h : sharedRoute a b = true) : sharedRoute b a = true := by
  rw [sharedRoute_iff] at *
  exact ⟨h.2.1, h.1, h.2.2.1.symm, h.2.2.2.symm⟩

theorem checkReservations_cons (h : checkReservations (a :: b :: rs) = .ok ()) :
    (prefixesOverlap a.subnet b.subnet = true → sharedRoute a b = true ∧
      1 + ((b :: rs).takeWhile (sharedRoute b)).length ≤ maxRoutePolicyGateways) ∧
    checkReservations (b :: rs) = .ok () := by
  rw [checkReservations] at h
  by_cases hov : prefixesOverlap a.subnet b.subnet = true
  · by_cases hsh : sharedRoute a b = true
    · simp only [hov, hsh, if_true, bind_unit_eq_ok, reject_eq_ok, not_lt] at h
      exact ⟨fun _ => ⟨hsh, h.1⟩, h.2⟩
    · simp only [hov, hsh, if_true] at h
      cases h
  · simp only [hov] at h
    exact ⟨fun h' => absurd h' hov, by simpa using h⟩

theorem checkReservations_chain (h : checkReservations rs = .ok ()) :
    rs.IsChain fun a b => prefixesOverlap a.subnet b.subnet = true → sharedRoute a b = true := by
  induction rs with
  | nil => exact .nil
  | cons a rs ih =>
    cases rs with
    | nil => exact .singleton _
    | cons b rs =>
      obtain ⟨hab, hrest⟩ := checkReservations_cons h
      exact List.isChain_cons_cons.mpr ⟨fun hov => (hab hov).1, ih hrest⟩

theorem filter_eq_takeWhile {p : α → Bool} {xs : List α} (h : xs.Pairwise fun a b => p b = true → p a = true) :
    xs.filter p = xs.takeWhile p := by
  induction xs with
  | nil => rfl
  | cons x xs ih =>
    obtain ⟨hx, hxs⟩ := List.pairwise_cons.mp h
    by_cases hp : p x = true
    · rw [List.filter_cons_of_pos hp, List.takeWhile_cons_of_pos hp, ih hxs]
    · rw [List.filter_cons_of_neg hp, List.takeWhile_cons_of_neg hp, List.filter_eq_nil_iff]
      exact fun y hy hpy => hp (hx y hy hpy)

/-- The reservations that share a prefix stand together, so the count at the first two of them is a
bound for all. -/
theorem checkReservations_gateways (hsorted : rs.Pairwise fun x y => x.subnet.le y.subnet = true)
    (hshared : rs.Pairwise fun x y => prefixesOverlap x.subnet y.subnet = true → sharedRoute x y = true)
    (h : checkReservations rs = .ok ()) : (rs.filter (sharedRoute a)).length ≤ maxRoutePolicyGateways := by
  induction rs with
  | nil => exact Nat.zero_le _
  | cons x rs ih =>
    obtain ⟨hx, hsorted'⟩ := List.pairwise_cons.mp hsorted
    obtain ⟨hsx, hshared'⟩ := List.pairwise_cons.mp hshared
    by_cases hax : sharedRoute a x = true
    · cases rs with
      | nil => simp [List.filter_cons_of_pos hax, maxRoutePolicyGateways]
      | cons y rs =>
        -- the elements after `x` that share its prefix come first
        have hsame : ∀ z, sharedRoute a z = true → z.subnet = x.subnet := fun z hz =>
          (sharedRoute_iff.mp hz).2.2.2.symm.trans (sharedRoute_iff.mp hax).2.2.2
        have hfront : (y :: rs).Pairwise fun u v => sharedRoute a v = true → sharedRoute a u = true := by
          refine List.Pairwise.imp_of_mem (fun {u v} hu hv huv hav => ?_) hsorted'
          have hu' : u.subnet = x.subnet :=
            le_antisymm (hsame v hav ▸ huv) (hx u hu)
          exact sharedRoute_trans hax (hsx u hu (by rw [hu']; exact prefixesOverlap_self _))
        rw [List.filter_cons_of_pos hax, filter_eq_takeWhile hfront, List.length_cons, Nat.add_comm]
        by_cases hay : sharedRoute a y = true
        · have hov : prefixesOverlap x.subnet y.subnet = true := by
            rw [hsame y hay]
            exact prefixesOverlap_self _
          have hfun : sharedRoute a = sharedRoute y := by
            funext z
            rw [Bool.eq_iff_iff]
            exact ⟨sharedRoute_trans (sharedRoute_symm hay), sharedRoute_trans hay⟩
          rw [hfun]
          exact ((checkReservations_cons h).1 hov).2
        · rw [List.takeWhile_cons_of_neg hay]
          decide
    · rw [List.filter_cons_of_neg hax]
      refine ih hsorted' hshared' ?_
      cases rs with
      | nil => rfl
      | cons y rs => exact (checkReservations_cons h).2

/-! ## Valid states -/

theorem ReservedIPv4Prefix.subnet_le (h : a.le b = true) : a.subnet.le b.subnet = true := by
  unfold ReservedIPv4Prefix.le at h
  split_ifs at h with h1 h2
  · rw [h1, le_iff]
    exact .inr ⟨rfl, le_rfl⟩
  · rw [h1, le_iff]
    exact .inr ⟨rfl, le_rfl⟩
  · exact h

theorem ReservedIPv4Prefix.le_total (a b : ReservedIPv4Prefix) : a.le b = true ∨ b.le a = true := by
  unfold ReservedIPv4Prefix.le
  by_cases h : a.subnet = b.subnet
  · by_cases hk : a.kind = b.kind
    · simpa [h, hk] using String.le_total a.owner b.owner
    · simpa [h, hk, Ne.symm hk] using String.le_total a.kind.text b.kind.text
  · simpa [h, Ne.symm h] using Address.le_total a.subnet b.subnet

theorem ReservationKind.text_injective : Function.Injective ReservationKind.text := by
  intro a b h
  cases a <;> cases b <;> first | rfl | exact absurd h (by decide)

theorem ReservedIPv4Prefix.le_iff : a.le b = true ↔
    (a.subnet ≠ b.subnet ∧ a.subnet.le b.subnet = true) ∨
    (a.subnet = b.subnet ∧ (a.kind.text < b.kind.text ∨ (a.kind = b.kind ∧ a.owner ≤ b.owner))) := by
  unfold ReservedIPv4Prefix.le
  by_cases h : a.subnet = b.subnet
  · by_cases hk : a.kind = b.kind
    · simp [h, hk]
    · have hne : a.kind.text ≠ b.kind.text := fun he => hk (ReservationKind.text_injective he)
      simpa [h, hk] using (Std.le_iff_lt_or_eq.trans (or_iff_left hne))
  · simp [h]

theorem ReservedIPv4Prefix.le_trans {c : ReservedIPv4Prefix} (h : a.le b = true) (h' : b.le c = true) :
    a.le c = true := by
  rw [ReservedIPv4Prefix.le_iff] at *
  obtain ⟨hne, hab⟩ | ⟨heq, hab⟩ := h
  · refine .inl ?_
    obtain ⟨-, hbc⟩ | ⟨heq', -⟩ := h'
    · exact ⟨fun he => hne (le_antisymm hab (he ▸ hbc)), Address.le_trans hab hbc⟩
    · exact heq' ▸ ⟨hne, hab⟩
  · rw [heq]
    refine h'.imp id fun ⟨heq', hbc⟩ => ⟨heq', ?_⟩
    obtain hlt | ⟨hk, hle⟩ := hab
    · obtain hlt' | ⟨hk', -⟩ := hbc
      · exact .inl (String.lt_trans hlt hlt')
      · exact .inl (hk' ▸ hlt)
    · rw [hk]
      exact hbc.imp id fun ⟨hk', hle'⟩ => ⟨hk', String.le_trans hle hle'⟩

/-- Any two reservations that overlap are equal routed prefixes of one network, and no prefix has too
many owners. -/
structure ReservationsApart (rs : List ReservedIPv4Prefix) : Prop where
  overlaps : rs.Pairwise fun a b => prefixesOverlap a.subnet b.subnet = true →
    a.kind = .routedSubnet ∧ b.kind = .routedSubnet ∧ a.networkID = b.networkID ∧ a.subnet = b.subnet
  owners : ∀ p : Subnet, (rs.filter fun r => r.subnet = p).length ≤ maxRoutePolicyGateways

theorem reservationsApart_iff : ReservationsApart rs ↔
    (rs.Pairwise fun a b => prefixesOverlap a.subnet b.subnet = true → sharedRoute a b = true) ∧
      ∀ p : Subnet, (rs.filter fun r => r.subnet = p).length ≤ maxRoutePolicyGateways := by
  simp only [sharedRoute_iff]
  exact ⟨fun h => ⟨h.overlaps, h.owners⟩, fun h => ⟨h.1, h.2⟩⟩

theorem ReservationsApart.perm {rs' : List ReservedIPv4Prefix} (hperm : rs.Perm rs') (h : ReservationsApart rs) :
    ReservationsApart rs' where
  overlaps := by
    refine (hperm.pairwise_iff fun {a b} hab hov => ?_).mp h.overlaps
    obtain ⟨ha, hb, hnet, hsub⟩ := hab (prefixesOverlap_comm _ _ ▸ hov)
    exact ⟨hb, ha, hnet.symm, hsub.symm⟩
  owners p := by
    rw [← (hperm.filter _).length_eq]
    exact h.owners p

/-- The reservations of one prefix share it, unless there is only one. -/
theorem length_filter_subnet_le
    (hshared : rs.Pairwise fun a b => prefixesOverlap a.subnet b.subnet = true → sharedRoute a b = true)
    (hbound : ∀ a, (rs.filter (sharedRoute a)).length ≤ maxRoutePolicyGateways) (p : Subnet) :
    (rs.filter fun r => r.subnet = p).length ≤ maxRoutePolicyGateways := by
  have hself := hshared.filter fun r => decide (r.subnet = p)
  have hmem : ∀ r ∈ rs.filter (fun r => r.subnet = p), r.subnet = p := fun r hr => by
    simpa using (List.mem_filter.mp hr).2
  cases hfilter : rs.filter (fun r => r.subnet = p) with
  | nil => exact Nat.zero_le _
  | cons a as =>
    cases as with
    | nil => exact Nat.le_add_left 1 7
    | cons b bs =>
      rw [hfilter] at hself hmem
      have hall : ∀ r ∈ a :: b :: bs, sharedRoute b r = true := by
        have hfirst : ∀ r ∈ b :: bs, sharedRoute a r = true := fun r hr =>
          (List.pairwise_cons.mp hself).1 r hr (by
            rw [hmem a List.mem_cons_self, hmem r (List.mem_cons_of_mem _ hr)]
            exact prefixesOverlap_self p)
        have hba := sharedRoute_symm (hfirst b List.mem_cons_self)
        intro r hr
        rcases List.mem_cons.mp hr with rfl | hr
        · exact hba
        · exact sharedRoute_trans hba (hfirst r hr)
      have hsub : (a :: b :: bs).Sublist (rs.filter (sharedRoute b)) := by
        rw [← List.filter_eq_self.mpr hall, ← hfilter]
        exact List.filter_sublist.filter _
      exact hsub.length_le.trans (hbound b)

theorem checkReservations_of_apart (h : ReservationsApart rs) : checkReservations rs = .ok () := by
  obtain ⟨hshared, howners⟩ := reservationsApart_iff.mp h
  clear h
  induction rs with
  | nil => rfl
  | cons a rs ih =>
    have hrest : checkReservations rs = .ok () :=
      ih hshared.of_cons fun p => (((List.sublist_cons_self a rs).filter _).length_le).trans (howners p)
    cases rs with
    | nil => rfl
    | cons b rs =>
      rw [checkReservations]
      by_cases hov : prefixesOverlap a.subnet b.subnet = true
      · have hab := (List.pairwise_cons.mp hshared).1 b List.mem_cons_self hov
        rw [if_pos hov, if_pos hab, bind_unit_eq_ok, reject_eq_ok, not_lt]
        refine ⟨?_, hrest⟩
        -- `a` and the run that starts at `b` are among the owners of the prefix
        have hrun : ((b :: rs).takeWhile (sharedRoute b)).Sublist ((b :: rs).filter fun r => r.subnet = b.subnet) := by
          have hall : ∀ r ∈ (b :: rs).takeWhile (sharedRoute b), decide (r.subnet = b.subnet) = true := fun r hr => by
            simpa using (sharedRoute_iff.mp (List.mem_takeWhile_imp hr)).2.2.2.symm
          rw [← List.filter_eq_self.mpr hall]
          exact (List.takeWhile_sublist _).filter _
        calc 1 + ((b :: rs).takeWhile (sharedRoute b)).length
            ≤ 1 + ((b :: rs).filter fun r => r.subnet = b.subnet).length :=
              Nat.add_le_add_left hrun.length_le 1
          _ = ((a :: b :: rs).filter fun r => r.subnet = b.subnet).length := by
              have hsub : a.subnet = b.subnet := (sharedRoute_iff.mp hab).2.2.2
              simp only [List.filter_cons (x := a), hsub, decide_true, if_true, List.length_cons, Nat.add_comm]
          _ ≤ maxRoutePolicyGateways := howners b.subnet
      · rw [if_neg hov]
        exact hrest

/-- Whatever order a sort leaves equal keys in, checking neighbours is checking all pairs. -/
theorem checkReservations_eq_ok {sorted : List ReservedIPv4Prefix} (hperm : sorted.Perm rs)
    (hsorted : sorted.Pairwise fun a b => a.le b = true) :
    checkReservations sorted = .ok () ↔ ReservationsApart rs := by
  constructor
  · intro h
    have hsorted' := hsorted.imp ReservedIPv4Prefix.subnet_le
    have hshared := pairwise_of_neighbours (f := ReservedIPv4Prefix.subnet)
      (C := fun a b => sharedRoute a b = true) (fun h => (sharedRoute_iff.mp h).2.2.2) sharedRoute_trans
      hsorted' (checkReservations_chain h)
    have hbound : ∀ a, (sorted.filter (sharedRoute a)).length ≤ maxRoutePolicyGateways := fun a =>
      checkReservations_gateways hsorted' hshared h
    exact (reservationsApart_iff.mpr ⟨hshared, length_filter_subnet_le hshared hbound⟩).perm hperm
  · intro h
    exact checkReservations_of_apart (h.perm hperm.symm)

theorem ReservedIPv4Prefix.sorted (rs : List ReservedIPv4Prefix) :
    (rs.insertionSort fun a b => a.le b = true).Pairwise fun a b => a.le b = true := by
  have : Std.Total fun a b : ReservedIPv4Prefix => a.le b = true := ⟨ReservedIPv4Prefix.le_total⟩
  have : IsTrans ReservedIPv4Prefix fun a b => a.le b = true := ⟨fun _ _ _ => ReservedIPv4Prefix.le_trans⟩
  exact List.pairwise_insertionSort _ rs

theorem validateReservedIPv4PrefixGraph_eq_ok : validateReservedIPv4PrefixGraph s = .ok () ↔
    ∃ rs, activeReservedIPv4Prefixes s = .ok rs ∧ ReservationsApart rs := by
  rw [validateReservedIPv4PrefixGraph, bind_eq_ok]
  exact exists_congr fun rs => and_congr_right fun _ =>
    checkReservations_eq_ok (List.perm_insertionSort _ rs) (ReservedIPv4Prefix.sorted rs)

/-- The check of neighbours is exact, for any list of reservations in any order the sort may leave it and for
the reservations of a state. -/
theorem validateReservedIPv4PrefixGraph_exact :
    (∀ rs sorted : List ReservedIPv4Prefix, sorted.Perm rs → (sorted.Pairwise fun a b => a.le b = true) →
      (checkReservations sorted = .ok () ↔ ReservationsApart rs)) ∧
    ∀ s : State, validateReservedIPv4PrefixGraph s = .ok () ↔
      ∃ rs, activeReservedIPv4Prefixes s = .ok rs ∧ ReservationsApart rs :=
  ⟨fun _ _ => checkReservations_eq_ok, fun _ => validateReservedIPv4PrefixGraph_eq_ok⟩

/-- Two gateways of one network for `10.1.0.0/16` beside the network `10.0.0.0/16`. -/
def twoGateways : List ReservedIPv4Prefix :=
  [⟨⟨167837696, 16⟩, "node-b", "network-a", .routedSubnet⟩, ⟨⟨167837696, 16⟩, "node-a", "network-a", .routedSubnet⟩,
    ⟨⟨167772160, 16⟩, "network-a", "network-a", .managedNetwork⟩]

theorem validateReservedIPv4PrefixGraph_exact_twoGateways : ReservationsApart twoGateways :=
  (validateReservedIPv4PrefixGraph_exact.1 twoGateways _ (List.perm_insertionSort _ _)
    (ReservedIPv4Prefix.sorted _)).mp (by decide)

/-- The reservations of a valid state: any two overlap only as gateways of one network for one prefix,
and a prefix has a bounded number of gateways. -/
theorem ValidGraph.reservationsApart (hv : ValidGraph s) :
    ∃ rs : List ReservedIPv4Prefix, (∀ r, r ∈ rs ↔ HasReservation s r) ∧
      (∀ a ∈ rs, ∀ b ∈ rs, prefixesOverlap a.subnet b.subnet = true → a ≠ b → sharedRoute a b = true) ∧
      ∀ a, (rs.filter (sharedRoute a)).length ≤ maxRoutePolicyGateways := by
  obtain ⟨rs, hrs, hapart⟩ := validateReservedIPv4PrefixGraph_eq_ok.mp hv.reservations
  obtain ⟨hshared, howners⟩ := reservationsApart_iff.mp hapart
  have : Std.Symm fun a b : ReservedIPv4Prefix =>
      prefixesOverlap a.subnet b.subnet = true → sharedRoute a b = true :=
    ⟨fun a b hab hba => sharedRoute_symm (hab (prefixesOverlap_comm _ _ ▸ hba))⟩
  refine ⟨rs, fun r => mem_activeReservedIPv4Prefixes hrs, fun a ha b hb hov hne => hshared.forall ha hb hne hov,
    fun a => ?_⟩
  -- the gateways that share the prefix with `a` are among its owners
  have hall : ∀ r ∈ rs.filter (sharedRoute a), decide (r.subnet = a.subnet) = true := fun r hr => by
    simpa using (sharedRoute_iff.mp (List.mem_filter.mp hr).2).2.2.2.symm
  have hsub : (rs.filter (sharedRoute a)).Sublist (rs.filter fun r => r.subnet = a.subnet) := by
    rw [← List.filter_eq_self.mpr hall]
    exact List.filter_sublist.filter _
  exact hsub.length_le.trans (howners a.subnet)

end Mesh
