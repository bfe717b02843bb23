import Mesh.Control.Play
import Mesh.Control.Reservations
import Mesh.Control.Steps

/-!
# Mesh.Control.Addresses

How an address is chosen for a new node. The search goes from the tenth address of the network on and
stops at the first one whose text no node of the network has. Two things keep that from being the first
usable address. A node may have its address in another spelling, which is compared as a text only; and the
broadcast address is looked for in the first bytes of a slice of sixteen, where it never is, so it is
given away once all others are taken.

`addressAllocation_iff` says in which states neither shows.
-/

namespace Mesh

open Address

variable {s : State} {w : Network}

/-! ## Networks -/

/-- The prefix of a network that was accepted. -/
structure ManagedPrefix (w : Network) (p : Subnet) : Prop where
  parsed : parseCIDR4 w.cidr = some (p.addr, p)
  masked : p.IsMasked
  lower : 16 ≤ p.bits
  upper : p.bits ≤ 28
  bound : p.addr < 4294967296

theorem ValidGraph.managed (hv : ValidGraph s) (hc : Current s) (hw : w ∈ s.networks) :
    ManagedPrefix w (storedSubnet w.cidr) := by
  have h := (hv.networkRecord hc hw).cidr
  rw [validRetiredNetworkCIDR, Option.any_eq_true] at h
  obtain ⟨⟨m, p⟩, hp, htext⟩ := h
  simp only [Bool.and_eq_true, beq_iff_eq, decide_eq_true_eq] at htext
  obtain ⟨⟨htext, hlower⟩, hupper⟩ := htext
  obtain ⟨hparsed, hmasked⟩ := parsePrefix4_of_parseCIDR4 hp htext
  obtain ⟨rfl, hbound⟩ := address_of_parseCIDR4 hp htext
  rw [storedSubnet_of_parsed hparsed]
  exact ⟨hp, hmasked, hlower, hupper, hbound⟩

namespace ManagedPrefix

variable {p : Subnet}

theorem size_bounds (h : ManagedPrefix w p) : 16 ≤ p.size ∧ p.size ≤ 65536 := by
  have hlower := h.lower
  have hupper := h.upper
  constructor
  · exact Nat.pow_le_pow_right (n := 2) (i := 4) (by decide) (by omega)
  · exact Nat.pow_le_pow_right (n := 2) (j := 16) (by decide) (by omega)

/-- The addresses of the network end at or before the end of the address space. -/
theorem addr_add_size (h : ManagedPrefix w p) : p.addr + p.size ≤ 4294967296 := by
  have hdvd : p.size ∣ 4294967296 := Nat.pow_dvd_pow 2 (n := 32) (Nat.sub_le _ _)
  obtain ⟨k, hk⟩ := h.masked
  obtain ⟨m, hm⟩ := hdvd
  have hlt := h.bound
  rw [hk, hm] at hlt
  have : k + 1 ≤ m := Nat.lt_of_mul_lt_mul_left hlt
  calc p.addr + p.size = p.size * (k + 1) := by rw [hk, Nat.mul_add, Nat.mul_one]
    _ ≤ p.size * m := Nat.mul_le_mul_left _ this
    _ = 4294967296 := hm.symm

theorem contains_iff_lt (h : ManagedPrefix w p) {k : Nat} : p.contains (p.addr + k) = true ↔ k < p.size := by
  have hpos := size_pos p
  rw [contains_iff, Nat.add_div_of_dvd_right h.masked, Nat.add_eq_left, Nat.div_eq_zero_iff]
  omega

/-- The first address after the network, modulo the address space, is not in it. -/
theorem not_contains_end (h : ManagedPrefix w p) :
    p.contains ((p.addr + p.size) % 4294967296) = false := by
  have hsize := h.size_bounds
  rw [Bool.eq_false_iff, ne_eq]
  rcases Nat.lt_or_eq_of_le h.addr_add_size with hlt | heq
  · rw [Nat.mod_eq_of_lt hlt, h.contains_iff_lt]
    omega
  · -- the network is the last one, and the search goes on at address zero
    have hdiv : 0 < p.addr / p.size := Nat.div_pos (by omega) (size_pos p)
    rw [heq, Nat.mod_self, contains_iff, Nat.zero_div]
    omega

/-- The last address of a network ends with four ones. -/
theorem last_mod (h : ManagedPrefix w p) : (p.addr + p.size - 1) % 256 ≠ 0 := by
  have hupper := h.upper
  have hsize : 16 ∣ p.size := Nat.pow_dvd_pow 2 (m := 4) (by omega)
  have haddr : 16 ∣ p.addr := hsize.trans h.masked
  have := h.size_bounds
  omega

theorem ipv4Bytes_inj {a b : Nat} (ha : a < 4294967296) (hb : b < 4294967296)
    (h : ipv4Bytes a = ipv4Bytes b) : a = b := by
  simp only [ipv4Bytes, List.cons.injEq, and_true] at h
  omega

/-- A candidate is a slice of sixteen bytes, and never told to be the broadcast address. -/
theorem isBroadcast_netIPv4 (h : ManagedPrefix w p) (a : Nat) : isBroadcast p (netIPv4 a) = false := by
  rw [Bool.eq_false_iff]
  intro hb
  have htake : (netIPv4 a).take 4 = [0, 0, 0, 0] := rfl
  rw [isBroadcast, htake, beq_iff_eq, ipv4Bytes] at hb
  simp only [List.cons.injEq, and_true] at hb
  exact h.last_mod hb.2.2.2.symm

theorem isBroadcast_ipv4Bytes (h : ManagedPrefix w p) {a : Nat} (ha : a < 4294967296) :
    isBroadcast p (ipv4Bytes a) = true ↔ a = p.addr + p.size - 1 := by
  have htake : (ipv4Bytes a).take 4 = ipv4Bytes a := rfl
  rw [isBroadcast, htake, beq_iff_eq]
  have := h.addr_add_size
  have := h.size_bounds
  constructor
  · exact ipv4Bytes_inj ha (by omega)
  · rintro rfl
    rfl

end ManagedPrefix

/-! ## The search -/

/-- A node of the network has the IPv4 address, in whatever spelling. -/
def Assigned (s : State) (w : Network) (a : Nat) : Prop :=
  ∃ n ∈ s.nodes, n.networkID = w.id ∧ nodeAddress n = some a

/-- A node of the network has the dotted text of the address. -/
def Listed (s : State) (w : Network) (a : Nat) : Prop :=
  ∃ n ∈ s.nodes, n.networkID = w.id ∧ n.ip = formatIPv4 a

instance (s : State) (w : Network) (a : Nat) : Decidable (Assigned s w a) :=
  inferInstanceAs (Decidable (∃ n ∈ s.nodes, n.networkID = w.id ∧ nodeAddress n = some a))

instance (s : State) (w : Network) (a : Nat) : Decidable (Listed s w a) :=
  inferInstanceAs (Decidable (∃ n ∈ s.nodes, n.networkID = w.id ∧ n.ip = formatIPv4 a))

theorem Listed.assigned {a : Nat} (ha : a < 4294967296) (h : Listed s w a) : Assigned s w a := by
  obtain ⟨n, hn, hnet, hip⟩ := h
  exact ⟨n, hn, hnet, by rw [nodeAddress, hip, parseIP_formatIPv4 ha]; rfl⟩

theorem any_listed {a : Nat} :
    (s.nodes.any fun n => n.networkID = w.id && n.ip = formatIPv4 a) = true ↔ Listed s w a := by
  simp [Listed]

/-- The search stops at the first address that is not listed. -/
theorem addressFrom_eq_ok {p : Subnet} (hp : ManagedPrefix w p) {value : String} {tries : Nat} :
    ∀ {offset : Nat}, offset ≤ p.size → p.size ≤ offset + tries →
      (addressFrom s w p.addr p tries offset = .ok value ↔
        ∃ k, offset ≤ k ∧ k < p.size ∧ value = formatIPv4 (p.addr + k) ∧ ¬ Listed s w (p.addr + k) ∧
          ∀ j, offset ≤ j → j < k → Listed s w (p.addr + j)) := by
  have hend := hp.addr_add_size
  induction tries with
  | zero =>
    intro offset hle hge
    rw [addressFrom]
    constructor
    · intro h
      cases h
    · rintro ⟨k, hk, hlt, -⟩
      omega
  | succ tries ih =>
    intro offset hle hge
    rw [addressFrom]
    rcases Nat.lt_or_eq_of_le hle with hlt | rfl
    · have hmod : (p.addr + offset) % 4294967296 = p.addr + offset := Nat.mod_eq_of_lt (by omega)
      have hcond : ((s.nodes.any fun n => n.networkID = w.id && n.ip = formatIPv4 (p.addr + offset)) ||
          isBroadcast p (netIPv4 (p.addr + offset))) = true ↔ Listed s w (p.addr + offset) := by
        rw [hp.isBroadcast_netIPv4, Bool.or_false, any_listed]
      simp only [hmod, hp.contains_iff_lt.mpr hlt, not_true_eq_false, if_false]
      by_cases hlisted : Listed s w (p.addr + offset)
      · rw [if_pos (hcond.mpr hlisted), ih (by omega) (by omega)]
        constructor
        · rintro ⟨k, hk, hk', hvalue, hfree, hall⟩
          refine ⟨k, by omega, hk', hvalue, hfree, fun j hj hjk => ?_⟩
          rcases Nat.lt_or_eq_of_le hj with hj | rfl
          · exact hall j hj hjk
          · exact hlisted
        · rintro ⟨k, hk, hk', hvalue, hfree, hall⟩
          have hne : offset ≠ k := by
            rintro rfl
            exact hfree hlisted
          exact ⟨k, by omega, hk', hvalue, hfree, fun j hj hjk => hall j (by omega) hjk⟩
      · rw [if_neg (mt hcond.mp hlisted)]
        constructor
        · intro h
          exact ⟨offset, le_rfl, hlt, (Except.ok.inj h).symm, hlisted, fun j hj hjk => absurd hjk (by omega)⟩
        · rintro ⟨k, hk, hk', rfl, hfree, hall⟩
          rcases Nat.lt_or_eq_of_le hk with hk | rfl
          · exact absurd (hall offset le_rfl hk) hlisted
          · rfl
    · simp only [hp.not_contains_end, Bool.false_eq_true, not_false_eq_true, if_true]
      constructor
      · intro h
        cases h
      · rintro ⟨k, hk, hlt, -⟩
        omega

theorem nextAddress_eq_ok {p : Subnet} (hp : ManagedPrefix w p) {value : String} :
    nextAddress s w = .ok value ↔
      ∃ k, 10 ≤ k ∧ k < p.size ∧ value = formatIPv4 (p.addr + k) ∧ ¬ Listed s w (p.addr + k) ∧
        ∀ j, 10 ≤ j → j < k → Listed s w (p.addr + j) := by
  have := hp.size_bounds
  simp only [nextAddress, hp.parsed, bind_eq_ok, require_eq_ok, Option.some.injEq, exists_eq_left']
  exact addressFrom_eq_ok hp (by omega) (by omega)

/-- An explicit address in its dotted text is usable when it is neither the first nor the last of the
network and no node has its text. -/
theorem validateNodeIP_formatIPv4 {p : Subnet} (hp : ManagedPrefix w p) {k : Nat} (hk : k < p.size) :
    validateNodeIP s w (formatIPv4 (p.addr + k)) = .ok () ↔
      k ≠ 0 ∧ k + 1 ≠ p.size ∧ ¬ Listed s w (p.addr + k) := by
  have hend := hp.addr_add_size
  have hlt : p.addr + k < 4294967296 := by omega
  simp only [validateNodeIP, parseIP_formatIPv4 hlt, Option.bind_some, Addr.to4, hp.parsed, bind_eq_ok,
    exists_unit, require_eq_ok, Option.some.injEq, exists_eq_left', reject_eq_ok, any_listed, not_or,
    hp.contains_iff_lt.mpr hk, not_true_eq_false, not_false_eq_true, true_and, hp.isBroadcast_ipv4Bytes hlt,
    and_assoc]
  refine and_congr (by omega) (and_congr (by omega) Iff.rfl)

/-! ## Allocation -/

/-- What the search for an address is for: what it returns is a usable address that no node of the network
has, and it does not fail while there is one from the tenth address on. -/
structure AddressAllocation (s : State) (w : Network) : Prop where
  sound : ∀ value, nextAddress s w = .ok value → validateNodeIP s w value = .ok () ∧
    ∃ a, (parseIP value).bind Addr.to4 = some a ∧ ¬ Assigned s w a
  complete : ∀ k, 10 ≤ k → k + 1 < (storedSubnet w.cidr).size →
    ¬ Assigned s w ((storedSubnet w.cidr).addr + k) → ∃ value, nextAddress s w = .ok value

/-- Up to the first address that is free every one is listed, and it is not the last of the network; or all
of them are. -/
def ListedUpToFree (s : State) (w : Network) : Prop :=
  let p := storedSubnet w.cidr
  (∃ k, 10 ≤ k ∧ k + 1 < p.size ∧ ¬ Assigned s w (p.addr + k) ∧
      ∀ j, 10 ≤ j → j < k → Listed s w (p.addr + j)) ∨
    ∀ k, 10 ≤ k → k < p.size → Listed s w (p.addr + k)

theorem listedUpToFree_of_allocation (hp : ManagedPrefix w (storedSubnet w.cidr))
    (h : AddressAllocation s w) : ListedUpToFree s w := by
  classical
  have hend := hp.addr_add_size
  by_cases hfree : ∃ k, 10 ≤ k ∧ k < (storedSubnet w.cidr).size ∧
      ¬ Listed s w ((storedSubnet w.cidr).addr + k)
  · -- the search returns the least one that is not listed
    obtain ⟨hten, hlt, hnot⟩ := Nat.find_spec hfree
    set k := Nat.find hfree with hk
    have hall : ∀ j, 10 ≤ j → j < k → Listed s w ((storedSubnet w.cidr).addr + j) := by
      intro j hj hjk
      by_contra hj'
      exact Nat.find_min hfree hjk ⟨hj, hjk.trans hlt, hj'⟩
    obtain ⟨husable, a, ha, hunassigned⟩ :=
      h.sound _ ((nextAddress_eq_ok hp).mpr ⟨k, hten, hlt, rfl, hnot, hall⟩)
    obtain ⟨-, hlast, -⟩ := (validateNodeIP_formatIPv4 hp hlt).mp husable
    rw [parseIP_formatIPv4 (by omega), Option.bind_some, Addr.to4, Option.some.injEq] at ha
    subst ha
    exact .inl ⟨k, hten, by omega, hunassigned, hall⟩
  · refine .inr fun k hten hlt => ?_
    by_contra hnot
    exact hfree ⟨k, hten, hlt, hnot⟩

theorem allocation_of_listedUpToFree (hp : ManagedPrefix w (storedSubnet w.cidr))
    (h : ListedUpToFree s w) : AddressAllocation s w := by
  have hend := hp.addr_add_size
  have hassigned : ∀ {k}, k < (storedSubnet w.cidr).size → ¬ Assigned s w ((storedSubnet w.cidr).addr + k) →
      ¬ Listed s w ((storedSubnet w.cidr).addr + k) := fun hk => mt (Listed.assigned (by omega))
  obtain ⟨k, hten, hlt, hfree, hall⟩ | hall := h
  · have hreturned := (nextAddress_eq_ok hp).mpr
      ⟨k, hten, by omega, rfl, hassigned (by omega) hfree, hall⟩
    refine ⟨fun value hvalue => ?_, fun _ _ _ _ => ⟨_, hreturned⟩⟩
    obtain rfl := Except.ok.inj (hreturned.symm.trans hvalue)
    refine ⟨(validateNodeIP_formatIPv4 hp (by omega)).mpr ⟨by omega, by omega, hassigned (by omega) hfree⟩, _,
      ?_, hfree⟩
    rw [parseIP_formatIPv4 (by omega)]
    rfl
  · refine ⟨fun value hvalue => ?_, fun k hten hlt hfree => ?_⟩
    · obtain ⟨k, hten, hlt, -, hnot, -⟩ := (nextAddress_eq_ok hp).mp hvalue
      exact absurd (hall k hten hlt) hnot
    · exact absurd (hall k hten (by omega)) (hassigned (by omega) hfree)

/-- In a state that is reached, the search does what it is for exactly when every address up to the first
free one is listed in its dotted text and that one is not the broadcast address. -/
theorem addressAllocation_iff {env : Env} {world : World} (hr : World.Reachable env world) {v : Network}
    (hv : v ∈ world.state.networks) :
    AddressAllocation world.state v ↔ ListedUpToFree world.state v :=
  have hp := (World.sound hr).valid.managed (World.sound hr).current hv
  ⟨listedUpToFree_of_allocation hp, allocation_of_listedUpToFree hp⟩

/-! ## Runs -/

/-- The network of the setting with another prefix. -/
def networkIn (cidr : String) : Action :=
  match Setting.network with
  | .op c (.createNetwork input material id) => .op c (.createNetwork { input with cidr := cidr } material id)
  | a => a

/-- A network of sixteen addresses in which the five usable ones from the tenth on are taken one after the
other. -/
def fullRun : World.Passed (World.playLast (stepEval.1 Setting.env) Setting.start
    [networkIn "10.0.0.0/28", Setting.node 2 { name := "" }, Setting.node 3 { name := "" },
      Setting.node 4 { name := "" }, Setting.node 5 { name := "" }] (Setting.node 6 { name := "" }) fun w w' =>
    (w.state.networks.any fun v => decide (15 < (storedSubnet v.cidr).size ∧
      ¬ Assigned w.state v ((storedSubnet v.cidr).addr + 14) ∧
      ∀ j ∈ List.range' 10 4, Listed w.state v ((storedSubnet v.cidr).addr + j))) &&
    w'.state.networks.any fun v => decide (nextAddress w'.state v = .ok "10.0.0.15" ∧
      validateNodeIP w'.state v "10.0.0.15" ≠ .ok ())) where
  holds := by decide +kernel

/-- A node asks for the tenth address in its IPv6 form. -/
def mappedRun : World.Passed (World.playLast (stepEval.1 Setting.env) Setting.start
    [Setting.network] (Setting.node 2 { name := "", ip := "::ffff:10.0.0.10" }) fun _ w =>
    w.state.networks.any fun v => decide (nextAddress w.state v = .ok "10.0.0.10" ∧
      Assigned w.state v 167772170)) where
  holds := by decide +kernel

theorem addressAllocation_lastUsable :
    ∃ world : World, World.Reachable Setting.env world ∧
      ∃ v ∈ world.state.networks, AddressAllocation world.state v := by
  obtain ⟨w, w', hr, -, h⟩ := World.playLast_spec Setting.start_reachable fullRun.holds
  rw [Bool.and_eq_true, List.any_eq_true] at h
  obtain ⟨⟨v, hv, hfree⟩, -⟩ := h
  obtain ⟨hsize, hunassigned, hlisted⟩ := of_decide_eq_true hfree
  exact ⟨w, hr, v, hv, (addressAllocation_iff hr hv).mpr
    (.inl ⟨14, by decide, hsize, hunassigned, fun j hten hj => hlisted j (List.mem_range'_1.mpr ⟨hten, hj⟩)⟩)⟩

/-- The search returns the broadcast address of a network that is full, and an address that a node has in
another spelling. -/
theorem nextAddress_unusable :
    (∃ world : World, World.Reachable Setting.env world ∧ ∃ v ∈ world.state.networks,
      nextAddress world.state v = .ok "10.0.0.15" ∧ validateNodeIP world.state v "10.0.0.15" ≠ .ok ()) ∧
    ∃ world : World, World.Reachable Setting.env world ∧ ∃ v ∈ world.state.networks,
      nextAddress world.state v = .ok (formatIPv4 167772170) ∧ Assigned world.state v 167772170 := by
  constructor
  · obtain ⟨w, w', hr, hstep, h⟩ := World.playLast_spec Setting.start_reachable fullRun.holds
    rw [Bool.and_eq_true, List.any_eq_true (l := w'.state.networks)] at h
    obtain ⟨-, v, hv, hlast⟩ := h
    exact ⟨w', .next hr hstep, v, hv, of_decide_eq_true hlast⟩
  · obtain ⟨w, w', hr, hstep, h⟩ := World.playLast_spec Setting.start_reachable mappedRun.holds
    rw [List.any_eq_true] at h
    obtain ⟨v, hv, hmapped⟩ := h
    obtain ⟨hnext, hassigned⟩ := of_decide_eq_true hmapped
    exact ⟨w', .next hr hstep, v, hv, hnext.trans (by decide +kernel), hassigned⟩

end Mesh
