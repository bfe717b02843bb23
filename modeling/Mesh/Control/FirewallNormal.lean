import Mesh.Control.Firewall
import Mesh.Lib.Sorting

/-!
# Mesh.Control.FirewallNormal

The normal form of a firewall policy. A rule is brought to its canonical form, which is a fixed point
(`normalizeFirewallRule_idem`), and rules are sorted by a key that no two canonical rules share
(`firewallRuleSortKey_inj`): the parts of the key are separated by a character that occurs in none of them.
-/

namespace Mesh

open Address

/-! ## One rule -/

/-- The checks of a rule that do not look at its selector. -/
structure RuleChecks (r : FirewallRule) (port : FirewallPort) : Prop where
  proto_trimmed : trimSpace r.proto = r.proto
  proto_known : r.proto ∈ ["any", "tcp", "udp", "icmp"]
  port_eq : parseCanonicalFirewallPort r.port = .ok port
  icmp : ¬ (r.proto = "icmp" ∧ port ≠ .any)
  one_target : ¬ (r.targetGroup ≠ "" ∧ r.targetNodeID ≠ "")
  target_group : ¬ (r.targetGroup ≠ "" ∧ (trimSpace r.targetGroup ≠ r.targetGroup ∨
    ¬ groupPattern r.targetGroup ∨ r.targetGroup = "all"))
  target_node : ¬ (r.targetNodeID ≠ "" ∧ ¬ validPersistedID r.targetNodeID)

/-- The one selector of a rule, the rule with it in its canonical form and the key of the selector. -/
inductive RuleSelector (network : Subnet) (r : FirewallRule) : FirewallRule → String → Prop where
  | group (hgroup : r.group ≠ "") (hhost : r.host = "") (hpeer : r.peerNodeID = "")
      (hpattern : ¬ (trimSpace r.group ≠ r.group ∨ ¬ groupPattern r.group)) (hany : r.group ≠ "any") :
      RuleSelector network r r ("group\x00" ++ r.group)
  | peer (hgroup : r.group = "") (hhost : r.host = "") (hpeer : r.peerNodeID ≠ "")
      (hid : validPersistedID r.peerNodeID = true) : RuleSelector network r r ("peer_node\x00" ++ r.peerNodeID)
  | host {host key : String} (hgroup : r.group = "") (hhost : r.host ≠ "") (hpeer : r.peerNodeID = "")
      (hnormal : normalizeFirewallHost r.host network = .ok (host, key)) :
      RuleSelector network r { r with host := host } key

variable {host key s selector : String} {r rule a b : FirewallRule} {port : FirewallPort} {n : Nat}

theorem one_selector_iff {group peer : String} : ([group, host, peer].filter (· ≠ "")).length = 1 ↔
    (group ≠ "" ∧ host = "" ∧ peer = "") ∨ (group = "" ∧ host = "" ∧ peer ≠ "") ∨ (group = "" ∧ host ≠ "" ∧ peer = "") := by
  by_cases hg : group = "" <;> by_cases hh : host = "" <;> by_cases hp : peer = "" <;> simp [hg, hh, hp]

theorem normalizeFirewallRule_eq_ok {network : Subnet} :
    normalizeFirewallRule r network = .ok (rule, port, key) ↔
      RuleChecks r port ∧ ∃ selector, RuleSelector network r rule selector ∧ selector ++ "\x00" ++ targetKey r = key := by
  simp only [normalizeFirewallRule, bind_eq_ok, exists_unit, reject_eq_ok, ne_eq, not_not, one_selector_iff]
  constructor
  · rintro ⟨htrim, hknown, p, hport, hicmp, hone, htargets, hgroup, hnode, h⟩
    rcases hone with ⟨hg, hh, hp⟩ | ⟨hg, hh, hp⟩ | ⟨hg, hh, hp⟩
    · simp only [if_pos hg, bind_eq_ok, exists_unit, reject_eq_ok, pure_eq_ok, Prod.mk.injEq] at h
      obtain ⟨hpattern, hany, rfl, rfl, rfl⟩ := h
      exact ⟨⟨htrim, hknown, hport, hicmp, htargets, hgroup, hnode⟩, _, .group hg hh hp hpattern hany, rfl⟩
    · simp only [if_neg (not_not.mpr hg), if_pos hp, bind_eq_ok, exists_unit, reject_eq_ok, pure_eq_ok, Prod.mk.injEq,
        not_not] at h
      obtain ⟨hid, rfl, rfl, rfl⟩ := h
      exact ⟨⟨htrim, hknown, hport, hicmp, htargets, hgroup, hnode⟩, _, .peer hg hh hp hid, rfl⟩
    · simp only [if_neg (not_not.mpr hg), if_neg (not_not.mpr hp), bind_eq_ok, pure_eq_ok, Prod.mk.injEq,
        Prod.exists] at h
      obtain ⟨host, selector, hnormal, rfl, rfl, rfl⟩ := h
      exact ⟨⟨htrim, hknown, hport, hicmp, htargets, hgroup, hnode⟩, _, .host hg hh hp hnormal, rfl⟩
  · rintro ⟨⟨htrim, hknown, hport, hicmp, htargets, hgroup, hnode⟩, selector, hselector, rfl⟩
    cases hselector with
    | group hg hh hp hpattern hany =>
      refine ⟨htrim, hknown, port, hport, hicmp, .inl ⟨hg, hh, hp⟩, htargets, hgroup, hnode, ?_⟩
      simp only [if_pos hg, bind_eq_ok, exists_unit, reject_eq_ok, pure_eq_ok, and_true]
      exact ⟨hpattern, hany⟩
    | peer hg hh hp hid =>
      refine ⟨htrim, hknown, port, hport, hicmp, .inr (.inl ⟨hg, hh, hp⟩), htargets, hgroup, hnode, ?_⟩
      simp only [if_neg (not_not.mpr hg), if_pos hp, bind_eq_ok, exists_unit, reject_eq_ok, pure_eq_ok, not_not, and_true]
      exact hid
    | host hg hh hp hnormal =>
      refine ⟨htrim, hknown, port, hport, hicmp, .inr (.inr ⟨hg, hh, hp⟩), htargets, hgroup, hnode, ?_⟩
      simp only [if_neg (not_not.mpr hg), if_neg (not_not.mpr hp), bind_eq_ok, pure_eq_ok]
      exact ⟨_, hnormal, rfl⟩

/-! ## Canonical rules are left alone -/

theorem toList_toString (n : Nat) : (toString n).toList = Nat.toDigits 10 n := (String.ofList_eq.mp rfl).symm

theorem trimSpace_of_isSpace (h : ∀ c ∈ s.toList, isSpace c = false) : trimSpace s = s := by
  have hkeep : ∀ cs : List Char, (∀ c ∈ cs, isSpace c = false) → cs.dropWhile isSpace = cs := by
    intro cs hcs
    cases cs with
    | nil => rfl
    | cons c cs => rw [List.dropWhile_cons_of_neg (by rw [hcs c List.mem_cons_self]; decide)]
  rw [trimSpace, hkeep _ h, hkeep _ fun c hc => h c (List.mem_reverse.mp hc), List.reverse_reverse, String.ofList_toList]

theorem mem_formatIPv4 {c : Char} (h : c ∈ (formatIPv4 n).toList) : c.isDigit = true ∨ c = '.' := by
  have hdigit : ∀ {m : Nat}, c ∈ (toString m).toList → c.isDigit = true := by
    intro m hm
    rw [toList_toString] at hm
    exact Nat.isDigit_of_mem_toDigits (by decide) (by decide) hm
  simp only [formatIPv4_toList, List.mem_append, List.mem_cons] at h
  grind

theorem dot_mem_formatIPv4 (n : Nat) : '.' ∈ (formatIPv4 n).toList := by
  simp [formatIPv4_toList]

theorem isSpace_of_digit {c : Char} (h : c.isDigit = true) : isSpace c = false := by
  simp only [Char.isDigit, Bool.and_eq_true, decide_eq_true_eq, UInt32.le_iff_toNat_le] at h
  have hlow : 48 ≤ c.toNat := h.1
  have hhigh : c.toNat ≤ 57 := h.2
  simp only [isSpace, Bool.or_eq_false_iff, Bool.and_eq_false_iff, decide_eq_false_iff_not, beq_eq_false_iff_ne]
  omega

/-- An address of the network is a canonical host. -/
theorem normalizeFirewallHost_formatIPv4 {network : Subnet} (hn : n < 4294967296)
    (hcontains : network.contains n = true) :
    normalizeFirewallHost (formatIPv4 n) network = .ok (formatIPv4 n, "cidr\x00" ++ Subnet.text ⟨n, 32⟩) := by
  have hdot : ∀ s : String, '.' ∉ s.toList → formatIPv4 n ≠ s := fun s hs heq => hs (heq ▸ dot_mem_formatIPv4 n)
  have htrim : trimSpace (formatIPv4 n) = formatIPv4 n := trimSpace_of_isSpace fun c hc =>
    (mem_formatIPv4 hc).elim isSpace_of_digit fun h => h ▸ by decide
  rw [normalizeFirewallHost, bind_unit_eq_ok, reject_eq_ok, if_neg (hdot "any" (by decide)), parseAddr_formatIPv4 hn]
  refine ⟨not_or.mpr ⟨not_not.mpr htrim, hdot "" (by decide)⟩, ?_⟩
  simp only [bind_eq_ok, exists_unit, reject_eq_ok, pure_eq_ok, and_true, not_or, ne_eq, not_not, true_and]
  exact hcontains

theorem parsePrefix4_lt {p : Subnet} (h : parsePrefix4 s = some p) : p.addr < 4294967296 := by
  unfold parsePrefix4 at h
  split at h
  · split at h
    · rename_i n b haddr _
      obtain rfl := Option.some.inj h
      exact parseAddr_v4_lt haddr
    · cases h
  · cases h

/-- A host that was brought to its canonical form is in it. -/
theorem normalizeFirewallHost_idem {value : String} {network : Subnet}
    (h : normalizeFirewallHost value network = .ok (host, key)) :
    normalizeFirewallHost host network = .ok (host, key) := by
  have hsame := h
  rw [normalizeFirewallHost, bind_unit_eq_ok, reject_eq_ok, not_or] at h
  obtain ⟨-, h⟩ := h
  by_cases hany : value = "any"
  · rw [if_pos hany, pure_eq_ok, Prod.mk.injEq] at h
    rwa [h.1] at hsame
  rw [if_neg hany] at h
  split at h
  · rename_i address haddress
    split at h
    · simp only [bind_eq_ok, exists_unit, reject_eq_ok, pure_eq_ok, not_or, ne_eq, not_not, Prod.mk.injEq] at h
      obtain ⟨⟨-, hcontains⟩, rfl, rfl⟩ := h
      exact normalizeFirewallHost_formatIPv4 (parseAddr_v4_lt haddress) hcontains
    · cases h
  · simp only [bind_eq_ok, require_eq_ok, Option.filter_eq_some_iff, decide_eq_true_eq, pure_eq_ok, Prod.mk.injEq] at h
    obtain ⟨p, ⟨hparse, -, htext, -, hcontains⟩, hhost, rfl⟩ := h
    by_cases hbits : p.bits = 32
    · rw [if_pos hbits] at hhost
      have htext32 : Subnet.text ⟨p.addr, 32⟩ = p.text := by rw [← hbits]
      rw [← hhost, ← htext32]
      exact normalizeFirewallHost_formatIPv4 (parsePrefix4_lt hparse) hcontains
    · rw [if_neg hbits, htext] at hhost
      rwa [hhost] at hsame

theorem host_ne_empty {network : Subnet} (h : normalizeFirewallHost host network = .ok (host, key)) :
    host ≠ "" := by
  rw [normalizeFirewallHost, bind_unit_eq_ok, reject_eq_ok, not_or] at h
  exact h.1.2

theorem RuleSelector.idem {network : Subnet} (h : RuleSelector network r rule selector) :
    RuleSelector network rule rule selector := by
  cases h with
  | group hgroup hhost hpeer hpattern hany => exact .group hgroup hhost hpeer hpattern hany
  | peer hgroup hhost hpeer hid => exact .peer hgroup hhost hpeer hid
  | host hgroup hhost hpeer hnormal =>
    have hidem := normalizeFirewallHost_idem hnormal
    exact .host (r := { r with host := _ }) hgroup (host_ne_empty hidem) hpeer hidem

theorem RuleSelector.one {network : Subnet} (h : RuleSelector network r rule selector) :
    (r.group ≠ "" ∧ r.host = "" ∧ r.peerNodeID = "") ∨ (r.group = "" ∧ r.host = "" ∧ r.peerNodeID ≠ "") ∨
      (r.group = "" ∧ r.host ≠ "" ∧ r.peerNodeID = "") := by
  cases h with
  | group hgroup hhost hpeer => exact .inl ⟨hgroup, hhost, hpeer⟩
  | peer hgroup hhost hpeer => exact .inr (.inl ⟨hgroup, hhost, hpeer⟩)
  | host hgroup hhost hpeer => exact .inr (.inr ⟨hgroup, hhost, hpeer⟩)

theorem RuleSelector.rest {network : Subnet} (h : RuleSelector network r rule selector) :
    { r with host := rule.host } = rule := by
  cases h with
  | group | peer | host => rfl

/-- A rule that was brought to its canonical form is in it. -/
theorem normalizeFirewallRule_idem {network : Subnet}
    (h : normalizeFirewallRule r network = .ok (rule, port, key)) :
    normalizeFirewallRule rule network = .ok (rule, port, key) := by
  obtain ⟨hchecks, selector, hselector, rfl⟩ := normalizeFirewallRule_eq_ok.mp h
  have hrest := hselector.rest
  refine normalizeFirewallRule_eq_ok.mpr ⟨?_, selector, hselector.idem, ?_⟩
  · rw [← hrest]
    exact { hchecks with }
  · rw [← hrest]
    rfl

/-! ## Ports have one text -/

theorem eq_of_splitFirst {sep : Char} {cs before after : List Char} (h : splitFirst sep cs = some (before, after)) :
    cs = before ++ sep :: after := by
  induction cs generalizing before with
  | nil => cases h
  | cons c cs ih =>
    rw [splitFirst] at h
    split_ifs at h with hc
    · obtain ⟨rfl, rfl⟩ := Prod.mk.inj (Option.some.inj h)
      rw [hc, List.nil_append]
    · obtain ⟨⟨before', after'⟩, hsplit, heq⟩ := Option.map_eq_some_iff.mp h
      obtain ⟨rfl, rfl⟩ := Prod.mk.inj heq
      rw [ih hsplit, List.cons_append]

/-- The characters of ports. -/
def FirewallPort.digits : FirewallPort → List Char
  | .any => "any".toList
  | .range first last =>
    if first = last then Nat.toDigits 10 first else Nat.toDigits 10 first ++ '-' :: Nat.toDigits 10 last

theorem parseCanonicalPortNumber_eq_ok {cs : List Char} (h : parseCanonicalPortNumber cs = .ok n) :
    cs = Nat.toDigits 10 n ∧ n ≤ 65535 := by
  rw [parseCanonicalPortNumber, require_eq_ok] at h
  have hparse := (Option.filter_eq_some_iff.mp h).1
  exact ⟨toDigits_of_strictDecimal? hparse, strictDecimal?_le hparse⟩

/-- A text is read as ports only if it is the text of the ports. -/
theorem digits_of_parseCanonicalFirewallPort {value : String} (h : parseCanonicalFirewallPort value = .ok port) :
    value.toList = port.digits ∧ ∀ first last, port = .range first last → first ≤ 65535 ∧ last ≤ 65535 := by
  unfold parseCanonicalFirewallPort at h
  split_ifs at h with hany
  · rw [pure_eq_ok] at h
    rw [hany, ← h]
    exact ⟨rfl, fun _ _ hrange => by cases hrange⟩
  rw [bind_unit_eq_ok] at h
  obtain ⟨-, h⟩ := h
  split at h
  · rename_i left right hsplit
    simp only [bind_eq_ok, exists_unit, reject_eq_ok, pure_eq_ok, not_le] at h
    obtain ⟨first, hfirst, last, hlast, hlt, rfl⟩ := h
    obtain ⟨hleft, hfirst⟩ := parseCanonicalPortNumber_eq_ok hfirst
    obtain ⟨hright, hlast⟩ := parseCanonicalPortNumber_eq_ok hlast
    refine ⟨?_, ?_⟩
    · rw [eq_of_splitFirst hsplit, hleft, hright, FirewallPort.digits, if_neg (by omega)]
    · rintro _ _ ⟨⟩
      exact ⟨hfirst, hlast⟩
  · simp only [bind_eq_ok, pure_eq_ok] at h
    obtain ⟨n, hn, rfl⟩ := h
    obtain ⟨hdigits, hle⟩ := parseCanonicalPortNumber_eq_ok hn
    refine ⟨?_, ?_⟩
    · rw [hdigits, FirewallPort.digits, if_pos rfl]
    · rintro _ _ ⟨⟩
      exact ⟨hle, hle⟩

/-! ## The sort key tells canonical rules apart -/

def nul : Char := Char.ofNat 0

/-- The two parts of the target in the key. -/
def targetParts (r : FirewallRule) : String × String :=
  if r.targetGroup ≠ "" then ("target_group", r.targetGroup)
  else if r.targetNodeID ≠ "" then ("target_node", r.targetNodeID)
  else ("target", "all")

/-- The two parts of the selector in the key. -/
def selectorParts (r : FirewallRule) : String × String :=
  if r.host ≠ "" then ("host", r.host) else if r.peerNodeID ≠ "" then ("peer_node", r.peerNodeID) else ("group", r.group)

def protoRank (proto : String) : String :=
  if proto = "any" then "0" else if proto = "icmp" then "1"
  else if proto = "tcp" then "2" else if proto = "udp" then "3" else ""

def FirewallPort.sortKey : FirewallPort → String
  | .any => "0"
  | .range first last => "1" ++ fiveDigits first ++ fiveDigits last

theorem firewallRuleSortKey_toList (hport : parseCanonicalFirewallPort r.port = .ok port) :
    (firewallRuleSortKey r).toList =
      (targetParts r).1.toList ++ nul :: ((targetParts r).2.toList ++ nul :: ((protoRank r.proto).toList ++
        nul :: (port.sortKey.toList ++ nul :: ((selectorParts r).1.toList ++ nul :: (selectorParts r).2.toList)))) := by
  have hnul : "\x00".toList = [nul] := by decide
  have htarget : targetKey r = (targetParts r).1 ++ "\x00" ++ (targetParts r).2 := by
    unfold targetKey targetParts
    split_ifs <;> rfl
  have hselector : (if r.host ≠ "" then "host\x00" ++ r.host else if r.peerNodeID ≠ "" then "peer_node\x00" ++ r.peerNodeID
      else "group\x00" ++ r.group) = (selectorParts r).1 ++ "\x00" ++ (selectorParts r).2 := by
    unfold selectorParts
    split_ifs <;> rfl
  have hkey : firewallRuleSortKey r = (targetParts r).1 ++ "\x00" ++ (targetParts r).2 ++ "\x00" ++ protoRank r.proto ++
      "\x00" ++ port.sortKey ++ "\x00" ++ ((selectorParts r).1 ++ "\x00" ++ (selectorParts r).2) := by
    rw [← htarget, ← hselector, firewallRuleSortKey, hport]
    cases port <;> rfl
  rw [hkey]
  simp only [String.toList_append, hnul, List.append_assoc, List.cons_append, List.nil_append]

theorem nul_notMem_of_groupPattern (h : groupPattern s = true) : nul ∉ s.toList := by
  simp only [groupPattern, matchesLabel] at h
  split at h
  · cases h
  · rename_i c cs hs
    simp only [Bool.and_eq_true, List.all_eq_true] at h
    rw [hs, List.mem_cons, not_or]
    refine ⟨?_, fun hmem => absurd (h.2 nul hmem) (by decide)⟩
    rintro rfl
    exact absurd h.1.1 (by decide)

theorem nul_notMem_of_validPersistedID (h : validPersistedID s = true) : nul ∉ s.toList := by
  simp only [validPersistedID, Bool.and_eq_true, List.all_eq_true] at h
  exact fun hmem => absurd (h.2 nul hmem) (by decide)

theorem nul_notMem_targetParts (h : RuleChecks r port) :
    nul ∉ (targetParts r).1.toList ∧ nul ∉ (targetParts r).2.toList := by
  have hgroup := h.target_group
  have hnode := h.target_node
  unfold targetParts
  split_ifs with hg hn
  · simp only [ne_eq, hg, not_false_eq_true, true_and, not_or, not_not] at hgroup
    exact ⟨(by decide : nul ∉ "target_group".toList), nul_notMem_of_groupPattern hgroup.2.1⟩
  · simp only [ne_eq, hn, not_false_eq_true, true_and, not_not] at hnode
    exact ⟨(by decide : nul ∉ "target_node".toList), nul_notMem_of_validPersistedID hnode⟩
  · exact ⟨by decide, by decide⟩

theorem nul_notMem_protoRank (proto : String) : nul ∉ (protoRank proto).toList := by
  unfold protoRank
  split_ifs <;> decide

theorem nul_notMem_sortKey (port : FirewallPort) : nul ∉ port.sortKey.toList := by
  cases port with
  | any => decide
  | range first last =>
    have hone : nul ∉ "1".toList := by decide
    have hdigits : ∀ n, nul ∉ Calendar.padded 5 n := fun n => Calendar.sep_notMem_padded (by decide)
    simp only [FirewallPort.sortKey, fiveDigits, String.toList_append, String.toList_ofList, List.mem_append, not_or]
    exact ⟨⟨hone, hdigits first⟩, hdigits last⟩

theorem nul_notMem_selectorParts (r : FirewallRule) : nul ∉ (selectorParts r).1.toList := by
  have hkinds : ∀ kind ∈ ["host", "peer_node", "group"], nul ∉ kind.toList := by decide
  refine hkinds _ ?_
  unfold selectorParts
  split_ifs <;> simp

theorem protoRank_inj {a b : String} (ha : a ∈ ["any", "tcp", "udp", "icmp"]) (hb : b ∈ ["any", "tcp", "udp", "icmp"])
    (h : protoRank a = protoRank b) : a = b := by
  have hinj : ∀ a ∈ ["any", "tcp", "udp", "icmp"],
      ∀ b ∈ ["any", "tcp", "udp", "icmp"], protoRank a = protoRank b → a = b := by
    decide
  exact hinj a ha b hb h

theorem FirewallPort.sortKey_inj {a b : FirewallPort}
    (ha : ∀ first last, a = .range first last → first ≤ 65535 ∧ last ≤ 65535)
    (hb : ∀ first last, b = .range first last → first ≤ 65535 ∧ last ≤ 65535)
    (h : a.sortKey.toList = b.sortKey.toList) : a = b := by
  have hlength : ∀ n ≤ 65535, (Calendar.padded 5 n).length = 5 := fun n hn => Calendar.length_padded (by omega) (by decide)
  have hzero : "0".toList = ['0'] := by decide
  have hone : "1".toList = ['1'] := by decide
  cases a with
  | any =>
    cases b with
    | any => rfl
    | range first last => simp [FirewallPort.sortKey, hzero, hone] at h
  | range first last =>
    cases b with
    | any => simp [FirewallPort.sortKey, hzero, hone] at h
    | range first' last' =>
      obtain ⟨hf, hl⟩ := ha _ _ rfl
      obtain ⟨hf', hl'⟩ := hb _ _ rfl
      simp only [FirewallPort.sortKey, fiveDigits, String.toList_append, String.toList_ofList, List.append_assoc] at h
      obtain ⟨hfirst, hlast⟩ := List.append_inj (List.append_cancel_left h) (by rw [hlength _ hf, hlength _ hf'])
      rw [Calendar.padded_inj hfirst, Calendar.padded_inj hlast]

theorem targetParts_cases (h : RuleChecks r port) :
    (targetParts r = ("target_group", r.targetGroup) ∧ r.targetNodeID = "") ∨
    (targetParts r = ("target_node", r.targetNodeID) ∧ r.targetGroup = "") ∨
    (targetParts r = ("target", "all") ∧ r.targetGroup = "" ∧ r.targetNodeID = "") := by
  unfold targetParts
  split_ifs with hg hn
  · exact .inl ⟨rfl, by_contra fun hn => h.one_target ⟨hg, hn⟩⟩
  · exact .inr (.inl ⟨rfl, not_not.mp hg⟩)
  · exact .inr (.inr ⟨rfl, not_not.mp hg, not_not.mp hn⟩)

/-- The target parts tell the target. -/
theorem target_eq_of_parts {p q : FirewallPort} (ha : RuleChecks a p) (hb : RuleChecks b q)
    (h : targetParts a = targetParts b) : a.targetGroup = b.targetGroup ∧ a.targetNodeID = b.targetNodeID := by
  rcases targetParts_cases ha with ⟨hpa, hna⟩ | ⟨hpa, hga⟩ | ⟨hpa, hga, hna⟩ <;>
    rcases targetParts_cases hb with ⟨hpb, hnb⟩ | ⟨hpb, hgb⟩ | ⟨hpb, hgb, hnb⟩ <;>
    rw [hpa, hpb, Prod.mk.injEq] at h <;> first
      | exact absurd h.1 (by decide)
      | simp_all

theorem selectorParts_cases {network : Subnet} (h : RuleSelector network r r selector) :
    (selectorParts r = ("group", r.group) ∧ r.host = "" ∧ r.peerNodeID = "") ∨
    (selectorParts r = ("peer_node", r.peerNodeID) ∧ r.group = "" ∧ r.host = "") ∨
    (selectorParts r = ("host", r.host) ∧ r.group = "" ∧ r.peerNodeID = "") := by
  rcases h.one with ⟨hgroup, hhost, hpeer⟩ | ⟨hgroup, hhost, hpeer⟩ | ⟨hgroup, hhost, hpeer⟩
  · exact .inl ⟨by simp [selectorParts, hhost, hpeer], hhost, hpeer⟩
  · exact .inr (.inl ⟨by simp [selectorParts, hhost, hpeer], hgroup, hhost⟩)
  · exact .inr (.inr ⟨by simp [selectorParts, hhost], hgroup, hpeer⟩)

theorem selector_eq_of_parts {network : Subnet} {t : String} (ha : RuleSelector network a a s)
    (hb : RuleSelector network b b t) (h : selectorParts a = selectorParts b) :
    a.group = b.group ∧ a.host = b.host ∧ a.peerNodeID = b.peerNodeID := by
  rcases selectorParts_cases ha with ⟨hpa, hxa, hya⟩ | ⟨hpa, hxa, hya⟩ | ⟨hpa, hxa, hya⟩ <;>
    rcases selectorParts_cases hb with ⟨hpb, hxb, hyb⟩ | ⟨hpb, hxb, hyb⟩ | ⟨hpb, hxb, hyb⟩ <;>
    rw [hpa, hpb, Prod.mk.injEq] at h <;> first
      | exact absurd h.1 (by decide)
      | simp_all

/-- The rule is in its canonical form. -/
def CanonicalRule (network : Subnet) (r : FirewallRule) : Prop :=
  ∃ port key, normalizeFirewallRule r network = .ok (r, port, key)

/-- Canonical rules with the same sort key are the same rule. -/
theorem firewallRuleSortKey_inj {network : Subnet} (ha : CanonicalRule network a) (hb : CanonicalRule network b)
    (h : firewallRuleSortKey a = firewallRuleSortKey b) : a = b := by
  obtain ⟨p, _, hp⟩ := ha
  obtain ⟨q, _, hq⟩ := hb
  obtain ⟨hchecksA, s, hselectorA, -⟩ := normalizeFirewallRule_eq_ok.mp hp
  obtain ⟨hchecksB, t, hselectorB, -⟩ := normalizeFirewallRule_eq_ok.mp hq
  have hkey := congrArg String.toList h
  rw [firewallRuleSortKey_toList hchecksA.port_eq, firewallRuleSortKey_toList hchecksB.port_eq] at hkey
  obtain ⟨hkind, hkey⟩ := Lines.append_cons_inj (nul_notMem_targetParts hchecksA).1 (nul_notMem_targetParts hchecksB).1 hkey
  obtain ⟨hname, hkey⟩ := Lines.append_cons_inj (nul_notMem_targetParts hchecksA).2 (nul_notMem_targetParts hchecksB).2 hkey
  obtain ⟨hrank, hkey⟩ := Lines.append_cons_inj (nul_notMem_protoRank _) (nul_notMem_protoRank _) hkey
  obtain ⟨hports, hkey⟩ := Lines.append_cons_inj (nul_notMem_sortKey _) (nul_notMem_sortKey _) hkey
  obtain ⟨hselKind, hselName⟩ := Lines.append_cons_inj (nul_notMem_selectorParts _) (nul_notMem_selectorParts _) hkey
  obtain ⟨hdigitsA, hboundA⟩ := digits_of_parseCanonicalFirewallPort hchecksA.port_eq
  obtain ⟨hdigitsB, hboundB⟩ := digits_of_parseCanonicalFirewallPort hchecksB.port_eq
  have hproto : a.proto = b.proto :=
    protoRank_inj hchecksA.proto_known hchecksB.proto_known (String.toList_injective hrank)
  have hport : a.port = b.port := String.toList_injective (by
    rw [hdigitsA, hdigitsB, FirewallPort.sortKey_inj hboundA hboundB hports])
  obtain ⟨htargetGroup, htargetNode⟩ := target_eq_of_parts hchecksA hchecksB
    (Prod.ext (String.toList_injective hkind) (String.toList_injective hname))
  obtain ⟨hgroup, hhost, hpeer⟩ := selector_eq_of_parts hselectorA hselectorB
    (Prod.ext (String.toList_injective hselKind) (String.toList_injective hselName))
  cases a
  cases b
  simp only [FirewallRule.mk.injEq]
  exact ⟨hproto, hport, hgroup, hhost, hpeer, htargetGroup, htargetNode⟩

/-! ## Lists of rules -/

/-- The canonical rules of a list, each with its ports and the key of its selector and target. -/
def ruleForms (network : Subnet) (rules : List FirewallRule) : List (FirewallRule × FirewallPort × String) :=
  rules.filterMap fun r => (normalizeFirewallRule r network).toOption

/-- The key by which a duplicate is told. -/
def formKey (form : FirewallRule × FirewallPort × String) : String :=
  form.1.proto ++ "\x00" ++ form.1.port ++ "\x00" ++ form.2.2

def formSlots (forms : List (FirewallRule × FirewallPort × String)) : Nat := (forms.map (·.2.1.slots)).sum

/-- Every rule has a canonical form and no two have the same. -/
structure RulesValid (network : Subnet) (rules : List FirewallRule) : Prop where
  normal : ∀ r ∈ rules, ∃ form, normalizeFirewallRule r network = .ok form
  distinct : ((ruleForms network rules).map formKey).Nodup

theorem ruleForms_cons {network : Subnet} {form : FirewallRule × FirewallPort × String}
    (h : normalizeFirewallRule r network = .ok form) (rules : List FirewallRule) :
    ruleForms network (r :: rules) = form :: ruleForms network rules := by
  rw [ruleForms, List.filterMap_cons, h]
  rfl

theorem checkFirewallRules_eq_ok {direction : String} {network : Subnet} {rules : List FirewallRule} :
    ∀ {index slots : Nat} {seen : List String} {out : List FirewallRule} {total : Nat},
      checkFirewallRules direction network index seen slots rules = .ok (out, total) ↔
        (∀ r ∈ rules, ∃ form, normalizeFirewallRule r network = .ok form) ∧
        (rules ≠ [] → total ≤ maxFirewallExpandedPortSlots) ∧
        ((ruleForms network rules).map formKey).Nodup ∧ (∀ form ∈ ruleForms network rules, formKey form ∉ seen) ∧
        out = (ruleForms network rules).map (·.1) ∧ total = slots + formSlots (ruleForms network rules) := by
  induction rules with
  | nil =>
    intro index slots seen out total
    simp [checkFirewallRules, ruleForms, formSlots, eq_comm]
  | cons r rest ih =>
    intro index slots seen out total
    simp only [checkFirewallRules, bind_eq_ok, exists_unit, mapError_eq_ok, reject_eq_ok, pure_eq_ok, Prod.exists, ih,
      Prod.mk.injEq, not_lt]
    constructor
    · rintro ⟨rule, port, selector, hrule, hslots, hnew, _, _, ⟨hnormal, hmax, hnodup, hseen, rfl, rfl⟩, rfl, rfl⟩
      simp only [List.mem_cons, not_or] at hseen
      rw [ruleForms_cons hrule, List.map_cons, List.nodup_cons, List.mem_map]
      refine ⟨List.forall_mem_cons.mpr ⟨⟨_, _, _, hrule⟩, hnormal⟩, fun _ => ?_, ⟨?_, hnodup⟩, ?_, rfl, ?_⟩
      · cases rest with
        | nil => exact hslots
        | cons r' rest => exact hmax (List.cons_ne_nil _ _)
      · rintro ⟨form, hform, hkey⟩
        exact (hseen form hform).1 hkey
      · exact List.forall_mem_cons.mpr ⟨hnew, fun form hform => (hseen form hform).2⟩
      · rw [formSlots, formSlots, List.map_cons, List.sum_cons, Nat.add_assoc]
    · rintro ⟨hnormal, hmax, hnodup, hseen, rfl, rfl⟩
      obtain ⟨⟨rule, port, selector, hrule⟩, hnormal⟩ := List.forall_mem_cons.mp hnormal
      rw [ruleForms_cons hrule, List.map_cons, List.nodup_cons] at hnodup
      rw [ruleForms_cons hrule] at hmax hseen ⊢
      obtain ⟨hnew, hseen⟩ := List.forall_mem_cons.mp hseen
      have htotal : slots + formSlots ((rule, port, selector) :: ruleForms network rest) =
          slots + port.slots + formSlots (ruleForms network rest) := by
        rw [formSlots, formSlots, List.map_cons, List.sum_cons, Nat.add_assoc]
      rw [htotal] at hmax ⊢
      have hmax := hmax (List.cons_ne_nil _ _)
      refine ⟨rule, port, selector, hrule, by omega, hnew, _, _, ⟨hnormal, fun _ => hmax, hnodup.2, ?_, rfl, rfl⟩, rfl, rfl⟩
      intro form hform hmem
      rcases List.mem_cons.mp hmem with hkey | hmem
      · exact hnodup.1 (List.mem_map.mpr ⟨form, hform, hkey⟩)
      · exact hseen form hform hmem

/-! ## Policies -/

/-- What a normal form is made of. -/
structure PolicyNormalizes (network : Subnet) (inbound outbound : List FirewallRule) : Prop where
  inbound_count : inbound.length ≤ maxFirewallRulesPerDirection
  outbound_count : outbound.length ≤ maxFirewallRulesPerDirection
  inbound_valid : RulesValid network inbound
  outbound_valid : RulesValid network outbound
  slots : formSlots (ruleForms network inbound) + formSlots (ruleForms network outbound) ≤ maxFirewallExpandedPortSlots

/-- The rules in their canonical form and order. -/
def normalRules (network : Subnet) (rules : List FirewallRule) : List FirewallRule :=
  sortFirewallRules ((ruleForms network rules).map (·.1))

def canonicalNetwork (networkCIDR : String) : Option Subnet := (parsePrefix4 networkCIDR).filter fun p => p = p.masked

theorem normalizeFirewallPolicy_eq_ok {inbound outbound : List FirewallRule} {networkCIDR : String}
    {policy : FirewallPolicy} : normalizeFirewallPolicy (some inbound) (some outbound) networkCIDR = .ok policy ↔
      ∃ network, canonicalNetwork networkCIDR = some network ∧ PolicyNormalizes network inbound outbound ∧
        policy = {
          mode := .managed, rendererVersion := currentFirewallRendererVersion,
          inbound := normalRules network inbound, outbound := normalRules network outbound } := by
  simp only [normalizeFirewallPolicy, normalizeFirewallRules, bind_eq_ok, exists_unit, require_eq_ok, reject_eq_ok,
    Option.some.injEq, exists_eq_left', pure_eq_ok, Prod.exists, Prod.mk.injEq, checkFirewallRules_eq_ok, not_lt]
  constructor
  · rintro ⟨hin, hout, network, hnetwork, _, _, ⟨_, _, ⟨hnormal, -, hnodup, -, rfl, rfl⟩, rfl, rfl⟩, _, _,
      ⟨_, _, ⟨hnormal', -, hnodup', -, rfl, rfl⟩, rfl, rfl⟩, hslots, rfl⟩
    rw [Nat.zero_add] at hslots
    exact ⟨network, hnetwork, ⟨hin, hout, ⟨by simpa using hnormal, hnodup⟩, ⟨by simpa using hnormal', hnodup'⟩, hslots⟩, rfl⟩
  · rintro ⟨network, hnetwork, ⟨hin, hout, ⟨hnormal, hnodup⟩, ⟨hnormal', hnodup'⟩, hslots⟩, rfl⟩
    refine ⟨hin, hout, network, hnetwork, _, _,
      ⟨_, _, ⟨by simpa using hnormal, fun _ => ?_, hnodup, by simp, rfl, rfl⟩, rfl, rfl⟩, _, _,
      ⟨_, _, ⟨by simpa using hnormal', fun _ => ?_, hnodup', by simp, rfl, rfl⟩, rfl, rfl⟩, ?_, rfl⟩ <;> omega

/-! ## Order and repetition -/

section
variable {network : Subnet} {rules rules' : List FirewallRule}

theorem mem_ruleForms {form : FirewallRule × FirewallPort × String} (h : form ∈ ruleForms network rules) :
    normalizeFirewallRule form.1 network = .ok form := by
  obtain ⟨r, -, hr⟩ := List.mem_filterMap.mp h
  cases hnormal : normalizeFirewallRule r network with
  | error e =>
    rw [hnormal] at hr
    cases hr
  | ok form' =>
    rw [hnormal] at hr
    obtain rfl := Option.some.inj hr
    exact normalizeFirewallRule_idem hnormal

theorem ruleForms_perm (h : rules.Perm rules') : (ruleForms network rules).Perm (ruleForms network rules') :=
  h.filterMap _

/-- The canonical rules are their own canonical forms. -/
theorem ruleForms_map_fst (network : Subnet) (rules : List FirewallRule) :
    ruleForms network ((ruleForms network rules).map (·.1)) = ruleForms network rules := by
  rw [ruleForms, List.filterMap_map]
  refine (List.filterMap_congr fun form hform => ?_).trans (List.filterMap_some (l := ruleForms network rules))
  rw [Function.comp_apply, mem_ruleForms hform]
  rfl

theorem normalRules_perm (network : Subnet) (rules : List FirewallRule) :
    (normalRules network rules).Perm ((ruleForms network rules).map (·.1)) := List.perm_insertionSort _ _

/-- Only the canonical forms count, not their order. -/
theorem normalRules_eq_of_perm (h : (ruleForms network rules).Perm (ruleForms network rules')) :
    normalRules network rules = normalRules network rules' := by
  refine Sorting.insertionSort_eq_of_perm (f := firewallRuleSortKey) (h.map _) ?_
  intro a ha b hb
  obtain ⟨form, hform, rfl⟩ := List.mem_map.mp ha
  obtain ⟨form', hform', rfl⟩ := List.mem_map.mp hb
  exact firewallRuleSortKey_inj ⟨_, _, mem_ruleForms hform⟩ ⟨_, _, mem_ruleForms hform'⟩

theorem ruleForms_normalRules (network : Subnet) (rules : List FirewallRule) :
    (ruleForms network (normalRules network rules)).Perm (ruleForms network rules) := by
  have hperm : (ruleForms network (normalRules network rules)).Perm
      (ruleForms network ((ruleForms network rules).map (·.1))) := ruleForms_perm (normalRules_perm network rules)
  rwa [ruleForms_map_fst] at hperm

theorem RulesValid.length_ruleForms (h : RulesValid network rules) : (ruleForms network rules).length = rules.length := by
  have hnormal := h.normal
  clear h
  induction rules with
  | nil => rfl
  | cons r rest ih =>
    obtain ⟨⟨form, hform⟩, hrest⟩ := List.forall_mem_cons.mp hnormal
    rw [ruleForms_cons hform, List.length_cons, List.length_cons, ih hrest]

theorem RulesValid.of_perm (h : RulesValid network rules) (hperm : rules.Perm rules') : RulesValid network rules' where
  normal r hr := h.normal r (hperm.mem_iff.mpr hr)
  distinct := ((ruleForms_perm hperm).map formKey).nodup_iff.mp h.distinct

theorem RulesValid.normalRules (h : RulesValid network rules) : RulesValid network (normalRules network rules) where
  normal r hr := by
    obtain ⟨form, hform, rfl⟩ := List.mem_map.mp ((normalRules_perm network rules).mem_iff.mp hr)
    exact ⟨form, mem_ruleForms hform⟩
  distinct := ((ruleForms_normalRules network rules).map formKey).nodup_iff.mpr h.distinct

theorem formSlots_eq_of_perm {forms forms' : List (FirewallRule × FirewallPort × String)} (h : forms.Perm forms') :
    formSlots forms = formSlots forms' := (h.map _).sum_eq

theorem length_normalRules (h : RulesValid network rules) : (normalRules network rules).length = rules.length := by
  rw [(normalRules_perm network rules).length_eq, List.length_map, h.length_ruleForms]

end

section
variable {network : Subnet} {inbound inbound' outbound outbound' : List FirewallRule}

theorem PolicyNormalizes.of_perm (h : PolicyNormalizes network inbound outbound) (hin : inbound.Perm inbound')
    (hout : outbound.Perm outbound') : PolicyNormalizes network inbound' outbound' where
  inbound_count := hin.length_eq ▸ h.inbound_count
  outbound_count := hout.length_eq ▸ h.outbound_count
  inbound_valid := h.inbound_valid.of_perm hin
  outbound_valid := h.outbound_valid.of_perm hout
  slots := by
    rw [← formSlots_eq_of_perm (ruleForms_perm hin), ← formSlots_eq_of_perm (ruleForms_perm hout)]
    exact h.slots

theorem PolicyNormalizes.normalRules (h : PolicyNormalizes network inbound outbound) :
    PolicyNormalizes network (normalRules network inbound) (normalRules network outbound) where
  inbound_count := (length_normalRules h.inbound_valid).symm ▸ h.inbound_count
  outbound_count := (length_normalRules h.outbound_valid).symm ▸ h.outbound_count
  inbound_valid := h.inbound_valid.normalRules
  outbound_valid := h.outbound_valid.normalRules
  slots := by
    rw [formSlots_eq_of_perm (ruleForms_normalRules network inbound),
      formSlots_eq_of_perm (ruleForms_normalRules network outbound)]
    exact h.slots

end

/-- The rules of a policy that is accepted are replaced by their normal form, which is accepted as a stored policy, is
its own normal form and does not depend on the order of the rules. The rules of a stored policy are in normal form;
its mode and the version of its renderer are not part of what is normalised. -/
theorem firewall_normal_form (networkCIDR : String) :
    (∀ (inbound outbound : List FirewallRule) (policy : FirewallPolicy),
      normalizeFirewallPolicy (some inbound) (some outbound) networkCIDR = .ok policy →
        validateStoredFirewallPolicy policy networkCIDR = .ok () ∧
        normalizeFirewallPolicy (some policy.inbound) (some policy.outbound) networkCIDR = .ok policy ∧
        ∀ inbound' outbound' : List FirewallRule, inbound.Perm inbound' → outbound.Perm outbound' →
          normalizeFirewallPolicy (some inbound') (some outbound') networkCIDR = .ok policy) ∧
    (∀ policy : FirewallPolicy, validateStoredFirewallPolicy policy networkCIDR = .ok () →
      normalizeFirewallPolicy (some policy.inbound) (some policy.outbound) networkCIDR =
        .ok { policy with mode := .managed, rendererVersion := currentFirewallRendererVersion }) := by
  constructor
  · intro inbound outbound policy h
    obtain ⟨network, hnetwork, hvalid, rfl⟩ := normalizeFirewallPolicy_eq_ok.mp h
    have hagain : normalizeFirewallPolicy (some (normalRules network inbound)) (some (normalRules network outbound))
        networkCIDR = .ok {
          mode := .managed, rendererVersion := currentFirewallRendererVersion,
          inbound := normalRules network inbound, outbound := normalRules network outbound } := by
      refine normalizeFirewallPolicy_eq_ok.mpr ⟨network, hnetwork, hvalid.normalRules, ?_⟩
      rw [normalRules_eq_of_perm (ruleForms_normalRules network inbound),
        normalRules_eq_of_perm (ruleForms_normalRules network outbound)]
    refine ⟨?_, hagain, fun inbound' outbound' hin hout => ?_⟩
    · simp only [validateStoredFirewallPolicy, bind_eq_ok, exists_unit, reject_eq_ok, hagain, Except.ok.injEq,
        exists_eq_left']
      exact ⟨by decide, by decide, by decide, by simp, by simp⟩
    · refine normalizeFirewallPolicy_eq_ok.mpr ⟨network, hnetwork, hvalid.of_perm hin hout, ?_⟩
      rw [normalRules_eq_of_perm (ruleForms_perm hin), normalRules_eq_of_perm (ruleForms_perm hout)]
  · intro policy h
    simp only [validateStoredFirewallPolicy, bind_eq_ok, exists_unit, reject_eq_ok, not_or, ne_eq, not_not] at h
    obtain ⟨-, -, -, normalized, hnormalized, ⟨hin, hout⟩, -⟩ := h
    obtain ⟨network, -, -, rfl⟩ := normalizeFirewallPolicy_eq_ok.mp hnormalized
    dsimp only at hin hout
    rw [hnormalized, ← hin, ← hout]

/-- The policy of networks older than managed policies is stored as it is and normalised to a managed one. -/
theorem legacyDefault_is_not_its_normal_form :
    validateStoredFirewallPolicy legacyDefaultFirewallPolicy "10.42.0.0/24" = .ok () ∧
      normalizeFirewallPolicy (some legacyDefaultFirewallPolicy.inbound) (some legacyDefaultFirewallPolicy.outbound)
        "10.42.0.0/24" ≠ .ok legacyDefaultFirewallPolicy := by
  constructor
  · decide +kernel
  · intro h
    obtain ⟨network, -, -, hpolicy⟩ := normalizeFirewallPolicy_eq_ok.mp h
    have hmode : FirewallPolicyMode.legacyDefault = .managed := congrArg FirewallPolicy.mode hpolicy
    cases hmode

end Mesh
