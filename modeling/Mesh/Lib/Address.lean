import Mesh.Lib.Checks
import Mathlib.Data.List.Sort

/-!
# Mesh.Lib.Address

Internet addresses, prefixes and endpoints in their text forms, as the Go packages `net` and
`net/netip` read and write them. An IPv4 address is a number below `2^32`, an IPv6 address one below
`2^128`.

Two sections follow the definitions. In a list of prefixes sorted by address and length, the addresses
between those of two overlapping ones lie in one of the two, so checking neighbours is enough
(`pairwise_of_neighbours`). And a prefix is read back from its own text (`parsePrefix4_text`).
-/

namespace Mesh
namespace Address

/-! ## Splitting texts -/

/-- The text before the first separator and the text after it. -/
def splitFirst (sep : Char) : List Char → Option (List Char × List Char)
  | [] => none
  | c :: cs =>
    if c = sep then some ([], cs)
    else (splitFirst sep cs).map fun (before, after) => (c :: before, after)

/-- The text before the last separator and the text after it. -/
def splitLast (sep : Char) (cs : List Char) : Option (List Char × List Char) :=
  (splitFirst sep cs.reverse).map fun (after, before) => (before.reverse, after.reverse)

/-- `strings.Split` at a character. -/
def fields (sep : Char) : List Char → List (List Char)
  | [] => [[]]
  | c :: cs =>
    if c = sep then [] :: fields sep cs
    else
      match fields sep cs with
      | [] => [[c]]
      | f :: fs => (c :: f) :: fs

/-! ## Numbers in texts -/

def digit? (c : Char) : Option Nat := if '0' ≤ c ∧ c ≤ '9' then some (c.toNat - 48) else none

def decimal? (cs : List Char) : Option Nat :=
  if cs = [] then none
  else (cs.mapM digit?).map (·.foldl (fun n d => n * 10 + d) 0)

/-- Decimal digits without a leading zero, at most `bound`. -/
def strictDecimal? (bound : Nat) (cs : List Char) : Option Nat :=
  if cs.length > 1 ∧ cs.head? = some '0' then none else (decimal? cs).filter (· ≤ bound)

def hexDigit? (c : Char) : Option Nat :=
  if '0' ≤ c ∧ c ≤ '9' then some (c.toNat - 48)
  else if 'a' ≤ c ∧ c ≤ 'f' then some (c.toNat - 87)
  else if 'A' ≤ c ∧ c ≤ 'F' then some (c.toNat - 55)
  else none

/-! ## Addresses -/

inductive Addr where
  | v4 (value : Nat)
  | v6 (value : Nat) (zone : List Char)
deriving DecidableEq

def parseIPv4 (cs : List Char) : Option Nat :=
  match (fields '.' cs).mapM fun f => if f.length ≤ 3 then strictDecimal? 255 f else none with
  | some [a, b, c, d] => some (((a * 256 + b) * 256 + c) * 256 + d)
  | _ => none

/-- One group of an IPv6 text: one to four hexadecimal digits. -/
def parseGroup (cs : List Char) : Option Nat :=
  if cs = [] ∨ 4 < cs.length then none
  else (cs.mapM hexDigit?).map (·.foldl (fun n d => n * 16 + d) 0)

/-- Groups of an IPv6 text; only the last may be a dotted quad, which stands for two. -/
def parseGroups : List (List Char) → Option (List Nat)
  | [] => some []
  | [g] =>
    if '.' ∈ g then (parseIPv4 g).map fun n => [n / 65536, n % 65536]
    else (parseGroup g).map ([·])
  | g :: gs => do
    let n ← parseGroup g
    let ns ← parseGroups gs
    pure (n :: ns)

def groupsValue (gs : List Nat) : Nat := gs.foldl (fun n g => n * 65536 + g) 0

/-- The groups of one side of `::`; the side may be empty. -/
def parseSide (cs : List Char) : Option (List Nat) :=
  if cs = [] then some [] else parseGroups (fields ':' cs)

/-- The text before the first `::` and the text after it. -/
def splitEllipsis : List Char → Option (List Char × List Char)
  | ':' :: ':' :: rest => some ([], rest)
  | [] => none
  | c :: cs => (splitEllipsis cs).map fun (before, after) => (c :: before, after)

/-- Eight groups, or fewer with one `::` that stands for the missing ones. A dotted quad may only
end the text. -/
def parseIPv6Digits (cs : List Char) : Option Nat :=
  match splitEllipsis cs with
  | none =>
    match parseGroups (fields ':' cs) with
    | some gs => if gs.length = 8 then some (groupsValue gs) else none
    | none => none
  | some (before, after) =>
    match (if '.' ∈ before then none else parseSide before), parseSide after with
    | some left, some right =>
      if left.length + right.length < 8 then
        some (groupsValue (left ++ List.replicate (8 - (left.length + right.length)) 0 ++ right))
      else none
    | _, _ => none

def parseIPv6 (cs : List Char) : Option Addr :=
  match splitFirst '%' cs with
  | none => (parseIPv6Digits cs).map (.v6 · [])
  | some (address, zone) => if zone = [] then none else (parseIPv6Digits address).map (.v6 · zone)

/-- `netip.ParseAddr`: the first of `.`, `:` and `%` decides the family. -/
def parseAddr (s : String) : Option Addr :=
  match s.toList.find? fun c => c = '.' ∨ c = ':' ∨ c = '%' with
  | some '.' => (parseIPv4 s.toList).map .v4
  | some ':' => parseIPv6 s.toList
  | _ => none

/-- `net.ParseIP`, which refuses zones. -/
def parseIP (s : String) : Option Addr :=
  match parseAddr s with
  | some (.v6 _ (_ :: _)) => none
  | a => a

/-- `net.IP.To4`: an IPv4 address, also in its IPv6-mapped form. -/
def Addr.to4 : Addr → Option Nat
  | .v4 n => some n
  | .v6 n _ => if n / 4294967296 = 65535 then some (n % 4294967296) else none

def formatIPv4 (n : Nat) : String :=
  toString (n / 16777216 % 256) ++ "." ++ toString (n / 65536 % 256) ++ "." ++
    toString (n / 256 % 256) ++ "." ++ toString (n % 256)

/-- The text is the dotted quad of an IPv4 address: `net.ParseIP(s).To4().String() == s`. -/
def isCanonicalIPv4 (s : String) : Bool :=
  match (parseIP s).bind Addr.to4 with
  | some n => formatIPv4 n == s
  | none => false

/-- `netip.Addr.IsGlobalUnicast` of an IPv4 address. -/
def isGlobalUnicast4 (n : Nat) : Bool :=
  n ≠ 0 && n ≠ 4294967295 && n / 16777216 ≠ 127 && n / 268435456 ≠ 14 && n / 65536 ≠ 43518

/-! ## Prefixes -/

/-- An IPv4 prefix: an address and the number of leading bits that count. -/
structure Subnet where
  addr : Nat
  bits : Nat
deriving DecidableEq, Repr

/-- The number of addresses of the prefix. -/
def Subnet.size (p : Subnet) : Nat := 2 ^ (32 - p.bits)

def Subnet.masked (p : Subnet) : Subnet := ⟨p.addr / p.size * p.size, p.bits⟩

def Subnet.contains (p : Subnet) (a : Nat) : Bool := a / p.size == p.addr / p.size

def Subnet.text (p : Subnet) : String := formatIPv4 p.addr ++ "/" ++ toString p.bits

/-- `netip.ParsePrefix` of a text whose address is IPv4. -/
def parsePrefix4 (s : String) : Option Subnet :=
  match splitLast '/' s.toList with
  | some (address, bits) =>
    match parseAddr (String.ofList address), strictDecimal? 32 bits with
    | some (.v4 n), some b => some ⟨n, b⟩
    | _, _ => none
  | none => none

/-- `net.ParseCIDR` of a text whose address is IPv4: the address and its network. -/
def parseCIDR4 (s : String) : Option (Nat × Subnet) :=
  match splitFirst '/' s.toList with
  | some (address, bits) =>
    match parseAddr (String.ofList address), (decimal? bits).filter (· ≤ 32) with
    | some (.v4 n), some b => some (n, Subnet.masked ⟨n, b⟩)
    | _, _ => none
  | none => none

def prefixesOverlap (p q : Subnet) : Bool := p.contains q.addr || q.contains p.addr

/-- The order of prefixes: by address, then by length. -/
def Subnet.le (p q : Subnet) : Bool := p.addr < q.addr || (p.addr == q.addr && p.bits ≤ q.bits)

/-! ## Endpoints -/

/-- `net.SplitHostPort`. -/
def splitHostPort (s : String) : Option (String × String) :=
  let cs := s.toList
  match splitLast ':' cs with
  | none => none
  | some (before, port) =>
    match before with
    | '[' :: inside =>
      match splitFirst ']' inside with
      | some (host, []) =>
        if '[' ∈ host ∨ '[' ∈ port ∨ ']' ∈ port then none
        else some (String.ofList host, String.ofList port)
      | _ => none
    | host =>
      if ':' ∈ host ∨ '[' ∈ cs ∨ ']' ∈ cs then none
      else some (String.ofList host, String.ofList port)

/-! ## Reserved space -/

variable {p q : Subnet} {sep : Char} {before after cs : List Char} {n : Nat}

theorem contains_iff {a : Nat} : p.contains a = true ↔ a / p.size = p.addr / p.size := by
  simp [Subnet.contains]

theorem contains_self (p : Subnet) : p.contains p.addr = true := by simp [Subnet.contains]

theorem size_pos (p : Subnet) : 0 < p.size := Nat.two_pow_pos _

theorem prefixesOverlap_comm (p q : Subnet) : prefixesOverlap p q = prefixesOverlap q p := by
  simp [prefixesOverlap, Bool.or_comm]

theorem prefixesOverlap_self (p : Subnet) : prefixesOverlap p p = true := by
  simp [prefixesOverlap, contains_self]

theorem le_iff : p.le q = true ↔ p.addr < q.addr ∨ (p.addr = q.addr ∧ p.bits ≤ q.bits) := by
  simp [Subnet.le]

theorem le_trans {r : Subnet} (h1 : p.le q = true) (h2 : q.le r = true) : p.le r = true := by
  rw [le_iff] at *
  omega

theorem le_total (p q : Subnet) : p.le q = true ∨ q.le p = true := by
  rw [le_iff, le_iff]
  omega

theorem le_antisymm (h1 : p.le q = true) (h2 : q.le p = true) : p = q := by
  rw [le_iff] at *
  cases p
  cases q
  simp only [Subnet.mk.injEq] at *
  omega

/-- The address has no bits beyond the length of the prefix. -/
def Subnet.IsMasked (p : Subnet) : Prop := p.size ∣ p.addr

theorem masked_eq_iff : p.masked = p ↔ p.IsMasked := by
  cases p
  simp only [Subnet.masked, Subnet.mk.injEq, and_true, Subnet.IsMasked]
  exact ⟨fun h => ⟨_, (Nat.mul_comm _ _ ▸ h).symm⟩, Nat.div_mul_cancel⟩

/-- The addresses between two that a prefix contains. -/
theorem contains_of_between {a b c : Nat} (hab : a ≤ b) (hbc : b ≤ c) (ha : p.contains a = true)
    (hc : p.contains c = true) : p.contains b = true := by
  rw [contains_iff] at *
  have h1 : a / p.size ≤ b / p.size := Nat.div_le_div_right hab
  have h2 : b / p.size ≤ c / p.size := Nat.div_le_div_right hbc
  omega

theorem prefixesOverlap_iff : prefixesOverlap p q = true ↔ p.contains q.addr = true ∨ q.contains p.addr = true := by
  rw [prefixesOverlap, Bool.or_eq_true]

/-- A prefix between two overlapping ones overlaps the one that contains the other's address. -/
theorem prefixesOverlap_between {r : Subnet} (hpq : p.le q = true) (hqr : q.le r = true)
    (h : prefixesOverlap p r = true) :
    prefixesOverlap p q = true ∨ r.contains p.addr = true ∧ prefixesOverlap q r = true := by
  rw [le_iff] at hpq hqr
  rcases prefixesOverlap_iff.mp h with hp | hr
  · have hq : p.contains q.addr = true := contains_of_between (by omega) (by omega) (contains_self p) hp
    exact .inl (prefixesOverlap_iff.mpr (.inl hq))
  · have hq : r.contains q.addr = true := contains_of_between (by omega) (by omega) hr (contains_self r)
    exact .inr ⟨hr, prefixesOverlap_iff.mpr (.inr hq)⟩

/-- In a sorted list, if neighbours that overlap are related by a transitive relation that keeps the
prefix, then so are any two that overlap. -/
theorem pairwise_of_neighbours {α : Type} {f : α → Subnet} {C : α → α → Prop}
    (hkeep : ∀ {a b}, C a b → f a = f b) (htrans : ∀ {a b c}, C a b → C b c → C a c) :
    ∀ {xs : List α}, xs.Pairwise (fun a b => (f a).le (f b) = true) →
      xs.IsChain (fun a b => prefixesOverlap (f a) (f b) = true → C a b) →
      xs.Pairwise (fun a b => prefixesOverlap (f a) (f b) = true → C a b)
  | [], _, _ => List.Pairwise.nil
  | [x], _, _ => List.pairwise_singleton _ _
  | x :: y :: ys, hsorted, hchain => by
    obtain ⟨hx, hrest⟩ := List.pairwise_cons.mp hsorted
    have ih : (y :: ys).Pairwise (fun a b => prefixesOverlap (f a) (f b) = true → C a b) :=
      pairwise_of_neighbours (f := f) (C := C) hkeep htrans hrest hchain.tail
    refine List.pairwise_cons.mpr ⟨fun z hz hov => ?_, ih⟩
    have hxy := hchain.rel
    rcases List.mem_cons.mp hz with rfl | hz'
    · exact hxy hov
    have hyz := (List.pairwise_cons.mp ih).1 z hz'
    rcases prefixesOverlap_between (hx y List.mem_cons_self) ((List.pairwise_cons.mp hrest).1 z hz') hov with
      hov' | ⟨hz, hov'⟩
    · -- `x` holds the address of `y`, so the two have one prefix, and `y` overlaps `z` as `x` does
      have hC := hxy hov'
      exact htrans hC (hyz (hkeep hC ▸ hov))
    · -- `z` holds the addresses of both: `y` has its prefix and overlaps `x`
      have hC := hyz hov'
      exact htrans (hxy (prefixesOverlap_iff.mpr (.inr (hkeep hC ▸ hz)))) hC

/-! ## Texts of prefixes -/

theorem splitFirst_append (h : sep ∉ before) : splitFirst sep (before ++ sep :: after) = some (before, after) := by
  induction before with
  | nil => simp [splitFirst]
  | cons c cs ih =>
    rw [List.mem_cons, not_or] at h
    simp [splitFirst, Ne.symm h.1, ih h.2]

theorem splitLast_append (h : sep ∉ after) : splitLast sep (before ++ sep :: after) = some (before, after) := by
  have hrev : (before ++ sep :: after).reverse = after.reverse ++ sep :: before.reverse := by simp
  rw [splitLast, hrev, splitFirst_append (by simpa using h)]
  simp

theorem fields_eq_singleton (h : sep ∉ cs) : fields sep cs = [cs] := by
  induction cs with
  | nil => rfl
  | cons c cs ih =>
    rw [List.mem_cons, not_or] at h
    rw [fields, if_neg (Ne.symm h.1), ih h.2]

theorem fields_append (h : sep ∉ before) : fields sep (before ++ sep :: after) = before :: fields sep after := by
  induction before with
  | nil => simp [fields]
  | cons c cs ih =>
    rw [List.mem_cons, not_or] at h
    rw [List.cons_append, fields, if_neg (Ne.symm h.1), ih h.2]

/-- What the decimal text of one part of an address or of a length is read as. -/
structure Octet (d : Nat) : Prop where
  strict : strictDecimal? 255 (toString d).toList = some d
  short : (toString d).toList.length ≤ 3
  digits : ∀ c ∈ (toString d).toList, c ≠ '.' ∧ c ≠ '/' ∧ c ≠ ':' ∧ c ≠ '%'

theorem octet (d : Fin 256) : Octet d.val := by
  -- the digits are told apart by a test of the list: characters as such can be enumerated as well
  have h : ∀ d < 256, strictDecimal? 255 (toString d).toList = some d ∧ (toString d).toList.length ≤ 3 ∧
      ((toString d).toList.all fun c => c != '.' && c != '/' && c != ':' && c != '%') = true := by
    decide +kernel
  obtain ⟨hstrict, hshort, hdigits⟩ := h d.val d.isLt
  refine ⟨hstrict, hshort, fun c hc => ?_⟩
  have := List.all_eq_true.mp hdigits c hc
  simpa [and_assoc] using this

theorem bits_text (b : Fin 33) : strictDecimal? 32 (toString b.val).toList = some b.val ∧
    '/' ∉ (toString b.val).toList := by
  revert b
  decide +kernel

theorem formatIPv4_toList (n : Nat) : (formatIPv4 n).toList =
    (toString (n / 16777216 % 256)).toList ++ '.' :: ((toString (n / 65536 % 256)).toList ++
      '.' :: ((toString (n / 256 % 256)).toList ++ '.' :: (toString (n % 256)).toList)) := by
  simp [formatIPv4, String.toList_append]

theorem parseIPv4_formatIPv4 (h : n < 4294967296) : parseIPv4 (formatIPv4 n).toList = some n := by
  have h1 := octet ⟨n / 16777216 % 256, Nat.mod_lt _ (by decide)⟩
  have h2 := octet ⟨n / 65536 % 256, Nat.mod_lt _ (by decide)⟩
  have h3 := octet ⟨n / 256 % 256, Nat.mod_lt _ (by decide)⟩
  have h4 := octet ⟨n % 256, Nat.mod_lt _ (by decide)⟩
  have hdot : ∀ {d : Nat}, Octet d → '.' ∉ (toString d).toList := fun hd hm => (hd.digits _ hm).1 rfl
  rw [parseIPv4, formatIPv4_toList, fields_append (hdot h1), fields_append (hdot h2),
    fields_append (hdot h3), fields_eq_singleton (hdot h4)]
  simp only [List.mapM_cons, List.mapM_nil, if_pos h1.short, if_pos h2.short, if_pos h3.short,
    if_pos h4.short, h1.strict, h2.strict, h3.strict, h4.strict, Option.bind_eq_bind, Option.bind_some,
    Option.pure_def, Option.some.injEq]
  omega

theorem parseAddr_formatIPv4 (h : n < 4294967296) : parseAddr (formatIPv4 n) = some (.v4 n) := by
  have h1 := octet ⟨n / 16777216 % 256, Nat.mod_lt _ (by decide)⟩
  have hnone : (toString (n / 16777216 % 256)).toList.find? (fun c => c = '.' ∨ c = ':' ∨ c = '%') = none := by
    rw [List.find?_eq_none]
    intro c hc
    obtain ⟨hdot, -, hcolon, hzone⟩ := h1.digits c hc
    simp [hdot, hcolon, hzone]
  have hfind : (formatIPv4 n).toList.find? (fun c => c = '.' ∨ c = ':' ∨ c = '%') = some '.' := by
    rw [formatIPv4_toList, List.find?_append, hnone]
    rfl
  rw [parseAddr, hfind]
  simp only [parseIPv4_formatIPv4 h, Option.map_some]

/-- A prefix is read back from its text. -/
theorem parsePrefix4_text (haddr : p.addr < 4294967296) (hbits : p.bits ≤ 32) : parsePrefix4 p.text = some p := by
  obtain ⟨hstrict, hslash⟩ := bits_text ⟨p.bits, by omega⟩
  have hsplit : splitLast '/' p.text.toList =
      some ((formatIPv4 p.addr).toList, (toString p.bits).toList) := by
    have : p.text.toList = (formatIPv4 p.addr).toList ++ '/' :: (toString p.bits).toList := by
      simp [Subnet.text, String.toList_append]
    rw [this, splitLast_append hslash]
  rw [parsePrefix4, hsplit]
  simp only [String.ofList_toList, parseAddr_formatIPv4 haddr, hstrict]

theorem strictDecimal?_le {bound : Nat} (h : strictDecimal? bound cs = some n) : n ≤ bound := by
  unfold strictDecimal? at h
  split_ifs at h
  exact of_decide_eq_true (Option.filter_eq_some_iff.mp h).2

theorem digitChar_digit? {c : Char} {d : Nat} (h : digit? c = some d) : d < 10 ∧ Nat.digitChar d = c := by
  unfold digit? at h
  split_ifs at h with hc
  have hlow : 48 ≤ c.toNat := hc.1
  have hhigh : c.toNat ≤ 57 := hc.2
  obtain rfl := Option.some.inj h
  refine ⟨by omega, Char.toNat_inj.mp ?_⟩
  rw [Nat.toNat_digitChar_of_lt_ten (by omega)]
  omega

/-- Further digits after those of a positive number. -/
theorem toDigits_foldl :
    ∀ {ds : List Nat} {n : Nat}, cs.mapM digit? = some ds → 0 < n →
      Nat.toDigits 10 n ++ cs = Nat.toDigits 10 (ds.foldl (fun n d => n * 10 + d) n) := by
  induction cs with
  | nil =>
    intro ds n h _
    simp only [List.mapM_nil, Option.pure_def, Option.some.injEq] at h
    subst h
    simp
  | cons c cs ih =>
    intro ds n h hn
    simp only [List.mapM_cons, Option.bind_eq_bind, Option.bind_eq_some_iff, Option.pure_def, Option.some.injEq] at h
    obtain ⟨d, hd, ds, hds, rfl⟩ := h
    obtain ⟨hlt, hchar⟩ := digitChar_digit? hd
    have hstep : Nat.toDigits 10 n ++ [c] = Nat.toDigits 10 (10 * n + d) := by
      rw [← Nat.toDigits_append_toDigits (by decide) hn hlt, Nat.toDigits_of_lt_base hlt, hchar]
    rw [List.foldl_cons, Nat.mul_comm, ← ih hds (by omega), ← hstep, List.append_assoc, List.singleton_append]

/-- A number without a leading zero has one text. -/
theorem toDigits_of_strictDecimal? {bound : Nat} (h : strictDecimal? bound cs = some n) :
    cs = Nat.toDigits 10 n := by
  unfold strictDecimal? decimal? at h
  split_ifs at h with hzero hnil
  · cases h
  obtain ⟨h, -⟩ := Option.filter_eq_some_iff.mp h
  obtain ⟨ds, hds, rfl⟩ := Option.map_eq_some_iff.mp h
  obtain ⟨c, cs, rfl⟩ := List.exists_cons_of_ne_nil hnil
  simp only [List.mapM_cons, Option.bind_eq_bind, Option.bind_eq_some_iff, Option.pure_def, Option.some.injEq] at hds
  obtain ⟨d, hd, ds, hds, rfl⟩ := hds
  obtain ⟨hlt, hchar⟩ := digitChar_digit? hd
  have hone : Nat.toDigits 10 d = [c] := by rw [Nat.toDigits_of_lt_base hlt, hchar]
  rw [List.foldl_cons, Nat.zero_mul, Nat.zero_add]
  cases cs with
  | nil =>
    simp only [List.mapM_nil, Option.pure_def, Option.some.injEq] at hds
    subst hds
    exact hone.symm
  | cons c' cs =>
    have hpos : 0 < d := by
      refine Nat.pos_of_ne_zero ?_
      rintro rfl
      exact hzero ⟨by simp, by rw [← hchar]; rfl⟩
    rw [← toDigits_foldl hds hpos, hone, List.singleton_append]

theorem parseIPv4_lt (h : parseIPv4 cs = some n) : n < 4294967296 := by
  unfold parseIPv4 at h
  split at h
  · rename_i a b c d hm
    have hle : ∀ o ∈ [a, b, c, d], o ≤ 255 := by
      intro o ho
      obtain ⟨f, -, hf⟩ := exists_of_mapM_eq_some hm o ho
      split_ifs at hf
      exact strictDecimal?_le hf
    simp only [List.mem_cons, List.not_mem_nil, or_false, forall_eq_or_imp, forall_eq] at hle
    rw [Option.some.injEq] at h
    omega
  · cases h

theorem parseAddr_v4_lt {s : String} (h : parseAddr s = some (.v4 n)) : n < 4294967296 := by
  unfold parseAddr at h
  split at h
  · obtain ⟨m, hm, he⟩ := Option.map_eq_some_iff.mp h
    cases he
    exact parseIPv4_lt hm
  · unfold parseIPv6 at h
    split at h
    · simp at h
    · split_ifs at h
      simp at h
  · cases h

theorem masked_isMasked (p : Subnet) : p.masked.IsMasked := Dvd.intro_left _ rfl

/-- A text in the form of its network is read as that network, in either way. -/
theorem parsePrefix4_of_parseCIDR4 {value : String} (h : parseCIDR4 value = some (n, p))
    (htext : p.text = value) : parsePrefix4 value = some p ∧ p.IsMasked := by
  unfold parseCIDR4 at h
  split at h
  · split at h
    · rename_i m b hm hb
      cases h
      have hle : b ≤ 32 := of_decide_eq_true (Option.filter_eq_some_iff.mp hb).2
      have hlt : (Subnet.masked ⟨n, b⟩).addr < 4294967296 :=
        lt_of_le_of_lt (Nat.div_mul_le_self _ _) (parseAddr_v4_lt hm)
      exact ⟨htext ▸ parsePrefix4_text hlt hle, masked_isMasked _⟩
    · cases h
  · cases h

theorem parseIP_formatIPv4 (h : n < 4294967296) : parseIP (formatIPv4 n) = some (.v4 n) := by
  rw [parseIP, parseAddr_formatIPv4 h]

/-- In the text of a network the address is the first one of the network. -/
theorem address_of_parseCIDR4 {value : String} (h : parseCIDR4 value = some (n, p)) (htext : p.text = value) :
    n = p.addr ∧ n < 4294967296 := by
  have hdigits := fun k : Nat => (octet ⟨k % 256, Nat.mod_lt _ (by decide)⟩).digits
  have hslash : '/' ∉ (formatIPv4 p.addr).toList := by
    simp only [formatIPv4_toList, List.mem_append, List.mem_cons, not_or]
    exact ⟨fun hm => (hdigits _ _ hm).2.1 rfl, by decide, fun hm => (hdigits _ _ hm).2.1 rfl, by decide,
      fun hm => (hdigits _ _ hm).2.1 rfl, by decide, fun hm => (hdigits _ _ hm).2.1 rfl⟩
  have hsplit : splitFirst '/' value.toList =
      some ((formatIPv4 p.addr).toList, (toString p.bits).toList) := by
    have : value.toList = (formatIPv4 p.addr).toList ++ '/' :: (toString p.bits).toList := by
      rw [← htext]
      simp [Subnet.text, String.toList_append]
    rw [this, splitFirst_append hslash]
  rw [parseCIDR4, hsplit] at h
  simp only [String.ofList_toList] at h
  split at h
  · rename_i m b hm hb
    obtain ⟨rfl, rfl⟩ := Prod.mk.inj (Option.some.inj h)
    have hlt := parseAddr_v4_lt hm
    have hmasked : (Subnet.masked ⟨m, b⟩).addr < 4294967296 :=
      lt_of_le_of_lt (Nat.div_mul_le_self _ _) hlt
    rw [parseAddr_formatIPv4 hmasked, Option.some.injEq, Addr.v4.injEq] at hm
    exact ⟨hm.symm, hlt⟩
  · cases h

end Address
end Mesh
