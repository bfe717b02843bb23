import Mesh.Lib.JsonText

/-!
# Mesh.Lib.JsonWrite

The compact writer of JSON documents. A document of plain texts and whole numbers is written in characters of
seven bits, and what is written is read back as that document (`readText_encode`).
-/

namespace Mesh
namespace JsonText

/-! ## The writer -/

def quadDigits (n : Nat) : List Char := [n / 4096, n / 256 % 16, n / 16 % 16, n % 16].map Sha256.hexDigit

/-- A character in a text; characters that mean something in HTML are escaped too. -/
def escape (c : Char) : List Char :=
  if c = '"' ∨ c = '\\' then ['\\', c]
  else if c = '\n' then ['\\', 'n']
  else if c = '\r' then ['\\', 'r']
  else if c = '\t' then ['\\', 't']
  else if c.toNat = 8 then ['\\', 'b']
  else if c.toNat = 12 then ['\\', 'f']
  else if c.toNat < 32 ∨ c = '<' ∨ c = '>' ∨ c = '&' ∨ c.toNat = 8232 ∨ c.toNat = 8233 then
    '\\' :: 'u' :: quadDigits c.toNat
  else [c]

def writeString (s : String) : List Char := '"' :: (s.toList.flatMap escape ++ ['"'])

def intLiteral (i : Int) : List Char :=
  if i < 0 then '-' :: Nat.toDigits 10 i.natAbs else Nat.toDigits 10 i.natAbs

/-- What stands before an element. -/
def comma (first : Bool) : List Char := if first then [] else [',']

mutual

def write : Value → List Char
  | .null => ['n', 'u', 'l', 'l']
  | .bool true => ['t', 'r', 'u', 'e']
  | .bool false => ['f', 'a', 'l', 's', 'e']
  | .number literal => literal
  | .string text => writeString text
  | .array items => '[' :: writeItems true items
  | .object members => '{' :: writeMembers true members

def writeItems : Bool → List Value → List Char
  | _, [] => [']']
  | first, v :: vs => comma first ++ (write v ++ writeItems false vs)

def writeMembers : Bool → List (String × Value) → List Char
  | _, [] => ['}']
  | first, (name, v) :: ms => comma first ++ (writeString name ++ ':' :: (write v ++ writeMembers false ms))

end

/-! ## Written documents are read back -/

/-- A character that is written as itself. -/
def isPlain (c : Char) : Bool :=
  32 ≤ c.toNat && c.toNat ≤ 126 && c != '"' && c != '\\' && c != '<' && c != '>' && c != '&'

def PlainText (s : String) : Prop := ∀ c ∈ s.toList, isPlain c = true

-- the instance is named: another one would look at all characters there are
instance (s : String) : Decidable (PlainText s) := List.decidableBAll (fun c => isPlain c = true) s.toList

mutual

/-- Documents of plain texts and whole numbers. -/
def Value.Plain : Value → Prop
  | .null => True
  | .bool _ => True
  | .number literal => ∃ i, literal = intLiteral i
  | .string text => PlainText text
  | .array items => PlainItems items
  | .object members => PlainMembers members

def PlainItems : List Value → Prop
  | [] => True
  | v :: vs => v.Plain ∧ PlainItems vs

def PlainMembers : List (String × Value) → Prop
  | [] => True
  | (name, v) :: ms => (PlainText name ∧ v.Plain) ∧ PlainMembers ms

end

mutual

/-- No object has a name twice. -/
def Value.Distinct : Value → Prop
  | .array items => DistinctItems items
  | .object members => (members.map (·.1)).Nodup ∧ DistinctMembers members
  | _ => True

def DistinctItems : List Value → Prop
  | [] => True
  | v :: vs => v.Distinct ∧ DistinctItems vs

def DistinctMembers : List (String × Value) → Prop
  | [] => True
  | (_, v) :: ms => v.Distinct ∧ DistinctMembers ms

end

variable {c : Char} {s : String} {cs rest : List Char} {n : Nat} {v : Value} {first : Bool}

theorem isPlain_iff : isPlain c = true ↔
    32 ≤ c.toNat ∧ c.toNat ≤ 126 ∧ c ≠ '"' ∧ c ≠ '\\' ∧ c ≠ '<' ∧ c ≠ '>' ∧ c ≠ '&' := by
  simp [isPlain, and_assoc]

theorem escape_of_isPlain (h : isPlain c = true) : escape c = [c] := by
  obtain ⟨hlow, hhigh, hquote, hslash, hless, hmore, hand⟩ := isPlain_iff.mp h
  have hlf : c ≠ '\n' := by
    rintro rfl
    exact absurd hlow (by decide)
  have hcr : c ≠ '\r' := by
    rintro rfl
    exact absurd hlow (by decide)
  have htab : c ≠ '\t' := by
    rintro rfl
    exact absurd hlow (by decide)
  have hcontrol : ¬ c.toNat < 32 ∧ c.toNat ≠ 8 ∧ c.toNat ≠ 12 ∧ c.toNat ≠ 8232 ∧ c.toNat ≠ 8233 := by omega
  simp [escape, hquote, hslash, hless, hmore, hand, hlf, hcr, htab, hcontrol]

theorem writeString_of_plain (h : PlainText s) : writeString s = '"' :: (s.toList ++ ['"']) := by
  have hflat : s.toList.flatMap escape = s.toList := by
    rw [List.flatMap_congr fun c hc => escape_of_isPlain (h c hc)]
    simp
  rw [writeString, hflat]

theorem readString_plain (h : ∀ c ∈ cs, isPlain c = true) :
    ∀ {fuel : Nat}, cs.length < fuel → readString fuel (cs ++ '"' :: rest) = some (cs, rest) := by
  induction cs with
  | nil =>
    intro fuel hfuel
    obtain ⟨n, rfl⟩ := Nat.exists_eq_succ_of_ne_zero (Nat.ne_of_gt hfuel)
    rfl
  | cons c cs ih =>
    intro fuel hfuel
    obtain ⟨n, rfl⟩ := Nat.exists_eq_succ_of_ne_zero (Nat.ne_of_gt (Nat.zero_lt_of_lt hfuel))
    obtain ⟨hlow, -, hquote, hslash, -⟩ := isPlain_iff.mp (h c List.mem_cons_self)
    have hrest := @ih (fun c hc => h c (List.mem_cons_of_mem _ hc)) n (by simpa using hfuel)
    rw [List.cons_append, readString, if_neg hquote, if_neg hslash, if_neg (by omega), hrest]
    rfl

theorem readString_writeString (h : PlainText s) (rest : List Char) :
    ∃ after, writeString s ++ rest = '"' :: after ∧
      (readString after.length after).map (fun r => (String.ofList r.1, r.2)) = some (s, rest) := by
  refine ⟨s.toList ++ '"' :: rest, by simp [writeString_of_plain h], ?_⟩
  rw [readString_plain h (by simp)]
  simp

/-- A text after a number does not go on with it. -/
def Stops (rest : List Char) : Prop := ∀ c ∈ rest.head?, c.isDigit = false ∧ c ≠ '.' ∧ c ≠ 'e' ∧ c ≠ 'E'

theorem stops_cons (h : c.isDigit = false ∧ c ≠ '.' ∧ c ≠ 'e' ∧ c ≠ 'E') : Stops (c :: rest) := by
  intro d hd
  rw [List.head?_cons, Option.mem_def, Option.some.injEq] at hd
  exact hd ▸ h

theorem toDigits_head : Nat.toDigits 10 n = ['0'] ∨ (Nat.toDigits 10 n).head? ≠ some '0' := by
  induction n using Nat.strong_induction_on with
  | _ n ih =>
    by_cases hn : n < 10
    · interval_cases n <;> decide
    · rw [Nat.toDigits_of_base_le (by decide) (by omega)]
      refine .inr ?_
      obtain h | h := ih (n / 10) (by omega)
      · -- a number of several digits is not zero without its last one
        have := congrArg (fun cs => Nat.ofDigitChars 10 cs 0) h
        simp only [Nat.ofDigitChars_ten_toDigits] at this
        have hzero : Nat.ofDigitChars 10 ['0'] 0 = 0 := by decide
        omega
      · rwa [List.head?_append_of_ne_nil _ Nat.toDigits_ne_nil]

theorem readDigits_toDigits (h : Stops rest) :
    readDigits (Nat.toDigits 10 n ++ rest) = some (Nat.toDigits 10 n, rest) := by
  have hdigits : ∀ c ∈ Nat.toDigits 10 n, c.isDigit = true := fun c hc =>
    Nat.isDigit_of_mem_toDigits (by decide) (by decide) hc
  have htake : (Nat.toDigits 10 n ++ rest).takeWhile Char.isDigit = Nat.toDigits 10 n := by
    rw [List.takeWhile_append_of_pos hdigits]
    cases rest with
    | nil => simp
    | cons c rest => simp [(h c (by simp)).1]
  have hdrop : (Nat.toDigits 10 n ++ rest).dropWhile Char.isDigit = rest := by
    rw [List.dropWhile_append_of_pos hdigits]
    cases rest with
    | nil => rfl
    | cons c rest => simp [(h c (by simp)).1]
  rw [readDigits, htake, hdrop, if_neg Nat.toDigits_ne_nil]

theorem readFraction_of_stops (h : Stops rest) : readFraction rest = some ([], rest) := by
  cases rest with
  | nil => rfl
  | cons c rest =>
    have hc : c ≠ '.' := (h c (by simp)).2.1
    unfold readFraction
    split
    · rename_i heq
      exact absurd (List.cons.inj heq).1 hc
    · rfl

theorem readExponent_of_stops (h : Stops rest) : readExponent rest = some ([], rest) := by
  cases rest with
  | nil => rfl
  | cons c rest =>
    obtain ⟨-, -, he, hE⟩ := h c (by simp)
    cases rest with
    | nil => rfl
    | cons sign rest => simp [readExponent, he, hE]

theorem readUnsigned_toDigits (h : Stops rest) :
    readUnsigned (Nat.toDigits 10 n ++ rest) = some (Nat.toDigits 10 n, rest) := by
  have hwhole : readWhole (Nat.toDigits 10 n ++ rest) = some (Nat.toDigits 10 n, rest) := by
    rw [readWhole, readDigits_toDigits h, Option.filter_some, if_pos (by simpa using toDigits_head)]
  simp [readUnsigned, hwhole, readFraction_of_stops h, readExponent_of_stops h]

theorem toDigits_eq_cons (n : Nat) : ∃ c cs, Nat.toDigits 10 n = c :: cs ∧ c.isDigit = true := by
  cases hdigits : Nat.toDigits 10 n with
  | nil => exact absurd hdigits Nat.toDigits_ne_nil
  | cons c cs =>
    exact ⟨c, cs, rfl, Nat.isDigit_of_mem_toDigits (b := 10) (n := n) (by decide) (by decide) (by simp [hdigits])⟩

theorem readNumber_intLiteral {i : Int} (h : Stops rest) :
    readNumber (intLiteral i ++ rest) = some (intLiteral i, rest) := by
  by_cases hi : i < 0
  · simp [intLiteral, hi, readNumber, readUnsigned_toDigits h]
  · obtain ⟨c, cs, hdigits, hc⟩ := toDigits_eq_cons i.natAbs
    have hminus : c ≠ '-' := by
      rintro rfl
      exact absurd hc (by decide)
    have hunsigned := readUnsigned_toDigits (n := i.natAbs) h
    simp only [intLiteral, hi, if_false]
    rw [hdigits] at hunsigned ⊢
    unfold readNumber
    split
    · rename_i heq
      exact absurd (List.cons.inj heq).1 hminus
    · exact hunsigned

theorem readScalar_number (h : c.isDigit = true ∨ c = '-') :
    readScalar (c :: cs) = (readNumber (c :: cs)).map fun r => (.number r.1, r.2) := by
  have hc : c ≠ 'n' ∧ c ≠ 't' ∧ c ≠ 'f' ∧ c ≠ '"' := by
    refine ⟨?_, ?_, ?_, ?_⟩ <;> rintro rfl <;> exact absurd h (by decide)
  unfold readScalar
  split
  · rename_i heq
    exact absurd (List.cons.inj heq).1 hc.1
  · rename_i heq
    exact absurd (List.cons.inj heq).1 hc.2.1
  · rename_i heq
    exact absurd (List.cons.inj heq).1 hc.2.2.1
  · rename_i heq
    exact absurd (List.cons.inj heq).1 hc.2.2.2
  · rfl

theorem intLiteral_eq_cons (i : Int) : ∃ c cs, intLiteral i = c :: cs ∧ (c.isDigit = true ∨ c = '-') := by
  by_cases hi : i < 0
  · exact ⟨'-', Nat.toDigits 10 i.natAbs, by simp [intLiteral, hi], .inr rfl⟩
  · obtain ⟨c, cs, hdigits, hc⟩ := toDigits_eq_cons i.natAbs
    exact ⟨c, cs, by simp [intLiteral, hi, hdigits], .inl hc⟩

/-- A character that a value can start with. -/
structure Starts (c : Char) : Prop where
  space : isSpace c = false
  square : c ≠ ']'
  curly : c ≠ '}'

theorem starts_of_digit (h : c.isDigit = true ∨ c = '-') : Starts c ∧ c ≠ '{' ∧ c ≠ '[' := by
  have hne : ∀ d : Char, ¬ (d.isDigit = true ∨ d = '-') → c ≠ d := fun d hd hcd => hd (hcd ▸ h)
  refine ⟨⟨?_, hne _ (by decide), hne _ (by decide)⟩, hne _ (by decide), hne _ (by decide)⟩
  simp [isSpace, hne ' ' (by decide), hne '\t' (by decide), hne '\n' (by decide), hne '\r' (by decide)]

theorem write_eq_cons (h : v.Plain) : ∃ c cs, write v = c :: cs ∧ Starts c := by
  have hstarts : ∀ c ∈ ['n', 't', 'f', '"', '[', '{'], Starts c := by
    intro c hc
    fin_cases hc <;> exact ⟨by decide, by decide, by decide⟩
  cases v with
  | null => exact ⟨_, _, rfl, hstarts _ (by decide)⟩
  | bool value => cases value <;> exact ⟨_, _, rfl, hstarts _ (by decide)⟩
  | number literal =>
    obtain ⟨i, rfl⟩ := h
    obtain ⟨c, cs, hcons, hc⟩ := intLiteral_eq_cons i
    exact ⟨c, cs, hcons, (starts_of_digit hc).1⟩
  | string text => exact ⟨_, _, rfl, hstarts _ (by decide)⟩
  | array items => exact ⟨_, _, rfl, hstarts _ (by decide)⟩
  | object members => exact ⟨_, _, rfl, hstarts _ (by decide)⟩

theorem skipSpace_cons (h : isSpace c = false) : skipSpace (c :: cs) = c :: cs := by
  simp [skipSpace, h]

theorem lead_scalar (hspace : isSpace c = false) (hobject : c ≠ '{') (harray : c ≠ '[') :
    lead (c :: cs) = .scalar (c :: cs) := by
  rw [lead, skipSpace_cons hspace]
  split
  · rename_i heq
    exact absurd (List.cons.inj heq).1 hobject
  · rename_i heq
    exact absurd (List.cons.inj heq).1 harray
  · rfl

theorem value_write_scalar (hv : v.isScalar = true) (h : v.Plain) (hrest : Stops rest) (fuel : Nat) :
    plain.value (fuel + 1) () (write v ++ rest) = .ok (v, rest) := by
  have hread : ∀ {c : Char} {cs : List Char}, write v ++ rest = c :: cs → isSpace c = false → c ≠ '{' → c ≠ '[' →
      readScalar (c :: cs) = some (v, rest) → plain.value (fuel + 1) () (write v ++ rest) = .ok (v, rest) := by
    intro c cs hcs hspace hobject harray hscalar
    rw [hcs, Walker.value_scalar (lead_scalar hspace hobject harray)]
    exact ⟨rfl, hscalar⟩
  cases v with
  | null => exact hread rfl (by decide) (by decide) (by decide) rfl
  | bool value => cases value <;> exact hread rfl (by decide) (by decide) (by decide) rfl
  | number literal =>
    obtain ⟨i, rfl⟩ := h
    obtain ⟨c, cs, hcons, hc⟩ := intLiteral_eq_cons i
    obtain ⟨hstarts, hobject, harray⟩ := starts_of_digit hc
    refine hread (by rw [write, hcons, List.cons_append]) hstarts.space hobject harray ?_
    rw [readScalar_number hc, ← List.cons_append, ← hcons, readNumber_intLiteral hrest]
    rfl
  | string text =>
    obtain ⟨after, hcons, hstring⟩ := readString_writeString h rest
    obtain ⟨r, hr, heq⟩ := Option.map_eq_some_iff.mp hstring
    refine hread hcons (by decide) (by decide) (by decide) ?_
    obtain ⟨rfl, rfl⟩ := Prod.mk.injEq .. ▸ heq
    simp [readScalar, hr]
  | array items => cases hv
  | object members => cases hv

theorem next_closed {close other : Char} (h : isSpace close = false) :
    next close other first (close :: rest) = .closed rest := by
  simp [next, skipSpace_cons h]

theorem next_comma {close other : Char} (hspace : isSpace c = false) (hclose : c ≠ close) (hother : c ≠ other)
    (hcomma : ',' ≠ close ∧ ',' ≠ other) : next close other first (comma first ++ c :: cs) = .more (c :: cs) := by
  cases first with
  | true => simp [comma, next, skipSpace_cons hspace, hclose, hother]
  | false =>
    have : isSpace ',' = false := by decide
    simp [comma, next, skipSpace_cons this, hcomma.1, hcomma.2]

mutual

/-- The fuel that reading a written document takes. -/
def cost : Value → Nat
  | .array items => costItems items + 1
  | .object members => costMembers members + 1
  | _ => 1

def costItems : List Value → Nat
  | [] => 1
  | v :: vs => cost v + costItems vs + 1

def costMembers : List (String × Value) → Nat
  | [] => 1
  | (_, v) :: ms => cost v + costMembers ms + 1

end

theorem stops_writeItems (vs : List Value) (rest : List Char) : Stops (writeItems false vs ++ rest) := by
  cases vs with
  | nil => exact stops_cons (by decide)
  | cons v vs => exact stops_cons (by decide)

theorem stops_writeMembers (ms : List (String × Value)) (rest : List Char) : Stops (writeMembers false ms ++ rest) := by
  cases ms with
  | nil => exact stops_cons (by decide)
  | cons m ms => exact stops_cons (by decide)

theorem readText?_writeString (h : PlainText s) : readText? (writeString s ++ rest) = some (s, rest) := by
  obtain ⟨after, hcons, hstring⟩ := readString_writeString h rest
  have hquote : isSpace '"' = false := by decide
  simp only [readText?, hcons, skipSpace_cons hquote, hstring]

mutual

theorem value_write : (v : Value) → v.Plain → ∀ {fuel : Nat} {rest : List Char}, cost v ≤ fuel → Stops rest →
    plain.value fuel () (write v ++ rest) = .ok (v, rest)
  | .array items, h, fuel + 1, rest, hfuel, hrest => by
    have hlead : lead (write (.array items) ++ rest) = .array (writeItems true items ++ rest) := rfl
    rw [Walker.value_array hlead]
    exact ⟨rfl, items, items_write items true h (by simpa [cost] using hfuel), rfl⟩
  | .object members, h, fuel + 1, rest, hfuel, hrest => by
    have hlead : lead (write (.object members) ++ rest) = .object (writeMembers true members ++ rest) := rfl
    rw [Walker.value_object hlead]
    exact ⟨rfl, members, members_write members [] h (by simpa [cost] using hfuel), rfl⟩
  | .null, h, fuel + 1, _, _, hrest => value_write_scalar rfl h hrest fuel
  | .bool _, h, fuel + 1, _, _, hrest => value_write_scalar rfl h hrest fuel
  | .number _, h, fuel + 1, _, _, hrest => value_write_scalar rfl h hrest fuel
  | .string _, h, fuel + 1, _, _, hrest => value_write_scalar rfl h hrest fuel

theorem items_write : (vs : List Value) → (first : Bool) → PlainItems vs → ∀ {fuel : Nat} {rest : List Char},
    costItems vs ≤ fuel → plain.items fuel () first (writeItems first vs ++ rest) = .ok (vs, rest)
  | [], first, _, fuel + 1, rest, _ => by
    rw [Walker.items_eq_ok]
    exact .inl ⟨next_closed (by decide), rfl⟩
  | v :: vs, first, h, fuel + 1, rest, hfuel => by
    obtain ⟨c, cs, hcons, hstarts⟩ := write_eq_cons h.1
    simp only [costItems, Nat.add_le_add_iff_right] at hfuel
    have hnext : next ']' '}' first (writeItems first (v :: vs) ++ rest) =
        .more (write v ++ (writeItems false vs ++ rest)) := by
      rw [writeItems, List.append_assoc, List.append_assoc, hcons]
      exact next_comma hstarts.space hstarts.square hstarts.curly (by decide)
    rw [Walker.items_eq_ok]
    exact .inr ⟨_, v, _, vs, hnext, value_write v h.1 (by omega) (stops_writeItems vs rest),
      items_write vs false h.2 (by omega), rfl⟩

theorem members_write : (ms : List (String × Value)) → (seen : List String) → PlainMembers ms →
    ∀ {fuel : Nat} {rest : List Char}, costMembers ms ≤ fuel →
      plain.members fuel () seen (writeMembers seen.isEmpty ms ++ rest) = .ok (ms, rest)
  | [], seen, _, fuel + 1, rest, _ => by
    rw [Walker.members_eq_ok]
    exact .inl ⟨next_closed (by decide), rfl⟩
  | (name, v) :: ms, seen, h, fuel + 1, rest, hfuel => by
    obtain ⟨⟨hname, hv⟩, hms⟩ := h
    simp only [costMembers, Nat.add_le_add_iff_right] at hfuel
    have hnext : next '}' ']' seen.isEmpty (writeMembers seen.isEmpty ((name, v) :: ms) ++ rest) =
        .more (writeString name ++ ':' :: (write v ++ (writeMembers false ms ++ rest))) := by
      simp only [writeMembers, List.append_assoc, List.cons_append, writeString]
      exact next_comma (by decide) (by decide) (by decide) (by decide)
    have hms' := @members_write ms (seen ++ [name]) hms fuel rest (by omega)
    rw [show (seen ++ [name]).isEmpty = false by simp] at hms'
    rw [Walker.members_eq_ok]
    exact .inr ⟨_, name, _, _, v, _, ms, hnext, readText?_writeString hname, rfl,
      ⟨(), rfl, value_write v hv (by omega) (stops_writeMembers ms rest)⟩, hms', rfl⟩

end

theorem length_write_pos (h : v.Plain) : 1 ≤ (write v).length := by
  obtain ⟨c, cs, hcons, -⟩ := write_eq_cons h
  simp [hcons]

mutual

/-- Twice its length is more than enough to read a document. -/
theorem cost_lt : (v : Value) → v.Plain → cost v < 2 * (write v).length
  | .array items, h => by
    have := costItems_lt items true h
    simp only [cost, write, List.length_cons]
    omega
  | .object members, h => by
    have := costMembers_lt members true h
    simp only [cost, write, List.length_cons]
    omega
  | .null, h => by decide
  | .bool true, h => by decide
  | .bool false, h => by decide
  | .number literal, h => by
    have := length_write_pos h
    show 1 < _
    omega
  | .string text, h => by
    have := length_write_pos h
    show 1 < _
    omega

theorem costItems_lt : (vs : List Value) → (first : Bool) → PlainItems vs →
    costItems vs < 2 * (writeItems first vs).length
  | [], first, _ => Nat.lt_add_one 1
  | v :: vs, first, h => by
    have hv := cost_lt v h.1
    have hvs := costItems_lt vs false h.2
    simp only [costItems, writeItems, List.length_append]
    omega

theorem costMembers_lt : (ms : List (String × Value)) → (first : Bool) → PlainMembers ms →
    costMembers ms < 2 * (writeMembers first ms).length
  | [], first, _ => Nat.lt_add_one 1
  | (name, v) :: ms, first, h => by
    have hv := cost_lt v h.1.2
    have hms := costMembers_lt ms false h.2
    simp only [costMembers, writeMembers, List.length_append, List.length_cons]
    omega

end

/-! ## Written bytes -/

/-- What the characters of a written document are. -/
def isWritten (c : Char) : Bool := isPlain c || c = '"'

theorem isWritten_comma : ∀ c ∈ comma first, isWritten c = true :=
  List.all_eq_true.mp (by cases first <;> decide)

theorem isWritten_string (h : PlainText s) : ∀ c ∈ writeString s, isWritten c = true := by
  intro c hc
  rw [writeString_of_plain h, List.mem_cons, List.mem_append, List.mem_singleton] at hc
  rcases hc with rfl | hc | rfl
  · rfl
  · simp [isWritten, h c hc]
  · rfl

theorem isPlain_of_digit (h : c.isDigit = true) : isPlain c = true := by
  have hne : ∀ d : Char, d.isDigit = false → c ≠ d := fun d hd hcd => by
    rw [hcd, hd] at h
    cases h
  have hrange : 48 ≤ c.toNat ∧ c.toNat ≤ 57 := by
    simpa [Char.isDigit, UInt32.le_iff_toNat_le] using h
  exact isPlain_iff.mpr ⟨by omega, by omega, hne _ (by decide), hne _ (by decide), hne _ (by decide), hne _ (by decide),
    hne _ (by decide)⟩

theorem isWritten_intLiteral {i : Int} : ∀ c ∈ intLiteral i, isWritten c = true := by
  have hdigits : ∀ c ∈ Nat.toDigits 10 i.natAbs, isWritten c = true := fun c hc => by
    simp [isWritten, isPlain_of_digit (Nat.isDigit_of_mem_toDigits (by decide) (by decide) hc)]
  intro c hc
  unfold intLiteral at hc
  split at hc
  · rcases List.mem_cons.mp hc with rfl | hc
    · decide
    · exact hdigits c hc
  · exact hdigits c hc

mutual

theorem isWritten_write : (v : Value) → v.Plain → ∀ c ∈ write v, isWritten c = true
  | .array items, h, c, hc => by
    rcases List.mem_cons.mp hc with rfl | hc
    · decide
    · exact isWritten_items items true h c hc
  | .object members, h, c, hc => by
    rcases List.mem_cons.mp hc with rfl | hc
    · decide
    · exact isWritten_members members true h c hc
  | .null, _, c, hc => List.all_eq_true.mp (by decide : ['n', 'u', 'l', 'l'].all isWritten = true) c hc
  | .bool true, _, c, hc => List.all_eq_true.mp (by decide : ['t', 'r', 'u', 'e'].all isWritten = true) c hc
  | .bool false, _, c, hc => List.all_eq_true.mp (by decide : ['f', 'a', 'l', 's', 'e'].all isWritten = true) c hc
  | .number literal, h, c, hc => by
    obtain ⟨i, rfl⟩ := h
    exact isWritten_intLiteral c hc
  | .string text, h, c, hc => isWritten_string h c hc

theorem isWritten_items : (vs : List Value) → (first : Bool) → PlainItems vs →
    ∀ c ∈ writeItems first vs, isWritten c = true
  | [], first, _, c, hc => by
    rw [List.mem_singleton.mp hc]
    decide
  | v :: vs, first, h, c, hc => by
    simp only [writeItems, List.mem_append] at hc
    rcases hc with hc | hc | hc
    · exact isWritten_comma c hc
    · exact isWritten_write v h.1 c hc
    · exact isWritten_items vs false h.2 c hc

theorem isWritten_members : (ms : List (String × Value)) → (first : Bool) → PlainMembers ms →
    ∀ c ∈ writeMembers first ms, isWritten c = true
  | [], first, _, c, hc => by
    rw [List.mem_singleton.mp hc]
    decide
  | (name, v) :: ms, first, h, c, hc => by
    simp only [writeMembers, List.mem_append, List.mem_cons] at hc
    rcases hc with hc | hc | rfl | hc | hc
    · exact isWritten_comma c hc
    · exact isWritten_string h.1.1 c hc
    · decide
    · exact isWritten_write v h.1.2 c hc
    · exact isWritten_members ms false h.2 c hc

end

theorem isWritten_ascii (h : isWritten c = true) : c.toNat < 128 ∧ c ≠ '\\' := by
  simp only [isWritten, Bool.or_eq_true, decide_eq_true_eq] at h
  obtain h | rfl := h
  · obtain ⟨-, hhigh, -, hslash, -⟩ := isPlain_iff.mp h
    exact ⟨by omega, hslash⟩
  · decide

theorem encodeUtf8_ascii (h : ∀ c ∈ cs, c.toNat < 128) : encodeUtf8 cs = cs.map Char.toNat := by
  have hone : ∀ c ∈ cs, (String.utf8EncodeChar c).map UInt8.toNat = [c.toNat] := by
    intro c hc
    have hval : c.val.toNat ≤ 127 := Nat.le_of_lt_succ (h c hc)
    have hsize : c.utf8Size = 1 := Char.utf8Size_eq_one_iff.mpr (by simpa [UInt32.le_iff_toNat_le] using hval)
    rw [String.utf8EncodeChar_eq_singleton hsize, List.map_singleton, UInt32.toNat_toUInt8,
      Nat.mod_eq_of_lt (by omega)]
    rfl
  rw [encodeUtf8, utf8Bytes_ofList, List.flatMap_congr hone]
  exact (List.map_eq_flatMap).symm

theorem rune?_ascii {b : Nat} (h : b < 128) (rest : List Nat) : rune? (b :: rest) = some (Char.ofNat b, rest) := by
  simp [rune?, h]

theorem decodeRunes_ascii {bs : List Nat} (h : ∀ b ∈ bs, b < 128) :
    ∀ {fuel : Nat}, bs.length ≤ fuel → decodeRunes fuel bs = bs.map Char.ofNat ∧ validRunes fuel bs = true := by
  induction bs with
  | nil =>
    intro fuel _
    cases fuel <;> exact ⟨rfl, rfl⟩
  | cons b bs ih =>
    intro fuel hfuel
    obtain ⟨n, rfl⟩ := Nat.exists_eq_succ_of_ne_zero (Nat.ne_of_gt (Nat.zero_lt_of_lt hfuel))
    obtain ⟨hdecode, hvalid⟩ := @ih (fun b hb => h b (List.mem_cons_of_mem _ hb)) n (by simpa using hfuel)
    have hrune := rune?_ascii (h b List.mem_cons_self) bs
    exact ⟨by simp [decodeRunes, hrune, hdecode], by simp [validRunes, hrune, hvalid]⟩

theorem decodeUtf8_ascii (h : ∀ c ∈ cs, c.toNat < 128) :
    decodeUtf8 (cs.map Char.toNat) = cs ∧ validUtf8 (cs.map Char.toNat) = true := by
  have hbytes : ∀ b ∈ cs.map Char.toNat, b < 128 := by
    intro b hb
    obtain ⟨c, hc, rfl⟩ := List.mem_map.mp hb
    exact h c hc
  obtain ⟨hdecode, hvalid⟩ := decodeRunes_ascii hbytes le_rfl
  refine ⟨?_, hvalid⟩
  rw [decodeUtf8, hdecode, List.map_map]
  exact (List.map_congr_left fun c _ => Char.ofNat_toNat c).trans (List.map_id cs)

/-- The bytes of a document. -/
def encode (v : Value) : List Nat := encodeUtf8 (write v)

/-- A written document and a line feed are characters of seven bits without a backslash. -/
theorem encode_lf (h : v.Plain) :
    encode v ++ [10] = (write v ++ ['\n']).map Char.toNat ∧ ∀ c ∈ write v ++ ['\n'], c.toNat < 128 ∧ c ≠ '\\' := by
  have hwritten : ∀ c ∈ write v, c.toNat < 128 ∧ c ≠ '\\' := fun c hc => isWritten_ascii (isWritten_write v h c hc)
  refine ⟨?_, fun c hc => ?_⟩
  · rw [encode, encodeUtf8_ascii fun c hc => (hwritten c hc).1, List.map_append]
    rfl
  · rcases List.mem_append.mp hc with hc | hc
    · exact hwritten c hc
    · rw [List.mem_singleton.mp hc]
      decide

/-- What is written is read back. -/
theorem readText_encode (h : v.Plain) : readText (encode v ++ [10]) = some v := by
  obtain ⟨hbytes, hascii⟩ := encode_lf h
  have hdecode := (decodeUtf8_ascii fun c hc => (hascii c hc).1).1
  have hcost := cost_lt v h
  have hread : plain.value (2 * (write v ++ ['\n']).length + 1) () (write v ++ ['\n']) = .ok (v, ['\n']) := by
    refine value_write v h ?_ (stops_cons (by decide))
    rw [List.length_append]
    omega
  rw [readText, toOption_eq_some, Walker.text, hbytes, hdecode, bind_eq_ok]
  refine ⟨_, hread, ?_⟩
  rfl

end JsonText
end Mesh
