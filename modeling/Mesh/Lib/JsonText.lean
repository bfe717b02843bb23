import Mesh.Lib.Address
import Mesh.Lib.Chars
import Mesh.Lib.Checks

/-!
# Mesh.Lib.JsonText

JSON as text. Bytes are decoded as UTF-8, a byte that starts no character being read as U+FFFD, and the
characters are read as one document, whose objects keep their members as they stand in the text.

There is one reader. It can be given checks that it makes on the way, in the order of the text: a `Walker`
looks at each name of an object with the names before it and says how what stands under the name is looked
at. A text is read with checks exactly when it is read without them and the document passes
(`Walker.text_eq_ok`).
-/

namespace Mesh
namespace JsonText

/-! ## Characters -/

def isContinuation (b : Nat) : Bool := 128 ≤ b && b ≤ 191

/-- The first character of some bytes and the bytes after it; `none` where no character is encoded. -/
def rune? : List Nat → Option (Char × List Nat)
  | [] => none
  | b₀ :: rest =>
    if b₀ < 128 then some (Char.ofNat b₀, rest)
    else if 194 ≤ b₀ ∧ b₀ ≤ 223 then
      match rest with
      | b₁ :: rest => if isContinuation b₁ then some (Char.ofNat ((b₀ - 192) * 64 + (b₁ - 128)), rest) else none
      | _ => none
    else if 224 ≤ b₀ ∧ b₀ ≤ 239 then
      match rest with
      | b₁ :: b₂ :: rest =>
        -- neither a longer form of a shorter encoding nor a surrogate
        if isContinuation b₁ ∧ isContinuation b₂ ∧ (b₀ = 224 → 160 ≤ b₁) ∧ (b₀ = 237 → b₁ ≤ 159) then
          some (Char.ofNat ((b₀ - 224) * 4096 + (b₁ - 128) * 64 + (b₂ - 128)), rest)
        else none
      | _ => none
    else if 240 ≤ b₀ ∧ b₀ ≤ 244 then
      match rest with
      | b₁ :: b₂ :: b₃ :: rest =>
        if isContinuation b₁ ∧ isContinuation b₂ ∧ isContinuation b₃ ∧ (b₀ = 240 → 144 ≤ b₁) ∧
            (b₀ = 244 → b₁ ≤ 143) then
          some (Char.ofNat ((b₀ - 240) * 262144 + (b₁ - 128) * 4096 + (b₂ - 128) * 64 + (b₃ - 128)), rest)
        else none
      | _ => none
    else none

def replacement : Char := Char.ofNat 65533

def decodeRunes : Nat → List Nat → List Char
  | 0, _ => []
  | _, [] => []
  | fuel + 1, b :: rest =>
    match rune? (b :: rest) with
    | some (c, rest) => c :: decodeRunes fuel rest
    | none => replacement :: decodeRunes fuel rest

/-- The characters of some bytes. -/
def decodeUtf8 (raw : List Nat) : List Char := decodeRunes raw.length raw

def validRunes : Nat → List Nat → Bool
  | 0, _ => true
  | _, [] => true
  | fuel + 1, b :: rest =>
    match rune? (b :: rest) with
    | some (_, rest) => validRunes fuel rest
    | none => false

/-- `utf8.Valid`. -/
def validUtf8 (raw : List Nat) : Bool := validRunes raw.length raw

def encodeUtf8 (cs : List Char) : List Nat := utf8Bytes (String.ofList cs)

/-! ## Documents -/

inductive Value where
  | null
  | bool (value : Bool)
  | number (literal : List Char)
  | string (text : String)
  | array (items : List Value)
  | object (members : List (String × Value))

def Value.isScalar : Value → Bool
  | .array _ => false
  | .object _ => false
  | _ => true

/-! ## Texts and numbers -/

def isSpace (c : Char) : Bool := c = ' ' || c = '\t' || c = '\n' || c = '\r'

def skipSpace (cs : List Char) : List Char := cs.dropWhile isSpace

/-- Four hexadecimal digits. -/
def readQuad : List Char → Option (Nat × List Char)
  | a :: b :: c :: d :: rest => do
    let a ← Address.hexDigit? a
    let b ← Address.hexDigit? b
    let c ← Address.hexDigit? c
    let d ← Address.hexDigit? d
    some (((a * 16 + b) * 16 + c) * 16 + d, rest)
  | _ => none

def isHighSurrogate (n : Nat) : Bool := 55296 ≤ n && n ≤ 56319

def isLowSurrogate (n : Nat) : Bool := 56320 ≤ n && n ≤ 57343

/-- What follows `\u`: two halves of a pair make one character, and a half without its other is U+FFFD. -/
def readUnicodeEscape (cs : List Char) : Option (Char × List Char) := do
  let (n, rest) ← readQuad cs
  if isHighSurrogate n then
    match rest with
    | '\\' :: 'u' :: after =>
      match readQuad after with
      | some (m, after) =>
        if isLowSurrogate m then some (Char.ofNat (65536 + (n - 55296) * 1024 + (m - 56320)), after)
        else some (replacement, rest)
      | none => some (replacement, rest)
    | _ => some (replacement, rest)
  else if isLowSurrogate n then some (replacement, rest)
  else some (Char.ofNat n, rest)

/-- What follows a backslash. -/
def readEscape : List Char → Option (Char × List Char)
  | 'u' :: rest => readUnicodeEscape rest
  | 'b' :: rest => some (Char.ofNat 8, rest)
  | 'f' :: rest => some (Char.ofNat 12, rest)
  | 'n' :: rest => some ('\n', rest)
  | 'r' :: rest => some ('\r', rest)
  | 't' :: rest => some ('\t', rest)
  | c :: rest => if c = '"' ∨ c = '\\' ∨ c = '/' then some (c, rest) else none
  | [] => none

/-- A text after its opening quote. -/
def readString : Nat → List Char → Option (List Char × List Char)
  | 0, _ => none
  | _, [] => none
  | fuel + 1, c :: rest =>
    if c = '"' then some ([], rest)
    else if c = '\\' then do
      let (c, rest) ← readEscape rest
      let (text, rest) ← readString fuel rest
      some (c :: text, rest)
    else if c.toNat < 32 then none
    else do
      let (text, rest) ← readString fuel rest
      some (c :: text, rest)

def readDigits (cs : List Char) : Option (List Char × List Char) :=
  if cs.takeWhile Char.isDigit = [] then none else some (cs.takeWhile Char.isDigit, cs.dropWhile Char.isDigit)

/-- Digits without a zero in front. -/
def readWhole (cs : List Char) : Option (List Char × List Char) :=
  (readDigits cs).filter fun r => r.1 = ['0'] ∨ r.1.head? ≠ some '0'

def readFraction : List Char → Option (List Char × List Char)
  | '.' :: rest => (readDigits rest).map fun r => ('.' :: r.1, r.2)
  | cs => some ([], cs)

def readExponent : List Char → Option (List Char × List Char)
  | e :: sign :: rest =>
    if e = 'e' ∨ e = 'E' then
      if sign = '+' ∨ sign = '-' then (readDigits rest).map fun r => (e :: sign :: r.1, r.2)
      else (readDigits (sign :: rest)).map fun r => (e :: r.1, r.2)
    else some ([], e :: sign :: rest)
  | cs => some ([], cs)

def readUnsigned (cs : List Char) : Option (List Char × List Char) := do
  let (whole, rest) ← readWhole cs
  let (fraction, rest) ← readFraction rest
  let (exponent, rest) ← readExponent rest
  some (whole ++ fraction ++ exponent, rest)

def readNumber : List Char → Option (List Char × List Char)
  | '-' :: rest => (readUnsigned rest).map fun r => ('-' :: r.1, r.2)
  | cs => readUnsigned cs

def readText? (cs : List Char) : Option (String × List Char) :=
  match skipSpace cs with
  | '"' :: rest => (readString rest.length rest).map fun r => (String.ofList r.1, r.2)
  | _ => none

def readScalar : List Char → Option (Value × List Char)
  | 'n' :: 'u' :: 'l' :: 'l' :: rest => some (.null, rest)
  | 't' :: 'r' :: 'u' :: 'e' :: rest => some (.bool true, rest)
  | 'f' :: 'a' :: 'l' :: 's' :: 'e' :: rest => some (.bool false, rest)
  | '"' :: rest => (readString rest.length rest).map fun r => (.string (String.ofList r.1), r.2)
  | cs => (readNumber cs).map fun r => (.number r.1, r.2)

/-! ## The reader -/

/-- How a value starts. -/
inductive Lead where
  | object (rest : List Char)
  | array (rest : List Char)
  | scalar (cs : List Char)

def lead (cs : List Char) : Lead :=
  match skipSpace cs with
  | '{' :: rest => .object rest
  | '[' :: rest => .array rest
  | cs => .scalar cs

/-- What stands after an opening bracket or after an element: the end, the next element behind its comma,
nothing or the other closing bracket, or something else. -/
inductive Next where
  | closed (rest : List Char)
  | more (cs : List Char)
  | unclosed
  | bad

def next (close other : Char) (first : Bool) (cs : List Char) : Next :=
  match skipSpace cs with
  | [] => .unclosed
  | c :: rest =>
    if c = close then .closed rest
    else if c = other then .unclosed
    else if first then .more (c :: rest)
    else if c = ',' then .more rest
    else .bad

def skipColon (cs : List Char) : Option (List Char) :=
  match skipSpace cs with
  | ':' :: rest => some rest
  | _ => none

/-- Checks made while a text is read. A context says how a value is looked at. `enter` looks at a value
before it is read, and `name` at the name of a member after the names before it and gives the context of what
stands under it. The errors are those of the text itself. -/
structure Walker (κ ε : Type) where
  enter : κ → Except ε Unit
  name : κ → List String → String → Except ε κ
  item : κ → κ
  syntaxError : ε
  objectEnd : ε
  arrayEnd : ε

namespace Walker

variable {κ ε : Type} (w : Walker κ ε)

mutual

def value : Nat → κ → List Char → Except ε (Value × List Char)
  | 0, _, _ => .error w.syntaxError
  | fuel + 1, context, cs => do
    w.enter context
    match lead cs with
    | .object rest => do
      let (found, rest) ← members fuel context [] rest
      pure (.object found, rest)
    | .array rest => do
      let (found, rest) ← items fuel context true rest
      pure (.array found, rest)
    | .scalar cs => require (readScalar cs) w.syntaxError

def items : Nat → κ → Bool → List Char → Except ε (List Value × List Char)
  | 0, _, _, _ => .error w.syntaxError
  | fuel + 1, context, first, cs =>
    match next ']' '}' first cs with
    | .closed rest => pure ([], rest)
    | .unclosed => .error w.arrayEnd
    | .bad => .error w.syntaxError
    | .more cs => do
      let (v, rest) ← value fuel (w.item context) cs
      let (vs, rest) ← items fuel context false rest
      pure (v :: vs, rest)

def members : Nat → κ → List String → List Char → Except ε (List (String × Value) × List Char)
  | 0, _, _, _ => .error w.syntaxError
  | fuel + 1, context, seen, cs =>
    match next '}' ']' seen.isEmpty cs with
    | .closed rest => pure ([], rest)
    | .unclosed => .error w.objectEnd
    | .bad => .error w.syntaxError
    | .more cs => do
      let (name, rest) ← require (readText? cs) w.syntaxError
      let inner ← w.name context seen name
      let rest ← require (skipColon rest) w.syntaxError
      let (v, rest) ← value fuel inner rest
      let (ms, rest) ← members fuel context (seen ++ [name]) rest
      pure ((name, v) :: ms, rest)

end

/-- A whole text: one value and space around it. -/
def text (trailing : ε) (context : κ) (raw : List Nat) : Except ε Value := do
  let cs := decodeUtf8 raw
  let (v, rest) ← w.value (2 * cs.length + 1) context cs
  reject (skipSpace rest ≠ []) trailing
  pure v

mutual

/-- The checks pass at a document. -/
def Accepts : κ → Value → Prop
  | context, .array items => w.enter context = .ok () ∧ AcceptsItems context items
  | context, .object members => w.enter context = .ok () ∧ AcceptsMembers context [] members
  | context, _ => w.enter context = .ok ()

def AcceptsItems : κ → List Value → Prop
  | _, [] => True
  | context, v :: vs => Accepts (w.item context) v ∧ AcceptsItems context vs

def AcceptsMembers : κ → List String → List (String × Value) → Prop
  | _, _, [] => True
  | context, seen, (name, v) :: ms =>
    (∃ inner, w.name context seen name = .ok inner ∧ Accepts inner v) ∧ AcceptsMembers context (seen ++ [name]) ms

end

end Walker

/-- No checks. -/
def plain : Walker Unit Unit where
  enter _ := .ok ()
  name _ _ _ := .ok ()
  item _ := ()
  syntaxError := ()
  objectEnd := ()
  arrayEnd := ()

variable {cs : List Char} {v : Value}

theorem isScalar_of_readScalar {r : Value × List Char} (h : readScalar cs = some r) : r.1.isScalar = true := by
  unfold readScalar at h
  split at h
  · cases h
    rfl
  · cases h
    rfl
  · cases h
    rfl
  · obtain ⟨s, -, rfl⟩ := Option.map_eq_some_iff.mp h
    rfl
  · obtain ⟨s, -, rfl⟩ := Option.map_eq_some_iff.mp h
    rfl

namespace Walker

variable {κ ε : Type} {w : Walker κ ε}

theorem accepts_of_isScalar {context : κ} (h : v.isScalar = true) :
    w.Accepts context v ↔ w.enter context = .ok () := by
  cases v with
  | array items => cases h
  | object members => cases h
  | null => rfl
  | bool value => rfl
  | number literal => rfl
  | string text => rfl

section Read

variable {fuel : Nat}

variable {after rest : List Char}

theorem value_object {context : κ} (h : lead cs = .object after) :
    w.value (fuel + 1) context cs = .ok (v, rest) ↔ w.enter context = .ok () ∧
      ∃ ms, w.members fuel context [] after = .ok (ms, rest) ∧ .object ms = v := by
  simp [value, h]

theorem value_array {context : κ} (h : lead cs = .array after) :
    w.value (fuel + 1) context cs = .ok (v, rest) ↔ w.enter context = .ok () ∧
      ∃ vs, w.items fuel context true after = .ok (vs, rest) ∧ .array vs = v := by
  simp [value, h]

theorem value_scalar {context : κ} (h : lead cs = .scalar after) :
    w.value (fuel + 1) context cs = .ok (v, rest) ↔ w.enter context = .ok () ∧ readScalar after = some (v, rest) := by
  simp [value, h]

theorem items_eq_ok {context : κ} {first : Bool} {vs : List Value} :
    w.items (fuel + 1) context first cs = .ok (vs, rest) ↔
      (next ']' '}' first cs = .closed rest ∧ vs = []) ∨
      ∃ after v middle vs', next ']' '}' first cs = .more after ∧ w.value fuel (w.item context) after = .ok (v, middle) ∧
        w.items fuel context false middle = .ok (vs', rest) ∧ vs = v :: vs' := by
  rw [items]
  cases next ']' '}' first cs with
  | closed after =>
    simp only [pure_eq_ok, Prod.mk.injEq, Next.closed.injEq, reduceCtorEq, false_and, exists_false, or_false]
    exact ⟨fun h => ⟨h.2, h.1.symm⟩, fun h => ⟨h.2.symm, h.1⟩⟩
  | unclosed => simp
  | bad => simp
  | more after =>
    simp only [bind_eq_ok, pure_eq_ok, Prod.exists, Prod.mk.injEq, reduceCtorEq, false_and, false_or,
      Next.more.injEq, exists_eq_left', exists_and_left]
    constructor
    · rintro ⟨v, middle, hv, vs', rest', hvs, rfl, rfl⟩
      exact ⟨v, middle, hv, vs', hvs, rfl⟩
    · rintro ⟨v, middle, hv, vs', hvs, rfl⟩
      exact ⟨v, middle, hv, vs', rest, hvs, rfl, rfl⟩

theorem members_eq_ok {context : κ} {seen : List String} {ms : List (String × Value)} :
    w.members (fuel + 1) context seen cs = .ok (ms, rest) ↔
      (next '}' ']' seen.isEmpty cs = .closed rest ∧ ms = []) ∨
      ∃ after name colon inside v middle ms', next '}' ']' seen.isEmpty cs = .more after ∧
        readText? after = some (name, colon) ∧ skipColon colon = some inside ∧
        (∃ inner, w.name context seen name = .ok inner ∧ w.value fuel inner inside = .ok (v, middle)) ∧
        w.members fuel context (seen ++ [name]) middle = .ok (ms', rest) ∧ ms = (name, v) :: ms' := by
  rw [members]
  cases next '}' ']' seen.isEmpty cs with
  | closed after =>
    simp only [pure_eq_ok, Prod.mk.injEq, Next.closed.injEq, reduceCtorEq, false_and, exists_false, or_false]
    exact ⟨fun h => ⟨h.2, h.1.symm⟩, fun h => ⟨h.2.symm, h.1⟩⟩
  | unclosed => simp
  | bad => simp
  | more after =>
    simp only [bind_eq_ok, require_eq_ok, pure_eq_ok, Prod.exists, Prod.mk.injEq, reduceCtorEq, false_and, false_or,
      Next.more.injEq]
    constructor
    · rintro ⟨name, colon, hname, inner, hinner, inside, hinside, v, middle, hv, ms', rest', hms, rfl, rfl⟩
      exact ⟨after, name, colon, inside, v, middle, ms', rfl, hname, hinside, ⟨inner, hinner, hv⟩, hms, rfl⟩
    · rintro ⟨_, name, colon, inside, v, middle, ms', rfl, hname, hinside, ⟨inner, hinner, hv⟩, hms, rfl⟩
      exact ⟨name, colon, hname, inner, hinner, inside, hinside, v, middle, hv, ms', rest, hms, rfl, rfl⟩

end Read

/-- What the three functions accept, by induction on the fuel that they share. -/
theorem read_eq_ok (fuel : Nat) :
    (∀ {context cs v rest}, w.value fuel context cs = .ok (v, rest) ↔
      plain.value fuel () cs = .ok (v, rest) ∧ w.Accepts context v) ∧
    (∀ {context first cs vs rest}, w.items fuel context first cs = .ok (vs, rest) ↔
      plain.items fuel () first cs = .ok (vs, rest) ∧ w.AcceptsItems context vs) ∧
    (∀ {context seen cs ms rest}, w.members fuel context seen cs = .ok (ms, rest) ↔
      plain.members fuel () seen cs = .ok (ms, rest) ∧ w.AcceptsMembers context seen ms) := by
  induction fuel with
  | zero => simp [value, items, members]
  | succ fuel ih =>
    obtain ⟨ihv, ihi, ihm⟩ := ih
    have henter : plain.enter () = .ok () := rfl
    refine ⟨?_, ?_, ?_⟩
    · intro context cs v rest
      cases hlead : lead cs with
      | object after =>
        rw [value_object hlead, value_object hlead]
        constructor
        · rintro ⟨hin, ms, hms, rfl⟩
          exact ⟨⟨henter, ms, (ihm.mp hms).1, rfl⟩, hin, (ihm.mp hms).2⟩
        · rintro ⟨⟨-, ms, hms, rfl⟩, hin, haccepts⟩
          exact ⟨hin, ms, ihm.mpr ⟨hms, haccepts⟩, rfl⟩
      | array after =>
        rw [value_array hlead, value_array hlead]
        constructor
        · rintro ⟨hin, vs, hvs, rfl⟩
          exact ⟨⟨henter, vs, (ihi.mp hvs).1, rfl⟩, hin, (ihi.mp hvs).2⟩
        · rintro ⟨⟨-, vs, hvs, rfl⟩, hin, haccepts⟩
          exact ⟨hin, vs, ihi.mpr ⟨hvs, haccepts⟩, rfl⟩
      | scalar after =>
        rw [value_scalar hlead, value_scalar hlead]
        constructor
        · rintro ⟨hin, hread⟩
          exact ⟨⟨henter, hread⟩, (accepts_of_isScalar (isScalar_of_readScalar hread)).mpr hin⟩
        · rintro ⟨⟨-, hread⟩, haccepts⟩
          exact ⟨(accepts_of_isScalar (isScalar_of_readScalar hread)).mp haccepts, hread⟩
    · intro context first cs vs rest
      rw [items_eq_ok, items_eq_ok]
      constructor
      · rintro (⟨hclosed, rfl⟩ | ⟨after, v, middle, vs', hnext, hv, hvs, rfl⟩)
        · exact ⟨.inl ⟨hclosed, rfl⟩, trivial⟩
        · exact ⟨.inr ⟨after, v, middle, vs', hnext, (ihv.mp hv).1, (ihi.mp hvs).1, rfl⟩, (ihv.mp hv).2, (ihi.mp hvs).2⟩
      · rintro ⟨⟨hclosed, rfl⟩ | ⟨after, v, middle, vs', hnext, hv, hvs, rfl⟩, haccepts⟩
        · exact .inl ⟨hclosed, rfl⟩
        · exact .inr ⟨after, v, middle, vs', hnext, ihv.mpr ⟨hv, haccepts.1⟩, ihi.mpr ⟨hvs, haccepts.2⟩, rfl⟩
    · intro context seen cs ms rest
      rw [members_eq_ok, members_eq_ok]
      constructor
      · rintro (⟨hclosed, rfl⟩ | ⟨after, name, colon, inside, v, middle, ms', hnext, hname, hcolon,
          ⟨inner, hinner, hv⟩, hms, rfl⟩)
        · exact ⟨.inl ⟨hclosed, rfl⟩, trivial⟩
        · exact ⟨.inr ⟨after, name, colon, inside, v, middle, ms', hnext, hname, hcolon, ⟨(), rfl, (ihv.mp hv).1⟩,
            (ihm.mp hms).1, rfl⟩, ⟨inner, hinner, (ihv.mp hv).2⟩, (ihm.mp hms).2⟩
      · rintro ⟨⟨hclosed, rfl⟩ | ⟨after, name, colon, inside, v, middle, ms', hnext, hname, hcolon,
          ⟨_, -, hv⟩, hms, rfl⟩, haccepts⟩
        · exact .inl ⟨hclosed, rfl⟩
        · obtain ⟨⟨inner, hinner, hin⟩, hrest⟩ := haccepts
          exact .inr ⟨after, name, colon, inside, v, middle, ms', hnext, hname, hcolon, ⟨inner, hinner,
            ihv.mpr ⟨hv, hin⟩⟩, ihm.mpr ⟨hms, hrest⟩, rfl⟩

end Walker

/-- The document in some bytes. -/
def readText (raw : List Nat) : Option Value := (plain.text () () raw).toOption

theorem toOption_eq_some {ε α : Type} {x : Except ε α} {a : α} : x.toOption = some a ↔ x = .ok a := by
  cases x <;> simp [Except.toOption]

/-- A text is read with checks when it is read without them and the document passes. -/
theorem Walker.text_eq_ok {κ ε : Type} {w : Walker κ ε} {trailing : ε} {context : κ} {raw : List Nat} :
    w.text trailing context raw = .ok v ↔ readText raw = some v ∧ w.Accepts context v := by
  have hread := @(Walker.read_eq_ok (w := w) (2 * (decodeUtf8 raw).length + 1)).1
  simp only [readText, toOption_eq_some, Walker.text, bind_eq_ok, exists_unit, reject_eq_ok, pure_eq_ok, Prod.exists,
    hread]
  constructor
  · rintro ⟨v, rest, ⟨hv, haccepts⟩, hend, rfl⟩
    exact ⟨⟨v, rest, hv, hend, rfl⟩, haccepts⟩
  · rintro ⟨⟨v, rest, hv, hend, rfl⟩, haccepts⟩
    exact ⟨v, rest, ⟨hv, haccepts⟩, hend, rfl⟩

/-! ## Names of fields -/

/-- The least of the characters that differ in case only, reached by `simpleFold`, which leads from each to the
next larger one and from the largest to the least. -/
def foldRune (simpleFold : Char → Char) : Nat → Char → Char
  | 0, c => c
  | fuel + 1, c => if simpleFold c ≤ c then simpleFold c else foldRune simpleFold fuel (simpleFold c)

/-- The name by which a decoder of structures compares names without regard to case. -/
def foldName (simpleFold : Char → Char) (name : String) : String :=
  String.ofList (name.toList.map fun c => if c.toNat < 128 then c.toUpper else foldRune simpleFold 1114112 c)

/-- The field that a member goes to: the one of its name, or else the first whose name folds to the same. -/
def assignField (simpleFold : Char → Char) (fields : List String) (name : String) : Option String :=
  if name ∈ fields then some name else fields.find? fun f => foldName simpleFold f = foldName simpleFold name

end JsonText
end Mesh
