import Mesh.Lib.JsonWrite
import Mesh.Lib.Keyed

/-!
# Mesh.Lib.JsonStruct

Values of structures as JSON documents, written and read as `encoding/json` does with unknown fields
disallowed. A `Form` is a type of values with its writer and reader and the law that a value which `Fits` the
machine type is written plainly, with no name twice in an object, and read back. A structure is a list of
`Member`s: its members are written in the order of the fields, and a member that is read goes to the field of its
name, or else to one whose name differs in case only. A `null` leaves a text, a number or a structure as it is and
empties a list.
-/

namespace Mesh
namespace JsonText

structure Form (α : Type) where
  zero : α
  write : α → Value
  read : Value → Option α
  /-- What `null` makes of a value. -/
  onNull : α → α
  Fits : α → Prop
  read_write : ∀ {a}, Fits a → read (write a) = some a
  plain : ∀ {a}, Fits a → (write a).Plain
  distinct : ∀ a, (write a).Distinct
  notNull : ∀ {a}, Fits a → write a ≠ .null

namespace Form

variable {α β : Type}

def string : Form String where
  zero := ""
  write := .string
  read
    | .string text => some text
    | _ => none
  onNull old := old
  Fits := PlainText
  read_write _ := rfl
  plain h := h
  distinct _ := trivial
  notNull _ h := by cases h

def maxUint64 : Nat := 18446744073709551615

def readDigits? (literal : List Char) (bound : Nat) : Option Nat :=
  if literal.all Char.isDigit ∧ Nat.ofDigitChars 10 literal 0 ≤ bound then some (Nat.ofDigitChars 10 literal 0) else none

theorem readDigits?_toDigits {n bound : Nat} (h : n ≤ bound) : readDigits? (Nat.toDigits 10 n) bound = some n := by
  have hdigits : (Nat.toDigits 10 n).all Char.isDigit = true :=
    List.all_eq_true.mpr fun c hc => Nat.isDigit_of_mem_toDigits (by decide) (by decide) hc
  rw [readDigits?, Nat.ofDigitChars_ten_toDigits, if_pos ⟨hdigits, h⟩]

def uint64 : Form Nat where
  zero := 0
  write n := .number (intLiteral n)
  read
    | .number literal => readDigits? literal maxUint64
    | _ => none
  onNull old := old
  Fits n := n ≤ maxUint64
  read_write h := readDigits?_toDigits h
  plain {n} _ := ⟨n, rfl⟩
  distinct _ := trivial
  notNull _ h := by cases h

theorem readDigits?_le {literal : List Char} {bound n : Nat} (h : readDigits? literal bound = some n) : n ≤ bound := by
  unfold readDigits? at h
  split_ifs at h with hdigits
  rw [← Option.some.inj h]
  exact hdigits.2

/-- Whole numbers of 64 bits with a sign. -/
def readInt64 : List Char → Option Int
  | '-' :: literal => (readDigits? literal 9223372036854775808).map fun n : Nat => -(n : Int)
  | literal => (readDigits? literal 9223372036854775807).map fun n : Nat => (n : Int)

theorem readInt64_intLiteral {i : Int} (h : -9223372036854775808 ≤ i ∧ i ≤ 9223372036854775807) :
    readInt64 (intLiteral i) = some i := by
  by_cases hi : i < 0
  · have hread : readDigits? (Nat.toDigits 10 i.natAbs) 9223372036854775808 = some i.natAbs :=
      readDigits?_toDigits (by omega)
    simp only [intLiteral, if_pos hi, readInt64, hread, Option.map_some, Option.some.injEq]
    omega
  · obtain ⟨c, cs, hdigits, hc⟩ := toDigits_eq_cons i.natAbs
    have hminus : c ≠ '-' := by
      rintro rfl
      exact absurd hc (by decide)
    have hread : readDigits? (Nat.toDigits 10 i.natAbs) 9223372036854775807 = some i.natAbs :=
      readDigits?_toDigits (by omega)
    simp only [intLiteral, if_neg hi]
    rw [hdigits] at hread ⊢
    unfold readInt64
    split
    · rename_i heq
      exact absurd (List.cons.inj heq).1 hminus
    · rw [hread, Option.map_some, Option.some.injEq]
      omega

def int64 : Form Int where
  zero := 0
  write i := .number (intLiteral i)
  read
    | .number literal => readInt64 literal
    | _ => none
  onNull old := old
  Fits i := -9223372036854775808 ≤ i ∧ i ≤ 9223372036854775807
  read_write h := readInt64_intLiteral h
  plain {i} _ := ⟨i, rfl⟩
  distinct _ := trivial
  notNull _ h := by cases h

/-! ## Lists and structures -/

/-- What a value is read as that may be `null`. -/
def readOr (f : Form α) (old : α) : Value → Option α
  | .null => some (f.onNull old)
  | v => f.read v

theorem uint64_readOr_le {old n : Nat} {v : Value} (hold : old ≤ maxUint64) (h : uint64.readOr old v = some n) :
    n ≤ maxUint64 := by
  cases v with
  | null => exact Option.some.inj h ▸ hold
  | number literal => exact readDigits?_le h
  | bool | string | array | object => cases h

theorem readOr_write (f : Form α) {a : α} (h : f.Fits a) (old : α) : f.readOr old (f.write a) = some a := by
  unfold readOr
  split
  · rename_i hnull
    exact absurd hnull (f.notNull h)
  · exact f.read_write h

def readAll (f : Form α) : List Value → Option (List α)
  | [] => some []
  | v :: vs => do
    let a ← f.readOr f.zero v
    let as ← readAll f vs
    some (a :: as)

theorem readAll_write (f : Form α) {as : List α} (h : ∀ a ∈ as, f.Fits a) : f.readAll (as.map f.write) = some as := by
  induction as with
  | nil => rfl
  | cons a as ih =>
    rw [List.map_cons, readAll, f.readOr_write (h a List.mem_cons_self), ih fun a ha => h a (List.mem_cons_of_mem _ ha)]
    rfl

theorem plainItems_map (f : Form α) {as : List α} (h : ∀ a ∈ as, f.Fits a) : PlainItems (as.map f.write) := by
  induction as with
  | nil => trivial
  | cons a as ih => exact ⟨f.plain (h a List.mem_cons_self), ih fun a ha => h a (List.mem_cons_of_mem _ ha)⟩

theorem distinctItems_map (f : Form α) (as : List α) : DistinctItems (as.map f.write) := by
  induction as with
  | nil => trivial
  | cons a as ih => exact ⟨f.distinct a, ih⟩

def list (f : Form α) : Form (List α) where
  zero := []
  write as := .array (as.map f.write)
  read
    | .array items => f.readAll items
    | _ => none
  onNull _ := []
  Fits as := ∀ a ∈ as, f.Fits a
  read_write h := f.readAll_write h
  plain h := f.plainItems_map h
  distinct as := f.distinctItems_map as
  notNull _ h := by cases h

/-- A value that may be missing. -/
def nilable (f : Form α) : Form (Option α) where
  zero := none
  write
    | none => .null
    | some a => f.write a
  read v := (f.read v).map some
  onNull _ := none
  Fits o := ∃ a, o = some a ∧ f.Fits a
  read_write := by
    rintro _ ⟨a, rfl, h⟩
    rw [f.read_write h, Option.map_some]
  plain := by
    rintro _ ⟨a, rfl, h⟩
    exact f.plain h
  distinct
    | none => trivial
    | some a => f.distinct a
  notNull := by
    rintro _ ⟨a, rfl, h⟩
    exact f.notNull h

end Form

/-- One member of a structure. `copy a b` is `b` with the member of `a`. -/
structure Member (α : Type) where
  name : String
  write : α → Value
  read : Value → α → Option α
  copy : α → α → α
  Fits : α → Prop
  read_write : ∀ {a}, Fits a → ∀ b, read (write a) b = some (copy a b)
  plain : ∀ {a}, Fits a → PlainText name ∧ (write a).Plain
  distinct : ∀ a, (write a).Distinct

namespace Member

variable {α β : Type}

/-- A member of a form. -/
def of (name : String) (hname : PlainText name) (f : Form β) (get : α → β) (set : β → α → α) : Member α where
  name := name
  write a := f.write (get a)
  read v b := (f.readOr (get b) v).map fun part => set part b
  copy a b := set (get a) b
  Fits a := f.Fits (get a)
  read_write h b := by rw [f.readOr_write h, Option.map_some]
  plain h := ⟨hname, f.plain h⟩
  distinct a := f.distinct (get a)

end Member

namespace Form

variable {α : Type}

/-- Members one after the other. -/
def readMembers (simpleFold : Char → Char) (fields : List (Member α)) : α → List (String × Value) → Option α
  | a, [] => some a
  | a, (name, v) :: ms => do
    let place ← assignField simpleFold (fields.map (·.name)) name
    let field ← Keyed.lookup Member.name place fields
    let a ← field.read v a
    readMembers simpleFold fields a ms

/-- What holds of a structure and is kept by the reading of each member holds when all were read. -/
theorem readMembers_induct {simpleFold : Char → Char} (fields : List (Member α)) {P : α → Prop}
    (hfield : ∀ field ∈ fields, ∀ {v a b}, P a → field.read v a = some b → P b) :
    ∀ {ms : List (String × Value)} {a b : α}, P a → readMembers simpleFold fields a ms = some b → P b := by
  intro ms
  induction ms with
  | nil =>
    intro a b ha h
    rwa [← Option.some.inj h]
  | cons m ms ih =>
    intro a b ha h
    simp only [readMembers, Option.bind_eq_bind, Option.bind_eq_some_iff] at h
    obtain ⟨place, -, field, hlookup, next, hread, hrest⟩ := h
    exact ih (hfield field (Keyed.mem_of_lookup hlookup) ha hread) hrest

/-- The fields of the list `rest`, all of them fields of the structure, are read from what they were written. -/
theorem readMembers_write {simpleFold : Char → Char} {fields : List (Member α)} (hnames : (fields.map (·.name)).Nodup)
    {a : α} (h : ∀ field ∈ fields, field.Fits a) {rest : List (Member α)} (hrest : rest ⊆ fields) :
    ∀ b, readMembers simpleFold fields b (rest.map fun field => (field.name, field.write a)) =
      some (rest.foldl (fun b field => field.copy a b) b) := by
  induction rest with
  | nil => exact fun b => rfl
  | cons field rest ih =>
    intro b
    obtain ⟨hfield, hrest⟩ := List.cons_subset.mp hrest
    have hassign : assignField simpleFold (fields.map (·.name)) field.name = some field.name :=
      if_pos (List.mem_map_of_mem hfield)
    have hfind : Keyed.lookup Member.name field.name fields = some field :=
      (Keyed.lookup_eq_some_iff hnames).mpr ⟨hfield, rfl⟩
    simp only [List.map_cons, readMembers, hassign, hfind, Option.bind_eq_bind, Option.bind_some,
      field.read_write (h field hfield), List.foldl_cons]
    exact ih hrest _

theorem plainMembers_map {a : α} {fields : List (Member α)} (h : ∀ field ∈ fields, field.Fits a) :
    PlainMembers (fields.map fun field => (field.name, field.write a)) := by
  induction fields with
  | nil => trivial
  | cons field fields ih =>
    exact ⟨field.plain (h field List.mem_cons_self), ih fun field hf => h field (List.mem_cons_of_mem _ hf)⟩

theorem names_map (fields : List (Member α)) (a : α) :
    (fields.map fun field => (field.name, field.write a)).map (·.1) = fields.map (·.name) := by
  rw [List.map_map]
  rfl

theorem distinctMembers_map (fields : List (Member α)) (a : α) :
    DistinctMembers (fields.map fun field => (field.name, field.write a)) := by
  induction fields with
  | nil => trivial
  | cons field fields ih => exact ⟨field.distinct a, ih⟩

/-- A structure is made of its fields. -/
def struct (simpleFold : Char → Char) (fields : List (Member α)) (zero : α) (hnames : (fields.map (·.name)).Nodup)
    (hcopy : ∀ a, fields.foldl (fun b field => field.copy a b) zero = a) : Form α where
  zero := zero
  write a := .object (fields.map fun field => (field.name, field.write a))
  read
    | .object members => readMembers simpleFold fields zero members
    | _ => none
  onNull old := old
  Fits a := ∀ field ∈ fields, field.Fits a
  read_write {a} h := by
    show readMembers simpleFold fields zero (fields.map fun field => (field.name, field.write a)) = some a
    rw [readMembers_write hnames h (List.Subset.refl fields), hcopy]
  plain h := plainMembers_map h
  distinct a := ⟨(names_map fields a).symm ▸ hnames, distinctMembers_map fields a⟩
  notNull _ h := by cases h

end Form

end JsonText
end Mesh
