import Mesh.Lib.Calendar
import Mesh.Lib.Checks

/-!
# Mesh.Lib.Json

JSON documents as trees, and codecs between values and documents. A `Codec` carries the law of its round
trip: a value whose instants can be written is written, and reading the document gives `reread` of the
value, which is the value itself for an `Exact` codec. `Fits` says that the value belongs to the machine
type the codec is for.

Objects are built from `Fields`, one for each member and joined by `and`; members are found by their name,
a member that is missing has the zero value, and `omitEmpty` leaves an empty member out.
-/

namespace Mesh

/-- A JSON document. Of the numbers only whole ones occur. -/
inductive Json where
  | null
  | bool (value : Bool)
  | num (value : Int)
  | str (text : String)
  | arr (items : List Json)
  | obj (members : List (String × Json))

/-- Instants can be written down from year 0 to year 9999. -/
def Writable (t : Int) : Prop :=
  0 ≤ (Calendar.civil (Calendar.dayOf t)).year ∧ (Calendar.civil (Calendar.dayOf t)).year ≤ 9999

instance (t : Int) : Decidable (Writable t) := inferInstanceAs (Decidable (_ ∧ _))

structure Codec (α : Type) where
  /-- The value of a member that is missing. -/
  zero : α
  encode : α → Except String Json
  decode : Json → Except String α
  Fits : α → Prop
  /-- The instants that are written. -/
  times : α → List Int
  /-- What is read back. -/
  reread : α → α
  decode_encode : ∀ {a}, Fits a → (∀ t ∈ times a, Writable t) →
    ∃ j, encode a = .ok j ∧ decode j = .ok (reread a)
  writable : ∀ {a j}, encode a = .ok j → ∀ t ∈ times a, Writable t

/-- Nothing is lost. -/
class Codec.Exact {α : Type} (c : Codec α) : Prop where
  reread_eq : ∀ a, c.reread a = a

theorem Codec.reread_eq {α : Type} (c : Codec α) [h : c.Exact] (a : α) : c.reread a = a := h.reread_eq a

variable {α β : Type}

/-! ## Numbers that are read without a type -/

/-- The nearest natural number with 53 significant binary digits; of two the one with the even mantissa. -/
def floatNat (n : Nat) : Nat :=
  let unit := 2 ^ (n.log2 - 52)
  let q := n / unit
  let r := n % unit
  if 2 * r < unit ∨ (2 * r = unit ∧ q % 2 = 0) then q * unit else (q + 1) * unit

/-- A whole number as a `float64`. -/
def float64 (n : Int) : Int := if 0 ≤ n then floatNat n.natAbs else -floatNat n.natAbs

example : float64 9007199254740993 = 9007199254740992 := by decide

namespace Codec

/-! ## Single values -/

def mismatch : String := "the document has another form"

/-- A codec for values without instants. -/
def plain (zero : α) (write : α → Json) (decode : Json → Except String α) (Fits : α → Prop)
    (reread : α → α) (h : ∀ a, Fits a → decode (write a) = .ok (reread a)) : Codec α where
  zero := zero
  encode a := .ok (write a)
  decode := decode
  Fits := Fits
  times _ := []
  reread := reread
  decode_encode hfits _ := ⟨_, rfl, h _ hfits⟩
  writable _ _ ht := by simp at ht

def str : Codec String :=
  plain "" .str
    (fun | .str text => .ok text | .null => .ok "" | _ => .error mismatch) (fun _ => True) (fun a => a)
    fun _ _ => rfl

def bool : Codec Bool :=
  plain false .bool
    (fun | .bool value => .ok value | .null => .ok false | _ => .error mismatch) (fun _ => True) (fun a => a)
    fun _ _ => rfl

/-- Whole numbers of 64 bits. -/
def int64 : Codec Int :=
  plain 0 .num
    (fun
      | .num n => if -9223372036854775808 ≤ n ∧ n ≤ 9223372036854775807 then .ok n else .error mismatch
      | .null => .ok 0
      | _ => .error mismatch)
    (fun n => -9223372036854775808 ≤ n ∧ n ≤ 9223372036854775807) (fun a => a)
    fun _ h => if_pos h

/-- One of a closed set of words. -/
def word (zero : α) (text : α → String) (parse : String → Option α) (h : ∀ a, parse (text a) = some a) :
    Codec α :=
  plain zero (fun a => .str (text a))
    (fun | .str s => require (parse s) mismatch | .null => .ok zero | _ => .error mismatch) (fun _ => True)
    (fun a => a) fun a _ => by simp [h a]

instance : str.Exact := ⟨fun _ => rfl⟩
instance : bool.Exact := ⟨fun _ => rfl⟩
instance : int64.Exact := ⟨fun _ => rfl⟩

instance {zero : α} {text : α → String} {parse : String → Option α} {h : ∀ a, parse (text a) = some a} :
    (word zero text parse h).Exact := ⟨fun _ => rfl⟩

def time : Codec Int where
  zero := 0
  encode t := if Writable t then .ok (.str (Calendar.rfc3339Nano t)) else .error "year outside of range [0,9999]"
  decode
    | .str text => require (Calendar.parseRFC3339 text) mismatch
    | .null => .ok 0
    | _ => .error mismatch
  Fits _ := True
  times t := [t]
  reread t := t
  decode_encode {t} _ h := by
    have ht : Writable t := h t (by simp)
    exact ⟨_, if_pos ht, by simp [Calendar.parseRFC3339_rfc3339Nano ht.1 ht.2]⟩
  writable {t j} h := by
    by_cases ht : Writable t
    · simpa using ht
    · simp [ht] at h

instance : time.Exact := ⟨fun _ => rfl⟩

/-! ## Lists and optional values -/

theorem mapAll_decode (c : Codec α) (xs : List α) (hfits : ∀ a ∈ xs, c.Fits a)
    (ht : ∀ a ∈ xs, ∀ t ∈ c.times a, Writable t) :
    ∃ js, mapAll c.encode xs = .ok js ∧ mapAll c.decode js = .ok (xs.map c.reread) := by
  induction xs with
  | nil => exact ⟨[], rfl, rfl⟩
  | cons a xs ih =>
    obtain ⟨j, hj, hread⟩ := c.decode_encode (hfits a (by simp)) (ht a (by simp))
    obtain ⟨js, hjs, hreads⟩ := ih (fun b hb => hfits b (by simp [hb])) fun b hb => ht b (by simp [hb])
    exact ⟨j :: js, by simp [mapAll, hj, hjs], by simp [mapAll, hread, hreads]⟩

def list (c : Codec α) : Codec (List α) where
  zero := []
  encode xs := .arr <$> mapAll c.encode xs
  decode
    | .arr items => mapAll c.decode items
    | .null => .ok []
    | _ => .error mismatch
  Fits xs := ∀ a ∈ xs, c.Fits a
  times xs := xs.flatMap c.times
  reread xs := xs.map c.reread
  decode_encode {xs} hfits ht := by
    obtain ⟨js, hjs, hread⟩ := mapAll_decode c xs hfits fun a ha t hta =>
      ht t (List.mem_flatMap.mpr ⟨a, ha, hta⟩)
    exact ⟨.arr js, by simp [hjs], hread⟩
  writable {xs j} h t ht := by
    simp only [map_eq_ok, mapAll_eq_ok] at h
    obtain ⟨js, hjs, -⟩ := h
    obtain ⟨a, ha, hta⟩ := List.mem_flatMap.mp ht
    obtain ⟨i, hi, rfl⟩ := List.mem_iff_getElem.mp ha
    exact c.writable ((List.forall₂_iff_get.mp hjs).2 i hi (hjs.length_eq ▸ hi)) t hta

instance {c : Codec α} [c.Exact] : (list c).Exact :=
  ⟨fun xs => (List.map_congr_left fun a _ => c.reread_eq a).trans xs.map_id⟩

/-- A pointer; what it points to is never written as `null`. -/
def option (c : Codec α) (hnull : ∀ a, c.encode a ≠ .ok .null) : Codec (Option α) where
  zero := none
  encode
    | none => .ok .null
    | some a => c.encode a
  decode
    | .null => .ok none
    | j => some <$> c.decode j
  Fits o := ∀ a ∈ o, c.Fits a
  times o := o.toList.flatMap c.times
  reread o := o.map c.reread
  decode_encode {o} hfits ht := by
    cases o with
    | none => exact ⟨.null, rfl, rfl⟩
    | some a =>
      obtain ⟨j, hj, hread⟩ := c.decode_encode (hfits a rfl) (by simpa using ht)
      refine ⟨j, hj, ?_⟩
      cases j with
      | null => exact absurd hj (hnull a)
      | _ => simp [hread]
  writable {o j} h t ht := by
    cases o with
    | none => simp at ht
    | some a => exact c.writable h t (by simpa using ht)

instance {c : Codec α} {hnull : ∀ a, c.encode a ≠ .ok .null} [c.Exact] : (option c hnull).Exact :=
  ⟨fun o => by cases o <;> simp [option, c.reread_eq]⟩

theorem time_ne_null (t : Int) : time.encode t ≠ .ok .null := by
  simp only [time]
  split_ifs <;> simp

end Codec

/-! ## Objects -/

structure Fields (α : Type) where
  names : List String
  write : α → Except String (List (String × Json))
  read : List (String × Json) → Except String α
  Fits : α → Prop
  times : α → List Int
  reread : α → α
  read_write : ∀ {a}, names.Nodup → Fits a → (∀ t ∈ times a, Writable t) →
    ∃ ms, write a = .ok ms ∧ (ms.map Prod.fst).Sublist names ∧
      ∀ l, (∀ k ∈ names, l.lookup k = ms.lookup k) → read l = .ok (reread a)
  writable : ∀ {a ms}, write a = .ok ms → ∀ t ∈ times a, Writable t

class Fields.Exact (f : Fields α) : Prop where
  reread_eq : ∀ a, f.reread a = a

theorem Fields.reread_eq (f : Fields α) [h : f.Exact] (a : α) : f.reread a = a := h.reread_eq a

namespace Fields

/-- The value of a member. -/
def member (c : Codec α) (name : String) (l : List (String × Json)) : Except String α :=
  match l.lookup name with
  | some j => c.decode j
  | none => .ok c.zero

def field (name : String) (c : Codec α) : Fields α where
  names := [name]
  write a := do
    let j ← c.encode a
    pure [(name, j)]
  read := member c name
  Fits := c.Fits
  times := c.times
  reread := c.reread
  read_write {a} _ hfits ht := by
    obtain ⟨j, hj, hread⟩ := c.decode_encode hfits ht
    refine ⟨[(name, j)], by simp [hj], by simp, fun l hl => ?_⟩
    have hname : l.lookup name = some j := by simpa using hl name (by simp)
    simp only [member, hname, hread]
  writable {a ms} h t ht := by
    simp only [bind_eq_ok] at h
    obtain ⟨j, hj, -⟩ := h
    exact c.writable hj t ht

/-- A member that is left out when it is empty. -/
def omitEmpty (name : String) (c : Codec α) (isEmpty : α → Bool)
    (hempty : ∀ a, isEmpty a = true → c.reread a = c.zero ∧ c.times a = []) : Fields α where
  names := [name]
  write a :=
    if isEmpty a then .ok []
    else do
      let j ← c.encode a
      pure [(name, j)]
  read := member c name
  Fits := c.Fits
  times := c.times
  reread := c.reread
  read_write {a} hnodup hfits ht := by
    by_cases he : isEmpty a = true
    · refine ⟨[], by simp [he], by simp, fun l hl => ?_⟩
      have hname : l.lookup name = none := by simpa using hl name (by simp)
      simp only [member, hname, (hempty a he).1]
    · obtain ⟨ms, hms, hsub, hread⟩ := (field name c).read_write hnodup hfits ht
      exact ⟨ms, by rw [if_neg he]; exact hms, hsub, hread⟩
  writable {a ms} h t ht := by
    by_cases he : isEmpty a = true
    · rw [(hempty a he).2] at ht
      simp at ht
    · rw [if_neg he] at h
      exact (field name c).writable h t ht

/-- Two groups of members of one object. -/
def and (f : Fields α) (g : Fields β) : Fields (α × β) where
  names := f.names ++ g.names
  write p := do
    let ms ← f.write p.1
    let ms' ← g.write p.2
    pure (ms ++ ms')
  read l := do
    let a ← f.read l
    let b ← g.read l
    pure (a, b)
  Fits p := f.Fits p.1 ∧ g.Fits p.2
  times p := f.times p.1 ++ g.times p.2
  reread p := (f.reread p.1, g.reread p.2)
  read_write {p} hnodup hfits ht := by
    obtain ⟨hf, hg, hdisjoint⟩ := List.nodup_append.mp hnodup
    obtain ⟨ms, hms, hsub, hread⟩ := f.read_write hf hfits.1 fun t h => ht t (List.mem_append_left _ h)
    obtain ⟨ms', hms', hsub', hread'⟩ := g.read_write hg hfits.2 fun t h => ht t (List.mem_append_right _ h)
    refine ⟨ms ++ ms', by simp [hms, hms'], by simpa using hsub.append hsub', fun l hl => ?_⟩
    -- a name of one group is not a member of the other
    have hother : ∀ (k : String) (xs : List (String × Json)), k ∉ xs.map Prod.fst → xs.lookup k = none := by
      intro k xs hk
      rw [List.lookup_eq_none_iff]
      intro m hm
      simp only [bne_iff_ne, ne_eq]
      rintro rfl
      exact hk (List.mem_map_of_mem hm)
    have h1 : ∀ k ∈ f.names, l.lookup k = ms.lookup k := by
      intro k hk
      rw [hl k (List.mem_append_left _ hk), List.lookup_append,
        hother k ms' fun h => hdisjoint k hk k (hsub'.subset h) rfl, Option.or_none]
    have h2 : ∀ k ∈ g.names, l.lookup k = ms'.lookup k := by
      intro k hk
      rw [hl k (List.mem_append_right _ hk), List.lookup_append,
        hother k ms fun h => hdisjoint k (hsub.subset h) k hk rfl, Option.none_or]
    simp [hread l h1, hread' l h2]
  writable {p ms} h t ht := by
    simp only [bind_eq_ok] at h
    obtain ⟨x, hx, y, hy, -⟩ := h
    rcases List.mem_append.mp ht with ht | ht
    · exact f.writable hx t ht
    · exact g.writable hy t ht

/-- Members that make up a record. -/
def as (f : Fields α) (make : α → β) (parts : β → α) : Fields β where
  names := f.names
  write b := f.write (parts b)
  read l := make <$> f.read l
  Fits b := f.Fits (parts b)
  times b := f.times (parts b)
  reread b := make (f.reread (parts b))
  read_write hnodup hfits ht := by
    obtain ⟨ms, hms, hsub, hread⟩ := f.read_write hnodup hfits ht
    exact ⟨ms, hms, hsub, fun l hl => by simp [hread l hl]⟩
  writable h := f.writable h

instance {name : String} {c : Codec α} [h : c.Exact] : (field name c).Exact := ⟨h.reread_eq⟩

instance {name : String} {c : Codec α} [h : c.Exact] {isEmpty : α → Bool}
    {hempty : ∀ a, isEmpty a = true → c.reread a = c.zero ∧ c.times a = []} :
    (omitEmpty name c isEmpty hempty).Exact := ⟨h.reread_eq⟩

instance {f : Fields α} {g : Fields β} [f.Exact] [g.Exact] : (f.and g).Exact :=
  ⟨fun p => by simp [and, f.reread_eq, g.reread_eq]⟩

/-- The object of the members: names are known and occur once. -/
def codec (f : Fields α) (zero : α) (hnodup : f.names.Nodup) : Codec α where
  zero := zero
  encode a := .obj <$> f.write a
  decode
    | .obj members => do
      reject (¬ (members.map Prod.fst).Nodup) "duplicate JSON object name"
      reject (¬ ∀ k ∈ members.map Prod.fst, k ∈ f.names) "unknown field"
      f.read members
    | .null => .ok zero
    | _ => .error Codec.mismatch
  Fits := f.Fits
  times := f.times
  reread := f.reread
  decode_encode hfits ht := by
    obtain ⟨ms, hms, hsub, hread⟩ := f.read_write hnodup hfits ht
    refine ⟨.obj ms, by simp [hms], ?_⟩
    simp only [bind_unit_eq_ok, reject_eq_ok, Decidable.not_not]
    exact ⟨hsub.nodup hnodup, fun k hk => hsub.subset hk, hread ms fun _ _ => rfl⟩
  writable {a j} h := by
    simp only [map_eq_ok] at h
    obtain ⟨ms, hms, -⟩ := h
    exact f.writable hms

instance {f : Fields α} [h : f.Exact] {zero : α} {hnodup : f.names.Nodup} :
    (f.codec zero hnodup).Exact := ⟨h.reread_eq⟩

theorem codec_ne_null {f : Fields α} {zero : α} {hnodup : f.names.Nodup} (a : α) :
    (f.codec zero hnodup).encode a ≠ .ok .null := by
  simp [codec]

/-! ## Members that may be empty -/

def omitStr (name : String) : Fields String := omitEmpty name .str (· == "") fun _ h => ⟨beq_iff_eq.mp h, rfl⟩

def omitInt (name : String) : Fields Int := omitEmpty name .int64 (· == 0) fun _ h => ⟨beq_iff_eq.mp h, rfl⟩

def omitBool (name : String) : Fields Bool := omitEmpty name .bool (!·) fun _ h => ⟨Bool.not_eq_true' _ |>.mp h, rfl⟩

def omitList (name : String) (c : Codec α) : Fields (List α) :=
  omitEmpty name (.list c) List.isEmpty fun a h => by
    rw [List.isEmpty_iff.mp h]
    exact ⟨rfl, rfl⟩

def omitOption (name : String) (c : Codec α) (hnull : ∀ a, c.encode a ≠ .ok .null) : Fields (Option α) :=
  omitEmpty name (.option c hnull) Option.isNone fun a h => by
    rw [Option.isNone_iff_eq_none.mp h]
    exact ⟨rfl, rfl⟩

def omitTime (name : String) : Fields (Option Int) := omitOption name .time Codec.time_ne_null

instance {name : String} : (omitStr name).Exact := ⟨fun _ => rfl⟩
instance {name : String} : (omitInt name).Exact := ⟨fun _ => rfl⟩
instance {name : String} : (omitBool name).Exact := ⟨fun _ => rfl⟩
instance {name : String} : (omitTime name).Exact := ⟨(Codec.option .time Codec.time_ne_null).reread_eq⟩
instance {name : String} {c : Codec α} [c.Exact] : (omitList name c).Exact := ⟨(Codec.list c).reread_eq⟩

end Fields
end Mesh
