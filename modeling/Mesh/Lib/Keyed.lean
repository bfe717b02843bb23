import Mathlib.Data.List.Nodup
import Mathlib.Tactic

/-!
# Mesh.Lib.Keyed

Lists of records with a key: looking a record up, replacing the record of a key and dropping one.
When the keys are distinct, a lookup is membership (`lookup_eq_some_iff`), and what a replacement
changes is told by the value of the replaced record alone (`filterMap_put`, `map_put`). `Rewritten`
relates the records of a list before and after several such changes.
-/

namespace Mesh
namespace Keyed

variable {α κ β : Type} [DecidableEq κ] (key : α → κ)

/-- The first record with the key. -/
def lookup (k : κ) (xs : List α) : Option α := xs.find? fun x => key x = k

/-- The record `x` in the place of the one with its key. -/
def put (x : α) (xs : List α) : List α := xs.map fun y => if key y = key x then x else y

/-- The records with another key. -/
def drop (k : κ) (xs : List α) : List α := xs.filter fun x => key x ≠ k

variable {key} {xs : List α} {x y : α} {k : κ}

theorem lookup_cons : lookup key k (x :: xs) = if key x = k then some x else lookup key k xs := by
  by_cases h : key x = k <;> simp [lookup, h]

theorem put_cons : put key x (y :: xs) = (if key y = key x then x else y) :: put key x xs := rfl

theorem drop_cons : drop key k (x :: xs) = if key x = k then drop key k xs else x :: drop key k xs := by
  by_cases h : key x = k <;> simp [drop, h]

theorem mem_of_lookup (h : lookup key k xs = some x) : x ∈ xs := List.mem_of_find?_eq_some h

theorem key_of_lookup (h : lookup key k xs = some x) : key x = k := by
  simpa using List.find?_some h

theorem lookup_eq_none : lookup key k xs = none ↔ ∀ x ∈ xs, key x ≠ k := by
  simp [lookup]

theorem lookup_isSome : (lookup key k xs).isSome ↔ ∃ x ∈ xs, key x = k := by
  simp [lookup]

/-- With distinct keys a lookup finds exactly the member with the key. -/
theorem lookup_eq_some_iff (hd : (xs.map key).Nodup) :
    lookup key k xs = some x ↔ x ∈ xs ∧ key x = k := by
  refine ⟨fun h => ⟨mem_of_lookup h, key_of_lookup h⟩, ?_⟩
  rintro ⟨hx, rfl⟩
  have hsome : (lookup key (key x) xs).isSome := lookup_isSome.mpr ⟨x, hx, rfl⟩
  obtain ⟨y, hy⟩ := Option.isSome_iff_exists.mp hsome
  rw [hy, Option.some.injEq]
  exact List.inj_on_of_nodup_map hd (mem_of_lookup hy) hx (key_of_lookup hy)

omit [DecidableEq κ] in
theorem eq_of_key_eq (hd : (xs.map key).Nodup) (hx : x ∈ xs) (hy : y ∈ xs) (h : key x = key y) :
    x = y := List.inj_on_of_nodup_map hd hx hy h

@[simp] theorem map_key_put : (put key x xs).map key = xs.map key := by
  simp only [put, List.map_map]
  refine List.map_congr_left fun y _ => ?_
  simp only [Function.comp]
  split_ifs with h
  · exact h.symm
  · rfl

/-- The last of two replacements of one record counts. -/
theorem put_put (h : key x = key y) : put key x (put key y xs) = put key x xs := by
  simp only [put, List.map_map]
  refine List.map_congr_left fun z _ => ?_
  simp only [Function.comp, h]
  by_cases hz : key z = key y
  · simp [hz]
  · simp [hz]

theorem mem_put : y ∈ put key x xs ↔ (y ∈ xs ∧ key y ≠ key x) ∨ (y = x ∧ ∃ z ∈ xs, key z = key x) := by
  simp only [put, List.mem_map]
  constructor
  · rintro ⟨z, hz, rfl⟩
    split_ifs with h
    · exact .inr ⟨rfl, z, hz, h⟩
    · exact .inl ⟨hz, h⟩
  · rintro (⟨hy, hk⟩ | ⟨rfl, z, hz, hk⟩)
    · exact ⟨y, hy, if_neg hk⟩
    · exact ⟨z, hz, if_pos hk⟩

theorem lookup_put_self (h : lookup key (key x) xs = some y) :
    lookup key (key x) (put key x xs) = some x := by
  induction xs with
  | nil => simp [lookup] at h
  | cons z zs ih =>
    rw [put_cons, lookup_cons]
    by_cases hz : key z = key x
    · simp [hz]
    · rw [lookup_cons, if_neg hz] at h
      simp [hz, ih h]

theorem lookup_put_ne (hk : k ≠ key x) : lookup key k (put key x xs) = lookup key k xs := by
  induction xs with
  | nil => rfl
  | cons z zs ih =>
    rw [put_cons, lookup_cons, lookup_cons, ih]
    by_cases hz : key z = key x
    · rw [if_pos hz, if_neg (Ne.symm hk), if_neg (by rw [hz]; exact Ne.symm hk)]
    · rw [if_neg hz]

/-- A replacement that `g` does not see changes nothing that is computed from `g`. -/
theorem filterMap_put {g : α → Option β} (h : ∀ y ∈ xs, key y = key x → g y = g x) :
    (put key x xs).filterMap g = xs.filterMap g := by
  simp only [put, List.filterMap_map]
  refine List.filterMap_congr fun y hy => ?_
  simp only [Function.comp]
  split_ifs with hk
  · exact (h y hy hk).symm
  · rfl

theorem map_put {g : α → β} (h : ∀ y ∈ xs, key y = key x → g y = g x) :
    (put key x xs).map g = xs.map g := by
  simp only [put, List.map_map]
  refine List.map_congr_left fun y hy => ?_
  simp only [Function.comp]
  split_ifs with hk
  · exact (h y hy hk).symm
  · rfl

/-- Lists with the same images under a map that shows the key have the same lookups, up to the map. -/
theorem lookup_map_congr {g : α → β} {key' : β → κ} (hk : ∀ x, key' (g x) = key x) {ys : List α}
    (h : ys.map g = xs.map g) : (lookup key k ys).map g = (lookup key k xs).map g := by
  have hlookup : ∀ zs : List α, (lookup key k zs).map g = lookup key' k (zs.map g) := by
    intro zs
    simp only [lookup, List.find?_map, Function.comp_def, hk]
  rw [hlookup, hlookup, h]

theorem mem_drop : x ∈ drop key k xs ↔ x ∈ xs ∧ key x ≠ k := by simp [drop]

theorem lookup_drop_ne {k' : κ} (hk : k' ≠ k) : lookup key k' (drop key k xs) = lookup key k' xs := by
  induction xs with
  | nil => rfl
  | cons z zs ih =>
    rw [drop_cons, lookup_cons]
    by_cases hz : key z = k
    · rw [if_pos hz, ih, if_neg (by rw [hz]; exact Ne.symm hk)]
    · rw [if_neg hz, lookup_cons, ih]

theorem lookup_drop_self : lookup key k (drop key k xs) = none := by
  rw [lookup_eq_none]
  intro x hx
  exact (mem_drop.mp hx).2

/-! ## Lists before and after -/

/-- Every record of the second list is one of the first, rewritten by `R`, or a new one. -/
def Rewritten (R : α → α → Prop) (new : α → Prop) (xs ys : List α) : Prop :=
  ∀ y ∈ ys, (∃ x ∈ xs, R x y) ∨ new y

namespace Rewritten

variable {R : α → α → Prop} {new : α → Prop} {ys zs : List α}

omit [DecidableEq κ] in
theorem of_subset (hR : ∀ x, R x x) (h : ys ⊆ xs) : Rewritten R new xs ys :=
  fun y hy => .inl ⟨y, h hy, hR y⟩

omit [DecidableEq κ] in
theorem of_eq (hR : ∀ x, R x x) (h : ys = xs) : Rewritten R new xs ys :=
  of_subset hR (h ▸ List.Subset.refl _)

/-- One record is replaced by its rewriting. -/
theorem put (h : Rewritten R new xs ys) (hx : x ∈ xs) (hxy : R x y) :
    Rewritten R new xs (Keyed.put key y ys) := by
  intro z hz
  rcases mem_put.mp hz with ⟨hz, -⟩ | ⟨rfl, -⟩
  · exact h z hz
  · exact .inl ⟨x, hx, hxy⟩

omit [DecidableEq κ] in
theorem append (h : Rewritten R new xs ys) (hnew : ∀ z ∈ zs, new z) : Rewritten R new xs (ys ++ zs) := by
  intro z hz
  rcases List.mem_append.mp hz with hz | hz
  · exact h z hz
  · exact .inr (hnew z hz)

end Rewritten

/-! ## Lists related record by record -/

theorem forall₂_map {R : α → α → Prop} {f : α → α} : List.Forall₂ R xs (xs.map f) ↔ ∀ x ∈ xs, R x (f x) := by
  rw [List.forall₂_map_right_iff, List.forall₂_same]

end Keyed
end Mesh
