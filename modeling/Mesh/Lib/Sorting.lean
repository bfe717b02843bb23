import Mathlib.Data.List.Sort
import Mathlib.Data.String.Basic

/-!
# Mesh.Lib.Sorting

Lists sorted by a key in a linear order. A sort that keeps no order among elements with equal keys still has one
result when only equal elements have equal keys (`insertionSort_eq_of_perm`), and leaves alone what is already
in order.
-/

namespace Mesh
namespace Sorting

variable {α β : Type} [LinearOrder β] {f : α → β} {xs ys : List α}

/-- A sort by a relation that tells the elements of the list apart does not see their order. -/
theorem insertionSort_perm_eq {r : α → α → Prop} [DecidableRel r] [Std.Total r] [IsTrans α r] (h : xs.Perm ys)
    (hanti : ∀ x ∈ xs, ∀ y ∈ xs, r x y → r y x → x = y) : xs.insertionSort r = ys.insertionSort r := by
  have hxs := List.perm_insertionSort r xs
  have hys := List.perm_insertionSort r ys
  have hsorted := hxs.trans (h.trans hys.symm)
  refine hsorted.eq_of_pairwise (fun x y hx hy => ?_) (List.pairwise_insertionSort r xs)
    (List.pairwise_insertionSort r ys)
  exact hanti x (hxs.mem_iff.mp hx) y (hxs.mem_iff.mp (hsorted.mem_iff.mpr hy))

theorem insertionSort_eq_of_perm (h : xs.Perm ys) (hinj : ∀ x ∈ xs, ∀ y ∈ xs, f x = f y → x = y) :
    (xs.insertionSort fun a b => f a ≤ f b) = ys.insertionSort fun a b => f a ≤ f b :=
  haveI : Std.Total fun a b => f a ≤ f b := ⟨fun a b => le_total (f a) (f b)⟩
  haveI : IsTrans α fun a b => f a ≤ f b := ⟨fun _ _ _ => le_trans⟩
  insertionSort_perm_eq h fun x hx y hy hxy hyx => hinj x hx y hy (le_antisymm hxy hyx)

theorem insertionSort_of_isChain (h : (xs.map f).IsChain (· < ·)) :
    (xs.insertionSort fun a b => f a ≤ f b) = xs := by
  have hpair := List.isChain_iff_pairwise.mp h
  rw [List.pairwise_map] at hpair
  exact (hpair.imp le_of_lt).insertionSort_eq

end Sorting
end Mesh
