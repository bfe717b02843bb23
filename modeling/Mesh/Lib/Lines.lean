import Mathlib.Data.List.Basic
import Mathlib.Tactic

/-!
# Mesh.Lib.Lines

Texts made of lines: a header line followed by `key=value` lines, each ended by a line feed. A
value without a line feed can be read back, so two documents with the same keys are equal only if
their headers and their values are (`document_inj`). The characters before the first occurrence of a
separator are determined by the text (`append_cons_inj`), which is all the proofs rest on.
-/

namespace Mesh
namespace Lines

/-- The part before the first separator and the part after it are determined by the text. -/
theorem append_cons_inj {α : Type} {sep : α} : ∀ {xs ys rest rest' : List α}, sep ∉ xs → sep ∉ ys →
    xs ++ sep :: rest = ys ++ sep :: rest' → xs = ys ∧ rest = rest'
  | [], [], _, _, _, _, h => by simpa using h
  | [], y :: ys, _, _, _, hy, h => by
    simp only [List.nil_append, List.cons_append, List.cons.injEq] at h
    exact absurd (List.mem_cons.mpr (.inl h.1)) hy
  | x :: xs, [], _, _, hx, _, h => by
    simp only [List.nil_append, List.cons_append, List.cons.injEq] at h
    exact absurd (List.mem_cons.mpr (.inl h.1.symm)) hx
  | x :: xs, y :: ys, rest, rest', hx, hy, h => by
    simp only [List.cons_append, List.cons.injEq] at h
    obtain ⟨rfl, h⟩ := h
    obtain ⟨rfl, hr⟩ := append_cons_inj (fun hm => hx (List.mem_cons_of_mem _ hm))
      (fun hm => hy (List.mem_cons_of_mem _ hm)) h
    exact ⟨rfl, hr⟩

/-- No line feed in the text. -/
def OneLine (s : String) : Prop := '\n' ∉ s.toList

/-- The `key=value` lines of a document. -/
def fieldLines : List (String × String) → String
  | [] => ""
  | (key, value) :: rest => key ++ "=" ++ value ++ "\n" ++ fieldLines rest

/-- A header line and its `key=value` lines. -/
def document (header : String) (fields : List (String × String)) : String :=
  header ++ "\n" ++ fieldLines fields

theorem toList_fieldLines_cons (key value : String) (rest : List (String × String)) :
    (fieldLines ((key, value) :: rest)).toList =
      key.toList ++ '=' :: (value.toList ++ '\n' :: (fieldLines rest).toList) := by
  simp [fieldLines]

theorem toList_document (header : String) (fields : List (String × String)) :
    (document header fields).toList = header.toList ++ '\n' :: (fieldLines fields).toList := by
  simp [document]

theorem fieldLines_inj : ∀ {fs gs : List (String × String)}, fs.map Prod.fst = gs.map Prod.fst →
    (∀ f ∈ fs, OneLine f.2) → (∀ g ∈ gs, OneLine g.2) → fieldLines fs = fieldLines gs → fs = gs
  | [], [], _, _, _, _ => rfl
  | [], _ :: _, hk, _, _, _ => by simp at hk
  | _ :: _, [], hk, _, _, _ => by simp at hk
  | (k, v) :: fs, (k', v') :: gs, hk, hf, hg, h => by
    simp only [List.map_cons, List.cons.injEq] at hk
    obtain ⟨rfl, hk⟩ := hk
    have hl := congrArg String.toList h
    rw [toList_fieldLines_cons, toList_fieldLines_cons, List.append_cancel_left_eq,
      List.cons.injEq] at hl
    obtain ⟨hv, hrest⟩ := append_cons_inj (hf (k, v) (by simp)) (hg (k, v') (by simp)) hl.2
    have ih := fieldLines_inj hk (fun f hm => hf f (by simp [hm])) (fun g hm => hg g (by simp [hm]))
      (String.toList_inj.mp hrest)
    have hvv : v = v' := String.toList_inj.mp hv
    rw [hvv, ih]

/-- The header line of a document is determined by its text. -/
theorem document_header_inj {h h' : String} {fs gs : List (String × String)} (hh : OneLine h)
    (hh' : OneLine h') (e : document h fs = document h' gs) :
    h = h' ∧ fieldLines fs = fieldLines gs := by
  have hl := congrArg String.toList e
  rw [toList_document, toList_document] at hl
  obtain ⟨h1, h2⟩ := append_cons_inj hh hh' hl
  exact ⟨String.toList_inj.mp h1, String.toList_inj.mp h2⟩

/-- Two documents with the same keys and one-line values have the same text only if they agree. -/
theorem document_inj {h h' : String} {fs gs : List (String × String)} (hh : OneLine h)
    (hh' : OneLine h') (hk : fs.map Prod.fst = gs.map Prod.fst) (hf : ∀ f ∈ fs, OneLine f.2)
    (hg : ∀ g ∈ gs, OneLine g.2) (e : document h fs = document h' gs) : h = h' ∧ fs = gs := by
  obtain ⟨hhd, hfs⟩ := document_header_inj hh hh' e
  exact ⟨hhd, fieldLines_inj hk hf hg hfs⟩

end Lines
end Mesh
