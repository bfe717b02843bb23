import Mathlib.Data.List.Basic
import Mathlib.Tactic

/-!
# Mesh.Lib.Checks

Straight-line code that stops at the first error, over `Except`. `reject c e` is the statement
"if `c`, return `e`", `require o e` unwraps a lookup, `checkAll` runs a check over a list and
`checkSeen` runs one that also sees the elements already passed. Each has one lemma that says when it
succeeds, so that a successful run is taken apart with `simp` and `obtain`.
-/

namespace Mesh

variable {ε α β : Type}

def reject (c : Prop) [Decidable c] (e : ε) : Except ε Unit := if c then .error e else .ok ()

def require (o : Option α) (e : ε) : Except ε α :=
  match o with
  | some a => .ok a
  | none => .error e

/-- Fails when something stands in the way, with an error that names it. -/
def rejectFound (o : Option α) (e : α → ε) : Except ε Unit :=
  match o with
  | some a => .error (e a)
  | none => .ok ()

def mapError {ε' : Type} (f : ε → ε') : Except ε α → Except ε' α
  | .ok a => .ok a
  | .error e => .error (f e)

@[simp] theorem bind_eq_ok {x : Except ε α} {f : α → Except ε β} {b : β} :
    (x >>= f) = .ok b ↔ ∃ a, x = .ok a ∧ f a = .ok b := by
  cases x <;> simp [bind, Except.bind]

@[simp] theorem pure_eq_ok {a b : α} : (pure a : Except ε α) = .ok b ↔ a = b := by
  simp [pure, Except.pure]

/-- A statement that yields no value only has to succeed. -/
@[simp high] theorem bind_unit_eq_ok {x : Except ε Unit} {f : Unit → Except ε β} {b : β} :
    (x >>= f) = .ok b ↔ x = .ok () ∧ f () = .ok b := by
  cases x <;> simp [bind, Except.bind]

theorem exists_unit {p : Unit → Prop} : (∃ u, p u) ↔ p () := ⟨fun ⟨_, h⟩ => h, fun h => ⟨(), h⟩⟩

@[simp] theorem map_eq_ok {x : Except ε α} {f : α → β} {b : β} :
    (f <$> x) = .ok b ↔ ∃ a, x = .ok a ∧ f a = b := by
  cases x <;> simp [Functor.map, Except.map]

@[simp] theorem reject_eq_ok {c : Prop} [Decidable c] {e : ε} {u : Unit} :
    reject c e = .ok u ↔ ¬ c := by
  unfold reject
  split <;> simp [*]

@[simp] theorem require_eq_ok {o : Option α} {e : ε} {a : α} : require o e = .ok a ↔ o = some a := by
  cases o <;> simp [require]

@[simp] theorem rejectFound_eq_ok {o : Option α} {e : α → ε} {u : Unit} :
    rejectFound o e = .ok u ↔ o = none := by
  cases o <;> simp [rejectFound]

@[simp] theorem mapError_eq_ok {ε' : Type} {f : ε → ε'} {x : Except ε α} {a : α} :
    mapError f x = .ok a ↔ x = .ok a := by
  cases x <;> simp [mapError]

/-- A check that is made in one case only. -/
theorem ite_bind_eq_ok {c : Prop} [Decidable c] {x : Except ε Unit} {k : Except ε β} {b : β} :
    (if c then x >>= fun _ => k else k) = .ok b ↔ (c → x = .ok ()) ∧ k = .ok b := by
  split_ifs with hc <;> simp [hc]

/-- One of two checks, and then the same statements. -/
theorem ite_bind_bind_eq_ok {c : Prop} [Decidable c] {x y : Except ε Unit} {k : Except ε β} {b : β} :
    (if c then x >>= fun _ => k else y >>= fun _ => k) = .ok b ↔
      (if c then x = .ok () else y = .ok ()) ∧ k = .ok b := by
  split_ifs with hc <;> simp

/-- The check `f` on every element, first to last. -/
def checkAll (f : α → Except ε Unit) : List α → Except ε Unit
  | [] => .ok ()
  | x :: xs => do
    f x
    checkAll f xs

@[simp] theorem checkAll_eq_ok {f : α → Except ε Unit} {xs : List α} {u : Unit} :
    checkAll f xs = .ok u ↔ ∀ x ∈ xs, f x = .ok () := by
  induction xs with
  | nil => simp [checkAll]
  | cons x xs ih => simp [checkAll, ih]

/-- The check `f` on every element, given the elements that were checked before it. -/
def checkSeen (f : List α → α → Except ε Unit) : List α → List α → Except ε Unit
  | _, [] => .ok ()
  | seen, x :: xs => do
    f seen x
    checkSeen f (x :: seen) xs

/-- A check of `x` alone and of `x` against each earlier element holds of a list when every element
passes and every earlier element is related to every later one. -/
theorem checkSeen_eq_ok {f : List α → α → Except ε Unit} {P : α → Prop} {R : α → α → Prop}
    (hf : ∀ seen x, f seen x = .ok () ↔ P x ∧ ∀ y ∈ seen, R y x) {xs : List α} :
    ∀ {seen : List α}, checkSeen f seen xs = .ok () ↔
      (∀ x ∈ xs, P x) ∧ (∀ y ∈ seen, ∀ x ∈ xs, R y x) ∧ xs.Pairwise R := by
  induction xs with
  | nil => intro seen; simp [checkSeen]
  | cons x xs ih =>
    intro seen
    simp only [checkSeen, bind_unit_eq_ok, ih, hf, List.mem_cons, forall_eq_or_imp, List.pairwise_cons]
    grind

theorem checkSeen_nil_eq_ok {f : List α → α → Except ε Unit} {P : α → Prop} {R : α → α → Prop}
    (hf : ∀ seen x, f seen x = .ok () ↔ P x ∧ ∀ y ∈ seen, R y x) {xs : List α} :
    checkSeen f [] xs = .ok () ↔ (∀ x ∈ xs, P x) ∧ xs.Pairwise R := by
  simp [checkSeen_eq_ok hf]

/-- `f` on every element in turn, keeping the results. -/
def mapAll (f : α → Except ε β) : List α → Except ε (List β)
  | [] => .ok []
  | x :: xs => do
    let y ← f x
    let ys ← mapAll f xs
    pure (y :: ys)

theorem mapAll_eq_ok {f : α → Except ε β} {xs : List α} :
    ∀ {ys : List β}, mapAll f xs = .ok ys ↔ List.Forall₂ (fun x y => f x = .ok y) xs ys := by
  induction xs with
  | nil => intro ys; cases ys <;> simp [mapAll]
  | cons x xs ih =>
    intro ys
    cases ys with
    | nil => simp only [mapAll, bind_eq_ok, pure_eq_ok]; simp
    | cons y ys =>
      simp only [mapAll, bind_eq_ok, pure_eq_ok, List.cons.injEq, ih, List.forall₂_cons]
      constructor
      · rintro ⟨a, ha, b, hb, rfl, rfl⟩
        exact ⟨ha, hb⟩
      · rintro ⟨ha, hb⟩
        exact ⟨y, ha, ys, hb, rfl, rfl⟩

/-- The results are those of the elements, and every element has one. -/
theorem mem_mapAll {f : α → Except ε β} {xs : List α} {ys : List β} (h : mapAll f xs = .ok ys) :
    (∀ x ∈ xs, ∃ y ∈ ys, f x = .ok y) ∧ ∀ y ∈ ys, ∃ x ∈ xs, f x = .ok y := by
  induction mapAll_eq_ok.mp h with
  | nil => simp
  | @cons x y xs ys hxy hall ih =>
    obtain ⟨hl, hr⟩ := ih (mapAll_eq_ok.mpr hall)
    refine ⟨fun z hz => ?_, fun z hz => ?_⟩
    · rcases List.mem_cons.mp hz with rfl | hz
      · exact ⟨y, List.mem_cons_self, hxy⟩
      · obtain ⟨w, hw, heq⟩ := hl z hz
        exact ⟨w, List.mem_cons_of_mem _ hw, heq⟩
    · rcases List.mem_cons.mp hz with rfl | hz
      · exact ⟨x, List.mem_cons_self, hxy⟩
      · obtain ⟨w, hw, heq⟩ := hr z hz
        exact ⟨w, List.mem_cons_of_mem _ hw, heq⟩

theorem exists_of_mapM_eq_some {f : α → Option β} {xs : List α} :
    ∀ {ys : List β}, xs.mapM f = some ys → ∀ y ∈ ys, ∃ x ∈ xs, f x = some y := by
  induction xs with
  | nil =>
    intro ys h y hy
    simp only [List.mapM_nil, Option.pure_def, Option.some.injEq] at h
    exact absurd (h ▸ hy) List.not_mem_nil
  | cons x xs ih =>
    intro ys h y hy
    simp only [List.mapM_cons, Option.bind_eq_bind, Option.bind_eq_some_iff, Option.pure_def,
      Option.some.injEq] at h
    obtain ⟨z, hz, zs, hzs, rfl⟩ := h
    rcases List.mem_cons.mp hy with rfl | hy
    · exact ⟨x, List.mem_cons_self, hz⟩
    · obtain ⟨x', hx', hy'⟩ := ih hzs y hy
      exact ⟨x', List.mem_cons_of_mem _ hx', hy'⟩

end Mesh
