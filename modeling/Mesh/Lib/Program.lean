import Mathlib.Tactic

/-!
# Mesh.Lib.Program

Programs that talk to their surroundings by calls, may fail with an error, and may die at any point.

A program is a tree: it is done, it has failed, or it makes a call and goes on with the answer. What a
call can answer and what it does to the surroundings is a relation `does`; `Exec` says how a program can
end under it. A process can crash before any of its calls, so `crashed` is an ending everywhere.

Statements about programs are made with `Upholds`: in every ending the surroundings satisfy `I`, and if
the program came to its end, `R` relates what it said to the surroundings it left. The rules below follow
the text of a program. `play` runs a program with an executable handler, for concrete runs.
-/

namespace Mesh

inductive Program (Call : Type) (Answer : Call → Type) (ε α : Type) where
  | done (value : α)
  | fail (error : ε)
  | call (c : Call) (next : Answer c → Program Call Answer ε α)

/-- How a process ends: with what the program says, or in the middle. -/
inductive Ending (ε α : Type) where
  | ended (result : Except ε α)
  | crashed
deriving DecidableEq

namespace Program

variable {Call : Type} {Answer : Call → Type} {ε α β σ κ : Type}

def bind : Program Call Answer ε α → (α → Program Call Answer ε β) → Program Call Answer ε β
  | done a, f => f a
  | fail e, _ => fail e
  | call c next, f => call c fun x => (next x).bind f

instance : Monad (Program Call Answer ε) where
  pure := done
  bind := bind

/-- The result as a value, so that the program can go on after a failure. -/
def attempt : Program Call Answer ε α → Program Call Answer ε (Except ε α)
  | done a => done (.ok a)
  | fail e => done (.error e)
  | call c next => call c fun x => (next x).attempt

/-- The same program with its errors put in context. -/
def mapFail (f : ε → ε) : Program Call Answer ε α → Program Call Answer ε α
  | done a => done a
  | fail e => fail (f e)
  | call c next => call c fun x => (next x).mapFail f

/-- A computation without calls. -/
def check : Except ε α → Program Call Answer ε α
  | .ok a => done a
  | .error e => fail e

/-- The end of every run under `does`, from one state of the surroundings to another. -/
inductive Exec (does : σ → (c : Call) → Answer c → σ → Prop) :
    Program Call Answer ε α → σ → Ending ε α → σ → Prop where
  | done {a : α} {s : σ} : Exec does (.done a) s (.ended (.ok a)) s
  | fail {e : ε} {s : σ} : Exec does (.fail e) s (.ended (.error e)) s
  | crash {p : Program Call Answer ε α} {s : σ} : Exec does p s .crashed s
  | call {c : Call} {next : Answer c → Program Call Answer ε α} {x : Answer c} {s s' s'' : σ}
      {o : Ending ε α} : does s c x s' → Exec does (next x) s' o s'' → Exec does (.call c next) s o s''

/-- In every ending the surroundings satisfy `I`, and in those that are no crash `R` holds. -/
def Upholds (does : σ → (c : Call) → Answer c → σ → Prop) (I : σ → Prop)
    (p : Program Call Answer ε α) (s : σ) (R : Except ε α → σ → Prop) : Prop :=
  ∀ o s', Exec does p s o s' → I s' ∧ ∀ r, o = .ended r → R r s'

section Rules

variable {does : σ → (c : Call) → Answer c → σ → Prop} {I J : σ → Prop} {s : σ}
  {p : Program Call Answer ε α} {f : α → Program Call Answer ε β}
  {R R' : Except ε α → σ → Prop} {Q : Except ε β → σ → Prop}

theorem Upholds.done {a : α} (hI : I s) (hR : R (.ok a) s) : Upholds does I (.done a) s R := by
  intro o s' h
  cases h with
  | done => exact ⟨hI, fun _ hr => by cases hr; exact hR⟩
  | crash => exact ⟨hI, fun _ hr => by cases hr⟩

theorem Upholds.pure {a : α} (hI : I s) (hR : R (.ok a) s) :
    Upholds does I (Pure.pure a : Program Call Answer ε α) s R := .done hI hR

theorem Upholds.fail {e : ε} (hI : I s) (hR : R (.error e) s) :
    Upholds does I (.fail e : Program Call Answer ε α) s R := by
  intro o s' h
  cases h with
  | fail => exact ⟨hI, fun _ hr => by cases hr; exact hR⟩
  | crash => exact ⟨hI, fun _ hr => by cases hr⟩

theorem Upholds.call {c : Call} {next : Answer c → Program Call Answer ε α} (hI : I s)
    (h : ∀ x s', does s c x s' → Upholds does I (next x) s' R) : Upholds does I (.call c next) s R := by
  intro o s' he
  cases he with
  | crash => exact ⟨hI, fun _ hr => by cases hr⟩
  | call hd he => exact h _ _ hd _ _ he

theorem Upholds.mono (h : Upholds does I p s R) (hI : ∀ s', I s' → J s')
    (hR : ∀ r s', I s' → R r s' → R' r s') : Upholds does J p s R' := by
  intro o s' he
  obtain ⟨hi, hr⟩ := h o s' he
  exact ⟨hI s' hi, fun r ho => hR r s' hi (hr r ho)⟩

/-- What can happen where calls do less can happen where they do more. -/
theorem Exec.of_does {does' : σ → (c : Call) → Answer c → σ → Prop} {o : Ending ε α} {s' : σ}
    (hdoes : ∀ s c x s', does' s c x s' → does s c x s') (h : Exec does' p s o s') : Exec does p s o s' := by
  induction h with
  | done => exact .done
  | fail => exact .fail
  | crash => exact .crash
  | call hd _ ih => exact .call (hdoes _ _ _ _ hd) ih

theorem Upholds.of_does {does' : σ → (c : Call) → Answer c → σ → Prop}
    (hdoes : ∀ s c x s', does' s c x s' → does s c x s') (h : Upholds does I p s R) : Upholds does' I p s R :=
  fun o s' he => h o s' (he.of_does hdoes)

/-- A weaker invariant, where the one that was proved still holds at the end. -/
theorem Upholds.weaken (h : Upholds does I p s R) (hI : ∀ s', I s' → J s') :
    Upholds does J p s fun r s' => I s' ∧ R r s' :=
  h.mono hI fun _ _ hi hr => ⟨hi, hr⟩

theorem Upholds.and (h : Upholds does I p s R) (h' : Upholds does J p s R') :
    Upholds does (fun s' => I s' ∧ J s') p s fun r s' => R r s' ∧ R' r s' := by
  intro o s' he
  obtain ⟨hi, hr⟩ := h o s' he
  obtain ⟨hj, hr'⟩ := h' o s' he
  exact ⟨⟨hi, hj⟩, fun r ho => ⟨hr r ho, hr' r ho⟩⟩

/-- What a run of a sequence is made of. -/
theorem Exec.of_bind {o : Ending ε β} {s' : σ} (h : Exec does (p.bind f) s o s') :
    (∃ a s₁, Exec does p s (.ended (.ok a)) s₁ ∧ Exec does (f a) s₁ o s') ∨
      (∃ e, Exec does p s (.ended (.error e)) s' ∧ o = .ended (.error e)) ∨
      (Exec does p s .crashed s' ∧ o = .crashed) := by
  induction p generalizing s with
  | done a => exact .inl ⟨a, s, .done, h⟩
  | fail e =>
    cases h with
    | fail => exact .inr (.inl ⟨e, .fail, rfl⟩)
    | crash => exact .inr (.inr ⟨.crash, rfl⟩)
  | call c next ih =>
    cases h with
    | crash => exact .inr (.inr ⟨.crash, rfl⟩)
    | call hd he =>
      obtain ⟨a, s₁, h₁, h₂⟩ | ⟨e, h₁, ho⟩ | ⟨h₁, ho⟩ := ih _ he
      · exact .inl ⟨a, s₁, .call hd h₁, h₂⟩
      · exact .inr (.inl ⟨e, .call hd h₁, ho⟩)
      · exact .inr (.inr ⟨.call hd h₁, ho⟩)

theorem Upholds.bind (h : Upholds does I p s R)
    (hok : ∀ a s', I s' → R (.ok a) s' → Upholds does I (f a) s' Q)
    (herr : ∀ e s', I s' → R (.error e) s' → Q (.error e) s') : Upholds does I (p >>= f) s Q := by
  intro o s' he
  obtain ⟨a, s₁, h₁, h₂⟩ | ⟨e, h₁, rfl⟩ | ⟨h₁, rfl⟩ := Exec.of_bind he
  · obtain ⟨hi, hr⟩ := h _ _ h₁
    exact hok a s₁ hi (hr _ rfl) o s' h₂
  · obtain ⟨hi, hr⟩ := h _ _ h₁
    exact ⟨hi, fun _ ho => by cases ho; exact herr e s' hi (hr _ rfl)⟩
  · exact ⟨(h _ _ h₁).1, fun _ ho => by cases ho⟩

theorem Upholds.check {x : Except ε α} (hI : I s) (hR : R x s) :
    Upholds does I (check x : Program Call Answer ε α) s R := by
  cases x with
  | ok a => exact .done hI hR
  | error e => exact .fail hI hR

theorem Exec.of_attempt {o : Ending ε (Except ε α)} {s' : σ} (h : Exec does p.attempt s o s') :
    (∃ r, Exec does p s (.ended r) s' ∧ o = .ended (.ok r)) ∨
      (Exec does p s .crashed s' ∧ o = .crashed) := by
  induction p generalizing s with
  | done a =>
    cases h with
    | done => exact .inl ⟨_, .done, rfl⟩
    | crash => exact .inr ⟨.crash, rfl⟩
  | fail e =>
    cases h with
    | done => exact .inl ⟨_, .fail, rfl⟩
    | crash => exact .inr ⟨.crash, rfl⟩
  | call c next ih =>
    cases h with
    | crash => exact .inr ⟨.crash, rfl⟩
    | call hd he =>
      obtain ⟨r, h₁, ho⟩ | ⟨h₁, ho⟩ := ih _ he
      · exact .inl ⟨r, .call hd h₁, ho⟩
      · exact .inr ⟨.call hd h₁, ho⟩

theorem Upholds.attempt {Q : Except ε (Except ε α) → σ → Prop} (h : Upholds does I p s R)
    (hQ : ∀ r s', I s' → R r s' → Q (.ok r) s') : Upholds does I p.attempt s Q := by
  intro o s' he
  obtain ⟨r, h₁, rfl⟩ | ⟨h₁, rfl⟩ := Exec.of_attempt he
  · obtain ⟨hi, hr⟩ := h _ _ h₁
    exact ⟨hi, fun _ ho => by cases ho; exact hQ r s' hi (hr r rfl)⟩
  · exact ⟨(h _ _ h₁).1, fun _ ho => by cases ho⟩

/-- A program whose failure is looked at, and what follows it. -/
theorem Upholds.attempt_bind {f : Except ε α → Program Call Answer ε β} (h : Upholds does I p s R)
    (hf : ∀ r s', I s' → R r s' → Upholds does I (f r) s' Q) :
    Upholds does I (p.attempt >>= f) s Q := by
  refine .bind (R := fun x s' => ∃ r, x = .ok r ∧ R r s') (h.attempt fun r s' _ hr => ⟨r, rfl, hr⟩) ?_ ?_
  · rintro r s' hi ⟨_, ⟨⟩, hr⟩
    exact hf r s' hi hr
  · rintro e s' - ⟨_, ⟨⟩, -⟩

theorem Exec.of_mapFail {g : ε → ε} {o : Ending ε α} {s' : σ} (h : Exec does (p.mapFail g) s o s') :
    (∃ a, Exec does p s (.ended (.ok a)) s' ∧ o = .ended (.ok a)) ∨
      (∃ e, Exec does p s (.ended (.error e)) s' ∧ o = .ended (.error (g e))) ∨
      (Exec does p s .crashed s' ∧ o = .crashed) := by
  induction p generalizing s with
  | done a =>
    cases h with
    | done => exact .inl ⟨a, .done, rfl⟩
    | crash => exact .inr (.inr ⟨.crash, rfl⟩)
  | fail e =>
    cases h with
    | fail => exact .inr (.inl ⟨e, .fail, rfl⟩)
    | crash => exact .inr (.inr ⟨.crash, rfl⟩)
  | call c next ih =>
    cases h with
    | crash => exact .inr (.inr ⟨.crash, rfl⟩)
    | call hd he =>
      obtain ⟨a, h₁, ho⟩ | ⟨e, h₁, ho⟩ | ⟨h₁, ho⟩ := ih _ he
      · exact .inl ⟨a, .call hd h₁, ho⟩
      · exact .inr (.inl ⟨e, .call hd h₁, ho⟩)
      · exact .inr (.inr ⟨.call hd h₁, ho⟩)

theorem Upholds.mapFail {g : ε → ε} (h : Upholds does I p s R)
    (hok : ∀ a s', I s' → R (.ok a) s' → R' (.ok a) s')
    (herr : ∀ e s', I s' → R (.error e) s' → R' (.error (g e)) s') :
    Upholds does I (p.mapFail g) s R' := by
  intro o s' he
  obtain ⟨a, h₁, rfl⟩ | ⟨e, h₁, rfl⟩ | ⟨h₁, rfl⟩ := Exec.of_mapFail he
  · obtain ⟨hi, hr⟩ := h _ _ h₁
    exact ⟨hi, fun _ ho => by cases ho; exact hok a s' hi (hr _ rfl)⟩
  · obtain ⟨hi, hr⟩ := h _ _ h₁
    exact ⟨hi, fun _ ho => by cases ho; exact herr e s' hi (hr _ rfl)⟩
  · exact ⟨(h _ _ h₁).1, fun _ ho => by cases ho⟩

/-- The postcondition that asks something only of a value that is returned. -/
def OnValue (K : α → σ → Prop) (r : Except ε α) (s : σ) : Prop := ∀ a, r = .ok a → K a s

theorem OnValue.ok {K : α → σ → Prop} {a : α} (h : K a s) : OnValue K (.ok a : Except ε α) s := by
  rintro _ ⟨⟩
  exact h

theorem OnValue.error {K : α → σ → Prop} {e : ε} : OnValue K (.error e : Except ε α) s :=
  fun _ h => by cases h

theorem Upholds.bind_value {K : α → σ → Prop} {K' : β → σ → Prop} (h : Upholds does I p s (OnValue K))
    (hok : ∀ a s', I s' → K a s' → Upholds does I (f a) s' (OnValue K')) :
    Upholds does I (p >>= f) s (OnValue K') :=
  .bind h (fun a s' hi hk => hok a s' hi (hk a rfl)) fun _ _ _ _ => .error

theorem Upholds.mapFail_value {K : α → σ → Prop} {g : ε → ε} (h : Upholds does I p s (OnValue K)) :
    Upholds does I (p.mapFail g) s (OnValue K) := .mapFail h (fun _ _ _ hk => hk) fun _ _ _ _ => .error

/-- A check, and what follows it. -/
theorem Upholds.check_bind {x : Except ε α} (hI : I s) (hok : ∀ a, x = .ok a → Upholds does I (f a) s Q)
    (herr : ∀ e, x = .error e → Q (.error e) s) : Upholds does I (Program.check x >>= f) s Q := by
  cases x with
  | ok a => exact hok a rfl
  | error e => exact .fail hI (herr e rfl)

theorem Upholds.mapFail_check_bind {g : ε → ε} {x : Except ε α} (hI : I s)
    (hok : ∀ a, x = .ok a → Upholds does I (f a) s Q) (herr : ∀ e, x = .error e → Q (.error (g e)) s) :
    Upholds does I ((Program.check x).mapFail g >>= f) s Q := by
  cases x with
  | ok a => exact hok a rfl
  | error e => exact .fail hI (herr e rfl)

end Rules

section Fallible

variable {Value : Call → Type} {does : σ → (c : Call) → Except ε (Value c) → σ → Prop} {I : σ → Prop} {s : σ}
  {c : Call} {Q : Except ε β → σ → Prop}

/-- A call that may fail, as a program of its own. -/
def asking (c : Call) : Program Call (fun c => Except ε (Value c)) ε (Value c) := .call c check

theorem Upholds.ask {R : Except ε (Value c) → σ → Prop} (hI : I s) (h : ∀ x s', does s c x s' → I s' ∧ R x s') :
    Upholds does I (asking c) s R :=
  .call hI fun x s' hd => .check (h x s' hd).1 (h x s' hd).2

/-- A call, and what follows it. -/
theorem Upholds.ask_bind {f : Value c → Program Call (fun c => Except ε (Value c)) ε β} (hI : I s)
    (hok : ∀ a s', does s c (.ok a) s' → Upholds does I (f a) s' Q)
    (herr : ∀ e s', does s c (.error e) s' → I s' ∧ Q (.error e) s') : Upholds does I (asking c >>= f) s Q := by
  refine .call hI fun x s' hd => ?_
  cases x with
  | ok a => exact hok a s' hd
  | error e => exact .fail (herr e s' hd).1 (herr e s' hd).2

theorem Upholds.mapFail_ask_bind {g : ε → ε} {f : Value c → Program Call (fun c => Except ε (Value c)) ε β}
    (hI : I s) (hok : ∀ a s', does s c (.ok a) s' → Upholds does I (f a) s' Q)
    (herr : ∀ e s', does s c (.error e) s' → I s' ∧ Q (.error (g e)) s') :
    Upholds does I ((asking c).mapFail g >>= f) s Q := by
  refine .call hI fun x s' hd => ?_
  cases x with
  | ok a => exact hok a s' hd
  | error e => exact .fail (herr e s' hd).1 (herr e s' hd).2

/-- A call whose failure is looked at. -/
theorem Upholds.attempt_ask_bind {f : Except ε (Value c) → Program Call (fun c => Except ε (Value c)) ε β}
    (hI : I s) (h : ∀ x s', does s c x s' → Upholds does I (f x) s' Q) :
    Upholds does I ((asking c).attempt >>= f) s Q := by
  refine .call hI fun x s' hd => ?_
  cases x with
  | ok a => exact h _ s' hd
  | error e => exact h _ s' hd

end Fallible

/-! ## Runs that compute -/

/-- Runs a program with a handler that gets a choice for each call; where the choices are used up, the
process crashes. -/
def play (handle : σ → κ → (c : Call) → Option (Answer c × σ)) :
    Program Call Answer ε α → List κ → σ → Option (Ending ε α × σ)
  | done a, _, s => some (.ended (.ok a), s)
  | fail e, _, s => some (.ended (.error e), s)
  | call _ _, [], s => some (.crashed, s)
  | call c next, k :: choices, s =>
    match handle s k c with
    | some (x, s') => (next x).play handle choices s'
    | none => none

theorem play_sound {does : σ → (c : Call) → Answer c → σ → Prop}
    {handle : σ → κ → (c : Call) → Option (Answer c × σ)}
    (hsound : ∀ s k c x s', handle s k c = some (x, s') → does s c x s')
    {p : Program Call Answer ε α} {choices : List κ} {s s' : σ} {o : Ending ε α}
    (h : p.play handle choices s = some (o, s')) : Exec does p s o s' := by
  induction p generalizing choices s with
  | done a => cases h; exact .done
  | fail e => cases h; exact .fail
  | call c next ih =>
    cases choices with
    | nil => cases h; exact .crash
    | cons k choices =>
      simp only [play] at h
      split at h
      · rename_i x s₁ hx
        exact .call (hsound _ _ _ _ _ hx) (ih x h)
      · cases h

end Program
end Mesh
