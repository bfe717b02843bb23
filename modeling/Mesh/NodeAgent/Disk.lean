import Mesh.NodeAgent.Operations

/-!
# Mesh.NodeAgent.Disk

What the agent keeps on its disk, and what its operations do to it. Three things matter: the saved
state, the key pair, and the bundle the current link points to. The state file and the link are both
replaced by a rename, so a call that changes one of them has happened or has not.

`Disk.does` lets every call fail and says nothing about what the server answers. With `sound` the files
of the live bundle can be read and still pass the Nebula tools.
-/

namespace Mesh
namespace NodeAgent

/-- Neither of the two errors that accuse the server. -/
def Plain (e : AgentError) : Prop := e.is .configRollback = false ∧ e.is .configEquivocation = false

variable {e : AgentError}

namespace Plain

theorem text (message : String) : Plain (.text message) := ⟨rfl, rfl⟩

theorem wrap (h : Plain e) (context : String) : Plain (.wrap context e) :=
  ⟨h.1, h.2⟩

theorem join {e' : AgentError} (h : Plain e) (h' : Plain e') : Plain (.join e e') := by
  refine ⟨?_, ?_⟩ <;> simp [AgentError.is, h.1, h.2, h'.1, h'.2]

theorem activation (h : Plain e) (revision : Int) (digest : String) :
    Plain (.activation revision digest e) := ⟨h.1, h.2⟩

end Plain

/-- A result that is no accusation. -/
def Quiet {α : Type} (r : Checked α) : Prop := ∀ e, r = .error e → Plain e

theorem Quiet.ok {α : Type} (a : α) : Quiet (.ok a : Checked α) := fun _ h => by cases h

theorem Quiet.error {α : Type} (h : Plain e) : Quiet (.error e : Checked α) :=
  fun _ he => by cases he; exact h

/-- The call failed for a reason of its own. -/
def Failed {α : Type} (x : Checked α) : Prop := ∃ message, x = .error (.text message)

theorem Failed.quiet {α : Type} {x : Checked α} (h : Failed x) : Quiet x := by
  obtain ⟨message, rfl⟩ := h
  exact .error (.text message)

/-- The call yields the value unless it fails. -/
def Reads {α : Type} (x : Checked α) (a : α) : Prop := x = .ok a ∨ Failed x

theorem Reads.quiet {α : Type} {x : Checked α} {a : α} (h : Reads x a) : Quiet x := by
  obtain rfl | h := h
  · exact .ok a
  · exact h.quiet

section Checks

variable {ε α β : Type}

theorem Quiet.reject {c : Prop} [Decidable c] (message : String) :
    Quiet (reject c (.text message : AgentError)) := by
  unfold Mesh.reject
  split
  · exact .error (.text message)
  · exact .ok ()

theorem Quiet.bind {x : Checked α} {f : α → Checked β} (hx : Quiet x) (hf : ∀ a, Quiet (f a)) :
    Quiet (x >>= f) := by
  cases x with
  | ok a => exact hf a
  | error e => exact .error (hx e rfl)

theorem Quiet.mapError {x : Except ε α} {f : ε → AgentError} (hf : ∀ e, Plain (f e)) :
    Quiet (mapError f x) := by
  cases x with
  | ok a => exact .ok a
  | error e => exact .error (hf e)

theorem Quiet.checkAll {f : α → Checked Unit} (hf : ∀ a, Quiet (f a)) (xs : List α) :
    Quiet (checkAll f xs) := by
  induction xs with
  | nil => exact .ok ()
  | cons a xs ih => exact .bind (hf a) fun _ => ih

theorem State.validate_quiet (s : State) : Quiet s.validate := by
  unfold State.validate
  repeat' refine .bind (.reject _) fun _ => ?_
  exact .reject _

theorem validateBundle_quiet (b : Bundle) (nodeID networkID key ca hash : String) :
    Quiet (validateBundle b nodeID networkID key ca hash) := by
  unfold validateBundle
  refine .bind (.reject _) fun _ => .bind (.reject _) fun _ => .bind (.reject _) fun _ => ?_
  refine .bind (.mapError fun f => Plain.wrap (.text _) _) fun _ => ?_
  refine .bind (.reject _) fun _ => .bind (.reject _) fun _ => .checkAll (fun named => ?_) _
  exact .bind (.reject _) fun _ => .reject _

theorem checkPKIPaths_quiet (config : String) : Quiet (checkPKIPaths config) :=
  .checkAll (fun _ => .reject _) _

end Checks

structure Disk where
  state : State
  keys : KeyPair
  live : Option Bundle
deriving DecidableEq

namespace Disk

def withState (d : Disk) (state : State) : Disk := { d with state := state }

def withLive (d : Disk) (bundle : Bundle) : Disk := { d with live := some bundle }

@[simp] theorem withState_state (d : Disk) (state : State) : (d.withState state).state = state := rfl
@[simp] theorem withState_keys (d : Disk) (state : State) : (d.withState state).keys = d.keys := rfl
@[simp] theorem withState_live (d : Disk) (state : State) : (d.withState state).live = d.live := rfl
@[simp] theorem withLive_state (d : Disk) (b : Bundle) : (d.withLive b).state = d.state := rfl
@[simp] theorem withLive_keys (d : Disk) (b : Bundle) : (d.withLive b).keys = d.keys := rfl
@[simp] theorem withLive_live (d : Disk) (b : Bundle) : (d.withLive b).live = some b := rfl

/-- What the Nebula tools say about the certificate of a bundle that describes it rightly. -/
def details (b : Bundle) : CertificateDetails := ⟨b.certificateFingerprint, b.certificateExpiresAt⟩

/-- The answers a call can get, and the disk after it. -/
def does (sound : Bool) (d : Disk) : (c : Call) → c.Answer → Disk → Prop
  | .loadState, x, d' => Reads x d.state ∧ d' = d
  -- the sync of the directory can fail after the rename
  | .saveState state, x, d' =>
    (x = .ok () ∧ d' = d.withState state) ∨ (Failed x ∧ (d' = d ∨ d' = d.withState state))
  | .loadRecoveryKeyPair, x, d' => Reads x d.keys ∧ d' = d
  | .readCurrent, x, d' =>
    (match d.live with
      | some b => if sound then x = .ok b else Reads x b
      | none => Failed x) ∧ d' = d
  | .prepareOutput, x, d' => Reads x d.live ∧ d' = d
  | .validate b, x, d' => Quiet x ∧ (sound = true → d.live = some b → x = .ok (details b)) ∧ d' = d
  | .switchLink b, x, d' => (x = .ok () ∧ d' = d.withLive b) ∨ (Failed x ∧ d' = d)
  | .removeLink, x, d' => (x = .ok () ∧ d' = { d with live := none }) ∨ (Failed x ∧ d' = d)
  | .acquireLock, x, d' | .stage _, x, d' | .publish _, x, d' | .syncOutput, x, d' | .reload, x, d'
  | .generateBearer, x, d' => Quiet x ∧ d' = d
  | .now, x, d' => (∃ t, x = .ok t) ∧ d' = d
  | .systemBootID, x, d' => (∃ id, x = .ok id) ∧ d' = d
  -- what the server answers
  | _, _, d' => d' = d

end Disk

end NodeAgent

/-! ## Rules for the text of operations -/

variable {context : String}

namespace Program

open NodeAgent

variable {σ α : Type} {does : σ → (c : Call) → c.Answer → σ → Prop} {I : σ → Prop} {s : σ}

theorem Upholds.wrapping {p : Host α} {R R' : Checked α → σ → Prop} (h : Upholds does I p s R)
    (hok : ∀ a s', I s' → R (.ok a) s' → R' (.ok a) s')
    (herr : ∀ e s', I s' → R (.error e) s' → R' (.error (.wrap context e)) s') :
    Upholds does I (NodeAgent.wrapping context p) s R' := h.mapFail hok herr

end Program

namespace NodeAgent

/-! ## What each part of an operation does -/

section Parts

open Program

variable {sound : Bool} {d : Disk}

theorem load_spec : Upholds (Disk.does sound) (· = d) load d fun r _ =>
    Quiet r ∧ ∀ state, r = .ok state → state = d.state ∧ state.validate = .ok () := by
  refine .ask_bind rfl ?_ ?_
  · rintro state d' ⟨hx, rfl⟩
    refine .mapFail_check_bind rfl (fun _ hv => .pure rfl ⟨.ok _, ?_⟩) fun e he => ?_
    · rintro _ ⟨⟩
      obtain hx | ⟨_, hx⟩ := hx
      · cases hx
        exact ⟨rfl, hv⟩
      · cases hx
    · exact ⟨.error ((State.validate_quiet state e he).wrap _), fun _ h => by cases h⟩
  · rintro e d' ⟨hx, rfl⟩
    exact ⟨rfl, hx.quiet, fun _ h => by cases h⟩

theorem save_spec (state : State) :
    Upholds (Disk.does sound) (fun d' => d' = d ∨ d' = d.withState state) (save state) d fun r d' =>
      Quiet r ∧ ∀ u, r = .ok u → d' = d.withState state ∧ state.validate = .ok () := by
  refine .mapFail_check_bind (.inl rfl) (fun _ hv => ?_) fun e he => ?_
  · refine .ask (.inl rfl) fun x d' hd => ?_
    obtain ⟨rfl, rfl⟩ | ⟨hx, hd'⟩ := hd
    · exact ⟨.inr rfl, .ok _, fun _ _ => ⟨rfl, hv⟩⟩
    · refine ⟨hd', hx.quiet, ?_⟩
      rintro _ rfl
      obtain ⟨_, hx⟩ := hx
      cases hx
  · exact ⟨.error ((State.validate_quiet state e he).wrap _), fun _ h => by cases h⟩

/-- A state is saved, and what follows. -/
theorem save_bind {state : State} {I : Disk → Prop} {β : Type} {f : Unit → Host β} {Q : Checked β → Disk → Prop}
    (hold : I d) (hnew : I (d.withState state))
    (hok : state.validate = .ok () → Upholds (Disk.does sound) I (f ()) (d.withState state) Q)
    (herr : ∀ e d', Plain e → Q (.error e) d') :
    Upholds (Disk.does sound) I (wrapping context (save state) >>= f) d Q := by
  have hI : ∀ d', d' = d ∨ d' = d.withState state → I d' := by
    rintro d' (rfl | rfl)
    · exact hold
    · exact hnew
  refine .bind (R := fun r d' => Quiet r ∧ ∀ u, r = .ok u → d' = d.withState state ∧
    state.validate = .ok ()) (((save_spec state).mono hI fun _ _ _ h => h).wrapping
      (fun u _ _ h => ⟨.ok u, h.2⟩) fun e _ _ h => ⟨.error ((h.1 e rfl).wrap _), fun _ h => by cases h⟩)
    ?_ fun e d' _ h => herr e d' (h.1 e rfl)
  rintro u d' - ⟨-, h⟩
  obtain ⟨rfl, hvalid⟩ := h u rfl
  exact hok hvalid

/-- A call that leaves the disk alone. -/
theorem idle_spec {c : Call} (h : ∀ d x d', Disk.does sound d c x d' → Quiet x ∧ d' = d) :
    Upholds (Disk.does sound) (· = d) (ask c) d fun r _ => Quiet r :=
  .ask rfl fun x d' hd => ⟨(h d x d' hd).2, (h d x d' hd).1⟩

theorem idle_bind {c : Call} {I : Disk → Prop} {β : Type} {f : c.Value → Host β}
    {Q : Checked β → Disk → Prop} (h : ∀ x d', Disk.does sound d c x d' → Quiet x ∧ d' = d) (hI : I d)
    (hok : ∀ a, Disk.does sound d c (.ok a) d → Upholds (Disk.does sound) I (f a) d Q)
    (herr : ∀ e, Plain e → Q (.error e) d) : Upholds (Disk.does sound) I (ask c >>= f) d Q := by
  refine .ask_bind hI (fun a d' hd => ?_) fun e d' hd => ?_
  · obtain ⟨-, rfl⟩ := h _ _ hd
    exact hok a hd
  · obtain ⟨hq, rfl⟩ := h _ _ hd
    exact ⟨hI, herr e (hq e rfl)⟩

variable {b : Bundle} {pins : State}

theorem does_validate : ∀ x d', Disk.does sound d (.validate b) x d' → Quiet x ∧ d' = d :=
  fun _ _ h => ⟨h.1, h.2.2⟩

theorem does_prepareOutput : ∀ x d', Disk.does sound d .prepareOutput x d' → Quiet x ∧ d' = d :=
  fun _ _ h => ⟨h.1.quiet, h.2⟩

theorem does_readCurrent : ∀ x d', Disk.does sound d .readCurrent x d' → Quiet x ∧ d' = d := by
  rintro x d' ⟨h, rfl⟩
  refine ⟨?_, rfl⟩
  split at h
  · split at h
    · cases h
      exact .ok _
    · exact h.quiet
  · exact h.quiet

theorem does_now : ∀ x d', Disk.does sound d .now x d' → Quiet x ∧ d' = d := by
  rintro _ _ ⟨⟨t, rfl⟩, rfl⟩
  exact ⟨.ok t, rfl⟩

theorem rollback_spec (b : Bundle) :
    Upholds (Disk.does sound) (fun d' => d' = d ∨ d' = d.withLive b) (rollback d.live) (d.withLive b)
      fun r _ => Quiet r := by
  obtain ⟨state, keys, live⟩ := d
  cases live with
  | some previous =>
    refine .mapFail_ask_bind (.inr rfl) ?_ ?_
    · rintro _ d' (⟨-, rfl⟩ | ⟨⟨_, h⟩, -⟩)
      · refine .mapFail_ask_bind (.inl rfl) ?_ ?_
        · rintro _ d' ⟨-, rfl⟩
          exact ((idle_spec (c := .reload) fun _ _ _ h => h).wrapping (fun a _ _ _ => .ok a)
            fun e _ _ h => .error ((h e rfl).wrap _)).mono (fun _ h => .inl h) fun _ _ _ h => h
        · rintro e d' ⟨hq, rfl⟩
          exact ⟨.inl rfl, .error ((hq e rfl).wrap _)⟩
      · cases h
    · rintro e d' (⟨h, -⟩ | ⟨hf, rfl⟩)
      · cases h
      · exact ⟨.inr rfl, .error ((hf.quiet e rfl).wrap _)⟩
  | none =>
    refine .mapFail_ask_bind (.inr rfl) ?_ ?_
    · rintro _ d' (⟨-, rfl⟩ | ⟨⟨_, h⟩, -⟩)
      · exact ((idle_spec (c := .syncOutput) fun _ _ _ h => h).wrapping (fun a _ _ _ => .ok a)
            fun e _ _ h => .error ((h e rfl).wrap _)).mono (fun _ h => .inl h) fun _ _ _ h => h
      · cases h
    · rintro e d' (⟨h, -⟩ | ⟨hf, rfl⟩)
      · cases h
      · exact ⟨.inr rfl, .error ((hf.quiet e rfl).wrap _)⟩

theorem orRollback_spec {p : Host Unit}
    (hp : Upholds (Disk.does sound) (· = d.withLive b) p (d.withLive b) fun r _ => Quiet r) :
    Upholds (Disk.does sound) (fun d' => d' = d ∨ d' = d.withLive b) (orRollback d.live context p)
      (d.withLive b) fun r d' => Quiet r ∧ ∀ u, r = .ok u → d' = d.withLive b := by
  refine .attempt_bind (R := fun r d' => Quiet r ∧ d' = d.withLive b)
    (hp.mono (fun _ h => .inr h) fun _ _ hd hr => ⟨hr, hd⟩) ?_
  rintro x _ - ⟨hx, rfl⟩
  cases x with
  | ok u => exact .pure (.inr rfl) ⟨.ok _, fun _ _ => rfl⟩
  | error e =>
    -- whatever the rollback does, the step has failed
    have he : Plain (.wrap context e) := (hx e rfl).wrap context
    refine .attempt_bind (rollback_spec b) fun x d' hd' hx => ?_
    cases x with
    | ok u => exact .fail hd' ⟨.error he, fun _ h => by cases h⟩
    | error e' => exact .fail hd' ⟨.error (he.join (hx e' rfl)), fun _ h => by cases h⟩

/-- The program leaves the link as it was or on the new bundle, and on the new one if it succeeds. -/
def Applies (sound : Bool) (d : Disk) (pins : State) (b : Bundle) (p : Host Activation) : Prop :=
  Upholds (Disk.does sound) (fun d' => d' = d ∨ (d' = d.withLive b ∧ validatePinned pins b = .ok ())) p d
    fun r d' => Quiet r ∧ ∀ a, r = .ok a → d' = d.withLive b ∧ validatePinned pins b = .ok () ∧
      a.certificateExpiresAt = b.certificateExpiresAt

theorem apply_spec (pins : State) (b : Bundle) : Applies sound d pins b (apply pins b) := by
  have failed : ∀ {e : AgentError} {d' : Disk}, Plain e → Quiet (.error e : Checked Activation) ∧
      ∀ a, (.error e : Checked Activation) = .ok a → d' = d.withLive b ∧
        validatePinned pins b = .ok () ∧ a.certificateExpiresAt = b.certificateExpiresAt :=
    fun he => ⟨.error he, fun _ h => by cases h⟩
  refine .check_bind (.inl rfl) (fun _ hvalid => ?_)
    fun e he => failed (validateBundle_quiet _ _ _ _ _ _ e he)
  refine idle_bind does_prepareOutput (.inl rfl) (fun previous hprevious => ?_) fun e => failed
  obtain ⟨hprevious | ⟨_, hprevious⟩, -⟩ := hprevious
  swap
  · cases hprevious
  cases hprevious
  refine .check_bind (.inl rfl) (fun _ _ => ?_) fun e he => failed (checkPKIPaths_quiet _ e he)
  refine idle_bind (fun _ _ h => h) (.inl rfl) (fun _ _ => ?_) fun e => failed
  refine idle_bind does_validate (.inl rfl) (fun details _ => ?_) fun e => failed
  refine .check_bind (.inl rfl) (fun _ hdetails => ?_) fun e he => failed (Quiet.reject _ e he)
  rw [reject_eq_ok, not_or, Decidable.not_not, Decidable.not_not] at hdetails
  refine idle_bind (fun _ _ h => h) (.inl rfl) (fun _ _ => ?_) fun e => failed
  refine .ask_bind (.inl rfl) ?_ ?_
  swap
  · rintro e d' (⟨h, -⟩ | ⟨hx, rfl⟩)
    · cases h
    · exact ⟨.inl rfl, failed (hx.quiet e rfl)⟩
  rintro _ d₁ (⟨-, rfl⟩ | ⟨⟨_, h⟩, -⟩)
  swap
  · cases h
  -- from here on the link points to the new bundle
  have switched : ∀ d₁, d₁ = d ∨ d₁ = d.withLive b →
      d₁ = d ∨ (d₁ = d.withLive b ∧ validatePinned pins b = .ok ()) :=
    fun _ h => h.imp id fun h => ⟨h, hvalid⟩
  refine .bind ((orRollback_spec (idle_spec (c := .syncOutput) fun _ _ _ h => h)).mono switched
    fun _ _ _ h => h) ?_ fun e d₁ _ h => failed (h.1 e rfl)
  rintro _ d₁ - ⟨-, h⟩
  cases h _ rfl
  refine .bind ((orRollback_spec (idle_spec (c := .reload) fun _ _ _ h => h)).mono switched
    fun _ _ _ h => h) ?_ fun e d₁ _ h => failed (h.1 e rfl)
  rintro _ d₁ - ⟨-, h⟩
  cases h _ rfl
  exact .pure (.inr ⟨rfl, hvalid⟩) ⟨.ok _, by rintro _ ⟨⟩; exact ⟨rfl, hvalid, hdetails.2⟩⟩

/-- Reading the live bundle changes nothing, and succeeds where the files are sound. -/
theorem currentBundle_spec (pins : State) :
    Upholds (Disk.does sound) (· = d) (currentBundle pins) d fun r _ =>
      Quiet r ∧ (∀ b, r = .ok b → d.live = some b ∧ validatePinned pins b = .ok ()) ∧
        (sound = true → ∀ b, d.live = some b → validatePinned pins b = .ok () → r = .ok b) := by
  refine .ask_bind rfl ?_ ?_
  · rintro b d' ⟨hread, hd⟩
    obtain rfl : d = d' := hd.symm
    have hlive : d.live = some b := by
      split at hread
      · split at hread
        · cases hread
          assumption
        · obtain hread | ⟨_, hread⟩ := hread
          · cases hread
            assumption
          · cases hread
      · obtain ⟨_, hread⟩ := hread
        cases hread
    have failed : ∀ {e : AgentError}, Plain e → ¬ (sound = true ∧ validatePinned pins b = .ok ()) →
        Quiet (.error e : Checked Bundle) ∧
          (∀ b', (.error e : Checked Bundle) = .ok b' → d.live = some b' ∧
            validatePinned pins b' = .ok ()) ∧
          (sound = true → ∀ b', d.live = some b' → validatePinned pins b' = .ok () →
            (.error e : Checked Bundle) = .ok b') := by
      intro e he hnot
      refine ⟨.error he, fun _ h => (by cases h), fun hs b' hb hv => absurd ⟨hs, ?_⟩ hnot⟩
      cases hlive.symm.trans hb
      exact hv
    refine .mapFail_check_bind rfl (fun _ hvalid => ?_) fun e he => ?_
    · refine .mapFail_ask_bind rfl ?_ ?_
      · rintro details _ ⟨-, hdetails, rfl⟩
        refine .check_bind rfl (fun _ hok => ?_) fun e he => failed (Quiet.reject _ e he) ?_
        · refine .pure rfl ⟨.ok b, ?_, ?_⟩
          · rintro _ ⟨⟩
            exact ⟨hlive, hvalid⟩
          · rintro - b' hb -
            cases hlive.symm.trans hb
            rfl
        · rintro ⟨hs, -⟩
          cases hdetails hs hlive
          simp [Disk.details, reject] at he
      · rintro e _ ⟨hq, hdetails, rfl⟩
        refine ⟨rfl, failed ((hq e rfl).wrap _) ?_⟩
        rintro ⟨hs, -⟩
        cases hdetails hs hlive
    · refine failed ((validateBundle_quiet _ _ _ _ _ _ e he).wrap _) ?_
      rintro ⟨-, hv⟩
      rw [hv] at he
      cases he
  · intro e d' hread
    obtain ⟨hq, rfl⟩ := does_readCurrent _ _ hread
    refine ⟨rfl, hq, fun _ h => (by cases h), fun hs b hb _ => ?_⟩
    obtain ⟨hread, -⟩ := hread
    rw [hb] at hread
    simp [hs] at hread

/-- What an activation can leave: nothing, the bundle live, or the bundle live and a state saved. -/
def Disk.Activates (d : Disk) (pins : State) (b : Bundle) (S : State → Prop) (d' : Disk) : Prop :=
  d' = d ∨ (validatePinned pins b = .ok () ∧
    (d' = d.withLive b ∨ ∃ state, S state ∧ d' = (d.withLive b).withState state))

/-- The link has been switched; a state is saved. -/
theorem save_activated {S : State → Prop} {state : State} {α : Type} {a : α}
    (hvalid : validatePinned pins b = .ok ()) (hS : S state) :
    Upholds (Disk.does sound) (d.Activates pins b S)
      (wrapping context (save state) >>= fun _ => pure a) (d.withLive b) fun r d' =>
        Quiet r ∧ ∀ v, r = .ok v → v = a ∧ d' = (d.withLive b).withState state ∧ state.validate = .ok () := by
  refine save_bind (.inr ⟨hvalid, .inl rfl⟩) (.inr ⟨hvalid, .inr ⟨state, hS, rfl⟩⟩) (fun hstate => ?_)
    fun e d' he => ⟨.error he, fun _ h => by cases h⟩
  refine .pure (.inr ⟨hvalid, .inr ⟨state, hS, rfl⟩⟩) ⟨.ok a, ?_⟩
  rintro _ ⟨⟩
  exact ⟨rfl, rfl, hstate⟩

theorem Applies.mapFail {p : Host Activation} {g : AgentError → AgentError} (h : Applies sound d pins b p)
    (hg : ∀ e, Plain e → Plain (g e)) : Applies sound d pins b (p.mapFail g) :=
  Upholds.mapFail h (fun _ _ _ h => h)
    fun e _ _ h => ⟨.error (hg e (h.1 e rfl)), fun _ h => by cases h⟩

/-- An activation, and what follows it once it has succeeded. -/
theorem Applies.bind {S : State → Prop} {p : Host Activation} {β : Type} {f : Activation → Host β}
    {Q : Checked β → Disk → Prop} (h : Applies sound d pins b p)
    (hok : ∀ a, validatePinned pins b = .ok () → a.certificateExpiresAt = b.certificateExpiresAt →
      Upholds (Disk.does sound) (d.Activates pins b S) (f a) (d.withLive b) Q)
    (herr : ∀ e d', Plain e → Q (.error e) d') :
    Upholds (Disk.does sound) (d.Activates pins b S) (p >>= f) d Q := by
  have hI : ∀ d', d' = d ∨ (d' = d.withLive b ∧ validatePinned pins b = .ok ()) →
      d.Activates pins b S d' := fun d' h => h.imp id fun h => ⟨h.2, .inl h.1⟩
  refine Upholds.bind (Upholds.mono h hI fun _ _ _ h => h) ?_ ?_
  · rintro a _ - ⟨-, h⟩
    obtain ⟨rfl, hvalid, hexpires⟩ := h a rfl
    exact hok a hvalid hexpires
  · rintro e d' - ⟨hq, -⟩
    exact herr e d' (hq e rfl)

theorem applyBootstrap_spec (state : State) (keys : KeyPair) (bootstrap : EnrollmentBundle) :
    Upholds (Disk.does sound)
      (fun d' => d' = d ∨ ∃ desired b, verifyBootstrapBundle state keys bootstrap = .ok (desired, b) ∧
        d.Activates (state.pinnedTo desired) b (· = state.bootstrapped bootstrap b.certificateExpiresAt) d')
      (applyBootstrap state keys bootstrap) d fun r d' =>
        (Quiet (verifyBootstrapBundle state keys bootstrap) → Quiet r) ∧
        ∀ v, r = .ok v → ∃ desired b, verifyBootstrapBundle state keys bootstrap = .ok (desired, b) ∧
          validatePinned (state.pinnedTo desired) b = .ok () ∧
          v.1 = state.bootstrapped bootstrap b.certificateExpiresAt ∧ v.1.validate = .ok () ∧
          d' = (d.withLive b).withState v.1 := by
  refine .check_bind (.inl rfl) ?_ fun e he => ⟨fun hq => .error (hq e he), fun _ h => by cases h⟩
  rintro ⟨desired, b⟩ hverify
  refine Upholds.mono
    (I := d.Activates (state.pinnedTo desired) b (· = state.bootstrapped bootstrap b.certificateExpiresAt))
    (R := fun r d' => Quiet r ∧ ∀ v, r = .ok v → validatePinned (state.pinnedTo desired) b = .ok () ∧
        v.1 = state.bootstrapped bootstrap b.certificateExpiresAt ∧ v.1.validate = .ok () ∧
        d' = (d.withLive b).withState v.1) ?_ (fun d' h => .inr ⟨desired, b, hverify, h⟩)
    fun r d' _ h => ⟨fun _ => h.1, fun v hr => ⟨desired, b, hverify, h.2 v hr⟩⟩
  refine (apply_spec (state.pinnedTo desired) b).bind (fun a hvalid hexpires => ?_)
    fun e d' he => ⟨.error he, fun _ h => by cases h⟩
  rw [hexpires]
  refine (save_activated (S := (· = _)) hvalid rfl).mono (fun _ h => h)
    fun r d' _ h => ⟨h.1, fun v hr => ?_⟩
  obtain ⟨rfl, hd', hstate⟩ := h.2 v hr
  exact ⟨hvalid, rfl, hstate, hd'⟩

/-- What a renewal can leave on the disk. -/
theorem activateRenewal_spec (state : State) (keys : KeyPair) (renewal : RenewalBundle) :
    Upholds (Disk.does sound)
      (d.Activates (state.pinnedTo (desiredOfRenewal renewal)) (bundleOfRenewal state keys renewal)
        (· = state.activated (desiredOfRenewal renewal) renewal.certificateExpiresAt))
      (activateRenewal state keys renewal) d fun r _ => Quiet r := by
  refine ((apply_spec _ _).mapFail fun e he => he.wrap _).bind (fun a hvalid hexpires => ?_)
    fun e d' he => .error he
  have hexpires : a.certificateExpiresAt = renewal.certificateExpiresAt := hexpires
  rw [hexpires]
  exact (save_activated (S := (· = _)) hvalid rfl).mono (fun _ h => h) fun r d' _ h => h.1

/-- What a config for the live certificate can leave on the disk. -/
theorem syncConfig_spec (state : State) (current : Bundle) (desired : AgentConfig) :
    Upholds (Disk.does sound)
      (d.Activates (state.pinnedTo desired) (current.withDesired desired) fun s =>
        ∃ now, s = (state.activated desired desired.certificateExpiresAt).contacted now)
      (syncConfig state current desired) d fun r _ => Quiet r := by
  refine ((apply_spec _ _).mapFail fun e he => (he.wrap _).activation _ _).bind
    (fun a hvalid hexpires => ?_) fun e d' he => .error he
  have hexpires : a.certificateExpiresAt = desired.certificateExpiresAt := hexpires
  rw [hexpires]
  refine idle_bind does_now (.inr ⟨hvalid, .inl rfl⟩) (fun now _ => ?_) fun e he => .error he
  exact (save_activated hvalid ⟨now, rfl⟩).mono (fun _ h => h) fun r d' _ h => h.1

theorem recordConfigSuccess_spec (a : Agent) (state : State) :
    Upholds (Disk.does sound)
      (fun d' => d' = d ∨ ∃ now, d' = d.withState (state.contacted now))
      (a.recordConfigSuccess state) d fun r _ => Quiet r := by
  refine idle_bind does_now (.inl rfl) (fun now _ => ?_) fun e he => .error he
  split
  · exact Upholds.pure (.inl rfl) (.ok _)
  · exact save_bind (.inl rfl) (.inr ⟨now, rfl⟩) (fun _ => .pure (.inr ⟨now, rfl⟩) (.ok _))
      fun e d' he => .error he

end Parts

end NodeAgent
end Mesh
