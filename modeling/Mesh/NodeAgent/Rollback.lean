import Mesh.Lib.Runs
import Mesh.NodeAgent.Play

/-!
# Mesh.NodeAgent.Rollback

Whether the live bundle can go back. The agent compares what it is sent with its saved state, and the
saved state lags behind the live bundle when the process dies between an activation and the save. The
operations that begin with `loadReconciledState` catch up first; a renewal and a recovery do not, and
neither does a sync that cannot take the live bundle for its own, because it was activated with another
trust bundle or because the Nebula tools refuse it.

The server may answer anything here, so what the agent makes of an answer has to stand on its own checks.
-/

namespace Mesh
namespace NodeAgent

open Program

/-! ## Order of live bundles -/

/-- The live bundle of the second disk is the one of the first or has come after it. -/
def Disk.Advances (d d' : Disk) : Prop :=
  ∀ b, d.live = some b → ∃ b', d'.live = some b' ∧ b.revision ≤ b'.revision ∧
    b.certificateGeneration ≤ b'.certificateGeneration ∧ (b.revision = b'.revision → b.digest = b'.digest)

variable {d' : Disk} {s : State} {b : Bundle} {a : Agent}

theorem Disk.Advances.of_eq {d : Disk} (h : d'.live = d.live) : d.Advances d' :=
  fun b hb => ⟨b, h.trans hb, le_rfl, le_rfl, fun _ => rfl⟩

theorem Disk.Advances.trans {d d₁ d₂ : Disk} (h : d.Advances d₁) (h' : d₁.Advances d₂) : d.Advances d₂ := by
  intro b hb
  obtain ⟨b₁, hb₁, hrev, hgen, hdigest⟩ := h b hb
  obtain ⟨b₂, hb₂, hrev', hgen', hdigest'⟩ := h' b₁ hb₁
  refine ⟨b₂, hb₂, hrev.trans hrev', hgen.trans hgen', fun heq => ?_⟩
  have h₁ : b.revision = b₁.revision := by omega
  have h₂ : b₁.revision = b₂.revision := by omega
  exact (hdigest h₁).trans (hdigest' h₂)

/-- The saved state says what the live bundle says. -/
def Disk.InStep (d : Disk) : Prop := ∀ b, d.live = some b → d.state.applied = b.applied

/-- What an enrolled agent never changes. -/
def State.pins (s : State) : String × String × String × String :=
  (s.nodeID, s.networkID, s.configSigningPublicKey, s.publicKeyHash)

/-- The live bundle passed the checks of an activation, against the trust bundle it names itself. -/
def Disk.Validated (d : Disk) : Prop :=
  ∀ b, d.live = some b →
    validateBundle b d.state.nodeID d.state.networkID d.state.configSigningPublicKey
      b.caCertificateSHA256 d.state.publicKeyHash = .ok ()

/-- What every ending of an operation has to leave. -/
structure Disk.Good (d d' : Disk) : Prop where
  advances : d.Advances d'
  pins : d'.state.pins = d.state.pins
  validated : d'.Validated

namespace Disk.Good

variable {d d₁ d₂ : Disk}

theorem refl (h : d.Validated) : d.Good d := ⟨.of_eq rfl, rfl, h⟩

theorem trans (h : d.Good d₁) (h' : d₁.Good d₂) : d.Good d₂ :=
  ⟨h.advances.trans h'.advances, h'.pins.trans h.pins, h'.validated⟩

end Disk.Good

theorem Disk.Validated.withState {d : Disk} (h : d.Validated) (hpins : s.pins = d.state.pins) :
    (d.withState s).Validated := by
  intro b hb
  simp only [State.pins, Prod.mk.injEq] at hpins
  obtain ⟨h₁, h₂, h₃, h₄⟩ := hpins
  rw [withState_state, h₁, h₂, h₃, h₄]
  exact h b hb

theorem Disk.Good.withState {d : Disk} (h : d.Validated) (hpins : s.pins = d.state.pins) :
    d.Good (d.withState s) := ⟨.of_eq rfl, hpins, h.withState hpins⟩

/-! ## What an accepted artifact says -/

section Accepted

variable {state : State} {desired : AgentConfig}

theorem advance_of_verifySignedConfig (h : verifySignedConfig state desired = .ok ()) :
    state.appliedConfigRevision ≤ desired.revision ∧
      state.certificateGeneration ≤ desired.certificateGeneration ∧
      (state.appliedConfigRevision = desired.revision → state.appliedConfigSHA256 = desired.sha256) := by
  simp only [verifySignedConfig, bind_unit_eq_ok, reject_eq_ok, mapError_eq_ok, not_or, not_and,
    not_lt, Decidable.not_not] at h
  obtain ⟨-, ⟨hpositive, -⟩, -, -, -, hrev, hgen, -, hdigest⟩ := h
  refine ⟨hrev, hgen, fun heq => (hdigest heq.symm (by omega)).symm⟩

theorem of_verifyBootstrapBundle {keys : KeyPair} {bootstrap : EnrollmentBundle}
    (h : verifyBootstrapBundle state keys bootstrap = .ok (desired, b)) :
    verifySignedConfig state desired = .ok () ∧ desired = desiredOfBootstrap bootstrap ∧
      b = bundleOf desired.nodeID desired.networkID desired bootstrap.ca bootstrap.certificate keys := by
  simp only [verifyBootstrapBundle, bind_eq_ok, exists_unit, pure_eq_ok, Prod.mk.injEq] at h
  obtain ⟨-, -, hverify, -, rfl, rfl⟩ := h
  exact ⟨hverify, rfl, rfl⟩

/-- From a disk in step, activating what the saved state accepts is an advance. -/
theorem Disk.Good.of_activates {d : Disk} {S : State → Prop} (hd : d.InStep) (hv : d.Validated)
    (happlied : state.applied = d.state.applied) (hpins : state.pins = d.state.pins)
    (hverify : verifySignedConfig state desired = .ok ()) (hb : b.applied = appliedOf desired)
    (hS : ∀ s, S s → s.pins = state.pins) (h : d.Activates (state.pinnedTo desired) b S d') : d.Good d' := by
  obtain rfl | ⟨hvalid, h⟩ := h
  · exact .refl hv
  have hadvances : d.Advances (d.withLive b) := by
    intro b₀ hb₀
    obtain ⟨hrev, hgen, hdigest⟩ := advance_of_verifySignedConfig hverify
    have hold := happlied.trans (hd b₀ hb₀)
    simp only [State.applied, Bundle.applied, appliedOf, Applied.mk.injEq] at hold hb
    refine ⟨b, rfl, by omega, by omega, fun heq => ?_⟩
    rw [← hold.2.1, hb.2.1]
    exact hdigest (by omega)
  have hvalidated : (d.withLive b).Validated := by
    rintro _ ⟨⟩
    simp only [State.pins, Prod.mk.injEq] at hpins
    obtain ⟨h₁, h₂, h₃, h₄⟩ := hpins
    have hca : b.caCertificateSHA256 = desired.caCertificateSHA256 := congrArg Applied.caCertificateSHA256 hb
    rw [withLive_state, ← h₁, ← h₂, ← h₃, ← h₄, hca]
    exact hvalid
  obtain rfl | ⟨s, hs, rfl⟩ := h
  · exact ⟨hadvances, rfl, hvalidated⟩
  · exact ⟨hadvances, (hS s hs).trans hpins, hvalidated.withState ((hS s hs).trans hpins)⟩

end Accepted

/-! ## What each operation leaves -/

section Operations

variable {sound : Bool} {d : Disk} {I : Disk → Prop} {α β : Type} {K : β → Disk → Prop}

theorem check_bind {x : Checked α} {f : α → Host β} (hI : I d)
    (hok : ∀ a, x = .ok a → Upholds (Disk.does sound) I (f a) d (OnValue K)) :
    Upholds (Disk.does sound) I (check x >>= f) d (OnValue K) :=
  .check_bind hI hok fun _ _ => .error

variable {c : Call}

/-- A call that leaves the disk alone, whatever it answers. -/
theorem still_bind {f : c.Value → Host β} (h : ∀ x d', Disk.does sound d c x d' → d' = d) (hI : I d)
    (hok : ∀ a, Upholds (Disk.does sound) I (f a) d (OnValue K)) :
    Upholds (Disk.does sound) I (ask c >>= f) d (OnValue K) := by
  refine .ask_bind hI (fun a d' hd => ?_) fun e d' hd => ?_
  · obtain rfl := h _ _ hd
    exact hok a
  · obtain rfl := h _ _ hd
    exact ⟨hI, .error⟩

theorem still_mapFail_bind {g : AgentError → AgentError} {f : c.Value → Host β}
    (h : ∀ x d', Disk.does sound d c x d' → d' = d) (hI : I d)
    (hok : ∀ a, Upholds (Disk.does sound) I (f a) d (OnValue K)) :
    Upholds (Disk.does sound) I ((ask c).mapFail g >>= f) d (OnValue K) := by
  refine .mapFail_ask_bind hI (fun a d' hd => ?_) fun e d' hd => ?_
  · obtain rfl := h _ _ hd
    exact hok a
  · obtain rfl := h _ _ hd
    exact ⟨hI, .error⟩

theorem still_attempt_bind {f : c.Answer → Host β} (h : ∀ x d', Disk.does sound d c x d' → d' = d) (hI : I d)
    (hok : ∀ x, Upholds (Disk.does sound) I (f x) d (OnValue K)) :
    Upholds (Disk.does sound) I ((ask c).attempt >>= f) d (OnValue K) := by
  refine .attempt_ask_bind hI fun x d' hd => ?_
  obtain rfl := h _ _ hd
  exact hok x

theorem ready_bind {f : Unit → Host β} (hI : I d) (hok : Upholds (Disk.does sound) I (f ()) d (OnValue K)) :
    Upholds (Disk.does sound) I (a.ready >>= f) d (OnValue K) := by
  have hready : Upholds (Disk.does sound) (· = d) a.ready d (OnValue fun _ _ => True) :=
    NodeAgent.check_bind rfl fun _ _ => .ask rfl fun x d' hd => ⟨hd.2, fun _ _ => trivial⟩
  refine (hready.mono (fun d' h => h ▸ hI) fun r d' hd _ => fun _ _ => hd).bind_value ?_
  rintro _ _ - rfl
  exact hok

theorem load_bind {f : State → Host β} (hI : I d)
    (hok : Upholds (Disk.does sound) I (f d.state) d (OnValue K)) :
    Upholds (Disk.does sound) I (load >>= f) d (OnValue K) := by
  refine (load_spec.mono (fun d' h => h ▸ hI)
    fun r d' hd h => fun s hs => And.intro hd (h.2 s hs).1).bind_value ?_
  rintro _ _ - ⟨rfl, rfl⟩
  exact hok

/-- The states that differ from the saved one only in what the order of bundles does not depend on. -/
structure State.Alike (s s' : State) : Prop where
  applied : s.applied = s'.applied
  pins : s.pins = s'.pins

theorem State.Alike.of_eq {s₁ s₂ : State} (h : s.Alike s₂) (happlied : s₁.applied = s.applied)
    (hpins : s₁.pins = s.pins) : s₁.Alike s₂ := ⟨happlied.trans h.applied, hpins.trans h.pins⟩

theorem applyBootstrap_good {state : State} (hd : d.InStep) (hv : d.Validated) (hs : state.Alike d.state)
    (keys : KeyPair) (bootstrap : EnrollmentBundle) :
    Upholds (Disk.does sound) d.Good (applyBootstrap state keys bootstrap) d
      (OnValue fun v d' => d'.state = v.1 ∧ d'.InStep) := by
  refine (applyBootstrap_spec state keys bootstrap).mono ?_ ?_
  · rintro d' (rfl | ⟨desired, b, hverify, h⟩)
    · exact .refl hv
    · obtain ⟨hsigned, rfl, rfl⟩ := of_verifyBootstrapBundle hverify
      refine .of_activates hd hv hs.applied hs.pins hsigned rfl ?_ h
      rintro _ rfl
      rfl
  · rintro r d' - ⟨-, h⟩ v rfl
    obtain ⟨desired, b, hverify, -, hstate, -, rfl⟩ := h v rfl
    obtain ⟨-, rfl, rfl⟩ := of_verifyBootstrapBundle hverify
    refine ⟨rfl, ?_⟩
    rintro _ ⟨⟩
    rw [Disk.withState_state, hstate]
    rfl

/-- What follows an operation that left a good disk. -/
theorem Disk.Good.after {d₁ : Disk} {p : Host β} (h : d.Good d₁)
    (hp : Upholds (Disk.does sound) d₁.Good p d₁ (OnValue K)) :
    Upholds (Disk.does sound) d.Good p d₁ (OnValue K) :=
  hp.mono (fun _ h' => h.trans h') fun _ _ _ h => h

/-- The agent has the live bundle and its own state in hand. -/
def Disk.Holds (d : Disk) (v : State × Bundle) : Prop :=
  d.state = v.1 ∧ d.live = some v.2 ∧ validatePinned v.1 v.2 = .ok ()

theorem recoverCurrentBundle_good (hd : d.InStep) (hv : d.Validated) (cause : AgentError) :
    Upholds (Disk.does sound) d.Good (recoverCurrentBundle d.state cause) d
      (OnValue fun v d' => d'.Holds v) := by
  refine .mapFail_check_bind (.refl hv) (fun client _ => ?_) fun e _ => .error
  refine still_mapFail_bind (fun _ _ h => h) (.refl hv) fun bootstrap => ?_
  refine still_mapFail_bind (fun _ _ h => h.2) (.refl hv) fun keys => ?_
  refine (applyBootstrap_good hd hv ⟨rfl, rfl⟩ keys bootstrap).mapFail_value.bind_value ?_
  rintro ⟨state, result⟩ d₁ hgood ⟨hstate, -⟩
  refine ((currentBundle_spec state).mono (fun d' h => h ▸ hgood)
    fun r d' hd h => fun b hr => And.intro hd (h.2.1 b hr)).bind_value ?_
  rintro current d' - ⟨rfl, hlive, hpinned⟩
  exact .pure hgood (.ok ⟨hstate, hlive, hpinned⟩)

theorem readOrRecover_good (hv : d.Validated)
    (hd : d.InStep ∨ (sound = true ∧ ∀ b, d.live = some b → validatePinned d.state b = .ok ())) :
    Upholds (Disk.does sound) d.Good (readOrRecover d.state) d (OnValue fun v d' => d'.Holds v) := by
  refine .attempt_bind ((currentBundle_spec d.state).mono (J := d.Good) ?_
    fun _ _ hd h => And.intro hd h) ?_
  · rintro _ rfl
    exact .refl hv
  rintro x d' hgood ⟨rfl, -, hok, hread⟩
  cases x with
  | ok current => exact .pure hgood (.ok ⟨rfl, hok current rfl⟩)
  | error e =>
    -- the bundle cannot be taken as it is, so the saved state had better be up to date
    have hin : d'.InStep := by
      obtain hd | ⟨hsound, hvalid⟩ := hd
      · exact hd
      · intro b hb
        cases hread hsound b hb (hvalid b hb)
    exact recoverCurrentBundle_good hin hv e

theorem caCertificateSHA256_of_validatePinned {state : State} (h : validatePinned state b = .ok ()) :
    b.caCertificateSHA256 = state.caCertificateSHA256 := by
  simp only [validatePinned, validateBundle, bind_unit_eq_ok, reject_eq_ok, not_or,
    Decidable.not_not] at h
  exact h.2.2.2.2.1.1

theorem reconcile_good {state : State} {current : Bundle} (hv : d.Validated) (h : d.Holds (state, current)) :
    Upholds (Disk.does sound) d.Good (reconcile state current) d
      (OnValue fun v d' => d'.state = v.1 ∧ d'.live = some v.2 ∧ d'.InStep) := by
  obtain ⟨rfl, hlive, hpinned⟩ := h
  have hca := caCertificateSHA256_of_validatePinned hpinned
  refine check_bind (.refl hv) fun _ hcheck => ?_
  split
  · have hgood : d.Good (d.withState (d.state.reconciled current)) := .withState hv rfl
    refine save_bind (.refl hv) hgood (fun _ => .pure hgood (.ok ⟨rfl, hlive, ?_⟩)) fun _ _ _ => .error
    intro b hb
    cases hlive.symm.trans hb
    rfl
  · rename_i hsame
    refine .pure (.refl hv) (.ok ⟨rfl, hlive, fun b hb => ?_⟩)
    cases hlive.symm.trans hb
    simp only [liveBundleChanged, Bool.or_eq_true, decide_eq_true_eq, bne_iff_ne, not_or, not_lt,
      Decidable.not_not] at hsame
    obtain ⟨⟨⟨⟨⟨hrev, hgen⟩, hdigest⟩, hfingerprint⟩, hexpires⟩, hrenew⟩ := hsame
    simp only [checkLiveBundle, bind_unit_eq_ok, reject_eq_ok, not_or, not_lt] at hcheck
    simp only [State.applied, Bundle.applied, Applied.mk.injEq]
    exact ⟨by omega, hdigest.symm, hca.symm, hfingerprint.symm, by omega, hexpires.symm, hrenew.symm⟩

theorem loadReconciledState_good (hv : d.Validated)
    (hd : d.InStep ∨ (sound = true ∧ ∀ b, d.live = some b → validatePinned d.state b = .ok ())) :
    Upholds (Disk.does sound) d.Good loadReconciledState d
      (OnValue fun v d' => d'.state = v.1 ∧ d'.live = some v.2 ∧ d'.InStep) := by
  refine load_bind (.refl hv) ?_
  refine check_bind (.refl hv) fun _ _ => ?_
  refine (readOrRecover_good hv hd).bind_value ?_
  rintro ⟨state, current⟩ d₁ hgood h
  exact hgood.after (reconcile_good hgood.validated h)

/-- Nothing is asked of what an operation returns. -/
abbrev Keeps (sound : Bool) (d : Disk) (p : Host β) : Prop :=
  Upholds (Disk.does sound) d.Good p d (OnValue fun _ _ => True)

theorem activateRenewal_good {state : State} (hd : d.InStep) (hv : d.Validated) (hs : state.Alike d.state)
    (keys : KeyPair) (renewal : RenewalBundle)
    (hverify : verifySignedConfig state (desiredOfRenewal renewal) = .ok ()) :
    Keeps sound d (activateRenewal state keys renewal) := by
  refine (activateRenewal_spec state keys renewal).mono (fun d' h => ?_) fun _ _ _ _ => fun _ _ => trivial
  refine .of_activates hd hv hs.applied hs.pins hverify rfl ?_ h
  rintro _ rfl
  rfl

theorem recoverRenewal_good (hd : d.InStep) (hv : d.Validated) (keys : KeyPair) (client : String)
    (cause : AgentError) : Keeps sound d (recoverRenewal d.state keys client cause) := by
  refine still_attempt_bind (fun _ _ h => h) (.refl hv) fun x => ?_
  cases x with
  | error e => exact .fail (.refl hv) .error
  | ok bootstrap =>
    dsimp only
    split
    · exact .fail (.refl hv) .error
    · refine .attempt_bind (applyBootstrap_good hd hv ⟨rfl, rfl⟩ keys bootstrap) fun x d' hgood _ => ?_
      cases x with
      | ok v => exact .pure hgood (.ok trivial)
      | error e => exact .fail hgood .error

theorem renewCertificateLocked_good (hd : d.InStep) (hv : d.Validated) :
    Keeps sound d renewCertificateLocked := by
  refine load_bind (.refl hv) ?_
  refine check_bind (.refl hv) fun _ _ => ?_
  refine still_mapFail_bind (fun _ _ h => h.2) (.refl hv) fun keys => ?_
  refine check_bind (.refl hv) fun client _ => ?_
  refine still_attempt_bind (fun _ _ h => h) (.refl hv) fun x => ?_
  cases x with
  | error e => exact recoverRenewal_good hd hv keys client e
  | ok renewal =>
    refine .mapFail_check_bind (.refl hv) (fun _ hverify => ?_) fun _ _ => .error
    have hactivate : Keeps sound d (activateRenewal d.state keys renewal) :=
      activateRenewal_good hd hv ⟨rfl, rfl⟩ keys renewal hverify
    refine .attempt_bind ((currentBundle_spec d.state).mono (J := d.Good) ?_
      fun _ _ hd _ => hd) ?_
    · rintro _ rfl
      exact .refl hv
    rintro x d' - rfl
    cases x with
    | error e => exact hactivate
    | ok current =>
      dsimp only
      split
      · exact .pure (.refl hv) (.ok trivial)
      · exact hactivate

theorem syncBootstrap_good {state : State} (hd : d.InStep) (hv : d.Validated) (hs : state.Alike d.state)
    (context client : String) : Keeps sound d (syncBootstrap context client state) := by
  refine still_mapFail_bind (fun _ _ h => h) (.refl hv) fun bootstrap => ?_
  refine still_bind (fun _ _ h => h.2) (.refl hv) fun keys => ?_
  refine still_bind (fun _ _ h => h.2) (.refl hv) fun now => ?_
  refine (applyBootstrap_good hd hv (hs.of_eq rfl rfl : (state.contacted now).Alike d.state) keys
    bootstrap).bind_value ?_
  rintro ⟨_, result⟩ d' hgood -
  exact .pure hgood (.ok trivial)

theorem recordConfigSuccess_good (hv : d.Validated) (a : Agent) :
    Keeps sound d (a.recordConfigSuccess d.state) := by
  refine (recordConfigSuccess_spec a d.state).mono ?_ fun _ _ _ _ => fun _ _ => trivial
  rintro d' (rfl | ⟨now, rfl⟩)
  · exact .refl hv
  · exact .withState hv rfl

theorem syncConfig_good (hd : d.InStep) (hv : d.Validated) (current : Bundle) {desired : AgentConfig}
    (hverify : verifySignedConfig d.state desired = .ok ()) :
    Keeps sound d (syncConfig d.state current desired) := by
  refine (syncConfig_spec d.state current desired).mono (fun d' h => ?_) fun _ _ _ _ => fun _ _ => trivial
  refine .of_activates hd hv rfl rfl hverify rfl ?_ h
  rintro _ ⟨now, rfl⟩
  rfl

theorem sync_good (hv : d.Validated)
    (hd : d.InStep ∨ (sound = true ∧ ∀ b, d.live = some b → validatePinned d.state b = .ok ()))
    (a : Agent) : Keeps sound d a.sync := by
  refine ready_bind (.refl hv) ?_
  refine (loadReconciledState_good hv hd).bind_value ?_
  rintro ⟨state, current⟩ d₁ hgood ⟨rfl, -, hin⟩
  refine hgood.after ?_
  have hv := hgood.validated
  refine check_bind (.refl hv) fun client _ => ?_
  refine still_bind (fun _ _ h => h) (.refl hv) fun response => ?_
  cases response with
  | notModified =>
    refine (recordConfigSuccess_good hv a).bind_value fun _ d' hgood _ => .pure hgood (.ok trivial)
  | config desired =>
    refine check_bind (.refl hv) fun _ hverify => ?_
    split
    · exact syncBootstrap_good hin hv ⟨rfl, rfl⟩ _ _
    split
    · exact renewCertificateLocked_good hin hv
    split
    · exact syncBootstrap_good hin hv ⟨rfl, rfl⟩ _ _
    split
    · refine check_bind (.refl hv) fun _ _ => ?_
      exact (recordConfigSuccess_good hv a).bind_value fun _ d' hgood _ => .pure hgood (.ok trivial)
    · exact syncConfig_good hin hv current hverify

/-- Only what the order of bundles does not depend on was saved. -/
def Disk.Notes (d d' : Disk) : Prop := ∃ s : State, s.Alike d.state ∧ d' = d.withState s

theorem Disk.Notes.refl (d : Disk) : d.Notes d := ⟨d.state, ⟨rfl, rfl⟩, rfl⟩

theorem Disk.Notes.good (h : d.Notes d') (hv : d.Validated) : d.Good d' := by
  obtain ⟨s, hs, rfl⟩ := h
  exact .withState hv hs.pins

theorem Disk.Notes.inStep (h : d.Notes d') (hd : d.InStep) : d'.InStep := by
  obtain ⟨s, hs, rfl⟩ := h
  intro b hb
  exact hs.applied.trans (hd b hb)

/-- The state of the disk up to what the order of bundles does not depend on. -/
def Noted (d : Disk) (s : State) (d' : Disk) : Prop := s.Alike d.state ∧ d.Notes d'

theorem save_noted {context : String} {d₁ : Disk} {f : Unit → Host β} (h : d.Notes d₁) (hs : s.Alike d.state)
    (hf : d.Notes (d.withState s) → Upholds (Disk.does sound) d.Notes (f ()) (d.withState s) (OnValue K)) :
    Upholds (Disk.does sound) d.Notes (wrapping context (save s) >>= f) d₁ (OnValue K) := by
  have hnew : d.Notes (d.withState s) := ⟨s, hs, rfl⟩
  obtain ⟨s₁, hs₁, rfl⟩ := h
  exact save_bind (d := d.withState s₁) ⟨s₁, hs₁, rfl⟩ hnew (fun _ => hf hnew) fun _ _ _ => .error

theorem journalRotation_notes : Upholds (Disk.does sound) d.Notes (journalRotation d.state) d
    (OnValue (Noted d)) := by
  unfold journalRotation
  split
  · refine still_bind (fun _ _ h => h.2) (.refl d) fun bearer => ?_
    have hs : (d.state.pendingTo bearer).Alike d.state := ⟨rfl, rfl⟩
    exact save_noted (.refl d) hs fun hnew => .pure hnew (.ok ⟨hs, hnew⟩)
  · exact .pure (.refl d) (.ok ⟨⟨rfl, rfl⟩, .refl d⟩)

theorem rotateCredential_good (hv : d.Validated) (a : Agent) : Keeps sound d a.rotateCredential := by
  refine Upholds.mono (I := d.Notes) ?_ (fun d' h => h.good hv) fun _ _ _ h => h
  refine ready_bind (.refl d) ?_
  refine load_bind (.refl d) ?_
  refine check_bind (.refl d) fun _ _ => ?_
  refine journalRotation_notes.bind_value ?_
  rintro state d₁ - ⟨hs, hd₁⟩
  have hrequest : Upholds (Disk.does sound) (· = d₁) (requestRotation state) d₁
      (OnValue fun _ d' => d' = d₁) := by
    refine check_bind rfl fun client _ => ?_
    refine still_attempt_bind (fun _ _ h => h) rfl fun x => ?_
    cases x with
    | ok rotation => exact .pure rfl (.ok rfl)
    | error e =>
      dsimp only
      split
      · refine check_bind rfl fun client _ => ?_
        exact .ask rfl fun x d' hd => ⟨hd, fun _ _ => hd⟩
      · exact .fail rfl .error
  refine (hrequest.mono (fun d' h => h ▸ hd₁) fun _ _ _ h => h).bind_value ?_
  rintro rotation _ - rfl
  refine still_bind (fun _ _ h => h.2) hd₁ fun now => ?_
  refine check_bind hd₁ fun _ _ => ?_
  exact save_noted hd₁ (hs.of_eq rfl rfl) fun hnew => .pure hnew (.ok trivial)

theorem generateDistinctRecoveryBearer_still (active pending : String) (attempts : Nat) :
    Upholds (Disk.does sound) (· = d) (generateDistinctRecoveryBearer active pending attempts) d
      (OnValue fun _ d' => d' = d) := by
  induction attempts with
  | zero => exact .fail rfl .error
  | succ attempts ih =>
    refine still_bind (fun _ _ h => h.2) rfl fun bearer => ?_
    split
    · exact .pure rfl (.ok rfl)
    · exact ih

theorem chooseRecovery_notes (keys : KeyPair) (token : String) :
    Upholds (Disk.does sound) d.Notes (chooseRecovery d.state keys token) d (OnValue (Noted d)) := by
  unfold chooseRecovery
  split
  · split
    · refine check_bind (.refl d) fun _ _ => ?_
      refine check_bind (.refl d) fun client _ => ?_
      refine still_attempt_bind (fun _ _ h => h) (.refl d) fun x => ?_
      cases x with
      | ok bootstrap =>
        refine .mapFail_check_bind (.refl d) (fun _ _ => ?_) fun _ _ => .error
        exact .fail (.refl d) .error
      | error e =>
        dsimp only
        split
        · refine ((generateDistinctRecoveryBearer_still _ _ _).mono (fun d' h => h ▸ .refl d)
            fun _ _ _ h => h).bind_value ?_
          rintro bearer d' - rfl
          have hs : (d'.state.recovering token bearer true).Alike d'.state := ⟨rfl, rfl⟩
          exact save_noted (.refl _) hs fun hnew => .pure hnew (.ok ⟨hs, hnew⟩)
        · exact .fail (.refl d) .error
    · exact .pure (.refl d) (.ok ⟨⟨rfl, rfl⟩, .refl d⟩)
  · refine check_bind (.refl d) fun _ _ => ?_
    have hs : (d.state.recovering token "" false).Alike d.state := ⟨rfl, rfl⟩
    exact .pure (.refl d) (.ok ⟨hs, .refl d⟩)

theorem journalRecovery_notes (keys : KeyPair) (token : String) :
    Upholds (Disk.does sound) d.Notes (journalRecovery d.state keys token) d (OnValue (Noted d)) := by
  refine (chooseRecovery_notes keys _).bind_value ?_
  rintro state d₁ - ⟨hs, hd₁⟩
  refine check_bind hd₁ fun _ _ => ?_
  have hdraw : Upholds (Disk.does sound) d.Notes (drawPendingBearer state) d₁
      (OnValue fun s d' => s.Alike d.state ∧ d' = d₁) := by
    unfold drawPendingBearer
    split
    · refine still_bind (fun _ _ h => h.2) hd₁ fun bearer => ?_
      exact .pure hd₁ (.ok ⟨hs.of_eq rfl rfl, rfl⟩)
    · exact .pure hd₁ (.ok ⟨hs, rfl⟩)
  refine hdraw.bind_value ?_
  rintro state _ - ⟨hs, rfl⟩
  refine check_bind hd₁ fun _ _ => ?_
  exact save_noted hd₁ hs fun hnew => .pure hnew (.ok ⟨hs, hnew⟩)

theorem proveRecoveredBearer_still (state : State) (keys : KeyPair) (recovered : AgentRecoveryBundle) :
    Upholds (Disk.does sound) (· = d) (proveRecoveredBearer state keys recovered) d
      (OnValue fun _ d' => d' = d) := by
  refine check_bind rfl fun client _ => ?_
  refine still_mapFail_bind (fun _ _ h => h) rfl fun confirmed => ?_
  refine .mapFail_check_bind rfl ?_ fun _ _ => .error
  rintro ⟨desired, b⟩ -
  refine check_bind rfl fun _ _ => ?_
  refine still_bind (fun _ _ h => h.2) rfl fun now => ?_
  have htools : Upholds (Disk.does sound) (· = d) (checkRecoveredCertificate b now) d
      (OnValue fun _ d' => d' = d) := by
    unfold checkRecoveredCertificate
    split
    · refine Upholds.mapFail_value ?_
      refine check_bind rfl fun _ _ => ?_
      refine still_bind (fun _ _ h => h.2.2) rfl fun details => ?_
      exact .check rfl fun _ _ => rfl
    · exact .pure rfl (.ok rfl)
  refine htools.bind_value ?_
  rintro _ _ - rfl
  exact .pure rfl (.ok rfl)

theorem renewRecoveredCertificate_good {state : State} (hd : d.InStep) (hv : d.Validated)
    (hs : state.Alike d.state) (keys : KeyPair) (minimumGeneration : Int) :
    Keeps sound d (renewRecoveredCertificate state keys minimumGeneration) := by
  refine check_bind (.refl hv) fun client _ => ?_
  refine still_mapFail_bind (fun _ _ h => h) (.refl hv) fun renewal => ?_
  refine .mapFail_check_bind (.refl hv) (fun _ hverify => ?_) fun _ _ => .error
  refine still_bind (fun _ _ h => h.2) (.refl hv) fun now => ?_
  refine check_bind (.refl hv) fun _ _ => ?_
  refine Upholds.mono (I := d.Activates (state.pinnedTo (desiredOfRenewal renewal))
      (bundleOfRenewal state keys renewal) fun s => s.pins = state.pins) ?_
    (fun d' h => .of_activates hd hv hs.applied hs.pins hverify rfl (fun _ h => h) h) fun _ _ _ h => h
  refine ((apply_spec _ _).mapFail fun e he => he.wrap _).bind (fun activation hvalid _ => ?_)
    fun _ _ _ => .error
  refine still_bind (fun _ _ h => h.2) (.inr ⟨hvalid, .inl rfl⟩) fun now => ?_
  have hpins : ((state.activated (desiredOfRenewal renewal) activation.certificateExpiresAt).contacted
    now).pins = state.pins := rfl
  exact (save_activated hvalid hpins).mono (fun _ h => h) fun _ _ _ _ => fun _ _ => trivial

theorem recoverCredential_good (hd : d.InStep) (hv : d.Validated) (a : Agent) (token : String) :
    Keeps sound d (a.recoverCredential token) := by
  refine ready_bind (.refl hv) ?_
  refine load_bind (.refl hv) ?_
  refine still_mapFail_bind (fun _ _ h => h.2) (.refl hv) fun keys => ?_
  refine check_bind (.refl hv) fun _ _ => ?_
  refine ((journalRecovery_notes keys token).mono (fun d' h => h.good hv) fun _ _ _ h => h).bind_value ?_
  rintro state d₁ hgood ⟨hs, hd₁⟩
  refine check_bind hgood fun _ _ => ?_
  refine still_bind (fun _ _ h => h) hgood fun recovered => ?_
  refine still_bind (fun _ _ h => h.2) hgood fun now => ?_
  refine check_bind hgood fun _ _ => ?_
  refine ((proveRecoveredBearer_still _ _ _).mono (fun d' h => h ▸ hgood) fun _ _ _ h => h).bind_value ?_
  rintro confirmed _ - rfl
  refine still_bind (fun _ _ h => h.2) hgood fun now => ?_
  -- the credential is saved, and the bundle that came with it activated
  obtain ⟨s₁, -, rfl⟩ := hd₁
  have hs₂ : (state.recovered recovered.recoveryReceipt now).Alike d.state := hs.of_eq rfl rfl
  have hd₂ : d.Notes (d.withState (state.recovered recovered.recoveryReceipt now)) := ⟨_, hs₂, rfl⟩
  refine save_bind hgood (hd₂.good hv) (fun _ => ?_) fun _ _ _ => .error
  refine (hd₂.good hv).after ?_
  have hv₂ := (hd₂.good hv).validated
  refine still_bind (fun _ _ h => h.2) (.refl hv₂) fun later => ?_
  split
  · refine (applyBootstrap_good (hd₂.inStep hd) hv₂ ⟨rfl, rfl⟩ keys confirmed).bind_value ?_
    rintro ⟨_, result⟩ d' hgood -
    exact .pure hgood (.ok trivial)
  · exact renewRecoveredCertificate_good (hd₂.inStep hd) hv₂ ⟨rfl, rfl⟩ keys _

theorem heartbeat_good (hv : d.Validated)
    (hd : d.InStep ∨ (sound = true ∧ ∀ b, d.live = some b → validatePinned d.state b = .ok ()))
    (a : Agent) (health : Health) : Keeps sound d (a.heartbeat health) := by
  refine ready_bind (.refl hv) ?_
  refine check_bind (.refl hv) fun _ _ => ?_
  refine (loadReconciledState_good hv hd).bind_value ?_
  rintro ⟨state, current⟩ d₁ hgood ⟨rfl, -, hin⟩
  refine hgood.after ?_
  have hv := hgood.validated
  refine check_bind (.refl hv) fun _ _ => ?_
  refine still_bind (fun _ _ h => h.2) (.refl hv) fun bootID => ?_
  refine Upholds.mono (I := d₁.Notes) ?_ (fun d' h => h.good hv) fun _ _ _ h => h
  have hs : (d₁.state.beating bootID).Alike d₁.state := ⟨rfl, rfl⟩
  refine save_noted (.refl d₁) hs fun hnew => ?_
  refine check_bind hnew fun client _ => ?_
  exact still_bind (fun _ _ h => h) hnew fun _ => .pure hnew (.ok trivial)

theorem reportConfigApplyFailure_good (hv : d.Validated) (a : Agent) (input : ConfigApplyFailureInput) :
    Keeps sound d (a.reportConfigApplyFailure input) := by
  refine ready_bind (.refl hv) ?_
  refine load_bind (.refl hv) ?_
  refine check_bind (.refl hv) fun client _ => ?_
  refine .ask (.refl hv) fun x d' hd => ?_
  obtain rfl : d = d' := hd.symm
  exact ⟨.refl hv, fun _ _ => trivial⟩

end Operations

/-! ## Runs -/

inductive Operation where
  | sync
  | renewCertificate
  | rotateCredential
  | recoverCredential (token : String)
  | heartbeat (health : Health)
  | reportConfigApplyFailure (input : ConfigApplyFailureInput)

/-- The operation with what it returns left out. -/
def Operation.run (a : Agent) : Operation → Host Unit
  | sync => do let _ ← a.sync
  | renewCertificate => do let _ ← a.renewCertificate
  | rotateCredential => do let _ ← a.rotateCredential
  | recoverCredential token => do let _ ← a.recoverCredential token
  | heartbeat health => do let _ ← a.heartbeat health
  | reportConfigApplyFailure input => a.reportConfigApplyFailure input

/-- An operation, and whether the files of the live bundle are sound while it runs. -/
structure Turn where
  operation : Operation
  sound : Bool

/-- One operation, to its end or to a crash; the server answers what it likes. -/
def Step (a : Agent) (d : Disk) (turn : Turn) (d' : Disk) : Prop :=
  ∃ ending, Exec (Disk.does turn.sound) (turn.operation.run a) d ending d'

/-- The agent after its enrollment. -/
def Disk.Enrolled (d : Disk) : Prop := d.InStep ∧ d.Validated

/-- The operation begins with the saved state up to the live bundle, or it takes the live bundle up before
anything else, or it does not touch bundles. -/
def Turn.CatchesUp (d : Disk) (turn : Turn) : Prop :=
  match turn.operation with
  | .sync | .heartbeat _ => d.InStep ∨
      (turn.sound = true ∧ ∀ b, d.live = some b → b.caCertificateSHA256 = d.state.caCertificateSHA256)
  | .renewCertificate | .recoverCredential _ => d.InStep
  | .rotateCredential | .reportConfigApplyFailure _ => True

theorem Disk.Validated.pinned {d : Disk} (h : d.Validated)
    (hca : ∀ b, d.live = some b → b.caCertificateSHA256 = d.state.caCertificateSHA256) (b : Bundle)
    (hb : d.live = some b) : validatePinned d.state b = .ok () := by
  have := h b hb
  rwa [hca b hb] at this

theorem Keeps.unit {sound : Bool} {d : Disk} {β : Type} {p : Host β} (h : Keeps sound d p) :
    Keeps sound d (p >>= fun _ => pure ()) := h.bind_value fun _ _ hgood _ => .pure hgood (.ok trivial)

theorem run_good {d : Disk} {turn : Turn} (hv : d.Validated) (h : turn.CatchesUp d) (a : Agent) :
    Keeps turn.sound d (turn.operation.run a) := by
  obtain ⟨operation, sound⟩ := turn
  cases operation with
  | sync => exact (sync_good hv (h.imp id fun h => ⟨h.1, hv.pinned h.2⟩) a).unit
  | renewCertificate =>
    have hrenew : Keeps sound d a.renewCertificate :=
      ready_bind (.refl hv) (renewCertificateLocked_good h hv)
    exact hrenew.unit
  | rotateCredential => exact (rotateCredential_good hv a).unit
  | recoverCredential token => exact (recoverCredential_good h hv a token).unit
  | heartbeat health => exact (heartbeat_good hv (h.imp id fun h => ⟨h.1, hv.pinned h.2⟩) a health).unit
  | reportConfigApplyFailure input => exact reportConfigApplyFailure_good hv a input

theorem Step.good {d : Disk} {turn : Turn} (hv : d.Validated) (h : Step a d turn d') (hturn : turn.CatchesUp d) :
    d.Good d' := by
  obtain ⟨ending, hexec⟩ := h
  exact (run_good hv hturn a _ _ hexec).1

/-- The steps that catch up. -/
abbrev CaughtUp (a : Agent) : Disk → Turn → Disk → Prop := Runs.Restrict (Step a) Turn.CatchesUp

theorem validated_of_reachable {d : Disk} (h : Runs.Reachable Disk.Enrolled (CaughtUp a) d) : d.Validated :=
  h.invariant (fun _ h => h.2) fun _ _ _ _ hv hs => (hs.1.good hv hs.2).validated

/-- The live bundle never goes back, and one revision has one digest, as long as every operation that can
make a bundle live begins with the saved state caught up or catches up itself. -/
theorem live_bundle_never_rolled_back {a : Agent} {d d' : Disk}
    (hd : Runs.Reachable Disk.Enrolled (CaughtUp a) d) (h : Runs.Later (CaughtUp a) d d') :
    d.Advances d' := by
  have hgood : d.Good d' := Runs.Later.invariant (fun _ _ _ h => h) hd (.refl (validated_of_reachable hd))
    (fun _ _ _ _ hgood hs => hgood.trans (hs.1.good hgood.validated hs.2)) h
  exact hgood.advances

/-! ## A crash between activation and save -/

open Sample

/-- Everything the first sync needs up to the save of the third revision. -/
def crashReplies : List Reply :=
  [.done, .done, .done, .done, .config (.config thirdArtifact), .done, .done, .done, .done, .done, .done,
    .done, .time (Mesh.Setting.minutes 4)]

def laggingDisk : Disk := { enrolledDisk with live := some (bundle thirdArtifact) }

/-- It is data: long evaluations are so never made side by side. -/
def syncCrashes : PLift (Step agent enrolledDisk ⟨.sync, true⟩ laggingDisk) where
  down := by
    have hrun : Operation.sync.run agent = (do let _ ← syncEval.1 agent) := by
      rw [← syncEval.2]
      rfl
    refine ⟨.crashed, ?_⟩
    rw [hrun]
    exact Disk.exec_of_play crashReplies (by decide +kernel)

theorem enrolledDisk_enrolled : enrolledDisk.Enrolled := by
  refine ⟨?_, ?_⟩
  · rintro _ ⟨⟩
    rfl
  · rintro _ ⟨⟩
    have h : validatePinned enrolledState (bundle firstArtifact) = .ok () := by
      rw [validatePinnedEval.2]
      decide +kernel
    exact h

/-- The saved state is behind; the next sync takes the live bundle up and finds nothing new. -/
def caughtUpDisk : Disk :=
  laggingDisk.withState ((enrolledState.reconciled (bundle thirdArtifact)).contacted (Mesh.Setting.minutes 5))

def syncCatchesUp : PLift (Step agent laggingDisk ⟨.sync, true⟩ caughtUpDisk) where
  down := by
    have hrun : Operation.sync.run agent = (do let _ ← syncEval.1 agent) := by
      rw [← syncEval.2]
      rfl
    refine ⟨.ended (.ok ()), ?_⟩
    rw [hrun]
    exact Disk.exec_of_play [.done, .done, .done, .done, .done, .config .notModified,
      .time (Mesh.Setting.minutes 5), .done] (by decide +kernel)

/-- A sync crashes with the third revision live and the first one saved, and the next one catches up. -/
theorem live_bundle_never_rolled_back_crash :
    Runs.Reachable Disk.Enrolled (CaughtUp agent) laggingDisk ∧
      Runs.Later (CaughtUp agent) laggingDisk caughtUpDisk ∧ ¬ laggingDisk.InStep ∧
      laggingDisk.Advances caughtUpDisk := by
  have hcrash : Runs.Reachable Disk.Enrolled (CaughtUp agent) laggingDisk :=
    .next (.start enrolledDisk_enrolled) ⟨syncCrashes.down, .inl enrolledDisk_enrolled.1⟩
  have hcatch : Runs.Later (CaughtUp agent) laggingDisk caughtUpDisk := by
    refine .next (.start rfl) ⟨syncCatchesUp.down, .inr ⟨rfl, ?_⟩⟩
    rintro _ ⟨⟩
    rfl
  refine ⟨hcrash, hcatch, fun h => ?_, live_bundle_never_rolled_back hcrash hcatch⟩
  exact absurd (h _ rfl) (by decide)

/-- What the renewal of the second revision returns. -/
def renewalOfSecond : RenewalBundle where
  nodeID := "n2"
  networkID := "w1"
  ca := "ca"
  certificate := "cert"
  certificateExpiresAt := secondArtifact.certificateExpiresAt
  certificateRenewAfter := secondArtifact.certificateRenewAfter
  config := secondArtifact.config
  configRevision := secondArtifact.revision
  configIssuedAt := secondArtifact.issuedAt
  configSHA256 := secondArtifact.sha256
  caCertificateSHA256 := secondArtifact.caCertificateSHA256
  certificateFingerprint := secondArtifact.certificateFingerprint
  certificateGeneration := secondArtifact.certificateGeneration
  publicKeyHash := secondArtifact.publicKeyHash
  configSignature := secondArtifact.signature

def rolledBackDisk : Disk :=
  ⟨enrolledState.activated secondArtifact secondArtifact.certificateExpiresAt, keys, some (bundle secondArtifact)⟩

def renewalRollsBack : PLift (Step agent laggingDisk ⟨.renewCertificate, true⟩ rolledBackDisk) where
  down := by
    have hrun : Operation.renewCertificate.run agent = (do let _ ← renewCertificateEval.1 agent) := by
      rw [← renewCertificateEval.2]
      rfl
    refine ⟨.ended (.ok ()), ?_⟩
    rw [hrun]
    exact Disk.exec_of_play [.done, .done, .done, .renewal renewalOfSecond, .done, .done, .done, .done, .done,
      .done, .done, .done, .done, .done] (by decide +kernel)

/-- After the crash a renewal, which does not look at the live bundle first, takes revision 3 back to 2. -/
theorem live_bundle_rolled_back :
    ∃ d d' turn b b', Runs.Reachable Disk.Enrolled (Step agent) d ∧ Step agent d turn d' ∧
      d.live = some b ∧ d'.live = some b' ∧ b'.revision < b.revision :=
  ⟨laggingDisk, rolledBackDisk, _, _, _, .next (.start enrolledDisk_enrolled) syncCrashes.down,
    renewalRollsBack.down, rfl, rfl, by decide⟩

end NodeAgent
end Mesh
