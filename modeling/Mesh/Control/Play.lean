import Mesh.Control.Evaluate

/-!
# Mesh.Control.Play

Runs of the system that compute. `World.play` takes a list of actions from a world and checks each
against the promises of the surroundings; what it reaches is reachable (`World.play_reachable`).
`Setting` names the data of such a run: an environment, the texts a network is created with and the
bearers that are drawn.
-/

namespace Mesh
namespace World

variable {env : Env} {w w' : World} {a : Action}

/-- Sufficient for `Admissible`: the fingerprint of a signed certificate is a new one. -/
def admissible (w : World) (a : Action) : Bool :=
  (a.readings.all fun t => decide (0 < t ∧ t ≤ w.clock)) &&
    (a.draws.all fun d => decide (d ≠ "" ∧ d ∉ w.drawn)) &&
    match a with
    | .tick now => decide (w.clock ≤ now)
    | .issue _ c _ _ => w.issued.all fun x => decide (x.certificate.fingerprint ≠ c.fingerprint)
    | _ => true

theorem admissible_sound (h : w.admissible a = true) : Admissible w a := by
  simp only [admissible, Bool.and_eq_true, List.all_eq_true, decide_eq_true_eq] at h
  obtain ⟨⟨hread, hfresh⟩, hrest⟩ := h
  refine ⟨hread, hfresh, ?_, ?_⟩
  · rintro now rfl
    simpa using hrest
  · rintro i c eventID now f rfl - x hx hfp
    simp only [List.all_eq_true, decide_eq_true_eq] at hrest
    exact absurd hfp (hrest x hx)

def notAdmissible : Failure := internal "the surroundings do not allow the action"

/-- The world after the actions, each of which is allowed and succeeds. -/
def play (step : World → Action → Result World) : World → List Action → Result World
  | w, [] => .ok w
  | w, a :: rest => do
    reject (¬ w.admissible a) notAdmissible
    let w' ← step w a
    play step w' rest

theorem play_cons {rest : List Action} (h : play (step env) w (a :: rest) = .ok w') :
    ∃ w₁, Step env w a w₁ ∧ play (step env) w₁ rest = .ok w' := by
  simp only [play, bind_eq_ok, exists_unit, reject_eq_ok, Decidable.not_not] at h
  obtain ⟨hadm, w₁, hstep, hrest⟩ := h
  exact ⟨w₁, ⟨admissible_sound hadm, hstep⟩, hrest⟩

variable {actions : List Action}

theorem play_reachable {init : World → Prop} :
    ∀ {w w' : World}, Runs.Reachable init (Step env) w → play (step env) w actions = .ok w' →
      Runs.Reachable init (Step env) w' := by
  induction actions with
  | nil =>
    rintro w w' hr ⟨⟩
    exact hr
  | cons a rest ih =>
    intro w w' hr h
    obtain ⟨w₁, hstep, hrest⟩ := play_cons h
    exact ih (.next hr hstep) hrest

/-- A run of actions that all meet a condition is a run of the restricted system. -/
theorem play_restricted {init : World → Prop} {C : World → Action → Prop} :
    ∀ {w w' : World}, Runs.Reachable init (Runs.Restrict (Step env) C) w → (∀ w, ∀ a ∈ actions, C w a) →
      play (step env) w actions = .ok w' → Runs.Reachable init (Runs.Restrict (Step env) C) w' := by
  induction actions with
  | nil =>
    rintro w w' hr - ⟨⟩
    exact hr
  | cons a rest ih =>
    intro w w' hr hC h
    obtain ⟨w₁, hstep, hrest⟩ := play_cons h
    exact ih (.next hr ⟨hstep, hC w a List.mem_cons_self⟩)
      (fun w a ha => hC w a (List.mem_cons_of_mem _ ha)) hrest

/-- Whether the actions and then one more succeed, and the check holds around the last one. -/
def playLast (step : World → Action → Result World) (w : World) (actions : List Action) (last : Action)
    (check : World → World → Bool) : Bool :=
  match play step w actions with
  | .ok w₁ => w₁.admissible last && (match step w₁ last with
    | .ok w₂ => check w₁ w₂
    | .error _ => false)
  | .error _ => false

theorem playLast_played {check : World → World → Bool} (h : playLast (stepEval.1 env) w actions a check = true) :
    ∃ w₁ w₂, play (step env) w actions = .ok w₁ ∧ Step env w₁ a w₂ ∧ check w₁ w₂ = true := by
  rw [← stepEval.2] at h
  unfold playLast at h
  split at h
  · rename_i w₁ hplay
    rw [Bool.and_eq_true] at h
    obtain ⟨hadm, h⟩ := h
    split at h
    · rename_i w₂ hstep
      exact ⟨w₁, w₂, hplay, ⟨admissible_sound hadm, hstep⟩, h⟩
    · cases h
  · cases h

theorem playLast_spec {check : World → World → Bool} (hr : Reachable env w)
    (h : playLast (stepEval.1 env) w actions a check = true) :
    ∃ w₁ w₂, Reachable env w₁ ∧ Step env w₁ a w₂ ∧ check w₁ w₂ = true := by
  obtain ⟨w₁, w₂, hplay, hstep, hcheck⟩ := playLast_played h
  exact ⟨w₁, w₂, play_reachable hr hplay, hstep, hcheck⟩

/-- One more action, and then others, with a check on the worlds before it, after it and at the end. -/
def playThen (step : World → Action → Result World) (w : World) (actions : List Action) (a : Action)
    (rest : List Action) (check : World → World → World → Bool) : Bool :=
  playLast step w actions a fun w₁ w₂ =>
    match play step w₂ rest with
    | .ok w₃ => check w₁ w₂ w₃
    | .error _ => false

theorem playThen_spec {rest : List Action} {check : World → World → World → Bool} (hr : Reachable env w)
    (h : playThen (stepEval.1 env) w actions a rest check = true) :
    ∃ w₁ w₂ w₃, Reachable env w₁ ∧ Step env w₁ a w₂ ∧ play (step env) w₂ rest = .ok w₃ ∧
      check w₁ w₂ w₃ = true := by
  obtain ⟨w₁, w₂, hr₁, hstep, hcheck⟩ := playLast_spec hr h
  rw [← stepEval.2] at hcheck
  split at hcheck
  · rename_i w₃ hrest
    exact ⟨w₁, w₂, w₃, hr₁, hstep, hrest, hcheck⟩
  · cases hcheck

/-- A test that was passed. It is data, and data are elaborated one after the other: long runs are so never
evaluated side by side. -/
structure Passed (test : Bool) : Type where
  holds : test = true

theorem later_of_play (h : play (step env) w actions = .ok w') :
    Runs.Later (Step env) w w' := play_reachable (Runs.Later.refl w) h

end World

/-! ## A setting for runs -/

namespace Setting

/-- Instants of the runs, in minutes from a day in 2026. -/
def minutes (n : Int) : Int := 63902995200000000000 + n * 60000000000

/-- Texts of thirty-two bytes: bearers, hashes and verifiers. -/
def bytes32 (n : Nat) : String := Base64.encode (n :: List.replicate 31 0)

/-- Sealed texts are not looked at here: every network signs with the key of one seed. Every text is a
canonical public key. -/
def env : Env where
  openBox := fun _ => some [1]
  openFor := fun _ _ => some (Ed25519.newKeyFromSeed (List.replicate 32 7))
  canonicalNebulaPublicKeyPEM := some
  certificatePublicKeyPEM := some

def start : World where
  state := {
    version := controlStateVersionFirewallScopes
    masterKeyVerifier := adminCredentialVerifierStem ++ bytes32 0
    adminCredentialVerifier := adminCredentialVerifierStem ++ bytes32 0 }
  clock := minutes 1000

theorem start_initial : World.Initial start := by
  refine ⟨rfl, ?_, rfl, rfl, rfl, rfl, rfl, rfl, rfl, rfl, rfl⟩
  rw [← validateStateGraph_eq_ok]
  decide +kernel

theorem start_reachable : World.Reachable env start := .start start_initial

/-- One network and what it is created with. -/
def network : Action :=
  .op { eventID := "e1", now := minutes 1 } (.createNetwork ⟨"net", "10.0.0.0/24", 0, 0⟩ {
    caCertificate := "ca"
    caKey := "key"
    encryptedCAKey := Base64.encode (List.replicate 64 1)
    configSigningPublicKey := "6kpsY-KcUgq-9VB7Ey7F-ZVHdq6-vnuSQh7qaRRG0iw"
    encryptedConfigSigningKey := Base64.encode (List.replicate 92 3) } "w1")

/-- A member is created; all that belongs to it is told by its number. -/
def node (n : Nat) (input : CreateNodeInput) : Action :=
  .op { eventID := "c" ++ toString n, now := minutes n }
    (.createNode "w1" { input with name := "node" ++ toString n } ("n" ++ toString n)
      ("t" ++ toString n) [bytes32 n] (minutes n))

/-- The node of the number asks to be enrolled, at the instant, with a bearer of its own. -/
def claim (n : Nat) (now : Int) : Action :=
  .enrollClaim (bytes32 n) ("key" ++ toString n) (hashToken (bytes32 (100 + n))) ("k" ++ toString n) now

/-- A certificate with the digit in its fingerprint that lives for a year. -/
def certificate (n : Nat) : SignedCertificate where
  certificate := "cert" ++ toString n
  fingerprint := String.ofList (List.replicate 63 'a' ++ [Nat.digitChar n])
  expiresAt := minutes 525600

end Setting

/-- A network with one active member. -/
def memberRun : List Action := [
  Setting.network, Setting.node 2 { name := "" }, Setting.claim 2 (Setting.minutes 3),
  .issue 0 (Setting.certificate 1) "e2" (Setting.minutes 4)]

end Mesh
