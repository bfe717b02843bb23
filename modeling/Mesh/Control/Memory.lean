import Mesh.Control.Play
import Mesh.Control.Steps

/-!
# Mesh.Control.Memory

The state as the process holds it. A Go slice without elements is nil or an empty array; the stored
document does not say which (it is the same list), but `reflect.DeepEqual` does. `cloneState` copies some
slices onto nil, so in a copy they are nil when they are empty, and deletions leave the array behind. The
slices it copies with their kind (rules, relays, routes, gateways) compare like any other field.

Both adapters compare the result of a callback with what was there before, to write nothing when nothing
changed: the file store with the state it holds, PostgreSQL with a second copy. `noOp_skipped_iff` says when
the two agree.
-/

namespace Mesh

deriving instance DecidableEq for Network, Node, EnrollmentBundle, RecoveryReceipt, AgentRecoveryBundle,
  AgentRecoveryToken, State

/-! ## Slices -/

/-- The slices that `cloneState` copies onto nil; those of a node and of the result of a recovery are told
by the index of the record. -/
inductive Slice where
  | networks
  | nodes
  | enrollments
  | agentRecoveries
  | issuances
  | revocations
  | audit
  | groups (node : Nat)
  | routedSubnets (node : Nat)
  | resultGroups (recovery : Nat)
  | resultRoutedSubnets (recovery : Nat)
deriving DecidableEq

namespace State

/-- The node in the result of a recovery. -/
def resultNode (s : State) (i : Nat) : Option Node :=
  (s.agentRecoveries[i]?.bind AgentRecoveryToken.result).map fun r => r.node

/-- Whether the slice has an element. -/
def filled (s : State) : Slice → Bool
  | .networks => !s.networks.isEmpty
  | .nodes => !s.nodes.isEmpty
  | .enrollments => !s.enrollments.isEmpty
  | .agentRecoveries => !s.agentRecoveries.isEmpty
  | .issuances => !s.issuances.isEmpty
  | .revocations => !s.revocations.isEmpty
  | .audit => !s.audit.isEmpty
  | .groups i => s.nodes[i]?.any fun n => !n.groups.isEmpty
  | .routedSubnets i => s.nodes[i]?.any fun n => !n.routedSubnets.isEmpty
  | .resultGroups i => (s.resultNode i).any fun n => !n.groups.isEmpty
  | .resultRoutedSubnets i => (s.resultNode i).any fun n => !n.routedSubnets.isEmpty

def slices (s : State) : List Slice :=
  [.networks, .nodes, .enrollments, .agentRecoveries, .issuances, .revocations, .audit] ++
    (List.range s.nodes.length).flatMap (fun i => [.groups i, .routedSubnets i]) ++
    (List.range s.agentRecoveries.length).flatMap fun i => [.resultGroups i, .resultRoutedSubnets i]

end State

/-- A state in memory: which of its slices have an array. One that has elements has one. -/
structure Memory where
  contents : State
  allocated : Slice → Bool
  filled_allocated : ∀ x, contents.filled x = true → allocated x = true

namespace Memory

/-- Every slice is copied onto nil. -/
def cloneState (m : Memory) : Memory where
  contents := m.contents
  allocated := m.contents.filled
  filled_allocated _ h := h

@[simp] theorem cloneState_allocated (m : Memory) (x : Slice) :
    m.cloneState.allocated x = m.contents.filled x := rfl

/-- `reflect.DeepEqual`: the same values, and nil where the other has nil. -/
def deepEqual (a b : Memory) : Bool :=
  decide (a.contents = b.contents) && a.contents.slices.all fun x => a.allocated x == b.allocated x

theorem deepEqual_iff {a b : Memory} :
    a.deepEqual b = true ↔ a.contents = b.contents ∧ ∀ x ∈ a.contents.slices, a.allocated x = b.allocated x := by
  simp [deepEqual]

/-- Every empty slice is nil. -/
def Tight (m : Memory) : Prop := ∀ x ∈ m.contents.slices, m.contents.filled x = false → m.allocated x = false

theorem allocated_of_tight {m : Memory} (h : m.Tight) {x : Slice} (hx : x ∈ m.contents.slices) :
    m.allocated x = m.contents.filled x := by
  cases hfilled : m.contents.filled x with
  | true => exact m.filled_allocated x hfilled
  | false => exact h x hx hfilled

theorem tight_cloneState (m : Memory) : m.cloneState.Tight := fun _ _ h => h

end Memory

/-! ## The two adapters -/

/-- A callback of the service works on the copy it is given. -/
abbrev Callback := Memory → Result Memory

/-- What is to be written after the callback ran on a copy: nothing if its result equals the baseline. -/
def changed (refusal : String) (fn : Callback) (m baseline : Memory) : Result (Option Memory) := do
  let next ← fn m.cloneState
  mapError (Failure.wrap refusal) (validateStateGraph next.contents)
  if next.deepEqual baseline then pure none else pure (some next)

/-- The update of an open file store compares with the state it holds. -/
def Store.update (fn : Callback) (held : Memory) : Result (Option Memory) :=
  changed "refuse invalid state mutation" fn held held

/-- The update of the document in the database compares with a second copy of what was read. -/
def PostgresStateStore.update (fn : Callback) (current : Memory) : Result (Option Memory) :=
  changed "refuse invalid postgres control state mutation" fn current current.cloneState

section Update

variable {refusal : String} {fn : Callback} {m next baseline : Memory}

theorem changed_of_returned (hfn : fn m.cloneState = .ok next) (hv : ValidGraph next.contents) :
    changed refusal fn m baseline = .ok (if next.deepEqual baseline then none else some next) := by
  rw [changed, bind_eq_ok]
  refine ⟨next, hfn, ?_⟩
  rw [bind_unit_eq_ok, mapError_eq_ok, validateStateGraph_eq_ok]
  refine ⟨hv, ?_⟩
  split <;> rfl

theorem changed_eq_none (hfn : fn m.cloneState = .ok next) (hv : ValidGraph next.contents) :
    changed refusal fn m baseline = .ok none ↔ next.deepEqual baseline = true := by
  rw [changed_of_returned hfn hv]
  simp

/-- A copy that came back with the same values equals the state it was made of when both are nil at the same
empty slices. -/
theorem Memory.deepEqual_of_same (hsame : next.contents = m.contents) :
    next.deepEqual m = true ↔ ∀ x ∈ m.contents.slices, next.allocated x = m.allocated x := by
  rw [Memory.deepEqual_iff, hsame]
  exact and_iff_right rfl

theorem Memory.deepEqual_cloneState (hsame : next.contents = m.contents) :
    next.deepEqual m.cloneState = true ↔ next.Tight := by
  have hclone : next.contents = m.cloneState.contents := hsame
  rw [Memory.deepEqual_of_same hclone, Memory.Tight, hclone]
  refine forall₂_congr fun x _ => ?_
  rw [Memory.cloneState_allocated]
  constructor
  · intro h hempty
    exact h.trans hempty
  · intro h
    cases hfilled : m.contents.filled x with
    | true => exact next.filled_allocated x (hsame ▸ hfilled)
    | false => exact h hfilled

/-- Both adapters skip the update exactly if no empty slice has an array, neither in the state that is held
nor in the copy as the callback leaves it. -/
theorem skipped_iff_tight (hv : ValidGraph m.contents) (hfn : fn m.cloneState = .ok next)
    (hsame : next.contents = m.contents) :
    (Store.update fn m = .ok none ∧ PostgresStateStore.update fn m = .ok none) ↔ m.Tight ∧ next.Tight := by
  have hv' : ValidGraph next.contents := hsame ▸ hv
  rw [Store.update, PostgresStateStore.update, changed_eq_none hfn hv', changed_eq_none hfn hv',
    Memory.deepEqual_cloneState hsame, Memory.deepEqual_of_same hsame]
  refine ⟨fun ⟨hequal, hnext⟩ => ⟨fun x hx hempty => ?_, hnext⟩, fun ⟨hheld, hnext⟩ => ⟨fun x hx => ?_, hnext⟩⟩
  · rw [← hequal x hx]
    exact hnext x (hsame ▸ hx) (hsame ▸ hempty)
  · rw [Memory.allocated_of_tight hheld hx, Memory.allocated_of_tight hnext (hsame ▸ hx), hsame]

end Update

/-! ## The service on a file store -/

/-- Whether the slice keeps its array when the operation removes its last element. Revocation, rotation and a
change of groups set such a slice to nil. -/
def Op.leavesArray : Op → Slice → Bool
  | .cancelPendingNode _ _, x => x ∈ [.nodes, .enrollments]
  | .archiveNode _ _, x => x ∈ [.nodes, .enrollments, .agentRecoveries, .issuances, .revocations]
  | .retireNetwork _ _, x =>
    x ∈ [.networks, .nodes, .enrollments, .agentRecoveries, .issuances, .revocations]
  | .updateNetworkCARotation _ _, x => x = .agentRecoveries
  | _, _ => false

/-- What a callback leaves of the slices: deleting from a slice that has no array makes none. -/
def leftBy (leaves : Slice → Bool) (m : Memory) (s : State) : Memory where
  contents := s
  allocated x := s.filled x || (m.allocated x && leaves x)
  filled_allocated x h := by simp [h]

def Op.callback (c : Stamp) (o : Op) : Callback := fun m => do
  let s ← o.run c m.contents
  pure (leftBy o.leavesArray m s)

section NoOp

variable {c : Stamp} {o : Op} {m : Memory}

/-- An operation that changes nothing makes no array either. -/
theorem tight_leftBy_cloneState {leaves : Slice → Bool} :
    (leftBy leaves m.cloneState m.contents).Tight := by
  intro x _ hempty
  have hempty : m.contents.filled x = false := hempty
  simp [leftBy, hempty]

theorem Op.callback_of_unchanged (hrun : o.run c m.contents = .ok m.contents) :
    o.callback c m.cloneState = .ok (leftBy o.leavesArray m.cloneState m.contents) := by
  rw [Op.callback, bind_eq_ok]
  exact ⟨_, hrun, rfl⟩

theorem Op.postgres_skips (hv : ValidGraph m.contents) (hrun : o.run c m.contents = .ok m.contents) :
    PostgresStateStore.update (o.callback c) m = .ok none :=
  (changed_eq_none (callback_of_unchanged hrun) hv).mpr
    ((Memory.deepEqual_cloneState rfl).mpr tight_leftBy_cloneState)

/-- The file store writes a request that changed nothing whenever an empty slice has an array. -/
theorem Op.store_writes (hv : ValidGraph m.contents) (hrun : o.run c m.contents = .ok m.contents)
    (hm : ¬ m.Tight) :
    Store.update (o.callback c) m = .ok (some (leftBy o.leavesArray m.cloneState m.contents)) := by
  have hreturned := callback_of_unchanged hrun
  rw [Store.update, changed_of_returned hreturned hv, if_neg]
  intro hequal
  have hskipped := (skipped_iff_tight hv hreturned rfl).mp
    ⟨(changed_eq_none hreturned hv).mpr hequal, postgres_skips hv hrun⟩
  exact hm hskipped.1

end NoOp

namespace Action

def leavesArray : Action → Slice → Bool
  | op _ o, x => o.leavesArray x
  | generate _ _ _ _ _, x => x = .agentRecoveries
  | _, _ => false

/-- Whether the action runs an update of the store; the others read, or do not come to the store. -/
def updates : Action → Bool
  | tick _ | rotateStart _ _ _ _ | groupsStart _ _ _ _ | prepareCA _ _ _ | abandon _ => false
  | _ => true

end Action

/-- The service with the state its store holds. -/
structure Holding where
  world : World
  memory : Memory
  same : memory.contents = world.state

namespace Holding

/-- What the store holds after an action that led to the world. An update that is skipped leaves a state that
equals the result. -/
def acted (h : Holding) (a : Action) (w : World) : Holding where
  world := w
  memory := leftBy a.leavesArray h.memory.cloneState w.state
  same := rfl

/-- The slices that are read back from the file as they were written: `networks` and `nodes` are built anew
on both ways, and the others are left out when they are empty. -/
def writtenAsIs (x : Slice) : Bool := x ∈ [.enrollments, .audit]

inductive Step (env : Env) : Holding → Unit → Holding → Prop where
  | update {h : Holding} {a : Action} {w : World} (hstep : World.Step env h.world a w)
      (hup : a.updates = true) : Step env h () (h.acted a w)
  | read {h : Holding} {a : Action} {w : World} (hstep : World.Step env h.world a w)
      (hup : a.updates = false) (hsame : h.memory.contents = w.state) : Step env h () ⟨w, h.memory, hsame⟩
  /-- The process ends and another one opens the store. -/
  | reopen {h : Holding} (hidle : h.world.flights = []) :
      Step env h () ⟨h.world, leftBy writtenAsIs h.memory h.world.state, rfl⟩

/-- A store that was just opened. -/
def Initial (h : Holding) : Prop := h.world.Initial ∧ h.memory.Tight

abbrev Reachable (env : Env) : Holding → Prop := Runs.Reachable Initial (Step env)

variable {env : Env}

theorem world_reachable {h : Holding} (hr : Reachable env h) : World.Reachable env h.world := by
  induction hr with
  | start h0 => exact .start h0.1
  | next _ hs ih =>
    cases hs with
    | update hstep _ => exact .next ih hstep
    | read hstep _ _ => exact .next ih hstep
    | reopen _ => exact ih

/-- An action that runs no update leaves the stored state. -/
theorem state_of_not_updates {w w' : World} {a : Action} (hstep : World.Step env w a w')
    (hup : a.updates = false) : w'.state = w.state := by
  obtain ⟨-, hstep⟩ := hstep
  simp only [World.step, bind_eq_ok, pure_eq_ok] at hstep
  obtain ⟨w₁, hmove, rfl⟩ := hstep
  cases a with
  | tick now =>
    simp only [World.move, pure_eq_ok] at hmove
    rw [← hmove]
  | rotateStart actor nodeID input now =>
    simp only [World.move, bind_eq_ok] at hmove
    obtain ⟨r, -, hmove⟩ := hmove
    cases r <;> simp only [pure_eq_ok] at hmove <;> rw [← hmove]
  | groupsStart actor nodeID input now =>
    simp only [World.move, bind_eq_ok] at hmove
    obtain ⟨r, -, hmove⟩ := hmove
    cases r <;> simp only [pure_eq_ok] at hmove <;> rw [← hmove]
  | prepareCA actor networkID expected =>
    simp only [World.move, bind_eq_ok, pure_eq_ok] at hmove
    obtain ⟨_, -, rfl⟩ := hmove
    rfl
  | abandon i =>
    simp only [World.move, pure_eq_ok] at hmove
    rw [← hmove]
  | _ => cases hup

/-- Every world of the service is held by a file store. -/
theorem exists_holding {w : World} (hr : World.Reachable env w) : ∃ h, Reachable env h ∧ h.world = w := by
  induction hr with
  | @start w h0 => exact ⟨⟨w, (⟨w.state, w.state.filled, fun _ h => h⟩ : Memory), rfl⟩, .start ⟨h0, fun _ _ h => h⟩, rfl⟩
  | @next w w' a _ hs ih =>
    obtain ⟨h, hh, rfl⟩ := ih
    cases hup : a.updates with
    | true => exact ⟨_, .next hh (.update hs hup), rfl⟩
    | false =>
      exact ⟨_, .next hh (.read hs hup (h.same.trans (state_of_not_updates hs hup).symm)), rfl⟩

end Holding

/-- The state of a store that was just set up. -/
def Setting.holding : Holding where
  world := Setting.start
  memory := ⟨Setting.start.state, Setting.start.state.filled, fun _ h => h⟩
  same := rfl

/-- The administrator asks for the settings the network has. -/
def dnsRetry : Op := .updateNetworkDNS "w1" ⟨1, false, defaultNetworkDNSPort, false, ""⟩

/-- The only node of a network is created and cancelled, and the settings of the network are asked for. -/
def cancelledRun : World.Passed (World.playLast (stepEval.1 Setting.env) Setting.start
    [Setting.network, Setting.node 2 { name := "" }]
    (.op { eventID := "e3", now := Setting.minutes 3 } (.cancelPendingNode "n2" "node2")) fun w w' =>
    w.state.filled .nodes && !w'.state.filled .nodes &&
      (match dnsRetry.run { eventID := "e4", now := Setting.minutes 4 } w'.state with
      | .ok s => decide (s = w'.state)
      | .error _ => false)) where
  holds := by decide +kernel

end Mesh
