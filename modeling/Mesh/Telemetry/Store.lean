import Mesh.Lib.Keyed
import Mesh.Telemetry.Model

/-!
# Mesh.Telemetry.Store

The telemetry store in memory (`runtimetelemetry/store.go`), which keeps the last accepted record of each node. A
report is turned into a candidate record and compared with the record it would replace (`transitionRecord`).

`Follows` is what an accepted candidate has to do with that record. `Trail` collects the records stored for one
node along a sequence of calls, and each of them follows the one before.
-/

namespace Mesh
namespace Telemetry

/-! ## Transitions -/

/-- The arguments of `PutWithConfig`. -/
structure Report where
  nodeID : String
  heartbeatSequence : Int
  receivedAt : Timestamp
  observation : Observation
  activeProbe : ActiveProbeResult
  routeOverlap : RouteOverlapResult := unsupportedRouteOverlap
  endpointDNS : EndpointDNSResult := unsupportedEndpointDNS
  appliedConfigSHA256 : String := ""

def Report.candidate (c : Report) : Record where
  nodeID := c.nodeID
  heartbeatSequence := c.heartbeatSequence
  receivedAt := c.receivedAt
  processContinuity := if c.observation.state = .unknown then .unavailable else .unclassified
  observation := c.observation
  activeProbe := c.activeProbe
  appliedConfigSHA256 := c.appliedConfigSHA256
  probeTransition := initialProbeTransition c.activeProbe
  routeOverlap := c.routeOverlap
  endpointDNS := c.endpointDNS

def newCandidateRecord (c : Report) : Result Record := do
  validateRecord c.candidate
  pure c.candidate

/-- What `reflect.DeepEqual` and `!=` compare when a sequence number comes again. -/
def Record.sameReport (existing candidate : Record) : Prop :=
  existing.observation = candidate.observation ∧ existing.activeProbe = candidate.activeProbe ∧
    existing.appliedConfigSHA256 = candidate.appliedConfigSHA256 ∧
    existing.routeOverlap = candidate.routeOverlap ∧ existing.endpointDNS = candidate.endpointDNS

instance (existing candidate : Record) : Decidable (existing.sameReport candidate) :=
  inferInstanceAs (Decidable (_ ∧ _))

/-- The source dereferences both snapshots; of two validated observations neither is nil. -/
def processContinuityAfter (existing : Option Record) (candidate : Record) : Result ProcessContinuity :=
  if candidate.observation.state = .unknown then pure .unavailable
  else
    match existing.filter fun e => e.observation.state ≠ .unknown with
    | none => pure .unclassified
    | some existing => do
      let previous ← require existing.observation.snapshot errInvalid
      let current ← require candidate.observation.snapshot errInvalid
      if previous.processInstanceID ≠ current.processInstanceID then pure .restarted
      else do
        reject (current.sampleSequence ≤ previous.sampleSequence) errReplay
        reject (candidate.observation.version ≠ existing.observation.version ∨
          current.processUptimeMS < previous.processUptimeMS ∨
          current.handshakes.completedTotal < previous.handshakes.completedTotal ∨
          current.handshakes.timedOutTotal < previous.handshakes.timedOutTotal) errConflict
        pure .continuous

def transitionActiveProbe (existing : Option Record) (candidate : Record) : Result ProbeTransition :=
  match existing.filter fun e => candidate.activeProbe.state = .attempted ∧ e.activeProbe.state = .attempted ∧
      candidate.heartbeatSequence = e.heartbeatSequence + 1 ∧ candidate.appliedConfigSHA256 ≠ "" ∧
      e.appliedConfigSHA256 = candidate.appliedConfigSHA256 with
  | none => pure (initialProbeTransition candidate.activeProbe)
  | some existing => do
    let before := existing.activeProbe
    let after := candidate.activeProbe
    reject (after.attempted ≠ before.attempted) errConflict
    pure (if after.replied = before.replied then .stable
      else if before.replied ≠ before.attempted ∧ after.replied = after.attempted then .recovered
      else if before.replied = before.attempted ∧ after.replied ≠ after.attempted then .degraded
      else .changed)

/-- The candidate with its continuity and its probe transition, when it comes after the existing record. -/
def advanceRecord (existing : Option Record) (candidate : Record) : Result (Record × Bool) := do
  let continuity ← processContinuityAfter existing candidate
  let transition ← transitionActiveProbe existing candidate
  let accepted := { candidate with processContinuity := continuity, probeTransition := transition }
  validateRecord accepted
  pure (accepted, true)

def transitionRecord (existing : Option Record) (candidate : Record) : Result (Record × Bool) :=
  match existing with
  | some e =>
    if candidate.heartbeatSequence < e.heartbeatSequence then .error errReplay
    else if candidate.heartbeatSequence = e.heartbeatSequence then
      if e.sameReport candidate then .ok (e, false) else .error errConflict
    else advanceRecord existing candidate
  | none => advanceRecord existing candidate

/-! ## The store -/

structure MemoryStore where
  records : List Record := []
  closed : Bool := false

namespace MemoryStore

def stored (s : MemoryStore) (nodeID : String) : Option Record := Keyed.lookup Record.nodeID nodeID s.records

/-- The part of `PutWithConfig` before it writes. -/
def accept (s : MemoryStore) (c : Report) : Result (Record × Bool) := do
  let candidate ← newCandidateRecord c
  reject s.closed errClosed
  let (accepted, changed) ← transitionRecord (s.stored c.nodeID) candidate
  reject (changed = true ∧ s.stored c.nodeID = none ∧ maxRecords ≤ s.records.length) errInvalid
  pure (accepted, changed)

/-- `s.records[nodeID] = record`. -/
def write (s : MemoryStore) (r : Record) : MemoryStore :=
  { s with records := if (s.stored r.nodeID).isSome then Keyed.put Record.nodeID r s.records else s.records ++ [r] }

def putWithConfig (s : MemoryStore) (c : Report) : Result (Record × Bool) × MemoryStore :=
  match s.accept c with
  | .ok (accepted, true) => (.ok (accepted, true), s.write accepted)
  | answer => (answer, s)

def delete (s : MemoryStore) (nodeID : String) : Result Bool × MemoryStore :=
  if ¬ nodeIDPattern nodeID then (.error errInvalid, s)
  else if s.closed then (.error errClosed, s)
  else if s.stored nodeID = none then (.ok false, s)
  else (.ok true, { s with records := Keyed.drop Record.nodeID nodeID s.records })

def close (s : MemoryStore) : MemoryStore := { s with closed := true }

/-- The calls that can change a store. `Put`, `PutWithRoute` and `PutWithDNS` are `PutWithConfig` with the
defaults of a `Report`. -/
inductive Call where
  | put (c : Report)
  | delete (nodeID : String)
  | close

def call (s : MemoryStore) : Call → MemoryStore
  | .put c => (s.putWithConfig c).2
  | .delete nodeID => (s.delete nodeID).2
  | .close => s.close

def run (s : MemoryStore) (cs : List Call) : MemoryStore := cs.foldl call s

/-- The record that a call stores for a node. -/
def accepted (s : MemoryStore) (nodeID : String) : Call → Option Record
  | .put c =>
    match (s.putWithConfig c).1 with
    | .ok (r, true) => if c.nodeID = nodeID then some r else none
    | _ => none
  | _ => none

/-- The records stored for a node along a sequence of calls, beginning with the one that is there. -/
def trail (s : MemoryStore) (nodeID : String) : List Call → List Record
  | [] => (s.stored nodeID).toList
  | c :: cs =>
    match s.accepted nodeID c with
    | some _ => (s.stored nodeID).toList ++ (s.call c).trail nodeID cs
    | none => (s.call c).trail nodeID cs

end MemoryStore

/-! ## One transition -/

/-- The later record is of the same process, sampled later, and its totals are not behind. -/
structure Continues (r r' : Record) : Prop where
  snapshots : ∃ previous current, r.observation.snapshot = some previous ∧ r'.observation.snapshot = some current ∧
    current.processInstanceID = previous.processInstanceID ∧ previous.sampleSequence < current.sampleSequence ∧
    previous.processUptimeMS ≤ current.processUptimeMS ∧
    previous.handshakes.completedTotal ≤ current.handshakes.completedTotal ∧
    previous.handshakes.timedOutTotal ≤ current.handshakes.timedOutTotal

theorem Continues.trans {r r₁ r₂ : Record} (h : Continues r r₁) (h' : Continues r₁ r₂) : Continues r r₂ := by
  obtain ⟨p, c, hp, hc, hid, hseq, hup, hcompleted, htimed⟩ := h
  obtain ⟨p', c', hp', hc', hid', hseq', hup', hcompleted', htimed'⟩ := h'
  rw [hc, Option.some.injEq] at hp'
  subst hp'
  exact ⟨p, c', hp, hc', hid'.trans hid, hseq.trans hseq', hup.trans hup', hcompleted.trans hcompleted',
    htimed.trans htimed'⟩

/-- What a stored record has to do with the one it replaced. -/
structure Follows (r r' : Record) : Prop where
  sequence : r.heartbeatSequence < r'.heartbeatSequence
  continuous : r'.processContinuity = .continuous → Continues r r'

variable {existing : Option Record} {candidate r : Record} {changed : Bool} {c : Report}

theorem processContinuityAfter_continuous (h : processContinuityAfter existing candidate = .ok .continuous) :
    ∃ e, existing = some e ∧ ∀ r', r'.observation = candidate.observation → Continues e r' := by
  unfold processContinuityAfter at h
  split_ifs at h
  · cases h
  · split at h
    · cases h
    · rename_i e he
      simp only [bind_eq_ok, require_eq_ok] at h
      obtain ⟨previous, hprevious, current, hcurrent, h⟩ := h
      split_ifs at h with hid
      · cases h
      simp only [bind_unit_eq_ok, reject_eq_ok, not_or, not_le, not_lt] at h
      obtain ⟨hseq, ⟨-, hup, hcompleted, htimed⟩, -⟩ := h
      refine ⟨e, (Option.filter_eq_some_iff.mp he).1, fun r' hr' => ?_⟩
      exact ⟨previous, current, hprevious, hr' ▸ hcurrent, (not_not.mp hid).symm, hseq, hup, hcompleted, htimed⟩

/-- What an accepted candidate is: the record that is there, or one that follows it. -/
inductive Transition (existing : Option Record) (candidate r : Record) : Bool → Prop where
  | repeated : existing = some r → r.heartbeatSequence = candidate.heartbeatSequence → r.sameReport candidate →
      Transition existing candidate r false
  | advanced : r.nodeID = candidate.nodeID → r.heartbeatSequence = candidate.heartbeatSequence →
      r.sameReport candidate → validateRecord r = .ok () → (∀ e, existing = some e → Follows e r) →
      Transition existing candidate r true

theorem advanceRecord_spec (h : advanceRecord existing candidate = .ok (r, changed))
    (hseq : ∀ e, existing = some e → e.heartbeatSequence < candidate.heartbeatSequence) :
    Transition existing candidate r changed := by
  simp only [advanceRecord, bind_eq_ok, exists_unit, pure_eq_ok, Prod.mk.injEq] at h
  obtain ⟨continuity, hcontinuity, transition, -, hvalid, rfl, rfl⟩ := h
  refine .advanced rfl rfl ⟨rfl, rfl, rfl, rfl, rfl⟩ hvalid fun e he => ⟨hseq e he, ?_⟩
  rintro rfl
  obtain ⟨e', he', hcontinues⟩ := processContinuityAfter_continuous hcontinuity
  rw [he, Option.some.injEq] at he'
  exact he' ▸ hcontinues _ rfl

theorem transitionRecord_spec (h : transitionRecord existing candidate = .ok (r, changed)) :
    Transition existing candidate r changed := by
  cases existing with
  | none => exact advanceRecord_spec h fun _ he => (Option.some_ne_none _ he.symm).elim
  | some e =>
    simp only [transitionRecord] at h
    split_ifs at h with hlt heq hsame
    · cases h
      exact .repeated rfl heq.symm hsame
    · refine advanceRecord_spec h ?_
      rintro _ ⟨⟩
      omega

theorem newCandidateRecord_spec (h : newCandidateRecord c = .ok candidate) : c.candidate = candidate := by
  simp only [newCandidateRecord, bind_unit_eq_ok, pure_eq_ok] at h
  exact h.2

/-! ## One call -/

namespace MemoryStore

variable {s t : MemoryStore} {nodeID : String}

theorem accept_spec (h : s.accept c = .ok (r, changed)) :
    newCandidateRecord c = .ok c.candidate ∧ Transition (s.stored c.nodeID) c.candidate r changed := by
  simp only [accept, bind_eq_ok, exists_unit, pure_eq_ok, Prod.exists, Prod.mk.injEq] at h
  obtain ⟨candidate, hcandidate, -, _, _, htransition, -, rfl, rfl⟩ := h
  obtain rfl := newCandidateRecord_spec hcandidate
  exact ⟨hcandidate, transitionRecord_spec htransition⟩

theorem stored_write (s : MemoryStore) (r : Record) (nodeID : String) :
    (s.write r).stored nodeID = if r.nodeID = nodeID then some r else s.stored nodeID := by
  unfold write
  split_ifs with hthere hid hid
  · obtain ⟨e, he⟩ := Option.isSome_iff_exists.mp hthere
    exact hid ▸ Keyed.lookup_put_self he
  · exact Keyed.lookup_put_ne (Ne.symm hid)
  · rw [Option.isSome_iff_ne_none, not_not] at hthere
    rw [stored, Keyed.lookup] at hthere ⊢
    simp [List.find?_append, ← hid, hthere]
  · simp [stored, Keyed.lookup, List.find?_append, hid]

theorem putWithConfig_rejected {e : Failure} (h : (s.putWithConfig c).1 = .error e) : (s.putWithConfig c).2 = s := by
  unfold putWithConfig at h ⊢
  split at h
  · cases h
  · rfl

/-- What a call does to the record of a node that it does not delete. -/
inductive Stepped (s : MemoryStore) (nodeID : String) (c : Call) : Prop where
  | kept : s.accepted nodeID c = none → (s.call c).stored nodeID = s.stored nodeID → Stepped s nodeID c
  | stored (r : Record) : s.accepted nodeID c = some r → (s.call c).stored nodeID = some r →
      validateRecord r = .ok () → (∀ e, s.stored nodeID = some e → Follows e r) → Stepped s nodeID c

theorem stepped (s : MemoryStore) {c : Call} (hc : c ≠ .delete nodeID) : Stepped s nodeID c := by
  cases c with
  | close => exact .kept rfl rfl
  | delete id =>
    have hid : nodeID ≠ id := fun heq => hc (heq ▸ rfl)
    refine .kept rfl ?_
    simp only [call, delete]
    split_ifs
    · rfl
    · rfl
    · exact Keyed.lookup_drop_ne hid
    · rfl
  | put c =>
    cases hanswer : s.accept c with
    | error e => exact .kept (by simp [accepted, putWithConfig, hanswer]) (by simp [call, putWithConfig, hanswer])
    | ok answer =>
      obtain ⟨r, changed⟩ := answer
      cases (accept_spec hanswer).2 with
      | repeated =>
        exact .kept (by simp [accepted, putWithConfig, hanswer]) (by simp [call, putWithConfig, hanswer])
      | advanced hid _ _ hvalid hfollows =>
        have hafter : (s.call (.put c)).stored nodeID = if c.nodeID = nodeID then some r else s.stored nodeID := by
          simp only [call, putWithConfig, hanswer, stored_write, hid, Report.candidate]
        by_cases hnode : c.nodeID = nodeID
        · subst hnode
          exact .stored r (by simp [accepted, putWithConfig, hanswer]) (by simpa using hafter) hvalid hfollows
        · exact .kept (by simp [accepted, putWithConfig, hanswer, hnode]) (by simpa [hnode] using hafter)

theorem accept_of_answer (h : (s.putWithConfig c).1 = .ok (r, changed)) : s.accept c = .ok (r, changed) := by
  unfold putWithConfig at h
  split at h
  · rename_i hanswer
    exact hanswer.trans h
  · exact h

/-- The record in an accepted answer is the stored one. -/
theorem stored_of_answer (h : (s.putWithConfig c).1 = .ok (r, changed)) :
    (s.putWithConfig c).2.stored c.nodeID = some r := by
  have hanswer := accept_of_answer h
  cases (accept_spec hanswer).2 with
  | repeated hthere => simpa only [putWithConfig, hanswer] using hthere
  | advanced hid => simp only [putWithConfig, hanswer, stored_write, hid, Report.candidate, if_true]

/-- The last accepted report, sent once more, finds its record and changes nothing. -/
theorem putWithConfig_again (h : (s.putWithConfig c).1 = .ok (r, changed)) (hr : t.stored c.nodeID = some r) :
    (t.putWithConfig c).2 = t ∧ (t.closed = false → (t.putWithConfig c).1 = .ok (r, false)) := by
  obtain ⟨hcandidate, htransition⟩ := accept_spec (accept_of_answer h)
  have hsame : r.heartbeatSequence = c.candidate.heartbeatSequence ∧ r.sameReport c.candidate := by
    cases htransition with
    | repeated _ hseq hsame => exact ⟨hseq, hsame⟩
    | advanced _ hseq hsame => exact ⟨hseq, hsame⟩
  have hrepeat : transitionRecord (some r) c.candidate = .ok (r, false) := by
    simp [transitionRecord, hsame.1, hsame.2]
  cases hclosed : t.closed with
  | true => simp [putWithConfig, accept, hcandidate, hclosed, reject, bind, Except.bind]
  | false => simp [putWithConfig, accept, hcandidate, hclosed, hr, hrepeat, reject, bind, Except.bind, pure, Except.pure]

/-! ## Runs -/

theorem call_valid (h : ∀ id r, s.stored id = some r → validateRecord r = .ok ()) (c : Call) :
    ∀ id r, (s.call c).stored id = some r → validateRecord r = .ok () := by
  intro id r hr
  by_cases hc : c = .delete id
  · subst hc
    simp only [call, delete] at hr
    split_ifs at hr
    · exact h id r hr
    · exact h id r hr
    · exact absurd (Keyed.lookup_drop_self.symm.trans hr) (Option.some_ne_none r).symm
    · exact h id r hr
  · cases stepped s hc with
    | kept _ hkept => exact h id r (hkept ▸ hr)
    | stored r' _ hafter hvalid =>
      rw [hafter, Option.some.injEq] at hr
      exact hr ▸ hvalid

theorem run_valid (cs : List Call) : ∀ {s : MemoryStore}, (∀ id r, s.stored id = some r → validateRecord r = .ok ()) →
    ∀ id r, (s.run cs).stored id = some r → validateRecord r = .ok () := by
  induction cs with
  | nil => exact fun h => h
  | cons c cs ih => exact fun h => ih (call_valid h c)

/-- Every record of a trail is valid and follows the one before; the trail goes from the record that is there to
the one the calls leave. -/
structure Trail (hist : List Record) (first last : Option Record) : Prop where
  first : ∀ r, first = some r → hist.head? = some r
  last : hist.getLast? = last
  valid : ∀ r ∈ hist, validateRecord r = .ok ()
  chain : hist.IsChain Follows

/-- By induction on the calls: one that stores a record puts the record before it in front of the rest. -/
theorem trail_spec (cs : List Call) : ∀ {s : MemoryStore}, (∀ c ∈ cs, c ≠ .delete nodeID) →
    (∀ r, s.stored nodeID = some r → validateRecord r = .ok ()) →
    Trail (s.trail nodeID cs) (s.stored nodeID) ((s.run cs).stored nodeID) := by
  induction cs with
  | nil =>
    intro s _ hvalid
    cases hs : s.stored nodeID with
    | none =>
      exact ⟨fun _ hr => (Option.some_ne_none _ hr.symm).elim, by simp [trail, run, hs], by simp [trail, hs],
        by simp [trail, hs]⟩
    | some r => exact ⟨by simp [trail, hs], by simp [trail, run, hs], by simpa [trail, hs] using hvalid r hs,
        by simp [trail, hs]⟩
  | cons c cs ih =>
    intro s hcs hvalid
    have hrest : ∀ c ∈ cs, c ≠ .delete nodeID := fun c hc => hcs c (List.mem_cons_of_mem _ hc)
    cases stepped s (hcs c List.mem_cons_self) with
    | kept haccepted hkept =>
      have h := ih hrest fun r hr => hvalid r (hkept ▸ hr)
      rw [hkept] at h
      simpa only [trail, haccepted, run, List.foldl_cons] using h
    | stored r haccepted hafter hr hfollows =>
      have h := ih (s := s.call c) hrest fun r' hr' => by
        rw [hafter, Option.some.injEq] at hr'
        exact hr' ▸ hr
      have hhead := h.first r hafter
      simp only [trail, haccepted]
      cases hs : s.stored nodeID with
      | none => exact ⟨fun _ hr => (Option.some_ne_none _ hr.symm).elim, h.last, h.valid, h.chain⟩
      | some e =>
        refine ⟨by simp, ?_, ?_, ?_⟩
        · cases htrail : (s.call c).trail nodeID cs with
          | nil => simp [htrail] at hhead
          | cons x xs => exact (List.getLast?_cons_cons ..).trans (htrail ▸ h.last)
        · simpa using ⟨hvalid e hs, h.valid⟩
        · refine List.isChain_cons.mpr ⟨fun y hy => ?_, h.chain⟩
          obtain rfl : r = y := Option.some.inj (hhead.symm.trans hy)
          exact hfollows e hs

end MemoryStore

/-- Along calls that do not delete the node, from any store the calls before can leave: its records have
increasing heartbeat sequences, each is valid, the last one is stored, and in a run of continuous records (with
the record it begins from) each later one is of the same process with a later sample and totals not behind. The
record in an accepted answer is the stored one and the same report changes nothing while it is; a rejected report
leaves the store as it was. -/
theorem telemetry_never_replayed (before cs : List MemoryStore.Call) (nodeID : String)
    (h : ∀ c ∈ cs, c ≠ .delete nodeID) :
    let s := ({} : MemoryStore).run before
    let hist := s.trail nodeID cs
    (s.run cs).stored nodeID = hist.getLast? ∧
    hist.Pairwise (fun r r' => r.heartbeatSequence < r'.heartbeatSequence) ∧
    (∀ r ∈ hist, validateRecord r = .ok ()) ∧
    (∀ pre r run post, hist = pre ++ r :: run ++ post → (∀ q ∈ run, q.processContinuity = .continuous) →
      (r :: run).Pairwise Continues) ∧
    (∀ (u : MemoryStore) c r changed, (u.putWithConfig c).1 = .ok (r, changed) →
      (u.putWithConfig c).2.stored c.nodeID = some r ∧
      ∀ t : MemoryStore, t.stored c.nodeID = some r → (t.putWithConfig c).2 = t ∧
        (t.closed = false → (t.putWithConfig c).1 = .ok (r, false))) ∧
    ∀ (u : MemoryStore) c e, (u.putWithConfig c).1 = .error e → (u.putWithConfig c).2 = u := by
  intro s hist
  have hempty : ∀ id r, ({} : MemoryStore).stored id = some r → validateRecord r = .ok () := fun _ _ hr => nomatch hr
  have ht := MemoryStore.trail_spec cs h (MemoryStore.run_valid before hempty nodeID)
  refine ⟨ht.last.symm, ?_, ht.valid, fun pre r run post heq hrun => ?_, fun u c r changed hanswer => ?_,
    fun u c e he => MemoryStore.putWithConfig_rejected he⟩
  · have hlt : hist.IsChain fun r r' => r.heartbeatSequence < r'.heartbeatSequence :=
      ht.chain.imp fun _ _ hf => hf.sequence
    exact List.isChain_iff_pairwise.mp hlt
  · have hinfix : (r :: run).IsChain Follows := ht.chain.infix ⟨pre, post, heq.symm⟩
    have hcontinues : (r :: run).IsChain Continues :=
      hinfix.imp_of_mem_tail_imp fun _ q _ hq hf => hf.continuous (hrun q hq)
    have : IsTrans Record Continues := ⟨fun _ _ _ => Continues.trans⟩
    exact List.isChain_iff_pairwise.mp hcontinues
  · exact ⟨MemoryStore.stored_of_answer hanswer, fun t ht => MemoryStore.putWithConfig_again hanswer ht⟩

/-- A report of one process, by its heartbeat. -/
def sampleReport (sequence : Nat) : MemoryStore.Call := .put {
  nodeID := "n", heartbeatSequence := sequence, receivedAt := ⟨sequence, true⟩
  observation := { version := 2, state := .observed, snapshot := some {
    processInstanceID := "0123456789abcdef0123456789abcdef", sampleSequence := sequence } }
  activeProbe := { version := 1, state := .unsupported } }

/-- Two reports and the repetition of the second leave a record and a continuous one. -/
theorem telemetry_never_replayed_twice :
    ((({} : MemoryStore).trail "n" ([1, 2, 2].map sampleReport)).map fun r => (r.heartbeatSequence, r.processContinuity))
      = [(1, .unclassified), (2, .continuous)] ∧
    (({} : MemoryStore).trail "n" ([1, 2, 2].map sampleReport)).Pairwise
      fun r r' => r.heartbeatSequence < r'.heartbeatSequence :=
  ⟨by decide +kernel, (telemetry_never_replayed [] ([1, 2, 2].map sampleReport) "n" fun c hc => by
    obtain ⟨k, -, rfl⟩ := List.mem_map.mp hc
    exact MemoryStore.Call.noConfusion).2.1⟩

end Telemetry
end Mesh
