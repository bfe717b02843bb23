import Mesh.Control.Basics

/-!
# Mesh.Telemetry.Model

Runtime telemetry as the control plane keeps it (`runtimetelemetry/model.go` and the three result files): one
record per node, with what its agent observed, and the checks every record has to pass. A state or a
transition is a text in the source; a text that is none of its constants is `other`.
-/

namespace Mesh
namespace Telemetry

/-! ## Errors -/

inductive ErrorKind where
  | conflict
  | invalid
  | replay
  | closed
deriving DecidableEq, Repr

structure Failure where
  kind : ErrorKind
  text : String
deriving DecidableEq, Repr

abbrev Result (α : Type) := Except Failure α

def errConflict : Failure := ⟨.conflict, "runtime telemetry conflicts with an accepted report"⟩

def errInvalid : Failure := ⟨.invalid, "invalid runtime telemetry"⟩

def errReplay : Failure := ⟨.replay, "runtime telemetry report replay"⟩

def errClosed : Failure := ⟨.closed, "runtime telemetry store is closed"⟩

/-- `fmt.Errorf("%w: …", ErrInvalid)`. -/
def invalid (text : String) : Failure := ⟨.invalid, errInvalid.text ++ ": " ++ text⟩

/-! ## Limits and patterns -/

def maxRecords : Nat := 2 ^ 16

def maxExactJSONInteger : Nat := 2 ^ 53 - 1

def maxAggregateCount : Nat := 2 ^ 32 - 1

def maxConfiguredLighthouses : Nat := 64

def maxLighthouseEntries : Nat := 8

def authenticatedRX2mLimit : Nat := 2 * 60 * 1000

def authenticatedRX5mLimit : Nat := 5 * 60 * 1000

def nodeIDPattern (s : String) : Bool :=
  matchesLabel isPersistedIDChar isPersistedIDChar 127 s

def instanceIDPattern (s : String) : Bool := s.toList.length == 32 && s.toList.all Sha256.isHex

def configDigestPattern (s : String) : Bool := fingerprintPattern s

/-! ## Observations -/

inductive ObservationState where
  | unknown
  | observed
  | other (text : String)
deriving DecidableEq, Repr

structure HandshakeAggregate where
  completedTotal : Nat := 0
  timedOutTotal : Nat := 0
  pending : Nat := 0
  mostRecentCompletionAgeMS : Option Nat := none
deriving DecidableEq, Repr

structure PeerAggregate where
  established : Nat := 0
  authenticatedRXWithin2m : Nat := 0
  authenticatedRXWithin5m : Nat := 0
  oldestAuthenticatedRXAgeMS : Option Nat := none
deriving DecidableEq, Repr

structure LighthouseAggregate where
  configured : Nat := 0
  established : Nat := 0
  authenticatedRXWithin2m : Nat := 0
  authenticatedRXWithin5m : Nat := 0
  mostRecentAuthenticatedRXAgeMS : Option Nat := none
  overflow : Bool := false
deriving DecidableEq, Repr

structure Snapshot where
  processInstanceID : String
  sampleSequence : Nat := 0
  processUptimeMS : Nat := 0
  handshakes : HandshakeAggregate := {}
  peers : PeerAggregate := {}
  lighthouses : LighthouseAggregate := {}
deriving DecidableEq, Repr

structure Observation where
  version : Int
  state : ObservationState
  snapshot : Option Snapshot := none
deriving DecidableEq, Repr

def validAge (age : Option Nat) (uptime : Nat) : Bool :=
  age.all fun a => a ≤ maxExactJSONInteger && a ≤ uptime

/-- The two limits of a version 2 age are looked at last, when a nil age is already refused. -/
def validateSnapshot (snapshot : Snapshot) (version : Int) : Result Unit := do
  let handshakes := snapshot.handshakes
  let peers := snapshot.peers
  let lighthouses := snapshot.lighthouses
  let recent := lighthouses.mostRecentAuthenticatedRXAgeMS
  reject (¬ instanceIDPattern snapshot.processInstanceID ∨ maxExactJSONInteger < snapshot.sampleSequence ∨
    maxExactJSONInteger < snapshot.processUptimeMS) (invalid "invalid process identity or counter")
  reject (maxExactJSONInteger < handshakes.completedTotal ∨ maxExactJSONInteger < handshakes.timedOutTotal ∨
    maxAggregateCount < handshakes.pending ∨
    ¬ (handshakes.completedTotal = 0 ↔ handshakes.mostRecentCompletionAgeMS = none) ∨
    ¬ validAge handshakes.mostRecentCompletionAgeMS snapshot.processUptimeMS) (invalid "invalid handshake aggregate")
  reject (maxAggregateCount < peers.established ∨ peers.authenticatedRXWithin5m < peers.authenticatedRXWithin2m ∨
    peers.established < peers.authenticatedRXWithin5m ∨
    (peers.established = 0 ∧ peers.oldestAuthenticatedRXAgeMS ≠ none) ∨
    (peers.oldestAuthenticatedRXAgeMS = none ∧ peers.authenticatedRXWithin5m ≠ 0) ∨
    ¬ validAge peers.oldestAuthenticatedRXAgeMS snapshot.processUptimeMS) (invalid "invalid peer aggregate")
  reject (maxConfiguredLighthouses < lighthouses.configured ∨ lighthouses.configured < lighthouses.established ∨
    peers.established < lighthouses.established ∨
    lighthouses.authenticatedRXWithin5m < lighthouses.authenticatedRXWithin2m ∨
    lighthouses.established < lighthouses.authenticatedRXWithin5m ∨
    peers.authenticatedRXWithin2m < lighthouses.authenticatedRXWithin2m ∨
    peers.authenticatedRXWithin5m < lighthouses.authenticatedRXWithin5m ∨
    lighthouses.overflow ≠ decide (maxLighthouseEntries < lighthouses.configured) ∨
    ¬ validAge recent snapshot.processUptimeMS ∨ (lighthouses.configured = 0 ∧ recent ≠ none) ∨
    (version = 1 ∧ recent ≠ none) ∨ (version = 2 ∧ 0 < lighthouses.authenticatedRXWithin5m ∧ recent = none) ∨
    (version = 2 ∧ 0 < lighthouses.authenticatedRXWithin2m ∧ recent.any (authenticatedRX2mLimit < ·)) ∨
    (version = 2 ∧ 0 < lighthouses.authenticatedRXWithin5m ∧ recent.any (authenticatedRX5mLimit < ·)))
    (invalid "invalid lighthouse aggregate")
  reject (handshakes.completedTotal < peers.established) (invalid "established peers exceed completed handshakes")

def validateObservation (o : Observation) : Result Unit := do
  reject (o.version ≠ 1 ∧ o.version ≠ 2) (invalid "unsupported observation version")
  match o.state with
  | .unknown => reject (o.snapshot ≠ none) (invalid "unknown observation carries a snapshot")
  | .observed => do
    let snapshot ← require o.snapshot (invalid "observed telemetry has no snapshot")
    validateSnapshot snapshot o.version
  | .other _ => .error (invalid "unrecognized observation state")

/-! ## Results -/

inductive ActiveProbeState where
  | notEligible
  | unsupported
  | capabilityUnavailable
  | attempted
  | unavailable
  | other (text : String)
deriving DecidableEq, Repr

structure ActiveProbeResult where
  version : Int
  state : ActiveProbeState
  sampleAgeMS : Option Nat := none
  attempted : Nat := 0
  replied : Nat := 0
  durationMS : Nat := 0
deriving DecidableEq, Repr

def maxActiveProbeTargets : Nat := 8

def maxActiveProbeSampleAgeMS : Nat := 30000

def maxActiveProbeDurationMS : Nat := 6000

def validateActiveProbe (r : ActiveProbeResult) : Result Unit := do
  reject (r.version ≠ 1) (invalid "unsupported active probe version")
  reject (maxActiveProbeDurationMS < r.durationMS) (invalid "active probe duration exceeds its bound")
  reject (r.sampleAgeMS.any (maxActiveProbeSampleAgeMS < ·)) (invalid "active probe sample age exceeds its bound")
  match r.state with
  | .notEligible =>
    reject (r.sampleAgeMS ≠ some 0 ∨ r.attempted ≠ 0 ∨ r.replied ≠ 0 ∨ r.durationMS ≠ 0)
      (invalid "not-eligible active probe has inconsistent evidence")
  | .unsupported | .unavailable =>
    reject (r.sampleAgeMS ≠ none ∨ r.attempted ≠ 0 ∨ r.replied ≠ 0 ∨ r.durationMS ≠ 0)
      (invalid "inactive active probe has inconsistent evidence")
  | .capabilityUnavailable =>
    reject (r.sampleAgeMS = none ∨ r.attempted ≠ 0 ∨ r.replied ≠ 0)
      (invalid "capability-unavailable active probe has inconsistent evidence")
  | .attempted =>
    reject (r.sampleAgeMS = none ∨ r.attempted < 1 ∨ maxActiveProbeTargets < r.attempted ∨ r.attempted < r.replied)
      (invalid "attempted active probe has inconsistent evidence")
  | .other _ => .error (invalid "unrecognized active probe state")

inductive RouteOverlapState where
  | unsupported
  | unavailable
  | observed
  | other (text : String)
deriving DecidableEq, Repr

structure RouteOverlapResult where
  version : Int
  state : RouteOverlapState
  sampleAgeMS : Option Nat := none
  overlap : Bool := false
deriving DecidableEq, Repr

def maxRouteOverlapSampleAgeMS : Nat := 90000

def validateRouteOverlap (r : RouteOverlapResult) : Result Unit := do
  reject (r.version ≠ 1) (invalid "unsupported route-overlap version")
  match r.state with
  | .unsupported | .unavailable =>
    reject (r.sampleAgeMS ≠ none ∨ r.overlap) (invalid "inactive route-overlap result has inconsistent evidence")
  | .observed =>
    reject (r.sampleAgeMS.all (maxRouteOverlapSampleAgeMS < ·))
      (invalid "observed route-overlap result has inconsistent evidence")
  | .other _ => .error (invalid "unrecognized route-overlap state")

def unsupportedRouteOverlap : RouteOverlapResult := { version := 1, state := .unsupported }

inductive EndpointDNSState where
  | unsupported
  | unavailable
  | observed
  | other (text : String)
deriving DecidableEq, Repr

structure EndpointDNSResult where
  version : Int
  state : EndpointDNSState
  sampleAgeMS : Option Nat := none
  dnsNames : Nat := 0
  resolvedNames : Nat := 0
deriving DecidableEq, Repr

def maxEndpointDNSNames : Nat := 64

def maxEndpointDNSSampleAgeMS : Nat := 90000

def validateEndpointDNS (r : EndpointDNSResult) : Result Unit := do
  reject (r.version ≠ 1) (invalid "unsupported endpoint DNS version")
  match r.state with
  | .unsupported | .unavailable =>
    reject (r.sampleAgeMS ≠ none ∨ r.dnsNames ≠ 0 ∨ r.resolvedNames ≠ 0)
      (invalid "unavailable endpoint DNS carries evidence")
  | .observed =>
    reject (r.sampleAgeMS.all (maxEndpointDNSSampleAgeMS < ·) ∨ maxEndpointDNSNames < r.dnsNames ∨
      r.dnsNames < r.resolvedNames) (invalid "invalid observed endpoint DNS evidence")
  | .other _ => .error (invalid "unrecognized endpoint DNS state")

def unsupportedEndpointDNS : EndpointDNSResult := { version := 1, state := .unsupported }

/-! ## Records -/

inductive ProcessContinuity where
  | unavailable
  | unclassified
  | continuous
  | restarted
  | other (text : String)
deriving DecidableEq, Repr

inductive ProbeTransition where
  | unavailable
  | notEligible
  | unclassified
  | stable
  | recovered
  | degraded
  | changed
  | other (text : String)
deriving DecidableEq, Repr

/-- A `time.Time`: the instant, and whether its location is UTC. -/
structure Timestamp where
  instant : Int
  utc : Bool := true
deriving DecidableEq, Repr

structure Record where
  nodeID : String
  heartbeatSequence : Int
  receivedAt : Timestamp
  processContinuity : ProcessContinuity
  observation : Observation
  activeProbe : ActiveProbeResult
  appliedConfigSHA256 : String
  probeTransition : ProbeTransition
  routeOverlap : RouteOverlapResult
  endpointDNS : EndpointDNSResult
deriving DecidableEq, Repr

def initialProbeTransition (probe : ActiveProbeResult) : ProbeTransition :=
  match probe.state with
  | .notEligible => .notEligible
  | .attempted => .unclassified
  | _ => .unavailable

def validProbeTransition (probe : ActiveProbeResult) (transition : ProbeTransition) : Bool :=
  match probe.state with
  | .notEligible => transition = .notEligible
  | .attempted =>
    match transition with
    | .unclassified | .stable => true
    | .recovered => probe.replied = probe.attempted
    | .degraded | .changed => probe.replied < probe.attempted
    | _ => false
  | .unsupported | .capabilityUnavailable | .unavailable => transition = .unavailable
  | .other _ => false

def comparativeProbeTransition (transition : ProbeTransition) : Bool :=
  transition = .stable || transition = .recovered || transition = .degraded || transition = .changed

def validateRecord (r : Record) : Result Unit := do
  reject (¬ nodeIDPattern r.nodeID ∨ r.heartbeatSequence < 1 ∨ maxExactJSONInteger < r.heartbeatSequence ∨
    r.receivedAt.instant = 0 ∨ ¬ r.receivedAt.utc) (invalid "invalid record identity, sequence, or timestamp")
  validateObservation r.observation
  validateActiveProbe r.activeProbe
  reject (r.appliedConfigSHA256 ≠ "" ∧ ¬ configDigestPattern r.appliedConfigSHA256)
    (invalid "invalid applied configuration digest")
  reject (¬ validProbeTransition r.activeProbe r.probeTransition) (invalid "active probe has invalid transition")
  reject (comparativeProbeTransition r.probeTransition ∧ r.appliedConfigSHA256 = "")
    (invalid "comparative active probe transition has no configuration binding")
  validateRouteOverlap r.routeOverlap
  validateEndpointDNS r.endpointDNS
  match r.observation.state with
  | .unknown =>
    reject (r.processContinuity ≠ .unavailable) (invalid "unknown observation has invalid process continuity")
  | .observed =>
    reject (r.processContinuity ≠ .unclassified ∧ r.processContinuity ≠ .continuous ∧
      r.processContinuity ≠ .restarted) (invalid "observed telemetry has invalid process continuity")
  | .other _ => pure ()

end Telemetry
end Mesh
