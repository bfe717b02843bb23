import Mesh.Control.AdminEffects
import Mesh.Control.RouteGraph

/-!
# Mesh.Control.RouteEffects

What the operations on staged route changes perform. A step that finds a participant missing would
work on the zero node; in a valid graph every active change has its participants, so no step does.
-/

namespace Mesh

variable {inputs : Inputs} {promotes : Option String} {s s' s₁ : State} {actor : Option Actor}
  {networkID nodeID eventID : String} {cancel : Bool} {now : Int} {w w' : Network} {n source target : Node}

/-! ## Route transfers -/

theorem startRouteTransfer_performed {raw : StartRouteTransferInput}
    (hi : ∀ routes, normalizeRoutedSubnets raw.routedSubnets = .ok routes → (networkID, routes) ∈ inputs.starts)
    (h : startRouteTransfer actor networkID raw eventID now s = .ok s') : Performed inputs promotes s s' none := by
  simp only [startRouteTransfer, bind_eq_ok, exists_unit, require_eq_ok, mapError_eq_ok] at h
  obtain ⟨routes, hnormal, hinput, -, w, hw, h⟩ := h
  split at h
  · simp only [bind_unit_eq_ok, pure_eq_ok] at h
    exact h.2 ▸ .refl s
  · simp only [bind_eq_ok, exists_unit, require_eq_ok, reject_eq_ok, nextConfigRevision_true, pure_eq_ok,
      not_or, Decidable.not_not] at h hinput
    obtain ⟨hterm, ⟨-, -, hedit, -⟩, source, hs, target, ht, hcheck, next, ⟨hmax, rfl⟩, event, -, rfl⟩ := h
    obtain ⟨-, -, -, hne, -, -, hroutes⟩ := hinput
    have hd : source.id ≠ target.id := by rwa [findNode_id hs, findNode_id ht]
    exact .network hw (.transfer (.started _ source target routes hterm hedit (findNode_self hs) (findNode_self ht) hd
      hcheck hroutes)) (fun _ => .inr (findNetwork_id hw ▸ hi routes hnormal)) (.revised rfl hmax rfl rfl)

/-- Only an active transfer can be cancelled. -/
theorem cancelTransfer_spec (h : cancelTransfer s w target now = .ok (some w')) :
    routeTransferActive w.routeTransfer = true ∧ NetworkWritten promotes s w w' ∧
      (findNode s w.routeTransfer.targetNodeID = some target → NetworkStep s w w') := by
  simp only [cancelTransfer] at h
  split at h
  · cases h
  · rename_i hp
    simp only [bind_eq_ok, nextConfigRevision_true, pure_eq_ok, Option.some.injEq] at h
    obtain ⟨next, ⟨hmax, rfl⟩, t, hcancel, rfl⟩ := h
    refine ⟨by simp [routeTransferActive, hp], .revised rfl hmax rfl rfl, fun ht => ?_⟩
    unfold cancelPreparedTransfer at hcancel
    split_ifs at hcancel with hgen
    · rw [pure_eq_ok] at hcancel
      exact hcancel ▸ .transfer (.cancelledEarly target hp ht hgen)
    · simp only [bind_unit_eq_ok, pure_eq_ok] at hcancel
      exact hcancel.2 ▸ .transfer (.cancellationStarted target hp ht (not_lt.mp hgen))
  · rename_i hp
    simp only [bind_unit_eq_ok, reject_eq_ok, pure_eq_ok, Option.some.injEq, Decidable.not_not] at h
    obtain ⟨hconv, rfl⟩ := h
    exact ⟨by simp [routeTransferActive, hp], .kept rfl rfl rfl, fun ht => .transfer (.cancelled target hp ht hconv)⟩
  · cases h

/-- A step forward either moves ownership or ends the transfer. -/
theorem advanceTransfer_spec (h : advanceTransfer s w source target now = .ok (some (s₁, w'))) :
    (w.routeTransfer.phase = .preparingTarget ∧ w.configRevision ≠ maxInt64 ∧
      routeTransferNodeConverged s w target w.routeTransfer.targetCertificateGeneration = true ∧
      s₁ = promoteOwnership s w.routeTransfer source target ∧
      w' = { reconcileNetworkRoutePolicies s₁ w with
        routeTransfer := { w.routeTransfer with
          phase := .cleaningSource, promotedAt := now
          sourceCertificateGeneration := source.certificateGeneration + 1 }
        configRevision := w.configRevision + 1, configUpdatedAt := now }) ∨
    (w.routeTransfer.phase = .cleaningSource ∧
      routeTransferNodeConverged s w source w.routeTransfer.sourceCertificateGeneration = true ∧
      s₁ = s ∧ w' = { w with routeTransfer := { w.routeTransfer with
        phase := .completed, finishedAt := now } }) := by
  simp only [advanceTransfer] at h
  split at h
  · cases h
  · rename_i hp
    simp only [bind_eq_ok, exists_unit, reject_eq_ok, nextConfigRevision_true, pure_eq_ok,
      Option.some.injEq, Prod.mk.injEq, Decidable.not_not] at h
    obtain ⟨hconv, -, next, ⟨hmax, rfl⟩, rfl, rfl⟩ := h
    exact .inl ⟨hp, hmax, hconv, rfl, rfl⟩
  · rename_i hp
    simp only [bind_unit_eq_ok, reject_eq_ok, pure_eq_ok, Option.some.injEq, Prod.mk.injEq,
      Decidable.not_not] at h
    obtain ⟨hconv, rfl, rfl⟩ := h
    exact .inr ⟨hp, hconv, rfl, rfl⟩
  · cases h

theorem advanceTransfer_active (h : advanceTransfer s w source target now = .ok (some (s₁, w'))) :
    routeTransferActive w.routeTransfer = true := by
  obtain ⟨hp, -⟩ | ⟨hp, -⟩ := advanceTransfer_spec h <;> simp [routeTransferActive, hp]

theorem promoteOwnership_written {drawn : List String} {t : NetworkRouteTransfer}
    (hs : findNode s source.id = some source) (ht : findNode s target.id = some target) :
    Keyed.Rewritten NodeWritten (NodeAdded drawn) s.nodes (promoteOwnership s t source target).nodes :=
  .put (nodes_put (mem_of_findNode ht) (.of_counters rfl (fun hp => hp) rfl)) (mem_of_findNode hs)
    (.of_counters rfl (fun hp => hp) rfl)

theorem updateRouteTransfer_performed (hv : ValidGraph s) (hc : Current s) {raw : UpdateRouteTransferInput}
    (h : updateRouteTransfer actor networkID raw cancel eventID now s = .ok s') :
    Performed inputs promotes s s' none := by
  simp only [updateRouteTransfer, bind_eq_ok, exists_unit, require_eq_ok] at h
  obtain ⟨-, -, w, hw, -, h⟩ := h
  split at h
  · rw [pure_eq_ok] at h
    exact h ▸ .refl s
  simp only [bind_unit_eq_ok] at h
  obtain ⟨-, h⟩ := h
  split at h
  · rw [bind_eq_ok] at h
    obtain ⟨o, hcancel, h⟩ := h
    cases o with
    | none => rw [pure_eq_ok] at h; exact h ▸ .refl s
    | some w' =>
      simp only [bind_eq_ok, pure_eq_ok] at h
      obtain ⟨event, -, rfl⟩ := h
      obtain ⟨hactive, hwritten, hstep⟩ := cancelTransfer_spec hcancel
      obtain ⟨source, target, ho⟩ := hv.transferOwners hc (mem_of_findNetwork hw) hactive
      rw [ho.targetFound, Option.getD_some] at hstep
      exact .network hw (hstep rfl) (fun _ => .inl hactive) hwritten
  · rw [bind_eq_ok] at h
    obtain ⟨o, hadvance, h⟩ := h
    cases o with
    | none => rw [pure_eq_ok] at h; exact h ▸ .refl s
    | some p =>
      obtain ⟨s₁, w'⟩ := p
      simp only [bind_eq_ok, pure_eq_ok] at h
      obtain ⟨event, -, rfl⟩ := h
      obtain ⟨source, target, ho⟩ := hv.transferOwners hc (mem_of_findNetwork hw) (advanceTransfer_active hadvance)
      rw [ho.sourceFound, ho.targetFound, Option.getD_some, Option.getD_some] at hadvance
      obtain ⟨hp, hmax, hconv, rfl, rfl⟩ | ⟨hp, hconv, rfl, rfl⟩ := advanceTransfer_spec hadvance
      · exact ⟨.transferPromoted ⟨rfl, rfl, rfl, rfl, rfl, rfl, .of_eq rfl⟩ (findNetwork_self hw) hp ho.sourceFound
            ho.targetFound hconv,
          .network hw rfl (.revised rfl hmax rfl rfl) (List.prefix_append _ _)
            (promoteOwnership_written (findNode_self ho.sourceFound) (findNode_self ho.targetFound)) (.inr rfl)⟩
      · exact .network hw (.transfer (.completed source hp ho.sourceFound hconv))
          (fun _ => .inl (by simp [routeTransferActive, hp])) (.kept rfl rfl rfl)

/-! ## Route-profile edits -/

theorem startRouteProfileEdit_performed {raw : StartRouteProfileEditInput}
    (h : startRouteProfileEdit actor nodeID raw eventID now s = .ok s') : Performed inputs promotes s s' none := by
  simp only [startRouteProfileEdit, bind_eq_ok, exists_unit, require_eq_ok, mapError_eq_ok] at h
  obtain ⟨desired, -, -, -, -, n, hn, w, hw, h⟩ := h
  split at h
  · simp only [bind_unit_eq_ok, pure_eq_ok] at h
    exact h.2 ▸ .refl s
  simp only [bind_eq_ok, exists_unit, reject_eq_ok, nextConfigRevision_true, not_or,
    Decidable.not_not] at h
  obtain ⟨⟨hedit, hterm, -⟩, ⟨hactive, -⟩, -, -, -, next, ⟨hmax, rfl⟩, h⟩ := h
  have hnet : n.networkID = w.id := (findNetwork_id hw).symm
  simp only [beginEdit] at h
  split at h <;> rename_i hadd <;> simp only [pure_eq_ok] at h <;>
    obtain ⟨event, -, rfl⟩ := h
  · exact .network hw (.edit (.started _ n desired hterm hedit (findNode_self hn) hnet hactive hadd)) (.of_kept rfl)
      (.revised rfl hmax rfl rfl)
  · exact ⟨.editNarrowed ⟨rfl, rfl, rfl, rfl, rfl, rfl, .of_eq rfl⟩ (findNetwork_self hw) (findNode_self hn) hnet
        hactive hterm hedit (Decidable.not_not.mp hadd),
      .network hw rfl (.revised rfl hmax rfl rfl) (List.prefix_append _ _)
        (nodes_put (mem_of_findNode hn) (.of_counters rfl (fun hp => hp) rfl)) (.inr rfl)⟩

theorem cancelEdit_spec (hn : findNode s w.routeProfileEdit.nodeID = some n)
    (h : cancelEdit s w n now = .ok (some w')) :
    NetworkStep s w w' ∧ NetworkWritten promotes s w w' ∧ w'.routeTransfer = w.routeTransfer := by
  simp only [cancelEdit] at h
  split at h
  · cases h
  · rename_i hp
    simp only [bind_eq_ok, nextConfigRevision_true, pure_eq_ok, Option.some.injEq] at h
    obtain ⟨next, ⟨hmax, rfl⟩, e, hcancel, rfl⟩ := h
    refine ⟨?_, .revised rfl hmax rfl rfl, rfl⟩
    unfold cancelPreparedEdit at hcancel
    split_ifs at hcancel with hgen
    · rw [pure_eq_ok] at hcancel
      exact hcancel ▸ .edit (.cancelledEarly n hp hn hgen)
    · simp only [bind_unit_eq_ok, pure_eq_ok] at hcancel
      exact hcancel.2 ▸ .edit (.cancellationStarted n hp hn (not_lt.mp hgen))
  · rename_i hp
    simp only [bind_unit_eq_ok, reject_eq_ok, pure_eq_ok, Option.some.injEq, Decidable.not_not] at h
    obtain ⟨hconv, rfl⟩ := h
    exact ⟨.edit (.cancelled n hp hn hconv), .kept rfl rfl rfl, rfl⟩
  · cases h

/-- A step forward either gives the owner its new routes or ends the edit. -/
theorem advanceEdit_spec (h : advanceEdit s w n now = .ok (some (s₁, w'))) :
    (∃ e, w.routeProfileEdit.phase = .preparingOwner ∧ w.configRevision ≠ maxInt64 ∧
      routeTransferNodeConverged s w n w.routeProfileEdit.preparedCertificateGeneration = true ∧
      promotedEdit w.routeProfileEdit n now = .ok e ∧
      s₁ = putNode s { n with routedSubnets := w.routeProfileEdit.desiredSubnets } ∧
      w' = { reconcileNetworkRoutePolicies s₁ w with
        routeProfileEdit := e, configRevision := w.configRevision + 1, configUpdatedAt := now }) ∨
    (w.routeProfileEdit.phase = .cleaningOwner ∧
      routeTransferNodeConverged s w n w.routeProfileEdit.cleanupCertificateGeneration = true ∧
      s₁ = s ∧ w' = { w with routeProfileEdit := { w.routeProfileEdit with
        phase := .completed, finishedAt := now } }) := by
  simp only [advanceEdit] at h
  split at h
  · cases h
  · rename_i hp
    simp only [bind_eq_ok, exists_unit, reject_eq_ok, nextConfigRevision_true, pure_eq_ok,
      Option.some.injEq, Prod.mk.injEq, Decidable.not_not] at h
    obtain ⟨hconv, next, ⟨hmax, rfl⟩, e, he, rfl, rfl⟩ := h
    exact .inl ⟨e, hp, hmax, hconv, he, rfl, rfl⟩
  · rename_i hp
    simp only [bind_unit_eq_ok, reject_eq_ok, pure_eq_ok, Option.some.injEq, Prod.mk.injEq,
      Decidable.not_not] at h
    obtain ⟨hconv, rfl, rfl⟩ := h
    exact .inr ⟨hp, hconv, rfl, rfl⟩
  · cases h

theorem updateRouteProfileEdit_performed {raw : UpdateRouteProfileEditInput}
    (h : updateRouteProfileEdit actor nodeID raw cancel eventID now s = .ok s') :
    Performed inputs promotes s s' none := by
  simp only [updateRouteProfileEdit, bind_eq_ok, exists_unit, require_eq_ok,
    Option.filter_eq_some_iff, decide_eq_true_eq] at h
  obtain ⟨-, -, -, n, hn, w, ⟨hw, hedit⟩, -, h⟩ := h
  have howner : findNode s w.routeProfileEdit.nodeID = some n := hedit ▸ findNode_self hn
  split at h
  · rw [pure_eq_ok] at h
    exact h ▸ .refl s
  simp only [bind_unit_eq_ok] at h
  obtain ⟨-, h⟩ := h
  split at h
  · rw [bind_eq_ok] at h
    obtain ⟨o, hcancel, h⟩ := h
    cases o with
    | none => rw [pure_eq_ok] at h; exact h ▸ .refl s
    | some w' =>
      simp only [bind_eq_ok, pure_eq_ok] at h
      obtain ⟨event, -, rfl⟩ := h
      obtain ⟨hstep, hwritten, htransfer⟩ := cancelEdit_spec howner hcancel
      exact .network hw hstep (.of_kept htransfer) hwritten
  · rw [bind_eq_ok] at h
    obtain ⟨o, hadvance, h⟩ := h
    cases o with
    | none => rw [pure_eq_ok] at h; exact h ▸ .refl s
    | some p =>
      obtain ⟨s₁, w'⟩ := p
      simp only [bind_eq_ok, pure_eq_ok] at h
      obtain ⟨event, -, rfl⟩ := h
      obtain ⟨e, hp, hmax, hconv, he, rfl, rfl⟩ | ⟨hp, hconv, rfl, rfl⟩ := advanceEdit_spec hadvance
      · exact ⟨.editPromoted ⟨rfl, rfl, rfl, rfl, rfl, rfl, .of_eq rfl⟩ (findNetwork_self hw) hp howner hconv he,
          .network hw rfl (.revised rfl hmax rfl rfl) (List.prefix_append _ _)
            (nodes_put (mem_of_findNode hn) (.of_counters rfl (fun hp => hp) rfl)) (.inr rfl)⟩
      · exact .network hw (.edit (.completed n hp howner hconv)) (.of_kept rfl) (.kept rfl rfl rfl)

end Mesh
