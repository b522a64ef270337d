import SearchOperator.Proofs.Cluster.View
import SearchOperator.Proofs.Simulation.Calls

/-!
# Writing back a cluster

A pass brings the stored cluster to what its tracker makes of it, with at most one write of the
hints and then at most one of the status, and with none if the stored cluster stays as it is. A
write that fails ends this; it can leave the hints written and the status not. The events of the
tracker are published after that in any case.
-/

namespace SearchOperator

open Simulation

namespace SearchCluster

def hintWrites (c updated : SearchCluster) : List Call :=
  match updated.metadata.annotation? hintsKey with
  | some hints =>
    if c.metadata.annotation? hintsKey ≠ some hints then
      [.patchAnnotations c.name c.space (.ofList [(hintsKey, hints)])]
    else []
  | none => []

def statusWrites (c updated : SearchCluster) : List Call :=
  match updated.status with
  | some status =>
    if c.status ≠ some status then [.patchClusterStatus c.name c.space status] else []
  | none => []

/-- The writes that make one cluster of another. -/
def writes (c updated : SearchCluster) : List Call :=
  c.hintWrites updated ++ c.statusWrites updated

/-- The hints are written only if their text differs from the stored one. -/
theorem hintWrites_cases (c updated : SearchCluster) :
    c.hintWrites updated = [] ∨ ∃ text, c.metadata.annotation? hintsKey ≠ some text ∧
      c.hintWrites updated = [.patchAnnotations c.name c.space (.ofList [(hintsKey, text)])] := by
  rw [hintWrites]
  split
  · split
    · rename_i text _ differs
      exact .inr ⟨text, differs, rfl⟩
    · exact .inl rfl
  · exact .inl rfl

/-- The status is written only if it differs from the stored one. -/
theorem statusWrites_cases (c updated : SearchCluster) :
    c.statusWrites updated = [] ∨ ∃ status, updated.status = some status ∧
      c.status ≠ some status ∧
        c.statusWrites updated = [.patchClusterStatus c.name c.space status] := by
  rw [statusWrites]
  split
  · rename_i status found
    split
    · rename_i differs
      exact .inr ⟨status, found, differs, rfl⟩
    · exact .inl rfl
  · exact .inl rfl

/-- Only the metadata tell whether hints are written. -/
theorem hintWrites_congr {c updated other : SearchCluster}
    (same : other.metadata = updated.metadata) : c.hintWrites other = c.hintWrites updated := by
  rw [hintWrites, hintWrites, same]

@[simp]
theorem hintWrites_of_metadata {c updated : SearchCluster}
    (same : updated.metadata = c.metadata) : c.hintWrites updated = [] := by
  rw [hintWrites, same]
  split
  · rename_i found
    rw [if_neg (not_not_intro found)]
  · rfl

@[simp]
theorem writes_self (c : SearchCluster) : c.writes c = [] := by
  have status : c.statusWrites c = [] := by
    rw [statusWrites]
    split
    · rename_i found
      rw [if_neg (not_not_intro found)]
    · rfl
  rw [writes, hintWrites_of_metadata rfl, status, List.append_nil]

/-- A cluster with the hints of an updated one, but not its status. -/
def hinted (c updated : SearchCluster) : SearchCluster := { updated with status := c.status }

/-- How far the writes got that make one cluster of another: the result, the calls that were made,
and the cluster that is stored then. -/
inductive Wrote (c updated : SearchCluster) {α : Type} :
    Except Error α → List Call → SearchCluster → Prop where
  /-- All writes were made. -/
  | all (a : α) : Wrote c updated (.ok a) (c.writes updated) updated
  /-- The write of the status failed. -/
  | hintsOnly (e : Error) :
      Wrote c updated (.error e) (c.writes updated) (c.hinted updated)
  /-- The write of the hints failed. -/
  | nothing (e : Error) : Wrote c updated (.error e) (c.hintWrites updated) c
  /-- What comes before the writes failed. -/
  | unread (e : Error) : Wrote c updated (.error e) [] c

theorem Wrote.map {c updated left : SearchCluster} {α β : Type} {result : Except Error α}
    {made : List Call} (wrote : Wrote c updated result made left) (f : α → β) :
    Wrote c updated (result.map f) made left := by
  cases wrote with
  | all a => exact .all (f a)
  | hintsOnly e => exact .hintsOnly e
  | nothing e => exact .nothing e
  | unread e => exact .unread e

theorem Wrote.complete {c updated left : SearchCluster} {α : Type} {result : Except Error α}
    {made : List Call}
    (wrote : Wrote c updated result made left) {a : α} (succeeded : result = .ok a) :
    made = c.writes updated ∧ left = updated := by
  cases wrote with
  | all b => exact ⟨rfl, rfl⟩
  | _ => cases succeeded

/-- Writes of which one fails leave the status as it is. -/
theorem Wrote.status_of_error {c updated left : SearchCluster} {α : Type} {result : Except Error α}
    {made : List Call} (wrote : Wrote c updated result made left) {e : Error}
    (failed : result = .error e) : left.status = c.status := by
  cases wrote with
  | all a => cases failed
  | _ => rfl

theorem Wrote.subset {c updated left : SearchCluster} {α : Type} {result : Except Error α}
    {made : List Call} (wrote : Wrote c updated result made left) : made ⊆ c.writes updated := by
  cases wrote with
  | all a => exact List.Subset.refl _
  | hintsOnly e => exact List.Subset.refl _
  | nothing e => exact List.subset_append_left _ _
  | unread e => exact List.nil_subset _

/-- Without a change to write, nothing is written. -/
theorem Wrote.unchanged {c left : SearchCluster} {α : Type} {result : Except Error α}
    {made : List Call} (wrote : Wrote c c result made left) : made = [] ∧ left = c := by
  cases wrote with
  | all a => exact ⟨c.writes_self, rfl⟩
  | hintsOnly e => exact ⟨c.writes_self, rfl⟩
  | nothing e => exact ⟨hintWrites_of_metadata rfl, rfl⟩
  | unread e => exact ⟨rfl, rfl⟩

end SearchCluster

namespace Simulation.World

/-- A world after calls that stored a cluster, and with the events then published. -/
def storing (w : World) (c : SearchCluster) (made : List Call) (events : List PublishedEvent) :
    World :=
  { w with cluster := some c, calls := w.calls ++ made, events := events }

variable {w : World}

theorem storing_of_stored {c : SearchCluster} (stored : w.cluster = some c)
    (made : List Call) : w.storing c made w.events = w.called made := by
  rw [storing, called, ← stored]

theorem storing_called (w : World) (c : SearchCluster) (made more : List Call)
    (events : List PublishedEvent) :
    (w.called made).storing c more events = w.storing c (made ++ more) events := by
  rw [called, storing, storing, List.append_assoc]

theorem storing_storing (w : World) (c d : SearchCluster) (made more : List Call)
    (events further : List PublishedEvent) :
    (w.storing c made events).storing d more further = w.storing d (made ++ more) further := by
  rw [storing, storing, storing, List.append_assoc]

/-- A call that writes stores a changed cluster, or fails. -/
theorem write_run (made : Call) (kube : made.isKubernetes = true)
    (change : SearchCluster → SearchCluster) {c : SearchCluster} (stored : w.cluster = some c) :
    let write : Step World Unit :=
      World.call made (modify fun w => { w with cluster := w.cluster.map change })
    (∃ e, w.failure? made = some e ∧ write w = (.error e, w.storing c [made] w.events)) ∨
      w.failure? made = none ∧ write w = (.ok (), w.storing (change c) [made] w.events) := by
  rcases call_run made kube (modify fun w => { w with cluster := w.cluster.map change }) w with
    ⟨e, failing, failed⟩ | ⟨unfailing, written⟩
  · exact .inl ⟨e, failing, failed.trans (by rw [storing_of_stored stored])⟩
  · have changed : (w.called [made]).cluster.map change = some (change c) :=
      congrArg (Option.map change) stored
    refine .inr ⟨unfailing, written.trans ?_⟩
    show (_, { w.called [made] with cluster := (w.called [made]).cluster.map change }) = _
    rw [changed]
    rfl

/-! ## Hints, then status -/

open SearchCluster

def persistHints {σ : Type} (kube : ClusterApi σ) (c updated : SearchCluster) : Step σ Unit :=
  match updated.metadata.annotation? hintsKey with
  | some hints =>
    if c.metadata.annotation? hintsKey ≠ some hints then
      kube.patchAnnotations c.name c.space (.ofList [(hintsKey, hints)])
    else pure ()
  | none => pure ()

def persistStatus {σ : Type} (kube : ClusterApi σ) (c updated : SearchCluster) : Step σ Unit :=
  match updated.status with
  | some status =>
    if c.status ≠ some status then kube.patchStatus c.name c.space status else pure ()
  | none => pure ()

theorem persist_eq {σ : Type} (kube : ClusterApi σ) (c updated : SearchCluster) :
    persist kube c updated = (do
      persistHints kube c updated
      persistStatus kube c updated) := by
  unfold persist persistHints
  cases updated.metadata.annotation? hintsKey with
  | none => rfl
  | some hints =>
      simp only
      split
      · rfl
      · rfl

variable {c updated : SearchCluster}

theorem untilFailure_hintWrites (w : World) (c updated : SearchCluster) :
    w.untilFailure (c.hintWrites updated) = c.hintWrites updated := by
  rcases c.hintWrites_cases updated with none | ⟨text, -, one⟩
  · rw [none]
    rfl
  · rw [one, untilFailure_singleton]

theorem untilFailure_statusWrites (w : World) (c updated : SearchCluster) :
    w.untilFailure (c.statusWrites updated) = c.statusWrites updated := by
  rcases c.statusWrites_cases updated with none | ⟨status, -, -, one⟩
  · rw [none]
    rfl
  · rw [one, untilFailure_singleton]

theorem persistHints_run (stored : w.cluster = some c) (spec : updated.spec = c.spec)
    (metadata : updated.metadata = c.metadata ∨
      ∃ hints, updated.metadata = c.metadata.annotate hintsKey hints) :
    (∃ e, w.firstFailure? (c.hintWrites updated) = some e ∧
        persistHints clusterApi c updated w =
          (.error e, w.storing c (c.hintWrites updated) w.events)) ∨
      w.firstFailure? (c.hintWrites updated) = none ∧
        persistHints clusterApi c updated w =
          (.ok (), w.storing (c.hinted updated) (c.hintWrites updated) w.events) := by
  have unwritten (same : updated.metadata = c.metadata) :
      (pure () : Step World Unit) w = (.ok (), w.storing (c.hinted updated) [] w.events) := by
    rw [hinted, spec, same, storing_of_stored stored, called_nil, pure_run]
  unfold persistHints hintWrites
  rcases metadata with same | ⟨hints, annotated⟩
  · rw [same]
    cases before : c.metadata.annotation? hintsKey with
    | none => exact .inr ⟨rfl, unwritten same⟩
    | some hints =>
        simp only [ne_eq, not_true_eq_false, if_false]
        exact .inr ⟨rfl, unwritten same⟩
  · have after : updated.metadata.annotation? hintsKey = some hints := by
      rw [annotated, Metadata.annotation?_annotate_self]
    simp only [after]
    by_cases before : c.metadata.annotation? hintsKey = some hints
    · -- annotating what is annotated already is no change that would need a write
      have same : updated.metadata = c.metadata := by
        rw [annotated, Metadata.annotate_of_annotation? before]
      rw [if_neg (not_not_intro before), if_neg (not_not_intro before)]
      exact .inr ⟨rfl, unwritten same⟩
    · have changed : { c with metadata := c.metadata.annotateAll (.ofList [(hintsKey, hints)]) } =
          c.hinted updated := by
        rw [Metadata.annotateAll_singleton, ← annotated, hinted, spec]
      have written := write_run
        (.patchAnnotations c.name c.space (.ofList [(hintsKey, hints)])) rfl
        (fun c => { c with metadata := c.metadata.annotateAll (.ofList [(hintsKey, hints)]) })
        stored
      simp only [changed] at written
      rw [if_pos before, if_pos before, firstFailure?_singleton]
      exact written

theorem persistStatus_run (stored : w.cluster = some (c.hinted updated))
    {status : ClusterStatus} (found : updated.status = some status) :
    (∃ e, w.firstFailure? (c.statusWrites updated) = some e ∧
        persistStatus clusterApi c updated w =
          (.error e, w.storing (c.hinted updated) (c.statusWrites updated) w.events)) ∨
      w.firstFailure? (c.statusWrites updated) = none ∧
        persistStatus clusterApi c updated w =
          (.ok (), w.storing updated (c.statusWrites updated) w.events) := by
  have whole : { updated with status := some status } = updated := by rw [← found]
  simp only [persistStatus, statusWrites, found]
  by_cases same : c.status = some status
  · have kept : w.cluster = some updated := by rw [stored, hinted, same, whole]
    right
    rw [if_neg (not_not_intro same), if_neg (not_not_intro same), pure_run,
      storing_of_stored kept, called_nil]
    exact ⟨rfl, rfl⟩
  · have written := write_run (.patchClusterStatus c.name c.space status) rfl
      (fun c => { c with status := some status }) stored
    have changed : { c.hinted updated with status := some status } = updated := whole
    simp only [changed] at written
    rw [if_pos same, if_pos same, firstFailure?_singleton]
    exact written

/-- Writing back a cluster that differs in its hints and its status. -/
theorem persist_run (stored : w.cluster = some c) {status : ClusterStatus}
    (found : updated.status = some status) (spec : updated.spec = c.spec)
    (metadata : updated.metadata = c.metadata ∨
      ∃ hints, updated.metadata = c.metadata.annotate hintsKey hints) :
    ∃ left,
      persist clusterApi c updated w = (w.ending (c.writes updated) (),
        w.storing left (w.untilFailure (c.writes updated)) w.events) ∧
      Wrote c updated (w.ending (c.writes updated) ()) (w.untilFailure (c.writes updated)) left := by
  rw [persist_eq, bind_run, writes]
  rcases persistHints_run stored spec metadata with ⟨e, failing, failed⟩ | ⟨hinted, hinting⟩
  · have ends : w.firstFailure? (c.hintWrites updated ++ c.statusWrites updated) = some e := by
      rw [firstFailure?_append, failing, Option.some_or]
    rw [failed, follow_error, ending_of_some ends, untilFailure_append_of_some failing,
      untilFailure_hintWrites]
    exact ⟨c, rfl, .nothing e⟩
  · have status := persistStatus_run
      (w := w.storing (c.hinted updated) (c.hintWrites updated) w.events) rfl found
    rw [hinting, follow_ok, untilFailure_append_of_none hinted, untilFailure_statusWrites, ending,
      firstFailure?_append, hinted, Option.none_or]
    rcases status with ⟨e, failing, failed⟩ | ⟨unfailing, written⟩
    · have failing : w.firstFailure? (c.statusWrites updated) = some e := failing
      rw [failed, storing_storing, failing]
      exact ⟨c.hinted updated, rfl, .hintsOnly e⟩
    · have unfailing : w.firstFailure? (c.statusWrites updated) = none := unfailing
      rw [written, storing_storing, unfailing]
      exact ⟨updated, rfl, .all ()⟩

/-- Writing back what a tracker committed. -/
theorem commit_run {t : Tracker} (stored : w.cluster = some t.cluster) :
    ∃ left,
      (match t.commit.2 with
        | some updated => persist clusterApi t.cluster updated
        | none => pure ()) w = (w.ending (t.cluster.writes t.stored) (),
          w.storing left (w.untilFailure (t.cluster.writes t.stored)) w.events) ∧
      Wrote t.cluster t.stored (w.ending (t.cluster.writes t.stored) ())
        (w.untilFailure (t.cluster.writes t.stored)) left := by
  by_cases unchanged : t.IsUnchanged
  · rw [Tracker.commit_of_unchanged unchanged, Tracker.stored_of_unchanged unchanged]
    have all : Wrote t.cluster t.cluster (.ok ()) (t.cluster.writes t.cluster) t.cluster := .all ()
    rw [writes_self] at all ⊢
    refine ⟨t.cluster, ?_, all⟩
    show _ = (_, w.storing t.cluster [] w.events)
    rw [storing_of_stored stored, called_nil]
    rfl
  · have metadata : t.storedMetadata = t.cluster.metadata ∨
        ∃ hints, t.storedMetadata = t.cluster.metadata.annotate hintsKey hints := by
      rw [Tracker.storedMetadata]
      split
      · exact .inl rfl
      · exact .inr ⟨t.hints.text, rfl⟩
    rw [Tracker.commit_of_changed unchanged, Tracker.stored_of_changed unchanged]
    exact persist_run stored rfl rfl metadata

/-! ## Events after the writes -/

/-- The collaborators of a pass over the cluster, with some way of publishing events. -/
def reporting (events : EventPublisher World) (timeout : Duration) : ClusterContext World :=
  ⟨clusterApi, clients, events, timeout⟩

/-- Finishing a pass writes back what the tracker leaves, and then publishes its events in any
case. -/
theorem finish_run {t : Tracker} (stored : w.cluster = some t.cluster)
    (events : EventPublisher World) (timeout : Duration) :
    ∃ left,
      finish (reporting events timeout) t.cluster t w =
        (w.ending (t.cluster.writes t.stored) (),
          (publishAll events t.cluster.reference t.commit.1.events
            (w.storing left (w.untilFailure (t.cluster.writes t.stored)) w.events)).2) ∧
      Wrote t.cluster t.stored (w.ending (t.cluster.writes t.stored) ())
        (w.untilFailure (t.cluster.writes t.stored)) left := by
  obtain ⟨left, written, wrote⟩ := commit_run stored
  refine ⟨left, ?_, wrote⟩
  rw [finish]
  cases committed : t.commit with
  | mk last updated =>
      rw [committed] at written
      cases updated
      all_goals
        simp only [reporting, bind_run, Step.attempt_run, follow_ok, Step.act_run,
          Step.ofExcept_run] at written ⊢
        rw [written]

/-- Events are published one after the other, whatever that means. -/
theorem publishAll_eq_foldl (events : EventPublisher World) (regarding : ObjectReference)
    (queue : List Event) (w : World) :
    (publishAll events regarding queue w).2 =
      queue.foldl (fun w e => (events.publish (e.published regarding) w).2) w := by
  induction queue generalizing w with
  | nil => rfl
  | cons e rest ih => exact ih _

theorem publishAll_run (w : World) (regarding : ObjectReference) (events : List Event) :
    publishAll publisher regarding events w =
      ((), { w with events := w.events ++ events.map (·.published regarding) }) := by
  induction events generalizing w with
  | nil =>
      rw [List.map_nil, List.append_nil]
      rfl
  | cons e rest ih =>
      have first : publishAll publisher regarding (e :: rest) w =
          publishAll publisher regarding rest
            { w with events := w.events ++ [e.published regarding] } := rfl
      rw [first, ih, List.map_cons, List.append_assoc, List.singleton_append]

end Simulation.World

end SearchOperator
