import SearchOperator.Proofs.Cluster.Availability
import SearchOperator.Proofs.Cluster.Remembering

/-!
# Ready clusters and upgrades

The phase of a cluster tells of the StatefulSets behind its declared node sets, and the hint of an
upgrade of all StatefulSets that are listed. While every node set is as declared, the hint is down
to the StatefulSets behind none of them: a ready cluster is said to be upgrading exactly if one of
those is labelled with another version than the declared one.
-/

namespace SearchOperator

open Simulation

namespace SearchCluster

/-- A listed StatefulSet is behind no node set, and its pods to be are labelled with another version
than the declared one. -/
structure IsStray (c : SearchCluster) (r : Resources) (set : StatefulSet) : Prop where
  listed : set ∈ r.statefulSets
  undeclared : ∀ s ∈ c.spec.nodeSets, ¬ c.Backs r s set
  outdated : ∃ version, set.IsLabelled version ∧ version ≠ c.spec.version

variable {c left : SearchCluster} {r : Resources} {now : Int} {h : Hints} {v : View}

theorem isUpgrading_iff :
    isUpgrading c r = true ↔
      ∃ set ∈ r.statefulSets, ∃ version, set.IsLabelled version ∧ version ≠ c.spec.version := by
  simp only [isUpgrading, List.any_eq_true, Option.any_eq_true, bne_iff_ne,
    StatefulSet.isLabelled_iff]

/-- What does not lag behind its node set is labelled with the declared version. -/
theorem isUpgrading_iff_stray (settled : ∀ s ∈ c.spec.nodeSets, ¬ c.Lags r s) :
    isUpgrading c r = true ↔ ∃ set, c.IsStray r set := by
  rw [isUpgrading_iff]
  constructor
  · rintro ⟨set, listed, version, labelled, differs⟩
    refine ⟨set, listed, fun s member backs => settled s member ?_, version, labelled, differs⟩
    refine (lags_iff backs).mpr (.inr fun declared => differs ?_)
    exact Option.some.inj ((StatefulSet.isLabelled_iff.mp labelled).symm.trans declared)
  · rintro ⟨set, stray⟩
    exact ⟨set, stray.listed, stray.outdated⟩

theorem settled_of_ready (decided : PhaseDecision.decide c r now = .ready) :
    ∀ s ∈ c.spec.nodeSets, ¬ c.Lags r s := by
  cases PhaseDecision.decide_eq_iff_fits.mp decided with
  | ready moving steady settled enough => exact settled

theorem settled_of_unchanged (decided : PhaseDecision.decide c r now = .unchanged) :
    ∀ s ∈ c.spec.nodeSets, ¬ c.Lags r s := by
  cases PhaseDecision.decide_eq_iff_fits.mp decided with
  | unchanged moving steady settled few => exact settled

end SearchCluster

namespace View

variable {v : View} {c : SearchCluster} {h : Hints}

/-- A cluster is ready after a pass that decides so, or that decides nothing while it is. -/
theorem nextStatus_phase_eq_ready (v : View) (d : PhaseDecision) (s : ClusterStatus) :
    (v.nextStatus d s).phase = .ready ↔ d = .ready ∨ d = .unchanged ∧ s.phase = .ready := by
  cases d with
  | unchanged =>
      obtain ⟨phase, health, nodes, version⟩ := s
      cases phase <;> simp [nextStatus, statusIn, applyingStatus]
  | _ => simp [nextStatus, statusIn, applyingStatus]

/-- After a pass that leaves a cluster ready, the hint of an upgrade tells whether there is a stray
StatefulSet. -/
theorem exists_hint_of_ready (loads : c.Loads h)
    (ready : (v.after c).status.map (·.phase) = some .ready) :
    ∃ g upgrading, (v.after c).storedHints? = some g ∧
      g.get? Hints.rollingUpgradeInProgress = some (.bool upgrading) ∧
      (upgrading = true ↔ ∃ set, c.IsStray v.resources set) := by
  rw [phase_after loads _ (by decide)] at ready
  cases checked : c.check v.name h with
  | error e =>
      rw [(tracked_of_rejected checked).1] at ready
      cases ready
  | ok _ =>
      rw [(tracked_of_accepted checked).1, nextStatus_phase_eq_ready] at ready
      obtain ⟨g, again, kept, -⟩ := exists_loads_after (v := v) loads checked
      refine ⟨g, isUpgrading c v.resources, again.storedHints?, kept.2, ?_⟩
      -- a cluster that stays ready, though pods are missing, has its node sets as declared too
      rcases ready with decided | ⟨decided, -⟩
      · exact SearchCluster.isUpgrading_iff_stray (SearchCluster.settled_of_ready decided)
      · exact SearchCluster.isUpgrading_iff_stray (SearchCluster.settled_of_unchanged decided)

end View

namespace SearchCluster

open World
open PhaseDecision (pairCluster namedSet readyPod)

/-- While a cluster is found ready, its StatefulSets tell of an upgrade exactly if one of them is
stray. So a pass over a managed cluster in which no call fails, and which leaves it ready, leaves it
with the hint of an upgrade exactly in that case; and a pass in which a call fails stores no
phase. -/
theorem upgrading_while_ready (c : SearchCluster) :
    (∀ (r : Resources) (now : Int), PhaseDecision.decide c r now = .ready →
      (isUpgrading c r = true ↔ ∃ set, c.IsStray r set)) ∧
    ∀ (w : World) (h : Hints), w.cluster = some c → c.Loads h →
      ∀ (timeout : Duration) (now : Int) (name space : String),
        ∃ made left, (w.pass timeout now name space).calls = w.calls ++ made ∧
          (w.pass timeout now name space).cluster = some left ∧
          ((∃ call ∈ made, w.failure? call ≠ none) → left.status = c.status) ∧
          ((∀ call ∈ made, w.failure? call = none) → left.status.map (·.phase) = some .ready →
            ∃ g upgrading, left.storedHints? = some g ∧
              g.get? Hints.rollingUpgradeInProgress = some (.bool upgrading) ∧
              (upgrading = true ↔ ∃ set, c.IsStray ⟨w.pods, w.statefulSets⟩ set)) := by
  refine ⟨fun r now decided => isUpgrading_iff_stray (settled_of_ready decided), ?_⟩
  intro w h stored loads timeout now name space
  obtain ⟨o, ran, accounts⟩ := pass_outcome stored timeout now name space
  refine ⟨o.calls, o.left, by rw [ran]; rfl, by rw [ran]; rfl, ?_, fun succeed ready => ?_⟩
  · rintro ⟨call, member, failing⟩
    cases first : w.firstFailure? o.calls with
    | none => exact absurd (firstFailure?_eq_none.mp first call member) failing
    | some e => exact accounts.wrote.status_of_error (accounts.failed e first)
  · have left := (accounts.complete (firstFailure?_eq_none.mpr succeed)).2
    rw [left] at ready ⊢
    exact View.exists_hint_of_ready loads ready

def readyWorld (others : List StatefulSet) : World :=
  { empty with
    cluster := some pairCluster
    pods := [readyPod "logs-search-data-0" "data", readyPod "logs-search-master-0" "master"]
    statefulSets :=
      namedSet "logs-search-data" 1 "8.1.0" :: namedSet "logs-search-master" 1 "8.1.0" :: others }

/-- Without other StatefulSets there is no stray one. -/
theorem upgrading_while_ready_alone :
    ∃ left g, ((readyWorld []).pass ⟨0⟩ 0 "logs" "").cluster = some left ∧
      left.status.map (·.phase) = some .ready ∧ left.storedHints? = some g ∧
      g.get? Hints.rollingUpgradeInProgress = some (.bool false) := by
  have loads : pairCluster.Loads .none := ⟨rfl, rfl⟩
  have none : ¬ ∃ set, pairCluster.IsStray ⟨(readyWorld []).pods, (readyWorld []).statefulSets⟩
      set := by
    rintro ⟨set, listed, undeclared, -⟩
    rcases List.mem_pair.mp listed with rfl | rfl
    · exact undeclared ⟨"data", 1⟩ (by decide) (statefulSet?_eq_some.mp (by decide +kernel))
    · exact undeclared ⟨"master", 1⟩ (by decide) (statefulSet?_eq_some.mp (by decide +kernel))
  obtain ⟨made, left, -, stored, -, hint⟩ :=
    (upgrading_while_ready pairCluster).2 (readyWorld []) .none rfl loads ⟨0⟩ 0 "logs" ""
  have phase : ((readyWorld []).pass ⟨0⟩ 0 "logs" "").cluster.bind (·.status.map (·.phase)) =
      some .ready := by decide +kernel
  rw [stored, Option.bind_some] at phase
  obtain ⟨g, upgrading, hints, found, stray⟩ :=
    hint (fun call _ => failure?_of_failures rfl call) phase
  cases upgrading with
  | false => exact ⟨left, g, stored, phase, hints, found⟩
  | true => exact absurd (stray.mp rfl) none

/-- The world of a ready cluster with a StatefulSet that was left over from another version. -/
def leftoverWorld : World := readyWorld [namedSet "logs-search-ingest" 1 "8.0.0"]

/-- A StatefulSet that was left over makes a ready cluster say that it is upgrading. -/
theorem upgrading_while_ready_leftover :
    PhaseDecision.decide pairCluster ⟨leftoverWorld.pods, leftoverWorld.statefulSets⟩ 0 = .ready ∧
      isUpgrading pairCluster ⟨leftoverWorld.pods, leftoverWorld.statefulSets⟩ = true ∧
      ∃ left g, (leftoverWorld.pass ⟨0⟩ 0 "logs" "").cluster = some left ∧
        left.status.map (·.phase) = some .ready ∧ left.storedHints? = some g ∧
        g.flag Hints.rollingUpgradeInProgress = true := by
  refine ⟨by decide +kernel, by decide +kernel, ?_⟩
  have phase : (leftoverWorld.pass ⟨0⟩ 0 "logs" "").cluster.bind (·.status.map (·.phase)) =
      some .ready := by decide +kernel
  have flagged : (leftoverWorld.pass ⟨0⟩ 0 "logs" "").cluster.bind (fun c =>
      c.storedHints?.map (·.flag Hints.rollingUpgradeInProgress)) = some true := by decide +kernel
  obtain ⟨left, stored, phase⟩ := Option.bind_eq_some_iff.mp phase
  rw [stored, Option.bind_some] at flagged
  obtain ⟨g, hints, found⟩ := Option.map_eq_some_iff.mp flagged
  exact ⟨left, g, stored, phase, hints, found⟩

end SearchCluster

end SearchOperator
