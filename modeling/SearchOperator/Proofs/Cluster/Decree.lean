import Mathlib.Data.List.Induction
import SearchOperator.Proofs.Cluster.Remembering
import SearchOperator.Proofs.Cluster.Rollout

/-!
# Red by decree

While changes are being applied, health is red by decree, and a worse health is not reported. But a
pass that decides nothing keeps this phase and stores the health that it observed. A cluster without
status is in this phase to begin with.
-/

namespace SearchOperator

open Simulation

namespace View

variable {v : View} {c : SearchCluster} {h : Hints}

/-- A pass that decides nothing while changes are being applied. -/
def Refreshes (v : View) (c : SearchCluster) : Prop :=
  PhaseDecision.decide c v.resources v.now = .unchanged ∧
    (c.status.getD .initial).phase = .applyingChanges

instance (v : View) (c : SearchCluster) : Decidable (v.Refreshes c) :=
  inferInstanceAs (Decidable (_ ∧ _))

/-- The phase of applied changes comes with red, unless it was kept because nothing was decided. -/
theorem nextStatus_health {d : PhaseDecision} {s : ClusterStatus}
    (applying : (v.nextStatus d s).phase = .applyingChanges) :
    (v.nextStatus d s).health =
      if d = .unchanged ∧ s.phase = .applyingChanges then v.observed.state else .red := by
  cases d with
  | shutdownStalled detail => cases applying
  | migratingData => cases applying
  | applyingChanges => rfl
  | ready => cases applying
  | unchanged =>
      obtain ⟨phase, health, nodes, version⟩ := s
      cases phase with
      | applyingChanges => rfl
      | migratingData => cases applying
      | ready => cases applying
      | nodeShutdownStalled => rfl
      | invalid => rfl

/-- A tracker that ends in the phase of applied changes is that of a pass over an accepted
cluster. -/
theorem tracked_health (applying : (v.tracked c h).status.phase = .applyingChanges) :
    (v.tracked c h).status.health = if v.Refreshes c then v.observed.state else .red := by
  cases checked : c.check v.name h with
  | error e =>
      rw [(tracked_of_rejected checked).1] at applying
      cases applying
  | ok _ =>
      rw [(tracked_of_accepted checked).1] at applying ⊢
      exact nextStatus_health applying

/-- A pass leaves the status as it is, or leaves another one. -/
theorem status_after_cases (v : View) (c : SearchCluster) :
    (v.after c).status = c.status ∨ ∃ s, (v.after c).status = some s ∧ c.status ≠ some s := by
  cases left : (v.after c).status with
  | some s =>
      by_cases same : c.status = some s
      · exact .inl same.symm
      · exact .inr ⟨s, rfl, same⟩
  | none =>
      left
      cases before : c.status with
      | none => rfl
      | some s =>
          by_cases loaded : ∃ h, c.Loads h
          · obtain ⟨h, loads⟩ := loaded
            rw [status_after_of_some loads before] at left
            cases left
          · rw [after_of_not_loads (not_exists.mp loaded), before] at left
            cases left

end View

namespace SearchCluster

variable {c left : SearchCluster} {v : View} {α : Type} {result : Except Error α} {made : List Call}

/-- A pass leaves the status as it is, or stores the one that it wrote. -/
theorem Wrote.status (wrote : Wrote c (v.after c) result made left) :
    left.status = c.status ∨
      ∃ s, left.status = some s ∧ .patchClusterStatus c.name c.space s ∈ made := by
  cases wrote with
  | all a =>
      refine (v.status_after_cases c).imp_right fun ⟨s, reached, differs⟩ => ⟨s, reached, ?_⟩
      rw [writes, statusWrites, reached]
      simp only
      rw [if_pos differs]
      exact List.mem_append_right _ (List.mem_singleton_self _)
  | hintsOnly e => exact .inl rfl
  | nothing e => exact .inl rfl
  | unread e => exact .inl rfl

end SearchCluster

/-! ## Runs -/

namespace Simulation

/-- The pass of a round writes a status, which is stored then. -/
structure ClusterRound.StoresStatus {γ : Type} {read : World → γ} (t : ClusterRound read)
    (w : World) (s : ClusterStatus) : Prop where
  written : ∃ made name space, (t.run w).calls = (t.change w).calls ++ made ∧
    .patchClusterStatus name space s ∈ made
  stored : (t.run w).cluster.bind (·.status) = some s

/-- The pass of a round decides nothing while changes are being applied. -/
def ClusterRound.Refreshes {γ : Type} {read : World → γ} (t : ClusterRound read) (w : World) :
    Prop :=
  ∃ c, (t.change w).cluster = some c ∧ ((t.change w).view t.timeout t.now t.name).Refreshes c

namespace World

open SearchCluster

def clusterStatus? (w : World) : Option (Option ClusterStatus) := w.cluster.map (·.status)

variable {γ : Type} {read : World → γ} {w : World} {c : SearchCluster} {s : ClusterStatus}

/-- A status that a round stores is the one that the tracker of its pass ends with. -/
theorem tracked_of_storesStatus {t : ClusterRound read} (stores : t.StoresStatus w s) :
    ∃ c h, (t.change w).cluster = some c ∧
      (((t.change w).view t.timeout t.now t.name).tracked c h).status = s := by
  obtain ⟨made, n, sp, calls, member⟩ := stores.written
  cases found : (t.change w).cluster with
  | none =>
      rw [ClusterRound.run, pass_of_none found] at calls
      cases List.append_cancel_left calls
      cases List.mem_singleton.mp member
  | some c =>
      obtain ⟨o, ran, accounts⟩ := pass_outcome found t.timeout t.now t.name t.space
      have ran : t.run w = o.world (t.change w) c := ran
      rw [ran] at calls
      cases List.append_cancel_left (show _ ++ o.calls = _ ++ made from calls)
      obtain ⟨among, h, loads⟩ := accounts.written rfl member
      refine ⟨c, h, rfl, ?_⟩
      rw [← View.status_after loads, status_of_mem_writes among, Option.getD_some]

/-- A status that a round stores in the phase of applied changes is red, unless the round refreshed
what was observed in this phase. -/
theorem health_of_storesStatus {t : ClusterRound read} (stores : t.StoresStatus w s)
    (applying : s.phase = .applyingChanges) :
    (t.Refreshes w → s.health = ((t.change w).observation t.timeout).state) ∧
      (¬ t.Refreshes w → s.health = .red) := by
  obtain ⟨c, h, found, rfl⟩ := tracked_of_storesStatus stores
  rw [View.tracked_health applying]
  constructor
  · rintro ⟨d, same, refreshes⟩
    cases found.symm.trans same
    rw [if_pos refreshes]
    rfl
  · intro decided
    rw [if_neg fun refreshes => decided ⟨c, found, refreshes⟩]

/-- A round keeps the status, or it stores one. -/
theorem clusterStatus?_run (t : ClusterRound clusterStatus?) (w : World) :
    (t.run w).clusterStatus? = w.clusterStatus? ∨
      ∃ s, (t.run w).clusterStatus? = some (some s) ∧ t.StoresStatus w s := by
  cases found : (t.change w).cluster with
  | none =>
      left
      rw [← t.keeps w, ClusterRound.run, pass_of_none found, called, clusterStatus?, clusterStatus?]
  | some c =>
      obtain ⟨o, ran, accounts⟩ := pass_outcome found t.timeout t.now t.name t.space
      have ran : t.run w = o.world (t.change w) c := ran
      rcases accounts.wrote.status with same | ⟨s, left, written⟩
      · left
        rw [← t.keeps w, ran, clusterStatus?, clusterStatus?, found]
        exact congrArg some same
      · right
        refine ⟨s, ?_, ⟨o.calls, c.name, c.space, ?_, List.mem_append_right _ written⟩, ?_⟩
        · rw [ran]
          exact congrArg some left
        · rw [ran]
          rfl
        · rw [ran]
          exact left

/-- From no status on, every status was stored by some round. -/
theorem exists_storesStatus (fresh : w.clusterStatus? = some none)
    (ts : List (ClusterRound clusterStatus?))
    (reached : (w.rounds ts).clusterStatus? = some (some s)) :
    ∃ earlier t later, ts = earlier ++ t :: later ∧ t.StoresStatus (w.rounds earlier) s := by
  induction ts using List.reverseRecOn with
  | nil => cases fresh.symm.trans reached
  | append_singleton ts t ih =>
      have last : w.rounds (ts ++ [t]) = t.run (w.rounds ts) := rounds_append ts [t] w
      rw [last] at reached
      rcases clusterStatus?_run t (w.rounds ts) with kept | ⟨other, left, stores⟩
      · obtain ⟨earlier, first, later, rfl, stores⟩ := ih (kept.symm.trans reached)
        exact ⟨earlier, first, later ++ [t], by simp, stores⟩
      · cases left.symm.trans reached
        exact ⟨ts, t, [], rfl, stores⟩

/-- Let a cluster have no status yet, and let only passes write it. At every moment of a run, a
status in the phase of applied changes that the next pass stores is red, unless this pass decides
nothing and finds the cluster in this phase already, be it because it has no status yet: then it is
the health that the pass observed. And every status was stored by some pass of the run. -/
theorem red_unless_refreshed (stored : w.cluster = some c) (fresh : c.status = none)
    (ts : List (ClusterRound clusterStatus?)) :
    (∀ (t : ClusterRound clusterStatus?) (s : ClusterStatus), t.StoresStatus (w.rounds ts) s →
      s.phase = .applyingChanges →
        (t.Refreshes (w.rounds ts) →
          s.health = ((t.change (w.rounds ts)).observation t.timeout).state) ∧
        (¬ t.Refreshes (w.rounds ts) → s.health = .red)) ∧
    ∀ d s, (w.rounds ts).cluster = some d → d.status = some s →
      ∃ earlier t later, ts = earlier ++ t :: later ∧ t.StoresStatus (w.rounds earlier) s := by
  refine ⟨fun t s stores applying => health_of_storesStatus stores applying,
    fun d s found left => ?_⟩
  have begin : w.clusterStatus? = some none := by rw [clusterStatus?, stored, Option.map_some, fresh]
  have reached : (w.rounds ts).clusterStatus? = some (some s) := by
    rw [clusterStatus?, found, Option.map_some, left]
  exact exists_storesStatus begin ts reached

def reportingHealth (health : String) : ClusterRound clusterStatus? where
  change w :=
    { w with store := .ofList [(Observation.healthPath,
      Json.bytesOf ("\x7b\"status\":\"" ++ health ++ "\"\x7d"))] }
  keeps _ := rfl
  timeout := ⟨1⟩
  now := 0
  name := "logs"
  space := ""

/-- A cluster that no pass saw yet, and whose StatefulSet is missing. -/
def missingWorld : World := { freshWorld [] with statefulSets := [] }

/-- While the StatefulSet is missing, the health is red although the cluster is green. -/
theorem red_unless_refreshed_missing :
    ∃ s, (reportingHealth "green").StoresStatus missingWorld s ∧ s.phase = .applyingChanges ∧
      ¬ (reportingHealth "green").Refreshes missingWorld ∧ s.health = .red := by
  have reached : ((reportingHealth "green").run missingWorld).clusterStatus? =
      some (some ⟨.applyingChanges, .red, 0, ""⟩) := by decide +kernel
  have decided : ¬ (reportingHealth "green").Refreshes missingWorld := by
    rintro ⟨c, found, undecided, -⟩
    cases found
    exact absurd undecided (by decide)
  rcases clusterStatus?_run (reportingHealth "green") missingWorld with kept | ⟨s, left, stores⟩
  · cases reached.symm.trans kept
  · cases left.symm.trans reached
    have next := (red_unless_refreshed (w := missingWorld) rfl rfl []).1 _ _ stores rfl
    exact ⟨_, stores, rfl, decided, next.2 decided⟩

/-- Before its only pod is there, a cluster whose StatefulSet is as declared is in the phase of
applied changes with the health that it reports. When this health drops from green to red, no event
tells of it. -/
theorem reported_while_applying :
    (freshWorld []).clusterStatus? = some none ∧
      (∃ s, (reportingHealth "green").StoresStatus (freshWorld []) s ∧
        s.phase = .applyingChanges ∧ s.health = .green) ∧
      ((freshWorld []).rounds [reportingHealth "green", reportingHealth "red"]).clusterStatus? =
        some (some ⟨.applyingChanges, .red, 0, "8.1.0"⟩) ∧
      ((freshWorld []).rounds [reportingHealth "green", reportingHealth "red"]).events = [] := by
  have reached : ((reportingHealth "green").run (freshWorld [])).clusterStatus? =
      some (some ⟨.applyingChanges, .green, 0, "8.1.0"⟩) := by decide +kernel
  refine ⟨rfl, ?_, by decide +kernel, by decide +kernel⟩
  rcases clusterStatus?_run (reportingHealth "green") (freshWorld []) with kept | ⟨s, left, stores⟩
  · cases reached.symm.trans kept
  · cases left.symm.trans reached
    exact ⟨_, stores, rfl, rfl⟩

end World

end Simulation

end SearchOperator
