import SearchOperator.Proofs.Cluster.Rollout
import SearchOperator.Proofs.Config.StatusPatch
import SearchOperator.Proofs.Encoding

/-!
# Patching the status of a cluster

The status of a cluster leaves out nothing but an empty version, and no pass makes a version empty
that was not. So nothing of an earlier status is left where a server merges the status that a pass
patches: it has the same effect there as where it takes the place of the one before.
-/

namespace SearchOperator

open Simulation

namespace ClusterStatus

/-- The members of a status in the order of their keys. -/
def entries (s : ClusterStatus) : List (String × Json) :=
  [("availableNodes", .ofInt s.availableNodes), ("health", .string s.health.text),
    ("phase", .string s.phase.text)] ++
    if s.version = "" then [] else [("version", .string s.version)]

theorem toJson_eq (s : ClusterStatus) : s.toJson = .object s.entries := by
  rw [toJson, members, entries]
  split
  · rfl
  · rfl

theorem toJson_ne_null (s : ClusterStatus) : s.toJson ≠ .null := by
  rw [toJson_eq]
  exact Json.noConfusion

theorem mergePatch_null {next : ClusterStatus} (fits : next.Fits) :
    Json.null.mergePatch next.toJson = next.toJson := by
  obtain ⟨n, nodes, -⟩ := IsInt32.ofInt fits
  rw [toJson_eq, entries, nodes]
  split
  · rfl
  · rfl

/-- Merged into another status, a status is all that is left unless it lacks the other's version. -/
theorem mergePatch_toJson {prev next : ClusterStatus} (fits : next.Fits)
    (named : prev.version ≠ "" → next.version ≠ "") :
    prev.toJson.mergePatch next.toJson = next.toJson := by
  obtain ⟨n, nodes, -⟩ := IsInt32.ofInt fits
  rw [toJson_eq, toJson_eq, entries, entries, nodes]
  by_cases unnamed : next.version = ""
  · have both : prev.version = "" := not_not.mp fun some => named some unnamed
    rw [if_pos unnamed, if_pos both]
    rfl
  · rw [if_neg unnamed]
    split
    · rfl
    · rfl

end ClusterStatus

namespace View

variable {v : View} {c : SearchCluster} {h : Hints}

theorem version_nextStatus_ne_empty (v : View) (d : PhaseDecision) {s : ClusterStatus}
    (named : s.version ≠ "") : (v.nextStatus d s).version ≠ "" := by
  rcases v.nextStatus_version d s with same | ⟨lowest, found, text⟩
  · rw [same]
    exact named
  · obtain ⟨label, -, parsed⟩ := Resources.mem_of_lowestVersion found
    rw [text]
    exact Version.ne_empty_of_parse (Version.parse_text (Version.readable_of_parse parsed))

theorem version_tracked_ne_empty (v : View) (c : SearchCluster) (h : Hints)
    (named : (c.status.getD .initial).version ≠ "") : (v.tracked c h).status.version ≠ "" := by
  cases checked : c.check v.name h with
  | error e =>
      rw [(tracked_of_rejected checked).1]
      exact named
  | ok accepted =>
      rw [(tracked_of_accepted checked).1]
      exact v.version_nextStatus_ne_empty _ named

/-- A version that was reported is never reported as empty. -/
theorem version_after_ne_empty (v : View) (c : SearchCluster)
    (named : (c.status.getD .initial).version ≠ "") :
    ((v.after c).status.getD .initial).version ≠ "" := by
  by_cases loaded : ∃ h, c.Loads h
  · obtain ⟨h, loads⟩ := loaded
    rw [status_after loads]
    exact v.version_tracked_ne_empty c h named
  · rw [after_of_not_loads (not_exists.mp loaded)]
    exact named

/-- A server that merges the status which a pass patches stores just that status. -/
theorem get?_statusPatch_after (v : View) (c : SearchCluster) {name space : String}
    {status : ClusterStatus}
    (written : Call.patchClusterStatus name space status ∈ c.writes (v.after c))
    (fits : status.Fits) {resource : Json}
    (held : resource.get? "status" = c.status.map ClusterStatus.toJson) :
    (resource.mergePatch (ApiRequest.statusPatch status.toJson)).get? "status" =
      some status.toJson := by
  rw [ApiRequest.get?_statusPatch resource status.toJson_ne_null, held]
  cases stored : c.status with
  | none => exact congrArg some (ClusterStatus.mergePatch_null fits)
  | some prev =>
      refine congrArg some (ClusterStatus.mergePatch_toJson fits fun named => ?_)
      have after := v.version_after_ne_empty c (by rwa [stored])
      rwa [SearchCluster.status_of_mem_writes written] at after

end View

end SearchOperator
