import Mathlib.Algebra.Order.BigOperators.Group.List
import Mathlib.Algebra.Order.Group.Nat
import SearchOperator.Proofs.Cluster.Deciding
import SearchOperator.Proofs.Cluster.Validation

/-!
# Available nodes by node set

A cluster is ready by the number of all its available pods. Told apart by their labels, these are
the nodes of the declared node sets, as far as they are declared, and pods in surplus: more of a
node set than declared, or of no declared node set. The number of declared nodes is reached exactly
if the nodes that are missing are no more than the pods in surplus, whichever node sets they are of.
-/

namespace SearchOperator

def Pod.nodeSet? (p : Pod) : Option String := p.metadata.label? nodeSetLabel

/-! ## Pods told apart by their labels -/

namespace Resources

def availableIn (r : Resources) (name : String) : Nat :=
  r.pods.countP fun p => p.IsAvailable ∧ p.nodeSet? = some name

/-- How many available pods are labelled with none of some node sets. -/
def availableBeyond (r : Resources) (names : List String) : Nat :=
  r.pods.countP fun p => p.IsAvailable ∧ ∀ name ∈ names, p.nodeSet? ≠ some name

variable {r : Resources}

/-- The pods beyond some node sets are those of another one and those beyond that one too. -/
theorem availableBeyond_eq_add {name : String} {names : List String} (other : name ∉ names) :
    r.availableBeyond names = r.availableIn name + r.availableBeyond (name :: names) := by
  rw [availableBeyond, availableIn, availableBeyond,
    List.countP_eq_countP_filter_add _ _ fun p => p.nodeSet? = some name, List.countP_filter,
    List.countP_filter]
  congr 1
  · refine List.countP_congr fun p _ => ?_
    simp only [Bool.and_eq_true, decide_eq_true_eq]
    constructor
    · rintro ⟨⟨available, -⟩, labelled⟩
      exact ⟨available, labelled⟩
    · rintro ⟨available, labelled⟩
      refine ⟨⟨available, fun n member same => ?_⟩, labelled⟩
      cases labelled.symm.trans same
      exact other member
  · refine List.countP_congr fun p _ => ?_
    simp only [Bool.and_eq_true, Bool.not_eq_true', decide_eq_true_eq, decide_eq_false_iff_not,
      List.forall_mem_cons]
    rw [and_assoc, and_comm (a := ∀ n ∈ names, _)]

/-- The available pods are those of some node sets with distinct names, and those beyond them. -/
theorem countP_isAvailable {names : List String} (distinct : names.Nodup) :
    r.pods.countP (·.IsAvailable) = (names.map r.availableIn).sum + r.availableBeyond names := by
  -- each name takes its own pods out of those that are beyond the names after it
  induction names with
  | nil => simp [availableBeyond]
  | cons name names ih =>
      obtain ⟨other, distinct⟩ := List.nodup_cons.mp distinct
      rw [ih distinct, availableBeyond_eq_add other, List.map_cons, List.sum_cons]
      omega

end Resources

/-! ## Missing nodes and pods in surplus -/

namespace NodeSet

/-- How many nodes a node set lacks that has some available pods. -/
def missing (s : NodeSet) (available : Nat) : Nat := (s.count - available).toNat

/-- How many more available pods a node set has than it declares. -/
def surplus (s : NodeSet) (available : Nat) : Nat := (available - s.count).toNat

/-- Over some node sets, what is declared and in surplus is what is available and missing. -/
theorem sum_count_add_surplus (available : String → Nat) (sets : List NodeSet) :
    (sets.map (·.count)).sum + (sets.map fun s => s.surplus (available s.name)).sum =
      ((sets.map (·.name)).map available).sum +
        (sets.map fun s => s.missing (available s.name)).sum := by
  induction sets with
  | nil => rfl
  | cons s rest ih =>
      have one : s.count + s.surplus (available s.name) =
          available s.name + s.missing (available s.name) := by
        rw [surplus, missing]
        omega
      simp only [List.map_cons, List.sum_cons]
      omega

end NodeSet

namespace SearchCluster

/-- How many declared nodes are missing: those that no available pod of their node set stands
for. -/
def missing (c : SearchCluster) (r : Resources) : Nat :=
  (c.spec.nodeSets.map fun s => s.missing (r.availableIn s.name)).sum

/-- How many available pods are in surplus: those that stand for no declared node. -/
def surplus (c : SearchCluster) (r : Resources) : Nat :=
  (c.spec.nodeSets.map fun s => s.surplus (r.availableIn s.name)).sum +
    r.availableBeyond (c.spec.nodeSets.map (·.name))

variable {c : SearchCluster} {r : Resources}

/-- What is declared and in surplus is what is available and missing. -/
theorem sum_counts_add_surplus (valid : c.spec.validate = .ok ()) (r : Resources) :
    (c.spec.nodeSets.map (·.count)).sum + c.surplus r =
      r.pods.countP (·.IsAvailable) + c.missing r := by
  have total := NodeSet.sum_count_add_surplus r.availableIn c.spec.nodeSets
  rw [surplus, missing, Resources.countP_isAvailable (ClusterSpec.nodup_names valid)]
  omega

/-- The nodes that are missing of one node set are among those that are missing. -/
theorem count_le_add_missing {s : NodeSet} (member : s ∈ c.spec.nodeSets) :
    s.count ≤ r.availableIn s.name + c.missing r := by
  have part : s.missing (r.availableIn s.name) ≤ c.missing r :=
    List.le_sum_of_mem (List.mem_map_of_mem member)
  rw [NodeSet.missing] at part
  omega

/-- No node is missing exactly if every node set has as many available pods as declared. -/
theorem missing_eq_zero :
    c.missing r = 0 ↔ ∀ s ∈ c.spec.nodeSets, s.count ≤ r.availableIn s.name := by
  rw [missing, List.sum_eq_zero_iff, List.forall_mem_map]
  refine forall₂_congr fun s _ => ?_
  rw [NodeSet.missing]
  omega

end SearchCluster

namespace PhaseDecision

variable {c : SearchCluster}

/-- A valid cluster is ready exactly if no pod is stuck, every node set is as declared, and no more
nodes are missing than available pods are in surplus. So each node set may lack as many nodes as
there are pods in surplus, and none lacks any exactly if no node is missing. -/
theorem decide_ready_iff_missing_le_surplus (valid : c.spec.validate = .ok ()) (r : Resources)
    (now : Int) :
    (decide c r now = .ready ↔
      (∀ p ∈ r.pods, ¬ p.IsStuck now) ∧
        (∀ s ∈ c.spec.nodeSets, ¬ c.Shrinks r s ∧ ¬ c.Lags r s) ∧ c.missing r ≤ c.surplus r) ∧
      (decide c r now = .ready →
        ∀ s ∈ c.spec.nodeSets, s.count ≤ r.availableIn s.name + c.surplus r) ∧
      (c.missing r = 0 ↔ ∀ s ∈ c.spec.nodeSets, s.count ≤ r.availableIn s.name) := by
  have balance := SearchCluster.sum_counts_add_surplus valid r
  have criterion : decide c r now = .ready ↔
      (∀ p ∈ r.pods, ¬ p.IsStuck now) ∧
        (∀ s ∈ c.spec.nodeSets, ¬ c.Shrinks r s ∧ ¬ c.Lags r s) ∧ c.missing r ≤ c.surplus r := by
    rw [decide_eq_iff_fits, forall₂_and]
    constructor
    · intro fits
      cases fits with
      | ready moving steady settled enough => exact ⟨moving, ⟨steady, settled⟩, by omega⟩
    · rintro ⟨moving, ⟨steady, settled⟩, few⟩
      exact .ready moving steady settled (by omega)
  refine ⟨criterion, fun decided s member => ?_, SearchCluster.missing_eq_zero⟩
  have few := (criterion.mp decided).2.2
  have short := SearchCluster.count_le_add_missing (r := r) member
  omega

def readyPod (name nodeSet : String) : Pod :=
  ⟨{ Metadata.blank with name := some name, labels := some (.ofList [(nodeSetLabel, nodeSet)]) },
    some ⟨some "Running", [("Ready", "True")]⟩⟩

/-- Two node sets as declared and one that was left over, with one pod each in two of the three. -/
def leftoverResources : Resources :=
  ⟨[readyPod "logs-search-data-0" "data", readyPod "logs-search-ingest-0" "ingest"],
    [namedSet "logs-search-data" 1 "8.1.0", namedSet "logs-search-master" 1 "8.1.0",
      namedSet "logs-search-ingest" 1 "8.1.0"]⟩

/-- The pod that was left over makes up for the one that is missing, and no more than one can be
missing of any node set. -/
theorem decide_ready_iff_missing_le_surplus_leftover :
    pairCluster.spec.validate = .ok () ∧ pairCluster.missing leftoverResources = 1 ∧
      decide pairCluster leftoverResources 0 = .ready ∧
      ∀ s ∈ pairCluster.spec.nodeSets, s.count ≤ leftoverResources.availableIn s.name + 1 := by
  have valid : pairCluster.spec.validate = .ok () := by decide +kernel
  have missing : pairCluster.missing leftoverResources = 1 := by decide +kernel
  have surplus : pairCluster.surplus leftoverResources = 1 := by decide +kernel
  have decided : decide pairCluster leftoverResources 0 = .ready := by decide +kernel
  obtain ⟨-, short, -⟩ := decide_ready_iff_missing_le_surplus valid leftoverResources 0
  rw [surplus] at short
  exact ⟨valid, missing, decided, short decided⟩

/-- A valid cluster with labelled pods only can be ready while a declared node set has no available
pod at all. -/
theorem ready_without_available_node :
    ¬ ∀ (c : SearchCluster) (r : Resources) (now : Int), c.spec.validate = .ok () →
      c.spec.nodeCount < 2 ^ 31 → (∀ p ∈ r.pods, ∃ name, p.nodeSet? = some name) →
      decide c r now = .ready → ∀ s ∈ c.spec.nodeSets, s.count ≤ r.availableIn s.name := by
  intro all
  have valid : pairCluster.spec.validate = .ok () := by decide +kernel
  have labelled : ∀ p ∈ leftoverResources.pods, ∃ name, p.nodeSet? = some name := by
    intro p member
    refine Option.isSome_iff_exists.mp ?_
    revert p
    decide +kernel
  have decided : decide pairCluster leftoverResources 0 = .ready := by decide +kernel
  have enough := all pairCluster leftoverResources 0 valid (by decide) labelled decided
    ⟨"master", 1⟩ (by decide)
  have none : leftoverResources.availableIn "master" = 0 := by decide +kernel
  rw [none] at enough
  exact absurd enough (by decide)

end PhaseDecision

end SearchOperator
