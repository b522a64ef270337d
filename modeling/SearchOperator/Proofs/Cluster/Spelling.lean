import SearchOperator.Proofs.Cluster.Upgrading

/-!
# Spellings of a version

A version has many texts: build metadata and leading zeros are dropped when it is read. The check of
the step to the declared version reads its text, so the spelling has no part in it. The decision on
the phase and the hint of an upgrade compare the text with labels instead. They tell two spellings
apart exactly where the labels agree on one of them.
-/

namespace SearchOperator

/-- Some pods to be are labelled with a version, and all that are have one text for it. -/
structure Resources.AgreeOn (r : Resources) (text : String) : Prop where
  labelled : ∃ set ∈ r.statefulSets, set.IsLabelled text
  only : ∀ set ∈ r.statefulSets, ∀ version, set.IsLabelled version → version = text

namespace SearchCluster

variable {c : SearchCluster} {r : Resources} {text : String}

def respelled (c : SearchCluster) (text : String) : SearchCluster :=
  { c with spec := { c.spec with version := text } }

theorem respelled_self (c : SearchCluster) : c.respelled c.spec.version = c := rfl

theorem respelled_respelled (c : SearchCluster) (text : String) :
    (c.respelled text).respelled c.spec.version = c := rfl

/-! ## The check of the step -/

/-- The check reads the text of the declared version. -/
theorem checkUpgrade_respelled (same : Version.parse text = Version.parse c.spec.version)
    (h : Hints) : (c.respelled text).checkUpgrade h = c.checkUpgrade h := by
  have reported : (c.respelled text).reportedVersion? h = c.reportedVersion? h := rfl
  have name : (c.respelled text).name = c.name := rfl
  have version : (c.respelled text).spec.version = text := rfl
  rw [checkUpgrade, checkUpgrade, reported, name, version, same]

/-! ## The hint of an upgrade -/

/-- Labels agree on the text of a cluster if no other text would leave its hint down. -/
theorem agreeOn_iff (differ : text ≠ c.spec.version) :
    r.AgreeOn c.spec.version ↔
      isUpgrading c r = false ∧ isUpgrading (c.respelled text) r = true := by
  rw [← Bool.not_eq_true, isUpgrading_iff, isUpgrading_iff]
  constructor
  · rintro ⟨⟨set, listed, labelled⟩, only⟩
    refine ⟨?_, set, listed, c.spec.version, labelled, Ne.symm differ⟩
    rintro ⟨other, member, version, named, unlike⟩
    exact unlike (only other member version named)
  · rintro ⟨down, set, listed, version, labelled, -⟩
    have only : ∀ other ∈ r.statefulSets, ∀ version, other.IsLabelled version →
        version = c.spec.version := by
      intro other member version named
      by_contra unlike
      exact down ⟨other, member, version, named, unlike⟩
    exact ⟨⟨set, listed, only set listed version labelled ▸ labelled⟩, only⟩

theorem isUpgrading_respelled_ne_iff :
    isUpgrading (c.respelled text) r ≠ isUpgrading c r ↔
      text ≠ c.spec.version ∧ (r.AgreeOn c.spec.version ∨ r.AgreeOn text) := by
  by_cases differ : text = c.spec.version
  · rw [differ, respelled_self]
    simp
  · have other : r.AgreeOn text ↔ _ := agreeOn_iff (c := c.respelled text) (Ne.symm differ)
    rw [agreeOn_iff differ, other, respelled_respelled]
    cases isUpgrading (c.respelled text) r <;> cases isUpgrading c r <;> simp [differ]

/-! ## The decision on the phase -/

/-- The StatefulSet behind a node set has as many replicas as declared, and its pods to be are
labelled with a text. -/
def IsSettledAs (c : SearchCluster) (r : Resources) (text : String) (s : NodeSet) : Prop :=
  ∃ set, c.Backs r s set ∧ set.Declares s.count ∧ set.IsLabelled text

theorem isSettledAs_iff {s : NodeSet} :
    c.IsSettledAs r c.spec.version s ↔ ¬ c.Shrinks r s ∧ ¬ c.Lags r s := by
  cases found : r.statefulSet? (statefulSetName c.name s.name) with
  | none =>
      have none := statefulSet?_eq_none.mp found
      constructor
      · rintro ⟨set, backs, -⟩
        exact absurd backs (none set)
      · rintro ⟨-, settled⟩
        exact absurd (.inl none) settled
  | some set =>
      have backs := statefulSet?_eq_some.mp found
      rw [shrinks_iff backs, lags_iff backs, not_or, not_not, ← StatefulSet.isLabelled_iff]
      constructor
      · rintro ⟨other, again, declares, labelled⟩
        rw [← backs.unique again, StatefulSet.declares_iff.mp declares]
        exact ⟨Int.lt_irrefl _, Int.lt_irrefl _, labelled⟩
      · rintro ⟨steady, enough, labelled⟩
        exact ⟨set, backs, StatefulSet.declares_iff.mpr (by omega), labelled⟩

/-- No node set is settled under two texts. -/
theorem IsSettledAs.unique {s : NodeSet} {other : String} (settled : c.IsSettledAs r text s)
    (again : c.IsSettledAs r other s) : other = text := by
  obtain ⟨set, backs, -, labelled⟩ := settled
  obtain ⟨set', backs', -, labelled'⟩ := again
  cases backs.unique backs'
  rw [StatefulSet.isLabelled_iff] at labelled labelled'
  exact Option.some.inj (labelled'.symm.trans labelled)

end SearchCluster

namespace PhaseDecision

variable {c : SearchCluster} {r : Resources} {text : String} {now : Int}

theorem surveyed_eq_settled_iff :
    surveyed c r = .settled ↔ ∀ s ∈ c.spec.nodeSets, c.IsSettledAs r c.spec.version s := by
  simp only [surveyed_eq_settled, SearchCluster.isSettledAs_iff, forall₂_and]

/-- Which node sets shrink has nothing to do with the version. -/
theorem surveyed_respelled_eq_shrinking :
    surveyed (c.respelled text) r = .shrinking ↔ surveyed c r = .shrinking := by
  rw [surveyed_eq_shrinking, surveyed_eq_shrinking]
  exact Iff.rfl

theorem surveyed_respelled_ne_iff :
    surveyed (c.respelled text) r ≠ surveyed c r ↔
      text ≠ c.spec.version ∧ c.spec.nodeSets ≠ [] ∧
        ((∀ s ∈ c.spec.nodeSets, c.IsSettledAs r c.spec.version s) ∨
          ∀ s ∈ c.spec.nodeSets, c.IsSettledAs r text s) := by
  by_cases differ : text = c.spec.version
  · rw [differ, SearchCluster.respelled_self]
    simp
  have shrinking : surveyed (c.respelled text) r = .shrinking ↔ surveyed c r = .shrinking :=
    surveyed_respelled_eq_shrinking
  have settled : surveyed (c.respelled text) r = .settled ↔
      ∀ s ∈ c.spec.nodeSets, c.IsSettledAs r text s := surveyed_eq_settled_iff
  cases sets : c.spec.nodeSets with
  | nil =>
      -- without node sets nothing lags under any text
      have here : surveyed c r = .settled := surveyed_eq_settled_iff.mpr (by simp [sets])
      simp [here, settled, sets]
  | cons s rest =>
      have notBoth : ¬ (surveyed c r = .settled ∧ surveyed (c.respelled text) r = .settled) := by
        rw [settled, surveyed_eq_settled_iff, sets]
        rintro ⟨here, there⟩
        exact differ ((here s List.mem_cons_self).unique (there s List.mem_cons_self))
      rw [← sets, ← settled, ← surveyed_eq_settled_iff, sets]
      cases here : surveyed c r with
      | shrinking => simp [shrinking.mpr here]
      | settled =>
          have unlike : surveyed (c.respelled text) r ≠ .settled := fun there => notBoth ⟨here, there⟩
          simp [differ, unlike]
      | pending =>
          -- what shrinks under one text would shrink under the other
          have steady : surveyed (c.respelled text) r ≠ .shrinking := by
            rw [ne_eq, shrinking, here]
            simp
          cases there : surveyed (c.respelled text) r with
          | shrinking => exact absurd there steady
          | settled => simp [differ]
          | pending => simp

/-- Unless a pod is stuck, the decision follows what the node sets come to. -/
theorem decide_respelled_ne_iff :
    decide (c.respelled text) r now ≠ decide c r now ↔
      (∀ p ∈ r.pods, ¬ p.IsStuck now) ∧ surveyed (c.respelled text) r ≠ surveyed c r := by
  by_cases moving : ∀ p ∈ r.pods, ¬ p.IsStuck now
  · have nodeSets : (c.respelled text).spec.nodeSets = c.spec.nodeSets := rfl
    rw [and_iff_right moving, decide_of_moving moving, decide_of_moving moving, nodeSets]
    by_cases enough : (c.spec.nodeSets.map (·.count)).sum ≤ r.pods.countP (·.IsAvailable)
    · simp only [if_pos enough]
      cases surveyed (c.respelled text) r <;> cases surveyed c r <;> simp
    · simp only [if_neg enough]
      cases surveyed (c.respelled text) r <;> cases surveyed c r <;> simp
  · cases stalled : r.stalledPod? now (stallSeconds * 1000) with
    | none => exact absurd (Resources.stalledPod?_eq_none.mp stalled) moving
    | some pod => simp [decide, stalled, moving]

end PhaseDecision

namespace SearchCluster

open PhaseDecision (pairCluster namedSet readyPod)

/-- Another text for the same version changes nothing about the check of the step to it. It changes
the decision on the phase exactly if no pod is stuck, there are node sets, and all of them are
settled under one of the two texts; and it changes the hint of an upgrade exactly if the labels
agree on one of the two texts. -/
theorem respelled_tells {c : SearchCluster} {text : String} {v : Version}
    (declared : Version.parse c.spec.version = .ok v) (other : Version.parse text = .ok v)
    (h : Hints) (r : Resources) (now : Int) :
    (c.respelled text).checkUpgrade h = c.checkUpgrade h ∧
    (PhaseDecision.decide (c.respelled text) r now ≠ PhaseDecision.decide c r now ↔
      (∀ p ∈ r.pods, ¬ p.IsStuck now) ∧ text ≠ c.spec.version ∧ c.spec.nodeSets ≠ [] ∧
        ((∀ s ∈ c.spec.nodeSets, c.IsSettledAs r c.spec.version s) ∨
          ∀ s ∈ c.spec.nodeSets, c.IsSettledAs r text s)) ∧
    (isUpgrading (c.respelled text) r ≠ isUpgrading c r ↔
      text ≠ c.spec.version ∧ (r.AgreeOn c.spec.version ∨ r.AgreeOn text)) := by
  refine ⟨checkUpgrade_respelled (other.trans declared.symm) h, ?_, isUpgrading_respelled_ne_iff⟩
  rw [PhaseDecision.decide_respelled_ne_iff, PhaseDecision.surveyed_respelled_ne_iff]

def settledResources : Resources :=
  ⟨[readyPod "logs-search-data-0" "data", readyPod "logs-search-master-0" "master"],
    [namedSet "logs-search-data" 1 "8.1.0", namedSet "logs-search-master" 1 "8.1.0"]⟩

def previousHints : Hints := Hints.none.set Hints.createdAtVersion (.string "8.0.0")

/-- A zero before the version is lost on the check of the step, but neither on the decision nor on
the hint. -/
theorem respelled_tells_zero :
    Version.parse pairCluster.spec.version = .ok (.release 8 1 0) ∧
    Version.parse "8.01.0" = .ok (.release 8 1 0) ∧
    (pairCluster.respelled "8.01.0").checkUpgrade previousHints =
      pairCluster.checkUpgrade previousHints ∧
    PhaseDecision.decide (pairCluster.respelled "8.01.0") settledResources 0 ≠
      PhaseDecision.decide pairCluster settledResources 0 ∧
    isUpgrading (pairCluster.respelled "8.01.0") settledResources ≠
      isUpgrading pairCluster settledResources := by
  have declared : Version.parse pairCluster.spec.version = .ok (.release 8 1 0) := by
    decide +kernel
  have other : Version.parse "8.01.0" = .ok (.release 8 1 0) := by decide +kernel
  obtain ⟨check, decision, hint⟩ := respelled_tells declared other previousHints settledResources 0
  have differ : "8.01.0" ≠ pairCluster.spec.version := by decide
  have agree : settledResources.AgreeOn pairCluster.spec.version :=
    (agreeOn_iff differ).mpr ⟨by decide +kernel, by decide +kernel⟩
  have settled : ∀ s ∈ pairCluster.spec.nodeSets,
      pairCluster.IsSettledAs settledResources pairCluster.spec.version s :=
    PhaseDecision.surveyed_eq_settled_iff.mp (by decide +kernel)
  have moving : ∀ p ∈ settledResources.pods, ¬ p.IsStuck 0 :=
    Resources.stalledPod?_eq_none.mp (by decide +kernel)
  exact ⟨declared, other, check,
    decision.mpr ⟨moving, differ, List.cons_ne_nil _ _, .inl settled⟩,
    hint.mpr ⟨differ, .inl agree⟩⟩

/-- Build metadata in the declared version are dropped when it is read, and yet they make a ready
cluster one that applies changes and upgrades. -/
theorem respelled_tells_build :
    Version.parse "8.1.0+c9f2cc7d" = Version.parse pairCluster.spec.version ∧
    PhaseDecision.decide pairCluster settledResources 0 = .ready ∧
    PhaseDecision.decide (pairCluster.respelled "8.1.0+c9f2cc7d") settledResources 0 =
      .applyingChanges ∧
    isUpgrading pairCluster settledResources = false ∧
    isUpgrading (pairCluster.respelled "8.1.0+c9f2cc7d") settledResources = true := by
  refine ⟨?_, ?_, ?_, ?_, ?_⟩
  all_goals decide +kernel

end SearchCluster

end SearchOperator
