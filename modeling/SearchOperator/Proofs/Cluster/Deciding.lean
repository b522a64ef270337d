import Mathlib.Algebra.BigOperators.Group.List.Basic
import Mathlib.Algebra.Order.Ring.Int
import SearchOperator.Proofs.Cluster.Phases

/-!
# What a decision says

The phase of a cluster is decided in one search through its node sets, which ends at the first one
that shrinks. What comes out is described here without the search, by the pods that are stuck or
available and by the StatefulSets behind the node sets. No order has a part in it but that of the
pods, which tells the stuck pod that is named.
-/

namespace SearchOperator

/-! ## Pods and StatefulSets -/

namespace Pod

/-- A pod that runs, is ready, and was not asked to go. -/
def IsAvailable (p : Pod) : Prop :=
  p.metadata.deletion = none ∧
    ∃ s, p.status = some s ∧ s.phase = some "Running" ∧ ("Ready", "True") ∈ s.conditions

theorem isReady_iff {p : Pod} : p.isReady = true ↔ p.IsAvailable := by
  rw [isReady, isTerminating, IsAvailable, Bool.and_eq_true, Bool.not_eq_true',
    Option.isSome_eq_false_iff, Option.isNone_iff_eq_none, Option.any_eq_true]
  simp only [Bool.and_eq_true, beq_iff_eq, List.contains_iff_mem]

instance : DecidablePred IsAvailable := fun _ => decidable_of_iff _ isReady_iff

end Pod

namespace StatefulSet

variable {set : StatefulSet}

/-- A StatefulSet declares some number of replicas; to declare none means one. -/
def Declares (set : StatefulSet) (n : Int) : Prop :=
  (∃ spec, set.spec = some spec ∧ spec.replicas = some n) ∨
    (∀ spec, set.spec = some spec → spec.replicas = none) ∧ n = 1

/-- The pods to be of a StatefulSet are labelled with a version. -/
def IsLabelled (set : StatefulSet) (version : String) : Prop :=
  ∃ spec labels, set.spec = some spec ∧ spec.templateLabels = some labels ∧
    labels.get? versionLabel = some version

theorem declares_iff {n : Int} : set.Declares n ↔ set.replicas = n := by
  rw [Declares, replicas]
  cases set.spec with
  | none => simp [eq_comm]
  | some spec =>
      cases found : spec.replicas with
      | none => simp [found, eq_comm]
      | some m => simp [found]

theorem isLabelled_iff {version : String} :
    set.IsLabelled version ↔ set.templateVersion? = some version := by
  rw [IsLabelled, templateVersion?]
  cases set.spec with
  | none => simp
  | some spec => simp [Option.bind_eq_some_iff]

end StatefulSet

namespace Resources

variable {r : Resources} {name : String} {set : StatefulSet}

/-- The StatefulSet with a name is the first one of those that have it. -/
def Holds (r : Resources) (name : String) (set : StatefulSet) : Prop :=
  ∃ before after, r.statefulSets = before ++ set :: after ∧ set.metadata.anyName = name ∧
    ∀ other ∈ before, other.metadata.anyName ≠ name

theorem statefulSet?_eq_some : r.statefulSet? name = some set ↔ r.Holds name set := by
  rw [statefulSet?, List.find?_eq_some_iff_append, Holds, beq_iff_eq]
  constructor
  · rintro ⟨named, before, after, listed, others⟩
    refine ⟨before, after, listed, named, fun other member same => ?_⟩
    simpa [same] using others other member
  · rintro ⟨before, after, listed, named, others⟩
    refine ⟨named, before, after, listed, fun other member => ?_⟩
    simpa using others other member

/-- Of StatefulSets with distinct names, the one with a name needs not to be sought in order. -/
theorem holds_iff_of_nodup (distinct : (r.statefulSets.map (·.metadata.anyName)).Nodup) :
    r.Holds name set ↔ set ∈ r.statefulSets ∧ set.metadata.anyName = name := by
  constructor
  · rintro ⟨before, after, listed, named, -⟩
    rw [listed]
    exact ⟨List.mem_append_right _ List.mem_cons_self, named⟩
  · rintro ⟨member, named⟩
    obtain ⟨before, after, listed⟩ := List.append_of_mem member
    refine ⟨before, after, listed, named, fun other inside same => ?_⟩
    rw [listed, List.map_append, List.map_cons] at distinct
    have apart := (List.nodup_append.mp distinct).2.2
    exact apart _ (List.mem_map_of_mem inside) _ List.mem_cons_self (same.trans named.symm)

theorem stalledPod?_eq_some {now : Int} {pod : Pod} :
    r.stalledPod? now (PhaseDecision.stallSeconds * 1000) = some pod ↔
      pod.IsStuck now ∧ ∃ before after, r.pods = before ++ pod :: after ∧
        ∀ p ∈ before, ¬ p.IsStuck now := by
  rw [stalledPod?, List.find?_eq_some_iff_append]
  simp only [Bool.not_eq_true', ← Bool.not_eq_true, Pod.isStalled_iff]

theorem stalledPod?_eq_none {now : Int} :
    r.stalledPod? now (PhaseDecision.stallSeconds * 1000) = none ↔
      ∀ p ∈ r.pods, ¬ p.IsStuck now := by
  rw [stalledPod?, List.find?_eq_none]
  simp only [Pod.isStalled_iff]

/-- The available nodes are counted pod by pod, although those that were asked to go are left out
before the ready ones are counted. -/
theorem availableNodes_eq (r : Resources) :
    r.availableNodes = r.pods.countP fun p => Decidable.decide p.IsAvailable := by
  rw [availableNodes, countReady, currentPods, ← List.countP_eq_length_filter, List.countP_filter]
  congr 1
  refine List.countP_congr fun p _ => ?_
  rw [Bool.and_eq_true, Bool.not_eq_true', decide_eq_true_iff, Pod.isReady_iff]
  refine and_iff_left_of_imp fun available => ?_
  rw [Pod.isTerminating, available.1]
  rfl

end Resources

/-! ## Node sets -/

namespace SearchCluster

/-- The StatefulSet behind a node set is the one with the name that is derived for it. -/
def Backs (c : SearchCluster) (r : Resources) (s : NodeSet) (set : StatefulSet) : Prop :=
  r.Holds (statefulSetName c.name s.name) set

/-- The StatefulSet behind a node set has more replicas than declared. -/
def Shrinks (c : SearchCluster) (r : Resources) (s : NodeSet) : Prop :=
  ∃ set n, c.Backs r s set ∧ set.Declares n ∧ s.count < n

/-- A node set has no StatefulSet, or one with fewer replicas than declared, or with pods to be that
are not labelled with the declared version. -/
def Lags (c : SearchCluster) (r : Resources) (s : NodeSet) : Prop :=
  (∀ set, ¬ c.Backs r s set) ∨
    ∃ set n, c.Backs r s set ∧ set.Declares n ∧
      (n < s.count ∨ ¬ set.IsLabelled c.spec.version)

variable {c : SearchCluster} {r : Resources} {s : NodeSet}

theorem statefulSet?_eq_some {set : StatefulSet} :
    r.statefulSet? (statefulSetName c.name s.name) = some set ↔ c.Backs r s set :=
  Resources.statefulSet?_eq_some

theorem statefulSet?_eq_none :
    r.statefulSet? (statefulSetName c.name s.name) = none ↔ ∀ set, ¬ c.Backs r s set := by
  simp only [Option.eq_none_iff_forall_ne_some, ne_eq, statefulSet?_eq_some]

/-- No two StatefulSets are behind the same node set. -/
theorem Backs.unique {set other : StatefulSet} (backs : c.Backs r s set)
    (again : c.Backs r s other) : other = set :=
  Option.some.inj ((statefulSet?_eq_some.mpr again).symm.trans (statefulSet?_eq_some.mpr backs))

theorem shrinks_iff {set : StatefulSet} (backs : c.Backs r s set) :
    c.Shrinks r s ↔ s.count < set.replicas := by
  constructor
  · rintro ⟨other, n, again, declares, fewer⟩
    rw [← backs.unique again, StatefulSet.declares_iff.mp declares]
    exact fewer
  · intro fewer
    exact ⟨set, set.replicas, backs, StatefulSet.declares_iff.mpr rfl, fewer⟩

theorem lags_iff {set : StatefulSet} (backs : c.Backs r s set) :
    c.Lags r s ↔ set.replicas < s.count ∨ set.templateVersion? ≠ some c.spec.version := by
  constructor
  · rintro (none | ⟨other, n, again, declares, differs⟩)
    · exact absurd backs (none set)
    · rw [← backs.unique again, StatefulSet.declares_iff.mp declares]
      exact differs.imp_right fun unlike label => unlike (StatefulSet.isLabelled_iff.mpr label)
  · intro differs
    refine .inr ⟨set, set.replicas, backs, StatefulSet.declares_iff.mpr rfl, ?_⟩
    exact differs.imp_right fun unlike label => unlike (StatefulSet.isLabelled_iff.mp label)

end SearchCluster

namespace PhaseDecision

variable {c : SearchCluster} {r : Resources} {s : NodeSet}

/-- A node set shrinks, or else it lags, or else it is settled. -/
theorem nodeSetState_cases (c : SearchCluster) (r : Resources) (s : NodeSet) :
    nodeSetState c r s = .shrinking ∧ c.Shrinks r s ∨
      nodeSetState c r s = .pending ∧ ¬ c.Shrinks r s ∧ c.Lags r s ∨
      nodeSetState c r s = .settled ∧ ¬ c.Shrinks r s ∧ ¬ c.Lags r s := by
  rw [nodeSetState]
  cases found : r.statefulSet? (statefulSetName c.name s.name) with
  | none =>
      have none := SearchCluster.statefulSet?_eq_none.mp found
      refine .inr (.inl ⟨rfl, ?_, .inl none⟩)
      rintro ⟨set, n, backs, -⟩
      exact none set backs
  | some set =>
      have backs := SearchCluster.statefulSet?_eq_some.mp found
      rw [SearchCluster.shrinks_iff backs, SearchCluster.lags_iff backs]
      simp only
      by_cases fewer : s.count < set.replicas
      · exact .inl ⟨if_pos fewer, fewer⟩
      · rw [if_neg fewer]
        by_cases differs : set.replicas ≠ s.count ∨ set.templateVersion? ≠ some c.spec.version
        · refine .inr (.inl ⟨if_pos differs, fewer, differs.imp_left fun other => ?_⟩)
          omega
        · refine .inr (.inr ⟨if_neg differs, fewer, fun lags => differs (lags.imp_left ?_)⟩)
          omega

theorem nodeSetState_eq_shrinking : nodeSetState c r s = .shrinking ↔ c.Shrinks r s := by
  rcases nodeSetState_cases c r s with ⟨state, shrinks⟩ | ⟨state, steady, -⟩ | ⟨state, steady, -⟩
  · exact iff_of_true state shrinks
  · exact iff_of_false (by rw [state]; decide) steady
  · exact iff_of_false (by rw [state]; decide) steady

theorem nodeSetState_eq_settled :
    nodeSetState c r s = .settled ↔ ¬ c.Shrinks r s ∧ ¬ c.Lags r s := by
  rcases nodeSetState_cases c r s with ⟨state, shrinks⟩ | ⟨state, -, lags⟩ | ⟨state, settled⟩
  · exact iff_of_false (by rw [state]; decide) fun settled => settled.1 shrinks
  · exact iff_of_false (by rw [state]; decide) fun settled => settled.2 lags
  · exact iff_of_true state settled

theorem nodeSetState_eq_pending :
    nodeSetState c r s = .pending ↔ ¬ c.Shrinks r s ∧ c.Lags r s := by
  rcases nodeSetState_cases c r s with ⟨state, shrinks⟩ | ⟨state, lags⟩ | ⟨state, -, settled⟩
  · exact iff_of_false (by rw [state]; decide) fun lags => lags.1 shrinks
  · exact iff_of_true state lags
  · exact iff_of_false (by rw [state]; decide) fun lags => settled lags.2

/-! ## The search through the node sets -/

section

variable {state : NodeSet → NodeSetState} {sets : List NodeSet} {pending : Bool}

/-- What the node sets before left pending is of no account to one that shrinks. -/
theorem survey_eq_shrinking :
    survey state pending sets = .shrinking ↔ ∃ s ∈ sets, state s = .shrinking := by
  induction sets generalizing pending with
  | nil => cases pending <;> simp [survey]
  | cons s rest ih =>
      rw [survey]
      cases found : state s with
      | shrinking => simp [found]
      | pending => simp [found, ih]
      | settled => simp [found, ih]

theorem survey_eq_pending :
    survey state pending sets = .pending ↔
      (∀ s ∈ sets, state s ≠ .shrinking) ∧ (pending = true ∨ ∃ s ∈ sets, state s = .pending) := by
  induction sets generalizing pending with
  | nil => cases pending <;> simp [survey]
  | cons s rest ih =>
      rw [survey]
      cases found : state s with
      | shrinking => simp [found]
      | pending => simp [found, ih]
      | settled => simp [found, ih]

theorem survey_eq_settled :
    survey state pending sets = .settled ↔ pending = false ∧ ∀ s ∈ sets, state s = .settled := by
  induction sets generalizing pending with
  | nil => cases pending <;> simp [survey]
  | cons s rest ih =>
      rw [survey]
      cases found : state s with
      | shrinking => simp [found]
      | pending => simp [found, ih]
      | settled => simp [found, ih]

end

/-- What the node sets of a cluster come to. -/
def surveyed (c : SearchCluster) (r : Resources) : NodeSetState :=
  survey (nodeSetState c r) false c.spec.nodeSets

theorem surveyed_eq_shrinking :
    surveyed c r = .shrinking ↔ ∃ s ∈ c.spec.nodeSets, c.Shrinks r s := by
  rw [surveyed, survey_eq_shrinking]
  simp only [nodeSetState_eq_shrinking]

theorem surveyed_eq_pending :
    surveyed c r = .pending ↔
      (∀ s ∈ c.spec.nodeSets, ¬ c.Shrinks r s) ∧ ∃ s ∈ c.spec.nodeSets, c.Lags r s := by
  rw [surveyed, survey_eq_pending]
  simp only [ne_eq, nodeSetState_eq_shrinking, nodeSetState_eq_pending, Bool.false_eq_true,
    false_or]
  refine and_congr_right fun steady => exists_congr fun s => and_congr_right fun member => ?_
  exact and_iff_right (steady s member)

theorem surveyed_eq_settled :
    surveyed c r = .settled ↔
      (∀ s ∈ c.spec.nodeSets, ¬ c.Shrinks r s) ∧ ∀ s ∈ c.spec.nodeSets, ¬ c.Lags r s := by
  rw [surveyed, survey_eq_settled]
  simp only [nodeSetState_eq_settled, true_and]
  exact forall₂_and

/-! ## What each decision says -/

/-- What a decision about a cluster says at a time in milliseconds, each one where those before it
do not hold. -/
inductive Fits (c : SearchCluster) (r : Resources) (now : Int) : PhaseDecision → Prop where
  /-- Some pod is stuck, and the first one is named. -/
  | shutdownStalled {pod : Pod} {before after : List Pod}
      (listed : r.pods = before ++ pod :: after) (stuck : pod.IsStuck now)
      (first : ∀ p ∈ before, ¬ p.IsStuck now) : Fits c r now (.shutdownStalled (stallDetail pod))
  /-- Some node set shrinks. -/
  | migratingData (moving : ∀ p ∈ r.pods, ¬ p.IsStuck now)
      (shrinks : ∃ s ∈ c.spec.nodeSets, c.Shrinks r s) : Fits c r now .migratingData
  /-- Some node set lags behind what is declared. -/
  | applyingChanges (moving : ∀ p ∈ r.pods, ¬ p.IsStuck now)
      (steady : ∀ s ∈ c.spec.nodeSets, ¬ c.Shrinks r s)
      (lags : ∃ s ∈ c.spec.nodeSets, c.Lags r s) : Fits c r now .applyingChanges
  /-- As many pods are available as nodes are declared. -/
  | ready (moving : ∀ p ∈ r.pods, ¬ p.IsStuck now)
      (steady : ∀ s ∈ c.spec.nodeSets, ¬ c.Shrinks r s)
      (settled : ∀ s ∈ c.spec.nodeSets, ¬ c.Lags r s)
      (enough : (c.spec.nodeSets.map (·.count)).sum ≤ r.pods.countP (·.IsAvailable)) :
      Fits c r now .ready
  /-- Fewer pods are available. -/
  | unchanged (moving : ∀ p ∈ r.pods, ¬ p.IsStuck now)
      (steady : ∀ s ∈ c.spec.nodeSets, ¬ c.Shrinks r s)
      (settled : ∀ s ∈ c.spec.nodeSets, ¬ c.Lags r s)
      (few : r.pods.countP (·.IsAvailable) < (c.spec.nodeSets.map (·.count)).sum) :
      Fits c r now .unchanged

variable {now : Int} {d : PhaseDecision}

theorem decide_of_moving (moving : ∀ p ∈ r.pods, ¬ p.IsStuck now) :
    decide c r now =
      match surveyed c r with
      | .shrinking => .migratingData
      | .pending => .applyingChanges
      | .settled =>
        if (c.spec.nodeSets.map (·.count)).sum ≤ r.pods.countP (·.IsAvailable) then .ready
        else .unchanged := by
  rw [decide, Resources.stalledPod?_eq_none.mpr moving, ← Resources.availableNodes_eq]
  rfl

/-- What is decided fits. -/
theorem fits_decide (c : SearchCluster) (r : Resources) (now : Int) :
    Fits c r now (decide c r now) := by
  cases stalled : r.stalledPod? now (stallSeconds * 1000) with
  | some pod =>
      rw [decide, stalled]
      obtain ⟨stuck, before, after, listed, first⟩ := Resources.stalledPod?_eq_some.mp stalled
      exact .shutdownStalled listed stuck first
  | none =>
      have moving := Resources.stalledPod?_eq_none.mp stalled
      rw [decide_of_moving moving]
      cases found : surveyed c r with
      | shrinking => exact .migratingData moving (surveyed_eq_shrinking.mp found)
      | pending =>
          obtain ⟨steady, lags⟩ := surveyed_eq_pending.mp found
          exact .applyingChanges moving steady lags
      | settled =>
          obtain ⟨steady, settled⟩ := surveyed_eq_settled.mp found
          simp only
          split
          · rename_i enough
            exact .ready moving steady settled enough
          · rename_i few
            exact .unchanged moving steady settled (Int.not_le.mp few)

/-- What fits is decided, so nothing else does. -/
theorem Fits.decide_eq (fits : Fits c r now d) : decide c r now = d := by
  cases fits with
  | shutdownStalled listed stuck first =>
      rw [decide, Resources.stalledPod?_eq_some.mpr ⟨stuck, _, _, listed, first⟩]
  | migratingData moving shrinks =>
      rw [decide_of_moving moving, surveyed_eq_shrinking.mpr shrinks]
  | applyingChanges moving steady lags =>
      rw [decide_of_moving moving, surveyed_eq_pending.mpr ⟨steady, lags⟩]
  | ready moving steady settled enough =>
      rw [decide_of_moving moving, surveyed_eq_settled.mpr ⟨steady, settled⟩]
      exact if_pos enough
  | unchanged moving steady settled few =>
      rw [decide_of_moving moving, surveyed_eq_settled.mpr ⟨steady, settled⟩]
      exact if_neg (Int.not_le.mpr few)

theorem decide_eq_iff_fits : decide c r now = d ↔ Fits c r now d :=
  ⟨fun decided => decided ▸ fits_decide c r now, Fits.decide_eq⟩

/-- A pod that is stuck decides, and one that is stuck is named. -/
theorem exists_named (stuck : ∃ p ∈ r.pods, p.IsStuck now) (c : SearchCluster) :
    ∃ p ∈ r.pods, p.IsStuck now ∧ decide c r now = .shutdownStalled (stallDetail p) := by
  obtain ⟨late, member, stuck⟩ := stuck
  cases stalled : r.stalledPod? now (stallSeconds * 1000) with
  | none => exact absurd stuck (Resources.stalledPod?_eq_none.mp stalled late member)
  | some p =>
      obtain ⟨stuck, before, after, listed, -⟩ := Resources.stalledPod?_eq_some.mp stalled
      refine ⟨p, ?_, stuck, by rw [decide, stalled]⟩
      rw [listed]
      exact List.mem_append_right _ List.mem_cons_self

/-! ## The order of pods, StatefulSets and node sets -/

/-- A cluster and resources with their parts in another order, as far as decisions look at them. -/
structure Rearranges (other c : SearchCluster) (others r : Resources) : Prop where
  version : other.spec.version = c.spec.version
  nodeSets : other.spec.nodeSets.Perm c.spec.nodeSets
  backs : ∀ s set, other.Backs others s set ↔ c.Backs r s set
  pods : others.pods.Perm r.pods

namespace Rearranges

variable {other : SearchCluster} {others : Resources}

theorem shrinks_iff (alike : Rearranges other c others r) :
    other.Shrinks others s ↔ c.Shrinks r s := by
  simp only [SearchCluster.Shrinks, alike.backs]

theorem lags_iff (alike : Rearranges other c others r) : other.Lags others s ↔ c.Lags r s := by
  simp only [SearchCluster.Lags, alike.backs, alike.version]

theorem moving (alike : Rearranges other c others r) (moving : ∀ p ∈ r.pods, ¬ p.IsStuck now) :
    ∀ p ∈ others.pods, ¬ p.IsStuck now :=
  fun p member => moving p (alike.pods.mem_iff.mp member)

theorem steady (alike : Rearranges other c others r)
    (steady : ∀ s ∈ c.spec.nodeSets, ¬ c.Shrinks r s) :
    ∀ s ∈ other.spec.nodeSets, ¬ other.Shrinks others s :=
  fun s member shrinks =>
    steady s (alike.nodeSets.mem_iff.mp member) (alike.shrinks_iff.mp shrinks)

theorem settled (alike : Rearranges other c others r)
    (settled : ∀ s ∈ c.spec.nodeSets, ¬ c.Lags r s) :
    ∀ s ∈ other.spec.nodeSets, ¬ other.Lags others s :=
  fun s member lags => settled s (alike.nodeSets.mem_iff.mp member) (alike.lags_iff.mp lags)

/-- What fits without naming a pod fits after the rearrangement too. -/
theorem fits (alike : Rearranges other c others r) (fits : Fits c r now d)
    (unnamed : ∀ detail, d ≠ .shutdownStalled detail) : Fits other others now d := by
  have sum := (alike.nodeSets.map (·.count)).sum_eq
  have count := alike.pods.countP_eq (·.IsAvailable)
  cases fits with
  | shutdownStalled => exact absurd rfl (unnamed _)
  | migratingData moving shrinks =>
      obtain ⟨s, member, shrinks⟩ := shrinks
      exact .migratingData (alike.moving moving)
        ⟨s, alike.nodeSets.mem_iff.mpr member, alike.shrinks_iff.mpr shrinks⟩
  | applyingChanges moving steady lags =>
      obtain ⟨s, member, lags⟩ := lags
      exact .applyingChanges (alike.moving moving) (alike.steady steady)
        ⟨s, alike.nodeSets.mem_iff.mpr member, alike.lags_iff.mpr lags⟩
  | ready moving steady settled enough =>
      refine .ready (alike.moving moving) (alike.steady steady) (alike.settled settled) ?_
      rw [sum, count]
      exact enough
  | unchanged moving steady settled few =>
      refine .unchanged (alike.moving moving) (alike.steady steady) (alike.settled settled) ?_
      rw [sum, count]
      exact few

theorem decide_eq_of_moving (alike : Rearranges other c others r)
    (moving : ∀ p ∈ r.pods, ¬ p.IsStuck now) : decide other others now = decide c r now := by
  refine (alike.fits (fits_decide c r now) fun detail decided => ?_).decide_eq
  obtain ⟨pod, member, stuck⟩ := View.decide_eq_stalled.mp ⟨detail, decided⟩
  exact moving pod member stuck

/-- After a rearrangement the decision is the same, or it may name another pod that is stuck. -/
theorem decide_eq_or (alike : Rearranges other c others r) (now : Int) :
    decide other others now = decide c r now ∨
      ∃ p ∈ r.pods, ∃ q ∈ r.pods, p.IsStuck now ∧ q.IsStuck now ∧
        decide c r now = .shutdownStalled (stallDetail p) ∧
        decide other others now = .shutdownStalled (stallDetail q) := by
  by_cases stuck : ∃ p ∈ r.pods, p.IsStuck now
  · obtain ⟨p, listed, late, decided⟩ := exists_named stuck c
    obtain ⟨q, listed', late', decided'⟩ :=
      exists_named ⟨p, alike.pods.mem_iff.mpr listed, late⟩ other
    exact .inr ⟨p, listed, q, alike.pods.mem_iff.mp listed', late, late', decided, decided'⟩
  · exact .inl (alike.decide_eq_of_moving fun p member late => stuck ⟨p, member, late⟩)

/-- While the pods keep their order, the same pod is named. -/
theorem decide_eq_of_pods (alike : Rearranges other c others r) (same : others.pods = r.pods)
    (now : Int) : decide other others now = decide c r now := by
  have first : others.stalledPod? now (stallSeconds * 1000) =
      r.stalledPod? now (stallSeconds * 1000) := by
    rw [Resources.stalledPod?, Resources.stalledPod?, same]
  cases stalled : r.stalledPod? now (stallSeconds * 1000) with
  | none => exact alike.decide_eq_of_moving (Resources.stalledPod?_eq_none.mp stalled)
  | some p => rw [decide, decide, first, stalled]

end Rearranges

/-- Every decision fits the pods, the StatefulSets behind the node sets and the number of available
pods, and no other decision does. So it depends neither on the order of the node sets nor on that of
StatefulSets with distinct names, nor on that of the pods, but for the stuck pod that it names. -/
theorem decide_fits_in_any_order (c : SearchCluster) (r : Resources) (now : Int) :
    (∀ d, decide c r now = d ↔ Fits c r now d) ∧
    (∀ sets, sets.Perm c.spec.nodeSets →
      decide { c with spec := ⟨c.spec.version, sets⟩ } r now = decide c r now) ∧
    ((r.statefulSets.map (·.metadata.anyName)).Nodup → ∀ sets, sets.Perm r.statefulSets →
      decide c ⟨r.pods, sets⟩ now = decide c r now) ∧
    ∀ pods, pods.Perm r.pods →
      decide c ⟨pods, r.statefulSets⟩ now = decide c r now ∨
        ∃ p ∈ r.pods, ∃ q ∈ r.pods, p.IsStuck now ∧ q.IsStuck now ∧
          decide c r now = .shutdownStalled (stallDetail p) ∧
          decide c ⟨pods, r.statefulSets⟩ now = .shutdownStalled (stallDetail q) := by
  refine ⟨fun d => decide_eq_iff_fits, fun sets perm => ?_, fun distinct sets perm => ?_,
    fun pods perm => ?_⟩
  · have alike : Rearranges { c with spec := ⟨c.spec.version, sets⟩ } c r r :=
      ⟨rfl, perm, fun _ _ => Iff.rfl, .refl _⟩
    exact alike.decide_eq_of_pods rfl now
  · have alike : Rearranges c c ⟨r.pods, sets⟩ r := by
      refine ⟨rfl, .refl _, fun s set => ?_, .refl _⟩
      have again : (sets.map (·.metadata.anyName)).Nodup := (perm.map _).nodup_iff.mpr distinct
      rw [SearchCluster.Backs, SearchCluster.Backs, Resources.holds_iff_of_nodup distinct,
        Resources.holds_iff_of_nodup again, perm.mem_iff]
    exact alike.decide_eq_of_pods rfl now
  · have alike : Rearranges c c ⟨pods, r.statefulSets⟩ r :=
      ⟨rfl, .refl _, fun _ _ => Iff.rfl, perm⟩
    exact alike.decide_eq_or now

def pairCluster : SearchCluster :=
  ⟨{ Metadata.blank with name := some "logs" }, ⟨"8.1.0", [⟨"data", 1⟩, ⟨"master", 1⟩]⟩, none⟩

def namedSet (name : String) (replicas : Int) (version : String) : StatefulSet :=
  ⟨{ Metadata.blank with name := some name },
    some ⟨some replicas, some (.ofList [(versionLabel, version)])⟩⟩

def leavingPod (name : String) : Pod :=
  ⟨{ Metadata.blank with name := some name, deletion := some 0 }, none⟩

/-- The first node set of the two has no StatefulSet, and the second one shrinks. Two pods leave. -/
def pairResources : Resources :=
  ⟨[leavingPod "logs-search-master-0", leavingPod "logs-search-master-1"],
    [namedSet "logs-search-master" 2 "8.1.0", namedSet "logs-search-old" 1 "8.0.0"]⟩

/-- The second node set decides in whichever order node sets and StatefulSets come, until a pod that
leaves is stuck; then one of the two is named. -/
theorem decide_fits_in_any_order_pair :
    Fits pairCluster pairResources 0 .migratingData ∧
      decide { pairCluster with spec := ⟨"8.1.0", [⟨"master", 1⟩, ⟨"data", 1⟩]⟩ } pairResources 0 =
        .migratingData ∧
      decide pairCluster ⟨pairResources.pods,
        [namedSet "logs-search-old" 1 "8.0.0", namedSet "logs-search-master" 2 "8.1.0"]⟩ 0 =
        .migratingData ∧
      ∃ p ∈ pairResources.pods, p.IsStuck 300001 ∧
        decide pairCluster
          ⟨[leavingPod "logs-search-master-1", leavingPod "logs-search-master-0"],
            pairResources.statefulSets⟩ 300001 = .shutdownStalled (stallDetail p) := by
  have decided : decide pairCluster pairResources 0 = .migratingData := by decide +kernel
  have named : decide pairCluster pairResources 300001 =
      .shutdownStalled (stallDetail (leavingPod "logs-search-master-0")) := by decide +kernel
  have distinct : (pairResources.statefulSets.map (·.metadata.anyName)).Nodup := by decide
  obtain ⟨fits, nodeSets, statefulSets, -⟩ :=
    decide_fits_in_any_order pairCluster pairResources 0
  obtain ⟨-, -, -, pods⟩ := decide_fits_in_any_order pairCluster pairResources 300001
  refine ⟨(fits _).mp decided, (nodeSets _ (.swap _ _ _)).trans decided,
    (statefulSets distinct _ (.swap _ _ _)).trans decided, ?_⟩
  rcases pods _ (.swap _ _ _) with same | ⟨-, -, q, member, -, stuck, -, named'⟩
  · refine ⟨_, List.mem_cons_self, ⟨0, rfl, ?_⟩, same.trans named⟩
    decide
  · exact ⟨q, member, stuck, named'⟩

end PhaseDecision

end SearchOperator
