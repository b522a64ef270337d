import SearchOperator.Cluster.Spec
import SearchOperator.Proofs.Step

/-!
# Accepted clusters

A cluster is accepted exactly if its version parses and its node sets are there, are named apart and
declare a node each. Of a cluster that is not accepted, the first fault is named: the version comes
before the node sets, an earlier node set before a later one, and the name of a node set before its
count.
-/

namespace SearchOperator

/-! ## One node set -/

namespace NodeSet

/-- A node set is faulty among the names of those before it: it has no name or one of theirs, or it
declares no node. -/
def IsFaulty (s : NodeSet) (names : List String) : Prop :=
  s.name = "" ∨ s.name ∈ names ∨ s.count < 1

def fieldAt (index : Nat) (member : String) : String :=
  "spec.nodeSets[" ++ toString index ++ "]" ++ member

/-- What a faulty node set is blamed for. A fault of its name comes before that of its count. -/
inductive IsBlamed (s : NodeSet) (index : Nat) (names : List String) : Error → Prop where
  | nameless (blank : s.name = "") :
      IsBlamed s index names
        (.invalidField (fieldAt index ".name") "node set name cannot be empty")
  | repeated (named : s.name ≠ "") (again : s.name ∈ names) :
      IsBlamed s index names
        (.invalidField (fieldAt index ".name") ("duplicate node set name '" ++ s.name ++ "'"))
  | few (named : s.name ≠ "") (fresh : s.name ∉ names) (few : s.count < 1) :
      IsBlamed s index names
        (.invalidField (fieldAt index ".count") "node set count must be at least 1")

variable {s : NodeSet} {index : Nat} {names others : List String} {e : Error}

theorem IsBlamed.isFaulty (blamed : s.IsBlamed index names e) : s.IsFaulty names := by
  cases blamed with
  | nameless blank => exact .inl blank
  | repeated named again => exact .inr (.inl again)
  | few named fresh few => exact .inr (.inr few)

/-- Only which names there are counts. -/
theorem isBlamed_congr (same : ∀ name, name ∈ names ↔ name ∈ others) :
    s.IsBlamed index names e ↔ s.IsBlamed index others e := by
  have mono {names others : List String} (same : ∀ name, name ∈ names ↔ name ∈ others)
      (blamed : s.IsBlamed index names e) : s.IsBlamed index others e := by
    cases blamed with
    | nameless blank => exact .nameless blank
    | repeated named again => exact .repeated named ((same _).mp again)
    | few named fresh few => exact .few named (fun again => fresh ((same _).mpr again)) few
  exact ⟨mono same, mono fun name => (same name).symm⟩

/-- Every fault has someone to blame. -/
theorem exists_isBlamed (faulty : s.IsFaulty names) (index : Nat) :
    ∃ e, s.IsBlamed index names e := by
  by_cases blank : s.name = ""
  · exact ⟨_, .nameless blank⟩
  · by_cases again : s.name ∈ names
    · exact ⟨_, .repeated blank again⟩
    · rcases faulty with blank' | again' | few
      · exact absurd blank' blank
      · exact absurd again' again
      · exact ⟨_, .few blank again few⟩

theorem isFaulty_congr (same : ∀ name, name ∈ names ↔ name ∈ others) :
    s.IsFaulty names ↔ s.IsFaulty others := by
  rw [IsFaulty, IsFaulty, same]

end NodeSet

/-! ## Node sets in turn -/

namespace ClusterSpec

open NodeSet

/-- What is accepted has names that are not empty, not seen before and distinct, and counts of at
least one. -/
theorem checkNodeSets_eq_ok {index : Nat} {seen : List String} {sets : List NodeSet} :
    checkNodeSets index seen sets = .ok () ↔
      (∀ s ∈ sets, s.name ≠ "" ∧ s.name ∉ seen ∧ 1 ≤ s.count) ∧ (sets.map (·.name)).Nodup := by
  induction sets generalizing index seen with
  | nil => simp [checkNodeSets]
  | cons s rest ih =>
      rw [checkNodeSets, List.forall_mem_cons, List.map_cons, List.nodup_cons]
      by_cases blank : s.name = ""
      · simp [blank]
      · by_cases again : s.name ∈ seen
        · simp [blank, again]
        · by_cases few : s.count < 1
          · simp [blank, again, few, Int.not_le.mpr few]
          · have fresh : (∀ t ∈ rest, t.name ≠ "" ∧ t.name ∉ s.name :: seen ∧ 1 ≤ t.count) ↔
                (∀ t ∈ rest, t.name ≠ "" ∧ t.name ∉ seen ∧ 1 ≤ t.count) ∧
                  s.name ∉ rest.map (·.name) := by
              simp only [List.mem_cons, not_or, List.mem_map, not_exists, not_and]
              constructor
              · intro all
                refine ⟨fun t member => ?_, fun t member => (all t member).2.1.1⟩
                exact ⟨(all t member).1, (all t member).2.1.2, (all t member).2.2⟩
              · rintro ⟨all, apart⟩ t member
                exact ⟨(all t member).1, ⟨apart t member, (all t member).2.1⟩, (all t member).2.2⟩
            simp only [blank, again, few, List.contains_iff_mem, if_false, ih, fresh,
              not_false_eq_true, ne_eq, true_and, Int.not_lt.mp few, and_assoc]

def namesBefore (sets : List NodeSet) (index : Nat) : List String :=
  (sets.take index).map (·.name)

def FaultAt (sets : List NodeSet) (index : Nat) : Prop :=
  ∃ s, sets[index]? = some s ∧ s.IsFaulty (namesBefore sets index)

def BlamesAt (sets : List NodeSet) (index : Nat) (e : Error) : Prop :=
  ∃ s, sets[index]? = some s ∧ s.IsBlamed index (namesBefore sets index) e

section

variable {sets before rest : List NodeSet} {s : NodeSet} {index : Nat} {seen : List String}
variable {e : Error}

theorem checkNodeSets_of_blamed (blamed : s.IsBlamed index seen e) (rest : List NodeSet) :
    checkNodeSets index seen (s :: rest) = .error e := by
  rw [checkNodeSets]
  cases blamed with
  | nameless blank =>
      rw [if_pos blank]
      rfl
  | repeated named again =>
      rw [if_neg named, if_pos (List.contains_iff_mem.mpr again)]
      rfl
  | few named fresh few =>
      rw [if_neg named, if_neg (mt List.contains_iff_mem.mp fresh), if_pos few]
      rfl

theorem checkNodeSets_of_sound (sound : ¬ s.IsFaulty seen) (rest : List NodeSet) :
    checkNodeSets index seen (s :: rest) = checkNodeSets (index + 1) (s.name :: seen) rest := by
  rw [IsFaulty, not_or, not_or] at sound
  obtain ⟨named, fresh, enough⟩ := sound
  simp [checkNodeSets, named, fresh, enough]

/-- The check looks at one node set and, if it finds no fault, at those after it. -/
theorem checkNodeSets_cons_eq_error :
    checkNodeSets index seen (s :: rest) = .error e ↔
      s.IsBlamed index seen e ∨
        ¬ s.IsFaulty seen ∧ checkNodeSets (index + 1) (s.name :: seen) rest = .error e := by
  by_cases faulty : s.IsFaulty seen
  · obtain ⟨found, blamed⟩ := exists_isBlamed faulty index
    rw [checkNodeSets_of_blamed blamed, Except.error.injEq]
    constructor
    · rintro rfl
      exact .inl blamed
    · rintro (other | ⟨sound, -⟩)
      · exact Except.error.inj <|
          (checkNodeSets_of_blamed blamed rest).symm.trans (checkNodeSets_of_blamed other rest)
      · exact absurd faulty sound
  · rw [checkNodeSets_of_sound faulty]
    constructor
    · exact fun failed => .inr ⟨faulty, failed⟩
    · rintro (blamed | ⟨-, failed⟩)
      · exact absurd blamed.isFaulty faulty
      · exact failed

theorem getElem?_middle : (before ++ s :: rest)[before.length]? = some s := by simp

theorem namesBefore_middle :
    namesBefore (before ++ s :: rest) before.length = before.map (·.name) := by
  rw [namesBefore, List.take_left]

/-- From a place on at which exactly the names before it were seen, the check blames the first node
set that is faulty. -/
theorem checkNodeSets_eq_error (same : ∀ name, name ∈ seen ↔ name ∈ before.map (·.name)) :
    checkNodeSets before.length seen rest = .error e ↔
      ∃ index, before.length ≤ index ∧
        (∀ earlier, before.length ≤ earlier → earlier < index →
          ¬ FaultAt (before ++ rest) earlier) ∧
        BlamesAt (before ++ rest) index e := by
  induction rest generalizing before seen with
  | nil =>
      simp only [checkNodeSets, List.append_nil, reduceCtorEq, false_iff]
      rintro ⟨index, beyond, -, s, found, -⟩
      rw [List.getElem?_eq_none beyond] at found
      cases found
  | cons s rest ih =>
      have next : ∀ name, name ∈ s.name :: seen ↔ name ∈ (before ++ [s]).map (·.name) := by
        intro name
        simp [same, or_comm]
      have faulty : FaultAt (before ++ s :: rest) before.length ↔ s.IsFaulty seen := by
        simp only [FaultAt, getElem?_middle, namesBefore_middle, Option.some.injEq,
          exists_eq_left', isFaulty_congr same]
      have blamed : BlamesAt (before ++ s :: rest) before.length e ↔
          s.IsBlamed before.length seen e := by
        simp only [BlamesAt, getElem?_middle, namesBefore_middle, Option.some.injEq,
          exists_eq_left', isBlamed_congr same]
      have later := ih next
      rw [List.length_append, List.length_singleton, List.append_assoc, List.singleton_append]
        at later
      rw [checkNodeSets_cons_eq_error, ← blamed, ← faulty, later]
      constructor
      · rintro (here | ⟨sound, index, beyond, sounds, there⟩)
        · exact ⟨before.length, Nat.le_refl _, fun earlier low high => by omega, here⟩
        · refine ⟨index, Nat.le_of_succ_le beyond, fun earlier low high => ?_, there⟩
          rcases Nat.eq_or_lt_of_le low with rfl | above
          · exact sound
          · exact sounds earlier above high
      · rintro ⟨index, beyond, sounds, there⟩
        rcases Nat.eq_or_lt_of_le beyond with rfl | above
        · exact .inl there
        · exact .inr ⟨sounds _ (Nat.le_refl _) above, index, above,
            fun earlier low => sounds earlier (Nat.le_of_succ_le low), there⟩

end

/-! ## A spec -/

/-- What is wrong with a spec: its version, else that there is no node set, else the first node set
that is faulty. -/
inductive IsRejected (spec : ClusterSpec) : Error → Prop where
  | version {fault : Error} (malformed : Version.parse spec.version = .error fault) :
      IsRejected spec (.invalidField "spec.version" fault.message)
  | empty {v : Version} (parsed : Version.parse spec.version = .ok v) (none : spec.nodeSets = []) :
      IsRejected spec (.invalidField "spec.nodeSets" "at least one node set is required")
  | nodeSet {v : Version} {index : Nat} {e : Error}
      (parsed : Version.parse spec.version = .ok v)
      (first : ∀ earlier < index, ¬ FaultAt spec.nodeSets earlier)
      (blames : BlamesAt spec.nodeSets index e) : IsRejected spec e

theorem validate_of_parsed {spec : ClusterSpec} {v : Version}
    (parsed : Version.parse spec.version = .ok v) (some : spec.nodeSets ≠ []) :
    spec.validate = checkNodeSets 0 [] spec.nodeSets := by
  rw [validate, parsed]
  simp only [List.isEmpty_iff, some, if_false]

theorem validate_eq_ok {spec : ClusterSpec} :
    spec.validate = .ok () ↔
      (∃ v, Version.parse spec.version = .ok v) ∧ spec.nodeSets ≠ [] ∧
        (∀ s ∈ spec.nodeSets, s.name ≠ "") ∧ (spec.nodeSets.map (·.name)).Nodup ∧
        ∀ s ∈ spec.nodeSets, 1 ≤ s.count := by
  cases parsed : Version.parse spec.version with
  | error fault => simp [validate, parsed]
  | ok v =>
      by_cases none : spec.nodeSets = []
      · simp [validate, parsed, none]
      · rw [validate_of_parsed parsed none, checkNodeSets_eq_ok]
        simp only [List.not_mem_nil, not_false_eq_true, true_and]
        constructor
        · rintro ⟨each, apart⟩
          exact ⟨⟨v, rfl⟩, none, fun s member => (each s member).1, apart,
            fun s member => (each s member).2⟩
        · rintro ⟨-, -, named, apart, enough⟩
          exact ⟨fun s member => ⟨named s member, enough s member⟩, apart⟩

/-- The node sets of a valid spec have distinct names. -/
theorem nodup_names {spec : ClusterSpec} (valid : spec.validate = .ok ()) :
    (spec.nodeSets.map (·.name)).Nodup :=
  (validate_eq_ok.mp valid).2.2.2.1

theorem validate_eq_error {spec : ClusterSpec} {e : Error} :
    spec.validate = .error e ↔ spec.IsRejected e := by
  cases parsed : Version.parse spec.version with
  | error fault =>
      have failed : spec.validate = .error (.invalidField "spec.version" fault.message) := by
        rw [validate, parsed]
      rw [failed, Except.error.injEq]
      constructor
      · rintro rfl
        exact .version parsed
      · rintro (malformed | read | read)
        · cases parsed.symm.trans malformed
          rfl
        · cases parsed.symm.trans read
        · cases parsed.symm.trans read
  | ok v =>
      by_cases none : spec.nodeSets = []
      · have failed : spec.validate =
            .error (.invalidField "spec.nodeSets" "at least one node set is required") := by
          simp [validate, parsed, none]
        rw [failed, Except.error.injEq]
        constructor
        · rintro rfl
          exact .empty parsed none
        · rintro (malformed | read | ⟨read, first, s, found, -⟩)
          · cases parsed.symm.trans malformed
          · rfl
          · rw [none] at found
            cases found
      · have start : ∀ name, name ∈ ([] : List String) ↔
            name ∈ ([] : List NodeSet).map (·.name) := fun name => Iff.rfl
        have first := @checkNodeSets_eq_error [] spec.nodeSets [] e start
        simp only [List.length_nil, Nat.zero_le, true_and, true_implies, List.nil_append] at first
        rw [validate_of_parsed parsed none, first]
        constructor
        · rintro ⟨index, sounds, blames⟩
          exact .nodeSet parsed sounds blames
        · rintro (malformed | ⟨read, empty⟩ | ⟨read, sounds, blames⟩)
          · cases parsed.symm.trans malformed
          · exact absurd empty none
          · exact ⟨_, sounds, blames⟩

/-- A spec is accepted exactly if its version parses, it has node sets, these have names that are
distinct and not empty, and each declares a node. Any other spec is rejected for its first fault:
the version, that there is no node set, or the first node set whose name is empty, repeats an
earlier one, or whose count is too low, which is blamed for its name before its count. -/
theorem validate_accepts_or_blames (spec : ClusterSpec) :
    (spec.validate = .ok () ↔
      (∃ v, Version.parse spec.version = .ok v) ∧ spec.nodeSets ≠ [] ∧
        (∀ s ∈ spec.nodeSets, s.name ≠ "") ∧ (spec.nodeSets.map (·.name)).Nodup ∧
        ∀ s ∈ spec.nodeSets, 1 ≤ s.count) ∧
    ∀ e, spec.validate = .error e ↔ spec.IsRejected e := by
  constructor
  · exact validate_eq_ok
  · intro e
    exact validate_eq_error

end ClusterSpec

end SearchOperator
