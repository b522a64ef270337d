import SearchOperator.Proofs.Cluster.Remembering
import SearchOperator.Proofs.Cluster.Rollout

/-!
# Version records parse

A cluster records two versions: the one that it reported last, in its status, and the one that it was
created at, in its hints. The first is empty or the text of a version that some label held, whatever
the labels are; the second was declared by a valid spec. So both are read back, and the step to a
version that is declared by a valid spec never fails because a version is malformed.
-/

namespace SearchOperator

open Simulation

namespace Version

/-- The text of a version that is read back as the version. -/
def IsText (text : String) : Prop := ∃ v : Version, text = v.text ∧ parse text = .ok v

/-- The text of a version that was read. -/
theorem isText_of_parse {raw : String} {v : Version} (parsed : parse raw = .ok v) :
    IsText v.text := ⟨v, rfl, parse_text (readable_of_parse parsed)⟩

end Version

/-- Hints in which the version that a cluster was created at is a text that parses, if it is known. -/
def Hints.RecordCreation (h : Hints) : Prop :=
  ∀ value, h.get? Hints.createdAtVersion = some value →
    ∃ text v, value = .string text ∧ Version.parse text = .ok v

namespace SearchCluster

/-- What the versions recorded on a cluster are as long as only passes record them: the reported one
is empty or the text of a version, and the hints load, hold no floats and a version that parses. -/
structure Records (c : SearchCluster) : Prop where
  reported : (c.status.getD .initial).version = "" ∨
    Version.IsText (c.status.getD .initial).version
  created : ∃ h, c.storedHints? = some h ∧ h.IsExact ∧ h.RecordCreation

variable {c d : SearchCluster} {h : Hints}

/-- A cluster that no pass saw has no records. -/
theorem records_of_fresh (status : c.status = none)
    (hints : c.metadata.annotation? hintsKey = none) : c.Records := by
  have hints : c.metadata.annotations.bind (·.get? hintsKey) = none := hints
  constructor
  · rw [status]
    exact .inl rfl
  · refine ⟨.none, ?_, Hints.isExact_none, fun _ found => nomatch found⟩
    rw [storedHints?_eq_some, Hints.ofAnnotations, hints]

theorem Records.congr (records : c.Records) (status : d.status = c.status)
    (hints : d.metadata.annotation? hintsKey = c.metadata.annotation? hintsKey) : d.Records := by
  constructor
  · rw [status]
    exact records.reported
  · rw [storedHints?_congr hints]
    exact records.created

/-- The version that the next step starts from is read. -/
theorem Records.parses (records : c.Records)
    (loaded : Hints.ofAnnotations c.metadata.annotations = .ok h) {text : String}
    (reported : c.reportedVersion? h = some text) : ∃ v, Version.parse text = .ok v := by
  rw [reportedVersion?_eq] at reported
  split at reported
  · obtain ⟨g, stored, -, creation⟩ := records.created
    cases (storedHints?_eq_some.mpr loaded).symm.trans stored
    rw [Hints.string?] at reported
    obtain ⟨value, found, string⟩ := Option.bind_eq_some_iff.mp reported
    obtain ⟨held, v, rfl, parsed⟩ := creation value found
    cases string
    exact ⟨v, parsed⟩
  · rename_i some
    cases reported
    obtain ⟨v, -, parsed⟩ := records.reported.resolve_left some
    exact ⟨v, parsed⟩

/-- Between versions that are read, a step is made or refused. -/
theorem checkUpgrade_ne_malformed (valid : c.spec.validate = .ok ())
    (parses : ∀ text, c.reportedVersion? h = some text → ∃ v, Version.parse text = .ok v)
    (version message : String) : c.checkUpgrade h ≠ .error (.malformedVersion version message) := by
  obtain ⟨target, declared⟩ := c.spec.exists_version valid
  rw [checkUpgrade]
  cases reported : c.reportedVersion? h with
  | none =>
      intro malformed
      cases malformed
  | some text =>
      obtain ⟨source, parsed⟩ := parses text reported
      simp only [parsed, declared]
      show (if source = target ∨ source.isUpgrade target = true then _ else _) ≠ _
      split
      · intro malformed
        cases malformed
      · intro malformed
        cases malformed

/-- Whatever a pass wrote before a call failed, the records parse. -/
theorem Wrote.records {updated left : SearchCluster} {α : Type} {result : Except Error α}
    {made : List Call} (wrote : Wrote c updated result made left) (before : c.Records)
    (after : updated.Records) : left.Records := by
  cases wrote with
  | all a => exact after
  | hintsOnly e => exact ⟨before.reported, after.created⟩
  | nothing e => exact before
  | unread e => exact before

end SearchCluster

namespace View

variable {v : View} {c : SearchCluster} {h : Hints}

/-- Of the labels, only the lowest one that parses is recorded, and in its own text. -/
theorem isText_nextStatus (d : PhaseDecision) {s : ClusterStatus}
    (recorded : s.version = "" ∨ Version.IsText s.version) :
    (v.nextStatus d s).version = "" ∨ Version.IsText (v.nextStatus d s).version := by
  rcases v.nextStatus_version d s with same | ⟨lowest, found, text⟩
  · rw [same]
    exact recorded
  · obtain ⟨label, -, parsed⟩ := Resources.mem_of_lowestVersion found
    rw [text]
    exact .inr (Version.isText_of_parse parsed)

/-- The version that is declared by a valid spec is the one that is recorded first. -/
theorem recordCreation_of_leaves {g : Hints} (leaves : c.Leaves v h g)
    (valid : c.spec.validate = .ok ()) (creation : h.RecordCreation) : g.RecordCreation := by
  intro value found
  rw [leaves, SearchCluster.get?_created_merge_passHints] at found
  rcases Option.or_eq_some_iff.mp found with old | ⟨-, new⟩
  · exact creation value old
  · cases new
    obtain ⟨v, parsed⟩ := c.spec.exists_version valid
    exact ⟨_, v, rfl, parsed⟩

/-- A pass in which no call fails leaves records that parse. -/
theorem records_after (records : c.Records) : (v.after c).Records := by
  by_cases loaded : ∃ h, c.Loads h
  · obtain ⟨h, loads⟩ := loaded
    have status := status_after (v := v) loads
    obtain ⟨g, stored, exact, creation⟩ := records.created
    cases loads.storedHints?.symm.trans stored
    cases checked : c.check v.name h with
    | error e =>
        obtain ⟨marked, kept⟩ := tracked_of_rejected checked
        constructor
        · rw [status, marked]
          exact records.reported
        · exact ⟨h, (loads_after loads kept).storedHints?, exact, creation⟩
    | ok _ =>
        obtain ⟨g, again, leaves⟩ := SearchCluster.exists_leaves loads checked exact
        constructor
        · rw [status, (tracked_of_accepted checked).1]
          exact isText_nextStatus _ records.reported
        · refine ⟨g, again, leaves.isExact exact, ?_⟩
          exact recordCreation_of_leaves leaves (SearchCluster.check_eq_ok.mp checked).1 creation
  · rw [after_of_not_loads (not_exists.mp loaded)]
    exact records

end View

namespace Simulation.World

open SearchCluster

/-- What passes record on the cluster of a world: its status, and the annotation with its hints. -/
def records? (w : World) : Option (Option ClusterStatus × Option String) :=
  w.cluster.map fun c => (c.status, c.metadata.annotation? hintsKey)

def Records (w : World) : Prop := ∃ c, w.cluster = some c ∧ c.Records

variable {w : World}

theorem records_change (t : ClusterRound records?) (records : w.Records) :
    (t.change w).Records := by
  obtain ⟨c, stored, parse⟩ := records
  have kept := t.keeps w
  rw [records?, records?, stored] at kept
  obtain ⟨d, found, same⟩ := Option.map_eq_some_iff.mp kept
  obtain ⟨status, hints⟩ := Prod.mk.inj same
  exact ⟨d, found, parse.congr status hints⟩

/-- Whichever calls of a pass fail, the records parse. -/
theorem records_pass (records : w.Records) (timeout : Duration) (now : Int) (name space : String) :
    (w.pass timeout now name space).Records := by
  obtain ⟨c, stored, parse⟩ := records
  obtain ⟨o, ran, accounts⟩ := pass_outcome stored timeout now name space
  rw [ran]
  exact ⟨o.left, rfl, accounts.wrote.records parse (View.records_after parse)⟩

theorem records_rounds (ts : List (ClusterRound records?)) (records : w.Records) :
    (w.rounds ts).Records := by
  induction ts generalizing w with
  | nil => exact records
  | cons t rest ih =>
      exact ih (records_pass (records_change t records) t.timeout t.now t.name t.space)

/-- Let a cluster have no status and no hints yet. Whatever its spec, its labels and the calls that
fail are, as long as only passes write status and hints: at every moment of a run the stored hints
load, the version in the status is empty or the text of a version that is read back, and the version
that the cluster was created at is a text that parses, if it is known. So whatever changes before the
next pass, the step to the version of a valid spec never fails because a version is malformed. -/
theorem versions_stay_readable {c : SearchCluster} (stored : w.cluster = some c)
    (status : c.status = none) (hints : c.metadata.annotation? hintsKey = none)
    (ts : List (ClusterRound records?)) :
    (∃ d h, (w.rounds ts).cluster = some d ∧
      Hints.ofAnnotations d.metadata.annotations = .ok h ∧
      (∀ s, d.status = some s →
        s.version = "" ∨ ∃ v : Version, s.version = v.text ∧ Version.parse s.version = .ok v) ∧
      ∀ value, h.get? Hints.createdAtVersion = some value →
        ∃ text v, value = .string text ∧ Version.parse text = .ok v) ∧
    ∀ t : ClusterRound records?, ∃ d h, (t.change (w.rounds ts)).cluster = some d ∧
      Hints.ofAnnotations d.metadata.annotations = .ok h ∧
      (d.spec.validate = .ok () →
        ∀ version message, d.checkUpgrade h ≠ .error (.malformedVersion version message)) := by
  have reached := records_rounds ts ⟨c, stored, records_of_fresh status hints⟩
  refine ⟨?_, fun t => ?_⟩
  · obtain ⟨d, found, records⟩ := reached
    obtain ⟨h, loaded, -, creation⟩ := records.created
    refine ⟨d, h, found, storedHints?_eq_some.mp loaded, fun s has => ?_, creation⟩
    have reported := records.reported
    rw [has, Option.getD_some] at reported
    exact reported
  · obtain ⟨d, found, records⟩ := records_change t reached
    obtain ⟨h, loaded, -, -⟩ := records.created
    have loaded := storedHints?_eq_some.mp loaded
    refine ⟨d, h, found, loaded, fun valid => ?_⟩
    exact checkUpgrade_ne_malformed valid fun text => records.parses loaded

/-- A round in which the pod has a label, a version is declared, and some calls fail. -/
def labelling (label version : String) (failures : Dictionary Error) : ClusterRound records? where
  change w :=
    { w with
      cluster := w.cluster.map fun c => { c with spec := ⟨version, c.spec.nodeSets⟩ }
      pods := [⟨{ Metadata.blank with labels := some (.ofList [(versionLabel, label)]) }, none⟩]
      failures := failures }
  keeps w := by
    rw [records?, records?, Option.map_map]
    rfl
  timeout := ⟨0⟩
  now := 0
  name := "logs"
  space := ""

/-- Rounds with a label that is no version, with one of a candidate and its build, and with a spec
that is invalid. -/
def candidateRounds : List (ClusterRound records?) :=
  [labelling "nightly" "8.1.0" statusFails, labelling "8.1.0-rc-1+7" "8.1.0" ∅,
    labelling "8.1.0" "next" ∅]

/-- The candidate is reported without its build, and the step from it is checked. -/
theorem versions_stay_readable_candidate :
    (((freshWorld []).rounds candidateRounds).cluster.bind (·.status)).map (·.version) =
        some "8.1.0-rc-1" ∧
      ∃ d h, ((labelling "nightly" "8.2.0" ∅).change
          ((freshWorld []).rounds candidateRounds)).cluster = some d ∧
        Hints.ofAnnotations d.metadata.annotations = .ok h ∧ d.spec.validate = .ok () ∧
        ∀ version message, d.checkUpgrade h ≠ .error (.malformedVersion version message) := by
  refine ⟨by decide +kernel, ?_⟩
  obtain ⟨-, next⟩ := versions_stay_readable (w := freshWorld []) rfl rfl rfl candidateRounds
  obtain ⟨d, h, found, loaded, checked⟩ := next (labelling "nightly" "8.2.0" ∅)
  have declared : ((labelling "nightly" "8.2.0" ∅).change
      ((freshWorld []).rounds candidateRounds)).cluster.map (·.spec) =
        some ⟨"8.2.0", [⟨"data", 1⟩]⟩ := by decide +kernel
  rw [found, Option.map_some, Option.some.injEq] at declared
  have valid : d.spec.validate = .ok () := by
    rw [declared]
    rfl
  exact ⟨d, h, found, loaded, valid, checked valid⟩

end Simulation.World

end SearchOperator
