import SearchOperator.Proofs.Config.Requests
import SearchOperator.Proofs.Kubernetes.Metadata
import SearchOperator.Proofs.Simulation.Calls
import SearchOperator.Proofs.Step
import SearchOperator.Proofs.Version.Order
import SearchOperator.Simulation.World

/-!
# Controllers that take turns

Controllers of several versions run their passes over one config, one after the other. A pass
changes the recorded version only by recording its own controller's, and only over nothing or over
a version that this one upgrades. So the recorded version goes up only, and a controller that is
older than the recorded one, or too far ahead of it, just reads the config.
-/

namespace SearchOperator

open Simulation

/-! ## What the recorded version allows -/

namespace Compatibility

/-- No version is recorded. -/
def Unclaimed (recorded : Option String) : Prop := Text.trim (recorded.getD "") = ""

def Records (recorded : Option String) (r : Version) : Prop :=
  Text.trim (recorded.getD "") ≠ "" ∧ Version.parse (Text.trim (recorded.getD "")) = .ok r

variable {recorded : Option String} {current : String} {own r : Version}

theorem check_of_records (parsed : Version.parse current = .ok own) (records : Records recorded r) :
    check recorded current =
      if r = own then .ok .compatible
      else if r.isUpgrade own then .ok .stamp
      else .ok (.incompatible (Text.trim (recorded.getD ""))) := by
  show (Version.parse current >>= _ : Except Error Compatibility) = _
  rw [parsed]
  show (if _ then _ else Version.parse (Text.trim (recorded.getD "")) >>= _ :
    Except Error Compatibility) = _
  rw [if_neg records.1, records.2]
  rfl

theorem check_of_unclaimed (parsed : Version.parse current = .ok own)
    (unclaimed : Unclaimed recorded) : check recorded current = .ok .stamp := by
  show (Version.parse current >>= _ : Except Error Compatibility) = _
  rw [parsed]
  exact if_pos unclaimed

theorem check_eq_stamp (stamps : check recorded current = .ok .stamp) :
    ∃ own, Version.parse current = .ok own ∧
      (Unclaimed recorded ∨ ∃ r, Records recorded r ∧ r.isUpgrade own = true) := by
  obtain ⟨own, parsed, stamps'⟩ := bind_eq_ok.mp stamps
  refine ⟨own, parsed, ?_⟩
  simp only at stamps'
  split at stamps'
  · rename_i blank
    exact .inl blank
  · rename_i some
    obtain ⟨r, read, -⟩ := bind_eq_ok.mp stamps'
    rw [check_of_records parsed ⟨some, read⟩] at stamps
    split at stamps
    · cases stamps
    · split at stamps
      · rename_i upgrade
        exact .inr ⟨r, ⟨some, read⟩, upgrade⟩
      · cases stamps

theorem check_eq_compatible (compatible : check recorded current = .ok .compatible) :
    ∃ own, Version.parse current = .ok own ∧ Records recorded own := by
  obtain ⟨own, parsed, compatible'⟩ := bind_eq_ok.mp compatible
  refine ⟨own, parsed, ?_⟩
  simp only at compatible'
  split at compatible'
  · cases compatible'
  · rename_i some
    obtain ⟨r, read, -⟩ := bind_eq_ok.mp compatible'
    rw [check_of_records parsed ⟨some, read⟩] at compatible
    split at compatible
    · rename_i same
      cases same
      exact ⟨some, read⟩
    · split at compatible
      · cases compatible
      · cases compatible

/-- A controller that is older than the recorded one, or two major versions ahead of it, may not
take the resource. -/
theorem check_of_foreign (parsed : Version.parse current = .ok own) (records : Records recorded r)
    (foreign : own < r ∨ r.major + 2 ≤ own.major) :
    check recorded current = .ok (.incompatible (Text.trim (recorded.getD ""))) := by
  have differ : r ≠ own := by
    rintro rfl
    rcases foreign with less | far
    · exact Std.lt_irrefl less
    · omega
  have noUpgrade : ¬ r.isUpgrade own = true := by
    intro upgrade
    obtain ⟨near, less⟩ := Version.isUpgrade_iff.mp upgrade
    rcases foreign with older | far
    · exact Std.lt_irrefl (Std.lt_trans older less)
    · omega
  rw [check_of_records parsed records, if_neg differ, if_neg noUpgrade]

end Compatibility

/-- A controller with a version that reads as it is recorded. -/
structure Controller where
  version : String
  own : Version
  parsed : Version.parse version = .ok own
  trimmed : Text.trim version = version

namespace Controller

/-- What a controller may make of the recorded version: leave it, or record its own over nothing or
over a version that this one upgrades. -/
def MayChange (k : Controller) (before after : Option String) : Prop :=
  after = before ∨
    after = some k.version ∧
      (Compatibility.Unclaimed before ∨
        ∃ r, Compatibility.Records before r ∧ r.isUpgrade k.own = true)

variable {k : Controller} {before after : Option String}

theorem records_own (k : Controller) : Compatibility.Records (some k.version) k.own := by
  have read := k.parsed
  rw [← k.trimmed] at read
  refine ⟨fun blank => ?_, read⟩
  rw [Option.getD_some] at blank
  rw [blank] at read
  cases read

/-- No change that a controller may make takes the recorded version down. -/
theorem le_of_mayChange {r : Version} (allowed : k.MayChange before after)
    (records : Compatibility.Records before r) :
    ∃ next, Compatibility.Records after next ∧ r ≤ next := by
  rcases allowed with rfl | ⟨rfl, unclaimed | ⟨recorded, same, upgrade⟩⟩
  · exact ⟨r, records, Std.le_refl r⟩
  · exact absurd unclaimed records.1
  · have equal : Except.ok recorded = (Except.ok r : Except Error Version) :=
      same.2.symm.trans records.2
    cases equal
    exact ⟨k.own, k.records_own, Std.le_of_lt (Version.isUpgrade_iff.mp upgrade).2⟩

end Controller

namespace Simulation.World

/-! ## What a pass does to the recorded version -/

def recorded? (w : World) : Option String := w.config.bind (·.metadata.controllerVersion?)

def configPass (timeout : Duration) (version name space : String) (w : World) : World :=
  (SearchConfig.reconcile (configContext timeout version) name space w).2

theorem keeps_call {α β : Type} {read : World → β} (made : Call) {run : StateM World α}
    (calls : ∀ w : World, read (w.record made) = read w) (kept : ∀ w, read (run w).2 = read w) :
    Keeps read (World.call made run) := by
  intro w
  rw [World.call]
  cases (w.record made).failures.get? made.operation with
  | some e => exact calls w
  | none => exact (kept _).trans (calls w)

theorem leaves_recorded? : searchClient.Leaves recorded? := leaves_searchClient fun _ _ _ _ => rfl

section

variable {timeout : Duration} {version : String} (c : SearchConfig)

theorem keeps_warn (reason : EventReason) (e : Error) :
    Keeps recorded? (SearchConfig.warn publisher c reason e) := fun _ => rfl

theorem keeps_updateStatus (next : ConfigStatus) :
    Keeps recorded? (SearchConfig.updateStatus configApi c next) := by
  rw [SearchConfig.updateStatus]
  split
  · exact keeps_pure false
  · refine keeps_bind (keeps_call _ (fun _ => rfl) fun w => ?_) fun _ => keeps_pure true
    show (w.config.map _).bind _ = w.config.bind _
    cases w.config with
    | none => rfl
    | some c => rfl

theorem keeps_reportFailure (phase : ConfigPhase) (applied : Nat) (reason : EventReason)
    (e : Error) :
    Keeps recorded?
      (SearchConfig.reportFailure (configContext timeout version) c phase applied reason e) := by
  apply keeps_bind (keeps_updateStatus c _)
  intro changed
  cases changed with
  | false => exact keeps_pure ()
  | true => exact keeps_warn c reason e

theorem keeps_apply {client : SearchClient World} (leaves : client.Leaves recorded?) :
    Keeps recorded? (SearchConfig.apply (configContext timeout version) c client) := by
  apply keeps_bind (Step.keeps_attempt (Operation.keeps_convergeFrom leaves _ _ _))
  intro result
  cases result with
  | ok report => exact keeps_bind (keeps_updateStatus c _) fun _ => keeps_pure _
  | error e => exact keeps_bind (keeps_reportFailure c _ _ _ e) fun _ => keeps_throw e

theorem keeps_clientFor (space : String) :
    Keeps recorded? (SearchConfig.clientFor (configContext timeout version) c space) := by
  have looks : Keeps recorded? (configApi.hasCluster c.spec.cluster.name
      (c.spec.cluster.spaceOr space)) := keeps_call _ (fun _ => rfl) fun _ => rfl
  apply keeps_bind looks
  intro found
  split
  · exact keeps_bind (keeps_warn c _ _) fun _ => keeps_throw _
  · intro w
    simp only [configContext, clients]
    split
    · rfl
    · rfl

theorem leaves_of_clientFor {client : SearchClient World} {space : String} {w : World}
    (granted : (SearchConfig.clientFor (configContext timeout version) c space w).1 = .ok client) :
    client.Leaves recorded? := by
  obtain ⟨found, -, granted⟩ := bind_gives granted
  split at granted
  · cases granted
  · simp only [configContext, clients] at granted
    split at granted
    · cases granted
    · cases granted
      exact leaves_recorded?

/-- Once its version is recorded, if need be, a pass keeps what is recorded. -/
theorem keeps_use (space : String) :
    Keeps recorded? (do
      let client ← SearchConfig.clientFor (configContext timeout version) c space
      SearchConfig.apply (configContext timeout version) c client) := by
  intro w
  rw [read_bind w fun _ granted => keeps_apply c (leaves_of_clientFor c granted)]
  exact keeps_clientFor c space w

end

variable {w : World} {timeout : Duration} {version name space : String}

def stamped (w : World) (version : String) : World :=
  { w with config := w.config.map fun c => { c with
      metadata := c.metadata.annotateAll (Dictionary.ofList [(controllerVersionKey, version)]) } }

theorem recorded?_stamped {c : SearchConfig} (stored : w.config = some c) (version : String) :
    (w.stamped version).recorded? = some version := by
  rw [recorded?, stamped, stored, Option.map_some, Option.bind_some, Metadata.controllerVersion?,
    Metadata.annotateAll_singleton, Metadata.annotation?_annotate_self]

theorem stamp_run (w : World) (version name space : String) :
    let annotations := Dictionary.ofList [(controllerVersionKey, version)]
    let made := Call.patchAnnotations name space annotations
    (∃ e, w.failure? made = some e ∧
        configApi.patchAnnotations name space annotations w = (.error e, w.called [made])) ∨
      w.failure? made = none ∧ configApi.patchAnnotations name space annotations w =
        (.ok (), (w.called [made]).stamped version) :=
  call_run _ rfl (modify fun u : World => u.stamped version) w

theorem recorded?_patchAnnotations {c : SearchConfig} (stored : w.config = some c) :
    let patched := configApi.patchAnnotations name space
      (Dictionary.ofList [(controllerVersionKey, version)]) w
    patched.2.recorded? = w.recorded? ∨ patched.2.recorded? = some version := by
  rcases w.stamp_run version name space with ⟨e, -, failed⟩ | ⟨-, ran⟩
  · rw [failed]
    exact .inl rfl
  · rw [ran]
    exact .inr (recorded?_stamped stored version)

theorem recorded?_take {c : SearchConfig} (stored : w.config = some c) (stamp : Bool) :
    let taken := (SearchConfig.take (configContext timeout version) name space c stamp w).2
    taken.recorded? = w.recorded? ∨ stamp = true ∧ taken.recorded? = some version := by
  rw [SearchConfig.take]
  cases c.spec.validate with
  | error e => exact .inl (keeps_bind (keeps_reportFailure c _ _ _ _) (fun _ => keeps_pure _) w)
  | ok _ =>
      cases stamp with
      | false => exact .inl (keeps_use c space w)
      | true =>
          -- recording the version comes first, and nothing after it records another
          simp only [if_true, true_and]
          rw [read_bind w fun _ _ => keeps_use c space]
          exact recorded?_patchAnnotations stored

theorem getConfig_run (w : World) (name space : String) :
    (∃ e, w.failure? (.getConfig name space) = some e ∧
        configApi.getConfig name space w = (.error e, w.called [.getConfig name space])) ∨
      w.failure? (.getConfig name space) = none ∧
        configApi.getConfig name space w = (.ok w.config, w.called [.getConfig name space]) :=
  read_run _ rfl (·.config) w rfl

/-- A pass keeps the recorded version, or it is allowed to record its own and does. -/
theorem recorded?_configPass (timeout : Duration) (version name space : String) (w : World) :
    (w.configPass timeout version name space).recorded? = w.recorded? ∨
      Compatibility.check w.recorded? version = .ok .stamp ∧
        (w.configPass timeout version name space).recorded? = some version := by
  rw [configPass, SearchConfig.reconcile, bind_run]
  simp only [configContext]
  rcases getConfig_run w name space with ⟨e, -, failed⟩ | ⟨-, loaded⟩
  · rw [failed]
    exact .inl rfl
  · rw [loaded, follow_ok]
    cases stored : w.config with
    | none => exact .inl rfl
    | some c =>
        have recorded : w.recorded? = c.metadata.controllerVersion? := by
          rw [recorded?, stored]
          rfl
        simp only
        split
        · exact .inl rfl
        · rw [← recorded]
          cases judged : Compatibility.check w.recorded? version with
          | error e => exact .inl rfl
          | ok compatibility =>
              have taken (stamp : Bool) := @recorded?_take (w.record (.getConfig name space)) timeout
                version name space c stored stamp
              cases compatibility with
              | compatible =>
                  exact (taken false).imp_right fun stamped => absurd stamped.1 (by simp)
              | stamp => exact (taken true).imp_right fun stamped => ⟨rfl, stamped.2⟩
              | incompatible text => exact .inl rfl

/-- A pass of a controller that may not take the config reads it and does nothing else. -/
theorem configPass_of_incompatible {text : String}
    (foreign : Compatibility.check w.recorded? version = .ok (.incompatible text))
    (timeout : Duration) (name space : String) :
    w.configPass timeout version name space = w.record (.getConfig name space) := by
  rw [configPass, SearchConfig.reconcile, bind_run]
  simp only [configContext]
  rcases getConfig_run w name space with ⟨e, -, failed⟩ | ⟨-, loaded⟩
  · rw [failed]
    rfl
  · rw [loaded, follow_ok]
    cases stored : w.config with
    | none => rfl
    | some c =>
        have recorded : w.recorded? = c.metadata.controllerVersion? := by
          rw [recorded?, stored]
          rfl
        simp only
        split
        · rfl
        · rw [← recorded, foreign]
          rfl

/-! ## Passes in turn -/

/-- A pass of a controller, after changes to the world that leave the recorded version alone. -/
structure ConfigTurn where
  controller : Controller
  change : World → World
  keeps : ∀ w, (change w).recorded? = w.recorded?
  timeout : Duration
  name : String
  space : String

namespace ConfigTurn

def run (t : ConfigTurn) (w : World) : World :=
  (t.change w).configPass t.timeout t.controller.version t.name t.space

theorem mayChange (t : ConfigTurn) (w : World) :
    t.controller.MayChange w.recorded? (t.run w).recorded? := by
  have kept := t.keeps w
  rcases recorded?_configPass t.timeout t.controller.version t.name t.space (t.change w) with
    same | ⟨stamps, stamped⟩
  · exact .inl (same.trans kept)
  · obtain ⟨own, parsed, free⟩ := Compatibility.check_eq_stamp stamps
    rw [t.controller.parsed] at parsed
    cases parsed
    rw [kept] at free
    exact .inr ⟨stamped, free⟩

theorem run_of_foreign {t : ConfigTurn} {w : World} {r : Version}
    (records : Compatibility.Records w.recorded? r)
    (foreign : t.controller.own < r ∨ r.major + 2 ≤ t.controller.own.major) :
    t.run w = (t.change w).record (.getConfig t.name t.space) := by
  rw [← t.keeps w] at records
  exact configPass_of_incompatible
    (Compatibility.check_of_foreign t.controller.parsed records foreign) _ _ _

end ConfigTurn

def configTurns (ts : List ConfigTurn) (w : World) : World := ts.foldl (fun w t => t.run w) w

theorem configTurns_append (ts more : List ConfigTurn) (w : World) :
    w.configTurns (ts ++ more) = (w.configTurns ts).configTurns more := List.foldl_append

theorem le_of_configTurns (ts : List ConfigTurn) {w : World} {r : Version}
    (records : Compatibility.Records w.recorded? r) :
    ∃ last, Compatibility.Records (w.configTurns ts).recorded? last ∧ r ≤ last := by
  induction ts generalizing w r with
  | nil => exact ⟨r, records, Std.le_refl r⟩
  | cons t rest ih =>
      obtain ⟨next, recorded, up⟩ := Controller.le_of_mayChange (t.mayChange w) records
      obtain ⟨last, final, on⟩ := ih recorded
      exact ⟨last, final, Std.le_trans up on⟩

/-- At every moment of a run, the next turn changes the recorded version only by recording its own
controller's over nothing or over a version that this one upgrades. So what is recorded never goes
down, and a controller that is older than what is recorded, or two major versions ahead of it, only
reads the config. -/
theorem configTurns_respect_versions (w : World) (earlier : List ConfigTurn) :
    (∀ t : ConfigTurn,
      t.controller.MayChange (w.configTurns earlier).recorded?
          (w.configTurns (earlier ++ [t])).recorded? ∧
        ∀ r, Compatibility.Records (w.configTurns earlier).recorded? r →
          t.controller.own < r ∨ r.major + 2 ≤ t.controller.own.major →
            w.configTurns (earlier ++ [t]) =
              (t.change (w.configTurns earlier)).record (.getConfig t.name t.space)) ∧
      ∀ later r, Compatibility.Records (w.configTurns earlier).recorded? r →
        ∃ last, Compatibility.Records (w.configTurns (earlier ++ later)).recorded? last ∧
          r ≤ last := by
  constructor
  · intro t
    have next : w.configTurns (earlier ++ [t]) = t.run (w.configTurns earlier) :=
      configTurns_append earlier [t] w
    rw [next]
    exact ⟨t.mayChange _, fun r records foreign => ConfigTurn.run_of_foreign records foreign⟩
  · intro later r records
    rw [configTurns_append]
    exact le_of_configTurns later records

/-- A turn of the controller of a release, without other changes. -/
def releaseTurn (version : String) (own : Version) (parsed : Version.parse version = .ok own)
    (trimmed : Text.trim version = version) : ConfigTurn :=
  ⟨⟨version, own, parsed, trimmed⟩, id, fun _ => rfl, ⟨0⟩, "settings", ""⟩

/-- A config that no controller took yet. -/
def unclaimedWorld : World :=
  { empty with config := some ⟨{ Metadata.blank with name := some "settings" },
      ⟨⟨"logs", none⟩, []⟩, none⟩ }

def newerTurn : ConfigTurn := releaseTurn "2.1.0" (.release 2 1 0) rfl (by decide)

def olderTurn : ConfigTurn := releaseTurn "1.9.0" (.release 1 9 0) rfl (by decide)

/-- The newer controller takes the config; after that the older one only reads it. -/
theorem configTurns_respect_versions_older :
    Compatibility.Records (unclaimedWorld.configTurns [newerTurn]).recorded? (.release 2 1 0) ∧
      unclaimedWorld.configTurns [newerTurn, olderTurn] =
        (unclaimedWorld.configTurns [newerTurn]).record (.getConfig "settings" "") := by
  have recorded : (unclaimedWorld.configTurns [newerTurn]).recorded? = some "2.1.0" := by
    decide +kernel
  have records : Compatibility.Records (unclaimedWorld.configTurns [newerTurn]).recorded?
      (.release 2 1 0) := by
    rw [recorded]
    exact newerTurn.controller.records_own
  have older : olderTurn.controller.own < .release 2 1 0 := by decide
  exact ⟨records,
    ((configTurns_respect_versions unclaimedWorld [newerTurn]).1 olderTurn).2 _ records
      (.inl older)⟩

end Simulation.World

end SearchOperator
