import SearchOperator.Proofs.Config.Verdict

/-!
# What the status of a config remembers

Passes over a config follow one another, and between them the world may change. The verdicts that
were stored on the way make up its history. From that history follows how many operations its status
counts: a success counts all of them, a failure keeps the count, and an invalid spec sets it to zero.
-/

namespace SearchOperator.Simulation.World

def status? (w : World) : Option ConfigStatus := w.config.bind (·.status)

/-- The status of a config once a verdict on it was stored. -/
def statusAfter (w : World) (c : SearchConfig) (v : Verdict) : ConfigStatus :=
  w.patching.patched c.status (c.statusOf v)

/-- A change to a world that keeps what is read off it, and then a pass of the controller of a
version over the config with a name. -/
structure ConfigRound {γ : Type} (read : World → γ) where
  version : String
  change : World → World
  keeps : ∀ w, read (change w) = read w
  timeout : Duration
  name : String
  space : String

namespace ConfigRound

variable {γ : Type} {read : World → γ}

def run (t : ConfigRound read) (w : World) : World :=
  (t.change w).configPass t.timeout t.version t.name t.space

def Concludes (t : ConfigRound read) (w : World) (c : SearchConfig) (v : Verdict) : Prop :=
  (t.change w).Concludes t.timeout t.version t.name t.space c v

end ConfigRound

/-- Rounds lead from one world to another, and store the verdicts of its history, the last of which
comes first. -/
inductive Story {γ : Type} {read : World → γ} (allowed : ConfigRound read → World → Prop)
    (start : World) : World → List Verdict → Prop where
  | start : Story allowed start start []
  | stored {w : World} {past : List Verdict} {t : ConfigRound read} {c : SearchConfig}
      {v : Verdict} (story : Story allowed start w past) (fine : allowed t w)
      (concludes : t.Concludes w c v)
      (kept : (t.run w).status? = some ((t.change w).statusAfter c v)) :
      Story allowed start (t.run w) (v :: past)
  | unstored {w : World} {past : List Verdict} {t : ConfigRound read}
      (story : Story allowed start w past) (fine : allowed t w)
      (unkept : ∀ c v, t.Concludes w c v →
        (t.run w).status? ≠ some ((t.change w).statusAfter c v)) :
      Story allowed start (t.run w) past

variable {γ : Type} {read : World → γ} {allowed : ConfigRound read → World → Prop}
variable {start w u : World} {past : List Verdict} {version name space : String}
variable {timeout : Duration} {c : SearchConfig} {v : Verdict}

/-- A round adds to the history at most the verdict that it stores. -/
theorem Story.next (story : Story allowed start w past) {t : ConfigRound read}
    (fine : allowed t w) : ∃ more, Story allowed start (t.run w) (more ++ past) := by
  by_cases kept : ∃ c v, t.Concludes w c v ∧
      (t.run w).status? = some ((t.change w).statusAfter c v)
  · obtain ⟨c, v, concludes, kept⟩ := kept
    exact ⟨[v], .stored story fine concludes kept⟩
  · exact ⟨[], .unstored story fine fun c v concludes same => kept ⟨c, v, concludes, same⟩⟩

/-- Whatever rounds follow, the history goes on. -/
theorem Story.continues (story : Story allowed start w past) (ts : List (ConfigRound read))
    (fine : ∀ t ∈ ts, ∀ w, allowed t w) :
    ∃ more, Story allowed start (ts.foldl (fun w t => t.run w) w) (more ++ past) := by
  induction ts generalizing w past with
  | nil => exact ⟨[], story⟩
  | cons t rest ih =>
      rw [List.forall_mem_cons] at fine
      obtain ⟨more, story⟩ := story.next (fine.1 w)
      obtain ⟨later, story⟩ := ih story fine.2
      rw [← List.append_assoc] at story
      exact ⟨later ++ more, story⟩

/-! ## What a pass does to the status -/

theorem Concludes.stored (concludes : w.Concludes timeout version name space c v) :
    w.config = some c := by
  cases concludes with
  | invalid opens => exact opens.stored
  | applied reaches => exact reaches.admits.stored
  | failed reaches => exact reaches.admits.stored

theorem status?_stamped (w : World) (version : String) : (w.stamped version).status? = w.status? := by
  rw [status?, status?, stamped]
  cases w.config with
  | none => rfl
  | some c => rfl

theorem Leads.status? (leads : w.Leads version u) : u.status? = w.status? := by
  rcases leads.config with same | ⟨-, stamped⟩
  · rw [World.status?, World.status?, same]
  · rw [← status?_stamped w version, World.status?, World.status?, stamped]

theorem status?_settle {u : World} {c : SearchConfig} (status : u.status? = c.status)
    (v : Verdict) : (u.settle c v).status? = u.status? ∨
      (u.settle c v).status? = some (u.statusAfter c v) := by
  by_cases same : c.status = some (c.statusOf v)
  · rw [settle_of_stored same]
    exact .inl rfl
  · cases fate : u.failure? (c.storing (c.statusOf v)) with
    | some e =>
        rw [settle_of_failing same fate]
        exact .inl rfl
    | none =>
        rw [settle_of_unfailing same fate]
        rw [status?] at status
        simp only [status?, statusAfter, withStatus, called, ← status]
        cases u.config with
        | none => exact .inl rfl
        | some d => exact .inr rfl

/-- A pass stores its verdict, or leaves the status alone. -/
theorem status?_configPass (timeout : Duration) (version name space : String) (w : World) :
    (w.configPass timeout version name space).status? = w.status? ∨
      ∃ c v, w.Concludes timeout version name space c v ∧
        (w.configPass timeout version name space).status? = some (w.statusAfter c v) := by
  by_cases quiet : ∀ c v, ¬ w.Concludes timeout version name space c v
  · exact .inl (leads_configPass quiet).status?
  · simp only [not_forall, not_not] at quiet
    obtain ⟨c, v, concludes⟩ := quiet
    obtain ⟨u, arrives, settled⟩ := concludes.settles
    have status : u.status? = c.status := by
      rw [arrives.leads.status?, status?, concludes.stored]
      rfl
    have after : u.statusAfter c v = w.statusAfter c v := by
      rw [statusAfter, statusAfter, arrives.leads.patching]
    rw [settled, ← arrives.leads.status?]
    exact (status?_settle status v).imp_right fun kept =>
      ⟨c, v, concludes, kept.trans (congrArg some after)⟩

/-! ## How many operations the status counts -/

def counted (w : World) : Nat := (w.status?.map (·.appliedOperations)).getD 0

end SearchOperator.Simulation.World

namespace SearchOperator

namespace Verdict

/-- How many operations held when they last did. -/
def lastApplied : List Verdict → Nat
  | [] => 0
  | .applied n :: _ => n
  | .invalid _ :: past => lastApplied past
  | .failed _ :: past => lastApplied past

/-- Nothing but failures came after an invalid spec. -/
def isInvalidated : List Verdict → Bool
  | [] => false
  | .applied _ :: _ => false
  | .invalid _ :: _ => true
  | .failed _ :: past => isInvalidated past

end Verdict

namespace Simulation.World

variable {start w : World} {past : List Verdict} {c : SearchConfig}

theorem storedApplied_eq_counted (stored : w.config = some c) : c.storedApplied = w.counted := by
  rw [counted, status?, stored]
  rfl

theorem counted_of_status? {s : ConfigStatus} (kept : w.status? = some s) :
    w.counted = s.appliedOperations := by
  rw [counted, kept]
  rfl

/-- A patch installs the count of a verdict, whatever becomes of the rest. -/
theorem appliedOperations_statusAfter (w : World) (c : SearchConfig) (v : Verdict) :
    (w.statusAfter c v).appliedOperations = (c.statusOf v).appliedOperations := by
  rw [statusAfter]
  cases w.patching with
  | replacing => rfl
  | merging =>
      cases c.status with
      | none => rfl
      | some s => rfl

theorem counted_congr {u : World} (same : u.status? = w.status?) : u.counted = w.counted := by
  rw [counted, counted, same]

/-- Whatever passes are made over a config without a status, whatever they meet and whatever becomes
of its spec, the status counts the operations that held in the last pass that found all of them to
hold and could store that, unless a pass could store since then that the spec is invalid: from then
on the status counts none. -/
theorem counted_of_story (fresh : start.status? = none)
    (story : Story (fun (_ : ConfigRound status?) _ => True) start w past) :
    w.counted = (if Verdict.isInvalidated past then 0 else Verdict.lastApplied past) ∧
      (w.counted = Verdict.lastApplied past ↔
        Verdict.isInvalidated past = true → Verdict.lastApplied past = 0) := by
  have law : w.counted = if Verdict.isInvalidated past then 0 else Verdict.lastApplied past := by
    induction story with
    | start =>
        rw [counted, fresh]
        rfl
    | @stored w past t c v story fine concludes kept ih =>
        rw [counted_of_status? kept, appliedOperations_statusAfter]
        cases v with
        | applied n => rfl
        | invalid e => rfl
        | failed e =>
            have before : c.storedApplied = w.counted := by
              rw [storedApplied_eq_counted concludes.stored]
              exact counted_congr (t.keeps w)
            exact before.trans ih
    | @unstored w past t story fine unkept ih =>
        rw [← ih, ← counted_congr (t.keeps w)]
        apply counted_congr
        rcases status?_configPass t.timeout t.version t.name t.space (t.change w) with
          same | ⟨c, v, concludes, kept⟩
        · exact same
        · exact absurd kept (unkept c v concludes)
  refine ⟨law, ?_⟩
  rw [law]
  cases Verdict.isInvalidated past with
  | false => simp
  | true =>
      simp only [if_true, true_imp_iff]
      exact eq_comm

def templateWorld : World :=
  { empty with config := some templateConfig, clusters := ["team-a/logs"] }

def respecified (spec : ConfigSpec) (w : World) : World :=
  { w with config := w.config.map fun c => { c with spec := spec } }

theorem status?_respecified (spec : ConfigSpec) (w : World) :
    (w.respecified spec).status? = w.status? := by
  rw [status?, status?, respecified]
  cases w.config with
  | none => rfl
  | some c => rfl

/-- A pass, and nothing before. -/
def templateRound {γ : Type} (read : World → γ) : ConfigRound read :=
  ⟨"0.1.0", id, fun _ => rfl, ⟨0⟩, "settings", "team-a"⟩

/-- An edit of the spec, and then a pass. -/
def editRound (spec : ConfigSpec) : ConfigRound status? :=
  ⟨"0.1.0", respecified spec, status?_respecified spec, ⟨0⟩, "settings", "team-a"⟩

/-- A spec with a path that is not absolute. -/
def relativeSpec : ConfigSpec := ⟨⟨"logs", none⟩, [⟨"_template/relative", "\x7b\x7d"⟩]⟩

theorem templateWorld_story :
    Story (fun (_ : ConfigRound status?) _ => True) templateWorld
      ((templateRound status?).run templateWorld) [.applied 1] := by
  have reaches : templateWorld.Reaches "0.1.0" "settings" "team-a" (.release 0 1 0)
      templateConfig :=
    @reaches_template _ none rfl rfl rfl rfl rfl
  have held : (Operation.convergeAll searchClient ⟨0⟩ templateConfig.spec.operations
      templateWorld).1 = .ok ⟨0, 1, 0⟩ := rfl
  exact .stored .start trivial (.applied reaches held) (by decide +kernel)

/-- The status counts the template once it holds. -/
theorem counted_of_story_template :
    templateWorld.status? = none ∧
      Story (fun (_ : ConfigRound status?) _ => True) templateWorld
        ((templateRound status?).run templateWorld) [.applied 1] ∧
      ((templateRound status?).run templateWorld).counted = 1 :=
  ⟨rfl, templateWorld_story, (counted_of_story rfl templateWorld_story).1⟩

/-- After an edit that makes the spec invalid, the status does not count what held in the last
successful pass. -/
theorem counted_forgets_applied :
    templateWorld.status? = none ∧ ∃ w past,
      Story (fun (_ : ConfigRound status?) _ => True) templateWorld w past ∧
        Verdict.lastApplied past = 1 ∧ w.counted = 0 := by
  have opens : ((editRound relativeSpec).change ((templateRound status?).run templateWorld)).Opens
      "0.1.0" "settings" "team-a"
      { templateConfig with
        spec := relativeSpec
        status := some ⟨.applied, none, 1, none⟩ } false :=
    ⟨by decide +kernel, by decide +kernel, rfl, by decide +kernel⟩
  have broken : relativeSpec.validate = .error (.invalidField "spec.operations[0].url"
      "url '_template/relative' must be an absolute path") := by decide +kernel
  refine ⟨rfl, _, _, .stored templateWorld_story trivial (.invalid opens broken) ?_, rfl, ?_⟩
  · decide +kernel
  · decide +kernel

end Simulation.World

end SearchOperator
