import SearchOperator.Proofs.Config.History

/-!
# Verdicts told again

While the spec of a config stays as it is and no call of the Kubernetes API fails, its status tells
the last verdict, and its controller is recorded once it got to work. A pass writes and tells its
verdict unless the status says just that. Like verdicts ask for the same status: they count all
operations of the spec after a success, none of an invalid one, and after a failure those that the
status counted already. But the status may say more than the last verdict did. Where a patch is
merged, a success leaves the message of a failure before it, so the next success is written again,
and so is every one after it.
-/

namespace SearchOperator

open Simulation

namespace Verdict

/-- Two verdicts that have the same phase and say the same. -/
def IsLike (v w : Verdict) : Prop := (v.phase, v.message?) = (w.phase, w.message?)

instance (v w : Verdict) : Decidable (v.IsLike w) :=
  inferInstanceAs (Decidable ((v.phase, v.message?) = (w.phase, w.message?)))

/-- A success is one of all operations of a config. -/
def IsOf (v : Verdict) (c : SearchConfig) : Prop :=
  ∀ n, v = .applied n → n = c.spec.operations.length

/-- Only a success has nothing to say. -/
theorem message?_eq_none {v : Verdict} : v.message? = none ↔ v.phase = .applied := by
  cases v with
  | applied n => simp [message?, phase]
  | invalid e => simp [message?, phase]
  | failed e => simp [message?, phase]

end Verdict

namespace SearchConfig

variable {c d : SearchConfig} {v last : Verdict}

theorem phase_statusOf (c : SearchConfig) (v : Verdict) : (c.statusOf v).phase = v.phase := by
  cases v <;> rfl

theorem message_statusOf (c : SearchConfig) (v : Verdict) :
    (c.statusOf v).message = v.message? := by
  cases v <;> rfl

theorem generation_statusOf (c : SearchConfig) (v : Verdict) :
    (c.statusOf v).observedGeneration = c.metadata.generation := by
  cases v <;> rfl

/-- Like verdicts on a config ask for the same status. -/
theorem statusOf_of_isLike (new : v.IsOf c) (old : last.IsOf c) (like : v.IsLike last) :
    c.statusOf v = c.statusOf last := by
  obtain ⟨phases, messages⟩ := Prod.ext_iff.mp like
  cases v with
  | applied n =>
      cases last with
      | applied m => rw [new n rfl, old m rfl]
      | invalid e => cases phases
      | failed e => cases phases
  | invalid e =>
      cases last with
      | invalid other => exact congrArg (c.nextStatus .invalid · 0) messages
      | applied m => cases phases
      | failed other => cases phases
  | failed e =>
      cases last with
      | failed other => exact congrArg (c.nextStatus .failed · c.storedApplied) messages
      | applied m => cases phases
      | invalid other => cases phases

/-- What a verdict asks for depends on the generation, and on the stored count if it is a failure. -/
theorem statusOf_congr (generation : d.metadata.generation = c.metadata.generation)
    (counted : ∀ e, v = .failed e → d.storedApplied = c.storedApplied) :
    d.statusOf v = c.statusOf v := by
  cases v with
  | applied n => simp only [statusOf, nextStatus, generation]
  | invalid e => simp only [statusOf, nextStatus, generation]
  | failed e => simp only [statusOf, failedStatus, nextStatus, generation, counted e rfl]

end SearchConfig

namespace Simulation.World

/-! ## What is left of earlier statuses -/

/-- The message that is left in the status of a verdict from before it: that of the last verdict
which had one, or else that of the status at the start. -/
def leftMessage? (start : World) (past : List Verdict) : Option String :=
  match start.patching with
  | .merging => (past.findSome? Verdict.message?).or (start.status?.bind (·.message))
  | .replacing => none

/-- The generation that is left in the status of a verdict from the start. -/
def leftGeneration? (start : World) : Option Int :=
  match start.patching with
  | .merging => start.status?.bind (·.observedGeneration)
  | .replacing => none

/-- Something is left in the status of a verdict that the verdict itself does not have. -/
def Lingers (start : World) (c : SearchConfig) (last : Verdict) (past : List Verdict) : Prop :=
  last.message? = none ∧ (start.leftMessage? past).isSome = true ∨
    c.metadata.generation = none ∧ start.leftGeneration?.isSome = true

instance (start : World) (c : SearchConfig) (last : Verdict) (past : List Verdict) :
    Decidable (start.Lingers c last past) :=
  inferInstanceAs (Decidable (_ ∨ _))

/-- The status of a config after a verdict that followed others. -/
def told (start : World) (c : SearchConfig) (last : Verdict) (past : List Verdict) :
    ConfigStatus :=
  { c.statusOf last with
    message := last.message?.or (start.leftMessage? past)
    observedGeneration := c.metadata.generation.or start.leftGeneration? }

def toldAll (start : World) (c : SearchConfig) : List Verdict → Option ConfigStatus
  | [] => start.status?
  | last :: past => some (start.told c last past)

variable {start w u : World} {past : List Verdict} {version name space : String} {own : Version}
variable {timeout : Duration} {c d : SearchConfig} {v last : Verdict}

theorem told_eq_statusOf :
    start.told c last past = c.statusOf last ↔ ¬ start.Lingers c last past := by
  have or_eq {α : Type} {a b : Option α} : a.or b = a ↔ ¬ (a = none ∧ b.isSome = true) := by
    cases a <;> cases b <;> simp
  rw [told, Lingers, not_or, ← or_eq, ← or_eq]
  constructor
  · intro same
    have messages := congrArg ConfigStatus.message same
    have generations := congrArg ConfigStatus.observedGeneration same
    rw [SearchConfig.message_statusOf] at messages
    rw [SearchConfig.generation_statusOf] at generations
    exact ⟨messages, generations⟩
  · rintro ⟨messages, generations⟩
    rw [messages, generations, ← c.message_statusOf, ← c.generation_statusOf last]

/-- The status after a verdict is the one that the next verdict asks for if and only if the two are
alike and nothing else is left in it. -/
theorem told_eq_iff (new : v.IsOf c) (old : last.IsOf c) :
    start.told c last past = c.statusOf v ↔ v.IsLike last ∧ ¬ start.Lingers c last past := by
  constructor
  · intro same
    have phases := congrArg ConfigStatus.phase same
    have messages := congrArg ConfigStatus.message same
    rw [SearchConfig.phase_statusOf] at phases
    rw [SearchConfig.message_statusOf] at messages
    have like : v.IsLike last := by
      have phase : v.phase = last.phase := phases.symm.trans (c.phase_statusOf last)
      refine Prod.ext phase ?_
      cases said : last.message? with
      | none =>
          -- only a success says nothing, so the other verdict says nothing either
          rw [Verdict.message?_eq_none] at said ⊢
          exact phase.trans said
      | some m =>
          rw [told, said] at messages
          exact messages.symm
    exact ⟨like, told_eq_statusOf.mp
      (same.trans (SearchConfig.statusOf_of_isLike new old like))⟩
  · rintro ⟨like, nothing⟩
    rw [told_eq_statusOf.mpr nothing, SearchConfig.statusOf_of_isLike new old like]

/-- What is patched onto the status after some verdicts gives the status after one more. -/
theorem patched_toldAll (start : World) (c : SearchConfig) (v : Verdict) (past : List Verdict) :
    start.patching.patched (start.toldAll c past) (c.statusOf v) = start.told c v past := by
  have generation := c.generation_statusOf v
  rw [told, ← c.message_statusOf, ← generation]
  cases patching : start.patching with
  | replacing => simp [StatusPatching.patched, leftMessage?, leftGeneration?, patching]
  | merging =>
      cases past with
      | nil =>
          cases status : start.status? with
          | none =>
              simp [toldAll, StatusPatching.patched, leftMessage?, leftGeneration?, patching, status]
          | some s =>
              simp [toldAll, StatusPatching.patched, ConfigStatus.onto, leftMessage?,
                leftGeneration?, patching, status]
      | cons last past =>
          have messages : last.message?.or (start.leftMessage? past) =
              start.leftMessage? (last :: past) := by
            rw [leftMessage?, leftMessage?, patching, List.findSome?_cons]
            cases last.message? with
            | none => rfl
            | some m => rfl
          have generations : (c.statusOf v).observedGeneration.or
              (c.metadata.generation.or start.leftGeneration?) =
                (c.statusOf v).observedGeneration.or start.leftGeneration? := by
            rw [generation, ← Option.or_assoc, Option.or_self]
          simp only [toldAll, StatusPatching.patched, ConfigStatus.onto, told, messages, generations]

/-- A config whose status is the one after a verdict asks for no other count: that of a failure is
the one of the status before. -/
theorem toldAll_told (generation : d.metadata.generation = c.metadata.generation)
    (status : d.status = some (start.told c v past)) :
    d.status = start.toldAll d (v :: past) := by
  have same : d.statusOf v = c.statusOf v := by
    refine SearchConfig.statusOf_congr generation ?_
    rintro e rfl
    rw [SearchConfig.storedApplied, status]
    rfl
  rw [status, toldAll, told, told, same, generation]

/-! ## Worlds that tell verdicts -/

/-- The spec, the generation and the status of the config of a world, the version that is recorded
on it, and what becomes of its status when it is patched. -/
def declared (w : World) :
    Option (ConfigSpec × Option Int × Option ConfigStatus) × Option String × StatusPatching :=
  (w.config.map fun c => (c.spec, c.metadata.generation, c.status), w.recorded?, w.patching)

/-- A round of a controller of a version in which no call of the Kubernetes API fails. -/
structure Succeeds (version : String) (t : ConfigRound declared) (w : World) : Prop where
  version : t.version = version
  unfailing : (t.change w).failures = ∅

/-- The status of the config is the one after some verdicts, and once there was one the version of
the controller needs not be recorded. -/
structure Tells (start w : World) (version : String) (past : List Verdict) : Prop where
  patching : w.patching = start.patching
  status : ∀ c, w.config = some c → c.status = start.toldAll c past
  isOf : ∀ last ∈ past.head?, ∀ c, w.config = some c → last.IsOf c
  unstamped : past ≠ [] → ¬ w.Stamps version

theorem config_of_declared (same : u.declared = w.declared) (stored : w.config = some c) :
    ∃ d, u.config = some d ∧ d.spec = c.spec ∧ d.metadata.generation = c.metadata.generation ∧
      d.status = c.status := by
  have configs := congrArg Prod.fst same
  simp only [declared, stored] at configs
  obtain ⟨d, found, same⟩ := Option.map_eq_some_iff.mp configs
  obtain ⟨spec, rest⟩ := Prod.mk.inj same
  obtain ⟨generation, status⟩ := Prod.mk.inj rest
  exact ⟨d, found, spec, generation, status⟩

theorem stamps_of_declared (same : u.declared = w.declared) (stamps : u.Stamps version) :
    w.Stamps version := by
  obtain ⟨judged, c, stored, valid⟩ := stamps
  obtain ⟨d, found, spec, -, -⟩ := config_of_declared same.symm stored
  have recorded : u.recorded? = w.recorded? := congrArg (·.2.1) same
  exact ⟨recorded ▸ judged, d, found, spec ▸ valid⟩

theorem toldAll_congr (generation : d.metadata.generation = c.metadata.generation)
    (status : d.status = c.status) (start : World) (past : List Verdict) :
    start.toldAll d past = start.toldAll c past := by
  cases past with
  | nil => rfl
  | cons last past =>
      have counted : d.storedApplied = c.storedApplied := by
        rw [SearchConfig.storedApplied, SearchConfig.storedApplied, status]
      rw [toldAll, toldAll, told, told, SearchConfig.statusOf_congr generation fun _ _ => counted,
        generation]

/-- What a status tells depends on what is declared only. -/
theorem Tells.of_declared (tells : start.Tells w version past) (same : u.declared = w.declared) :
    start.Tells u version past := by
  constructor
  · exact (congrArg (·.2.2) same).trans tells.patching
  · intro d found
    obtain ⟨c, stored, -, generation, status⟩ := config_of_declared same.symm found
    rw [← status, tells.status c stored, toldAll_congr generation status]
  · intro last newest d found
    obtain ⟨c, stored, spec, -, -⟩ := config_of_declared same.symm found
    have all := tells.isOf last newest c stored
    rwa [Verdict.IsOf, spec] at all
  · exact fun some stamps => tells.unstamped some (stamps_of_declared same stamps)

/-! ## What a pass leaves -/

/-- Where a pass comes to its verdict, the config is as it was but for the recorded version. -/
theorem Arrives.config (arrives : w.Arrives version u) (stored : w.config = some c) :
    ∃ d, u.config = some d ∧ d.spec = c.spec ∧ d.metadata.generation = c.metadata.generation ∧
      d.status = c.status := by
  rcases arrives.leads.config with same | ⟨-, stamped⟩
  · exact ⟨c, same.trans stored, rfl, rfl, rfl⟩
  · rw [World.stamped, stored] at stamped
    exact ⟨_, stamped, rfl, rfl, rfl⟩

/-- Once a pass got to work, its controller is the recorded one. -/
theorem Arrives.compatible (arrives : w.Arrives version u) (trimmed : Text.trim version = version)
    (reaches : w.Reaches version name space own c) :
    Compatibility.check u.recorded? version = .ok .compatible := by
  have admits := reaches.admits
  rcases admits.check with ⟨-, judged⟩ | ⟨-, judged⟩
  · rcases arrives.leads.config with same | ⟨stamps, -⟩
    · rw [recorded?, same]
      exact judged
    · cases judged.symm.trans stamps.1
  · have stamped : u.recorded? = some version := by
      rw [← recorded?_stamped admits.stored version, recorded?, recorded?,
        arrives.stamps (reaches.isStamping judged)]
    have records := Controller.records_own ⟨version, own, admits.parsed, trimmed⟩
    rw [stamped, Compatibility.check_of_records admits.parsed records, if_pos rfl]

theorem statusAfter_of_stored (same : c.status = some (c.statusOf v)) (w : World) :
    w.statusAfter c v = c.statusOf v := by
  rw [statusAfter, same]
  cases w.patching with
  | merging => simp [StatusPatching.patched, ConfigStatus.onto]
  | replacing => rfl

/-- Without failures, a verdict is stored. -/
theorem config_settle {d : SearchConfig} (unfailing : u.failures = ∅) (stored : u.config = some d)
    (status : d.status = c.status) :
    (u.settle c v).config = some { d with status := some (u.statusAfter c v) } := by
  by_cases same : c.status = some (c.statusOf v)
  · rw [settle_of_stored same, stored, statusAfter_of_stored same, ← same, ← status]
  · rw [settle_of_unfailing same (failure?_of_failures unfailing _), withStatus, called, stored,
      statusAfter, ← status]
    rfl

theorem recorded?_settle (u : World) (c : SearchConfig) (v : Verdict) :
    (u.settle c v).recorded? = u.recorded? := by
  by_cases same : c.status = some (c.statusOf v)
  · rw [settle_of_stored same]
  · cases fate : u.failure? (c.storing (c.statusOf v)) with
    | some e =>
        rw [settle_of_failing same fate]
        rfl
    | none =>
        rw [settle_of_unfailing same fate]
        simp only [recorded?, withStatus, called]
        cases u.config with
        | none => rfl
        | some c => rfl

theorem patching_settle (u : World) (c : SearchConfig) (v : Verdict) :
    (u.settle c v).patching = u.patching := by
  rw [settle]
  split
  · rfl
  · split
    · rfl
    · rfl

theorem Concludes.isOf (concludes : w.Concludes timeout version name space c v) : v.IsOf c := by
  intro n applied
  cases concludes with
  | invalid opens broken => cases applied
  | applied reaches hold =>
      cases applied
      rfl
  | failed reaches fails => cases applied

/-- After a pass that came to a verdict, the version of its controller needs not be recorded: it is
recorded, or the spec is invalid. -/
theorem Concludes.unstamped (concludes : w.Concludes timeout version name space c v)
    (trimmed : Text.trim version = version) (arrives : w.Arrives version u)
    {d : SearchConfig} (stored : (u.settle c v).config = some d) (spec : d.spec = c.spec) :
    ¬ (u.settle c v).Stamps version := by
  have settled {own : Version} (reaches : w.Reaches version name space own c) :
      ¬ (u.settle c v).Stamps version := by
    rintro ⟨judged, -⟩
    rw [recorded?_settle, arrives.compatible trimmed reaches] at judged
    cases judged
  cases concludes with
  | invalid opens broken =>
      rw [← spec] at broken
      exact not_stamps_of_invalid stored broken
  | applied reaches hold => exact settled reaches
  | failed reaches fails => exact settled reaches

/-- A pass without failures that comes to a verdict leaves a status that tells it. -/
theorem Concludes.tells (concludes : w.Concludes timeout version name space c v)
    (trimmed : Text.trim version = version) (unfailing : w.failures = ∅)
    (tells : start.Tells w version past) :
    start.Tells (w.configPass timeout version name space) version (v :: past) ∧
      (w.configPass timeout version name space).status? = some (w.statusAfter c v) := by
  obtain ⟨u, arrives, settled⟩ := concludes.settles
  obtain ⟨d, found, spec, generation, status⟩ := arrives.config concludes.stored
  have stored := @config_settle u c v d (arrives.failures.trans unfailing) found status
  have after : u.statusAfter c v = start.told c v past := by
    rw [statusAfter, arrives.leads.patching, tells.patching, tells.status c concludes.stored,
      patched_toldAll]
  have again : w.statusAfter c v = u.statusAfter c v := by
    rw [statusAfter, statusAfter, arrives.leads.patching]
  rw [settled, again]
  refine ⟨⟨?_, ?_, ?_, fun _ => concludes.unstamped trimmed arrives stored spec⟩, ?_⟩
  · rw [patching_settle, arrives.leads.patching, tells.patching]
  · intro other found
    cases stored.symm.trans found
    exact toldAll_told generation (congrArg some after)
  · rintro last ⟨⟩ other found
    cases stored.symm.trans found
    intro n applied
    show n = d.spec.operations.length
    rw [spec]
    exact concludes.isOf n applied
  · rw [status?, stored]
    rfl

/-- A pass without a verdict leaves a status that tells what it told. -/
theorem Tells.lasts (tells : start.Tells w version past)
    (quiet : ∀ c v, ¬ w.Concludes timeout version name space c v) :
    start.Tells (w.configPass timeout version name space) version past := by
  have leads : w.Leads version (w.configPass timeout version name space) := leads_configPass quiet
  rcases leads.config with same | ⟨stamps, stamped⟩
  · refine tells.of_declared ?_
    rw [declared, declared, recorded?, recorded?, same, leads.patching]
  · cases past with
    | cons last past => exact absurd stamps (tells.unstamped (List.cons_ne_nil _ _))
    | nil =>
        refine ⟨leads.patching.trans tells.patching, fun d found => ?_,
          by simp, fun some => absurd rfl some⟩
        obtain ⟨-, c, stored, -⟩ := stamps
        rw [stamped, World.stamped, stored] at found
        cases found
        exact tells.status c stored

/-- The status is the one after the verdicts of the story. -/
theorem tells_of_story (trimmed : Text.trim version = version)
    (story : Story (Succeeds version) start w past) : start.Tells w version past := by
  induction story with
  | start =>
      refine ⟨rfl, fun c stored => ?_, by simp, fun some => absurd rfl some⟩
      rw [toldAll, status?, stored]
      rfl
  | @stored w past t c v story fine concludes kept ih =>
      obtain ⟨rfl, unfailing⟩ := fine
      exact (Concludes.tells concludes trimmed unfailing (ih.of_declared (t.keeps w))).1
  | @unstored w past t story fine unkept ih =>
      obtain ⟨rfl, unfailing⟩ := fine
      have tells := ih.of_declared (t.keeps w)
      -- a verdict would have been stored
      exact tells.lasts fun c v concludes =>
        unkept c v concludes (Concludes.tells concludes trimmed unfailing tells).2

/-- Every verdict of such a story is stored. -/
theorem Story.concludes (trimmed : Text.trim version = version)
    (story : Story (Succeeds version) start w past) {t : ConfigRound declared}
    (fine : Succeeds version t w) (concludes : t.Concludes w c v) :
    Story (Succeeds version) start (t.run w) (v :: past) := by
  have tells := (tells_of_story trimmed story).of_declared (t.keeps w)
  obtain ⟨rfl, unfailing⟩ := fine
  exact .stored story ⟨rfl, unfailing⟩ concludes
    (Concludes.tells concludes trimmed unfailing tells).2

/-! ## What a pass writes and tells -/

/-- What is written and told of a verdict where others were told before. -/
theorem settle_after (unfailing : u.failures = ∅) (told : c.status = some (start.told c last past))
    (old : last.IsOf c) (new : v.IsOf c) :
    (u.settle c v).calls = u.calls ++
        (if v.IsLike last ∧ ¬ start.Lingers c last past then [] else [c.storing (c.statusOf v)]) ∧
      (u.settle c v).events = u.events ++
        if v.IsLike last ∧ ¬ start.Lingers c last past then [] else c.warnings v := by
  have same : c.status = some (c.statusOf v) ↔ v.IsLike last ∧ ¬ start.Lingers c last past := by
    rw [told, Option.some.injEq]
    exact told_eq_iff new old
  by_cases settled : v.IsLike last ∧ ¬ start.Lingers c last past
  · rw [settle_of_stored (same.mpr settled), if_pos settled, if_pos settled]
    exact ⟨(List.append_nil _).symm, (List.append_nil _).symm⟩
  · rw [settle_of_unfailing (fun stored => settled (same.mp stored))
      (failure?_of_failures unfailing _), if_neg settled, if_neg settled]
    exact ⟨rfl, rfl⟩

theorem filter_of_silent {made : List Call} (silent : Silent made) :
    made.filter Call.isPatch = [] := by
  rw [List.filter_eq_nil_iff]
  intro call member
  rw [silent call member]
  exact Bool.false_ne_true

/-- A pass that comes to a verdict where others were told before writes and tells it unless the
status says just that, and writes nothing else. -/
theorem Tells.reports (tells : start.Tells w version (last :: past)) (unfailing : w.failures = ∅)
    (concludes : w.Concludes timeout version name space c v) :
    ∃ made, (w.configPass timeout version name space).calls = w.calls ++ made ∧
      (∀ n sp annotations, .patchAnnotations n sp annotations ∉ made) ∧
      made.filter Call.isPatch =
        (if v.IsLike last ∧ ¬ start.Lingers c last past then [] else [c.storing (c.statusOf v)]) ∧
      (w.configPass timeout version name space).events = w.events ++
        if v.IsLike last ∧ ¬ start.Lingers c last past then [] else c.warnings v := by
  have told := tells.status c concludes.stored
  have old := tells.isOf last rfl c concludes.stored
  obtain ⟨u, arrives, settled⟩ := concludes.settles
  obtain ⟨made, calls, silent⟩ := arrives.leads.calls
  have silent := silent (tells.unstamped (List.cons_ne_nil _ _))
  obtain ⟨asked, events⟩ :=
    settle_after (arrives.failures.trans unfailing) told old concludes.isOf
  rw [settled]
  refine ⟨made ++ if v.IsLike last ∧ ¬ start.Lingers c last past then []
    else [c.storing (c.statusOf v)], ?_, ?_, ?_, ?_⟩
  · rw [asked, calls, List.append_assoc]
  · intro n sp annotations member
    rcases List.mem_append.mp member with before | after
    · cases silent _ before
    · split at after
      · cases after
      · cases List.mem_singleton.mp after
  · rw [List.filter_append, filter_of_silent silent, List.nil_append]
    split
    · rfl
    · rfl
  · rw [events, arrives.events]

/-- After a controller of a version came to a first verdict, and as long as nobody edits the spec and
no call of the Kubernetes API fails, a pass never records the version of its controller again. If it
comes to a verdict, then it writes a status and tells of a failure or an invalid spec unless the
verdict is like the one before and nothing from before that one is left in the status. So it writes
as often as verdicts differ if and only if nothing is left under a verdict that is repeated. -/
theorem reports_unless_told (trimmed : Text.trim version = version)
    (story : Story (Succeeds version) start w (last :: past)) (t : ConfigRound declared)
    (fine : Succeeds version t w) :
    ∃ made, (t.run w).calls = (t.change w).calls ++ made ∧
      (∀ n sp annotations, .patchAnnotations n sp annotations ∉ made) ∧
      ∀ c v, t.Concludes w c v →
        made.filter Call.isPatch =
          (if v.IsLike last ∧ ¬ start.Lingers c last past then [] else [c.storing (c.statusOf v)]) ∧
        (t.run w).events = (t.change w).events ++
          (if v.IsLike last ∧ ¬ start.Lingers c last past then [] else c.warnings v) ∧
        (made.filter Call.isPatch =
            (if v.IsLike last then [] else [c.storing (c.statusOf v)]) ↔
          (v.IsLike last → ¬ start.Lingers c last past)) := by
  have tells := (tells_of_story trimmed story).of_declared (t.keeps w)
  rw [← fine.version] at tells
  by_cases quiet : ∀ c v, ¬ t.Concludes w c v
  · have leads : (t.change w).Leads t.version (t.run w) := leads_configPass quiet
    obtain ⟨made, calls, silent⟩ := leads.calls
    refine ⟨made, calls, fun n sp annotations member => ?_, fun c v concludes => ?_⟩
    · cases silent (tells.unstamped (List.cons_ne_nil _ _)) _ member
    · exact absurd concludes (quiet c v)
  · simp only [not_forall, not_not] at quiet
    obtain ⟨c, v, concludes⟩ := quiet
    obtain ⟨made, calls, unstamped, -, -⟩ := tells.reports fine.unfailing concludes
    refine ⟨made, calls, unstamped, fun c v concludes => ?_⟩
    obtain ⟨other, same, -, written, told⟩ := tells.reports fine.unfailing concludes
    cases List.append_cancel_left (same.symm.trans calls)
    refine ⟨written, told, ?_⟩
    rw [written]
    by_cases like : v.IsLike last
    · by_cases lingers : start.Lingers c last past
      · simp [like, lingers]
      · simp [like, lingers]
    · simp [like]

/-- A world that merges patches, and whose cluster is overloaded once and then holds the template. -/
def recoveringWorld : World :=
  { overloadedWorld ∅ with
    rules := .ofList [("GET /_template/a",
      [immediate 503 [], immediate 200 (Json.bytesOf "\x7b\"x\":1\x7d")])]
    patching := .merging }

def failedWorld : World := (templateRound declared).run recoveringWorld

def recoveredWorld : World := (templateRound declared).run failedWorld

def overloadedStatus : ConfigStatus :=
  ⟨.failed, some "unacceptable status 503 from GET /_template/a", 0, none⟩

/-- The status after the success, in which the message of the failure is left. -/
def recoveredStatus : ConfigStatus :=
  ⟨.applied, some "unacceptable status 503 from GET /_template/a", 1, none⟩

/-- Nothing keeps a pass from the operations of the config with the template and a status. -/
structure Offers (w : World) (status : Option ConfigStatus) : Prop where
  stored : w.config = some (templateConfigWith status)
  clusters : w.clusters = ["team-a/logs"]
  grants : w.clientError = none
  unfailing : w.failures = ∅

instance (w : World) (status : Option ConfigStatus) : Decidable (w.Offers status) :=
  decidable_of_iff (w.config = some (templateConfigWith status) ∧ w.clusters = ["team-a/logs"] ∧
      w.clientError = none ∧ w.failures = ∅)
    ⟨fun ⟨stored, clusters, grants, unfailing⟩ => ⟨stored, clusters, grants, unfailing⟩,
      fun offers => ⟨offers.stored, offers.clusters, offers.grants, offers.unfailing⟩⟩

theorem Offers.reaches {status : Option ConfigStatus} (offers : w.Offers status) :
    w.Reaches "0.1.0" "settings" "team-a" (.release 0 1 0) (templateConfigWith status) := by
  have answered (operation : String) : w.failures.get? operation = none := by
    rw [offers.unfailing, Dictionary.get?_empty]
  exact reaches_template offers.stored offers.clusters offers.grants (answered _) (answered _)

theorem recoveringWorld_runs :
    recoveringWorld.Offers none ∧
      (Operation.convergeAll searchClient ⟨0⟩ templateConfig.spec.operations recoveringWorld).1 =
        .error overload ∧
      failedWorld.Offers (some overloadedStatus) ∧
      (Operation.convergeAll searchClient ⟨0⟩ templateConfig.spec.operations failedWorld).1 =
        .ok ⟨1, 0, 0⟩ ∧
      recoveredWorld.Offers (some recoveredStatus) ∧
      (Operation.convergeAll searchClient ⟨0⟩ templateConfig.spec.operations recoveredWorld).1 =
        .ok ⟨1, 0, 0⟩ := by
  decide +kernel

/-- The failure, and then the success, after which nothing keeps a pass from another success. -/
theorem recoveringWorld_story :
    Story (Succeeds "0.1.0") recoveringWorld recoveredWorld [.applied 1, .failed overload] ∧
      Succeeds "0.1.0" (templateRound declared) recoveredWorld ∧
      (templateRound declared).Concludes recoveredWorld (templateConfigWith (some recoveredStatus))
        (.applied 1) := by
  obtain ⟨begins, fails, failed, holds, recovered, still⟩ := recoveringWorld_runs
  have trimmed : Text.trim "0.1.0" = "0.1.0" := by decide
  have first : (templateRound declared).Concludes recoveringWorld templateConfig
      (.failed overload) := .failed begins.reaches fails
  have second : (templateRound declared).Concludes failedWorld
      (templateConfigWith (some overloadedStatus)) (.applied 1) := .applied failed.reaches holds
  have afterFailure : Story (Succeeds "0.1.0") recoveringWorld failedWorld [.failed overload] :=
    Story.concludes trimmed .start ⟨rfl, begins.unfailing⟩ first
  exact ⟨afterFailure.concludes trimmed ⟨rfl, failed.unfailing⟩ second, ⟨rfl, recovered.unfailing⟩,
    .applied recovered.reaches still⟩

/-- The message of the failure is left under the success, so that the next success is written, and
told by no event. -/
theorem reports_unless_told_recovered :
    Text.trim "0.1.0" = "0.1.0" ∧
      Story (Succeeds "0.1.0") recoveringWorld recoveredWorld [.applied 1, .failed overload] ∧
      Succeeds "0.1.0" (templateRound declared) recoveredWorld ∧
      (templateRound declared).Concludes recoveredWorld (templateConfigWith (some recoveredStatus))
        (.applied 1) ∧
      ∃ made, ((templateRound declared).run recoveredWorld).calls = recoveredWorld.calls ++ made ∧
        made.filter Call.isPatch = [.patchConfigStatus "settings" "team-a" ⟨.applied, none, 1, none⟩] ∧
        ((templateRound declared).run recoveredWorld).events = recoveredWorld.events := by
  have trimmed : Text.trim "0.1.0" = "0.1.0" := by decide
  obtain ⟨story, fine, concludes⟩ := recoveringWorld_story
  have lingers : recoveringWorld.Lingers (templateConfigWith (some recoveredStatus)) (.applied 1)
      [.failed overload] := .inl ⟨rfl, rfl⟩
  obtain ⟨made, calls, -, told⟩ := reports_unless_told trimmed story (templateRound declared) fine
  obtain ⟨written, events, -⟩ := told _ _ concludes
  rw [if_neg fun settled => settled.2 lingers] at written events
  exact ⟨trimmed, story, fine, concludes, made, calls, written, events.trans (List.append_nil _)⟩

/-- A success like the one before it is written again. -/
theorem recovery_written_again :
    Text.trim "0.1.0" = "0.1.0" ∧
      Story (Succeeds "0.1.0") recoveringWorld recoveredWorld [.applied 1, .failed overload] ∧
      Succeeds "0.1.0" (templateRound declared) recoveredWorld ∧
      (templateRound declared).Concludes recoveredWorld (templateConfigWith (some recoveredStatus))
        (.applied 1) ∧
      (Verdict.applied 1).IsLike (.applied 1) ∧
      recoveredWorld.calls.countP Call.isPatch = 2 ∧
      ((templateRound declared).run recoveredWorld).calls.countP Call.isPatch = 3 := by
  obtain ⟨story, fine, concludes⟩ := recoveringWorld_story
  exact ⟨by decide, story, fine, concludes, rfl, by decide +kernel⟩

end Simulation.World

end SearchOperator
