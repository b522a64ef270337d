import SearchOperator.Proofs.Config.Ownership
import SearchOperator.Proofs.Simulation.Calls
import SearchOperator.Proofs.Simulation.Watching

/-!
# The gates of a pass

A pass asks for a client, and sends requests through it, only on behalf of a config that its
controller may work on, and only after its version was recorded and the cluster was found. It
records its version only on such a config, and before it looks for the cluster.
-/

namespace SearchOperator

open Simulation

namespace Simulation

/-- The controller of a version may work on the config of a world: the config is managed and valid,
and it is free or belongs to that version or to one that this one upgrades. -/
structure World.Admits (w : World) (version : String) (own : Version) (c : SearchConfig) :
    Prop where
  stored : w.config = some c
  parsed : Version.parse version = .ok own
  managed : c.metadata.isUnmanaged = false
  valid : c.spec.validate = .ok ()
  free : Compatibility.Unclaimed w.recorded? ∨
    ∃ r, Compatibility.Records w.recorded? r ∧ (r = own ∨ r.isUpgrade own = true)

/-- The cluster of a config in a namespace is there for those who look for it. -/
def World.Finds (w : World) (c : SearchConfig) (space : String) : Prop :=
  (configApi.hasCluster c.spec.cluster.name (c.spec.cluster.spaceOr space) w).1 = .ok true

/-- A pass over a config, which began in another world, has passed all gates: the cluster of the
config was there and was looked for, and a version is recorded. -/
structure World.IsReady (u start : World) (own : Version) (c : SearchConfig) (space : String) :
    Prop where
  found : start.Finds c space
  asked : ∃ made, u.calls = start.calls ++ made ∧
    .getCluster c.spec.cluster.name (c.spec.cluster.spaceOr space) ∈ made
  recorded : Compatibility.Records u.recorded? own

/-- What holds when a pass that began in a world makes a call. -/
structure Sight.IsGated (s : Sight) (start : World) (version name space : String) : Prop where
  /-- A client is asked for and used only after all gates. -/
  uses : s.call.isKubernetes = false →
    ∃ own c, start.Admits version own c ∧ s.world.IsReady start own c space
  /-- A version is recorded only on a config that is open to it, before the cluster is looked
  for. -/
  stamps : ∀ n sp annotations, s.call = .patchAnnotations n sp annotations →
    n = name ∧ sp = space ∧ annotations = .ofList [(controllerVersionKey, version)] ∧
      (∃ own c, start.Admits version own c) ∧
      ∃ made, s.world.calls = start.calls ++ made ∧ ∀ n sp, .getCluster n sp ∉ made

namespace World

variable {start w u : World} {version name space : String} {own : Version} {c : SearchConfig}
variable {timeout : Duration}

/-- Calls that keep what is recorded do not close the gates again. -/
theorem IsReady.lasts (ready : w.IsReady start own c space) (recorded : u.recorded? = w.recorded?)
    {made : List Call} (calls : u.calls = w.calls ++ made) : u.IsReady start own c space := by
  obtain ⟨found, ⟨before, all, asked⟩, records⟩ := ready
  refine ⟨found, ⟨before ++ made, ?_, List.mem_append_left made asked⟩, ?_⟩
  · rw [calls, all, List.append_assoc]
  · rw [recorded]
    exact records

/-- Calls of the Kubernetes API other than those that record a version pass no gate. -/
theorem isGated_of_kubernetes {made : Call} (kube : made.isKubernetes = true)
    (other : ∀ n sp annotations, made ≠ .patchAnnotations n sp annotations) :
    Sight.IsGated ⟨made, w⟩ start version name space :=
  ⟨fun use => absurd (kube.symm.trans use) (by simp),
    fun n sp annotations stamp => absurd stamp (other n sp annotations)⟩

/-! ## Storing and reporting an outcome -/

theorem watches_updateStatus (c : SearchConfig) (next : ConfigStatus) (w : World) :
    Watches (·.IsGated start version name space) w id
      (SearchConfig.updateStatus watchedApi c next) (SearchConfig.updateStatus configApi c next)
      fun _ _ => True := by
  rw [SearchConfig.updateStatus, SearchConfig.updateStatus]
  split
  · exact .pure false trivial
  · refine .bind (.kubernetes (fun _ _ => True) rfl (fun _ => rfl) ?_ fun _ => trivial)
      fun _ _ _ => .pure true trivial
    exact isGated_of_kubernetes rfl (by simp)

theorem watches_reportFailure (c : SearchConfig) (phase : ConfigPhase) (applied : Nat)
    (reason : EventReason) (e : Error) (w : World) :
    Watches (·.IsGated start version name space) w id
      (SearchConfig.reportFailure (watchedContext timeout version) c phase applied reason e)
      (SearchConfig.reportFailure (configContext timeout version) c phase applied reason e)
      fun _ _ => True := by
  refine .bind (watches_updateStatus c _ w) fun changed u _ => ?_
  cases changed with
  | false => exact .pure () trivial
  | true => exact watches_publish _ u

/-! ## Working on the cluster -/

section

variable (name : String) (admits : start.Admits version own c)
include admits

theorem isGated_of_ready {made : Call} (use : made.isKubernetes = false)
    (ready : w.IsReady start own c space) :
    Sight.IsGated ⟨made, w⟩ start version name space := by
  refine ⟨fun _ => ⟨own, c, admits, ready⟩, ?_⟩
  rintro n sp annotations rfl
  cases use

theorem watches_convergeFrom (limit : Duration) (ops : List Operation) (report : Report)
    (ready : w.IsReady start own c space) :
    Watches (·.IsGated start version name space) w id
      (Operation.convergeFrom watchedClient limit report ops)
      (Operation.convergeFrom searchClient limit report ops)
      fun _ u => u.IsReady start own c space := by
  refine Operation.convergeFrom_of_requests watchedClient searchClient
    (Watches.isComposable _ _) ?_ limit ops report w ready
  intro method url body w ready
  refine watches_request _ ?_ ?_
  · exact isGated_of_ready name admits rfl ready
  · exact fun _ _ _ => ready.lasts rfl rfl

theorem watches_apply (ready : w.IsReady start own c space) :
    Watches (·.IsGated start version name space) w id
      (SearchConfig.apply (watchedContext timeout version) c watchedClient)
      (SearchConfig.apply (configContext timeout version) c searchClient)
      fun _ _ => True := by
  refine .bind (watches_convergeFrom name admits timeout _ _ ready).attempt fun result u _ => ?_
  cases result with
  | ok report => exact .bind (watches_updateStatus c _ u) fun _ _ _ => .pure _ trivial
  | error e => exact .bind (watches_reportFailure c _ _ _ e u) fun _ _ _ => .throw e

end

/-! ## Getting a client -/

/-- A pass over a config, which began in another world, has its version recorded and did not look
for the cluster yet. -/
structure IsTaken (u start : World) (own : Version) : Prop where
  calls : ∃ made, u.calls = start.calls ++ made
  failures : u.failures = start.failures
  clusters : u.clusters = start.clusters
  recorded : Compatibility.Records u.recorded? own

theorem hasCluster_run (w : World) (cluster sp : String) :
    (∃ e, w.failure? (.getCluster cluster sp) = some e ∧
        configApi.hasCluster cluster sp w = (.error e, w.called [.getCluster cluster sp])) ∨
      w.failure? (.getCluster cluster sp) = none ∧ configApi.hasCluster cluster sp w =
        (.ok (w.clusters.contains (sp ++ "/" ++ cluster)), w.called [.getCluster cluster sp]) :=
  read_run _ rfl (fun w => w.clusters.contains (sp ++ "/" ++ cluster)) w rfl

theorem finds_of_contains
    (unfailing : w.failure? (.getCluster c.spec.cluster.name (c.spec.cluster.spaceOr space)) = none)
    (there : w.clusters.contains (c.spec.cluster.spaceOr space ++ "/" ++ c.spec.cluster.name)) :
    w.Finds c space := by
  rcases w.hasCluster_run c.spec.cluster.name (c.spec.cluster.spaceOr space) with
    ⟨e, failing, -⟩ | ⟨-, ran⟩
  · cases unfailing.symm.trans failing
  · rw [Finds, ran, there]

theorem hasCluster_congr (failures : u.failures = w.failures) (clusters : u.clusters = w.clusters)
    (cluster sp : String) :
    (configApi.hasCluster cluster sp u).1 = (configApi.hasCluster cluster sp w).1 := by
  simp only [configApi, World.call, record, failures, clusters]
  split <;> rfl

/-- Once the cluster is found, all gates are passed. -/
theorem IsTaken.isReady (taken : u.IsTaken start own) (found : u.Finds c space) :
    (u.called [.getCluster c.spec.cluster.name (c.spec.cluster.spaceOr space)]).IsReady start own c
      space := by
  obtain ⟨made, calls⟩ := taken.calls
  refine ⟨?_, ⟨made ++ [_], ?_, List.mem_append_right made (List.mem_singleton_self _)⟩,
    taken.recorded⟩
  · rw [Finds, ← hasCluster_congr taken.failures taken.clusters]
    exact found
  · rw [called, calls, List.append_assoc]

theorem watches_find (admits : start.Admits version own c) (taken : u.IsTaken start own) :
    Watches (·.IsGated start version name space) u (fun _ => watchedClient)
      (SearchConfig.clientFor (watchedContext timeout version) c space)
      (SearchConfig.clientFor (configContext timeout version) c space)
      fun client v => client = searchClient ∧ v.IsReady start own c space := by
  refine .bind (.kubernetes (fun found v => found = true → v.IsReady start own c space) rfl
    (fun _ => rfl) ?_ ?_) fun found v ready => ?_
  · exact isGated_of_kubernetes rfl (by simp)
  · intro unfailing there
    exact taken.isReady (finds_of_contains unfailing there)
  · cases found with
    | false => exact .bind (watches_publish _ v) fun _ _ _ => .throw _
    | true =>
        have ready := ready rfl
        exact watches_clientFor _ (isGated_of_ready name admits rfl ready)
          ⟨rfl, ready.lasts rfl rfl⟩

theorem watches_use (admits : start.Admits version own c) (taken : u.IsTaken start own) :
    Watches (·.IsGated start version name space) u id
      (do
        let client ← SearchConfig.clientFor (watchedContext timeout version) c space
        SearchConfig.apply (watchedContext timeout version) c client)
      (do
        let client ← SearchConfig.clientFor (configContext timeout version) c space
        SearchConfig.apply (configContext timeout version) c client)
      fun _ _ => True := by
  refine .bind (watches_find admits taken) ?_
  rintro client v ⟨rfl, ready⟩
  exact watches_apply name admits ready

/-! ## Taking the config -/

/-- The version is recorded before the cluster is looked for. -/
theorem watches_stamp (admits : start.Admits version own c)
    (trimmed : Text.trim version = version) :
    Watches (·.IsGated start version name space) (start.called [.getConfig name space]) id
      (watchedApi.patchAnnotations name space (.ofList [(controllerVersionKey, version)]))
      (configApi.patchAnnotations name space (.ofList [(controllerVersionKey, version)]))
      fun _ v => v.IsTaken start own := by
  refine .kubernetes _ rfl (fun _ => rfl) ⟨by simp [Call.isKubernetes], ?_⟩ fun _ => ?_
  · rintro n sp annotations ⟨⟩
    exact ⟨rfl, rfl, rfl, ⟨own, c, admits⟩, _, rfl, by simp⟩
  · refine ⟨⟨_, List.append_assoc _ _ _⟩, rfl, rfl, ?_⟩
    have recorded := recorded?_stamped (w := start) admits.stored version
    exact recorded ▸ Controller.records_own ⟨version, own, admits.parsed, trimmed⟩

theorem watches_take (admits : c.spec.validate = .ok () → start.Admits version own c)
    (trimmed : Text.trim version = version) (stamp : Bool)
    (recorded : stamp = false → Compatibility.Records start.recorded? own) :
    Watches (·.IsGated start version name space) (start.called [.getConfig name space]) id
      (SearchConfig.take (watchedContext timeout version) name space c stamp)
      (SearchConfig.take (configContext timeout version) name space c stamp)
      fun _ _ => True := by
  rw [SearchConfig.take, SearchConfig.take]
  cases valid : c.spec.validate with
  | error e => exact .bind (watches_reportFailure c _ _ _ _ _) fun _ _ _ => .pure _ trivial
  | ok _ =>
      have admits := admits valid
      cases stamp with
      | false => exact watches_use admits ⟨⟨_, rfl⟩, rfl, rfl, recorded rfl⟩
      | true =>
          exact .bind (watches_stamp admits trimmed) fun _ _ taken => watches_use admits taken

theorem watches_reconcile (trimmed : Text.trim version = version) (start : World)
    (timeout : Duration) (name space : String) :
    Watches (·.IsGated start version name space) start id
      (SearchConfig.reconcile (watchedContext timeout version) name space)
      (SearchConfig.reconcile (configContext timeout version) name space)
      fun _ _ => True := by
  have loads : Watches (·.IsGated start version name space) start id
      (watchedApi.getConfig name space) (configApi.getConfig name space)
      fun found u => start.config = found ∧ u = start.called [.getConfig name space] :=
    .kubernetes _ rfl (fun _ => rfl) (isGated_of_kubernetes rfl (by simp)) fun _ => ⟨rfl, rfl⟩
  refine .bind loads ?_
  rintro found u ⟨stored, rfl⟩
  cases found with
  | none => exact .pure _ trivial
  | some c =>
      have recorded : start.recorded? = c.metadata.controllerVersion? := by
        rw [recorded?, stored]
        rfl
      simp only [id_eq]
      split
      · exact .pure _ trivial
      · rename_i notUnmanaged
        have managed := Bool.eq_false_iff.mpr notUnmanaged
        rw [← recorded]
        simp only [watchedContext, configContext]
        cases judged : Compatibility.check start.recorded? version with
        | error e => exact .bind (watches_publish _ _) fun _ _ _ => .throw e
        | ok compatibility =>
            cases compatibility with
            | compatible =>
                obtain ⟨own, parsed, records⟩ := Compatibility.check_eq_compatible judged
                have admits (valid : c.spec.validate = .ok ()) : start.Admits version own c :=
                  ⟨stored, parsed, managed, valid, .inr ⟨own, records, .inl rfl⟩⟩
                exact watches_take admits trimmed false fun _ => records
            | stamp =>
                obtain ⟨own, parsed, free⟩ := Compatibility.check_eq_stamp judged
                have admits (valid : c.spec.validate = .ok ()) : start.Admits version own c :=
                  ⟨stored, parsed, managed, valid, free.imp_right <| Exists.imp fun r older =>
                    ⟨older.1, .inr older.2⟩⟩
                exact watches_take admits trimmed true (by simp)
            | incompatible text => exact .pure _ trivial

/-! ## What is seen of a pass -/

/-- Whatever a world holds and whichever of its calls fail, a pass can be watched without changing
it. All its calls are seen, in order, and each passes the gates that stand before it: a client is
asked for and used only on behalf of a config that the controller may work on, after the cluster of
that config was found and while a version that reads as the controller's is recorded; and a version
is recorded only on such a config, before the cluster is looked for. -/
theorem configPass_gated (trimmed : Text.trim version = version) (w : World) (timeout : Duration)
    (name space : String) :
    ∃ seen : List Sight,
      SearchConfig.reconcile (watchedContext timeout version) name space (w, []) =
        ((SearchConfig.reconcile (configContext timeout version) name space w).1,
          w.configPass timeout version name space, seen) ∧
      (w.configPass timeout version name space).calls = w.calls ++ seen.map (·.call) ∧
      ∀ s ∈ seen, s.IsGated w version name space := by
  obtain ⟨seen, same, calls, gated, -⟩ := watches_reconcile trimmed w timeout name space []
  rw [Except.map_id, List.nil_append] at same
  exact ⟨seen, same, calls, gated⟩

/-- A config with a template, which an older controller took, and its cluster. -/
def supersededWorld : World :=
  { empty with
    config := some ⟨{ Metadata.blank with
      name := some "settings", annotations := some (.ofList [(controllerVersionKey, "2.0.3")]) },
      ⟨⟨"logs", some "search"⟩, [⟨"/_template/logs", ""⟩]⟩, none⟩
    clusters := ["search/logs"] }

/-- The newer controller takes the config, and then its cluster is asked for the template. -/
theorem configPass_gated_superseded :
    Text.trim "2.1.0" = "2.1.0" ∧ ∃ seen : List Sight,
      SearchConfig.reconcile (watchedContext ⟨0⟩ "2.1.0") "settings" "" (supersededWorld, []) =
        ((SearchConfig.reconcile (configContext ⟨0⟩ "2.1.0") "settings" "" supersededWorld).1,
          supersededWorld.configPass ⟨0⟩ "2.1.0" "settings" "", seen) ∧
      (∀ s ∈ seen, s.IsGated supersededWorld "2.1.0" "settings" "") ∧
      seen.map (·.call) =
        [.getConfig "settings" "",
          .patchAnnotations "settings" "" (.ofList [(controllerVersionKey, "2.1.0")]),
          .getCluster "logs" "search", .clientFor "logs" "search",
          .request .get "/_template/logs" none,
          .request .put "/_template/logs" (some (Json.bytesOf "\x7b\x7d")),
          .patchConfigStatus "settings" "" ⟨.applied, none, 1, none⟩] := by
  have trimmed : Text.trim "2.1.0" = "2.1.0" := by decide
  obtain ⟨seen, same, calls, gated⟩ := configPass_gated trimmed supersededWorld ⟨0⟩ "settings" ""
  exact ⟨trimmed, seen, same, gated, calls.symm.trans rfl⟩

end World

end Simulation

end SearchOperator
