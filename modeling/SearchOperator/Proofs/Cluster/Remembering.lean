import SearchOperator.Proofs.Cluster.Retrying

/-!
# Hints survive

The hints of a cluster are written by passes only, in between of which anything else may change. A
pass writes hints only if it accepts the cluster, and then those that it loaded with its own: the
version that the cluster was created at, which is set once, and whether a version is being rolled
out. So no other hint is lost or changed, whichever calls fail, and no other annotation either.
-/

namespace SearchOperator

open Simulation

namespace Hints

/-- Hints that hold what others hold: the version that the cluster was created at if it is known,
and exactly their hints otherwise, but for the one that tells of a rollout. -/
structure Keeps (k h : Hints) : Prop where
  created : ∀ value, h.get? createdAtVersion = some value → k.get? createdAtVersion = some value
  others : ∀ key, key ≠ createdAtVersion → key ≠ rollingUpgradeInProgress → k.get? key = h.get? key

theorem Keeps.refl (h : Hints) : h.Keeps h := ⟨fun _ found => found, fun _ _ _ => rfl⟩

theorem Keeps.trans {l k h : Hints} (later : l.Keeps k) (earlier : k.Keeps h) : l.Keeps h := by
  constructor
  · intro value found
    exact later.created value (earlier.created value found)
  · intro key notCreated notRolling
    rw [later.others key notCreated notRolling, earlier.others key notCreated notRolling]

end Hints

namespace SearchCluster

/-- The hints that are stored with a cluster, if they parse. -/
def storedHints? (c : SearchCluster) : Option Hints :=
  (Hints.ofAnnotations c.metadata.annotations).toOption

/-- Hints with the values that a pass over an accepted cluster leaves. -/
def Leaves (c : SearchCluster) (v : View) (h g : Hints) : Prop :=
  ∀ key, g.get? key = (h.merge (c.passHints v.resources h)).get? key

variable {c d left : SearchCluster} {v : View} {h g : Hints} {α : Type} {result : Except Error α}
variable {made : List Call}

theorem storedHints?_congr
    (same : d.metadata.annotation? hintsKey = c.metadata.annotation? hintsKey) :
    d.storedHints? = c.storedHints? := by
  have same : d.metadata.annotations.bind (·.get? hintsKey) =
      c.metadata.annotations.bind (·.get? hintsKey) := same
  rw [storedHints?, storedHints?, Hints.ofAnnotations, Hints.ofAnnotations, same]

theorem storedHints?_eq_some :
    c.storedHints? = some h ↔ Hints.ofAnnotations c.metadata.annotations = .ok h := by
  rw [storedHints?]
  cases Hints.ofAnnotations c.metadata.annotations with
  | error e => simp [Except.toOption]
  | ok g => simp [Except.toOption]

theorem Loads.storedHints? (loads : c.Loads h) : c.storedHints? = some h :=
  storedHints?_eq_some.mpr loads.parsed

theorem Leaves.keeps (leaves : c.Leaves v h g) : g.Keeps h := by
  constructor
  · intro value found
    rw [leaves, get?_created_merge_passHints, found, Option.some_or]
  · intro key notCreated notRolling
    rw [leaves, get?_merge_passHints_of_ne notCreated notRolling]

theorem Leaves.isExact (leaves : c.Leaves v h g) (exact : h.IsExact) : g.IsExact := by
  intro key value found
  rw [leaves] at found
  by_cases created : key = Hints.createdAtVersion
  · rw [created, get?_created_merge_passHints] at found
    rcases Option.or_eq_some_iff.mp found with old | ⟨-, new⟩
    · exact exact _ value old
    · cases new
      exact ⟨0, trivial⟩
  · by_cases rolling : key = Hints.rollingUpgradeInProgress
    · rw [rolling, get?_rolling_merge_passHints] at found
      cases found
      exact ⟨0, trivial⟩
    · rw [get?_merge_passHints_of_ne created rolling] at found
      exact exact key value found

/-- Hints without floats are left with their values as they are. -/
theorem exists_leaves (loads : c.Loads h) (accepted : c.check v.name h = .ok ())
    (exact : h.IsExact) : ∃ g, (v.after c).storedHints? = some g ∧ c.Leaves v h g := by
  rcases View.loads_after_of_accepted (v := v) loads accepted with
    ⟨again, alike⟩ | ⟨g, again, alike⟩
  · refine ⟨h, again.storedHints?, fun key => ?_⟩
    exact (Hints.get?_eq_of_alike exact alike key).symm
  · have written : c.Leaves v h (h.merge (c.passHints v.resources h)) := fun _ => rfl
    exact ⟨g, again.storedHints?, Hints.get?_eq_of_alike (written.isExact exact) alike⟩

/-- A pass that changes the metadata made all its writes. -/
theorem Wrote.metadata {updated : SearchCluster} (wrote : Wrote c updated result made left)
    (differs : left.metadata ≠ c.metadata) :
    left.metadata = updated.metadata ∧ made = c.writes updated := by
  cases wrote with
  | all a => exact ⟨rfl, rfl⟩
  | hintsOnly e => exact ⟨rfl, rfl⟩
  | nothing e => exact absurd rfl differs
  | unread e => exact absurd rfl differs

/-- Only a pass that accepts a cluster changes its metadata, and then the hints in them alone. -/
theorem metadata_after_cases (v : View) (c : SearchCluster) :
    (v.after c).metadata = c.metadata ∨ ∃ h text, c.Loads h ∧ c.check v.name h = .ok () ∧
      (v.after c).metadata = c.metadata.annotate hintsKey text := by
  by_cases loaded : ∃ h, c.Loads h
  · obtain ⟨h, loads⟩ := loaded
    have metadata := View.metadata_after (v := v) loads
    cases checked : c.check v.name h with
    | error e =>
        rw [(View.tracked_of_rejected checked).2, if_pos h.same_self] at metadata
        exact .inl metadata
    | ok _ =>
        split at metadata
        · exact .inl metadata
        · exact .inr ⟨h, _, loads, checked, metadata⟩
  · rw [View.after_of_not_loads (not_exists.mp loaded)]
    exact .inl rfl

/-- A pass changes hints only if it accepts the cluster, and it writes what it leaves. -/
theorem Wrote.hints (wrote : Wrote c (v.after c) result made left)
    (differs : left.metadata.annotation? hintsKey ≠ c.metadata.annotation? hintsKey) :
    left.metadata = (v.after c).metadata ∧
      (∃ h, c.Loads h ∧ c.check v.name h = .ok ()) ∧
      ∃ text, left.metadata.annotation? hintsKey = some text ∧
        .patchAnnotations c.name c.space (.ofList [(hintsKey, text)]) ∈ made := by
  obtain ⟨metadata, all⟩ := wrote.metadata fun same => differs (congrArg (·.annotation? hintsKey) same)
  rcases metadata_after_cases v c with same | ⟨h, text, loads, accepted, annotated⟩
  · exact absurd (congrArg (·.annotation? hintsKey) (metadata.trans same)) differs
  · have written : (v.after c).metadata.annotation? hintsKey = some text := by
      rw [annotated, Metadata.annotation?_annotate_self]
    rw [metadata, written] at differs
    refine ⟨metadata, ⟨h, loads, accepted⟩, text, metadata ▸ written, ?_⟩
    rw [all, writes, hintWrites, written]
    simp only
    rw [if_pos differs.symm]
    exact List.mem_append_left _ (List.mem_singleton_self _)

/-- A write of hints among the writes of a pass changes them, unless it fails. -/
theorem differs_of_mem_writes {updated : SearchCluster} {name space text : String}
    (member : Call.patchAnnotations name space (.ofList [(hintsKey, text)]) ∈ c.writes updated) :
    c.metadata.annotation? hintsKey ≠ some text := by
  rw [writes] at member
  rcases List.mem_append.mp member with hints | status
  · rcases c.hintWrites_cases updated with none | ⟨other, differs, one⟩
    · rw [none] at hints
      cases hints
    · rw [one] at hints
      have same := List.mem_singleton.mp hints
      have held (t : String) : (Dictionary.ofList [(hintsKey, t)]).get? hintsKey = some t :=
        Dictionary.get?_insert_self ∅ hintsKey t
      injection same with _ _ annotations
      have values := congrArg (·.get? hintsKey) annotations
      simp only [held, Option.some.injEq] at values
      exact values ▸ differs
  · rcases c.statusWrites_cases updated with none | ⟨other, -, -, one⟩
    · rw [none] at status
      cases status
    · rw [one] at status
      cases List.mem_singleton.mp status

/-- Whatever a pass writes, all other annotations stay. -/
theorem Wrote.annotation? {key : String} (wrote : Wrote c (v.after c) result made left)
    (other : key ≠ hintsKey) : left.metadata.annotation? key = c.metadata.annotation? key := by
  by_cases same : left.metadata = c.metadata
  · rw [same]
  · rw [(wrote.metadata same).1]
    rcases metadata_after_cases v c with kept | ⟨h, text, -, -, annotated⟩
    · rw [kept]
    · rw [annotated, Metadata.annotation?_annotate_of_ne _ other]

end SearchCluster

namespace Simulation

/-- A change to a world that keeps what is read off it, and then a pass over the cluster. -/
structure ClusterRound {γ : Type} (read : World → γ) where
  change : World → World
  keeps : ∀ w, read (change w) = read w
  timeout : Duration
  now : Int
  name : String
  space : String

namespace ClusterRound

variable {γ : Type} {read : World → γ}

def run (t : ClusterRound read) (w : World) : World := (t.change w).pass t.timeout t.now t.name t.space

/-- The pass of a round accepts a cluster and stores hints on it. -/
structure Stores (t : ClusterRound read) (w : World) (c : SearchCluster) : Prop where
  found : (t.change w).cluster = some c
  accepted : ∃ h, c.Loads h ∧ c.check t.name h = .ok ()
  written : ∃ made name space text, (t.run w).calls = (t.change w).calls ++ made ∧
    .patchAnnotations name space (.ofList [(hintsKey, text)]) ∈ made ∧
    (t.run w).cluster.bind (·.metadata.annotation? hintsKey) = some text

end ClusterRound

namespace World

open SearchCluster

def rounds {γ : Type} {read : World → γ} (ts : List (ClusterRound read)) (w : World) : World :=
  ts.foldl (fun w t => t.run w) w

def hintsText? (w : World) : Option (Option String) :=
  w.cluster.map (·.metadata.annotation? hintsKey)

def storedHints? (w : World) : Option Hints := w.cluster.bind (·.storedHints?)

/-- The first of some rounds that stores hints does so in a pass over a cluster. -/
def FirstStores {γ : Type} {read : World → γ} (c : SearchCluster) :
    World → List (ClusterRound read) → Prop
  | _, [] => False
  | w, t :: ts => t.Stores w c ∨ (∀ d, ¬ t.Stores w d) ∧ FirstStores c (t.run w) ts

variable {γ : Type} {read : World → γ} {start w u : World} {c : SearchCluster} {h g : Hints}
variable {timeout : Duration} {now : Int} {name space : String}

theorem storedHints?_congr (same : u.hintsText? = w.hintsText?) :
    u.storedHints? = w.storedHints? := by
  rw [hintsText?, hintsText?] at same
  rw [storedHints?, storedHints?]
  cases stored : w.cluster with
  | none =>
      rw [stored, Option.map_none, Option.map_eq_none_iff] at same
      rw [same]
  | some c =>
      rw [stored, Option.map_some] at same
      obtain ⟨d, found, text⟩ := Option.map_eq_some_iff.mp same
      rw [found]
      exact SearchCluster.storedHints?_congr text

/-- What a pass makes of a stored cluster, whichever calls fail. -/
theorem pass_outcome (stored : w.cluster = some c) (timeout : Duration) (now : Int)
    (name space : String) :
    ∃ o : Outcome, w.pass timeout now name space = o.world w c ∧
      o.Accounts w (w.view timeout now name) c space := by
  obtain ⟨o, run, accounts⟩ := reconcile_outcome stored timeout now name space
  exact ⟨o, congrArg Prod.snd run, accounts⟩

/-- A pass leaves the annotation with the hints as it is, or accepts the cluster and leaves the hints
that it wrote. -/
theorem hintsText?_pass (w : World) (timeout : Duration) (now : Int) (name space : String) :
    (w.pass timeout now name space).hintsText? = w.hintsText? ∨
      ∃ c h, w.cluster = some c ∧ c.Loads h ∧ c.check name h = .ok () ∧
        (w.pass timeout now name space).storedHints? =
          ((w.view timeout now name).after c).storedHints? ∧
        ∃ made n sp text, (w.pass timeout now name space).calls = w.calls ++ made ∧
          .patchAnnotations n sp (.ofList [(hintsKey, text)]) ∈ made ∧
          (w.pass timeout now name space).cluster.bind (·.metadata.annotation? hintsKey) =
            some text := by
  cases stored : w.cluster with
  | none =>
      rw [pass_of_none stored]
      exact .inl rfl
  | some c =>
      obtain ⟨o, ran, accounts⟩ := pass_outcome stored timeout now name space
      rw [ran]
      by_cases same : o.left.metadata.annotation? hintsKey = c.metadata.annotation? hintsKey
      · left
        rw [hintsText?, hintsText?, stored]
        exact congrArg some same
      · obtain ⟨metadata, ⟨h, loads, accepted⟩, text, left, written⟩ := accounts.wrote.hints same
        refine .inr ⟨c, h, rfl, loads, accepted, ?_, o.calls, c.name, c.space, text, rfl, ?_, left⟩
        · exact SearchCluster.storedHints?_congr (congrArg (·.annotation? hintsKey) metadata)
        · exact List.mem_append_right _ written

/-- A pass leaves all other annotations as they are. -/
theorem annotation?_pass {key : String} (other : key ≠ hintsKey) (w : World) (timeout : Duration)
    (now : Int) (name space : String) :
    (w.pass timeout now name space).cluster.map (·.metadata.annotation? key) =
      w.cluster.map (·.metadata.annotation? key) := by
  cases stored : w.cluster with
  | none =>
      rw [pass_of_none stored, called, stored]
  | some c =>
      obtain ⟨o, ran, accounts⟩ := pass_outcome stored timeout now name space
      rw [ran]
      exact congrArg some (accounts.wrote.annotation? other)

/-- A round that stores hints changes the annotation that holds them. -/
theorem hintsText?_of_stores {t : ClusterRound read} (stores : t.Stores w c) :
    (t.run w).hintsText? ≠ (t.change w).hintsText? := by
  obtain ⟨made, n, sp, text, calls, member, left⟩ := stores.written
  obtain ⟨o, ran, accounts⟩ := pass_outcome stores.found t.timeout t.now t.name t.space
  have ran : t.run w = o.world (t.change w) c := ran
  rw [ran] at calls left ⊢
  cases List.append_cancel_left (show _ ++ o.calls = _ ++ made from calls)
  have differs := differs_of_mem_writes (accounts.written rfl member).1
  intro same
  rw [hintsText?, hintsText?, stores.found] at same
  have left : o.left.metadata.annotation? hintsKey = some text := left
  exact differs ((Option.some.inj same).symm.trans left)

/-- A round whose pass changes the annotation that holds the hints stores hints. -/
theorem exists_stores {t : ClusterRound read}
    (differs : (t.run w).hintsText? ≠ (t.change w).hintsText?) : ∃ c, t.Stores w c := by
  rcases hintsText?_pass (t.change w) t.timeout t.now t.name t.space with
    same | ⟨c, h, found, loads, accepted, -, written⟩
  · exact absurd same differs
  · exact ⟨c, found, ⟨h, loads, accepted⟩, written⟩

/-! ## Rounds -/

section

variable {t : ClusterRound hintsText?}

theorem storedHints?_change (t : ClusterRound hintsText?) (w : World) :
    (t.change w).storedHints? = w.storedHints? := storedHints?_congr (t.keeps w)

/-- A round keeps the hints, or it stores hints and leaves what a pass leaves. -/
theorem storedHints?_run (t : ClusterRound hintsText?) (w : World) :
    (t.run w).hintsText? = (t.change w).hintsText? ∧
        (t.run w).storedHints? = w.storedHints? ∨
      ∃ c h, t.Stores w c ∧ w.storedHints? = some h ∧ (h.IsExact →
        ∃ g v, (t.run w).storedHints? = some g ∧ c.Leaves v h g) := by
  rcases hintsText?_pass (t.change w) t.timeout t.now t.name t.space with
    same | ⟨c, h, found, loads, accepted, left, written⟩
  · exact .inl ⟨same, (storedHints?_congr same).trans (storedHints?_change t w)⟩
  · refine .inr ⟨c, h, ⟨found, ⟨h, loads, accepted⟩, written⟩, ?_, fun exact => ?_⟩
    · rw [← storedHints?_change t w, storedHints?, found]
      exact loads.storedHints?
    · have accepted : c.check ((t.change w).view t.timeout t.now t.name).name h = .ok () := accepted
      obtain ⟨g, stored, leaves⟩ := exists_leaves loads accepted exact
      exact ⟨g, _, left.trans stored, leaves⟩

/-- Hints that do not parse are left as they are. -/
theorem storedHints?_run_of_none (t : ClusterRound hintsText?) (none : w.storedHints? = none) :
    (t.run w).storedHints? = .none := by
  rcases storedHints?_run t w with ⟨-, same⟩ | ⟨c, h, -, stored, -⟩
  · exact same.trans none
  · cases none.symm.trans stored

theorem keeps_run (stored : w.storedHints? = some h) (exact : h.IsExact) :
    ∃ k, (t.run w).storedHints? = some k ∧ k.IsExact ∧ k.Keeps h := by
  rcases storedHints?_run t w with ⟨-, same⟩ | ⟨c, g, -, loaded, leaves⟩
  · exact ⟨h, same.trans stored, exact, .refl h⟩
  · cases stored.symm.trans loaded
    obtain ⟨k, v, left, leaves⟩ := leaves exact
    exact ⟨k, left, leaves.isExact exact, leaves.keeps⟩

/-- While the version that a cluster was created at is not known, a round makes it known if it stores
hints, and only then. -/
theorem created_run (stored : w.storedHints? = some h) (exact : h.IsExact)
    (unknown : h.get? Hints.createdAtVersion = none) :
    ∃ k, (t.run w).storedHints? = some k ∧ k.IsExact ∧
      ((∃ c, t.Stores w c ∧
          k.get? Hints.createdAtVersion = some (.string c.spec.version)) ∨
        (∀ c, ¬ t.Stores w c) ∧ k.get? Hints.createdAtVersion = none) := by
  rcases storedHints?_run t w with ⟨text, same⟩ | ⟨c, g, stores, loaded, leaves⟩
  · refine ⟨h, same.trans stored, exact, .inr ⟨fun c stores => ?_, unknown⟩⟩
    exact hintsText?_of_stores stores text
  · cases stored.symm.trans loaded
    obtain ⟨k, v, left, leaves⟩ := leaves exact
    refine ⟨k, left, leaves.isExact exact, .inl ⟨c, stores, ?_⟩⟩
    rw [leaves, SearchCluster.get?_created_merge_passHints, unknown, Option.none_or]

theorem rounds_append (ts more : List (ClusterRound read)) (w : World) :
    w.rounds (ts ++ more) = (w.rounds ts).rounds more := List.foldl_append

theorem storedHints?_rounds_of_none (ts : List (ClusterRound hintsText?))
    (none : w.storedHints? = none) : (w.rounds ts).storedHints? = .none := by
  induction ts generalizing w with
  | nil => exact none
  | cons t rest ih => exact ih (storedHints?_run_of_none t none)

theorem keeps_rounds (ts : List (ClusterRound hintsText?)) (stored : w.storedHints? = some h)
    (exact : h.IsExact) : ∃ k, (w.rounds ts).storedHints? = some k ∧ k.IsExact ∧ k.Keeps h := by
  induction ts generalizing w h with
  | nil => exact ⟨h, stored, exact, .refl h⟩
  | cons t rest ih =>
      obtain ⟨k, next, exactNext, keeps⟩ := @keeps_run w h t stored exact
      obtain ⟨l, last, exactLast, more⟩ := ih next exactNext
      exact ⟨l, last, exactLast, more.trans keeps⟩

/-- The version that a cluster was created at is the one declared in the first pass that stored
hints. -/
theorem created_rounds (ts : List (ClusterRound hintsText?)) (stored : w.storedHints? = some h)
    (exact : h.IsExact) (unknown : h.get? Hints.createdAtVersion = none) :
    ∃ k, (w.rounds ts).storedHints? = some k ∧
      (∀ c, FirstStores c w ts →
        k.get? Hints.createdAtVersion = some (.string c.spec.version)) ∧
      ((∀ c, ¬ FirstStores c w ts) → k.get? Hints.createdAtVersion = none) := by
  induction ts generalizing w h with
  | nil => exact ⟨h, stored, fun c first => first.elim, fun _ => unknown⟩
  | cons t rest ih =>
      obtain ⟨k, next, exactNext, ⟨c, stores, created⟩ | ⟨idle, absent⟩⟩ :=
        @created_run w h t stored exact unknown
      · obtain ⟨l, last, -, keeps⟩ := keeps_rounds rest next exactNext
        refine ⟨l, last, fun d first => ?_, fun none => absurd (.inl stores) (none c)⟩
        rcases first with stored | ⟨idle, -⟩
        · cases stores.found.symm.trans stored.found
          exact keeps.created _ created
        · exact absurd stores (idle c)
      · obtain ⟨l, last, first, never⟩ := ih next exactNext absent
        refine ⟨l, last, fun d stores => ?_, fun none => never fun d stores => ?_⟩
        · rcases stores with now | ⟨-, later⟩
          · exact absurd now (idle d)
          · exact first d later
        · exact none d (.inr ⟨idle, stores⟩)

/-- Whatever rounds there are, as long as only passes write the hints: from any moment on, a known
version at which the cluster was created stays, and so do all other hints but the one that tells of a
rollout, and there are no new ones. If that version was not known at the start, then it becomes known
in the first pass that accepts the cluster and stores hints, as the version that is declared then.
And no pass changes any other annotation. -/
theorem hints_survive (exact : ∀ g, start.storedHints? = some g → g.IsExact)
    (earlier later : List (ClusterRound hintsText?)) :
    (∀ h, (start.rounds earlier).storedHints? = some h →
      ∃ k, (start.rounds (earlier ++ later)).storedHints? = some k ∧ k.Keeps h) ∧
    (∀ g h, start.storedHints? = some g → g.get? Hints.createdAtVersion = none →
      (start.rounds earlier).storedHints? = some h →
        (∀ c, FirstStores c start earlier →
          h.get? Hints.createdAtVersion = some (.string c.spec.version)) ∧
        ((∀ c, ¬ FirstStores c start earlier) → h.get? Hints.createdAtVersion = none)) ∧
    ∀ (t : ClusterRound hintsText?) (key : String), key ≠ hintsKey →
      (t.run (start.rounds earlier)).cluster.map (·.metadata.annotation? key) =
        (t.change (start.rounds earlier)).cluster.map (·.metadata.annotation? key) := by
  refine ⟨fun h stored => ?_, fun g h loaded unknown stored => ?_, fun t key other => ?_⟩
  · cases first : start.storedHints? with
    | none => cases (storedHints?_rounds_of_none earlier first).symm.trans stored
    | some g =>
        obtain ⟨k, reached, exactHere, -⟩ := keeps_rounds earlier first (exact g first)
        cases stored.symm.trans reached
        obtain ⟨l, last, -, keeps⟩ := keeps_rounds later stored exactHere
        rw [rounds_append]
        exact ⟨l, last, keeps⟩
  · obtain ⟨k, reached, created⟩ := created_rounds earlier loaded (exact g loaded) unknown
    cases stored.symm.trans reached
    exact created
  · exact annotation?_pass other _ _ _ _ _

def declaring (version : String) (failures : Dictionary Error) : ClusterRound hintsText? where
  change w :=
    { w with
      cluster := w.cluster.map fun c => { c with spec := ⟨version, c.spec.nodeSets⟩ }
      failures := failures }
  keeps w := by
    rw [hintsText?, hintsText?, Option.map_map]
    rfl
  timeout := ⟨0⟩
  now := 0
  name := "logs"
  space := ""

/-- The version of the first pass is remembered, which stores hints but no status, although another
one is declared after it. -/
theorem hints_survive_declaring :
    ∃ k, ((freshWorld []).rounds
        ([declaring "8.1.0" statusFails] ++ [declaring "8.2.0" ∅])).storedHints? = some k ∧
      k.get? Hints.createdAtVersion = some (.string "8.1.0") := by
  have exact : ∀ g, (freshWorld []).storedHints? = some g → g.IsExact := by
    intro g loaded
    cases loaded
    exact Hints.isExact_none
  obtain ⟨stay, begin, -⟩ :=
    hints_survive exact [declaring "8.1.0" statusFails] [declaring "8.2.0" ∅]
  obtain ⟨c, stores⟩ := @exists_stores _ _ (freshWorld []) (declaring "8.1.0" statusFails)
    (by decide +kernel)
  cases stores.found
  obtain ⟨h, loaded⟩ := Option.isSome_iff_exists.mp (show (((freshWorld []).rounds
      [declaring "8.1.0" statusFails]).storedHints?).isSome = true by decide +kernel)
  obtain ⟨k, left, keeps⟩ := stay h loaded
  have created := (begin .none h rfl rfl loaded).1 _ (.inl stores)
  exact ⟨k, left, keeps.created _ created⟩

end

end World

end Simulation

end SearchOperator
