import ServiceContract.Command.Files
import ServiceContract.Proofs.SinkCalls
import ServiceContract.Proofs.TreeWrites

/-!
# Writes stay below the root

A sink at a root takes the paths of artifacts as they come, and one of them is free input. It
refuses the paths that would escape, before anything is asked of the files. Any other path is joined
to the root, and the components of the target are those of the root and then plain names. So a write
can change files strictly below the root only, and make directories there and on the way there. The
paths of models are never refused: a model whose name would not do is skipped beforehand.

## Results

* `sink_write_eq`     — a write is refused, or is one write to the joined path.
* `entry?_sink_write` — what a write through a sink can change in a tree.
* `writes_confined`   — writes stay below the root, and each model has a file of its own there.
-/

namespace ServiceContract

/-- The target lies below the root: its components are those of the root and then plain names, of
which there is at least one. -/
def LeadsBelow (root target : String) : Prop :=
  ∃ names : List String, names ≠ [] ∧ (∀ name ∈ names, Path.IsPlain name) ∧
    Path.components target = Path.components root ++ names.map .name

section Sinks

variable {m : Type → Type} [Monad m] (files : Files m) (root : String)

/-- One write to the target, told to the log if it succeeds. -/
def Files.deliver (target contents : String) : m (Except CommandFailure Unit) := do
  match ← files.write target contents with
  | .error detail => pure (.error (.io detail))
  | .ok () =>
    files.log ⟨.debug, "Wrote " ++ Text.quoted target⟩
    pure (.ok ())

/-- A write is refused, or is one write to the joined path. -/
theorem sink_write_eq (a : Artifact) :
    (files.sink root).write a =
      if Path.isContained a.path then files.deliver (Path.join root a.path) a.contents
      else pure (.error (.refused a.path root)) := rfl

/-- A path that does not escape leads below every root, absolute or not. -/
theorem leadsBelow_join {path : String} (h : ¬ Path.Escapes path) :
    LeadsBelow root (Path.join root path) := by
  have hcontained := Path.isContained_iff.mpr h
  obtain ⟨names, hne, hplain, hnames⟩ := Path.exists_names_of_isContained hcontained
  exact ⟨names, hne, hplain, by rw [Path.components_join root hcontained, hnames]⟩

end Sinks

/-! ## In a tree -/

section Trees

variable (working : Location) (root : String)

/-- Where a sink at the root puts its files. -/
def rootLocation : Location := FileTree.follow working (Path.components root)

/-- Where a sink at the root puts the file of a path. -/
def targetLocation (path : String) : Location :=
  FileTree.follow (rootLocation working root) (Path.components path)

/-- A sink in a tree answers what the write to the joined path gives. -/
theorem run_sink_write {t t' : FileTree} {a : Artifact} {written : Bool}
    (h : Path.isContained a.path)
    (hwrote : t.write working (Path.join root a.path) (Text.utf8 a.contents) = (t', written)) :
    (((FileTree.asFiles working).sink root).write a).run t =
      (if written then .ok () else .error (.io "cannot be written"), t') := by
  have hwrite : ((FileTree.asFiles working).write (Path.join root a.path) a.contents).run t =
      (if written then .ok () else .error "cannot be written", t') := by
    simp only [FileTree.asFiles, StateT.run_bind, StateT.run_get, pure_bind, hwrote,
      StateT.run_set, StateT.run_pure]
    rfl
  rw [sink_write_eq, if_pos h, Files.deliver, StateT.run_bind, hwrite]
  cases written <;> rfl

/-- A refused path leaves the tree as it is: not even a directory is made. -/
theorem run_sink_refused (t : FileTree) {a : Artifact} (h : ¬ Path.isContained a.path) :
    (((FileTree.asFiles working).sink root).write a).run t =
      (.error (.refused a.path root), t) := by
  rw [sink_write_eq, if_neg h]
  rfl

/-- From the root on, a contained path is followed as it would be from there. Where the root lies
itself depends on the working directory only if the root is no absolute path. -/
theorem follow_join {path : String} (h : Path.isContained path) :
    FileTree.follow working (Path.components (Path.join root path)) =
      targetLocation working root path := by
  rw [Path.components_join root h, FileTree.follow_append]
  rfl

/-- The target of a contained path is strictly below the root. -/
theorem exists_targetLocation_eq {path : String} (h : Path.isContained path) :
    ∃ names : List String, names ≠ [] ∧ (∀ name ∈ names, Path.IsPlain name) ∧
      Path.components path = names.map .name ∧
      targetLocation working root path = rootLocation working root ++ names := by
  obtain ⟨names, hne, hplain, hnames⟩ := Path.exists_names_of_isContained h
  exact ⟨names, hne, hplain, hnames, by rw [targetLocation, hnames, FileTree.follow_names]⟩

/-- The places of a tree that a write below the root may change: those strictly below it, and
directories that were missing on the way to it. -/
inductive Reached (t t' : FileTree) (place : Location) : Prop
  | below (names : List String) (nonempty : names ≠ [])
      (heq : place = rootLocation working root ++ names)
  | onTheWay (passed : FileTree.Passed working (Path.components root) place)
      (missing : t.entry? place = none) (made : t'.entry? place = some .directory)

/-- A location that is passed on the way to a target below the root is on the way to the root or
strictly below it. The root itself counts as on the way, since it may be missing as well. -/
theorem reached_of_passed {path : String} (h : Path.isContained path) {t t' : FileTree}
    {place : Location}
    (hpassed : FileTree.Passed working (Path.components (Path.join root path)) place)
    (hmissing : t.entry? place = none) (hmade : t'.entry? place = some .directory) :
    Reached working root t t' place := by
  obtain ⟨names, -, -, hnames⟩ := Path.exists_names_of_isContained h
  obtain ⟨part, hpart, rfl⟩ := hpassed
  rw [Path.components_join root h] at hpart
  -- the way goes as far as the root, or beyond it along names
  rcases List.prefix_or_prefix_of_prefix hpart (List.prefix_append _ _) with hshort | ⟨rest, rfl⟩
  · exact .onTheWay ⟨part, hshort, rfl⟩ hmissing hmade
  · rw [List.prefix_append_right_inj, hnames, List.prefix_map_iff] at hpart
    obtain ⟨taken, -, rfl⟩ := hpart
    cases taken with
    | nil =>
      -- the root itself is still on the way
      rw [List.map_nil, List.append_nil] at hmissing hmade ⊢
      exact .onTheWay ⟨_, List.prefix_refl _, rfl⟩ hmissing hmade
    | cons name later =>
      refine .below (name :: later) (List.cons_ne_nil _ _) ?_
      rw [FileTree.follow_append, FileTree.follow_names]
      rfl

/-- What a write through a sink can change in a tree. -/
theorem entry?_sink_write {t t' : FileTree} {a : Artifact} {answer : Except CommandFailure Unit}
    (run : (((FileTree.asFiles working).sink root).write a).run t = (answer, t'))
    {place : Location} (changed : t'.entry? place ≠ t.entry? place) :
    Reached working root t t' place := by
  by_cases hcontained : Path.isContained a.path
  · cases hwrite : t.write working (Path.join root a.path) (Text.utf8 a.contents) with
    | mk wrote written =>
      rw [run_sink_write working root hcontained hwrite] at run
      cases run
      -- the place is where the path leads, or it is a directory that was missing on the way
      rcases FileTree.write_frame hwrite changed with htarget | ⟨hpassed, hmissing, hmade⟩
      · rw [follow_join working root hcontained] at htarget
        obtain ⟨names, hne, -, -, hnames⟩ := exists_targetLocation_eq working root hcontained
        exact .below names hne (htarget.trans hnames)
      · exact reached_of_passed working root hcontained hpassed hmissing hmade
  · rw [run_sink_refused working root t hcontained] at run
    cases run
    exact absurd rfl changed

end Trees

/-! ## Confinement -/

/-- What a sink at the root does with the paths it is given, and what a run gives it. -/
structure WritesConfined (root : String) : Prop where
  /-- A path that escapes is refused as a general failure, and the files are not asked at all. -/
  refuses {m : Type → Type} [Monad m] (files : Files m) (a : Artifact) : Path.Escapes a.path →
    ∃ failure : CommandFailure, (files.sink root).write a = pure (.error failure) ∧
      failure.inspected = "General(" ++ Text.quoted failure.words ++ ")"
  /-- Any other path makes for one write, and its target lies below the root. -/
  targets {m : Type → Type} [Monad m] (files : Files m) (a : Artifact) : ¬ Path.Escapes a.path →
    (files.sink root).write a = files.deliver (Path.join root a.path) a.contents ∧
      LeadsBelow root (Path.join root a.path)
  /-- In a tree nothing changes above the root or beside it, but for directories on the way. -/
  changes (working : Location) (t : FileTree) (a : Artifact) (place : Location) :
    ∀ answer t', (((FileTree.asFiles working).sink root).write a).run t = (answer, t') →
      t'.entry? place ≠ t.entry? place → Reached working root t t' place
  /-- A run makes the calls of its models, one for each, and those of its other files. -/
  calls {m : Type → Type} [Monad m] [LawfulMonad m] (sink : Sink m) (g : Generation)
    (snapshot : Option Snapshot) :
    writeArtifacts sink g snapshot = sink.perform 0 (g.calls snapshot)
  /-- A model is skipped, or has one name below one directory, which is not refused. -/
  models (model : ModelDescriptor) :
    (¬ Path.isFileStem model.name ∧ model.call = .log model.skipped) ∨
      (Path.isFileStem model.name ∧ model.call = .write model.artifact ∧
        ¬ Path.Escapes model.artifact.path ∧
        Path.components model.artifact.path =
          [.name definitionsDirectory, .name (model.name ++ ".json")])
  /-- Models of different names have different files. -/
  apart (model model' : ModelDescriptor) : model.name ≠ model'.name →
    Path.isFileStem model.name → Path.isFileStem model'.name →
    Path.components model.artifact.path ≠ Path.components model'.artifact.path

/-- Models of different names go to different files. Their names have to be file names: of others no
file is written. -/
theorem components_artifact_ne {model model' : ModelDescriptor} (hne : model.name ≠ model'.name)
    (h : Path.isFileStem model.name) (h' : Path.isFileStem model'.name) :
    Path.components model.artifact.path ≠ Path.components model'.artifact.path := by
  rw [(components_artifact h).2, (components_artifact h').2]
  intro heq
  have hnames : model.name ++ ".json" = model'.name ++ ".json" := by
    injection heq with _ hrest
    injection hrest with hname _
    injection hname
  exact hne ((String.append_left_inj ".json").mp hnames)

/-- Writes stay below the root: a path is refused exactly if it escapes, and otherwise only what is
below the root changes. Each model is skipped or has a file of its own there. The root may be any
text, absolute or relative, and it may lead through two dots; what is confined is what a write adds
to it. -/
theorem writes_confined (root : String) : WritesConfined root where
  refuses files a escapes := by
    have hcontained : ¬ Path.isContained a.path := fun h => Path.isContained_iff.mp h escapes
    refine ⟨.refused a.path root, ?_, rfl⟩
    rw [sink_write_eq, if_neg hcontained]
  targets files a contained := by
    refine ⟨?_, leadsBelow_join root contained⟩
    rw [sink_write_eq, if_pos (Path.isContained_iff.mpr contained)]
  changes working t a place answer t' run changed := entry?_sink_write working root run changed
  calls sink g snapshot := writeArtifacts_eq_perform sink g snapshot
  models model := by
    rcases model_call_cases model with hskip | ⟨hstem, hcall, hcontained, hcomponents⟩
    · exact .inl hskip
    · exact .inr ⟨hstem, hcall, Path.isContained_iff.mp hcontained, hcomponents⟩
  apart model model' hne h h' := components_artifact_ne hne h h'

end ServiceContract
