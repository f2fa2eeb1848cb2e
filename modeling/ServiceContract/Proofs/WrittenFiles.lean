import Mathlib.Data.List.Dedup
import ServiceContract.Document.Reading
import ServiceContract.Generate
import ServiceContract.Proofs.Containment

/-!
# The files a run leaves

A run that goes through has written its artifacts one after the other, each below the root. Of two
artifacts with one location the later is left. The files of models and that of the operations have
locations of their own, but the snapshot goes where it is asked for, and it is written last: where
its path has the components of another artifact's, whatever the slashes and dots between them, it
takes that artifact's place. The answer counts both.

## Results

* `Sink.Takes.bytes?`   — a file has the contents of the last artifact that went there.
* `nodup_components`    — only the snapshot can share its place.
* `files_of_run`        — what a run leaves below an empty root, and how many files.
* `snapshot_overwrites` — a snapshot that is all that is left of two artifacts.
-/

namespace ServiceContract

/-! ## Artifacts one after the other -/

section Takes

variable {working : Location} {root : String}

/-- A write that goes through had a contained path, and was one write to the joined one. -/
theorem run_write_ok {t t' : FileTree} {a : Artifact}
    (h : (((FileTree.asFiles working).sink root).write a).run t = (.ok (), t')) :
    Path.isContained a.path ∧
      t.write working (Path.join root a.path) (Text.utf8 a.contents) = (t', true) := by
  by_cases hcontained : Path.isContained a.path
  · refine ⟨hcontained, ?_⟩
    cases hwrite : t.write working (Path.join root a.path) (Text.utf8 a.contents) with
    | mk wrote written =>
      rw [run_sink_write working root hcontained hwrite] at h
      cases written with
      | true => cases h; rfl
      | false => cases h
  · rw [run_sink_refused working root t hcontained] at h
    cases h

theorem Sink.Takes.isContained {t t' : FileTree} {plan : List Artifact}
    (h : ((FileTree.asFiles working).sink root).Takes t plan t') :
    ∀ a ∈ plan, Path.isContained a.path := by
  induction h with
  | nil => exact fun a ha => absurd ha List.not_mem_nil
  | cons first _ ih => exact List.forall_mem_cons.mpr ⟨(run_write_ok first).1, ih⟩

theorem Sink.Takes.listed {t t' : FileTree} {plan : List Artifact}
    (h : ((FileTree.asFiles working).sink root).Takes t plan t') (ht : t.Listed) : t'.Listed := by
  induction h with
  | nil => exact ht
  | @cons s s' _ a _ first _ ih =>
    have hlisted := ht.write working (Path.join root a.path) (Text.utf8 a.contents)
    rw [(run_write_ok first).2] at hlisted
    exact ih hlisted

variable (working root) in
/-- The artifact is the last of the plan to go to the location. -/
def LastAt (plan : List Artifact) (place : Location) (a : Artifact) : Prop :=
  ∃ before after, plan = before ++ a :: after ∧ targetLocation working root a.path = place ∧
    ∀ later ∈ after, targetLocation working root later.path ≠ place

/-- A file has the contents of the last artifact that went there, or what it had. -/
theorem Sink.Takes.bytes? {t t' : FileTree} {plan : List Artifact}
    (h : ((FileTree.asFiles working).sink root).Takes t plan t') (place : Location) :
    (∃ a, LastAt working root plan place a ∧ t'.bytes? place = some (Text.utf8 a.contents)) ∨
      ((∀ a ∈ plan, targetLocation working root a.path ≠ place) ∧
        t'.bytes? place = t.bytes? place) := by
  induction h with
  | nil => exact .inr ⟨fun a ha => absurd ha List.not_mem_nil, rfl⟩
  | @cons s s' s'' a rest first _ ih =>
    rcases ih with ⟨b, ⟨before, after, hrest, hplace, hlater⟩, hbytes⟩ | ⟨hnone, hbytes⟩
    · exact .inl ⟨b, ⟨a :: before, after, by rw [hrest]; rfl, hplace, hlater⟩, hbytes⟩
    · -- nothing that follows goes there, so the first artifact decides
      obtain ⟨hcontained, hwrite⟩ := run_write_ok first
      rw [FileTree.bytes?_write hwrite, follow_join working root hcontained] at hbytes
      by_cases htarget : place = targetLocation working root a.path
      · rw [if_pos ⟨rfl, htarget⟩] at hbytes
        exact .inl ⟨a, ⟨[], rest, rfl, htarget.symm, hnone⟩, hbytes⟩
      · rw [if_neg fun hboth => htarget hboth.2] at hbytes
        exact .inr ⟨List.forall_mem_cons.mpr ⟨Ne.symm htarget, hnone⟩, hbytes⟩

theorem LastAt.mem {plan : List Artifact} {place : Location} {a : Artifact}
    (h : LastAt working root plan place a) : a ∈ plan := by
  obtain ⟨before, after, rfl, -, -⟩ := h
  exact List.mem_append_right _ List.mem_cons_self

theorem LastAt.target_eq {plan : List Artifact} {place : Location} {a : Artifact}
    (h : LastAt working root plan place a) : targetLocation working root a.path = place := by
  obtain ⟨_, _, _, hplace, _⟩ := h
  exact hplace

/-- The files below a root that had none are where the artifacts went. `fresh` asks only that there
were no files: directories may have been there, the root among them, and the root may be missing. -/
theorem Sink.Takes.mem_filePlaces {t t' : FileTree} {plan : List Artifact}
    (h : ((FileTree.asFiles working).sink root).Takes t plan t') (listed : t.Listed)
    (fresh : ∀ place, rootLocation working root <+: place → t.bytes? place = none)
    {place : Location} :
    place ∈ t'.filePlaces (rootLocation working root) ↔
      ∃ a ∈ plan, targetLocation working root a.path = place := by
  rw [(h.listed listed).mem_filePlaces]
  constructor
  · rintro ⟨hbelow, bytes, hbytes⟩
    -- what was not written has the bytes it had, and there were none
    rcases h.bytes? place with ⟨a, hlast, -⟩ | ⟨-, hsame⟩
    · exact ⟨a, hlast.mem, hlast.target_eq⟩
    · rw [hsame, fresh place hbelow] at hbytes
      cases hbytes
  · rintro ⟨a, ha, rfl⟩
    obtain ⟨names, -, -, -, hnames⟩ :=
      exists_targetLocation_eq working root (h.isContained a ha)
    refine ⟨⟨names, hnames.symm⟩, ?_⟩
    rcases h.bytes? (targetLocation working root a.path) with ⟨b, -, hbytes⟩ | ⟨hnone, -⟩
    · exact ⟨_, hbytes⟩
    · exact absurd rfl (hnone a ha)

theorem Sink.Takes.length_files {t t' : FileTree} {plan : List Artifact}
    (h : ((FileTree.asFiles working).sink root).Takes t plan t') (listed : t.Listed)
    (fresh : ∀ place, rootLocation working root <+: place → t.bytes? place = none)
    {places : List Location} (hnodup : places.Nodup)
    (hplaces : ∀ place, place ∈ places ↔ ∃ a ∈ plan, targetLocation working root a.path = place) :
    (t'.files (rootLocation working root)).length = places.length := by
  have hfiles := (h.listed listed).nodup_filePlaces (rootLocation working root)
  rw [FileTree.length_files]
  refine ((List.perm_ext_iff_of_nodup hfiles hnodup).mpr fun place => ?_).length_eq
  rw [h.mem_filePlaces listed fresh, hplaces]

variable (working root) in
/-- Contained paths lead to one location if they have the same components, and only then. -/
theorem targetLocation_inj {path path' : String} (h : Path.isContained path)
    (h' : Path.isContained path') :
    targetLocation working root path = targetLocation working root path' ↔
      Path.components path = Path.components path' := by
  obtain ⟨names, -, -, hnames, htarget⟩ := exists_targetLocation_eq working root h
  obtain ⟨names', -, -, hnames', htarget'⟩ := exists_targetLocation_eq working root h'
  rw [htarget, htarget', hnames, hnames', List.append_cancel_left_eq]
  refine ⟨fun heq => by rw [heq], fun heq => ?_⟩
  exact List.map_injective_iff.mpr (fun _ _ hname => by injection hname) heq

end Takes

/-! ## Artifacts of a run -/

/-- The snapshot is planned last. -/
theorem plan_some (g : Generation) (s : Snapshot) :
    g.plan (some s) = g.plan none ++ [s.artifact] := by
  rw [plan_eq, plan_eq, List.append_assoc]
  rfl

/-- The file of the operations lies in the root itself, under its own name. -/
theorem components_operations (g : Generation) :
    Path.components g.operationsArtifact.path = [.name "operations.json"] := by
  have hplain : Path.IsPlain "operations.json" := ⟨by decide, by decide, by decide, by decide⟩
  exact Path.components_of_plain hplain

/-- The artifacts of a run have paths of their own, if the snapshot is left out. -/
theorem nodup_components {g : Generation} (names : (g.models.map ModelDescriptor.name).Nodup) :
    ((g.plan none).map fun a => Path.components a.path).Nodup := by
  rw [plan_eq, List.map_append, List.map_map, List.nodup_append]
  -- models have names of their own, and they lie one directory below the operations
  refine ⟨?_, List.pairwise_singleton _ _, ?_⟩
  · have hnames : ((g.models.filter fun model => Path.isFileStem model.name).map
        ModelDescriptor.name).Nodup := names.sublist (List.filter_sublist.map _)
    refine (List.Nodup.of_map _ hnames).map_on fun model hmodel model' hmodel' heq => ?_
    refine List.inj_on_of_nodup_map hnames hmodel hmodel' ?_
    refine Classical.byContradiction fun hne => ?_
    have hstem := (List.mem_filter.mp hmodel).2
    have hstem' := (List.mem_filter.mp hmodel').2
    exact components_artifact_ne hne hstem hstem' heq
  · rintro way hway way' hway' rfl
    obtain ⟨model, hmodel, rfl⟩ := List.mem_map.mp hway
    rw [Function.comp_apply, (components_artifact (List.mem_filter.mp hmodel).2).2] at hway'
    obtain ⟨a, ha, heq⟩ := List.mem_map.mp hway'
    obtain rfl : a = g.operationsArtifact := List.mem_singleton.mp ha
    rw [components_operations] at heq
    exact absurd (congrArg List.length heq) (by simp)

/-- The models of a run have distinct names. -/
theorem nodup_names_models (ctx : Context) :
    ((generateAll ctx).value.models.map ModelDescriptor.name).Nodup := by
  rw [models_generateAll, Document.models, List.map_map]
  exact ctx.document.definitions.nodup

/-! ## Files of a run -/

/-- The snapshot is asked for where another artifact goes. -/
def Replaced (snapshot : Option Snapshot) (a : Artifact) : Prop :=
  ∃ s ∈ snapshot, Path.components s.destination = Path.components a.path

/-- What is planned with a snapshot is what is planned without one, and the snapshot. -/
theorem mem_plan {g : Generation} {snapshot : Option Snapshot} {a : Artifact} :
    a ∈ g.plan snapshot ↔ a ∈ g.plan none ∨ ∃ s ∈ snapshot, s.artifact = a := by
  cases snapshot with
  | none => simp
  | some s =>
    rw [plan_some, List.mem_append, List.mem_singleton]
    simp [eq_comm]

section Plan

variable {g : Generation} {snapshot : Option Snapshot} {working : Location} {root : String}
  {t t' : FileTree}

/-- An artifact keeps its contents unless the snapshot goes to the same place. The models have
distinct names, so no model's file is overwritten by another's. -/
theorem bytes?_of_not_replaced (names : (g.models.map ModelDescriptor.name).Nodup)
    (takes : ((FileTree.asFiles working).sink root).Takes t (g.plan snapshot) t')
    {a : Artifact} (ha : a ∈ g.plan none) (kept : ¬ Replaced snapshot a) :
    t'.bytes? (targetLocation working root a.path) = some (Text.utf8 a.contents) := by
  have hplanned : a ∈ g.plan snapshot := mem_plan.mpr (.inl ha)
  rcases takes.bytes? (targetLocation working root a.path) with ⟨b, hlast, hbytes⟩ | ⟨hnone, -⟩
  · have hcomponents : Path.components b.path = Path.components a.path :=
      (targetLocation_inj working root (takes.isContained b hlast.mem)
        (takes.isContained a hplanned)).mp hlast.target_eq
    rcases mem_plan.mp hlast.mem with hb | ⟨s, hs, rfl⟩
    · obtain rfl : b = a := List.inj_on_of_nodup_map (nodup_components names) hb ha hcomponents
      exact hbytes
    · exact absurd ⟨s, hs, hcomponents⟩ kept
  · exact absurd rfl (hnone a hplanned)

/-- The snapshot is written last. -/
theorem bytes?_snapshot {s : Snapshot}
    (takes : ((FileTree.asFiles working).sink root).Takes t (g.plan (some s)) t') :
    t'.bytes? (targetLocation working root s.destination) = some (Text.utf8 s.raw.pretty) := by
  rcases takes.bytes? (targetLocation working root s.destination) with
    ⟨b, ⟨before, after, hplan, hplace, hlater⟩, hbytes⟩ | ⟨hnone, -⟩
  · rw [plan_some] at hplan
    -- the snapshot ends the plan, so it is the last to go there or comes after that one
    rcases List.eq_nil_or_concat after with rfl | ⟨front, last, rfl⟩
    · obtain ⟨-, hlast⟩ := List.append_inj' hplan rfl
      cases hlast
      exact hbytes
    · rw [List.concat_eq_append, ← List.cons_append, ← List.append_assoc] at hplan
      obtain ⟨-, hlast⟩ := List.append_inj' hplan rfl
      cases hlast
      exact absurd rfl (hlater s.artifact (by simp))
  · exact absurd rfl (hnone s.artifact (mem_plan.mpr (.inr ⟨s, rfl, rfl⟩)))

/-- Contained paths with distinct components lead to distinct places, whatever the root is. -/
theorem nodup_targets {plan : List Artifact} (hcontained : ∀ a ∈ plan, Path.isContained a.path)
    (hnodup : (plan.map fun a => Path.components a.path).Nodup) :
    (plan.map fun a => targetLocation working root a.path).Nodup := by
  refine (List.Nodup.of_map _ hnodup).map_on fun a ha b hb heq => ?_
  rw [targetLocation_inj working root (hcontained a ha) (hcontained b hb)] at heq
  exact List.inj_on_of_nodup_map hnodup ha hb heq

/-- A run whose snapshot has a place of its own leaves one file for each artifact. -/
theorem length_files_of_kept (names : (g.models.map ModelDescriptor.name).Nodup)
    (listed : t.Listed)
    (fresh : ∀ place, rootLocation working root <+: place → t.bytes? place = none)
    (takes : ((FileTree.asFiles working).sink root).Takes t (g.plan snapshot) t')
    (kept : ∀ a ∈ g.plan none, ¬ Replaced snapshot a) :
    (t'.files (rootLocation working root)).length = (g.plan snapshot).length := by
  -- all components are distinct, so each artifact has a place of its own
  have hcomponents : ((g.plan snapshot).map fun a => Path.components a.path).Nodup := by
    cases snapshot with
    | none => exact nodup_components names
    | some s =>
      rw [plan_some, List.map_append, List.nodup_append]
      refine ⟨nodup_components names, List.pairwise_singleton _ _, ?_⟩
      rintro way hway way' hway' rfl
      obtain ⟨a, ha, rfl⟩ := List.mem_map.mp hway
      exact kept a ha ⟨s, rfl, (List.mem_singleton.mp hway').symm⟩
  have hnodup : ((g.plan snapshot).map fun a => targetLocation working root a.path).Nodup :=
    nodup_targets takes.isContained hcomponents
  rw [takes.length_files listed fresh hnodup fun place => List.mem_map, List.length_map]

/-- A snapshot at the place of an artifact leaves that artifact out. -/
theorem length_files_of_replaced (names : (g.models.map ModelDescriptor.name).Nodup)
    (listed : t.Listed)
    (fresh : ∀ place, rootLocation working root <+: place → t.bytes? place = none)
    (takes : ((FileTree.asFiles working).sink root).Takes t (g.plan snapshot) t')
    (replaced : ∃ a ∈ g.plan none, Replaced snapshot a) :
    (t'.files (rootLocation working root)).length + 1 = (g.plan snapshot).length := by
  obtain ⟨a, ha, s, hs, hsame⟩ := replaced
  obtain rfl : snapshot = some s := hs
  have hcontained := takes.isContained
  -- the places of the other artifacts are all there are
  have hearlier : ∀ b ∈ g.plan none, Path.isContained b.path :=
    fun b hb => hcontained b (mem_plan.mpr (.inl hb))
  have hnodup : ((g.plan none).map fun a => targetLocation working root a.path).Nodup :=
    nodup_targets hearlier (nodup_components names)
  have htarget : targetLocation working root s.destination = targetLocation working root a.path :=
    (targetLocation_inj working root
      (hcontained s.artifact (mem_plan.mpr (.inr ⟨s, rfl, rfl⟩))) (hearlier a ha)).mpr hsame
  rw [takes.length_files listed fresh hnodup, List.length_map, plan_some, List.length_append]
  · rfl
  · intro place
    rw [List.mem_map]
    constructor
    · rintro ⟨b, hb, rfl⟩
      exact ⟨b, mem_plan.mpr (.inl hb), rfl⟩
    · rintro ⟨b, hb, rfl⟩
      rcases mem_plan.mp hb with hb | ⟨_, hs, rfl⟩
      · exact ⟨b, hb, rfl⟩
      · cases hs
        exact ⟨a, ha, htarget.symm⟩

end Plan

/-- What a run that wrote `n` artifacts leaves in a tree that had no files below the root. -/
structure FilesOfRun (g : Generation) (snapshot : Option Snapshot) (working : Location)
    (root : String) (n : Nat) (t' : FileTree) : Prop where
  count : n = (g.plan snapshot).length
  /-- The snapshot is there in any case. -/
  copy : ∀ s ∈ snapshot,
    t'.bytes? (targetLocation working root s.destination) = some (Text.utf8 s.raw.pretty)
  operations : ¬ Replaced snapshot g.operationsArtifact →
    t'.bytes? (rootLocation working root ++ ["operations.json"]) =
      some (Text.utf8 g.operationsArtifact.contents)
  models : ∀ model ∈ g.models, Path.isFileStem model.name → ¬ Replaced snapshot model.artifact →
    t'.bytes? (rootLocation working root ++ [definitionsDirectory, model.name ++ ".json"]) =
      some (Text.utf8 model.toJson.pretty)
  /-- Nothing else is there. -/
  only : ∀ place bytes, rootLocation working root <+: place → t'.bytes? place = some bytes →
    ∃ a ∈ g.plan snapshot, targetLocation working root a.path = place
  /-- The answer is the number of files if the snapshot has a place of its own. -/
  files : (∀ a ∈ g.plan none, ¬ Replaced snapshot a) →
    (t'.files (rootLocation working root)).length = n
  /-- It is one more than that if the snapshot took the place of an artifact. -/
  fewer : (∃ a ∈ g.plan none, Replaced snapshot a) →
    (t'.files (rootLocation working root)).length + 1 = n

/-- A run that goes through has its artifacts taken one after the other. -/
theorem takes_of_run {g : Generation} {snapshot : Option Snapshot} {working : Location}
    {root : String} {t t' : FileTree} {n : Nat}
    (run : (writeArtifacts ((FileTree.asFiles working).sink root) g snapshot).run t = (.ok n, t')) :
    n = (g.plan snapshot).length ∧
      ((FileTree.asFiles working).sink root).Takes t (g.plan snapshot) t' := by
  rw [writeArtifacts_eq_perform] at run
  obtain ⟨hcount, htakes⟩ := Sink.perform_ok (fun _ _ => rfl) run
  exact ⟨hcount.trans (Nat.zero_add _), htakes⟩

/-- What a run leaves below a root that had no files, and how many files. The root may be absolute
or relative, and need not be there before.

The models have distinct `names`, as they do in all that a run hands on (`nodup_names_models`); two
of one name would share a file. That the tree is `listed` says that its entries are found where they
stand, as they are in the empty tree and after every write. `fresh` says that no file was below the
root before, since a file that nothing was written to would be counted as well. `run` says that the
run went through: a refused or failed write ends it, and then there are fewer files. -/
theorem files_of_run {g : Generation} {snapshot : Option Snapshot} {working : Location}
    {root : String} {t t' : FileTree} {n : Nat}
    (names : (g.models.map ModelDescriptor.name).Nodup) (listed : t.Listed)
    (fresh : ∀ place, rootLocation working root <+: place → t.bytes? place = none)
    (run : (writeArtifacts ((FileTree.asFiles working).sink root) g snapshot).run t = (.ok n, t')) :
    FilesOfRun g snapshot working root n t' := by
  obtain ⟨hcount, htakes⟩ := takes_of_run run
  refine ⟨hcount, ?_, ?_, ?_, ?_, ?_, ?_⟩
  · -- the snapshot comes last, whatever its place is
    rintro s rfl
    exact bytes?_snapshot htakes
  · intro hkept
    have hbytes := bytes?_of_not_replaced names htakes (by simp [plan_eq]) hkept
    rwa [targetLocation, components_operations, ← List.map_singleton, FileTree.follow_names]
      at hbytes
  · intro model hmodel hstem hkept
    have hplanned : model.artifact ∈ g.plan none := by
      rw [plan_eq]
      exact List.mem_append_left _ (List.mem_map_of_mem (List.mem_filter.mpr ⟨hmodel, hstem⟩))
    have hbytes := bytes?_of_not_replaced names htakes hplanned hkept
    rwa [targetLocation, (components_artifact hstem).2,
      show [Component.name definitionsDirectory, .name (model.name ++ ".json")] =
        [definitionsDirectory, model.name ++ ".json"].map .name from rfl,
      FileTree.follow_names] at hbytes
  · intro place bytes hbelow hbytes
    have hlisted := htakes.listed listed
    exact (htakes.mem_filePlaces listed fresh).mp
      (hlisted.mem_filePlaces.mpr ⟨hbelow, bytes, hbytes⟩)
  · intro hkept
    rw [length_files_of_kept names listed fresh htakes hkept, hcount]
  · intro hreplaced
    rw [length_files_of_replaced names listed fresh htakes hreplaced, hcount]

/-- A document with two definitions, one of which has no name for a file. -/
def shelved : Json := .object [
  ("swagger", .string "2.0"),
  ("paths", .object []),
  ("definitions", .object [("Order", .object []), ("../Order", .object [])])]

/-- What a run on that document hands on. -/
def shelvedRun : Generation :=
  (generateAll ⟨(Document.read shelved).value, {}, TypeMapper.standard⟩).value

theorem bytes?_empty (place : Location) : ({} : FileTree).bytes? place = none := by
  cases place <;> rfl

/-- The answer and the tree when that run is written below `root`, with a snapshot, in a tree that
was empty. The command is run in a directory that has nothing to do with an absolute root. -/
def shelvedWrite (root destination : String) : Except CommandFailure Nat × FileTree :=
  (writeArtifacts ((FileTree.asFiles ["work"]).sink root) shelvedRun
    (some ⟨shelved, destination⟩)).run {}

theorem run_of_shelvedWrite {root destination : String} {n : Nat}
    (h : (shelvedWrite root destination).1 = .ok n) :
    (writeArtifacts ((FileTree.asFiles ["work"]).sink root) shelvedRun
      (some ⟨shelved, destination⟩)).run {} = (.ok n, (shelvedWrite root destination).2) := by
  change shelvedWrite root destination = _
  rw [← h]

/-- Below an absolute root the run leaves three files: the snapshot, whose path is not the shortest
there is, lies beside the one model that has a file. -/
theorem shelved_files :
    (shelvedWrite "/srv/out" "definitions//./bundled.json").1 = .ok 3 ∧
      FilesOfRun shelvedRun (some ⟨shelved, "definitions//./bundled.json"⟩) ["work"] "/srv/out" 3
        (shelvedWrite "/srv/out" "definitions//./bundled.json").2 := by
  have hanswer : (shelvedWrite "/srv/out" "definitions//./bundled.json").1 = .ok 3 := by
    decide +kernel
  have hnames : (shelvedRun.models.map ModelDescriptor.name).Nodup :=
    nodup_names_models ⟨(Document.read shelved).value, {}, TypeMapper.standard⟩
  have hlisted : ({} : FileTree).Listed := ⟨List.nodup_nil, fun _ h => nomatch h⟩
  exact ⟨hanswer, files_of_run hnames hlisted (fun place _ => bytes?_empty place)
    (run_of_shelvedWrite hanswer)⟩

/-- A run that answers three leaves two files, and the one for the operations holds the document:
the snapshot was asked for at their place and is written after them. -/
theorem snapshot_overwrites :
    (shelvedWrite "/srv/out" "operations.json").1 = .ok 3 ∧
      ((shelvedWrite "/srv/out" "operations.json").2.files ["srv", "out"]).map Prod.fst =
        ["definitions/Order.json", "operations.json"] ∧
      (shelvedWrite "/srv/out" "operations.json").2.bytes? ["srv", "out", "operations.json"] =
        some (Text.utf8 shelved.pretty) ∧
      shelvedRun.operationsArtifact.contents ≠ shelved.pretty := by
  have hanswer : (shelvedWrite "/srv/out" "operations.json").1 = .ok 3 := by decide +kernel
  have hplace : targetLocation ["work"] "/srv/out" "operations.json" =
      ["srv", "out", "operations.json"] := by
    decide +kernel
  have hcopy := bytes?_snapshot (takes_of_run (run_of_shelvedWrite hanswer)).2
  dsimp only at hcopy
  rw [hplace] at hcopy
  exact ⟨hanswer, by decide +kernel, hcopy, by decide +kernel⟩

end ServiceContract
