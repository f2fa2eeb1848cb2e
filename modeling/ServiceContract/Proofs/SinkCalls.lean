import ServiceContract.Artifact
import ServiceContract.Proofs.PathComponents

/-!
# What a run asks of a sink

Writing the files of a run is a series of calls that is known before the first of them is made: one
for each model, which is a warning if the model cannot have a file, one for the operations, and one
for the snapshot if there is one. The series breaks off at the first write that fails.

## Results

* `writeArtifacts_eq_perform` — a run makes its calls in order.
* `plan_eq`                   — the artifacts among its calls.
* `model_call_cases`          — a model is skipped, or its file is one name below one directory.
* `Sink.perform_ok`           — a series that goes through has written every artifact in turn.
-/

namespace ServiceContract

/-- What is asked of a sink. -/
inductive SinkCall where
  | write (artifact : Artifact)
  | log (record : LogRecord)

/-- The artifact that a call hands over. -/
def SinkCall.artifact? : SinkCall → Option Artifact
  | .write artifact => some artifact
  | .log _ => none

/-- The warning in the place of a model's file. -/
def ModelDescriptor.skipped (model : ModelDescriptor) : LogRecord :=
  ⟨.warn, "[" ++ model.name ++ "] skipped model artifact: name is not a plain file name"⟩

/-- The call for a model. -/
def ModelDescriptor.call (model : ModelDescriptor) : SinkCall :=
  if Path.isFileStem model.name then .write model.artifact else .log model.skipped

/-- The calls of a run. -/
def Generation.calls (g : Generation) (snapshot : Option Snapshot) : List SinkCall :=
  g.models.map ModelDescriptor.call ++
    .write g.operationsArtifact :: snapshot.toList.map fun s => .write s.artifact

/-- The artifacts of a run, in the order of writing. -/
def Generation.plan (g : Generation) (snapshot : Option Snapshot) : List Artifact :=
  (g.calls snapshot).filterMap SinkCall.artifact?

/-! ## Calls in order -/

section Perform

variable {m : Type → Type} [Monad m]

/-- Makes calls until a write fails. The answer counts the writes on from `written`. -/
def Sink.perform (sink : Sink m) (written : Nat) : List SinkCall → m (Except CommandFailure Nat)
  | [] => pure (.ok written)
  | .log record :: rest => do
    sink.log record
    sink.perform written rest
  | .write artifact :: rest => do
    match ← sink.write artifact with
    | .ok () => sink.perform (written + 1) rest
    | .error failure => pure (.error failure)

/-- Calls in two parts are made one part after the other, unless one of the first part fails. -/
theorem Sink.perform_append [LawfulMonad m] (sink : Sink m) (written : Nat)
    (calls later : List SinkCall) :
    sink.perform written (calls ++ later) =
      sink.perform written calls >>= fun
        | .ok count => sink.perform count later
        | .error failure => pure (.error failure) := by
  induction calls generalizing written with
  | nil => simp [Sink.perform]
  | cons call rest ih =>
    cases call with
    | log record => simp only [List.cons_append, Sink.perform, ih, bind_assoc]
    | write artifact =>
      simp only [List.cons_append, Sink.perform, bind_assoc]
      refine bind_congr fun answer => ?_
      cases answer with
      | ok _ => exact ih _
      | error failure => simp

/-- Writing models makes one call for each: a write, or a line of the log if the name is no file
name. -/
theorem writeModels_eq_perform (sink : Sink m) (written : Nat) (models : List ModelDescriptor) :
    writeModels sink written models = sink.perform written (models.map ModelDescriptor.call) := by
  induction models generalizing written with
  | nil => rfl
  | cons model rest ih =>
    rw [writeModels, List.map_cons, ModelDescriptor.call]
    split
    · refine bind_congr fun answer => ?_
      cases answer with
      | ok _ => exact ih _
      | error failure => rfl
    · exact bind_congr fun _ => ih written

/-- A run makes its calls in order. -/
theorem writeArtifacts_eq_perform [LawfulMonad m] (sink : Sink m) (g : Generation)
    (snapshot : Option Snapshot) :
    writeArtifacts sink g snapshot = sink.perform 0 (g.calls snapshot) := by
  rw [writeArtifacts, Generation.calls, Sink.perform_append, writeModels_eq_perform]
  refine bind_congr fun answer => ?_
  cases answer with
  | error failure => rfl
  | ok models =>
    -- after the models come the operations, and the snapshot only if these were written
    refine bind_congr fun answer => ?_
    cases answer with
    | error failure => rfl
    | ok _ =>
      cases snapshot with
      | none => rfl
      | some s =>
        refine bind_congr fun answer => ?_
        cases answer <;> rfl

end Perform

/-! ## Artifacts -/

/-- The artifacts of a run: those of the models that can have one, that of the operations, and the
snapshot. -/
theorem plan_eq (g : Generation) (snapshot : Option Snapshot) :
    g.plan snapshot =
      (g.models.filter fun model => Path.isFileStem model.name).map ModelDescriptor.artifact ++
        g.operationsArtifact :: snapshot.toList.map Snapshot.artifact := by
  have hmodels : (g.models.map ModelDescriptor.call).filterMap SinkCall.artifact? =
      (g.models.filter fun model => Path.isFileStem model.name).map ModelDescriptor.artifact := by
    induction g.models with
    | nil => rfl
    | cons model rest ih =>
      rw [List.map_cons, List.filterMap_cons, ih, List.filter_cons, ModelDescriptor.call]
      -- a model whose name is no file name is a line of the log, and plans nothing
      by_cases hstem : Path.isFileStem model.name
      · rw [if_pos hstem, if_pos hstem]
        rfl
      · rw [if_neg hstem, if_neg hstem]
        rfl
  have hsnapshot : (snapshot.toList.map fun s => SinkCall.write s.artifact).filterMap
      SinkCall.artifact? = snapshot.toList.map Snapshot.artifact := by
    cases snapshot <;> rfl
  rw [Generation.plan, Generation.calls, List.filterMap_append, hmodels, List.filterMap_cons,
    hsnapshot]
  rfl

/-- The file of a model is one name below one directory. -/
theorem components_artifact {model : ModelDescriptor} (h : Path.isFileStem model.name) :
    Path.isContained model.artifact.path ∧
      Path.components model.artifact.path =
        [.name definitionsDirectory, .name (model.name ++ ".json")] := by
  have hplain : Path.IsPlain (model.name ++ ".json") :=
    (Path.isFileStem_iff.mp h).1.append (by decide) (by decide)
  have hcomponents : Path.components model.artifact.path =
      [.name definitionsDirectory, .name (model.name ++ ".json")] := by
    rw [ModelDescriptor.artifact, Path.components_join _ (Path.isContained_of_plain hplain),
      Path.components_of_plain hplain]
    rfl
  refine ⟨?_, hcomponents⟩
  rw [Path.isContained, hcomponents]
  rfl

/-- A model is skipped, or its file is one name below one directory. -/
theorem model_call_cases (model : ModelDescriptor) :
    (¬ Path.isFileStem model.name ∧ model.call = .log model.skipped) ∨
      (Path.isFileStem model.name ∧ model.call = .write model.artifact ∧
        Path.isContained model.artifact.path ∧
        Path.components model.artifact.path =
          [.name definitionsDirectory, .name (model.name ++ ".json")]) := by
  rw [ModelDescriptor.call]
  split
  · next h => exact .inr ⟨h, rfl, components_artifact h⟩
  · next h => exact .inl ⟨h, rfl⟩

/-! ## Series that go through -/

/-- The sink takes the artifacts one after the other, from a first state to a last one. -/
inductive Sink.Takes {σ : Type} (sink : Sink (StateM σ)) : σ → List Artifact → σ → Prop
  | nil (s : σ) : sink.Takes s [] s
  | cons {s s' s'' : σ} {a : Artifact} {rest : List Artifact}
      (first : (sink.write a).run s = (.ok (), s')) (later : sink.Takes s' rest s'') :
      sink.Takes s (a :: rest) s''

/-- A series that goes through has written every artifact in turn. -/
theorem Sink.perform_ok {σ : Type} {sink : Sink (StateM σ)}
    (silent : ∀ record s, (sink.log record).run s = ((), s)) {calls : List SinkCall}
    {written n : Nat} {s s' : σ} (h : (sink.perform written calls).run s = (.ok n, s')) :
    n = written + (calls.filterMap SinkCall.artifact?).length ∧
      sink.Takes s (calls.filterMap SinkCall.artifact?) s' := by
  induction calls generalizing written s with
  | nil =>
    cases h
    exact ⟨rfl, .nil _⟩
  | cons call rest ih =>
    cases call with
    | log record =>
      rw [Sink.perform, StateT.run_bind, silent] at h
      exact ih h
    | write artifact =>
      rw [Sink.perform, StateT.run_bind] at h
      cases hwrite : (sink.write artifact).run s with
      | mk answer t =>
        rw [hwrite] at h
        -- a run that goes through has no write that failed
        cases answer with
        | error failure => cases h
        | ok _ =>
          obtain ⟨hcount, htakes⟩ := ih h
          refine ⟨?_, .cons hwrite htakes⟩
          rw [hcount, List.filterMap_cons]
          simp only [SinkCall.artifact?, List.length_cons]
          omega

end ServiceContract
