import ServiceContract.Command.Run
import ServiceContract.Proofs.Attempts

/-!
# Commands that write

A command reads the document, reads the settings, walks the document and then writes. None of the
steps before the first write asks for a write itself: run on files that take notes they go as they
would go anyway, and nothing is noted. So a command that fails at one of them leaves everything as
it was, and a command that gets to writing keeps to the plan of what it has walked.

What the steps fail for is said step by step: `SourceFails` for the document, `SettingsFail` for the
settings, and `WalkFails` for all of them in their order.

Main results:

* `writeless_walk`      — the steps before the first write ask for none.
* `walkFails_iff`       — what they fail for.
* `writes_keep_to_plan` — what a command writes, and what it returns.
-/

namespace ServiceContract

variable {σ : Type} {α β : Type}

/-! ## Steps without writes -/

/-- Does what the files do and takes note of the writes. -/
def Files.recording (files : Files (StateM σ)) : Files (StateM (σ × List Attempt)) where
  read path := unnoted (files.read path)
  write path contents := do
    let answer ← unnoted (files.write path contents)
    modify fun (s, attempts) => (s, attempts ++ [⟨⟨path, contents⟩, answer.mapError .io⟩])
    pure answer
  log record := unnoted (files.log record)

/-- The step `recorded` does what `plain` does and asks for no write. -/
def Writeless (recorded : Step (StateM (σ × List Attempt)) α) (plain : Step (StateM σ) α) : Prop :=
  recorded.run = unnoted plain.run

theorem unnoted_bind (x : StateM σ α) (f : α → StateM σ β) :
    (unnoted x >>= fun a => unnoted (f a)) = unnoted (x >>= f) := rfl

namespace Writeless

theorem pure (a : α) : Writeless (Pure.pure a) (Pure.pure a : Step (StateM σ) α) := rfl

theorem throw (failure : CommandFailure) :
    Writeless (throw failure) (throw failure : Step (StateM σ) α) := rfl

theorem lift {recorded : StateM (σ × List Attempt) α} {plain : StateM σ α}
    (h : recorded = unnoted plain) : Writeless (ExceptT.lift recorded) (ExceptT.lift plain) := by
  rw [h]
  rfl

/-- A step after one that asks for no write asks for none, if it asks for none whatever it gets. -/
theorem bind {recorded : Step (StateM (σ × List Attempt)) α} {plain : Step (StateM σ) α}
    {f : α → Step (StateM (σ × List Attempt)) β} {g : α → Step (StateM σ) β}
    (h : Writeless recorded plain) (hf : ∀ a, Writeless (f a) (g a)) :
    Writeless (recorded >>= f) (plain >>= g) := by
  rw [Writeless, ExceptT.run_bind, ExceptT.run_bind, h, ← unnoted_bind]
  refine bind_congr fun answer => ?_
  -- a failure ends both runs, a value takes both to the next step
  cases answer with
  | ok a => exact hf a
  | error failure => rfl

/-- It leaves the notes as they are. -/
theorem run {recorded : Step (StateM (σ × List Attempt)) α} {plain : Step (StateM σ) α}
    (h : Writeless recorded plain) {s t : σ} {answer : Except CommandFailure α}
    (hplain : plain.run.run s = (answer, t)) (attempts : List Attempt) :
    recorded.run.run (s, attempts) = (answer, t, attempts) := by
  have hnoted : (unnoted plain.run).run (s, attempts) =
      ((plain.run.run s).1, (plain.run.run s).2, attempts) := rfl
  rw [h, hnoted, hplain]

end Writeless

section Steps

variable (files : Files (StateM σ))

theorem readText_recording (path : String) :
    files.recording.readText path = unnoted (files.readText path) := by
  unfold Files.readText
  rw [← unnoted_bind]
  refine bind_congr fun answer => ?_
  cases answer with
  | error detail => rfl
  | ok bytes =>
    simp only
    cases Text.decode? bytes with
    | none => rfl
    | some text => rfl

theorem writeless_logAll (records : List LogRecord) :
    Writeless (files.recording.logAll records) (files.logAll records) := by
  refine Writeless.lift ?_
  induction records with
  | nil => rfl
  | cons record rest ih =>
    change (unnoted (files.log record) >>= fun _ => rest.forM files.recording.log) = _
    rw [ih]
    rfl

/-- A file that is loaded is read and parsed. That asks for no write, whether it succeeds or fails,
and whatever the file is. -/
theorem writeless_load {ε : Type} (path : String) (parse : String → Except ε α)
    (unread : String → CommandFailure) (unfit : ε → CommandFailure) :
    Writeless (files.recording.load path parse unread unfit)
      (files.load path parse unread unfit) := by
  refine Writeless.bind (.lift (readText_recording files path)) fun answer => ?_
  cases answer with
  | error detail => exact .throw _
  | ok text =>
    simp only
    cases parse text with
    | error cause => exact .throw _
    | ok value => exact .pure value

theorem writeless_loadSource (path : String) :
    Writeless (loadSource files.recording path) (loadSource files path) := by
  refine (writeless_load files path _ _ _).bind fun report => ?_
  exact (writeless_logAll files _).bind fun _ => .pure _

theorem writeless_settings (o : WalkOptions) :
    Writeless (o.settings files.recording) (o.settings files) := by
  unfold WalkOptions.settings
  cases o.config with
  | none => exact .pure _
  | some path =>
    simp only [map_eq_pure_bind]
    exact (writeless_load files path _ _ _).bind fun settings => .pure _

/-- All steps before the first write ask for none. -/
theorem writeless_walk (o : WalkOptions) :
    Writeless (o.walk files.recording) (o.walk files) := by
  refine (writeless_loadSource files o.spec).bind fun source => ?_
  refine (writeless_settings files o).bind fun settings => ?_
  cases generate ⟨source.document, settings, .standard⟩ with
  | error fault => exact .throw _
  | ok report => exact (writeless_logAll files _).bind fun _ => .pure _

end Steps

/-! ## Failures before the first write -/

section Failures

section Bind

variable {x : Step (StateM σ) α} {f : α → Step (StateM σ) β} {s t : σ} {failure : CommandFailure}

/-- A step that succeeds hands on its value and its state. -/
theorem run_bind_of_ok {a : α} (h : x.run.run s = (.ok a, t)) :
    (x >>= f).run.run s = (f a).run.run t := by
  rw [ExceptT.run_bind, StateT.run_bind, h]
  rfl

/-- A step that fails ends the run, with the state it leaves. -/
theorem run_bind_of_error (h : x.run.run s = (.error failure, t)) :
    (x >>= f).run.run s = (.error failure, t) := by
  rw [ExceptT.run_bind, StateT.run_bind, h]
  rfl

/-- Two steps in a row fail if the first does, or the second where the first leads. -/
theorem exists_run_bind_error :
    (∃ t, (x >>= f).run.run s = (.error failure, t)) ↔
      (∃ t, x.run.run s = (.error failure, t)) ∨
        ∃ a t, x.run.run s = (.ok a, t) ∧ ∃ t', (f a).run.run t = (.error failure, t') := by
  constructor
  · rintro ⟨t, herror⟩
    -- the first step fails, or it hands a value to a second step that does
    cases hx : x.run.run s with
    | mk answer t' =>
      cases answer with
      | error cause =>
        rw [run_bind_of_error hx] at herror
        cases herror
        exact Or.inl ⟨t, rfl⟩
      | ok a =>
        rw [run_bind_of_ok hx] at herror
        exact Or.inr ⟨a, t', rfl, t, herror⟩
  · rintro (⟨t, hx⟩ | ⟨a, t, hx, t', hf⟩)
    · exact ⟨t, run_bind_of_error hx⟩
    · exact ⟨t', (run_bind_of_ok hx).trans hf⟩

theorem run_lift_bind {y : StateM σ α} {a : α} (h : y.run s = (a, t)) :
    ((liftM y : Step (StateM σ) α) >>= f).run.run s = (f a).run.run t := by
  have hlift : (liftM y : Step (StateM σ) α).run.run s = (.ok a, t) := by
    change ((Except.ok <$> y : StateM σ (Except CommandFailure α))).run s = _
    rw [StateT.run_map, h]
    rfl
  exact run_bind_of_ok hlift

end Bind

variable (files : Files (StateM σ))

/-- Why a file does not load: it cannot be read, or its text does not parse. -/
inductive LoadFails {ε : Type} (parse : String → Except ε α) (unread : String → CommandFailure)
    (unfit : ε → CommandFailure) (path : String) (s : σ) : CommandFailure → Prop
  | unreadable {detail : String} {t : σ}
      (read : (files.readText path).run s = (.error detail, t)) :
      LoadFails parse unread unfit path s (unread detail)
  | unparsable {text : String} {t : σ} {cause : ε}
      (read : (files.readText path).run s = (.ok text, t)) (parsed : parse text = .error cause) :
      LoadFails parse unread unfit path s (unfit cause)

/-- Why there is no document. -/
abbrev SourceFails (path : String) (s : σ) : CommandFailure → Prop :=
  LoadFails files Source.parse (fun detail => .core (.io detail)) .core path s

/-- Why a file gives no settings. -/
abbrev SettingsFail (path : String) (s : σ) : CommandFailure → Prop :=
  LoadFails files Settings.ofText .io (fun fault => .badSettings path fault.message) path s

/-- Loading fails for these reasons and for no other: the file cannot be read, or its text does not
parse. -/
theorem loadFails_iff {ε : Type} {parse : String → Except ε α} {unread : String → CommandFailure}
    {unfit : ε → CommandFailure} {path : String} {s : σ} {failure : CommandFailure} :
    LoadFails files parse unread unfit path s failure ↔
      ∃ t, (files.load path parse unread unfit).run.run s = (.error failure, t) := by
  unfold Files.load
  constructor
  · intro h
    cases h with
    | @unreadable detail t read => exact ⟨t, by rw [run_lift_bind read]; rfl⟩
    | @unparsable text t cause read parsed =>
      exact ⟨t, by rw [run_lift_bind read]; simp only [parsed]; rfl⟩
  · rintro ⟨t, herror⟩
    -- what was read, and then what it parses to, tells which of the cases this is
    cases read : (files.readText path).run s with
    | mk answer t' =>
      rw [run_lift_bind read] at herror
      cases answer with
      | error detail =>
        cases herror
        exact .unreadable read
      | ok text =>
        cases parsed : parse text with
        | error cause =>
          simp only [parsed] at herror
          cases herror
          exact .unparsable read parsed
        | ok value =>
          simp only [parsed] at herror
          cases herror

/-- A source fails to load exactly as `SourceFails` tells. -/
theorem sourceFails_iff {path : String} {s : σ} {failure : CommandFailure} :
    SourceFails files path s failure ↔
      ∃ t, (loadSource files path).run.run s = (.error failure, t) := by
  unfold loadSource
  rw [exists_run_bind_error, ← loadFails_iff]
  constructor
  · exact Or.inl
  · rintro (h | ⟨report, t, -, t', hlog⟩)
    · exact h
    · -- the log takes everything
      cases hlog

/-- Only settings that are to be loaded from a file can fail. -/
theorem exists_settings_error {o : WalkOptions} {s : σ} {failure : CommandFailure} :
    (∃ t, (o.settings files).run.run s = (.error failure, t)) ↔
      ∃ path, o.config = some path ∧ SettingsFail files path s failure := by
  unfold WalkOptions.settings
  -- without a file of settings there is nothing that could fail
  cases o.config with
  | none =>
    constructor
    · rintro ⟨t, herror⟩
      cases herror
    · rintro ⟨path, hnone, -⟩
      cases hnone
  | some path =>
    -- options of the command line override what was loaded, which cannot fail
    have hload : (∃ t, (o.override <$> loadSettings files path).run.run s = (.error failure, t)) ↔
        SettingsFail files path s failure := by
      rw [map_eq_pure_bind, exists_run_bind_error, loadSettings, ← loadFails_iff]
      constructor
      · rintro (h | ⟨settings, t, -, t', hpure⟩)
        · exact h
        · cases hpure
      · exact Or.inl
    simp only [hload, Option.some.injEq, exists_eq_left']

/-- Why a command stops before its first write. -/
inductive WalkFails (o : WalkOptions) (s : σ) : CommandFailure → Prop
  | source {failure : CommandFailure} (h : SourceFails files o.spec s failure) :
      WalkFails o s failure
  | settings {source : Source} {t : σ} {path : String} {failure : CommandFailure}
      (loaded : (loadSource files o.spec).run.run s = (.ok source, t))
      (config : o.config = some path) (h : SettingsFail files path t failure) :
      WalkFails o s failure
  | version {source : Source} {settings : Settings} {t t' : σ} {fault : VersionFault}
      (loaded : (loadSource files o.spec).run.run s = (.ok source, t))
      (set : (o.settings files).run.run t = (.ok settings, t'))
      (h : source.document.checkVersion = .error fault) :
      WalkFails o s (.core (.version fault))

/-- A walk fails for one of these reasons and for no other. -/
theorem walkFails_iff {o : WalkOptions} {s : σ} {failure : CommandFailure} :
    WalkFails files o s failure ↔ ∃ t, (o.walk files).run.run s = (.error failure, t) := by
  unfold WalkOptions.walk
  rw [exists_run_bind_error, ← sourceFails_iff]
  constructor
  · intro h
    cases h with
    | source h => exact Or.inl h
    | @settings source t path _ loaded config h =>
      refine Or.inr ⟨source, t, loaded, ?_⟩
      rw [exists_run_bind_error, exists_settings_error]
      exact Or.inl ⟨path, config, h⟩
    | @version source settings t t' fault loaded set h =>
      refine Or.inr ⟨source, t, loaded, ?_⟩
      rw [exists_run_bind_error]
      refine Or.inr ⟨settings, t', set, t', ?_⟩
      have hfault : generate ⟨source.document, settings, .standard⟩ = .error fault :=
        generate_eq_error.mpr h
      simp only [hfault]
      rfl
  · -- the first step that fails is the reason, and what comes before it has gone through
    rintro (h | ⟨source, t, loaded, hlater⟩)
    · exact .source h
    · rw [exists_run_bind_error, exists_settings_error] at hlater
      rcases hlater with ⟨path, config, h⟩ | ⟨settings, t', set, t'', herror⟩
      · exact .settings loaded config h
      · cases hrun : generate ⟨source.document, settings, .standard⟩ with
        | error fault =>
          simp only [hrun] at herror
          cases herror
          exact .version loaded set (generate_eq_error.mp hrun)
        | ok report =>
          -- the log takes everything, so a walk that has come so far succeeds
          simp only [hrun] at herror
          cases herror

end Failures

/-! ## Commands -/

/-- What a command writes keeps to the plan, and a command that stops before its first write asks
for none. -/
structure WritesToPlan (files : Files (StateM σ)) (sink : Sink (StateM σ)) : Prop where
  /-- Planned are the files of the models whose names can be file names, in the order of the
  models, then the file of the operations, and then the snapshot. -/
  planned : ∀ (g : Generation) (snapshot : Option Snapshot), g.plan snapshot =
    (g.models.filter fun model => Path.isFileStem model.name).map ModelDescriptor.artifact ++
      g.operationsArtifact :: snapshot.toList.map Snapshot.artifact
  artifacts : ∀ (g : Generation) (snapshot : Option Snapshot) (s : σ), ∃ answer attempts t,
    (writeArtifacts sink g snapshot).run s = (answer, t) ∧
    (writeArtifacts sink.recording g snapshot).run (s, []) = (answer, t, attempts) ∧
    KeepsToPlan (g.plan snapshot) attempts answer
  stopped : ∀ (o : WalkOptions) (snapshot : Option String) (s : σ) (failure : CommandFailure),
    WalkFails files o s failure → ∃ t,
      (o.writeThrough files sink snapshot).run.run s = (.error failure, t) ∧
      (o.writeThrough files.recording sink.recording snapshot).run.run (s, []) =
        (.error failure, t, [])
  /-- Any other command has walked its document. -/
  walked : ∀ (o : WalkOptions) (snapshot : Option String) (s : σ),
    (∀ failure, ¬ WalkFails files o s failure) → ∃ source g t answer attempts t',
      (o.walk files).run.run s = (.ok (source, g), t) ∧
      (o.writeThrough files sink snapshot).run.run s = (answer, t') ∧
      (o.writeThrough files.recording sink.recording snapshot).run.run (s, []) =
        (answer, t', attempts) ∧
      KeepsToPlan (g.plan (snapshot.map fun destination => ⟨source.raw, destination⟩)) attempts
        answer

/-- What a command writes keeps to the plan. A command that fails before its first write has asked
for none. The files and the sink may be any, and the sink may refuse or fail at any artifact: what
is said holds of the attempts up to there, and none is made after it. -/
theorem writes_keep_to_plan (files : Files (StateM σ)) (sink : Sink (StateM σ)) :
    WritesToPlan files sink where
  planned := plan_eq
  artifacts := writeArtifacts_recording sink
  stopped o snapshot s failure h := by
    obtain ⟨t, hwalk⟩ := (walkFails_iff files).mp h
    exact ⟨t, run_bind_of_error hwalk,
      run_bind_of_error ((writeless_walk files o).run hwalk [])⟩
  walked o snapshot s h := by
    cases hwalk : (o.walk files).run.run s with
    | mk answer t =>
      -- the notes before the first write are none
      have hnoted := (writeless_walk files o).run hwalk []
      cases answer with
      | error failure => exact absurd ((walkFails_iff files).mpr ⟨t, hwalk⟩) (h failure)
      | ok walked =>
        obtain ⟨source, g⟩ := walked
        obtain ⟨answer, attempts, t', hplain, hrecorded, hkeeps⟩ := writeArtifacts_recording sink g
          (snapshot.map fun destination => ⟨source.raw, destination⟩) t
        cases answer with
        | error failure =>
          refine ⟨source, g, t, .error failure, attempts, t', rfl, ?_, ?_, hkeeps⟩
          · exact (run_bind_of_ok hwalk).trans (run_bind_of_error hplain)
          · exact (run_bind_of_ok hnoted).trans (run_bind_of_error hrecorded)
        | ok written =>
          -- what is left to do is to log the count
          exact ⟨source, g, t, .ok written, attempts, _, rfl,
            (run_bind_of_ok hwalk).trans ((run_bind_of_ok hplain).trans rfl),
            (run_bind_of_ok hnoted).trans ((run_bind_of_ok hrecorded).trans rfl), hkeeps⟩

end ServiceContract
