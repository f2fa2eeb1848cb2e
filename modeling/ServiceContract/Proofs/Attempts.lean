import ServiceContract.Proofs.SinkCalls

/-!
# Attempts to write

What a run writes is planned before the first write: the files of the models, that of the operations
and the snapshot. A sink may fail at any of them. The run ends with this failure then, and what it
has written is the beginning of the plan.

To say this of a run it is run on a sink that takes notes: `Sink.recording` does what the sink does
and keeps a list of the writes it was asked for, with the answers. `Attempted` says of such a list
that it belongs to a plan, and `KeepsToPlan` what follows for the files and for the answer of the
run.

Main results:

* `Sink.perform_recording`   — a series of calls attempts its artifacts in order.
* `Attempted.keepsToPlan`    — attempts that belong to a plan keep to it.
* `writeArtifacts_recording` — so do those of a run, and taking notes changes nothing about it.
-/

namespace ServiceContract

variable {σ : Type}

/-! ## Taking notes -/

/-- A write that was asked for, and the answer. -/
structure Attempt where
  artifact : Artifact
  answer : Except CommandFailure Unit

/-- The write went through. -/
def Attempt.ok (artifact : Artifact) : Attempt := ⟨artifact, .ok ()⟩

/-- Runs next to a list of notes, which is left as it is. -/
def unnoted {α : Type} (x : StateM σ α) : StateM (σ × List Attempt) α :=
  fun (s, attempts) => ((x.run s).1, (x.run s).2, attempts)

/-- Does what the sink does and takes note of the writes. -/
def Sink.recording (sink : Sink (StateM σ)) : Sink (StateM (σ × List Attempt)) where
  write artifact := do
    let answer ← unnoted (sink.write artifact)
    modify fun (s, attempts) => (s, attempts ++ [⟨artifact, answer⟩])
    pure answer
  log record := unnoted (sink.log record)

/-! ## Attempts -/

/-- These are the attempts to write the plan, and the answer that counts them on from `written`. -/
inductive Attempted (written : Nat) (plan : List Artifact) :
    List Attempt → Except CommandFailure Nat → Prop
  | whole : Attempted written plan (plan.map Attempt.ok) (.ok (written + plan.length))
  | broken {before after : List Artifact} {artifact : Artifact} {failure : CommandFailure}
      (split : plan = before ++ artifact :: after) :
      Attempted written plan (before.map Attempt.ok ++ [⟨artifact, .error failure⟩])
        (.error failure)

/-- A write that goes through comes before the others. -/
theorem Attempted.cons {written : Nat} {plan : List Artifact} {attempts : List Attempt}
    {answer : Except CommandFailure Nat} (artifact : Artifact)
    (h : Attempted (written + 1) plan attempts answer) :
    Attempted written (artifact :: plan) (.ok artifact :: attempts) answer := by
  cases h with
  | whole =>
    have hcount : written + 1 + plan.length = written + (artifact :: plan).length := by
      rw [List.length_cons]
      omega
    rw [hcount]
    exact .whole
  | broken split =>
    subst split
    exact .broken (List.cons_append ..).symm

section Perform

variable (sink : Sink (StateM σ))

/-- A recorded write answers as the sink does, and adds one attempt with that answer at the end. -/
theorem run_recording_write {artifact : Artifact} {s t : σ} {answer : Except CommandFailure Unit}
    (h : (sink.write artifact).run s = (answer, t)) (before : List Attempt) :
    (sink.recording.write artifact).run (s, before) =
      (answer, t, before ++ [⟨artifact, answer⟩]) := by
  have hnoted : (sink.recording.write artifact).run (s, before) =
      (((sink.write artifact).run s).1, ((sink.write artifact).run s).2,
        before ++ [⟨artifact, ((sink.write artifact).run s).1⟩]) := rfl
  rw [hnoted, h]

/-- A series of calls attempts its artifacts in order, and taking notes changes nothing about it. -/
theorem Sink.perform_recording (calls : List SinkCall) (written : Nat) (before : List Attempt)
    (s : σ) :
    ∃ answer attempts t, (sink.perform written calls).run s = (answer, t) ∧
      (sink.recording.perform written calls).run (s, before) = (answer, t, before ++ attempts) ∧
      Attempted written (calls.filterMap SinkCall.artifact?) attempts answer := by
  -- by induction on the calls; what is noted is put behind what was noted before
  induction calls generalizing written before s with
  | nil => exact ⟨.ok written, [], s, rfl, by rw [List.append_nil]; rfl, .whole⟩
  | cons call rest ih =>
    cases call with
    | log record =>
      -- a warning is no write, but it may change what the sink does later
      exact ih written before ((sink.log record).run s).2
    | write artifact =>
      cases hwrite : (sink.write artifact).run s with
      | mk first t =>
        have hnoted := run_recording_write sink hwrite before
        cases first with
        | error failure =>
          -- nothing is asked for any more
          refine ⟨.error failure, [⟨artifact, .error failure⟩], t, ?_, ?_, ?_⟩
          · rw [Sink.perform, StateT.run_bind, hwrite]
            rfl
          · rw [Sink.perform, StateT.run_bind, hnoted]
            rfl
          · exact @Attempted.broken written _ [] _ artifact failure rfl
        | ok _ =>
          obtain ⟨answer, attempts, t', hplain, hrecorded, hattempted⟩ :=
            ih (written + 1) (before ++ [.ok artifact]) t
          rw [List.append_assoc] at hrecorded
          refine ⟨answer, .ok artifact :: attempts, t', ?_, ?_, hattempted.cons artifact⟩
          · rw [Sink.perform, StateT.run_bind, hwrite]
            exact hplain
          · rw [Sink.perform, StateT.run_bind, hnoted]
            exact hrecorded

end Perform

/-! ## Plans -/

/-- The attempts keep to the plan, and `answer` is what they come to. -/
structure KeepsToPlan (plan : List Artifact) (attempts : List Attempt)
    (answer : Except CommandFailure Nat) : Prop where
  /-- What has been written is the beginning of the plan. -/
  written : (attempts.filter fun attempt => attempt.answer.isOk).map Attempt.artifact <+: plan
  /-- The answer is the length of the plan exactly if every write went through. -/
  complete : answer = .ok plan.length ↔ ∀ attempt ∈ attempts, attempt.answer = .ok ()
  /-- All that was planned has been asked for then. -/
  whole : answer = .ok plan.length → attempts.map Attempt.artifact = plan
  /-- Otherwise it is the failure of the last write, the only one that failed. -/
  broken : answer ≠ .ok plan.length → ∃ before artifact failure,
    attempts = before ++ [⟨artifact, .error failure⟩] ∧
    (∀ attempt ∈ before, attempt.answer = .ok ()) ∧ answer = .error failure

/-- The attempts of a prefix of the plan all went through. -/
theorem answer_of_mem_map_ok {artifacts : List Artifact} :
    ∀ attempt ∈ artifacts.map Attempt.ok, attempt.answer = .ok () := by
  intro attempt hattempt
  obtain ⟨artifact, -, rfl⟩ := List.mem_map.mp hattempt
  rfl

theorem filter_isOk_map_ok (artifacts : List Artifact) :
    (artifacts.map Attempt.ok).filter (fun attempt => attempt.answer.isOk) =
      artifacts.map Attempt.ok := by
  rw [List.filter_eq_self]
  intro attempt hattempt
  rw [answer_of_mem_map_ok attempt hattempt]
  rfl

theorem map_artifact_map_ok (artifacts : List Artifact) :
    (artifacts.map Attempt.ok).map Attempt.artifact = artifacts := by
  rw [List.map_map]
  exact List.map_id artifacts

/-- Attempts that belong to a plan keep to it. -/
theorem Attempted.keepsToPlan {plan : List Artifact} {attempts : List Attempt}
    {answer : Except CommandFailure Nat} (h : Attempted 0 plan attempts answer) :
    KeepsToPlan plan attempts answer := by
  cases h with
  | whole =>
    rw [Nat.zero_add]
    refine ⟨?_, ?_, ?_, ?_⟩
    · refine ⟨[], ?_⟩
      rw [List.append_nil, filter_isOk_map_ok, map_artifact_map_ok]
    · exact ⟨fun _ => answer_of_mem_map_ok, fun _ => rfl⟩
    · exact fun _ => map_artifact_map_ok plan
    · exact fun hne => absurd rfl hne
  | @broken before after artifact failure split =>
    subst split
    refine ⟨?_, ?_, ?_, ?_⟩
    · -- the write that failed is dropped
      rw [List.filter_append, filter_isOk_map_ok, List.filter_cons_of_neg Bool.false_ne_true,
        List.filter_nil, List.append_nil, map_artifact_map_ok]
      exact List.prefix_append before _
    · constructor
      · intro heq
        cases heq
      · intro hall
        have hlast := hall ⟨artifact, .error failure⟩
          (List.mem_append_right _ (List.mem_singleton_self _))
        cases hlast
    · intro heq
      cases heq
    · exact fun _ => ⟨_, artifact, failure, rfl, answer_of_mem_map_ok, rfl⟩

/-- The attempts of a run keep to its plan, and taking notes changes nothing about the run. -/
theorem writeArtifacts_recording (sink : Sink (StateM σ)) (g : Generation)
    (snapshot : Option Snapshot) (s : σ) :
    ∃ answer attempts t, (writeArtifacts sink g snapshot).run s = (answer, t) ∧
      (writeArtifacts sink.recording g snapshot).run (s, []) = (answer, t, attempts) ∧
      KeepsToPlan (g.plan snapshot) attempts answer := by
  rw [writeArtifacts_eq_perform, writeArtifacts_eq_perform]
  obtain ⟨answer, attempts, t, hplain, hrecorded, hattempted⟩ :=
    sink.perform_recording (g.calls snapshot) 0 [] s
  exact ⟨answer, attempts, t, hplain, hrecorded, hattempted.keepsToPlan⟩

/-- A sink that has no room for a third file. -/
def twoFiles : Sink (StateM Nat) where
  write _ := do
    let written ← get
    set (written + 1)
    pure (if written < 2 then .ok () else .error (.io "no space left"))
  log _ := pure ()

example :
    let g : Generation :=
      { models := [⟨"Order", .null, false⟩, ⟨"a/b", .null, false⟩, ⟨"Item", .null, false⟩]
        operations := [], imports := ImportSet.empty, diagnostics := [] }
    let run := (writeArtifacts twoFiles.recording g (some ⟨.null, "copy.json"⟩)).run (0, [])
    (run.1, run.2.2.map fun attempt => (attempt.artifact.path, attempt.answer.isOk)) =
      (.error (.io "no space left"), [("definitions/Order.json", true),
        ("definitions/Item.json", true), ("operations.json", false)]) := by
  rfl

end ServiceContract
