import ServiceContract.Proofs.Coverage

/-!
# Warnings and diagnostics

Whatever cannot be used is told twice: a diagnostic is handed on with the result, and a warning goes
to the log. The two tell the same story. Every step of reading and of walking adds its findings
through the same few reports, of which only one warns, and that one records the diagnostic whose
text it logs. A document keeps what was reported when it was read, and a walk hands it on in front
of its own diagnostics without logging it again.

## Results

* `Findings.MadeOf.warnings_log` — findings warn of their diagnostics, in order, and nothing else.
* `generateAll_made`             — the findings of a walk come about by reporting steps alone.
* `warnings_are_diagnostics`     — reading a document and walking it warns of what the run hands on.
-/

namespace ServiceContract

/-- The texts of a log's warnings, in order. -/
def warnings (log : List LogRecord) : List String :=
  (log.filter fun record => record.level = .warn).map LogRecord.message

theorem warnings_append (a b : List LogRecord) : warnings (a ++ b) = warnings a ++ warnings b := by
  rw [warnings, List.filter_append, List.map_append]
  rfl

/-- Findings warn of their diagnostics, in order, and of nothing else. -/
theorem Findings.MadeOf.warnings_log {p : Issue → Prop} {f : Findings} (h : f.MadeOf p) :
    warnings f.log = f.diagnostics.map Diagnostic.text := by
  -- by induction on how the findings came about; of the steps only `warning` adds to either side
  induction h with
  | nothing => rfl
  | warning d _ => rfl
  | line message hlevel =>
    rw [warnings, List.filter_cons_of_neg (by simpa using hlevel)]
    rfl
  | mention name => rfl
  | append _ _ iha ihb =>
    rw [log_append, warnings_append, iha, ihb, diagnostics_append, List.map_append]
  | unmention _ ih => exact ih

/-! ## What a walk reports -/

section Walk

variable (ctx : Context)

theorem buildOperation_made (d : Declaration) : (buildOperation ctx d).MadeOf fun _ => True := by
  unfold buildOperation
  split
  · exact Report.MadeOf.skip trivial
  · next id _ =>
    split
    · exact Report.MadeOf.skip trivial
    · next method _ =>
      have hdescribe : (describeOperation ctx d id method).MadeOf fun _ => True :=
        (describeOperation_made ctx d id method).mono fun _ _ => trivial
      exact Report.MadeOf.map some (Findings.MadeOf.unmention hdescribe)

/-- Whatever the walk finds, its warnings are its diagnostics, declaration by declaration. -/
theorem walkOperations_made (taken : List String) (declarations : List Declaration) :
    (walkOperations ctx taken declarations).MadeOf fun _ => True := by
  induction declarations generalizing taken with
  | nil => exact Report.MadeOf.pure []
  | cons d rest ih =>
    refine Report.MadeOf.bind (buildOperation_made ctx d) fun built => ?_
    cases built with
    | none => exact ih taken
    | some op =>
      -- a duplicate is warned of before the walk goes on
      simp only
      split
      · exact Report.MadeOf.bind (Report.MadeOf.warn _ trivial) fun _ => ih taken
      · exact Report.MadeOf.bind (ih _) fun _ => Report.MadeOf.pure _

/-- The findings of a walk come about by reporting steps alone. -/
theorem generateAll_made : (generateAll ctx).MadeOf fun _ => True := by
  have hoperations : (generateOperations ctx).MadeOf fun _ => True := by
    unfold generateOperations
    split
    · exact walkOperations_made ctx [] _
    · exact Report.MadeOf.bind (Report.MadeOf.log _ (by decide)) fun _ => Report.MadeOf.pure _
  refine Report.MadeOf.bind hoperations fun _ => ?_
  exact Report.MadeOf.bind (Report.MadeOf.log _ (by decide)) fun _ => Report.MadeOf.pure _

end Walk

/-- The closing line of a walk reports nothing. -/
theorem diagnostics_findings_generateAll (ctx : Context) :
    (generateAll ctx).findings.diagnostics = (generateOperations ctx).findings.diagnostics := by
  rw [generateAll, Report.findings_bind, Report.findings_bind]
  simp

/-! ## A document and its walk -/

/-- What reading a document and walking it warns of. -/
structure WarnsOnce (reading : Report Document) (walk : Report Generation) : Prop where
  /-- The warnings of both, in order, are the diagnostics that the walk hands on. -/
  all : warnings (reading.findings.log ++ walk.findings.log) =
    walk.value.diagnostics.map Diagnostic.text
  /-- The reader's come first, and the walk warns of the later ones alone. -/
  parts : ∃ later, walk.value.diagnostics = reading.value.diagnostics ++ later ∧
    warnings reading.findings.log = reading.value.diagnostics.map Diagnostic.text ∧
    warnings walk.findings.log = later.map Diagnostic.text

/-- Reading a document and walking it warns of the diagnostics that the run hands on: of each once,
in the same order, and of nothing else. A document that is refused is read as well, but then there
is no walk and nothing is handed on, so `run` asks for one that is not. -/
theorem warnings_are_diagnostics (raw : Json) (settings : Settings) (mapper : TypeMapper)
    (r : Report Generation)
    (run : generate ⟨(Document.read raw).value, settings, mapper⟩ = .ok r) :
    WarnsOnce (Document.read raw) r := by
  obtain ⟨-, rfl⟩ := generate_eq_ok.mp run
  have hreading : warnings (Document.read raw).findings.log =
      (Document.read raw).value.diagnostics.map Diagnostic.text :=
    Findings.MadeOf.warnings_log (Document.readParts_made raw)
  have hwalk := Findings.MadeOf.warnings_log
    (generateAll_made ⟨(Document.read raw).value, settings, mapper⟩)
  rw [diagnostics_findings_generateAll] at hwalk
  refine ⟨?_, _, diagnostics_generateAll _, hreading, hwalk⟩
  rw [warnings_append, hreading, hwalk, diagnostics_generateAll, List.map_append]

/-- A document with a response that is no object and is skipped on reading, a response that refers
to a definition it has not, and two operations with one id. -/
def patchy : Json := .object [
  ("swagger", .string "2.0"),
  ("paths", .object [("/orders", .object [
    ("get", .object [("operationId", .string "list"),
      ("responses", .object [
        ("200", .object [("schema", .object [("$ref", .string "#/definitions/Order")])]),
        ("404", .bool true)])]),
    ("post", .object [("operationId", .string "list")])])])]

/-- A run that warns on reading, on resolving and on walking. -/
theorem patchy_warns_once :
    ∃ r, generate ⟨(Document.read patchy).value, {}, TypeMapper.standard⟩ = .ok r ∧
      WarnsOnce (Document.read patchy) r := by
  have hrun : generate ⟨(Document.read patchy).value, {}, TypeMapper.standard⟩ = .ok _ := rfl
  exact ⟨_, hrun, warnings_are_diagnostics patchy {} TypeMapper.standard _ hrun⟩

example : warnings ((Document.read patchy).findings.log ++
      (generateAll ⟨(Document.read patchy).value, {}, TypeMapper.standard⟩).findings.log) =
    ["[list] skipped response '404': invalid type: boolean `true`, expected struct Response",
      "[list] response 200: unknown definition 'Order', using default type",
      "[list] skipped duplicate operationId on post /orders"] := by decide +kernel

end ServiceContract
