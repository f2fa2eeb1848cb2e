import ServiceContract.Document.Basic
import ServiceContract.Reference
import ServiceContract.Report
import ServiceContract.Settings
import ServiceContract.TypeMapper

/-!
# What resolving looks at

Parameters and responses are resolved against a document, under settings and a type mapper.
-/

namespace ServiceContract

/-- The inputs that all resolving shares. -/
structure Context where
  document : Document
  settings : Settings
  mapper : TypeMapper

/-- Leaves something out: records why and gives no value. -/
def Report.skip {α : Type} (scope : String) (issue : Issue) : Report (Option α) := do
  Report.warn scope issue
  pure none

namespace Report

variable {α : Type} {scope : String} {issue : Issue}

@[simp] theorem value_skip : (skip scope issue : Report (Option α)).value = none := rfl

@[simp] theorem diagnostics_skip :
    (skip scope issue : Report (Option α)).findings.diagnostics = [⟨scope, issue⟩] := rfl

@[simp] theorem models_skip : (skip scope issue : Report (Option α)).findings.models = [] := rfl

/-- Leaving something out warns of one issue and does nothing else. -/
theorem MadeOf.skip {p : Issue → Prop} (h : p issue) :
    (Report.skip scope issue : Report (Option α)).MadeOf p :=
  .bind (.warn scope h) fun _ => .pure none

end Report

end ServiceContract
