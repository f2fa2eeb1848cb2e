import ServiceContract.Diagnostic

/-!
# Results with their findings

Reading and resolving never fail on an element: they go on and report. A `Report` is a value
together with what came up on the way: the models mentioned, the diagnostics, and the log. A step
only adds to the findings and cannot see those of earlier steps, so what a step finds does not
depend on what was found before it. A diagnostic is logged as a warning when it is recorded, and by
nothing else.

## Results

* `Findings.append_assoc`          — findings of successive steps can be grouped at will.
* `Report.findings_bind`           — a step's findings follow those of the step before.
* `Report.findings_each`, `findings_keep` — item by item, each finds what it would find alone.
* `Report.MadeOf.bind`             — what two steps in a row find is made of what each finds.
* `Findings.MadeOf.issue_mem`      — all diagnostics are about the issues that steps warn of.
* the instance `LawfulMonad Report` — reports compose as steps of a program do.
-/

namespace ServiceContract

/-- The weight of a log record. -/
inductive Level where
  | debug
  | info
  | warn
  deriving DecidableEq, Repr

/-- The level's name in a log. -/
def Level.name : Level → String
  | debug => "DEBUG"
  | info => "INFO"
  | warn => "WARN"

/-- A line of the log. -/
structure LogRecord where
  level : Level
  message : String
  deriving DecidableEq, Repr

/-- What came up besides the value, each kind in order. -/
structure Findings where
  /-- Names of the models that were referred to. -/
  models : List String := []
  diagnostics : List Diagnostic := []
  log : List LogRecord := []
  deriving DecidableEq, Repr, Inhabited

namespace Findings

instance : Append Findings :=
  ⟨fun a b => ⟨a.models ++ b.models, a.diagnostics ++ b.diagnostics, a.log ++ b.log⟩⟩

@[ext] theorem ext {a b : Findings} (models : a.models = b.models)
    (diagnostics : a.diagnostics = b.diagnostics) (log : a.log = b.log) : a = b := by
  cases a; cases b; simp_all

@[simp] theorem models_append (a b : Findings) : (a ++ b).models = a.models ++ b.models := rfl

@[simp] theorem diagnostics_append (a b : Findings) :
    (a ++ b).diagnostics = a.diagnostics ++ b.diagnostics := rfl

@[simp] theorem log_append (a b : Findings) : (a ++ b).log = a.log ++ b.log := rfl

@[simp] theorem empty_append (a : Findings) : ({} : Findings) ++ a = a := by ext1 <;> simp

@[simp] theorem append_empty (a : Findings) : a ++ ({} : Findings) = a := by ext1 <;> simp

/-- Findings of successive steps can be grouped at will. -/
theorem append_assoc (a b c : Findings) : a ++ b ++ c = a ++ (b ++ c) := by
  ext1 <;> simp [List.append_assoc]

/-- The findings of steps that follow one another. -/
def concat : List Findings → Findings
  | [] => {}
  | a :: rest => a ++ concat rest

@[simp] theorem concat_nil : concat [] = {} := rfl

@[simp] theorem concat_cons (a : Findings) (rest : List Findings) :
    concat (a :: rest) = a ++ concat rest := rfl

/-- Steps in a row mention what each of them mentions, in their order. -/
@[simp] theorem models_concat (l : List Findings) : (concat l).models = l.flatMap models := by
  induction l with
  | nil => rfl
  | cons a rest ih => simp [ih]

/-- The diagnostics of steps in a row follow one another. -/
@[simp] theorem diagnostics_concat (l : List Findings) :
    (concat l).diagnostics = l.flatMap diagnostics := by
  induction l with
  | nil => rfl
  | cons a rest ih => simp [ih]

/-- The findings that steps add: warnings about issues of which `p` holds, lines of the log that
warn of nothing, and mentions. -/
inductive MadeOf (p : Issue → Prop) : Findings → Prop where
  | nothing : MadeOf p {}
  | warning (d : Diagnostic) (h : p d.issue) :
    MadeOf p { diagnostics := [d], log := [⟨.warn, d.text⟩] }
  | line {level : Level} (message : String) (h : level ≠ .warn) :
    MadeOf p { log := [⟨level, message⟩] }
  | mention (name : String) : MadeOf p { models := [name] }
  | append {a b : Findings} (ha : MadeOf p a) (hb : MadeOf p b) : MadeOf p (a ++ b)
  /-- What was mentioned is put aside. -/
  | unmention {a : Findings} (ha : MadeOf p a) : MadeOf p { a with models := [] }

namespace MadeOf

variable {p q : Issue → Prop} {f : Findings}

/-- What findings are made of may be said of more issues than they warn of. -/
theorem mono (himp : ∀ issue, p issue → q issue) (h : f.MadeOf p) : f.MadeOf q := by
  induction h with
  | nothing => exact .nothing
  | warning d hd => exact .warning d (himp _ hd)
  | line message hlevel => exact .line message hlevel
  | mention name => exact .mention name
  | append _ _ iha ihb => exact .append iha ihb
  | unmention _ ih => exact .unmention ih

/-- Every diagnostic comes from a warning, so it is about an issue of which `p` holds. -/
theorem issue_mem (h : f.MadeOf p) : ∀ e ∈ f.diagnostics, p e.issue := by
  induction h with
  | nothing => intro e he; cases he
  | warning d hd =>
    intro e he
    rw [List.mem_singleton.mp he]
    exact hd
  | line _ _ => intro e he; cases he
  | mention _ => intro e he; cases he
  | append _ _ iha ihb =>
    intro e he
    rcases List.mem_append.mp he with he | he
    · exact iha e he
    · exact ihb e he
  | unmention _ ih => exact ih

end MadeOf

end Findings

/-- A value and what came up while it was made. -/
structure Report (α : Type) where
  value : α
  findings : Findings := {}

namespace Report

variable {α β : Type}

@[ext] theorem ext {a b : Report α} (value : a.value = b.value)
    (findings : a.findings = b.findings) : a = b := by
  cases a; cases b; simp_all

instance : Monad Report where
  pure a := { value := a }
  bind a f := { value := (f a.value).value, findings := a.findings ++ (f a.value).findings }

@[simp] theorem value_pure (a : α) : (pure a : Report α).value = a := rfl

@[simp] theorem findings_pure (a : α) : (pure a : Report α).findings = {} := rfl

@[simp] theorem value_bind (a : Report α) (f : α → Report β) :
    (a >>= f).value = (f a.value).value := rfl

/-- A step's findings follow those of the step before. The later step sees the value of the earlier
one and none of its findings. -/
@[simp] theorem findings_bind (a : Report α) (f : α → Report β) :
    (a >>= f).findings = a.findings ++ (f a.value).findings := rfl

@[simp] theorem value_map (f : α → β) (a : Report α) : (f <$> a).value = f a.value := rfl

@[simp] theorem findings_map (f : α → β) (a : Report α) : (f <$> a).findings = a.findings := by
  change a.findings ++ {} = a.findings
  simp

instance : LawfulMonad Report :=
  LawfulMonad.mk' Report
    (fun a => by ext1 <;> simp)
    (fun a f => by ext1 <;> simp)
    (fun a f g => by ext1 <;> simp [Findings.append_assoc])

/-- Adds a line to the log. -/
def log (level : Level) (message : String) : Report Unit :=
  { value := (), findings := { log := [⟨level, message⟩] } }

/-- Records a diagnostic and logs it as a warning. -/
def warn (scope : String) (issue : Issue) : Report Unit :=
  let d : Diagnostic := ⟨scope, issue⟩
  { value := (), findings := { diagnostics := [d], log := [⟨.warn, d.text⟩] } }

/-- Notes that the model `name` was referred to. -/
def mention (name : String) : Report Unit :=
  { value := (), findings := { models := [name] } }

@[simp] theorem findings_log (level : Level) (message : String) :
    (log level message).findings = { log := [⟨level, message⟩] } := rfl

@[simp] theorem models_warn (scope : String) (issue : Issue) :
    (warn scope issue).findings.models = [] := rfl

@[simp] theorem diagnostics_warn (scope : String) (issue : Issue) :
    (warn scope issue).findings.diagnostics = [⟨scope, issue⟩] := rfl

@[simp] theorem findings_mention (name : String) :
    (mention name).findings = { models := [name] } := rfl

/-- Applies `f` to the items in order and keeps every result. -/
def each (f : α → Report β) : List α → Report (List β)
  | [] => pure []
  | item :: rest => do
    let value ← f item
    let values ← each f rest
    pure (value :: values)

/-- Applies `f` to the items in order and keeps the results there are. -/
def keep (f : α → Report (Option β)) : List α → Report (List β)
  | [] => pure []
  | item :: rest => do
    let value ← f item
    let values ← keep f rest
    pure (value.toList ++ values)

@[simp] theorem value_each (f : α → Report β) (items : List α) :
    (each f items).value = items.map fun item => (f item).value := by
  induction items with
  | nil => rfl
  | cons item rest ih => simp [each, ih]

/-- Items are handled one by one: what one of them finds is what it would find alone, and follows
what the items before it found. -/
theorem findings_each (f : α → Report β) (items : List α) :
    (each f items).findings = Findings.concat (items.map fun item => (f item).findings) := by
  induction items with
  | nil => rfl
  | cons item rest ih => simp [each, ih]

/-- Of the results those are kept that there are, in the order of the items. -/
@[simp] theorem value_keep (f : α → Report (Option β)) (items : List α) :
    (keep f items).value = items.filterMap fun item => (f item).value := by
  induction items with
  | nil => rfl
  | cons item rest ih =>
    simp only [keep, value_bind, value_pure, ih, List.filterMap_cons]
    cases (f item).value <;> rfl

/-- Items that give nothing have their findings all the same. -/
theorem findings_keep (f : α → Report (Option β)) (items : List α) :
    (keep f items).findings = Findings.concat (items.map fun item => (f item).findings) := by
  induction items with
  | nil => rfl
  | cons item rest ih => simp [keep, ih]

/-- The diagnostics of the items follow one another, whether the items give a result or not. -/
theorem diagnostics_keep (f : α → Report (Option β)) (items : List α) :
    (keep f items).findings.diagnostics =
      items.flatMap fun item => (f item).findings.diagnostics := by
  rw [findings_keep, Findings.diagnostics_concat, List.flatMap_map]

/-! ## What a report is made of -/

/-- Every diagnostic of the report is about an issue of which `p` holds. -/
def Only (p : Issue → Prop) (r : Report α) : Prop := ∀ e ∈ r.findings.diagnostics, p e.issue

/-- The report's findings are such as steps add that warn only of issues of which `p` holds. -/
abbrev MadeOf (p : Issue → Prop) (r : Report α) : Prop := r.findings.MadeOf p

namespace MadeOf

variable {p : Issue → Prop}

theorem only {r : Report α} (h : r.MadeOf p) : r.Only p := Findings.MadeOf.issue_mem h

theorem pure (a : α) : (Pure.pure a : Report α).MadeOf p := .nothing

/-- What two steps in a row find is made of what each finds, if the second is made of it whatever
the first gives. -/
theorem bind {a : Report α} {f : α → Report β} (ha : a.MadeOf p) (hf : ∀ v, (f v).MadeOf p) :
    (a >>= f).MadeOf p := .append ha (hf a.value)

theorem map (f : α → β) {a : Report α} (ha : a.MadeOf p) : (f <$> a).MadeOf p := by
  rw [MadeOf, findings_map]
  exact ha

/-- A line of the log is no warning. The level is asked for, since a diagnostic is logged as a
warning and by nothing else. -/
theorem log {level : Level} (message : String) (h : level ≠ .warn) :
    (Report.log level message).MadeOf p := .line message h

theorem warn (scope : String) {issue : Issue} (h : p issue) :
    (Report.warn scope issue).MadeOf p := .warning ⟨scope, issue⟩ h

theorem mention (name : String) : (Report.mention name).MadeOf p := Findings.MadeOf.mention name

theorem each {f : α → Report β} {items : List α} (h : ∀ item ∈ items, (f item).MadeOf p) :
    (Report.each f items).MadeOf p := by
  induction items with
  | nil => exact pure []
  | cons item rest ih =>
    obtain ⟨hitem, hrest⟩ := List.forall_mem_cons.mp h
    exact bind hitem fun _ => bind (ih hrest) fun _ => pure _

theorem keep {f : α → Report (Option β)} {items : List α}
    (h : ∀ item ∈ items, (f item).MadeOf p) : (Report.keep f items).MadeOf p := by
  induction items with
  | nil => exact pure []
  | cons item rest ih =>
    obtain ⟨hitem, hrest⟩ := List.forall_mem_cons.mp h
    exact bind hitem fun _ => bind (ih hrest) fun _ => pure _

end MadeOf

end Report

end ServiceContract
