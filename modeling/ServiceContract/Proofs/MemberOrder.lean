import ServiceContract.Proofs.Coverage
import ServiceContract.Proofs.TwoRuns

/-!
# The order of members in a path item

A path item gives its operations the parameters that stand under one of its keys. Where this key
stands among the others makes no difference, and neither does the place of extensions, references
and values that are no objects: each member is read without a look at those before it. Of the
operations the order counts, since it is the order of their declaration, and of two members for one
method the later is read. So a path item may be written in any order that leaves the operations in
theirs. It is the same item to every run, and what is reported of it differs in its order alone.

Main results:

* `diagnostics_readMembers`  — members are reported on one by one.
* `readItem_reordered`       — a path item with its members in another order.
* `readParts_reordered`      — a document with such a path item.
* `generate_rediagnosed`     — runs see of a document's diagnostics only how many there are.
* `reordered_members_agree`  — the path item, and the runs on the documents that have it.
-/

namespace ServiceContract

variable {α β : Type}

/-! ## Reports up to order -/

/-- The reports have the same value, and the same diagnostics in some order. -/
structure Report.SameUpToOrder (r r' : Report α) : Prop where
  value : r.value = r'.value
  diagnostics : r.findings.diagnostics.Perm r'.findings.diagnostics

namespace Report.SameUpToOrder

theorem refl (r : Report α) : r.SameUpToOrder r := ⟨rfl, .refl _⟩

/-- A step that comes after gets the same value, so only the diagnostics before it change places. -/
theorem bind {r r' : Report α} {f f' : α → Report β} (h : r.SameUpToOrder r')
    (hf : ∀ v, (f v).SameUpToOrder (f' v)) : (r >>= f).SameUpToOrder (r' >>= f') := by
  have hlast := hf r'.value
  refine ⟨?_, ?_⟩
  · rw [value_bind, value_bind, h.value, hlast.value]
  · rw [findings_bind, findings_bind, Findings.diagnostics_append, Findings.diagnostics_append,
      h.value]
    exact h.diagnostics.append hlast.diagnostics

/-- An entry that is handled alike may stand in the place of another with its key. -/
theorem each_putEntry {f : String × α → Report β} {key : String} {v w : α}
    {entries : List (String × α)} (hv : entries.lookup key = some v)
    (h : (f (key, v)).SameUpToOrder (f (key, w))) :
    (Report.each f entries).SameUpToOrder (Report.each f (putEntry key w entries)) := by
  obtain ⟨before, after, rfl, hbefore⟩ := exists_split_of_lookup hv
  rw [putEntry_of_split hbefore]
  clear hv hbefore
  induction before with
  | nil => exact h.bind fun _ => refl _
  | cons entry rest ih => exact (refl _).bind fun _ => ih.bind fun _ => refl _

end Report.SameUpToOrder

/-! ## Path items -/

/-- Whether a member of a path item stands for an operation. -/
def declaresOperation (member : String × Json) : Bool :=
  match ItemEntry.of member.1 member.2 with
  | .operation _ => true
  | .ignored | .parameters | .foreign => false

/-- The same members in another order, in which those that stand for operations follow one another
as they did. -/
structure MembersReordered (a b : Keyed Json) : Prop where
  members : a.entries.Perm b.entries
  operations : a.entries.filter declaresOperation = b.entries.filter declaresOperation

/-- What reading a member of a path item reports. -/
def reportsOn (path : String) (member : String × Json) : List Diagnostic :=
  match ItemEntry.of member.1 member.2 with
  | .parameters =>
    (readSequence Parameter.read .pathParameter path (some member.2)).findings.diagnostics
  | .operation method => (Operation.read method path member.2).findings.diagnostics
  | .ignored | .foreign => []

/-- Members are reported on one by one, whatever was read before them. -/
theorem diagnostics_readMembers (path : String) (acc : PathItem) (members : List (String × Json)) :
    (PathItem.readMembers path acc members).findings.diagnostics =
      members.flatMap (reportsOn path) := by
  induction members generalizing acc with
  | nil => rfl
  | cons member rest ih =>
    obtain ⟨key, value⟩ := member
    rw [List.flatMap_cons]
    cases h : ItemEntry.of key value with
    | ignored => simp [PathItem.readMembers, reportsOn, h, ih]
    | parameters => simp [PathItem.readMembers, reportsOn, h, ih]
    | foreign => simp [PathItem.readMembers, reportsOn, h, ih]
    | operation method => simp [PathItem.readMembers, reportsOn, h, ih]

/-- Members that stand for no operation are read as none. -/
theorem filterMap_declaredBy (path : String) (members : List (String × Json)) :
    (members.filter declaresOperation).filterMap (declaredBy path) =
      members.filterMap (declaredBy path) := by
  rw [List.filterMap_filter]
  refine List.filterMap_congr fun member _ => ?_
  unfold declaresOperation declaredBy
  cases ItemEntry.of member.1 member.2 with
  | operation method => rfl
  | ignored => rfl
  | parameters => rfl
  | foreign => rfl

section Reordered

variable {a b : Keyed Json}

/-- A path item with its members in another order. -/
theorem readItem_reordered (h : MembersReordered a b) (path : String) :
    (PathItem.read path (.object a.entries)).SameUpToOrder
      (PathItem.read path (.object b.entries)) where
  value := by
    -- the parameters are found by their key, the operations are read in their order
    rw [value_readItem, value_readItem, Keyed.get?_of_perm h.members,
      ← filterMap_declaredBy path a.entries, h.operations, filterMap_declaredBy]
  diagnostics := by
    rw [PathItem.read, PathItem.read, diagnostics_readMembers, diagnostics_readMembers]
    exact h.members.flatMap_right _

/-! ## Documents -/

/-- A document with a path item whose members are in another order. -/
theorem readParts_reordered (p : PlacedItem) (h : MembersReordered p.members b) :
    (Document.readParts p.raw).SameUpToOrder (Document.readParts (p.withMembers b)) := by
  have hitem : (readPath (p.path, .object p.members.entries)).SameUpToOrder
      (readPath (p.path, .object b.entries)) :=
    (readItem_reordered h p.path).bind fun _ => .refl _
  have hpaths : p.raw.get? "paths" = some (.object p.paths.entries) := p.root_paths
  -- only the paths are read from another value
  simp only [Document.readParts, p.get?_withMembers, String.reduceEq, if_true, if_false, hpaths,
    readObject, pure_bind, Option.getD_some]
  exact (Report.SameUpToOrder.each_putEntry p.paths_path hitem).bind fun _ => .refl _

end Reordered

/-! ## Runs -/

/-- Two runs hand on the same, but that one document was read with the diagnostics `read` and the
other with `read'`. -/
structure Generation.AgreesButReading (read read' : List Diagnostic) (g g' : Generation) :
    Prop where
  models : g.models = g'.models
  operations : g.operations = g'.operations
  imports : g.imports = g'.imports
  diagnostics : ∃ walk, g.diagnostics = read ++ walk ∧ g'.diagnostics = read' ++ walk

/-- Runs see of a document's diagnostics only how many there are. -/
theorem generate_rediagnosed (document : Document) {read' : List Diagnostic}
    (hlength : document.diagnostics.length = read'.length) (settings : Settings)
    (mapper : TypeMapper) :
    EndAlike (Generation.AgreesButReading document.diagnostics read')
      (generate ⟨document, settings, mapper⟩)
      (generate ⟨{ document with diagnostics := read' }, settings, mapper⟩) := by
  have hversion : ({ document with diagnostics := read' } : Document).checkVersion =
      document.checkVersion := rfl
  have hwalk := generateOperations_diagnostics document settings mapper read'
  rw [generate, generate, hversion]
  cases document.checkVersion with
  | error fault => exact .refused fault
  | ok _ =>
    refine .accepted ⟨⟨rfl, ?_, ?_, ?_⟩, ?_⟩
    · rw [operations_generateAll, operations_generateAll, hwalk]
    · rw [value_generateAll, value_generateAll, hwalk]
    · refine ⟨_, diagnostics_generateAll _, ?_⟩
      rw [diagnostics_generateAll, hwalk]
    · -- the closing line of the log tells their number
      simp only [generateAll, Report.findings_bind, Report.findings_log, Report.findings_pure,
        hwalk, List.length_append, hlength]

/-- To every run the document with other members in its path item is the same, up to the order of
what was skipped on reading. -/
structure PlacedItem.SameWith (p : PlacedItem) (members : Keyed Json) (settings : Settings)
    (mapper : TypeMapper) : Prop where
  declarations : (Document.read p.raw).value.declarations =
    (Document.read (p.withMembers members)).value.declarations
  /-- Each of them is built into the same descriptor with the same findings. -/
  built : ∀ d, buildOperation ⟨(Document.read p.raw).value, settings, mapper⟩ d =
    buildOperation ⟨(Document.read (p.withMembers members)).value, settings, mapper⟩ d
  read : (Document.read p.raw).value.diagnostics.Perm
    (Document.read (p.withMembers members)).value.diagnostics
  runs : EndAlike
    (Generation.AgreesButReading (Document.read p.raw).value.diagnostics
      (Document.read (p.withMembers members)).value.diagnostics)
    (generate ⟨(Document.read p.raw).value, settings, mapper⟩)
    (generate ⟨(Document.read (p.withMembers members)).value, settings, mapper⟩)

/-- The members `a` of a path item may as well be written as `b`. -/
structure WrittenAlike (path : String) (a b : Keyed Json) : Prop where
  item : (PathItem.read path (.object a.entries)).value =
    (PathItem.read path (.object b.entries)).value
  diagnostics : (PathItem.read path (.object a.entries)).findings.diagnostics.Perm
    (PathItem.read path (.object b.entries)).findings.diagnostics
  /-- So it is in every document that has the path item. -/
  documents : ∀ p : PlacedItem, p.path = path → p.members = a →
    ∀ settings mapper, p.SameWith b settings mapper

/-- Members of a path item may be written in any order that leaves its operations in theirs.
`reordered` asks this of the operations since their order is that of declaration, and decides which
of two for one method is read. -/
theorem reordered_members_agree (path : String) (a b : Keyed Json)
    (reordered : MembersReordered a b) : WrittenAlike path a b := by
  obtain ⟨hitem, hreported⟩ := readItem_reordered reordered path
  refine ⟨hitem, hreported, ?_⟩
  rintro p rfl rfl settings mapper
  obtain ⟨hparts, hread⟩ := readParts_reordered p reordered
  -- the typed documents differ in their diagnostics alone
  have hdocument : (Document.read (p.withMembers b)).value =
      { (Document.read p.raw).value with
        diagnostics := (Document.readParts (p.withMembers b)).findings.diagnostics } := by
    rw [Document.read, Document.read, hparts]
  refine ⟨?_, ?_, hread, ?_⟩
  · rw [hdocument]
    rfl
  · intro d
    have hsame := buildOperation_of_parts (a := (Document.read p.raw).value)
      (b := (Document.read (p.withMembers b)).value) (by rw [hdocument]) settings mapper
    exact (congrFun hsame d).symm
  · have hruns := generate_rediagnosed (Document.read p.raw).value hread.length_eq settings mapper
    rw [← hdocument] at hruns
    exact hruns

/-- A path item that begins with its parameters, one of which is none. Two of its operations are for
one method. -/
def parametersFirst : Keyed Json := Keyed.ofList [
  ("parameters", .array [.bool true, .object [("name", .string "id"), ("type", .string "string")]]),
  ("get", .object [("operationId", .string "read")]),
  ("x-note", .object []),
  ("GET", .object [("operationId", .string "show"), ("parameters", .string "none")]),
  ("$ref", .string "#/paths/other"),
  ("put", .null),
  ("delete", .object [("operationId", .string "drop"), ("responses", .array [])])]

/-- The same with the parameters behind all operations. -/
def parametersLast : Keyed Json := Keyed.ofList [
  ("put", .null),
  ("get", .object [("operationId", .string "read")]),
  ("$ref", .string "#/paths/other"),
  ("GET", .object [("operationId", .string "show"), ("parameters", .string "none")]),
  ("delete", .object [("operationId", .string "drop"), ("responses", .array [])]),
  ("x-note", .object []),
  ("parameters", .array [.bool true, .object [("name", .string "id"), ("type", .string "string")]])]

/-- Parameters that move from the front of a path item to its end, past an extension and a
reference. -/
theorem parametersFirst_agrees :
    MembersReordered parametersFirst parametersLast ∧
      WrittenAlike "/orders" parametersFirst parametersLast := by
  have hreordered : MembersReordered parametersFirst parametersLast := ⟨by decide, by decide⟩
  exact ⟨hreordered, reordered_members_agree "/orders" _ _ hreordered⟩

example : [parametersFirst, parametersLast].map (fun members =>
      (PathItem.read "/orders" (.object members.entries)).findings.diagnostics.map (·.scope)) =
    [["/orders", "show", "drop"], ["show", "drop", "/orders"]] := by
  decide +kernel

end ServiceContract
