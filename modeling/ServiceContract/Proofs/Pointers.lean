import ServiceContract.Proofs.ImportUse

/-!
# Which pointers are references

A pointer is taken apart at its slashes. It is a reference exactly if that gives three segments: the
second says which part of the document is meant, the third is the name in escaped form. The first
segment is not looked at. A pointer within the document has `#` there, but a pointer into another
file, such as `common.yaml#/definitions/Order`, has three segments as well, and is taken for a
reference to the definition of that name in this document.

Main results:

* `ofPointer?_eq_some_iff`    — which pointers are references, and to what.
* `ofPointer?_local_iff`      — for which pointers it is true that only local ones are references.
* `pointers_read_by_segments` — what a pointer means, and what carries it is typed by.
* `otherFile_read`            — a pointer into another file that is read as a local one.
-/

namespace ServiceContract

/-! ## Segments -/

/-- The three segments of a pointer. -/
structure Segments where
  head : String
  part : String
  name : String

namespace Segments

/-- The pointer that is made of the segments. -/
def pointer (s : Segments) : String := s.head ++ "/" ++ s.part ++ "/" ++ s.name

/-- No segment has a slash. -/
def Plain (s : Segments) : Prop :=
  '/' ∉ s.head.toList ∧ '/' ∉ s.part.toList ∧ '/' ∉ s.name.toList

/-- The name that the last segment stands for. -/
def target (s : Segments) : String := Reference.decodeSegment s.name.toList

/-- What the last two segments refer to. -/
def reference (s : Segments) : Reference where
  category :=
    if s.part = "definitions" then .definition
    else if s.part = "parameters" then .parameter
    else .other
  name := s.target

/-- The text of a pointer is its three segments with slashes between them. -/
theorem toList_pointer (s : Segments) :
    s.pointer.toList = s.head.toList ++ '/' :: (s.part.toList ++ '/' :: s.name.toList) := by
  simp [pointer]

end Segments

/-- The segments are those the pointer is split into. -/
theorem pieces_eq_segments_iff {pointer : String} {s : Segments} :
    Text.pieces '/' pointer.toList = [s.head.toList, s.part.toList, s.name.toList] ↔
      s.Plain ∧ s.pointer = pointer := by
  rw [Text.pieces_eq_three_iff, ← s.toList_pointer, String.toList_inj, and_comm, eq_comm,
    Segments.Plain]

/-- A pointer is a reference exactly if it has three segments, and what it refers to is said by the
last two. -/
theorem ofPointer?_eq_some_iff {pointer : String} {r : Reference} :
    Reference.ofPointer? pointer = some r ↔
      ∃ s : Segments, s.Plain ∧ s.pointer = pointer ∧ s.reference = r := by
  -- categories are compared as characters, the parts of a pointer as texts
  have hcategory : ∀ part : String, Reference.Category.ofSegment part.toList =
      if part = "definitions" then .definition
      else if part = "parameters" then .parameter
      else .other := by
    intro part
    simp only [Reference.Category.ofSegment, String.toList_inj]
  unfold Reference.ofPointer?
  constructor
  · intro h
    split at h
    · next head part name hpieces =>
      refine ⟨⟨String.ofList head, String.ofList part, String.ofList name⟩, ?_⟩
      have hsegments : Segments.Plain ⟨String.ofList head, String.ofList part, String.ofList name⟩ ∧
          Segments.pointer ⟨String.ofList head, String.ofList part, String.ofList name⟩ =
            pointer := by
        rw [← pieces_eq_segments_iff, hpieces]
        simp only [String.toList_ofList]
      refine ⟨hsegments.1, hsegments.2, ?_⟩
      rw [← Option.some.inj h, Segments.reference, Segments.target, ← hcategory,
        String.toList_ofList, String.toList_ofList]
    · cases h
  · rintro ⟨s, hplain, hpointer, rfl⟩
    rw [pieces_eq_segments_iff.mpr ⟨hplain, hpointer⟩]
    simp only [Segments.reference, Segments.target, hcategory]

/-- A pointer has but one way of being taken apart. -/
theorem Segments.eq_of_pointer {s t : Segments} (hs : s.Plain) (ht : t.Plain)
    (h : s.pointer = t.pointer) : s = t := by
  have hpieces := pieces_eq_segments_iff.mpr ⟨hs, h⟩
  rw [pieces_eq_segments_iff.mpr ⟨ht, rfl⟩] at hpieces
  simp only [List.cons.injEq, String.toList_inj, and_true] at hpieces
  obtain ⟨hhead, hpart, hname⟩ := hpieces
  cases s
  cases t
  simp_all

/-- That only pointers within the document are references holds of a pointer unless it has three
segments and the first is another than theirs. -/
theorem ofPointer?_local_iff {pointer : String} :
    (∀ r, Reference.ofPointer? pointer = some r ↔
        ∃ s : Segments, s.Plain ∧ s.head = "#" ∧ s.pointer = pointer ∧ s.reference = r) ↔
      ∀ s : Segments, s.Plain → s.pointer = pointer → s.head = "#" := by
  constructor
  · intro hlocal s hplain hpointer
    -- the pointer is read whatever its first segment is, so that segment has to be the local one
    have hread : Reference.ofPointer? pointer = some s.reference :=
      ofPointer?_eq_some_iff.mpr ⟨s, hplain, hpointer, rfl⟩
    obtain ⟨t, ht, hhead, hsame, -⟩ := (hlocal s.reference).mp hread
    rw [Segments.eq_of_pointer hplain ht (hpointer.trans hsame.symm)]
    exact hhead
  · intro hheads r
    rw [ofPointer?_eq_some_iff]
    constructor
    · rintro ⟨s, hplain, hpointer, hreference⟩
      exact ⟨s, hplain, hheads s hplain hpointer, hpointer, hreference⟩
    · rintro ⟨s, hplain, -, hpointer, hreference⟩
      exact ⟨s, hplain, hpointer, hreference⟩

/-! ## What carries a pointer -/

/-- A pointer leads to the definition that its last segment names, whatever the first one is. -/
theorem pointsTo_iff {document : Document} {pointer name : String} :
    document.PointsTo (some pointer) name ↔
      ∃ s : Segments, s.Plain ∧ s.pointer = pointer ∧ s.part = "definitions" ∧ s.target = name ∧
        document.defines name = true := by
  rw [Document.PointsTo, Option.bind_some, ofPointer?_eq_some_iff]
  constructor
  · rintro ⟨⟨s, hplain, hpointer, hreference⟩, hdefines⟩
    obtain ⟨hcategory, hname⟩ := Reference.mk.inj hreference
    refine ⟨s, hplain, hpointer, ?_, hname, hdefines⟩
    -- of the three categories only this one is that of a definition
    split at hcategory
    · next hpart => exact hpart
    · split at hcategory <;> cases hcategory
  · rintro ⟨s, hplain, hpointer, hpart, hname, hdefines⟩
    exact ⟨⟨s, hplain, hpointer, by rw [Segments.reference, if_pos hpart, hname]⟩, hdefines⟩

/-- How a pointer is read. -/
structure PointerReading (pointer : String) : Prop where
  /-- Only pointers of three segments are references. -/
  reference : ∀ r, Reference.ofPointer? pointer = some r ↔
    ∃ s : Segments, s.Plain ∧ s.pointer = pointer ∧ s.reference = r
  /-- That only local pointers are references holds of it unless it has three segments and another
  first one than these. -/
  confined : (∀ r, Reference.ofPointer? pointer = some r ↔
      ∃ s : Segments, s.Plain ∧ s.head = "#" ∧ s.pointer = pointer ∧ s.reference = r) ↔
    ∀ s : Segments, s.Plain → s.pointer = pointer → s.head = "#"
  /-- A response that carries the pointer is typed by the definition that the last segment names, if
  the document has it, whatever the first segment is, and by no other definition. -/
  response : ∀ (ctx : Context) (scope status name : String) (response : Response),
    response.schema.bind Schema.reference = some pointer →
      ((resolveModel ctx scope status response).value = some name ↔
        ∃ s : Segments, s.Plain ∧ s.pointer = pointer ∧ s.part = "definitions" ∧
          s.target = name ∧ ctx.document.defines name = true)
  /-- So is a parameter that carries the pointer and states no type in place. -/
  parameter : ∀ (ctx : Context) (scope : String) (s : Segments) (p : Parameter),
    s.Plain → s.pointer = pointer → s.part = "definitions" →
      p.inlineType = none → p.pointer = some pointer →
        ((∃ e, (resolveParameter ctx scope p).value = some e ∧ e.type = s.target) ↔
          ctx.document.defines s.target = true)

/-- A pointer is read by its last two segments, and so is what carries it. The first segment is not
looked at, so a pointer into another file is read as one into the document; `confined` says for
which pointers this makes no difference. -/
theorem pointers_read_by_segments (pointer : String) : PointerReading pointer where
  reference r := ofPointer?_eq_some_iff
  confined := ofPointer?_local_iff
  response ctx scope status name response hcarries := by
    rw [(resolveModel_spec ctx scope status response).1, modelOf?_eq_some, hcarries, pointsTo_iff]
  parameter ctx scope s p hplain hpointer hpart huntyped hcarries := by
    constructor
    · rintro ⟨e, hvalue, -⟩
      have hread : Reference.ofPointer? pointer = some ⟨.definition, s.target⟩ :=
        ofPointer?_eq_some_iff.mpr
          ⟨s, hplain, hpointer, by rw [Segments.reference, if_pos hpart]⟩
      -- without the definition the parameter would have been skipped
      apply Classical.byContradiction
      intro hundefined
      simp only [resolveParameter, huntyped, hcarries, hread, resolveDefinition,
        if_neg hundefined, Report.value_skip, reduceCtorEq] at hvalue
    · intro hdefines
      refine exists_entry_of_refersTo scope (.own huntyped ?_)
      rw [hcarries, pointsTo_iff]
      exact ⟨s, hplain, hpointer, hpart, rfl, hdefines⟩

/-- A document with a response that refers to a definition in another file, where a definition of
its own has the same name. -/
def otherFile : Context where
  document :=
    { swagger := some "2.0"
      definitions := Keyed.ofList [("Order", .object [])]
      paths := Keyed.ofList [("/orders", { operations := Keyed.ofList [
        ("get", {
          operationId := some "list"
          responses := Keyed.ofList [("200", {
            schema := some ⟨some "common.yaml#/definitions/Order", none, none⟩ })] })] })] }
  settings := {}
  mapper := TypeMapper.standard

/-- The pointer into the other file is a reference though its first segment is not that of a local
one, and the response is typed by the definition of the document. -/
theorem otherFile_read :
    Reference.ofPointer? "common.yaml#/definitions/Order" = some ⟨.definition, "Order"⟩ ∧
      (¬ ∃ s : Segments, s.Plain ∧ s.head = "#" ∧ s.pointer = "common.yaml#/definitions/Order") ∧
      ∃ r op, generate otherFile = .ok r ∧ op ∈ r.value.operations ∧
        op.responses = [⟨"200", "Order"⟩] ∧ op.imports.names = ["Order"] ∧
        r.value.diagnostics = [] := by
  refine ⟨by decide +kernel, ?_, _, _, rfl, List.mem_cons_self .., ?_, ?_, ?_⟩
  · rintro ⟨s, -, hhead, hpointer⟩
    have hfirst := congrArg (fun text : String => text.toList.head?) hpointer
    simp [s.toList_pointer, hhead] at hfirst
  · decide +kernel
  · decide +kernel
  · decide +kernel

end ServiceContract
