import ServiceContract.Proofs.PathItems

/-!
# Where operations come from

Every declaration of a document that was read from a raw value comes from a value in it: the value
stands in the item of the declaration's path, under a key that names its method, and it was read as
the declaration's operation.

Main results:

* `exists_origin_of_mem_declarations` — each declaration has such a value.
-/

namespace ServiceContract

/-- The raw document has the value under `path`, and there under a key that names `method`. -/
def Json.HoldsOperation (raw : Json) (path method : String) (value : Json) : Prop :=
  ∃ paths members key, raw.get? "paths" = some (.object paths) ∧
    (path, .object members) ∈ paths ∧ (key, value) ∈ members ∧ Text.asciiLower key = method

/-- An operation of a path item is declared by one of the item's members. -/
theorem exists_member_of_mem_operations {path : String} {value : Json} {entry : String × Operation}
    (h : entry ∈ (PathItem.read path value).value.operations.entries) :
    ∃ members, value = .object members ∧
      ∃ member ∈ members, declaredBy path member = some entry := by
  cases value with
  | object members =>
    refine ⟨members, rfl, ?_⟩
    change entry ∈ (PathItem.readMembers path {} members).value.operations.entries at h
    rw [operations_readMembers] at h
    exact List.mem_filterMap.mp (Keyed.mem_of_mem_ofList h)
  -- a path item that is no object has no operations
  | _ => cases h

theorem eq_of_declaredBy {path : String} {member : String × Json} {entry : String × Operation}
    (h : declaredBy path member = some entry) :
    entry.2 = (Operation.read entry.1 path member.2).value := by
  unfold declaredBy at h
  split at h
  · cases h
    rfl
  · cases h

/-- Every declaration of a document is read from a value of the raw document, which stands at its
path and under a key that names its method. -/
theorem exists_origin_of_mem_declarations {raw : Json} {d : Declaration}
    (h : d ∈ (Document.read raw).value.declarations) :
    ∃ value, raw.HoldsOperation d.path d.method value ∧
      d.operation = (Operation.read d.method d.path value).value := by
  obtain ⟨placed, hplaced, hd⟩ := List.mem_flatMap.mp h
  obtain ⟨entry, hentry, rfl⟩ := List.mem_map.mp hd
  -- the path's item was read from an entry of the raw paths
  have hread : placed ∈ (Report.each readPath
      ((readObject .paths documentScope (raw.get? "paths")).value.getD [])).value :=
    Keyed.mem_of_mem_ofList hplaced
  rw [Report.value_each] at hread
  obtain ⟨source, hsource, rfl⟩ := List.mem_map.mp hread
  cases hpaths : (readObject .paths documentScope (raw.get? "paths")).value with
  | none =>
    rw [hpaths] at hsource
    cases hsource
  | some paths =>
    rw [hpaths, Option.getD_some] at hsource
    have hread : entry ∈ (PathItem.read source.1 source.2).value.operations.entries := hentry
    obtain ⟨members, hitem, member, hmember, hdeclared⟩ := exists_member_of_mem_operations hread
    refine ⟨member.2, ⟨paths, members, member.1, value_readObject.mp hpaths, ?_, hmember, ?_⟩, ?_⟩
    · rw [← hitem]
      exact hsource
    · exact (method_declaredBy hdeclared).symm
    · exact eq_of_declaredBy hdeclared

end ServiceContract
