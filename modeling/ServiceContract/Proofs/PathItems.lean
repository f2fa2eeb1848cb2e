import ServiceContract.Document.Reading
import ServiceContract.Proofs.Building
import ServiceContract.Proofs.Tables

/-!
# Path items and what they are read from

Members of a path item stand for operations by the lower case of their keys, so several of them can
stand for one method. The last of them that is an object is read as the operation. One that is no
object is passed over, and of one that is followed by another nothing remains but its place.

Main results:

* `value_readItem`              — a path item by its members.
* `get?_operations_readItem`    — a method's operation is that of its `declaring?` member.
* `value_readItem_insert`       — any other member may as well have another value of its kind.
-/

namespace ServiceContract

/-! ## Keys of operations -/

/-- The methods that a path item can have operations for. -/
def methodNames : List String := ["get", "post", "put", "delete", "head", "options", "patch"]

/-- Lower case keeps the mark of an extension. -/
theorem isExtension_asciiLower {key : String} (h : isExtension key = true) :
    isExtension (Text.asciiLower key) = true := by
  unfold isExtension at h ⊢
  rw [Text.asciiLower, String.toList_map, List.isPrefixOf_iff_prefix]
  obtain ⟨rest, hrest⟩ := List.isPrefixOf_iff_prefix.mp h
  rw [← hrest, List.map_append]
  exact ⟨rest.map Char.toLower, rfl⟩

/-- A key that names a method is none whose lower case names none. -/
theorem ne_of_method {key other : String} (h : Text.asciiLower key ∈ methodNames)
    (hother : String.ofList (other.toList.map Char.toLower) ∉ methodNames) : key ≠ other := by
  rintro rfl
  rw [Text.asciiLower_eq] at h
  exact hother h

/-- A member whose key names a method is an operation exactly if it is an object. -/
theorem ItemEntry.of_method {key : String} (h : Text.asciiLower key ∈ methodNames)
    (value : Json) :
    ItemEntry.of key value =
      if value.isObject then .operation (Text.asciiLower key) else .foreign := by
  -- the key is none of those that are looked at before it
  have hextension : isExtension key = false := by
    rw [Bool.eq_false_iff]
    intro hx
    have hnames : ∀ name ∈ methodNames, isExtension name = false := by decide
    exact Bool.false_ne_true ((hnames _ h).symm.trans (isExtension_asciiLower hx))
  have hreference : (key == "$ref") = false :=
    beq_eq_false_iff_ne.mpr (ne_of_method h (by decide))
  have hparameters : key ≠ "parameters" := ne_of_method h (by decide)
  rw [ItemEntry.of, hextension, hreference, Bool.false_or, if_neg Bool.false_ne_true,
    if_neg hparameters]

/-- Of a value only its kind matters. -/
theorem ItemEntry.of_congr {key : String} {v w : Json} (h : w.isObject = v.isObject) :
    ItemEntry.of key w = ItemEntry.of key v := by
  rw [ItemEntry.of, ItemEntry.of, h]

/-- The key of the parameters is not taken for a method, whatever its value is. -/
theorem ItemEntry.of_parameters (value : Json) : ItemEntry.of "parameters" value = .parameters := by
  simp [ItemEntry.of, show isExtension "parameters" = false by decide]

theorem ItemEntry.eq_of_parameters {key : String} {value : Json}
    (h : ItemEntry.of key value = .parameters) : key = "parameters" := by
  unfold ItemEntry.of at h
  split at h
  · cases h
  · split at h
    · assumption
    · split at h
      · cases h
      · cases h

/-- An operation is an object. -/
theorem ItemEntry.exists_members_of_operation {key method : String} {value : Json}
    (h : ItemEntry.of key value = .operation method) : ∃ members, value = .object members := by
  unfold ItemEntry.of at h
  split at h
  · cases h
  · split at h
    · cases h
    · cases value with
      | object members => exact ⟨members, rfl⟩
      | _ => cases h

/-! ## The value that is read -/

/-- The operation that a member of a path item is read as, under its method. -/
def declaredBy (path : String) (member : String × Json) : Option (String × Operation) :=
  match ItemEntry.of member.1 member.2 with
  | .operation method => some (method, (Operation.read method path member.2).value)
  | _ => none

/-- The parameters that the member `parameters` gives all operations of the path. -/
def sharedBy (path : String) (value : Option Json) : List Parameter :=
  (readSequence Parameter.read .pathParameter path value).value.getD []

/-- The operations of a path item are those its members declare, inserted one after the other: a
later one for the same method takes the place of an earlier. -/
theorem operations_readMembers (path : String) (acc : PathItem)
    (members : List (String × Json)) :
    (PathItem.readMembers path acc members).value.operations =
      (members.filterMap (declaredBy path)).foldl (fun t e => t.insert e.1 e.2)
        acc.operations := by
  induction members generalizing acc with
  | nil => rfl
  | cons member rest ih =>
    obtain ⟨key, value⟩ := member
    rw [List.filterMap_cons]
    cases h : ItemEntry.of key value with
    | operation method =>
      -- the entry goes into the table that the rest is read into
      simp [PathItem.readMembers, declaredBy, h, ih]
    | ignored => simp [PathItem.readMembers, declaredBy, h, ih]
    | parameters => simp [PathItem.readMembers, declaredBy, h, ih]
    | foreign => simp [PathItem.readMembers, declaredBy, h, ih]

/-- The parameters of a path item are found under their key, which stands among the members once at
most. -/
theorem parameters_readMembers {members : List (String × Json)}
    (hnodup : (members.map (·.1)).Nodup) (path : String) (acc : PathItem) :
    (PathItem.readMembers path acc members).value.parameters =
      match members.lookup "parameters" with
      | none => acc.parameters
      | some value => sharedBy path (some value) := by
  induction members generalizing acc with
  | nil => rfl
  | cons member rest ih =>
    obtain ⟨key, value⟩ := member
    rw [List.map_cons, List.nodup_cons] at hnodup
    obtain ⟨hnew, hrest⟩ := hnodup
    rw [lookup_cons_ite]
    by_cases hkey : "parameters" = key
    · -- no later member has the key, so what is read here stays
      subst hkey
      have hnone : rest.lookup "parameters" = none := lookup_eq_none_of_not_mem hnew
      rw [if_pos rfl]
      simp only [PathItem.readMembers, ItemEntry.of_parameters, Report.value_bind]
      rw [ih hrest, hnone]
      rfl
    · rw [if_neg hkey]
      -- under any other key a member is never the shared parameters
      cases h : ItemEntry.of key value with
      | parameters => exact absurd (ItemEntry.eq_of_parameters h).symm hkey
      | ignored => simp [PathItem.readMembers, h, ih hrest]
      | foreign => simp [PathItem.readMembers, h, ih hrest]
      | operation method => simp [PathItem.readMembers, h, ih hrest]

/-- A path item by its members. -/
theorem value_readItem (path : String) (members : Keyed Json) :
    (PathItem.read path (.object members.entries)).value =
      { parameters := sharedBy path (members.get? "parameters")
        operations := Keyed.ofList (members.entries.filterMap (declaredBy path)) } := by
  have hparameters := parameters_readMembers members.nodup path {}
  have hoperations := operations_readMembers path {} members.entries
  rw [PathItem.read]
  generalize (PathItem.readMembers path {} members.entries).value = item at *
  obtain ⟨parameters, operations⟩ := item
  rw [PathItem.mk.injEq]
  refine ⟨hparameters.trans ?_, hoperations⟩
  rw [Keyed.get?]
  cases members.entries.lookup "parameters" <;> rfl

/-! ## Which member is read -/

/-- The member that the operation of `method` is read from. -/
def declaring? (members : List (String × Json)) (method : String) : Option (String × Json) :=
  members.reverse.find? fun member =>
    member.2.isObject && Text.asciiLower member.1 == method

/-- A member whose key names a method in whatever case declares an operation if it is an object, and
nothing otherwise. -/
theorem declaredBy_method {path key method : String} (hmethod : method ∈ methodNames)
    (hkey : Text.asciiLower key = method) (value : Json) :
    declaredBy path (key, value) =
      if value.isObject then some (method, (Operation.read method path value).value)
      else none := by
  subst hkey
  rw [declaredBy, ItemEntry.of_method hmethod]
  cases value.isObject <;> rfl

/-- What a member is read as stands under the lower case of its key. -/
theorem method_declaredBy {path : String} {member : String × Json} {entry : String × Operation}
    (h : declaredBy path member = some entry) : entry.1 = Text.asciiLower member.1 := by
  unfold declaredBy ItemEntry.of at h
  split at h
  · next method hof =>
    split at hof
    · cases hof
    · split at hof
      · cases hof
      · split at hof
        · cases hof
          cases h
          rfl
        · cases hof
  · cases h

/-- A method's operation is that of its declaring member. -/
theorem get?_operations_readItem {method : String} (hmethod : method ∈ methodNames)
    (path : String) (members : Keyed Json) :
    (PathItem.read path (.object members.entries)).value.operations.get? method =
      (declaring? members.entries method).map fun member =>
        (Operation.read method path member.2).value := by
  -- both sides look through the members from the last to the first
  rw [value_readItem, Keyed.get?_ofList, ← List.filterMap_reverse, declaring?]
  induction members.entries.reverse with
  | nil => rfl
  | cons member rest ih =>
    obtain ⟨key, value⟩ := member
    rw [List.filterMap_cons, List.find?_cons]
    by_cases hkey : Text.asciiLower key = method
    · rw [declaredBy_method hmethod hkey, beq_iff_eq.mpr hkey, Bool.and_true]
      cases value.isObject
      · exact ih
      · exact List.lookup_cons_self
    · rw [beq_eq_false_iff_ne.mpr hkey, Bool.and_false]
      cases hdeclared : declaredBy path (key, value) with
      | none => exact ih
      | some entry =>
        -- the member is an operation, but of another method
        have hne : method ≠ entry.1 := by
          rw [method_declaredBy hdeclared]
          exact Ne.symm hkey
        rw [show entry = (entry.1, entry.2) from rfl]
        simp only [lookup_cons_ite, if_neg hne]
        exact ih

/-- An object that is not the declaring member of its method is followed by one that has the same
method. -/
theorem exists_later_of_idle {before after : List (String × Json)} {member : String × Json}
    (hobject : member.2.isObject = true)
    (hidle : declaring? (before ++ member :: after) (Text.asciiLower member.1) ≠ some member) :
    ∃ later ∈ after, later.2.isObject = true ∧
      Text.asciiLower later.1 = Text.asciiLower member.1 := by
  rw [declaring?, List.reverse_append, List.reverse_cons, List.append_assoc,
    List.find?_append] at hidle
  cases hfind : after.reverse.find? fun m =>
      m.2.isObject && Text.asciiLower m.1 == Text.asciiLower member.1 with
  | none =>
    -- then the member itself would be found first
    refine absurd ?_ hidle
    rw [hfind, Option.none_or, List.singleton_append]
    exact List.find?_cons_of_pos (by simp [hobject])
  | some later =>
    have hholds := List.find?_some hfind
    rw [Bool.and_eq_true, beq_iff_eq] at hholds
    exact ⟨later, List.mem_reverse.mp (List.mem_of_find?_eq_some hfind), hholds⟩

/-- A member that is not the declaring one of its method may as well have another value, as long as
that is an object if and only if its own is. -/
theorem value_readItem_insert {members : Keyed Json} {key : String} {v w : Json}
    (hmember : members.get? key = some v) (hmethod : Text.asciiLower key ∈ methodNames)
    (hidle : declaring? members.entries (Text.asciiLower key) ≠ some (key, v))
    (hkind : w.isObject = v.isObject) (path : String) :
    (PathItem.read path (.object (members.insert key w).entries)).value =
      (PathItem.read path (.object members.entries)).value := by
  have hkey : "parameters" ≠ key := (ne_of_method hmethod (by decide)).symm
  obtain ⟨before, after, hsplit, hbefore⟩ := exists_split_of_lookup hmember
  -- the shared parameters stand under another key, so only the operations can differ
  rw [value_readItem, value_readItem, Keyed.get?_insert, if_neg hkey, PathItem.mk.injEq]
  refine ⟨rfl, ?_⟩
  rw [Keyed.entries_insert, hsplit, putEntry_of_split hbefore, List.filterMap_append,
    List.filterMap_append, List.filterMap_cons, List.filterMap_cons,
    declaredBy_method hmethod rfl, declaredBy_method hmethod rfl, hkind]
  cases hobject : v.isObject with
  | false =>
    -- neither value is read at all
    rfl
  | true =>
    -- a later member has the same method, and what it is read as takes the place of both
    obtain ⟨later, hlater, hlaterObject, hlaterKey⟩ :=
      exists_later_of_idle hobject (hsplit ▸ hidle)
    have hread : declaredBy path later =
        some (Text.asciiLower key,
          (Operation.read (Text.asciiLower key) path later.2).value) := by
      rw [← Prod.eta later, declaredBy_method hmethod hlaterKey, hlaterObject]
      exact if_pos rfl
    exact Keyed.ofList_overwritten _ _
      (List.mem_map_of_mem (List.mem_filterMap.mpr ⟨later, hlater, hread⟩))

end ServiceContract
