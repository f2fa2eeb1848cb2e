import ServiceContract.Json.Basic

/-!
# Keys of a JSON value

Readers of JSON text give the members of one object distinct keys. `Json.hasDistinctKeys` says so of
a value and of all values in it.
-/

namespace ServiceContract.Json

mutual

/-- Whether the members of every object in the value have distinct keys. -/
def hasDistinctKeys : Json → Bool
  | null | bool _ | number _ | string _ => true
  | array items => itemsHaveDistinctKeys items
  | object members => decide (members.map (·.1)).Nodup && membersHaveDistinctKeys members

/-- Whether the same holds of every item. -/
def itemsHaveDistinctKeys : List Json → Bool
  | [] => true
  | item :: rest => item.hasDistinctKeys && itemsHaveDistinctKeys rest

/-- Whether the same holds of every member's value. -/
def membersHaveDistinctKeys : List (String × Json) → Bool
  | [] => true
  | (_, value) :: rest => value.hasDistinctKeys && membersHaveDistinctKeys rest

end

/-- The check runs through the items one by one, which is to say that it holds of each of them. -/
theorem itemsHaveDistinctKeys_iff {items : List Json} :
    itemsHaveDistinctKeys items = true ↔ ∀ item ∈ items, item.hasDistinctKeys = true := by
  induction items with
  | nil => simp [itemsHaveDistinctKeys]
  | cons item rest ih => simp [itemsHaveDistinctKeys, ih]

theorem membersHaveDistinctKeys_iff {members : List (String × Json)} :
    membersHaveDistinctKeys members = true ↔ ∀ m ∈ members, m.2.hasDistinctKeys = true := by
  induction members with
  | nil => simp [membersHaveDistinctKeys]
  | cons m rest ih => simp [membersHaveDistinctKeys, ih]

@[simp] theorem hasDistinctKeys_array {items : List Json} :
    (array items).hasDistinctKeys = true ↔ ∀ item ∈ items, item.hasDistinctKeys = true := by
  rw [hasDistinctKeys, itemsHaveDistinctKeys_iff]

/-- An object has to have distinct keys, and all its values as well. -/
@[simp] theorem hasDistinctKeys_object {members : List (String × Json)} :
    (object members).hasDistinctKeys = true ↔
      (members.map (·.1)).Nodup ∧ ∀ m ∈ members, m.2.hasDistinctKeys = true := by
  rw [hasDistinctKeys, Bool.and_eq_true, decide_eq_true_eq, membersHaveDistinctKeys_iff]

end ServiceContract.Json
