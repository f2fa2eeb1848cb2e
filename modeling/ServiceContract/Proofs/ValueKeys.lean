import ServiceContract.Json.Keys
import ServiceContract.Proofs.Tables
import ServiceContract.Source

/-!
# Keys of values that are read from text

A mapping is read into a table, so the members of every object that comes from a text have distinct
keys.

Main results:

* `Tree.value_keys` — for the value of a node.
* `readValue_keys`  — for the value of a text.
* `parse_keys`      — for the raw value of a source document.
-/

namespace ServiceContract.Yaml

variable {α β : Type}

/-! ## Results of steps -/

/-- Every result of the step has the property `p`. -/
def Returns (p : α → Prop) (step : Following α) : Prop :=
  ∀ left result, step.run left = .ok result → p result.1

namespace Returns

variable {p : α → Prop} {q : β → Prop}

theorem pure {a : α} (h : p a) : Returns p (Pure.pure a) := by
  intro left result hrun
  cases hrun
  exact h

theorem throw (fault : Fault) : Returns p (MonadExcept.throw fault : Following α) := by
  intro left result hrun
  cases hrun

theorem lift {outcome : Except Fault α} (h : ∀ a, outcome = .ok a → p a) :
    Returns p (liftM outcome : Following α) := by
  intro left result hrun
  cases outcome with
  | error fault => cases hrun
  | ok a =>
    cases hrun
    exact h a rfl

/-- Steps in a row return what the last returns, if it does so for all that the first can return. -/
theorem bind {step : Following α} {f : α → Following β} (h : Returns p step)
    (hf : ∀ a, p a → Returns q (f a)) : Returns q (step >>= f) := by
  intro left result hrun
  rw [StateT.run_bind] at hrun
  cases hstep : step.run left with
  | error fault =>
    rw [hstep] at hrun
    cases hrun
  | ok first =>
    rw [hstep] at hrun
    exact hf first.1 (h left first hstep) first.2 result hrun

/-- A step of which only the result of the next one matters. -/
theorem after {step : Following α} {f : α → Following β} (hf : ∀ a, Returns q (f a)) :
    Returns q (step >>= f) :=
  bind (p := fun _ => True) (fun _ _ _ => trivial) fun a _ => hf a

theorem mapM {f : α → Following β} {items : List α} (h : ∀ item ∈ items, Returns q (f item)) :
    Returns (fun values => ∀ value ∈ values, q value) (items.mapM f) := by
  induction items with
  | nil => exact pure (by simp)
  | cons item rest ih =>
    rw [List.mapM_cons]
    obtain ⟨hitem, hrest⟩ := List.forall_mem_cons.mp h
    refine hitem.bind fun value hvalue => (ih hrest).bind fun values hvalues => pure ?_
    exact List.forall_mem_cons.mpr ⟨hvalue, hvalues⟩

end Returns

/-! ## Values -/

theorem double?_keys {text : String} {value : Json} (h : double? text = some value) :
    value.hasDistinctKeys = true := by
  unfold double? at h
  split at h
  · cases h
    rfl
  · obtain ⟨x, -, rfl⟩ := Option.map_eq_some_iff.mp h
    rfl

theorem plainValue_keys {text : String} {value : Json} (h : plainValue text = .ok value) :
    value.hasDistinctKeys = true := by
  unfold plainValue at h
  split at h
  · cases h
    rfl
  split at h
  · cases h
    rfl
  split at h
  · cases h
    rfl
  · cases h
  -- what is no whole number is a double or a text
  extract_lets unsigned at h
  split at h
  · cases h
    rfl
  · cases h
    cases hdouble : double? text with
    | none => rfl
    | some x => exact double?_keys hdouble

theorem taggedValue_keys {tag : Tag} {text : String} {style : Style} {value : Json}
    (h : taggedValue tag text style = .ok value) : value.hasDistinctKeys = true := by
  unfold taggedValue at h
  -- the tags in the order in which they are looked for
  split at h
  · cases h
  split at h
  · split at h
    · cases h
      rfl
    · cases h
  split at h
  · split at h
    · cases h
      rfl
    · cases h
    · cases h
  split at h
  · split at h
    · next x hdouble =>
      cases h
      exact double?_keys hdouble
    · cases h
  split at h
  · split at h
    · cases h
      rfl
    · cases h
  split at h
  · exact plainValue_keys h
  · cases h
    rfl

theorem scalarValue_keys {tag : Option Tag} {text : String} {style : Style} {value : Json}
    (h : scalarValue tag text style = .ok value) : value.hasDistinctKeys = true := by
  cases tag with
  | some tag => exact taggedValue_keys h
  | none =>
    rw [scalarValue] at h
    split at h
    · exact plainValue_keys h
    · cases h
      rfl

/-- A table has distinct keys, whatever was put into it. -/
theorem object_keys {entries : List (String × Json)}
    (h : ∀ e ∈ entries, e.2.hasDistinctKeys = true) :
    (Json.object (Keyed.ofList entries).entries).hasDistinctKeys = true :=
  Json.hasDistinctKeys_object.mpr
    ⟨(Keyed.ofList entries).nodup, fun e he => h e (Keyed.mem_of_mem_ofList he)⟩

/-- The value of a node has distinct keys at every depth. A mapping that would repeat a key keeps
one of them, and an alias has the value of what it stands for; the depth is only there to end the
recursion. -/
theorem Tree.value_keys (tree : Tree) (depth : Nat) (node : Node Nat) :
    Returns (fun value => value.hasDistinctKeys = true) (tree.value depth node) := by
  induction depth generalizing node with
  -- at depth zero every node with children is refused, so only scalars are left
  | zero =>
    unfold Tree.value
    refine .after fun target => ?_
    split
    · exact .throw _
    · exact .lift fun _ => scalarValue_keys
    · split
      · exact .throw _
      · exact .throw _
    · split
      · exact .throw _
      · exact .throw _
  | succ depth ih =>
    unfold Tree.value
    refine .after fun target => ?_
    split
    · exact .throw _
    · exact .lift fun _ => scalarValue_keys
    · split
      · exact .throw _
      · refine (Returns.mapM fun item _ => ih item).bind fun items hitems => .pure ?_
        -- the items of a sequence have distinct keys one by one
        exact Json.hasDistinctKeys_array.mpr hitems
    · split
      · exact .throw _
      · refine .bind (Returns.mapM fun entry _ => .after fun key => ?_) fun members hmembers =>
          .pure (object_keys hmembers)
        exact (ih entry.2).bind fun value hvalue => .pure hvalue

theorem readValue_keys {text : String} {raw : Json} (h : readValue text = .ok raw) :
    raw.hasDistinctKeys = true := by
  unfold readValue at h
  cases htree : Tree.ofText? text with
  | error fault =>
    rw [htree] at h
    cases h
  | ok tree =>
    rw [htree] at h
    cases tree with
    | none =>
      cases h
      rfl
    | some tree =>
      -- the value is that of the root, at the greatest depth
      change ((tree.value depthLimit tree.root).run tree.aliasLimit >>= fun r => .ok r.1) =
        .ok raw at h
      cases hrun : (tree.value depthLimit tree.root).run tree.aliasLimit with
      | error fault =>
        rw [hrun] at h
        cases h
      | ok result =>
        rw [hrun] at h
        cases h
        exact tree.value_keys depthLimit tree.root _ result hrun

/-- A document that can be parsed has distinct keys in all its objects, so what is said of raw
documents with such keys is said of all that are read from texts. -/
theorem parse_keys {text : String} {report : Report Source}
    (h : Source.parse text = .ok report) : report.value.raw.hasDistinctKeys = true := by
  unfold Source.parse at h
  split at h
  · next raw hread =>
    cases h
    exact readValue_keys hread
  · cases h

end ServiceContract.Yaml
