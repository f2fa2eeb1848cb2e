import Mathlib.Data.List.Forall2
import ServiceContract.Proofs.Decoding
import ServiceContract.Proofs.Responses
import ServiceContract.Proofs.Tables

/-!
# Responses declared later

The decoders of an operation are composed in the order in which its responses are declared. What is
declared after them cannot change how they decode: the tree that was there is tried first, and the
success that the caller's codec is for stays the first one, even if the status that comes later means
success too.

Main results:

* `composeDecoders_concat`         — one more entry is one more leaf, tried last.
* `exists_decodersFor_concat`      — the decoders with it are those without it, but for this leaf.
* `added_status_keeps_decoding`    — the decoders of an operation with one more response handle the
  statuses it had as they did.
* `generateOperations_addResponse` — a document with one more response has the same descriptors but
  for this operation.
-/

namespace ServiceContract

/-! ## One more entry -/

/-- The first success stays the first. -/
theorem firstSuccess?_append {entries : List ResponseEntry} {success : ResponseEntry}
    (h : firstSuccess? entries = some success) (later : List ResponseEntry) :
    firstSuccess? (entries ++ later) = some success := by
  rw [firstSuccess?] at h ⊢
  rw [List.find?_append, h, Option.some_or]

/-- One more entry is one more leaf, tried last. -/
theorem composeDecoders_concat {settings : Settings} {success : String}
    {entries : List ResponseEntry} {tree : DecoderTree}
    (h : composeDecoders settings success entries = some tree) (entry : ResponseEntry) :
    composeDecoders settings success (entries ++ [entry]) =
      some (.compose tree (.single (statusDecoder settings success entry))) := by
  cases entries with
  | nil => cases h
  | cons first rest =>
    -- the leaves are composed from the left, so the last one is put onto the whole tree
    rw [List.cons_append, composeDecoders, List.foldl_append, Option.some.inj h]
    rfl

/-- `after` are the decoders `before` with one more leaf, which is tried last. -/
structure OperationDecoders.Gain (leaf : StatusDecoder) (before after : OperationDecoders) :
    Prop where
  decoderName : after.decoderName = before.decoderName
  defaultDecoderName : after.defaultDecoderName = before.defaultDecoderName
  successStatus : after.successStatus = before.successStatus
  successType : after.successType = before.successType
  defaultExpression : after.defaultExpression = before.defaultExpression
  factory : after.factory = .compose before.factory (.single leaf)

namespace OperationDecoders

/-- Decoders that there are stay when an entry is added at the end: they keep their names and the
success they stand for, and the tree gains the entry's leaf behind all others. It is the same
`success` before and after, since what is added at the end is not the first of its kind. -/
theorem exists_build?_concat {settings : Settings} {id : String} {entries : List ResponseEntry}
    {success : Option ResponseEntry} {before : OperationDecoders}
    (h : build? settings id entries success = some before) (entry : ResponseEntry) :
    ∃ after, build? settings id (entries ++ [entry]) success = some after ∧
      Gain (statusDecoder settings before.successStatus entry) before after := by
  cases success with
  | none => cases h
  | some success =>
    obtain ⟨tree, htree, hbefore⟩ := Option.map_eq_some_iff.mp h
    subst hbefore
    rw [build?, Option.bind_some, composeDecoders_concat htree entry]
    exact ⟨_, rfl, rfl, rfl, rfl, rfl, rfl, rfl⟩

/-- What the leaf does not accept is handled as before. -/
theorem Gain.decoderFor?_of_ne {leaf : StatusDecoder} {before after : OperationDecoders}
    (h : Gain leaf before after) {status : String} (hne : leaf.status ≠ status) :
    after.factory.decoderFor? status = before.factory.decoderFor? status := by
  rw [h.factory, DecoderTree.decoderFor?_compose, DecoderTree.decoderFor?, if_neg hne,
    Option.or_none]

end OperationDecoders

/-- The decoders with one more entry are those without it, but for its leaf. -/
theorem exists_decodersFor_concat {ctx : Context} {id : String} {entries : List ResponseEntry}
    {before : OperationDecoders} (present : ctx.decodersFor id entries = some before)
    (entry : ResponseEntry) :
    ∃ after, ctx.decodersFor id (entries ++ [entry]) = some after ∧
      before.Gain (statusDecoder ctx.settings before.successStatus entry) after := by
  obtain ⟨wanted, hbuild⟩ := decodersFor_eq_some.mp present
  obtain ⟨success, hsuccess, -⟩ := OperationDecoders.exists_of_build? hbuild
  obtain ⟨after, hafter, hgain⟩ := OperationDecoders.exists_build?_concat hbuild entry
  -- both go by the same success
  rw [hsuccess, ← firstSuccess?_append hsuccess [entry]] at hafter
  exact ⟨after, decodersFor_eq_some.mpr ⟨wanted, hafter⟩, hgain⟩

/-! ## One more response -/

/-- The operation with one more response. -/
def Operation.addResponse (operation : Operation) (added : String × Response) : Operation :=
  { operation with responses := operation.responses.insert added.1 added.2 }

/-- The declaration with one more response. -/
def Declaration.addResponse (d : Declaration) (added : String × Response) : Declaration :=
  { d with operation := d.operation.addResponse added }

/-- The leaf of a declared response. -/
def Context.leafOf (ctx : Context) (success : String) (declared : String × Response) :
    StatusDecoder :=
  statusDecoder ctx.settings success (ctx.entryOf declared)

/-- `after` are the decoders `before` of an operation that declared the statuses `declared` and has
got the response `added`. -/
structure GainsStatus (ctx : Context) (declared : List String) (added : String × Response)
    (before after : OperationDecoders) : Prop where
  gain : before.Gain (ctx.leafOf before.successStatus added) after
  /-- The statuses that were declared are handled as before. -/
  earlier : ∀ status ∈ declared,
    after.factory.decoderFor? status = before.factory.decoderFor? status
  /-- The status that was not is handled by the leaf of its response. -/
  new : after.factory.decoderFor? added.1 = some (ctx.leafOf before.successStatus added)
  /-- This leaf does not decode with the caller's codec, not even for a success. -/
  closed : (ctx.leafOf before.successStatus added).isGeneric = false

section Built

variable {ctx : Context} {d : Declaration} {op op' : OperationDescriptor}
  {added : String × Response}

/-- The entry of one more response comes last. -/
theorem Describes.entries_addResponse (hop : Describes ctx d op)
    (hop' : Describes ctx (d.addResponse added) op')
    (new : added.1 ∉ d.operation.responses.keys) :
    op'.responses = op.responses ++ [ctx.entryOf added] := by
  have hentries : (d.addResponse added).operation.responses.entries =
      d.operation.responses.entries ++ [added] := putEntry_of_new new
  rw [hop'.entries, hop.entries, hentries, List.map_append, List.map_singleton]

/-- One more response is no reason not to build an operation. -/
theorem exists_build_addResponse (built : (buildOperation ctx d).value = some op)
    (added : String × Response) :
    ∃ op', (buildOperation ctx (d.addResponse added)).value = some op' := by
  -- what is built depends on the claim, which the response is no part of
  have hclaim : (buildOperation ctx (d.addResponse added)).value.map
      OperationDescriptor.operationId = some op.operationId := by
    have hsame : (d.addResponse added).claim? = d.claim? := rfl
    rw [map_operationId_buildOperation, hsame, ← map_operationId_buildOperation, built,
      Option.map_some]
  obtain ⟨op', built', -⟩ := Option.map_eq_some_iff.mp hclaim
  exact ⟨op', built'⟩

/-- An operation that has decoders has them again with one more response. -/
theorem Describes.gainsStatus {before : OperationDecoders} (hop : Describes ctx d op)
    (hop' : Describes ctx (d.addResponse added) op') (present : op.decoders = some before)
    (new : added.1 ∉ d.operation.responses.keys) :
    ∃ after, op'.decoders = some after ∧
      GainsStatus ctx d.operation.responses.keys added before after := by
  have hresponses := hop.entries_addResponse hop' new
  have hid : op'.operationId = op.operationId := Option.some.inj (hop'.id.symm.trans hop.id)
  obtain ⟨after, hafter, hgain⟩ :=
    exists_decodersFor_concat (hop.decoders.symm.trans present) (ctx.entryOf added)
  have present' : op'.decoders = some after := by
    rw [hop'.decoders, hid, hresponses]
    exact hafter
  have hleaf : (ctx.leafOf before.successStatus added).status = added.1 :=
    status_statusDecoder _ _ _
  refine ⟨after, present', hgain, ?_, ?_, ?_⟩
  · intro status hstatus
    have hne : (ctx.leafOf before.successStatus added).status ≠ status := by
      rw [hleaf]
      exact fun heq => new (heq ▸ hstatus)
    exact hgain.decoderFor?_of_ne hne
  · -- the statuses are distinct, so that no leaf before its own accepts the new one
    have hmem : ctx.entryOf added ∈ op'.responses := by
      rw [hresponses]
      exact List.mem_append_right _ (List.mem_singleton_self _)
    rw [DecoderTree.decoderFor?_eq_find?, leaves_composeDecoders (hop'.tree present'),
      hgain.successStatus]
    exact find?_statusDecoder hop'.nodup_statuses hmem
  · have hne : added.1 ≠ before.successStatus := fun heq =>
      new (heq ▸ hop.successStatus_mem present)
    rw [Context.leafOf, isGeneric_statusDecoder]
    exact decide_eq_false hne

end Built

/-- Whatever response is declared after those of an operation that has decoders, it has decoders
again, and the statuses it had decode as they did. The status has to be new: a response for a status
that is declared already would take the place of that one. -/
theorem added_status_keeps_decoding (ctx : Context) (d : Declaration) (op : OperationDescriptor)
    (before : OperationDecoders) (added : String × Response)
    (built : (buildOperation ctx d).value = some op) (present : op.decoders = some before)
    (new : added.1 ∉ d.operation.responses.keys) :
    ∃ op' after, (buildOperation ctx (d.addResponse added)).value = some op' ∧
      op'.decoders = some after ∧ GainsStatus ctx d.operation.responses.keys added before after := by
  obtain ⟨op', built'⟩ := exists_build_addResponse built added
  obtain ⟨after, present', hgains⟩ :=
    (describes_of_build built).gainsStatus (describes_of_build built') present new
  exact ⟨op', after, built', present', hgains⟩

/-- The operation of `twoSuccesses`. -/
def ordering : Declaration :=
  ⟨"/orders", {}, "post", { operationId := some "order", responses := Keyed.ofList [
    ("404", {}), ("201", {}), ("default", {}), ("200", {})] }⟩

/-- An operation with two successes gains a third at the end, which is decoded, but not as the
success. -/
theorem ordering_gains_status : ∃ op before op' after,
    (buildOperation twoSuccesses ordering).value = some op ∧ op.decoders = some before ∧
    "299" ∉ ordering.operation.responses.keys ∧
    (buildOperation twoSuccesses (ordering.addResponse ("299", {}))).value = some op' ∧
    op'.decoders = some after ∧
    GainsStatus twoSuccesses ordering.operation.responses.keys ("299", {}) before after := by
  have hnew : "299" ∉ ordering.operation.responses.keys := by decide
  obtain ⟨op', after, hgains⟩ :=
    added_status_keeps_decoding twoSuccesses ordering _ _ ("299", {}) rfl rfl hnew
  exact ⟨_, _, op', after, rfl, rfl, hnew, hgains⟩

/-! ## Whole documents -/

/-- The table with another value under the key. -/
def Keyed.modify {α : Type} (t : Keyed α) (key : String) (f : α → α) : Keyed α where
  entries := t.entries.map fun entry => (entry.1, if entry.1 = key then f entry.2 else entry.2)
  nodup := by
    rw [List.map_map]
    exact t.nodup

/-- The path item with one more response of the operation under the method. -/
def PathItem.addResponse (item : PathItem) (method : String) (added : String × Response) :
    PathItem :=
  { item with operations := item.operations.modify method (·.addResponse added) }

/-- The document with one more response of the operation at the path and the method. -/
def Document.addResponse (document : Document) (path method : String)
    (added : String × Response) : Document :=
  { document with paths := document.paths.modify path (·.addResponse method added) }

/-- What a declaration of the document is then. -/
def Declaration.inAddResponse (path method : String) (added : String × Response)
    (d : Declaration) : Declaration where
  path := d.path
  item := if d.path = path then d.item.addResponse method added else d.item
  method := d.method
  operation := if d.path = path ∧ d.method = method then d.operation.addResponse added
    else d.operation

section Documents

variable {path method : String} {added : String × Response}

/-- To add a response to an operation of the document is to change one of its declarations. -/
theorem declarations_addResponse (document : Document) :
    (document.addResponse path method added).declarations =
      document.declarations.map (Declaration.inAddResponse path method added) := by
  unfold Document.declarations Document.addResponse Keyed.modify
  rw [List.flatMap_map, List.map_flatMap]
  refine congrArg (List.flatMap · document.paths.entries) (funext fun entry => ?_)
  by_cases hpath : entry.1 = path
  · simp only [hpath, if_true, PathItem.addResponse, Keyed.modify, List.map_map]
    refine List.map_congr_left fun declared _ => ?_
    simp [Declaration.inAddResponse, PathItem.addResponse, Keyed.modify]
  · simp only [hpath, if_false, List.map_map]
    refine List.map_congr_left fun declared _ => ?_
    simp [Declaration.inAddResponse, hpath]

/-- The change touches the responses alone. Which operation it is, and so which of several with one
id is built, is not affected. -/
theorem identity_inAddResponse (d : Declaration) :
    (d.inAddResponse path method added).operation.operationId = d.operation.operationId ∧
      (d.inAddResponse path method added).method = d.method ∧
      (d.inAddResponse path method added).path = d.path := by
  refine ⟨?_, rfl, rfl⟩
  simp only [Declaration.inAddResponse]
  split
  · rfl
  · rfl

/-- What is built of it is what is built with the response, or without it elsewhere. -/
theorem buildOperation_inAddResponse (ctx : Context) (d : Declaration) :
    buildOperation ⟨ctx.document.addResponse path method added, ctx.settings, ctx.mapper⟩
        (d.inAddResponse path method added) =
      buildOperation ctx
        (if d.path = path ∧ d.method = method then d.addResponse added else d) := by
  -- the builder sees neither the paths of the document nor the operations of the item
  have hparameters : (d.inAddResponse path method added).item.parameters = d.item.parameters := by
    simp only [Declaration.inAddResponse]
    split
    · rfl
    · rfl
  have hdocument : buildOperation
      ⟨ctx.document.addResponse path method added, ctx.settings, ctx.mapper⟩ = buildOperation ctx :=
    buildOperation_of_parts rfl ctx.settings ctx.mapper
  rw [hdocument]
  refine (buildOperation_of_item ctx _ _ _ hparameters).trans ?_
  split
  · rfl
  · rfl

section Claims

variable {g : Declaration → Declaration}
  (hg : ∀ d, (g d).operation.operationId = d.operation.operationId ∧ (g d).method = d.method ∧
    (g d).path = d.path)

include hg

/-- Which declarations are left out, and what is said of them, depends on ids, methods and paths,
and these `g` keeps. -/
theorem omission?_map (earlier : List Declaration) (d : Declaration) :
    (g d).omission? (earlier.map g) = d.omission? earlier := by
  obtain ⟨hid, hmethod, hpath⟩ := hg d
  have hclaims : (earlier.map g).map Declaration.claim? = earlier.map Declaration.claim? := by
    rw [List.map_map]
    refine List.map_congr_left fun e _ => ?_
    obtain ⟨hid, hmethod, -⟩ := hg e
    rw [Function.comp_apply, Declaration.claim?, Declaration.claim?, hid, hmethod]
  rw [Declaration.omission?, Declaration.omission?, hid, hmethod, hpath, hclaims]

/-- Which declarations are kept depends on their ids and methods alone. -/
theorem kept_map (earlier declarations : List Declaration) :
    kept (earlier.map g) (declarations.map g) = (kept earlier declarations).map g := by
  induction declarations generalizing earlier with
  | nil => rfl
  | cons d rest ih =>
    have hrest := ih (earlier ++ [d])
    rw [List.map_append, List.map_singleton] at hrest
    rw [List.map_cons]
    -- the changed declaration is left out for the same reason, or kept as well
    cases homission : d.omission? earlier with
    | none =>
      rw [kept_cons_of_none homission, List.map_cons, ← hrest,
        kept_cons_of_none ((omission?_map hg earlier d).trans homission)]
    | some reason =>
      rw [kept_cons_of_some homission, ← hrest,
        kept_cons_of_some ((omission?_map hg earlier d).trans homission)]

end Claims

/-- `op'` describes in a document with one more response what `op` describes without it. -/
structure Redescribes (ctx : Context) (path method : String) (added : String × Response)
    (op op' : OperationDescriptor) : Prop where
  /-- The operations at other places are described alike. -/
  elsewhere : ¬ (op.path = path ∧ op.method.name = method) → op' = op
  /-- The operation at the place decodes the statuses that it had as it did. -/
  there : op.path = path ∧ op.method.name = method →
    added.1 ∉ op.responses.map ResponseEntry.status →
    ∀ before, op.decoders = some before → ∃ after, op'.decoders = some after ∧
      GainsStatus ctx (op.responses.map ResponseEntry.status) added before after

/-- Of two descriptors for one declaration, before and after the change, the decoders differ as
`GainsStatus` says if the response was added there, and not at all elsewhere. -/
theorem redescribes_of_build {ctx : Context} {d : Declaration} {op op' : OperationDescriptor}
    (built : (buildOperation ctx d).value = some op)
    (built' : (buildOperation ctx
      (if d.path = path ∧ d.method = method then d.addResponse added else d)).value = some op') :
    Redescribes ctx path method added op op' := by
  have hop := describes_of_build built
  rw [← hop.path, ← hop.method] at built'
  constructor
  · intro helse
    rw [if_neg helse, built] at built'
    exact (Option.some.inj built').symm
  · intro hthere new before present
    rw [if_pos hthere] at built'
    rw [hop.statuses] at new ⊢
    exact hop.gainsStatus (describes_of_build built') present new

/-- Results that are there for the same items are related if those of each item are. -/
theorem forall₂_of_map_some {α β γ : Type} {f : α → Option β} {f' : α → Option γ}
    {R : β → γ → Prop} (hR : ∀ a b c, f a = some b → f' a = some c → R b c) {items : List α}
    {bs : List β} {cs : List γ} (hbs : bs.map some = items.map f)
    (hcs : cs.map some = items.map f') : List.Forall₂ R bs cs := by
  induction items generalizing bs cs with
  | nil =>
    rw [List.map_eq_nil_iff.mp hbs, List.map_eq_nil_iff.mp hcs]
    exact .nil
  | cons a rest ih =>
    obtain ⟨b, bs, rfl, hb, hbs⟩ := List.map_eq_cons_iff.mp hbs
    obtain ⟨c, cs, rfl, hc, hcs⟩ := List.map_eq_cons_iff.mp hcs
    exact .cons (hR a b c hb.symm hc.symm) (ih hbs hcs)

/-- One more response in a document leaves the descriptors of all other operations as they are, and
its own operation decodes the statuses that it had as it did. -/
theorem generateOperations_addResponse (ctx : Context) (path method : String)
    (added : String × Response) :
    List.Forall₂ (Redescribes ctx path method added) (generateOperations ctx).value
      (generateOperations
        ⟨ctx.document.addResponse path method added, ctx.settings, ctx.mapper⟩).value := by
  by_cases wanted : ctx.settings.generateRequestTypes = true
  · have hkept : kept [] (ctx.document.addResponse path method added).declarations =
        (kept [] ctx.document.declarations).map (Declaration.inAddResponse path method added) := by
      rw [declarations_addResponse]
      exact kept_map identity_inAddResponse [] ctx.document.declarations
    -- both runs build the declarations that are kept, which are the same up to the response
    have hbuilt := generateOperations_map_some wanted
    have hbuilt' := @generateOperations_map_some
      ⟨ctx.document.addResponse path method added, ctx.settings, ctx.mapper⟩ wanted
    rw [hkept, List.map_map] at hbuilt'
    refine forall₂_of_map_some (fun d op op' built built' => ?_) hbuilt hbuilt'
    rw [Function.comp_apply, buildOperation_inAddResponse] at built'
    exact redescribes_of_build built built'
  · -- there are no descriptors then
    rw [generateOperations, generateOperations, if_neg wanted, if_neg wanted]
    exact .nil

end Documents

end ServiceContract
