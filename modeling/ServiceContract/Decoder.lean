import ServiceContract.Naming
import ServiceContract.Resolve.Responses

/-!
# Response decoders

An operation's responses are decoded by one composed decoder. It is a tree whose leaves each accept
one status; a composition tries its left side first. `DecoderTree.decoderFor?` follows the tree to
the leaf that handles a status, and `DecoderTree.leaves` lists the leaves in the order of trying.

## Results

* `DecoderTree.decoderFor?_eq_find?` — a status is handled by the first leaf that accepts it.
* `DecoderTree.decoderFor?_compose`  — a composition handles what either of its sides handles.
* `leaves_composeDecoders`           — composing makes one leaf for each entry, in their order.
* `OperationDecoders.exists_of_build?` — what the decoders of an operation are made of.
-/

namespace ServiceContract

/-- The codec that validates a body. -/
inductive Payload where
  /-- Given by the caller of the decoder factory. -/
  | generic
  /-- A model. -/
  | model (name : String)
  deriving DecidableEq, Repr, Inhabited

/-- The decoder of one status. -/
inductive StatusDecoder where
  /-- Accepts the status without looking at a body. -/
  | constant (status value : String)
  /-- Accepts the status as an error of no particular form. -/
  | basicError (status : String)
  /-- Validates the body. -/
  | io (status : String) (payload : Payload)
  deriving DecidableEq, Repr, Inhabited

namespace StatusDecoder

/-- The status that is accepted. -/
def status : StatusDecoder → String
  | constant status _ => status
  | basicError status => status
  | io status _ => status

/-- The decoder as an expression of the output. -/
def text : StatusDecoder → String
  | constant status value =>
    "r.constantResponseDecoder<" ++ value ++ ", " ++ status ++ ">(" ++ status ++ ", " ++ value
      ++ ")"
  | basicError status => "r.basicErrorResponseDecoder<" ++ status ++ ">(" ++ status ++ ")"
  | io status .generic => "r.ioResponseDecoder<" ++ status ++ ", A, O>(" ++ status ++ ", type)"
  | io status (.model name) =>
    "r.ioResponseDecoder<" ++ status ++ ", (typeof " ++ name ++ ")[\"_A\"], (typeof " ++ name
      ++ ")[\"_O\"]>(" ++ status ++ ", " ++ name ++ ")"

end StatusDecoder

/-- A composed decoder. -/
inductive DecoderTree where
  | single (decoder : StatusDecoder)
  /-- Tries `first` and, if that does not accept the status, `otherwise`. -/
  | compose (first otherwise : DecoderTree)
  deriving DecidableEq, Repr, Inhabited

namespace DecoderTree

/-- The leaves in the order in which they are tried. -/
def leaves : DecoderTree → List StatusDecoder
  | single decoder => [decoder]
  | compose first otherwise => first.leaves ++ otherwise.leaves

/-- The leaf that handles a status. -/
def decoderFor? (status : String) : DecoderTree → Option StatusDecoder
  | single decoder => if decoder.status = status then some decoder else none
  | compose first otherwise => first.decoderFor? status <|> otherwise.decoderFor? status

/-- The decoder as an expression of the output. -/
def text : DecoderTree → String
  | single decoder => decoder.text
  | compose first otherwise =>
    "r.composeResponseDecoders(" ++ first.text ++ ", " ++ otherwise.text ++ ")"

/-- A composition handles what its first side handles, and of the rest what the other does. -/
theorem decoderFor?_compose (first otherwise : DecoderTree) (status : String) :
    (compose first otherwise).decoderFor? status =
      (first.decoderFor? status).or (otherwise.decoderFor? status) := by
  rw [decoderFor?, Option.orElse_eq_orElse, Option.orElse_eq_or]

/-- A status is handled by the first leaf that accepts it. -/
theorem decoderFor?_eq_find? (tree : DecoderTree) (status : String) :
    tree.decoderFor? status = tree.leaves.find? fun leaf => leaf.status = status := by
  induction tree with
  | single decoder =>
    by_cases h : decoder.status = status
    · simp [decoderFor?, leaves, h]
    · simp [decoderFor?, leaves, h]
  | compose first otherwise ihFirst ihOtherwise =>
    rw [decoderFor?_compose, leaves, List.find?_append, ihFirst, ihOtherwise]

end DecoderTree

/-- The decoder of one entry. The success status decodes with the caller's codec; the markers select
the decoders that need none. -/
def statusDecoder (settings : Settings) (success : String) (entry : ResponseEntry) :
    StatusDecoder :=
  if entry.status = success then .io entry.status .generic
  else if entry.type = settings.noContentMarker then .constant entry.status settings.noContentMarker
  else if entry.type = settings.genericErrorMarker then .basicError entry.status
  else .io entry.status (.model entry.type)

/-- Composes the decoders of all entries, the first entry's tried first. -/
def composeDecoders (settings : Settings) (success : String) :
    List ResponseEntry → Option DecoderTree
  | [] => none
  | entry :: rest =>
    some (rest.foldl
      (fun tree next => .compose tree (.single (statusDecoder settings success next)))
      (.single (statusDecoder settings success entry)))

/-- Whatever a response is decoded as, its decoder accepts the status it is declared for. -/
@[simp] theorem status_statusDecoder (settings : Settings) (success : String)
    (entry : ResponseEntry) :
    (statusDecoder settings success entry).status = entry.status := by
  unfold statusDecoder
  repeat' split
  all_goals rfl

/-- Composing onto a tree appends a leaf for each entry. -/
theorem leaves_foldl_compose (decoder : ResponseEntry → StatusDecoder) (tree : DecoderTree)
    (entries : List ResponseEntry) :
    (entries.foldl (fun tree next => .compose tree (.single (decoder next))) tree).leaves =
      tree.leaves ++ entries.map decoder := by
  induction entries generalizing tree with
  | nil => simp
  | cons entry rest ih =>
    rw [List.foldl_cons, ih]
    simp [DecoderTree.leaves]

/-- Composing makes one leaf for each entry, in their order. -/
theorem leaves_composeDecoders {settings : Settings} {success : String}
    {entries : List ResponseEntry} {tree : DecoderTree}
    (h : composeDecoders settings success entries = some tree) :
    tree.leaves = entries.map (statusDecoder settings success) := by
  cases entries with
  | nil => cases h
  | cons entry rest =>
    rw [← Option.some.inj h, leaves_foldl_compose]
    rfl

/-- The decoder declarations of an operation. -/
structure OperationDecoders where
  /-- The symbol of the factory. -/
  decoderName : String
  /-- The symbol of the decoder for the declared success type. -/
  defaultDecoderName : String
  /-- The status whose payload the factory's caller chooses. -/
  successStatus : String
  /-- The declared type of that status. -/
  successType : String
  /-- The decoder the factory makes. -/
  factory : DecoderTree
  /-- The factory as an expression, taking the success codec as `type`. -/
  factoryExpression : String
  /-- The default decoder as an expression. -/
  defaultExpression : String
  deriving DecidableEq, Repr, Inhabited

/-- The codec that the default decoder passes to the factory. -/
def Settings.boundCodec (settings : Settings) (type : String) : String :=
  if type = settings.noContentMarker then "t." ++ settings.noContentMarker else type

/-- The decoders of an operation, if it has responses and one of them is its success. -/
def OperationDecoders.build? (settings : Settings) (operationId : String)
    (entries : List ResponseEntry) (success : Option ResponseEntry) : Option OperationDecoders :=
  success.bind fun success =>
    (composeDecoders settings success.status entries).map fun factory =>
      { decoderName := ServiceContract.decoderName operationId
        defaultDecoderName := ServiceContract.defaultDecoderName operationId
        successStatus := success.status
        successType := success.type
        factory
        factoryExpression := "<A, O>(type: t.Type<A, O>) => " ++ factory.text
        defaultExpression :=
          "() => " ++ ServiceContract.decoderName operationId ++ "("
            ++ settings.boundCodec success.type ++ ")" }

/-- What the decoders of an operation are made of. -/
theorem OperationDecoders.exists_of_build? {settings : Settings} {operationId : String}
    {entries : List ResponseEntry} {success : Option ResponseEntry} {decoders : OperationDecoders}
    (h : OperationDecoders.build? settings operationId entries success = some decoders) :
    ∃ entry, success = some entry ∧
      decoders.successStatus = entry.status ∧ decoders.successType = entry.type ∧
      composeDecoders settings entry.status entries = some decoders.factory := by
  cases success with
  | none => cases h
  | some entry =>
    obtain ⟨tree, htree, hdecoders⟩ := Option.map_eq_some_iff.mp h
    subst hdecoders
    exact ⟨entry, rfl, rfl, rfl, htree⟩

/-- An operation with a success response has decoders. -/
theorem OperationDecoders.isSome_build? {settings : Settings} {operationId : String}
    {entries : List ResponseEntry} {success : Option ResponseEntry} (h : entries ≠ []) :
    (OperationDecoders.build? settings operationId entries success).isSome = success.isSome := by
  obtain ⟨entry, rest, rfl⟩ := List.exists_cons_of_ne_nil h
  cases success <;> rfl

end ServiceContract
