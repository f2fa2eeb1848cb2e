/-!
# Methods

The methods that descriptors are built for. A document's method names are in lower case when they
get here.
-/

namespace ServiceContract

/-- A supported method. -/
inductive HttpMethod where
  | get
  | post
  | put
  | delete
  deriving DecidableEq, Repr, Inhabited

namespace HttpMethod

/-- The method's name in lower case. -/
def name : HttpMethod → String
  | get => "get"
  | post => "post"
  | put => "put"
  | delete => "delete"

/-- The method's name in upper case. -/
def title : HttpMethod → String
  | get => "GET"
  | post => "POST"
  | put => "PUT"
  | delete => "DELETE"

/-- The supported methods. -/
def all : List HttpMethod := [get, post, put, delete]

/-- The method of a lower-case name. -/
def ofName? (word : String) : Option HttpMethod := all.find? (·.name == word)

/-- A method is found under its name. -/
@[simp] theorem ofName?_name (m : HttpMethod) : ofName? m.name = some m := by
  cases m <;> rfl

/-- What is found under a word is named by it. -/
theorem name_of_ofName? {word : String} {m : HttpMethod} (h : ofName? word = some m) :
    m.name = word := by
  have hname := List.find?_some h
  exact beq_iff_eq.mp hname

/-- The words that name a method. -/
theorem exists_ofName? {word : String} :
    (∃ m, ofName? word = some m) ↔ word ∈ all.map name := by
  constructor
  · rintro ⟨m, hm⟩
    rw [← name_of_ofName? hm]
    cases m <;> simp [all]
  · intro hword
    obtain ⟨m, -, rfl⟩ := List.mem_map.mp hword
    exact ⟨m, ofName?_name m⟩

/-- Whether requests with the method have a body. -/
def hasBody : HttpMethod → Bool
  | post | put => true
  | get | delete => false

end HttpMethod

end ServiceContract
