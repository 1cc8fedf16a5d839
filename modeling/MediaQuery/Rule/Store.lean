import MediaQuery.Condition.Basic

/-!
# The store of rules

A body is style text or a live query; a descriptor says under which condition the body of an index
counts. Both are only ever added, and a descriptor is only added for a body that is there.
-/

namespace MediaQuery

/-- What a condition guards. -/
inductive RuleBody where
  | css (text : String)
  /-- A live query, by its number in order of registration. -/
  | query (number : Nat)
deriving DecidableEq, Repr

namespace RuleBody

/-- The style text of a body. -/
def css? : RuleBody → Option String
  | css text => some text
  | query _ => none

/-- The number of the live query that a body is. -/
def query? : RuleBody → Option Nat
  | css _ => none
  | query number => some number

end RuleBody

/-- A condition and the index of the body that it guards. -/
structure Descriptor where
  condition : Condition
  rule : Nat

/-- Bodies and descriptors in the order in which they were added. -/
structure RuleStore where
  bodies : List RuleBody
  descriptors : List Descriptor

namespace RuleStore

/-- A store that holds nothing. -/
def empty : RuleStore := ⟨[], []⟩

/-- The number of bodies. -/
def size (s : RuleStore) : Nat := s.bodies.length

/-- Whether there is no body. -/
def isEmpty (s : RuleStore) : Bool := s.bodies.isEmpty

/-- Adds a body and gives its index. -/
def pushBody (s : RuleStore) (body : RuleBody) : Nat × RuleStore :=
  (s.size, { s with bodies := s.bodies ++ [body] })

/-- Adds a descriptor and gives it, if its body is there. -/
def pushDescriptor (s : RuleStore) (condition : Condition) (rule : Nat) :
    Option Descriptor × RuleStore :=
  if rule < s.size then
    let descriptor := ⟨condition, rule⟩
    (some descriptor, { s with descriptors := s.descriptors ++ [descriptor] })
  else (none, s)

/-- Adds a body with the conditions of which one must hold, and gives the descriptors. -/
def pushRule (s : RuleStore) (body : RuleBody) (conditions : List Condition) :
    List Descriptor × RuleStore :=
  let added := conditions.map fun condition => ⟨condition, s.size⟩
  (added, { bodies := s.bodies ++ [body], descriptors := s.descriptors ++ added })

/-- The body of an index. -/
def body? (s : RuleStore) (rule : Nat) : Option RuleBody := s.bodies[rule]?

/-- The numbers of the live queries in the store, in order. -/
def queries (s : RuleStore) : List Nat := s.bodies.filterMap RuleBody.query?

@[simp] theorem size_pushBody (s : RuleStore) (body : RuleBody) :
    (s.pushBody body).2.size = s.size + 1 := by
  simp [pushBody, size]

end RuleStore

end MediaQuery
