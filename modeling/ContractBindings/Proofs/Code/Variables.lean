import ContractBindings.Proofs.Code.WellFormed

/-!
# Variables and the classes that are used

The variables of a method are its parameters, the locals that its body declares, and the parameters
of the functions inside the expressions of the body.  The body uses a class where it calls a static
method of the class or makes an object of it.  A method is `Unshadowed` when none of its variables
is called like a class that its body uses.

`ClassDef.declaredNames` are all names that a class declares: those of its fields, of its methods,
and of the variables of these.
-/

namespace ContractBindings

namespace Expr

variable {α : Type}

mutual

/-- What is found at an expression and at the expressions inside it, from the outside in. -/
def collect (found? : Expr → Option α) : Expr → List α
  | .name id => (found? (.name id)).toList
  | .self => (found? .self).toList
  | .literal value => (found? (.literal value)).toList
  | .member object field => (found? (.member object field)).toList ++ object.collect found?
  | .index values position =>
    (found? (.index values position)).toList
      ++ (values.collect found? ++ position.collect found?)
  | .call receiver method arguments types =>
    (found? (.call receiver method arguments types)).toList
      ++ (receiver.collect found? ++ collectAll found? arguments)
  | .staticCall owner method arguments types =>
    (found? (.staticCall owner method arguments types)).toList ++ collectAll found? arguments
  | .superCall method arguments =>
    (found? (.superCall method arguments)).toList ++ collectAll found? arguments
  | .new type arguments => (found? (.new type arguments)).toList ++ collectAll found? arguments
  | .cast value type => (found? (.cast value type)).toList ++ value.collect found?
  | .list elements => (found? (.list elements)).toList ++ collectAll found? elements
  | .lambda parameter type body =>
    (found? (.lambda parameter type body)).toList ++ body.collect found?

/-- The same for several expressions. -/
def collectAll (found? : Expr → Option α) : List Expr → List α
  | [] => []
  | e :: es => e.collect found? ++ collectAll found? es

end

theorem collectAll_eq_flatMap (found? : Expr → Option α) (es : List Expr) :
  collectAll found? es = es.flatMap (collect found?)
  := by
  induction es with
  | nil => rfl
  | cons e es ih => rw [collectAll, List.flatMap_cons, ih]

/-- The parameter that a function declares. -/
def parameter? : Expr → Option String
  | .lambda ⟨id, _⟩ _ _ => some id
  | _ => none

/-- The class whose static method is called or whose object is made. -/
def class? : Expr → Option String
  | .staticCall owner _ _ _ => some owner
  | .new type _ => some type
  | _ => none

end Expr

/-- What is found in the expressions of a statement. -/
def Stmt.collect {α : Type} (found? : Expr → Option α) : Stmt → List α
  | .declare _ value => value.collect found?
  | .assign target value => target.collect found? ++ value.collect found?
  | .give value => value.collect found?
  | .effect value => value.collect found?

namespace Method

/-- What is found in the expressions of the body of a method. -/
def collect {α : Type} (found? : Expr → Option α) (m : Method) : List α :=
  m.body.flatMap (Stmt.collect found?)

/-- The parameters, the locals, and the parameters of the functions in the body of a method. -/
def variableNames (m : Method) : List String :=
  m.parameters.map (·.name) ++ m.body.filterMap Stmt.declared? ++ m.collect Expr.parameter?

/-- The classes whose static methods the body of a method calls or whose objects it makes. -/
def usedClasses (m : Method) : List String :=
  m.collect Expr.class?

/-- A method without a variable that is called like a class that its body uses. -/
def Unshadowed (m : Method) : Prop :=
  ∀ name ∈ m.variableNames, name ∉ m.usedClasses

end Method

/-- The names that a class declares. -/
def ClassDef.declaredNames (c : ClassDef) : List String :=
  c.fields.map (·.name) ++ c.methods.flatMap fun m => m.name :: m.variableNames

end ContractBindings
