import ContractBindings.Code.Expr
import Mathlib.Tactic.Common

/-!
# Static types of expressions

`Signature` is what an expression is typed against: the classes of the library that a module
runs with, and those of the module.  `Expr.HasType` is the typing of the expressions that
conversions are made of and are applied to.  It has a rule of its own for `map`: on an array, a
function from the elements to a type turns it into an array of this type, which `map` is told as
its type argument.  A function is typed where it is passed, and its body has to have the type
that the function declares.

`Expr.Annotated` says the same of all parts of an expression.  An expression that has a type is
annotated and has no other type, and `Expr.Typed` puts this together.
-/

namespace ContractBindings

/-- The types of the members and methods of classes.  A method takes no arguments, only types;
a static method takes a value. -/
structure Signature where
  self : String
  member? (type field : String) : Option String
  element? (type : String) : Option String
  method? (type method : String) (types : List String) : Option String
  static? (owner method argument : String) : Option String
  castable (type target : String) : Prop
  isTuple (type : String) : Prop

/-- The type of arrays of a type. -/
def arrayOf (type : String) : String :=
  "Array<" ++ type ++ ">"

/-- The type of positions in an array. -/
def positionType : String := "i32"

/-- The method that maps the elements of an array. -/
def mapMethod : String := "map"

namespace Expr

variable {S : Signature}

/-- The expressions of a type under the variables in scope, the innermost first. -/
inductive HasType (S : Signature) : List Variable → Expr → String → Prop where
  | name {scope id v} (bound : scope.find? (·.name == id) = some v) :
    HasType S scope (.name id) v.type
  | self {scope} : HasType S scope .self S.self
  | position {scope n} : HasType S scope (.literal (.number n)) positionType
  | member {scope object field type result} (inner : HasType S scope object type)
    (known : S.member? type field = some result) : HasType S scope (.member object field) result
  | index {scope values position type result} (inner : HasType S scope values type)
    (place : HasType S scope position positionType) (known : S.element? type = some result) :
    HasType S scope (.index values position) result
  | call {scope receiver method types type result} (other : method ≠ mapMethod)
    (inner : HasType S scope receiver type) (known : S.method? type method types = some result) :
    HasType S scope (.call receiver method [] types) result
  | map {scope receiver parameter type body}
    (inner : HasType S scope receiver (arrayOf parameter.type))
    (made : HasType S (parameter :: scope) body type) :
    HasType S scope (.call receiver mapMethod [.lambda parameter type body] [type]) (arrayOf type)
  | staticCall {scope owner method argument type result} (inner : HasType S scope argument type)
    (known : S.static? owner method type = some result) :
    HasType S scope (.staticCall owner method [argument] []) result
  | cast {scope value type target} (inner : HasType S scope value type)
    (known : S.castable type target) : HasType S scope (.cast value target) target

/-- An expression has at most one type. -/
theorem HasType.unique {scope : List Variable} {e : Expr} {type type' : String}
    (h : HasType S scope e type) (h' : HasType S scope e type') :
  type = type'
  := by
  induction h generalizing type' with
  | name bound =>
      cases h' with
      | name bound' => rw [Option.some.inj (bound.symm.trans bound')]
  | self =>
      cases h'
      rfl
  | position =>
      cases h'
      rfl
  | member _ known ih =>
      cases h' with
      | member inner known' =>
          rw [ih inner] at known
          apply Option.some.inj (known.symm.trans known')
  | index _ _ known ih _ =>
      cases h' with
      | index inner _ known' =>
          rw [ih inner] at known
          apply Option.some.inj (known.symm.trans known')
  | call _ _ known ih =>
      cases h' with
      | call _ inner known' =>
          rw [ih inner] at known
          apply Option.some.inj (known.symm.trans known')
  | map _ _ _ _ =>
      cases h'
      rfl
  | staticCall _ known ih =>
      cases h' with
      | staticCall inner known' =>
          rw [ih inner] at known
          apply Option.some.inj (known.symm.trans known')
  | cast _ _ _ =>
      cases h'
      rfl

/-- A call of `map` has a function as its argument, and the type of its results as the type. -/
def MapAnnotated (arguments : List Expr) (types : List String) : Prop :=
  ∃ parameter type body, arguments = [.lambda parameter type body] ∧ types = [type]

mutual

/-- All functions in an expression have bodies of the types that they declare, and all calls of
`map` are told these types. -/
def Annotated (S : Signature) (scope : List Variable) : Expr → Prop
  | .name _ => True
  | .self => True
  | .literal _ => True
  | .member object _ => object.Annotated S scope
  | .index values position => values.Annotated S scope ∧ position.Annotated S scope
  | .call receiver method arguments types =>
    (method = mapMethod → MapAnnotated arguments types)
      ∧ receiver.Annotated S scope ∧ AnnotatedAll S scope arguments
  | .staticCall _ _ arguments _ => AnnotatedAll S scope arguments
  | .superCall _ arguments => AnnotatedAll S scope arguments
  | .new _ arguments => AnnotatedAll S scope arguments
  | .cast value _ => value.Annotated S scope
  | .list elements => AnnotatedAll S scope elements
  | .lambda parameter type body =>
    HasType S (parameter :: scope) body type ∧ body.Annotated S (parameter :: scope)

/-- The same for several expressions. -/
def AnnotatedAll (S : Signature) (scope : List Variable) : List Expr → Prop
  | [] => True
  | e :: es => e.Annotated S scope ∧ AnnotatedAll S scope es

end

/-- All parts of an expression that has a type are annotated. -/
theorem HasType.annotated {scope : List Variable} {e : Expr} {type : String}
    (h : HasType S scope e type) :
  e.Annotated S scope
  := by
  induction h with
  | name | self | position => trivial
  | member _ _ inner => apply inner
  | index _ _ _ inner place => use inner, place
  | call other _ _ inner => refine ⟨(absurd · other), inner, trivial⟩
  | map _ made inner body =>
      refine ⟨?_, inner, ⟨made, body⟩, trivial⟩
      intro
      refine ⟨_, _, _, rfl, rfl⟩
  | staticCall _ _ inner => refine ⟨inner, trivial⟩
  | cast _ _ inner => apply inner

/-- An expression whose static type is the given one, with all parts annotated. -/
structure Typed (S : Signature) (scope : List Variable) (e : Expr) (type : String) : Prop where
  hasType : HasType S scope e type
  unique : ∀ other, HasType S scope e other → other = type
  annotated : e.Annotated S scope

theorem HasType.typed {scope : List Variable} {e : Expr} {type : String}
    (h : HasType S scope e type) :
  Typed S scope e type
  := by
  use h, fun _ h' => h'.unique h, h.annotated

end Expr

end ContractBindings
