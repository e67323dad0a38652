import ContractBindings.Code.Declaration
import Mathlib.Tactic.Common

/-!
# Well-formed classes

A type of a module is a name, or a nesting of arrays around a name.  It resolves in a list of
names when the name inside is one of them.

A class is well-formed over the names of types when all types that occur in it resolve, in
its base, its fields, the declarations of its methods and their bodies, and when the bodies are
well scoped: every local that an expression names is a parameter of the method, a local that is
declared earlier, or the parameter of a function around it, and no local is declared under the
name of a parameter of the method.
-/

namespace ContractBindings

/-- Arrays, arrays of arrays and so on of a type, or the type itself. -/
inductive Nesting (root : String) : String → Prop where
  | root : Nesting root root
  | array {type : String} (element : Nesting root type) : Nesting root ("Array<" ++ type ++ ">")

/-- A type that is made from one of the names. -/
def Resolves (names : List String) (type : String) : Prop :=
  ∃ root ∈ names, Nesting root type

section

variable {names : List String} {type : String}

theorem Resolves.of_mem (h : type ∈ names) :
  Resolves names type
  := by
  use type, h
  apply Nesting.root

theorem Resolves.array (h : Resolves names type) :
  Resolves names ("Array<" ++ type ++ ">")
  := by
  obtain ⟨root, known, nesting⟩ := h
  use root, known
  apply Nesting.array nesting

end

/-- Expressions whose types resolve, with every local among those that are bound. -/
inductive Expr.WellFormed (names : List String) : List String → Expr → Prop where
  | name {bound id} (known : id ∈ bound) : WellFormed names bound (.name id)
  | self {bound} : WellFormed names bound .self
  | literal {bound value} : WellFormed names bound (.literal value)
  | member {bound object field} (inner : WellFormed names bound object) :
    WellFormed names bound (.member object field)
  | index {bound values position} (inner : WellFormed names bound values)
    (place : WellFormed names bound position) : WellFormed names bound (.index values position)
  | call {bound receiver method arguments types} (inner : WellFormed names bound receiver)
    (passed : ∀ e ∈ arguments, WellFormed names bound e)
    (resolved : ∀ t ∈ types, Resolves names t) :
    WellFormed names bound (.call receiver method arguments types)
  | staticCall {bound owner method arguments types} (known : Resolves names owner)
    (passed : ∀ e ∈ arguments, WellFormed names bound e)
    (resolved : ∀ t ∈ types, Resolves names t) :
    WellFormed names bound (.staticCall owner method arguments types)
  | superCall {bound method arguments} (passed : ∀ e ∈ arguments, WellFormed names bound e) :
    WellFormed names bound (.superCall method arguments)
  | new {bound type arguments} (resolved : Resolves names type)
    (passed : ∀ e ∈ arguments, WellFormed names bound e) :
    WellFormed names bound (.new type arguments)
  | cast {bound value type} (inner : WellFormed names bound value)
    (resolved : Resolves names type) : WellFormed names bound (.cast value type)
  | list {bound elements} (inner : ∀ e ∈ elements, WellFormed names bound e) :
    WellFormed names bound (.list elements)
  | lambda {bound parameter type body} (taken : Resolves names parameter.type)
    (resolved : Resolves names type) (inner : WellFormed names (parameter.name :: bound) body) :
    WellFormed names bound (.lambda parameter type body)

section

variable {names bound : List String} {e : Expr} (h : e.WellFormed names bound)

include h

/-- A call of a method without arguments. -/
theorem Expr.WellFormed.plainCall {method : String} :
  WellFormed names bound (.call e method [] [])
  := by
  apply WellFormed.call h <;> simp

/-- A static call on a single argument. -/
theorem Expr.WellFormed.plainStaticCall {owner method : String} (known : Resolves names owner) :
  WellFormed names bound (.staticCall owner method [e] [])
  := by
  apply WellFormed.staticCall known
  · rw [List.forall_mem_singleton]
    apply h
  · simp

end

namespace Stmt

/-- The local that a statement declares. -/
def declared? : Stmt → Option String
  | declare name _ => some name
  | _ => none

/-- Statements in sequence whose expressions are well-formed, each under the locals that are
declared before it. -/
inductive WellFormed (names : List String) : List String → List Stmt → Prop where
  | nil {bound} : WellFormed names bound []
  | declare {bound name value rest} (inner : value.WellFormed names bound)
    (later : WellFormed names (name :: bound) rest) :
    WellFormed names bound (.declare name value :: rest)
  | assign {bound target value rest} (left : target.WellFormed names bound)
    (right : value.WellFormed names bound) (later : WellFormed names bound rest) :
    WellFormed names bound (.assign target value :: rest)
  | give {bound value rest} (inner : value.WellFormed names bound)
    (later : WellFormed names bound rest) : WellFormed names bound (.give value :: rest)
  | effect {bound value rest} (inner : value.WellFormed names bound)
    (later : WellFormed names bound rest) : WellFormed names bound (.effect value :: rest)

/-- Statements that declare no local do not matter to those after them. -/
theorem WellFormed.append {names bound : List String} {statements rest : List Stmt}
    (h : ∀ s ∈ statements, s.declared? = none ∧ WellFormed names bound [s])
    (later : WellFormed names bound rest) :
  WellFormed names bound (statements ++ rest)
  := by
  induction statements with
  | nil => apply later
  | cons s statements ih =>
      rw [List.forall_mem_cons] at h
      obtain ⟨⟨silent, first⟩, others⟩ := h
      rw [List.cons_append]
      cases first with
      | declare inner _ => cases silent
      | assign left right _ => apply WellFormed.assign left right (ih others)
      | give inner _ => apply WellFormed.give inner (ih others)
      | effect inner _ => apply WellFormed.effect inner (ih others)

end Stmt

namespace Method

/-- The types that a method is declared with. -/
def declaredTypes (m : Method) : List String :=
  m.parameters.map (·.type) ++ m.type.toList

/-- A method whose types resolve and whose body is well scoped. -/
structure WellFormed (names : List String) (m : Method) : Prop where
  declaredTypes : ∀ t ∈ m.declaredTypes, Resolves names t
  body : Stmt.WellFormed names (m.parameters.map (·.name)) m.body
  fresh : ∀ name ∈ m.body.filterMap Stmt.declared?, name ∉ m.parameters.map (·.name)

end Method

namespace ClassDef

/-- The types that the fields and the methods of a class are declared with. -/
def declaredTypes (c : ClassDef) : List String :=
  c.fields.map (·.type) ++ c.methods.flatMap Method.declaredTypes

/-- A class declares a field, a parameter or a result of a type that is made from a name. -/
def Mentions (c : ClassDef) (name : String) : Prop :=
  ∃ type ∈ c.declaredTypes, Nesting name type

/-- A class whose types resolve and whose methods are well scoped. -/
structure WellFormed (names : List String) (c : ClassDef) : Prop where
  base : ∀ t ∈ c.base, Resolves names t
  fields : ∀ v ∈ c.fields, Resolves names v.type
  methods : ∀ m ∈ c.methods, m.WellFormed names

theorem mentions_of_field {c : ClassDef} {v : Variable} {name : String} (h : v ∈ c.fields)
    (nesting : Nesting name v.type) :
  c.Mentions name
  := by
  use v.type, List.mem_append_left _ (List.mem_map_of_mem h), nesting

theorem mentions_of_method {c : ClassDef} {m : Method} {type name : String} (h : m ∈ c.methods)
    (declared : type ∈ m.declaredTypes) (nesting : Nesting name type) :
  c.Mentions name
  := by
  use type, List.mem_append_right _ (List.mem_flatMap.mpr ⟨m, h, declared⟩), nesting

end ClassDef

end ContractBindings
