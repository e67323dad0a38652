import ContractBindings.Bindings
import ContractBindings.Proofs.Code.Written

/-!
# Rendered bindings

Rendering the trees of a module fails in one way only: a tree is not what is expected in its
place.  The fault is that of the first such place, in the order of the text.  The trees of
bindings are what is expected everywhere, since they come from code, so bindings are always
rendered.
-/

namespace ContractBindings.Interface

/-- The trees of a module are rendered when all positions in them are in place, and otherwise with
the fault of the first one that is not.  Those of bindings are rendered as the bindings, whatever
the interface and the options. -/
theorem rendering_outcome (indent : String) :
  (∀ imports classes,
    (∃ text, Module.renderTrees? indent imports classes = .ok text)
      ↔ ∀ p ∈ Module.positions imports classes, p.InPlace)
  ∧ (∀ imports classes fault,
    Module.renderTrees? indent imports classes = .error fault
      ↔ ∃ before p after, Module.positions imports classes = before ++ p :: after
        ∧ (∀ q ∈ before, q.InPlace) ∧ ¬ p.InPlace ∧ fault = ⟨p.expected, p.found.kind⟩)
  ∧ ∀ (i : Interface Parameter) options b, i.bindings? options = .ok b →
    Module.renderTrees? indent (b.imports.map (·.toTree)) (b.classes.map (·.toTree))
      = .ok (b.text indent)
  := by
  use Module.exists_renderTrees?_iff indent, Module.renderTrees?_eq_error_iff indent
  intro _ _ b _
  exact Module.renderTrees?_toTree indent b.module

/-- A contract with a function that takes a grid. -/
def board : Interface Parameter where
  name := "Board"
  members :=
    [.function
      { name := "cells"
        inputs := [{ type := "uint8[][]", name := some "grid" }]
        outputs := [{ type := "bool" }]
        mutability := "view" }]

/-- The tree of a class with a method that gives a list of a name, nothing and a truth value. -/
def brokenTriple : Tree :=
  .node .classDef [.text "Triple", .truth true, .null, .row [],
    .row [.node .method [.text "all", .row [], .null,
      .row [.node .give
        [.node .list [.row [.node .name [.text "first"], .null, .truth true]]]],
      .text "method"]]]

theorem rendering_outcome_board :
  (∃ b, board.bindings? {} = .ok b
    ∧ Module.renderTrees? "  " (b.imports.map (·.toTree)) (b.classes.map (·.toTree))
        = .ok (b.text "  "))
  ∧ ∃ fault : Misplaced, Module.renderTrees? "  " [] [brokenTriple] = .error fault
    ∧ fault.message = "Cannot emit expression NoneType"
  := by
  have accepted : board.check?.isOk := by
    decide +kernel
  obtain ⟨b, made⟩ := exists_bindings?_of_isOk accepted {}
  constructor
  · use b, made
    apply (rendering_outcome "  ").2.2 board {} b made
  · use ⟨.expression, .null⟩
    constructor
    · apply ((rendering_outcome "  ").2.1 _ _ _).mpr
      refine ⟨(Module.positions [] [brokenTriple]).take 5, ⟨.expression, .null⟩,
        [⟨.expression, .truth true⟩], rfl, ?_, ?_, rfl⟩
      · simp only [← Position.fault?_eq_none_iff]
        decide
      · rintro ⟨⟩
    · rfl

end ContractBindings.Interface
