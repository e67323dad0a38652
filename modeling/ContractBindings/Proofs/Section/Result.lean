import ContractBindings.Proofs.Types.Evaluation
import ContractBindings.Section.Contract
import Mathlib.Data.List.Forall2

/-!
# Runs of result classes

The constructor of a result class assigns its parameters to the fields of the same names, one
after another, and the method `toMap` sets one entry after another of a new map.  In both the
names that are done come before those that are left, and as all of them differ each value is added
at the end.  So an object of a result class has its arguments for fields, in order
(`Function.make_resultClass`), and the map has the encodings of the fields for entries
(`Function.call_toMap`).
-/

namespace ContractBindings

variable {α β γ : Type}

/-! ## Items one by one -/

/-- Items converted one by one, each by a conversion of its own. -/
def convertAll? : List (β → Option γ) → List β → Option (List γ)
  | [], [] => some []
  | f :: fs, x :: xs => do return (← f x) :: (← convertAll? fs xs)
  | _, _ => none

theorem convertAll?_cons_eq_some_iff {f : β → Option γ} {fs : List (β → Option γ)} {x : β}
    {xs : List β} {zs : List γ} :
  convertAll? (f :: fs) (x :: xs) = some zs
    ↔ ∃ y, f x = some y ∧ ∃ ys, convertAll? fs xs = some ys ∧ y :: ys = zs
  := by
  simp [convertAll?, Option.bind_eq_some_iff]

/-- There are as many items as conversions, and none is lost. -/
theorem length_of_convertAll? {fs : List (β → Option γ)} {xs : List β} {ys : List γ}
    (h : convertAll? fs xs = some ys) :
  xs.length = fs.length ∧ ys.length = fs.length
  := by
  induction fs generalizing xs ys with
  | nil =>
      cases xs with
      | nil =>
          obtain rfl := Option.some.inj h
          exact ⟨rfl, rfl⟩
      | cons => cases h
  | cons f fs ih =>
      cases xs with
      | nil => cases h
      | cons x xs =>
          obtain ⟨y, -, ys, rest, rfl⟩ := convertAll?_cons_eq_some_iff.mp h
          obtain ⟨left, right⟩ := ih rest
          simp [left, right]

/-- Values that are listed with different names are found under them. -/
theorem forall₂_lookup_zip {name : β → String} {items : List β}
    (nodup : (items.map name).Nodup) {values : List γ} (length : items.length = values.length) :
  List.Forall₂ (fun item value => ((items.map name).zip values).lookup (name item) = some value)
    items values
  := by
  induction items generalizing values with
  | nil =>
      obtain rfl := List.length_eq_zero_iff.mp length.symm
      apply List.Forall₂.nil
  | cons item items ih =>
      obtain _ | ⟨value, values⟩ := values
      · cases length
      · obtain ⟨new, nodup⟩ := List.nodup_cons.mp nodup
        have others : ∀ other ∈ items, name other ≠ name item := by
          intro other member same
          apply new
          rw [← same]
          apply List.mem_map_of_mem member
        have found := ih nodup (Nat.succ.inj length)
        apply List.Forall₂.cons
        · apply List.lookup_cons_self
        · apply ((List.forall₂_and_left _ _).mpr ⟨others, found⟩).imp
          rintro other value ⟨apart, found⟩
          rw [List.map_cons, List.zip_cons_cons, List.lookup_cons, beq_false_of_ne apart]
          apply found

/-- In a list without repetition, an item is none of those before it. -/
theorem notMem_of_nodup_append_cons {done left : List β} {x : β}
    (h : (done ++ x :: left).Nodup) :
  x ∉ done
  := by
  intro member
  apply (List.nodup_append'.mp h).2.2 member
  apply List.mem_cons_self

namespace Slot

/-- The conversion of the value of a slot for encoding. -/
def encoder (R : Runtime α) (s : Slot) : Value α → Option (Value α) :=
  s.shape.encoded? R

/-- The conversion of the decoded value of a slot. -/
def decoder (R : Runtime α) (stem : String) (s : Slot) : Value α → Option (Value α) :=
  s.shape.decoded? R (s.structName? stem)

/-- The value of an encoded slot. -/
theorem eval_encode {R : Runtime α} {make : Maker α} (stem : String) (s : Slot)
    (frame : Frame α) (v : Expr) :
  (s.encode stem v).eval R make frame
    = v.eval R make frame >>= fun x => Run.ofOption (s.encoder R x)
  := by
  apply Shape.eval_encode

/-- The value of a decoded slot. -/
theorem eval_decode {R : Runtime α} {make : Maker α} (stem : String) (s : Slot)
    (frame : Frame α) (v : Expr) :
  (s.decode stem v).eval R make frame
    = v.eval R make frame >>= fun y => Run.ofOption (s.decoder R stem y)
  := by
  apply Shape.eval_decode

end Slot

namespace Function

/-- The constructor of a result class. -/
def resultConstructor (stem : String) (results : List Slot) : Method where
  name := "constructor"
  parameters := resultFields stem results
  body := results.map fun s => .assign (.member .self s.name) (.name s.name)
  kind := .constructor

/-- The statement that sets the entry of a field. -/
def entry (stem : String) (s : Slot) : Stmt :=
  .effect (.call (.name "map") setMethod
    [.literal (.text s.name), s.encode stem (.member .self s.name)] [])

/-- The method that makes a map of all fields of a result. -/
def resultMap (stem : String) (results : List Slot) : Method where
  name := "toMap"
  type := some mapType
  body :=
    .declare "map" (.new mapType []) :: results.map (entry stem) ++ [.give (.name "map")]

/-- A result class has these two methods. -/
theorem methods_resultClass (contract assigned : String) (results : List Slot) :
  (resultClass contract assigned results).methods
    = [resultConstructor (outputStem contract assigned) results,
        resultMap (outputStem contract assigned) results]
  := by
  rfl

/-- The parameters of the constructor are called like the results. -/
theorem map_name_resultFields (stem : String) (results : List Slot) :
  (resultFields stem results).map (·.name) = results.map (·.name)
  := by
  simp [resultFields]

theorem map_name_results (f : Function Slot) :
  f.results.map (·.name) = (List.range f.outputs.length).map fun k => "value" ++ toString k
  := by
  apply List.ext_getElem <;> simp [results]

/-- The results of a function have different names. -/
theorem nodup_map_name_results (f : Function Slot) :
  (f.results.map (·.name)).Nodup
  := by
  rw [map_name_results]
  apply List.Nodup.map _ List.nodup_range
  intro m n same
  apply Name.append_toString_inj same

end Function

/-! ## Objects of result classes -/

namespace Function

variable {R : Runtime α} {make : Maker α} {frame : Frame α} {m : Memory α} {slots : List Slot}

/-- Each of the assignments adds the value of the local to the fields assigned so far. -/
theorem runAll_assignments {type : String} {xs : List (Value α)}
    (self : frame.self = .object m.cells.length)
    (bound : List.Forall₂ (fun s x => frame.locals.lookup s.name = some x) slots xs)
    (declared : ∀ s ∈ slots, R.declares type s.name) {done : List (String × Value α)}
    (apart : (done.map (·.1) ++ slots.map (·.name)).Nodup) :
  Stmt.runAll R make frame
      (slots.map fun s => .assign (.member .self s.name) (.name s.name))
      (m.withCell (.record type done))
    = some (none, m.withCell (.record type (done ++ (slots.map (·.name)).zip xs)))
  := by
  induction bound generalizing done with
  | nil =>
      rw [List.map_nil, List.map_nil, List.zip_nil_left, List.append_nil]
      rfl
  | @cons s x slots xs found _ ih =>
      obtain ⟨known, others⟩ := List.forall_mem_cons.mp declared
      have new := notMem_of_nodup_append_cons apart
      have assigned : Run.change (.object m.cells.length) (Cell.assign? R s.name x)
          (m.withCell (.record type done))
          = some ((), m.withCell (.record type (done ++ [(s.name, x)]))) := by
        rw [Run.change, Memory.change?_withCell]
        · rfl
        · rw [Cell.assign?, if_pos known, stored_of_notMem new]
      rw [List.map_cons, Stmt.runAll, Expr.eval, Expr.eval, found, self, Run.ofOption_some,
        pure_bind, pure_bind, Run.bind_of_eq_some assigned, ih others]
      · simp
      · simpa using apart

/-- An object of a result class has the arguments of its constructor for fields. -/
theorem make_resultClass {contract assigned : String} {xs : List (Value α)}
    (generated : R.class? (resultName contract assigned)
      = some (.generated (resultClass contract assigned slots)))
    (nodup : (slots.map (·.name)).Nodup) (length : slots.length = xs.length) (m : Memory α) :
  R.make (resultName contract assigned) xs m
    = some (.object m.cells.length,
        m.withCell (.record (resultName contract assigned) ((slots.map (·.name)).zip xs)))
  := by
  have declared : ∀ s ∈ slots, R.declares (resultName contract assigned) s.name := by
    intro s member
    rw [Runtime.declares, generated]
    simpa [resultClass, resultFields] using ⟨s, member, rfl⟩
  have filled : Stmt.runAll R Runtime.makeNothing
      ⟨.object m.cells.length, (slots.map (·.name)).zip xs⟩
      (resultConstructor (outputStem contract assigned) slots).body
      (m.withCell (.record (resultName contract assigned) []))
      = some (none, m.withCell
          (.record (resultName contract assigned) ((slots.map (·.name)).zip xs))) := by
    apply runAll_assignments rfl (forall₂_lookup_zip nodup length) declared
    rwa [List.map_nil, List.nil_append]
  have found : (resultClass contract assigned slots).methods.find? (·.kind == .constructor)
      = some (resultConstructor (outputStem contract assigned) slots) := by
    rfl
  simp only [Runtime.make, generated]
  rw [Run.bind_of_eq_some (Run.allocate_eq _ m), found, Run.ofOption_some, pure_bind,
    Method.run_eq_runAll R Runtime.makeNothing (map_name_resultFields _ slots) nodup
      (by rw [List.length_map, length]),
    Run.bind_of_eq_some filled]
  rfl

/-! ## Maps of results -/

/-- Each of the entries is set to the encoding of a field, beside those that are set so far. -/
theorem runAll_entries (stem : String) {xs es : List (Value α)}
    (map : frame.locals.lookup "map" = some (.object m.cells.length))
    (held : List.Forall₂ (fun s x => m.field? frame.self s.name = some x) slots xs)
    (encoded : convertAll? (slots.map (Slot.encoder R)) xs = some es)
    {done : List (String × Value α)} (apart : (done.map (·.1) ++ slots.map (·.name)).Nodup) :
  Stmt.runAll R make frame (slots.map (entry stem) ++ [.give (.name "map")])
      (m.withCell (.map done))
    = some (some (.object m.cells.length),
        m.withCell (.map (done ++ (slots.map (·.name)).zip es)))
  := by
  induction held generalizing done es with
  | nil =>
      obtain rfl := Option.some.inj encoded
      rw [List.map_nil, List.map_nil, List.zip_nil_left, List.append_nil, List.nil_append,
        Stmt.runAll, Expr.eval, map]
      rfl
  | @cons s x slots xs field _ ih =>
      obtain ⟨e, first, es, rest, rfl⟩ := convertAll?_cons_eq_some_iff.mp encoded
      have new := notMem_of_nodup_append_cons apart
      have read : (Expr.member .self s.name).eval R make frame (m.withCell (.map done))
          = some (x, m.withCell (.map done)) := by
        rw [Expr.eval, Expr.eval, pure_bind, Memory.field?_withCell field]
        rfl
      have converted : (s.encode stem (.member .self s.name)).eval R make frame
          (m.withCell (.map done)) = some (e, m.withCell (.map done)) := by
        rw [Slot.eval_encode, Run.bind_of_eq_some read, first]
        rfl
      have set : (Expr.call (.name "map") setMethod
          [.literal (.text s.name), s.encode stem (.member .self s.name)] []).eval R make frame
          (m.withCell (.map done))
          = some (.nothing, m.withCell (.map (done ++ [(s.name, e)]))) := by
        rw [Expr.eval_call_pair, Expr.eval, map, Run.ofOption_some, pure_bind, Expr.eval,
          pure_bind, Run.bind_of_eq_some converted]
        apply Runtime.invoke_set
        apply Memory.change?_withCell
        rw [Cell.insert?, stored_of_notMem new]
      rw [List.map_cons, List.cons_append, entry, Stmt.runAll, Run.bind_of_eq_some set, ih rest]
      · simp
      · simpa using apart

/-- The map of a result has the encodings of the fields for entries, under their names. -/
theorem call_toMap (known : R.class? mapType = some .map) {type : String}
    {xs es : List (Value α)} {self : Value α}
    (held : m.cell? self = some (.record type ((slots.map (·.name)).zip xs)))
    (encoded : convertAll? (slots.map (Slot.encoder R)) xs = some es)
    (nodup : (slots.map (·.name)).Nodup) (stem : String) :
  R.call (resultMap stem slots) self [] m
    = some (.object m.cells.length, m.withCell (.map ((slots.map (·.name)).zip es)))
  := by
  have length : slots.length = xs.length := by
    simpa using (length_of_convertAll? encoded).1.symm
  have fields : List.Forall₂ (fun s x => m.field? self s.name = some x) slots xs := by
    apply (forall₂_lookup_zip nodup length).imp
    intro s x found
    rw [Memory.field?, held]
    apply found
  have made : (Expr.new mapType []).eval R R.make ⟨self, []⟩ m
      = some (.object m.cells.length, m.withCell (.map [])) := by
    simp only [Expr.eval, Expr.evalAll, pure_bind, Runtime.make, known]
    rfl
  have filled : Stmt.runAll R R.make ⟨self, [("map", .object m.cells.length)]⟩
      (slots.map (entry stem) ++ [.give (.name "map")]) (m.withCell (.map []))
      = some (some (.object m.cells.length),
          m.withCell (.map ((slots.map (·.name)).zip es))) := by
    apply runAll_entries stem List.lookup_cons_self fields encoded
    rwa [List.map_nil, List.nil_append]
  have unnamed : (resultMap stem slots).parameters.map (·.name) = [] := by
    rfl
  apply Runtime.call_of_run
  rw [Method.run_eq_runAll R R.make unnamed List.nodup_nil rfl, resultMap, List.cons_append,
    List.zip_nil_left, Stmt.runAll_declare made rfl]
  apply filled

end Function

end ContractBindings
