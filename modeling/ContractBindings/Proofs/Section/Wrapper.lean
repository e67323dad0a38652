import ContractBindings.Proofs.Section.Result
import ContractBindings.Proofs.Struct.WellFormed
import ContractBindings.Proofs.Types.Typing

/-!
# Runs of methods

The method of a function encodes its arguments, sends one request with them, and decodes what the
contract answers.  The local for the answer is none of the parameters, so it is declared once and
no argument hides it.  `Function.call_methodOf_of_length_eq_one` says what the method returns for a
single output, and `Function.call_methodOf_of_length_ne_one` for any other number of outputs: an
object of the result class, whose constructor is given arguments of the types that it declares
(`Function.hasType_decodedResults`).
-/

namespace ContractBindings.Function

variable {α : Type} {R : Runtime α} {make : Maker α} {frame : Frame α} {m : Memory α}

/-- The request that the method of a function sends with encoded arguments. -/
def request (name : String) (encoded : List (Value α)) : Request α :=
  ⟨"call", [.text name, .list encoded]⟩

/-- The encodings of locals are those of their values. -/
theorem evalAll_encode (stem : String) {slots : List Slot} {xs es : List (Value α)}
    (bound : List.Forall₂ (fun s x => frame.locals.lookup s.name = some x) slots xs)
    (encoded : convertAll? (slots.map (Slot.encoder R)) xs = some es) :
  Expr.evalAll R make frame (slots.map fun s => s.encode stem (.name s.name)) = pure es
  := by
  induction bound generalizing es with
  | nil =>
      obtain rfl := Option.some.inj encoded
      rfl
  | @cons s x slots xs found _ ih =>
      obtain ⟨e, first, es, rest, rfl⟩ := convertAll?_cons_eq_some_iff.mp encoded
      rw [List.map_cons, Expr.evalAll, Slot.eval_encode, Expr.eval, found,
        Run.ofOption_some, pure_bind, first, Run.ofOption_some, pure_bind, ih rest, pure_bind]

/-- The item at a position of the answer. -/
theorem eval_item {rs : List (Value α)} (bound : frame.locals.lookup localName = some (.list rs))
    (position : Nat) :
  (Expr.index (.name localName) (.literal (.number position))).eval R make frame
    = Run.ofOption rs[position]?
  := by
  rw [Expr.eval, Expr.eval, bound, Run.ofOption_some, pure_bind, Expr.eval, pure_bind]
  rfl

/-- The items of the answer that come after some others are decoded one by one. -/
theorem evalAll_decode (stem : String) {slots : List Slot} {rs ds : List (Value α)}
    (decoded : convertAll? (slots.map (Slot.decoder R stem)) rs = some ds) (done : List (Value α))
    (bound : frame.locals.lookup localName = some (.list (done ++ rs))) :
  Expr.evalAll R make frame (slots.mapIdx fun position s =>
      s.decode stem (.index (.name localName) (.literal (.number ↑(position + done.length)))))
    = pure ds
  := by
  induction slots generalizing done rs ds with
  | nil =>
      obtain _ | ⟨r, rs⟩ := rs
      · obtain rfl := Option.some.inj decoded
        rfl
      · cases decoded
  | cons s slots ih =>
      obtain _ | ⟨r, rs⟩ := rs
      · cases decoded
      · obtain ⟨d, first, ds, rest, rfl⟩ := convertAll?_cons_eq_some_iff.mp decoded
        have item : (done ++ r :: rs)[0 + done.length]? = some r := by
          rw [Nat.zero_add, List.getElem?_append_right (Nat.le_refl _), Nat.sub_self]
          rfl
        have shifted (position : Nat) :
            position + 1 + done.length = position + (done ++ [r]).length := by
          rw [List.length_append, List.length_singleton]
          omega
        have later := ih rest (done ++ [r]) (by rwa [List.append_assoc])
        rw [List.mapIdx_cons, Expr.evalAll, Slot.eval_decode, eval_item bound, item,
          Run.ofOption_some, pure_bind, first, Run.ofOption_some, pure_bind]
        simp only [shifted]
        rw [later, pure_bind]

/-- The decoded items of the answer. -/
theorem evalAll_decodedResults (stem : String) {slots : List Slot} {rs ds : List (Value α)}
    (decoded : convertAll? (slots.map (Slot.decoder R stem)) rs = some ds)
    (bound : frame.locals.lookup localName = some (.list rs)) :
  Expr.evalAll R make frame (decodedResults stem slots) = pure ds
  := by
  apply evalAll_decode stem decoded [] bound

section

variable {contract assigned name : String} {arguments results : List Slot}
  {xs es rs ds : List (Value α)}

/-- The method of a function sends one request and returns the value of its last expression, in
which the local is bound to the answer. -/
theorem call_methodOf (distinct : (arguments.map (·.name)).Nodup)
    (free : localName ∉ arguments.map (·.name))
    (encoded : convertAll? (arguments.map (Slot.encoder R)) xs = some es)
    (answered : R.answer? (m.requests ++ [request name es]) = some (.list rs))
    {self x : Value α} {m' : Memory α}
    (value : (returned contract assigned results).1.eval R R.make
      (Frame.bind ⟨self, (arguments.map (·.name)).zip xs⟩ localName (.list rs))
      (m.withRequest (request name es)) = some (x, m')) :
  R.call (methodOf contract assigned name arguments results) self xs m = some (x, m')
  := by
  have length : arguments.length = xs.length := by
    simpa using (length_of_convertAll? encoded).1.symm
  have named : (methodOf contract assigned name arguments results).parameters.map (·.name)
      = arguments.map (·.name) := by
    simp [methodOf]
  have new : ((arguments.map (·.name)).zip xs).lookup localName = none := by
    rw [List.lookup_eq_none_iff]
    intro entry member
    apply bne_iff_ne.mpr
    intro same
    apply free
    rw [same]
    apply (List.of_mem_zip member).1
  have encodings : Expr.evalAll R R.make ⟨self, (arguments.map (·.name)).zip xs⟩
      (arguments.map fun s => s.encode (inputStem contract assigned) (.name s.name))
      = pure es := by
    apply evalAll_encode _ (forall₂_lookup_zip distinct length) encoded
  have sent : (Expr.superCall "call" [.literal (.text name), .list (arguments.map fun s =>
      s.encode (inputStem contract assigned) (.name s.name))]).eval R R.make
        ⟨self, (arguments.map (·.name)).zip xs⟩ m
      = some (.list rs, m.withRequest (request name es)) := by
    simp only [Expr.eval, Expr.evalAll, pure_bind, encodings, Value.ofLiteral]
    apply Run.send_of_answer? answered
  apply Runtime.call_of_run
  rw [Method.run_eq_runAll R R.make named distinct (by rw [List.length_map, length]), methodOf,
    Stmt.runAll_declare sent new, Stmt.runAll]
  apply Run.map_of_eq_some value

variable (distinct : (arguments.map (·.name)).Nodup) (free : localName ∉ arguments.map (·.name))
  (encoded : convertAll? (arguments.map (Slot.encoder R)) xs = some es)
  (answered : R.answer? (m.requests ++ [request name es]) = some (.list rs))
  (decoded : convertAll? (results.map (Slot.decoder R (outputStem contract assigned))) rs = some ds)

include distinct free encoded answered decoded

/-- A single output is returned decoded. -/
theorem call_methodOf_of_length_eq_one (single : results.length = 1) (self : Value α) :
  ∃ d, ds = [d]
    ∧ R.call (methodOf contract assigned name arguments results) self xs m
      = some (d, m.withRequest (request name es))
  := by
  obtain ⟨s, rfl⟩ := List.length_eq_one_iff.mp single
  obtain _ | ⟨r, rs⟩ := rs
  · cases decoded
  · obtain ⟨d, first, rest, done, rfl⟩ := convertAll?_cons_eq_some_iff.mp decoded
    obtain rfl : rest = [] := by
      apply List.length_eq_zero_iff.mp
      apply (length_of_convertAll? done).2
    use d, rfl
    apply call_methodOf distinct free encoded answered
    change (s.decode _ (.index (.name localName) (.literal (.number (0 : Nat))))).eval _ _ _ _ = _
    rw [Slot.eval_decode, eval_item List.lookup_cons_self, List.getElem?_cons_zero,
      Run.ofOption_some, pure_bind, first]
    rfl

/-- Outputs of any number but one are returned decoded in an object of the result class. -/
theorem call_methodOf_of_length_ne_one (several : results.length ≠ 1)
    (generated : R.class? (resultName contract assigned)
      = some (.generated (resultClass contract assigned results)))
    (apart : (results.map (·.name)).Nodup) (self : Value α) :
  R.call (methodOf contract assigned name arguments results) self xs m
    = some (.object m.cells.length, (m.withRequest (request name es)).withCell
        (.record (resultName contract assigned) ((results.map (·.name)).zip ds)))
  := by
  have length : results.length = ds.length := by
    simpa using (length_of_convertAll? decoded).2.symm
  have items : Expr.evalAll R R.make
      (Frame.bind ⟨self, (arguments.map (·.name)).zip xs⟩ localName (.list rs))
      (decodedResults (outputStem contract assigned) results) = pure ds := by
    apply evalAll_decodedResults _ decoded List.lookup_cons_self
  apply call_methodOf distinct free encoded answered
  rw [returned_of_length_ne_one several, Expr.eval, items, pure_bind]
  apply make_resultClass generated apart length

end

/-- The decoded outputs have the types of the fields of the result class, where the local for the
answer is an array of values and the structs of the outputs are classes of tuples. -/
theorem hasType_decodedResults {S : Signature} (documented : S.Documented)
    (values : S.element? (arrayOf Provided.value) = some Provided.value) {stem : String}
    {slots : List Slot}
    (known : ∀ c ∈ Slot.structsAll stem slots, c.base = some Provided.tuple → S.isTuple c.name)
    {scope : List Variable}
    (answer : scope.find? (·.name == localName) = some ⟨localName, arrayOf Provided.value⟩) :
  List.Forall₂ (fun e v => e.HasType S scope v.type)
    (decodedResults stem slots) (resultFields stem slots)
  := by
  have struct : ∀ s ∈ slots, ∀ name ∈ s.structName? stem, S.isTuple name := by
    intro s member name named
    obtain ⟨tuple, ⟨⟩⟩ := Option.ite_none_right_eq_some.mp named
    have first : Struct.classDef stem s.name s.fields ∈ Slot.structsAll stem slots := by
      rw [Slot.structsAll_eq_flatMap, List.mem_flatMap]
      use s, member
      rw [Slot.structs_of_isTuple tuple]
      apply List.mem_cons_self
    apply known _ first rfl
  rw [List.forall₂_iff_get]
  constructor
  · simp [decodedResults, resultFields]
  · intro position _ bound
    have within : position < slots.length := by
      simpa [resultFields] using bound
    have typed : ((slots[position]).decode stem
        (.index (.name localName) (.literal (.number position)))).HasType S scope
        ((slots[position]).codeType stem) := by
      apply Shape.hasType_decode documented
      · apply Shape.isTuple_tupleClass documented
        apply struct _ (List.getElem_mem within)
      · apply Expr.HasType.index (Expr.HasType.name answer) .position values
    simpa [decodedResults, resultFields] using typed

end ContractBindings.Function
