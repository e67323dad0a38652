/-!
# Numbered names

Names that can be followed by a number, so that names which collide can be told apart.  Besides
texts these are optional texts: the absent name is a name of its own, apart from every text,
and it is spelled out once a number follows it.
-/

namespace ContractBindings.Name

/-- Names that can be followed by a number, where different numbers give different names. -/
class Numbered (α : Type) where
  numbered : α → Nat → α
  numbered_inj : ∀ {name : α} {m n : Nat}, numbered name m = numbered name n → m = n

theorem append_toString_inj {name : String} {m n : Nat}
    (h : name ++ toString m = name ++ toString n) :
  m = n
  := by
  have spelled := (String.append_right_inj name).mp h
  simpa using congrArg (fun word => Nat.ofDigitChars 10 word.toList 0) spelled

/-- The spelling of the absent name. -/
def absentWord : String := "None"

instance : Numbered String where
  numbered name n := name ++ toString n
  numbered_inj := append_toString_inj

instance : Numbered (Option String) where
  numbered name n := some (name.getD absentWord ++ toString n)
  numbered_inj h := append_toString_inj (Option.some.inj h)

end ContractBindings.Name
