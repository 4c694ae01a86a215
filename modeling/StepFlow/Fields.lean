/-!
# Fields

Ordered mappings from names to values. A name keeps the position at which it was first put; the
value put last counts.
-/

namespace StepFlow

/-- Names with their values, in order. -/
abbrev Fields (α : Type) := List (String × α)

namespace Fields

variable {α : Type}

/-- The value of a name. -/
def get? (fields : Fields α) (name : String) : Option α :=
  (fields.find? (·.1 == name)).map (·.2)

/-- Put a value under a name: in its place, or at the end. -/
def set (name : String) (value : α) : Fields α → Fields α
  | [] => [(name, value)]
  | (n, v) :: rest => if n = name then (name, value) :: rest else (n, v) :: set name value rest

/-- Put several values, one after the other. -/
def setAll (fields new : Fields α) : Fields α :=
  new.foldl (fun acc f => set f.1 f.2 acc) fields

/-- The fields of a list in which a name may occur more than once. -/
def ofList (list : List (String × α)) : Fields α := setAll [] list

end Fields

/-- Order by code points. -/
def textLe (a b : String) : Bool := !(b.toList < a.toList)

/-- The strings in the order of their code points. -/
def sortedTexts (xs : List String) : List String := xs.mergeSort textLe

/-- The fields in the order of their names. -/
def Fields.sorted {α : Type} (fields : Fields α) : Fields α :=
  fields.mergeSort fun a b => textLe a.1 b.1

end StepFlow
