/-!
# References inside text

Template languages share one reading of a text: from left to right, a reference is recognised where
one begins, and every other character stands for itself. `pieces` does the cutting for any notion of
reference, and `substitute` puts a value in the place of each reference. What a value inserts is not
looked at again.

## Main definitions

* `after?` — what follows a given beginning
* `pieces` — a text cut into characters and references
* `substitute`, `replaceAll` — references replaced by their values
-/

namespace StepFlow.Text

variable {α ε : Type}

/-- What follows `start` in a text that begins with it. -/
def after? : (start cs : List Char) → Option (List Char)
  | [], cs => some cs
  | _ :: _, [] => none
  | s :: start, c :: cs => if s = c then after? start cs else none

/-- Cut a text into references and the characters between them. `find` recognises a reference at the
beginning of its argument and tells how many characters it takes; the number counts the characters
of a recognised reference still to be passed over. -/
def pieces (find : List Char → Option (α × Nat)) : Nat → List Char → List (Char ⊕ α)
  | _, [] => []
  | n + 1, _ :: cs => pieces find n cs
  | 0, c :: cs =>
    match find (c :: cs) with
    | some (a, n + 1) => .inr a :: pieces find n cs
    | _ => .inl c :: pieces find 0 cs

/-- Replace every reference by its value, from left to right; the first value that fails decides. -/
def substitute (find : List Char → Option (α × Nat)) (value : α → Except ε (List Char))
    (cs : List Char) : Except ε (List Char) := do
  let parts ← (pieces find 0 cs).mapM fun
    | .inl c => pure [c]
    | .inr a => value a
  return parts.flatten

/-- Replace every occurrence of a text, from left to right. An empty `old` occurs nowhere. -/
def replaceAll (old new cs : List Char) : List Char :=
  (pieces (fun cs => (after? old cs).map fun _ => ((), old.length)) 0 cs).flatMap fun
    | .inl c => [c]
    | .inr () => new

/-- `replaceAll` on strings. -/
def replaced (s old new : String) : String :=
  String.ofList (replaceAll old.toList new.toList s.toList)

/-- `old` occurs in the text. -/
def occursIn (old : List Char) : List Char → Bool
  | [] => old.isEmpty
  | c :: cs => (after? old (c :: cs)).isSome || occursIn old cs

end StepFlow.Text
