import StepFlow.Shell.Programs.Basic

/-!
# Options of programs

Options begin with a hyphen: a letter behind one hyphen, several of them together, or a word behind
two. A value stands behind its letter, behind an equals sign, or in the next argument. Words may be
cut short as long as they stay unambiguous. Arguments that are no options are operands; options may
stand behind them, except where the operands are a command.

## Main definitions

* `ProgramOption`, `OptionSet` — the options that a program knows
* `Given` — the options and operands that a program is given
* `OptionSet.read`, `withOptions`
-/

namespace StepFlow.Shell

/-- Whether a value belongs to an option. -/
inductive OptionValue where
  | none
  | required
  /-- Only directly behind its name. -/
  | optional
  deriving DecidableEq, Repr

/-- An option: its names, letters and words, and its value. It is known by the first name. -/
structure ProgramOption where
  names : List String
  value : OptionValue
  deriving DecidableEq, Repr

/-- Options without values, each by its names. -/
def flags (names : List (List String)) : List ProgramOption := names.map fun n => ⟨n, .none⟩

/-- Options with values, each by its names. -/
def valued (names : List (List String)) : List ProgramOption := names.map fun n => ⟨n, .required⟩

/-- Options whose values may be left out, each by its names. -/
def optionallyValued (names : List (List String)) : List ProgramOption :=
  names.map fun n => ⟨n, .optional⟩

/-- The options of a program. -/
structure OptionSet where
  options : List ProgramOption
  /-- The first operand ends the options. -/
  endsAtOperand : Bool := false
  deriving Repr

/-- What a program is given. -/
structure Given where
  /-- Options by their first names, in order, with their values. -/
  options : List (String × Option String) := []
  operands : List String := []
  deriving DecidableEq, Repr, Inhabited

namespace Given

def has (g : Given) (name : String) : Bool := g.options.any (·.1 == name)

/-- The value of the last option of a name. -/
def value? (g : Given) (name : String) : Option String :=
  (g.options.reverse.find? (·.1 == name)).bind (·.2)

/-- The values of all options of a name, in order. -/
def values (g : Given) (name : String) : List String :=
  g.options.filterMap fun o => if o.1 = name then o.2 else none

/-- The last one given of several options. -/
def last? (g : Given) (names : List String) : Option String :=
  (g.options.reverse.find? fun o => names.contains o.1).map (·.1)

def withOption (g : Given) (name : String) (value : Option String) : Given :=
  { g with options := (name, value) :: g.options }

end Given

namespace OptionSet

private def isWord (name : String) : Bool := 1 < name.length

/-- The option that a letter stands for. -/
private def letter? (s : OptionSet) (c : Char) : Option ProgramOption :=
  s.options.find? fun o => o.names.contains (String.ofList [c])

/-- The words that options have as names, each with its option. -/
private def words (s : OptionSet) : List (String × ProgramOption) :=
  s.options.flatMap fun o => (o.names.filter isWord).map fun n => (n, o)

/-- The word that stands in an argument, in full or cut short, and its option. -/
private def word? (s : OptionSet) (w : String) : Except String (String × ProgramOption) :=
  match s.words.find? (·.1 == w) with
  | some found => return found
  | none =>
    match s.words.filter fun n => w.toList.isPrefixOf n.1.toList with
    | [] => throw s!"unrecognized option '--{w}'"
    | first :: rest =>
      if rest.all fun n => n.2 = first.2 then return first
      else
        let shown := (first :: rest).map fun n => s!" '--{n.1}'"
        throw (s!"option '--{w}' is ambiguous; possibilities:" ++ String.join shown)

/-- The options of one letter after the other; the last one may take the next argument. Gives the
options and whether that argument was taken. -/
private def letters (s : OptionSet) (next : Option String) :
    List Char → Except String (List (String × Option String) × Bool)
  | [] => return ([], false)
  | c :: rest =>
    match s.letter? c with
    | none => throw s!"invalid option -- '{c}'"
    | some o =>
      let key := o.names.headD ""
      let attached := if rest.isEmpty then none else some (String.ofList rest)
      match o.value with
      | .none => do
        let (more, taken) ← letters s next rest
        return ((key, none) :: more, taken)
      | .optional => return ([(key, attached)], false)
      | .required =>
        match attached, next with
        | some v, _ => return ([(key, some v)], false)
        | none, some v => return ([(key, some v)], true)
        | none, none => throw s!"option requires an argument -- '{c}'"

/-- An option given by a word, and whether it takes the next argument. -/
private def byWord (s : OptionSet) (next : Option String) (text : List Char) :
    Except String ((String × Option String) × Bool) := do
  let (name, rest) := text.span (· ≠ '=')
  let (full, o) ← s.word? (String.ofList name)
  let key := o.names.headD ""
  match o.value, rest with
  | .none, [] | .optional, [] => return ((key, none), false)
  | .none, _ => throw s!"option '--{full}' doesn't allow an argument"
  | _, _ :: value => return ((key, some (String.ofList value)), false)
  | .required, [] =>
    match next with
    | some v => return ((key, some v), true)
    | none => throw s!"option '--{full}' requires an argument"

/-- The options and operands in arguments, or what is wrong with them. -/
def read (s : OptionSet) : List String → Except String Given
  | [] => return {}
  | a :: rest =>
    let goOn (found : List (String × Option String)) (taken : Bool) : Except String Given := do
      let g ← match taken, rest with
        | true, _ :: rest => read s rest
        | _, rest => read s rest
      return { g with options := found ++ g.options }
    match a.toList with
    | ['-', '-'] => return { operands := rest }
    | '-' :: '-' :: text => do
      let (found, taken) ← s.byWord rest.head? text
      goOn [found] taken
    | '-' :: c :: cs => do
      let (found, taken) ← s.letters rest.head? (c :: cs)
      goOn found taken
    | _ =>
      if s.endsAtOperand then return { operands := a :: rest }
      else do
        let g ← read s rest
        return { g with operands := a :: g.operands }

end OptionSet

/-- A program that is misused: the complaint, and where to find help. -/
def misused (st : Streams) (name complaint : String) (status : Nat) : Acting Nat := do
  emitText st.err (s!"{name}: {complaint}\n" ++ helpHint name)
  return status

/-- A program with options; a misuse gives the status `refused`. -/
def withOptions (name : String) (refused : Nat) (options : List ProgramOption)
    (act : Streams → Given → Acting Nat) : Program := fun st args => do
  match (OptionSet.mk options false).read args with
  | .ok g => act st g
  | .error complaint => misused st name complaint refused

end StepFlow.Shell
