import StepFlow.Text.Chars

/-!
# Options and operands

How the arguments of a command line are told apart. An argument that begins with a hyphen is an
option if it names one, if the beginning of its name belongs to one option only, or if it is neither a
negative number nor contains a space; all others are operands, and so is everything behind two
hyphens. An option that takes a value has it attached, behind an equals sign, or in the next argument.

Operands are taken in runs: each run between options fills as many of the expected places as it can.

## Main definitions

* `OptionSpec`, `Place`, `Grammar` — what a command line may hold
* `Grammar.read` — what a command line gives
-/

namespace StepFlow.Command

/-- An option by its names. -/
structure OptionSpec where
  names : List String
  /-- What the option is called among the things given. -/
  key : String
  takesValue : Bool
  /-- The values it admits, if not all. -/
  choices : Option (List String) := none
  deriving DecidableEq, Repr, Inhabited

/-- A place for operands. -/
inductive Place where
  | one (key : String)
  /-- An operand that may be missing. -/
  | optional (key : String)
  /-- A word and all that follows it, options included. -/
  | remainder
  deriving DecidableEq, Repr, Inhabited

/-- What a command line may hold. -/
structure Grammar where
  options : List OptionSpec
  places : List Place
  deriving Repr, Inhabited

/-- Why a command line gives nothing. -/
inductive Refusal where
  /-- It asks for help. -/
  | help
  | misuse
  deriving DecidableEq, Repr, Inhabited

/-- What a command line gives. -/
structure Given where
  /-- Options and operands by key, in order; an option without value has the empty text. -/
  values : List (String × String) := []
  remainder : Option (List String) := none
  /-- Arguments that fit nowhere. -/
  extras : List String := []
  deriving Repr, Inhabited

namespace Given

/-- The value given last under a key. -/
def last? (g : Given) (key : String) : Option String :=
  (g.values.reverse.find? (·.1 == key)).map (·.2)

/-- All values given under a key. -/
def all (g : Given) (key : String) : List String :=
  (g.values.filter (·.1 == key)).map (·.2)

def has (g : Given) (key : String) : Bool := (g.last? key).isSome

end Given

/-- The option that asks for help. -/
def helpOption : OptionSpec := ⟨["-h", "--help"], "help", false, none⟩

/-! ### Telling arguments apart -/

/-- An option as it stands in an argument: what it is, under which name, and the value attached. -/
structure OptionUse where
  spec : OptionSpec
  name : String
  attached : Option String
  deriving Repr, Inhabited

/-- An argument. -/
inductive Argument where
  | operand (text : String)
  /-- An option; `none` if no such option is known. -/
  | option (use : Option OptionUse) (text : String)
  /-- Two hyphens, behind which there are no options. -/
  | hyphens
  deriving Repr, Inhabited

namespace Argument

def text : Argument → String
  | operand s | option _ s => s
  | hyphens => "--"

def isOption : Argument → Bool
  | option .. => true
  | _ => false

def isHyphens : Argument → Bool
  | hyphens => true
  | _ => false

end Argument

namespace Grammar

/-- Every name of every option. -/
def names (g : Grammar) : List (String × OptionSpec) :=
  g.options.flatMap fun o => o.names.map (·, o)

/-- The option of a given name. -/
def find? (g : Grammar) (name : String) : Option OptionSpec :=
  (g.names.find? (·.1 == name)).map (·.2)

/-- The options that an argument may stand for by the beginning of a name, or by a short name and an
attached value. -/
def candidates (g : Grammar) (cs : List Char) : List OptionUse :=
  match cs with
  | '-' :: '-' :: _ =>
    let (start, value) := cs.span (· ≠ '=')
    let attached := match value with
      | [] => none
      | _ :: v => some (String.ofList v)
    g.names.filterMap fun (name, spec) =>
      if start.isPrefixOf name.toList then some ⟨spec, name, attached⟩ else none
  | _ =>
    g.names.filterMap fun (name, spec) =>
      if name.toList = cs.take 2 then some ⟨spec, name, some (String.ofList (cs.drop 2))⟩
      else if cs.isPrefixOf name.toList then some ⟨spec, name, none⟩
      else none

/-- A negative number: digits with at most one point among or before them. -/
def isNegativeNumber (cs : List Char) : Bool :=
  match cs with
  | '-' :: rest =>
    let rest := if rest.getLast? = some '\n' then rest.dropLast else rest
    let (whole, fraction) := rest.span (· ≠ '.')
    whole.all Text.isDecimal && match fraction with
      | [] => !whole.isEmpty
      | _ :: digits => !digits.isEmpty && digits.all Text.isDecimal
  | _ => false

/-- What an argument is. -/
def classify (g : Grammar) (s : String) : Except Refusal Argument :=
  let cs := s.toList
  if cs.head? ≠ some '-' then return .operand s
  else match g.find? s with
    | some spec => return .option (some ⟨spec, s, none⟩) s
    | none =>
      if cs.length = 1 then return .operand s
      else
        let (name, value) := cs.span (· ≠ '=')
        match value, g.find? (String.ofList name) with
        | _ :: v, some spec =>
          return .option (some ⟨spec, String.ofList name, some (String.ofList v)⟩) s
        | _, _ =>
          match g.candidates cs with
          | [use] => return .option (some use) s
          | _ :: _ :: _ => throw .misuse
          | [] =>
            if isNegativeNumber cs || cs.contains ' ' then return .operand s
            else return .option none s

/-- What the arguments are. -/
def classifyAll (g : Grammar) : List String → Except Refusal (List Argument)
  | [] => return []
  | "--" :: rest => return .hyphens :: rest.map .operand
  | s :: rest => do
    let a ← g.classify s
    return a :: (← classifyAll g rest)

/-! ### Options -/

/-- Take note of an option and its value. -/
def take (given : Given) (spec : OptionSpec) (value : String) : Except Refusal Given :=
  if spec.key = helpOption.key then throw .help
  else if (spec.choices.map (·.contains value)).getD true then
    return { given with values := given.values ++ [(spec.key, value)] }
  else throw .misuse

/-- The options in one argument with their values, and the arguments behind it. Short options without
values may stand together behind one hyphen; all of them have to be known. -/
def uses (g : Grammar) : (fuel : Nat) → OptionUse → List Argument →
    Except Refusal (List (OptionSpec × String) × List Argument)
  | 0, _, _ => throw .misuse
  | fuel + 1, use, rest =>
    match use.attached with
    | none =>
      if use.spec.takesValue then
        match rest with
        | .operand s :: rest => return ([(use.spec, s)], rest)
        | _ => throw .misuse
      else return ([(use.spec, "")], rest)
    | some value =>
      if use.spec.takesValue then return ([(use.spec, value)], rest)
      else if "--".toList.isPrefixOf use.name.toList then throw .misuse
      else match value.toList with
        | [] => throw .misuse
        | c :: cs =>
          let name := String.ofList ['-', c]
          match g.find? name with
          | none => throw .misuse
          | some spec => do
            let attached := if cs.isEmpty then none else some (String.ofList cs)
            let (more, rest) ← uses g fuel ⟨spec, name, attached⟩ rest
            return ((use.spec, "") :: more, rest)

/-- Read the option in an argument. -/
def readOption (g : Grammar) (given : Given) (use : Option OptionUse) (text : String)
    (rest : List Argument) : Except Refusal (Given × List Argument) := do
  match use with
  | none => return ({ given with extras := given.extras ++ [text] }, rest)
  | some use =>
    let (found, rest) ← g.uses (text.length + 1) use rest
    return (← found.foldlM (fun acc f => take acc f.1 f.2) given, rest)

/-! ### Operands -/

/-- The arguments at the beginning that fill a place with one operand, or with at most one, and those
behind them. Two hyphens may stand around the operand. -/
private def takeOperand (optional : Bool) (as : List Argument) :
    Option (List String × List Argument) :=
  let (before, rest) := as.span Argument.isHyphens
  match rest with
  | .operand s :: rest =>
    let (behind, rest) := rest.span Argument.isHyphens
    some ((before ++ .operand s :: behind).map Argument.text, rest)
  | rest => if optional then some (before.map Argument.text, rest) else none

/-- Fill as many places as a run of operands can. -/
def fill (given : Given) : List Place → List Argument → Given × List Place × List Argument
  | [], as => (given, [], as)
  | .one key :: places, as =>
    match takeOperand false as with
    | some (texts, rest) =>
      let value := (texts.erase "--").headD ""
      fill { given with values := given.values ++ [(key, value)] } places rest
    | none => (given, .one key :: places, as)
  | .optional key :: places, as =>
    match takeOperand true as with
    | some (texts, rest) =>
      let values := (texts.erase "--").map (key, ·)
      fill { given with values := given.values ++ values } places rest
    | none => (given, .optional key :: places, as)
  | .remainder :: places, as =>
    match as.dropWhile Argument.isHyphens with
    | .operand _ :: _ =>
      fill { given with remainder := some (as.map Argument.text) } places []
    | _ => (given, .remainder :: places, as)

/-! ### Command lines -/

/-- Read arguments. Every step but one passes over an argument. -/
def readArguments (g : Grammar) : (fuel : Nat) → Given → List Place → List Argument →
    Except Refusal (Given × List Place)
  | 0, _, _, _ => throw .misuse
  | fuel + 1, given, places, as =>
    if as.any Argument.isOption then
      match as with
      | .option use text :: rest => do
        let (given, rest) ← g.readOption given use text rest
        readArguments g fuel given places rest
      | as =>
        let (given, places, rest) := fill given places as
        if rest.length < as.length then readArguments g fuel given places rest
        else
          let (extras, rest) := rest.span (!Argument.isOption ·)
          readArguments g fuel { given with extras := given.extras ++ extras.map Argument.text }
            places rest
    else
      let (given, places, rest) := fill given places as
      return ({ given with extras := given.extras ++ rest.map Argument.text }, places)

/-- A place that has to be filled. -/
def isRequired : Place → Bool
  | .one _ => true
  | _ => false

/-- What a command line gives; every required place has to be filled. -/
def read (g : Grammar) (args : List String) : Except Refusal Given := do
  let as ← g.classifyAll args
  let (given, places) ← g.readArguments (2 * as.length + 2) {} g.places as
  if places.any isRequired then throw .misuse else return given

end Grammar

end StepFlow.Command
