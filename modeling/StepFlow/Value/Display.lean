import StepFlow.Value.Basic

/-!
# The text of values

Every value has a text and a literal. They differ for strings, which are their own text and have a
quoted literal, and for dates and times. The elements of lists and mappings show as literals. A
collection shows as an ellipsis between its brackets where it comes again inside itself.

A text with halves of surrogate pairs is shown with replacement characters, its literal with escapes.

An integer of more than `digitLimit` digits has neither, nor has anything that contains one. Nor has
a value whose collections lie more than `nestingLimit` deep in one another.
-/

namespace StepFlow

/-- The decimal text of an integer. -/
def integerText (n : Int) : Except NumberFault String :=
  if tenTo digitLimit ≤ n.natAbs then throw .tooLongToWrite
  else return String.ofList ((if n < 0 then ['-'] else []) ++ decimalDigits n.natAbs)

namespace Value

open Text (quoted)

/-! ### Literals of scalars -/

/-- `datetime.date(2025, 1, 2)`. -/
def dateLiteral (d : Date) : String :=
  s!"datetime.date({d.year}, {d.month}, {d.day})"

/-- A span of seconds as whole days and the seconds beyond them. -/
def spanLiteral (seconds : Int) : String :=
  let days := seconds.fdiv 86400
  let rest := seconds.fmod 86400
  let parts := (if days = 0 then [] else [s!"days={days}"])
    ++ (if rest = 0 then [] else [s!"seconds={rest}"])
  if parts.isEmpty then "datetime.timedelta(0)"
  else "datetime.timedelta(" ++ ", ".intercalate parts ++ ")"

/-- The literal of a date and time: seconds and microseconds stand only if they or what follows them
is not zero. -/
def timeLiteral (t : DateTime) : String :=
  let fields := [t.date.year, t.date.month, t.date.day, t.hour, t.minute]
    ++ (if t.second = 0 && t.microsecond = 0 then [] else [t.second])
    ++ (if t.microsecond = 0 then [] else [t.microsecond])
  let zone := match t.offset with
    | none => ""
    | some 0 => ", tzinfo=datetime.timezone.utc"
    | some s => ", tzinfo=datetime.timezone(" ++ spanLiteral s ++ ")"
  "datetime.datetime(" ++ ", ".intercalate (fields.map toString) ++ zone ++ ")"

def doubleLiteral (x : Double) : String := x.text

/-- The literal of a text with halves of surrogate pairs, which show as escapes. -/
def roughLiteral (t : RoughText) : String :=
  let q := Text.Quoted.quoteFor ((t.points.filter (!isHalf ·)).map Char.ofNat)
  let shown (n : Nat) : List Char :=
    if isHalf n then '\\' :: 'u' :: Text.hexDigits 4 n else Text.Quoted.escapeChar q (Char.ofNat n)
  String.ofList (q :: (t.points.flatMap shown ++ [q]))

/-- The literal of a retry target. -/
def targetLiteral : RetryTarget → Except NumberFault String
  | .index n => integerText n
  | .name s => return quoted s

def actionLiteral : FailureAction → Except NumberFault String
  | .proceed => return "Continue()"
  | .stop => return "Stop()"
  | .retry target retries delay => do
    let t ← targetLiteral target
    let r ← integerText retries
    let d ← integerText delay
    return "Retry(target=" ++ t ++ ", max_retries=" ++ r ++ ", delay_ms=" ++ d ++ ")"

/-! ### Literals and texts -/

/-- What stands for a collection inside itself. -/
def ellipsis : Value → String
  | list _ => "[...]"
  | tuple _ => "(...)"
  | _ => "\x7b...\x7d"

mutual

/-- The literal of a value that lies `depth` collections deep. `around` has the ellipses of the knots
that it lies in. -/
def literalIn (around : List (Nat × String)) (depth : Nat) : Value → Except Fault String
  | null => return "None"
  | bool b => return if b then "True" else "False"
  | int n => (integerText n).mapError .number
  | double x => return doubleLiteral x
  | str s => return quoted s
  | date d => return dateLiteral d
  | time t => return timeLiteral t
  | bytes bs => return String.ofList (Text.Quoted.encodeBytes bs)
  | action a => (actionLiteral a).mapError .number
  | rough t => return roughLiteral t
  | list xs => do
    requireRoom nestingLimit depth
    return "[" ++ ", ".intercalate (← literals around (depth + 1) xs) ++ "]"
  | tuple xs => do
    requireRoom nestingLimit depth
    let parts ← literals around (depth + 1) xs
    return "(" ++ ", ".intercalate parts ++ (if parts.length = 1 then ",)" else ")")
  | set xs => do
    requireRoom nestingLimit depth
    if xs.isEmpty then return "set()"
    else return "\x7b" ++ ", ".intercalate (← literals around (depth + 1) xs) ++ "\x7d"
  | map kvs => do
    requireRoom nestingLimit depth
    return "\x7b" ++ ", ".intercalate (← entryLiterals around (depth + 1) kvs) ++ "\x7d"
  | knot mark body =>
    match around.find? (·.1 = mark) with
    | some (_, shown) => return shown
    | none => literalIn ((mark, body.ellipsis) :: around) depth body
  | loop mark => return ((around.find? (·.1 = mark)).map (·.2)).getD "..."

/-- The literals of the elements of a list. -/
def literals (around : List (Nat × String)) (depth : Nat) :
    List Value → Except Fault (List String)
  | [] => return []
  | x :: xs => return (← literalIn around depth x) :: (← literals around depth xs)

/-- The literals of the entries of a mapping. -/
def entryLiterals (around : List (Nat × String)) (depth : Nat) :
    List (Value × Value) → Except Fault (List String)
  | [] => return []
  | (k, v) :: kvs =>
    return ((← literalIn around depth k) ++ ": " ++ (← literalIn around depth v))
      :: (← entryLiterals around depth kvs)

end

/-- The literal of a value. -/
def literal (v : Value) : Except Fault String := literalIn [] 0 v

/-- The text of a value. -/
def text : Value → Except Fault String
  | str s => return s
  | date d => return d.iso
  | time t => return t.textWith " "
  | rough t => return t.smoothed
  | v => literal v

end Value

end StepFlow
