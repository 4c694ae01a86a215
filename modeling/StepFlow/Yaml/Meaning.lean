import StepFlow.Text.Base64
import StepFlow.Text.Case
import StepFlow.Value.Display
import StepFlow.Yaml.Node

/-!
# The meaning of scalars

A scalar becomes null, a truth value, a number, a date or time, bytes or text, as its tag says.

## Main definitions

* `scalarValue` — the value of a scalar by its tag
-/

namespace StepFlow.Yaml

/-! ### Numbers -/

/-- Lift a fault of a numeral. -/
private def numeral {α : Type} (r : Except NumberFault α) : Except Fault α := r.mapError .number

/-- The first character of a scalar that has none. -/
private def noFirst {α : Type} : Except Fault α := throw (.outOfRange "string index out of range")

private def withoutUnderscores (text : String) : List Char := text.toList.filter (· ≠ '_')

/-- The integer that a scalar denotes. -/
def integerOf (text : String) : Except Fault Int := do
  let cs := withoutUnderscores text
  let (negative, body) := splitSign cs
  let n : Int ← match body with
    | [] => noFirst
    | ['0'] => pure 0
    | '0' :: 'b' :: ds => numeral (readIntegerIn 2 ds)
    | '0' :: 'x' :: ds => numeral (readIntegerIn 16 ds)
    | '0' :: _ => numeral (readIntegerIn 8 body)
    | _ =>
      if body.contains ':' then
        return (← (colonParts body).mapM fun part => numeral (readInteger part)).foldl
          (fun acc d => acc * 60 + d) 0 * (if negative then -1 else 1)
      else numeral (readInteger body)
  return if negative then -n else n

/-- The double that places in base 60 denote, least significant first. Every place is rounded, and the
weight of every place has to be a double. -/
def sixtyValue : (sum : Double) → (weight : Int) → List Double → Except Fault Double
  | sum, _, [] => return sum
  | sum, weight, d :: places =>
    match Double.ofInt? weight with
    | some w => sixtyValue (sum.add (d.mul w)) (weight * 60) places
    | none => throw (.number .beyondDouble)

/-- The scalar is the name of what is no number. -/
def namesNoNumber (text : String) : Bool :=
  (splitSign (Text.lowered (withoutUnderscores text))).2 = ".nan".toList

/-- The double that a scalar denotes. -/
def doubleOf (text : String) : Except Fault Double := do
  let cs := Text.lowered (withoutUnderscores text)
  let (negative, body) := splitSign cs
  if cs.isEmpty then noFirst
  else if body = ".nan".toList then return .nan
  else
    let x ←
      if body = ".inf".toList then pure (Double.infinite false)
      else if body.contains ':' then do
        let places ← (colonParts body).mapM fun part => numeral (readDouble part)
        sixtyValue (Double.zero false) 1 places.reverse
      else numeral (readDouble body)
    return if negative then x.neg else x

/-! ### Dates and times -/

/-- A date that exists. -/
def dateOf (year month day : Nat) : Except Fault Date := do
  let d : Date := ⟨year, month, day⟩
  if year = 0 then throw (.calendar "year 0 is out of range")
  if month = 0 || 12 < month then throw (.calendar "month must be in 1..12")
  if d.isValid then return d else throw (.calendar "day is out of range for month")

/-- An offset from UTC of less than a day, in seconds. -/
def offsetOf (minutes : Int) : Except Fault Int :=
  if minutes.natAbs < 1440 then return minutes * 60
  else throw <| .calendar <|
    "offset must be a timedelta strictly between -timedelta(hours=24) and timedelta(hours=24), " ++
      s!"not {Value.spanLiteral (minutes * 60)}."

/-- The date or time that a scalar denotes. -/
def timeOf (text : String) : Except Fault Value := do
  match timestamp? (withoutLineEnd text.toList) with
  | none => throw (.foreign "AttributeError" "no date or time")
  | some t =>
    let month := Timestamp.part t.month
    let day := Timestamp.part t.day
    match t.time with
    | none => return .date (← dateOf t.year month day)
    | some (hour, minute, second) =>
      let offset ← t.ahead.mapM offsetOf
      let date ← dateOf t.year month day
      if 23 < hour then throw (.calendar "hour must be in 0..23")
      if 59 < minute then throw (.calendar "minute must be in 0..59")
      if 59 < second then throw (.calendar "second must be in 0..59")
      let microsecond := Timestamp.part ((t.fraction ++ List.replicate 6 '0').take 6)
      return .time ⟨date, hour, minute, second, microsecond, offset⟩

/-! ### Scalars -/

/-- The value of a scalar by its tag. -/
def scalarValue (tag : Tag) (text : String) : Except Fault Value := do
  match tag with
  | .null => return .null
  | .bool =>
    let word := String.ofList (Text.lowered text.toList)
    match truthWords.find? (·.1 == word) with
    | some (_, b) => return .bool b
    | none => throw (.missingKey (Text.quoted word))
  | .int => return .int (← integerOf text)
  | .float => return .double (← doubleOf text)
  | .binary =>
    if text.toList.all fun c => c.toNat < 128 then
      match Text.Base64.decode? text.toList with
      | some bytes => return .bytes bytes
      | none => malformed
    else malformed
  | .timestamp => timeOf text
  | .str => return .str text
  | .pairs | .set | .seq | .map | .merge | .value | .other _ => malformed

end StepFlow.Yaml
