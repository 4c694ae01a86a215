import StepFlow.Number.Double

/-!
# Functions of analysis

Roots, powers, exponentials and angles of double-precision numbers. They are those of the machine: a
number is handed to it bit by bit and its answer is taken back the same way.

## Main definitions

* `Double.toFloat`, `Double.ofFloat`
* `Double.squareRoot`, `raised`, `exp`, `logarithm`, `sine`, `cosine`, `arcTangent`
-/

namespace StepFlow.Double

/-- The bits of the fraction of a double. -/
private def fractionBits : Nat := twoTo 52

/-- A double as the machine has it. -/
def toFloat : Double → Float
  | nan => 0.0 / 0.0
  | infinite s => if s then -1.0 / 0.0 else 1.0 / 0.0
  | finite s m e =>
    let sign := if s then twoTo 63 else 0
    let exponent := if m < fractionBits then 0 else (e + 1075).toNat * fractionBits
    Float.ofBits (UInt64.ofNat (sign + exponent + m % fractionBits))

/-- The machine's double as a value. -/
def ofFloat (x : Float) : Double :=
  let bits := x.toBits.toNat
  let s := twoTo 63 ≤ bits
  let exponent := bits / fractionBits % 2048
  let fraction := bits % fractionBits
  if exponent = 2047 then if fraction = 0 then infinite s else nan
  else if exponent = 0 then finite s fraction minExponent
  else finite s (fraction + fractionBits) ((exponent : Int) - 1075)

private def through (f : Float → Float) (x : Double) : Double := ofFloat (f x.toFloat)

def squareRoot : Double → Double := through Float.sqrt

def exp : Double → Double := through Float.exp

/-- The natural logarithm. -/
def logarithm : Double → Double := through Float.log

def sine : Double → Double := through Float.sin

def cosine : Double → Double := through Float.cos

/-- A number to the power of another one. -/
def raised (x y : Double) : Double := ofFloat (Float.pow x.toFloat y.toFloat)

/-- The angle of a point, given by its height and its distance to the side. -/
def arcTangent (y x : Double) : Double := ofFloat (Float.atan2 y.toFloat x.toFloat)

end StepFlow.Double
