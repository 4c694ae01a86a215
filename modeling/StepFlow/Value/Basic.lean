import StepFlow.Fault
import StepFlow.Failure.Action
import StepFlow.Time.Calendar

/-!
# Values

The dynamic values that documents, variables and error records hold: scalars, lists and ordered
mappings. Mapping keys are values too. Two keys are the same when they are equal as numbers or have
the same kind and content, so that `1`, `1.0` and `true` are one key; a mapping keeps the position
and the key of the first entry and the value of the last.

Texts are strings of characters, and half of a surrogate pair is no character. JSON may write such
halves all the same. A text that they stand in is a value of its own, a `RoughText`.

A document may put a collection into itself. Such a collection is a `knot`: its body, in which `loop`
stands for the whole. `Value.opened` goes one step around the loop.

## Main definitions

* `Value`
* `RoughText` — a text with halves of surrogate pairs in it
* `Value.sameKey`, `Value.lookup?`, `Value.insert`, `Value.mapOf` — mappings as lists of entries
* `Value.opened` — a collection whose elements can be looked at
* `Value.isTruthy` — all but null, false, zero and what is empty
* `Value.kind` — the name of a value's kind, as messages give it
-/

namespace StepFlow

/-- The number of half a surrogate pair. -/
def isHalf (n : Nat) : Bool := 0xd800 ≤ n && n ≤ 0xdfff

/-- A text in which halves of surrogate pairs stand by themselves, as the numbers of its characters. -/
structure RoughText where
  points : List Nat
  rough : points.any isHalf
  deriving DecidableEq, Repr

/-- The text with a replacement character for each half. -/
def RoughText.smoothed (t : RoughText) : String :=
  String.ofList (t.points.map fun n => if isHalf n then '\ufffd' else Char.ofNat n)

/-- A dynamic value. -/
inductive Value where
  | null
  | bool (b : Bool)
  | int (n : Int)
  | double (x : Double)
  | str (s : String)
  | list (items : List Value)
  | map (entries : List (Value × Value))
  | date (d : Date)
  | time (t : DateTime)
  | bytes (bs : List UInt8)
  /-- A row of fixed length, such as a key with its value. -/
  | tuple (items : List Value)
  | set (items : List Value)
  /-- A collection that holds itself where the body has a `loop` with the same mark. -/
  | knot (mark : Nat) (body : Value)
  | loop (mark : Nat)
  /-- A failure policy in normal form, where a workflow is built without a document. -/
  | action (a : FailureAction)
  | rough (t : RoughText)
  deriving Repr, Inhabited

namespace Value

/-! ### Kinds -/

/-- The name of a value's kind. -/
def kind : Value → String
  | null => "NoneType"
  | bool _ => "bool"
  | int _ => "int"
  | double _ => "float"
  | str _ | rough _ => "str"
  | list _ => "list"
  | map _ => "dict"
  | date _ => "date"
  | time _ => "datetime"
  | bytes _ => "bytes"
  | tuple _ => "tuple"
  | set _ => "set"
  | knot _ body => kind body
  | loop _ => "dict"
  | action .proceed => "Continue"
  | action .stop => "Stop"
  | action (.retry ..) => "Retry"

/-- A value that counts as present and non-empty. -/
def isTruthy : Value → Bool
  | null => false
  | bool b => b
  | int n => n != 0
  | double x => !x.isZero
  | str s => s != ""
  | list xs => !xs.isEmpty
  | map kvs => !kvs.isEmpty
  | bytes bs => !bs.isEmpty
  | tuple xs | set xs => !xs.isEmpty
  | knot _ body => isTruthy body
  | date _ | time _ | loop _ | action _ | rough _ => true

/-- A value that may be the key of a mapping. -/
def isKey : Value → Bool
  | list _ | map _ | set _ | knot .. | loop _ => false
  | _ => true

/-- A value that may be looked for in a set: one that may be a key, or a set, which is looked for as a
whole. -/
def isSearchable : Value → Bool
  | set _ => true
  | v => v.isKey

/-! ### Collections that hold themselves -/

mutual

/-- Put a value in place of the loops with a mark. -/
def close (mark : Nat) (whole : Value) : Value → Value
  | loop m => if m = mark then whole else loop m
  | knot m body => if m = mark then knot m body else knot m (close mark whole body)
  | list xs => list (closeAll mark whole xs)
  | tuple xs => tuple (closeAll mark whole xs)
  | map kvs => map (closeEntries mark whole kvs)
  | v => v

def closeAll (mark : Nat) (whole : Value) : List Value → List Value
  | [] => []
  | x :: xs => close mark whole x :: closeAll mark whole xs

def closeEntries (mark : Nat) (whole : Value) : List (Value × Value) → List (Value × Value)
  | [] => []
  | (k, v) :: kvs => (k, close mark whole v) :: closeEntries mark whole kvs

end

/-- The value itself, or the body of a knot with the knot in place of its loops. -/
def opened : Value → Value
  | knot mark body => close mark (knot mark body) body
  | v => v

/-! ### Numbers -/

/-- The integer that a Boolean or an integer stands for. -/
def integer? : Value → Option Int
  | bool b => some (if b then 1 else 0)
  | int n => some n
  | _ => none

/-- Exact comparison of two numbers, if both values are numbers. -/
def compareNumbers? (x y : Value) : Option Ordering :=
  match x, y with
  | double a, double b => a.compare? b
  | double a, y => y.integer?.bind a.compareInt?
  | x, double b => x.integer?.bind fun n => (b.compareInt? n).map Ordering.swap
  | x, y => do
    let a ← x.integer?
    let b ← y.integer?
    return compare a b

/-! ### Mappings -/

/-- Two values are the same key. -/
def sameKey (x y : Value) : Bool :=
  match x, y with
  | null, null => true
  | str a, str b => a == b
  | date a, date b => a == b
  | time a, time b => a.sameTime b
  | bytes a, bytes b => a == b
  | action a, action b => a == b
  | rough a, rough b => a == b
  | x, y => x.compareNumbers? y == some .eq

/-- The value of the first entry with a given key. -/
def find? (key : Value) : List (Value × Value) → Option Value
  | [] => none
  | (k, v) :: rest => if k.sameKey key then some v else find? key rest

/-- The value under a text key. -/
def lookup? (key : String) (entries : List (Value × Value)) : Option Value :=
  find? (.str key) entries

/-- The value under a text key, null when there is none. -/
def lookup (key : String) (entries : List (Value × Value)) : Value :=
  (lookup? key entries).getD null

/-- Put a value under a key: in the place of the entry with that key, or at the end. -/
def insert (key value : Value) : List (Value × Value) → List (Value × Value)
  | [] => [(key, value)]
  | (k, v) :: rest => if k.sameKey key then (k, value) :: rest else (k, v) :: insert key value rest

/-- The mapping with the given entries, of which a later one overrides an earlier. -/
def entriesOf (entries : List (Value × Value)) : List (Value × Value) :=
  entries.foldl (fun acc e => insert e.1 e.2 acc) []

/-- The text whose characters have the given numbers. -/
def ofPoints (points : List Nat) : Value :=
  if h : points.any isHalf then .rough ⟨points, h⟩
  else .str (String.ofList (points.map Char.ofNat))

/-- The mapping with the given text keys. -/
def ofFields (fields : List (String × Value)) : Value :=
  .map (fields.map fun f => (.str f.1, f.2))

end Value

end StepFlow
