import PatchCompiler.Fault
import PatchCompiler.Number.Reader
import PatchCompiler.Text.Case

/-!
# Argument types

Every argument of an object has a declared type, and a value given for it is converted to that
type. The patch language and the graph language differ in a few conversions and in how they
complain, so `Convert` has a setting for each.
-/

namespace PatchCompiler

namespace Value

def kindName : Value → String
  | .null => "NoneType"
  | .bool _ => "bool"
  | .int _ => "int"
  | .real _ => "float"
  | .text _ | .object _ => "str"
  | .list _ => "list"
  | .record _ => "dict"

def toDouble : Value → Except Fault Binary64
  | .real x => .ok x
  | .bool b => .ok (if b then .ofRatio false 1 1 else .zero)
  | .int n =>
    match Binary64.ofInt? n with
    | some x => .ok x
    | none => .error (.overflow "int too large to convert to float")
  | .text s =>
    match readDouble? s with
    | some x => .ok x
    | none => .error (.badValue ("could not convert string to float: " ++ Text.quoted s))
  | .object _ => .error (.badValue "could not convert string to float: '#'")
  | v => .error (.badType
      ("float() argument must be a string or a real number, not '" ++ v.kindName ++ "'"))

/-- The most digits that the text of an integer can have. -/
def greatestLength : Nat := 4300

def integerOfText (s : String) : Except Fault Int :=
  match readInt? s with
  | some n =>
    let digits := s.toList.countP Text.isDecimal
    if digits ≤ greatestLength then .ok n
    else .error (.badValue (s!"Exceeds the limit ({greatestLength} digits) for integer string " ++
      s!"conversion: value has {digits} digits; use sys.set_int_max_str_digits() to increase " ++
      "the limit"))
  | none =>
    let shown := String.ofList ((Text.quoted s).toList.take 200)
    .error (.badValue ("invalid literal for int() with base 10: " ++ shown))

def toInteger : Value → Except Fault Int
  | .int n => .ok n
  | .bool b => .ok (ofBool b)
  | .real x =>
    match x with
    | .nan => .error (.badValue "cannot convert float NaN to integer")
    | .infinite _ => .error (.overflow "cannot convert float infinity to integer")
    | .finite negative mantissa exponent =>
      .ok (((Binary64.finite negative mantissa exponent).truncate?).getD 0)
  | .text s => integerOfText s
  | .object _ => .error (.badValue "invalid literal for int() with base 10: '#'")
  | v => .error (.badType
      ("int() argument must be a string, a bytes-like object or a real number, not '" ++
        v.kindName ++ "'"))

def wordOf (word : String) (n : Int) : Except Fault Int :=
  if -(Nat.pow 2 63 : Nat) ≤ n && n < (Nat.pow 2 63 : Nat) then .ok n
  else .error (.overflow ("Python int too large to convert to C " ++ word))

def signPart (value : Value) : Except Fault Bool := do
  let refused := Fault.badValue "sign must be an integer with the value 0 or 1"
  match value.int? with
  | none => throw refused
  | some n =>
    match ← wordOf "long" n with
    | 0 => return false
    | 1 => return true
    | _ => throw refused

/-- What the last part of a decimal number makes of its digits: the last part is an exponent, or a
letter for infinity or for a number that is none. -/
def exponentPart (negative : Bool) (value : Value) : Except Fault (Nat → Decimal) := do
  match value with
  | .text "F" => return fun _ => .infinite negative
  | .text "n" | .text "N" => return fun _ => .nan
  | .text _ | .object _ =>
    throw (.badValue "string argument in the third position must be 'F', 'n' or 'N'")
  | value =>
    match value.int? with
    | none => throw (.badValue "exponent must be an integer")
    | some n =>
      let exponent ← wordOf "ssize_t" n
      return fun digits => .finite negative digits exponent

def notDigits : Fault := .badValue "coefficient must be a tuple of digits"

def digitPart (value : Value) : Except Fault Nat := do
  match value.int? with
  | none => throw notDigits
  | some n =>
    let digit ← wordOf "long" n
    if 0 ≤ digit && digit ≤ 9 then return digit.toNat else throw notDigits

def digitsPart (value : Value) : Except Fault Nat := do
  match value with
  | .list items => return (← items.mapM digitPart).foldl (fun all digit => 10 * all + digit) 0
  | _ => throw notDigits

/-- A decimal number that is given by its sign, its digits and its exponent. -/
def decimalOfParts : List Value → Except Fault Decimal
  | [sign, digits, exponent] => do
      let negative ← signPart sign
      let make ← exponentPart negative exponent
      return make (← digitsPart digits)
  | _ => .error (.badValue "argument must be a sequence of length 3")

def integerPart (d : Decimal) : Except Fault Int :=
  if !d.isInRange then .error (.badDecimal .outOfRange)
  else
    match d with
    | .nan => .error (.badValue "cannot convert NaN to integer")
    | .infinite _ => .error (.overflow "cannot convert Infinity to integer")
    | d => .ok (d.truncate?.getD 0)

def decimalInteger : Value → Except Fault Int
  | .int n => .ok n
  | .bool b => .ok (ofBool b)
  | .real .nan => .error (.badValue "cannot convert NaN to integer")
  | .real (.infinite _) => .error (.overflow "cannot convert Infinity to integer")
  | .real x => .ok (x.truncate?.getD 0)
  | .text s =>
    match readDecimal? s with
    | none => .error (.badDecimal .malformed)
    | some d => integerPart d
  | .object _ => .error (.badDecimal .malformed)
  | .list items => (decimalOfParts items).bind integerPart
  | v => .error (.badType ("conversion from " ++ v.kindName ++ " to Decimal is not supported"))

end Value

/-- The declared type of an argument. A type of any other name leaves the value as it is. -/
inductive ArgumentType where
  | auto
  | float
  | int
  | string
  | boolean
  | floatArray
  | intArray
  | stringArray
  | other (name : String)
  deriving DecidableEq, Repr

namespace ArgumentType

def name : ArgumentType → String
  | .auto => "auto"
  | .float => "float"
  | .int => "int"
  | .string => "string"
  | .boolean => "boolean"
  | .floatArray => "floatarray"
  | .intArray => "intarray"
  | .stringArray => "stringarray"
  | .other name => name

def named : List ArgumentType :=
  [.auto, .float, .int, .string, .boolean, .floatArray, .intArray, .stringArray]

def ofName (s : String) : ArgumentType :=
  (named.find? fun type => type.name == s).getD (.other s)

end ArgumentType

/-- Which language an argument belongs to. -/
inductive Dialect where
  | patch
  | graph
  deriving DecidableEq, Repr

def notAnArray (dialect : Dialect) (type : ArgumentType) (value : Value) : Fault :=
  let reason := "Cannot convert value to type " ++ type.name ++ ": " ++ value.display
  match dialect with
  | .patch => .failed reason
  | .graph => .rejected reason

def arrayItems (dialect : Dialect) (type : ArgumentType) : Value → Except Fault (List Value)
  | .list items => .ok items
  | .text s => .ok ((Text.wordTexts s).map .text)
  | value => .error (notAnArray dialect type value)

def isFalseWord (s : String) : Bool :=
  ["false", "f", "0"].contains (Text.lower (Text.stripText s))

def convertArgument (dialect : Dialect) (type : ArgumentType) (value : Value) :
    Except Fault Value :=
  match type with
  | .auto =>
    match dialect with
    | .graph => .ok value
    | .patch =>
      match value.toDouble with
      | .ok x => .ok (.real x)
      | .error _ => .ok (.text value.display)
  | .float =>
    match value.toDouble, dialect with
    | .ok x, _ => .ok (.real x)
    | .error fault, .patch => .error fault
    | .error _, .graph =>
      .error (.failed ("Cannot convert argument \"" ++ value.display ++ "\" into float."))
  | .int => value.decimalInteger.map .int
  | .string =>
    match value, dialect with
    | .null, .graph => .ok .null
    | _, _ => .ok (.text value.display)
  | .boolean =>
    match value with
    | .text s => .ok (.bool (!isFalseWord s))
    | _ => .ok (.bool value.isTrue)
  | .floatArray => do
      let items ← arrayItems dialect type value
      let numbers ← items.mapM Value.toDouble
      pure (.list (numbers.map .real))
  | .intArray => do
      let items ← arrayItems dialect type value
      let numbers ← items.mapM Value.toInteger
      pure (.list (numbers.map .int))
  | .stringArray => do
      let items ← arrayItems dialect type value
      pure (.list (items.map fun item => .text item.display))
  | .other _ => .ok value

end PatchCompiler
