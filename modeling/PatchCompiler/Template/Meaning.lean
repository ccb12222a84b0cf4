import PatchCompiler.Digest
import PatchCompiler.Template.Basic

/-!
# Meaning of formulas

A formula has a value under given names, or none: a name or a field that is not there is undefined.
What is undefined shows as nothing, counts as false and has no items, but cannot be looked into or
calculated with.
-/

namespace PatchCompiler

inductive Meaning where
  | defined (value : Value)
  | undefined (reason : String)

namespace Meaning

def ofOption (reason : String) : Option Value → Meaning
  | some value => .defined value
  | none => .undefined reason

def isTrue : Meaning → Bool
  | .defined value => value.isTrue
  | .undefined _ => false

def display : Meaning → String
  | .defined value => value.display
  | .undefined _ => ""

def need : Meaning → Except Fault Value
  | .defined value => .ok value
  | .undefined reason => .error (.undefinedValue reason)

def items : Meaning → Except Fault (List Value)
  | .defined value => value.needItems
  | .undefined _ => .ok []

def objectName : Value → String
  | .null => "None"
  | value => s!"{value.kindName} object"

def field (meaning : Meaning) (name : String) : Except Fault Meaning := do
  let value ← meaning.need
  let owner := objectName value
  return ofOption s!"'{owner}' has no attribute '{name}'" (value.field? name)

def equals : Meaning → Meaning → Bool
  | .defined x, .defined y => x.equals y
  | .undefined _, .undefined _ => true
  | _, _ => false

end Meaning

namespace Operation

def toNumber? (value : Value) : Option Binary64 :=
  match value with
  | .real x => some x
  | .int n => Binary64.ofInt? n
  | .bool b => Binary64.ofInt? (Value.ofBool b)
  | _ => none

def refused (sign : String) (x y : Value) : Fault :=
  .badType s!"unsupported operand type(s) for {sign}: '{x.kindName}' and '{y.kindName}'"

def calculated (sign : String) (whole : Int → Int → Int)
    (double : Binary64 → Binary64 → Binary64) (x y : Value) : Except Fault Value :=
  match x.int?, y.int? with
  | some m, some n => .ok (.int (whole m n))
  | _, _ =>
    match toNumber? x, toNumber? y with
    | some a, some b => .ok (.real (double a b))
    | _, _ => .error (refused sign x y)

def sum (x y : Value) : Except Fault Value :=
  match x, y with
  | .text s, .text t => .ok (.text (s ++ t))
  | .text _, other => .error (.badType s!"can only concatenate str (not \"{other.kindName}\") to str")
  | .list xs, .list ys => .ok (.list (xs ++ ys))
  | _, _ => calculated "+" (· + ·) Binary64.add x y

def quotient (x y : Value) : Except Fault Value :=
  match x.int?, y.int? with
  | some m, some n =>
    if n = 0 then .error .divisionByZero
    else .ok (.real (.ofRatio (decide (m < 0) != decide (n < 0)) m.natAbs n.natAbs))
  | _, _ =>
    match toNumber? x, toNumber? y with
    | some a, some b =>
      match a.div? b with
      | some c => .ok (.real c)
      | none => .error .divisionByZero
    | _, _ => .error (refused "/" x y)

def isGreater (x y : Value) : Except Fault Bool :=
  match x, y with
  | .text s, .text t => .ok (decide (t < s))
  | _, _ =>
    if x.isNumber && y.isNumber then .ok (x.compareNumbers y == some .gt)
    else .error (.badType
      s!"'>' not supported between instances of '{x.kindName}' and '{y.kindName}'")

def apply (operation : Operation) (left right : Meaning) : Except Fault Value :=
  match operation with
  | .equal => .ok (.bool (left.equals right))
  | .unequal => .ok (.bool (!left.equals right))
  | .greater => do return .bool (← isGreater (← left.need) (← right.need))
  | .add => do sum (← left.need) (← right.need)
  | .subtract => do calculated "-" (· - ·) Binary64.sub (← left.need) (← right.need)
  | .divide => do quotient (← left.need) (← right.need)
  | .greatest => do
      let m ← (← left.need).toInteger
      let n ← (← right.need).toInteger
      return .int (max m n)

end Operation

namespace Change

def entriesOf (meaning : Meaning) (ability : String) : Except Fault Record := do
  (← meaning.need).needFields ability

def openEntries (entries : Record) : Except Fault Record :=
  entries.filterM fun entry => do return (← entry.2.need "extern").isTrue

def apply (change : Change) (meaning : Meaning) : Except Fault Value :=
  match change with
  | .length =>
    match meaning with
    | .undefined _ => .ok (.int 0)
    | .defined value => do return .int (← value.needLength)
  | .upper => .ok (.text (Text.upper meaning.display))
  | .lower => .ok (.text (Text.lower meaning.display))
  | .capitalized => .ok (.text (Text.capitalized meaning.display))
  | .identifier => .ok (.text ("0x" ++ Digest.short 8 meaning.display))
  | .open => do return .record (← openEntries (← entriesOf meaning "items"))
  | .entries => do
      return .list ((← entriesOf meaning "items").map fun entry => .list [.text entry.1, entry.2])
  | .values => do return .list ((← entriesOf meaning "values").map (·.2))
  | .replace old new => do return .text (Text.replaceText old new (← meaning.need).display)

end Change

def rangeBound (meaning : Meaning) : Except Fault Int :=
  match meaning with
  | .defined value =>
    match value.int? with
    | some n => .ok n
    | none => .error (.badType s!"'{value.kindName}' object cannot be interpreted as an integer")
  | .undefined _ => .error (.badType "'Undefined' object cannot be interpreted as an integer")

def wholeNumbers (first past : Int) : List Value :=
  (List.range (past - first).toNat).map fun (i : Nat) => .int (first + i)

namespace Formula

def meaning (names : Record) : Formula → Except Fault Meaning
  | .text s => .ok (.defined (.text s))
  | .number n => .ok (.defined (.int n))
  | .truth b => .ok (.defined (.bool b))
  | .name s => .ok (.ofOption s!"'{s}' is undefined" (names.get? s))
  | .field formula s => do (← meaning names formula).field s
  | .change c formula => do return .defined (← c.apply (← meaning names formula))
  | .operation o left right => do
      return .defined (← o.apply (← meaning names left) (← meaning names right))
  | .contains s formula => do
      let items ← (← meaning names formula).items
      return .defined (.bool (items.any fun item => item.equals (.text s)))
  | .isDefined formula => do
      match ← meaning names formula with
      | .defined _ => return .defined (.bool true)
      | .undefined _ => return .defined (.bool false)
  | .not formula => do return .defined (.bool (!(← meaning names formula).isTrue))
  | .and left right => do
      let first ← meaning names left
      if first.isTrue then meaning names right else return first
  | .or left right => do
      let first ← meaning names left
      if first.isTrue then return first else meaning names right
  | .choose condition yes no => do
      if (← meaning names condition).isTrue then meaning names yes else meaning names no
  | .range first past => do
      let first ← rangeBound (← meaning names first)
      return .defined (.list (wholeNumbers first (← rangeBound (← meaning names past))))

end Formula

end PatchCompiler
