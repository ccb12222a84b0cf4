import PatchCompiler.Value.Access
import PatchCompiler.Value.Field

/-!
# Patterns

Texts with named holes between braces. A brace that is written twice stands for itself. A hole may
look into the value of its name, and it may say how the value is shown. What is wrong with a
pattern is found when the holes before it are filled.
-/

namespace PatchCompiler

namespace Pattern

inductive Part where
  | text (s : String)
  /-- The value that `path` leads to, shown in a format. -/
  | hole (path : String) (conversion : Option Char) (format : String)
  | broken (reason : String)
  deriving DecidableEq, Repr

/-- Where reading stands. Texts read so far are in reverse. -/
inductive Reading where
  | text
  | path (read : List Char) (isIndex : Bool)
  | conversion (path : String)
  | converted (path : String) (conversion : Char)
  /-- In a format, inside of `depth` holes of its own. -/
  | format (path : String) (conversion : Option Char) (read : List Char) (depth : Nat)

def textOf (reversed : List Char) : String :=
  String.ofList reversed.reverse

def ending : Reading → List Part
  | .text => []
  | .path _ _ => [.broken "expected '\x7d' before end of string"]
  | .conversion _ => [.broken "end of string while looking for conversion specifier"]
  | .converted _ _ | .format _ _ _ _ => [.broken "unmatched '\x7b' in format spec"]

def parts (reading : Reading) : List Char → List Part
  | [] => ending reading
  | c :: rest =>
    match reading with
    | .text =>
      if c = '\x7b' ∨ c = '\x7d' then
        match rest with
        | d :: rest =>
          if c = d then .text (String.singleton c) :: parts .text rest
          else if c = '\x7d' then [.broken "Single '\x7d' encountered in format string"]
          else
            match d with
            | '\x7d' => .hole "" none "" :: parts .text rest
            | ':' => parts (.format "" none [] 0) rest
            | '!' => parts (.conversion "") rest
            | '[' => parts (.path ['['] true) rest
            | d => parts (.path [d] false) rest
        | [] => [.broken s!"Single '{c}' encountered in format string"]
      else .text (String.singleton c) :: parts .text rest
    | .path read true => parts (.path (c :: read) (c != ']')) rest
    | .path read false =>
      match c with
      | '\x7b' => [.broken "unexpected '\x7b' in field name"]
      | '\x7d' => .hole (textOf read) none "" :: parts .text rest
      | ':' => parts (.format (textOf read) none [] 0) rest
      | '!' => parts (.conversion (textOf read)) rest
      | c => parts (.path (c :: read) (c == '[')) rest
    | .conversion path => parts (.converted path c) rest
    | .converted path conversion =>
      match c with
      | '\x7d' => .hole path (some conversion) "" :: parts .text rest
      | ':' => parts (.format path (some conversion) [] 0) rest
      | _ => [.broken "expected ':' after conversion specifier"]
    | .format path conversion read depth =>
      match c, depth with
      | '\x7d', 0 => .hole path conversion (textOf read) :: parts .text rest
      | '\x7d', depth + 1 => parts (.format path conversion (c :: read) depth) rest
      | '\x7b', depth => parts (.format path conversion (c :: read) (depth + 1)) rest
      | c, depth => parts (.format path conversion (c :: read) depth) rest

inductive Step where
  | member (name : String)
  | item (name : String)
  | broken (reason : String)
  deriving DecidableEq, Repr

def step (make : String → Step) (read : List Char) : Step :=
  if read.isEmpty then .broken "Empty attribute in format string" else make (textOf read)

/-- The steps of a path. `read` is the name read so far, in reverse, of a member or of an item. -/
def steps (read : Option (Bool × List Char)) : List Char → List Step
  | [] =>
    match read with
    | none => []
    | some (true, name) => [step .member name]
    | some (false, _) => [.broken "Missing ']' in format string"]
  | c :: rest =>
    match read with
    | none =>
      if c = '.' then steps (some (true, [])) rest
      else if c = '[' then steps (some (false, [])) rest
      else [.broken "Only '.' or '[' may follow ']' in format field specifier"]
    | some (true, name) =>
      if c = '.' ∨ c = '[' then step .member name :: steps (some (c == '.', [])) rest
      else steps (some (true, c :: name)) rest
    | some (false, name) =>
      if c = ']' then step .item name :: steps none rest
      else steps (some (false, c :: name)) rest

/-- The whole number that a name consists of, if it does. -/
def index? (name : String) : Except Fault (Option Nat) :=
  match FieldFormat.leadingNumber name.toList with
  | (some n, []) =>
    if n < Nat.pow 2 63 then .ok (some n)
    else .error (.badValue "Too many decimal digits in format string")
  | _ => .ok none

def Step.take (value : Value) : Step → Except Fault Value
  | .broken reason => .error (.badValue reason)
  | .member name => .error (.noMember s!"'{value.kindName}' object has no attribute '{name}'")
  | .item name => do
      match ← index? name with
      | some n => value.needItem n
      | none => value.need name

def followed (fields : Record) (path : String) : Except Fault Value := do
  let isName := fun (c : Char) => c != '.' && c != '['
  let first := String.ofList (path.toList.takeWhile isName)
  if first.isEmpty || (← index? first).isSome then
    throw (.badValue "Format string contains positional fields")
  let value ← (Value.record fields).need first
  (steps none (path.toList.dropWhile isName)).foldlM Step.take value

/-- The text of a value in quotes and the like, as a conversion says. -/
def converted (value : Value) : Option Char → Except Fault Value
  | none => .ok value
  | some 's' => .ok (.text value.display)
  | some 'r' => .ok (.text value.inner)
  | some 'a' => .ok (.text (Text.escaped value.inner))
  | some c =>
    let name := if 32 < c.toNat && c.toNat < 127 then String.singleton c
      else "\\x" ++ String.ofList (Nat.toDigits 16 c.toNat)
    .error (.badValue s!"Unknown conversion specifier {name}")

/-- Fills the holes of a text with fields of a record. A format can have holes of its own, up to a
depth. -/
def fill : Nat → Record → String → Except Fault String
  | 0, _, _ => .error (.badValue "Max string recursion exceeded")
  | depth + 1, fields, s => do
      let texts ← (parts .text s.toList).mapM fun
        | .text t => Except.ok t
        | .broken reason => .error (.badValue reason)
        | .hole path conversion format => do
            let value ← converted (← followed fields path) conversion
            let format ← if format.toList.contains '\x7b' then fill depth fields format else pure format
            value.inField format
      return String.join texts

end Pattern

def filledPattern (pattern : String) (fields : Record) : Except Fault String :=
  Pattern.fill 2 fields pattern

end PatchCompiler
