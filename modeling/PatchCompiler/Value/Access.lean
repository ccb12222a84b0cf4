import PatchCompiler.Place
import PatchCompiler.Value.Convert

/-!
# Access to values

Files can hold anything, so a value that is looked into may lack what is asked for.
-/

namespace PatchCompiler

namespace Value

def need (value : Value) (name : String) : Except Fault Value :=
  match value with
  | .record fields =>
    match Record.get? fields name with
    | some field => .ok field
    | none => .error (.missingField name)
  | .list _ => .error (.badType "list indices must be integers or slices, not str")
  | .text _ => .error (.badType "string indices must be integers, not 'str'")
  | other => .error (.badType s!"'{other.kindName}' object is not subscriptable")

def fieldOr (value : Value) (name : String) (fallback : Value) : Except Fault Value :=
  match value with
  | .record fields => .ok (Record.getD fields name fallback)
  | other => .error (.noMember s!"'{other.kindName}' object has no attribute 'get'")

/-- A value that has to be a text, because `ability` is asked of it. -/
def needText (value : Value) (ability : String) : Except Fault String :=
  match value with
  | .text s => .ok s
  | other => .error (.noMember s!"'{other.kindName}' object has no attribute '{ability}'")

/-- The fields of a value that has to be a record, because `ability` is asked of it. -/
def needFields (value : Value) (ability : String := "items") : Except Fault Record :=
  match value with
  | .record fields => .ok fields
  | other => .error (.noMember s!"'{other.kindName}' object has no attribute '{ability}'")

/-- What is gone through in a value: the items of a list, the names of a record. -/
def needItems (value : Value) : Except Fault (List Value) :=
  match value with
  | .list items => .ok items
  | .record fields => .ok (fields.map fun field => .text field.1)
  | .text s => .ok (s.toList.map fun c => .text (String.ofList [c]))
  | other => .error (.badType s!"'{other.kindName}' object is not iterable")

def needPair (value : Value) : Except Fault (Value × Value) := do
  let items ← match value with
    | .null | .bool _ | .int _ | .real _ =>
      throw (.badType s!"cannot unpack non-iterable {value.kindName} object")
    | value => value.needItems
  match items with
  | [first, second] => return (first, second)
  | _ :: _ :: _ :: _ => throw (.badValue "too many values to unpack (expected 2)")
  | short => throw (.badValue s!"not enough values to unpack (expected 2, got {short.length})")

def needLength (value : Value) : Except Fault Nat :=
  match value with
  | .list items => .ok items.length
  | .record fields => .ok fields.length
  | .text s => .ok s.length
  | other => .error (.badType s!"object of type '{other.kindName}' has no len()")

def needItem (value : Value) (index : Int) : Except Fault Value :=
  match value with
  | .list items => fetch items index
  | .text s =>
    match at? s.toList index with
    | some c => .ok (.text (String.ofList [c]))
    | none => .error .outOfText
  | .record _ => .error (.missingPlace index)
  | other => .error (.badType s!"'{other.kindName}' object is not subscriptable")

def needAt (value : Value) (name : String) (index : Int) : Except Fault Value := do
  (← value.need name).needItem index

/-- Whether a value is among the items of another one, or a text inside another one. -/
def needWithin (value container : Value) : Except Fault Bool :=
  match container, value with
  | .list items, _ => .ok (items.any value.equals)
  | .record fields, .text s => .ok (Record.has fields s)
  | .record _, .list _ => .error (.badType "unhashable type: 'list'")
  | .record _, .record _ => .error (.badType "unhashable type: 'dict'")
  | .record _, _ => .ok false
  | .text t, .text s => .ok (Text.hasText s t)
  | .text _, other => .error (.badType
      s!"'in <string>' requires string as left operand, not {other.kindName}")
  | other, _ => .error (.badType s!"argument of type '{other.kindName}' is not iterable")

def needEntry (value key : Value) : Except Fault Value :=
  match value, key with
  | .record fields, .text name =>
    match Record.get? fields name with
    | some field => .ok field
    | none => .error (.missingField name)
  | .record _, .list _ => .error (.badType "unhashable type: 'list'")
  | .record _, .record _ => .error (.badType "unhashable type: 'dict'")
  | .record _, other => .error (.missingField other.display)
  | .list items, .int n => fetch items n
  | other, _ => other.need key.display

end Value

end PatchCompiler
