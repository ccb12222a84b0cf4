import PatchCompiler.Value.Convert

/-!
# Names

Objects are found by name. A name is written as a value, and most values can be names.
-/

namespace PatchCompiler

/-- The name of an object, if it has one. Numbers that are equal are the same name, however they are
written, and no number is the same name as a word. -/
inductive Name where
  | absent
  | word (text : String)
  | whole (number : Int)
  | real (number : Binary64)
  deriving DecidableEq, Repr

namespace Name

instance : Inhabited Name := ⟨absent⟩

/-- The name that a value gives. Lists and records are no names. -/
def ofValue : Value → Except Fault Name
  | .null => .ok .absent
  | .bool b => .ok (.whole (if b then 1 else 0))
  | .int n => .ok (.whole n)
  | .real x =>
    match x.truncate? with
    | some n => .ok (if x.compareInt n = some .eq then .whole n else .real x)
    | none => .ok (.real x)
  | .text s => .ok (.word s)
  | .object identity => .ok (.word (Value.object identity).display)
  | value => .error (.badType s!"unhashable type: '{value.kindName}'")

def toValue : Name → Value
  | .absent => .null
  | .word text => .text text
  | .whole n => .int n
  | .real x => .real x

def display (name : Name) : String :=
  name.toValue.display

end Name

end PatchCompiler
