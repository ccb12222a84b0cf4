import PatchCompiler.Path
import PatchCompiler.Template.Meaning

/-!
# Names in project files

Rules for names and numbers that project files are made with.
-/

namespace PatchCompiler

namespace Naming

/-- The items that come before a limit. A negative limit is counted from the end. -/
def before {α : Type} (limit : Int) (items : List α) : List α :=
  items.take (if limit < 0 then limit + items.length else limit).toNat

/-- A text of at most `limit` characters; three points stand for the end of a longer one. If there
is no room for three points the cut is counted from the end. -/
def capped (limit : Int) (s : String) : String :=
  if (s.length : Int) ≤ limit then s else String.ofList (before (limit - 3) s.toList) ++ "..."

/-- Whether a file is a template and not a leaving of the file system. -/
def isTemplate (path : String) : Bool :=
  Path.baseName path != ".DS_Store"

def placeOf (limit : Value) : Except Fault Int :=
  match limit.int? with
  | some n => .ok n
  | none => .error (.badType
      "slice indices must be integers or None or have an __index__ method")

/-- A value with at most as many characters or items as a limit says. -/
def cappedValue (value limit : Value) : Except Fault Value := do
  let length ← value.needLength
  if !limit.isNumber then
    throw (.badType s!"'<=' not supported between instances of 'int' and '{limit.kindName}'")
  match (Value.int length).compareNumbers limit with
  | some .lt | some .eq => return value
  | _ =>
    let limit ← placeOf limit
    match value with
    | .text s => return .text (capped limit s)
    | .list items => return .text ((Value.list (before (limit - 3) items)).display ++ "...")
    | _ => throw (.badType "unhashable type: 'slice'")

/-- A rule that makes a name or a number from values. -/
inductive Rule where
  | uniqueId
  | copyId
  | buildId
  | fileId
  | bareId
  | pluginId
  | greatest
  | cap
  | opened
  | template
  deriving DecidableEq, Repr

namespace Rule

def applyOne (rule : Rule) (value : Value) : Except Fault Value :=
  match rule with
  | .uniqueId => do return .text ("0x" ++ Digest.short 8 (← value.needText "encode"))
  | .copyId => .ok (.text (Digest.copyId value.display))
  | .buildId => .ok (.text (Digest.buildId value.display))
  | .fileId => .ok (.text (Digest.fileId value.display))
  | .bareId => do return .text (Digest.short 24 (← value.needText "encode"))
  | .pluginId => do return .int (Digest.number (← value.needText "encode"))
  | .opened => Change.apply .open (.defined value)
  | .template =>
    match value with
    | .text path => .ok (.bool (isTemplate path))
    | other => .error (.badType
        s!"expected str, bytes or os.PathLike object, not {other.kindName}")
  | .greatest | .cap => .error (.badType "two values are needed")

def apply (rule : Rule) (values : List Value) : Except Fault Value :=
  match rule, values with
  | .greatest, [x, y] => Operation.apply .greatest (.defined x) (.defined y)
  | .cap, [value, limit] => cappedValue value limit
  | rule, [value] => rule.applyOne value
  | _, _ => .error (.badType "another number of values is needed")

end Rule

end Naming

end PatchCompiler
