import PatchCompiler.Board.Component
import PatchCompiler.Externs
import PatchCompiler.Program

/-!
# Glue between a program and a board

Every parameter of a program is read from or written to a component of the board. The glue says
for each parameter which code does it and where.
-/

namespace PatchCompiler

namespace Glue

/-- An input parameter and the component it is read from. -/
structure Input where
  parameter : String
  component : Value
  kind : String

structure InputCode where
  parameter : String
  code : String
  isBool : Value

/-- An output parameter and the name it is written under. -/
structure Output where
  parameter : String
  index : Nat
  name : Value
  isHooked : Bool

structure OutputCode where
  name : Value
  code : String
  isBool : Value
  value : String

inductive OutputPlace where
  | callback
  | loop
  | hook
  deriving DecidableEq, Repr

def OutputPlace.ofValue : Value → Except Fault OutputPlace
  | .text "loop" => .ok .loop
  | .text "hook" => .ok .hook
  | .list _ => .error (.badType "unhashable type: 'list'")
  | .record _ => .error (.badType "unhashable type: 'dict'")
  | _ => .ok .callback

end Glue

structure Glue where
  inputs : List Glue.Input := []
  outputs : List Glue.Output := []
  callbackInputs : List Glue.InputCode := []
  loopInputs : List Glue.InputCode := []
  callbackOutputs : List Glue.OutputCode := []
  loopOutputs : List Glue.OutputCode := []
  hookOutputs : List Glue.OutputCode := []

namespace Glue

/-- Parameters by the names of what they reach; of two that reach the same the later counts. -/
def named (components : Components) (aliases : Value) (parameters : List String) :
    Except Fault (List (Value × String)) :=
  parameters.foldlM (fun all parameter => do
    setNamed (← components.dealiased aliases parameter) parameter all) []

def target (components : Components) (name : Value) (parameter : String) :
    Except Fault (Value × Component) := do
  let root ← components.root name parameter
  match ← components.having "name" root with
  | [] => throw .outOfRange
  | component :: _ => return (root, component)

def mapping (component : Component) (name : Value) (parameter : String) : Except Fault Mapping := do
  match ← component.mapping? name with
  | some mapping => return mapping
  | none => throw (Components.unknownParameter parameter)

def fieldsFor (component : Component) (more : Record) : Record :=
  Record.update ((component.description.fields?).getD []) more

def addInput (components : Components) (object : String) (glue : Glue) (entry : Value × String) :
    Except Fault Glue := do
  let (name, parameter) := entry
  let (root, component) ← target components name parameter
  let kind ← (← component.kind).needText "upper"
  let mapping ← mapping component name parameter
  let rootText ← root.needText "upper"
  let fields := fieldsFor component
    [("name", root), ("class_name", .text object), ("name_upper", .text (Text.upper rootText)),
      ("value", .text "output_data[0]"), ("default_prefix", ← component.standardOpening)]
  let code : InputCode := ⟨parameter, ← filledPattern (← mapping.reading) fields, mapping.isBool⟩
  let input : Input := ⟨parameter, root, Text.upper kind⟩
  let glue := { glue with inputs := glue.inputs ++ [input] }
  if mapping.place.equals (.text "callback") then
    return { glue with callbackInputs := glue.callbackInputs ++ [code] }
  else return { glue with loopInputs := glue.loopInputs ++ [code] }

def addOutput (components : Components) (object : String) (glue : Glue) (entry : Value × String) :
    Except Fault Glue := do
  let (name, parameter) := entry
  let (root, component) ← target components name parameter
  let mapping ← mapping component name parameter
  let opening ← component.standardOpening
  let place ← OutputPlace.ofValue mapping.place
  let index := glue.outputs.length
  let value := if place = .hook then "sig" else s!"output_data[{index}]"
  let fields := fieldsFor component
    [("hash_enum", .text parameter), ("name", root), ("class_name", .text object),
      ("value", .text value), ("default_prefix", opening)]
  let code : OutputCode :=
    ⟨name, ← filledPattern (← mapping.writing) fields, mapping.isBool, value⟩
  let output : Output := ⟨parameter, index, name, decide (place = .hook)⟩
  let glue := { glue with outputs := glue.outputs ++ [output] }
  match place with
  | .callback => return { glue with callbackOutputs := glue.callbackOutputs ++ [code] }
  | .loop => return { glue with loopOutputs := glue.loopOutputs ++ [code] }
  | .hook => return { glue with hookOutputs := glue.hookOutputs ++ [code] }

def ofParameters (inputs outputs : List String) (components : Components) (aliases : Value)
    (object : String) : Except Fault (Glue × Components) := do
  let inputs ← named components aliases inputs
  let outputs ← named components aliases outputs
  for (name, parameter) in inputs do components.checkUse true name parameter
  for (name, parameter) in outputs do components.checkUse false name parameter
  let left ← components.pruned (inputs ++ outputs)
  let glue ← inputs.foldlM (addInput left object) {}
  let glue ← outputs.foldlM (addOutput left object) glue
  return (glue, left)

def inputCodeValue (code : InputCode) : Value :=
  .record [("process", .text code.code), ("bool", code.isBool), ("hash_enum", .text code.parameter)]

def outputCodeValue (code : OutputCode) : Value :=
  .record [("name", code.name), ("process", .text code.code), ("bool", code.isBool),
    ("value", .text code.value)]

def toRecord (glue : Glue) : Record :=
  [("parameters", .list (glue.inputs.map fun input => .record
      [("hash_enum", .text input.parameter), ("name", input.component),
        ("type", .text input.kind)])),
    ("output_parameters", .list (glue.outputs.map fun output => .record
      [("hash_enum", .text output.parameter), ("index", .int output.index),
        ("name", output.name), ("hook", .bool output.isHooked)])),
    ("loop_write_in", .list (glue.loopInputs.map inputCodeValue)),
    ("callback_write_out", .list (glue.callbackOutputs.map outputCodeValue)),
    ("loop_write_out", .list (glue.loopOutputs.map outputCodeValue)),
    ("hook_write_out", .list (glue.hookOutputs.map outputCodeValue)),
    ("callback_write_in", .list (glue.callbackInputs.map inputCodeValue)),
    ("output_comps", .int glue.outputs.length)]

end Glue

end PatchCompiler
