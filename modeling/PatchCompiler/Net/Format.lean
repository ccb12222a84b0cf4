import PatchCompiler.Net.Basic

/-!
# What arrives and what leaves

The format of an object has a letter for each of its lets: `c` for messages, `f` and `i` for
signals, `m` if wires of different types meet there and `_` if there are no wires.
-/

namespace PatchCompiler

def wireTypes (wires : List Wire) : List WireType :=
  wires.foldl (fun types wire => if types.contains wire.type then types else types ++ [wire.type])
    []

namespace Build

def parentOf (object : Ref) : Build Ref := do
  match (← node object).parent with
  | some graph => return graph
  | none => throw (.noMember "an object is in no graph")

def letFormat (wires : List Wire) : Build String := do
  match wireTypes wires, wires with
  | [], _ => return "_"
  | [.control], _ => return "c"
  | [.float], _ => return "f"
  | [.integer], _ => return "i"
  | [_], first :: _ => do
      let file := (← node (← parentOf first.source)).body.file
      throw (.failed
        s!"Unknown connection type in set {(← get).displayWires wires} in file {file}.")
  | _, _ => return "m"

def formatOf (lets : List (List Wire)) : Build String := do
  return String.join (← lets.mapM letFormat)

def inletFormat (object : Ref) : Build String := do
  formatOf (← node object).inlets

def outletFormat (object : Ref) : Build String := do
  formatOf (← node object).outlets

def languageSpec (object : Ref) : Build Catalogue.LanguageSpec := do
  let type := (← node object).type
  match Catalogue.languageSpec? type with
  | some spec => return spec
  | none => throw (.missingField type)

def lowSpec (object : Ref) : Build Catalogue.IrSpec := do
  let type := (← node object).type
  match Catalogue.irSpec? type with
  | some spec => return spec
  | none => throw (.missingField type)

/-- The only type among wires that must agree, messages if there are none. -/
def commonType (wires : List Wire) (complaint : String) : Build WireType :=
  match wireTypes wires with
  | [] => return .control
  | [type] => return type
  | _ => throw (.rejected complaint)

/-- The type at an outlet that sends on whatever arrives at the first inlet. A signal wins over
messages. -/
def passedType (object : Ref) (wires : List Wire) : Build WireType := do
  let types := wireTypes wires
  match types with
  | [] => return .control
  | [type] => return type
  | _ =>
    if types.length = 2 ∧ .control ∈ types ∧ .float ∈ types then return .float
    else if types.length = 2 ∧ .control ∈ types ∧ .integer ∈ types then return .integer
    else
      let names := (types.map (·.name)).mergeSort (fun a b => !(b < a))
      let shown := Text.join ", " (names.map Text.quoted)
      reject (← parentOf object) (("Connection type cannot be resolved.Unknown inlet connection " ++
          "type configuration: \x7b") ++ shown ++ "\x7d")

def indexValue (value : Value) : Build Int :=
  match value.int? with
  | some index => return index
  | none => throw (.badType s!"an index cannot be {value.kindName}")

def outletType (object : Ref) (index : Int) : Build WireType := do
  let node ← node object
  match node.kind with
  | .adc => return .float
  | .inlet => do
      let graph ← Build.node (← parentOf object)
      let index ← indexValue (← argument object "index")
      commonType (← fetch graph.inlets index) (s!"{node.display} has multiple incident connections " ++
          "of differing type. The outlet type cannot be explicitly resolved.")
  | .graph => do
      let outlet ← Build.node (← fetch node.body.outletObjects index)
      commonType (← fetch outlet.inlets 0) ((s!"{node.display} has multiple incident connections " ++
          "of differing type.") ++ Text.padRight 34 "" ++ ("The outlet type cannot be explicitly " ++
              "resolved."))
  | kind =>
    if kind.isLanguage then
      let type := (← fetch (← languageSpec object).outlets index).type
      if type = .mixed then passedType object (← fetch node.inlets 0) else return type
    else fetch (← lowSpec object).outlets index

end Build

end PatchCompiler
