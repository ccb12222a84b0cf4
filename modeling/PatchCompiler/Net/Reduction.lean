import PatchCompiler.Net.Creation
import PatchCompiler.Net.Format

/-!
# Reduction

Every object of the graph language is replaced by low-level objects. The replacement depends on
what kinds of wires the object has. `Reduction` holds the new objects and how wires are moved to
them.
-/

namespace PatchCompiler

/-- A wire, if there is one to be replaced, and the wires in its place. -/
abbrev Move := Option Wire × List Wire

structure Reduction where
  objects : List Ref
  moves : List Move

namespace Reduction

def gone : Reduction := ⟨[], []⟩

def kept (object : Ref) : Reduction := ⟨[object], []⟩

end Reduction

namespace Build

def moveTo (target : Ref) (wire : Wire) : Move :=
  (some wire, [{ wire with target }])

def moveToInlet (target : Ref) (inlet : Int) (wire : Wire) : Move :=
  (some wire, [{ wire with target, inlet }])

def moveFrom (source : Ref) (wire : Wire) : Move :=
  (some wire, [{ wire with source }])

def moveFromOutlet (source : Ref) (outlet : Int) (wire : Wire) : Move :=
  (some wire, [{ wire with source, outlet }])

def joined (source : Ref) (target : Ref) (inlet : Int) (type : WireType) : Move :=
  (none, [⟨source, 0, target, inlet, type⟩])

def moveAll (object new : Ref) : Build (List Move) := do
  let node ← node object
  return node.incoming.map (moveTo new) ++ node.outgoing.map (moveFrom new)

def replacedBy (object new : Ref) : Build Reduction := do
  return ⟨[new], ← moveAll object new⟩

def lowered (object : Ref) (type : String) : Build Reduction := do
  replacedBy object (← makeLower object type [])

/-- A low-level object without arguments takes the place of the object. -/
def loweredBare (object : Ref) (type : String) : Build Reduction := do
  replacedBy object (← makePlain type [])

def formWith (ending : String) (forms : List String) : Build String :=
  match forms.find? (Text.endsWith ending) with
  | some form => return form
  | none => throw .outOfRange

def firstArgument (object : Ref) : Build Value := do
  let spec ← fetch (← languageSpec object).arguments 0
  argument object spec.name

def isIdentity (operator : String) (constant : Value) : Bool :=
  match operator with
  | "+" | "-" => constant.equals (.int 0)
  | "*" | "/" => constant.equals (.int 1)
  | _ => false

/-- An operator that leaves its signal as it is: its wires are joined, through an adder if several
signals arrive. -/
def reduceIdentity (object : Ref) : Build Reduction := do
  let arriving ← fetch (← node object).inlets 0
  let leaving ← fetch (← node object).outlets 0
  match arriving with
  | [] => return .gone
  | [wire] =>
    return ⟨[], [(some wire,
      leaving.map fun v => { wire with target := v.target, inlet := v.inlet })]⟩
  | first :: rest => do
      let adder ← makePlain "__add~f" []
      return ⟨[adder], moveToInlet adder 0 first :: rest.map (moveToInlet adder 1) ++
        leaving.map (moveFromOutlet adder 0)⟩

def reduceConstantSignal (object : Ref) (operator form : String) : Build Reduction := do
  let identityForm := ["+", "-", "*", "/"].contains operator
  let constant ← if identityForm then argument object "k" else pure .null
  if isIdentity operator constant then reduceIdentity object
  else if operator == "*" && constant.equals (.int 0) then return .gone
  else if operator == "*" && constant.equals (.int (-1)) then loweredBare object "__neg~f"
  else
    let new ← makePlain form []
    let source ← makePlain "__var_k~f" [("k", ← firstArgument object)]
    return ⟨[new, source], (← moveAll object new) ++ [joined source new 1 .float]⟩

/-- An operator on a signal whose right operand is set by messages: the operand is a variable. -/
def reduceVariableOperand (object : Ref) (form cellType readerType : String) :
    Build Reduction := do
  let new ← makePlain form []
  let cell ← makePlain cellType [("k", ← firstArgument object)]
  let reader ← makePlain readerType [("var_id", .object (← node cell).identity)]
  let node ← node object
  return ⟨[new, cell, reader],
    joined reader new 1 .float ::
      (← fetch node.inlets 0).map (moveTo new) ++
      (← fetch node.inlets 1).map (moveToInlet cell 0) ++
      (← fetch node.outlets 0).map (moveFrom new)⟩

def reduceConstantInteger (object : Ref) (form : String) : Build Reduction := do
  let new ← makePlain form []
  let source ← makePlain "__var_k~i" [("k", ← firstArgument object)]
  let node ← node object
  return ⟨[new, source],
    joined source new 1 .integer ::
      (← fetch node.inlets 0).map (moveTo new) ++
      (← fetch node.inlets 1).map (moveToInlet source 0) ++
      (← fetch node.outlets 0).map (moveFrom new)⟩

/-- An operator whose left operand is set by messages and whose right operand is a signal. -/
def reduceVariableLeft (object : Ref) (form : String) : Build Reduction := do
  let new ← makePlain form []
  let cell ← makePlain "__var~f" []
  let reader ← makePlain "__varread~f" [("var_id", .object (← node cell).identity)]
  let node ← node object
  return ⟨[new, cell, reader],
    joined reader new 0 .float ::
      (← fetch node.inlets 0).map (moveToInlet cell 0) ++
      (← fetch node.inlets 1).map (moveToInlet new 1) ++
      (← fetch node.outlets 0).map (moveFromOutlet new 0)⟩

def reduceBinary (object : Ref) : Build Reduction := do
  let operator := (← node object).type
  let forms := formsOf binaryForms operator
  let format ← inletFormat object
  if ["__", "_c", "_f"].contains format then return .gone
  else if (← outletFormat object) == "_" then return .gone
  else
    match format with
    | "ff" => loweredBare object (← formWith "~f" forms)
    | "fc" => reduceVariableOperand object (← formWith "~f" forms) "__var~f" "__varread~f"
    | "f_" => reduceConstantSignal object operator (← formWith "~f" forms)
    | "ii" => loweredBare object (← formWith "~i" forms)
    | "ic" => reduceVariableOperand object (← formWith "~i" forms) "__var~i" "__varread~i"
    | "i_" => reduceConstantInteger object (← formWith "~i" forms)
    | "cc" => do
        let constant ← firstArgument object
        replacedBy object (← makePlain (← fetch forms 0) [("k", constant)])
    | "c_" => do
        let form ← formWith "_k" forms
        let constant ← firstArgument object
        replacedBy object (← makePlain form [("k", constant)])
    | "cf" => reduceVariableLeft object (← formWith "~f" forms)
    | _ =>
      if format.toList.contains 'm' then
        reject object ("A binary operator cannot have both a signal and control connection to " ++
            s!"the same inlet: {format}")
      else reject object s!"Unknown inlet configuration: {format}"

def reduceUnary (object : Ref) : Build Reduction := do
  let node ← node object
  if (← fetch node.inlets 0).isEmpty then
    reject object "Unary operator objects must have an input."
  let forms := formsOf unaryForms node.type
  let form (ending : String) : Build Reduction := do
    let type := s!"__{node.type}{ending}"
    if forms.contains type then loweredBare object type else throw (.assertion "")
  if ["cast_fi", "cast_if"].contains node.type then throw (.missingField node.type)
  else
    match ← inletFormat object with
    | "f" => form "~f"
    | "i" => form "~i"
    | "c" => form ""
    | _ => reject object "Unknown inlet configuration."

/-- Whether a letter of `first` is followed by one of `second`. -/
def hasPair (first second : List Char) : List Char → Bool
  | a :: b :: rest => (first.contains a && second.contains b) || hasPair first second (b :: rest)
  | _ => false

def reduceBiquad (object : Ref) : Build Reduction := do
  let format ← inletFormat object
  if hasPair ['f', '_'] ['c', '_'] format.toList then lowered object "__biquad_k~f"
  else if format.toList.any fun c => c == 'f' || c == '_' then lowered object "__biquad~f"
  else throw (.rejected s!"Unsupported connection format to biquad: {format}")

def reduceConditional (object : Ref) : Build Reduction := do
  match ← inletFormat object with
  | "cc" | "_c" | "c_" | "__" => lowered object "__if"
  | "ff" => throw (.fileMissing "./hvlib/if~f.hv.json")
  | "ii" => throw (.fileMissing "./hvlib/if~i.hv.json")
  | format =>
    throw (.rejected s!"Unhandled connection configuration to object [if]: {format}")

/-- A variable that takes over the identity of the object, with an object that reads it. -/
def reduceToCell (object : Ref) (cellType readerType : String) : Build Reduction := do
  let cell ← makeLower object cellType []
  let identity := (← node object).identity
  change cell fun node => { node with identity }
  let reader ← makePlain readerType [("var_id", .object identity)]
  let node ← node object
  return ⟨[cell, reader],
    node.incoming.map (moveTo cell) ++ node.outgoing.map (moveFrom reader)⟩

def reduceCell (object : Ref) : Build Reduction := do
  let arriving ← inletFormat object
  if ["_", "c"].contains arriving then
    match arriving, ← outletFormat object with
    | "_", "f" => lowered object "__var_k~f"
    | "_", "i" => lowered object "__var_k~i"
    | _, "f" => reduceToCell object "__var~f" "__varread~f"
    | _, "i" => reduceToCell object "__var~i" "__varread~i"
    | _, "_" => lowered object "__var"
    | _, "c" => lowered object "__var"
    | _, _ => throw (.failed "")
  else throw (.failed "")

def reduceCellAccess (object : Ref) : Build Reduction := do
  let node ← node object
  let graph ← parentOf object
  match ← resolveOne graph (← nameOf object) ["var"] with
  | none =>
    throw (.rejected (s!"No corresponding \"var\" object found for object {node.display} in file " ++
        s!"{(← Build.node graph).body.file}"))
  | some cell =>
    let access (type : String) : Build Reduction := do
      let identity := (← Build.node cell).identity
      replacedBy object (← makePlain type [("var_id", .object identity)])
    match ← inletFormat object with
    | "f" => if (← outletFormat object) == "_" then access "__varwrite~f" else throw (.failed "")
    | "i" => if (← outletFormat object) == "_" then access "__varwrite~i" else throw (.failed "")
    | "_" =>
      match ← outletFormat object with
      | "f" => access "__varread~f"
      | "i" => access "__varread~i"
      | _ => throw (.failed "")
    | _ => throw (.failed "")

/-- The object that makes a cast, none if whatever arrives is sent on. -/
def castFor (cast : String) : Build (Option Ref) := do
  if ["a", "anything", "l", "list"].contains cast then return none
  else if ["b", "bang"].contains cast then return some (← makePlain "__cast_b" [])
  else if ["f", "float"].contains cast then return some (← makePlain "__cast_f" [])
  else if ["s", "symbol"].contains cast then return some (← makePlain "__cast_s" [])
  else throw (.rejected s!"Unsupported cast type '{cast}'.")

/-- A sequence sends to its outlets from the last to the first, with a cast at each. -/
def reduceSequence (object : Ref) : Build Reduction := do
  let names := ((← firstArgument object).items?).getD []
  let casts ← names.mapM fun name => castFor name.display
  let node ← node object
  let places := (List.range node.outlets.length).reverse
  let arriving ← fetch node.inlets 0
  let mut moves : List Move := []
  for wire in arriving do
    let mut new : List Wire := []
    for place in places do
      match ← fetch casts place with
      | some cast => new := new ++ [{ wire with target := cast, inlet := 0 }]
      | none =>
        new := new ++ (node.outlets.getD place []).map fun out =>
          { wire with target := out.target, inlet := out.inlet }
    moves := moves ++ [(some wire, new)]
  for place in places do
    match ← fetch casts place with
    | some cast => moves := moves ++ (node.outlets.getD place []).map (moveFromOutlet cast 0)
    | none => pure ()
  return ⟨casts.filterMap id, moves⟩

/-- Every connected channel of an audio input becomes an inlet with the buffer of that channel. -/
def reduceAdc (object : Ref) : Build Reduction := do
  let channels ← channelsOf object
  let mut objects : List Ref := []
  let mut moves : List Move := []
  for (channel, place) in channels.zipIdx do
    let wires ← fetch (← node object).outlets place
    if !wires.isEmpty then
      let inlet ← makePlain "__inlet" [("index", .int (127 + channel))]
      change inlet fun node => { node with outletBuffers := [⟨.input, channel - 1⟩] }
      objects := objects ++ [inlet]
      moves := moves ++ wires.map (moveFromOutlet inlet 0)
  return ⟨objects, moves⟩

/-- Every connected channel of an audio output becomes an adder into the buffer of that channel. -/
def reduceDac (object : Ref) : Build Reduction := do
  let channels ← channelsOf object
  let mut objects : List Ref := []
  let mut moves : List Move := []
  for (channel, place) in channels.zipIdx do
    let wires ← fetch (← node object).inlets place
    if !wires.isEmpty then
      let adder ← makePlain "__add~f" []
      let buffer : Buffer := ⟨.output, channel - 1⟩
      change adder fun node =>
        { node with inletBuffers := node.inletBuffers.set 1 buffer, outletBuffers := [buffer] }
      objects := objects ++ [adder]
      moves := moves ++ wires.map (moveToInlet adder 0)
  return ⟨objects, moves⟩

def reduceLine (object : Ref) : Build Reduction := do
  match ← outletFormat object with
  | "f" => lowered object "__line~f"
  | "c" => lowered object "__line"
  | _ => reject object "Unknown inlet configuration."

def reducePhasor (object : Ref) : Build Reduction := do
  let format ← inletFormat object
  lowered object (if ["f_", "fc"].contains format then "__phasor~f" else "__phasor_k~f")

def randomSeed : Int := 12345

def reduceRandom (object : Ref) : Build Reduction := do
  change object fun node =>
    { node with arguments := node.arguments.set "seed" (.int randomSeed) }
  lowered object "__random"

def reduceTable (object : Ref) : Build Reduction := do
  let table ← makeLower object "__table" []
  let identity := (← node object).identity
  change table fun node => { node with identity }
  replacedBy object table

def reduceDelay (object : Ref) : Build Reduction := do
  replacedBy object (← makeLower object "__delay" (← node object).annotations)

def makeReceiver (object : Ref) : Build Ref := do
  let receiver ← makeLower object "__receive" (← node object).annotations
  checkMailboxName receiver (← node receiver).arguments
    "Parameter and Event names may only contain"
  return receiver

def reduceReceive (object : Ref) : Build Reduction := do
  match ← outletFormat object with
  | "c" => replacedBy object (← makeReceiver object)
  | "f" => return .gone
  | "_" => do
      warn object "receive~ object doesn't have any outputs, this one is being removed."
      return .gone
  | format => reject object s!"Unknown outlet configuration: {format}"

def makeSender (object : Ref) : Build Ref := do
  let hash ← ofExcept (Hash.ofValue (← argument object "name"))
  let node ← node object
  let arguments := node.arguments.set "hash" (.text (Hash.literal hash))
  let sender ← makeLow "__send" .sender arguments node.annotations none
  checkMailboxName sender arguments
    ("Parameter and Event names may only contain " ++ Text.padRight 32 "")
  return sender

def reduceSend (object : Ref) : Build Reduction := do
  match ← inletFormat object with
  | "c" => replacedBy object (← makeSender object)
  | "f" => return .gone
  | "_" => do
      warn object "send~ object doesn't have any inputs, this one is being removed."
      return .gone
  | "m" =>
    reject object ("Inlet can support either control or signal connections, but not both at the " ++
        "same time.")
  | format => reject object s!"Unknown inlet configuration: {format}"

def missingTable (node : Node) (name : Value) : String :=
  if node.type == "__conv~f" || Text.startsWith "__tabread" node.type then
    s!"Cannot find table named \"{name.display}\" for object {node.display}."
  else s!"Can't find table with name \"{name.display}\"."

def findTable (object : Ref) : Build Reduction := do
  let name ← argument object "table"
  let graph ← parentOf object
  match ← resolveOne graph (← ofExcept (Name.ofValue name)) ["table", "__table"] with
  | some table => do
      let identity := (← node table).identity
      change object fun node =>
        { node with arguments := node.arguments.set "table_id" (.object identity) }
      return .kept object
  | none => do reject object (missingTable (← node object) name)

def reductionOf (object : Ref) : Build Reduction := do
  match (← node object).kind with
  | .unary => reduceUnary object
  | .binary => reduceBinary object
  | .biquad => reduceBiquad object
  | .conditional => reduceConditional object
  | .cell => reduceCell object
  | .cellAccess => reduceCellAccess object
  | .print => lowered object "__print"
  | .sequence => reduceSequence object
  | .adc => reduceAdc object
  | .dac => reduceDac object
  | .message => lowered object "__message"
  | .noise => throw (.fileMissing "./hvlib/noise.hv.json")
  | .system => lowered object "__system"
  | .phasor => reducePhasor object
  | .line => reduceLine object
  | .random => reduceRandom object
  | .delay => reduceDelay object
  | .table => reduceTable object
  | .slice => lowered object "__slice"
  | .receive => reduceReceive object
  | .send => reduceSend object
  | .tableUser => findTable object
  | .plain | .inlet | .outlet | .sender | .graph => return .kept object

def applyReduction (graph object : Ref) (reduction : Reduction) : Build Unit := do
  if reduction.objects == [object] then return
  reduction.objects.forM (add graph)
  reduction.moves.forM fun move => rewire move.1 move.2
  remove graph object

def reduceWithin : Nat → Ref → Build Unit
  | 0, _ => throw .tooDeep
  | depth + 1, graph => do
      for object in (← get).contents graph do
        if (← node object).isGraph then reduceWithin depth object
        applyReduction graph object (← reductionOf object)

def reduce (graph : Ref) : Build Unit := do
  reduceWithin ((← get).size + 1) graph

end Build

end PatchCompiler
