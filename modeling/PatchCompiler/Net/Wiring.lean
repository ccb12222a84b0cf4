import PatchCompiler.Net.Basic

/-!
# Wiring

Wires are kept at both ends. The order of the wires at an outlet is the order in which messages are
sent, so replacing a wire keeps its place there.
-/

namespace PatchCompiler.Build

def changeLet (lets : List (List Wire)) (place : Nat) (f : List Wire → List Wire) :
    List (List Wire) :=
  lets.modify place f

def notOfObject {α : Type} (ref : Ref) (wire : Wire) : Build α := do
  throw (.rejected
    s!"Connection {← displayWire wire} does not connect to this object {← display ref}.")

def attach (ref : Ref) (wire : Wire) : Build Unit := do
  let node ← node ref
  let outside : Build Unit := do
    throw (.rejected s!"Connection {← displayWire wire} connects to out-of-range let.")
  if wire.target = ref then
    match place? node.inlets.length wire.inlet with
    | some place =>
      change ref fun node => { node with inlets := changeLet node.inlets place (· ++ [wire]) }
    | none => outside
  else if wire.source = ref then
    match place? node.outlets.length wire.outlet with
    | some place =>
      change ref fun node => { node with outlets := changeLet node.outlets place (· ++ [wire]) }
    | none => outside
  else outside

def placeOfWire (lets : List (List Wire)) (index : Int) (wire : Wire) : Except Fault Nat :=
  match place? lets.length index with
  | none => .error .outOfRange
  | some place =>
    if (lets.getD place []).contains wire then .ok place
    else .error (.badValue "the wire is not there")

def detach (ref : Ref) (wire : Wire) : Build Unit := do
  let node ← node ref
  if wire.target = ref then
    let place ← ofExcept (placeOfWire node.inlets wire.inlet wire)
    change ref fun node => { node with inlets := changeLet node.inlets place (·.erase wire) }
  else if wire.source = ref then
    let place ← ofExcept (placeOfWire node.outlets wire.outlet wire)
    change ref fun node => { node with outlets := changeLet node.outlets place (·.erase wire) }
  else notOfObject ref wire

def replaceFirst (wire : Wire) (new : List Wire) : List Wire → List Wire
  | [] => []
  | w :: rest => if w = wire then new ++ rest else w :: replaceFirst wire new rest

/-- Replaces a wire at an object by others. They take its place at an outlet, and come last at an
inlet. -/
def substitute (ref : Ref) (wire : Wire) (new : List Wire) : Build Unit := do
  let node ← node ref
  if wire.source = ref then
    let place ← ofExcept (placeOfWire node.outlets wire.outlet wire)
    change ref fun node =>
      { node with outlets := changeLet node.outlets place (replaceFirst wire new) }
  else if wire.target = ref then
    let place ← ofExcept (placeOfWire node.inlets wire.inlet wire)
    change ref fun node =>
      { node with inlets := changeLet node.inlets place fun held => held.erase wire ++ new }
  else
    throw (.rejected (s!"Connections must have a common endpoint: {← displayWire wire} / " ++
        s!"{(← get).displayWires new}"))

def connectAny (wire : Wire) : Build Unit := do
  attach wire.source wire
  attach wire.target wire

def connect (wire : Wire) : Build Unit := do
  if (← node wire.source).parent = (← node wire.target).parent then connectAny wire
  else
    throw (.assertion ("Conection established between two objects not in the same graph: " ++
        s!"{← displayWire wire}"))

def disconnect (wire : Wire) : Build Unit := do
  detach wire.source wire
  detach wire.target wire

/-- Replaces a wire by others that share one of its ends. Without a wire to replace the others are
added; without others the wire is taken away. -/
def rewire (old : Option Wire) (new : List Wire) : Build Unit := do
  match old with
  | none => new.forM connect
  | some wire =>
    if new.isEmpty then disconnect wire
    else if new.all fun n => n.source = wire.source then
      substitute wire.source wire new
      detach wire.target wire
      new.forM fun n => attach n.target n
    else if new.all fun n => n.target = wire.target then
      substitute wire.target wire new
      detach wire.source wire
      new.forM fun n => attach n.source n
    else
      throw (.rejected (s!"Connections must have a common endpoint: {← displayWire wire} / " ++
          s!"{(← get).displayWires new}"))

end PatchCompiler.Build
