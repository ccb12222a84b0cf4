import PatchCompiler.Catalogue.Ir
import PatchCompiler.Catalogue.Language
import PatchCompiler.Net.Pool
import PatchCompiler.Net.Registry
import PatchCompiler.Path
import PatchCompiler.Place

/-!
# Nets

A net is a table of objects. An object has inlets and outlets, and every inlet and outlet has the
list of the wires that end or start there. A graph is an object that contains objects; its own
inlets and outlets are the inlet and outlet objects among them.

Steps on a net are in `Build`. A step that fails leaves the net as it was at the failure.
-/

namespace PatchCompiler

/-- A wire from an outlet of one object to an inlet of another. Two wires with the same ends and
the same type are the same wire. -/
structure Wire where
  source : Ref
  outlet : Int
  target : Ref
  inlet : Int
  type : WireType
  deriving DecidableEq, Repr

namespace Wire

def isSignal (wire : Wire) : Bool :=
  wire.type.isSignal

def isControl (wire : Wire) : Bool :=
  wire.type = .control

def isMixed (wire : Wire) : Bool :=
  wire.type = .mixed

end Wire

/-- How an object is treated while a graph is lowered. -/
inductive Kind where
  | unary
  | binary
  | biquad
  | conditional
  | cell
  | cellAccess
  | print
  | sequence
  | adc
  | dac
  | message
  | noise
  | system
  | phasor
  | line
  | random
  | delay
  | table
  | slice
  | receive
  | send
  /-- A low-level object without rules of its own. -/
  | plain
  | inlet
  | outlet
  | sender
  | tableUser
  | graph
  deriving DecidableEq, Repr, Inhabited

/-- Objects of the graph language are replaced by low-level ones before signals are ordered. -/
def Kind.isLanguage : Kind → Bool
  | .plain | .inlet | .outlet | .sender | .tableUser | .graph => false
  | _ => true

/-- What an object is called in its graph: the name the file gives it, or its own identity. -/
inductive Key where
  | given (name : String)
  | own (identity : Nat)
  deriving DecidableEq, Repr

/-- What a graph holds. -/
structure Body where
  file : String := ""
  name : String := "heavy"
  objects : List (Key × Ref) := []
  registry : Registry := .empty
  /-- Where files of graphs are looked for, the most general place first. -/
  imports : List String := []
  inletObjects : List Ref := []
  outletObjects : List Ref := []
  inputChannels : List Int := []
  outputChannels : List Int := []
  signalOrder : List Ref := []
  deriving Inhabited

structure Node where
  type : String
  kind : Kind
  identity : Nat
  parent : Option Ref := none
  arguments : Record := []
  annotations : Record := []
  inlets : List (List Wire) := []
  outlets : List (List Wire) := []
  warnings : List String := []
  errors : List String := []
  inletBuffers : List Buffer := []
  outletBuffers : List Buffer := []
  ordered : Bool := false
  body : Body := {}
  deriving Inhabited

namespace Node

def isGraph (node : Node) : Bool :=
  node.kind = .graph

def describe (type : String) (arguments : Record) : String :=
  let shown := Text.join " " (arguments.map fun field => s!"{field.1}:{field.2.display}")
  if shown.isEmpty then type else type ++ " \x7b" ++ shown ++ "\x7d"

def display (node : Node) : String :=
  if node.isGraph then s!"__graph.#({Path.baseName node.body.file}/{node.body.name})"
  else describe node.type node.arguments

def name? (node : Node) : Option Value :=
  node.arguments.get? "name"

def scope (node : Node) : Value :=
  node.annotations.getD "scope" (.text "private")

def isPrivate (node : Node) : Bool :=
  node.scope.text? == some "private"

def static (node : Node) : Value :=
  node.annotations.getD "static" (.bool false)

def constant (node : Node) : Value :=
  node.annotations.getD "const" (.bool false)

def isLeaf (node : Node) : Bool :=
  node.outlets.all (·.isEmpty)

def isRoot (node : Node) : Bool :=
  node.inlets.all (·.isEmpty)

def incoming (node : Node) : List Wire :=
  node.inlets.flatten

def outgoing (node : Node) : List Wire :=
  node.outlets.flatten

end Node

structure Net where
  nodes : Array Node := #[]
  /-- The signal buffers of the graph that is being processed. -/
  pool : Pool := .empty
  deriving Inhabited

namespace Net

def empty : Net := {}

def node (net : Net) (ref : Ref) : Node :=
  net.nodes.getD ref default

def change (net : Net) (ref : Ref) (f : Node → Node) : Net :=
  { net with nodes := net.nodes.modify ref f }

def size (net : Net) : Nat :=
  net.nodes.size

def displayWire (net : Net) (wire : Wire) : String :=
  (s!"[{(net.node wire.source).display}:{wire.outlet}] {wire.type.name} " ++
      s!"[{(net.node wire.target).display}:{wire.inlet}]")

def displayWires (net : Net) (wires : List Wire) : String :=
  "[" ++ Text.join ", " (wires.map net.displayWire) ++ "]"

def view (net : Net) : Registry.View :=
  ⟨fun ref => (net.node ref).type, fun ref => (net.node ref).display⟩

def contents (net : Net) (graph : Ref) : List Ref :=
  (net.node graph).body.objects.map (·.2)

/-- The graph and the graphs around it, from the inside out, as many as `depth` allows. -/
def enclosingWithin (net : Net) : Nat → Ref → List Ref
  | 0, _ => []
  | depth + 1, graph =>
    graph ::
      match (net.node graph).parent with
      | some parent => enclosingWithin net depth parent
      | none => []

def enclosing (net : Net) (graph : Ref) : List Ref :=
  net.enclosingWithin net.size graph

def root (net : Net) (graph : Ref) : Ref :=
  ((net.enclosing graph).getLast?).getD graph

end Net

abbrev Build := EStateM Fault Net

namespace Build

def ofExcept {α : Type} : Except Fault α → Build α
  | .ok a => pure a
  | .error fault => throw fault

def node (ref : Ref) : Build Node :=
  return (← get).node ref

def change (ref : Ref) (f : Node → Node) : Build Unit :=
  modify (·.change ref f)

def changeBody (graph : Ref) (f : Body → Body) : Build Unit :=
  change graph fun node => { node with body := f node.body }

/-- Puts an object into the table. Its identity is its place, unless it takes that of another. -/
def insert (node : Node) : Build Ref := do
  let net ← get
  set { net with nodes := net.nodes.push node }
  return net.size

def fetch {α : Type} (items : List α) (index : Int) : Build α :=
  ofExcept (PatchCompiler.fetch items index)

def display (ref : Ref) : Build String :=
  return (← node ref).display

def displayWire (wire : Wire) : Build String :=
  return (← get).displayWire wire

def warn (ref : Ref) (reason : String) : Build Unit :=
  change ref fun node => { node with warnings := node.warnings ++ [reason] }

def reject {α : Type} (ref : Ref) (reason : String) : Build α := do
  change ref fun node => { node with errors := node.errors ++ [reason] }
  throw (.rejected reason)

def needGraph (ref : Ref) : Build Ref := do
  if (← node ref).isGraph then return ref
  else throw (.noMember "the object is not a graph")

def argument (ref : Ref) (name : String) : Build Value := do
  match (← node ref).arguments.get? name with
  | some value => return value
  | none => throw (.missingField name)

end Build

end PatchCompiler
