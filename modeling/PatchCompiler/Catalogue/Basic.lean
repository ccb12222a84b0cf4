import PatchCompiler.Value.Convert

/-!
# The catalogue of objects

Every type of object has a description: its inlets and outlets with the kind of wire each takes,
and its arguments with their types and defaults.
-/

namespace PatchCompiler

/-- What a wire carries: messages, a signal of floats or of integers, or whatever its source turns
out to send. -/
inductive WireType where
  | control
  | float
  | integer
  | mixed
  | other (name : String)
  deriving DecidableEq, Repr

namespace WireType

def name : WireType → String
  | .control => "-->"
  | .float => "~f>"
  | .integer => "~i>"
  | .mixed => "-~>"
  | .other name => name

def ofName (s : String) : WireType :=
  ([control, float, integer, mixed].find? fun type => type.name == s).getD (.other s)

def isSignal : WireType → Bool
  | .float | .integer => true
  | _ => false

end WireType

/-- A number of cycles in halves. A number made of whole ones only is written without a point. -/
structure Cycles where
  halves : Nat
  isWhole : Bool
  deriving DecidableEq, Repr

namespace Cycles

def whole (n : Nat) : Cycles := ⟨2 * n, true⟩

def ofHalves (n : Nat) : Cycles := ⟨n, false⟩

def add (a b : Cycles) : Cycles :=
  ⟨a.halves + b.halves, a.isWhole && b.isWhole⟩

def toDouble (cycles : Cycles) : Binary64 :=
  .ofRatio false cycles.halves 2

def toValue (cycles : Cycles) : Value :=
  if cycles.isWhole then .int (cycles.halves / 2 : Nat) else .real cycles.toDouble

end Cycles

namespace Catalogue

structure ArgumentSpec where
  name : String
  type : ArgumentType
  required : Bool
  default : Value

/-- An inlet or outlet of an object of the graph language. -/
structure LetSpec where
  name : String
  description : String
  type : WireType

def LetSpec.toValue (spec : LetSpec) : Value :=
  .record [("name", .text spec.name), ("description", .text spec.description),
    ("connectionType", .text spec.type.name)]

structure LanguageSpec where
  inlets : List LetSpec
  outlets : List LetSpec
  arguments : List ArgumentSpec

structure IrSpec where
  inlets : List WireType
  outlets : List WireType
  /-- Some objects do not declare their arguments. -/
  arguments : Option (List ArgumentSpec) := none
  control : Bool := false
  signal : Bool := false
  init : Bool := false
  cycles : Option (List (String × Cycles)) := none

def families {α : Type} (groups : List (List String × α)) : List (String × α) :=
  groups.flatMap fun group => group.1.map fun type => (type, group.2)

/-! The tables of the catalogue are written with the names below. -/

namespace Table

def c : WireType := .control

def f : WireType := .float

def i : WireType := .integer

def m : WireType := .mixed

def number (name : String) (default : Int) : ArgumentSpec :=
  ⟨name, .float, false, .int default⟩

def whole (name : String) (default : Int) : ArgumentSpec :=
  ⟨name, .int, false, .int default⟩

def needed (name : String) : ArgumentSpec :=
  ⟨name, .string, true, .null⟩

def bare (type : WireType) : LetSpec :=
  ⟨"", "", type⟩

def output : LetSpec :=
  ⟨"outlet", "Output.", m⟩

def cycles (avx sse : Nat) : Option (List (String × Cycles)) :=
  some [("avx", .whole avx), ("sse", .whole sse)]

def halves (avx sse : Nat) : Option (List (String × Cycles)) :=
  some [("avx", .ofHalves avx), ("sse", .ofHalves sse)]

/-- An object that takes part in the message graph only. -/
def messaging (inlets outlets : List WireType) (arguments : Option (List ArgumentSpec)) : IrSpec :=
  { inlets, outlets, arguments, control := true }

def sounding (inlets outlets : List WireType) (arguments : Option (List ArgumentSpec))
    (cycles : Option (List (String × Cycles))) : IrSpec :=
  { inlets, outlets, arguments, signal := true, cycles }

end Table

end Catalogue

end PatchCompiler
