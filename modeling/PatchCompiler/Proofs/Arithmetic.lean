import Mathlib.Algebra.BigOperators.Group.Multiset.Basic
import PatchCompiler.Proofs.Rational
import PatchCompiler.Proofs.Wiring

/-!
# The meaning of signal arithmetic

Objects that add, subtract and multiply signals have a value at their outlets. An inlet sums up the
signals that arrive there. Values are rational numbers, and the values that come in from outside are
given.
-/

namespace PatchCompiler

/-- An operator on two signals. -/
inductive Operator where
  | add
  | sub
  | mul
  deriving DecidableEq

namespace Operator

def symbol : Operator → String
  | .add => "+"
  | .sub => "-"
  | .mul => "*"

def form : Operator → String
  | .add => "__add~f"
  | .sub => "__sub~f"
  | .mul => "__mul~f"

def apply : Operator → ℚ → ℚ → ℚ
  | .add => (· + ·)
  | .sub => (· - ·)
  | .mul => (· * ·)

def all : List Operator :=
  [.add, .sub, .mul]

def ofSymbol? (symbol : String) : Option Operator :=
  all.find? (·.symbol == symbol)

def ofForm? (form : String) : Option Operator :=
  all.find? (·.form == form)

@[simp]
theorem ofSymbol?_symbol (operator : Operator) : ofSymbol? operator.symbol = some operator := by
  cases operator <;> rfl

/-- The right operand that leaves the left one as it is. -/
def neutral : Operator → ℚ
  | .add | .sub => 0
  | .mul => 1

theorem apply_neutral (op : Operator) (x : ℚ) : op.apply x op.neutral = x := by
  cases op <;> simp [apply, neutral]

end Operator

namespace Node

def number (node : Node) : ℚ :=
  ((node.arguments.getD "k" .null).rational?).getD 0

def channels (node : Node) : List Int :=
  (((node.arguments.getD "channels" .null).items?).getD []).filterMap Value.int?

/-- What an object sends, given what comes in from outside, what arrives at its first two inlets and
whether there are wires at the second. -/
def output (node : Node) (inputs : Int → ℚ) (outlet : Int) (left right : ℚ) (isWired : Bool) : ℚ :=
  match node.kind with
  | .adc => inputs ((at? node.channels outlet).getD 0 - 1)
  | .binary =>
    match Operator.ofSymbol? node.type with
    | some operator => operator.apply left (if isWired then right else node.number)
    | none => 0
  | .plain =>
    match Operator.ofForm? node.type, node.type, node.outletBuffers with
    | some operator, _, _ => operator.apply left right
    | none, "__neg~f", _ => -left
    | none, "__var_k~f", _ => node.number
    | none, "__inlet", [⟨.input, index⟩] => inputs index
    | _, _, _ => 0
  | _ => 0

def taps (node : Node) (channel : Int) : List Nat :=
  match node.kind with
  | .dac => (node.channels.zipIdx.filter fun entry => entry.1 = channel).map Prod.snd
  | .plain => if node.outletBuffers = [⟨.output, channel - 1⟩] then [0] else []
  | _ => []

end Node

/-- Values of objects that depend on other values, worked out to a depth. -/
def settle {α : Type} (base : α) (step : (Ref → α) → Ref → α) : Nat → Ref → α
  | 0 => fun _ => base
  | depth + 1 => step (settle base step depth)

namespace Net

variable (net : Net) (g : Ref) (inputs : Int → ℚ)

def inflow (value : Ref → Int → ℚ) (object : Ref) (place : Nat) : ℚ :=
  ((net.held .inlet object place).map fun wire => value wire.source wire.outlet).sum

/-- The values of an object after those of the objects it gets signals from. -/
def evaluate (value : Ref → Int → ℚ) (object : Ref) (outlet : Int) : ℚ :=
  (net.node object).output inputs outlet (net.inflow value object 0) (net.inflow value object 1)
    !(net.held .inlet object 1).isEmpty

def signal : Ref → Int → ℚ :=
  settle 0 (net.evaluate inputs) net.size

def delivered (value : Ref → Int → ℚ) (channel : Int) : ℚ :=
  ((net.contents g).map fun object =>
    (((net.node object).taps channel).map (net.inflow value object)).sum).sum

def total (channel : Int) : ℚ :=
  net.delivered g (net.signal inputs) channel

end Net

end PatchCompiler
