import PatchCompiler.Net.Format
import PatchCompiler.Net.Wiring

/-!
# Types of wires

A mixed wire gets the type of the outlet it starts at. Types are settled from the objects without
incoming wires downwards, each object once, and a graph after its contents.
-/

namespace PatchCompiler.Build

def settleWire (object : Ref) (wire : Wire) : Build Unit := do
  if wire.isMixed then
    let type ← outletType object wire.outlet
    if type = .mixed ∧ !(← node object).isGraph then
      reject (← parentOf object) "Cannot resolve connection type from -~>."
    else rewire (some wire) [{ wire with type }]

/-- Settles the types below an object; `seen` are the objects already settled. Every level of the
recursion settles another object, so the number of objects bounds its depth. -/
def settleBelow : Nat → Ref → List Ref → Build (List Ref)
  | 0, _, _ => throw .tooDeep
  | depth + 1, object, seen => do
      if seen.contains object then return seen
      else
        let mut seen := object :: seen
        if (← node object).isGraph then
          let net ← get
          for root in (net.contents object).filter fun o => (net.node o).isRoot do
            seen ← settleBelow depth root seen
        for wire in (← node object).outgoing do
          settleWire object wire
          seen ← settleBelow depth wire.target seen
        return seen

def settleTypes (graph : Ref) : Build Unit := do
  let _ ← settleBelow ((← get).size + 1) graph []

/-- Takes away the wires from an inlet object at which nothing arrives. -/
def pruneWithin : Nat → Ref → Build Unit
  | 0, _ => throw .tooDeep
  | depth + 1, graph => do
      let inlets := (← node graph).inlets
      for place in List.range inlets.length do
        if ((← node graph).inlets.getD place []).isEmpty then
          let inlet ← fetch (← node graph).body.inletObjects place
          (← fetch (← node inlet).outlets 0).forM disconnect
      for object in (← get).contents graph do
        if (← node object).isGraph then pruneWithin depth object

def pruneInlets (graph : Ref) : Build Unit := do
  pruneWithin ((← get).size + 1) graph

end PatchCompiler.Build
