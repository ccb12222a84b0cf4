import PatchCompiler.Net.Format

/-!
# The order of signal processing

An object comes after the objects its wires come from. The order is found from the objects without
outgoing wires upwards; an object that has its place already is passed over.
-/

namespace PatchCompiler.Build

/-- An object of the graph language is left where only low-level objects may be. -/
def notLowered {α : Type} : Build α :=
  throw (.noMember "an object has not been lowered")

/-- The objects that come before several objects, one after the other. -/
def placeAll (place : Ref → Build (List Ref)) (objects : List Ref) : Build (List Ref) :=
  objects.foldlM (fun order object => do return order ++ (← place object)) []

/-- The objects that come before an object, and the object itself, as far as they have no place
yet. Every level of the recursion gives another object its place, so the number of objects bounds
its depth. -/
def placeWithin : Nat → Ref → Build (List Ref)
  | 0, _ => throw .tooDeep
  | depth + 1, object => do
      let node ← node object
      if node.kind.isLanguage then notLowered
      else if node.ordered then return []
      else
        change object fun node => { node with ordered := true }
        let order ← placeAll (placeWithin depth) (node.incoming.map (·.source))
        return order ++ [object]

def isAudioIndex (index : Value) : Build Bool :=
  if index.isNumber then return index.compareNumbers (.int 127) == some .gt
  else throw (.badType s!"an index cannot be {index.kindName}")

/-- Whether an object processes a signal. A graph does if one of its objects does. -/
def processesSignalWithin : Nat → Ref → Build Bool
  | 0, _ => throw .tooDeep
  | depth + 1, object => do
      let node ← node object
      if node.kind.isLanguage then notLowered
      else if node.isGraph then
        if ← node.body.objects.anyM fun inner => processesSignalWithin depth inner.2 then return true
        else
          node.body.inletObjects.anyM fun inlet => do isAudioIndex (← argument inlet "index")
      else return (← lowSpec object).signal

def processesSignal (object : Ref) : Build Bool := do
  processesSignalWithin ((← get).size + 1) object

def orderSignals (graph : Ref) : Build Unit := do
  changeBody graph fun body => { body with signalOrder := [] }
  let net ← get
  let leaves := (net.contents graph).filter fun object => (net.node object).isLeaf
  let order ← placeAll (placeWithin (net.size + 1)) leaves
  let processing ← order.filterM processesSignal
  changeBody graph fun body => { body with signalOrder := processing }

end PatchCompiler.Build
