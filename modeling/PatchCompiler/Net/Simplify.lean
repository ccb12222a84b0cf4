import PatchCompiler.Net.Creation

/-!
# Adders, fused operations and receivers

Passes over a reduced graph. Signals that meet at an inlet are added up by adders, so that at most
one signal arrives at any inlet. A product that goes only into a sum becomes one fused operation.
The receivers of one name become one receiver.
-/

namespace PatchCompiler.Build

def addUp (graph object : Ref) (inlet : Int) (signals : List Wire) : Build Unit := do
  match signals with
  | first :: second :: rest =>
    let mut last ← makePlain "__add~f" []
    add graph last
    rewire (some first) [{ first with target := last, inlet := 0 }]
    rewire (some second) [{ second with target := last, inlet := 1 }]
    for wire in rest do
      let next ← makePlain "__add~f" []
      add graph next
      connect ⟨last, 0, next, 0, .float⟩
      rewire (some wire) [{ wire with target := next, inlet := 1 }]
      last := next
    connect ⟨last, 0, object, inlet, .float⟩
  | _ => return

def cascadeWithin : Nat → Ref → Build Unit
  | 0, _ => throw .tooDeep
  | depth + 1, graph => do
      for object in (← get).contents graph do
        for place in List.range (← node object).inlets.length do
          let signals := ((← node object).inlets.getD place []).filter (·.isSignal)
          addUp graph object place signals
        if (← node object).isGraph then cascadeWithin depth object

/-- Makes the addition of signals at inlets explicit, in the graph and the graphs in it. -/
def cascade (graph : Ref) : Build Unit := do
  cascadeWithin ((← get).size + 1) graph

/-- The sum that a product goes into, with the wire between them and the type of the fused
operation, if nothing else uses either of their inputs. -/
def fusedWith? (net : Net) (product : Ref) : Option (Wire × String) := do
  let node := net.node product
  if node.type != "__mul~f" then none
  else
    match node.inlets, node.outlets with
    | [_] :: [_] :: _, [wire] :: _ =>
      let sum := net.node wire.target
      let type ←
        if sum.type == "__add~f" then some "__fma~f"
        else if sum.type == "__sub~f" && wire.inlet == 0 then some "__fms~f"
        else none
      match sum.inlets, sum.outlets with
      | [_] :: [_] :: _, (_ :: _) :: _ => some (wire, type)
      | _, _ => none
    | _, _ => none

def otherPlace (place : Int) : Int :=
  if place % 2 = 0 then place + 1 else place - 1

def fuse (graph product : Ref) (wire : Wire) (type : String) : Build Unit := do
  let fused ← makePlain type []
  add graph fused
  for place in [0, 1] do
    let operand ← fetch (← fetch (← node product).inlets place) 0
    rewire (some operand) [{ operand with target := fused }]
  let sum := wire.target
  let addend ← fetch (← fetch (← node sum).inlets (otherPlace wire.inlet)) 0
  rewire (some addend) [{ addend with target := fused, inlet := 2 }]
  for out in ← fetch (← node sum).outlets 0 do
    connect { out with source := fused }
  for object in [product, sum] do
    match (← node object).parent with
    | some parent => remove parent object
    | none => throw (.noMember "an object is in no graph")

def fuseWithin : Nat → Ref → Build Unit
  | 0, _ => throw .tooDeep
  | depth + 1, graph => do
      for object in (← get).contents graph do
        match fusedWith? (← get) object with
        | some (wire, type) => fuse graph object wire type
        | none => if (← node object).isGraph then fuseWithin depth object

def fuseProducts (graph : Ref) : Build Unit := do
  fuseWithin ((← get).size + 1) graph

/-- Inserts a value behind those whose texts do not come after its own. -/
def insertByText (value : Value) : List Value → List Value
  | [] => [value]
  | first :: rest =>
    if value.display < first.display then value :: first :: rest
    else first :: insertByText value rest

/-- Values without repetition, in the order of their texts. Only what can be a name can be told
apart. -/
def distinctSorted (values : List Value) : Except Fault (List Value) :=
  values.foldlM (fun all value => do
    let _ ← Name.ofValue value
    return if all.any (·.equals value) then all else insertByText value all) []

def argumentsOf (objects : List Ref) (name : String) : Build (List Value) :=
  objects.mapM fun object => argument object name

/-- Inserts an object behind those of at least its priority. -/
def insertByPriority (item : Value × Ref) : List (Value × Ref) → Except Fault (List (Value × Ref))
  | [] => .ok [item]
  | first :: rest => do
      if ← isIndexBefore first.1 item.1 then return item :: first :: rest
      else return first :: (← insertByPriority item rest)

def byPriority (objects : List (Value × Ref)) : Except Fault (List (Value × Ref)) :=
  objects.foldlM (fun sorted item => insertByPriority item sorted) []

/-- The arguments and annotations of the receiver that several receivers of a name become. They
must agree in what is open to the outside. -/
def groupArguments (graph : Ref) (name : Name) (receivers : List Ref) : Build (Record × Record) := do
  let exports := (← ofExcept (distinctSorted (← argumentsOf receivers "extern"))).filter
    fun value => !value.equals .null
  let mut attributes : List Value := []
  for value in ← argumentsOf receivers "attributes" do
    if 0 < (← ofExcept (countOf value)) then attributes := attributes ++ [value]
  let scopes ← receivers.mapM fun receiver => do
    match (← node receiver).annotations.get? "scope" with
    | some scope => return scope
    | none => throw (.missingField "scope")
  let scopes ← ofExcept (distinctSorted scopes)
  match exports with
  | first :: second :: _ =>
    reject graph (s!"Parameter \"{name.display}\" has conflicting extern types: {first.display} != " ++
        s!"{second.display}")
  | _ => pure ()
  if attributes.any fun a => !a.equals ((attributes.head?).getD .null) then
    reject graph s!"Conflicting min/max/default values for parameter \"{name.display}\""
  return ([("name", name.toValue), ("extern", (exports.head?).getD .null),
      ("attributes", (attributes.head?).getD (.record []))],
    [("scope", (scopes.head?).getD .null)])

def openReceiver (graph : Ref) (name : Name) (receivers : List Ref) : Build Ref := do
  let (arguments, annotations) ← groupArguments graph name receivers
  let receiver ← makeLow "__receive" .plain arguments annotations none
  checkMailboxName receiver arguments "Parameter and Event names may only contain"
  add graph receiver
  return receiver

def takeWires (receiver : Ref) (receivers : List Ref) : Build Unit := do
  for old in receivers do
    for wire in ← fetch (← node old).outlets 0 do
      connectAny { wire with source := receiver }

def removeAll (objects : List Ref) : Build Unit := do
  for object in objects do
    match (← node object).parent with
    | some parent => remove parent object
    | none => throw (.noMember "an object is in no graph")

/-- One receiver takes the wires of all receivers of a name, the most urgent first. -/
def groupName (graph : Ref) (name : Name) (receivers : List Ref) : Build Unit := do
  let receiver ← openReceiver graph name receivers
  let priorities ← argumentsOf receivers "priority"
  let ordered := (← ofExcept (byPriority (priorities.zip receivers))).map (·.2)
  takeWires receiver ordered
  removeAll ordered

def groupReceivers (graph : Ref) : Build Unit := do
  let net ← get
  for (name, receivers) in (net.node graph).body.registry.byType net.view.typeOf "__receive" do
    groupName graph name receivers

end PatchCompiler.Build
