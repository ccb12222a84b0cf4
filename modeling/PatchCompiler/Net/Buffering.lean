import PatchCompiler.Net.SignalOrder

/-!
# Buffers for signals

Every outlet that sends a signal gets a buffer, in the order in which signals are processed. A
buffer is free again when all its readers have read it.
-/

namespace PatchCompiler

def assignAt {α : Type} (items : List α) (index : Int) (item : α) : Except Fault (List α) :=
  match place? items.length index with
  | some place => .ok (items.set place item)
  | none => .error .assignedOutOfRange

namespace Build

def sourceBuffer (wire : Wire) : Build Buffer := do
  let source ← node wire.source
  if source.kind.isLanguage then notLowered
  else fetch source.outletBuffers wire.outlet

def retain (buffer : Buffer) (count : Int) : Build Unit := do
  let net ← get
  let (_, pool) ← ofExcept (net.pool.retain buffer count)
  set { net with pool }

def acquire (kind : BufferKind) (count : Int) (excluded : List Buffer) : Build Buffer := do
  let net ← get
  let (buffer, pool) ← ofExcept (net.pool.acquire kind count excluded)
  set { net with pool }
  return buffer

def signals (wires : List Wire) : List Wire :=
  wires.filter (·.isSignal)

def bufferKind : WireType → BufferKind
  | .float => .float
  | .integer => .integer
  | type => .other type.name

/-- Gives an inlet of an object the buffer its signal arrives in. The object is one reader less that
has not read it yet. -/
def readInlet (object : Ref) (place : Nat) : Build Unit := do
  match signals ((← node object).inlets.getD place []) with
  | [] => pure ()
  | [wire] =>
    let buffer ← sourceBuffer wire
    let buffers ← ofExcept (assignAt (← node object).inletBuffers wire.inlet buffer)
    change object fun node => { node with inletBuffers := buffers }
    retain buffer (-1)
  | wires => throw (.rejected s!"This object has {wires.length} (> 1) signal inputs.")

/-- Gives an outlet that sends a signal a buffer, unless it has one. A buffer that nobody reads is
excluded from then on, since the outlets of one object write to different buffers. -/
def fillOutlet (object : Ref) (excluded : List Buffer) (place : Nat) : Build (List Buffer) := do
  let type ← outletType object place
  let node ← node object
  if type.isSignal && (← fetch node.outletBuffers place).kind == .zero then
    let readers := (node.outlets.getD place []).length
    let buffer ← acquire (bufferKind type) readers excluded
    change object fun node => { node with outletBuffers := node.outletBuffers.set place buffer }
    return if readers = 0 then buffer :: excluded else excluded
  else return excluded

/-- Gives an object the buffers it reads and new ones for its outlets. -/
def assignObject (object : Ref) : Build Unit := do
  (List.range (← node object).inlets.length).forM (readInlet object)
  discard ((List.range (← node object).outlets.length).foldlM (fillOutlet object) [])

/-- Passes the buffer that arrives at one inlet of a graph on to the inlet object. `last` is the
inlet object seen last. -/
def enterInlet (graph : Ref) (last : Option Ref) (place : Nat) : Build (Option Ref) := do
  match signals ((← node graph).inlets.getD place []) with
  | [] => return last
  | [wire] =>
    let buffer ← sourceBuffer wire
    let inlet ← fetch (← node graph).body.inletObjects wire.inlet
    let buffers ← ofExcept (assignAt (← node inlet).outletBuffers 0 buffer)
    change inlet fun node => { node with outletBuffers := buffers }
    let readers := signals (← fetch (← node inlet).outlets 0)
    retain buffer (readers.length - 1)
    return some inlet
  | wires =>
    match last with
    | none => throw .unsetName
    | some inlet =>
      let file := (← node (← parentOf inlet)).body.file
      throw (.rejected (s!"Object {← display inlet} in graph {file} has {wires.length} (> 1) " ++
          "signal inputs."))

def assignInlets (graph : Ref) : Build Unit := do
  discard ((List.range (← node graph).inlets.length).foldlM (enterInlet graph) none)

/-- Passes the buffer that arrives at an outlet object of a graph on to the outlet. -/
def leaveOutlet (graph outlet : Ref) (place : Nat) : Build Unit := do
  match signals (← fetch (← node outlet).inlets 0) with
  | [] => pure ()
  | [wire] =>
    let buffer ← sourceBuffer wire
    let buffers ← ofExcept (assignAt (← node graph).outletBuffers place buffer)
    change graph fun node => { node with outletBuffers := buffers }
    let readers ← fetch (← node graph).outlets place
    retain buffer (readers.length - 1)
  | wires =>
    let file := (← node (← parentOf outlet)).body.file
    throw (.rejected (s!"Object {← display outlet} in graph {file} has {wires.length} (> 1) " ++
        "signal inputs."))

/-- Passes the buffers that arrive at the outlet objects of a graph on to its outlets. -/
def assignOutlets (graph : Ref) : Build Unit := do
  (← node graph).body.outletObjects.zipIdx.forM fun (outlet, place) => leaveOutlet graph outlet place

def assignWithin : Nat → Ref → Build Unit
  | 0, _ => throw .tooDeep
  | depth + 1, graph => do
      orderSignals graph
      assignInlets graph
      (← node graph).body.signalOrder.forM fun object => do
        if (← node object).isGraph then assignWithin depth object else assignObject object
      assignOutlets graph

/-- Orders the signals of a graph and of the graphs in it and gives them buffers of a new pool. -/
def assignBuffers (graph : Ref) : Build Unit := do
  modify fun net => { net with pool := .empty }
  assignWithin ((← get).size + 1) graph

end Build

end PatchCompiler
