import PatchCompiler.Net.Reader
import PatchCompiler.Net.Prepare
import PatchCompiler.Net.Survey

/-!
# Programs

A prepared graph as a program: its low-level objects, the order in which they are initialised and
process signals, where messages go, and what can be reached from outside by name. Objects are known
by their identities.
-/

namespace PatchCompiler

namespace Program

structure Object where
  identity : Nat
  type : String
  arguments : Record

/-- A message that arrives at an inlet of an object. -/
structure Delivery where
  identity : Nat
  inlet : Int
  deriving DecidableEq, Repr

/-- What a sender is called outside. -/
structure Mailbox where
  exported : Value
  hash : Value
  display : Value
  name : String

/-- An object that sends messages, and where the messages of each outlet go. -/
structure Control where
  identity : Nat
  deliveries : List (List Delivery)
  mailbox : Option Mailbox := none

/-- An object that processes signals, with the buffers it reads and writes. -/
structure Signal where
  identity : Nat
  inputs : List Buffer
  outputs : List Buffer

structure Table where
  identity : Nat
  display : String
  hash : String
  exported : Value

structure Receiver where
  display : String
  hash : String
  exported : Value
  attributes : Value
  identity : Nat

end Program

structure Program where
  name : String
  objects : List Program.Object
  initial : List Nat
  tables : List (String × Program.Table)
  receivers : List (String × Program.Receiver)
  control : List Program.Control
  inputs : Int
  outputs : Int
  floatBuffers : Nat
  integerBuffers : Nat
  signals : List Program.Signal

/-- Sets the entry of a name; one that is there keeps its place. -/
def setEntry {κ α : Type} [DecidableEq κ] (name : κ) (item : α) : List (κ × α) → List (κ × α)
  | [] => [(name, item)]
  | (n, a) :: rest => if n = name then (n, item) :: rest else (n, a) :: setEntry name item rest

def codeName (name : String) : String :=
  match name.toList with
  | c :: _ => if Text.isDecimal c then "_" ++ name else name
  | [] => name

namespace Build

def isLetType (type : String) : Bool :=
  ["inlet", "__inlet", "outlet", "__outlet"].contains type

def objectsWithin : Nat → Ref → Build (List Program.Object)
  | 0, _ => throw .tooDeep
  | depth + 1, graph => do
      let inner ← ((← get).contents graph).mapM fun object => do
        let node ← node object
        if isLetType node.type then return []
        else if node.isGraph then objectsWithin depth object
        else if node.kind.isLanguage then notLowered
        else return [⟨node.identity, node.type, node.arguments⟩]
      return inner.flatten

def signalsWithin : Nat → Ref → Build (List Program.Signal)
  | 0, _ => throw .tooDeep
  | depth + 1, graph => do
      let inner ← (← node graph).body.signalOrder.mapM fun object => do
        let node ← node object
        if node.isGraph then signalsWithin depth object
        else
          let spec ← lowSpec object
          if !spec.signal then throw (.assertion "")
          let used (types : List WireType) (buffers : List Buffer) : Build (List Buffer) := do
            let kept ← buffers.zipIdx.filterM fun (_, place) => do
              return (← fetch types place).isSignal
            return kept.map (·.1)
          return [⟨node.identity, ← used spec.inlets node.inletBuffers,
            ← used spec.outlets node.outletBuffers⟩]
      return inner.flatten

def signalList (graph : Ref) : Build (List Program.Signal) := do
  signalsWithin ((← get).size + 1) graph

/-- The objects to be initialised. Those that process signals come first, in their order. -/
def initialWithin : Nat → Ref → Build (List Nat)
  | 0, _ => throw .tooDeep
  | depth + 1, graph => do
      let inner ← ((← get).contents graph).mapM fun object => do
        let node ← node object
        if node.isGraph then initialWithin depth object
        else if node.kind.isLanguage then notLowered
        else return if (← lowSpec object).init then [node.identity] else []
      let all := inner.flatten
      let processing := (← signalList graph).map (·.identity)
      let early := processing.filter all.contains
      return early ++ all.filter fun identity => !early.contains identity

/-- Where a message goes that arrives at an inlet: through graphs and their outlets to objects. -/
def deliveriesWithin : Nat → Ref → Int → Build (List Program.Delivery)
  | 0, _, _ => throw .tooDeep
  | depth + 1, object, inlet => do
      let node ← node object
      match node.kind with
      | .graph => do
          let entry ← Build.node (← fetch node.body.inletObjects inlet)
          let wires ← fetch entry.outlets 0
          return (← (wires.filter (·.isControl)).mapM fun wire =>
            deliveriesWithin depth wire.target wire.inlet).flatten
      | .outlet => do
          let graph ← Build.node (← parentOf object)
          let index ← indexValue (← argument object "index")
          let wires ← fetch graph.outlets index
          return (← wires.mapM fun wire =>
            deliveriesWithin depth wire.target wire.inlet).flatten
      | kind =>
        if kind.isLanguage then notLowered
        else return [⟨node.identity, inlet⟩]

/-- A message passes every inlet of every graph at most once unless it goes round in circles. -/
def deliveryDepth (net : Net) : Nat :=
  net.nodes.foldl (fun sum node => sum + 2 * node.inlets.length + 2) 1

def deliveries (object : Ref) (inlet : Int) : Build (List Program.Delivery) := do
  deliveriesWithin (deliveryDepth (← get)) object inlet

def senderControl (object : Ref) : Build Program.Control := do
  let node ← node object
  let receivers ← resolve (← parentOf object) (← nameOf object) ["__receive"]
  let delivered ← receivers.mapM fun receiver => deliveries receiver 0
  let exported ← argument object "extern"
  let hash ← argument object "hash"
  let display ← argument object "name"
  match display with
  | .text name =>
    return ⟨node.identity, [delivered.flatten], some ⟨exported, hash, display, codeName name⟩⟩
  | _ => throw (.badType "a name is no text")

def controlOf (object : Ref) : Build (List Program.Control) := do
  let node ← node object
  if node.kind = .sender then return [← senderControl object]
  else if node.kind.isLanguage then notLowered
  else if (← lowSpec object).control then
    let delivered ← node.outlets.mapM fun wires => do
      return (← (wires.filter (·.isControl)).mapM fun wire =>
        deliveries wire.target wire.inlet).flatten
    return [⟨node.identity, delivered, none⟩]
  else return []

def controlWithin : Nat → Ref → Build (List Program.Control)
  | 0, _ => throw .tooDeep
  | depth + 1, graph => do
      let inner ← ((← get).contents graph).mapM fun object => do
        if (← node object).isGraph then controlWithin depth object else controlOf object
      return inner.flatten

/-- The text of a name, which what is open to the outside must have. -/
def nameText (name : Name) : Build String :=
  match name with
  | .word text => return text
  | _ => throw (.badType "a name is no text")

def nameHash (name : String) : Build String := do
  return Hash.literal (← ofExcept (Hash.ofText name))

def tableList (graph : Ref) : Build (List (String × Program.Table)) := do
  let net ← get
  let registry := (net.node graph).body.registry
  let named := (registry.byType net.view.typeOf "table").foldl
    (fun all entry => setEntry entry.1 entry.2 all) (registry.byType net.view.typeOf "__table")
  let mut tables : List (String × Program.Table) := []
  for (name, objects) in named do
    let name ← nameText name
    let key := codeName name
    match tables.lookup key, objects with
    | none, object :: _ =>
      let hash ← nameHash name
      let exported ← argument object "extern"
      tables := tables ++ [(key, ⟨(← node object).identity, name, hash, exported⟩)]
    | _, _ => pure ()
  return tables

def receiverList (graph : Ref) : Build (List (String × Program.Receiver)) := do
  let net ← get
  let mut receivers : List (String × Program.Receiver) := []
  for (name, objects) in (net.node graph).body.registry.byType net.view.typeOf "__receive" do
    match objects with
    | object :: _ =>
      let node ← node object
      let name ← nameText name
      let hash ← nameHash name
      let exported ← argument object "extern"
      let attributes ← argument object "attributes"
      receivers := setEntry (codeName name) ⟨name, hash, exported, attributes, node.identity⟩
        receivers
    | [] => pure ()
  return receivers

def greatest (channels : List Int) : Int :=
  match channels with
  | [] => 0
  | c :: cs => cs.foldl max c

def program (graph : Ref) : Build Program := do
  let net ← get
  let depth := net.size + 1
  let objects ← objectsWithin depth graph
  let initial ← initialWithin depth graph
  let tables ← tableList graph
  let receivers ← receiverList graph
  let control ← controlWithin depth graph
  let signals ← signalList graph
  return {
    name := (net.node graph).body.name
    objects, initial, tables, receivers, control, signals
    inputs := greatest (net.inputChannels graph true)
    outputs := greatest (net.outputChannels graph true)
    floatBuffers := net.pool.float.total
    integerBuffers := net.pool.integer.total }

end Build

namespace Program

def label (program : Program) (identity : Nat) : String :=
  match program.objects.findIdx? fun object => object.identity == identity with
  | some place => s!"o{place}"
  | none => "#"

mutual

def relabel (name : Nat → String) : Value → Value
  | .object identity => .text (name identity)
  | .list items => .list (relabelItems name items)
  | .record fields => .record (relabelFields name fields)
  | value => value

def relabelItems (name : Nat → String) : List Value → List Value
  | [] => []
  | v :: rest => relabel name v :: relabelItems name rest

def relabelFields (name : Nat → String) : List (String × Value) → List (String × Value)
  | [] => []
  | (field, v) :: rest => (field, relabel name v) :: relabelFields name rest

end

def bufferValue (buffer : Buffer) : Value :=
  .record [("type", .text buffer.kind.name), ("index", .int buffer.index)]

def toValue (program : Program) : Value :=
  let name := program.label
  let id := fun identity => Value.text (name identity)
  let delivery := fun (d : Delivery) =>
    Value.record [("id", id d.identity), ("inletIndex", .int d.inlet)]
  let control := fun (c : Control) =>
    let deliveries := c.deliveries.map fun list => Value.list (list.map delivery)
    let outside :=
      match c.mailbox with
      | some box =>
        [("extern", box.exported), ("hash", box.hash), ("display", box.display),
          ("name", Value.text box.name)]
      | none => []
    Value.record ([("id", id c.identity), ("onMessage", .list deliveries)] ++ outside)
  let signal := fun (s : Signal) =>
    Value.record [("id", id s.identity), ("inputBuffers", .list (s.inputs.map bufferValue)),
      ("outputBuffers", .list (s.outputs.map bufferValue))]
  .record
    [("name", .record [("escaped", .text (Text.toName program.name)),
        ("display", .text program.name)]),
      ("objects", .record (program.objects.map fun o =>
        (name o.identity,
          .record [("args", .record (relabelFields name o.arguments)),
            ("type", .text o.type)]))),
      ("init", .record [("order", .list (program.initial.map id))]),
      ("tables", .record (program.tables.map fun entry =>
        (entry.1, .record [("id", id entry.2.identity), ("display", .text entry.2.display),
          ("hash", .text entry.2.hash), ("extern", entry.2.exported)]))),
      ("control", .record
        [("receivers", .record (program.receivers.map fun entry =>
            (entry.1, .record [("display", .text entry.2.display), ("hash", .text entry.2.hash),
              ("extern", entry.2.exported), ("attributes", entry.2.attributes),
              ("ids", .list [id entry.2.identity])]))),
          ("sendMessage", .list (program.control.map control))]),
      ("signal", .record
        [("numInputBuffers", .int program.inputs), ("numOutputBuffers", .int program.outputs),
          ("numTemporaryBuffers", .record [("float", .int program.floatBuffers),
            ("integer", .int program.integerBuffers)]),
          ("processOrder", .list (program.signals.map signal))])]

def signalLines (program : Program) : List String :=
  program.signals.filterMap fun signal =>
    (program.objects.find? fun object => object.identity == signal.identity).map fun object =>
      Node.describe object.type object.arguments

def signalReport (program : Program) : List String :=
  if program.signalLines.isEmpty then []
  else "" :: "=== Signal Order ===" :: program.signalLines

end Program

end PatchCompiler
