import PatchCompiler.Patch.Boxes

/-!
# The graph of a patch

A patch that has been checked is written in the graph language. Some boxes become graphs of several
objects.
-/

namespace PatchCompiler

def objectValue (type : String) (arguments : Value) (x y : Int) (extra : Record := []) : Value :=
  .record ([("type", .text type), ("args", arguments),
    ("properties", .record [("x", .int x), ("y", .int y)])] ++ extra)

def publicScope : Record :=
  [("annotations", .record [("scope", .text "public")])]

def wireValue (source : String) (outlet : Int) (target : String) (inlet : Int)
    (type : WireType) : Value :=
  .record [("from", .record [("id", .text source), ("outlet", .int outlet)]),
    ("to", .record [("id", .text target), ("inlet", .int inlet)]), ("type", .text type.name)]

def graphValue (declared : List Value) (objects : Record) (wires : List Value) (x y : Int) :
    Value :=
  .record [("type", .text "graph"), ("imports", .list []), ("args", .list declared),
    ("objects", .record objects), ("connections", .list wires),
    ("properties", .record [("x", .int x), ("y", .int y)])]

namespace Split

def gate (type : String) (index : Nat) : Value :=
  objectValue type (.record [("type", .text "-->"), ("index", .int index)]) 0 0

def wire (source : String) (outlet : Nat) (target : String) : Value :=
  wireValue source outlet target 0 .control

/-- What stands between a case and its outlet. -/
structure Branch where
  name : String
  type : String
  arguments : Value
  outlets : List Nat

/-- A graph that sends a message to the outlet of the case it matches. The last outlet is for
messages that match none, and the second inlet does nothing. -/
def cases (values : List Value) (branch : Branch) (x y : Int) : Value :=
  let count := values.length
  let places := List.range count
  let objects : Record :=
    [("inlet", gate "inlet" 0), ("inlet_right", gate "inlet" 1),
      ("switchcase", objectValue "__switchcase" (.record [("cases", .list values)]) 0 0),
      ("outlet_right", gate "outlet" count)] ++
    places.flatMap fun (i : Nat) =>
      [(s!"{branch.name}_{i}", objectValue branch.type branch.arguments 0 0),
        (s!"outlet_{i}", gate "outlet" i)]
  let wires :=
    [wire "inlet" 0 "switchcase", wire "switchcase" count "outlet_right"] ++
    places.flatMap fun (i : Nat) =>
      wire "switchcase" i s!"{branch.name}_{i}" ::
        branch.outlets.map fun outlet => wire s!"{branch.name}_{i}" outlet s!"outlet_{i}"
  graphValue [] objects wires x y

def route (values : List Value) (x y : Int) : Value :=
  cases values
    ⟨"slice", "slice", .record [("index", .int 1), ("length", .int (-1))], [0, 1]⟩ x y

def select (values : List Value) (x y : Int) : Value :=
  cases values ⟨"__cast_b", "__cast_b", .record [], [0]⟩ x y

/-- A graph that sends the elements of a message to its outlets, the last first. -/
def unpack (count : Nat) (x y : Int) : Value :=
  let places := (List.range count).reverse
  let objects : Record := ("inlet", gate "inlet" 0) :: places.flatMap fun (i : Nat) =>
    [(s!"slice_{i}", objectValue "slice"
        (.record [("index", .int i), ("length", .int 1)]) 0 0),
      (s!"outlet_{i}", gate "outlet" i)]
  let wires := places.flatMap fun (i : Nat) =>
    [wire "inlet" 0 s!"slice_{i}", wire s!"slice_{i}" 0 s!"outlet_{i}"]
  graphValue [] objects wires x y

end Split

def mailboxStart (type : String) : String :=
  if ["s~", "send~", "r~", "receive~"].contains type then "sndrcv_sig_"
  else if ["throw~", "catch~"].contains type then "thrwctch_sig_"
  else ""

def optionText : Option String → Value
  | some s => .text s
  | none => .null

def bareType (type : String) : String :=
  String.ofList (((type.toList.dropWhile (· == '~')).reverse.dropWhile (· == '~')).reverse)

/-- Types of objects of the catalogue that are known to the whole graph. -/
def publicTypes : List String :=
  ["table", "__table", "send", "__send", "receive", "__receive"]

namespace Declaration

def toValue (declaration : Declaration) : Value :=
  .record [("name", .text declaration.name), ("description", .text ""),
    ("value_type", .text declaration.type), ("default", declaration.default),
    ("required", .bool declaration.required)]

end Declaration

namespace Patch

def objectOf (patch : Patch) (box : Box) : Except Fault Value :=
  match box.role with
  | .plain => .error (.notImplemented "")
  | .canvas | .signalCanvas => .error (.notImplemented "")
  | .direct =>
    .ok (objectValue box.type (.record box.fields) box.x box.y
      (if publicTypes.contains box.type then publicScope else [("annotations", .record [])]))
  | .switchcase =>
    .ok (objectValue "__switchcase" (.record [("cases", .list box.items)]) box.x box.y)
  | .audio => do
      let channels ← box.items.mapM Value.toInteger
      let channels := if channels.isEmpty then [1, 2] else channels
      return objectValue (bareType box.type)
        (.record [("channels", .list (channels.map .int))]) box.x box.y
  | .operator =>
    match box.constant with
    | none => .error (.noMember "constant")
    | some k =>
      .ok (objectValue ((operators.lookup box.type).getD box.type) (.record [("k", k)])
        box.x box.y)
  | .gate => do
      let type ← box.outletType 0
      return objectValue (bareType box.type)
        (.record [("name", .text ""), ("index", .int box.place),
          ("type", optionText (type.map WireType.name))]) box.x box.y
  | .message => .ok (objectValue "message" (.record box.fields) box.x box.y)
  | .pack values => .ok (objectValue "__pack" (.record [("values", .list values)]) box.x box.y)
  | .receive receiving =>
    let depth := ((box.parent.map patch.depth).getD 0 : Nat)
    let priority := receiving.priority.getD (depth * 1000 - receiving.number)
    .ok (objectValue "receive"
      (.record [("name", .text (mailboxStart box.type ++ receiving.name)),
        ("extern", optionText receiving.exported),
        ("attributes", .record receiving.attributes), ("priority", .int priority)])
      box.x box.y publicScope)
  | .route => .ok (Split.route box.items box.x box.y)
  | .select => .ok (Split.select box.items box.x box.y)
  | .send sending =>
    .ok (objectValue "send"
      (.record [("name", .text (mailboxStart box.type ++ sending.name)),
        ("extern", optionText sending.exported),
        ("attributes", .record sending.attributes)]) box.x box.y publicScope)
  | .trigger => .ok (objectValue "sequence" (.record [("casts", .list box.items)]) box.x box.y)
  | .table tabling =>
    .ok (objectValue "table"
      (.record [("name", .text tabling.name), ("size", .int tabling.size), ("values", .list []),
        ("extern", .bool tabling.exported)]) box.x box.y publicScope)
  | .unpack => .ok (Split.unpack box.items.length box.x box.y)
  | .readymade graph _ => .ok graph

/-- The name of a box in the graph of its canvas: its type and its place. -/
def nameIn (patch : Patch) (canvas : Canvas) (ref : Ref) : String :=
  s!"{(patch.box ref).type}_{canvas.boxes.findIdx (· == ref)}"

def graphWithin (patch : Patch) (exporting : Bool) : Nat → Ref → Except Fault Value
  | 0, _ => .error .tooDeep
  | depth + 1, ref => do
      let box := patch.box ref
      if box.isCanvas then
        let canvas := box.canvas
        if canvas.declared.any Option.isNone then
          throw (.assertion "Graph is missing a @hv_arg.")
        let declared := if exporting then canvas.declared.filterMap id else []
        let objects ← canvas.boxes.mapM fun inner => do
          return (patch.nameIn canvas inner, ← graphWithin patch false depth inner)
        let wires := canvas.links.map fun link =>
          wireValue (patch.nameIn canvas link.source) link.outlet
            (patch.nameIn canvas link.target) link.inlet link.type
        return graphValue (declared.map Declaration.toValue) objects wires box.x box.y
      else patch.objectOf box

/-- The graph of a box. With `exporting` a canvas says which arguments it takes. -/
def graphOf (patch : Patch) (exporting : Bool) (ref : Ref) : Except Fault Value :=
  patch.graphWithin exporting (patch.size + 1) ref

end Patch

end PatchCompiler
