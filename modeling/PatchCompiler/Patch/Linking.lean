import PatchCompiler.Patch.Basic

/-!
# Boxes of a canvas and their links

The inlet and outlet boxes of a canvas are its gates. They are numbered from left to right, gates at
one position in the order in which they were added.
The type of a link is that of the outlet it starts at.
-/

namespace PatchCompiler

/-- The type of the lets of a box that is not described otherwise: a tilde means signals. -/
def tildeType (type : String) : WireType :=
  if Text.endsWith "~" type then .float else .control

def catalogueLets (type : String) : List WireType × List WireType :=
  match Catalogue.languageSpec? type, Catalogue.irSpec? type with
  | some spec, _ => (spec.inlets.map (·.type), spec.outlets.map (·.type))
  | none, some spec => (spec.inlets, spec.outlets)
  | none, none => ([], [])

def letTypeAt (types : List WireType) (index : Int) : Except Fault (Option WireType) :=
  if index < types.length then (fetch types index).map some else .ok none

def gateTypes : List String := ["-->", "~f>", "~i>", "-~>"]

namespace Box

def outletType (box : Box) (index : Int) : Except Fault (Option WireType) :=
  match box.role with
  | .direct => letTypeAt (catalogueLets box.type).2 index
  | .switchcase => .ok (some .control)
  | .gate =>
    match box.items with
    | .text s :: _ =>
      if gateTypes.contains s then .ok (some (.ofName s)) else .ok (some (tildeType box.type))
    | _ => .ok (some (tildeType box.type))
  | .readymade _ outlets =>
    (fetch outlets index).map fun type =>
      match type with
      | .null => none
      | type => some (.ofName type.display)
  | _ => .ok (some (tildeType box.type))

def inletType (box : Box) (index : Int) : Except Fault (Option WireType) :=
  match box.role with
  | .direct => letTypeAt (catalogueLets box.type).1 index
  | _ => .ok (some (tildeType box.type))

end Box

namespace Drawing

/-- The gate at a place of a side. An object of the catalogue among the gates does not say what it
is a gate for. -/
def gateAt (gates : List Ref) (index : Int) : Drawing Box := do
  let gate ← box (← fetch gates index)
  if gate.role matches .direct then throw (.badType "the place of the let is missing")
  return gate

def outletType (ref : Ref) (index : Int) : Drawing (Option WireType) := do
  let node ← box ref
  if node.isCanvas then ofExcept ((← gateAt node.canvas.outlets index).outletType 0)
  else ofExcept (node.outletType index)

def inletType (ref : Ref) (index : Int) : Drawing (Option WireType) := do
  let node ← box ref
  if node.isCanvas then ofExcept ((← gateAt node.canvas.inlets index).inletType 0)
  else ofExcept (node.inletType index)

def sortGates (patch : Patch) (gates : List Ref) : List Ref :=
  gates.mergeSort fun a b => (patch.box a).x ≤ (patch.box b).x

def numberGates (gates : List Ref) : Drawing Unit :=
  gates.zipIdx.forM fun (gate, place) => change gate fun box => { box with place }

def sortIn (canvas ref : Ref) (gates : Canvas → List Ref) (keep : List Ref → Canvas → Canvas) :
    Drawing Unit := do
  let sorted := sortGates (← get) (gates (← box canvas).canvas ++ [ref])
  changeCanvas canvas (keep sorted)
  numberGates sorted

def arrange (canvas ref : Ref) : String → Drawing Unit
  | "inlet" | "inlet~" => sortIn canvas ref (·.inlets) fun inlets c => { c with inlets }
  | "outlet" | "outlet~" => sortIn canvas ref (·.outlets) fun outlets c => { c with outlets }
  | _ => pure ()

def add (canvas ref : Ref) : Drawing Unit := do
  change ref fun box => { box with parent := some canvas }
  changeCanvas canvas fun c => { c with boxes := c.boxes ++ [ref] }
  arrange canvas ref (← box ref).type

def makeLink (source : Ref) (outlet : Int) (target : Ref) (inlet : Int) (type : WireType) :
    Drawing Link := do
  let patch ← get
  set { patch with links := patch.links + 1 }
  return ⟨patch.links, source, outlet, target, inlet, type⟩

def argumentsText (box : Box) : String :=
  match box.arguments with
  | .list items => (Value.list items).inner
  | .named fields => (Value.record fields).inner

/-- Notes a link at one of its ends; at both ends of one box it is noted at the outlet. -/
def attach (ref : Ref) (link : Link) : Drawing Unit := do
  let node ← box ref
  let isDirect := match node.role with
    | .direct => true
    | _ => false
  if link.source = ref then
    if isDirect && (← ofExcept (node.outletType link.outlet)).isNone then
      failAs ref .cannotConnect
        s!"Connection made from non-existent outlet at {node.type}:{link.outlet}."
    else change ref fun b => { b with outlets := changeLinks link.outlet (· ++ [link]) b.outlets }
  else if link.target = ref then
    if isDirect && (← ofExcept (node.inletType link.inlet)).isNone then
      failAs ref .cannotConnect (s!"Connection made to non-existent inlet at [{node.type} " ++
        s!"{argumentsText node}]:{link.inlet}.")
    else change ref fun b => { b with inlets := changeLinks link.inlet (· ++ [link]) b.inlets }
  else throw (.failed "Adding a connection to the wrong object!")

/-- Takes the links of one number away; the let keeps its place. -/
def dropLink (index : Int) (link : Link) (lets : List (Int × List Link)) :
    Except Fault Unit × List (Int × List Link) :=
  let held := (lets.lookup index).getD []
  let lets := changeLinks index (List.eraseP fun l => l.number == link.number) lets
  if held.any fun l => l.number == link.number then (.ok (), lets)
  else (.error (.badValue "the link is not there"), lets)

def detach (ref : Ref) (link : Link) : Drawing Unit := do
  let node ← box ref
  if link.target = ref then
    let (result, inlets) := dropLink link.inlet link node.inlets
    change ref fun b => { b with inlets }
    ofExcept result
  else if link.source = ref then
    let (result, outlets) := dropLink link.outlet link node.outlets
    change ref fun b => { b with outlets }
    ofExcept result
  else
    let shown ← ofExcept node.display
    throw (.failed (s!"Connection {(← get).displayLink link} does not connect to this object " ++
      s!"{shown}."))

def join (canvas : Ref) (source : Int) (outlet : Int) (target : Int) (inlet : Int) :
    Drawing Unit := do
  let start ← fetch (← box canvas).canvas.boxes source
  let type ←
    match ← outletType start outlet with
    | some .mixed => do inletType (← fetch (← box canvas).canvas.boxes target) inlet
    | type => pure type
  let finish ← fetch (← box canvas).canvas.boxes target
  match type with
  | none => throw (.assertion "")
  | some type =>
    let link ← makeLink start outlet finish inlet type
    changeCanvas canvas fun c => { c with links := c.links ++ [link] }
    attach start link
    attach finish link

/-- Links two boxes of a canvas; a link that cannot be made is an error of the canvas. -/
def link (canvas : Ref) (source : Int) (outlet : Int) (target : Int) (inlet : Int) :
    Drawing Unit :=
  tryCatch (join canvas source outlet target inlet) fun _ =>
    failAs canvas .cannotConnect ("There was an error while connecting two objects. " ++
      "Have all objects been correctly instantiated? Have all inlets and outlets been declared?")

end Drawing

end PatchCompiler
