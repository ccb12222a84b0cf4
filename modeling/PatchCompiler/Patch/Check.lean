import PatchCompiler.Patch.Boxes

/-!
# Checking a patch

When a patch has been read, every box looks at the links it has got. A box that expects a signal
and gets messages is given a constant signal that the messages set.
-/

namespace PatchCompiler.Drawing

def unlist (canvas : Ref) (link : Link) : Drawing Unit := do
  let links := (← box canvas).canvas.links
  if links.any fun l => l.number == link.number then
    changeCanvas canvas fun c =>
      { c with links := c.links.eraseP fun l => l.number == link.number }
  else throw (.badValue "the link is not there")

def enlist (canvas : Ref) (link : Link) (first second : Ref) : Drawing Unit := do
  changeCanvas canvas fun c => { c with links := c.links ++ [link] }
  attach first link
  attach second link

/-- Puts a constant signal before an inlet. Messages that came to the inlet go to the constant. -/
def insertSignal (ref : Ref) (inlet : Int) (held : List Link) : Drawing Unit := do
  let node ← box ref
  let signal ← makeDirect "var" [.int 0] node.x (node.y - 5)
  let canvas ← parentOf ref
  add canvas signal
  enlist canvas (← makeLink signal 0 ref inlet .float) signal ref
  for old in held.filter fun link => link.type = .control do
    enlist canvas (← makeLink old.source old.outlet signal 0 .control) signal old.source
    unlist canvas old
    detach old.source old
    detach ref old

def hasSignal (links : List Link) : Bool :=
  links.any fun link => link.type = .float

def checkSignalInlets (ref : Ref) : Drawing Unit := do
  let left := (← box ref).linksAtInlet 0
  if !hasSignal left then insertSignal ref 0 left
  let node ← box ref
  let right := node.linksAtInlet 1
  if !node.items.isEmpty && hasSignal right then
    fail ref "signal outlet connected to nonsignal inlet"
  if node.items.isEmpty && !hasSignal right && !right.isEmpty then insertSignal ref 1 right

def checkOperator (ref : Ref) : Drawing Unit := do
  if Text.endsWith "~" (← box ref).type then checkSignalInlets ref
  let setConstant := fun (x : Binary64) =>
    change ref fun b => { b with constant := some (.real x) }
  match (← box ref).items with
  | [] => setConstant .zero
  | value :: _ =>
    match value.toDouble with
    | .ok x => setConstant x
    | .error _ =>
      warn ref s!"\"{value.display}\" cannot be resolved to a number. Defaulting to zero."
      setConstant .zero

def checkAudio (ref : Ref) : Drawing Unit := do
  let node ← box ref
  for (inlet, links) in node.inlets do
    if links.any fun link => link.type = .control then
      failAs ref .unsupportedConnection (s!"{node.type} does not support control connections " ++
        s!"(inlet {inlet}). They should be removed.")

def checkSend (ref : Ref) : Drawing Unit := do
  let node ← box ref
  if node.items.isEmpty then
    warnAs ref .uselessObject (s!"No name was given to this {node.type} object. " ++
      "It should have a name to reduce the risk of errors.")
  if (node.linksAtInlet 0).isEmpty then
    warnAs ref .uselessObject
      "This object has no inlet connections. It does nothing and will be removed."
  if ["s", "send"].contains node.type && !(node.linksAtInlet 1).isEmpty then
    failAs ref .missingArgument ("Connections to the right inlet of a send object " ++
      "are not supported. A name should be given.")

def checkRight (ref : Ref) (name : String) : Drawing Unit := do
  if !((← box ref).linksAtInlet 1).isEmpty then
    warn ref s!"The right inlet of {name} is not supported. It will not do anything."

def checkFirstInlet (ref : Ref) : Drawing Unit := do
  let held := (← box ref).linksAtInlet 0
  if !held.isEmpty && !hasSignal held then insertSignal ref 0 held

def checkRootGates (ref : Ref) : Drawing Unit := do
  let patch ← get
  let types := (patch.box ref).canvas.boxes.map fun b => (patch.box b).type
  if types.any ["inlet~", "outlet~"].contains then
    failAs ref .topLevelSignalLets
      "Top-level graphs may not contain inlet~ or outlet~ objects. Use adc~ and dac~."
  if types.any ["inlet", "outlet"].contains then
    warn ref ("Control inlets and outlets in top-level graphs don't do " ++
      "anything. Use receive and send objects.")

def checkWithin : Nat → Ref → Drawing Unit
  | 0, _ => pure ()
  | depth + 1, ref => do
      let node ← box ref
      match node.role with
      | .operator => checkOperator ref
      | .audio => checkAudio ref
      | .receive _ =>
        if ["r~", "receive~"].contains node.type && !(node.linksAtInlet 0).isEmpty then
          fail ref "[receive~] inlet connections are not supported."
      | .send _ => checkSend ref
      | .route => checkRight ref "route"
      | .select => checkRight ref "select"
      | .signalCanvas | .canvas => do
          if node.role matches .signalCanvas then checkFirstInlet ref
          if node.parent.isNone then checkRootGates ref
          for inner in (← box ref).canvas.boxes do
            checkWithin depth inner
      | _ => pure ()

def check (ref : Ref) : Drawing Unit := do
  checkWithin ((← get).size + 1) ref

end PatchCompiler.Drawing
