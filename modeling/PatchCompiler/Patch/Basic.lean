import PatchCompiler.Net.Survey
import PatchCompiler.Notice

/-!
# Patches

A patch is a table of boxes. A box has a type, arguments and a position, and it keeps the links that
start and end at it. A canvas is a box that contains boxes.

Steps on a patch are in `Drawing`. A step that fails leaves the patch as it was at the failure.
-/

namespace PatchCompiler

/-- A link from an outlet of one box to an inlet of another. Every link has a number of its own. -/
structure Link where
  number : Nat
  source : Ref
  outlet : Int
  target : Ref
  inlet : Int
  type : WireType
  deriving DecidableEq, Repr

inductive BoxArguments where
  | list (items : List Value)
  | named (fields : Record)
  deriving Inhabited

/-- What is known of a receiver. -/
structure Receiving where
  name : String := ""
  exported : Option String := none
  attributes : Record := []
  priority : Option Int := none
  number : Nat := 0

/-- What is known of a sender. -/
structure Sending where
  name : String := ""
  exported : Option String := none
  attributes : Record := []

structure Tabling where
  name : String := ""
  size : Int := 0
  exported : Bool := false

inductive Role where
  | plain
  | direct
  | switchcase
  | audio
  | operator
  | gate
  | message
  | pack (values : List Value)
  | receive (receiving : Receiving)
  | route
  | select
  | send (sending : Sending)
  | trigger
  | table (tabling : Tabling)
  | unpack
  | readymade (graph : Value) (outlets : List Value)
  | canvas
  | signalCanvas
  deriving Inhabited

namespace Role

def isCanvas : Role → Bool
  | .canvas | .signalCanvas => true
  | _ => false

end Role

/-- An argument that a canvas declares. -/
structure Declaration where
  name : String
  type : String
  default : Value
  required : Bool

structure Canvas where
  path : String := ""
  boxes : List Ref := []
  links : List Link := []
  inlets : List Ref := []
  outlets : List Ref := []
  /-- Arguments are declared by place, so places may be empty. -/
  declared : List (Option Declaration) := []
  title : Option String := none
  deriving Inhabited

structure Box where
  type : String
  role : Role
  arguments : BoxArguments
  x : Int := 0
  y : Int := 0
  parent : Option Ref := none
  inlets : List (Int × List Link) := []
  outlets : List (Int × List Link) := []
  warnings : List Notice := []
  errors : List Notice := []
  place : Nat := 0
  /-- The constant of an operator, known when it has been checked. -/
  constant : Option Value := none
  canvas : Canvas := {}
  deriving Inhabited

namespace Box

def items (box : Box) : List Value :=
  match box.arguments with
  | .list items => items
  | .named _ => []

def fields (box : Box) : Record :=
  match box.arguments with
  | .list _ => []
  | .named fields => fields

def isCanvas (box : Box) : Bool :=
  box.role.isCanvas

def words (box : Box) : List String :=
  match box.arguments with
  | .list items => items.map Value.display
  | .named fields => fields.map (·.1)

/-- An argument of a canvas of the library, which is shown only if it is a word. -/
def wordOf : Value → Except Fault String
  | .text word => .ok word
  | _ => .error (.badType "only words are joined")

def display (box : Box) : Except Fault String :=
  match box.role with
  | .canvas =>
    match box.canvas.title with
    | some title => .ok (if title.isEmpty then Path.baseName box.canvas.path else title)
    | none => .ok (Path.baseName box.canvas.path)
  | .signalCanvas => do
      let words ← box.items.tail.mapM wordOf
      return "[" ++ Path.withoutEnding (Path.baseName box.canvas.path) ++ " " ++
        Text.join " " words ++ "]"
  | _ =>
    if box.words.isEmpty then .ok ("[" ++ box.type ++ "]")
    else .ok ("[" ++ box.type ++ " " ++ Text.join " " box.words ++ "]")

def linksAtInlet (box : Box) (inlet : Int) : List Link :=
  (box.inlets.lookup inlet).getD []

end Box

def changeLinks (index : Int) (f : List Link → List Link) :
    List (Int × List Link) → List (Int × List Link)
  | [] => [(index, f [])]
  | (i, held) :: rest =>
    if i = index then (i, f held) :: rest else (i, held) :: changeLinks index f rest

structure Patch where
  boxes : Array Box := #[]
  links : Nat := 0
  receivers : Nat := 0
  serial : Nat := 1000
  counter : Counter := []
  searchPaths : List String := []
  deriving Inhabited

namespace Patch

def empty : Patch := {}

def box (patch : Patch) (ref : Ref) : Box :=
  patch.boxes.getD ref default

def size (patch : Patch) : Nat :=
  patch.boxes.size

def change (patch : Patch) (ref : Ref) (f : Box → Box) : Patch :=
  { patch with boxes := patch.boxes.modify ref f }

/-- The canvas and the canvases around it, from the inside out, as many as `depth` allows. -/
def aroundWithin (patch : Patch) : Nat → Ref → List Ref
  | 0, _ => []
  | depth + 1, canvas =>
    canvas ::
      match (patch.box canvas).parent with
      | some parent => aroundWithin patch depth parent
      | none => []

def around (patch : Patch) (canvas : Ref) : List Ref :=
  patch.aroundWithin patch.size canvas

def depth (patch : Patch) (canvas : Ref) : Nat :=
  (patch.around canvas).length

/-- Where a box is: the canvases around it, from the outside in. A canvas counts itself. -/
def hierarchy (patch : Patch) (ref : Ref) : Except Fault (List String) :=
  let canvases :=
    if (patch.box ref).isCanvas then patch.around ref
    else ((patch.box ref).parent.map patch.around).getD []
  if canvases.isEmpty then .ok ["unattached"]
  else canvases.reverse.mapM fun canvas => (patch.box canvas).display

def isPart (patch : Patch) (canvas : Ref) : Bool :=
  match (patch.box canvas).parent with
  | some parent => (patch.box parent).canvas.path == (patch.box canvas).canvas.path
  | none => false

def isBeingRead (patch : Patch) (canvas : Ref) (path : String) : Bool :=
  (patch.around canvas).any fun c => (patch.box c).canvas.path == path

def displayLink (patch : Patch) (link : Link) : String :=
  s!"{(patch.box link.source).type}_#:{link.outlet} {link.type.name} " ++
    s!"{(patch.box link.target).type}_#:{link.inlet}"

def locate (patch : Patch) (ref : Ref) (notice : Notice) : Except Fault Notice := do
  let box := patch.box ref
  let place := Text.join "/" (← patch.hierarchy ref)
  let shown ← box.display
  return { notice with
    message := s!"{shown} in \"{place}\" @ (x:{box.x}, y:{box.y}): {notice.message}" }

/-- Errors without those that only say that reading was given up, unless there are no others. -/
def telling (errors : List Notice) : List Notice :=
  let given := some NoticeCode.givenUp.number
  if errors.any fun n => n.code != given then errors.filter fun n => n.code != given else errors

def noticesWithin (patch : Patch) : Nat → Ref → Except Fault (List Notice × List Notice)
  | 0, _ => .ok ([], [])
  | depth + 1, ref => do
      let box := patch.box ref
      let warnings ← box.warnings.mapM (patch.locate ref)
      let errors ← box.errors.mapM (patch.locate ref)
      if box.isCanvas then
        let inner ← box.canvas.boxes.mapM (noticesWithin patch depth)
        return (warnings ++ inner.flatMap (·.1), telling (errors ++ inner.flatMap (·.2)))
      else return (warnings, errors)

def notices (patch : Patch) (ref : Ref) : Except Fault (List Notice × List Notice) :=
  patch.noticesWithin (patch.size + 1) ref

end Patch

abbrev Drawing := EStateM Fault Patch

namespace Drawing

def ofExcept {α : Type} : Except Fault α → Drawing α
  | .ok a => pure a
  | .error fault => throw fault

def box (ref : Ref) : Drawing Box :=
  return (← get).box ref

def change (ref : Ref) (f : Box → Box) : Drawing Unit :=
  modify (·.change ref f)

def changeCanvas (ref : Ref) (f : Canvas → Canvas) : Drawing Unit :=
  change ref fun box => { box with canvas := f box.canvas }

def insert (box : Box) : Drawing Ref := do
  let patch ← get
  set { patch with boxes := patch.boxes.push box }
  return patch.size

def fetch {α : Type} (items : List α) (index : Int) : Drawing α :=
  ofExcept (PatchCompiler.fetch items index)

def warnAs (ref : Ref) (code : NoticeCode) (message : String) : Drawing Unit :=
  change ref fun box =>
    { box with warnings := box.warnings ++ [{ code := some code.number, message }] }

def warn (ref : Ref) (message : String) : Drawing Unit :=
  warnAs ref .warning message

def failAs (ref : Ref) (code : NoticeCode) (message : String) : Drawing Unit :=
  change ref fun box =>
    { box with errors := box.errors ++ [{ code := some code.number, message }] }

def fail (ref : Ref) (message : String) : Drawing Unit :=
  failAs ref .error message

def count (type : String) : Drawing Unit :=
  modify fun patch => { patch with counter := patch.counter.bump type 1 }

def needCanvas (ref : Ref) : Drawing Ref := do
  if (← box ref).isCanvas then return ref
  else throw (.noMember "the box is not a canvas")

def parentOf (ref : Ref) : Drawing Ref := do
  match (← box ref).parent with
  | some parent => return parent
  | none => throw (.noMember "the box is on no canvas")

end Drawing

end PatchCompiler
