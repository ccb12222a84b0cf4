import PatchCompiler.Board.Pattern

/-!
# Components of a board

A board has components, and a component is reached under several names, its variants. A converter
goes by its own name only. A description may lack parts or have wrong ones, which matters only when
they are asked for.
-/

namespace PatchCompiler

/-- A part of a description, or what is wrong with it. -/
abbrev Asked (α : Type) := Except Fault α

/-- A way to use a component. -/
structure Mapping where
  name : Asked String
  reading : Asked String
  writing : Asked String
  place : Value
  isBool : Value

namespace Mapping

def ofValue (value : Value) : Mapping where
  name := do (← value.need "name").needText "format_map"
  reading := do (← value.need "get").needText "format_map"
  writing := do (← value.need "set").needText "format_map"
  place := (value.field? "where").getD (.text "callback")
  isBool := (value.field? "bool").getD (.bool false)

def variant (mapping : Mapping) (component : Asked Value) : Except Fault String := do
  let pattern ← mapping.name
  filledPattern pattern [("name", ← component)]

end Mapping

structure Component where
  name : Asked Value
  kind : Asked Value
  direction : Asked Value
  mappings : Asked (List Mapping)
  description : Value

namespace Component

def ofValue (description : Value) : Component where
  name := description.need "name"
  kind := description.need "component"
  direction := description.need "direction"
  mappings := do return (← (← description.need "mapping").needItems).map Mapping.ofValue
  description

def isParent (component : Component) : Except Fault Bool := do
  return (← component.description.fieldOr "is_parent" (.bool false)).isTrue

def isConverter (component : Component) : Except Fault Bool := do
  return (← component.kind).equals (.text "CVOuts")

def variants (component : Component) : Except Fault (List String) := do
  (← component.mappings).mapM fun mapping => mapping.variant component.name

def answers (component : Component) (name : Value) : Except Fault Bool := do
  if ← component.isConverter then return name.equals (← component.name)
  else return (← component.variants).any fun variant => name.equals (.text variant)

/-- Whether a field has some value. A field that is not there counts as an empty text. -/
def has (component : Component) (field : String) (value : Value) : Except Fault Bool := do
  return (← component.description.fieldOr field (.text "")).equals value

/-- The text that stands before uses of a component that every board has. -/
def standardOpening (component : Component) : Except Fault Value := do
  if (← component.description.fieldOr "default" (.bool false)).isTrue then
    component.description.fieldOr "default_prefix" (.text "")
  else return .text ""

def mapping? (component : Component) (name : Value) : Except Fault (Option Mapping) := do
  (← component.mappings).findM? fun mapping => do
    if ← component.isConverter then
      let bare ← mapping.variant (.ok (.text ""))
      (Value.text bare).needWithin (← component.name)
    else return name.equals (.text (← mapping.variant component.name))

end Component

/-- The components of a board, in order. -/
abbrev Components := List Component

namespace Components

def reached? (components : Components) (name : Value) : Except Fault (Option Component) :=
  components.findM? (·.answers name)

def unknownParameter (called : String) : Fault :=
  .unknownName s!"Unknown parameter \"{called}\""

def root (components : Components) (name : Value) (called : String) : Except Fault Value := do
  match ← components.reached? name with
  | some component => if ← component.isConverter then return name else component.name
  | none => throw (unknownParameter called)

def having (components : Components) (field : String) (value : Value) : Except Fault Components :=
  components.filterM (·.has field value)

/-- The components with a field of some value whose other field does not have another value. No
component is left out for `null`. -/
def havingBut (components : Components) (field : String) (value : Value) (other : String)
    (excluded : Value) : Except Fault Components :=
  components.filterM fun component => do
    if ← component.has field value then
      if excluded matches .null then return true
      else return !(← component.has other excluded)
    else return false

def checkUse (components : Components) (isInput : Bool) (name : Value) (called : String) :
    Except Fault Unit := do
  let direction := if isInput then "input" else "output"
  let misused := Fault.badType s!"Parameter \"{called}\" cannot be used as an {direction}"
  match ← components.reached? name with
  | none => throw (unknownParameter called)
  | some component =>
    if ← component.isConverter then
      if isInput then throw misused
    else
      let opposite := if isInput then "output" else "input"
      if (← component.direction).equals (.text opposite) then throw misused

/-- The variant of a component that a name means when the name of the component stands in it under
an alias. -/
def aliasedVariant? (components : Components) (aliases : Value) (low : String) (alias_ : Value) :
    Except Fault (Option Value) := do
  let target ← aliases.needEntry alias_
  match ← components.having "name" target with
  | [] => return none
  | component :: _ =>
    if ← component.isConverter then return none
    else
      let meant ← (← component.mappings).findM? fun mapping => do
        return (← mapping.variant (.ok alias_)) == low
      match meant with
      | some mapping => return some (.text (← mapping.variant (.ok target)))
      | none => return none

/-- The same, where a place that does not exist means no variant. -/
def soundVariant? (components : Components) (aliases : Value) (low : String) (alias_ : Value) :
    Except Fault (Option Value) :=
  match aliasedVariant? components aliases low alias_ with
  | .error .outOfRange | .error .outOfText => .ok none
  | result => result

def dealiased (components : Components) (aliases : Value) (name : String) : Except Fault Value := do
  let low := Text.lower name
  if ← (Value.text low).needWithin aliases then aliases.needEntry (.text low)
  else
    let candidates ← (← aliases.needItems).filterM fun alias_ => alias_.needWithin (.text low)
    return (← candidates.findSomeM? (soundVariant? components aliases low)).getD (.text low)

/-- Whether a component is a parent, or the one that is reached under some of the given names. -/
def isUsed (components : Components) (used : List (Value × String)) (component : Component) :
    Except Fault Bool := do
  if ← component.isParent then return true
  else used.anyM fun (name, called) => do
    return (← components.root name called).equals (← component.name)

/-- Goes through components from the last to the first, and drops those that are neither parents
nor used. `later` are the components already decided on. -/
def prunedFrom (used : List (Value × String)) : List Component → Components →
    Except Fault Components
  | [], later => return later
  | component :: earlier, later => do
      if ← isUsed ((component :: earlier).reverse ++ later) used component then
        prunedFrom used earlier (component :: later)
      else prunedFrom used earlier later

def pruned (components : Components) (used : List (Value × String)) : Except Fault Components :=
  prunedFrom used components.reverse []

end Components

end PatchCompiler
