import PatchCompiler.Patch.Boxes
import PatchCompiler.Value.Access

/-!
# Readymade graphs

A graph of the graph language can stand for a box. The arguments of the box take the place of
references in it.
-/

namespace PatchCompiler

namespace Readymade

def reference (name : Value) : Except Fault Value :=
  match name with
  | .text s => .ok (.text ("$" ++ s))
  | other => .error (.badType s!"can only concatenate str (not \"{other.kindName}\") to str")

/-- Puts a value for references of a name into the arguments of an object. The name is asked for
only if there are arguments. -/
def substituteIn (name : Except Fault Value) (value object : Value) : Except Fault Value := do
  let arguments ← (← object.need "args").needFields
  let put ← arguments.mapM fun field => do
    return if field.2.equals (← reference (← name)) then (field.1, value) else field
  return .record (((object.fields?).getD []).set "args" (.record put))

def substitute (name : Except Fault Value) (value : Value) (objects : Record) :
    Except Fault Record :=
  objects.mapM fun field => do
    return (field.1, ← substituteIn name value field.2)

mutual

/-- Whether one of two values comes before the other, or they are equal. Lists are compared by
their first different items. -/
def comparable : Value → Value → Bool
  | .text _, .text _ => true
  | .list xs, .list ys => comparableLists xs ys
  | x, y => x.isNumber && y.isNumber

def comparableLists : List Value → List Value → Bool
  | x :: xs, y :: ys => if x.equals y then comparableLists xs ys else comparable x y
  | _, _ => true

end

def sortable : List Value → Bool
  | [] => true
  | x :: xs => xs.all (comparable x) && sortable xs

def outletTypes (objects : Record) : Except Fault (List Value) := do
  let marked ← objects.mapM fun field => do
    return (field.2, (← field.2.need "type").equals (.text "outlet"))
  let outlets := (marked.filter (·.2)).map (·.1)
  let indices ← outlets.mapM fun o => do (← o.need "args").need "index"
  if !sortable indices then
    throw (.badType "places cannot be compared")
  outlets.mapM fun o => do (← o.need "args").need "type"

def settle (type : String) (given : List Value) (state : Record × List Notice)
    (entry : Value × Nat) : Except Fault (Record × List Notice) := do
  let (declaration, place) := entry
  let (objects, errors) := state
  let put := fun (value : Value) => do
    let declared := (← declaration.need "value_type").display
    let converted := convertArgument .patch (.ofName declared) value
    let errors ← match converted with
      | .ok _ => pure errors
      | .error fault =>
        let name := (← declaration.need "name").display
        pure (errors ++ [note .error (s!"Heavy {type} cannot convert argument \"{name}\" with " ++
          s!"value \"{value.display}\" to type {declared}: {fault.message}")])
    return (← substitute (declaration.need "name") (converted.toOption.getD value) objects, errors)
  match given[place]? with
  | some value => put value
  | none =>
    if (← declaration.need "required").isTrue then
      let name := (← declaration.need "name").display
      return (objects, errors ++ [note .error s!"Required argument \"{name}\" not found."])
    else put (← declaration.need "default")

/-- A readymade graph with its arguments in place, the types of its outlets and what is wrong with
its arguments. -/
def make (type : String) (graph : Value) (given : List Value) :
    Except Fault (Value × List Value × List Notice) := do
  let objects ← (← graph.need "objects").needFields "values"
  let outlets ← outletTypes objects
  let declared ← (← graph.need "args").needItems
  let (objects, errors) ← declared.zipIdx.foldlM (settle type given) (objects, [])
  let fields := (graph.fields?).getD []
  return (.record ((fields.set "objects" (.record objects)).set "args" (.list [])), outlets, errors)

end Readymade

namespace Drawing

def makeReadymade (type : String) (graph : Value) (given : List Value) (x y : Int) :
    Drawing Ref := do
  let (graph, outlets, errors) ← ofExcept (Readymade.make type graph given)
  insertMade type { role := .readymade graph outlets, arguments := .list given, errors } x y

end Drawing

end PatchCompiler
