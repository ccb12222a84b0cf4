import PatchCompiler.Value.Access

/-!
# Externs

What a program opens to the outside by name: parameters and events in both directions, and tables.
Names are listed in order. Code spells them in capitals, so two names of one kind that differ in
capitals only are in conflict.
-/

namespace PatchCompiler

/-- Sets the entry of a name. A name that is there keeps its place, a new one comes last. -/
def setNamed {α : Type} (name : Value) (entry : α) :
    List (Value × α) → Except Fault (List (Value × α))
  | [] =>
    match name with
    | .list _ | .record _ => .error (.badType s!"unhashable type: '{name.kindName}'")
    | _ => .ok [(name, entry)]
  | (n, e) :: rest => do
      if n.equals name then return (n, entry) :: rest
      else return (n, e) :: (← setNamed name entry rest)

/-- What is open to the outside, by name. -/
abbrev Opened := List (Value × Value)

structure Externs where
  inputs : Opened
  outputs : Opened
  inputEvents : Opened
  outputEvents : Opened
  tables : Opened

namespace Externs

def notAfter (a b : Value) : Bool :=
  match a, b with
  | .text s, .text t => !(t < s)
  | a, b => a.compareNumbers b != some .gt

/-- Entries in the order of their names, which are all texts or all numbers. -/
def sorted (entries : Opened) : Except Fault Opened :=
  if entries.length < 2 || entries.all (·.1.text?.isSome) || entries.all (·.1.isNumber) then
    .ok (entries.mergeSort fun a b => notAfter a.1 b.1)
  else .error (.badType "names cannot be compared")

def marking (entry : Value) : Except Fault Value :=
  entry.fieldOr "extern" .null

def ofRecord (entries : Record) : Opened :=
  entries.map fun entry => (.text entry.1, entry.2)

def marked (entries : Record) (mark : String) : Except Fault Opened := do
  let found ← entries.filterM fun entry => do return (← marking entry.2).equals (.text mark)
  sorted (ofRecord found)

/-- Senders with a marking, by name. Of two with one name the later counts. -/
def markedSenders (senders : List Value) (mark : String) : Except Fault Opened := do
  let found ← senders.filterM fun sender => do return (← marking sender).equals (.text mark)
  let named ← found.mapM fun sender => do return (← sender.need "name", sender)
  sorted (← named.foldlM (fun all (name, sender) => setNamed name sender all) [])

def ofProgram (program : Value) : Except Fault Externs := do
  let control ← program.need "control"
  let receivers ← (← control.need "receivers").needFields
  let inputs ← marked receivers "param"
  let inputEvents ← marked receivers "event"
  let senders ← (← control.need "sendMessage").needItems
  let outputs ← markedSenders senders "param"
  let outputEvents ← markedSenders senders "event"
  let tables ← (← (← program.need "tables").needFields).filterM fun entry => do
    return (← marking entry.2).isTrue
  return ⟨inputs, outputs, inputEvents, outputEvents, ← sorted (ofRecord tables)⟩

def clashes (kind : String) : List Value → Except Fault (List String)
  | [] => return []
  | name :: rest => do
      let found ← rest.mapM fun other => do
        if Text.upper (← name.needText "upper") == Text.upper (← other.needText "upper") then
          return [s!"Conflicting {kind} names '{name.display}' and '{other.display}', make sure " ++
            "that capital letters are not the only difference."]
        else return []
      return found.flatten ++ (← clashes kind rest)

def conflicts (externs : Externs) : Except Fault (List String) := do
  let names := fun (entries : Opened) => entries.map (·.1)
  return (← clashes "input parameter" (names externs.inputs)) ++
    (← clashes "input event" (names externs.inputEvents)) ++
    (← clashes "output parameter" (names externs.outputs)) ++
    (← clashes "output event" (names externs.outputEvents)) ++
    (← clashes "table" (names externs.tables))

def queueSize (parameters events : Nat) : Nat :=
  max 2 (parameters + events / 4)

def pairs (entries : Opened) : Value :=
  .list (entries.map fun entry => .list [entry.1, entry.2])

def toValue (externs : Externs) : Value :=
  .record
    [("parameters", .record [("in", pairs externs.inputs), ("out", pairs externs.outputs)]),
      ("events", .record [("in", pairs externs.inputEvents), ("out", pairs externs.outputEvents)]),
      ("tables", pairs externs.tables),
      ("memoryPoolSizesKb", .record
        [("internal", .int 10),
          ("inputQueue", .int (queueSize externs.inputs.length externs.inputEvents.length)),
          ("outputQueue", .int (queueSize externs.outputs.length externs.outputEvents.length))])]

end Externs

end PatchCompiler
