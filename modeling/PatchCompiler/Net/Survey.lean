import PatchCompiler.Net.Basic

/-!
# Surveys of a graph

What a graph and the graphs in it contain: objects by type, channels, messages for the user.
-/

namespace PatchCompiler

/-- Warnings and errors. -/
structure Notices where
  warnings : List String := []
  errors : List String := []
  deriving Inhabited

namespace Notices

def append (a b : Notices) : Notices :=
  ⟨a.warnings ++ b.warnings, a.errors ++ b.errors⟩

instance : Append Notices := ⟨append⟩

def toValue (notices : Notices) : Value :=
  let shown := fun (messages : List String) =>
    Value.list (messages.map fun message => .record [("message", .text message)])
  .record [("warnings", shown notices.warnings), ("errors", shown notices.errors)]

end Notices

/-- How often each type occurs. -/
abbrev Counter := List (String × Nat)

namespace Counter

def bump (counter : Counter) (type : String) (by_ : Nat) : Counter :=
  match counter with
  | [] => [(type, by_)]
  | (t, n) :: rest => if t = type then (t, n + by_) :: rest else (t, n) :: bump rest type by_

def addAll (counter other : Counter) : Counter :=
  other.foldl (fun all entry => all.bump entry.1 entry.2) counter

def toValue (counter : Counter) : Value :=
  .record (counter.map fun entry => (entry.1, .int entry.2))

end Counter

namespace Net

def innerGraphs (net : Net) (graph : Ref) : List Ref :=
  (net.contents graph).filter fun object => (net.node object).isGraph

def graphsWithin (net : Net) : Nat → Ref → List Ref
  | 0, _ => []
  | depth + 1, graph => graph :: (net.innerGraphs graph).flatMap (graphsWithin net depth)

def allGraphs (net : Net) (graph : Ref) : List Ref :=
  net.graphsWithin net.size graph

def distinctInts (numbers : List Int) : List Int :=
  numbers.foldl (fun all n => if all.contains n then all else all ++ [n]) []

def inputChannels (net : Net) (graph : Ref) (deep : Bool) : List Int :=
  let graphs := if deep then net.allGraphs graph else [graph]
  distinctInts (graphs.flatMap fun g => (net.node g).body.inputChannels)

def outputChannels (net : Net) (graph : Ref) (deep : Bool) : List Int :=
  let graphs := if deep then net.allGraphs graph else [graph]
  distinctInts (graphs.flatMap fun g => (net.node g).body.outputChannels)

def ownNotices (net : Net) (object : Ref) : Notices :=
  let node := net.node object
  let shown := fun message => s!"{node.display}: {message}"
  ⟨node.warnings.map shown, node.errors.map shown⟩

def noticesWithin (net : Net) : Nat → Ref → Notices
  | 0, _ => {}
  | depth + 1, object =>
    (net.contents object).foldl (fun all inner => all ++ noticesWithin net depth inner)
      (net.ownNotices object)

/-- The messages of an object and, if it is a graph, of its contents. -/
def notices (net : Net) (object : Ref) : Notices :=
  net.noticesWithin net.size object

def ofTypeWithin (net : Net) (type : String) : Nat → Ref → List Ref
  | 0, _ => []
  | depth + 1, graph =>
    (net.contents graph).flatMap fun object =>
      if (net.node object).isGraph && depth != 0 then ofTypeWithin net type depth object
      else if (net.node object).type == type then [object] else []

/-- The objects of one type, in the graphs in the graph as well if the search is deep. -/
def ofType (net : Net) (graph : Ref) (type : String) (deep : Bool) : List Ref :=
  net.ofTypeWithin type (if deep then net.size + 1 else 1) graph

def countedType (type : String) : String :=
  if type == "__inlet" then "inlet" else if type == "__outlet" then "outlet" else type

def counterWithin (net : Net) : Nat → Ref → Counter
  | 0, _ => []
  | depth + 1, graph =>
    (net.contents graph).foldl
      (fun counter object =>
        if (net.node object).isGraph && depth != 0 then
          counter.addAll (counterWithin net depth object)
        else counter.bump (countedType (net.node object).type) 1)
      []

def counter (net : Net) (graph : Ref) (deep : Bool) : Counter :=
  net.counterWithin (if deep then net.size + 1 else 1) graph

end Net

end PatchCompiler
