import PatchCompiler.Net.Survey
import PatchCompiler.Value.Access

/-!
# The load of a program

The cycles that the signal objects of a program take, by type of object and by instruction set.
-/

namespace PatchCompiler

/-- Cycles by instruction set. -/
abbrev CycleCounter := List (String × Cycles)

namespace CycleCounter

def get (counter : CycleCounter) (name : String) : Cycles :=
  (counter.lookup name).getD (.whole 0)

def add (a b : CycleCounter) : CycleCounter :=
  let both := a.map fun entry => (entry.1, entry.2.add (get b entry.1))
  let others := b.filter fun entry => (a.lookup entry.1).isNone
  (both ++ others).filter fun entry => 0 < entry.2.halves

def display (counter : CycleCounter) : String :=
  if counter.isEmpty then "Counter()"
  else
    let sorted := counter.mergeSort fun a b => b.2.halves ≤ a.2.halves
    let shown := sorted.map fun entry => Text.quoted entry.1 ++ ": " ++ entry.2.toValue.display
    "Counter(\x7b" ++ Text.join ", " shown ++ "\x7d)"

end CycleCounter

structure Load where
  objects : Counter := []
  total : CycleCounter := []
  byType : List (String × CycleCounter) := []
  /-- Types whose load is not known. -/
  remarks : List String := []

namespace Load

def addCycles (byType : List (String × CycleCounter)) (type : String) (cycles : CycleCounter) :
    List (String × CycleCounter) :=
  match byType with
  | [] => [(type, CycleCounter.add [] cycles)]
  | (t, c) :: rest =>
    if t = type then (t, c.add cycles) :: rest else (t, c) :: addCycles rest type cycles

def addObject (load : Load) (type : String) : Load :=
  match Catalogue.irSpec? type with
  | none => { load with remarks := load.remarks ++ [s!"ERROR: Unknown object type {type}"] }
  | some spec =>
    let load := { load with objects := load.objects.bump type 1 }
    match spec.cycles with
    | none => { load with remarks := load.remarks ++ [s!"{type} requires perf information."] }
    | some cycles =>
      { load with
        total := load.total.add cycles
        byType := addCycles load.byType type cycles }

def typeName : Value → Except Fault String
  | .list _ | .record _ => .error (.badType "a type is no list and no record")
  | type => .ok type.display

def ofProgram (program : Value) : Except Fault Load := do
  let calls ← (← (← program.need "signal").need "processOrder").needItems
  let types ← calls.mapM fun call => do
    let object ← (← program.need "objects").needEntry (← call.need "id")
    typeName (← object.need "type")
  return types.foldl addObject {}

def divided (x y : Binary64) : Except Fault Binary64 :=
  match x.div? y with
  | some z => .ok z
  | none => .error .divisionByZero

def numberOf (x : Value) : Except Fault Binary64 :=
  if x.isNumber then x.toDouble else .error (.badType s!"cannot count with {x.kindName}")

def product (x : Value) (cycles : Cycles) : Except Fault Binary64 := do
  match x.int?, cycles.isWhole with
  | some n, true => (Value.int (n * (cycles.halves / 2 : Nat))).toDouble
  | _, _ => return (← numberOf x).mul cycles.toDouble

/-- The lines about one instruction set that works on `width` samples at once. -/
def setLines (load : Load) (title name : String) (width : Nat) (block clock : Value) :
    Except Fault (List String) := do
  let cycles := load.total.get name
  let wide := Binary64.ofRatio false width 1
  let each ← divided cycles.toDouble wide
  let time ← divided (← divided (← product block cycles) wide) (← numberOf clock)
  return [s!"{title}: {cycles.toValue.display} cycles / {each.text} cycles per frame",
    s!"     {block.display} frames @ {clock.display}MHz >= {time.fixedText 2}us"]

def typeLine (load : Load) (type : String) (cycles : CycleCounter) : Except Fault String := do
  let hundred := Binary64.ofRatio false 100 1
  let share ← divided (hundred.mul (cycles.get "avx").toDouble) (load.total.get "avx").toDouble
  let share ← (Value.int ((share.truncate?).getD 0)).toDouble
  let number := toString ((load.objects.lookup type).getD 0)
  return Text.padLeft 2 (share.significantText 2) ++ "%  " ++ Text.padRight 5 number ++ " " ++
    Text.padRight 16 type ++ " " ++ cycles.display

def report (load : Load) (block clock : Value) : Except Fault (List String) := do
  let avx ← load.setLines "AVX" "avx" 8 block clock
  let sse ← load.setLines "SSE" "sse" 4 block clock
  let types ← load.byType.mapM fun entry => load.typeLine entry.1 entry.2
  return avx ++ sse ++
    ["CPU% #Objs Object Type      Performance", "==== ===== ================ ==========="] ++ types

def toValue (load : Load) : Value :=
  .record (load.byType.map fun entry =>
    (entry.1, .record (entry.2.map fun count => (count.1, count.2.toValue))))

end Load

end PatchCompiler
