import PatchCompiler.Net.Naming
import PatchCompiler.Net.Wiring

/-!
# Objects of a graph

Adding an object to a graph and removing it with all its wires. A graph takes note of its inlets,
its outlets, its audio channels and its named objects.
-/

namespace PatchCompiler

def isIndexBefore (a b : Value) : Except Fault Bool :=
  match a, b with
  | .text s, .text t => .ok (decide (s < t))
  | a, b =>
    if a.isNumber && b.isNumber then .ok (a.compareNumbers b == some .lt)
    else .error (.badType "indices cannot be compared")

def insertByIndex (indexOf : Ref → Value) (object : Ref) : List Ref → Except Fault (List Ref)
  | [] => .ok [object]
  | r :: rest => do
      if ← isIndexBefore (indexOf object) (indexOf r) then return object :: r :: rest
      else return r :: (← insertByIndex indexOf object rest)

namespace Build

def indexOf (object : Ref) : Build Value :=
  argument object "index"

def sortLets (object : Ref) (lets : List Ref) : Build (List Ref) := do
  let net ← get
  let _ ← indexOf object
  ofExcept (insertByIndex
    (fun ref => (net.node ref).arguments.getD "index" .null) object lets)

def channelsOf (object : Ref) : Build (List Int) := do
  return ((((← node object).arguments.getD "channels" .null).items?).getD []).filterMap Value.int?

def joinChannels (channels more : List Int) : List Int :=
  more.foldl (fun all n => if all.contains n then all else all ++ [n]) channels

def noteObject (graph object : Ref) : Build Unit := do
  let node ← node object
  match node.type with
  | "inlet" | "__inlet" =>
    change graph fun g =>
      { g with inlets := g.inlets ++ [[]], inletBuffers := g.inletBuffers ++ [.zero] }
    let lets ← sortLets object (← Build.node graph).body.inletObjects
    changeBody graph fun body => { body with inletObjects := lets }
  | "outlet" | "__outlet" =>
    change graph fun g =>
      { g with outlets := g.outlets ++ [[]], outletBuffers := g.outletBuffers ++ [.zero] }
    let lets ← sortLets object (← Build.node graph).body.outletObjects
    changeBody graph fun body => { body with outletObjects := lets }
  | "adc" => do
      let channels ← channelsOf object
      changeBody graph fun body =>
        { body with inputChannels := joinChannels body.inputChannels channels }
  | "dac" => do
      let channels ← channelsOf object
      changeBody graph fun body =>
        { body with outputChannels := joinChannels body.outputChannels channels }
  | "receive" | "__receive" | "send" | "__send" => register graph object false false
  | "table" | "__table" => register graph object node.static.isTrue true
  | "var" =>
    match node.name? with
    | none | some .null => pure ()
    | some _ => register graph object node.static.isTrue true
  | _ => pure ()

def keyName (key : Key) : String :=
  match key with
  | .given name => name
  | .own _ => "#"

def addAs (graph object : Ref) (key : Key) : Build Unit := do
  if ((← node graph).body.objects.lookup key).isSome then
    reject graph s!"Duplicate object id {keyName key} found in graph."
  else
    change object fun node => { node with parent := some graph }
    changeBody graph fun body => { body with objects := body.objects ++ [(key, object)] }
    noteObject graph object

def add (graph object : Ref) : Build Unit := do
  addAs graph object (.own (← node object).identity)

def addNamed (graph object : Ref) (name : String) : Build Unit :=
  if name.isEmpty then add graph object else addAs graph object (.given name)

def isMailbox (type : String) : Bool :=
  ["receive", "__receive", "send", "__send"].contains type

def remove (graph object : Ref) : Build Unit := do
  for place in List.range (← node object).inlets.length do
    ((← node object).inlets.getD place []).forM disconnect
  for place in List.range (← node object).outlets.length do
    ((← node object).outlets.getD place []).forM disconnect
  changeBody graph fun body =>
    { body with objects := body.objects.eraseP fun entry => entry.2 == object }
  if isMailbox (← node object).type then unregister graph object

end Build

end PatchCompiler
