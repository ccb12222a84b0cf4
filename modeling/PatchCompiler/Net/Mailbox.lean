import PatchCompiler.Net.Creation
import PatchCompiler.Net.Format

/-!
# Signals that are sent by name

A signal that is sent by name goes through a variable: the sender writes it and every receiver reads
it. With several senders of one name every receiver reads them all and adds them up.
-/

namespace PatchCompiler.Build

def addWriter (graph cell : Ref) : Build Ref := do
  let identity := (← node cell).identity
  let writer ← makePlain "__varwrite~f" [("var_id", .object identity)]
  add graph cell
  add graph writer
  return writer

def addReader (graph cell : Ref) : Build Ref := do
  let reader ← makePlain "__varread~f" [("var_id", .object (← node cell).identity)]
  add graph reader
  return reader

def moveOutgoing (object source : Ref) : Build Unit := do
  for wire in ← fetch (← node object).outlets 0 do
    rewire (some wire) [{ wire with source }]

def joinOneSender (sender : Ref) (receivers : List Ref) : Build Unit := do
  let cell ← makePlain "__var~f" []
  let writer ← addWriter (← parentOf sender) cell
  for wire in ← fetch (← node sender).inlets 0 do
    rewire (some wire) [{ wire with target := writer }]
  for receiver in receivers do
    let reader ← addReader (← parentOf receiver) cell
    moveOutgoing receiver reader

def joinManySenders (senders receivers : List Ref) : Build Unit := do
  let cells ← senders.mapM fun _ => makePlain "__var~f" []
  for (sender, cell) in senders.zip cells do
    let writer ← addWriter (← parentOf sender) cell
    for wire in ← fetch (← node sender).inlets 0 do
      rewire (some wire) [{ wire with target := writer, inlet := 0 }]
  for receiver in receivers do
    let graph ← parentOf receiver
    let adder ← makePlain "__add~f" []
    add graph adder
    for (cell, place) in cells.zipIdx do
      let reader ← addReader graph cell
      connect ⟨reader, 0, adder, if place = 0 then 0 else 1, .float⟩
    moveOutgoing receiver adder

def joinName (senders receivers : List Ref) : Build Unit := do
  let senders ← senders.filterM fun sender => return (← inletFormat sender) == "f"
  match senders with
  | [] => return
  | [sender] => joinOneSender sender receivers
  | _ => joinManySenders senders receivers
  for object in senders ++ receivers do
    remove (← parentOf object) object

def joinMailboxes (graph : Ref) : Build Unit := do
  let net ← get
  let registry := (net.node graph).body.registry
  let receivers := registry.byType net.view.typeOf "receive"
  for (name, senders) in registry.byType net.view.typeOf "send" do
    joinName senders ((receivers.lookup name).getD [])

end PatchCompiler.Build
