import PatchCompiler.Value.Json

/-!
# Arranged values

A file for people has the fields of every record in order. The objects of a graph that are numbered
by their places are numbered anew: they come by type, and those of one type keep their order.
-/

namespace PatchCompiler

namespace Arranged

def inOrder (fields : Record) : Record :=
  fields.mergeSort fun a b => !(b.1 < a.1)

def stem? (id : String) (place : Nat) : Option String :=
  let ending := "_" ++ toString place
  if Text.endsWith ending id then
    some (String.ofList (id.toList.take (id.length - ending.length)))
  else none

def stems? (ids : List String) : Option (List String) :=
  ids.zipIdx.mapM fun (id, place) => stem? id place

def newNames (ids : List String) : List (String × String) :=
  match stems? ids with
  | some stems =>
    let keyed := (ids.zip stems).zipIdx.map fun ((id, stem), place) =>
      (stem ++ "_" ++ Text.join "" (List.replicate (8 - (toString place).length) "0") ++
        toString place, id, stem)
    let sorted := keyed.mergeSort fun a b => !(b.1 < a.1)
    sorted.zipIdx.map fun ((_, id, stem), place) => (id, stem ++ "_" ++ toString place)
  | none => (ids.mergeSort fun a b => !(b < a)).map fun id => (id, id)

def renameEnd (names : List (String × String)) (value : Value) : Value :=
  match value with
  | .record fields =>
    match Record.get? fields "id" with
    | some (.text id) => .record (Record.set fields "id" (.text ((names.lookup id).getD id)))
    | _ => value
  | _ => value

def renameConnection (names : List (String × String)) (value : Value) : Value :=
  match value with
  | .record fields => .record (fields.map fun field => (field.1, renameEnd names field.2))
  | _ => value

/-- A record whose parts are arranged, but for the order of its objects. If it is a graph, its
objects get their new numbers. -/
def arrangeRecord (fields : Record) : Record :=
  match Record.get? fields "objects", Record.get? fields "connections" with
  | some (.record objects), some (.list connections) =>
    let names := newNames (Record.names objects)
    let objects := names.map fun name => (name.2, Record.getD objects name.1 .null)
    inOrder (Record.set (Record.set fields "objects" (.record objects)) "connections"
      (.list (connections.map (renameConnection names))))
  | some (.record objects), _ =>
    inOrder (Record.set fields "objects" (.record (inOrder objects)))
  | _, _ => inOrder fields

mutual

def arranged : Value → Value
  | .list items => .list (arrangedItems items)
  | .record fields => .record (arrangeRecord (arrangedFields fields))
  | value => value

def arrangedItems : List Value → List Value
  | [] => []
  | item :: rest => arranged item :: arrangedItems rest

/-- Fields with arranged values. Objects wait for the order of their graph. -/
def arrangedFields : List (String × Value) → List (String × Value)
  | [] => []
  | ("objects", .record objects) :: rest =>
    ("objects", .record (arrangedFields objects)) :: arrangedFields rest
  | (name, value) :: rest => (name, arranged value) :: arrangedFields rest

end

end Arranged

end PatchCompiler
