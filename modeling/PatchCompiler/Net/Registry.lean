import PatchCompiler.Net.Name

/-!
# Named objects

A graph keeps a list of objects for every name. A name takes its place among the names when it is
first mentioned, whether or not an object has it then. Objects without a name are kept together.
-/

namespace PatchCompiler

/-- Place of an object in a net. -/
abbrev Ref := Nat

structure Registry where
  entries : List (Name × List Ref) := []
  deriving DecidableEq, Repr

namespace Registry

def empty : Registry := {}

instance : Inhabited Registry := ⟨empty⟩

def get (registry : Registry) (name : Name) : List Ref :=
  (registry.entries.lookup name).getD []

def changeEntry (name : Name) (f : List Ref → List Ref) :
    List (Name × List Ref) → List (Name × List Ref)
  | [] => [(name, f [])]
  | (n, held) :: rest =>
    if n = name then (n, f held) :: rest else (n, held) :: changeEntry name f rest

def change (registry : Registry) (name : Name) (f : List Ref → List Ref) : Registry :=
  ⟨changeEntry name f registry.entries⟩

def mention (registry : Registry) (name : Name) : Registry :=
  registry.change name id

def ofTypes (registry : Registry) (typeOf : Ref → String) (name : Name) (types : List String) :
    List Ref :=
  (registry.get name).filter fun object => types.contains (typeOf object)

def byType (registry : Registry) (typeOf : Ref → String) (type : String) :
    List (Name × List Ref) :=
  (registry.entries.map fun entry =>
    (entry.1, entry.2.filter fun object => typeOf object == type)).filter fun entry =>
      !entry.2.isEmpty

/-- What the registry needs to know of objects. -/
structure View where
  typeOf : Ref → String
  display : Ref → String

/-- Registers an object under a name. A unique object must be the first of its type and name; a
static one is registered only once. -/
def register (registry : Registry) (view : View) (object : Ref) (name : Name)
    (isStatic unique : Bool) : Except Fault Registry :=
  let present := registry.ofTypes view.typeOf name [view.typeOf object]
  if (unique && !present.isEmpty) || (isStatic && 1 < present.length) then
    .error (.rejected (s!"Object {view.display object} with name \"{name.display}\" already exists, " ++
        "and the new object is static or unique."))
  else if present.length = 1 ∧ isStatic then .ok (registry.mention name)
  else .ok (registry.change name (· ++ [object]))

def unregister (registry : Registry) (object : Ref) (name : Name) :
    Except Fault Unit × Registry :=
  let registry := registry.mention name
  if (registry.get name).contains object then (.ok (), registry.change name (·.erase object))
  else (.error (.badValue "the object is not registered"), registry)

end Registry

end PatchCompiler
