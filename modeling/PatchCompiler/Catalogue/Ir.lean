import PatchCompiler.Catalogue.IrFirst
import PatchCompiler.Catalogue.IrSecond

/-!
# Intermediate objects

The objects a graph is reduced to.
-/

namespace PatchCompiler.Catalogue

def ir : List (String × IrSpec) :=
  irFirst ++ irSecond

def irSpec? (type : String) : Option IrSpec :=
  match irFirst.lookup type with
  | some spec => some spec
  | none => irSecond.lookup type

def isIr (type : String) : Bool :=
  (irSpec? type).isSome

end PatchCompiler.Catalogue
