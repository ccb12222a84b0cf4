import PatchCompiler.Patch.Basic

/-!
# Dollar arguments

In a patch, a dollar and a number stand for an argument of the canvas. Argument zero is a number of
the file. An argument that was not given has its declared default, or is zero.
-/

namespace PatchCompiler

def references : List Char → List (List Char)
  | [] => []
  | c :: cs =>
    let digits := cs.takeWhile Text.isDecimal
    if c = '$' && !digits.isEmpty then digits :: references cs else references cs

/-- The numbers after dollars in a text, each once, in the order of texts. -/
def sortedReferences (s : String) : List String :=
  let found := (references s.toList).map String.ofList
  (found.foldl (fun all m => if all.contains m then all else all ++ [m]) []).mergeSort
    fun a b => !(b < a)

namespace Drawing

def replaceReference (digits value : String) : Option String → Drawing (Option String)
  | some s => return some (Text.replaceText ("\\$" ++ digits) value s)
  | none => throw (.noMember "'NoneType' object has no attribute 'replace'")

/-- Resolves one reference of a text. With `lenient` an argument that is not known takes the text
away, otherwise it is zero. -/
def resolveReference (canvas : Ref) (isRoot lenient : Bool) (text : Option String)
    (digits : String) : Drawing (Option String) := do
  let node ← box canvas
  let index := ((readInt? digits).getD 0).toNat
  match node.items[index]? with
  | some value => replaceReference digits value.display text
  | none =>
    if index - 1 < node.canvas.declared.length then
      match (node.canvas.declared[index - 1]?).join with
      | none => throw (.badType "'NoneType' object is not subscriptable")
      | some declaration =>
        if declaration.required then
          failAs canvas .missingArgument
            s!"There is a missing required argument named \"{declaration.name}\"."
          return text
        else replaceReference digits declaration.default.display text
    else if isRoot || !lenient then replaceReference digits "0" text
    else return none

def resolveText (canvas : Ref) (isRoot lenient : Bool) (s : String) : Drawing (Option String) :=
  (sortedReferences s).foldlM (resolveReference canvas isRoot lenient) (some s)

def resolveWord (canvas : Ref) (isRoot : Bool) (s : String) : Drawing String := do
  return (← resolveText canvas isRoot false s).getD ""

end Drawing

end PatchCompiler
