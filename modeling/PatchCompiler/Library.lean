import PatchCompiler.Library.Filters
import PatchCompiler.Library.Further
import PatchCompiler.Library.Interface
import PatchCompiler.Library.Memory
import PatchCompiler.Library.Messages
import PatchCompiler.Library.Midi
import PatchCompiler.Library.Signals

/-!
# The library

Many objects of the patch language are themselves written as patches. They lie in directories of
their own, in which a patch of the library finds the others. A patch is kept as its statements, with
semicolons between them and without what they begin with, and without its own canvas. A line may end
after a semicolon.
-/

namespace PatchCompiler.Library

def directory : String := "/library/pd"

def furtherDirectory : String := "/library/heavy"

def patches : List (String × String) :=
  interface ++ messages ++ midi ++ signals ++ filters ++ memory

def isConnection (statement : String) : Bool :=
  let words := statement.splitOn " "
  words.length == 4 && words.all fun word => word.toList.all Char.isDigit

/-- What a statement of a patch begins with. One that begins with a number is a connection or a
box. -/
def opening (statement : String) : String :=
  match statement.toList with
  | 'N' :: ' ' :: _ => "#"
  | first :: _ =>
    if !first.isDigit then "#X "
    else if isConnection statement then "#X connect "
    else "#X obj "
  | [] => "#X "

def portOf : Char → String
  | 'i' => "10 10 inlet"
  | 'I' => "10 10 inlet~"
  | 'o' => "10 10 outlet"
  | _ => "10 10 outlet~"

/-- A canvas around a single object has nothing but ports in it. It is kept as the position of the
object, a letter for each port and the object. A connection of first ports is kept as its two
boxes, an argument that is zero unless it is given as its place and its name. -/
def expand (statement : String) : List String :=
  match statement.splitOn " " with
  | [source, target] => [source ++ " 0 " ++ target ++ " 0"]
  | "of" :: x :: y :: ports :: object =>
    ["N canvas 0 22 450 300 @hv_obj 0"] ++ ports.toList.map portOf ++
      [" ".intercalate (["restore", x, y, "pd", "@hv_obj"] ++ object)]
  | ["arg", x, y, place, name] => [s!"text {x} {y} @hv_arg \\${place} {name} float 0 false"]
  | "arg" :: x :: y :: rest => [s!"text {x} {y} @hv_arg \\$" ++ " ".intercalate rest]
  | _ => [statement]

def linesOf (patch : String) : List String :=
  let statements := ((patch.replace ";\n" ";").splitOn ";").flatMap expand
  "#N canvas 0 0 450 300 10;" :: statements.flatMap fun statement =>
    (opening statement ++ statement ++ ";").splitOn "\n"

def patch? (name : String) : Option (List String) :=
  (patches.lookup name).map linesOf

def furtherPatch? (name : String) : Option (List String) :=
  (further.lookup name).map linesOf

/-- A graph of the library that is not written as a patch. -/
def graph? (name : String) : Option Value :=
  graphs.lookup name

end PatchCompiler.Library
