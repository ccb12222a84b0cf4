import PatchCompiler.Template.Meaning

/-!
# Rendering

The text of a template under given names.
-/

namespace PatchCompiler

namespace Piece

def nameParts : List String → List Value → Except Fault Record
  | [], [] => .ok []
  | name :: names, part :: parts => do return (name, part) :: (← nameParts names parts)
  | [], _ :: _ => .error (.badValue "too many values to unpack")
  | _ :: _, [] => .error (.badValue "not enough values to unpack")

def nameItem (names : List String) (item : Value) : Except Fault Record :=
  match names with
  | [name] => .ok [(name, item)]
  | names => do
      match item with
      | .list parts => nameParts names parts
      | other =>
        match other.needItems with
        | .ok parts => nameParts names parts
        | .error _ => .error (.badType s!"cannot unpack non-iterable {other.kindName} object")

/-- The names under which the body of a repetition is rendered: those of the item, and what place
the item has among all. -/
def loopNames (outer named : Record) (place count : Nat) : Record :=
  named ++ ("loop", .record [("index", .int (place + 1)), ("last", .bool (place + 1 == count))]) ::
    outer

/-- Fills the holes of a text, which take turns with its other parts. -/
def fill (names : Record) : List String → Except Fault String
  | before :: hole :: rest => do
      let value ← if hole.isEmpty then .ok "`" else
        (·.display) <$> (Formula.ofHole hole).meaning names
      return before ++ value ++ (← fill names rest)
  | rest => .ok (String.join rest)

mutual

def render (names : Record) : Piece → Except Fault String
  | .text lines => fill names (Text.splitText "`" (Text.join "\n" lines))
  | .value formula => do return (← formula.meaning names).display
  | .choose condition yes no => do
      if (← condition.meaning names).isTrue then renderAll names yes else renderAll names no
  | .each itemNames source condition body => do
      let items ← (← source.meaning names).items
      let named ← items.mapM (nameItem itemNames)
      let chosen ← named.filterM fun item => do
        return (← condition.meaning (item ++ names)).isTrue
      let texts ← chosen.zipIdx.mapM fun (item, place) =>
        renderAll (loopNames names item place chosen.length) body
      return String.join texts

def renderAll (names : Record) : List Piece → Except Fault String
  | [] => .ok ""
  | piece :: rest => do
      let text ← render names piece
      return text ++ (← renderAll names rest)

end

end Piece

def Template.render (template : Template) (names : Record) : Except Fault String :=
  Piece.renderAll names template

end PatchCompiler
