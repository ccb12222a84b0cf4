import PatchCompiler.Number.Reader
import PatchCompiler.Place

/-!
# Records of a patch file

A patch file is a sequence of records. A record ends at the end of a line with a semicolon that is
not escaped, and it may go on over several lines. What follows the last record is dropped.
-/

namespace PatchCompiler.Record

def trimEnd (ends : List Char) (cs : List Char) : List Char :=
  (cs.reverse.dropWhile ends.contains).reverse

def endsRecord (line : List Char) : Bool :=
  [';'].isSuffixOf line && !(['\\', ';'].isSuffixOf line)

def addLine (pending line : List Char) : List Char :=
  if pending.isEmpty then line else pending ++ ' ' :: line

/-- The records of the lines, when the lines `pending` have been read. -/
def ofLinesAfter (pending : List Char) : List (List Char) → List (List Char)
  | [] => []
  | line :: rest =>
    let line := trimEnd ['\r', '\n'] line
    if endsRecord line then addLine pending line.dropLast :: ofLinesAfter [] rest
    else ofLinesAfter (addLine pending line) rest

def ofLines (lines : List (List Char)) : List (List Char) :=
  ofLinesAfter [] lines

def withoutWidth (record : List Char) : List Char :=
  let back := record.reverse
  let digits := back.takeWhile Text.isDecimal
  let front := back.dropWhile Text.isDecimal
  if !digits.isEmpty && " f ,".toList.isPrefixOf front then (front.drop 4).reverse else record

def wordsOf (record : List Char) : List String :=
  (Text.words (withoutWidth record)).map String.ofList

end PatchCompiler.Record

namespace PatchCompiler

/-- The lines that declare arguments, by the line that opens the canvas they belong to. -/
abbrev DeclarationLines := List (List Char × List (List Char))

namespace DeclarationLines

/-- Opens a canvas. A canvas with a line that was there before takes its place. -/
def opened (all : DeclarationLines) (key : List Char) : DeclarationLines × Nat :=
  match all.findIdx? fun entry => entry.1 == key with
  | some place => (all.set place (key, []), place)
  | none => (all ++ [(key, [])], all.length)

def noted (all : DeclarationLines) (place : Nat) (line : List Char) : DeclarationLines :=
  all.modify place fun entry => (entry.1, entry.2 ++ [line])

/-- Reads on, with the place of the current canvas and the number of canvases that are open. -/
def readOn (all : DeclarationLines) (current : Option Nat) (depth : Int) :
    List (List Char) → Except Fault DeclarationLines
  | [] => .ok all
  | line :: rest =>
    let bare := Record.trimEnd [';', '\r', '\n'] line
    if "#N canvas".toList.isPrefixOf line then
      let (all, place) := all.opened bare
      readOn all (some place) (depth + 1) rest
    else if Text.hasPart "@hv_arg".toList line then
      match current with
      | some place => readOn (all.noted place bare) current depth rest
      | none => .error (.noMember "'NoneType' object has no attribute 'append'")
    else if "#X restore".toList.isPrefixOf line then
      match place? all.length (depth - 1) with
      | some place => readOn all (some place) (depth - 1) rest
      | none => .error .outOfRange
    else readOn all current depth rest

/-- The lines of a file that declare arguments, which are known before the canvases are read. -/
def ofLines (lines : List (List Char)) : Except Fault DeclarationLines :=
  readOn [] none (-1) lines

end DeclarationLines

end PatchCompiler
