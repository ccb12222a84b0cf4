import PatchCompiler.Value.Access

/-!
# Templates

A template is a text with pieces that depend on named values: values to be shown, choices and
repetitions. Formulas say which value is meant.
-/

namespace PatchCompiler

/-- What to do with two values. -/
inductive Operation where
  | equal
  | unequal
  | greater
  | add
  | subtract
  | divide
  | greatest
  deriving DecidableEq, Repr

/-- What to do with one value. -/
inductive Change where
  | length
  | upper
  | lower
  | capitalized
  | identifier
  | open
  | entries
  | values
  | replace (old new : String)
  deriving DecidableEq, Repr

inductive Formula where
  | text (s : String)
  | number (n : Int)
  | truth (b : Bool)
  | name (s : String)
  | field (formula : Formula) (name : String)
  | change (change : Change) (formula : Formula)
  | operation (operation : Operation) (left right : Formula)
  | contains (s : String) (formula : Formula)
  | isDefined (formula : Formula)
  | not (formula : Formula)
  | and (left right : Formula)
  | or (left right : Formula)
  | choose (condition yes no : Formula)
  | range (first past : Formula)

namespace Formula

def path (path : String) : Formula :=
  match Text.splitText "." path with
  | [] => .name path
  | start :: fields => fields.foldl .field (.name start)

def length (formula : Formula) : Formula :=
  .change .length formula

/-- Whether a number, or the number of items, is greater than zero. -/
def positive (formula : Formula) : Formula :=
  .operation .greater formula (.number 0)

def any (path : String) : Formula :=
  .positive (.length (.path path))

def equals (formula : Formula) (n : Int) : Formula :=
  .operation .equal formula (.number n)

def upTo (bound : Formula) : Formula :=
  .range (.number 0) bound

/-- The formula of a hole in a text: a path, and behind a bar what is done with its value. -/
def ofHole (hole : String) : Formula :=
  match Text.splitText "|" hole with
  | [path, "upper"] => .change .upper (.path path)
  | [path, "lower"] => .change .lower (.path path)
  | _ => .path hole

end Formula

inductive Piece where
  /-- Lines, with line ends between them. A value is put in for a path between backticks; two
  backticks in a row stand for one. -/
  | text (lines : List String)
  | value (formula : Formula)
  | choose (condition : Formula) (yes no : List Piece)
  /-- Repeats the body for the items of a value that meet a condition, with names for an item or
  for its parts. -/
  | each (names : List String) (source : Formula) (condition : Formula) (body : List Piece)

/-- A text with pieces that depend on named values. -/
abbrev Template := List Piece

namespace Piece

def when (condition : Formula) (body : List Piece) : Piece :=
  .choose condition body []

def for_ (names : List String) (source : Formula) (body : List Piece) : Piece :=
  .each names source (.truth true) body

/-- Repeats the body for the fields of a record, with `k` for the name and `v` for the value. -/
def entries (path : String) (body : List Piece) : Piece :=
  .for_ ["k", "v"] (.path path) body

def counted (path : String) (body : List Piece) : Piece :=
  .for_ ["i"] (.upTo (.path path)) body

end Piece

end PatchCompiler
