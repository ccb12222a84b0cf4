import PatchCompiler.Value.Convert

/-!
# Raw annotations

A sender or receiver can be made a parameter by words among its arguments. `@raw` is followed by a
name and then by least, greatest and default value; the other words set one of these.
-/

namespace PatchCompiler

structure RawParameter where
  min : Binary64 := .zero
  max : Binary64 := .ofRatio false 1 1
  default : Option Binary64 := none
  name : Option String := none

namespace RawParameter

def wordsAfter (word : String) (words : List String) : Option (List String) :=
  match words.dropWhile (· != word) with
  | [] => none
  | _ :: rest => some rest

def takeNumbers (parameter : RawParameter) (words : List String) : RawParameter :=
  match words with
  | [] => parameter
  | low :: rest =>
    match readDouble? low with
    | none => parameter
    | some min =>
      let parameter := { parameter with min }
      match rest with
      | [] => parameter
      | high :: rest =>
        match readDouble? high with
        | none => parameter
        | some max =>
          let parameter := { parameter with max }
          match (rest.head?).bind readDouble? with
          | none => parameter
          | some default => { parameter with default := some default }

def readName (word : String) (words : List String) (parameter : RawParameter) :
    Except Fault (RawParameter × List String) :=
  match wordsAfter word words with
  | none => .ok (parameter, [])
  | some [] => .error (.rawRefused s!"{word} annotation missing assigned parameter")
  | some (name :: rest) => .ok ({ parameter with name := some name }, rest)

def readNumber (word : String) (words : List String) : Except Fault (Option Binary64) :=
  match wordsAfter word words with
  | none => .ok none
  | some [] => .error (.rawRefused s!"{word} annotation is missing its value")
  | some (number :: _) =>
    match readDouble? number with
    | some x => .ok (some x)
    | none => .error (.rawRefused s!"{word} annotation value '{number}' is not numeric")

def middle (parameter : RawParameter) : Binary64 :=
  ((parameter.max.sub parameter.min).div? (.ofRatio false 2 1)).getD .nan

/-- Reads the raw annotations among the arguments of a box. An older spelling of the words is
accepted. -/
def ofWords (words : List String) : Except Fault RawParameter := do
  let words := words.map (Text.replaceText "owl" "raw")
  let (parameter, rest) ← readName "@raw" words {}
  let parameter := parameter.takeNumbers rest
  let min ← readNumber "@raw_min" words
  let max ← readNumber "@raw_max" words
  let default ← readNumber "@raw_default" words
  let parameter := { parameter with
    min := min.getD parameter.min
    max := max.getD parameter.max
    default := default.or parameter.default }
  let (parameter, _) ← readName "@raw_param" words parameter
  return parameter

def toRecord (parameter : RawParameter) : Record :=
  [("min", .real parameter.min), ("max", .real parameter.max),
    ("default", .real (parameter.default.getD parameter.middle))] ++
  match parameter.name with
  | some name => [("raw", .text name)]
  | none => []

end RawParameter

end PatchCompiler
