import PatchCompiler.Files
import PatchCompiler.Library
import PatchCompiler.Patch.Check
import PatchCompiler.Patch.Readymade
import PatchCompiler.Patch.Record

/-!
# Reading patches

The records of a file are read one after the other, and the canvases that are open form a stack. A
record that cannot be read closes the innermost canvas with an error, and the records after it
belong to the canvas around it.

A box whose type is not known otherwise may be a patch in a file of its own. It is looked for in
the directory of the file, then in the places that were added last.
-/

namespace PatchCompiler

def patchLines? (files : Files) (path : String) : Option (List (List Char)) :=
  let path := Path.normal path
  let directory := Path.directory path
  let name := Path.withoutEnding (Path.baseName path)
  let ofTexts := Option.map (List.map String.toList)
  if Text.endsWith ".pd" path && directory == Library.directory then ofTexts (Library.patch? name)
  else if Text.endsWith ".pd" path && directory == Library.furtherDirectory then
    ofTexts (Library.furtherPatch? name)
  else (files.find? path).map fun content => Text.lines content.toText.toList

/-- A canvas that is being read. -/
structure Open where
  canvas : Ref
  isRoot : Bool
  array : Option Ref := none

/-- How reading goes on after a record. -/
inductive Progress where
  | next (top : Open)
  | opened (top inner : Open)
  /-- The canvas is closed; the box stands for it. -/
  | closed (box : Ref)

def nestingLimit : Nat := 480

/-- Reads a patch file with the arguments of a box at a position. -/
abbrev Loader := (path : String) → (arguments : List Value) → (x y : Int) → Role → Drawing Ref

def signalBoxes : List String :=
  ["abs~", "clip~", "cos~", "dbtopow~", "dbtorms~", "exp~", "ftom~", "hip~", "lop~", "mtof~",
    "powtodb~", "q8_rsqrt~", "q8_sqrt~", "rmstodb~", "rsqrt~", "sqrt~", "wrap~"]

def signalOnlyBoxes : List String :=
  ["rzero~", "rzero_rev~", "czero~", "czero_rev~"]

namespace Drawing

def wordAt (words : List String) (place : Nat) : Drawing String :=
  match words[place]? with
  | some word => return word
  | none => throw .outOfRange

def integerAt (words : List String) (place : Nat) : Drawing Int := do
  ofExcept (Value.text (← wordAt words place)).toInteger

def position (words : List String) : Drawing (Int × Int) := do
  let x ← integerAt words 2
  let y ← integerAt words 3
  return (x, y)

def addSearchPath (files : Files) (path : String) : Drawing Bool := do
  if files.has path && !files.hasFile path then
    modify fun patch => { patch with searchPaths := patch.searchPaths ++ [path] }
    return true
  else return false

def findPatch (files : Files) (directory type : String) : Drawing (Option String) := do
  let places := Path.absolute "/" directory :: (← get).searchPaths.reverse
  let paths := places.map fun place => Path.join place (type ++ ".pd")
  return paths.find? fun path => (patchLines? files path).isSome

def declareFrom (canvas : Ref) (words : List String) : Drawing Unit := do
  if (← wordAt words 4) != "@hv_arg" then throw (.assertion "")
  let required := (← wordAt words 9) == "true"
  let default ←
    if required then pure Value.null
    else do
      let value ← wordAt words 8
      let type ← wordAt words 7
      ofExcept (convertArgument .patch (.ofName type) (.text value))
  let number := String.ofList ((← wordAt words 5).toList.drop 2)
  let index ← ofExcept (Value.text number).toInteger
  declare canvas (index - 1)
    { name := ← wordAt words 6, type := ← wordAt words 7, default, required }

def openCanvas (declarations : DeclarationLines) (record : List Char) (role : Role)
    (arguments : List Value) (path : String) (x y : Int) : Drawing Ref := do
  let canvas ← makeCanvas role arguments path x y
  match declarations.lookup record with
  | none => throw (.missingField (String.ofList record))
  | some lines =>
    for line in lines do
      declareFrom canvas ((Text.words line).map String.ofList)
    return canvas

def readDirect (top : Open) (words : List String) : Drawing Ref := do
  let type ← wordAt words 6
  let given ← (words.drop 7).mapM fun word => do
    match ← resolveText top.canvas top.isRoot true word with
    | some s => return Value.text s
    | none => return Value.null
  let (x, y) ← position words
  if type == "__switchcase" then makeSwitchcase given x y else makeDirect type given x y

def finishArray (array : Ref) : Drawing Unit := do
  let fields := (← box array).fields
  let declared := ((fields.getD "size" .null).int?).getD 0
  let values := ((fields.getD "values" .null).items?).getD []
  let count : Int := values.length
  if declared != count then
    let size := max declared count
    let name := (fields.getD "name" .null).display
    warn array (s!"Table \"{name}\" was declared as having {declared} values, " ++
      s!"but {count} were supplied. It will be resized to {size} " ++
      "values (any unsupplied values will be zeroed).")
    let zeros := List.replicate (size - declared).toNat (Value.real .zero)
    let fields := (fields.set "size" (.int size)).set "values" (.list (values ++ zeros))
    change array fun b => { b with arguments := .named fields }

def readRestore (top : Open) (words : List String) : Drawing Progress := do
  if words[5]? == some "@hv_obj" then return .closed (← readDirect top words)
  if let some array := top.array then finishArray array
  let title := if words.length > 5 then Text.join " " (words.drop 5) else "subpatch"
  changeCanvas top.canvas fun c => { c with title := some title }
  return .closed top.canvas

def readKnown (load : Loader) (canvas : Ref) (type : String) (words : List String)
    (line : List String) : Drawing Ref := do
  let arguments := words.map Value.text
  if let some graph := Library.graph? type then
    count type
    let (x, y) ← position line
    makeReadymade type graph arguments x y
  else if (Library.patch? type).isSome then
    count type
    let (x, y) ← position line
    let role := if signalBoxes.contains type then Role.signalCanvas else .canvas
    let inner ← load (Library.directory ++ "/" ++ type ++ ".pd") arguments x y role
    if signalOnlyBoxes.contains type then
      warn canvas (s!"[{type}] accepts only signal input. " ++
        "Arguments and control connections are ignored.")
    return inner
  else if (Library.furtherPatch? type).isSome then
    count type
    let (x, y) ← position line
    load (Library.furtherDirectory ++ "/" ++ type ++ ".pd") arguments x y .canvas
  else if isSpecial type then
    count type
    let (x, y) ← position line
    makeSpecial type words x y
  else
    match readDouble? type with
    | some number =>
      count "float"
      let (x, y) ← position line
      makeDirect "__var" [.real number] x y
    | none =>
      failAs canvas .unknownObject (s!"Don't know how to parse object \"{type}\". Is it an " ++
        "object supported by Heavy? Is it an abstraction? " ++
        "Have the search paths been correctly configured?")
      makeComment s!"null object placeholder ({type})" 0 0

def readBox (files : Files) (load : Loader) (top : Open) (line : List String) : Drawing Unit := do
  let canvas := top.canvas
  if line.length ≤ 4 then
    warnAs canvas .emptyObject
      "This graph contains an empty object. It should be removed or defined."
    let (x, y) ← position line
    add canvas (← makeComment "null object placeholder" x y)
  else
    let type ← resolveWord canvas top.isRoot (← wordAt line 4)
    let words ← (line.drop 5).mapM (resolveWord canvas top.isRoot)
    let own := (← box canvas).canvas.path
    match ← findPatch files (Path.directory own) type with
    | some path =>
      if (← get).isBeingRead canvas path then
        add canvas (← readKnown load canvas type words line)
      else
        let (x, y) ← position line
        add canvas (← load path (words.map .text) x y .canvas)
    | none => add canvas (← readKnown load canvas type words line)

def readArray (top : Open) (words : List String) : Drawing Open := do
  if top.array.isSome then throw (.assertion "#X array object is already being parsed.")
  let name ← resolveWord top.canvas false (← wordAt words 2)
  let size ← ofExcept (Value.text (← wordAt words 3)).decimalInteger
  let array ← makeDirect "table" [.text name, .int size, .list []] 0 0
  add top.canvas array
  return { top with array := some array }

def readValues (top : Open) (words : List String) : Drawing Unit := do
  match top.array with
  | none => throw (.noMember "'NoneType' object has no attribute 'obj_args'")
  | some array =>
    let fields := (← box array).fields
    let numbers ← words.mapM fun word => ofExcept (Value.text word).toDouble
    let values := ((fields.getD "values" .null).items?).getD []
    let fields := fields.set "values" (.list (values ++ numbers.map .real))
    change array fun b => { b with arguments := .named fields }

def readDeclare (files : Files) (top : Open) (words : List String) : Drawing Unit := do
  if !top.isRoot then
    warn top.canvas ("[declare] objects are not supported in abstractions. " ++
      "They can only be in the root canvas.")
  else if words.length ≥ 4 && words[2]? == some "-path" then
    let place ← wordAt words 3
    let home ← wordAt (← get).searchPaths 0
    if !(← addSearchPath files (Path.absolute "/" (Path.join home place))) then
      warn top.canvas (s!"\"{place}\" is not a valid relative abstraction " ++
        "search path. It will be ignored.")
  else
    warnAs top.canvas .declarePath "Heavy only supports the -path flag for the declare object."

def readElement (files : Files) (load : Loader) (top : Open) (words : List String) :
    Drawing Progress := do
  let canvas := top.canvas
  match ← wordAt words 1 with
  | "restore" => readRestore top words
  | "text" => do
      count "text"
      let (x, y) ← position words
      add canvas (← makeComment (Text.join " " (words.drop 4)) x y)
      return .next top
  | "obj" => do
      readBox files load top words
      return .next top
  | "array" => return .next (← readArray top words)
  | "msg" => do
      count "msg"
      let (x, y) ← position words
      add canvas (← makeMessage (Text.join " " (words.drop 4)) x y)
      return .next top
  | "connect" => do
      link canvas (← integerAt words 2) (← integerAt words 3) (← integerAt words 4)
        (← integerAt words 5)
      return .next top
  | "declare" => do
      readDeclare files top words
      return .next top
  | "coords" => return .next top
  | other => do
      if ["floatatom", "symbolatom"].contains other then
        count other
        let (x, y) ← position words
        add canvas (← load (Library.directory ++ "/" ++ other ++ ".pd") [] x y .canvas)
      else fail canvas ("Don't know how to parse line: " ++ Text.join " " words)
      return .next top

def readRecord (files : Files) (load : Loader) (declarations : DeclarationLines) (top : Open)
    (record : List Char) : Drawing Progress := do
  let words := Record.wordsOf record
  match ← wordAt words 0 with
  | "#N" => do
      if (← wordAt words 1) == "canvas" then
        let (x, y) ← position words
        let node ← box top.canvas
        let inner ← openCanvas declarations record .canvas node.items node.canvas.path x y
        return .opened top { canvas := inner, isRoot := false }
      else return .next top
  | "#X" => readElement files load top words
  | "#A" => do
      readValues top (words.drop 2)
      return .next top
  | _ => do
      fail top.canvas ("Don't know how to parse line: " ++ Text.join " " words)
      return .next top

def closeAll (box : Ref) : List Open → Drawing Ref
  | [] => return box
  | outer :: rest => do
      add outer.canvas box
      closeAll outer.canvas rest

/-- Reads the records of a file; `outer` are the canvases around the current one. -/
def readRecords (files : Files) (load : Loader) (declarations : DeclarationLines) (top : Open)
    (outer : List Open) : List (List Char) → Drawing Ref
  | [] => closeAll top.canvas outer
  | record :: rest => do
      let progress ←
        tryCatch (readRecord files load declarations top record) fun fault => do
          failAs top.canvas .givenUp fault.message
          return .closed top.canvas
      match progress with
      | .next top => readRecords files load declarations top outer rest
      | .opened top inner => readRecords files load declarations inner (top :: outer) rest
      | .closed box =>
        match outer with
        | [] => return box
        | next :: outer => do
            add next.canvas box
            readRecords files load declarations next outer rest

/-- Reads a file whose nested patches are read by `load`. -/
def readPatchWith (files : Files) (load : Loader) (isRoot : Bool) : Loader :=
  fun path arguments x y role => do
    match patchLines? files path with
    | none => throw (.fileMissing path)
    | some lines =>
      let declarations ← ofExcept (DeclarationLines.ofLines lines)
      match Record.ofLines lines with
      | [] => throw .endOfText
      | first :: rest =>
        modify fun patch => { patch with serial := patch.serial + 1 }
        let arguments := .int (← get).serial :: arguments
        if "#N canvas".toList.isPrefixOf first then
          let canvas ← openCanvas declarations first role arguments path x y
          readRecords files load declarations { canvas, isRoot } [] rest
        else
          let canvas ← makeCanvas role arguments path x y
          fail canvas s!"Pd files must begin with \"#N canvas\": {String.ofList first}"
          return canvas

def readNested (files : Files) : Nat → Loader
  | 0 => fun _ _ _ _ _ => throw .tooDeep
  | depth + 1 => readPatchWith files (readNested files depth) false

def readPatch (files : Files) (path : String) : Drawing Ref := do
  modify fun patch => { patch with searchPaths := patch.searchPaths ++ [Path.directory path] }
  let root ← readPatchWith files (readNested files nestingLimit) true path [] 0 0 .canvas
  let (_, errors) ← ofExcept ((← get).notices root)
  if errors.isEmpty then check root
  return root

end Drawing

end PatchCompiler
