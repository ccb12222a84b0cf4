import PatchCompiler.Number.Reader
import PatchCompiler.Number.Shortest
import PatchCompiler.Text.Printable
import PatchCompiler.Value.Basic

/-!
# JSON

Reading keeps the order of fields and tells integers from numbers with a point or an exponent.
Besides the standard grammar it knows `NaN`, `Infinity` and `-Infinity`. An error names its cause
and its place. Writing uses ASCII characters only.
-/

namespace PatchCompiler

namespace Json

inductive Cause where
  | value
  | propertyName
  | colon
  | comma
  | extraData
  | unterminatedString
  | controlCharacter
  | badEscape
  | badUnicodeEscape
  | byteOrderMark
  deriving DecidableEq, Repr

def Cause.text : Cause → String
  | .value => "Expecting value"
  | .propertyName => "Expecting property name enclosed in double quotes"
  | .colon => "Expecting ':' delimiter"
  | .comma => "Expecting ',' delimiter"
  | .extraData => "Extra data"
  | .unterminatedString => "Unterminated string starting at"
  | .controlCharacter => "Invalid control character at"
  | .badEscape => "Invalid \\escape: "
  | .badUnicodeEscape => "Invalid \\uXXXX escape"
  | .byteOrderMark => "Unexpected UTF-8 BOM (decode using utf-8-sig)"

/-- What was wrong, and how many characters stand before the place. -/
structure Error where
  cause : Cause
  place : Nat
  deriving DecidableEq, Repr

def Error.message (error : Error) (source : String) : String :=
  let before := source.toList.take error.place
  let line := before.count '\n' + 1
  let column := (before.reverse.takeWhile (· != '\n')).length + 1
  s!"{error.cause.text}: line {line} column {column} (char {error.place})"

/-- Where a reader stands: how many characters it has passed, and those that follow. -/
structure Cursor where
  place : Nat
  rest : List Char

def Cursor.skipBlanks (cursor : Cursor) : Cursor :=
  let blanks := cursor.rest.takeWhile fun c => c == ' ' || c == '\t' || c == '\n' || c == '\r'
  ⟨cursor.place + blanks.length, cursor.rest.drop blanks.length⟩

def Cursor.advance (cursor : Cursor) (count : Nat) : Cursor :=
  ⟨cursor.place + count, cursor.rest.drop count⟩

def hexValue? (cs : List Char) : Option Nat :=
  if cs.length = 4 then
    cs.foldl (fun value c => value.bind fun v =>
      if c.isDigit then some (16 * v + (c.toNat - 48))
      else
        let low := c.toLower
        if 'a' ≤ low ∧ low ≤ 'f' then some (16 * v + (low.toNat - 87)) else none) (some 0)
  else none

/-- A pair of surrogates is one character; a surrogate alone has no character of its own and
becomes the replacement character. -/
def readUnicode (code : Nat) (rest : List Char) : Char × Nat :=
  if 0xd800 ≤ code ∧ code < 0xdc00 then
    match rest with
    | '\\' :: 'u' :: more =>
      match hexValue? (more.take 4) with
      | some low =>
        if 0xdc00 ≤ low ∧ low < 0xe000 then
          (Char.ofNat (0x10000 + (code - 0xd800) * 0x400 + (low - 0xdc00)), 6)
        else ('\ufffd', 0)
      | none => ('\ufffd', 0)
    | _ => ('\ufffd', 0)
  else if 0xdc00 ≤ code ∧ code < 0xe000 then ('\ufffd', 0)
  else (Char.ofNat code, 0)

def simpleEscape? (c : Char) : Option Char :=
  match c with
  | '"' => some '"'
  | '\\' => some '\\'
  | '/' => some '/'
  | 'b' => some '\x08'
  | 'f' => some '\x0c'
  | 'n' => some '\n'
  | 'r' => some '\r'
  | 't' => some '\t'
  | _ => none

/-- The rest of a string that started at `start`. `skip` characters of an escape already read are
still to be passed. -/
def readStringFrom (start : Nat) (read : List Char) (skip place : Nat) :
    List Char → Except Error (String × Cursor)
  | [] => .error ⟨.unterminatedString, start⟩
  | c :: rest =>
    match skip with
    | skip + 1 => readStringFrom start read skip (place + 1) rest
    | 0 =>
      if c = '"' then .ok (String.ofList read.reverse, ⟨place + 1, rest⟩)
      else if c = '\\' then
        match rest with
        | [] => .error ⟨.unterminatedString, start⟩
        | 'u' :: more =>
          match hexValue? (more.take 4) with
          | none => .error ⟨.badUnicodeEscape, place + 1⟩
          | some code =>
            let (char, extra) := readUnicode code (more.drop 4)
            readStringFrom start (char :: read) (5 + extra) (place + 1) rest
        | e :: _ =>
          match simpleEscape? e with
          | none => .error ⟨.badEscape, place⟩
          | some char => readStringFrom start (char :: read) 1 (place + 1) rest
      else if c.toNat < 32 then .error ⟨.controlCharacter, place⟩
      else readStringFrom start (c :: read) 0 (place + 1) rest

/-- A number: an integer without leading zeros, perhaps a fraction, perhaps an exponent. -/
def readNumber (cursor : Cursor) : Except Error (Value × Cursor) :=
  let (negative, unsigned) :=
    match cursor.rest with
    | '-' :: rest => (true, rest)
    | rest => (false, rest)
  let whole := match unsigned with
    | '0' :: _ => ['0']
    | _ => unsigned.takeWhile Char.isDigit
  if whole.isEmpty then .error ⟨.value, cursor.place⟩
  else
    let rest := unsigned.drop whole.length
    let fraction := match rest with
      | '.' :: more => more.takeWhile Char.isDigit
      | _ => []
    let rest := if fraction.isEmpty then rest else rest.drop (fraction.length + 1)
    let exponent := match rest with
      | e :: more =>
        if e = 'e' ∨ e = 'E' then
          let signs := (more.take 1).filter fun c => c == '+' || c == '-'
          let digits := (more.drop signs.length).takeWhile Char.isDigit
          if digits.isEmpty then [] else e :: signs ++ digits
        else []
      | [] => []
    let length := (if negative then 1 else 0) + whole.length +
      (if fraction.isEmpty then 0 else fraction.length + 1) + exponent.length
    let value :=
      if fraction.isEmpty && exponent.isEmpty then
        .int (Binary64.signed negative (digitsValue whole))
      else
        let power := (readExponent? exponent).getD 0
        .real (.ofDecimal negative (digitsValue (whole ++ fraction)) (power - fraction.length))
    .ok (value, cursor.advance length)

def constants : List (String × Value) :=
  [("null", .null), ("true", .bool true), ("false", .bool false), ("NaN", .real .nan),
    ("Infinity", .real (.infinite false)), ("-Infinity", .real (.infinite true))]

mutual

/-- A value. The first argument bounds the nesting and the number of elements. -/
def readValue : Nat → Cursor → Except Error (Value × Cursor)
  | 0, cursor => .error ⟨.value, cursor.place⟩
  | fuel + 1, cursor =>
    match cursor.rest with
    | '"' :: rest => do
        let (s, cursor) ← readStringFrom cursor.place [] 0 (cursor.place + 1) rest
        pure (.text s, cursor)
    | '{' :: _ =>
      let inside := (cursor.advance 1).skipBlanks
      match inside.rest with
      | '}' :: _ => .ok (.record [], inside.advance 1)
      | _ => readFields fuel [] inside
    | '[' :: _ =>
      let inside := (cursor.advance 1).skipBlanks
      match inside.rest with
      | ']' :: _ => .ok (.list [], inside.advance 1)
      | _ => readItems fuel [] inside
    | _ =>
      match constants.find? fun entry => entry.1.toList.isPrefixOf cursor.rest with
      | some (name, value) => .ok (value, cursor.advance name.length)
      | none => readNumber cursor

def readFields : Nat → Record → Cursor → Except Error (Value × Cursor)
  | 0, _, cursor => .error ⟨.value, cursor.place⟩
  | fuel + 1, fields, cursor =>
    match cursor.rest with
    | '"' :: rest => do
        let (name, cursor) ← readStringFrom cursor.place [] 0 (cursor.place + 1) rest
        let cursor := cursor.skipBlanks
        match cursor.rest with
        | ':' :: _ =>
          let (value, cursor) ← readValue fuel (cursor.advance 1).skipBlanks
          let fields := fields.set name value
          let cursor := cursor.skipBlanks
          match cursor.rest with
          | '}' :: _ => .ok (.record fields, cursor.advance 1)
          | ',' :: _ => readFields fuel fields (cursor.advance 1).skipBlanks
          | _ => .error ⟨.comma, cursor.place⟩
        | _ => .error ⟨.colon, cursor.place⟩
    | _ => .error ⟨.propertyName, cursor.place⟩

/-- The items of a list from an item on; those read so far are in reverse. -/
def readItems : Nat → List Value → Cursor → Except Error (Value × Cursor)
  | 0, _, cursor => .error ⟨.value, cursor.place⟩
  | fuel + 1, items, cursor => do
      let (item, cursor) ← readValue fuel cursor
      let cursor := cursor.skipBlanks
      match cursor.rest with
      | ']' :: _ => .ok (.list (item :: items).reverse, cursor.advance 1)
      | ',' :: _ => readItems fuel (item :: items) (cursor.advance 1).skipBlanks
      | _ => .error ⟨.comma, cursor.place⟩

end

def read (source : String) : Except Error Value :=
  let cs := source.toList
  if cs.head? = some '\ufeff' then .error ⟨.byteOrderMark, 0⟩
  else do
    let (value, cursor) ← readValue (2 * cs.length + 2) (Cursor.skipBlanks ⟨0, cs⟩)
    let cursor := cursor.skipBlanks
    if cursor.rest.isEmpty then pure value else .error ⟨.extraData, cursor.place⟩

def unitEscape (unit : Nat) : List Char :=
  let digits := Nat.toDigits 16 unit
  '\\' :: 'u' :: (List.replicate (4 - digits.length) '0' ++ digits)

def escapedChar (c : Char) : List Char :=
  match c with
  | '"' => ['\\', '"']
  | '\\' => ['\\', '\\']
  | '\n' => ['\\', 'n']
  | '\r' => ['\\', 'r']
  | '\t' => ['\\', 't']
  | '\x08' => ['\\', 'b']
  | '\x0c' => ['\\', 'f']
  | _ =>
    let code := c.toNat
    if 32 ≤ code ∧ code < 127 then [c]
    else if code < 0x10000 then unitEscape code
    else
      let offset := code - 0x10000
      unitEscape (0xd800 + offset / 0x400) ++ unitEscape (0xdc00 + offset % 0x400)

def writeString (s : String) : String :=
  String.ofList ('"' :: s.toList.flatMap escapedChar ++ ['"'])

/-- The texts between items and between a name and its value. -/
structure Style where
  item : String
  field : String

def Style.spaced : Style := ⟨", ", ": "⟩

def Style.compact : Style := ⟨",", ":"⟩

def writeReal : Binary64 → String
  | .nan => "NaN"
  | .infinite negative => if negative then "-Infinity" else "Infinity"
  | x => x.text

mutual

def write (style : Style) : Value → String
  | .null => "null"
  | .bool b => if b then "true" else "false"
  | .int n => toString n
  | .real x => writeReal x
  | .text s => writeString s
  | .object _ => writeString "#"
  | .list items => "[" ++ style.item.intercalate (writeItems style items) ++ "]"
  | .record fields => "\x7b" ++ style.item.intercalate (writeFields style fields) ++ "\x7d"

def writeItems (style : Style) : List Value → List String
  | [] => []
  | x :: xs => write style x :: writeItems style xs

def writeFields (style : Style) : List (String × Value) → List String
  | [] => []
  | (name, value) :: rest =>
    (writeString name ++ style.field ++ write style value) :: writeFields style rest

end

end Json

end PatchCompiler
