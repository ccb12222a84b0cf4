import PatchCompiler.Number.Shortest
import PatchCompiler.Text.Printable
import PatchCompiler.Value.Basic

/-!
# Texts of values

Messages and generated code show values. A text stands for itself at the top and is quoted inside
a list or a record. The identity of an object is shown as `#`.
-/

namespace PatchCompiler

namespace Text

def hexDigits (width code : Nat) : List Char :=
  let digits := Nat.toDigits 16 code
  List.replicate (width - digits.length) '0' ++ digits

/-- The code of a character in as many hexadecimal digits as it needs. -/
def escapedChar (c : Char) : List Char :=
  if c.toNat < 0x100 then '\\' :: 'x' :: hexDigits 2 c.toNat
  else if c.toNat < 0x10000 then '\\' :: 'u' :: hexDigits 4 c.toNat
  else '\\' :: 'U' :: hexDigits 8 c.toNat

/-- A character inside quotes: the quote, the backslash and whatever has no glyph are escaped. -/
def quotedChar (quote c : Char) : List Char :=
  if c = quote ∨ c = '\\' then ['\\', c]
  else if c = '\n' then ['\\', 'n']
  else if c = '\r' then ['\\', 'r']
  else if c = '\t' then ['\\', 't']
  else if isPrintable c then [c]
  else escapedChar c

/-- Double quotes surround a text that holds single quotes and no double ones. -/
def quoteFor (s : String) : Char :=
  if s.toList.contains '\'' && !s.toList.contains '"' then '"' else '\''

def quoted (s : String) : String :=
  let quote := quoteFor s
  String.ofList (quote :: s.toList.flatMap (quotedChar quote) ++ [quote])

def escaped (s : String) : String :=
  String.ofList (s.toList.flatMap fun c => if c.toNat < 128 then [c] else escapedChar c)

end Text

namespace Value

def boolText (b : Bool) : String :=
  if b then "True" else "False"

mutual

def inner : Value → String
  | .null => "None"
  | .bool b => boolText b
  | .int n => toString n
  | .real x => x.text
  | .text s => Text.quoted s
  | .object _ => "'#'"
  | .list items => "[" ++ Text.join ", " (innerItems items) ++ "]"
  | .record fields => "\x7b" ++ Text.join ", " (innerFields fields) ++ "\x7d"

def innerItems : List Value → List String
  | [] => []
  | x :: xs => inner x :: innerItems xs

def innerFields : List (String × Value) → List String
  | [] => []
  | (name, value) :: rest => (Text.quoted name ++ ": " ++ inner value) :: innerFields rest

end

def display : Value → String
  | .text s => s
  | .object _ => "#"
  | v => v.inner

end Value

end PatchCompiler
