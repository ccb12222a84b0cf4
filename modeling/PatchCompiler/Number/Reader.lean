import PatchCompiler.Number.Binary64
import PatchCompiler.Text.Digit

/-!
# Reading numbers

Three grammars read a number's text. All accept blanks around it and digits of any script. Only the
exact one takes the four separator controls for blanks.

* `readInt?`: a sign and digits, single underscores between digits.
* `readDecimal?`: a sign, digits with a point or an exponent, or a name of infinity or NaN;
  underscores anywhere.
* `readDouble?`: the same with underscores only between digits, rounded to a double.
-/

namespace PatchCompiler

/-- An exact decimal number `± digits · 10 ^ exponent`. -/
inductive Decimal where
  | finite (negative : Bool) (digits : Nat) (exponent : Int)
  | infinite (negative : Bool)
  | nan
  deriving DecidableEq, Repr

namespace Decimal

def toDouble : Decimal → Binary64
  | .finite negative digits exponent => .ofDecimal negative digits exponent
  | .infinite negative => .infinite negative
  | .nan => .nan

/-- The greatest power of ten that a digit may stand for. -/
def greatestPlace : Int := 999999999999999999

def leastPlace : Int := -1999999999999999997

/-- Whether all digits of a number stand at places that exist. The digit of zero has a place too. -/
def isInRange : Decimal → Bool
  | .finite _ digits exponent =>
    leastPlace ≤ exponent && exponent + (Nat.toDigits 10 digits).length ≤ greatestPlace + 1
  | _ => true

def truncate? : Decimal → Option Int
  | .finite negative digits exponent =>
    some <| Binary64.signed negative <|
      match exponent with
      | .ofNat k => if digits = 0 then 0 else digits * Nat.pow 10 k
      | .negSucc k => if digits.log2 < k then 0 else digits / Nat.pow 10 (k + 1)
  | _ => none

end Decimal

def digitsValue (digits : List Char) : Nat :=
  digits.foldl (fun value d => 10 * value + (d.toNat - 48)) 0

/-- Removes underscores that stand between two digits and refuses all others. `previous` is the
character before the text. -/
def dropUnderscores? (previous : Char) : List Char → Option (List Char)
  | [] => if previous = '_' then none else some []
  | c :: rest =>
    if c = '_' then
      if previous.isDigit then dropUnderscores? c rest else none
    else if previous = '_' ∧ ¬c.isDigit then none
    else (dropUnderscores? c rest).map (c :: ·)

def splitSign : List Char → Bool × List Char
  | '-' :: rest => (true, rest)
  | '+' :: rest => (false, rest)
  | rest => (false, rest)

/-- The exponent part of a number; nothing left over is the exponent zero. -/
def readExponent? : List Char → Option Int
  | [] => some 0
  | c :: rest =>
    if c = 'e' ∨ c = 'E' then
      let (negative, digits) := splitSign rest
      if digits.isEmpty ∨ ¬digits.all Char.isDigit then none
      else some (Binary64.signed negative (digitsValue digits))
    else none

/-- Digits, perhaps a point and more digits, perhaps an exponent. -/
def readFinite? (negative : Bool) (cs : List Char) : Option Decimal :=
  let whole := cs.takeWhile Char.isDigit
  let rest := cs.dropWhile Char.isDigit
  let (fraction, rest) :=
    match rest with
    | '.' :: more => (more.takeWhile Char.isDigit, more.dropWhile Char.isDigit)
    | _ => ([], rest)
  if whole.isEmpty && fraction.isEmpty then none
  else (readExponent? rest).map fun exponent =>
    .finite negative (digitsValue (whole ++ fraction)) (exponent - fraction.length)

def readUnspaced? (cs : List Char) : Option Decimal :=
  let (negative, rest) := splitSign cs
  let name := String.ofList (rest.map Char.toLower)
  if name = "inf" ∨ name = "infinity" then some (.infinite negative)
  else if name = "nan" then some .nan
  else readFinite? negative rest

/-- The exact grammar also knows signalling NaNs, and digits after the name of a NaN. -/
def isNanName (cs : List Char) : Bool :=
  let name := ((splitSign cs).2).map Char.toLower
  let name := if name.head? = some 's' then name.drop 1 else name
  "nan".toList.isPrefixOf name && (name.drop 3).all Char.isDigit

def readDecimal? (s : String) : Option Decimal :=
  let cs := (Text.strip (Text.plainDigits s.toList)).filter (· != '_')
  if isNanName cs then some .nan else readUnspaced? cs

/-- The separator controls: of files, groups, records and units. -/
def isSeparator (c : Char) : Bool :=
  '\x1c' ≤ c && c ≤ '\x1f'

/-- The text of a number without the blanks around it. A separator is never part of one. -/
def unspaced? (s : String) : Option (List Char) :=
  if s.toList.any isSeparator then none else some (Text.strip (Text.plainDigits s.toList))

def readDouble? (s : String) : Option Binary64 := do
  let cs ← unspaced? s
  ((dropUnderscores? ' ' cs).bind readUnspaced?).map Decimal.toDouble

def readInt? (s : String) : Option Int := do
  let (negative, digits) := splitSign (← unspaced? s)
  (dropUnderscores? ' ' digits).bind fun digits =>
    if digits.isEmpty ∨ ¬digits.all Char.isDigit then none
    else some (Binary64.signed negative (digitsValue digits))

end PatchCompiler
