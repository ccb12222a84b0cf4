import PatchCompiler.Value.Convert

/-!
# Fields

A field shows a value in a given width. Its format says how the value is aligned and what fills the
rest, and for numbers the sign, the base, the digits after the point and what groups digits.
-/

namespace PatchCompiler

inductive Alignment where
  | left
  | right
  | middle
  | inside
  deriving DecidableEq, Repr

def Alignment.ofChar? : Char → Option Alignment
  | '<' => some .left
  | '>' => some .right
  | '^' => some .middle
  | '=' => some .inside
  | _ => none

structure FieldFormat where
  fill : Char := ' '
  alignment : Alignment
  sign : Option Char := none
  /-- Whether a number that is rounded to zero loses its sign. -/
  plainZero : Bool := false
  isFull : Bool := false
  width : Nat := 0
  separator : Option Char := none
  precision : Option Nat := none
  type : Option Char := none
  deriving DecidableEq, Repr

namespace FieldFormat

/-- The number at the start of a text, if there is one, and the rest. -/
def leadingNumber (cs : List Char) : Option Nat × List Char :=
  let digits := cs.takeWhile Text.isDecimal
  let value := digits.foldl (fun n c => 10 * n + (Text.digitValue? c).getD 0) 0
  (if digits.isEmpty then none else some value, cs.dropWhile Text.isDecimal)

/-- Reads the alignment at the start of a format; a character before it fills. -/
def readAlignment (format : FieldFormat) : List Char → Option Alignment × FieldFormat × List Char
  | c :: d :: rest =>
    match Alignment.ofChar? d with
    | some alignment => (some alignment, { format with fill := c, alignment }, rest)
    | none =>
      match Alignment.ofChar? c with
      | some alignment => (some alignment, { format with alignment }, d :: rest)
      | none => (none, format, c :: d :: rest)
  | [c] =>
    match Alignment.ofChar? c with
    | some alignment => (some alignment, { format with alignment }, [])
    | none => (none, format, [c])
  | [] => (none, format, [])

def namesFill : List Char → Bool
  | _ :: d :: _ => (Alignment.ofChar? d).isSome
  | _ => false

/-- The rest of a text after one of some characters, if it starts with it. -/
def take? (among : List Char) : List Char → Option Char × List Char
  | c :: rest => if among.contains c then (some c, rest) else (none, c :: rest)
  | [] => (none, [])

def charName (c : Char) : String :=
  if 32 < c.toNat && c.toNat < 128 then String.singleton c
  else "\\x" ++ String.ofList (Nat.toDigits 16 c.toNat)

def bothSeparators : Fault := .badValue "Cannot specify both ',' and '_'."

def readSeparator (cs : List Char) : Except Fault (Option Char × List Char) :=
  match cs with
  | ',' :: '_' :: _ | '_' :: ',' :: _ => .error bothSeparators
  | ',' :: rest => .ok (some ',', rest)
  | '_' :: rest => .ok (some '_', rest)
  | _ => .ok (none, cs)

def readPrecision (cs : List Char) : Except Fault (Option Nat × List Char) :=
  match cs with
  | '.' :: rest =>
    match leadingNumber rest with
    | (some n, rest) => .ok (some n, rest)
    | (none, _) => .error (.badValue "Format specifier missing precision")
  | _ => .ok (none, cs)

def groups (separator : Char) (type : Option Char) : Bool :=
  match type with
  | none => true
  | some type => "defgEG%F".toList.contains type || separator == '_' && "boxX".toList.contains type

def read (kind : String) (usual : Alignment) (usualType : Option Char) (s : String) :
    Except Fault FieldFormat := do
  let cs := s.toList
  let (aligned, format, rest) := readAlignment { alignment := usual } cs
  let (sign, rest) := take? [' ', '+', '-'] rest
  let (plain, rest) := take? ['z'] rest
  let (full, rest) := take? ['#'] rest
  let (zero, rest) := if namesFill cs then (none, rest) else take? ['0'] rest
  let format := if zero.isNone then format else
    { format with
      fill := '0'
      alignment := if aligned.isNone && usual = .right then .inside else format.alignment }
  let (width, rest) := leadingNumber rest
  let (separator, rest) ← readSeparator rest
  let (precision, rest) ← readPrecision rest
  let type ← match rest with
    | [] => pure usualType
    | [c] => pure (some c)
    | _ => throw (.badValue s!"Invalid format specifier '{s}' for object of type '{kind}'")
  match separator with
  | some separator =>
    if !groups separator type then
      let named := charName (type.getD ' ')
      throw (.badValue s!"Cannot specify '{separator}' with '{named}'.")
  | none => pure ()
  return { format with
    sign, plainZero := plain.isSome, isFull := full.isSome, width := width.getD 0, separator,
    precision, type }

def unknownType (kind : String) (type : Option Char) : Fault :=
  let named := charName (type.getD ' ')
  .badValue s!"Unknown format code '{named}' for object of type '{kind}'"

/-- The filling on both sides of something that is to be `missing` characters wider. -/
def filling (format : FieldFormat) (missing : Nat) : List Char × List Char × List Char :=
  let fill := fun n => List.replicate n format.fill
  match format.alignment with
  | .left => ([], [], fill missing)
  | .right => (fill missing, [], [])
  | .middle => (fill (missing / 2), [], fill (missing - missing / 2))
  | .inside => ([], fill missing, [])

def showText (format : FieldFormat) (s : String) : Except Fault String := do
  let refuse := fun (what : String) =>
    (throw (.badValue s!"{what} not allowed in string format specifier") : Except Fault Unit)
  if format.type != some 's' then throw (unknownType "str" format.type)
  if format.sign == some ' ' then refuse "Space"
  if format.sign.isSome then refuse "Sign"
  if format.plainZero then refuse "Negative zero coercion (z)"
  if format.isFull then refuse "Alternate form (#)"
  if format.alignment = .inside then refuse "'=' alignment"
  let cs := match format.precision with
    | some n => s.toList.take n
    | none => s.toList
  let (before, _, after) := format.filling (format.width - cs.length)
  return String.ofList (before ++ cs ++ after)

/-- Groups digits, which are in reverse, and puts zeros before them up to a width. -/
def grouped (separator : Char) (size : Nat) : Nat → List Char → Int → List Char
  | 0, digits, _ => digits
  | fuel + 1, digits, width =>
    let taken := min size (max (max (digits.length : Int) width).toNat 1)
    let group := digits.take taken ++ List.replicate (taken - digits.length) '0'
    let rest := digits.drop taken
    let width := width - taken
    if rest.isEmpty && width ≤ 0 then group
    else group ++ separator :: grouped separator size fuel rest (width - 1)

def wholeDigits (format : FieldFormat) (size : Nat) (digits : List Char) (width : Int) :
    List Char :=
  if digits.isEmpty then []
  else
    match format.separator with
    | some separator =>
      (grouped separator size (digits.length + width.toNat + 1) digits.reverse width).reverse
    | none => List.replicate (width.toNat - digits.length) '0' ++ digits

/-- A number in a field: its sign, the name of its base, its digits before the point in groups of
some size, and what follows them. -/
def showNumber (format : FieldFormat) (negative : Bool) (base : List Char) (size : Nat)
    (digits rest : List Char) : String :=
  let sign := if negative then ['-']
    else match format.sign with
      | some '+' => ['+']
      | some ' ' => [' ']
      | _ => []
  let others := sign.length + base.length + rest.length
  let least : Int := if format.fill == '0' && format.alignment = .inside then
      (format.width : Int) - others else 0
  let whole := format.wholeDigits size digits least
  let (before, between, after) := format.filling (format.width - (others + whole.length))
  String.ofList (before ++ sign ++ base ++ between ++ whole ++ rest ++ after)

def showInteger (format : FieldFormat) (n : Int) : Except Fault String := do
  if format.precision.isSome then
    throw (.badValue "Precision not allowed in integer format specifier")
  if format.plainZero then
    throw (.badValue "Negative zero coercion (z) not allowed in integer format specifier")
  let digits := fun (base : Nat) => Nat.toDigits base n.natAbs
  let name := fun (base : List Char) => if format.isFull then base else []
  let shown := fun (base : List Char) (size : Nat) (digits : List Char) =>
    format.showNumber (decide (n < 0)) base size digits []
  match format.type with
  | some 'b' => return shown (name ['0', 'b']) 4 (digits 2)
  | some 'o' => return shown (name ['0', 'o']) 4 (digits 8)
  | some 'x' => return shown (name ['0', 'x']) 4 (digits 16)
  | some 'X' => return shown (name ['0', 'X']) 4 ((digits 16).map Char.toUpper)
  | some 'c' =>
    if format.sign.isSome then
      throw (.badValue "Sign not allowed with integer format specifier 'c'")
    if format.isFull then
      throw (.badValue "Alternate form (#) not allowed with integer format specifier 'c'")
    let n ← Value.wordOf "long" n
    if n < 0 || 0x10ffff < n then throw (.overflow "%c arg not in range(0x110000)")
    return format.showNumber false [] 3 [] [Char.ofNat n.toNat]
  | _ => return shown [] 3 (digits 10)

def fraction (isFull : Bool) (digits : List Char) : List Char :=
  if digits.isEmpty && !isFull then [] else '.' :: digits

def dividedAt (digits : List Char) (place : Int) : List Char × List Char :=
  if place < 0 then (['0'], List.replicate (-place - 1).toNat '0' ++ digits)
  else
    let count := place.toNat + 1
    (digits.take count ++ List.replicate (count - digits.length) '0', digits.drop count)

/-- The digits before the point of a finite number without its sign, and what follows them. -/
def finiteParts (format : FieldFormat) (mantissa : Nat) (exponent : Int) : List Char × List Char :=
  let scientific := fun (digits : List Char) (place : Int) =>
    (digits.take 1, fraction format.isFull (digits.drop 1) ++ 'e' :: exponentText place)
  let general := fun (precision limit : Nat) (least : Nat) =>
    let (digits, place) := Binary64.significantDigits precision mantissa exponent
    let kept := if format.isFull then digits
      else (Binary64.dropTrailingZeros (digits.drop 1)) |> fun rest => digits.take 1 ++ rest
    if place < -4 || (limit : Int) ≤ place then scientific kept place
    else
      let (whole, after) := dividedAt kept place
      (whole, fraction format.isFull (after ++ List.replicate (least - after.length) '0'))
  let fixed := fun (places : Nat) =>
    let text := (Binary64.fixedText places (.finite false mantissa exponent)).toList
    (text.takeWhile (· != '.'), fraction format.isFull ((text.dropWhile (· != '.')).drop 1))
  let precision := format.precision.getD 6
  match format.type with
  | some 'e' | some 'E' =>
    let (digits, place) := Binary64.significantDigits (precision + 1) mantissa exponent
    scientific digits place
  | some 'f' | some 'F' => fixed precision
  | some '%' =>
    let (whole, rest) := fixed precision
    (whole, rest ++ ['%'])
  | some _ => general (max precision 1) (max precision 1) 0
  | none =>
    match format.precision with
    | some n => general (max n 1) (max n 1 - 1) 1
    | none =>
      let text := (Binary64.text (.finite false mantissa exponent)).toList
      let whole := text.takeWhile Char.isDigit
      let rest := text.dropWhile Char.isDigit
      (whole, if format.isFull && rest.head? != some '.' then '.' :: rest else rest)

def showDouble (format : FieldFormat) (x : Binary64) : Except Fault String := do
  let isKnown := match format.type with
    | none => true
    | some type => "eEfFgGn%".toList.contains type
  if !isKnown then throw (unknownType "float" format.type)
  let isCapital := "EFG".toList.contains (format.type.getD ' ')
  let cased := fun (cs : List Char) => if isCapital then cs.map Char.toUpper else cs
  let x := if format.type = some '%' then x.mul (Binary64.ofRatio false 100 1) else x
  let ending := if format.type = some '%' then ['%'] else []
  match x with
  | .nan => return format.showNumber false [] 3 [] (cased "nan".toList ++ ending)
  | .infinite negative =>
    return format.showNumber negative [] 3 [] (cased "inf".toList ++ ending)
  | .finite negative mantissa exponent =>
    let (whole, rest) := format.finiteParts mantissa exponent
    let digits := (whole ++ rest).takeWhile (· != 'e')
    let isZero := digits.all fun c => !c.isDigit || c == '0'
    return format.showNumber (negative && !(format.plainZero && isZero)) [] 3 whole (cased rest)

end FieldFormat

namespace Value

/-- A value in a field of some format. The empty format shows any value as it is. -/
def inField (value : Value) (format : String) : Except Fault String := do
  if format.isEmpty then return value.display
  let whole := fun (n : Int) => do
    let read ← FieldFormat.read value.kindName .right (some 'd') format
    match read.type with
    | some type =>
      if "bcdoxXn".toList.contains type then read.showInteger n
      else if "eEfFgG%".toList.contains type then read.showDouble (← (Value.int n).toDouble)
      else throw (FieldFormat.unknownType value.kindName (some type))
    | none => read.showInteger n
  match value with
  | .text s => (← FieldFormat.read "str" .left (some 's') format).showText s
  | .int n => whole n
  | .bool b => whole (ofBool b)
  | .real x => (← FieldFormat.read "float" .right none format).showDouble x
  | other =>
    throw (.badType s!"unsupported format string passed to {other.kindName}.__format__")

end Value

end PatchCompiler
