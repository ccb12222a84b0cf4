import PatchCompiler.Number.Binary64

/-!
# Decimal texts of doubles

The text of a double has the fewest digits that read back as the same double, and of those texts
the nearest. `shortest` finds the digits by trying coarser decimal grids first: if any point of a
grid lies in the interval of reals that round to the double, one of its two neighbours on that
grid does.
-/

namespace PatchCompiler

namespace Binary64

/-- Powers that turn a comparison of `c · 10 ^ k` with `x · 2 ^ e` into one of integers:
`c · left` against `x · right`. -/
structure GridScale where
  left : Nat
  right : Nat

def gridScale (k e : Int) : GridScale where
  left := Nat.pow 10 k.toNat * Nat.pow 2 (-e).toNat
  right := Nat.pow 2 e.toNat * Nat.pow 10 (-k).toNat

/-- The interval of reals that round to `mantissa · 2 ^ exponent`, in units of a quarter of the
last place. Its ends belong to it when the mantissa is even. -/
structure RoundingInterval where
  low : Nat
  middle : Nat
  high : Nat
  closed : Bool

def roundingInterval (mantissa : Nat) (exponent : Int) : RoundingInterval where
  low := 4 * mantissa - (if mantissa = Nat.pow 2 52 ∧ -1074 < exponent then 1 else 2)
  middle := 4 * mantissa
  high := 4 * mantissa + 2
  closed := mantissa % 2 = 0

def RoundingInterval.contains (interval : RoundingInterval) (scale : GridScale) (c : Nat) : Bool :=
  let point := c * scale.left
  let low := interval.low * scale.right
  let high := interval.high * scale.right
  if interval.closed then low ≤ point && point ≤ high else low < point && point < high

/-- The digits on the grid `10 ^ k`, when one of the two neighbours reads back. -/
def RoundingInterval.onGrid? (interval : RoundingInterval) (scale : GridScale) : Option Nat :=
  let middle := interval.middle * scale.right
  let below := middle / scale.left
  let above := below + 1
  match interval.contains scale below, interval.contains scale above with
  | true, true =>
    let downward := middle - below * scale.left
    let upward := above * scale.left - middle
    some (if downward < upward ∨ (downward = upward ∧ below % 2 = 0) then below else above)
  | true, false => some below
  | false, true => some above
  | false, false => none

/-- Tries the grids `10 ^ k`, `10 ^ (k - 1)`, … in turn. -/
def searchGrid (interval : RoundingInterval) (exponent : Int) : Nat → Int → Nat × Int
  | 0, k => (interval.middle, k)
  | fuel + 1, k =>
    match interval.onGrid? (gridScale k (exponent - 2)) with
    | some digits => (digits, k)
    | none => searchGrid interval exponent fuel (k - 1)

/-- Digits and decimal exponent of the shortest text of `mantissa · 2 ^ exponent`. The search
starts above the leading digit; seventeen digits always suffice. -/
def shortest (mantissa : Nat) (exponent : Int) : Nat × Int :=
  let top := ((mantissa.log2 : Int) + exponent + 1) * 30103 / 100000 + 1
  searchGrid (roundingInterval mantissa exponent) exponent 24 top

end Binary64

def natDigits (n : Nat) : List Char :=
  Nat.toDigits 10 n

/-- An exponent is written with a sign and at least two digits. -/
def exponentText (exponent : Int) : List Char :=
  let digits := natDigits exponent.natAbs
  let padded := if digits.length < 2 then '0' :: digits else digits
  (if exponent < 0 then '-' else '+') :: padded

/-- Digits with the decimal point after `point` of them, zeros filling the gaps. -/
def positionalText (digits : List Char) (point : Int) : List Char :=
  if point ≤ 0 then
    '0' :: '.' :: (List.replicate (-point).toNat '0' ++ digits)
  else if (digits.length : Int) ≤ point then
    digits ++ List.replicate (point.toNat - digits.length) '0' ++ ['.', '0']
  else
    digits.take point.toNat ++ '.' :: digits.drop point.toNat

/-- One digit, a point, the other digits and an exponent; no point when there is one digit. -/
def scientificText (digits : List Char) (exponent : Int) : List Char :=
  match digits with
  | [] => []
  | [d] => d :: 'e' :: exponentText exponent
  | d :: rest => d :: '.' :: rest ++ 'e' :: exponentText exponent

namespace Binary64

def signText (negative : Bool) (text : List Char) : List Char :=
  if negative then '-' :: text else text

/-- The shortest text: positional for decimal exponents from -4 to 15, else with an exponent. -/
def text : Binary64 → String
  | .nan => "nan"
  | .infinite negative => if negative then "-inf" else "inf"
  | .finite negative 0 _ => if negative then "-0.0" else "0.0"
  | .finite negative mantissa exponent =>
    let (digits, k) := shortest mantissa exponent
    let ds := natDigits digits
    let leading := k + ds.length - 1
    String.ofList <| signText negative <|
      if -4 ≤ leading ∧ leading < 16 then positionalText ds (leading + 1)
      else scientificText ds leading

def roundedTimes (mantissa : Nat) (exponent places : Int) : Nat :=
  let scale := gridScale places (-exponent)
  divRoundEven (mantissa * scale.left) scale.right

def fixedText (places : Nat) : Binary64 → String
  | .nan => "nan"
  | .infinite negative => if negative then "-inf" else "inf"
  | .finite negative mantissa exponent =>
    let digits := natDigits (roundedTimes mantissa exponent places)
    let padded := List.replicate (places + 1 - digits.length) '0' ++ digits
    let whole := padded.take (padded.length - places)
    let fraction := padded.drop (padded.length - places)
    String.ofList <| signText negative <|
      if places = 0 then whole else whole ++ '.' :: fraction

def dropTrailingZeros (digits : List Char) : List Char :=
  (digits.reverse.dropWhile (· == '0')).reverse

/-- The place of the first digit of `mantissa · 2 ^ exponent`. The shortest text may be rounded up
to the next place. -/
def leadingPlace (mantissa : Nat) (exponent : Int) : Int :=
  let (digits, k) := shortest mantissa exponent
  let place := k + (natDigits digits).length - 1
  let scale := gridScale place exponent
  if scale.left ≤ mantissa * scale.right then place else place - 1

/-- The first `count` digits after rounding, and the place of the first one. -/
def significantDigits (count mantissa : Nat) (exponent : Int) : List Char × Int :=
  if mantissa = 0 then (List.replicate count '0', 0)
  else
    let place := leadingPlace mantissa exponent
    let rounded := natDigits (roundedTimes mantissa exponent (count - 1 - place))
    if count < rounded.length then (rounded.take count, place + 1) else (rounded, place)

/-- The text with at most `precision` significant digits and no trailing zeros; positional for
decimal exponents from -4 up to the precision. -/
def significantText (precision : Nat) : Binary64 → String
  | .nan => "nan"
  | .infinite negative => if negative then "-inf" else "inf"
  | .finite negative 0 _ => if negative then "-0" else "0"
  | .finite negative mantissa exponent =>
    let (digits, leading) := significantDigits precision mantissa exponent
    let kept := dropTrailingZeros digits
    String.ofList <| signText negative <|
      if -4 ≤ leading ∧ leading < precision then
        if (kept.length : Int) ≤ leading + 1 ∧ 0 ≤ leading then
          kept ++ List.replicate (leading.toNat + 1 - kept.length) '0'
        else positionalText kept (leading + 1)
      else scientificText kept leading

end Binary64

end PatchCompiler
