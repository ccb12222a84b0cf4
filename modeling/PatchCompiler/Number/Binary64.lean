/-!
# Double precision numbers

A number is kept as sign, mantissa and binary exponent, so every operation is exact integer
arithmetic followed by one rounding to the nearest representable value, a tie going to the even
mantissa. `Format.round` is the only place where precision is lost.
-/

namespace PatchCompiler

/-- A binary floating point format: bits of the mantissa, and the least and the greatest exponent
of the last mantissa bit. -/
structure Format where
  precision : Nat
  minExponent : Int
  maxExponent : Int

namespace Format

def double : Format := ⟨53, -1074, 971⟩

def single : Format := ⟨24, -149, 104⟩

end Format

/-- `num / den` divided by `2 ^ e`, as a numerator and a denominator. -/
def scaledRatio (num den : Nat) : Int → Nat × Nat
  | .ofNat k => (num, den * Nat.pow 2 k)
  | .negSucc k => (num * Nat.pow 2 (k + 1), den)

/-- The integer nearest to `num / den`; a half goes to the even neighbour. -/
def divRoundEven (num den : Nat) : Nat :=
  let quotient := num / den
  let rest := num % den
  if den < 2 * rest ∨ (2 * rest = den ∧ quotient % 2 = 1) then quotient + 1 else quotient

namespace Format

/-- The exponent at which `num / den` fills the mantissa, or the least exponent there is. -/
def exponentFor (format : Format) (num den : Nat) : Int :=
  let guess : Int := (num.log2 : Int) - den.log2 - (format.precision - 1 : Nat)
  let (n, d) := scaledRatio num den guess
  max format.minExponent (if n < d * Nat.pow 2 (format.precision - 1) then guess - 1 else guess)

/-- The mantissa and exponent nearest to `num / den`, or nothing when it is too large. -/
def round (format : Format) (num den : Nat) : Option (Nat × Int) :=
  if num = 0 then
    some (0, format.minExponent)
  else
    let exponent := format.exponentFor num den
    let (n, d) := scaledRatio num den exponent
    let mantissa := divRoundEven n d
    let (mantissa, exponent) :=
      if mantissa = Nat.pow 2 format.precision then (Nat.pow 2 (format.precision - 1), exponent + 1)
      else (mantissa, exponent)
    if format.maxExponent < exponent then none else some (mantissa, exponent)

end Format

inductive Binary64 where
  /-- The value `± mantissa · 2 ^ exponent`. -/
  | finite (negative : Bool) (mantissa : Nat) (exponent : Int)
  | infinite (negative : Bool)
  | nan
  deriving DecidableEq, Repr

namespace Binary64

def ofRatio (negative : Bool) (num den : Nat) : Binary64 :=
  match Format.double.round num den with
  | some (mantissa, exponent) => .finite negative mantissa exponent
  | none => .infinite negative

def zero : Binary64 := .finite false 0 (-1074)

instance : Inhabited Binary64 := ⟨zero⟩

/-- The double nearest to an integer, or nothing when the integer is out of range. -/
def ofInt? (n : Int) : Option Binary64 :=
  match ofRatio (decide (n < 0)) n.natAbs 1 with
  | .infinite _ => none
  | x => some x

/-- The double nearest to `± digits · 10 ^ exponent`. The guards keep the powers small; they agree
with rounding because the finite values lie between `10 ^ (-330)` and `10 ^ 310`. -/
def ofDecimal (negative : Bool) (digits : Nat) (exponent : Int) : Binary64 :=
  let top := exponent + (Nat.toDigits 10 digits).length
  if digits = 0 then .finite negative 0 (-1074)
  else if 400 < top then .infinite negative
  else if top < -400 then .finite negative 0 (-1074)
  else match exponent with
    | .ofNat k => ofRatio negative (digits * Nat.pow 10 k) 1
    | .negSucc k => ofRatio negative digits (Nat.pow 10 (k + 1))

def isNegative : Binary64 → Bool
  | .finite negative _ _ => negative
  | .infinite negative => negative
  | .nan => false

def neg : Binary64 → Binary64
  | .finite negative mantissa exponent => .finite (!negative) mantissa exponent
  | .infinite negative => .infinite (!negative)
  | .nan => .nan

def signed (negative : Bool) (mantissa : Nat) : Int :=
  if negative then -(mantissa : Int) else mantissa

/-- A mantissa moved down to the smaller exponent `floor`. -/
def aligned (mantissa : Int) (exponent floor : Int) : Int :=
  mantissa * Nat.pow 2 (exponent - floor).toNat

/-- The double nearest to `value · 2 ^ exponent`; an exact zero takes the given sign. -/
def ofScaled (zeroNegative : Bool) (value : Int) (exponent : Int) : Binary64 :=
  if value = 0 then .finite zeroNegative 0 (-1074)
  else
    match exponent with
    | .ofNat k => ofRatio (decide (value < 0)) (value.natAbs * Nat.pow 2 k) 1
    | .negSucc k => ofRatio (decide (value < 0)) value.natAbs (Nat.pow 2 (k + 1))

def add : Binary64 → Binary64 → Binary64
  | .nan, _ => .nan
  | _, .nan => .nan
  | .infinite a, .infinite b => if a = b then .infinite a else .nan
  | .infinite a, _ => .infinite a
  | _, .infinite b => .infinite b
  | .finite a m e, .finite b n f =>
    let floor := min e f
    ofScaled (a && b) (aligned (signed a m) e floor + aligned (signed b n) f floor) floor

def sub (x y : Binary64) : Binary64 :=
  add x (neg y)

def mul : Binary64 → Binary64 → Binary64
  | .nan, _ => .nan
  | _, .nan => .nan
  | .infinite a, .infinite b => .infinite (a != b)
  | .infinite a, .finite b n _ => if n = 0 then .nan else .infinite (a != b)
  | .finite a m _, .infinite b => if m = 0 then .nan else .infinite (a != b)
  | .finite a m e, .finite b n f =>
    ofScaled (a != b) (signed a m * signed b n) (e + f)

def div? : Binary64 → Binary64 → Option Binary64
  | _, .finite _ 0 _ => none
  | .nan, _ => some .nan
  | _, .nan => some .nan
  | .infinite _, .infinite _ => some .nan
  | .infinite a, .finite b _ _ => some (.infinite (a != b))
  | .finite a _ _, .infinite b => some (.finite (a != b) 0 (-1074))
  | .finite a m e, .finite b n f =>
    let (num, den) := scaledRatio m n (f - e)
    some (ofRatio (a != b) num den)

/-- The numerical order; a NaN is comparable with nothing. Zeros of both signs are equal. -/
def compare : Binary64 → Binary64 → Option Ordering
  | .nan, _ => none
  | _, .nan => none
  | .infinite a, .infinite b =>
    some (if a = b then .eq else if a then .lt else .gt)
  | .infinite a, _ => some (if a then .lt else .gt)
  | _, .infinite b => some (if b then .gt else .lt)
  | .finite a m e, .finite b n f =>
    let floor := min e f
    some (Ord.compare (aligned (signed a m) e floor) (aligned (signed b n) f floor))

def compareInt (x : Binary64) (n : Int) : Option Ordering :=
  match x with
  | .nan => none
  | .infinite a => some (if a then .lt else .gt)
  | .finite a m e =>
    let floor := min e 0
    some (Ord.compare (aligned (signed a m) e floor) (aligned n 0 floor))

def equals (x y : Binary64) : Bool :=
  x.compare y == some .eq

def isZero : Binary64 → Bool
  | .finite _ 0 _ => true
  | _ => false

def truncate? : Binary64 → Option Int
  | .finite negative mantissa exponent =>
    some <| signed negative <|
      match exponent with
      | .ofNat k => mantissa * Nat.pow 2 k
      | .negSucc k => mantissa / Nat.pow 2 (k + 1)
  | _ => none

def singleBits : Binary64 → Nat
  | .nan => 0x7fc00000
  | .infinite negative => signBit negative + 0x7f800000
  | .finite negative mantissa exponent =>
    let (num, den) :=
      match exponent with
      | .ofNat k => (mantissa * Nat.pow 2 k, 1)
      | .negSucc k => (mantissa, Nat.pow 2 (k + 1))
    match Format.single.round num den with
    | none => signBit negative + 0x7f800000
    | some (m, e) =>
      -- The hidden bit of a normal number raises the exponent field by one.
      signBit negative + (e + 149).toNat * Nat.pow 2 23 + m
where
  signBit (negative : Bool) : Nat := if negative then 0x80000000 else 0

end Binary64

end PatchCompiler
