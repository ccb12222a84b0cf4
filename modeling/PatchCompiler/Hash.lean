import PatchCompiler.Value.Convert

/-!
# Message hashes

The element of a message is recognised at run time by a 32-bit hash. The hash of a number is the
bits of its single precision value. The hash of a text mixes its characters four at a time and cuts
the products to 32 bits; `bang` has a hash of its own.
-/

namespace PatchCompiler.Hash

def multiplier : Nat := 0x5bd1e995

def low (n : Nat) : Nat :=
  n &&& 0xffffffff

def word (a b c d : UInt8) : Nat :=
  a.toNat + 256 * (b.toNat + 256 * (c.toNat + 256 * d.toNat))

def scramble (k : Nat) : Nat :=
  let k := low (k * multiplier)
  low ((k ^^^ (k >>> 24)) * multiplier)

def mix (h k : Nat) : Nat :=
  low (h * multiplier) ^^^ scramble k

def finish (h : Nat) : Nat :=
  let h := low ((h ^^^ (h >>> 13)) * multiplier)
  h ^^^ (h >>> 15)

/-- Mixes in up to three characters that are left after the groups of four. -/
def mixRest (h : Nat) : List Nat → Nat
  | [] => h
  | [a] => low ((h ^^^ a) * multiplier)
  | [a, b] => low ((h ^^^ low (b <<< 8) ^^^ a) * multiplier)
  | a :: b :: c :: _ => low ((h ^^^ low (c <<< 16) ^^^ low (b <<< 8) ^^^ a) * multiplier)

/-- Mixes in the groups of four characters, then the rest. A group must be four bytes of UTF-8. -/
def mixAll (h : Nat) : List Char → Except Fault Nat
  | a :: b :: c :: d :: rest =>
    match [a, b, c, d].flatMap String.utf8EncodeChar with
    | [w, x, y, z] => mixAll (mix h (word w x y z)) rest
    | _ => .error .badEncoding
  | rest => .ok (mixRest h (rest.map Char.toNat))

def ofText (s : String) : Except Fault Nat :=
  if s = "bang" then .ok 0xffffffff
  else finish <$> mixAll s.length s.toList

def ofValue : Value → Except Fault Nat
  | .text s => ofText s
  | .real x => .ok x.singleBits
  | .int n => do pure (← (Value.int n).toDouble).singleBits
  | .bool b => do pure (← (Value.bool b).toDouble).singleBits
  | _ => .error
      (.failed "Message element hashes can only be computed for float and string types.")

def literal (hash : Nat) : String :=
  "0x" ++ Text.hexadecimal hash

end PatchCompiler.Hash
