import PatchCompiler.Text.Cased

/-!
# Letter case

Capital, small and title forms of letters of every script. A form may have several characters, and
the small sigma has a form of its own at the end of a word.
-/

namespace PatchCompiler.Text

/-- The letters `first`, `first + stride`, …, `last` go to their code point plus `shift`. -/
structure CaseRange where
  first : Nat
  last : Nat
  stride : Nat
  shift : Int

def CaseRange.map? (range : CaseRange) (code : Nat) : Option Nat :=
  if range.first ≤ code ∧ code ≤ range.last ∧ (code - range.first) % range.stride = 0 then
    some ((code : Int) + range.shift).toNat
  else none

/-- Takes the letters that a range gives back to their own. -/
def CaseRange.inverse (range : CaseRange) : CaseRange :=
  ⟨(range.first + range.shift).toNat, (range.last + range.shift).toNat, range.stride, -range.shift⟩

/-- Ranges of letters, each given by four numbers: how far it starts behind the last letter of the
one before, how many strides it has, its stride and its shift. -/
def caseRanges (last : Nat) : List Int → List CaseRange
  | gap :: strides :: stride :: shift :: rest =>
    let first := last + gap.toNat
    let final := first + strides.toNat * stride.toNat
    ⟨first, final, stride.toNat, shift⟩ :: caseRanges final rest
  | _ => []

/-- Letters outside ASCII with a capital form of one character. -/
def capitalRanges : List CaseRange := caseRanges 0
  [181,0,1,743,43,22,1,-32,2,6,1,-32,1,0,1,121,2,23,2,-1,2,0,1,-232,2,2,2,-1,3,7,2,-1,3,22,2,-1,3,2,
  2,-1,1,0,1,-300,1,0,1,195,3,1,2,-1,3,0,1,-1,4,0,1,-1,6,0,1,-1,3,0,1,97,4,0,1,-1,1,0,1,163,4,0,1,
  130,3,2,2,-1,3,0,1,-1,5,0,1,-1,3,0,1,-1,4,1,2,-1,3,0,1,-1,4,0,1,-1,2,0,1,56,6,0,1,-1,1,0,1,-2,2,0,
  1,-1,1,0,1,-2,2,0,1,-1,1,0,1,-2,2,7,2,-1,1,0,1,-79,2,8,2,-1,3,0,1,-1,1,0,1,-2,2,0,1,-1,4,19,2,-1,
  4,8,2,-1,9,0,1,-1,3,1,1,10815,2,0,1,-1,5,4,2,-1,1,0,1,10783,1,0,1,10780,1,0,1,10782,1,0,1,-210,1,
  0,1,-206,2,1,1,-205,2,0,1,-202,2,0,1,-203,1,0,1,42319,4,0,1,-205,1,0,1,42315,2,0,1,-207,2,0,1,
  42280,1,0,1,42308,2,0,1,-209,1,0,1,-211,1,0,1,42308,1,0,1,10743,1,0,1,42305,3,0,1,-211,2,0,1,
  10749,1,0,1,-213,3,0,1,-214,8,0,1,10727,3,0,1,-218,2,0,1,42307,1,0,1,-218,4,0,1,42282,1,0,1,-218,
  1,0,1,-69,1,1,1,-217,1,0,1,-71,6,0,1,-219,11,0,1,42261,1,0,1,42258,167,0,1,84,44,1,2,-1,4,0,1,-1,
  4,2,1,130,47,0,1,-38,1,2,1,-37,2,16,1,-32,1,0,1,-31,1,8,1,-32,1,0,1,-64,1,1,1,-63,2,0,1,-62,1,0,1,
  -57,4,0,1,-47,1,0,1,-54,1,0,1,-8,2,11,2,-1,1,0,1,-86,1,0,1,-80,1,0,1,7,1,0,1,-116,2,0,1,-96,3,0,1,
  -1,3,0,1,-1,53,31,1,-32,1,15,1,-80,2,16,2,-1,10,26,2,-1,3,6,2,-1,1,0,1,-15,2,47,2,-1,50,37,1,-48,
  2890,42,1,3008,3,2,1,3008,761,5,1,-8,2179,0,1,-6254,1,0,1,-6253,1,0,1,-6244,1,1,1,-6242,1,0,1,
  -6243,1,0,1,-6236,1,0,1,-6181,1,0,1,35266,241,0,1,35332,4,0,1,3814,17,0,1,35384,115,74,2,-1,6,0,1,
  -59,6,47,2,-1,1,7,1,8,9,5,1,8,11,7,1,8,9,7,1,8,9,5,1,8,12,3,2,8,9,7,1,8,9,1,1,74,1,3,1,86,1,1,1,
  100,1,1,1,128,1,1,1,112,1,1,1,126,51,1,1,8,13,0,1,-7205,18,1,1,8,15,1,1,8,4,0,1,7,361,0,1,-28,34,
  15,1,-16,5,0,1,-1,844,25,1,-26,1863,47,1,-48,2,0,1,-1,4,0,1,-10795,1,0,1,-10792,2,2,2,-1,7,0,1,-1,
  3,0,1,-1,11,49,2,-1,9,1,2,-1,5,0,1,-1,13,37,1,-7264,2,0,1,-7264,6,0,1,-7264,30996,22,2,-1,20,13,2,
  -1,136,6,2,-1,4,30,2,-1,11,1,2,-1,3,4,2,-1,5,0,1,-1,5,1,2,-1,1,0,1,48,3,9,2,-1,12,7,2,-1,5,1,2,-1,
  7,0,1,-1,6,1,2,-1,29,0,1,-1,861,0,1,-928,29,79,1,-38864,21378,25,1,-32,1230,39,1,-40,137,35,1,-40,
  156,10,1,-39,2,14,1,-39,2,6,1,-39,2,1,1,-39,1796,50,1,-64,3022,31,1,-32,21889,31,1,-32,31395,33,1,
  -34]

/-- Letters with an iota below, whose capital form has it behind. -/
def iotaCapitals : List (Char × String) :=
  [(0x1f80, 0x1f08), (0x1f90, 0x1f28), (0x1fa0, 0x1f68)].flatMap fun (letter, form) =>
    (List.range 16).map fun i =>
      (Char.ofNat (letter + i), String.ofList [Char.ofNat (form + i % 8), 'Ι'])

def longCapitals : List (Char × String) := iotaCapitals ++
  [('ß', "SS"), ('ŉ', "ʼN"), ('ǰ', "J̌"), ('ΐ', "Ϊ́"), ('ΰ', "Ϋ́"), ('և', "ԵՒ"), ('ẖ', "H̱"),
  ('ẗ', "T̈"), ('ẘ', "W̊"), ('ẙ', "Y̊"), ('ẚ', "Aʾ"), ('ὐ', "Υ̓"), ('ὒ', "Υ̓̀"), ('ὔ', "Υ̓́"),
  ('ὖ', "Υ̓͂"), ('ᾲ', "ᾺΙ"), ('ᾳ', "ΑΙ"), ('ᾴ', "ΆΙ"), ('ᾶ', "Α͂"), ('ᾷ', "Α͂Ι"), ('ᾼ', "ΑΙ"),
  ('ῂ', "ῊΙ"), ('ῃ', "ΗΙ"), ('ῄ', "ΉΙ"), ('ῆ', "Η͂"), ('ῇ', "Η͂Ι"), ('ῌ', "ΗΙ"), ('ῒ', "Ϊ̀"),
  ('ΐ', "Ϊ́"), ('ῖ', "Ι͂"), ('ῗ', "Ϊ͂"), ('ῢ', "Ϋ̀"), ('ΰ', "Ϋ́"), ('ῤ', "Ρ̓"), ('ῦ', "Υ͂"),
  ('ῧ', "Ϋ͂"), ('ῲ', "ῺΙ"), ('ῳ', "ΩΙ"), ('ῴ', "ΏΙ"), ('ῶ', "Ω͂"), ('ῷ', "Ω͂Ι"), ('ῼ', "ΩΙ"),
  ('ﬀ', "FF"), ('ﬁ', "FI"), ('ﬂ', "FL"), ('ﬃ', "FFI"), ('ﬄ', "FFL"), ('ﬅ', "ST"), ('ﬆ', "ST"),
  ('ﬓ', "ՄՆ"), ('ﬔ', "ՄԵ"), ('ﬕ', "ՄԻ"), ('ﬖ', "ՎՆ"), ('ﬗ', "ՄԽ")]

/-- Letters outside ASCII with a small form of one character: first those whose small form has
another capital form or none of one character. -/
def smallRanges : List CaseRange := caseRanges 0
  [452,0,1,2,1,0,1,1,2,0,1,2,1,0,1,1,2,0,1,2,1,0,1,1,38,0,1,2,1,0,1,1,423,0,1,32,3,0,1,32,7,0,1,32,
  81,0,1,-60,6826,0,1,-7615,234,7,1,-8,9,7,1,-8,9,7,1,-8,13,0,1,-9,16,0,1,-9,48,0,1,-9,298,0,1,
  -7517,4,0,1,-8383,1,0,1,-8262,34079,0,1,1] ++ capitalRanges.map CaseRange.inverse

def longSmalls : List (Char × String) :=
  [('İ', "i̇")]

/-- The form of a letter, which has one character or several. -/
def convertCase (ranges : List CaseRange) (long : List (Char × String)) (c : Char) :
    Option (List Char) :=
  match ranges.findSome? (·.map? c.toNat) with
  | some code => some [Char.ofNat code]
  | none => (long.lookup c).map String.toList

def capital (c : Char) : List Char :=
  if c.toNat < 128 then [c.toUpper] else (convertCase capitalRanges longCapitals c).getD [c]

def small (c : Char) : List Char :=
  if c.toNat < 128 then [c.toLower] else (convertCase smallRanges longSmalls c).getD [c]

def upper (s : String) : String :=
  String.ofList (s.toList.flatMap capital)

/-- The small form of a letter between two texts. The text before it is in reverse. -/
def smallBetween (before : List Char) (c : Char) (after : List Char) : List Char :=
  if c = 'Σ' then [if endsWord before after then 'ς' else 'σ'] else small c

/-- The small forms of the letters that stand after a text, which is in reverse. -/
def smallAfter (before : List Char) : List Char → List Char
  | [] => []
  | c :: after => smallBetween before c after ++ smallAfter (c :: before) after

def lower (s : String) : String :=
  String.ofList (smallAfter [] s.toList)

/-- Letters whose title form is one character other than the capital one. -/
def titleRanges : List CaseRange := caseRanges 0
  [452,0,1,1,1,0,1,0,1,0,1,-1,1,0,1,1,1,0,1,0,1,0,1,-1,1,0,1,1,1,0,1,0,1,0,1,-1,37,0,1,1,1,0,1,0,1,
  0,1,-1,3805,42,1,0,3,2,1,0,3713,7,1,8,1,7,1,0,1,7,1,8,1,7,1,0,1,7,1,8,1,7,1,0,4,0,1,9,9,0,1,0,7,0,
  1,9,9,0,1,0,39,0,1,9,9,0,1,0]

/-- Letters whose title form has several characters other than the capital ones. -/
def longTitles : List (Char × String) :=
  [('ß', "Ss"), ('և', "Եւ"), ('ᾲ', "Ὰͅ"), ('ᾴ', "Άͅ"), ('ᾷ', "ᾼ͂"), ('ῂ', "Ὴͅ"), ('ῄ', "Ήͅ"),
  ('ῇ', "ῌ͂"), ('ῲ', "Ὼͅ"), ('ῴ', "Ώͅ"), ('ῷ', "ῼ͂"), ('ﬀ', "Ff"), ('ﬁ', "Fi"), ('ﬂ', "Fl"),
  ('ﬃ', "Ffi"), ('ﬄ', "Ffl"), ('ﬅ', "St"), ('ﬆ', "St"), ('ﬓ', "Մն"), ('ﬔ', "Մե"), ('ﬕ', "Մի"),
  ('ﬖ', "Վն"), ('ﬗ', "Մխ")]

def title (c : Char) : List Char :=
  (convertCase titleRanges longTitles c).getD (capital c)

/-- The first character of the text in its title form and the others small. -/
def capitalized (s : String) : String :=
  match s.toList with
  | [] => ""
  | c :: rest => String.ofList (title c ++ smallAfter [c] rest)

end PatchCompiler.Text
