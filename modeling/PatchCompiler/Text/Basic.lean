/-!
# Texts as lists of characters

Blanks, words, lines and separators. The functions on `List Char` are the ones that rules of the
patch format are stated with; the functions on `String` wrap them.
-/

namespace PatchCompiler.Text

def inRanges (ranges : List (Nat × Nat)) (code : Nat) : Bool :=
  ranges.any fun range => range.1 ≤ code && code ≤ range.2

/-- Whether a set has a code point. The set is given by the lengths of runs of code points: those that
are not in it and those that are take turns. -/
def inRuns : List Nat → Nat → Bool
  | others :: members :: rest, code =>
    others ≤ code && (code < others + members || inRuns rest (code - others - members))
  | _, _ => false

/-- Blanks separate words: the controls and spaces of every script. -/
def isBlank (c : Char) : Bool :=
  inRanges [(9, 13), (28, 32), (0x85, 0x85), (0xa0, 0xa0), (0x1680, 0x1680), (0x2000, 0x200a),
    (0x2028, 0x2029), (0x202f, 0x202f), (0x205f, 0x205f), (0x3000, 0x3000)] c.toNat

def stripLeft (cs : List Char) : List Char :=
  cs.dropWhile isBlank

def stripRight (cs : List Char) : List Char :=
  (cs.reverse.dropWhile isBlank).reverse

def strip (cs : List Char) : List Char :=
  stripRight (stripLeft cs)

/-- The words of a text after the word `current`, whose characters are in reverse. -/
def wordsAfter (current : List Char) : List Char → List (List Char)
  | [] => if current.isEmpty then [] else [current.reverse]
  | c :: cs =>
    if isBlank c then
      if current.isEmpty then wordsAfter [] cs else current.reverse :: wordsAfter [] cs
    else wordsAfter (c :: current) cs

def words (cs : List Char) : List (List Char) :=
  wordsAfter [] cs

/-- Splits at each occurrence of `separator`, from the left. `skip` characters of the occurrence
just found are still to be dropped; `current` is the part read so far, in reverse. -/
def splitAfter (separator : List Char) : Nat → List Char → List Char → List (List Char)
  | _, current, [] => [current.reverse]
  | skip + 1, current, _ :: cs => splitAfter separator skip current cs
  | 0, current, c :: cs =>
    if separator.isPrefixOf (c :: cs) then
      current.reverse :: splitAfter separator (separator.length - 1) [] cs
    else splitAfter separator 0 (c :: current) cs

/-- The parts of a text between the occurrences of a non-empty separator. -/
def splitOn (separator cs : List Char) : List (List Char) :=
  splitAfter separator 0 [] cs

def joinWith (separator : List Char) (parts : List (List Char)) : List Char :=
  separator.intercalate parts

/-- Every occurrence of `old`, from the left, becomes `new`. -/
def replaceAll (old new cs : List Char) : List Char :=
  joinWith new (splitOn old cs)

def hasPart (part : List Char) : List Char → Bool
  | [] => part.isEmpty
  | c :: cs => part.isPrefixOf (c :: cs) || hasPart part cs

def normalNewlines : List Char → List Char
  | '\r' :: '\n' :: cs => '\n' :: normalNewlines cs
  | '\r' :: cs => '\n' :: normalNewlines cs
  | c :: cs => c :: normalNewlines cs
  | [] => []

/-- The lines of a text, each with its line feed; `current` is the line read so far, in reverse. -/
def linesAfter (current : List Char) : List Char → List (List Char)
  | [] => if current.isEmpty then [] else [current.reverse]
  | '\n' :: cs => ('\n' :: current).reverse :: linesAfter [] cs
  | c :: cs => linesAfter (c :: current) cs

def lines (cs : List Char) : List (List Char) :=
  linesAfter [] (normalNewlines cs)

def stripText (s : String) : String :=
  String.ofList (strip s.toList)

def wordTexts (s : String) : List String :=
  (words s.toList).map String.ofList

def replaceText (old new s : String) : String :=
  String.ofList (replaceAll old.toList new.toList s.toList)

def splitText (separator s : String) : List String :=
  (splitOn separator.toList s.toList).map String.ofList

def hasText (part s : String) : Bool :=
  hasPart part.toList s.toList

def startsWith (start s : String) : Bool :=
  start.toList.isPrefixOf s.toList

def endsWith (ending s : String) : Bool :=
  ending.toList.isSuffixOf s.toList

def join (separator : String) (parts : List String) : String :=
  separator.intercalate parts

def padRight (width : Nat) (s : String) : String :=
  s ++ String.ofList (List.replicate (width - s.length) ' ')

def padLeft (width : Nat) (s : String) : String :=
  String.ofList (List.replicate (width - s.length) ' ') ++ s

def hexadecimal (n : Nat) : String :=
  String.ofList ((Nat.toDigits 16 n).map Char.toUpper)

end PatchCompiler.Text
