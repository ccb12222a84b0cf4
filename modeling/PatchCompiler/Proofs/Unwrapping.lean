import PatchCompiler.Patch.Record

/-!
# Records that are wrapped

A record may be written over several lines, and its last line is marked by a semicolon. However the
lines are ended, reading puts a blank in the place of every line end inside a record, and drops what
follows the last mark.
-/

namespace PatchCompiler

open List

inductive LineEnd where
  | feed
  | returnFeed

def LineEnd.text : LineEnd → List Char
  | .feed => ['\n']
  | .returnFeed => ['\r', '\n']

structure Line where
  text : List Char
  ending : LineEnd
  nonempty : text ≠ []
  single : '\r' ∉ text ∧ '\n' ∉ text

def Line.marked (line : Line) : Line where
  text := line.text ++ [';']
  ending := line.ending
  nonempty := by simp
  single := by simpa using line.single

/-- A line that is not marked, also not by what it says itself. -/
structure OpenLine extends Line where
  unmarked : [';'] <:+ text → ['\\', ';'] <:+ text

/-- A record in lines. What its last line says does not escape the mark. -/
structure Wrapped where
  before : List OpenLine
  last : Line
  unescaped : ¬ ['\\'] <:+ last.text

def Wrapped.record (wrapped : Wrapped) : List Char :=
  Text.joinWith [' '] (wrapped.before.map (·.text) ++ [wrapped.last.text])

def Wrapped.lines (wrapped : Wrapped) : List Line :=
  wrapped.before.map OpenLine.toLine ++ [wrapped.last.marked]

def fileText (closed : Bool) : List Line → List Char
  | [] => []
  | line :: rest =>
    if rest.isEmpty && !closed then line.text
    else line.text ++ (line.ending.text ++ fileText closed rest)

namespace Text

variable {cs current rest : List Char}

theorem normalNewlines_append (none : '\r' ∉ cs) :
    normalNewlines (cs ++ rest) = cs ++ normalNewlines rest := by
  induction cs with
  | nil => rfl
  | cons c cs ih =>
    simp only [mem_cons, not_or] at none
    have other : c ≠ '\r' := fun eq => none.1 eq.symm
    simp [normalNewlines, other, ih none.2]

theorem linesAfter_append (none : '\n' ∉ cs) :
    linesAfter current (cs ++ rest) = linesAfter (cs.reverse ++ current) rest := by
  induction cs generalizing current with
  | nil => rfl
  | cons c cs ih =>
    simp only [mem_cons, not_or] at none
    have other : c ≠ '\n' := fun eq => none.1 eq.symm
    simp [linesAfter, ih none.2]

theorem lines_cons (line : Line) :
    lines (line.text ++ (line.ending.text ++ rest)) = (line.text ++ ['\n']) :: lines rest := by
  have normal : normalNewlines (line.ending.text ++ rest) = '\n' :: normalNewlines rest := by
    cases line.ending <;> simp [LineEnd.text, normalNewlines]
  simp [lines, normalNewlines_append line.single.1, linesAfter_append line.single.2, normal,
    linesAfter]

theorem lines_single (line : Line) : lines line.text = [line.text] := by
  have normal := @normalNewlines_append line.text [] line.single.1
  have run := @linesAfter_append line.text [] [] line.single.2
  simp only [append_nil, normalNewlines] at normal run
  simp [lines, normal, run, linesAfter, line.nonempty]

end Text

namespace Record

theorem trimEnd_text (line : Line) : trimEnd ['\r', '\n'] line.text = line.text := by
  have kept : ∀ c ∈ line.text.reverse, ¬ ['\r', '\n'].contains c := by
    intro c mem
    have here := mem_reverse.mp mem
    have single := line.single
    grind
  cases back : line.text.reverse with
  | nil => simp [trimEnd, reverse_eq_nil_iff.mp back]
  | cons c rest =>
    rw [trimEnd, back, dropWhile_cons_of_neg (kept c (by simp [back])), ← back,
      reverse_reverse]

theorem trimEnd_feed (line : Line) : trimEnd ['\r', '\n'] (line.text ++ ['\n']) = line.text := by
  simpa [trimEnd] using trimEnd_text line

theorem ofLinesAfter_fileText (closed : Bool) (lines : List Line) (pending : List Char) :
    ofLinesAfter pending (Text.lines (fileText closed lines)) =
      ofLinesAfter pending (lines.map Line.text) := by
  induction lines generalizing pending with
  | nil => rfl
  | cons line rest ih =>
    rw [fileText]
    split
    next ends =>
      simp only [Bool.and_eq_true, List.isEmpty_iff] at ends
      simp [Text.lines_single, ends.1]
    next => simp [Text.lines_cons, ofLinesAfter, trimEnd_feed, trimEnd_text, ih]

theorem endsRecord_open (line : OpenLine) : endsRecord line.text = false := by
  have unmarked := line.unmarked
  simp only [← isSuffixOf_iff_suffix] at unmarked
  simp only [endsRecord, Bool.and_eq_false_iff, Bool.not_eq_false']
  grind

theorem ofLinesAfter_open (lines : List OpenLine) (pending : List Char)
    (rest : List (List Char)) : ofLinesAfter pending (lines.map (·.text) ++ rest) =
      ofLinesAfter ((lines.map (·.text)).foldl addLine pending) rest := by
  induction lines generalizing pending with
  | nil => rfl
  | cons line lines ih => simp [ofLinesAfter, trimEnd_text, endsRecord_open, ih]

theorem addLine_foldl (lines : List (List Char)) {pending last : List Char}
    (nonempty : pending ≠ []) : addLine (lines.foldl addLine pending) last =
      Text.joinWith [' '] (pending :: lines ++ [last]) := by
  induction lines generalizing pending with
  | nil => simp [addLine, nonempty, Text.joinWith, intercalate]
  | cons line lines ih =>
    have step : addLine pending line = pending ++ ' ' :: line := by simp [addLine, nonempty]
    rw [foldl_cons, step, ih (by simp)]
    cases lines <;> simp [Text.joinWith, intercalate]

end Record

namespace Wrapped

open Record

theorem addLine_before (wrapped : Wrapped) :
    addLine ((wrapped.before.map (·.text)).foldl addLine []) wrapped.last.text =
      wrapped.record := by
  rw [record]
  cases wrapped.before with
  | nil => simp [addLine, Text.joinWith, intercalate]
  | cons line lines =>
    have first : addLine [] line.text = line.text := by simp [addLine]
    rw [map_cons, foldl_cons, first, addLine_foldl _ line.nonempty]

theorem endsRecord_marked (wrapped : Wrapped) : endsRecord wrapped.last.marked.text = true := by
  have unescaped := wrapped.unescaped
  rw [← isSuffixOf_iff_suffix, Bool.not_eq_true] at unescaped
  simpa [endsRecord, Line.marked, isSuffixOf] using unescaped

theorem ofLinesAfter_lines (wrapped : Wrapped) (rest : List (List Char)) :
    ofLinesAfter [] (wrapped.lines.map Line.text ++ rest) =
      wrapped.record :: ofLinesAfter [] rest := by
  have step := ofLinesAfter_open wrapped.before [] (wrapped.last.marked.text :: rest)
  have dropped : wrapped.last.marked.text.dropLast = wrapped.last.text := by simp [Line.marked]
  simp [lines, Function.comp_def, step, ofLinesAfter, trimEnd_text, endsRecord_marked, dropped,
    addLine_before]

/-- Every record is read as it is meant, and lines of one that is not complete are dropped. -/
theorem ofLines_fileText (records : List Wrapped) (rest : List OpenLine) (closed : Bool) :
    Record.ofLines (Text.lines (fileText closed
      (records.flatMap lines ++ rest.map OpenLine.toLine))) = records.map record := by
  rw [ofLines, ofLinesAfter_fileText]
  induction records with
  | nil => simpa [Function.comp_def, ofLinesAfter] using ofLinesAfter_open rest [] []
  | cons wrapped records ih =>
    rw [flatMap_cons, append_assoc, map_append, ofLinesAfter_lines, ih, map_cons]

/-- A record whose first line ends in a mark that is escaped. -/
def message : Wrapped where
  before := [⟨⟨"#X msg 0 0 a\\;".toList, .returnFeed, by decide, by decide⟩, fun _ => by decide⟩]
  last := ⟨['b'], .feed, by decide, by decide⟩
  unescaped := by decide

example : fileText true message.lines = "#X msg 0 0 a\\;\r\nb;\n".toList ∧
    message.record = "#X msg 0 0 a\\; b".toList ∧
    Record.ofLines (Text.lines (fileText true message.lines)) = [message.record] := by
  decide

end Wrapped

end PatchCompiler
