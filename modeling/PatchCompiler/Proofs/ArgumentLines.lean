import Mathlib.Data.List.Nodup
import PatchCompiler.Patch.Record

/-!
# Canvases and the arguments they declare

The lines that declare arguments are collected before the canvases of a file are read. Such a line is
noted at the canvas that was opened last. When a canvas has been closed it is noted at the canvas
whose number is the depth, and that is the one around it only if all canvases that were opened
before that one are around it as well.
-/

namespace PatchCompiler

open List

namespace Outline

def opens (text : List Char) : Bool :=
  "#N canvas".toList.isPrefixOf text

def closes (text : List Char) : Bool :=
  "#X restore".toList.isPrefixOf text

def declares (text : List Char) : Bool :=
  Text.hasPart "@hv_arg".toList text

def bare (text : List Char) : List Char :=
  Record.trimEnd [';', '\r', '\n'] text

end Outline

/-- What is in a canvas: lines, and canvases between the lines that open and close them. The line
that opens a canvas is given without the mark at its end. -/
inductive Outline where
  | nil
  | line (text : { text // ¬ Outline.opens text ∧ ¬ Outline.closes text }) (rest : Outline)
  | canvas (key : { key // Outline.opens key ∧ Outline.bare key = key }) (inner : Outline)
      (closing : { text // Outline.closes text ∧ ¬ Outline.declares text }) (rest : Outline)

/-- A canvas of a file, with the number of canvases opened before it and of those around it. -/
structure Folio where
  number : Nat
  depth : Nat
  key : { key // Outline.opens key ∧ Outline.bare key = key }
  content : Outline

namespace Outline

def opening (key : List Char) : List Char :=
  key ++ [';', '\n']

def lines : Outline → List (List Char)
  | nil => []
  | line text rest => text.1 :: rest.lines
  | canvas key inner closing rest => opening key.1 :: (inner.lines ++ closing.1 :: rest.lines)

def own : Outline → List (List Char)
  | nil => []
  | line text rest => if declares text.1 then bare text.1 :: rest.own else rest.own
  | canvas _ _ _ rest => rest.own

/-- An argument is declared in the canvas after one of the canvases in it. -/
def isLate : Outline → Bool
  | nil => false
  | line _ rest => rest.isLate
  | canvas _ _ _ rest => !rest.own.isEmpty

/-- The canvases in a canvas of some depth, when `next` canvases have been opened. -/
def folios (depth next : Nat) : Outline → List Folio
  | nil => []
  | line _ rest => rest.folios depth next
  | canvas key inner _ rest =>
    let inside := inner.folios (depth + 1) (next + 1)
    ⟨next, depth + 1, key, inner⟩ :: inside ++ rest.folios depth (next + 1 + inside.length)

theorem own_ne_nil {outline : Outline} (late : outline.isLate) : outline.own ≠ [] := by
  induction outline with
  | nil => cases late
  | line text rest ih =>
    rw [own]
    split
    · simp
    · exact ih late
  | canvas key inner closing rest => simpa [isLate, own] using late

end Outline

namespace Folio

def all (root : Folio) : List Folio :=
  { root with number := 0, depth := 0 } :: root.content.folios 0 1

def file (root : Folio) : List (List Char) :=
  Outline.opening root.key.1 :: root.content.lines

def entry (folio : Folio) : List Char × List (List Char) :=
  (folio.key.1, folio.content.own)

/-- Every canvas finds the arguments that are declared in it, in their order. -/
def Found (root : Folio) : Prop :=
  ∃ declared, DeclarationLines.ofLines root.file = .ok declared ∧
    ∀ folio ∈ root.all, declared.lookup folio.key.1 = some folio.content.own

/-- Arguments are declared after a canvas only if all canvases opened before are around. -/
def Straight (folio : Folio) : Prop :=
  folio.content.isLate → folio.depth = folio.number

instance (folio : Folio) : Decidable folio.Straight :=
  inferInstanceAs (Decidable (_ → _))

end Folio

namespace DeclarationLines

variable {all more : DeclarationLines} {place : Nat} {key : List Char}

def notedAll (all : DeclarationLines) (place : Nat) (texts : List (List Char)) : DeclarationLines :=
  all.modify place fun entry => (entry.1, entry.2 ++ texts)

theorem notedAll_nil : all.notedAll place [] = all := by
  simp only [notedAll, append_nil]
  exact modify_id ..

theorem notedAll_noted {text : List Char} {texts : List (List Char)} :
    (all.noted place text).notedAll place texts = all.notedAll place (text :: texts) := by
  simp [noted, notedAll, modify_modify_eq, Function.comp_def]

theorem notedAll_append (lt : place < all.length) (texts : List (List Char)) :
    (all ++ more).notedAll place texts = all.notedAll place texts ++ more := by
  apply ext_getElem?
  intro i
  simp only [notedAll, getElem?_modify, getElem?_append, length_modify]
  grind

theorem notedAll_last (texts : List (List Char)) :
    (all ++ [(key, [])]).notedAll all.length texts = all ++ [(key, texts)] := by
  apply ext_getElem?
  intro i
  simp only [notedAll, getElem?_modify, getElem?_append]
  grind

theorem keys_noted (text : List Char) : (all.noted place text).map (·.1) = all.map (·.1) := by
  apply ext_getElem?
  intro i
  simp only [noted, getElem?_map, getElem?_modify]
  cases all[i]? <;> grind

theorem opened_of_new (new : key ∉ all.map (·.1)) :
    all.opened key = (all ++ [(key, [])], all.length) := by
  have none : all.findIdx? (fun entry => entry.1 == key) = none := by
    simp only [findIdx?_eq_none_iff, beq_eq_false_iff_ne]
    exact fun entry mem eq => new (mem_map.mpr ⟨entry, mem, eq⟩)
  simp [opened, none]

section Lines

open Outline

variable {current : Option Nat} {depth : Int} {text : List Char} {rest : List (List Char)}

theorem readOn_opening (opens : opens key ∧ bare key = key) (new : key ∉ all.map (·.1)) :
    readOn all current depth (opening key :: rest) =
      readOn (all ++ [(key, [])]) (some all.length) (depth + 1) rest := by
  have start : "#N canvas".toList.isPrefixOf (opening key) := by
    have given := opens.1
    rw [Outline.opens, isPrefixOf_iff_prefix] at given
    exact isPrefixOf_iff_prefix.mpr (given.trans (prefix_append ..))
  have trimmed : Record.trimEnd [';', '\r', '\n'] (opening key) = key := by
    simpa [opening, bare, Record.trimEnd] using opens.2
  simp only [readOn, start, trimmed, opened_of_new new, if_true]

theorem readOn_argument (opens : ¬ opens text) (declares : declares text) :
    readOn all (some place) depth (text :: rest) =
      readOn (all.noted place (bare text)) (some place) depth rest := by
  rw [Outline.opens] at opens
  rw [Outline.declares] at declares
  simp only [readOn, opens, declares, Bool.false_eq_true, if_true, if_false, bare]

theorem readOn_other (ordinary : ¬ opens text ∧ ¬ closes text) (declares : ¬ declares text) :
    readOn all current depth (text :: rest) = readOn all current depth rest := by
  rw [opens, closes] at ordinary
  rw [Outline.declares] at declares
  simp only [readOn, ordinary, declares, Bool.false_eq_true, if_false]

theorem readOn_closing (closing : closes text ∧ ¬ declares text) (within : place < all.length) :
    readOn all current (place + 1) (text :: rest) = readOn all (some place) place rest := by
  rw [closes, declares] at closing
  have opens : ¬ "#N canvas".toList.isPrefixOf text := by
    obtain ⟨more, rfl⟩ := isPrefixOf_iff_prefix.mp closing.1
    simp
  simp only [readOn, opens, closing, Bool.false_eq_true, if_true, if_false, Int.add_sub_cancel,
    place?_ofNat within]

end Lines

/-- The arguments of a canvas and of the canvases in it are noted where they belong. -/
theorem readOn_lines {outline : Outline} {number depth current : Nat}
    (keys : (all.map (·.1) ++ (outline.folios depth all.length).map (·.key.1)).Nodup)
    (lt : number < all.length) (within : depth < all.length)
    (here : outline.own ≠ [] → current = number) (late : outline.isLate → depth = number)
    (straight : ∀ folio ∈ outline.folios depth all.length, folio.Straight)
    (rest : List (List Char)) :
    ∃ last : Nat, readOn all (some current) depth (outline.lines ++ rest) =
      readOn (all.notedAll number outline.own ++ (outline.folios depth all.length).map Folio.entry)
        (some last) depth rest := by
  induction outline generalizing all number depth current rest with
  | nil => exact ⟨current, by simp [Outline.lines, Outline.own, Outline.folios, notedAll_nil]⟩
  | line text more ih =>
    rw [Outline.lines, cons_append]
    by_cases declares : Outline.declares text.1
    · obtain rfl : current = number := here (by simp [Outline.own, declares])
      have length : (all.noted current (Outline.bare text.1)).length = all.length :=
        length_modify ..
      rw [readOn_argument text.2.1 declares]
      rw [← length] at keys lt within straight
      rw [← keys_noted (Outline.bare text.1)] at keys
      obtain ⟨last, run⟩ := ih keys lt within (fun _ => rfl) late straight rest
      rw [notedAll_noted, length] at run
      exact ⟨last, by simpa [Outline.own, Outline.folios, declares] using run⟩
    · rw [readOn_other text.2 declares]
      rw [Outline.own, if_neg declares] at here ⊢
      exact ih keys lt within here late straight rest
  | canvas key inner closing more innerIH moreIH =>
    obtain ⟨straightInner, straight⟩ := forall_mem_cons.mp straight
    have length : (all ++ [(key.1, ([] : List (List Char)))]).length = all.length + 1 := by simp
    have new : key.1 ∉ all.map (·.1) := by
      rw [Outline.folios] at keys
      exact fun mem => disjoint_of_nodup_append keys mem (by simp)
    obtain ⟨last, run⟩ := @innerIH (all ++ [(key.1, [])]) all.length (depth + 1) all.length (by
        rw [length]
        refine keys.sublist ?_
        simp [Outline.folios]) (by omega) (by omega) (fun _ => rfl) straightInner (by
        rw [length]
        exact fun folio mem => straight folio (mem_append_left _ mem))
      (closing.1 :: (more.lines ++ rest))
    rw [length, notedAll_last, show ((depth + 1 : Nat) : Int) = depth + 1 from rfl] at run
    generalize insideEq : inner.folios (depth + 1) (all.length + 1) = inside at *
    have total : (all ++ [(key.1, inner.own)] ++ inside.map Folio.entry).length =
        all.length + 1 + inside.length := by simp; omega
    -- the canvas that is closed belongs to the canvas whose number is the depth
    obtain ⟨final, after⟩ := @moreIH (all ++ [(key.1, inner.own)] ++ inside.map Folio.entry) number
      depth depth (by
        rw [total]
        simpa [Outline.folios, insideEq, Folio.entry, Function.comp_def] using keys) (by omega)
      (by omega) (fun some => late (by simpa [Outline.isLate] using some))
      (fun mixed => late (by simpa [Outline.isLate] using Outline.own_ne_nil mixed)) (by
        rw [total]
        exact fun folio mem => straight folio (mem_append_right _ mem)) rest
    refine ⟨final, ?_⟩
    rw [Outline.lines, cons_append, append_assoc, cons_append,
      readOn_opening key.2 new, run, readOn_closing closing.2 (by omega), after, total,
      append_assoc, notedAll_append lt]
    simp [Outline.own, Outline.folios, insideEq, Folio.entry]

theorem lookup_map_entry {folios : List Folio} (keys : (folios.map (·.key.1)).Nodup)
    {folio : Folio} (mem : folio ∈ folios) :
    (folios.map Folio.entry).lookup folio.key.1 = some folio.content.own := by
  induction folios with
  | nil => cases mem
  | cons other folios ih =>
    obtain ⟨new, keys⟩ := nodup_cons.mp keys
    rcases mem_cons.mp mem with rfl | mem
    · simp [Folio.entry]
    · have ne : (folio.key.1 == other.key.1) = false :=
        beq_eq_false_iff_ne.mpr fun eq => new (mem_map.mpr ⟨folio, mem, eq⟩)
      rw [map_cons, Folio.entry, lookup_cons, ne]
      exact ih keys mem

end DeclarationLines

/-- Arguments are found if the canvases can be told apart and no argument is declared too late. -/
theorem Folio.found_of_straight (root : Folio) (keys : (root.all.map (·.key.1)).Nodup)
    (straight : ∀ folio ∈ root.all, folio.Straight) : root.Found := by
  refine ⟨root.all.map entry, ?_, fun folio mem => DeclarationLines.lookup_map_entry keys mem⟩
  obtain ⟨last, run⟩ := @DeclarationLines.readOn_lines [(root.key.1, [])] root.content 0 0 0 keys
    Nat.one_pos Nat.one_pos (fun _ => rfl) (fun _ => rfl)
    (forall_mem_cons.mp straight).2 []
  rw [append_nil, DeclarationLines.readOn.eq_1] at run
  rw [DeclarationLines.ofLines, file, DeclarationLines.readOn_opening root.key.2 (by simp)]
  exact run

namespace Siblings

def rootLine : { key // Outline.opens key ∧ Outline.bare key = key } :=
  ⟨"#N canvas 0 0 10 10 10".toList, by decide⟩

def gain : Outline :=
  .line ⟨"#X text 0 0 @hv_arg \\$1 gain float 5 false;\n".toList, by decide⟩ .nil

def first (inner rest : Outline) : Outline :=
  .canvas ⟨"#N canvas 0 0 10 10 a 0".toList, by decide⟩ inner
    ⟨"#X restore 0 0 pd a;\n".toList, by decide⟩ rest

/-- A canvas that declares an argument after the canvas in it. -/
def second (rest : Outline) : Outline :=
  .canvas ⟨"#N canvas 0 0 10 10 b 0".toList, by decide⟩
    (.canvas ⟨"#N canvas 0 0 10 10 c 0".toList, by decide⟩ .nil
      ⟨"#X restore 0 0 pd c;\n".toList, by decide⟩ gain)
    ⟨"#X restore 0 0 pd b;\n".toList, by decide⟩ rest

theorem found_in_front : Folio.Found ⟨0, 0, rootLine, second (first gain gain)⟩ :=
  Folio.found_of_straight _ (by decide) (by decide)

theorem lost_behind : ¬ Folio.Found ⟨0, 0, rootLine, first .nil (second .nil)⟩ := by
  rintro ⟨declared, run, found⟩
  have lost : (DeclarationLines.ofLines
      (Folio.file ⟨0, 0, rootLine, first .nil (second .nil)⟩)).toOption.map
        (·.lookup "#N canvas 0 0 10 10 b 0".toList) = some (some []) := by decide
  rw [run] at lost
  have own := found _ (mem_cons_of_mem _ (mem_cons_of_mem _ (mem_cons_self ..)))
  exact absurd ((Option.some.inj lost).symm.trans own) (by decide)

end Siblings

end PatchCompiler
