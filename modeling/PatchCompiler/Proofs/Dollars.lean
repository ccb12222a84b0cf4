import Mathlib.Data.List.TakeWhile
import PatchCompiler.Patch.Dollar
import PatchCompiler.Proofs.Substitution

/-!
# Dollar arguments all at once

The references of a text are replaced one number after the other. Where no number is the beginning
of another and no argument can be taken for a part of a reference, every reference gets the text of
its own argument, whatever the order of the numbers.
-/

namespace PatchCompiler

open List Text

theorem mem_references {digits cs : List Char} (mem : digits ∈ references cs) :
    digits ≠ [] ∧ ∀ c ∈ digits, isDecimal c = true := by
  induction cs with
  | nil => cases mem
  | cons c cs ih =>
    rw [references] at mem
    split at mem
    · next found =>
        rcases mem_cons.mp mem with rfl | later
        · exact ⟨by simp_all, fun c mem => mem_takeWhile_imp mem⟩
        · exact ih later
    · exact ih mem

theorem takeWhile_mem_references {rest cs : List Char} (suffix : '$' :: rest <:+ cs)
    (some : rest.takeWhile isDecimal ≠ []) : rest.takeWhile isDecimal ∈ references cs := by
  induction cs with
  | nil => simp at suffix
  | cons c cs ih =>
    rw [references]
    rcases suffix_cons_iff.mp suffix with eq | later
    · obtain ⟨rfl, rfl⟩ := cons.inj eq
      simp [some]
    · split
      · exact mem_cons_of_mem _ (ih later)
      · exact ih later

theorem mem_foldl_distinct {α : Type} [DecidableEq α] {xs all : List α} {x : α} :
    x ∈ xs.foldl (fun all m => if all.contains m then all else all ++ [m]) all ↔
      x ∈ all ∨ x ∈ xs := by
  induction xs generalizing all with
  | nil => simp
  | cons y xs ih =>
    rw [foldl_cons, ih]
    split
    · next old =>
        rw [contains_iff_mem] at old
        grind
    · grind

theorem mem_sortedReferences {s digits : String} :
    digits ∈ sortedReferences s ↔ digits.toList ∈ references s.toList := by
  unfold sortedReferences
  rw [(mergeSort_perm _ _).mem_iff, mem_foldl_distinct]
  simp only [not_mem_nil, false_or, mem_map]
  constructor
  · rintro ⟨cs, mem, rfl⟩
    simpa using mem
  · exact fun mem => ⟨digits.toList, mem, by simp⟩

namespace Box

/-- What a number after a dollar stands for: the argument with the number or what was declared for
it, and zero if nothing was. An argument that has to be given has no text. -/
def argumentOf (box : Box) (digits : List Char) : Except Declaration String :=
  let number := ((readInt? (.ofList digits)).getD 0).toNat
  match box.items[number]? with
  | some value => .ok value.display
  | none =>
    match (box.canvas.declared[number - 1]?).join with
    | some declaration =>
      if declaration.required then .error declaration else .ok declaration.default.display
    | none => .ok "0"

/-- The dollar and the digits with which a text begins, and the text that they stand for. -/
def dollar (box : Box) : List Char → Option (List Char × List Char)
  | '$' :: rest =>
    let digits := rest.takeWhile isDecimal
    if digits.isEmpty then none
    else (box.argumentOf digits).toOption.map fun value => ('$' :: digits, value.toList)
  | _ => none

def resolved (box : Box) (s : String) : String :=
  .ofList (substitute '\\' box.dollar s.toList)

def complaint (box : Box) (digits : String) : Option Notice :=
  match box.argumentOf digits.toList with
  | .error declaration => some ⟨some NoticeCode.missingArgument.number,
      s!"There is a missing required argument named \"{declaration.name}\"."⟩
  | .ok _ => none

def valued (box : Box) (numbers : List (List Char)) : List (List Char × List Char) :=
  numbers.filterMap fun digits =>
    (box.argumentOf digits).toOption.map fun value => ('$' :: digits, value.toList)

/-- The numbers in a text cannot be mixed up, and none for which no argument is given was left out
between declarations. -/
structure Unmixed (box : Box) (s : String) : Prop where
  gapless : ∀ digits ∈ references s.toList,
    let number := ((readInt? (.ofList digits)).getD 0).toNat
    box.items.length ≤ number → (box.canvas.declared[number - 1]?).all Option.isSome = true
  unlike : ∀ a ∈ references s.toList, ∀ b ∈ references s.toList, a <+: b → a = b
  plain : ∀ ref ∈ box.valued (references s.toList), '\\' ∉ ref.2
  firm : Firm '\\' (box.valued (references s.toList)) s.toList

variable {box : Box} {s : String}

theorem mem_valued {numbers : List (List Char)} {ref : List Char × List Char} :
    ref ∈ box.valued numbers ↔ ∃ digits ∈ numbers, ∃ value,
      box.argumentOf digits = .ok value ∧ ref = ('$' :: digits, value.toList) := by
  unfold valued
  rw [mem_filterMap]
  refine exists_congr fun digits => and_congr_right fun _ => ?_
  cases box.argumentOf digits <;> simp [Except.toOption, eq_comm]

theorem valued_subset {some all : List (List Char)} (sub : some ⊆ all) :
    box.valued some ⊆ box.valued all := by
  intro ref mem
  obtain ⟨digits, among, found⟩ := mem_valued.mp mem
  exact mem_valued.mpr ⟨digits, sub among, found⟩

theorem Unmixed.apart (unmixed : box.Unmixed s) :
    Apart '\\' (box.valued (references s.toList)) where
  unmarked := by
    intro ref mem
    refine ⟨?_, unmixed.plain ref mem⟩
    obtain ⟨digits, known, value, -, rfl⟩ := mem_valued.mp mem
    intro marked
    rcases mem_cons.mp marked with eq | here
    · cases eq
    · exact absurd ((mem_references known).2 _ here) (by decide)
  unlike := by
    intro a memA b memB le
    obtain ⟨digits, known, value, eq, rfl⟩ := mem_valued.mp memA
    obtain ⟨other, among, another, same, rfl⟩ := mem_valued.mp memB
    cases unmixed.unlike digits known other among (cons_prefix_cons.mp le).2
    cases eq.symm.trans same
    rfl

/-- Behind a mark the reference that is found is the one with all the digits that are there. -/
theorem Unmixed.pick_eq (unmixed : box.Unmixed s) {rest : List Char}
    (suffix : '\\' :: rest <:+ s.toList) :
    pick (box.valued (references s.toList)) rest = box.dollar rest := by
  have inside := (suffix_cons _ _).trans suffix
  cases found : pick (box.valued (references s.toList)) rest with
  | some ref =>
    have start : ref.1.isPrefixOf rest = true := by simpa using find?_some found
    obtain ⟨digits, known, value, eq, rfl⟩ := mem_valued.mp (mem_of_find?_eq_some found)
    obtain ⟨later, rfl⟩ := isPrefixOf_iff_prefix.mp start
    have sure := mem_references known
    have run : (digits ++ later).takeWhile isDecimal = digits ++ later.takeWhile isDecimal :=
      takeWhile_append_of_pos sure.2
    have whole := takeWhile_mem_references inside (by simp [run, sure.1])
    have alone : (digits ++ later).takeWhile isDecimal = digits :=
      (unmixed.unlike digits known _ whole (run ▸ prefix_append _ _)).symm
    simp [dollar, alone, sure.1, eq, Except.toOption]
  | none =>
    rw [pick_eq_none_iff] at found
    unfold dollar
    split
    · next rest =>
        dsimp only
        split
        · rfl
        · next some =>
            cases eq : box.argumentOf (rest.takeWhile isDecimal) with
            | error declaration => rfl
            | ok value =>
              have mem := takeWhile_mem_references inside (by simpa using some)
              exact absurd (cons_prefix_cons.mpr ⟨rfl, takeWhile_prefix _⟩)
                (found _ (mem_valued.mpr ⟨_, mem, value, eq, rfl⟩))
    · rfl

theorem Unmixed.step (unmixed : box.Unmixed s) {digits : String} {done : List (List Char)}
    (mem : digits.toList ∈ references s.toList) (old : done ⊆ references s.toList) :
    (match box.argumentOf digits.toList with
      | .ok value => replaceText ("\\$" ++ digits) value
          (.ofList (substitute '\\' (pick (box.valued done)) s.toList))
      | .error _ => .ofList (substitute '\\' (pick (box.valued done)) s.toList)) =
      String.ofList (substitute '\\' (pick (box.valued (digits.toList :: done))) s.toList) := by
  cases eq : box.argumentOf digits.toList with
  | error declaration => simp [valued, eq, Except.toOption]
  | ok value =>
    have added : box.valued (digits.toList :: done) =
        ('$' :: digits.toList, value.toList) :: box.valued done := by
      simp [valued, eq, Except.toOption]
    rw [added, ← unmixed.apart.replaceAll_substitute (valued_subset old)
      (mem_valued.mpr ⟨_, mem, value, eq, rfl⟩) unmixed.firm]
    simp [replaceText]

end Box

def Patch.reporting (patch : Patch) (canvas : Ref) (notices : List Notice) : Patch :=
  patch.change canvas fun box => { box with errors := box.errors ++ notices }

section Reporting

variable (p : Patch) (canvas : Ref) (notices : List Notice)

theorem Patch.reporting_nil : p.reporting canvas [] = p := by
  have same : p.boxes.modify canvas (fun box => { box with errors := box.errors ++ [] }) =
      p.boxes := by
    apply Array.ext_getElem?
    intro i
    rw [Array.getElem?_modify]
    split <;> simp
  simp only [reporting, change, same]

theorem Patch.reporting_append (more : List Notice) :
    (p.reporting canvas notices).reporting canvas more = p.reporting canvas (notices ++ more) := by
  simp only [reporting, change]
  congr 1
  apply Array.ext_getElem?
  intro i
  simp only [Array.getElem?_modify]
  split <;> simp [Function.comp_def, append_assoc]

theorem Patch.box_reporting :
    ((p.reporting canvas notices).box canvas).items = (p.box canvas).items ∧
    ((p.reporting canvas notices).box canvas).canvas = (p.box canvas).canvas := by
  simp only [reporting, change, Patch.box, Array.getD_eq_getD_getElem?, Array.getElem?_modify]
  cases p.boxes[canvas]? <;> simp [Box.items]

end Reporting

namespace Drawing

open Box Patch

variable {p : Patch} {canvas : Ref} {isRoot : Bool}

/-- Every reference to one argument is replaced, or the argument is reported to be missing. -/
theorem run_resolveReference {digits : String} (gapless :
      let number := ((readInt? (.ofList digits.toList)).getD 0).toNat
      (p.box canvas).items.length ≤ number →
        ((p.box canvas).canvas.declared[number - 1]?).all Option.isSome = true)
    (text : String) (notices : List Notice) :
    (resolveReference canvas isRoot false (some text) digits).run (p.reporting canvas notices) =
      .ok (some (match (p.box canvas).argumentOf digits.toList with
        | .ok value => replaceText ("\\$" ++ digits) value text
        | .error _ => text))
        (p.reporting canvas (notices ++ ((p.box canvas).complaint digits).toList)) := by
  obtain ⟨items, declared⟩ := p.box_reporting canvas notices
  have node : (Drawing.box canvas).run (p.reporting canvas notices) =
      .ok ((p.reporting canvas notices).box canvas) (p.reporting canvas notices) := rfl
  unfold resolveReference
  rw [EStateM.run_bind, node]
  simp only [items, declared, argumentOf, complaint, String.ofList_toList]
  cases given : (p.box canvas).items[((readInt? digits).getD 0).toNat]? with
  | some value => simp [replaceReference]
  | none =>
    have sure := gapless (by simpa using given)
    rw [String.ofList_toList] at sure
    by_cases lt : ((readInt? digits).getD 0).toNat - 1 < (p.box canvas).canvas.declared.length
    · cases found : (p.box canvas).canvas.declared[((readInt? digits).getD 0).toNat - 1]? with
      | none => exact absurd lt (Nat.not_lt.mpr (getElem?_eq_none_iff.mp found))
      | some entry =>
        cases entry with
        | none => simp [found] at sure
        | some declaration =>
          cases required : declaration.required with
          | true =>
            simp only [lt, if_true, Option.join_some, required]
            exact congrArg _ (reporting_append p canvas notices _)
          | false => simp [lt, required, replaceReference]
    · simp [lt, replaceReference]

theorem run_resolveReferences {s : String} (unmixed : (p.box canvas).Unmixed s)
    {done : List (List Char)} {order : List String} (notices : List Notice)
    (old : done ⊆ references s.toList)
    (known : ∀ digits ∈ order, digits.toList ∈ references s.toList) :
    (order.foldlM (resolveReference canvas isRoot false)
      (some (.ofList (substitute '\\' (pick ((p.box canvas).valued done)) s.toList)))).run
        (p.reporting canvas notices) = .ok (some (.ofList (substitute '\\'
        (pick ((p.box canvas).valued ((order.map String.toList).reverse ++ done))) s.toList)))
        (p.reporting canvas (notices ++ order.filterMap (p.box canvas).complaint)) := by
  induction order generalizing done notices with
  | nil => simp
  | cons digits order ih =>
    obtain ⟨mem, known⟩ := forall_mem_cons.mp known
    have next := @ih (digits.toList :: done) (notices ++ ((p.box canvas).complaint digits).toList)
      (cons_subset.mpr ⟨mem, old⟩) known
    rw [foldlM_cons, EStateM.run_bind, run_resolveReference (unmixed.gapless _ mem),
      unmixed.step mem old]
    refine next.trans ?_
    cases eq : (p.box canvas).complaint digits <;> simp [eq]

theorem run_resolveText {s : String} (unmixed : (p.box canvas).Unmixed s) {order : List String}
    (perm : order.Perm (sortedReferences s)) (notices : List Notice) :
    (order.foldlM (resolveReference canvas isRoot false) (some s)).run
        (p.reporting canvas notices) = .ok (some ((p.box canvas).resolved s))
        (p.reporting canvas (notices ++ order.filterMap (p.box canvas).complaint)) := by
  have listed : ∀ digits, digits ∈ order.map String.toList ↔ digits ∈ references s.toList := by
    intro digits
    rw [mem_map]
    constructor
    · rintro ⟨number, mem, rfl⟩
      exact mem_sortedReferences.mp (perm.mem_iff.mp mem)
    · intro mem
      refine ⟨.ofList digits, perm.mem_iff.mpr (mem_sortedReferences.mpr ?_), by simp⟩
      rwa [String.toList_ofList]
  have ran := @run_resolveReferences p canvas isRoot s unmixed [] order notices (nil_subset _)
    fun digits mem => (listed _).mp (mem_map_of_mem mem)
  have start : substitute '\\' (pick ((p.box canvas).valued [])) s.toList = s.toList :=
    substitute_pick_nil _
  have same : substitute '\\' (pick ((p.box canvas).valued (order.map String.toList).reverse))
      s.toList = substitute '\\' (p.box canvas).dollar s.toList := by
    refine substitute_congr fun rest suffix => ?_
    rw [← unmixed.pick_eq suffix]
    refine unmixed.apart.pick_congr (fun ref => ⟨fun mem => ?_, fun mem => ?_⟩) rest
    · exact valued_subset (fun digits mem => (listed _).mp (mem_reverse.mp mem)) mem
    · exact valued_subset (fun digits mem => mem_reverse.mpr ((listed _).mpr mem)) mem
  rw [start, append_nil, same, String.ofList_toList] at ran
  exact ran

/-- Where the numbers in each word cannot be mixed up, every reference is replaced by its argument,
what is declared for it or zero, and those without their argument stay and are reported. The order
of the numbers of a word has no influence on the result. -/
theorem run_resolveWords {words : List String}
    (unmixed : ∀ word ∈ words, (p.box canvas).Unmixed word) :
    (words.mapM (resolveWord canvas isRoot)).run p = .ok (words.map (p.box canvas).resolved)
        (p.reporting canvas (words.flatMap fun word =>
          (sortedReferences word).filterMap (p.box canvas).complaint)) ∧
      ∀ word ∈ words, ∀ order : List String, order.Perm (sortedReferences word) →
        (order.foldlM (resolveReference canvas isRoot false) (some word)).run p =
          .ok (some ((p.box canvas).resolved word))
            (p.reporting canvas (order.filterMap (p.box canvas).complaint)) := by
  constructor
  · suffices go : ∀ notices, (words.mapM (resolveWord canvas isRoot)).run
        (p.reporting canvas notices) = .ok (words.map (p.box canvas).resolved)
          (p.reporting canvas (notices ++ words.flatMap fun word =>
            (sortedReferences word).filterMap (p.box canvas).complaint)) by
      simpa [reporting_nil] using go []
    induction words with
    | nil => simp
    | cons word words ih =>
      intro notices
      have first : (resolveWord canvas isRoot word).run (p.reporting canvas notices) =
          .ok ((p.box canvas).resolved word) (p.reporting canvas
            (notices ++ (sortedReferences word).filterMap (p.box canvas).complaint)) := by
        unfold resolveWord resolveText
        rw [EStateM.run_bind, run_resolveText (unmixed word mem_cons_self) (.refl _)]
        rfl
      rw [mapM_cons, EStateM.run_bind, first]
      simp only
      rw [EStateM.run_bind, ih (forall_mem_cons.mp unmixed).2]
      simp
  · intro word mem order perm
    have ran := @run_resolveText p canvas isRoot word (unmixed word mem) order perm []
    rwa [reporting_nil, nil_append] at ran

end Drawing

namespace Panel

open Drawing

/-- A canvas with two arguments that declares four, of which the last has to be given. -/
def canvas : Box where
  type := "graph"
  role := .canvas
  arguments := .list [.int 1001, .text "lamp", .int 5]
  canvas := { declared := [none, none, some ⟨"gain", "float", .int 3, false⟩,
    some ⟨"size", "int", .null, true⟩] }

def patch : Patch where
  boxes := #[canvas]

def words : List String := ["\\$1-\\$2-\\$3", "\\$0x\\$4", "\\$7$"]

theorem unmixed : ∀ word ∈ words, (patch.box 0).Unmixed word := by
  intro word mem
  simp only [words, mem_cons, not_mem_nil, or_false] at mem
  rcases mem with rfl | rfl | rfl
  all_goals exact ⟨by decide +kernel, by decide +kernel, by decide +kernel,
    by unfold Firm; decide +kernel⟩

theorem words_resolved : (∀ word ∈ words, (patch.box 0).Unmixed word) ∧
    (words.mapM (resolveWord 0 false)).run patch = .ok ["lamp-5-3", "1001x\\$4", "0$"]
      (patch.reporting 0 (words.flatMap fun word =>
        (sortedReferences word).filterMap (patch.box 0).complaint)) := by
  refine ⟨unmixed, (run_resolveWords unmixed).1.trans ?_⟩
  have shown : words.map (patch.box 0).resolved = ["lamp-5-3", "1001x\\$4", "0$"] := by
    decide +kernel
  rw [shown]

/-- The tenth argument was not given, but the first is put in for the beginning of its number. -/
theorem tenth_mixed : ∃ last,
    (resolveText 0 false false "\\$1-\\$10").run patch = .ok (some "lamp-lamp0") last ∧
      (patch.box 0).resolved "\\$1-\\$10" = "lamp-0" := by
  have listed : sortedReferences "\\$1-\\$10" = ["1", "10"] := by
    refine (mergeSort_of_pairwise ?_).trans ?_ <;> decide +kernel
  refine ⟨patch, ?_, by decide +kernel⟩
  unfold resolveText
  rw [listed]
  rfl

end Panel

end PatchCompiler
