import Mathlib.Data.List.Infix
import PatchCompiler.Text.Basic

/-!
# Putting values in for references

A text is searched for one reference after the other, and each is replaced by its value. If no
reference is the beginning of another and no value can be mistaken for a part of a reference, all of
them are replaced at once, in whatever order they are gone through.
-/

namespace PatchCompiler.Text

open List

variable {old new cs : List Char} {c mark : Char}

theorem splitAfter_current (old : List Char) (skip : Nat) (current cs : List Char) :
    ∃ first rest, splitAfter old skip [] cs = first :: rest ∧
      splitAfter old skip current cs = (current.reverse ++ first) :: rest := by
  induction cs generalizing skip current with
  | nil => exact ⟨[], [], by simp [splitAfter], by simp [splitAfter]⟩
  | cons c cs ih =>
    cases skip with
    | succ skip => exact ih skip current
    | zero =>
      by_cases found : old.isPrefixOf (c :: cs)
      · exact ⟨[], _, by simp only [splitAfter, found]; rfl, by simp [splitAfter, found]⟩
      · obtain ⟨first, rest, eq, one⟩ := ih 0 [c]
        obtain ⟨first', rest', eq', more⟩ := ih 0 (c :: current)
        obtain ⟨rfl, rfl⟩ := List.cons.inj (eq.symm.trans eq')
        refine ⟨c :: first, rest, ?_, ?_⟩
        · simpa [splitAfter, found] using one
        · simpa [splitAfter, found] using more

theorem splitAfter_skip (old current : List Char) (skip : Nat) (cs : List Char) :
    splitAfter old skip current cs = splitAfter old 0 current (cs.drop skip) := by
  induction cs generalizing skip with
  | nil => cases skip <;> simp [splitAfter]
  | cons c cs ih =>
    cases skip with
    | zero => rfl
    | succ skip => exact ih skip

theorem joinWith_cons_append (new first second : List Char) (rest : List (List Char)) :
    joinWith new ((first ++ second) :: rest) = first ++ joinWith new (second :: rest) := by
  cases rest <;> simp [joinWith, List.intercalate, List.intersperse]

@[simp]
theorem replaceAll_nil : replaceAll old new [] = [] := by
  simp [replaceAll, splitOn, splitAfter, joinWith, List.intercalate]

theorem replaceAll_found (old : List Char) : replaceAll (c :: old) new (c :: old ++ cs) =
    new ++ replaceAll (c :: old) new cs := by
  obtain ⟨first, rest, eq, -⟩ := splitAfter_current (c :: old) 0 [] cs
  have found : (c :: old).isPrefixOf (c :: (old ++ cs)) = true :=
    isPrefixOf_iff_prefix.mpr (prefix_append (c :: old) cs)
  have skipped : splitAfter (c :: old) old.length [] (old ++ cs) = first :: rest := by
    rw [splitAfter_skip, drop_left, eq]
  simp only [replaceAll, splitOn, cons_append, splitAfter, found, if_true, length_cons,
    Nat.add_sub_cancel, skipped, eq]
  simp [joinWith, List.intercalate]

theorem replaceAll_other (none : ¬ old <+: c :: cs) :
    replaceAll old new (c :: cs) = c :: replaceAll old new cs := by
  obtain ⟨first, rest, eq, one⟩ := splitAfter_current old 0 [c] cs
  rw [← isPrefixOf_iff_prefix] at none
  simp only [replaceAll, splitOn, splitAfter, none, one, eq]
  exact joinWith_cons_append new [c] first rest

theorem replaceAll_append {first : List Char} (free : mark ∉ first) :
    replaceAll (mark :: old) new (first ++ cs) = first ++ replaceAll (mark :: old) new cs := by
  induction first with
  | nil => rfl
  | cons c first ih =>
    obtain ⟨ne, free⟩ := ne_and_not_mem_of_not_mem_cons free
    rw [cons_append, replaceAll_other, ih free, cons_append]
    exact fun start => ne (cons_prefix_cons.mp start).1

theorem hasPart_iff {part : List Char} : hasPart part cs = true ↔ part <:+: cs := by
  induction cs with
  | nil => simp [hasPart]
  | cons c cs ih =>
    rw [hasPart, Bool.or_eq_true, isPrefixOf_iff_prefix, ih, infix_cons_iff]

theorem replaceAll_of_not_hasPart (none : hasPart old cs = false) : replaceAll old new cs = cs := by
  induction cs with
  | nil => exact replaceAll_nil
  | cons c cs ih =>
    rw [hasPart, Bool.or_eq_false_iff] at none
    rw [replaceAll_other, ih none.2]
    rw [← isPrefixOf_iff_prefix, none.1]
    decide

/-- Where the text has `mark`, `find` looks for a reference behind it and tells the reference and
its value. `skip` characters of the reference just found are still to be dropped. -/
def substituteAfter (mark : Char) (find : List Char → Option (List Char × List Char)) :
    Nat → List Char → List Char
  | _, [] => []
  | skip + 1, _ :: cs => substituteAfter mark find skip cs
  | 0, c :: cs =>
    match if c = mark then find cs else none with
    | some (reference, value) => value ++ substituteAfter mark find reference.length cs
    | none => c :: substituteAfter mark find 0 cs

def substitute (mark : Char) (find : List Char → Option (List Char × List Char))
    (cs : List Char) : List Char :=
  substituteAfter mark find 0 cs

section Substitute

variable {find : List Char → Option (List Char × List Char)} {reference value : List Char}

theorem substitute_nil : substitute mark find [] = [] :=
  rfl

theorem substituteAfter_skip (skip : Nat) (cs : List Char) :
    substituteAfter mark find skip cs = substitute mark find (cs.drop skip) := by
  induction cs generalizing skip with
  | nil => cases skip <;> rfl
  | cons c cs ih =>
    cases skip with
    | zero => rfl
    | succ skip => exact ih skip

theorem substitute_found (found : find (reference ++ cs) = some (reference, value)) :
    substitute mark find (mark :: (reference ++ cs)) = value ++ substitute mark find cs := by
  rw [substitute, substituteAfter, if_pos rfl, found]
  simp only [substituteAfter_skip, drop_left]

theorem substitute_missing (missing : find cs = none) :
    substitute mark find (mark :: cs) = mark :: substitute mark find cs := by
  rw [substitute, substituteAfter, if_pos rfl, missing]
  rfl

theorem substitute_other (ne : c ≠ mark) :
    substitute mark find (c :: cs) = c :: substitute mark find cs := by
  rw [substitute, substituteAfter, if_neg ne]
  rfl

theorem substitute_append {first : List Char} (free : mark ∉ first) :
    substitute mark find (first ++ cs) = first ++ substitute mark find cs := by
  induction first with
  | nil => rfl
  | cons c first ih =>
    obtain ⟨ne, free⟩ := ne_and_not_mem_of_not_mem_cons free
    rw [cons_append, substitute_other ne.symm, ih free, cons_append]

theorem substitute_congr {other : List Char → Option (List Char × List Char)}
    (same : ∀ rest, mark :: rest <:+ cs → find rest = other rest) :
    substitute mark find cs = substitute mark other cs := by
  suffices go : ∀ skip, substituteAfter mark find skip cs = substituteAfter mark other skip cs from
    go 0
  induction cs with
  | nil => exact fun skip => by cases skip <;> rfl
  | cons c cs ih =>
    have later := ih fun rest suffix => same rest (suffix.trans (suffix_cons c cs))
    intro skip
    cases skip with
    | succ skip => exact later skip
    | zero =>
      by_cases eq : c = mark
      · subst eq
        simp only [substituteAfter, same cs suffix_rfl, later]
      · simp only [substituteAfter, eq, if_false, later]

theorem substitute_of_not_mem (free : mark ∉ cs) : substitute mark find cs = cs := by
  have same : substitute mark find (cs ++ []) = cs ++ substitute mark find [] :=
    substitute_append free
  rwa [substitute_nil, append_nil] at same

end Substitute

/-- The first of the references with which a text begins. -/
def pick (refs : List (List Char × List Char)) (cs : List Char) : Option (List Char × List Char) :=
  refs.find? fun ref => ref.1.isPrefixOf cs

/-- No reference is the beginning of another, and neither references nor values have the mark. -/
structure Apart (mark : Char) (refs : List (List Char × List Char)) : Prop where
  unmarked : ∀ ref ∈ refs, mark ∉ ref.1 ∧ mark ∉ ref.2
  unlike : ∀ a ∈ refs, ∀ b ∈ refs, a.1 <+: b.1 → a = b

/-- What stands between a mark and the next one begins with a reference, or it is not the beginning
of a reference, so that no value behind it can make it one. -/
def Firm (mark : Char) (refs : List (List Char × List Char)) (cs : List Char) : Prop :=
  ∀ rest ∈ cs.tails, rest.head? = some mark → mark ∈ rest.tail →
    (∃ ref ∈ refs, ref.1 <+: rest.tail.takeWhile (· != mark)) ∨
      ∀ ref ∈ refs, ¬ rest.tail.takeWhile (· != mark) <+: ref.1

section Apart

variable {refs done : List (List Char × List Char)} {ref : List Char × List Char}

theorem Firm.suffix {rest : List Char} (firm : Firm mark refs cs) (suffix : rest <:+ cs) :
    Firm mark refs rest := fun later mem =>
  firm later ((mem_tails _ _).mpr (((mem_tails _ _).mp mem).trans suffix))

theorem pick_eq_none_iff : pick done cs = none ↔ ∀ ref ∈ done, ¬ ref.1 <+: cs := by
  simp only [pick, find?_eq_none, isPrefixOf_iff_prefix]

theorem Apart.eq_of_prefix (apart : Apart mark refs) {other : List Char × List Char}
    (mem : ref ∈ refs) (known : other ∈ refs) (start : ref.1 <+: cs) (begins : other.1 <+: cs) :
    ref = other := by
  rcases prefix_or_prefix_of_prefix start begins with le | le
  · exact apart.unlike _ mem _ known le
  · exact (apart.unlike _ known _ mem le).symm

theorem Apart.pick_eq (apart : Apart mark refs) (sub : done ⊆ refs) (mem : ref ∈ done)
    (start : ref.1 <+: cs) : pick done cs = some ref := by
  cases eq : pick done cs with
  | none => exact absurd start (pick_eq_none_iff.mp eq ref mem)
  | some other =>
    have begins : other.1 <+: cs := isPrefixOf_iff_prefix.mp <| by simpa using find?_some eq
    have known := sub (mem_of_find?_eq_some eq)
    rw [apart.eq_of_prefix (sub mem) known start begins]

/-- A reference begins behind a mark after some references were replaced only if it did before. -/
theorem Apart.prefix_of_prefix_substitute (apart : Apart mark refs)
    (firm : Firm mark refs (mark :: cs)) (mem : ref ∈ refs)
    (start : ref.1 <+: substitute mark (pick done) cs) : ref.1 <+: cs := by
  by_cases later : mark ∈ cs
  · obtain ⟨between, rest, rfl, free⟩ := eq_append_cons_of_mem later
    have chunk : (between ++ mark :: rest).takeWhile (· != mark) = between := by
      rw [takeWhile_append_of_pos fun c mem => by simpa using ne_of_mem_of_not_mem mem free]
      simp
    have sure := firm _ ((mem_tails _ _).mpr suffix_rfl) rfl later
    rw [tail_cons, chunk] at sure
    rw [substitute_append free] at start
    rcases prefix_or_prefix_of_prefix start (prefix_append _ _) with le | le
    · exact le.trans (prefix_append _ _)
    · rcases sure with ⟨other, known, begins⟩ | none
      · rw [← apart.unlike other known ref mem (begins.trans le)]
        exact begins.trans (prefix_append _ _)
      · exact absurd le (none ref mem)
  · rwa [substitute_of_not_mem later] at start

/-- Replacing one more reference in the text in which some were replaced at once. -/
theorem Apart.replaceAll_substitute (apart : Apart mark refs) (sub : done ⊆ refs)
    (mem : ref ∈ refs) (firm : Firm mark refs cs) :
    replaceAll (mark :: ref.1) ref.2 (substitute mark (pick done) cs) =
      substitute mark (pick (ref :: done)) cs := by
  have known : ref :: done ⊆ refs := cons_subset.mpr ⟨mem, sub⟩
  induction size : cs.length using Nat.strong_induction_on generalizing cs with
  | _ n ih =>
    cases cs with
    | nil => exact replaceAll_nil
    | cons c cs =>
      have rest : ∀ {later}, later <:+ cs → replaceAll (mark :: ref.1) ref.2
          (substitute mark (pick done) later) = substitute mark (pick (ref :: done)) later :=
        fun le => ih _ (size ▸ Nat.lt_succ_of_le le.length_le) 
          (firm.suffix (le.trans (suffix_cons c cs))) rfl
      by_cases eq : c = mark
      · subst eq
        by_cases hit : ∃ other ∈ done, other.1 <+: cs
        · obtain ⟨other, old, later, rfl⟩ := hit
          have start := prefix_append other.1 later
          rw [substitute_found (apart.pick_eq sub old start),
            substitute_found (apart.pick_eq known (mem_cons_of_mem ref old) start),
            replaceAll_append (apart.unmarked _ (sub old)).2, rest (suffix_append _ _)]
        · simp only [not_exists, not_and] at hit
          by_cases start : ref.1 <+: cs
          · obtain ⟨later, rfl⟩ := start
            rw [substitute_missing (pick_eq_none_iff.mpr hit),
              substitute_append (apart.unmarked ref mem).1, ← cons_append, replaceAll_found,
              rest (suffix_append _ _), substitute_found (apart.pick_eq known
                mem_cons_self (prefix_append _ _))]
          · rw [substitute_missing (pick_eq_none_iff.mpr hit), substitute_missing
              (pick_eq_none_iff.mpr (forall_mem_cons.mpr ⟨start, hit⟩)), replaceAll_other,
              rest suffix_rfl]
            intro both
            exact start (apart.prefix_of_prefix_substitute firm mem (cons_prefix_cons.mp both).2)
      · rw [substitute_other eq, substitute_other eq, replaceAll_other, rest suffix_rfl]
        exact fun start => eq (cons_prefix_cons.mp start).1.symm

theorem substitute_pick_nil (cs : List Char) : substitute mark (pick []) cs = cs := by
  induction cs with
  | nil => rfl
  | cons c cs ih =>
    by_cases eq : c = mark
    · rw [eq, substitute_missing rfl, ih]
    · rw [substitute_other eq, ih]

theorem Apart.pick_congr (apart : Apart mark refs) {order : List (List Char × List Char)}
    (same : ∀ ref, ref ∈ order ↔ ref ∈ refs) (cs : List Char) : pick order cs = pick refs cs := by
  by_cases hit : ∃ ref ∈ refs, ref.1 <+: cs
  · obtain ⟨ref, mem, start⟩ := hit
    rw [apart.pick_eq (fun ref => (same ref).mp) ((same ref).mpr mem) start,
      apart.pick_eq (fun _ => id) mem start]
  · simp only [not_exists, not_and] at hit
    rw [pick_eq_none_iff.mpr hit, pick_eq_none_iff]
    exact fun ref mem => hit ref ((same ref).mp mem)

end Apart

end PatchCompiler.Text
