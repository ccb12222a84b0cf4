import Mathlib.Data.List.Nodup
import Mathlib.Logic.Relation
import PatchCompiler.Net.Registry

/-!
# Walks against the wires

A walk enters objects and gives each its place when all objects its wires come from have been
entered. An object that has been entered is passed over, which also cuts cycles, so an object may
get its place before one its wires come from. The last theorem says exactly when: the walk has to
come back to it from there.
-/

namespace PatchCompiler

open List Relation

def Precedes (items : List Ref) (first second : Ref) : Prop :=
  ∃ front back, items = front ++ back ∧ first ∈ front ∧ second ∈ back

theorem Precedes.ne {xs : List Ref} {first second : Ref} (once : xs.Nodup)
    (pre : Precedes xs first second) : first ≠ second := by
  rcases pre with ⟨front, back, rfl, inFront, inBack⟩
  exact disjoint_of_nodup_append once inFront |> fun sep eq => sep (eq ▸ inBack)

theorem Precedes.filter {xs : List Ref} {first second : Ref} {keep : Ref → Bool}
    (pre : Precedes xs first second) (keepFirst : keep first) (keepSecond : keep second) :
    Precedes (xs.filter keep) first second := by
  rcases pre with ⟨front, back, rfl, inFront, inBack⟩
  refine ⟨front.filter keep, back.filter keep, filter_append .., ?_, ?_⟩
  · exact mem_filter.mpr ⟨inFront, keepFirst⟩
  · exact mem_filter.mpr ⟨inBack, keepSecond⟩

theorem Precedes.not_symm {xs : List Ref} {first snd : Ref} (once : xs.Nodup)
    (pre : Precedes xs first snd) : ¬ Precedes xs snd first := by
  rintro ⟨front', back', split, inFront', inBack'⟩
  rcases pre with ⟨front, back, rfl, inFront, inBack⟩
  have sep := disjoint_of_nodup_append once
  have apart' := disjoint_of_nodup_append (split ▸ once)
  rcases append_eq_append_iff.mp split with ⟨more, rfl, rfl⟩ | ⟨more, rfl, rfl⟩
  · exact apart' (mem_append_left _ inFront) inBack'
  · exact sep (mem_append_left _ inFront') inBack

theorem Precedes.total {xs : List Ref} {first snd : Ref} (inF : first ∈ xs)
    (inSecond : snd ∈ xs) (ne : first ≠ snd) : Precedes xs first snd ∨ Precedes xs snd first := by
  rcases append_of_mem inF with ⟨front, back, rfl⟩
  rcases mem_append.mp inSecond with inFront | inBack
  · exact .inr ⟨front, first :: back, rfl, inFront, mem_cons_self⟩
  · refine .inl ⟨front ++ [first], back, by simp, by simp, ?_⟩
    exact (mem_cons.mp inBack).resolve_left ne.symm

structure Walk where
  /-- The objects in the order in which they are entered. -/
  entered : List Ref
  /-- The objects in the order in which they get their places. -/
  placed : List Ref

namespace Walk

def enter (walk : Walk) (object : Ref) : Walk :=
  { walk with entered := walk.entered ++ [object] }

def place (walk : Walk) (object : Ref) : Walk :=
  { walk with placed := walk.placed ++ [object] }

@[simp] theorem entered_enter (walk : Walk) (o : Ref) :
    (walk.enter o).entered = walk.entered ++ [o] := rfl

@[simp] theorem placed_enter (walk : Walk) (o : Ref) : (walk.enter o).placed = walk.placed := rfl

@[simp] theorem entered_place (walk : Walk) (o : Ref) : (walk.place o).entered = walk.entered := rfl

@[simp] theorem placed_place (walk : Walk) (o : Ref) :
    (walk.place o).placed = walk.placed ++ [o] := rfl

/-- A walk through a list of objects, from one state to another. -/
inductive Visits (sources : Ref → List Ref) : Walk → List Ref → Walk → Prop where
  | done (walk : Walk) : Visits sources walk [] walk
  | known {walk last : Walk} {object : Ref} {rest : List Ref} :
      object ∈ walk.entered → Visits sources walk rest last →
      Visits sources walk (object :: rest) last
  | enter {walk inner last : Walk} {object : Ref} {rest : List Ref} :
      object ∉ walk.entered → Visits sources (walk.enter object) (sources object) inner →
      Visits sources (inner.place object) rest last →
      Visits sources walk (object :: rest) last

/-- From the objects that have their places no wire leads back to one that was not entered. -/
def Settled (sources : Ref → List Ref) (walk : Walk) : Prop :=
  ∀ object ∈ walk.placed, ∀ source ∈ sources object, source ∈ walk.entered

/-- A way back from one object to another through objects that are entered after the first. -/
def Returns (sources : Ref → List Ref) (entered : List Ref) (first last : Ref) : Prop :=
  ReflTransGen (fun a b => b ∈ sources a ∧ Precedes entered first b) first last

namespace Visits

variable {sources : Ref → List Ref} {walk last : Walk} {os : List Ref}

theorem append {mid : Walk} {more : List Ref} (first : Visits sources walk os mid)
    (snd : Visits sources mid more last) : Visits sources walk (os ++ more) last := by
  induction first with
  | done walk => exact snd
  | known seen _ ih => exact .known seen (ih snd)
  | enter new sub _ _ ih =>
    exact .enter new sub (ih snd)

section

variable (vis : Visits sources walk os last)
include vis

/-- The walk only adds to both lists, the same objects to each, and every object once. -/
theorem grows : ∃ new done, last.entered = walk.entered ++ new ∧ last.placed = walk.placed ++ done ∧
      done.Perm new ∧ new.Nodup ∧ ∀ o ∈ new, o ∉ walk.entered := by
  induction vis with
  | done walk => exact ⟨[], [], by simp, by simp, .nil, .nil, by simp⟩
  | known _ _ ih => exact ih
  | @enter walk sub last o rest nu _ _ ihs ihr =>
    rcases ihs with ⟨new₁, done₁, entered₁, placed₁, same₁, once₁, apart₁⟩
    rcases ihr with ⟨new₂, done₂, entered₂, placed₂, same₂, once₂, apart₂⟩
    simp only [entered_place, placed_place, entered_enter, placed_enter] at *
    refine ⟨o :: (new₁ ++ new₂), done₁ ++ o :: done₂, ?_, ?_, ?_, ?_, ?_⟩
    · rw [entered₂, entered₁]
      simp
    · rw [placed₂, placed₁]
      simp
    · exact perm_middle.trans ((same₁.append same₂).cons o)
    · rw [nodup_cons, nodup_append]
      refine ⟨?_, once₁, once₂, ?_⟩
      · intro again
        rcases mem_append.mp again with inF | inSecond
        · exact apart₁ o inF (by simp)
        · exact apart₂ o inSecond (by simp [entered₁])
      · rintro a inF b inSecond rfl
        exact apart₂ a inSecond (by simp [entered₁, inF])
    · intro a inNew seen
      rcases mem_cons.mp inNew with rfl | inNew
      · exact nu seen
      · rcases mem_append.mp inNew with inF | inSecond
        · exact apart₁ a inF (by simp [seen])
        · exact apart₂ a inSecond (by simp [entered₁, seen])

theorem entered_prefix : walk.entered <+: last.entered := by
  rcases vis.grows with ⟨new, _, ent, _⟩
  exact ⟨new, ent.symm⟩

theorem placed_prefix : walk.placed <+: last.placed := by
  rcases vis.grows with ⟨_, done, _, put, _⟩
  exact ⟨done, put.symm⟩

theorem entered_nodup (once : walk.entered.Nodup) : last.entered.Nodup := by
  rcases vis.grows with ⟨new, _, ent, _, _, onceNew, sep⟩
  rw [ent, nodup_append]
  exact ⟨once, onceNew, fun a seen b inN eq => sep b inN (eq ▸ seen)⟩

theorem mem_placed_iff (o : Ref) : o ∈ last.placed ↔
      o ∈ walk.placed ∨ (o ∈ last.entered ∧ o ∉ walk.entered) := by
  rcases vis.grows with ⟨new, done, ent, put, eq, _, sep⟩
  rw [ent, put, mem_append, mem_append, eq.mem_iff]
  constructor
  · rintro (old | inNew)
    · exact .inl old
    · exact .inr ⟨.inr inNew, sep o inNew⟩
  · rintro (old | ⟨seen | inNew, nu⟩)
    · exact .inl old
    · exact absurd seen nu
    · exact .inr inNew

theorem placed_nodup (none : walk.placed = []) : last.placed.Nodup := by
  rcases vis.grows with ⟨new, done, _, put, eq, once, _⟩
  rw [put, none, nil_append]
  exact eq.nodup_iff.mpr once

theorem covers : ∀ o ∈ os, o ∈ last.entered := by
  induction vis with
  | done walk => simp
  | known seen rest ih =>
    intro o inList
    rcases mem_cons.mp inList with rfl | inRest
    · exact rest.entered_prefix.subset seen
    · exact ih o inRest
  | enter _ sub rest _ ihr =>
    intro o inList
    rcases mem_cons.mp inList with rfl | inRest
    · apply rest.entered_prefix.subset
      exact sub.entered_prefix.subset (by simp)
    · exact ihr o inRest

theorem closed : ∀ o ∈ last.entered, o ∉ walk.entered → ∀ src ∈ sources o, src ∈ last.entered := by
  induction vis with
  | done walk => exact fun o seen new => absurd seen new
  | known _ _ ih => exact ih
  | @enter walk sub last o rest _ innerVisits restVisits ihs ihr =>
    intro y seen new src inS
    by_cases inI : y ∈ sub.entered
    · apply restVisits.entered_prefix.subset
      by_cases eq : y = o
      · subst eq
        exact innerVisits.covers src inS
      · exact ihs y inI (by simp [new, eq]) src inS
    · exact ihr y seen inI src inS

theorem settled (start : Settled sources walk) : Settled sources last := by
  intro o inPlaced src inS
  rcases (vis.mem_placed_iff o).mp inPlaced with old | ⟨seen, new⟩
  · exact vis.entered_prefix.subset (start o old src inS)
  · exact vis.closed o seen new src inS

/-- An object that is entered on the way is reached through objects entered on the way. -/
theorem reached :
    ∀ object ∈ last.entered, object ∉ walk.entered → ∃ first ∈ os, first ∉ walk.entered ∧
        ReflTransGen
          (fun a b => b ∈ sources a ∧ b ∈ last.entered ∧ b ∉ walk.entered) first object := by
  induction vis with
  | done walk => exact fun object seen new => absurd seen new
  | known _ _ ih =>
    intro object seen new
    rcases ih object seen new with ⟨first, inR, rest⟩
    exact ⟨first, mem_cons_of_mem _ inR, rest⟩
  | @enter walk inner last object rest unknown innerVisits restVisits innerHypothesis
      ihr =>
      intro y seen new
      have grown : ∀ a ∈ inner.entered, a ∈ last.entered := fun a inI =>
        restVisits.entered_prefix.subset inI
      by_cases eq : y = object
      · exact ⟨object, mem_cons_self, unknown, eq ▸ .refl⟩
      by_cases inI : y ∈ inner.entered
      · rcases innerHypothesis y inI (by simp [new, eq]) with
          ⟨first, inSources, firstFresh, path⟩
        have firstSeen := grown first (innerVisits.covers first inSources)
        simp only [entered_enter, mem_append, mem_singleton, not_or] at firstFresh path
        refine ⟨object, mem_cons_self, unknown, ?_⟩
        refine .head ⟨inSources, firstSeen, firstFresh.1⟩ (ReflTransGen.mono ?_ _ _ path)
        exact fun a b ⟨w, seenB, freshB⟩ => ⟨w, grown b seenB, freshB.1⟩
      · rcases ihr y seen inI with ⟨first, inR, firstFresh, path⟩
        have older : ∀ a, a ∉ inner.entered → a ∉ walk.entered := fun a freshA seenA =>
          freshA (innerVisits.entered_prefix.subset (by simp [seenA]))
        refine ⟨first, mem_cons_of_mem _ inR, older first firstFresh, ReflTransGen.mono ?_ _ _ path⟩
        exact fun a b ⟨w, seenB, freshB⟩ => ⟨w, seenB, older b freshB⟩

/-- The objects entered on the way are those to which a way leads that was not entered before. -/
theorem entered_iff (object : Ref) :
    (object ∈ last.entered ∧ object ∉ walk.entered) ↔ ∃ first ∈ os, first ∉ walk.entered ∧
        ReflTransGen (fun a b => b ∈ sources a ∧ b ∉ walk.entered) first object := by
  constructor
  · rintro ⟨seen, new⟩
    rcases vis.reached object seen new with ⟨first, inObjects, firstFresh, path⟩
    exact ⟨first, inObjects, firstFresh,
      ReflTransGen.mono (fun a b step => ⟨step.1, step.2.2⟩) _ _ path⟩
  · rintro ⟨first, inObjects, firstFresh, path⟩
    induction path with
    | refl => exact ⟨vis.covers first inObjects, firstFresh⟩
    | tail _ step ih =>
      exact ⟨vis.closed _ ih.1 ih.2 _ step.1, step.2⟩

/-- Every object that is entered on the way is the start of a walk of its own, inside of which
everything else that is entered gets its place first. -/
theorem opened (start : Settled sources walk) :
    ∀ o ∈ last.entered, o ∉ walk.entered → ∃ outer sub, o ∉ outer.entered ∧ Settled sources outer ∧
      Visits sources (outer.enter o) (sources o) sub ∧ sub.entered <+: last.entered ∧
      sub.placed ++ [o] <+: last.placed := by
  induction vis with
  | done walk => exact fun o seen new => absurd seen new
  | known _ _ ih => exact ih start
  | @enter walk sub last o rest unknown innerVisits restVisits ihs ihr =>
      intro y seen new
      have startInner : Settled sources (walk.enter o) := fun a inPlaced b inS =>
        mem_append_left _ (start a inPlaced b inS)
      by_cases eq : y = o
      · subst eq
        exact ⟨walk, sub, unknown, start, innerVisits, restVisits.entered_prefix,
          restVisits.placed_prefix⟩
      by_cases inI : y ∈ sub.entered
      · rcases ihs startInner y inI (by simp [new, eq]) with
          ⟨outer, deep, unknownOuter, settledOuter, deepVisits, after, places⟩
        refine ⟨outer, deep, unknownOuter, settledOuter, deepVisits, ?_, ?_⟩
        · exact after.trans restVisits.entered_prefix
        · exact places.trans ((prefix_append _ _).trans restVisits.placed_prefix)
      · have startRest : Settled sources (sub.place o) := by
          intro a inPlaced b inS
          rcases mem_append.mp inPlaced with old | isObject
          · exact innerVisits.settled startInner a old b inS
          · rw [mem_singleton] at isObject
            subst isObject
            exact innerVisits.covers b inS
        exact ihr startRest y seen inI

/-- An object gets its place after one its wires come from, unless the walk returns to it from
there. -/
theorem precedes_iff (none : walk.placed = [])
    (once : walk.entered.Nodup) {src object : Ref} (placedSource : src ∈ last.placed)
    (placedObject : object ∈ last.placed) (w : src ∈ sources object) :
    Precedes last.placed src object ↔ ¬ Returns sources last.entered src object := by
  have start : Settled sources walk := by simp [Settled, none]
  have onceLast := vis.entered_nodup once
  have oncePlaced := vis.placed_nodup none
  have nw : ∀ a, a ∈ last.placed → a ∈ last.entered ∧ a ∉ walk.entered := by
    intro a inPlaced
    simpa [none] using (vis.mem_placed_iff a).mp inPlaced
  rcases vis.opened start src (nw _ placedSource).1 (nw _ placedSource).2 with
    ⟨outer, inner, unknown, settledOuter, innerVisits, after, places⟩
  -- what is entered inside the walk from `src` is what a return leads through
  have mem : ∀ a, Precedes last.entered src a → a ∉ outer.entered ++ [src] := by
    intro a post seen
    rcases innerVisits.entered_prefix.trans after with ⟨more, grown⟩
    rcases mem_append.mp seen with inOuter | isSource
    · apply post.not_symm onceLast
      exact ⟨outer.entered, src :: more, by simpa using grown.symm, inOuter, by simp⟩
    · exact post.ne onceLast (mem_singleton.mp isSource).symm
  have returns_inner : ∀ a, Returns sources last.entered src a →
      a = src ∨ (a ∈ inner.entered ∧ a ∉ outer.entered ++ [src]) := by
    intro a path
    induction path with
    | refl => exact .inl rfl
    | tail _ step ih =>
      have nu := mem _ step.2
      refine .inr ⟨?_, nu⟩
      rcases ih with rfl | ⟨seen, notBefore⟩
      · exact innerVisits.covers _ step.1
      · exact innerVisits.closed _ seen notBefore _ step.1
  have returns_of_inner : ∀ a, a ∈ inner.entered → a ∉ outer.entered ++ [src] →
      Returns sources last.entered src a := by
    intro a seen nu
    rcases innerVisits.grows with ⟨new, _, ent, _, _, _, sep⟩
    rcases innerVisits.reached a seen nu with ⟨first, inS, firstFresh, path⟩
    have post : ∀ b, b ∈ inner.entered → b ∉ outer.entered ++ [src] →
        Precedes last.entered src b := by
      intro b seenB freshB
      rcases after with ⟨more, grown⟩
      refine ⟨outer.entered ++ [src], new ++ more, ?_, by simp, ?_⟩
      · rw [← grown, ent]
        simp
      · rw [ent] at seenB
        exact mem_append_left _ ((mem_append.mp seenB).resolve_left freshB)
    have firstSeen := innerVisits.covers first inS
    refine .head ⟨inS, post first firstSeen firstFresh⟩ (ReflTransGen.mono ?_ _ _ path)
    exact fun b c ⟨w, seenC, freshC⟩ => ⟨w, post c seenC freshC⟩
  have placed_inner : ∀ a, a ∈ inner.placed ↔
      a ∈ outer.placed ∨ (a ∈ inner.entered ∧ a ∉ outer.entered ++ [src]) :=
    innerVisits.mem_placed_iff
  constructor
  · intro ahead returned
    rcases returns_inner object returned with eq | ⟨seen, nu⟩
    · exact ahead.ne oncePlaced eq.symm
    · apply ahead.not_symm oncePlaced
      rcases places with ⟨more, split⟩
      refine ⟨inner.placed, src :: more, ?_, ?_, mem_cons_self⟩
      · rw [← split]
        simp
      · exact (placed_inner object).mpr (.inr ⟨seen, nu⟩)
  · intro unreturned
    rcases places with ⟨more, split⟩
    refine ⟨inner.placed ++ [src], more, split.symm, by simp, ?_⟩
    rw [← split] at placedObject
    rcases mem_append.mp placedObject with early | late
    · exfalso
      rcases mem_append.mp early with inI | isSource
      · rcases (placed_inner object).mp inI with old | ⟨seen, nu⟩
        · exact unknown (settledOuter object old src w)
        · exact unreturned (returns_of_inner object seen nu)
      · rw [mem_singleton] at isSource
        exact unreturned (isSource ▸ .refl)
    · exact late

end

end Visits

end Walk

end PatchCompiler
