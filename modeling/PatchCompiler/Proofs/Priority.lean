import Mathlib.Order.WithBot
import PatchCompiler.Net.Simplify
import PatchCompiler.Proofs.Rational

/-!
# The order of priorities

Numbers are compared by what they stand for, infinities included, and texts as texts. Ordering by
falling priority puts no object behind one of lower priority and leaves objects of one priority as
they were.
-/

namespace PatchCompiler

open List

def level (number : ℚ) : WithBot (WithTop ℚ) :=
  (number : WithTop ℚ)

theorem cmp_level (x y : ℚ) : cmp (level x) (level y) = cmp x y :=
  (WithBot.coe_strictMono.comp WithTop.coe_strictMono).cmp_map_eq x y

theorem cmp_level_intCast (m n : Int) : cmp (level m) (level n) = Ord.compare m n := by
  rw [cmp_level, Int.cast_strictMono.cmp_map_eq, cmp_eq_compare]

def Binary64.level? : Binary64 → Option (WithBot (WithTop ℚ))
  | .finite negative mantissa exponent => some (level (signed negative mantissa * 2 ^ exponent))
  | .infinite true => some ⊥
  | .infinite false => some ⊤
  | .nan => none

def Value.level? : Value → Option (WithBot (WithTop ℚ))
  | .bool b => some (level (ofBool b))
  | .int n => some (level n)
  | .real x => x.level?
  | _ => none

theorem Binary64.compare_aligned (m e n f : Int) :
    Ord.compare (aligned m e (min e f)) (aligned n f (min e f)) =
      cmp (level (m * 2 ^ e)) (level (n * 2 ^ f)) := by
  have positive : (0 : ℚ) < 2 ^ min e f := zpow_pos two_pos _
  rw [cmp_level, ← aligned_value (min_le_left e f), ← aligned_value (min_le_right e f),
    cmp_mul_pos_right positive, Int.cast_strictMono.cmp_map_eq, cmp_eq_compare]

theorem Binary64.compare_eq (x y : Binary64) :
    x.compare y = x.level?.bind fun a => y.level?.map fun b => cmp a b := by
  cases x with
  | nan => cases y <;> rfl
  | infinite a =>
    cases y with
    | nan => cases a <;> rfl
    | infinite b => cases a <;> cases b <;> rfl
    | finite b n f => cases a <;> rfl
  | finite a m e =>
    cases y with
    | nan => rfl
    | infinite b => cases b <;> rfl
    | finite b n f =>
      rw [compare]
      exact congrArg some (compare_aligned _ _ _ _)

theorem Binary64.compareInt_eq (x : Binary64) (n : Int) :
    x.compareInt n = x.level?.map fun a => cmp a (level n) := by
  cases x with
  | nan => rfl
  | infinite a => cases a <;> rfl
  | finite a m e =>
    rw [compareInt]
    refine congrArg some ((compare_aligned _ _ _ _).trans ?_)
    rw [zpow_zero, mul_one]

theorem Value.compareNumbers_eq (a b : Value) :
    a.compareNumbers b = a.level?.bind fun x => b.level?.map fun y => cmp x y := by
  have whole : ∀ m : Int, ∀ b : Value, (Value.int m).compareNumbers b =
      b.level?.map fun y => cmp (level m) y := by
    intro m b
    cases b with
    | int n => exact congrArg some (cmp_level_intCast m n).symm
    | bool b => exact congrArg some (cmp_level_intCast m (ofBool b)).symm
    | real x =>
      change (x.compareInt m).map Ordering.swap = x.level?.map _
      rw [x.compareInt_eq, Option.map_map]
      exact congrArg (x.level?.map ·) (funext fun y => cmp_swap _ _)
    | _ => rfl
  cases a with
  | int m => exact whole m b
  | bool a =>
    refine Eq.trans ?_ (whole (ofBool a) b)
    cases b <;> rfl
  | real x =>
    cases b with
    | real y => exact x.compare_eq y
    | int n => exact (x.compareInt_eq n).trans (Option.map_eq_bind)
    | bool b => exact (x.compareInt_eq _).trans (Option.map_eq_bind)
    | _ => exact (Option.bind_fun_none _).symm
  | _ => rfl

namespace Value

def Precedes (a b : Value) : Prop :=
  isIndexBefore a b = .ok true

instance (a b : Value) : Decidable (Precedes a b) :=
  inferInstanceAs (Decidable (_ = _))

variable {a b c : Value}

theorem isNumber_of_level {x : WithBot (WithTop ℚ)} (eq : a.level? = some x) :
    a.isNumber = true := by
  cases a <;> first | rfl | cases eq

theorem compareNumbers_iff {ordering : Ordering} : a.compareNumbers b = some ordering ↔
    ∃ x y, a.level? = some x ∧ b.level? = some y ∧ cmp x y = ordering := by
  rw [compareNumbers_eq, Option.bind_eq_some_iff]
  refine exists_congr fun x => ?_
  rw [Option.map_eq_some_iff, exists_and_left]

theorem precedes_iff : a.Precedes b ↔ (∃ s t, a = .text s ∧ b = .text t ∧ s < t) ∨
      ∃ x y, a.level? = some x ∧ b.level? = some y ∧ x < y := by
  have numbers : a.compareNumbers b = some .lt ↔
      ∃ x y, a.level? = some x ∧ b.level? = some y ∧ x < y := by
    rw [compareNumbers_iff]
    exact exists₂_congr fun x y => and_congr_right' (and_congr_right' (cmp_eq_lt_iff x y))
  unfold Precedes isIndexBefore
  split
  case h_1 s t => simp [level?]
  case h_2 notTexts =>
    rw [← numbers]
    split
    case isTrue both =>
      simp only [Except.ok.injEq, beq_iff_eq]
      refine ⟨.inr, ?_⟩
      rintro (⟨s, t, rfl, rfl, -⟩ | less)
      · exact absurd rfl (notTexts s t rfl)
      · exact less
    case isFalse notBoth =>
      refine ⟨fun eq => (by cases eq), ?_⟩
      rintro (⟨s, t, rfl, rfl, -⟩ | less)
      · exact absurd rfl (notTexts s t rfl)
      · obtain ⟨x, y, levelA, levelB, -⟩ := compareNumbers_iff.mp less
        simp [isNumber_of_level levelA, isNumber_of_level levelB] at notBoth

theorem Precedes.trans (first : a.Precedes b) (snd : b.Precedes c) : a.Precedes c := by
  rw [precedes_iff] at first snd ⊢
  rcases first with ⟨s, t, rfl, rfl, less⟩ | ⟨x, y, levelA, levelB, less⟩
  · rcases snd with ⟨_, u, eq, rfl, more⟩ | ⟨_, _, lvl, -, -⟩
    · cases eq
      exact .inl ⟨s, u, rfl, rfl, String.lt_trans less more⟩
    · cases lvl
  · rcases snd with ⟨_, _, rfl, -, -⟩ | ⟨z, w, levelB', levelC, more⟩
    · cases levelB
    · rw [levelB] at levelB'
      cases levelB'
      exact .inr ⟨x, w, levelA, levelC, less.trans more⟩

theorem Precedes.of_equals (precedes : a.Precedes b) (eq' : c.equals b = true) : a.Precedes c := by
  rw [precedes_iff] at precedes ⊢
  rcases precedes with ⟨s, t, rfl, rfl, less⟩ | ⟨x, y, levelA, levelB, less⟩
  · have same : c = .text t := by
      cases c <;> simp_all [equals, compareNumbers]
    exact .inl ⟨s, t, rfl, same, less⟩
  · have compared : c.compareNumbers b = some .eq := by
      cases b <;> cases c <;> simp_all [equals, level?]
    obtain ⟨z, w, levelC, levelB', same⟩ := compareNumbers_iff.mp compared
    rw [levelB] at levelB'
    cases levelB'
    rw [cmp_eq_eq_iff] at same
    exact .inr ⟨x, y, levelA, same ▸ levelC, less⟩

theorem Precedes.irrefl (a : Value) : ¬ a.Precedes a := by
  rw [precedes_iff]
  rintro (⟨s, t, rfl, same, less⟩ | ⟨x, y, eq, again, less⟩)
  · cases same
    exact String.lt_irrefl s less
  · rw [eq] at again
    cases again
    exact lt_irrefl x less

end Value

namespace Build

/-- Objects in the order of their priorities. -/
structure Prioritized (given sorted : List (Value × Ref)) : Prop where
  perm : sorted.Perm given
  falling : sorted.Pairwise fun a b => ¬ a.1.Precedes b.1
  stable : ∀ a b, [a, b].Sublist given → a.1.equals b.1 = true → [a, b].Sublist sorted

theorem insertByPriority_ok {x : Value × Ref} {sorted res : List (Value × Ref)}
    (ins : insertByPriority x sorted = .ok res)
    (falling : sorted.Pairwise fun a b => ¬ a.1.Precedes b.1) :
    ∃ pre after, sorted = pre ++ after ∧ res = pre ++ x :: after ∧ (∀ e ∈ pre, ¬ e.1.Precedes x.1) ∧
      ∀ e ∈ after, ¬ x.1.Precedes e.1 ∧ e.1.equals x.1 = false := by
  induction sorted generalizing res with
  | nil =>
    cases ins
    exact ⟨[], [], rfl, rfl, nofun, nofun⟩
  | cons first rest ih =>
    rw [pairwise_cons] at falling
    rw [insertByPriority] at ins
    cases compared : isIndexBefore first.1 x.1 with
    | error err =>
      rw [compared] at ins
      cases ins
    | ok lower =>
      rw [compared] at ins
      cases lower with
      | true =>
        cases ins
        have lt : first.1.Precedes x.1 := compared
        refine ⟨[], first :: rest, rfl, rfl, nofun, ?_⟩
        intro e mem
        rcases mem_cons.mp mem with rfl | later
        · refine ⟨fun ge => Value.Precedes.irrefl _ (lt.trans ge), ?_⟩
          rw [← Bool.not_eq_true]
          exact fun eq => Value.Precedes.irrefl _ (lt.of_equals eq)
        · have notAbove := falling.1 e later
          refine ⟨fun ge => notAbove (lt.trans ge), ?_⟩
          rw [← Bool.not_eq_true]
          exact fun eq => notAbove (lt.of_equals eq)
      | false =>
        cases more : insertByPriority x rest with
        | error err =>
          rw [more] at ins
          cases ins
        | ok tail =>
          rw [more] at ins
          cases ins
          obtain ⟨pre, after, rfl, rfl, ge, lt⟩ :=
            ih more falling.2
          refine ⟨first :: pre, after, rfl, rfl, ?_, lt⟩
          intro e mem
          rcases mem_cons.mp mem with rfl | later
          · intro precedes
            rw [Value.Precedes, compared] at precedes
            cases precedes
          · exact ge e later

theorem Prioritized.insert {items sorted result : List (Value × Ref)} {item : Value × Ref}
    (prio : Prioritized items sorted) (ins : insertByPriority item sorted = .ok result) :
    Prioritized (items ++ [item]) result := by
  obtain ⟨before, after, rfl, rfl, ge, lt⟩ := insertByPriority_ok ins prio.falling
  obtain ⟨fallingBefore, fallingAfter, across⟩ := pairwise_append.mp prio.falling
  refine ⟨?_, ?_, ?_⟩
  · exact (perm_middle.trans (prio.perm.cons item)).trans (perm_append_singleton item items).symm
  · refine pairwise_append.mpr ⟨fallingBefore, pairwise_cons.mpr
      ⟨fun e mem => (lt e mem).1, fallingAfter⟩, ?_⟩
    intro first inBefore snd inR
    rcases mem_cons.mp inR with rfl | inAfter
    · exact ge first inBefore
    · exact across first inBefore snd inAfter
  · intro first snd pair eq
    have known : [first, snd].Sublist items ∨ first ∈ items ∧ snd = item := by
      obtain ⟨left, right, split, inGiven, last⟩ := sublist_append_iff.mp pair
      match left, right, split with
      | [], [_, _], _ => exact absurd last.length_le (by simp)
      | [_], [_], rfl => exact .inr ⟨by simpa using inGiven, by simpa using last⟩
      | [_, _], [], rfl => exact .inl inGiven
    rcases known with old | ⟨inGiven, rfl⟩
    · exact (prio.stable first snd old eq).trans ((sublist_cons_self item after).append_left before)
    · have inBefore : first ∈ before := by
        rcases mem_append.mp (prio.perm.mem_iff.mpr inGiven) with here | there
        · exact here
        · have ne := (lt first there).2
          rw [eq] at ne
          cases ne
      exact (singleton_sublist.mpr inBefore).append (singleton_sublist.mpr mem_cons_self)

theorem byPriority_ok {items sorted : List (Value × Ref)} (run : byPriority items = .ok sorted) :
    Prioritized items sorted := by
  have go : ∀ rest done cur result : List (Value × Ref), Prioritized done cur →
      rest.foldlM (fun sorted x => insertByPriority x sorted) cur = .ok result →
      Prioritized (done ++ rest) result := by
    intro rest
    induction rest with
    | nil =>
      intro done cur result prio eq
      cases eq
      rwa [append_nil]
    | cons x rest ih =>
      intro done cur result prio more
      rw [foldlM_cons] at more
      cases ins : insertByPriority x cur with
      | error err =>
        rw [ins] at more
        cases more
      | ok next =>
        rw [ins] at more
        rw [append_cons]
        exact ih _ next result (prio.insert ins) more
  exact go items [] [] sorted ⟨.refl _, .nil, nofun⟩ run

end Build

end PatchCompiler
