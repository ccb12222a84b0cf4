import PatchCompiler.Patch.Graph

/-!
# What boxes make of their arguments

A box with cases takes the words that are numbers for numbers, and it refuses a word that is there
twice. So its cases differ exactly if no two of its words are spellings of one number.

A receiver of a parameter takes the range of the parameter and its default from its words. Without
raw annotations a default out of range is refused. With them it is taken as it is given, and one that
is missing is half the width of the range.
-/

namespace PatchCompiler

open List

def Patch.switchCases? (patch : Patch) (ref : Ref) : Option (List Value) := do
  let graph ← (patch.objectOf (patch.box ref)).toOption
  let switch ← (← graph.field? "objects").field? "switchcase"
  (← (← switch.field? "args").field? "cases").items?

theorem numberOrWord_text (word : String) :
    numberOrWord (.text word) = ((readDouble? word).map Value.real).getD (.text word) := by
  simp only [numberOrWord, Value.toDouble]
  cases readDouble? word <;> rfl

/-- Different words are the same case only if they are numbers of one value. -/
theorem equals_numberOrWord {a b : String} (ne : a ≠ b) :
    (numberOrWord (.text a)).equals (numberOrWord (.text b)) = false ↔
      ∀ x ∈ readDouble? a, ∀ y ∈ readDouble? b, x.equals y = false := by
  rw [numberOrWord_text, numberOrWord_text]
  cases readDouble? a <;> cases readDouble? b <;>
    simp [Value.equals, Value.compareNumbers, Binary64.equals, ne]

theorem nodup_of_caseErrors {name : String} {words : List String}
    (accepted : caseErrors name words = []) : words.Nodup := by
  rw [caseErrors, append_eq_nil_iff] at accepted
  grind

theorem Drawing.box_insertMade {type : String} {made : Made} {x y : Int} {patch last : Patch}
    {ref : Ref} (ran : (insertMade type made x y).run patch = .ok ref last) : last.box ref =
      { type, x, y, role := made.role, arguments := made.arguments,
        warnings := made.warnings, errors := made.errors } := by
  obtain ⟨rfl, rfl⟩ := EStateM.Result.ok.inj ran
  simp [Patch.box, Patch.size]

/-- An accepted box hands a case for each word to its switch, and they differ exactly if no two of
the words are numbers of one value. -/
theorem Drawing.switchCases_differ_iff {type : String} {words : List String} {x y : Int}
    {patch last : Patch} {ref : Ref} (kind : type ∈ ["route", "sel", "select"])
    (made : (makeSpecial type words x y).run patch = .ok ref last)
    (accepted : (last.box ref).errors = []) : ∃ cases, last.switchCases? ref = some cases ∧
      (cases.Pairwise (fun a b => a.equals b = false) ↔
        (words.filterMap readDouble?).Pairwise fun a b => a.equals b = false) := by
  refine ⟨words.map fun word => numberOrWord (.text word), ?_, ?_⟩
  · simp only [mem_cons, not_mem_nil, or_false] at kind
    rcases kind with rfl | rfl | rfl <;> (rw [Patch.switchCases?, box_insertMade made]; rfl)
  · have nodup : words.Nodup := by
      simp only [mem_cons, not_mem_nil, or_false] at kind
      rcases kind with rfl | rfl | rfl <;> rw [box_insertMade made] at accepted <;>
        exact nodup_of_caseErrors accepted
    rw [pairwise_map, pairwise_filterMap]
    exact ⟨fun all => (nodup.and all).imp fun both => (equals_numberOrWord both.1).mp both.2,
      fun all => (nodup.and all).imp fun both => (equals_numberOrWord both.1).mpr both.2⟩

theorem Drawing.switchCases_differ_words : ∃ ref last cases,
    (makeSpecial "route" ["1", "-1", "on"] 0 0).run {} = .ok ref last ∧ (last.box ref).errors = [] ∧
      last.switchCases? ref = some cases ∧ cases.Pairwise fun a b => a.equals b = false := by
  have ⟨cases, same, differ⟩ := switchCases_differ_iff (by decide)
    (show (makeSpecial "route" ["1", "-1", "on"] 0 0).run {} = .ok 0 _ from rfl) rfl
  exact ⟨_, _, cases, rfl, rfl, same, differ.mpr (by decide)⟩

/-- Two spellings of a number are accepted and make one case twice. -/
theorem Drawing.switchCases_spelled_twice : ∃ ref last a b,
    (makeSpecial "route" ["1", "1.0"] 0 0).run {} = .ok ref last ∧ (last.box ref).errors = [] ∧
      last.switchCases? ref = some [a, b] ∧ a.equals b = true :=
  ⟨_, _, _, _, rfl, rfl, rfl, by decide⟩

abbrev Binary64.AtMost (x y : Binary64) : Prop :=
  x.compare y = some .lt ∨ x.compare y = some .eq

def Record.DefaultInside (attributes : Record) : Prop :=
  ∃ min default max, attributes.get? "min" = some (.real min) ∧
    attributes.get? "default" = some (.real default) ∧ attributes.get? "max" = some (.real max) ∧
    min.AtMost default ∧ default.AtMost max

/-- Whether a raw parameter has its default in range, be it given or, where it is missing, half the
width of the range. -/
def RawParameter.DefaultInside (raw : RawParameter) : Prop :=
  (∃ given, raw.default = some given ∧ raw.min.AtMost given ∧ given.AtMost raw.max) ∨
    raw.default = none ∧ raw.min.AtMost raw.middle ∧ raw.middle.AtMost raw.max

theorem Record.defaultInside_iff {attributes : Record} {min default max : Binary64}
    (low : attributes.get? "min" = some (.real min))
    (value : attributes.get? "default" = some (.real default))
    (high : attributes.get? "max" = some (.real max)) :
    attributes.DefaultInside ↔ min.AtMost default ∧ default.AtMost max := by
  simp [DefaultInside, low, value, high]

theorem ParameterRange.defaultInside {range : ParameterRange} (accepted : range.errors = []) :
    range.toRecord.DefaultInside := by
  refine (Record.defaultInside_iff rfl rfl rfl).mpr ?_
  simpa [errors, Binary64.AtMost, Classical.or_iff_not_imp_left] using accepted

theorem RawParameter.defaultInside_update (raw : RawParameter) (range : ParameterRange) (b : Bool) :
    (Record.update (if b then range.toRecord else []) raw.toRecord).DefaultInside ↔
      raw.DefaultInside := by
  have inside : raw.DefaultInside ↔ raw.min.AtMost (raw.default.getD raw.middle) ∧
      (raw.default.getD raw.middle).AtMost raw.max := by
    cases eq : raw.default <;> simp [DefaultInside, eq]
  rw [inside]
  obtain ⟨min, max, default, _ | name⟩ := raw <;> cases b <;>
  exact Record.defaultInside_iff rfl rfl rfl

theorem Made.receive_default_iff {number : Nat} {type : String} {words : List String}
    {receiving : Receiving} (role : (receive number type words).role = .receive receiving)
    (accepted : (receive number type words).errors = [])
    (exported : receiving.exported = some "param") :
    receiving.attributes.DefaultInside ↔
      isRaw words = false ∨ ∃ raw, RawParameter.ofWords words = .ok raw ∧ raw.DefaultInside := by
  unfold receive at role accepted
  cases raw : isRaw words with
  | false =>
    simp only [raw, Bool.false_eq_true, if_false, plain, Role.receive.injEq] at role accepted
    subst role
    simp only [accepted, isEmpty_nil, if_true] at exported
    simp only [exported, beq_self_eq_true, if_true] at accepted ⊢
    exact ⟨fun _ => .inl trivial, fun _ => ParameterRange.defaultInside accepted⟩
  | true =>
    cases read : RawParameter.ofWords words with
    | error fault => simp [raw, read] at accepted
    | ok parameter =>
      simp only [raw, read, if_true, plain, Role.receive.injEq] at role
      subst role
      rw [parameter.defaultInside_update]
      simp

/-- The default of an exported parameter is in its range if there are no raw annotations; with them
it is what they say. -/
theorem Drawing.default_inside_iff {type : String} {words : List String} {x y : Int}
    {patch last : Patch} {ref : Ref} {receiving : Receiving} (kind : type ∈ ["r", "receive"])
    (made : (makeSpecial type words x y).run patch = .ok ref last)
    (role : (last.box ref).role = .receive receiving) (accepted : (last.box ref).errors = [])
    (exported : receiving.exported = some "param") :
    receiving.attributes.DefaultInside ↔
      isRaw words = false ∨ ∃ raw, RawParameter.ofWords words = .ok raw ∧ raw.DefaultInside := by
  simp only [mem_cons, not_mem_nil, or_false] at kind
  have inserted : (insertMade type (.receive (patch.receivers + 1) type words) x y).run
      { patch with receivers := patch.receivers + 1 } = .ok ref last := by
    rcases kind with rfl | rfl <;> exact made
  rw [box_insertMade inserted] at role accepted
  exact Made.receive_default_iff role accepted exported

theorem Drawing.default_inside_given : ∃ ref last receiving,
    (makeSpecial "r" ["x", "@raw", "p", "10", "20", "12"] 0 0).run {} = .ok ref last ∧
      (last.box ref).role = .receive receiving ∧ receiving.attributes.DefaultInside := by
  have inside := default_inside_iff (by decide)
    (show (makeSpecial "r" ["x", "@raw", "p", "10", "20", "12"] 0 0).run {} = .ok 0 _ from rfl)
    rfl rfl rfl
  exact ⟨_, _, _, rfl, rfl, inside.mpr (.inr ⟨_, rfl, .inl ⟨_, rfl, by decide⟩⟩)⟩

/-- Without a default, a range that begins above its half has its default below the range. -/
theorem Drawing.default_below_range : ∃ ref last receiving,
    (makeSpecial "r" ["x", "@raw", "p", "10", "20"] 0 0).run {} = .ok ref last ∧
      (last.box ref).role = .receive receiving ∧ (last.box ref).errors = [] ∧
      receiving.exported = some "param" ∧ ¬receiving.attributes.DefaultInside := by
  refine ⟨_, _, _, rfl, rfl, rfl, rfl, fun inside => ?_⟩
  have := (Record.defaultInside_iff rfl rfl rfl).mp inside
  revert this
  decide

end PatchCompiler
