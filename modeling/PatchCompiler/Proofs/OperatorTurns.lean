import PatchCompiler.Proofs.Lowering

/-!
# What an operator gives way to

The cases of reducing an operator on signals: both operands are signals, the constant makes it an
identity, a multiplication by zero or by minus one, or neither of these. In every case what is left
of the signals stays as it was.
-/

namespace PatchCompiler

open List

variable {w : Wire} {constant : Value} {x : Binary64} {op : Operator}

namespace Net

/-- The wires of an object with two inlets and one outlet. -/
structure Lets (net : Net) (g o : Ref) (ws : Multiset Wire)
    (left right leaving : List Wire) : Prop where
  strung : net.Strung g ws
  inside : o ∈ net.contents g
  inlets : (net.node o).inlets = [left, right]
  outlets : (net.node o).outlets = [leaving]

namespace Lets

variable {net : Net} {g o : Ref} {ws : Multiset Wire} {left right leaving : List Wire}
  (lets : net.Lets g o ws left right leaving)
include lets

theorem held_left : net.held .inlet o 0 = left := by
  change (net.node o).inlets.getD 0 [] = left
  rw [lets.inlets]
  rfl

theorem held_right : net.held .inlet o 1 = right := by
  change (net.node o).inlets.getD 1 [] = right
  rw [lets.inlets]
  rfl

theorem of_left (mem : w ∈ left) : w ∈ ws ∧ w.target = o ∧ w.inlet = 0 := by
  rw [← lets.held_left, ← Multiset.mem_coe, lets.strung.holds .inlet o lets.inside] at mem
  exact Multiset.mem_filter.mp mem

theorem of_right (mem : w ∈ right) : w ∈ ws ∧ w.target = o ∧ w.inlet = 1 := by
  rw [← lets.held_right, ← Multiset.mem_coe, lets.strung.holds .inlet o lets.inside] at mem
  exact Multiset.mem_filter.mp mem

theorem entering : (↑(left ++ right) : Multiset Wire) = ws.filter fun w => w.target = o := by
  have flat := lets.strung.coe_flatten lets.inside .inlet
  change ((net.node o).inlets.flatten : Multiset Wire) = _ at flat
  rw [lets.inlets, flatten_cons, flatten_cons, flatten_nil, append_nil] at flat
  exact flat

theorem leaving_eq : (leaving : Multiset Wire) = ws.filter fun w => w.source = o := by
  have flat := lets.strung.coe_flatten lets.inside .outlet
  change ((net.node o).outlets.flatten : Multiset Wire) = _ at flat
  rw [lets.outlets, flatten_cons, flatten_nil, append_nil] at flat
  exact flat

theorem of_leaving (mem : w ∈ leaving) : w ∈ ws ∧ w.source = o ∧ w.outlet = 0 := by
  have held : net.held .outlet o 0 = leaving := by
    change (net.node o).outlets.getD 0 [] = leaving
    rw [lets.outlets]
    rfl
  rw [← held, ← Multiset.mem_coe, lets.strung.holds .outlet o lets.inside] at mem
  exact Multiset.mem_filter.mp mem

theorem inflow_left (v : Ref → Int → ℚ) :
    net.inflow v o 0 = (left.map fun w => v w.source w.outlet).sum := by
  rw [inflow, lets.held_left]

theorem inflow_right (v : Ref → Int → ℚ) :
    net.inflow v o 1 = (right.map fun w => v w.source w.outlet).sum := by
  rw [inflow, lets.held_right]

end Lets

end Net

namespace Build

open Net

/-- The wires of an object with two inlets, each with the place of its inlet. -/
def entriesOf (left right : List Wire) : List (Wire × Nat) :=
  left.map (·, 0) ++ right.map (·, 1)

theorem filter_entriesOf_zero (left right : List Wire) :
    (entriesOf left right).filter (fun e => e.2 = 0) = left.map (·, 0) := by
  simp [entriesOf, filter_map, Function.comp_def]

theorem filter_entriesOf_one (left right : List Wire) :
    (entriesOf left right).filter (fun e => e.2 = 1) = right.map (·, 1) := by
  simp [entriesOf, filter_map, Function.comp_def]

theorem lt_two_of_mem_entriesOf {e : Wire × Nat} {left right : List Wire}
    (mem : e ∈ entriesOf left right) : e.2 < 2 := by
  rcases mem_append.mp mem with inLeft | inRight
  · obtain ⟨w, -, rfl⟩ := mem_map.mp inLeft
    exact Nat.zero_lt_two
  · obtain ⟨w, -, rfl⟩ := mem_map.mp inRight
    exact Nat.one_lt_two

theorem map_fst_entriesOf (left right : List Wire) :
    (entriesOf left right).map Prod.fst = left ++ right := by
  simp [entriesOf, Function.comp_def]

section Moves

variable {net : Net} {g o : Ref} {ws : Multiset Wire} {left right leaving : List Wire}

theorem takeover_of_lets (lets : net.Lets g o ws left right leaving) (main : Ref) :
    (net.node o).incoming.map (moveTo main) ++ (net.node o).outgoing.map (moveFrom main) =
      takeover main (entriesOf left right) leaving [] := by
  have intoLeft : left.map (moveTo main) =
      left.map (moved ∘ movedTo main ∘ fun w => (w, 0)) := by
    apply map_congr_left
    intro w mem
    simp [moveTo, moved, movedTo, ← (lets.of_left mem).2.2]
  have intoRight : right.map (moveTo main) =
      right.map (moved ∘ movedTo main ∘ fun w => (w, 1)) := by
    apply map_congr_left
    intro w mem
    simp [moveTo, moved, movedTo, ← (lets.of_right mem).2.2]
  have out : leaving.map (moveFrom main) = leaving.map (moved ∘ movedFrom main) := by
    apply map_congr_left
    intro w mem
    simp [moveFrom, moved, movedFrom, ← (lets.of_leaving mem).2.2]
  simp only [Node.incoming, Node.outgoing, lets.inlets, lets.outlets, takeover, entriesOf,
    flatten_cons, flatten_nil, append_nil, map_append, map_map, map_nil, intoLeft, intoRight, out]

theorem run_moveAll {made : Net} (lets : net.Lets g o ws left right leaving)
    (old : made.node o = net.node o) (main : Ref) : (moveAll o main).run made =
      .ok (takeover main (entriesOf left right) leaving []) made := by
  rw [← takeover_of_lets lets main, ← old]
  rfl

theorem run_loweredBare {type : String} {node : Node} (lets : net.Lets g o ws left right leaving)
    (make : (makePlain type []).run net = .ok net.size (net.push node)) :
    (loweredBare o type).run net =
      .ok ⟨[net.size], takeover net.size (entriesOf left right) leaving []⟩ (net.push node) := by
  have old : (net.push node).node o = net.node o :=
    node_push_of_lt (lets.strung.within o lets.inside)
  simp only [loweredBare, replacedBy, EStateM.run_bind, make, run_moveAll lets old]
  rfl

end Moves

section Forms

theorem run_makePlain_form (op : Operator) (net : Net) : (makePlain op.form []).run net =
      .ok net.size (net.push (.plain op.form [] 2 1 net.size)) := by
  cases op <;> exact run_makePlain rfl rfl rfl rfl net

theorem form_mem_quietTypes (op : Operator) : op.form ∈ quietTypes := by
  cases op <;> decide

theorem output_form (op : Operator) (args : Record) (ident : Nat)
    (inputs : Int → ℚ) (out : Int) (left right : ℚ) (isWired : Bool) :
    (Node.plain op.form args 2 1 ident).output inputs out left right isWired =
      op.apply left right := by
  cases op <;> rfl

def constantArguments (x : Binary64) : Record :=
  [("k", .real x), ("step", .int 0), ("reverse", .bool false)]

theorem settleArguments_constant (double : constant.toDouble = .ok x) :
    settleArguments "__var_k~f" true [⟨"k", .float, false, .int 0⟩, ⟨"step", .float, false, .int 0⟩,
      ⟨"reverse", .boolean, false, .bool false⟩] [("k", constant)] =
        (.ok (), constantArguments x) := by
  have converted : convertArgument .graph .float constant = .ok (.real x) := by
    simp [convertArgument, double]
  have arg : Record.get? [("k", constant)] "k" = some constant := rfl
  have setTo : Record.set [("k", constant)] "k" (.real x) = [("k", .real x)] := rfl
  simp only [settleArguments, arg, converted, setTo]
  rfl

theorem run_makePlain_constant (double : constant.toDouble = .ok x)
    (net : Net) : (makePlain "__var_k~f" [("k", constant)]).run net =
      .ok net.size (net.push (.plain "__var_k~f" (constantArguments x) 0 1 net.size)) := by
  exact run_makePlain rfl rfl rfl (settleArguments_constant double) net

theorem run_firstArgument {net : Net} {o : Ref} (isOperator : (net.node o).IsOperator op constant) :
    (firstArgument o).run net = .ok constant net := by
  have desc : ∃ spec first, Catalogue.languageSpec? op.symbol = some spec ∧
      at? spec.arguments 0 = some first ∧ first.name = "k" := by
    cases op <;> exact ⟨_, _, rfl, rfl, rfl⟩
  obtain ⟨spec, first, got, at0, name⟩ := desc
  have lookup : (languageSpec o).run net = .ok spec net := by
    simp [languageSpec, isOperator.type, got]
  have v : (argument o first.name).run net = .ok constant net := by
    rw [name]
    exact run_argument isOperator.argument
  simp only [firstArgument, EStateM.run_bind, lookup, run_fetch at0, v]

theorem isIdentity_iff {q : ℚ} (exact : constant.IsExact q) :
    isIdentity op.symbol constant = true ↔ q = op.neutral := by
  cases op with
  | add => exact (Value.equals_int_iff exact.1 0).trans (by simp [Operator.neutral])
  | sub => exact (Value.equals_int_iff exact.1 0).trans (by simp [Operator.neutral])
  | mul => exact (Value.equals_int_iff exact.1 1).trans (by simp [Operator.neutral])

theorem isMul_iff {q : ℚ} (exact : constant.IsExact q) (n : Int) :
    (op.symbol == "*" && constant.equals (.int n)) = true ↔
      op = .mul ∧ q = n := by
  rw [Bool.and_eq_true, Value.equals_int_iff exact.1]
  cases op <;> simp [Operator.symbol]

end Forms

/-- After a reduction has been put in its place, as much is left of the signals as before. -/
def Settles (net : Net) (g : Ref) (ws : Multiset Wire) (turn : Nat) (cur : Net)
    (now : Multiset Wire) (new : List Ref) (fate : Ref → Option Nat) (o : Ref)
    (reduction : Reduction) (made : Net) : Prop :=
  Ends (applyReduction g o reduction) made fun _ last =>
    net.Proceeds g ws turn cur now new fate o last

structure OperatorDue (net : Net) (g : Ref) (ws : Multiset Wire) (rank : Ref → Nat) (turn : Nat)
    (cur : Net) (now : Multiset Wire) (new : List Ref) (fate : Ref → Option Nat) (o : Ref)
    (op : Operator) (constant : Value) (left right leaving : List Wire) : Prop
    extends net.Due g ws rank turn cur now new fate o where
  isOperator : (net.node o).IsOperator op constant
  lets : cur.Lets g o now left right leaving
  valued : ∀ inputs, ∃ v, net.Valued g ws inputs turn cur now new fate v

namespace OperatorDue

variable {net cur : Net} {g o : Ref} {ws now : Multiset Wire} {turn : Nat}
  {new : List Ref} {fate : Ref → Option Nat} {op : Operator} {constant : Value}
  {left right leaving : List Wire} {rank : Ref → Nat}
  (due : OperatorDue net g ws rank turn cur now new fate o op constant left right leaving)
include due

section Signals

variable {inputs : Int → ℚ} {v : Ref → Int → ℚ}
  (valued : net.Valued g ws inputs turn cur now new fate v)
include valued

theorem loss_of_lets : net.loss (net.contents g) o =
    if left.isEmpty then some turn
    else if !right.isEmpty then none
    else if op = .mul ∧ (net.node o).number = 0 then some turn
    else if (net.node o).number = op.neutral then
      sole (left.map fun w => fate w.source)
    else none := by
  rw [valued.loss_now due.toDue, due.isOperator.fate_eq, due.lets.held_left,
    due.lets.held_right, isEmpty_map, isEmpty_map]

theorem remainder_of_lets (lasts : net.loss (net.contents g) o = none) (out : Int) :
    net.remainder inputs (net.contents g) o out =
      op.apply (left.map fun w => v w.source w.outlet).sum
        (if right.isEmpty then (net.node o).number
          else (right.map fun w => v w.source w.outlet).sum) := by
  rw [valued.remainder_now due.toDue, lasts, due.isOperator.output_eq,
    due.lets.inflow_left, due.lets.inflow_right, due.lets.held_right]
  cases right <;> rfl

end Signals

theorem current_isOperator : (cur.node o).IsOperator op constant :=
  due.isOperator.of_bare (due.looks o due.mem_drop)

theorem ends_turn_gone (harmless : net.loss (net.contents g) o = some turn ∨ leaving = []) :
    Settles net g ws turn cur now new fate o .gone cur := by
  have isHere := due.current_isOperator
  apply Ends.mono (ends_gone due.site due.lets.inside isHere.silent)
  intro _ last swapped
  refine ⟨[], 0, [], ⟨swapped, nofun, ?_, ?_, ?_, nofun⟩, ?_⟩
  · exact fun w none => absurd none (by simp)
  · exact fun w none => absurd none (by simp)
  · exact fun w none => absurd none (by simp)
  · intro inputs v _
    refine ⟨fun _ _ => 0, .of_gone (harmless.imp_right ?_) isHere.taps_eq⟩
    rintro rfl
    exact due.lets.leaving_eq.symm

theorem ends_turn_single {type : String} {es : List (Wire × Nat)} {n : Nat}
    (quiet : type ∈ quietTypes) (entering : (↑(es.map Prod.fst) : Multiset Wire) =
      now.filter fun w => w.target = o) (ins : ∀ e ∈ es, e.2 < n)
    (lasts : net.loss (net.contents g) o = none)
    (means : ∀ inputs v, net.Valued g ws inputs turn cur now new fate v →
      ∀ out j isWired, net.remainder inputs (net.contents g) o out =
        (Node.plain type [] n 1 cur.size).output inputs j ((es.filter fun e => e.2 = 0).map
            fun e => v e.1.source e.1.outlet).sum ((es.filter fun e => e.2 = 1).map
            fun e => v e.1.source e.1.outlet).sum isWired) :
    Settles net g ws turn cur now new fate o ⟨[cur.size], takeover cur.size es leaving []⟩
      (cur.push (.plain type [] n 1 cur.size)) := by
  have isHere := due.current_isOperator
  have full : Stocked cur g now [cur.size] (cur.push (.plain type [] n 1 cur.size)) :=
    (Stocked.none due.site).push rfl Node.plain_silent
  have made : (cur.push (.plain type [] n 1 cur.size)).node cur.size =
      .plain type [] n 1 cur.size := node_push_self
  have one : cur.size ∈ [cur.size] := mem_singleton_self _
  have members : ∀ e ∈ es, e.1 ∈ now := fun e mem => (mem_of_entering entering e mem).1
  apply Ends.mono (ends_takeover full due.site due.lets.inside isHere.silent due.floats
    ?_ ?_ one entering due.lets.leaving_eq ?_ ?_ fun _ none => absurd none not_mem_nil)
  · rintro _ last ⟨step, bare⟩
    refine ⟨[cur.size], _, _, step, ?_⟩
    intro inputs v valued
    have bareMain := bare cur.size one
    rw [made] at bareMain
    refine ⟨fun _ _ => net.remainder inputs (net.contents g) o 0,
      .of_main lasts one due.lets.leaving_eq ?_ ?_ isHere.taps_eq ?_⟩
    · refine forall_mem_singleton.mpr (funext fun out => ?_)
      rw [evaluate, Node.output_entered bareMain, step.inflow_main due.lets.strung one members,
        step.inflow_main due.lets.strung one members, filter_nil, filter_nil,
        map_nil, sum_nil, zero_add, zero_add]
      exact means inputs v valued 0 out _
    · intro out
      rw [means inputs v valued 0 0 true, means inputs v valued out 0 true]
    · refine forall_mem_singleton.mpr fun c => ?_
      rw [Node.taps_entered bareMain, Node.taps_plain]
  · exact forall_mem_singleton.mpr (.inl (by rw [made]; exact quiet))
  · exact forall_mem_singleton.mpr (by rw [made]; rfl)
  · rw [made]
    simpa [Node.plain] using ins
  · rw [made]
    exact Nat.zero_lt_one

theorem ends_turn_both (someLeft : left ≠ []) (someRight : right ≠ []) :
    Ends (loweredBare o op.form) cur (Settles net g ws turn cur now new fate o) := by
  have emptyLeft : left.isEmpty = false := isEmpty_eq_false_iff.mpr someLeft
  have emptyRight : right.isEmpty = false := isEmpty_eq_false_iff.mpr someRight
  have lasts : net.loss (net.contents g) o = none := by
    obtain ⟨v, val⟩ := due.valued fun _ => 0
    rw [due.loss_of_lets val, emptyLeft, emptyRight]
    rfl
  apply Ends.of_run (run_loweredBare due.lets (run_makePlain_form op cur))
  apply due.ends_turn_single (form_mem_quietTypes op) ?_ ?_ lasts
  · intro inputs v val out j isWired
    rw [due.remainder_of_lets val lasts,
      emptyRight, filter_entriesOf_zero, filter_entriesOf_one, map_map, map_map, output_form]
    rfl
  · rw [map_fst_entriesOf]
    exact due.lets.entering
  · exact fun e => lt_two_of_mem_entriesOf

section Constant

variable (someLeft : left ≠ []) (noRight : right = [])
include noRight

theorem remainder_of_constant (lasts : net.loss (net.contents g) o = none)
    {inputs : Int → ℚ} {v : Ref → Int → ℚ}
    (val : net.Valued g ws inputs turn cur now new fate v) (out : Int) :
    net.remainder inputs (net.contents g) o out =
      op.apply (left.map fun w => v w.source w.outlet).sum (net.node o).number := by
  rw [due.remainder_of_lets val lasts, noRight]
  rfl

include someLeft

theorem loss_of_constant : net.loss (net.contents g) o =
    if op = .mul ∧ (net.node o).number = 0 then some turn
    else if (net.node o).number = op.neutral then
      sole (left.map fun w => fate w.source)
    else none := by
  obtain ⟨v, val⟩ := due.valued fun _ => 0
  rw [due.loss_of_lets val, noRight, isEmpty_eq_false_iff.mpr someLeft]
  rfl

theorem loss_of_neutral (neutral : (net.node o).number = op.neutral) :
    net.loss (net.contents g) o = sole (left.map fun w => fate w.source) := by
  rw [due.loss_of_constant someLeft noRight, if_neg, if_pos neutral]
  rintro ⟨rfl, zero⟩
  rw [neutral] at zero
  exact one_ne_zero zero

theorem loss_of_ordinary (ne : (net.node o).number ≠ op.neutral)
    (notZero : ¬ (op = .mul ∧ (net.node o).number = 0)) : net.loss (net.contents g) o = none := by
  rw [due.loss_of_constant someLeft noRight, if_neg notZero, if_neg ne]

theorem ends_turn_pass (one : left = [w]) (some : leaving ≠ [])
    (neutral : (net.node o).number = op.neutral) : Settles net g ws turn cur now new fate o
      ⟨[], [(.some w, leaving.map (onward w))]⟩ cur := by
  have isHere := due.current_isOperator
  have inLeft : w ∈ left := by
    rw [one]
    exact mem_singleton_self _
  obtain ⟨inNow, tgt, -⟩ := due.lets.of_left inLeft
  obtain ⟨height, rises⟩ := due.rises
  have sep : ∀ y ∈ leaving, w.source ≠ y.target := by
    intro y inE same
    obtain ⟨otherNow, src, -⟩ := due.lets.of_leaving inE
    have pre := rises w inNow
    have after := rises y otherNow
    rw [tgt] at pre
    rw [src, ← same] at after
    omega
  have loss : net.loss (net.contents g) o = fate w.source := by
    rw [due.loss_of_neutral someLeft noRight neutral, one]
    rfl
  apply Ends.mono (ends_pass due.site due.lets.inside isHere.silent inNow tgt due.lets.leaving_eq
    some sep)
  intro _ last swapped
  refine ⟨[], 0, _, ⟨swapped, ?_, ?_, ?_, ?_, nofun⟩, ?_⟩
  · refine forall_mem_map.mpr fun y inE => ?_
    obtain ⟨otherNow, src, -⟩ := due.lets.of_leaving inE
    exact ⟨otherNow, src⟩
  · intro next inNext
    rw [Multiset.zero_add, Multiset.mem_coe, map_map] at inNext
    obtain ⟨y, -, rfl⟩ := mem_map.mp inNext
    exact due.floats w inNow
  · intro next inNext
    rw [Multiset.zero_add, Multiset.mem_coe, map_map] at inNext
    obtain ⟨y, -, rfl⟩ := mem_map.mp inNext
    exact .inr ⟨w, inNow, tgt, rfl⟩
  · exact fun next none => absurd none (Multiset.notMem_zero next)
  · intro inputs v val
    refine ⟨fun _ _ => 0, nofun, ?_, ?_, ?_⟩
    · intro _
      refine ⟨?_, ?_⟩
      · rw [map_map]
        exact (congrArg _ (map_id leaving)).trans due.lets.leaving_eq
      · refine forall_mem_map.mpr fun y _ => ⟨loss.symm, ?_⟩
        change v w.source w.outlet = _
        match eq : fate w.source with
        | none =>
          rw [due.remainder_of_constant noRight
            (loss.trans eq) val, neutral, Operator.apply_neutral, one, map_singleton, sum_singleton]
        | .some time =>
          -- what passes through has no value left, and neither has the operator
          have inC := (due.site.fits w inNow).mem .outlet
          change w.source ∈ _ at inC
          rw [due.contents, mem_append] at inC
          rcases inC with waits | isNew
          · have lost := (due.waiting _ waits).symm.trans eq
            rw [val.waiting _ waits,
              due.ranked.remainder_of_isSome due.strung (mem_of_mem_drop waits) (by rw [lost]; rfl),
              due.ranked.remainder_of_isSome due.strung
                (mem_of_mem_drop (due.mem_drop)) (by rw [loss, eq]; rfl)]
          · rw [due.lasting _ isNew] at eq
            cases eq
    · intro lost
      rw [loss] at lost
      have src := (due.fate_eq_some inNow lost).2 rfl
      exact absurd (src.trans tgt.symm) (due.site.fits w inNow).apart
    · intro c
      rw [isHere.taps_eq]
      rfl

/-- Several signals of an operator that leaves their sum as it is are added. -/
theorem ends_turn_adder {first : Wire} {rest : List Wire} (split : left = first :: rest)
    (several : rest ≠ []) (neutral : (net.node o).number = op.neutral) :
    Settles net g ws turn cur now new fate o
      ⟨[cur.size], takeover cur.size ((first, 0) :: rest.map (·, 1)) leaving []⟩
      (cur.push (.plain "__add~f" [] 2 1 cur.size)) := by
  have lasts : net.loss (net.contents g) o = none := by
    rw [due.loss_of_neutral someLeft noRight neutral, split]
    cases rest with
    | nil => exact absurd rfl several
    | cons snd ys => rfl
  apply due.ends_turn_single (form_mem_quietTypes .add) ?_ ?_ lasts
  · intro inputs v val out j isWired
    rw [due.remainder_of_constant noRight lasts val, neutral, Operator.apply_neutral]
    rw [output_form]
    simp [split, Operator.apply, filter_map, Function.comp_def]
  · have entering := due.lets.entering
    rw [split, noRight, append_nil] at entering
    simpa [Function.comp_def] using entering
  · intro e mem
    rcases mem_cons.mp mem with rfl | inRest
    · exact Nat.zero_lt_two
    · obtain ⟨w, -, rfl⟩ := mem_map.mp inRest
      exact Nat.one_lt_two

theorem ends_turn_negation (isMul : op = .mul) (minus : (net.node o).number = -1) :
    Ends (loweredBare o "__neg~f") cur
      (Settles net g ws turn cur now new fate o) := by
  subst isMul
  have lasts := due.loss_of_ordinary someLeft
    noRight (by rw [minus]; exact (by decide : (-1 : ℚ) ≠ 1))
    (by rw [minus]; exact fun zero => absurd zero.2 (by decide))
  apply Ends.of_run (run_loweredBare due.lets (run_makePlain rfl rfl rfl rfl cur))
  apply due.ends_turn_single (by decide) ?_ ?_ lasts
  · intro inputs v val out j isWired
    rw [due.remainder_of_constant noRight lasts val, minus, filter_entriesOf_zero, map_map]
    exact mul_neg_one _
  · rw [map_fst_entriesOf]
    exact due.lets.entering
  · intro e mem
    rw [noRight, entriesOf, map_nil, append_nil] at mem
    obtain ⟨w, -, rfl⟩ := mem_map.mp mem
    exact Nat.zero_lt_one

/-- An operator with any other constant gives way to its low-level form and an object that sends
the constant. -/
theorem ends_turn_generator (ne : (net.node o).number ≠ op.neutral)
    (notZero : ¬ (op = .mul ∧ (net.node o).number = 0))
    (means : x.rational? = some (net.node o).number) : Settles net g ws turn cur now new fate o
      ⟨[cur.size, cur.size + 1], takeover cur.size (entriesOf left right) leaving
        [⟨cur.size + 1, 0, cur.size, 1, .float⟩]⟩ ((cur.push (.plain op.form [] 2 1 cur.size)).push
        (.plain "__var_k~f" (constantArguments x) 0 1 (cur.size + 1))) := by
  have isHere := due.current_isOperator
  have lasts := due.loss_of_ordinary someLeft noRight ne notZero
  generalize pushed : cur.push (.plain op.form [] 2 1 cur.size) = middle
  have sizeMiddle : middle.size = cur.size + 1 := by rw [← pushed, size_push]
  have stockedFirst : Stocked cur g now [cur.size] middle := by
    rw [← pushed]
    exact (Stocked.none due.site).push rfl Node.plain_silent
  rw [← sizeMiddle]
  generalize made : middle.push (.plain "__var_k~f" (constantArguments x) 0 1 middle.size) = ready
  have full : Stocked cur g now [cur.size, middle.size] ready := by
    rw [← made]
    exact stockedFirst.push rfl Node.plain_silent
  have main : ready.node cur.size = .plain op.form [] 2 1 cur.size := by
    have lt : cur.size < middle.size := by omega
    rw [← made, node_push_of_lt lt, ← pushed, node_push_self]
  have feeder : ready.node middle.size = .plain "__var_k~f" (constantArguments x) 0 1 middle.size := by
    rw [← made, node_push_self]
  have mainNew : cur.size ∈ [cur.size, middle.size] := mem_cons_self
  have feederNew : middle.size ∈ [cur.size, middle.size] := mem_cons_of_mem _ (mem_singleton_self _)
  have sep : middle.size ≠ cur.size := by omega
  have entering : (((entriesOf left right).map Prod.fst : List Wire) : Multiset Wire) =
      now.filter fun w => w.target = o := by
    rw [map_fst_entriesOf]
    exact due.lets.entering
  have members : ∀ e ∈ entriesOf left right, e.1 ∈ now :=
    fun e mem => (mem_of_entering entering e mem).1
  apply Ends.mono (ends_takeover full due.site due.lets.inside isHere.silent due.floats
    ?_ ?_ mainNew entering due.lets.leaving_eq ?_ ?_ ?_)
  · rintro _ last ⟨step, bare⟩
    refine ⟨_, _, _, step, ?_⟩
    intro inputs v val
    have bareMain := bare cur.size mainNew
    have bareFeeder := bare middle.size feederNew
    rw [main] at bareMain
    rw [feeder] at bareFeeder
    have q : (Node.plain "__var_k~f" (constantArguments x) 0 1 middle.size).number =
        (net.node o).number := by
      change (x.rational?).getD 0 = _
      rw [means]
      rfl
    refine ⟨fun ref _ => if ref = middle.size then (net.node o).number
      else net.remainder inputs (net.contents g) o 0,
      .of_main lasts mainNew due.lets.leaving_eq ?_ ?_ isHere.taps_eq ?_⟩
    · refine forall_mem_cons.mpr ⟨funext fun outlet => ?_,
        forall_mem_singleton.mpr (funext fun outlet => ?_)⟩
      · rw [evaluate, Node.output_entered bareMain, output_form,
          step.inflow_main due.lets.strung mainNew members, step.inflow_main due.lets.strung mainNew members,
          filter_entriesOf_zero, filter_entriesOf_one, noRight, if_neg sep.symm,
          due.remainder_of_constant noRight lasts val]
        simp [Wire.At, Wire.object, Wire.index, amended, Function.comp_def]
      · rw [evaluate, Node.output_entered bareFeeder, if_pos rfl, ← q]
        rfl
    · intro outlet
      rw [if_neg sep.symm, due.remainder_of_constant noRight lasts val, due.remainder_of_constant noRight lasts val]
    · refine forall_mem_cons.mpr ⟨fun c => ?_, forall_mem_singleton.mpr fun c => ?_⟩
      · rw [Node.taps_entered bareMain, Node.taps_plain]
      · rw [Node.taps_entered bareFeeder, Node.taps_plain]
  · have quiet : "__var_k~f" ∈ quietTypes := by decide
    exact forall_mem_cons.mpr ⟨.inl (by rw [main]; exact form_mem_quietTypes op),
      forall_mem_singleton.mpr (.inl (by rw [feeder]; exact quiet))⟩
  · exact forall_mem_cons.mpr ⟨main ▸ rfl, forall_mem_singleton.mpr (feeder ▸ rfl)⟩
  · rw [main]
    exact fun e => lt_two_of_mem_entriesOf
  · rw [main]
    exact Nat.zero_lt_one
  · refine forall_mem_singleton.mpr ⟨rfl, sep, rfl, fun s => ?_⟩
    cases s with
    | inlet => exact ⟨mainNew, 1, main.symm ▸ Nat.one_lt_two, rfl⟩
    | outlet => exact ⟨feederNew, 0, feeder.symm ▸ Nat.zero_lt_one, rfl⟩

theorem ends_reduceIdentity (some : leaving ≠ []) (neutral : (net.node o).number = op.neutral) :
    Ends (reduceIdentity o) cur (Settles net g ws turn cur now new fate o) := by
  have arriving : at? (cur.node o).inlets 0 = .some left := by
    rw [due.lets.inlets]
    rfl
  have departing : at? (cur.node o).outlets 0 = .some leaving := by
    rw [due.lets.outlets]
    rfl
  apply Ends.at_node
  apply Ends.bind_run (run_fetch arriving _)
  apply Ends.at_node
  apply Ends.bind_run (run_fetch departing _)
  match cases : left with
  | [] => exact absurd rfl someLeft
  | [wire] =>
    exact .pure (due.ends_turn_pass someLeft noRight rfl some neutral)
  | first :: snd :: ys =>
    apply Ends.bind_run (run_makePlain_form .add cur)
    apply Ends.pure
    have settles := due.ends_turn_adder someLeft noRight rfl (cons_ne_nil _ _) neutral
    have moves : takeover cur.size ((first, 0) :: (snd :: ys).map (·, 1)) leaving [] =
        moveToInlet cur.size 0 first :: (snd :: ys).map (moveToInlet cur.size 1) ++
          leaving.map (moveFromOutlet cur.size 0) := by
      simp only [takeover, map_cons, map_map, map_nil, append_nil]
      rfl
    rw [moves] at settles
    exact settles

theorem ends_reduceConstantSignal (some : leaving ≠ []) :
    Ends (reduceConstantSignal o op.symbol op.form) cur
      (Settles net g ws turn cur now new fate o) := by
  have isHere := due.current_isOperator
  have isForm : ["+", "-", "*", "/"].contains op.symbol = true := by cases op <;> rfl
  unfold reduceConstantSignal
  simp only [isForm, if_true]
  apply Ends.bind_run (run_argument isHere.argument)
  by_cases neutral : (net.node o).number = op.neutral
  · rw [if_pos ((isIdentity_iff due.isOperator.exact).mpr neutral)]
    exact due.ends_reduceIdentity someLeft noRight some neutral
  · rw [if_neg (mt (isIdentity_iff due.isOperator.exact).mp neutral)]
    by_cases zero : op = .mul ∧ (net.node o).number = (0 : Int)
    · rw [if_pos ((isMul_iff due.isOperator.exact 0).mpr zero)]
      apply Ends.pure
      apply due.ends_turn_gone
      rw [due.loss_of_constant someLeft noRight, if_pos (by simpa using zero)]
      exact .inl rfl
    · rw [if_neg (mt (isMul_iff due.isOperator.exact 0).mp zero)]
      by_cases minus : op = .mul ∧ (net.node o).number = (-1 : Int)
      · rw [if_pos ((isMul_iff due.isOperator.exact (-1)).mpr minus)]
        exact due.ends_turn_negation someLeft noRight minus.1 (by simpa using minus.2)
      · rw [if_neg (mt (isMul_iff due.isOperator.exact (-1)).mp minus)]
        obtain ⟨-, x, double, means⟩ := due.isOperator.exact
        have lt : o < cur.size := due.lets.strung.within o due.lets.inside
        have oldFirst : (cur.push (.plain op.form [] 2 1 cur.size)).node o =
            cur.node o := node_push_of_lt lt
        have stillOperator : ((cur.push (.plain op.form [] 2 1 cur.size)).node o).IsOperator
              op constant := by
          rw [oldFirst]
          exact isHere
        apply Ends.bind_run (run_makePlain_form op cur)
        apply Ends.bind_run (run_firstArgument stillOperator)
        apply Ends.bind_run (run_makePlain_constant double _)
        rw [size_push]
        have old : ((cur.push (.plain op.form [] 2 1 cur.size)).push
            (.plain "__var_k~f" (constantArguments x) 0 1 (cur.size + 1))).node o =
            cur.node o := by
          have post : o < (cur.push (.plain op.form [] 2 1 cur.size)).size := by
            rw [size_push]
            exact Nat.lt_succ_of_lt lt
          rw [node_push_of_lt post, oldFirst]
        apply Ends.bind_run (run_moveAll due.lets old cur.size)
        apply Ends.pure
        have settles := due.ends_turn_generator someLeft noRight neutral (by simpa using zero) means
        have moves : takeover cur.size (entriesOf left right) leaving
            [⟨cur.size + 1, 0, cur.size, 1, .float⟩] =
            takeover cur.size (entriesOf left right) leaving [] ++
              [joined (cur.size + 1) cur.size 1 .float] := by
          simp [takeover, plugged, joined]
        rw [moves] at settles
        exact settles

end Constant

theorem ends_reduce_operator : Ends (reductionOf o) cur
      (Settles net g ws turn cur now new fate o) := by
  have isHere := due.current_isOperator
  apply Ends.at_node
  rw [isHere.kind]
  apply ends_reduceBinary isHere due.lets.inlets due.lets.outlets
  · exact fun w mem => due.floats w (due.lets.of_left mem).1
  · exact fun w mem => due.floats w (due.lets.of_right mem).1
  · exact fun w mem => due.floats w (due.lets.of_leaving mem).1
  · intro noLeft
    apply due.ends_turn_gone
    obtain ⟨v, val⟩ := due.valued fun _ => 0
    rw [due.loss_of_lets val, noLeft]
    exact .inl rfl
  · exact fun noLeaving => due.ends_turn_gone (.inr noLeaving)
  · exact fun someLeft someRight _ => due.ends_turn_both someLeft someRight
  · exact fun someLeft noRight someLeaving => due.ends_reduceConstantSignal someLeft noRight someLeaving

end OperatorDue

end Build

end PatchCompiler
