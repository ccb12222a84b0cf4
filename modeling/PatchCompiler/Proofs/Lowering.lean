import PatchCompiler.Proofs.Replacement
import PatchCompiler.Proofs.Turns

/-!
# The turn of an operator

What an operator on signals gives way to depends on which of its lets have wires and on its
constant: to its low-level form, to an object that negates, to an adder, or to nothing if its signal
passes through. Each time what is left of the signals stays as it was.
-/

namespace PatchCompiler

/-- An operator on signals of the graph language with a constant. -/
structure Node.IsOperator (node : Node) (op : Operator) (constant : Value) : Prop where
  kind : node.kind = .binary
  type : node.type = op.symbol
  inlets : node.inlets.length = 2
  outlets : node.outlets.length = 1
  argument : node.arguments.get? "k" = some constant
  exact : constant.IsExact node.number

def letter (wires : List Wire) : String :=
  if wires.isEmpty then "_" else "f"

theorem wireTypes_of_float {ws : List Wire} (floats : ∀ w ∈ ws, w.type = .float)
    (some : ws ≠ []) : wireTypes ws = [.float] := by
  have go : ∀ rest : List Wire, (∀ w ∈ rest, w.type = .float) → rest.foldl (fun types w =>
        if types.contains w.type then types else types ++ [w.type]) [.float] = [.float] := by
    intro rest
    induction rest with
    | nil => exact fun _ => rfl
    | cons w rest ih =>
      intro floats
      rw [List.foldl_cons, floats w List.mem_cons_self]
      exact ih (List.forall_mem_cons.mp floats).2
  cases ws with
  | nil => exact absurd rfl some
  | cons w rest =>
    rw [wireTypes, List.foldl_cons, floats w List.mem_cons_self]
    exact go rest (List.forall_mem_cons.mp floats).2

namespace Build

open Net

variable {net : Net} {g o : Ref} {op : Operator} {constant : Value}

theorem letFormat_of_float {ws : List Wire} (floats : ∀ w ∈ ws, w.type = .float) :
    letFormat ws = pure (letter ws) := by
  cases ws with
  | nil => rfl
  | cons w rest =>
    unfold letFormat
    rw [wireTypes_of_float floats (by simp)]
    rfl

theorem run_inletFormat {left right : List Wire} (lets : (net.node o).inlets = [left, right])
    (leftFloats : ∀ w ∈ left, w.type = .float) (rightFloats : ∀ w ∈ right, w.type = .float) :
    (inletFormat o).run net = .ok (letter left ++ letter right) net := by
  simp [inletFormat, formatOf, lets, letFormat_of_float leftFloats,
    letFormat_of_float rightFloats, String.join]

theorem run_outletFormat {leaving : List Wire} (lets : (net.node o).outlets = [leaving])
    (floats : ∀ w ∈ leaving, w.type = .float) :
    (outletFormat o).run net = .ok (letter leaving) net := by
  simp [outletFormat, formatOf, lets, letFormat_of_float floats, String.join]

section Binary

variable {left right leaving : List Wire}
  (isOperator : (net.node o).IsOperator op constant)
  (inlets : (net.node o).inlets = [left, right])
  (outlets : (net.node o).outlets = [leaving])
  (leftFloats : ∀ w ∈ left, w.type = .float)
  (rightFloats : ∀ w ∈ right, w.type = .float)
  (leavingFloats : ∀ w ∈ leaving, w.type = .float)
include isOperator inlets outlets leftFloats rightFloats leavingFloats

theorem ends_reduceBinary {post : Reduction → Net → Prop}
    (starved : left = [] → post .gone net) (idle : leaving = [] → post .gone net)
    (both : left ≠ [] → right ≠ [] → leaving ≠ [] → Ends (loweredBare o op.form) net post)
    (fixed : left ≠ [] → right = [] → leaving ≠ [] →
      Ends (reduceConstantSignal o op.symbol op.form) net post) :
    Ends (reduceBinary o) net post := by
  have format := run_inletFormat inlets leftFloats rightFloats
  have sent := run_outletFormat outlets leavingFloats
  have formed : formWith "~f" (formsOf binaryForms op.symbol) = pure op.form := by
    cases op <;> rfl
  apply Ends.at_node
  rw [isOperator.type]
  apply Ends.bind_run format
  by_cases noLeft : left = []
  · subst noLeft
    have gone : ["__", "_c", "_f"].contains (letter [] ++ letter right) = true := by
      cases right <;> rfl
    rw [if_pos gone]
    exact .pure (starved rfl)
  · have stays : ["__", "_c", "_f"].contains (letter left ++ letter right) = false := by
      cases left with
      | nil => exact absurd rfl noLeft
      | cons w rest => cases right <;> rfl
    rw [stays]
    apply Ends.bind_run sent
    by_cases noLeaving : leaving = []
    · subst noLeaving
      exact .pure (idle rfl)
    · have sends : (letter leaving == "_") = false := by
        cases leaving with
        | nil => exact absurd rfl noLeaving
        | cons w rest => rfl
      rw [sends]
      have formRun : (formWith "~f" (formsOf binaryForms op.symbol)).run net =
          .ok op.form net := by
        rw [formed]
        rfl
      cases left with
      | nil => exact absurd rfl noLeft
      | cons w rest =>
        cases right with
        | nil => exact .bind_run formRun (fixed noLeft rfl noLeaving)
        | cons y ys => exact .bind_run formRun (both noLeft (by simp) noLeaving)

end Binary

end Build

open List Multiset

namespace Build

open Net

def movedTo (main : Ref) (entry : Wire × Nat) : Wire × Wire :=
  (entry.1, { entry.1 with target := main, inlet := entry.2 })

def movedFrom (main : Ref) (wire : Wire) : Wire × Wire :=
  (wire, { wire with source := main, outlet := 0 })

/-- The moves by which an object with one outlet takes over the wires of another. -/
def takeover (main : Ref) (es : List (Wire × Nat)) (leaving extra : List Wire) : List Move :=
  (es.map (movedTo main)).map moved ++ (leaving.map (movedFrom main)).map moved ++ extra.map plugged

def taken (main : Ref) (es : List (Wire × Nat)) (extra : List Wire) : Multiset Wire :=
  extra + ↑((es.map (movedTo main)).map Prod.snd)

section Main

variable {net made last : Net} {g o main : Ref} {ws : Multiset Wire}
  {os : List Ref} {es : List (Wire × Nat)} {leaving extra : List Wire}

theorem mem_taken {w : Wire} :
    w ∈ taken main es extra ↔ w ∈ extra ∨ ∃ e ∈ es, (movedTo main e).2 = w := by
  simp [taken]

theorem mem_of_entering
    (entering : (↑(es.map Prod.fst) : Multiset Wire) = ws.filter fun w => w.target = o) :
    ∀ e ∈ es, e.1 ∈ ws ∧ e.1.target = o := by
  intro e mem
  have there : e.1 ∈ ws.filter fun w => w.target = o := by
    rw [← entering]
    exact mem_map_of_mem mem
  exact mem_filter.mp there

theorem ends_takeover (full : Stocked net g ws os made) (site : net.Site g ws)
    (isIn : o ∈ net.contents g) (mute : isMailbox (net.node o).type = false)
    (floats : ∀ w ∈ ws, w.type = .float) (welcome : ∀ y ∈ os, made.Welcome y)
    (plain : ∀ y ∈ os, (made.node y).kind = .plain) (new : main ∈ os)
    (entering : (↑(es.map Prod.fst) : Multiset Wire) = ws.filter fun w => w.target = o)
    (leavingEq : (leaving : Multiset Wire) = ws.filter fun w => w.source = o)
    (ins : ∀ e ∈ es, e.2 < (made.node main).inlets.length)
    (outlets : 0 < (made.node main).outlets.length)
    (plugs : ∀ w ∈ extra, w.type = .float ∧ w.source ≠ main ∧ w.target = main ∧
      ∀ s, Docks made os s w) : Ends (applyReduction g o ⟨os, takeover main es leaving extra⟩) made
      fun _ last => Turn net g o ws os (taken main es extra) (leaving.map (movedFrom main)) last ∧
        ∀ ref ∈ os, (last.node ref).bare = ((made.node ref).inGraph g).bare := by
  have enteringWires := mem_of_entering entering
  have leavingWires : ∀ w ∈ leaving, w ∈ ws ∧ w.source = o := by
    intro w inE
    rw [← mem_coe, leavingEq] at inE
    exact mem_filter.mp inE
  refine .mono (ends_swap full site isIn mute welcome ⟨?_, ?_⟩ ⟨?_, ?_⟩ ?_ ?_ ?_) ?_
  · rw [List.map_map]
    exact entering
  · exact forall_mem_map.mpr fun _ _ => ⟨rfl, rfl⟩
  · rw [List.map_map]
    exact (congrArg _ (map_id leaving)).trans leavingEq
  · exact forall_mem_map.mpr fun _ _ => ⟨rfl, rfl⟩
  · exact forall_mem_map.mpr fun e inEntries => ⟨new, e.2, ins e inEntries, rfl⟩
  · exact forall_mem_map.mpr fun _ _ => ⟨new, 0, outlets, rfl⟩
  · intro w inExtra
    obtain ⟨-, sep, tgt, docks⟩ := plugs w inExtra
    exact ⟨fun eq => sep (eq.trans tgt), docks⟩
  rintro _ last ⟨swapped, bare⟩
  refine ⟨⟨swapped, forall_mem_map.mpr leavingWires, ?_, ?_, ?_, ?_⟩, bare⟩
  · intro w nw
    rw [mem_add, mem_taken, mem_coe, List.map_map, List.mem_map] at nw
    obtain (plug | ⟨e, inEntries, rfl⟩) | ⟨old, inE, rfl⟩ := nw
    · exact (plugs w plug).1
    · exact floats e.1 (enteringWires e inEntries).1
    · exact floats old (leavingWires old inE).1
  · intro w nw
    rw [mem_add, mem_taken, mem_coe, List.map_map, List.mem_map] at nw
    obtain (plug | ⟨e, inEntries, rfl⟩) | ⟨old, -, rfl⟩ := nw
    · exact .inl ((plugs w plug).2.2.2 .outlet).mem
    · obtain ⟨inWs, tgt⟩ := enteringWires e inEntries
      exact .inr ⟨e.1, inWs, tgt, rfl⟩
    · exact .inl new
  · -- only extra wires start at a new object, and that is not the one which wires enter
    have targets : ∀ y ∈ taken main es extra, y.target = main := by
      intro y there
      obtain plug | ⟨e, -, rfl⟩ := mem_taken.mp there
      · exact (plugs y plug).2.2.1
      · rfl
    intro w inI src y there
    rw [targets y there]
    obtain plug | ⟨e, inEntries, rfl⟩ := mem_taken.mp inI
    · exact (plugs w plug).2.1.symm
    · have old := site.within _ ((site.fits e.1 (enteringWires e inEntries).1).mem .outlet)
      exact absurd old (Nat.not_lt_of_le (full.fresh _ src).1)
  · intro ref nw
    rw [Node.look_of_bare (bare ref nw) Node.kind rfl]
    exact plain ref nw

theorem Turn.inflow_main {v worth : Ref → Int → ℚ} (step : Turn net g o ws os (taken main es extra)
      (leaving.map (movedFrom main)) last) (strung : net.Strung g ws) (new : main ∈ os)
    (entering : ∀ e ∈ es, e.1 ∈ ws) (place : Nat) : last.inflow (amended os worth v) main place =
      ((extra.filter fun w => w.At .inlet main place).map
        fun w => amended os worth v w.source w.outlet).sum + ((es.filter fun e => e.2 = place).map
        fun e => v e.1.source e.1.outlet).sum := by
  have inLast : main ∈ last.contents g := by
    rw [step.contents]
    exact mem_append_right _ new
  rw [step.site.toStrung.inflow_eq inLast, step.filter_at_new strung new, taken,
    filter_add, map_add, sum_add, filter_coe, filter_coe, map_coe, map_coe, sum_coe, sum_coe,
    List.map_map, List.filter_map, List.map_map]
  have sameAt : es.filter ((fun w => decide (w.At .inlet main place)) ∘
      (Prod.snd ∘ movedTo main)) = es.filter fun e => e.2 = place := by
    apply List.filter_congr
    intro e _
    apply decide_eq_decide.mpr
    exact ⟨fun isAt => Int.ofNat.inj isAt.2, fun eq => ⟨rfl, congrArg Int.ofNat eq⟩⟩
  rw [sameAt]
  congr 2
  apply map_congr_left
  intro e inFilter
  have old := strung.within _
    ((strung.fits e.1 (entering e (mem_of_mem_filter inFilter))).mem .outlet)
  have notNew : e.1.source ∉ os := fun nw =>
    (step.fresh _ nw).not_gt old
  exact congrFun (amended_of_notMem notNew) _

end Main

end Build

namespace Node

variable {node y : Node} {op : Operator} {constant : Value}

theorem IsOperator.of_bare (isOp : y.IsOperator op constant)
    (eq : node.bare = y.bare) : node.IsOperator op constant where
  kind := (look_of_bare eq Node.kind rfl).trans isOp.kind
  type := (look_of_bare eq Node.type rfl).trans isOp.type
  inlets := (look_of_bare eq (fun node => node.inlets.length)
    (funext (length_lets_unwired .inlet))).trans isOp.inlets
  outlets := (look_of_bare eq (fun node => node.outlets.length)
    (funext (length_lets_unwired .outlet))).trans isOp.outlets
  argument := (look_of_bare eq (fun node => node.arguments.get? "k") rfl).trans isOp.argument
  exact := by
    rw [look_of_bare eq number rfl]
    exact isOp.exact

section

variable (isOp : node.IsOperator op constant)
include isOp

theorem IsOperator.output_eq (inputs : Int → ℚ) (out : Int) (left right : ℚ) (isWired : Bool) :
    node.output inputs out left right isWired =
      op.apply left (if isWired then right else node.number) := by
  rw [output, isOp.kind, isOp.type, Operator.ofSymbol?_symbol]

theorem IsOperator.fate_eq (turn : Nat)
    (left right : List (Option Nat)) : node.fate turn left right =
      if left.isEmpty then some turn
      else if !right.isEmpty then none
      else if op = .mul ∧ node.number = 0 then some turn
      else if node.number = op.neutral then sole left
      else none := by
  rw [fate, isOp.kind, isOp.type, Operator.ofSymbol?_symbol]

theorem IsOperator.taps_eq (c : Int) : node.taps c = [] := by
  rw [taps, isOp.kind]

theorem IsOperator.silent : Build.isMailbox node.type = false := by
  rw [isOp.type]
  cases op <;> rfl

end

theorem output_entered {made : Node} {g : Ref} (eq : node.bare = (made.inGraph g).bare)
    (inputs : Int → ℚ) (out : Int) (left right : ℚ) (isWired : Bool) :
    node.output inputs out left right isWired = made.output inputs out left right isWired :=
  look_of_bare eq (fun node => node.output inputs out left right isWired) rfl

theorem taps_entered {made : Node} {g : Ref} (eq : node.bare = (made.inGraph g).bare)
    (channel : Int) : node.taps channel = made.taps channel :=
  look_of_bare eq (fun node => node.taps channel) rfl

theorem taps_plain {type : String} {args : Record} {ins outlets ident : Nat}
    (c : Int) : (plain type args ins outlets ident).taps c = [] := by
  have quiet : List.replicate outlets Buffer.zero ≠ [⟨.output, c - 1⟩] := by
    intro eq
    have mem : (⟨.output, c - 1⟩ : Buffer) ∈ List.replicate outlets Buffer.zero := by
      rw [eq]
      exact List.mem_singleton_self _
    have zero := (List.mem_replicate.mp mem).2
    cases zero
  exact if_neg quiet

end Node

namespace Net

open Build

variable {net cur last : Net} {g o main : Ref} {ws now inner : Multiset Wire}
  {inputs : Int → ℚ} {turn : Nat} {new os : List Ref} {outs : List (Wire × Wire)}
  {fate : Ref → Option Nat} {v worth : Ref → Int → ℚ} {leaving : List Wire}

theorem Relays.of_gone (harmless : net.loss (net.contents g) o = some turn ∨
      now.filter (fun w => w.source = o) = 0) (quiet : ∀ c, (cur.node o).taps c = []) :
    net.Relays g inputs turn cur now fate v o [] [] last worth where
  solved := nofun
  kept := by
    intro stays
    refine ⟨?_, nofun⟩
    rw [harmless.resolve_left stays]
    rfl
  lost := fun _ => rfl
  tapped := by
    intro c
    rw [quiet c]
    rfl

theorem Relays.of_main (lasts : net.loss (net.contents g) o = none) (nw : main ∈ os)
    (leavingEq : (leaving : Multiset Wire) = now.filter fun w => w.source = o)
    (solved : ∀ ref ∈ os, worth ref = last.evaluate inputs (amended os worth v) ref)
    (eq : ∀ out, worth main 0 = net.remainder inputs (net.contents g) o out)
    (quiet : ∀ c, (cur.node o).taps c = [])
    (quietNew : ∀ ref ∈ os, ∀ c, (last.node ref).taps c = []) :
    net.Relays g inputs turn cur now fate v o os (leaving.map (movedFrom main)) last worth where
  solved := solved
  kept := by
    intro _
    refine ⟨?_, ?_⟩
    · rw [List.map_map]
      exact (congrArg _ (map_id leaving)).trans leavingEq
    · exact forall_mem_map.mpr fun w _ => ⟨(amended_of_mem nw).trans lasts.symm,
        (congrFun (amended_of_mem nw) 0).trans (eq w.outlet)⟩
  lost := by
    intro lost
    rw [lasts] at lost
    cases lost
  tapped := by
    intro c
    rw [quiet c]
    refine sum_eq_zero ?_
    intro x mem
    obtain ⟨ref, nw, rfl⟩ := mem_map.mp mem
    rw [quietNew ref nw c]
    rfl

end Net

end PatchCompiler
