import PatchCompiler.Proofs.Arithmetic

/-!
# What is left of signal arithmetic

Objects are replaced in an order. An operator that has lost all signals on its left by its turn goes
away, and so does a multiplication by zero. The signals of such an object are lost from then on,
while an operator that passes on the only signal it still gets lives as long as that signal.
An operator that has lost all signals on its right by its turn works with its constant.

The values that are left this way are the remainder of the values the objects had.
-/

namespace PatchCompiler

open List

variable {n : Node} {turn : Nat} {first second v : Ref → Int → ℚ}

/-- Signals that are not lost before a turn. `none` is a signal that is never lost. -/
def stands (turn : Nat) (fate : Option Nat) : Bool :=
  fate.all (turn ≤ ·)

def sole : List (Option Nat) → Option Nat
  | [fate] => fate
  | _ => none

/-- The turn from which on the signals of an object are lost, given when those are that still arrive
at its turn. -/
def Node.fate (node : Node) (turn : Nat) (left right : List (Option Nat)) : Option Nat :=
  match node.kind, Operator.ofSymbol? node.type with
  | .binary, some operator =>
    if left.isEmpty then some turn
    else if !right.isEmpty then none
    else if operator = .mul ∧ node.number = 0 then some turn
    else if node.number = operator.neutral then sole left
    else none
  | _, _ => none

namespace Net

variable (net : Net) (g : Ref) (inputs : Int → ℚ) (order : List Ref)

/-- When the signals are lost that still arrive at an inlet at a turn. -/
def fates (fate : Ref → Option Nat) (turn : Nat) (o : Ref) (i : Nat) : List (Option Nat) :=
  ((net.held .inlet o i).map fun wire => fate wire.source).filter (stands turn)

def prune (fate : Ref → Option Nat) (o : Ref) : Option Nat :=
  (net.node o).fate (order.idxOf o) (net.fates fate (order.idxOf o) o 0)
    (net.fates fate (order.idxOf o) o 1)

/-- The turn from which on the signals of an object are lost. -/
def loss : Ref → Option Nat :=
  settle none (net.prune order) net.size

def salvage (fate : Ref → Option Nat) (value : Ref → Int → ℚ) (o : Ref) (outlet : Int) : ℚ :=
  if (fate o).isSome then 0
  else
    (net.node o).output inputs outlet (net.inflow value o 0) (net.inflow value o 1)
      !(net.fates fate (order.idxOf o) o 1).isEmpty

def remainder : Ref → Int → ℚ :=
  settle 0 (net.salvage inputs order (net.loss order)) net.size

/-- What is left of the signals for a channel, if the objects are replaced in the order in which
they are listed. -/
def remainingTotal (channel : Int) : ℚ :=
  net.delivered g (net.remainder inputs (net.contents g)) channel

end Net

section Settle

variable {α : Type} {base : α} (step : (Ref → α) → Ref → α) {os : List Ref}
  {feeds : Ref → Ref → Prop} {rank : Ref → Nat}
  (lower : ∀ o ∈ os, ∀ src, feeds src o → src ∈ os ∧ rank src < rank o)
  (near : ∀ first second o, o ∈ os → (∀ src, feeds src o → first src = second src) →
    step first o = step second o)
include lower near

/-- Values that depend on values of lower rank are worked out at any depth above the rank. -/
theorem settle_eq_step (d : Nat) : ∀ o ∈ os, rank o < d →
    settle base step d o = step (settle base step d) o := by
  induction d with
  | zero =>
    intro o _ lt
    omega
  | succ d ih =>
    intro o mem lt
    apply near _ _ o mem
    intro src feeding
    obtain ⟨there, less⟩ := lower o mem src feeding
    exact ih src there (by omega)

theorem settle_eq {solution : Ref → α} (solves : ∀ o ∈ os, solution o = step solution o) (d : Nat) :
    ∀ o ∈ os, rank o < d → settle base step d o = solution o := by
  induction d with
  | zero =>
    intro o _ lt
    omega
  | succ d ih =>
    intro o mem lt
    rw [solves o mem]
    apply near _ _ o mem
    intro src feeding
    obtain ⟨there, less⟩ := lower o mem src feeding
    exact ih src there (by omega)

end Settle

theorem sole_perm {first second : List (Option Nat)} (eq : first.Perm second) :
    sole first = sole second := by
  match first, second, eq.length_eq with
  | [], [], _ => rfl
  | [fate], [other], _ => rw [perm_singleton.mp eq]
  | _ :: _ :: _, _ :: _ :: _, _ => rfl

theorem Node.fate_perm {left right left' right' : List (Option Nat)}
    (sameLeft : left.Perm left') (sameRight : right.Perm right') :
    n.fate turn left right = n.fate turn left' right' := by
  unfold fate
  rw [sameLeft.isEmpty_eq, sameRight.isEmpty_eq, sole_perm sameLeft]

theorem Node.fate_eq_some {time : Nat} {left right : List (Option Nat)}
    (lost : n.fate turn left right = some time) :
    n.kind = .binary ∧ ∃ op, Operator.ofSymbol? n.type = some op ∧
      (left = [] ∧ time = turn ∨ left ≠ [] ∧ right = [] ∧ (op = .mul ∧ n.number = 0 ∧ time = turn ∨
          n.number = op.neutral ∧ left = [some time])) := by
  unfold fate at lost
  split at lost
  next op kind symbol =>
    refine ⟨kind, op, symbol, ?_⟩
    by_cases noLeft : left = []
    · subst noLeft
      exact .inl ⟨rfl, (Option.some.inj lost).symm⟩
    · rw [if_neg (by simpa using noLeft)] at lost
      split at lost
      · cases lost
      next noRight =>
        refine .inr ⟨noLeft, by simpa using noRight, ?_⟩
        split at lost
        next zero => exact .inl ⟨zero.1, zero.2, (Option.some.inj lost).symm⟩
        · split at lost
          next neutral =>
            refine .inr ⟨neutral, ?_⟩
            match left, lost with
            | [fate], lost => rw [show fate = some time from lost]
          · cases lost
  · cases lost

theorem Node.output_of_ne_binary (no : n.kind ≠ .binary) (inputs : Int → ℚ)
    (out : Int) (left right : ℚ) (first second : Bool) :
    n.output inputs out left right first = n.output inputs out left right second := by
  unfold output
  cases kind : n.kind <;> first | rfl | exact absurd kind no

namespace Net

variable {net : Net} {g o : Ref} {ws : Multiset Wire} {inputs : Int → ℚ}
  {order : List Ref} {i : Nat}

theorem Strung.inflow_eq (strung : net.Strung g ws) (mem : o ∈ net.contents g)
    (v : Ref → Int → ℚ) : net.inflow v o i = ((ws.filter (Wire.At .inlet o i)).map
        fun w => v w.source w.outlet).sum := by
  rw [← strung.holds .inlet o mem i]
  rfl

theorem Strung.coe_fates (strung : net.Strung g ws) (mem : o ∈ net.contents g)
    (fate : Ref → Option Nat) (turn : Nat) : (net.fates fate turn o i : Multiset _) =
      ((ws.filter (Wire.At .inlet o i)).map fun w => fate w.source).filter (stands turn ·) := by
  rw [← strung.holds .inlet o mem i]
  simp [fates]

def Feeds (net : Net) (src o : Ref) : Prop :=
  ∃ i, ∃ wire ∈ net.held .inlet o i, wire.source = src

theorem Strung.of_feeds (strung : net.Strung g ws) (isIn : o ∈ net.contents g)
    {src : Ref} (feeds : net.Feeds src o) : ∃ w ∈ ws, w.source = src ∧ w.target = o := by
  obtain ⟨i, w, mem, rfl⟩ := feeds
  rw [← Multiset.mem_coe, strung.holds .inlet o isIn i] at mem
  obtain ⟨inWs, tgt, -⟩ := Multiset.mem_filter.mp mem
  exact ⟨w, inWs, rfl, tgt⟩

theorem inflow_congr (eq : ∀ src, net.Feeds src o → first src = second src) :
    net.inflow first o i = net.inflow second o i := by
  unfold inflow
  congr 1
  apply map_congr_left
  intro w mem
  rw [eq w.source ⟨i, w, mem, rfl⟩]

theorem fates_congr {first second : Ref → Option Nat}
    (eq : ∀ src, net.Feeds src o → first src = second src) :
    net.fates first turn o i = net.fates second turn o i := by
  unfold fates
  congr 1
  apply map_congr_left
  intro w mem
  exact eq w.source ⟨i, w, mem, rfl⟩

theorem evaluate_congr (eq : ∀ src, net.Feeds src o → first src = second src) :
    net.evaluate inputs first o = net.evaluate inputs second o := by
  funext outlet
  rw [evaluate, inflow_congr eq, inflow_congr eq, evaluate]

theorem prune_congr {first second : Ref → Option Nat}
    (eq : ∀ src, net.Feeds src o → first src = second src) :
    net.prune order first o = net.prune order second o := by
  unfold prune
  rw [fates_congr eq, fates_congr eq]

theorem salvage_congr {fate : Ref → Option Nat}
    (eq : ∀ src, net.Feeds src o → first src = second src) :
    net.salvage inputs order fate first o = net.salvage inputs order fate second o := by
  funext outlet
  rw [salvage, inflow_congr eq, inflow_congr eq, salvage]

/-- Wires that lead from lower to higher ranks, which are below the size of the net. -/
structure Ranked (net : Net) (g : Ref) (ws : Multiset Wire) (rank : Ref → Nat) : Prop where
  rises : ∀ wire ∈ ws, rank wire.source < rank wire.target
  bound : ∀ o ∈ net.contents g, rank o < net.size

section Solutions

variable {rank : Ref → Nat} (ranked : net.Ranked g ws rank)
  (strung : net.Strung g ws)
include ranked strung

theorem Ranked.lower : ∀ o ∈ net.contents g, ∀ src, net.Feeds src o →
    src ∈ net.contents g ∧ rank src < rank o := by
  intro o isIn src feeds
  obtain ⟨w, inWs, rfl, rfl⟩ := strung.of_feeds isIn feeds
  exact ⟨(strung.fits w inWs).mem .outlet, ranked.rises w inWs⟩

theorem Ranked.signal_unique (solves : ∀ o ∈ net.contents g, v o = net.evaluate inputs v o) :
    ∀ o ∈ net.contents g, net.signal inputs o = v o :=
  fun o mem => settle_eq (net.evaluate inputs) (ranked.lower strung)
    (fun _ _ _ _ eq => evaluate_congr eq) solves _ o mem (ranked.bound o mem)

theorem Ranked.loss_eq (order : List Ref) : ∀ o ∈ net.contents g,
    net.loss order o = net.prune order (net.loss order) o :=
  fun o mem => settle_eq_step (net.prune order) (ranked.lower strung)
    (fun _ _ _ _ eq => prune_congr eq) _ o mem (ranked.bound o mem)

theorem Ranked.remainder_eq (inputs : Int → ℚ) (order : List Ref) : ∀ o ∈ net.contents g,
    net.remainder inputs order o =
      net.salvage inputs order (net.loss order) (net.remainder inputs order) o :=
  fun o mem => settle_eq_step (net.salvage inputs order (net.loss order))
    (ranked.lower strung)
    (fun _ _ _ _ eq => salvage_congr eq) _ o mem (ranked.bound o mem)

end Solutions

/-- No operator has lost all signals at an inlet by its turn. -/
def Unstarved (net : Net) (g : Ref) : Prop :=
  ∀ o ∈ net.contents g, (net.node o).kind = .binary → ∀ i < 2, (i = 0 ∨ net.held .inlet o i ≠ []) →
      net.fates (net.loss (net.contents g)) ((net.contents g).idxOf o) o i ≠ []

theorem salvage_of_isSome {fate : Ref → Option Nat} {out : Int}
    (lost : (fate o).isSome = true) : net.salvage inputs order fate v o out = 0 := by
  rw [salvage, if_pos lost]

theorem evaluate_of_unwired {op : Operator} {out : Int}
    (binary : (net.node o).kind = .binary) (symbol : Operator.ofSymbol? (net.node o).type = some op)
    (unwired : net.held .inlet o 1 = []) : net.evaluate inputs v o out =
      op.apply (net.inflow v o 0) (net.node o).number := by
  rw [evaluate, Node.output, binary, symbol, unwired]
  rfl

theorem inflow_eq_zero
    (mute : ∀ w ∈ net.held .inlet o i, v w.source w.outlet = 0) : net.inflow v o i = 0 := by
  apply sum_eq_zero
  intro x isIn
  obtain ⟨w, mem, rfl⟩ := mem_map.mp isIn
  exact mute w mem

theorem Ranked.remainder_eq_evaluate {rank : Ref → Nat} (ranked : net.Ranked g ws rank)
    (strung : net.Strung g ws) (unstarved : net.Unstarved g) (mem : o ∈ net.contents g) :
    net.remainder inputs (net.contents g) o =
      net.evaluate inputs (net.remainder inputs (net.contents g)) o := by
  have equation := ranked.remainder_eq strung inputs (net.contents g)
  have fateEq := ranked.loss_eq strung (net.contents g)
  funext outlet
  rw [equation o mem]
  match lost : net.loss (net.contents g) o with
  | none =>
    rw [salvage, lost, evaluate]
    by_cases binary : (net.node o).kind = .binary
    · have eq : (net.fates (net.loss (net.contents g)) ((net.contents g).idxOf o)
          o 1).isEmpty = (net.held .inlet o 1).isEmpty := by
        by_cases empty : net.held .inlet o 1 = []
        · rw [fates, empty]
          rfl
        · have still := unstarved o mem binary 1 (by omega) (.inr empty)
          rw [isEmpty_eq_false_iff.mpr still, isEmpty_eq_false_iff.mpr empty]
      rw [eq]
      rfl
    · exact Node.output_of_ne_binary binary ..
  | some time =>
    rw [salvage_of_isSome (by rw [lost]; rfl)]
    rw [fateEq o mem] at lost
    obtain ⟨binary, op, symbol, ⟨noLeft, -⟩ | ⟨-, noRight, way⟩⟩ :=
      Node.fate_eq_some lost
    · exact absurd noLeft (unstarved o mem binary 0 (by omega) (.inl rfl))
    · have unwired : net.held .inlet o 1 = [] := by
        by_contra wired
        exact unstarved o mem binary 1 (by omega) (.inr wired) noRight
      rw [evaluate_of_unwired binary symbol unwired]
      rcases way with ⟨rfl, zero, -⟩ | ⟨neutral, alone⟩
      · rw [zero]
        exact (mul_zero _).symm
      · rw [neutral, Operator.apply_neutral]
        refine (inflow_eq_zero ?_).symm
        intro w there
        obtain ⟨inSrc, -⟩ := ranked.lower strung o mem w.source ⟨0, w, there, rfl⟩
        rw [equation w.source inSrc]
        apply salvage_of_isSome
        -- a signal that is never lost would be the one that still arrives
        by_contra kept
        rw [Bool.not_eq_true, Option.isSome_eq_false_iff, Option.isNone_iff_eq_none] at kept
        have arr : none ∈ net.fates (net.loss (net.contents g)) ((net.contents g).idxOf o) o 0 :=
          mem_filter.mpr ⟨mem_map.mpr ⟨w, there, kept⟩, rfl⟩
        rw [alone, mem_singleton] at arr
        cases arr

theorem delivered_congr {channel : Int} (strung : net.Strung g ws)
    (eq : ∀ o ∈ net.contents g, first o = second o) :
    net.delivered g first channel = net.delivered g second channel := by
  unfold delivered
  congr 1
  apply map_congr_left
  intro o isIn
  congr 1
  apply map_congr_left
  intro i _
  apply inflow_congr
  intro src feeds
  obtain ⟨w, inWs, rfl, -⟩ := strung.of_feeds isIn feeds
  exact eq w.source ((strung.fits w inWs).mem .outlet)

theorem Ranked.remainingTotal_eq_total {rank : Ref → Nat} {channel : Int}
    (ranked : net.Ranked g ws rank) (strung : net.Strung g ws) (unstarved : net.Unstarved g) :
    net.remainingTotal g inputs channel = net.total g inputs channel := by
  apply delivered_congr strung
  intro o mem
  exact (ranked.signal_unique strung
    (fun o mem => ranked.remainder_eq_evaluate strung unstarved mem) o mem).symm

end Net

end PatchCompiler
