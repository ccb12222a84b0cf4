import PatchCompiler.Program
import PatchCompiler.Proofs.Entering
import PatchCompiler.Proofs.Lasting

/-!
# Senders have the hashes of their names

A sender is made with the hash of its name among its arguments. No pass over a graph changes the
type of an object or takes a sender for another object, so senders still have these hashes when the
graph has been prepared.
-/

namespace PatchCompiler

open List Catalogue

theorem Record.get?_set {fields : Record} {key other : String} {value : Value} :
    (fields.set key value).get? other =
      if other = key then some value else fields.get? other := by
  unfold get?
  fun_induction set fields key value <;> grind

/-- The arguments of a sender, with the hash of its name. -/
def Signed (arguments : Record) : Prop :=
  ∃ name hash, arguments.get? "name" = some name ∧ Hash.ofValue name = .ok hash ∧
    arguments.get? "hash" = some (.text (Hash.literal hash))

/-- An argument that settling leaves as it is if it is a name or a hash. -/
def Catalogue.ArgumentSpec.Spares (spec : ArgumentSpec) : Prop :=
  spec.name = "name" ∨ spec.name = "hash" → spec.default = .null

theorem get?_settleArguments {specs : List ArgumentSpec} {type key : String}
    {lenient : Bool} {args : Record} {value : Value} (isLenient : lenient = true)
    (spared : ∀ spec ∈ specs, spec.name = key → spec.default = .null)
    (given : args.get? key = some value) :
    (settleArguments type lenient specs args).2.get? key = some value := by
  fun_induction settleArguments type lenient specs args <;> grind [Record.get?_set]

theorem Signed.settled {specs : List ArgumentSpec} {type : String} {args : Record}
    (spared : ∀ spec ∈ specs, spec.Spares) (signed : Signed args) :
    Signed (settleArguments type true specs args).2 := by
  obtain ⟨name, hash, called, hashed, eq⟩ := signed
  refine ⟨name, hash, get?_settleArguments rfl ?_ called, hashed, get?_settleArguments rfl ?_ eq⟩
  · exact fun spec mem same => spared spec mem (.inl same)
  · exact fun spec mem same => spared spec mem (.inr same)

def AllSigned (listed : List Program.Object) : Prop :=
  ∀ o ∈ listed, o.type = "__send" → Signed o.arguments

/-- All senders have the hashes of their names. -/
def Net.Sealed (net : Net) : Prop :=
  ∀ ref, (net.node ref).type = "__send" → Signed (net.node ref).arguments

theorem Net.Sealed.change {net : Net} {ref : Ref} {f : Node → Node} (ok : net.Sealed)
    (kept : (f (net.node ref)).type = (net.node ref).type ∧
      (Signed (net.node ref).arguments → Signed (f (net.node ref)).arguments)) :
    (net.change ref f).Sealed := by
  intro other send
  rcases node_change net ref f other with eq | ⟨rfl, eq⟩
  · rw [eq] at send ⊢
    exact ok other send
  · rw [eq, kept.1] at send
    rw [eq]
    exact kept.2 (ok other send)

namespace Build

variable {α β : Type}

theorem Guarded.mapM_all {blame : Fault → Prop} {net : Net} {xs : List α} {step : α → Build β}
    (good : β → Prop)
    (each : ∀ x ∈ xs, Guarded blame (step x) net fun v last => last = net ∧ good v) :
    Guarded blame (xs.mapM step) net fun values last => last = net ∧ ∀ v ∈ values, good v := by
  induction xs with
  | nil => exact .pure ⟨rfl, nofun⟩
  | cons x rest ih =>
    rw [mapM_cons]
    apply Guarded.bind (each x mem_cons_self)
    rintro v _ ⟨rfl, first⟩
    apply Guarded.bind (ih fun y mem => each y (mem_cons_of_mem _ mem))
    rintro values _ ⟨rfl, all⟩
    exact .pure ⟨rfl, forall_mem_cons.mpr ⟨first, all⟩⟩

/-- If the step ends, senders have the hashes of their names as before. -/
abbrev Seals (step : Build α) : Prop :=
  Keeps AnyFault Net.Sealed step

attribute [grind] substitute resolve formatOf resolveOne languageSpec moveAll loweredBare
  replacedBy lowered formWith firstArgument castFor moveOutgoing addReader addWriter

@[grind ←]
theorem seals_change {ref : Ref} {f : Node → Node}
    (kept : ∀ n, (f n).type = n.type ∧ (Signed n.arguments → Signed (f n).arguments)) :
    Seals (change ref f) :=
  .change fun _ ok => ok.change (kept _)

theorem seals_insert {node : Node} (fine : node.type = "__send" → Signed node.arguments) :
    Seals (insert node) := by
  refine fun net ok => .of_run rfl fun ref send => ?_
  change Signed ((net.push node).node ref).arguments
  change ((net.push node).node ref).type = _ at send
  have lt := (net.push node).lt_size_of_look Node.type (by rw [send]; decide)
  rcases Nat.lt_succ_iff_lt_or_eq.mp (Net.size_push ▸ lt) with old | rfl
  · rw [Net.node_push_of_lt old] at send ⊢
    exact ok ref send
  · rw [Net.node_push_self] at send ⊢
    exact fine send

variable (graph object : Ref) (type : String) (wire : Wire) (wires : List Wire) (name : Name)
  (objects : List Ref) (depth : Nat) (args notes : Record)

@[grind ←]
theorem seals_changeBody (f : Body → Body) : Seals (changeBody graph f) := by
  grind [changeBody]

@[grind ←]
theorem seals_parentOf : Seals (parentOf object) := by
  grind [parentOf]

@[grind ←]
theorem seals_letFormat : Seals (letFormat wires) := by
  unfold letFormat
  split <;> grind

@[grind ←]
theorem seals_inletFormat : Seals (inletFormat object) := by
  grind [inletFormat]

@[grind ←]
theorem seals_outletFormat : Seals (outletFormat object) := by
  grind [outletFormat]

@[grind ←]
theorem seals_attach : Seals (attach object wire) := by
  grind [attach]

@[grind ←]
theorem seals_detach : Seals (detach object wire) := by
  grind [detach]

@[grind ←]
theorem seals_connect : Seals (connect wire) := by
  grind [connect]

@[grind ←]
theorem seals_rewire (old : Option Wire) : Seals (rewire old wires) := by
  cases old <;> grind [rewire, disconnect]

@[grind ←]
theorem seals_register (isStatic unique : Bool) :
    Seals (register graph object isStatic unique) := by
  grind [register]

@[grind ←]
theorem seals_noteObject : Seals (noteObject graph object) := by
  refine .bind (.node _) fun node => ?_
  split <;> grind

@[grind ←]
theorem seals_add : Seals (add graph object) := by
  refine .bind (.node _) fun node => ?_
  grind [addAs, reject]

/-! ## Making objects -/

theorem spares_of_irSpec {spec : IrSpec} (desc : irSpec? type = some spec) :
    ∀ arg ∈ spec.arguments.getD [], arg.Spares := by
  have all : ∀ e ∈ irFirst ++ irSecond, ∀ arg ∈ e.2.arguments.getD [],
      arg.name = "name" ∨ arg.name = "hash" → arg.default.equals .null = true := by
    decide +kernel
  intro arg mem named
  have null := all _ (mem_of_irSpec? desc) arg mem named
  cases eq : arg.default <;> simp_all [Value.equals, Value.compareNumbers]

theorem yields_describeLow {lets : Option (Nat × Nat)} {net : Net} :
    Yields (describeLow type lets) net fun got last => last = net ∧ (∀ arg ∈ got.2.2, arg.Spares) ∧
      (type = "__send" →
        got.2.2 = [Table.needed "name", Table.needed "hash"]) := by
  unfold describeLow
  have send : type = "__send" → (irSpec? type).bind (·.arguments) =
      some [Table.needed "name", Table.needed "hash"] := by
    rintro rfl
    rfl
  cases desc : irSpec? type with
  | none =>
    cases lets with
    | none => exact .throw trivial
    | some => exact .pure ⟨rfl, nofun, fun same => by simpa [desc] using send same⟩
  | some spec =>
    cases lets <;> exact .pure ⟨rfl, spares_of_irSpec _ desc, fun same => by
      have eq := send same
      simp_all⟩

/-- A sender needs a name, so no other object becomes one by its type alone. -/
@[grind ←]
theorem seals_makeLow {kind : Kind} {around : Option Ref}
    (fine : type = "__send" → args.get? "name" = none ∨ Signed args) :
    Seals (makeLow type kind args notes around) := by
  intro net ok
  apply Guarded.bind yields_ofExcept
  rintro lets _ ⟨rfl, -⟩
  apply Guarded.bind (yields_describeLow _)
  rintro ⟨inlets, outlets, specs⟩ _ ⟨rfl, spared, needs⟩
  apply Guarded.bind yields_ofExcept
  rintro _ _ ⟨rfl, settles⟩
  refine Keeps.bind .get (fun _ => seals_insert fun send => ?_) _ ok
  have same : type = "__send" := by
    unfold typeInNet at send
    split at send <;> simp_all
  rcases fine same with missing | signed
  · obtain rfl : specs = _ := needs send
    simp [settleArguments, missing, Table.needed] at settles
  · exact signed.settled spared

@[grind ←]
theorem enduring_sealed : Enduring Net.Sealed where
  change kept := seals_change fun n => ⟨(kept n).1, fun signed => (kept n).2.1 ▸ signed⟩
  detach := seals_detach
  add := seals_add
  makeReceive args notes := seals_makeLow _ args notes (by simp)

@[grind ←]
theorem seals_makePlain (none : ∀ field ∈ args, field.1 ≠ "name") :
    Seals (makePlain type args) := by
  refine seals_makeLow _ _ _ fun _ => .inl (lookup_eq_none_iff.mpr fun field mem => ?_)
  simpa using (none field mem).symm

@[grind ←]
theorem seals_makeLower (other : type ≠ "__send") : Seals (makeLower object type notes) := by
  intro net ok
  apply Guarded.bind (yields_describeLow _)
  rintro ⟨inlets, outlets, specs⟩ _ ⟨rfl, spared, -⟩
  have rest (result settled) : Seals (do
      ofExcept result
      insertLow type .plain settled notes none inlets outlets) :=
    .bind (keeps_ofExcept _) fun _ => .bind .get fun _ => seals_insert fun send => absurd send other
  apply Guarded.at_node
  dsimp only
  split
  · exact .bind_run (run_change _ _ _)
      (rest _ _ _ (ok.change ⟨rfl, fun signed => signed.settled spared⟩))
  · exact rest _ _ _ ok

/-- A sender is made with the hash of its name. -/
@[grind ←]
theorem seals_makeSender : Seals (makeSender object) := by
  intro net ok
  apply Guarded.bind yields_argument
  rintro name _ ⟨rfl, called⟩
  apply Guarded.bind yields_ofExcept
  rintro hash cur ⟨rfl, hashed⟩
  apply Guarded.at_node
  have signed : Signed ((cur.node object).arguments.set "hash" (.text (Hash.literal hash))) :=
    ⟨name, hash, by simpa [Record.get?_set] using called, hashed, by simp [Record.get?_set]⟩
  exact Keeps.bind (seals_makeLow _ _ _ fun _ => .inr signed) (fun _ => by grind) cur ok

/-! ## The passes -/

@[grind ←]
theorem seals_joinName (receivers : List Ref) : Seals (joinName objects receivers) := by
  unfold joinName joinOneSender joinManySenders
  -- the single steps are left to `grind`, which does not get through a long pass at once
  repeat' first
    | with_reducible refine .bind ?_ fun _ => ?_
    | refine .forIn fun _ _ _ => ?_
    | split
    | grind

theorem lasting_sealed : Lasting AnyFault Net.Sealed where
  alike ok alike ref send := by
    rw [alike.look Node.arguments rfl]
    rw [alike.look Node.type rfl] at send
    exact ok ref send
  other _ _ := trivial
  many _ _ _ := trivial

@[grind ←]
theorem seals_settleWire : Seals (settleWire object wire) := by
  have type : Seals (outletType object wire.outlet) := lasting_sealed.outletType
  grind [settleWire]

@[grind ←]
theorem seals_settleBelow (seen : List Ref) : Seals (settleBelow depth object seen) := by
  induction depth generalizing object seen with
  | zero => grind [settleBelow]
  | succ depth ih =>
    unfold settleBelow
    repeat' first | with_reducible refine .bind ?_ fun _ => ?_ | split | grind

@[grind ←]
theorem seals_pruneWithin : Seals (pruneWithin depth graph) := by
  induction depth generalizing graph with
  | zero => grind [pruneWithin]
  | succ depth ih =>
    unfold pruneWithin
    repeat' first
      | with_reducible refine .bind ?_ fun _ => ?_
      | refine .forIn fun _ _ _ => ?_
      | split
      | grind

@[grind ←]
theorem seals_addUp (inlet : Int) : Seals (addUp graph object inlet wires) := by
  unfold addUp
  repeat' first | with_reducible refine .bind ?_ fun _ => ?_ | split | grind

@[grind ←]
theorem seals_cascadeWithin : Seals (cascadeWithin depth graph) := by
  induction depth generalizing graph with
  | zero => grind [cascadeWithin]
  | succ depth ih =>
    refine .bind .get fun net => .bind (.forIn fun object _ _ => ?_) fun _ => .pure _
    grind

@[grind ←]
theorem seals_fuse : Seals (fuse graph object wire type) := by
  unfold fuse
  repeat' first | with_reducible refine .bind ?_ fun _ => ?_ | split | grind

@[grind ←]
theorem seals_fuseWithin : Seals (fuseWithin depth graph) := by
  induction depth generalizing graph with
  | zero => grind [fuseWithin]
  | succ depth ih =>
    refine .bind .get fun net => .bind (.forIn fun object _ _ => .bind .get fun now => ?_) fun _ =>
      .pure _
    grind

@[grind ←]
theorem seals_groupName : Seals (groupName graph name objects) := by
  unfold groupName takeWires
  repeat' first
    | with_reducible refine .bind ?_ fun _ => ?_
    | refine .forIn fun _ _ _ => ?_
    | split
    | grind

theorem seals_assignBuffers : Seals (assignBuffers graph) :=
  lasting_sealed.assignBuffers (fun _ => True)
    (fun _ _ => lasting_sealed.orderSignals fun _ => seals_changeBody _ _)
    (fun _ _ _ _ _ => trivial) trivial

/-! ## Reductions -/

@[grind ←]
theorem seals_reduceConstantSignal (operator : String) :
    Seals (reduceConstantSignal object operator type) := by
  unfold reduceConstantSignal reduceIdentity
  dsimp only
  repeat' first | with_reducible refine .bind ?_ fun _ => ?_ | split | grind

@[grind ←]
theorem seals_reduceBinary : Seals (reduceBinary object) := by
  unfold reduceBinary reduceVariableOperand reduceConstantInteger reduceVariableLeft
  repeat' first | with_reducible refine .bind ?_ fun _ => ?_ | split | grind

@[grind ←]
theorem seals_reduceCell : Seals (reduceCell object) := by
  unfold reduceCell reduceToCell
  repeat' first | with_reducible refine .bind ?_ fun _ => ?_ | split | grind

@[grind ←]
theorem seals_reduceCellAccess : Seals (reduceCellAccess object) := by
  unfold reduceCellAccess
  repeat' first | with_reducible refine .bind ?_ fun _ => ?_ | split | grind

@[grind ←]
theorem seals_reductionOf : Seals (reductionOf object) := by
  refine .bind (.node _) fun node => ?_
  split
  any_goals grind
  all_goals
    repeat' first
      | split
      | refine .bind (by grind [Signed, Record.get?_set, makeReceiver]) fun _ => ?_
  all_goals grind [Signed, Record.get?_set]

@[grind ←]
theorem seals_reduceWithin : Seals (reduceWithin depth graph) := by
  induction depth generalizing graph with
  | zero => grind [reduceWithin]
  | succ depth ih =>
    refine .bind .get fun net => .bind (.forIn fun object _ _ => ?_) fun _ => .pure _
    grind [applyReduction]

theorem seals_prepare : Seals (prepare graph) := by
  refine .forM fun pass _ => ?_
  have buffers := seals_assignBuffers graph
  cases pass <;> grind [Pass.run, settleTypes, pruneInlets, joinMailboxes, reduce, cascade,
    fuseProducts, groupReceivers]

theorem yields_objectsWithin {net : Net} (isSealed : net.Sealed) :
    Yields (objectsWithin depth graph) net fun listed last => last = net ∧ AllSigned listed := by
  induction depth generalizing graph with
  | zero => exact .throw trivial
  | succ depth ih =>
    apply Guarded.bind_run (EStateM.run_get _)
    apply Guarded.bind (.mapM_all AllSigned fun object _ => .at_node ?_)
    · rintro lists _ ⟨rfl, all⟩
      refine .pure ⟨rfl, fun o mem => ?_⟩
      obtain ⟨list, inLists, there⟩ := mem_flatten.mp mem
      exact all list inLists o there
    · split
      · exact .pure ⟨rfl, nofun⟩
      · split
        · exact ih object
        · split
          · exact .throw trivial
          · exact .pure ⟨rfl, forall_mem_singleton.mpr (isSealed object)⟩

end Build

end PatchCompiler
