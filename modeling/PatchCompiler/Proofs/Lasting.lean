import PatchCompiler.Net.Simplify
import PatchCompiler.Proofs.Buffering
import PatchCompiler.Proofs.Wiring

/-!
# Properties that steps keep

A step keeps a property of nets if the property holds after it whenever it held before. Sequences,
choices and loops of such steps keep it, whatever their results are. A property that the basic steps
on graphs keep is kept when objects are removed and when a receiver is made for others. Giving
buffers marks objects, sets buffers and counts in the pool. A property that does not depend on these
lasts, as far as ordering the signals of the graphs keeps it too.
-/

namespace PatchCompiler

open List

namespace Build

variable {α β : Type} {blame : Fault → Prop} {inv : Net → Prop} {xs : List α}

/-- Where the property holds, the step keeps it or ends in a fault of the given kind. -/
def Keeps (blame : Fault → Prop) (inv : Net → Prop) (step : Build α) : Prop :=
  ∀ net, inv net → Guarded blame step net fun _ last => inv last

namespace Keeps

theorem pure (res : α) : Keeps blame inv (Pure.pure res) :=
  fun _ ok => .pure ok

theorem throw {err : Fault} (may : blame err) :
    Keeps blame inv (MonadExcept.throw err : Build α) :=
  fun _ _ => .throw may

theorem bind {step : Build α} {next : α → Build β} (first : Keeps blame inv step)
    (rest : ∀ res, Keeps blame inv (next res)) : Keeps blame inv (step >>= next) :=
  fun net ok => (first net ok).bind fun res last post => rest res last post

theorem read (f : Net → α) : Keeps blame inv (do return f (← get)) :=
  fun _ ok => .of_run rfl ok

theorem get : Keeps blame inv (MonadState.get : Build Net) :=
  fun _ ok => .of_run rfl ok

theorem node (ref : Ref) : Keeps blame inv (node ref) :=
  read fun net => net.node ref

theorem ofExcept {arg : Except Fault α} (may : ∀ err, arg = .error err → blame err) :
    Keeps blame inv (ofExcept arg) :=
  fun _ ok => .ofExcept may fun _ _ => ok

theorem fetch {k : Int} (may : blame .outOfRange) : Keeps blame inv (fetch xs k) := by
  refine ofExcept fun err failed => ?_
  unfold PatchCompiler.fetch at failed
  split at failed
  · cases failed
  · cases failed
    exact may

theorem change {ref : Ref} {f : Node → Node}
    (kept : ∀ net, inv net → inv (net.change ref f)) :
    Keeps blame inv (change ref f) :=
  fun net ok => .of_run (run_change _ _ _) (kept net ok)

theorem ite {condition : Prop} [Decidable condition] {first snd : Build α}
    (yes : condition → Keeps blame inv first) (no : ¬ condition → Keeps blame inv snd) :
    Keeps blame inv (if condition then first else snd) := by
  split
  · exact yes ‹_›
  · exact no ‹_›

theorem forM {step : α → Build Unit}
    (turn : ∀ x ∈ xs, Keeps blame inv (step x)) : Keeps blame inv (xs.forM step) :=
  fun net ok => Guarded.forM (fun _ cur => inv cur) ok
    fun done x rest cur split now => turn x (by simp [split]) cur now

theorem foldlM {step : β → α → Build β} {init : β}
    (turn : ∀ v, ∀ x ∈ xs, Keeps blame inv (step v x)) :
    Keeps blame inv (xs.foldlM step init) :=
  fun net ok => Guarded.foldlM (fun _ _ cur => inv cur) ok
    fun done x rest v cur split now => turn v x (by simp [split]) cur now

theorem mapM {step : α → Build β} (turn : ∀ x ∈ xs, Keeps blame inv (step x)) :
    Keeps blame inv (xs.mapM step) := by
  induction xs with
  | nil => exact pure []
  | cons x rest ih =>
    rw [mapM_cons]
    refine (turn x mem_cons_self).bind fun v => ?_
    exact (ih (forall_mem_cons.mp turn).2).bind
      fun values => pure _

theorem forIn {step : α → β → Build (ForInStep β)} {init : β}
    (turn : ∀ x ∈ xs, ∀ v, Keeps blame inv (step x v)) :
    Keeps blame inv (ForIn.forIn xs init step) := by
  induction xs generalizing init with
  | nil => exact pure init
  | cons x rest ih =>
    rw [forIn_cons]
    refine (turn x mem_cons_self init).bind fun next => ?_
    cases next with
    | done v => exact pure v
    | yield v =>
      exact ih (forall_mem_cons.mp turn).2

theorem anyM {test : α → Build Bool}
    (turn : ∀ x ∈ xs, Keeps blame inv (test x)) : Keeps blame inv (xs.anyM test) := by
  induction xs with
  | nil => exact pure false
  | cons x rest ih =>
    refine (turn x mem_cons_self).bind fun got => ?_
    cases got with
    | true => exact pure true
    | false => exact ih (forall_mem_cons.mp turn).2

theorem filterM {test : α → Build Bool} (turn : ∀ x ∈ xs, Keeps blame inv (test x)) :
    Keeps blame inv (xs.filterM test) := by
  have go : ∀ done, Keeps blame inv (xs.filterAuxM test done) := by
    induction xs with
    | nil => exact pure
    | cons x rest ih =>
      exact fun done => (turn x mem_cons_self).bind fun _ =>
        ih (forall_mem_cons.mp turn).2 _
  exact (go []).bind fun _ => pure _

end Keeps

def AnyFault (_ : Fault) : Prop :=
  True

attribute [grind ←] Keeps.pure Keeps.get Keeps.bind Keeps.node Keeps.filterM

-- short steps are opened where they occur
attribute [grind] fetch warn display displayWire nameOf homeOf indexOf sortLets channelsOf
  notOfObject connectAny argumentsOf

@[grind ←]
theorem keeps_andThen {step : Build PUnit} {next : PUnit → Build β}
    (first : Keeps AnyFault inv step) (rest : Keeps AnyFault inv (next ⟨⟩)) :
    Keeps AnyFault inv (step >>= next) :=
  first.bind fun _ => rest

@[grind ←]
theorem keeps_throw (fault : Fault) : Keeps AnyFault inv (throw fault : Build α) :=
  .throw trivial

@[grind ←]
theorem keeps_ofExcept (arg : Except Fault α) : Keeps AnyFault inv (ofExcept arg) :=
  .ofExcept fun _ _ => trivial

@[grind ←]
theorem keeps_mapM {step : α → Build β} (each : ∀ a, Keeps AnyFault inv (step a)) :
    Keeps AnyFault inv (xs.mapM step) :=
  .mapM fun a _ => each a

@[grind ←]
theorem keeps_forM {step : α → Build Unit} (each : ∀ a, Keeps AnyFault inv (step a)) :
    Keeps AnyFault inv (xs.forM step) :=
  .forM fun a _ => each a

@[grind ←]
theorem keeps_forIn {step : α → β → Build (ForInStep β)} {b : β}
    (each : ∀ a b, Keeps AnyFault inv (step a b)) :
    Keeps AnyFault inv (forIn xs b step) :=
  .forIn fun a _ => each a

/-- The property does not depend on what is noted in a graph, and it lasts when wires are taken away,
objects are added to graphs and receivers are made. -/
structure Enduring (inv : Net → Prop) : Prop where
  change {ref : Ref} {f : Node → Node} (kept : ∀ n, (f n).type = n.type ∧
    (f n).arguments = n.arguments ∧ (f n).inlets = n.inlets ∧ (f n).outlets = n.outlets) :
    Keeps AnyFault inv (change ref f)
  detach (ref : Ref) (wire : Wire) : Keeps AnyFault inv (detach ref wire)
  add (graph object : Ref) : Keeps AnyFault inv (add graph object)
  makeReceive (args notes : Record) :
    Keeps AnyFault inv (makeLow "__receive" .plain args notes none)

section Steps

variable (lasts : Enduring inv) (graph object : Ref) (name : Name) (objects : List Ref)

@[grind ←]
theorem keeps_argument (key : String) : Keeps AnyFault inv (argument object key) := by
  grind [argument]

include lasts

@[grind ←]
theorem keeps_reject (reason : String) :
    Keeps AnyFault inv (reject object reason : Build α) := by
  grind [reject, Enduring.change]

@[grind ←]
theorem keeps_checkMailboxName (args : Record) (complaint : String) :
    Keeps AnyFault inv (checkMailboxName object args complaint) := by
  grind [checkMailboxName]

@[grind ←]
theorem keeps_disconnect (wire : Wire) : Keeps AnyFault inv (disconnect wire) := by
  grind [disconnect, Enduring.detach]

@[grind ←]
theorem keeps_unregister : Keeps AnyFault inv (unregister graph object) := by
  grind [unregister, changeBody, Enduring.change]

@[grind ←]
theorem keeps_remove : Keeps AnyFault inv (remove graph object) := by
  refine .bind (.node _) fun node => .bind ?_ fun _ => ?_ <;> grind [changeBody, Enduring.change]

@[grind ←]
theorem keeps_removeAll : Keeps AnyFault inv (removeAll objects) := by
  grind [removeAll]

@[grind ←]
theorem keeps_groupArguments : Keeps AnyFault inv (groupArguments graph name objects) := by
  unfold groupArguments
  repeat refine .bind (by grind) fun _ => ?_
  split <;> grind

@[grind ←]
theorem keeps_openReceiver : Keeps AnyFault inv (openReceiver graph name objects) := by
  grind [openReceiver, Enduring.add, Enduring.makeReceive]

end Steps

end Build

variable {k : Int} {wires : List Wire} {i : Nat}

def Fault.IsFanIn : Fault → Prop
  | .rejected reason => ∃ shown, reason = shown ++ " (> 1) signal inputs."
  | .unsetName => True
  | _ => False

theorem Fault.not_isFanIn {reason : String}
    (ending : reason.toList.reverse.take 2 ≠ ['.', 's']) : ¬ (Fault.rejected reason).IsFanIn := by
  rintro ⟨shown, rfl⟩
  apply ending
  rw [String.toList_append, reverse_append]
  rfl

/-- An object without its place and its buffers, of which only the number is left. -/
def Node.frame (node : Node) : Node :=
  { node with
    ordered := false
    inletBuffers := replicate node.inletBuffers.length .zero
    outletBuffers := replicate node.outletBuffers.length .zero }

namespace Build

open Net

/-- The property does not depend on marks, buffers and the pool. Faults may be of the given kind,
which has all but those of several signals at an inlet, and those where the property allows them. -/
structure Lasting (blame : Fault → Prop) (inv : Net → Prop) : Prop where
  alike : ∀ {net last : Net}, inv net → Alike Node.frame net last → inv last
  other : ∀ fault : Fault, ¬ fault.IsFanIn → blame fault
  many : ∀ {net : Net} {ref : Ref} {slot : Nat}, inv net →
    1 < (signals (net.held .inlet ref slot)).length → ∀ fault, blame fault

variable {blame : Fault → Prop} {inv : Net → Prop} {object graph : Ref}
  (lasting : Lasting blame inv)
include lasting

namespace Lasting

theorem fetch {α : Type} {xs : List α} : Keeps blame inv (fetch xs k) :=
  .fetch (lasting.other _ nofun)

theorem set {f : Node → Node} (kept : ∀ n, (f n).frame = n.frame) :
    Keeps blame inv (Build.change object f) :=
  .change fun _ ok => lasting.alike ok (.change kept)

theorem pool {net : Net} {pool : Pool} (ok : inv net) : inv (net.withPool pool) :=
  lasting.alike ok ⟨rfl, fun _ => rfl⟩

theorem placeWithin (d : Nat) : ∀ object, Keeps blame inv (placeWithin d object) := by
  induction d with
  | zero => exact fun _ => .throw (lasting.other _ id)
  | succ d ih =>
    intro object
    unfold Build.placeWithin
    refine .bind (.node _) fun n => .ite (fun _ => .throw (lasting.other _ id)) fun _ => .ite
      (fun _ => .pure _) fun _ => ?_
    refine .bind (lasting.set fun _ => rfl) fun _ => ?_
    refine .bind (.foldlM fun order object _ => ?_) fun _ => .pure _
    exact (ih object).bind fun _ => .pure _

theorem argument {name : String} : Keeps blame inv (argument object name) := by
  refine .bind (.node _) fun n => ?_
  split
  · exact .pure _
  · exact .throw (lasting.other _ nofun)

theorem lowSpec : Keeps blame inv (lowSpec object) := by
  refine .bind (.node _) fun n => ?_
  dsimp only
  split
  · exact .pure _
  · exact .throw (lasting.other _ nofun)

theorem processesSignalWithin (d : Nat) : ∀ object,
    Keeps blame inv (processesSignalWithin d object) := by
  induction d with
  | zero => exact fun _ => .throw (lasting.other _ id)
  | succ d ih =>
    intro object
    unfold Build.processesSignalWithin
    refine .bind (.node _) fun n => .ite (fun _ => .throw (lasting.other _ id)) fun _ =>
      .ite ?_ ?_
    · refine fun _ => (Keeps.anyM fun sub _ => ih sub.2).bind fun got => ?_
      refine .ite (fun _ => .pure _) fun _ => .anyM fun i _ => lasting.argument.bind fun k => ?_
      exact .ite (fun _ => .pure _) fun _ => .throw (lasting.other _ id)
    · exact fun _ => lasting.lowSpec.bind fun _ => .pure _

theorem orderSignals (note : ∀ order, Keeps blame inv
      (changeBody graph fun body => { body with signalOrder := order })) :
    Keeps blame inv (orderSignals graph) := by
  refine (note []).bind fun _ => Keeps.get.bind fun net => ?_
  refine (Keeps.foldlM fun order object _ =>
    (lasting.placeWithin _ object).bind fun _ => .pure _).bind fun order => ?_
  exact (Keeps.filterM fun object _ => Keeps.get.bind fun net =>
    lasting.processesSignalWithin _ object).bind fun processing => note processing

theorem parentOf : Keeps blame inv (parentOf object) := by
  refine .bind (.node _) fun n => ?_
  split
  · exact .pure _
  · exact .throw (lasting.other _ nofun)

theorem commonType {complaint : String} (ending : complaint.toList.reverse.take 2 ≠ ['.', 's']) :
    Keeps blame inv (commonType wires complaint) := by
  unfold Build.commonType
  split
  · exact .pure _
  · exact .pure _
  · exact .throw (lasting.other _ (Fault.not_isFanIn ending))

theorem passedType : Keeps blame inv (passedType object wires) := by
  unfold Build.passedType
  dsimp only
  split
  · exact .pure _
  · exact .pure _
  · refine .ite (fun _ => .pure _) fun _ => .ite (fun _ => .pure _) fun _ => ?_
    refine lasting.parentOf.bind fun graph net _ => ?_
    refine .bind_run (run_change _ _ _) (.throw (lasting.other _ (Fault.not_isFanIn ?_)))
    rw [String.toList_append, reverse_append]
    intro eq
    cases eq

theorem outletType : Keeps blame inv (outletType object k) := by
  refine .bind (.node _) fun n => ?_
  split
  · exact .pure _
  · refine lasting.parentOf.bind fun graph => .bind (.node _) fun n => ?_
    refine lasting.argument.bind fun v => ?_
    refine .bind ?_ fun i => lasting.fetch.bind fun wires => lasting.commonType ?_
    · unfold indexValue
      split
      · exact .pure _
      · exact .throw (lasting.other _ nofun)
    · rw [String.toList_append, reverse_append]
      intro eq
      cases eq
  · refine lasting.fetch.bind fun out => .bind (.node _) fun n => ?_
    refine lasting.fetch.bind fun wires => lasting.commonType ?_
    rw [String.toList_append, reverse_append]
    intro eq
    cases eq
  · refine .ite (fun _ => ?_) fun _ => lasting.lowSpec.bind fun _ => lasting.fetch
    refine .bind ?_ fun spec => lasting.fetch.bind fun _ => .ite (fun _ => ?_) fun _ => .pure _
    · refine .bind (.node _) fun n => ?_
      dsimp only
      split
      · exact .pure _
      · exact .throw (lasting.other _ nofun)
    · exact lasting.fetch.bind fun _ => lasting.passedType

theorem retain {b : Buffer} {n : Int} : Keeps blame inv (retain b n) := by
  intro net ok
  apply Guarded.bind_run (EStateM.run_get _)
  refine Guarded.bind (Keeps.ofExcept ?_ net ok) fun pair last _ => .of_run rfl (lasting.pool ok)
  intro err failed
  refine lasting.other _ ?_
  unfold Pool.retain at failed
  split at failed
  · cases failed
  · split at failed
    · cases failed
      nofun
    · split at failed
      · cases failed
        refine Fault.not_isFanIn ?_
        rw [String.toList_append, reverse_append]
        intro eq
        cases eq
      · cases failed

theorem acquire {kind : BufferKind} {n : Int} {excl : List Buffer} :
    Keeps blame inv (acquire kind n excl) := by
  intro net ok
  apply Guarded.bind_run (EStateM.run_get _)
  refine Guarded.bind (Keeps.ofExcept ?_ net ok) fun pair last _ => .of_run rfl (lasting.pool ok)
  intro err failed
  unfold Pool.acquire at failed
  split at failed
  · cases failed
    exact lasting.other _ nofun
  · dsimp only at failed
    split at failed <;> cases failed

theorem sourceBuffer {w : Wire} : Keeps blame inv (sourceBuffer w) :=
  .bind (.node _) fun _ => .ite (fun _ => .throw (lasting.other _ nofun)) fun _ => lasting.fetch

theorem store {β : Type} {get : Node → List Buffer} {put : List Buffer → Node → Node}
    {b : Buffer} {next : Build β}
    (same : ∀ n buffers, buffers.length = (get n).length → (put buffers n).frame = n.frame)
    (rest : Keeps blame inv next) : Keeps blame inv (do
      let buffers ← ofExcept (assignAt (get (← node object)) k b)
      Build.change object (put buffers)
      next) := by
  intro net ok
  apply Guarded.at_node
  unfold assignAt
  split
  · next place _ =>
      apply Guarded.bind_run
        (show (ofExcept (.ok _) : Build (List Buffer)).run net = .ok _ net from rfl)
      apply Guarded.bind_run (run_change _ _ _)
      refine rest _ (lasting.alike ok (.change_at (same _ _ ?_)))
      exact length_set
  · exact .throw (lasting.other _ nofun)

omit lasting in
theorem length_signals_lt (notNone : wires = [] → False)
    (notOne : ∀ w, wires = [w] → False) : 1 < wires.length := by
  match wires with
  | [] => exact absurd rfl notNone
  | [w] => exact absurd rfl (notOne w)
  | _ :: _ :: _ => simp

theorem readInlet : Keeps blame inv (readInlet object i) := by
  intro net ok
  apply Guarded.at_node
  split
  · exact .pure ok
  · refine Keeps.bind lasting.sourceBuffer (fun b => ?_) net ok
    exact lasting.store (fun _ _ eq => by simp only [Node.frame, eq]) lasting.retain
  · next notNone notOne => exact .throw (lasting.many ok (length_signals_lt notNone notOne) _)

theorem fillOutlet {excl : List Buffer} : Keeps blame inv (fillOutlet object excl i) := by
  refine lasting.outletType.bind fun type => .bind (.node _) fun n => ?_
  refine lasting.fetch.bind fun _ => .ite (fun _ => ?_) fun _ => .pure _
  refine lasting.acquire.bind fun b => ?_
  exact .bind (lasting.set fun _ => by simp only [Node.frame, length_set]) fun _ => .pure _

theorem assignObject : Keeps blame inv (assignObject object) := by
  refine .bind (.node _) fun n => (Keeps.forM fun i _ => lasting.readInlet).bind fun _ => ?_
  refine .bind (.node _) fun n => ?_
  exact .bind (.foldlM fun excl i _ => lasting.fillOutlet) fun _ => .pure _

theorem refuse {α : Type} {shown : String} (may : ∀ err, blame err) :
    Keeps blame inv (do
      let file := (← node (← Build.parentOf object)).body.file
      throw (.rejected (s!"Object {← display object} in graph {file} has {shown} (> 1) " ++
        "signal inputs.")) : Build α) :=
  lasting.parentOf.bind fun _ => .bind (.node _) fun _ => (Keeps.read _).bind fun _ =>
    .throw (may _)

theorem enterInlet {last : Option Ref} : Keeps blame inv (enterInlet graph last i) := by
  intro net ok
  apply Guarded.at_node
  split
  · exact .pure ok
  · refine Keeps.bind lasting.sourceBuffer (fun b => ?_) net ok
    refine .bind (.node _) fun n => lasting.fetch.bind fun inlet => ?_
    refine lasting.store (fun _ _ eq => by simp only [Node.frame, eq]) ?_
    refine .bind (.node _) fun n => lasting.fetch.bind fun readers => ?_
    exact lasting.retain.bind fun _ => .pure _
  · next notNone notOne =>
      have may := lasting.many ok (length_signals_lt notNone notOne)
      split
      · exact .throw (may _)
      · exact lasting.refuse may net ok

theorem leaveOutlet {out : Ref} : Keeps blame inv (leaveOutlet graph out i) := by
  intro net ok
  apply Guarded.at_node
  rcases eq : (net.node out).inlets with _ | ⟨wires, rest⟩
  · exact .throw (lasting.other _ nofun)
  · apply Guarded.bind_run (run_fetch (show at? (wires :: rest) 0 = some wires by
      simp [at?, place?]) net)
    split
    · exact .pure ok
    · refine Keeps.bind lasting.sourceBuffer (fun b => ?_) net ok
      refine lasting.store (fun _ _ eq => by simp only [Node.frame, eq]) ?_
      exact .bind (.node _) fun n => lasting.fetch.bind fun readers => lasting.retain
    · next notNone notOne =>
        have held : wires = net.held .inlet out 0 := by
          change wires = (net.node out).inlets.getD 0 []
          rw [eq]
          rfl
        rw [held] at notNone notOne
        exact lasting.refuse (lasting.many ok (length_signals_lt notNone notOne)) net ok

section

variable (near : Ref → Prop)
  (sorts : ∀ graph, near graph → Keeps blame inv (Build.orderSignals graph))
  (down : ∀ {net cur graph object}, inv net → inv cur → near graph →
    object ∈ net.order graph → (cur.node object).isGraph → near object)
include near sorts down

theorem assignWithin (d : Nat) :
    ∀ graph, near graph → Keeps blame inv (assignWithin d graph) := by
  induction d with
  | zero => exact fun _ _ => .throw (lasting.other _ nofun)
  | succ d ih =>
    intro graph here
    unfold Build.assignWithin
    refine (sorts graph here).bind fun _ => Keeps.bind ?_ fun _ net ok => ?_
    · refine .bind (.node _) fun n => ?_
      exact .bind (.foldlM fun last i _ => lasting.enterInlet) fun _ => .pure _
    · apply Guarded.at_node
      refine Keeps.bind (.forM fun object mem => ?_) (fun _ => ?_) net ok
      · intro cur sound
        apply Guarded.at_node
        split
        · next isGraph => exact ih object (down ok sound here mem isGraph) cur sound
        · exact lasting.assignObject cur sound
      · exact .bind (.node _) fun n => .forM fun e _ => lasting.leaveOutlet

theorem assignBuffers (here : near graph) : Keeps blame inv (assignBuffers graph) := by
  intro net ok
  apply Guarded.bind_run (show (modify fun net : Net => net.withPool .empty : Build Unit).run net =
    .ok () (net.withPool .empty) from rfl)
  exact Keeps.get.bind (fun _ => lasting.assignWithin near sorts down _ graph here) _
    (lasting.pool ok)

end

end Lasting

end Build

end PatchCompiler
