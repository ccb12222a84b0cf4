import PatchCompiler.Net.Buffering
import PatchCompiler.Proofs.Shape

/-!
# Steps of buffering

Giving buffers changes single buffers at lets and counts of the pool. The runs of the steps are
written down here with the buffers they set.
-/

namespace PatchCompiler

variable {ref g : Ref} {pool : Pool} {b : Buffer} {n : Int} {excl : List Buffer} {w : Wire}

theorem Catalogue.mem_of_irSpec? {type : String} {spec : IrSpec} (desc : irSpec? type = some spec) :
    (type, spec) ∈ irFirst ++ irSecond := by
  unfold irSpec? at desc
  have listed : (irFirst ++ irSecond).lookup type = some spec := by
    rw [List.lookup_append]
    split at desc <;> grind
  obtain ⟨front, back, eq, -⟩ := List.lookup_eq_some_iff.mp listed
  simp [eq]

def Node.setInlet (i : Nat) (b : Buffer) (node : Node) : Node :=
  { node with inletBuffers := node.inletBuffers.set i b }

def Node.setOutlet (i : Nat) (b : Buffer) (node : Node) : Node :=
  { node with outletBuffers := node.outletBuffers.set i b }

section

variable (i : Nat) (b : Buffer) (node : Node)

@[simp]
theorem Node.setInlet_shape : (node.setInlet i b).shape = node.shape :=
  rfl

@[simp]
theorem Node.setOutlet_shape : (node.setOutlet i b).shape = node.shape :=
  rfl

@[simp]
theorem Node.setInlet_body : (node.setInlet i b).body = node.body :=
  rfl

@[simp]
theorem Node.setInlet_inletBuffers : (node.setInlet i b).inletBuffers = node.inletBuffers.set i b :=
  rfl

@[simp]
theorem Node.setInlet_outletBuffers : (node.setInlet i b).outletBuffers = node.outletBuffers :=
  rfl

@[simp]
theorem Node.setOutlet_body : (node.setOutlet i b).body = node.body :=
  rfl

@[simp]
theorem Node.setOutlet_inletBuffers : (node.setOutlet i b).inletBuffers = node.inletBuffers :=
  rfl

@[simp]
theorem Node.setOutlet_outletBuffers :
    (node.setOutlet i b).outletBuffers = node.outletBuffers.set i b :=
  rfl

end

namespace Net

def inletBuffer (net : Net) (o : Ref) (i : Nat) : Buffer :=
  (net.node o).inletBuffers.getD i .zero

def outletBuffer (net : Net) (o : Ref) (i : Nat) : Buffer :=
  (net.node o).outletBuffers.getD i .zero

def setInlet (net : Net) (o : Ref) (i : Nat) (b : Buffer) : Net :=
  net.change o (Node.setInlet i b)

def setOutlet (net : Net) (o : Ref) (i : Nat) (b : Buffer) : Net :=
  net.change o (Node.setOutlet i b)

def withPool (net : Net) (pool : Pool) : Net :=
  { net with pool }

variable {net : Net} {o : Ref} {i : Nat} {b : Buffer} {pool : Pool}

@[simp]
theorem pool_withPool : (net.withPool pool).pool = pool :=
  rfl

@[simp]
theorem inletBuffer_withPool (ref : Ref) (slot : Nat) :
    (net.withPool pool).inletBuffer ref slot = net.inletBuffer ref slot :=
  rfl

@[simp]
theorem outletBuffer_withPool (ref : Ref) (slot : Nat) :
    (net.withPool pool).outletBuffer ref slot = net.outletBuffer ref slot :=
  rfl

theorem alike_withPool : Alike Node.shape net (net.withPool pool) :=
  ⟨rfl, fun _ => rfl⟩

theorem alike_setInlet : Alike Node.shape net (net.setInlet o i b) :=
  .change (Node.setInlet_shape i b)

theorem alike_setOutlet : Alike Node.shape net (net.setOutlet o i b) :=
  .change (Node.setOutlet_shape i b)

def order (net : Net) (graph : Ref) : List Ref :=
  (net.node graph).body.signalOrder

@[simp]
theorem order_withPool (ref : Ref) : (net.withPool pool).order ref = net.order ref :=
  rfl

@[simp]
theorem order_setInlet (ref : Ref) : (net.setInlet o i b).order ref = net.order ref := by
  rw [order, setInlet, node_change_keeps Node.body (Node.setInlet_body i b), order]

@[simp]
theorem order_setOutlet (ref : Ref) : (net.setOutlet o i b).order ref = net.order ref := by
  rw [order, setOutlet, node_change_keeps Node.body (Node.setOutlet_body i b), order]

theorem change_congr {f g : Node → Node} (eq : f (net.node ref) = g (net.node ref)) :
    net.change ref f = net.change ref g := by
  unfold change
  congr 1
  apply Array.ext_getElem?
  intro i
  rw [Array.getElem?_modify, Array.getElem?_modify]
  by_cases here : ref = i
  · subst here
    by_cases mem : ref < net.nodes.size
    · simpa [node, Array.getD, mem] using eq
    · simp [mem]
  · simp [here]

@[simp]
theorem inletBuffer_setOutlet (ref : Ref) (slot : Nat) :
    (net.setOutlet o i b).inletBuffer ref slot = net.inletBuffer ref slot := by
  rw [inletBuffer, setOutlet,
    node_change_keeps Node.inletBuffers (Node.setOutlet_inletBuffers i b), inletBuffer]

@[simp]
theorem outletBuffer_setInlet (ref : Ref) (slot : Nat) :
    (net.setInlet o i b).outletBuffer ref slot = net.outletBuffer ref slot := by
  rw [outletBuffer, setInlet,
    node_change_keeps Node.outletBuffers (Node.setInlet_outletBuffers i b), outletBuffer]

theorem inletBuffer_setInlet (mem : o < net.size)
    (lt : i < (net.node o).inletBuffers.length) (ref : Ref) (slot : Nat) :
    (net.setInlet o i b).inletBuffer ref slot =
      if ref = o ∧ slot = i then b else net.inletBuffer ref slot := by
  by_cases eq : ref = o
  · subst eq
    rw [inletBuffer, setInlet, node_change_self mem]
    by_cases here : slot = i
    · subst here
      simp [lt]
    · simp [here, inletBuffer, Ne.symm here]
  · rw [inletBuffer, setInlet, node_change_ne eq]
    simp [eq, inletBuffer]

theorem outletBuffer_setOutlet (mem : o < net.size)
    (lt : i < (net.node o).outletBuffers.length) (ref : Ref) (slot : Nat) :
    (net.setOutlet o i b).outletBuffer ref slot =
      if ref = o ∧ slot = i then b else net.outletBuffer ref slot := by
  by_cases eq : ref = o
  · subst eq
    rw [outletBuffer, setOutlet, node_change_self mem]
    by_cases here : slot = i
    · subst here
      simp [lt]
    · simp [here, outletBuffer, Ne.symm here]
  · rw [outletBuffer, setOutlet, node_change_ne eq]
    simp [eq, outletBuffer]

def Fits (net : Net) (o : Ref) : Prop :=
  (net.node o).inletBuffers.length = (net.node o).inlets.length ∧
    (net.node o).outletBuffers.length = (net.node o).outlets.length

theorem Fits.change {f : Node → Node} (fits : net.Fits ref)
    (alike : Alike Node.shape net (net.change o f))
    (inlets : ∀ node, (f node).inletBuffers.length = node.inletBuffers.length)
    (outlets : ∀ node, (f node).outletBuffers.length = node.outletBuffers.length) :
    (net.change o f).Fits ref := by
  rw [Fits, alike.inlets, alike.outlets]
  exact ⟨(node_change_keeps (·.inletBuffers.length) inlets ref).trans fits.1,
    (node_change_keeps (·.outletBuffers.length) outlets ref).trans fits.2⟩

theorem Fits.setInlet (fits : net.Fits ref) : (net.setInlet o i b).Fits ref :=
  fits.change alike_setInlet (by simp) (by simp)

theorem Fits.setOutlet (fits : net.Fits ref) : (net.setOutlet o i b).Fits ref :=
  fits.change alike_setOutlet (by simp) (by simp)

def Keeps (touched : Ref → Prop) (net last : Net) : Prop :=
  ∀ ref, ¬ touched ref → last.node ref = net.node ref

section Keeps

variable {net middle last : Net} {touched more : Ref → Prop} {o : Ref}

theorem Keeps.refl (touched : Ref → Prop) (net : Net) : Keeps touched net net :=
  fun _ _ => rfl

theorem Keeps.trans (first : Keeps touched net middle) (snd : Keeps touched middle last) :
    Keeps touched net last :=
  fun ref out => (snd ref out).trans (first ref out)

theorem Keeps.mono (keeps : Keeps touched net last) (weaker : ∀ ref, touched ref → more ref) :
    Keeps more net last :=
  fun ref out => keeps ref fun mem => out (weaker ref mem)

theorem keeps_change (f : Node → Node) : Keeps (· = o) net ((net.change o f).withPool pool) :=
  fun _ ne => node_change_ne ne f

theorem Keeps.inletBuffer (keeps : Keeps touched net last) (out : ¬ touched o)
    (i : Nat) : last.inletBuffer o i = net.inletBuffer o i := by
  rw [Net.inletBuffer, keeps o out, Net.inletBuffer]

theorem Keeps.outletBuffer (keeps : Keeps touched net last) (out : ¬ touched o)
    (i : Nat) : last.outletBuffer o i = net.outletBuffer o i := by
  rw [Net.outletBuffer, keeps o out, Net.outletBuffer]

theorem Keeps.order (keeps : Keeps touched net last) (out : ¬ touched o) :
    last.order o = net.order o := by
  rw [Net.order, keeps o out, Net.order]

end Keeps

end Net

namespace Build

variable {net : Net} {o : Ref} {i : Nat}

theorem run_retain {more : Int} (held : net.pool.retain b more = .ok (n, pool)) :
    (retain b more).run net = .ok () (net.withPool pool) := by
  rw [retain, run_bind_ok (EStateM.run_get _)]
  simp only [held]
  rfl

theorem run_acquire {kind : BufferKind} (acquired : net.pool.acquire kind n excl = .ok (b, pool)) :
    (acquire kind n excl).run net = .ok b (net.withPool pool) := by
  rw [acquire, run_bind_ok (EStateM.run_get _)]
  simp only [acquired]
  rfl

theorem at?_eq_getD {α : Type} {xs : List α} {k : Int} {i : Nat}
    (named : place? xs.length k = some i) (fallback : α) :
    at? xs k = some (xs.getD i fallback) := by
  have lt := place?_lt named
  simp [at?, named, lt]

theorem run_sourceBuffer {out : Nat} (plain : (net.node w.source).kind.isLanguage = false)
    (named : place? (net.node w.source).outletBuffers.length w.outlet = some out) :
    (sourceBuffer w).run net = .ok (net.outletBuffer w.source out) net := by
  rw [sourceBuffer, run_bind_ok (run_node _ _)]
  simp only [plain, Bool.false_eq_true, if_false]
  exact run_fetch (at?_eq_getD named .zero) net

theorem assignAt_ok {α : Type} {xs : List α} {k : Int}
    (named : place? xs.length k = some i) (x : α) : assignAt xs k x = .ok (xs.set i x) := by
  simp [assignAt, named]

theorem run_readInlet_silent (mute : signals ((net.node o).inlets.getD i []) = []) :
    (readInlet o i).run net = .ok () net := by
  rw [readInlet, run_bind_ok (run_node _ _)]
  simp only [mute]
  rfl

/-- An inlet gets the buffer that its signal is in, and the buffer has one reader less. -/
theorem run_readInlet {out inlet : Nat} (one : signals ((net.node o).inlets.getD i []) = [w])
    (plain : (net.node w.source).kind.isLanguage = false)
    (namedOutlet : place? (net.node w.source).outletBuffers.length w.outlet = some out)
    (namedInlet : place? (net.node o).inletBuffers.length w.inlet = some inlet)
    (held : net.pool.retain (net.outletBuffer w.source out) (-1) = .ok (n, pool)) :
    (readInlet o i).run net =
      .ok () ((net.setInlet o inlet (net.outletBuffer w.source out)).withPool pool) := by
  rw [readInlet, run_bind_ok (run_node _ _)]
  simp only [one]
  rw [run_bind_ok (run_sourceBuffer plain namedOutlet), run_bind_ok (run_node _ _)]
  simp only [assignAt_ok namedInlet]
  rw [run_bind_ok (run_ofExcept_ok _ _), run_bind_ok (run_change _ _ _)]
  have eq : (net.change o fun node => { node with
      inletBuffers := (net.node o).inletBuffers.set inlet (net.outletBuffer w.source out) }) =
      net.setInlet o inlet (net.outletBuffer w.source out) :=
    Net.change_congr rfl
  simp only [eq]
  exact run_retain held

theorem run_outletType {spec : Catalogue.IrSpec} (plain : (net.node o).kind.isLanguage = false)
    (notG : (net.node o).isGraph = false) (notInlet : (net.node o).kind ≠ .inlet)
    (desc : Catalogue.irSpec? (net.node o).type = some spec) (lt : i < spec.outlets.length) :
    (outletType o i).run net = .ok (spec.outlets.getD i .control) net := by
  have low : (lowSpec o).run net = .ok spec net := by
    rw [lowSpec, run_bind_ok (run_node _ _)]
    simp only [desc]
    rfl
  have fetched := run_fetch (at?_eq_getD (place?_ofNat lt) WireType.control) net
  rw [outletType, run_bind_ok (run_node _ _)]
  generalize kindIs : (net.node o).kind = kind at plain notInlet
  have isNotGraph : kind ≠ .graph := by
    rintro rfl
    simp [Node.isGraph, kindIs] at notG
  split
  · cases plain
  · exact absurd rfl notInlet
  · exact absurd rfl isNotGraph
  · rw [plain]
    simp only [Bool.false_eq_true, if_false]
    rw [run_bind_ok low]
    exact fetched

theorem run_fillOutlet_kept {type : WireType}
    (typed : (outletType o i).run net = .ok type net) (lt : i < (net.node o).outletBuffers.length)
    (kept : type.isSignal = true → (net.outletBuffer o i).kind ≠ .zero) :
    (fillOutlet o excl i).run net = .ok excl net := by
  rw [fillOutlet, run_bind_ok typed, run_bind_ok (run_node _ _)]
  rw [run_bind_ok (run_fetch (at?_eq_getD (place?_ofNat lt) Buffer.zero) _)]
  have skipped : (type.isSignal &&
      ((net.node o).outletBuffers.getD i .zero).kind == .zero) = false := by
    rw [Bool.and_eq_false_iff, ← Bool.not_eq_true, beq_eq_false_iff_ne, or_iff_not_imp_left, not_not]
    exact kept
  simp only [skipped, Bool.false_eq_true, if_false]
  rfl

/-- An outlet that sends a signal gets a buffer with as many readers as it has wires. -/
theorem run_fillOutlet {type : WireType}
    (typed : (outletType o i).run net = .ok type net) (isS : type.isSignal = true)
    (lt : i < (net.node o).outletBuffers.length) (empty : (net.outletBuffer o i).kind = .zero)
    (acquired : net.pool.acquire (bufferKind type)
      ((net.node o).outlets.getD i []).length excl = .ok (b, pool)) :
    (fillOutlet o excl i).run net =
      .ok (if ((net.node o).outlets.getD i []).length = 0 then b :: excl
        else excl) ((net.setOutlet o i b).withPool pool) := by
  rw [fillOutlet, run_bind_ok typed, run_bind_ok (run_node _ _)]
  rw [run_bind_ok (run_fetch (at?_eq_getD (place?_ofNat lt) Buffer.zero) _)]
  have needed : (type.isSignal &&
      ((net.node o).outletBuffers.getD i .zero).kind == .zero) = true := by
    rw [isS, Bool.true_and, beq_iff_eq]
    exact empty
  simp only [needed, if_true]
  rw [run_bind_ok (run_acquire acquired)]
  rfl

theorem run_storeOutlet {β : Type} {next : List Wire → Build β}
    (inBuffers : i < (net.node o).outletBuffers.length)
    (inOutlets : i < (net.node o).outlets.length) :
    (do
      let buffers ← ofExcept (assignAt (← node o).outletBuffers i b)
      change o fun node => { node with outletBuffers := buffers }
      next (← fetch (← node o).outlets i)).run net =
        (next ((net.node o).outlets.getD i [])).run (net.setOutlet o i b) := by
  have eq : (net.change o fun node => { node with
      outletBuffers := (net.node o).outletBuffers.set i b }) = net.setOutlet o i b :=
    Net.change_congr rfl
  have outs : ((net.setOutlet o i b).node o).outlets = (net.node o).outlets :=
    Net.alike_setOutlet.outlets o
  rw [run_bind_ok (run_node _ _), assignAt_ok (place?_ofNat inBuffers),
    run_bind_ok (run_ofExcept_ok _ _), run_bind_ok (run_change _ _ _), eq,
    run_bind_ok (run_node _ _), outs,
    run_bind_ok (run_fetch (at?_eq_getD (place?_ofNat inOutlets) ([] : List Wire)) _)]

theorem run_enterInlet_silent {last : Option Ref}
    (mute : signals ((net.node g).inlets.getD i []) = []) :
    (enterInlet g last i).run net = .ok last net := by
  rw [enterInlet, run_bind_ok (run_node _ _)]
  simp only [mute]
  rfl

theorem run_enterInlet {inlet : Ref} {last : Option Ref} {j : Nat}
    (one : signals ((net.node g).inlets.getD i []) = [w])
    (plain : (net.node w.source).kind.isLanguage = false)
    (namedOutlet : place? (net.node w.source).outletBuffers.length w.outlet = some j)
    (got : at? (net.node g).body.inletObjects w.inlet = some inlet)
    (inBuffers : 0 < (net.node inlet).outletBuffers.length)
    (inOutlets : 0 < (net.node inlet).outlets.length)
    (held : net.pool.retain (net.outletBuffer w.source j)
      ((signals ((net.node inlet).outlets.getD 0 [])).length - 1) = .ok (n, pool)) :
    (enterInlet g last i).run net =
      .ok (some inlet) ((net.setOutlet inlet 0 (net.outletBuffer w.source j)).withPool pool) := by
  rw [enterInlet, run_bind_ok (run_node _ _)]
  simp only [one]
  rw [run_bind_ok (run_sourceBuffer plain namedOutlet), run_bind_ok (run_node _ _),
    run_bind_ok (run_fetch got _)]
  exact (run_storeOutlet (i := 0) inBuffers inOutlets).trans (run_bind_ok (run_retain held))

theorem run_fetch_first {wires : List (List Wire)} (lt : 0 < wires.length) :
    (fetch wires 0).run net = .ok (wires.getD 0 []) net :=
  run_fetch (at?_eq_getD (place?_ofNat lt) []) net

theorem run_leaveOutlet_silent {out : Ref} (lt : 0 < (net.node out).inlets.length)
    (mute : signals ((net.node out).inlets.getD 0 []) = []) :
    (leaveOutlet g out i).run net = .ok () net := by
  rw [leaveOutlet, run_bind_ok (run_node _ _), run_bind_ok (run_fetch_first lt), mute]
  rfl

theorem run_leaveOutlet {out : Ref} {j : Nat}
    (lt : 0 < (net.node out).inlets.length) (one : signals ((net.node out).inlets.getD 0 []) = [w])
    (plain : (net.node w.source).kind.isLanguage = false)
    (namedOutlet : place? (net.node w.source).outletBuffers.length w.outlet = some j)
    (inBuffers : i < (net.node g).outletBuffers.length)
    (inOutlets : i < (net.node g).outlets.length)
    (held : net.pool.retain (net.outletBuffer w.source j)
      (((net.node g).outlets.getD i []).length - 1) = .ok (n, pool)) :
    (leaveOutlet g out i).run net =
      .ok () ((net.setOutlet g i (net.outletBuffer w.source j)).withPool pool) := by
  rw [leaveOutlet, run_bind_ok (run_node _ _), run_bind_ok (run_fetch_first lt), one]
  rw [run_bind_ok (run_sourceBuffer plain namedOutlet), run_storeOutlet inBuffers inOutlets]
  exact run_retain held

end Build

end PatchCompiler
