import PatchCompiler.Proofs.Routing

/-!
# Buffers of a graph without graphs in it

What buffering does to the objects of such a graph, one after the other: every inlet gets the buffer
of the outlet its signal comes from, and every outlet that sends a signal gets a buffer that nobody
else will read any more.
-/

namespace PatchCompiler

open List

namespace Net

/-- A low-level object with a buffer at each of its lets. If it processes signals, its outlets are
those of its description. -/
structure IrObject (net : Net) (object : Ref) (spec : Catalogue.IrSpec) : Prop where
  plain : (net.node object).kind.isLanguage = false
  notGraph : (net.node object).isGraph = false
  described : Catalogue.irSpec? (net.node object).type = some spec
  fits : net.Fits object
  outlets : spec.signal = true → (net.node object).outlets.length = spec.outlets.length
  notInlet : spec.signal = true → (net.node object).kind ≠ .inlet

/-- What is left of a channel of an audio output: an adder that adds what arrives to the buffer of
the channel. -/
structure Adder (net : Net) (object : Ref) (channel : Int) : Prop where
  type : (net.node object).type = "__add~f"
  inletBuffers : (net.node object).inletBuffers = [.zero, ⟨.output, channel⟩]
  outletBuffers : (net.node object).outletBuffers = [⟨.output, channel⟩]
  second : (net.node object).inlets.getD 1 [] = []
  last : (net.node object).outlets = [[]]

/-- The buffers an object has before buffering: those of a channel of the audio input or output if
it stands for one, and else the buffer of zeros. -/
inductive Preset (net : Net) (object : Ref) : Prop where
  | blank : (∀ i, net.inletBuffer object i = .zero) →
      (∀ i, net.outletBuffer object i = .zero) → Preset net object
  | input {channel : Int} : (net.node object).type = "__inlet" →
      (∀ i, net.inletBuffer object i = .zero) →
      (net.node object).outletBuffers = [⟨.input, channel⟩] → Preset net object
  | output {channel : Int} : net.Adder object channel → Preset net object

/-- A buffer that a wire comes from before buffering is not one of the pool. -/
theorem Preset.uncounted {net : Net} {o : Ref} {i : Nat} {w : Wire}
    (preset : net.Preset o) (leaves : w ∈ net.wiresAt (o, i)) :
    (net.outletBuffer o i).kind = .zero ∨ (net.outletBuffer o i).kind = .input := by
  cases preset with
  | blank _ outs => simp [outs, Buffer.zero]
  | input _ _ outs =>
    cases i with
    | zero => simp [outletBuffer, outs]
    | succ i => simp [outletBuffer, outs, Buffer.zero]
  | output a =>
    cases i with
    | zero => simp [wiresAt, a.last] at leaves
    | succ i => simp [wiresAt, a.last] at leaves

/-- A graph of low-level objects without graphs in it, before buffering. Its wires are noted at both
ends, make no cycle and bring one signal to an inlet at most; none leads to or from the graph. -/
structure Flat (net : Net) (g : Ref) : Prop where
  isGraph : (net.node g).isGraph = true
  nodup : (net.contents g).Nodup
  objects : ∀ object ∈ net.contents g, ∃ spec, net.IrObject object spec
  preset : ∀ object ∈ net.contents g, net.Preset object
  unplaced : ∀ object ∈ net.contents g, (net.node object).ordered = false
  wired : net.Wired g
  acyclic : net.Acyclic g
  single : ∀ object ∈ net.contents g, ∀ i,
    (Build.signals ((net.node object).inlets.getD i [])).length ≤ 1
  fits : net.Fits g
  outermost : ∀ wires ∈ (net.node g).inlets ++ (net.node g).outlets, wires = []
  outletObjects : ∀ outlet ∈ (net.node g).body.outletObjects, outlet ∈ net.contents g ∧
    (net.node outlet).type = "__outlet" ∧ (net.node outlet).inlets.length = 1
  outletNodup : (net.node g).body.outletObjects.Nodup
  outlets : (net.node g).outlets.length = (net.node g).body.outletObjects.length

theorem Wired.leaves {net : Net} {g o : Ref} {i : Nat} {w : Wire}
    (wired : net.Wired g) (isIn : o ∈ net.contents g) (arr : w ∈ (net.node o).inlets.getD i []) :
    ∃ outlet, w ∈ net.wiresAt (w.source, outlet) ∧ net.FromOutlet w outlet := by
  rcases wired.arriving o isIn i w arr with ⟨rfl, src, _⟩
  have incoming : w ∈ (net.node w.target).incoming := mem_flatten_iff.mpr ⟨i, arr⟩
  have outgoing : w ∈ (net.node w.source).outgoing := by
    rw [← count_pos_iff, wired.agree w src isIn, count_pos_iff]
    exact incoming
  rcases mem_flatten_iff.mp outgoing with ⟨outlet, mem⟩
  exact ⟨outlet, mem, (wired.leaving _ src outlet w mem).2.2⟩

theorem mem_signals {w : Wire} {ws : List Wire} :
    w ∈ Build.signals ws ↔ w ∈ ws ∧ w.isSignal = true :=
  mem_filter

theorem signals_of_single {ws : List Wire} (few : (Build.signals ws).length ≤ 1) :
    Build.signals ws = [] ∨ ∃ w ∈ ws, Build.signals ws = [w] := by
  match eq : Build.signals ws, few with
  | [], _ => exact .inl rfl
  | [w], _ => exact .inr ⟨w, (mem_signals.mp (eq ▸ mem_singleton_self w)).1, rfl⟩

theorem single_of_inlets {net : Net} {o : Ref}
    (few : ∀ ws ∈ (net.node o).inlets, (Build.signals ws).length ≤ 1) (i : Nat) :
    (Build.signals ((net.node o).inlets.getD i [])).length ≤ 1 := by
  by_cases lt : i < (net.node o).inlets.length
  · refine few _ ?_
    simp [lt]
  · simp [lt, Build.signals]

theorem buckets?_of_isSignal {type : WireType} (isS : type.isSignal = true) (pool : Pool) :
    ∃ buckets, pool.buckets? (Build.bufferKind type) = some buckets := by
  cases type <;> first | exact ⟨_, rfl⟩ | cases isS

namespace IrObject

variable {net cur : Net} {o : Ref} {spec : Catalogue.IrSpec} {i : Nat}

theorem signal_of_processes (isO : net.IrObject o spec)
    (runs : net.Processes o) : spec.signal = true := by
  cases runs with
  | object _ desc sig =>
    cases isO.described.symm.trans desc
    exact sig
  | inner contains _ => exact nomatch contains.1.symm.trans isO.notGraph
  | audio isG _ _ => exact nomatch isG.symm.trans isO.notGraph

theorem run_outletType (isO : net.IrObject o spec) (sig : spec.signal = true)
    (alike : Alike Node.shape net cur) (lt : i < (net.node o).outlets.length) :
    (Build.outletType o i).run cur = .ok (spec.outlets.getD i .control) cur := by
  apply Build.run_outletType
  · rw [alike.kind, isO.plain]
  · rw [alike.isGraph, isO.notGraph]
  · rw [alike.kind]
    exact isO.notInlet sig
  · rw [alike.type, isO.described]
  · exact isO.outlets sig ▸ lt

theorem sendsSignal_eq (isO : net.IrObject o spec) (i : Nat) :
    net.sendsSignal o i = (spec.outlets.getD i .control).isSignal := by
  simp [sendsSignal, isO.described]

end IrObject

namespace Flat

variable {net cur : Net} {g o : Ref} {orders : Ref → List Ref} {filled : List (Ref × Nat)} {read : List Wire}
  {i : Nat} {w : Wire}

section

variable (flat : net.Flat g) (mem : o ∈ net.contents g)
include flat mem

theorem fits_of_mem : net.Fits o := by
  rcases flat.objects o mem with ⟨spec, isO⟩
  exact isO.fits

theorem plain_of_mem : (net.node o).kind.isLanguage = false := by
  rcases flat.objects o mem with ⟨spec, isO⟩
  exact isO.plain

theorem lowered : net.Lowered o := by
  rcases flat.objects o mem with ⟨spec, isO⟩
  exact .object isO.plain isO.notGraph isO.described

theorem uncounted (leaves : w ∈ net.wiresAt (o, i)) :
    (net.outletBuffer o i).kind = .zero ∨ (net.outletBuffer o i).kind = .input :=
  (flat.preset o mem).uncounted leaves

end

open Build in
theorem ends_readInlet (flat : net.Flat g) (mem : o ∈ net.contents g)
    (routed : net.Routed orders filled read cur)
    (new : ∀ y ∈ read, y.target = o → ¬ net.ToInlet y i) : Ends (readInlet o i) cur fun _ last =>
      net.Routed orders filled (read ++ signals ((net.node o).inlets.getD i [])) last ∧
        ∀ y slot, last.outletBuffer y slot = cur.outletBuffer y slot := by
  have ins := routed.alike.inlets o
  rcases signals_of_single (flat.single o mem i) with heard | ⟨w, arr, heard⟩
  · rw [heard, append_nil]
    refine .of_run (run_readInlet_silent ?_) ⟨routed, fun _ _ => rfl⟩
    rw [ins, heard]
  · rw [heard]
    rcases flat.wired.arriving o mem i w arr with ⟨rfl, src, ends⟩
    rcases flat.wired.leaves mem arr with ⟨outlet, leaves, starts⟩
    have namedOutlet : place? (cur.node w.source).outletBuffers.length w.outlet = some outlet := by
      rw [(routed.fits _ (flat.fits_of_mem src)).2, routed.alike.outlets]
      exact starts
    have namedInlet : place? (cur.node w.target).inletBuffers.length w.inlet = some i := by
      rw [(routed.fits _ (flat.fits_of_mem mem)).1, routed.alike.inlets]
      exact ends
    have released : ∃ n pool,
        cur.pool.retain (cur.outletBuffer w.source outlet) (-1) = .ok (n, pool) ∧
        Ledger net.wiresAt (fun outlet => cur.outletBuffer outlet.1 outlet.2) filled
          (read ++ [w]) pool := by
      by_cases inF : (w.source, outlet) ∈ filled
      · exact routed.ledger.reads inF leaves fun old => new w old rfl ends
      · refine ⟨0, cur.pool, Pool.retain_uncounted ?_ _, routed.ledger.append [w]⟩
        rw [routed.unfilled _ _ inF]
        exact flat.uncounted src leaves
    rcases released with ⟨n, pool, held, ledger⟩
    refine .of_run (run_readInlet ?_ ?_ namedOutlet namedInlet held) ⟨?_, by simp⟩
    · rw [ins, heard]
    · rw [routed.alike.kind]
      exact flat.plain_of_mem src
    · exact routed.reads (flat.fits_of_mem mem) (flat.lowered mem).lt_size starts ends new ledger

open Build in
theorem ends_readInlets (flat : net.Flat g) (mem : o ∈ net.contents g)
    (routed : net.Routed orders filled read cur) (fresh : ∀ w ∈ read, w.target ≠ o) :
    Ends ((List.range (net.node o).inlets.length).forM (readInlet o)) cur
      fun _ last => net.Routed orders filled (read ++ net.heard o) last ∧
        ∀ y slot, last.outletBuffer y slot = cur.outletBuffer y slot := by
  apply Ends.forM fun done last =>
    net.Routed orders filled (read ++ done.flatMap fun i =>
      signals ((net.node o).inlets.getD i [])) last ∧
    ∀ y slot, last.outletBuffer y slot = cur.outletBuffer y slot
  · exact ⟨by simpa using routed, fun _ _ => rfl⟩
  · rintro done i rest mid split ⟨routedMiddle, eq⟩
    obtain ⟨-, -, new⟩ := eq_length_of_range split
    have freshHere : ∀ y ∈ read ++ done.flatMap fun i =>
        signals ((net.node o).inlets.getD i []),
        y.target = o → ¬ net.ToInlet y i := by
      intro y inRead tgt ends
      rcases mem_append.mp inRead with old | here
      · exact fresh y old tgt
      · rcases mem_flatMap.mp here with ⟨pre, inD, heard⟩
        rcases flat.wired.arriving o mem pre y (mem_signals.mp heard).1 with
          ⟨rfl, _, there⟩
        cases Option.some.inj (there.symm.trans ends)
        exact new inD
    refine (flat.ends_readInlet mem routedMiddle freshHere).mono ?_
    rintro _ last ⟨routedLast, sameLast⟩
    refine ⟨?_, fun y slot => (sameLast y slot).trans (eq y slot)⟩
    simpa [flatMap_append] using routedLast

theorem signal_of_active (flat : net.Flat g) (on : net.Active g o) :
    ∃ spec, net.IrObject o spec ∧ spec.signal = true := by
  rcases flat.objects o on.1 with ⟨spec, isO⟩
  exact ⟨spec, isO, isO.signal_of_processes on.2⟩

/-- An open outlet has got a buffer that was free, and it is excluded if nobody reads it. -/
structure Fills (net : Net) (orders : Ref → List Ref) (filled : List (Ref × Nat))
    (read : List Wire) (cur : Net) (object : Ref) (i : Nat) (excluded next : List Buffer)
    (last : Net) : Prop where
  routed : net.Routed orders (filled ++ [(object, i)]) read last
  others : ∀ other slot, (other, slot) ≠ (object, i) →
    last.outletBuffer other slot = cur.outletBuffer other slot
  free : ∀ outlet ∈ filled, cur.outletBuffer outlet.1 outlet.2 = last.outletBuffer object i →
      unread read (net.wiresAt outlet) = 0 ∧ last.outletBuffer object i ∉ excluded
  next : next = if (net.wiresAt (object, i)).length = 0
    then last.outletBuffer object i :: excluded else excluded

open Build in
theorem ends_fillOutlet (flat : net.Flat g) (on : net.Active g o)
    (routed : net.Routed orders filled read cur) (lt : i < (net.node o).outlets.length)
    (new : (o, i) ∉ filled) (fresh : ∀ w ∈ read, w.source ≠ o) (excl : List Buffer) :
    Ends (fillOutlet o excl i) cur fun next last =>
      (net.isOpen o i = false ∧ next = excl ∧ last = cur) ∨ (net.isOpen o i = true ∧
        Fills net orders filled read cur o i excl next last) := by
  rcases flat.signal_of_active on with ⟨spec, isO, sig⟩
  have boundNow : i < (cur.node o).outletBuffers.length := by
    rw [(routed.fits _ isO.fits).2, routed.alike.outlets]
    exact lt
  have mem : o < cur.size := by
    rw [routed.alike.1]
    exact (flat.lowered on.1).lt_size
  have typed := isO.run_outletType sig routed.alike lt
  have isOpen : net.isOpen o i = ((spec.outlets.getD i .control).isSignal &&
      (cur.outletBuffer o i).kind == .zero) := by
    rw [routed.unfilled _ _ new, Net.isOpen, isO.sendsSignal_eq]
  by_cases opens : net.isOpen o i = true
  · rw [isOpen, Bool.and_eq_true, beq_iff_eq] at opens
    rcases buckets?_of_isSignal opens.1 cur.pool with ⟨bs, got⟩
    rcases routed.ledger.fills got (o, i) excl with
      ⟨given, pool, acquired, _, finished, ledger⟩
    have outs := routed.alike.outlets o
    have here : ((cur.setOutlet o i given).withPool pool).outletBuffer o i = given := by
      simp [outletBuffer_setOutlet mem boundNow]
    have ys : ∀ y slot, (y, slot) ≠ (o, i) →
        ((cur.setOutlet o i given).withPool pool).outletBuffer y slot =
          cur.outletBuffer y slot := by
      intro y slot ne
      have far : ¬ (y = o ∧ slot = i) := by
        rintro ⟨rfl, rfl⟩
        exact ne rfl
      simp [outletBuffer_setOutlet mem boundNow, far]
    have acquiredNow : cur.pool.acquire (bufferKind (spec.outlets.getD i .control))
        ((cur.node o).outlets.getD i []).length excl = .ok (given, pool) := by
      rw [outs]
      exact acquired
    refine .of_run (run_fillOutlet typed opens.1 boundNow opens.2 acquiredNow)
      (.inr ⟨?_, ?_, ys, ?_, ?_⟩)
    · rw [isOpen, Bool.and_eq_true, beq_iff_eq]
      exact opens
    · apply routed.fills isO.fits (flat.lowered on.1).lt_size lt
      · exact fun w inRead eq => absurd eq (fresh w inRead)
      · apply ledger
        · exact here
        · exact fun out inF => ys _ _ fun eq => new (eq ▸ inF)
    · rw [here]
      exact finished
    · rw [here, outs]
      rfl
  · have closed : net.isOpen o i = false := by simpa using opens
    refine .of_run (run_fillOutlet_kept typed boundNow ?_) (.inl ⟨closed, rfl, rfl⟩)
    intro isS zero
    rw [isOpen, isS, zero] at closed
    simp at closed

/-- The state when some places of an object have been gone through. Its open outlets have different
buffers, and none that somebody has to read yet. -/
structure Filling (net : Net) (orders : Ref → List Ref) (filled : List (Ref × Nat))
    (read : List Wire) (cur : Net) (object : Ref) (done : List Nat) (excluded : List Buffer)
    (last : Net) : Prop where
  routed : net.Routed orders (filled ++ (done.filter (net.isOpen object)).map (object, ·)) read last
  others : ∀ other slot, other ≠ object → last.outletBuffer other slot = cur.outletBuffer other slot
  excluded : ∀ i ∈ done, net.isOpen object i = true →
    net.wiresAt (object, i) = [] → last.outletBuffer object i ∈ excluded
  distinct : ∀ i ∈ done, ∀ slot ∈ done, net.isOpen object i = true →
    net.isOpen object slot = true → i ≠ slot →
      last.outletBuffer object i ≠ last.outletBuffer object slot
  clear : ∀ i ∈ done, net.isOpen object i = true → ∀ outlet ∈ filled,
    0 < unread read (net.wiresAt outlet) →
      last.outletBuffer object i ≠ last.outletBuffer outlet.1 outlet.2

theorem Filling.skip {done : List Nat} {excl : List Buffer} {last : Net}
    (filling : Filling net orders filled read cur o done excl last)
    (closed : net.isOpen o i = false) :
    Filling net orders filled read cur o (done ++ [i]) excl last := by
  have old : ∀ j ∈ done ++ [i], net.isOpen o j = true → j ∈ done := by
    intro j mem opens
    rcases mem_append.mp mem with inD | here
    · exact inD
    · rw [mem_singleton.mp here, closed] at opens
      cases opens
  refine ⟨?_, filling.others, ?_, ?_, ?_⟩
  · simpa [closed] using filling.routed
  · exact fun j mem opens => filling.excluded j (old j mem opens) opens
  · exact fun j mem slot' inside' opens opens' =>
      filling.distinct j (old j mem opens) slot' (old slot' inside' opens') opens opens'
  · exact fun j mem opens => filling.clear j (old j mem opens) opens

theorem Filling.next {done : List Nat} {excl next : List Buffer} {mid last : Net}
    (filling : Filling net orders filled read cur o done excl mid)
    (unrelated : ∀ out ∈ filled, out.1 ≠ o) (unsent : ∀ w ∈ read, w.source ≠ o)
    (sends : ∀ slot, ∀ w ∈ net.wiresAt (o, slot), w.source = o)
    (new : i ∉ done) (isOpen : net.isOpen o i = true)
    (fills : Fills net orders (filled ++ (done.filter (net.isOpen o)).map (o, ·)) read mid
      o i excl next last) : Filling net orders filled read cur o (done ++ [i]) next last := by
  have kept : ∀ slot ∈ done, last.outletBuffer o slot = mid.outletBuffer o slot := by
    intro slot inD
    apply fills.others
    rintro ⟨⟩
    exact new inD
  have keptFilled : ∀ out ∈ filled,
      last.outletBuffer out.1 out.2 = mid.outletBuffer out.1 out.2 := by
    intro out inF
    apply fills.others
    rintro ⟨⟩
    exact unrelated _ inF rfl
  -- an earlier outlet of the object has readers, or its buffer is excluded
  have fresh : ∀ slot ∈ done, net.isOpen o slot = true →
      last.outletBuffer o slot ≠ last.outletBuffer o i := by
    intro slot inD opens eq
    have inF : (o, slot) ∈ filled ++ (done.filter (net.isOpen o)).map (o, ·) :=
      mem_append_right _ (mem_map_of_mem (mem_filter.mpr ⟨inD, opens⟩))
    rcases fills.free (o, slot) inF ((kept slot inD).symm.trans eq) with
      ⟨fin, allowed⟩
    rcases eq_nil_or_concat (net.wiresAt (o, slot)) with none | ⟨front, w, some⟩
    · rw [← eq, kept slot inD] at allowed
      exact allowed (filling.excluded slot inD opens none)
    · have there : w ∈ net.wiresAt (o, slot) := by simp [some]
      have unreadWire : w ∉ read := fun old => unsent w old (sends slot w there)
      exact absurd (unread_pos there unreadWire) (by omega)
  refine ⟨?_, ?_, ?_, ?_, ?_⟩
  · simpa [filter_append, isOpen] using fills.routed
  · intro y slot ne
    rw [fills.others y slot fun eq => ne (congrArg Prod.fst eq)]
    exact filling.others y slot ne
  · intro slot mem opens none
    rw [fills.next]
    rcases mem_append.mp mem with inD | here
    · rw [kept slot inD]
      have pre := filling.excluded slot inD opens none
      split
      · exact mem_cons_of_mem _ pre
      · exact pre
    · rw [mem_singleton.mp here] at none ⊢
      simp [none]
  · intro slot mem slot' inside' opens opens' ne
    rcases mem_append.mp mem with inD | here
    · rcases mem_append.mp inside' with inDone' | here'
      · rw [kept slot inD, kept slot' inDone']
        exact filling.distinct slot inD slot' inDone' opens opens' ne
      · rw [mem_singleton.mp here']
        exact fresh slot inD opens
    · rw [mem_singleton.mp here]
      rcases mem_append.mp inside' with inDone' | here'
      · exact (fresh slot' inDone' opens').symm
      · rw [mem_singleton.mp here, mem_singleton.mp here'] at ne
        exact absurd rfl ne
  · intro slot mem opens out inF waiting
    rw [keptFilled out inF]
    rcases mem_append.mp mem with inD | here
    · rw [kept slot inD]
      exact filling.clear slot inD opens out inF waiting
    · rw [mem_singleton.mp here]
      intro eq
      have fin := (fills.free out (mem_append_left _ inF) eq.symm).1
      omega

open Build in
theorem ends_fillOutlets (flat : net.Flat g) (on : net.Active g o)
    (routed : net.Routed orders filled read cur) (unrelated : ∀ out ∈ filled, out.1 ≠ o)
    (unsent : ∀ w ∈ read, w.source ≠ o) :
    Ends ((List.range (net.node o).outlets.length).foldlM (fillOutlet o) []) cur
      fun excl last => Filling net orders filled read cur o
        (List.range (net.node o).outlets.length) excl last := by
  apply Ends.foldlM fun done excl last =>
    Filling net orders filled read cur o done excl last
  · exact ⟨by simpa using routed, fun _ _ _ => rfl, by simp, by simp, by simp⟩
  · rintro done i rest excl mid split filling
    obtain ⟨-, lt, new⟩ := eq_length_of_range split
    have newOutlet : (o, i) ∉ filled ++ (done.filter (net.isOpen o)).map (o, ·) := by
      intro isIn
      rcases mem_append.mp isIn with old | here
      · exact unrelated _ old rfl
      · rcases mem_map.mp here with ⟨j, inD, eq⟩
        cases eq
        exact new (mem_of_mem_filter inD)
    have sends : ∀ j, ∀ w ∈ net.wiresAt (o, j), w.source = o :=
      fun j w mem => (flat.wired.leaving o on.1 j w mem).1
    refine (flat.ends_fillOutlet on filling.routed lt newOutlet unsent excl).mono ?_
    rintro next last (⟨closed, rfl, rfl⟩ | ⟨opens, fills⟩)
    · exact filling.skip closed
    · exact filling.next unrelated unsent sends new opens fills

end Flat

end Net

end PatchCompiler
