import PatchCompiler.Proofs.Schedule

/-!
# A graph with its buffers

Buffering ends with the outlets of the graph. When it is over every inlet has the buffer its signal
is in, and what holds of the buffers along the order of signals is still true.
-/

namespace PatchCompiler

open List

namespace Net

/-- The state at the end: as after the last object, but the wires to the outlet objects have been
read and the outlets of the graph may have other buffers. -/
structure Left (net : Net) (g : Ref) (orders : Ref → List Ref) (filled : List (Ref × Nat))
    (read : List Wire) (cur last : Net) : Prop where
  alike : Alike Node.shape net last
  orders : ∀ ref, last.order ref = orders ref
  fits : ∀ o, net.Fits o → last.Fits o
  inlets : ∀ o place, last.inletBuffer o place = cur.inletBuffer o place
  outlets : ∀ o place, o ≠ g → last.outletBuffer o place = cur.outletBuffer o place
  ledger : Ledger net.wiresAt (fun outlet => cur.outletBuffer outlet.1 outlet.2) filled read
    last.pool

namespace Flat

variable {net cur : Net} {g o : Ref} {os : List Ref} {orders : Ref → List Ref}
  {filled : List (Ref × Nat)} {read : List Wire}

open Build in
theorem ends_leaveOutlet (flat : net.Flat g) {out : Ref} {i : Nat} {mid : Net}
    (isOut : (out, i) ∈ (net.node g).body.outletObjects.zipIdx)
    (unfilled : ∀ o i, (o, i) ∉ filled → o ≠ g → cur.outletBuffer o i = net.outletBuffer o i)
    (new : ∀ w ∈ read, w.target ≠ out) (left : net.Left g orders filled read cur mid) :
    Ends (leaveOutlet g out i) mid fun _ last =>
      net.Left g orders filled (read ++ signals ((net.node out).inlets.getD 0 [])) cur last := by
  rcases flat.outletObjects out (fst_mem_of_mem_zipIdx isOut) with ⟨mem, _, length⟩
  have placeBound : i < (net.node g).outlets.length := by
    rw [flat.outlets]
    exact snd_lt_of_mem_zipIdx isOut
  have lt : 0 < (mid.node out).inlets.length := by
    rw [left.alike.inlets, length]
    exact Nat.zero_lt_one
  have ins := left.alike.inlets out
  rcases signals_of_single (flat.single out mem 0) with heard | ⟨w, arr, heard⟩
  · rw [heard, append_nil]
    refine .of_run (run_leaveOutlet_silent lt ?_) left
    rw [ins, heard]
  · rw [heard]
    rcases flat.wired.arriving out mem 0 w arr with ⟨rfl, src, _⟩
    rcases flat.wired.leaves mem arr with ⟨slot, leaves, starts⟩
    have notG : w.source ≠ g := fun eq => flat.not_inside (eq ▸ src)
    have namedOutlet : place? (mid.node w.source).outletBuffers.length w.outlet = some slot := by
      rw [(left.fits _ (flat.fits_of_mem src)).2, left.alike.outlets]
      exact starts
    have released : ∃ n pool,
        mid.pool.retain (mid.outletBuffer w.source slot) (-1) = .ok (n, pool) ∧
        Ledger net.wiresAt (fun out => cur.outletBuffer out.1 out.2) filled
          (read ++ [w]) pool := by
      rw [left.outlets _ _ notG]
      by_cases inF : (w.source, slot) ∈ filled
      · exact left.ledger.reads inF leaves fun old => new w old rfl
      · refine ⟨0, mid.pool, Pool.retain_uncounted ?_ _, left.ledger.append [w]⟩
        rw [unfilled _ _ inF notG]
        exact flat.uncounted src leaves
    rcases released with ⟨n, pool, held, ledger⟩
    have noReaders : (net.node g).outlets.getD i [] = [] := by
      have there : (net.node g).outlets.getD i [] ∈ (net.node g).outlets := by
        simp [placeBound]
      exact flat.outermost _ (mem_append_right _ there)
    have placeFits : i < (mid.node g).outletBuffers.length := by
      rw [(left.fits g flat.fits).2, left.alike.outlets]
      exact placeBound
    have retainedNow : mid.pool.retain (mid.outletBuffer w.source slot)
        (((mid.node g).outlets.getD i []).length - 1) = .ok (n, pool) := by
      rw [left.alike.outlets, noReaders]
      exact held
    have placeNow : i < (mid.node g).outlets.length := by
      rw [left.alike.outlets]
      exact placeBound
    have one : signals ((mid.node w.target).inlets.getD 0 []) = [w] := by
      rw [ins, heard]
    have plain : (mid.node w.source).kind.isLanguage = false := by
      rw [left.alike.kind]
      exact flat.plain_of_mem src
    refine .of_run (run_leaveOutlet lt one plain namedOutlet placeFits placeNow retainedNow) ?_
    have inNow : g < mid.size := by
      rw [left.alike.1]
      exact lt_size_of_isGraph flat.isGraph
    refine ⟨left.alike.trans (alike_setOutlet.trans alike_withPool), ?_, ?_, ?_, ?_, ledger⟩
    · simpa using left.orders
    · exact fun y otherFits => (left.fits y otherFits).setOutlet
    · simpa using left.inlets
    · intro y otherPlace ne
      simp only [outletBuffer_withPool, outletBuffer_setOutlet inNow placeFits, ne,
        false_and, if_false]
      exact left.outlets y otherPlace ne

open Build in
theorem ends_assignOutlets (flat : net.Flat g) (unfilled : ∀ o i, (o, i) ∉ filled → o ≠ g →
      cur.outletBuffer o i = net.outletBuffer o i)
    (fresh : ∀ w ∈ read, w.target ∉ (net.node g).body.outletObjects)
    (left : net.Left g orders filled read cur cur) : Ends (assignOutlets g) cur fun _ last =>
      ∃ more, net.Left g orders filled (read ++ more) cur last := by
  rw [assignOutlets]
  refine .bind_run (run_node g cur) ?_
  rw [left.alike.outletObjects]
  refine Ends.mono (Ends.forM (fun done last => net.Left g orders filled
    (read ++ done.flatMap fun e => signals ((net.node e.1).inlets.getD 0 [])) cur last)
    (by simpa using left) ?_) fun _ last ok => ⟨_, ok⟩
  rintro done ⟨outlet, i⟩ rest mid split leftMiddle
  have isOut : (outlet, i) ∈ (net.node g).body.outletObjects.zipIdx := by
    simp [split]
  have new : outlet ∉ done.map Prod.fst := by
    have once : ((done ++ (outlet, i) :: rest).map Prod.fst).Nodup := by
      rw [← split, zipIdx_map_fst]
      exact flat.outletNodup
    rw [map_append, map_cons] at once
    exact fun old => disjoint_of_nodup_append once old mem_cons_self
  have freshHere : ∀ w ∈ read ++ done.flatMap fun e =>
      signals ((net.node e.1).inlets.getD 0 []), w.target ≠ outlet := by
    rintro w inRead rfl
    rcases mem_append.mp inRead with old | here
    · exact fresh w old (fst_mem_of_mem_zipIdx isOut)
    · rcases mem_flatMap.mp here with ⟨e, inD, heard⟩
      have mem : e.1 ∈ net.contents g := by
        have isEntry : e ∈ (net.node g).body.outletObjects.zipIdx := by
          simp [split, inD]
        exact (flat.outletObjects _ (fst_mem_of_mem_zipIdx isEntry)).1
      rw [(flat.wired.arriving e.1 mem 0 w (mem_signals.mp heard).1).1] at new
      exact new (mem_map_of_mem inD)
  refine (flat.ends_leaveOutlet isOut unfilled freshHere leftMiddle).mono ?_
  intro _ last leftLast
  simpa [flatMap_append] using leftLast

open Build in
theorem ends_assignInlets (flat : net.Flat g) (alike : Alike Node.shape net cur) :
    Ends (assignInlets g) cur fun _ last => last = cur := by
  have mute : ∀ i, signals ((cur.node g).inlets.getD i []) = [] := by
    intro i
    rw [alike.inlets]
    by_cases lt : i < (net.node g).inlets.length
    · have mem : (net.node g).inlets.getD i [] ∈ (net.node g).inlets := by
        simp [lt]
      rw [flat.outermost _ (mem_append_left _ mem)]
      rfl
    · simp [lt, signals]
  rw [assignInlets]
  refine .bind_run (run_node g cur) (.discard ?_)
  apply Ends.foldlM fun _ _ last => last = cur
  · rfl
  · rintro _ i _ inlet mid _ rfl
    exact .of_run (run_enterInlet_silent (mute i)) rfl

end Flat

/-- What buffering leaves behind at the objects of a graph. -/
structure Allocated (net : Net) (g : Ref) (order : List Ref) (last : Net) : Prop where
  alike : Alike Node.shape net last
  fits : ∀ o, net.Fits o → last.Fits o
  passed : ∀ o ∈ order, ∀ wire ∈ net.heard o, ∀ outlet inlet,
    net.FromOutlet wire outlet → net.ToInlet wire inlet →
      last.inletBuffer o inlet = last.outletBuffer wire.source outlet
  unheard : ∀ o ∈ order, ∀ place, Build.signals ((net.node o).inlets.getD place []) = [] →
      last.inletBuffer o place = net.inletBuffer o place
  closed : ∀ o ∈ order, ∀ place, (o, place) ∉ net.openOutlets o →
    last.outletBuffer o place = net.outletBuffer o place
  pooled : ∀ o ∈ order, ∀ outlet ∈ net.openOutlets o,
    (last.outletBuffer outlet.1 outlet.2).kind = .float ∨
      (last.outletBuffer outlet.1 outlet.2).kind = .integer
  distinct : ∀ o ∈ order, ∀ outlet ∈ net.openOutlets o,
    ∀ other ∈ net.openOutlets o, outlet ≠ other →
      last.outletBuffer outlet.1 outlet.2 ≠ last.outletBuffer other.1 other.2
  clear : ∀ source ∈ order, ∀ o ∈ order, order.idxOf source < order.idxOf o →
    ∀ outlet ∈ net.openOutlets source, ∀ other ∈ net.openOutlets o,
      ∀ wire ∈ net.wiresAt outlet, wire.isSignal = true → order.idxOf o < order.idxOf wire.target →
          last.outletBuffer outlet.1 outlet.2 ≠ last.outletBuffer other.1 other.2
  rising : ∀ count, last.pool.Noted count → 0 ≤ count

namespace Flat

variable {net : Net} {g o : Ref}

theorem outlet_not_active (flat : net.Flat g)
    (isOut : o ∈ (net.node g).body.outletObjects) : ¬ net.Active g o := by
  intro on
  rcases flat.signal_of_active on with ⟨spec, isO, sig⟩
  have desc := isO.described
  rw [(flat.outletObjects o isOut).2.1] at desc
  cases desc
  cases sig

theorem allocated {os : List Ref} {orders : Ref → List Ref} {cur last : Net}
    {more : List Wire} (flat : net.Flat g) (plan : net.Scheduled g os)
    (stage : net.Stage orders os os cur) (left : net.Left g orders (os.flatMap net.openOutlets)
      (os.flatMap net.heard ++ more) cur last) : net.Allocated g os last := by
  have inC : ∀ o ∈ os, o ∈ net.contents g := fun o ord =>
    ((plan.mem o).mp ord).1
  have outs : ∀ o ∈ net.contents g, ∀ place, last.outletBuffer o place = cur.outletBuffer o place :=
    fun o isIn place => left.outlets o place fun eq => flat.not_inside (eq ▸ isIn)
  have openOutlets : ∀ o ∈ os, ∀ out ∈ net.openOutlets o,
      last.outletBuffer out.1 out.2 = cur.outletBuffer out.1 out.2 := by
    intro o ord out isOpen
    apply outs
    rw [(mem_openOutlets.mp isOpen).1]
    exact inC o ord
  refine ⟨left.alike, left.fits, ?_, ?_, ?_, ?_, ?_, ?_, left.ledger.rising⟩
  · intro o ord w heard out i starts ends
    have facts := flat.heard_ends (inC o ord) heard
    rw [left.inlets, outs _ (flat.wired.source_mem (inC o ord) facts.2)]
    have pass := stage.routed.passed w (mem_flatMap.mpr ⟨o, ord, heard⟩) out i starts ends
    rwa [facts.1] at pass
  · intro o ord place mute
    rw [left.inlets]
    apply stage.routed.unheard
    rintro w inRead rfl ends
    rcases mem_flatMap.mp inRead with ⟨tgt, inTarget, heard⟩
    rcases mem_heard.mp heard with ⟨j, there, isS⟩
    rcases flat.wired.arriving tgt (inC tgt inTarget) j w there with
      ⟨rfl, _, named⟩
    cases Option.some.inj (named.symm.trans ends)
    have signals : w ∈ Build.signals ((net.node w.target).inlets.getD place []) :=
      mem_signals.mpr ⟨there, isS⟩
    rw [mute] at signals
    cases signals
  · intro o ord place closed
    rw [outs o (inC o ord)]
    apply stage.routed.unfilled
    intro inF
    rcases mem_flatMap.mp inF with ⟨y, _, isOpen⟩
    cases (mem_openOutlets.mp isOpen).1
    exact closed isOpen
  · intro o ord out isOpen
    rw [openOutlets o ord out isOpen]
    rcases left.ledger.held out (mem_flatMap.mpr ⟨o, ord, isOpen⟩) with
      ⟨count, counted, _⟩
    exact Pool.kind_of_count? counted
  · intro o ord out isOpen y isOpen'
    rw [openOutlets o ord out isOpen, openOutlets o ord y isOpen']
    exact stage.distinct o ord out isOpen y isOpen'
  · intro src inSrc o ord pre out isOpen y isOpen'
    rw [openOutlets src inSrc out isOpen, openOutlets o ord y isOpen']
    exact stage.clear src inSrc o ord pre out isOpen y isOpen'

open Build in
/-- Buffering a graph without graphs in it comes to an end, and leaves behind an order and buffers
as described. -/
theorem run_assignBuffers (flat : net.Flat g) : ∃ last, (assignBuffers g).run net = .ok () last ∧
      net.Scheduled g (last.order g) ∧ net.Allocated g (last.order g) last := by
  have renewedAlike : Alike Node.shape net (net.withPool .empty) := alike_withPool
  obtain ⟨ordered, run, plan, alike, ins, outs, _, _, pool⟩ := Net.run_orderSignals
    renewedAlike flat.isGraph (fun _ => flat.lowered) flat.wired flat.acyclic flat.unplaced
  have inletBuffer : ∀ o place,
      ordered.inletBuffer o place = net.inletBuffer o place := fun o place => by
    rw [Net.inletBuffer, ins]
    rfl
  have outletBuffer : ∀ o place,
      ordered.outletBuffer o place = net.outletBuffer o place := fun o place => by
    rw [Net.outletBuffer, outs]
    rfl
  have fits : ∀ o, net.Fits o → ordered.Fits o := by
    intro o objectFits
    rw [Fits, ins, outs, alike.inlets, alike.outlets]
    exact objectFits
  have start : net.Stage ordered.order (ordered.order g) [] ordered := by
    refine ⟨⟨alike, fun _ => rfl, fits, ?_, ?_, by simp, fun o place _ => inletBuffer o place⟩,
      by simp, by simp⟩
    · rw [pool]
      exact .empty _ _
    · exact fun o place _ => outletBuffer o place
  have ends : Ends (assignBuffers g) net fun _ last =>
      net.Scheduled g (last.order g) ∧ net.Allocated g (last.order g) last := by
    change Ends (assignWithin (net.size + 1) g) (net.withPool .empty) _
    rw [assignWithin]
    refine .bind_run run ?_
    apply Ends.bind (flat.ends_assignInlets alike)
    rintro _ _ rfl
    refine .bind_run (run_node g _) ?_
    apply Ends.bind (flat.ends_order plan start _)
    intro _ middle stage
    have left : net.Left g _ _ _ middle middle := ⟨stage.routed.alike, stage.routed.orders,
      stage.routed.fits, fun _ _ => rfl, fun _ _ _ => rfl, stage.routed.ledger⟩
    refine (flat.ends_assignOutlets (fun o place out _ =>
      stage.routed.unfilled o place out) ?_ left).mono ?_
    · intro w inRead isOut
      rcases mem_flatMap.mp inRead with ⟨tgt, ord, heard⟩
      have on := (plan.mem tgt).mp ord
      rw [(flat.heard_ends on.1 heard).1] at isOut
      exact flat.outlet_not_active isOut on
    · rintro _ last ⟨more, leftLast⟩
      rw [leftLast.orders]
      exact ⟨plan, flat.allocated plan stage leftLast⟩
  rcases ends with ⟨_, last, run, holds⟩
  exact ⟨last, run, holds⟩

end Flat

end Net

end PatchCompiler
