import PatchCompiler.Proofs.Allocation

/-!
# Buffers along the order of signals

Buffering goes through the objects in the order of signals. Between the object that fills a buffer
and one that reads it no other object fills it.
-/

namespace PatchCompiler

open List

variable {done : List Ref} {o g : Ref} {net last : Net}

theorem Precedes.idxOf_lt {xs : List Ref} {first second : Ref} (once : xs.Nodup)
    (pre : Precedes xs first second) : xs.idxOf first < xs.idxOf second := by
  rcases pre with ⟨front, back, rfl, inFront, inBack⟩
  have notFront : second ∉ front := fun mem => disjoint_of_nodup_append once mem inBack
  rw [idxOf_append_of_mem inFront, idxOf_append_of_notMem notFront]
  have := idxOf_lt_length_of_mem inFront
  omega

theorem Precedes.of_idxOf_lt {xs : List Ref} {first second : Ref} (inSecond : second ∈ xs)
    (pre : xs.idxOf first < xs.idxOf second) : Precedes xs first second := by
  have lt := idxOf_lt_length_of_mem inSecond
  refine ⟨xs.take (xs.idxOf second), xs.drop (xs.idxOf second), (take_append_drop ..).symm, ?_, ?_⟩
  · rw [mem_take_iff_getElem]
    exact ⟨xs.idxOf first, by omega, getElem_idxOf (pre.trans lt)⟩
  · rw [mem_drop_iff_getElem]
    exact ⟨0, by omega, by simp⟩

theorem idxOf_middle {rest : List Ref} (once : (done ++ o :: rest).Nodup) :
    (done ++ o :: rest).idxOf o = done.length := by
  have new : o ∉ done := fun old =>
    disjoint_of_nodup_append once old mem_cons_self
  rw [idxOf_append_of_notMem new, idxOf_cons_self, Nat.add_zero]

theorem idxOf_lt_of_mem (mem : o ∈ done) (rest : List Ref) :
    (done ++ rest).idxOf o < done.length := by
  rw [idxOf_append_of_mem mem]
  exact idxOf_lt_length_of_mem mem

namespace Net

/-- An order of the objects that process signals in which wires lead forward. -/
structure Scheduled (net : Net) (g : Ref) (order : List Ref) : Prop where
  nodup : order.Nodup
  mem : ∀ o, o ∈ order ↔ net.Active g o
  forward : ∀ source o, net.Active g source → net.Active g o →
    source ∈ net.sources o → order.idxOf source < order.idxOf o

theorem Ordered.scheduled {walk : Walk} (lvl : net.Level g)
    (wired : net.Wired g) (acyc : net.Acyclic g)
    (vis : Walk.Visits net.sources net.start (net.leaves g) walk) (ord : net.Ordered g walk last) :
    net.Scheduled g (last.node g).body.signalOrder where
  nodup := ord.nodup vis
  mem := fun _ => ord.mem_iff lvl wired acyc vis
  forward := fun _ _ onSrc on w =>
    (ord.precedes lvl wired acyc vis onSrc on w).idxOf_lt (ord.nodup vis)

/-- The state when the signals of a graph have been ordered. -/
structure Sequenced (net : Net) (g : Ref) (cur last : Net) : Prop where
  scheduled : net.Scheduled g (last.order g)
  alike : Alike Node.shape net last
  inletBuffers : ∀ ref, (last.node ref).inletBuffers = (cur.node ref).inletBuffers
  outletBuffers : ∀ ref, (last.node ref).outletBuffers = (cur.node ref).outletBuffers
  orders : ∀ ref, ref ≠ g → last.order ref = cur.order ref
  keeps : Keeps (fun ref => ref = g ∨ ref ∈ net.contents g) cur last
  pool : last.pool = cur.pool

theorem Ordered.keeps {walk : Walk} (wired : net.Wired g)
    (vis : Walk.Visits net.sources net.start (net.leaves g) walk)
    (ordered : net.Ordered g walk last) :
    Keeps (fun ref => ref = g ∨ ref ∈ net.contents g) net last := by
  intro ref out
  rw [not_or] at out
  have unmarked := ordered.unmarked.2 ref
  rw [node_change_ne out.1] at unmarked
  have marks : (last.node ref).ordered = (net.node ref).ordered := by
    rw [Bool.eq_iff_iff, ordered.marks]
    constructor
    · intro ent
      by_contra fresh
      have new : ref ∉ net.start.entered := by simp [start, fresh]
      obtain ⟨first, inLeaves, _, path⟩ := (vis.entered_iff ref).mp ⟨ent, new⟩
      apply out.2
      clear out unmarked ent fresh new
      induction path with
      | refl => exact mem_of_mem_filter inLeaves
      | tail _ step ih => exact wired.source_mem ih step.1
    · intro marked
      apply vis.entered_prefix.subset
      have mem : ref < net.size := by
        by_contra beyond
        rw [node_of_size_le (not_lt.mp beyond)] at marked
        cases marked
      simp [start, marked, mem]
  calc last.node ref = { (last.node ref).unmarked with ordered := (last.node ref).ordered } := rfl
    _ = { (net.node ref).unmarked with ordered := (net.node ref).ordered } := by rw [unmarked, marks]
    _ = net.node ref := rfl

open Build in
/-- Ordering the signals of a graph without cycles, in the course of buffering. -/
theorem run_orderSignals {cur : Net} (alike : Alike Node.shape net cur)
    (isG : (net.node g).isGraph = true)
    (low : ∀ o ∈ net.contents g, net.Lowered o) (wired : net.Wired g) (acyc : net.Acyclic g)
    (unplaced : ∀ o ∈ net.contents g, (cur.node o).ordered = false) :
    ∃ last, (orderSignals g).run cur = .ok () last ∧ net.Sequenced g cur last := by
  have wiredNow := wired.alike alike
  have lvl : cur.Level g := by
    refine ⟨?_, ?_, ?_, ?_⟩
    · rw [alike.1]
      exact lt_size_of_isGraph isG
    · rw [alike.contents]
      exact fun o isIn => (low o isIn).alike alike
    · rwa [alike.contents]
    · exact fun o isIn src inS => .inl (wiredNow.source_mem isIn inS)
  obtain ⟨last, walk, run, vis, ord⟩ := Build.run_orderSignals lvl
  have plan := ord.scheduled lvl wiredNow (acyc.alike alike) vis
  have on : ∀ o, cur.Active g o ↔ net.Active g o := fun o => by
    rw [Active, Active, alike.contents, alike.processes]
  refine ⟨last, run, ⟨plan.nodup, ?_, ?_⟩, alike.trans ord.alike, ord.inletBuffers,
    ord.outletBuffers, ?_, ?_, ord.pool⟩
  · exact fun o => (plan.mem o).trans (on o)
  · intro src o onSrc activeObject isSrc
    rw [← alike.sources] at isSrc
    exact plan.forward src o ((on src).mpr onSrc) ((on o).mpr activeObject) isSrc
  · intro ref ne
    rw [order, ord.unmarked.look (fun n => n.body.signalOrder) rfl, node_change_ne ne, order]
  · have keeps := ord.keeps wiredNow vis
    rwa [alike.contents] at keeps

/-- The state when the objects in front have been gone through. -/
structure Stage (net : Net) (orders : Ref → List Ref) (order done : List Ref) (cur : Net) :
    Prop where
  routed : net.Routed orders (done.flatMap net.openOutlets) (done.flatMap net.heard) cur
  distinct : ∀ o ∈ done, ∀ outlet ∈ net.openOutlets o, ∀ other ∈ net.openOutlets o, outlet ≠ other →
      cur.outletBuffer outlet.1 outlet.2 ≠ cur.outletBuffer other.1 other.2
  clear : ∀ source ∈ done, ∀ o ∈ done, order.idxOf source < order.idxOf o →
    ∀ outlet ∈ net.openOutlets source, ∀ other ∈ net.openOutlets o,
      ∀ w ∈ net.wiresAt outlet, w.isSignal = true → order.idxOf o < order.idxOf w.target →
          cur.outletBuffer outlet.1 outlet.2 ≠ cur.outletBuffer other.1 other.2

theorem mem_openOutlets {out : Ref × Nat} : out ∈ net.openOutlets o ↔ out.1 = o ∧
      out.2 < (net.node o).outlets.length ∧ net.isOpen o out.2 = true := by
  rcases out with ⟨ref, i⟩
  simp only [openOutlets, mem_map, mem_filter, mem_range, Prod.mk.injEq]
  constructor
  · rintro ⟨j, mem, rfl, rfl⟩
    exact ⟨rfl, mem⟩
  · rintro ⟨rfl, mem⟩
    exact ⟨i, mem, rfl, rfl⟩

theorem mem_heard {w : Wire} : w ∈ net.heard o ↔ ∃ i,
      w ∈ (net.node o).inlets.getD i [] ∧ w.isSignal = true := by
  simp only [heard, mem_flatMap, mem_range, mem_signals]
  constructor
  · rintro ⟨i, _, mem⟩
    exact ⟨i, mem⟩
  · rintro ⟨i, mem, isS⟩
    exact ⟨i, lt_length_of_mem_getD mem, mem, isS⟩

namespace Flat

variable {net cur : Net} {g o : Ref} {os : List Ref} {w : Wire}
  {orders : Ref → List Ref} {filled : List (Ref × Nat)} {read : List Wire}

theorem heard_ends (flat : net.Flat g) (isIn : o ∈ net.contents g) (heard : w ∈ net.heard o) :
    w.target = o ∧ w.source ∈ net.sources o := by
  rcases mem_heard.mp heard with ⟨i, mem, _⟩
  have facts := flat.wired.arriving o isIn i w mem
  exact ⟨facts.1, mem_sources mem⟩

open Build in
theorem ends_assignObject (flat : net.Flat g) (on : net.Active g o)
    (routed : net.Routed orders filled read cur) (unrelated : ∀ out ∈ filled, out.1 ≠ o)
    (unread : ∀ w ∈ read, w.target ≠ o) (unsent : ∀ w ∈ read ++ net.heard o, w.source ≠ o) :
    Ends (assignObject o) cur fun _ last =>
      ∃ excl, Filling net orders filled (read ++ net.heard o) cur o
        (List.range (net.node o).outlets.length) excl last := by
  rw [assignObject]
  refine .bind_run (run_node o cur) ?_
  rw [routed.alike.inlets]
  apply Ends.bind (flat.ends_readInlets on.1 routed unread)
  rintro _ mid ⟨routedMiddle, eq⟩
  refine .bind_run (run_node o mid) ?_
  rw [routedMiddle.alike.outlets]
  apply Ends.discard
  refine (flat.ends_fillOutlets on routedMiddle unrelated unsent).mono ?_
  intro excl last filling
  exact ⟨excl, filling.routed, fun y j ne =>
    (filling.others y j ne).trans (eq y j), filling.excluded,
    filling.distinct, filling.clear⟩

end Flat

open Flat in
/-- One more object has its buffers. What it fills is what nobody has to read any more. -/
theorem Stage.next {cur : Net} {rest : List Ref}
    {orders : Ref → List Ref} {excl : List Buffer} (flat : net.Flat g) (plan : net.Scheduled g (done ++ o :: rest))
    (stage : net.Stage orders (done ++ o :: rest) done cur)
    (filling : Filling net orders (done.flatMap net.openOutlets)
      (done.flatMap net.heard ++ net.heard o) cur o
      (List.range (net.node o).outlets.length) excl last) :
    net.Stage orders (done ++ o :: rest) (done ++ [o]) last := by
  have new : o ∉ done := fun old =>
    disjoint_of_nodup_append plan.nodup old mem_cons_self
  have i := idxOf_middle plan.nodup
  have kept : ∀ y ∈ done, ∀ out ∈ net.openOutlets y,
      last.outletBuffer out.1 out.2 = cur.outletBuffer out.1 out.2 := by
    intro y inD out isOpen
    apply filling.others
    rw [(mem_openOutlets.mp isOpen).1]
    rintro rfl
    exact new inD
  have inC : ∀ y ∈ done ++ [o], y ∈ net.contents g := by
    intro y isIn
    have ord : y ∈ done ++ o :: rest := by
      rcases mem_append.mp isIn with inD | here
      · exact mem_append_left _ inD
      · simp [mem_singleton.mp here]
    exact ((plan.mem y).mp ord).1
  refine ⟨?_, ?_, ?_⟩
  · simpa [flatMap_append, openOutlets] using filling.routed
  · intro y isIn out isOpen outlet' isOpen' ne
    rcases mem_append.mp isIn with inD | here
    · rw [kept y inD out isOpen, kept y inD outlet' isOpen']
      exact stage.distinct y inD out isOpen outlet' isOpen' ne
    · rw [mem_singleton.mp here] at isOpen isOpen'
      rcases out with ⟨ref, j⟩
      rcases outlet' with ⟨ref', slot'⟩
      rcases mem_openOutlets.mp isOpen with ⟨rfl, lt, opens⟩
      rcases mem_openOutlets.mp isOpen' with ⟨rfl, bound', opens'⟩
      exact filling.distinct j (mem_range.mpr lt) slot' (mem_range.mpr bound') opens
        opens' fun eq => ne (by rw [eq])
  · intro src inSrc y inOther pre out isOpen outlet' isOpen' w there isS after
    rcases mem_append.mp inOther with inD | here
    · have sourceDone : src ∈ done := by
        rcases mem_append.mp inSrc with inD | here
        · exact inD
        · rw [mem_singleton.mp here, i] at pre
          have := idxOf_lt_of_mem inD (o :: rest)
          omega
      rw [kept src sourceDone out isOpen, kept y inD outlet' isOpen']
      exact stage.clear src sourceDone y inD pre out isOpen outlet' isOpen' w there isS after
    · rw [mem_singleton.mp here] at isOpen' pre after
      rw [i] at pre after
      have sourceDone : src ∈ done := by
        rcases mem_append.mp inSrc with inD | here
        · exact inD
        · rw [mem_singleton.mp here, i] at pre
          omega
      rcases outlet' with ⟨ref', slot'⟩
      rcases mem_openOutlets.mp isOpen' with ⟨eq, bound', opens'⟩
      change ref' = o at eq
      subst eq
      refine (filling.clear slot' (mem_range.mpr bound') opens' out ?_ ?_).symm
      · exact mem_flatMap.mpr ⟨src, sourceDone, isOpen⟩
      · apply unread_pos there
        -- the wire ends at an object that is still to come
        intro old
        have targetDone : w.target ∈ done ++ [ref'] := by
          rcases mem_append.mp old with inD | here
          · rcases mem_flatMap.mp inD with ⟨tgt, inD, heard⟩
            rw [(flat.heard_ends (inC tgt (mem_append_left _ inD)) heard).1]
            exact mem_append_left _ inD
          · rw [(flat.heard_ends (inC ref' (by simp)) here).1]
            simp
        have early := idxOf_lt_of_mem targetDone rest
        rw [append_assoc, singleton_append, length_append] at early
        simp only [length_singleton] at early
        omega

namespace Flat

variable {net cur : Net} {g o : Ref} {os : List Ref} {orders : Ref → List Ref}

theorem not_inside (flat : net.Flat g) : g ∉ net.contents g := by
  intro mem
  rcases flat.objects g mem with ⟨spec, isO⟩
  exact nomatch flat.isGraph.symm.trans isO.notGraph

open Build in
theorem ends_order (flat : net.Flat g) (plan : net.Scheduled g os)
    (stage : net.Stage orders os [] cur) (d : Nat) :
    Ends (os.forM fun o => do
      if (← Build.node o).isGraph then assignWithin d o else assignObject o) cur
      fun _ last => net.Stage orders os os last := by
  apply Ends.forM fun done last => net.Stage orders os done last
  · exact stage
  · rintro done o rest mid rfl stage
    have on := (plan.mem o).mp (by simp)
    have activeDone : ∀ other ∈ done, net.Active g other := fun other inD =>
      (plan.mem other).mp (mem_append_left _ inD)
    have new : o ∉ done := fun old =>
      disjoint_of_nodup_append plan.nodup old mem_cons_self
    have i := idxOf_middle plan.nodup
    rcases flat.objects o on.1 with ⟨spec, isO⟩
    refine .bind_run (run_node o mid) ?_
    rw [stage.routed.alike.isGraph, isO.notGraph]
    have targets : ∀ w ∈ done.flatMap net.heard, w.target ∈ done := by
      intro w inRead
      rcases mem_flatMap.mp inRead with ⟨tgt, inD, heard⟩
      rw [(flat.heard_ends (activeDone tgt inD).1 heard).1]
      exact inD
    refine (flat.ends_assignObject on stage.routed ?_ ?_ ?_).mono ?_
    · rintro out inF rfl
      rcases mem_flatMap.mp inF with ⟨other, inD, isOpen⟩
      rw [(mem_openOutlets.mp isOpen).1] at new
      exact new inD
    · rintro w inRead rfl
      exact new (targets w inRead)
    · -- a wire from the object leads to one that comes later
      rintro w inRead rfl
      rcases mem_append.mp inRead with inD | here
      · rcases mem_flatMap.mp inD with ⟨tgt, inD, heard⟩
        have forward := plan.forward w.source tgt on (activeDone tgt inD)
          (flat.heard_ends (activeDone tgt inD).1 heard).2
        have early := idxOf_lt_of_mem inD (w.source :: rest)
        omega
      · have forward := plan.forward w.source w.source on on (flat.heard_ends on.1 here).2
        omega
    · rintro _ last ⟨excl, filling⟩
      exact stage.next flat plan filling

end Flat

end Net

end PatchCompiler
