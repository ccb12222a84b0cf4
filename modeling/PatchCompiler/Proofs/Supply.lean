import PatchCompiler.Proofs.Hierarchy

/-!
# Where signals come from

A signal crosses the border of a graph at an inlet or an outlet object. Followed backwards it comes
out of one outlet after another until nothing passes it on. In a hierarchy this way is unique and
comes to an end: it goes down into graphs and against the wires of a level, and neither goes on for
ever. So every buffer that a wire may be read from can be retained while buffers are given out, and
what a single object then does changes nothing but the object.
-/

namespace PatchCompiler

namespace Net

open Relation

/-- The signal at the second outlet is the one of the first: it enters a graph at an inlet object,
or it leaves a graph at an outlet object. -/
inductive Passed (net : Net) : Ref × Nat → Ref × Nat → Prop where
  | into {g inlet : Ref} {i slot : Nat} {w : Wire} :
      net.Contains g inlet → (net.node inlet).kind = .inlet → net.HasIndex inlet i →
      w ∈ Build.signals ((net.node g).inlets.getD i []) → net.FromOutlet w slot →
      Passed net (w.source, slot) (inlet, 0)
  | out {g outlet : Ref} {i slot : Nat} {w : Wire} :
      net.Contains g outlet → (net.node outlet).kind = .outlet → net.HasIndex outlet i →
      w ∈ Build.signals ((net.node outlet).inlets.getD 0 []) → net.FromOutlet w slot →
      Passed net (w.source, slot) (g, i)

/-- The outlet that a signal is found to come from if it is followed backwards. -/
def Origin (net : Net) (point origin : Ref × Nat) : Prop :=
  ReflTransGen net.Passed origin point ∧ ∀ source, ¬ net.Passed source origin

theorem not_isGraph_of_inlet {net : Net} {o : Ref} (kind : (net.node o).kind = .inlet) :
    (net.node o).isGraph = false := by
  simp [Node.isGraph, kind]

theorem eq_of_single {ws : List Wire} {first second : Wire}
    (one : (Build.signals ws).length ≤ 1) (inF : first ∈ Build.signals ws)
    (inSecond : second ∈ Build.signals ws) : first = second := by
  obtain ⟨w, heard⟩ : ∃ w, Build.signals ws = [w] :=
    List.length_eq_one_iff.mp (le_antisymm one (List.length_pos_of_mem inF))
  rw [heard, List.mem_singleton] at inF inSecond
  exact inF.trans inSecond.symm

theorem FromOutlet.unique {net : Net} {w : Wire} {j other : Nat}
    (starts : net.FromOutlet w j) (starts' : net.FromOutlet w other) : j = other :=
  Option.some.inj (starts.symm.trans starts')

namespace Stratum

variable {net : Net} {g outlet : Ref} {i : Nat}

theorem outletAt (tier : net.Stratum g) (mem : outlet ∈ net.contents g)
    (kind : (net.node outlet).kind = .outlet) (k : net.HasIndex outlet i) :
    (net.node g).body.outletObjects[i]? = some outlet := by
  obtain ⟨j, got⟩ := List.mem_iff_getElem?.mp (tier.outletListed outlet mem kind)
  have eq := (tier.outletObjects j outlet got).index.unique k
  rwa [eq] at got

theorem inletAt {inlet : Ref} (tier : net.Stratum g) (mem : inlet ∈ net.contents g)
    (kind : (net.node inlet).kind = .inlet) (k : net.HasIndex inlet i) :
    (net.node g).body.inletObjects[i]? = some inlet := by
  obtain ⟨j, index', got⟩ := (tier.inletObjects inlet mem kind).listed
  rwa [index'.unique k] at got

end Stratum

namespace Hierarchy

variable {net : Net} {root g o : Ref} {i : Nat} {w : Wire}

section

variable (tree : net.Hierarchy root) (sub : net.Within root g)
include tree sub

theorem parent_of_arrives
    (arr : w ∈ (net.node g).inlets.getD i []) : ∃ up, net.Within root up ∧ net.Contains up g := by
  rcases sub.cases_tail with rfl | ⟨up, path, isIn⟩
  · by_cases lt : i < (net.node g).inlets.length
    · have mem : (net.node g).inlets.getD i [] ∈ (net.node g).inlets := by
        simp [lt]
      rw [tree.outermost _ mem] at arr
      cases arr
    · simp [lt] at arr
  · exact ⟨up, path, isIn⟩

theorem stratum_of_contains (mem : net.Contains g o) : net.Stratum g :=
  tree.strata g sub mem.1

theorem passed_unique (mem : net.Contains g o) {first second : Ref × Nat}
    (pass : net.Passed first (o, i)) (passed' : net.Passed second (o, i)) :
    first = second := by
  cases pass with
  | into ok kind k heard starts =>
    cases passed' with
    | into holds' _ index' heard' starts' =>
      cases tree.contains_unique ok holds'
      cases k.unique index'
      cases tree.contains_unique ok mem
      obtain ⟨up, near, inP⟩ :=
        tree.parent_of_arrives sub (mem_signals.mp heard).1
      have tier := tree.stratum_of_contains near inP
      cases eq_of_single (tier.single _ inP.2 _) heard heard'
      cases starts.unique starts'
      rfl
    | out holds' _ _ _ _ => exact nomatch holds'.1.symm.trans (not_isGraph_of_inlet kind)
  | out ok kind k heard starts =>
    cases passed' with
    | into _ kind' _ _ _ => exact nomatch ok.1.symm.trans (not_isGraph_of_inlet kind')
    | out holds' kind' index' heard' starts' =>
      have tier := tree.stratum_of_contains (sub.tail mem) ok
      have got := tier.outletAt ok.2 kind k
      have found' := tier.outletAt holds'.2 kind' index'
      cases Option.some.inj (got.symm.trans found')
      cases eq_of_single (tier.single _ ok.2 _) heard heard'
      cases starts.unique starts'
      rfl

/-- Where the ways of the signals that arrive at a graph come to an end, so do those of the signals
in it. -/
theorem acc_of_arrivals
    (arrivals : ∀ i, ∀ w ∈ (net.node g).inlets.getD i [], ∀ j, Acc net.Passed (w.source, j))
    (mem : net.Contains g o) (j : Nat) : Acc net.Passed (o, j) := by
  -- graphs are left for those in them, which are nested less deep
  induction deep : net.depth g using Nat.strong_induction_on generalizing g o j with
  | _ d nesting =>
    subst deep
    have tier := tree.stratum_of_contains sub mem
    have backwards : ∀ item ∈ net.contents g,
        ¬ TransGen (fun a b => a ∈ net.sources b) item item := by
      intro item inItem cycle
      exact tier.acyclic item inItem (transGen_swap.mp cycle)
    have go : ∀ a : {o // o ∈ net.contents g}, ∀ j, Acc net.Passed (a.1, j) := by
      intro a
      induction a using (wellFounded_of_acyclic backwards).induction with
      | _ a srcs =>
        intro j
        refine ⟨_, ?_⟩
        rintro src pass
        have ok : net.Contains g a.1 := ⟨mem.1, a.2⟩
        generalize tgt : (a.1, j) = point at pass
        cases pass with
        | into holds' _ _ heard starts =>
          cases tgt
          cases tree.contains_unique ok holds'
          exact arrivals _ _ (mem_signals.mp heard).1 _
        | out holds' _ _ heard starts =>
          cases tgt
          have inner := tree.stratum_of_contains (sub.tail ok) holds'
          have facts := inner.wired.arriving _ holds'.2 _ _ (mem_signals.mp heard).1
          refine nesting _ ((tree.lowered_within sub).depth_lt ok)
            (sub.tail ok) ?_ ⟨holds'.1, facts.2.1⟩ _ rfl
          intro i w arr j
          have outer := tier.wired.arriving _ a.2 i w arr
          have isSrc : w.source ∈ net.sources a.1 := mem_sources arr
          exact srcs ⟨w.source, outer.2.1⟩ (.single isSrc) j
    exact go ⟨o, mem.2⟩ j

/-- From the outermost graph inwards the ways of all signals come to an end. -/
theorem acc_arrivals :
    ∀ i, ∀ w ∈ (net.node g).inlets.getD i [], ∀ j, Acc net.Passed (w.source, j) := by
  induction sub with
  | refl =>
    intro i w arr
    obtain ⟨up, near, inP⟩ := tree.parent_of_arrives .refl arr
    exact absurd (TransGen.tail' near inP) tree.lowered.not_inside_itself
  | @tail up g near inP ih =>
    intro i w arr j
    have tier := tree.stratum_of_contains near inP
    have facts := tier.wired.arriving _ inP.2 i w arr
    exact tree.acc_of_arrivals near ih ⟨inP.1, facts.2.1⟩ j

theorem exists_origin (mem : net.Contains g o) (j : Nat) : ∃ origin, net.Origin (o, j) origin := by
  have ends := tree.acc_of_arrivals sub (tree.acc_arrivals sub) mem j
  generalize (o, j) = point at ends
  induction ends with
  | intro point _ ih =>
    by_cases more : ∃ src, net.Passed src point
    · obtain ⟨src, pass⟩ := more
      obtain ⟨origin, path, first⟩ := ih src pass
      exact ⟨origin, path.tail pass, first⟩
    · exact ⟨point, .refl, fun src pass => more ⟨src, pass⟩⟩

end

end Hierarchy

end Net

open List

variable {places : List Nat} {last : Net} {spec : Catalogue.IrSpec}

namespace Pool

/-- The buffer can be retained: it is one of the pool, or it is not counted. -/
def Holds (pool : Pool) (b : Buffer) : Prop :=
  (b.kind = .zero ∨ b.kind = .input) ∨ ∃ count, pool.count? b = some count

variable {pool last : Pool} {b given : Buffer} {n : Int}

theorem Recounts.holds (recounts : pool.Recounts given n last) (ok : pool.Holds b) :
    last.Holds b := by
  rcases ok with uncounted | ⟨old, cnt⟩
  · exact .inl uncounted
  · right
    rw [recounts.count?]
    by_cases eq : b = given
    · exact ⟨n, if_pos eq⟩
    · exact ⟨old, by rw [if_neg eq, cnt]⟩

theorem Sound.retain_held (sound : pool.Sound) (holds : pool.Holds b) (more : Int) :
    ∃ n last, pool.retain b more = .ok (n, last) ∧ last.Sound ∧
      ∀ other, pool.Holds other → last.Holds other := by
  rcases holds with uncounted | ⟨n, cnt⟩
  · exact ⟨0, pool, retain_uncounted uncounted more, sound, fun _ => id⟩
  · obtain ⟨last, held, recounts⟩ := sound.retain cnt more
    exact ⟨n + more, last, held, recounts.sound, fun _ => recounts.holds⟩

end Pool

namespace Net

/-- The state of buffering in a hierarchy: all buffers that are read can be retained. -/
structure Supplied (net : Net) (root : Ref) (cur : Net) : Prop where
  alike : Alike Node.shape net cur
  fits : ∀ o, net.Fits o → cur.Fits o
  sound : cur.pool.Sound
  held : ∀ o i, net.Within root o → net.wiresAt (o, i) ≠ [] → cur.pool.Holds (cur.outletBuffer o i)

section Supplied

variable {net cur : Net} {root g o : Ref} {i : Nat} {b : Buffer} {pool : Pool}

theorem Supplied.setInlet (fed : net.Supplied root cur) (sound : pool.Sound)
    (held : ∀ y, cur.pool.Holds y → pool.Holds y) :
    net.Supplied root ((cur.setInlet o i b).withPool pool) where
  alike := fed.alike.trans (alike_setInlet.trans alike_withPool)
  fits := fun y fits => (fed.fits y fits).setInlet
  sound := sound
  held := by
    intro y j sub ws
    rw [pool_withPool, outletBuffer_withPool, outletBuffer_setInlet]
    exact held _ (fed.held y j sub ws)

theorem Supplied.setOutlet (fed : net.Supplied root cur) (mem : o < cur.size)
    (lt : i < (cur.node o).outletBuffers.length) (sound : pool.Sound)
    (held : ∀ y, cur.pool.Holds y → pool.Holds y) (new : pool.Holds b) :
    net.Supplied root ((cur.setOutlet o i b).withPool pool) where
  alike := fed.alike.trans (alike_setOutlet.trans alike_withPool)
  fits := fun y fits => (fed.fits y fits).setOutlet
  sound := sound
  held := by
    intro y j sub ws
    rw [pool_withPool, outletBuffer_withPool, outletBuffer_setOutlet mem lt]
    split
    · exact new
    · exact held _ (fed.held y j sub ws)

/-- What is known of a wire that arrives at an object of a level. -/
structure Arrives (net cur : Net) (wire : Wire) (i slot : Nat) : Prop where
  starts : net.FromOutlet wire slot
  ends : net.ToInlet wire i
  plain : (cur.node wire.source).kind.isLanguage = false
  named : place? (cur.node wire.source).outletBuffers.length wire.outlet = some slot
  held : cur.pool.Holds (cur.outletBuffer wire.source slot)

theorem Hierarchy.fits (tree : net.Hierarchy root) (sub : net.Within root g)
    (mem : net.Contains g o) : net.Fits o := by
  cases isG : (net.node o).isGraph with
  | true => exact (tree.strata o (sub.tail mem) isG).fits
  | false =>
    obtain ⟨spec, isO⟩ :=
      (tree.stratum_of_contains sub mem).objects o mem.2 isG
    exact isO.fits

theorem Supplied.arrives (fed : net.Supplied root cur) (tree : net.Hierarchy root)
    (sub : net.Within root g) (mem : net.Contains g o) {w : Wire}
    (arr : w ∈ (net.node o).inlets.getD i []) : w.target = o ∧ net.Contains g w.source ∧
      ∃ slot, net.Arrives cur w i slot := by
  have tier := tree.stratum_of_contains sub mem
  obtain ⟨rfl, src, ends⟩ := tier.wired.arriving o mem.2 i w arr
  obtain ⟨slot, leaves, starts⟩ := tier.wired.leaves mem.2 arr
  have ok : net.Contains g w.source := ⟨mem.1, src⟩
  refine ⟨rfl, ok, slot, starts, ends, ?_, ?_, ?_⟩
  · rw [fed.alike.kind]
    exact (tree.lowered_within (sub.tail ok)).not_language
  · rw [(fed.fits _ (tree.fits sub ok)).2, fed.alike.outlets]
    exact starts
  · exact fed.held _ _ (sub.tail ok) (ne_nil_of_mem leaves)

end Supplied

section Steps

variable {net cur : Net} {root g o : Ref} {i : Nat}

/-- An inlet has got the buffer its signal is in, and nothing else has changed. -/
structure Reads (net : Net) (root o : Ref) (places : List Nat) (cur last : Net) : Prop where
  supplied : net.Supplied root last
  keeps : Keeps (· = o) cur last
  outlets : ∀ slot, last.outletBuffer o slot = cur.outletBuffer o slot
  heard : ∀ i ∈ places, ∀ wire ∈ Build.signals ((net.node o).inlets.getD i []), ∀ slot,
    net.FromOutlet wire slot → last.inletBuffer o i = cur.outletBuffer wire.source slot
  others : ∀ i ∉ places, last.inletBuffer o i = cur.inletBuffer o i

theorem Reads.outletBuffer (reads : net.Reads root o places cur last) (ref : Ref) (slot : Nat) :
    last.outletBuffer ref slot = cur.outletBuffer ref slot := by
  by_cases eq : ref = o
  · rw [eq, reads.outlets]
  · exact reads.keeps.outletBuffer eq slot

theorem Reads.append {more : List Nat} {mid : Net} (first : net.Reads root o places cur mid)
    (snd : net.Reads root o more mid last) (sep : ∀ i ∈ places, i ∉ more) :
    net.Reads root o (places ++ more) cur last where
  supplied := snd.supplied
  keeps := first.keeps.trans snd.keeps
  outlets := fun j => (snd.outlets j).trans (first.outlets j)
  heard := by
    intro i mem w heard j starts
    rcases mem_append.mp mem with inF | inSecond
    · rw [snd.others i (sep i inF)]
      exact first.heard i inF w heard j starts
    · rw [snd.heard i inSecond w heard j starts, first.outletBuffer]
  others := by
    intro i out
    rw [mem_append, not_or] at out
    rw [snd.others i out.2, first.others i out.1]

open Build in
theorem Supplied.ends_readInlet (fed : net.Supplied root cur)
    (tree : net.Hierarchy root) (sub : net.Within root g) (mem : net.Contains g o) (i : Nat) :
    Ends (readInlet o i) cur fun _ last =>
      net.Reads root o [i] cur last := by
  have ins := fed.alike.inlets o
  rcases signals_of_single ((tree.stratum_of_contains sub mem).single o mem.2 i) with
    heard | ⟨w, there, heard⟩
  · refine .of_run (run_readInlet_silent ?_) ⟨fed, .refl _ _, fun _ => rfl, ?_, fun _ _ => rfl⟩
    · rw [ins, heard]
    · intro y here w mem
      rw [mem_singleton.mp here, heard] at mem
      cases mem
  · obtain ⟨rfl, src, j, arr⟩ := fed.arrives tree sub mem there
    obtain ⟨n, pool, retained, ok, held⟩ := fed.sound.retain_held arr.held (-1)
    have fits := fed.fits _ (tree.fits sub mem)
    have lt : i < (cur.node w.target).inletBuffers.length := by
      rw [fits.1, fed.alike.inlets]
      exact place?_lt arr.ends
    have namedInlet : place? (cur.node w.target).inletBuffers.length w.inlet = some i := by
      rw [fits.1, fed.alike.inlets]
      exact arr.ends
    have inNow : w.target < cur.size := by
      rw [fed.alike.1]
      exact (tree.lowered_within (sub.tail mem)).lt_size
    have one : signals ((cur.node w.target).inlets.getD i []) = [w] := by
      rw [ins, heard]
    refine .of_run (run_readInlet one arr.plain arr.named namedInlet retained)
      ⟨fed.setInlet ok held, keeps_change _, by simp, ?_, ?_⟩
    · intro y here wire' inside' slot' starts
      rw [mem_singleton.mp here, heard, mem_singleton] at inside'
      subst inside'
      rw [mem_singleton.mp here, starts.unique arr.starts, inletBuffer_withPool,
        inletBuffer_setInlet inNow lt, if_pos ⟨rfl, rfl⟩]
    · intro y far
      rw [mem_singleton] at far
      rw [inletBuffer_withPool, inletBuffer_setInlet inNow lt]
      simp [far]

open Build in
theorem Supplied.ends_readInlets (fed : net.Supplied root cur)
    (tree : net.Hierarchy root) (sub : net.Within root g) (mem : net.Contains g o) (n : Nat) :
    Ends ((List.range n).forM (readInlet o)) cur fun _ last =>
      net.Reads root o (List.range n) cur last := by
  apply Ends.forM fun done last => net.Reads root o done cur last
  · exact ⟨fed, .refl _ _, fun _ => rfl, by simp, fun _ _ => rfl⟩
  · intro done i rest mid split reads
    refine (reads.supplied.ends_readInlet tree sub mem i).mono ?_
    intro _ last readsPlace
    refine reads.append readsPlace fun y inD here => ?_
    rw [mem_singleton.mp here] at inD
    exact (eq_length_of_range split).2.2 inD

/-- Open outlets have got buffers of the pool, and nothing else has changed. -/
structure Pours (net : Net) (root o : Ref) (places : List Nat) (cur last : Net) : Prop where
  supplied : net.Supplied root last
  keeps : Keeps (· = o) cur last
  inlets : ∀ slot, last.inletBuffer o slot = cur.inletBuffer o slot
  pooled : ∀ i ∈ places, net.isOpen o i = true → last.outletBuffer o i ≠ .zero
  closed : ∀ i, i ∉ places ∨ net.isOpen o i = false → last.outletBuffer o i = cur.outletBuffer o i

open Build in
theorem Supplied.ends_fillOutlet (fed : net.Supplied root cur)
    (isO : net.IrObject o spec) (sig : spec.signal = true) (lt : i < (net.node o).outlets.length)
    (new : cur.outletBuffer o i = net.outletBuffer o i) (excl : List Buffer) :
    Ends (fillOutlet o excl i) cur fun _ last =>
      net.Pours root o [i] cur last := by
  have typed := isO.run_outletType sig fed.alike lt
  have boundNow : i < (cur.node o).outletBuffers.length := by
    rw [(fed.fits _ isO.fits).2, fed.alike.outlets]
    exact lt
  have mem : o < cur.size := by
    rw [fed.alike.1]
    exact (Lowered.object isO.plain isO.notGraph isO.described).lt_size
  have isOpen : net.isOpen o i = ((spec.outlets.getD i .control).isSignal &&
      (cur.outletBuffer o i).kind == .zero) := by
    rw [new, Net.isOpen, isO.sendsSignal_eq]
  cases opens : net.isOpen o i with
  | true =>
    rw [opens, eq_comm, Bool.and_eq_true, beq_iff_eq] at isOpen
    obtain ⟨bs, got⟩ := buckets?_of_isSignal isOpen.1 cur.pool
    obtain ⟨given, pool, acquired, _, _, recounts⟩ := fed.sound.acquire got
      ((cur.node o).outlets.getD i []).length excl
    have cnt : pool.count? given = some (((cur.node o).outlets.getD i []).length : Int) := by
      rw [recounts.count?, if_pos rfl]
    refine .of_run (run_fillOutlet typed isOpen.1 boundNow isOpen.2 acquired)
      ⟨fed.setOutlet mem boundNow recounts.sound (fun _ => recounts.holds)
        (.inr ⟨_, cnt⟩), keeps_change _, by simp, ?_, ?_⟩
    · intro y here _ zero
      rw [mem_singleton.mp here, outletBuffer_withPool, outletBuffer_setOutlet mem boundNow,
        if_pos ⟨rfl, rfl⟩] at zero
      have kind := Pool.kind_of_count? cnt
      simp [zero, Buffer.zero] at kind
    · intro y out
      have far : y ≠ i := by
        rintro rfl
        rcases out with notHere | closed
        · exact notHere (mem_singleton_self _)
        · rw [opens] at closed
          cases closed
      rw [outletBuffer_withPool, outletBuffer_setOutlet mem boundNow, if_neg fun eq => far eq.2]
  | false =>
    refine .of_run (run_fillOutlet_kept typed boundNow ?_)
      ⟨fed, .refl _ _, fun _ => rfl, ?_, fun _ _ => rfl⟩
    · intro isS zero
      rw [opens, isS, zero] at isOpen
      simp at isOpen
    · intro y here isTrue
      rw [mem_singleton.mp here, opens] at isTrue
      cases isTrue

theorem Pours.append {mid : Net} (first : net.Pours root o places cur mid)
    (snd : net.Pours root o [i] mid last) (new : i ∉ places) :
    net.Pours root o (places ++ [i]) cur last where
  supplied := snd.supplied
  keeps := first.keeps.trans snd.keeps
  inlets := fun j => (snd.inlets j).trans (first.inlets j)
  pooled := by
    intro j mem isOpen
    rcases mem_append.mp mem with inF | here
    · rw [snd.closed j]
      · exact first.pooled j inF isOpen
      · left
        rintro here
        rw [mem_singleton.mp here] at inF
        exact new inF
    · exact snd.pooled j here isOpen
  closed := by
    intro j out
    rw [snd.closed j, first.closed j]
    · exact out.imp_left fun notIn mem => notIn (mem_append_left _ mem)
    · exact out.imp_left fun notIn mem => notIn (mem_append_right _ mem)

open Build in
theorem Supplied.ends_fillOutlets (fed : net.Supplied root cur)
    (isO : net.IrObject o spec) (sig : spec.signal = true)
    (fresh : ∀ i, cur.outletBuffer o i = net.outletBuffer o i) :
    Ends ((List.range (net.node o).outlets.length).foldlM (fillOutlet o) []) cur fun _ last =>
        net.Pours root o (List.range (net.node o).outlets.length) cur last := by
  apply Ends.foldlM fun done _ last => net.Pours root o done cur last
  · exact ⟨fed, .refl _ _, fun _ => rfl, by simp, fun _ _ => rfl⟩
  · intro done i rest excl mid split pours
    obtain ⟨-, lt, new⟩ := eq_length_of_range split
    have still := (pours.closed i (.inl new)).trans (fresh i)
    refine (pours.supplied.ends_fillOutlet isO sig lt still excl).mono ?_
    intro _ last poursPlace
    exact pours.append poursPlace new

/-- A low-level object reads the outlets its signals come from and has buffers of the pool at its
open outlets. -/
structure Served (net : Net) (o : Ref) (last : Net) : Prop where
  heard : ∀ i, ∀ wire ∈ Build.signals ((net.node o).inlets.getD i []), ∀ slot,
    net.FromOutlet wire slot → last.inletBuffer o i = last.outletBuffer wire.source slot
  pooled : ∀ i, net.isOpen o i = true → last.outletBuffer o i ≠ .zero
  closed : ∀ i, net.isOpen o i = false → last.outletBuffer o i = net.outletBuffer o i

open Build in
theorem Supplied.ends_assignObject (fed : net.Supplied root cur)
    (tree : net.Hierarchy root) (sub : net.Within root g)
    (on : net.Active g o) (isO : net.IrObject o spec) (isG : (net.node g).isGraph = true)
    (new : ∀ i, cur.outletBuffer o i = net.outletBuffer o i) :
    Ends (assignObject o) cur fun _ last =>
      net.Supplied root last ∧ Keeps (· = o) cur last ∧ net.Served o last := by
  have mem : net.Contains g o := ⟨isG, on.1⟩
  have tier := tree.stratum_of_contains sub mem
  have sig := isO.signal_of_processes on.2
  rw [assignObject]
  refine .bind_run (run_node o cur) ?_
  rw [fed.alike.inlets]
  apply Ends.bind (fed.ends_readInlets tree sub mem _)
  intro _ mid reads
  refine .bind_run (run_node o mid) ?_
  rw [reads.supplied.alike.outlets]
  apply Ends.discard
  have still := fun i => (reads.outlets i).trans (new i)
  refine (reads.supplied.ends_fillOutlets isO sig still).mono ?_
  intro _ last pours
  refine ⟨pours.supplied, reads.keeps.trans pours.keeps, ?_, ?_, ?_⟩
  · intro i w heard j starts
    have there := (mem_signals.mp heard).1
    have lt := mem_range.mpr (lt_length_of_mem_getD there)
    -- the source is another object, so it has not been changed
    have isSrc : w.source ∈ net.sources o := mem_sources there
    have off : w.source ≠ o := by
      intro eq
      exact tier.acyclic o mem.2 (.single (eq ▸ isSrc))
    rw [pours.inlets, reads.heard i lt w heard j starts,
      pours.keeps.outletBuffer off, reads.outletBuffer]
  · intro i isOpen
    refine pours.pooled i ?_ isOpen
    rw [mem_range, isO.outlets sig]
    by_contra out
    have mute : net.sendsSignal o i = false := by
      rw [isO.sendsSignal_eq]
      simp [out, WireType.isSignal]
    simp [Net.isOpen, mute] at isOpen
  · intro i closed
    rw [pours.closed i (.inr closed)]
    exact still i

end Steps

end Net

end PatchCompiler
