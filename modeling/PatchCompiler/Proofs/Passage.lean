import PatchCompiler.Proofs.Schedule
import PatchCompiler.Proofs.Supply

/-!
# Into a graph and out of it

The buffers that arrive at a graph are passed on to its inlet objects, and those that arrive at its
outlet objects to the outlets of the graph.
-/

namespace PatchCompiler.Net

open List

variable {net cur : Net} {root g : Ref}

theorem Hierarchy.not_contains_self (tree : net.Hierarchy root)
    (sub : net.Within root g) : ¬ net.Contains g g :=
  fun mem => tree.not_inside_itself sub (.single mem)

/-- The inlet objects for some inlets have got the buffers that arrive there. -/
structure Enters (net : Net) (root g : Ref) (places : List Nat) (cur last : Net) : Prop where
  supplied : net.Supplied root last
  keeps : Keeps (fun ref => net.Contains g ref ∧ (net.node ref).kind = .inlet) cur last
  passed : ∀ place ∈ places, ∀ inlet ∈ net.contents g, (net.node inlet).kind = .inlet →
    net.HasIndex inlet place → ∀ wire ∈ Build.signals ((net.node g).inlets.getD place []),
      ∀ slot, net.FromOutlet wire slot →
        last.outletBuffer inlet 0 = cur.outletBuffer wire.source slot
  others : ∀ inlet place slot, net.HasIndex inlet place →
    (place ∉ places ∨ slot ≠ 0 ∨ Build.signals ((net.node g).inlets.getD place []) = []) →
      last.outletBuffer inlet slot = cur.outletBuffer inlet slot

/-- Some outlets of a graph have got the buffers that arrive at their outlet objects. -/
structure Exits (net : Net) (root g : Ref) (places : List Nat) (cur last : Net) : Prop where
  supplied : net.Supplied root last
  keeps : Keeps (· = g) cur last
  order : last.order g = cur.order g
  passed : ∀ place ∈ places, ∀ outlet, net.OutletObject g outlet place →
    ∀ wire ∈ Build.signals ((net.node outlet).inlets.getD 0 []), ∀ slot, net.FromOutlet wire slot →
      last.outletBuffer g place = cur.outletBuffer wire.source slot
  others : ∀ place, (place ∉ places ∨ ∀ outlet, net.OutletObject g outlet place →
    Build.signals ((net.node outlet).inlets.getD 0 []) = []) →
      last.outletBuffer g place = cur.outletBuffer g place

open Build

variable (fed : net.Supplied root cur) (tree : net.Hierarchy root) (sub : net.Within root g)
  (isG : (net.node g).isGraph = true)
include fed tree sub isG

theorem Supplied.ends_enterInlet (last : Option Ref) (i : Nat) :
    Ends (enterInlet g last i) cur fun _ last => net.Enters root g [i] cur last := by
  have ins := fed.alike.inlets g
  have few : (signals ((net.node g).inlets.getD i [])).length ≤ 1 := by
    by_contra more
    obtain ⟨w, arr⟩ := exists_mem_of_length_pos (not_le.mp more).le
    obtain ⟨up, near, inP⟩ := tree.parent_of_arrives sub (mem_signals.mp arr).1
    exact more ((tree.stratum_of_contains near inP).single g inP.2 i)
  rcases signals_of_single few with heard | ⟨w, mem, heard⟩
  · refine .of_run (run_enterInlet_silent ?_) ⟨fed, .refl _ _, ?_, fun _ _ _ _ _ => rfl⟩
    · rw [ins, heard]
    · intro other here _ _ _ _ w isIn
      rw [mem_singleton.mp here, heard] at isIn
      cases isIn
  · obtain ⟨up, near, inP⟩ := tree.parent_of_arrives sub mem
    obtain ⟨rfl, src, j, arr⟩ := fed.arrives tree near inP mem
    have tier := tree.strata w.target sub isG
    obtain ⟨inlet, isIn, kind, k⟩ := tier.arrivals i (ne_nil_of_mem mem)
    have isInlet := tier.inletObjects inlet isIn kind
    have listed := tier.inletAt isIn kind k
    have ok : net.Contains w.target inlet := ⟨isG, isIn⟩
    have fits := fed.fits inlet (tree.fits sub ok)
    have inOutlets : 0 < (cur.node inlet).outlets.length := by
      rw [fed.alike.outlets, isInlet.outlets]
      exact Nat.zero_lt_one
    have inBuffers : 0 < (cur.node inlet).outletBuffers.length := by
      rw [fits.2]
      exact inOutlets
    have inNow : inlet < cur.size := by
      rw [fed.alike.1]
      exact (tree.lowered_within (sub.tail ok)).lt_size
    have got : at? (cur.node w.target).body.inletObjects w.inlet = some inlet := by
      have named := arr.ends
      rw [ToInlet, tier.inlets] at named
      rw [fed.alike.inletObjects]
      simp [at?, named, listed]
    have one : signals ((cur.node w.target).inlets.getD i []) = [w] := by
      rw [ins, heard]
    obtain ⟨n, pool, retained, sound, held⟩ := fed.sound.retain_held arr.held
      ((signals ((cur.node inlet).outlets.getD 0 [])).length - 1)
    refine .of_run (run_enterInlet one arr.plain arr.named got inBuffers inOutlets
      retained) ⟨fed.setOutlet inNow inBuffers sound held (held _ arr.held), ?_, ?_, ?_⟩
    · exact (keeps_change _).mono fun ref eq => eq ▸ ⟨ok, kind⟩
    · intro other here inlet' inside' kind' index' wire' heard' slot' starts
      rw [mem_singleton.mp here] at index' heard'
      have eq := (tier.inletAt inside' kind' index').symm.trans listed
      rw [heard, mem_singleton] at heard'
      subst heard'
      rw [Option.some.inj eq, outletBuffer_withPool, outletBuffer_setOutlet inNow inBuffers,
        if_pos ⟨rfl, rfl⟩, starts.unique arr.starts]
    · intro inlet' place' slot' index' out
      rw [outletBuffer_withPool, outletBuffer_setOutlet inNow inBuffers, if_neg]
      rintro ⟨rfl, rfl⟩
      cases k.unique index'
      rcases out with far | other | silent
      · exact far (mem_singleton_self _)
      · exact other rfl
      · cases heard.symm.trans silent

theorem Supplied.ends_assignInlets : Ends (assignInlets g) cur fun _ last =>
    net.Enters root g (List.range (net.node g).inlets.length) cur last := by
  rw [assignInlets]
  refine .bind_run (run_node g cur) (.discard ?_)
  rw [fed.alike.inlets]
  apply Ends.foldlM fun done _ last => net.Enters root g done cur last
  · exact ⟨fed, .refl _ _, by simp, fun _ _ _ _ _ => rfl⟩
  · intro done i rest inlet mid split enters
    refine (enters.supplied.ends_enterInlet tree sub isG inlet i).mono ?_
    intro _ last more
    obtain ⟨-, -, new⟩ := eq_length_of_range split
    refine ⟨more.supplied, enters.keeps.trans more.keeps, ?_, ?_⟩
    · intro y mem inlet inC kind k w heard j starts
      rcases mem_append.mp mem with inD | here
      · have far : y ∉ [i] := by
          intro here
          rw [mem_singleton.mp here] at inD
          exact new inD
        rw [more.others inlet y 0 k (.inl far)]
        exact enters.passed y inD inlet inC kind k w heard j starts
      · rw [more.passed y here inlet inC kind k w heard j starts]
        -- what arrives comes from outside, where nothing has changed
        apply enters.keeps.outletBuffer
        rintro ⟨ok, _⟩
        obtain ⟨up, near, inP⟩ :=
          tree.parent_of_arrives sub (mem_signals.mp heard).1
        have src : net.Contains up w.source :=
          (fed.arrives tree near inP (mem_signals.mp heard).1).2.1
        cases tree.contains_unique ok src
        exact tree.not_contains_self sub inP
    · intro inlet y j k out
      rw [more.others inlet y j k, enters.others inlet y j k]
      · exact out.imp_left fun notIn mem => notIn (mem_append_left _ mem)
      · exact out.imp_left fun notIn mem => notIn (mem_append_right _ mem)

theorem Supplied.ends_leaveOutlet {outlet : Ref} {i : Nat}
    (mem : (net.node g).body.outletObjects[i]? = some outlet) :
    Ends (leaveOutlet g outlet i) cur fun _ last =>
      net.Exits root g [i] cur last := by
  have tier := tree.strata g sub isG
  have isOut := tier.outletObjects i outlet mem
  have only : ∀ y, net.OutletObject g y i → y = outlet := by
    intro y isOther
    have got := tier.outletAt isOther.inside isOther.kind isOther.index
    exact Option.some.inj (got.symm.trans mem)
  have lt : 0 < (cur.node outlet).inlets.length := by
    rw [fed.alike.inlets, isOut.inlets]
    exact Nat.zero_lt_one
  have ins := fed.alike.inlets outlet
  rcases signals_of_single (tier.single outlet isOut.inside 0) with heard | ⟨w, there, heard⟩
  · refine .of_run (run_leaveOutlet_silent lt ?_) ⟨fed, .refl _ _, rfl, ?_, fun _ _ => rfl⟩
    · rw [ins, heard]
    · intro y here outlet' isOutlet' w isIn
      rw [mem_singleton.mp here] at isOutlet'
      rw [only outlet' isOutlet', heard] at isIn
      cases isIn
  · have holds : net.Contains g outlet := ⟨isG, isOut.inside⟩
    obtain ⟨rfl, src, j, arr⟩ := fed.arrives tree sub holds there
    have inOutlets : i < (cur.node g).outlets.length := by
      rw [fed.alike.outlets, tier.outlets]
      exact (List.getElem?_eq_some_iff.mp mem).1
    have inBuffers : i < (cur.node g).outletBuffers.length := by
      rw [(fed.fits g tier.fits).2]
      exact inOutlets
    have inNow : g < cur.size := by
      rw [fed.alike.1]
      exact lt_size_of_isGraph isG
    have one : signals ((cur.node w.target).inlets.getD 0 []) = [w] := by
      rw [ins, heard]
    obtain ⟨n, pool, retained, ok, held⟩ := fed.sound.retain_held arr.held
      (((cur.node g).outlets.getD i []).length - 1)
    refine .of_run (run_leaveOutlet lt one arr.plain arr.named inBuffers inOutlets
      retained) ⟨fed.setOutlet inNow inBuffers ok held (held _ arr.held),
        keeps_change _, by simp, ?_, ?_⟩
    · intro y here outlet' isOutlet' wire' heard' slot' starts
      rw [mem_singleton.mp here] at isOutlet' ⊢
      rw [only outlet' isOutlet', heard, mem_singleton] at heard'
      subst heard'
      rw [outletBuffer_withPool, outletBuffer_setOutlet inNow inBuffers, if_pos ⟨rfl, rfl⟩,
        starts.unique arr.starts]
    · intro y out
      rw [outletBuffer_withPool, outletBuffer_setOutlet inNow inBuffers, if_neg]
      rintro ⟨_, rfl⟩
      rcases out with far | silent
      · exact far (mem_singleton_self _)
      · cases heard.symm.trans (silent w.target isOut)

/-- All that arrives at the outlet objects of a graph is passed on out of it. -/
theorem Supplied.ends_assignOutlets : Ends (assignOutlets g) cur fun _ last =>
    net.Exits root g (List.range (net.node g).body.outletObjects.length) cur last := by
  have places : (net.node g).body.outletObjects.zipIdx.map Prod.snd =
      List.range (net.node g).body.outletObjects.length := by
    rw [zipIdx_map_snd, range_eq_range']
  rw [assignOutlets]
  refine .bind_run (run_node g cur) ?_
  rw [fed.alike.outletObjects, ← places]
  apply Ends.forM fun done last => net.Exits root g (done.map Prod.snd) cur last
  · exact ⟨fed, .refl _ _, rfl, by simp, fun _ _ => rfl⟩
  · rintro done ⟨outlet, i⟩ rest mid split exits
    have listed : (net.node g).body.outletObjects[i]? = some outlet := by
      have isEntry : (outlet, i) ∈ (net.node g).body.outletObjects.zipIdx := by simp [split]
      exact mem_zipIdx_iff_getElem?.mp isEntry
    have new : i ∉ done.map Prod.snd := by
      have once : ((done ++ (outlet, i) :: rest).map Prod.snd).Nodup := by
        rw [← split, places]
        exact nodup_range
      rw [map_append, map_cons] at once
      exact fun old => disjoint_of_nodup_append once old mem_cons_self
    refine (exits.supplied.ends_leaveOutlet tree sub isG listed).mono ?_
    intro _ last more
    rw [map_append, map_singleton]
    refine ⟨more.supplied, exits.keeps.trans more.keeps, more.order.trans exits.order, ?_, ?_⟩
    · intro y mem outlet' isOutlet' w heard j starts
      rcases mem_append.mp mem with inD | here
      · have far : y ∉ [i] := by
          intro here
          rw [mem_singleton.mp here] at inD
          exact new inD
        rw [more.others y (.inl far)]
        exact exits.passed y inD outlet' isOutlet' w heard j starts
      · rw [more.passed y here outlet' isOutlet' w heard j starts]
        apply exits.keeps.outletBuffer
        rintro eq
        have ok : net.Contains g outlet' := ⟨isG, isOutlet'.inside⟩
        have src := (fed.arrives tree sub ok (mem_signals.mp heard).1).2.1
        rw [eq] at src
        exact tree.not_contains_self sub src
    · intro y out
      rw [more.others y, exits.others y]
      · exact out.imp_left fun notIn mem => notIn (mem_append_left _ mem)
      · exact out.imp_left fun notIn mem => notIn (mem_append_right _ mem)

end PatchCompiler.Net
