import PatchCompiler.Proofs.AudioTurns

/-!
# Reducing signal arithmetic

A graph of audio inputs, operators on signals and audio outputs is reduced object by object. What
arrives for every channel afterwards is the remainder of what arrived before, and nothing is lost if
no operator has lost all signals at an inlet by its turn.
-/

namespace PatchCompiler

open List Relation

variable {rank : Ref → Nat} {fate : Ref → Option Nat} {turn : Nat}

def Drawn (wires : Multiset Wire) (source target : Ref) : Prop :=
  ∃ wire ∈ wires, wire.source = source ∧ wire.target = target

namespace Net

variable {net last : Net} {graph object : Ref} {wires now : Multiset Wire}

theorem not_transGen_of_rises (rises : ∀ w ∈ wires, rank w.source < rank w.target) (object : Ref) :
    ¬ TransGen (Drawn wires) object object := by
  have step : Drawn wires ≤ InvImage (· < ·) rank := by
    rintro _ _ ⟨w, inWs, rfl, rfl⟩
    exact rises w inWs
  exact fun cycle => lt_irrefl _ (transGen_minimal step _ _ cycle)

theorem Strung.exists_ranked (strung : net.Strung graph wires)
    (acyc : ∀ object, ¬ TransGen (Drawn wires) object object) :
    ∃ rank, net.Ranked graph wires rank := by
  classical
  refine ⟨fun object => ((net.contents graph).toFinset.filter
    fun y => TransGen (Drawn wires) y object).card, ?_, ?_⟩
  · intro w inWs
    have step : Drawn wires w.source w.target := ⟨w, inWs, rfl, rfl⟩
    have src := (strung.fits w inWs).mem .outlet
    apply Finset.card_lt_card
    refine Finset.ssubset_iff_subset_ne.mpr ⟨?_, ?_⟩
    · intro y pre
      rw [Finset.mem_filter] at pre ⊢
      exact ⟨pre.1, pre.2.tail step⟩
    · intro eq
      have there : w.source ∈ (net.contents graph).toFinset.filter
          fun y => TransGen (Drawn wires) y w.target :=
        Finset.mem_filter.mpr ⟨mem_toFinset.mpr src, .single step⟩
      rw [← eq] at there
      exact acyc _ (Finset.mem_filter.mp there).2
  · intro object isIn
    have fewer : ((net.contents graph).toFinset.filter
        fun y => TransGen (Drawn wires) y object).card <
        (net.contents graph).toFinset.card := by
      apply Finset.card_lt_card
      refine Finset.filter_ssubset.mpr ⟨object, mem_toFinset.mpr isIn, acyc object⟩
    have most : (net.contents graph).toFinset.card ≤ net.size := by
      have sub : (net.contents graph).toFinset ⊆ Finset.range net.size := by
        intro y there
        exact Finset.mem_range.mpr (strung.within y (mem_toFinset.mp there))
      simpa using Finset.card_le_card sub
    exact fewer.trans_le most

/-- A graph of audio inputs, operators on signals and audio outputs without cycles. -/
structure SignalPatch (net : Net) (graph : Ref) (wires : Multiset Wire) : Prop where
  site : net.Site graph wires
  distinct : (net.contents graph).Nodup
  floats : ∀ wire ∈ wires, wire.type = .float
  acyclic : ∀ object, ¬ Relation.TransGen (Drawn wires) object object
  objects : ∀ object ∈ net.contents graph,
    (∃ operator constant, (net.node object).IsOperator operator constant) ∨
      ∃ side, (net.node object).IsAudio side

theorem fates_eq_nil_iff {i : Nat} (lasts : ∀ w ∈ net.held .inlet object i, fate w.source = none) :
    net.fates fate turn object i = [] ↔ net.held .inlet object i = [] := by
  have all : net.fates fate turn object i =
      (net.held .inlet object i).map fun w => fate w.source := by
    apply filter_eq_self.mpr
    intro e mem
    obtain ⟨w, isHeld, rfl⟩ := mem_map.mp mem
    rw [lasts w isHeld]
    rfl
  rw [all, map_eq_nil_iff]

/-- Every operator gets a signal on its left, and none multiplies by the constant zero. -/
def Lasting (net : Net) (graph : Ref) : Prop :=
  ∀ object ∈ net.contents graph, ∀ operator constant,
    (net.node object).IsOperator operator constant → net.held .inlet object 0 ≠ [] ∧
        (net.held .inlet object 1 = [] → ¬ (operator = .mul ∧ (net.node object).number = 0))

section Patch

variable (patch : net.SignalPatch graph wires)
include patch

theorem SignalPatch.isOperator_of_binary (mem : object ∈ net.contents graph)
    (binary : (net.node object).kind = .binary) :
    ∃ op constant, (net.node object).IsOperator op constant := by
  rcases patch.objects object mem with isOp | ⟨s, isA⟩
  · exact isOp
  · rw [isA.kind] at binary
    cases s <;> cases binary

theorem SignalPatch.not_isGraph (mem : object ∈ net.contents graph) :
    (net.node object).isGraph = false := by
  rcases patch.objects object mem with ⟨op, con, isOp⟩ | ⟨s, isA⟩
  · rw [Node.isGraph, isOp.kind]
    rfl
  · rw [Node.isGraph, isA.kind]
    cases s <;> rfl

theorem SignalPatch.loss_eq_none (ranked : net.Ranked graph wires rank)
    (lasting : net.Lasting graph) (mem : object ∈ net.contents graph) :
    net.loss (net.contents graph) object = none := by
  -- along the rank: if no signal that arrives is lost, then neither are those of the object
  induction height : rank object using Nat.strong_induction_on generalizing object with
  | _ height ih =>
    subst height
    have lasts : ∀ i, ∀ w ∈ net.held .inlet object i,
        net.loss (net.contents graph) w.source = none := by
      intro i w there
      obtain ⟨src, lower⟩ := ranked.lower patch.site.toStrung object mem w.source ⟨i, w, there, rfl⟩
      exact ih _ lower src rfl
    by_contra lost
    obtain ⟨time, eq⟩ := Option.ne_none_iff_exists'.mp lost
    rw [ranked.loss_eq patch.site.toStrung _ object mem] at eq
    obtain ⟨binary, op, symbol, way⟩ := Node.fate_eq_some eq
    obtain ⟨same, con, isOp⟩ := patch.isOperator_of_binary mem binary
    rw [isOp.type, Operator.ofSymbol?_symbol] at symbol
    cases symbol
    obtain ⟨fed, notZero⟩ := lasting object mem op con isOp
    rcases way with ⟨noLeft, -⟩ | ⟨-, noRight, ⟨isMul, zero, -⟩ | ⟨-, alone⟩⟩
    · exact fed ((fates_eq_nil_iff (lasts 0)).mp noLeft)
    · exact notZero ((fates_eq_nil_iff (lasts 1)).mp noRight) ⟨isMul, zero⟩
    · have arr : some time ∈ net.fates (net.loss (net.contents graph))
          ((net.contents graph).idxOf object) object 0 := by
        rw [alone]
        exact mem_singleton_self _
      obtain ⟨w, there, lost⟩ := mem_map.mp (mem_filter.mp arr).1
      rw [lasts 0 w there] at lost
      cases lost

theorem SignalPatch.unstarved (lasting : net.Lasting graph) : net.Unstarved graph := by
  obtain ⟨rank, ranked⟩ := patch.site.toStrung.exists_ranked patch.acyclic
  intro object mem binary i _ wired
  have lasts : ∀ w ∈ net.held .inlet object i, net.loss (net.contents graph) w.source = none := by
    intro w there
    apply patch.loss_eq_none ranked lasting
    exact (ranked.lower patch.site.toStrung object mem w.source ⟨i, w, there, rfl⟩).1
  rw [Ne, fates_eq_nil_iff lasts]
  rcases wired with rfl | wired
  · obtain ⟨op, con, isOp⟩ := patch.isOperator_of_binary mem binary
    exact (lasting object mem op con isOp).1
  · exact wired

theorem SignalPatch.start (ranked : net.Ranked graph wires rank) :
    net.Halfway graph 0 net wires [] (net.loss (net.contents graph)) where
  site := patch.site
  floats := patch.floats
  rises := ⟨rank, ranked.rises⟩
  contents := (append_nil _).symm
  distinct := patch.distinct
  looks := fun _ _ => rfl
  plain := nofun
  waiting := fun _ _ => rfl
  lasting := nofun

omit patch in
theorem valued_start (ins : Int → ℚ) :
    net.Valued graph wires ins 0 net wires [] (net.loss (net.contents graph))
      (net.remainder ins (net.contents graph)) where
  waiting := fun _ _ => rfl
  solved := nofun
  arrives := by
    intro object _ i
    symm
    rw [Multiset.filter_eq_self]
    rintro ⟨_ | time, _⟩ _
    · rfl
    · exact decide_eq_true (Nat.zero_le time)
  delivered := fun _ => rfl

end Patch

/-- After the last turn what arrives for a channel is the remainder of what arrived before. -/
theorem Halfway.total_eq {new : List Ref} {ins : Int → ℚ} {v : Ref → Int → ℚ} {channel : Int}
    (mid : net.Halfway graph turn last now new fate)
    (valued : net.Valued graph wires ins turn last now new fate v)
    (fin : (net.contents graph).length ≤ turn) :
    last.total graph ins channel = net.remainingTotal graph ins channel := by
  obtain ⟨height, rises⟩ := mid.rises
  obtain ⟨rank, ranked⟩ := mid.site.toStrung.exists_ranked (not_transGen_of_rises rises)
  have cs : last.contents graph = new := by
    rw [mid.contents, drop_eq_nil_of_le fin, nil_append]
  have solves : ∀ object ∈ last.contents graph, v object = last.evaluate ins v object := by
    rw [cs]
    exact valued.solved
  rw [total, ← valued.delivered channel]
  exact delivered_congr mid.site.toStrung fun object mem =>
    ranked.signal_unique mid.site.toStrung solves object mem

end Net

namespace Build

open Net

variable {net : Net} {graph : Ref} {wires : Multiset Wire}

theorem ends_turn (patch : net.SignalPatch graph wires) {cur : Net} {now : Multiset Wire}
    {new : List Ref} {object : Ref} (due : net.Due graph wires rank turn cur now new fate object)
    (valued : ∀ inputs, ∃ v, net.Valued graph wires inputs turn cur now new fate v) :
    Ends (reductionOf object) cur (Settles net graph wires turn cur now new fate object) := by
  rcases patch.objects object (mem_of_getElem? due.here) with ⟨op, con, isOp⟩ | ⟨s, isA⟩
  · have isHere := isOp.of_bare (due.looks object due.mem_drop)
    obtain ⟨left, right, ins⟩ := length_eq_two.mp isHere.inlets
    obtain ⟨exit, outs⟩ := length_eq_one_iff.mp isHere.outlets
    exact OperatorDue.ends_reduce_operator
      ⟨due, isOp, ⟨due.site.toStrung, due.object_mem, ins, outs⟩, valued⟩
  · cases s with
    | inlet => exact ends_reduce_dac due isA
    | outlet => exact ends_reduce_adc due valued isA

def Underway (net : Net) (graph : Ref) (wires : Multiset Wire) (turn : Nat) (current : Net) : Prop :=
  ∃ now new fate, net.Halfway graph turn current now new fate ∧
    ∀ inputs, ∃ value, net.Valued graph wires inputs turn current now new fate value

theorem ends_reduceWithin (patch : net.SignalPatch graph wires) (d : Nat) :
    Ends (reduceWithin (d + 1) graph) net fun _ last =>
      Underway net graph wires (net.contents graph).length last := by
  obtain ⟨rank, ranked⟩ := patch.site.toStrung.exists_ranked patch.acyclic
  have start : (get : Build Net).run net = .ok net net := rfl
  unfold reduceWithin
  apply Ends.bind_run start
  apply Ends.bind (Ends.forIn (fun done _ cur => Underway net graph wires done.length cur)
    ?_ ?_)
  · exact fun _ last underway => .pure underway
  · exact ⟨wires, [], _, patch.start ranked, fun ins => ⟨_, valued_start ins⟩⟩
  · rintro done object rest _ cur split ⟨now, new, fate, mid, valued⟩
    have here : (net.contents graph)[done.length]? = some object := by
      rw [split]
      simp
    have due : net.Due graph wires rank done.length cur now new fate object :=
      ⟨mid, ranked, patch.site.toStrung, patch.distinct, here⟩
    have leaf : (cur.node object).isGraph = false := by
      rw [Node.look_of_bare (mid.looks object due.mem_drop) Node.isGraph rfl]
      exact patch.not_isGraph (mem_of_getElem? here)
    apply Ends.at_node
    rw [leaf]
    apply Ends.bind (ends_turn patch due valued)
    intro red made settles
    apply Ends.bind settles
    rintro _ last ⟨os, sub, outs, step, relayed⟩
    rw [length_append]
    refine .pure ⟨_, rfl, _, _, _, due.next step, ?_⟩
    intro ins
    obtain ⟨v, val⟩ := valued ins
    obtain ⟨worth, relays⟩ := relayed ins v val
    exact ⟨_, val.next due step relays⟩

/-- What arrives for a channel after a reduction is the remainder of what arrived before. -/
theorem ends_reduce_remainder (patch : net.SignalPatch graph wires) :
    Ends (reduce graph) net fun _ last => ∀ ins channel,
      last.total graph ins channel = net.remainingTotal graph ins channel := by
  have start : (get : Build Net).run net = .ok net net := rfl
  apply Ends.bind_run start
  apply Ends.mono (ends_reduceWithin patch net.size)
  rintro _ last ⟨now, new, fate, mid, valued⟩ ins channel
  obtain ⟨v, val⟩ := valued ins
  exact mid.total_eq val le_rfl

/-- A graph of signal arithmetic can always be reduced. What arrives for a channel is then the
remainder of what arrived before, which is all of it if no operator is starved, as it is if every
operator gets a signal on its left and none multiplies by the constant zero. -/
theorem reduce_total (patch : net.SignalPatch graph wires) :
    Ends (reduce graph) net fun _ last => ∀ inputs channel,
      last.total graph inputs channel = net.remainingTotal graph inputs channel ∧
      (net.Unstarved graph → last.total graph inputs channel = net.total graph inputs channel) ∧
      (net.Lasting graph → last.total graph inputs channel = net.total graph inputs channel) := by
  obtain ⟨rank, ranked⟩ := patch.site.toStrung.exists_ranked patch.acyclic
  have whole : net.Unstarved graph → ∀ inputs channel,
      net.remainingTotal graph inputs channel = net.total graph inputs channel :=
    fun unstarved inputs channel => ranked.remainingTotal_eq_total patch.site.toStrung unstarved
  apply Ends.mono (ends_reduce_remainder patch)
  intro _ last left inputs channel
  rw [left inputs channel]
  exact ⟨rfl, fun unstarved => whole unstarved inputs channel,
    fun lasting => whole (patch.unstarved lasting) inputs channel⟩

end Build

namespace Chain

open Net

/-- An audio input that is multiplied, to which five is added. -/
def net (mutes : Bool) : Net where
  nodes := #[
    .outermost [(.given "i", 1), (.given "m", 2), (.given "p", 3), (.given "d", 4)],
    { type := "adc", kind := .adc, identity := 1, parent := some 0
      arguments := [("channels", .list [.int 1])], outlets := [[.signal 1 2 0]] },
    { type := "*", kind := .binary, identity := 2, parent := some 0
      arguments := [("k", .real (.finite false (if mutes then 0 else 2) 0))]
      inlets := [[.signal 1 2 0], []], outlets := [[.signal 2 3 0]] },
    { type := "+", kind := .binary, identity := 3, parent := some 0
      arguments := [("k", .real (.finite false 5 0))]
      inlets := [[.signal 2 3 0], []], outlets := [[.signal 3 4 0]] },
    { type := "dac", kind := .dac, identity := 4, parent := some 0
      arguments := [("channels", .list [.int 1])], inlets := [[.signal 3 4 0]] }]

def wires : List Wire :=
  [.signal 1 2 0, .signal 2 3 0, .signal 3 4 0]

theorem strung (mutes : Bool) : (net mutes).Strung 0 wires := by
  cases mutes <;> exact .of_lets (by decide) (by decide) (by decide)

theorem patch (mutes : Bool) : (net mutes).SignalPatch 0 wires where
  site := by
    refine ⟨strung mutes, rfl, ?_, ?_, ?_, ?_, ?_⟩
    · cases mutes <;> decide
    · cases mutes <;> decide
    · cases mutes <;> decide
    · cases mutes <;> simp [net, Node.outermost, Net.node]
    · cases mutes <;> decide
  distinct := by cases mutes <;> decide
  floats := by decide
  acyclic := not_transGen_of_rises
    (show ∀ w ∈ (wires : Multiset Wire), id w.source < id w.target by decide)
  objects := by
    have each : ∀ object ∈ [1, 2, 3, 4], (∃ op con, ((net mutes).node object).IsOperator op con) ∨
          ∃ side, ((net mutes).node object).IsAudio side := by
      simp only [forall_mem_cons, not_mem_nil, false_imp_iff, implies_true, and_true]
      exact ⟨.inr ⟨.outlet, rfl, rfl, rfl, rfl⟩,
        .inl ⟨.mul, _, rfl, rfl, rfl, rfl, rfl, rfl, _, rfl, rfl⟩,
        .inl ⟨.add, _, rfl, rfl, rfl, rfl, rfl, rfl, _, rfl, rfl⟩,
        .inr ⟨.inlet, rfl, rfl, rfl, rfl⟩⟩
    exact each

theorem lasting : (net false).Lasting 0 := by
  have each : ∀ object ∈ [1, 2, 3, 4], ((net false).node object).kind = .binary →
      (net false).held .inlet object 0 ≠ [] ∧ ((net false).node object).number ≠ 0 := by
    decide +kernel
  intro object mem op con isOp
  obtain ⟨fed, factor⟩ := each object mem isOp.kind
  exact ⟨fed, fun _ zero => factor zero.2⟩

/-- With a factor that is not zero all of the signal arrives. -/
theorem reduce_total_of_two : (net false).SignalPatch 0 wires ∧ (net false).Lasting 0 ∧
    Build.Ends (Build.reduce 0) (net false) fun _ last => ∀ inputs channel,
      last.total 0 inputs channel = (net false).total 0 inputs channel := by
  refine ⟨patch false, lasting, ?_⟩
  apply Build.Ends.mono (Build.reduce_total (patch false))
  exact fun _ last kept inputs channel => (kept inputs channel).2.2 lasting

/-- With the factor zero the five that should arrive does not. -/
theorem not_reduce_total : (net true).SignalPatch 0 wires ∧
    (∀ object ∈ [2, 3], (net true).held .inlet object 0 ≠ []) ∧
    ¬ Build.Ends (Build.reduce 0) (net true) fun _ last => ∀ inputs channel,
      last.total 0 inputs channel = (net true).total 0 inputs channel := by
  refine ⟨patch true, by decide, ?_⟩
  rintro ⟨_, last, run, kept⟩
  obtain ⟨_, other, runOther, left⟩ := Build.ends_reduce_remainder (patch true)
  obtain ⟨-, rfl⟩ := EStateM.Result.ok.inj (run.symm.trans runOther)
  -- by its turn the addition has lost its only signal, and goes away with its constant
  have gone : (net true).remainingTotal 0 (fun _ => 0) 1 = 0 ∧ (net true).total 0 (fun _ => 0) 1 = 5 := by
    decide +kernel
  have zero := left (fun _ => 0) 1
  rw [kept, gone.1, gone.2] at zero
  exact absurd zero (by decide)

end Chain

end PatchCompiler
