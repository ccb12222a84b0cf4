import Mathlib
import PatchCompiler.Proofs.Playback

/-!
# No signal is overwritten

The result of buffering a graph without graphs in it, said of the values that its objects read and
write when it is played.
-/

namespace PatchCompiler

open List

namespace Net

variable {net : Net} {order : List Ref} {object : Ref}

theorem few_signal_outlets {type : String} {spec : Catalogue.IrSpec}
    (desc : Catalogue.irSpec? type = some spec) : spec.signal = true ∨
      (∀ out ∈ spec.outlets, out.isSignal = false) ∨ spec.outlets.length = 1 := by
  have all : ∀ e ∈ Catalogue.irFirst ++ Catalogue.irSecond, e.2.signal = true ∨
      (∀ out ∈ e.2.outlets, out.isSignal = false) ∨ e.2.outlets.length = 1 := by
    decide +kernel
  exact all _ (Catalogue.mem_of_irSpec? desc)

theorem sendsSignal_unique {spec : Catalogue.IrSpec} {i slot : Nat}
    (desc : Catalogue.irSpec? (net.node object).type = some spec)
    (mute : spec.signal = false) (sends : net.sendsSignal object i = true)
    (sends' : net.sendsSignal object slot = true) : i = slot := by
  have lt := sendsSignal_bound desc sends
  have bound' := sendsSignal_bound desc sends'
  rcases few_signal_outlets desc with sig | none | one
  · exact nomatch sig.symm.trans mute
  · simp [sendsSignal, desc, lt, none] at sends
  · omega

theorem Flat.outlets_distinct {last : Net} {g : Ref} {i slot : Nat} (flat : net.Flat g)
    (plan : net.Scheduled g order) (alloc : net.Allocated g order last)
    (isIn : object ∈ net.contents g) (sends : net.sendsSignal object i = true)
    (sends' : net.sendsSignal object slot = true) (ne : i ≠ slot) :
    last.outletBuffer object i ≠ last.outletBuffer object slot := by
  rcases flat.objects object isIn with ⟨spec, isO⟩
  by_cases sig : spec.signal = true
  · have on : net.Active g object :=
      ⟨isIn, .object isO.notGraph isO.described sig⟩
    rcases flat.preset_of_active on with blank | ⟨c, a⟩
    · exact alloc.distinct object ((plan.mem object).mpr on)
        _ (flat.mem_openOutlets_of_sends on sends (blank i))
        _ (flat.mem_openOutlets_of_sends on sends' (blank slot))
        fun eq => ne (congrArg Prod.snd eq)
    · have one : spec.outlets.length = 1 := by
        rw [← isO.outlets sig, a.last]
        rfl
      have lt := sendsSignal_bound isO.described sends
      have bound' := sendsSignal_bound isO.described sends'
      omega
  · exact absurd (sendsSignal_unique isO.described (by simpa using sig) sends sends') ne

end Net

open Classical in
/-- No signal is overwritten while it is needed. For a graph of low-level objects buffering comes to
an end, and when the objects are run in the order of signals every object reads what was written in
this run at the outlet its signal comes from. Outlets of one object have different buffers, no count
ever falls below zero, and the buffer of an output channel ends as the sum of what arrives at the
adders that its audio outputs have left. -/
theorem Build.assignBuffers_inputAt_eq_outputAt {V : Type} [AddCommMonoid V] {net : Net}
    {graph : Ref} (flat : net.Flat graph) (meaning : Behaviour V) (store : Store V) :
    ∃ last, (assignBuffers graph).run net = .ok () last ∧
      (∀ object, (last.order graph).count object = if net.Active graph object then 1 else 0) ∧
      (∀ object, net.Active graph object → ∀ place,
        ∀ wire ∈ signals ((net.node object).inlets.getD place []), ∀ outlet,
        net.FromOutlet wire outlet → net.Processes wire.source →
        net.sendsSignal wire.source outlet = true → Precedes (last.order graph) wire.source object ∧
          last.inputAt meaning (last.order graph) store object place =
            last.outputAt meaning (last.order graph) store wire.source outlet) ∧
      (∀ object ∈ net.contents graph, ∀ place slot, net.sendsSignal object place = true →
        net.sendsSignal object slot = true → place ≠ slot →
          last.outletBuffer object place ≠ last.outletBuffer object slot) ∧
      (∀ count, last.pool.Noted count → 0 ≤ count) ∧ ∀ channel, store ⟨.output, channel⟩ = 0 →
        (∀ adder, net.Adder adder channel → ∀ a b, meaning adder [a, b] 0 = a + b) →
          last.play meaning (last.order graph) store ⟨.output, channel⟩ =
            (((net.contents graph).filter fun object => net.Adder object channel).map fun adder =>
              last.inputAt meaning (last.order graph) store adder 0).sum := by
  rcases flat.run_assignBuffers with ⟨last, run, schedule, allocated⟩
  refine ⟨last, run, ?_, ?_, ?_, allocated.rising, ?_⟩
  · intro object
    rw [Nodup.count schedule.nodup]
    simp only [schedule.mem]
  · exact fun object active place wire arrives outlet starts processes sends =>
      allocated.inputAt_eq_outputAt flat schedule active arrives starts processes sends meaning store
  · exact fun object inside place slot => flat.outlets_distinct schedule allocated inside
  · intro channel silent adds
    have gathered := allocated.play_output flat schedule silent adds _ le_rfl
    rw [take_length] at gathered
    rw [gathered]
    -- all adders process signals, so they are in the order
    have same : ((last.order graph).filter fun object => net.Adder object channel).Perm
        ((net.contents graph).filter fun object => net.Adder object channel) := by
      rw [perm_ext_iff_of_nodup (schedule.nodup.filter _) (flat.nodup.filter _)]
      intro object
      simp only [mem_filter, decide_eq_true_eq, schedule.mem]
      constructor
      · exact fun both => ⟨both.1.1, both.2⟩
      · rintro ⟨inside, adder⟩
        exact ⟨flat.active_of_adder inside adder, adder⟩
    exact (same.map _).sum_eq

namespace Mixer

/-- An oscillator that is heard directly and through another object on one output channel. -/
def net : Net where
  nodes := #[
    .outermost [(.own 4, 4), (.own 1, 1), (.own 2, 2), (.own 3, 3)],
    { Node.wired "__phasor_k~f" 1 0 [[], []] [[.signal 1 2 0, .signal 1 3 0]] with
      inletBuffers := [.zero, .zero], outletBuffers := [.zero] },
    { Node.wired "__abs~f" 2 0 [[.signal 1 2 0]] [[.signal 2 4 0]] with
      inletBuffers := [.zero], outletBuffers := [.zero] },
    { Node.wired "__add~f" 3 0 [[.signal 1 3 0], []] [[]] with
      inletBuffers := [.zero, ⟨.output, 0⟩], outletBuffers := [⟨.output, 0⟩] },
    { Node.wired "__add~f" 4 0 [[.signal 2 4 0], []] [[]] with
      inletBuffers := [.zero, ⟨.output, 0⟩], outletBuffers := [⟨.output, 0⟩] }]

theorem flat : net.Flat 0 where
  isGraph := rfl
  nodup := by decide
  objects := by
    have objects : ∀ object ∈ [4, 1, 2, 3], ∃ spec, net.IrObject object spec := by
      simp only [forall_mem_cons, not_mem_nil, false_imp_iff, implies_true, and_true]
      refine ⟨?_, ?_, ?_, ?_⟩ <;>
        exact ⟨_, rfl, rfl, rfl, ⟨rfl, rfl⟩, fun _ => rfl, fun _ => by decide⟩
    exact objects
  preset := by
    have preset : ∀ object ∈ [4, 1, 2, 3], net.Preset object := by
      simp only [forall_mem_cons, not_mem_nil, false_imp_iff, implies_true, and_true]
      refine ⟨.output ⟨rfl, rfl, rfl, rfl, rfl⟩, .blank ?_ ?_, .blank ?_ ?_,
        .output ⟨rfl, rfl, rfl, rfl, rfl⟩⟩
      all_goals
        intro place
        rcases place with _ | _ | place <;> rfl
    exact preset
  unplaced := by decide
  wired := .of_lets (by decide) (by decide)
  acyclic := .of_falling (by decide)
  single := by
    have few : ∀ object ∈ net.contents 0, ∀ ws ∈ (net.node object).inlets,
        (Build.signals ws).length ≤ 1 := by decide
    exact fun object mem => Net.single_of_inlets (few object mem)
  fits := ⟨rfl, rfl⟩
  outermost := by decide
  outletObjects := by decide
  outletNodup := by decide
  outlets := rfl

open Classical in
theorem adders : ((net.contents 0).filter fun object => net.Adder object 0) = [4, 3] := by
  have first : net.Adder 4 0 := ⟨rfl, rfl, rfl, rfl, rfl⟩
  have snd : net.Adder 3 0 := ⟨rfl, rfl, rfl, rfl, rfl⟩
  have oscillator : ¬ net.Adder 1 0 := fun a => absurd a.type (by decide)
  have no : ¬ net.Adder 2 0 := fun a => absurd a.type (by decide)
  change ([4, 1, 2, 3] : List Ref).filter (fun object => net.Adder object 0) = [4, 3]
  simp [first, snd, oscillator, no]

/-- Every object adds up what it reads, and the buffer of zeros holds a one. -/
theorem heard_as_written : net.Flat 0 ∧ ∃ last, (Build.assignBuffers 0).run net = .ok () last ∧
      last.inputAt (fun _ values _ => values.sum) (last.order 0)
          (fun buffer => if buffer.kind = .zero then 1 else 0 : Store Int) 2 0 =
        last.outputAt (fun _ values _ => values.sum) (last.order 0)
          (fun buffer => if buffer.kind = .zero then 1 else 0) 1 0 ∧
      last.play (fun _ values _ => values.sum) (last.order 0)
          (fun buffer => if buffer.kind = .zero then 1 else 0 : Store Int) ⟨.output, 0⟩ =
        last.inputAt (fun _ values _ => values.sum) (last.order 0)
          (fun buffer => if buffer.kind = .zero then 1 else 0) 4 0 +
        last.inputAt (fun _ values _ => values.sum) (last.order 0)
          (fun buffer => if buffer.kind = .zero then 1 else 0) 3 0 := by
  rcases Build.assignBuffers_inputAt_eq_outputAt flat (fun _ values _ => values.sum)
    (fun buffer => if buffer.kind = .zero then 1 else 0 : Store Int) with
    ⟨last, run, _, same, _, _, gathered⟩
  refine ⟨flat, last, run, ?_, ?_⟩
  · exact (same 2 ⟨by decide, .object rfl rfl rfl⟩ 0 (.signal 1 2 0) (by decide) 0 rfl
      (.object rfl rfl rfl) rfl).2
  · rw [gathered 0 rfl (by simp), adders]
    simp

end Mixer

end PatchCompiler
