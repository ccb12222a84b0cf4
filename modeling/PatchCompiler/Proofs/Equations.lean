import Mathlib.Algebra.Ring.Defs
import PatchCompiler.Proofs.Nesting

/-!
# The values of a hierarchy of graphs

Every outlet has a value. An inlet object passes on what arrives at its graph, and a graph what
arrives at its outlet objects. Products, sums and fused operations compute what their names say, and
of all other objects nothing is known but that what they send depends on what arrives.

Where no signal comes back to where it has been, these equations have exactly one solution.
-/

namespace PatchCompiler

open Relation

def Node.computes {R : Type} [CommRing R] (node : Node) (others : (Nat → R) → Int → R)
    (arriving : Nat → R) (outlet : Int) : R :=
  match node.type with
  | "__mul~f" => arriving 0 * arriving 1
  | "__add~f" => arriving 0 + arriving 1
  | "__sub~f" => arriving 0 - arriving 1
  | "__fma~f" => arriving 0 * arriving 1 + arriving 2
  | "__fms~f" => arriving 0 * arriving 1 - arriving 2
  | _ => others arriving outlet

section Computes

variable {R : Type} [CommRing R] {node : Node} {others : (Nat → R) → Int → R} {arriving : Nat → R}
  {outlet : Int}

theorem Node.computes_product (type : node.type = "__mul~f") :
    node.computes others arriving outlet = arriving 0 * arriving 1 := by
  simp [computes, type]

theorem Node.computes_sum (type : node.type = "__add~f") :
    node.computes others arriving outlet = arriving 0 + arriving 1 := by
  simp [computes, type]

theorem Node.computes_difference (type : node.type = "__sub~f") :
    node.computes others arriving outlet = arriving 0 - arriving 1 := by
  simp [computes, type]

theorem Node.computes_fusedSum (type : node.type = "__fma~f") :
    node.computes others arriving outlet = arriving 0 * arriving 1 + arriving 2 := by
  simp [computes, type]

theorem Node.computes_fusedDifference (type : node.type = "__fms~f") :
    node.computes others arriving outlet = arriving 0 * arriving 1 - arriving 2 := by
  simp [computes, type]

end Computes

def Sends (ws : Multiset Wire) (src target : Ref) : Prop :=
  ∃ wire ∈ ws, wire.isSignal = true ∧ wire.source = src ∧ wire.target = target

theorem not_transGen_sends {ws : Multiset Wire} (rises : ∀ w ∈ ws, w.source < w.target) (o : Ref) :
    ¬ TransGen (Sends ws) o o := by
  have step : Sends ws ≤ (· < ·) := by
    rintro _ _ ⟨w, inWs, -, rfl, rfl⟩
    exact rises w inWs
  exact fun cycle => lt_irrefl o (transGen_minimal step _ _ cycle)

namespace Net

/-- The inlet from which an outlet gets what it sends, if it is one of a graph or of an inlet object
of a graph within `root`. -/
def feedthrough (net : Net) (root o : Ref) (outlet : Int) : Option (Ref × Nat) :=
  match (net.node o).kind with
  | .graph => (at? (net.node o).body.outletObjects outlet).map (·, 0)
  | .inlet =>
    match (net.node o).parent, (net.node o).arguments.get? "index" with
    | some g, some (.int (.ofNat place)) => if g = root then none else some (g, place)
    | _, _ => none
  | _ => none

variable {R : Type} [CommRing R]

def answer (net : Net) (root : Ref) (meaning : Ref → (Nat → R) → Int → R) (v : Ref → Int → R)
    (o : Ref) (outlet : Int) : R :=
  match net.feedthrough root o outlet with
  | some (ref, place) => net.intake v ref place
  | none => (net.node o).computes (meaning o) (net.intake v o) outlet

/-- The values at the outlets of the objects in a graph and the graphs in it fit together. -/
def Solves (net : Net) (root : Ref) (meaning : Ref → (Nat → R) → Int → R)
    (v : Ref → Int → R) : Prop :=
  ∀ o, net.Inside root o → ∀ outlet, v o outlet = net.answer root meaning v o outlet

def Consults (net : Net) (root o ref : Ref) : Prop :=
  ref = o ∨ ∃ outlet place, net.feedthrough root o outlet = some (ref, place)

def Informs (net : Net) (root src o : Ref) : Prop :=
  net.Inside root o ∧ ∃ ref, net.Consults root o ref ∧
    ∃ place, ∃ wire ∈ Build.signals (net.held .inlet ref place), wire.source = src

/-- A hierarchy in which no signal comes back to where it has been. -/
structure Computing (net : Net) (root : Ref) (ws loops : Multiset Wire) : Prop where
  nested : net.Nested ws loops
  lowered : net.Lowered root
  isGraph : (net.node root).isGraph = true
  outermost : ∀ g, ¬ net.Contains g root
  acyclic : ∀ o, ¬ Relation.TransGen (Sends (ws + loops)) o o
  outlets : ∀ g, ∀ outlet ∈ (net.node g).body.outletObjects,
    net.Contains g outlet ∧ (net.node outlet).kind = .outlet

variable {net last : Net} {root g o ref src : Ref} {ws loops : Multiset Wire}
  {meaning : Ref → (Nat → R) → Int → R} {v worth : Ref → Int → R} {outlet : Int}

theorem feedthrough_eq (eq : (last.node o).bare = (net.node o).bare) :
    last.feedthrough root o outlet = net.feedthrough root o outlet := by
  have kind := Node.look_of_bare eq Node.kind rfl
  have up := Node.look_of_bare eq Node.parent rfl
  have args := Node.look_of_bare eq Node.arguments rfl
  have outs := Node.look_of_bare eq (fun node => node.body.outletObjects) rfl
  unfold feedthrough
  rw [kind, up, args, outs]

theorem answer_eq (eq : (last.node o).bare = (net.node o).bare)
    (arr : ∀ ref, net.Consults root o ref → ∀ i, last.intake worth ref i = net.intake v ref i) :
    last.answer root meaning worth o outlet = net.answer root meaning v o outlet := by
  have type := Node.look_of_bare eq Node.type rfl
  unfold answer
  rw [feedthrough_eq eq]
  split
  next ref i got => exact arr ref (.inr ⟨outlet, i, got⟩) i
  next =>
    have own : last.intake worth o = net.intake v o := funext fun i => arr o (.inl rfl) i
    rw [own, Node.computes, type, Node.computes]

theorem intake_congr (eq : ∀ place, ∀ w ∈ Build.signals (net.held .inlet ref place),
    worth w.source = v w.source) (place : Nat) :
    net.intake worth ref place = net.intake v ref place := by
  refine congrArg List.sum (List.map_congr_left fun w mem => ?_)
  rw [eq place w mem]

theorem answer_congr (isIn : net.Inside root o)
    (eq : ∀ src, net.Informs root src o → worth src = v src) :
    net.answer root meaning worth o outlet = net.answer root meaning v o outlet :=
  answer_eq rfl fun ref reads => intake_congr fun i w mem =>
    eq w.source ⟨isIn, ref, reads, i, w, mem, rfl⟩

theorem answer_plain (kind : (net.node o).kind = .plain) (outlet : Int) :
    net.answer root meaning v o outlet =
      (net.node o).computes (meaning o) (net.intake v o) outlet := by
  have none : net.feedthrough root o outlet = none := by
    unfold feedthrough
    rw [kind]
  rw [answer, none]

/-- The inlets of a graph are read by its inlet objects and those of an outlet object by its graph. -/
theorem feedthrough_cases {i : Nat} (got : net.feedthrough root o outlet = some (ref, i)) :
    (net.node o).isGraph = true ∧ ref ∈ (net.node o).body.outletObjects ∨
      (net.node o).parent = some ref ∧ ref ≠ root := by
  unfold feedthrough at got
  split at got
  next kind =>
    refine .inl ⟨by simp [Node.isGraph, kind], ?_⟩
    obtain ⟨sub, mem, eq⟩ := Option.map_eq_some_iff.mp got
    obtain ⟨j, -, x⟩ := Option.bind_eq_some_iff.mp mem
    cases eq
    exact List.mem_of_getElem? x
  · split at got
    next g j up _ =>
      split at got
      · cases got
      next notRoot =>
        cases got
        exact .inr ⟨up, notRoot⟩
    · cases got
  · cases got

namespace Computing

variable (computing : net.Computing root ws loops)
include computing

theorem silent : ∀ w ∈ loops, w.isSignal = false := by
  intro w mem
  by_contra sig
  refine computing.acyclic w.target (.single ⟨w, Multiset.mem_add.mpr (.inr mem), ?_,
    (computing.nested.looped w mem).1, rfl⟩)
  exact Bool.not_eq_false _ ▸ sig

theorem sends {i : Nat} {w : Wire} (heard : w ∈ Build.signals (net.held .inlet ref i)) :
    w ∈ ws ∧ w.target = ref ∧ Sends (ws + loops) w.source ref := by
  rw [← Multiset.mem_coe, computing.nested.coe_signals computing.silent] at heard
  obtain ⟨mem, sig, tgt, -⟩ := Multiset.mem_filter.mp heard
  exact ⟨mem, tgt, w, Multiset.mem_add.mpr (.inl mem), sig, rfl, tgt⟩

/-- What informs the objects of a graph is informed in turn by what arrives at the graph. -/
theorem acc_of_arrivals (sub : net.Within root g)
    (arrivals : ∀ i, ∀ w ∈ Build.signals (net.held .inlet g i), Acc (net.Informs root) w.source)
    (isIn : net.Contains g o) : Acc (net.Informs root) o := by
  -- graphs are left for those in them, which are nested less deep
  induction deep : net.depth g using Nat.strong_induction_on generalizing g o with
  | _ d nesting =>
    subst deep
    have nest := computing.nested
    have go : ∀ a : {o // o ∈ net.contents g}, Acc (net.Informs root) a.1 := by
      intro a
      induction a using (wellFounded_of_acyclic fun x _ => computing.acyclic x).induction with
      | _ a srcs =>
        have ok : net.Contains g a.1 := ⟨isIn.1, a.2⟩
        -- the objects that send signals to the object have been dealt with
        have arriving : ∀ i, ∀ w ∈ Build.signals (net.held .inlet a.1 i),
            Acc (net.Informs root) w.source := by
          intro i w heard
          obtain ⟨mem, tgt, sends⟩ := computing.sends heard
          have src := nest.source_inside mem (tgt.symm ▸ ok)
          exact srcs ⟨w.source, src.2⟩ (.single sends)
        refine ⟨_, ?_⟩
        rintro src ⟨-, ref, reads, i, w, heard, rfl⟩
        rcases reads with rfl | ⟨outlet, j, got⟩
        · exact arriving i w heard
        · rcases feedthrough_cases got with ⟨isG, listed⟩ | ⟨up, -⟩
          · obtain ⟨mem, tgt, -⟩ := computing.sends heard
            have inner := nest.source_inside mem (tgt.symm ▸ (computing.outlets a.1 ref listed).1)
            exact nesting _ ((computing.lowered.within sub).depth_lt ok)
              (sub.tail ok) arriving inner rfl
          · have eq : g = ref :=
              Option.some.inj ((nest.parents g a.1 ok).symm.trans up)
            exact arrivals i w (eq ▸ heard)
    exact go ⟨o, isIn.2⟩

/-- From the outermost graph inwards the ways of all signals come to an end. -/
theorem acc_arrivals (sub : net.Within root g) : ∀ i, ∀ w ∈ Build.signals (net.held .inlet g i),
      Acc (net.Informs root) w.source := by
  induction sub with
  | refl =>
    intro i w heard
    obtain ⟨mem, tgt, -⟩ := computing.sends heard
    obtain ⟨own, -, ok⟩ := computing.nested.level w mem
    exact absurd (tgt ▸ ok) (computing.outermost own)
  | @tail up g near ok ih =>
    intro i w heard
    obtain ⟨mem, tgt, -⟩ := computing.sends heard
    exact computing.acc_of_arrivals near ih (computing.nested.source_inside mem (tgt.symm ▸ ok))

theorem wellFounded_informs : WellFounded (net.Informs root) := by
  refine ⟨fun o => ?_⟩
  by_cases mem : net.Inside root o
  · obtain ⟨g, sub, ok⟩ := TransGen.tail'_iff.mp mem
    exact computing.acc_of_arrivals sub (computing.acc_arrivals sub) ok
  · exact ⟨_, fun _ informs => absurd informs.1 mem⟩

theorem inside_of_consults (mem : net.Inside root o)
    (reads : net.Consults root o ref) : net.Inside root ref := by
  rcases reads with rfl | ⟨outlet, i, got⟩
  · exact mem
  · rcases feedthrough_cases got with ⟨isG, listed⟩ | ⟨up, notRoot⟩
    · exact mem.tail (computing.outlets o ref listed).1
    · obtain ⟨g, sub, ok⟩ := TransGen.tail'_iff.mp mem
      have same : g = ref := Option.some.inj ((computing.nested.parents g o ok).symm.trans up)
      rcases reflTransGen_iff_eq_or_transGen.mp (same ▸ sub) with eq | deeper
      · exact absurd eq notRoot
      · exact deeper

theorem inside_of_informs (informs : net.Informs root src o) : net.Inside root src := by
  obtain ⟨isIn, ref, reads, i, w, heard, rfl⟩ := informs
  obtain ⟨mem, tgt, -⟩ := computing.sends heard
  obtain ⟨g, sub, ok⟩ :=
    TransGen.tail'_iff.mp (computing.inside_of_consults isIn reads)
  exact .tail' sub (computing.nested.source_inside mem (tgt.symm ▸ ok))

theorem exists_solves (meaning : Ref → (Nat → R) → Int → R) : ∃ v, net.Solves root meaning v := by
  classical
  let step (o : Ref) (v : ∀ src, net.Informs root src o → Int → R) : Int → R :=
    net.answer root meaning
      (fun src => if informs : net.Informs root src o then v src informs else 0)
      o
  refine ⟨computing.wellFounded_informs.fix step, fun o mem outlet => ?_⟩
  rw [WellFounded.fix_eq]
  refine answer_congr mem fun src informs => ?_
  rw [dif_pos informs]

theorem solves_unique (first : net.Solves root meaning v) (snd : net.Solves root meaning worth)
    (mem : net.Inside root o) : worth o = v o := by
  induction o using computing.wellFounded_informs.induction with
  | _ o ih =>
    funext outlet
    rw [first o mem, snd o mem]
    exact answer_congr mem fun src informs =>
      ih src informs (computing.inside_of_informs informs)

end Computing

end Net

end PatchCompiler
