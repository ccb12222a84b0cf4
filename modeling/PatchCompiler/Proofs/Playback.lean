import Mathlib.Algebra.BigOperators.Group.List.Basic
import PatchCompiler.Proofs.Buffered

/-!
# Playing a graph

The objects of a graph are run in the order of its signals on a store of buffers. An object reads
the buffers of all its inlets and then writes those of all its outlets. What an object reads at an
inlet is what was written at the outlet the signal comes from.
-/

namespace PatchCompiler

open List

variable {i : Nat} {g : Ref} {c : Int}

abbrev Store (V : Type) := Buffer → V

/-- What objects compute: from the values at the inlets the value at each outlet. -/
abbrev Behaviour (V : Type) := Ref → List V → Nat → V

namespace Net

variable {V : Type}

def reads (net : Net) (store : Store V) (o : Ref) : List V :=
  (net.node o).inletBuffers.map store

/-- Writes values to the buffers of an object's outlets, one outlet after the other. -/
def write (net : Net) (o : Ref) (values : Nat → V) (store : Store V) : Store V :=
  (List.range (net.node o).outletBuffers.length).foldl
    (fun store i => Function.update store (net.outletBuffer o i) (values i)) store

def perform (net : Net) (meaning : Behaviour V) (store : Store V) (o : Ref) : Store V :=
  net.write o (meaning o (net.reads store o)) store

def play (net : Net) (meaning : Behaviour V) (order : List Ref) (store : Store V) : Store V :=
  order.foldl (net.perform meaning) store

def before (net : Net) (meaning : Behaviour V) (order : List Ref) (store : Store V) (o : Ref) :
    Store V :=
  net.play meaning (order.take (order.idxOf o)) store

def inputAt (net : Net) (meaning : Behaviour V) (order : List Ref) (store : Store V) (o : Ref)
    (i : Nat) : V :=
  net.before meaning order store o (net.inletBuffer o i)

def outputAt (net : Net) (meaning : Behaviour V) (order : List Ref) (store : Store V) (o : Ref)
    (i : Nat) : V :=
  meaning o (net.reads (net.before meaning order store o) o) i

theorem foldl_update_ne {places : List Nat} {buffers : Nat → Buffer} {values : Nat → V}
    {b : Buffer} (kept : ∀ i ∈ places, buffers i ≠ b) (store : Store V) :
    places.foldl (fun store i => Function.update store (buffers i) (values i)) store
      b = store b := by
  induction places generalizing store with
  | nil => rfl
  | cons i rest ih =>
    rw [foldl_cons, ih (forall_mem_cons.mp kept).2]
    exact Function.update_of_ne (kept i mem_cons_self).symm _ _

theorem foldl_update_eq {places : List Nat} {buffers : Nat → Buffer} {values : Nat → V}
    (mem : i ∈ places) (only : ∀ j ∈ places, buffers j = buffers i → j = i) (store : Store V) :
    places.foldl (fun store i => Function.update store (buffers i) (values i)) store
      (buffers i) = values i := by
  induction places generalizing store with
  | nil => cases mem
  | cons first rest ih =>
    rw [foldl_cons]
    by_cases post : i ∈ rest
    · exact ih post (forall_mem_cons.mp only).2 _
    · have here : i = first := (mem_cons.mp mem).resolve_right post
      subst here
      rw [foldl_update_ne]
      · exact Function.update_self _ _ _
      · intro j inR eq
        exact post (only j (mem_cons_of_mem _ inR) eq ▸ inR)

variable {net : Net} {meaning : Behaviour V} {os : List Ref} {store : Store V}
  {o : Ref} {b : Buffer}

theorem perform_ne (rest : ∀ i, i < (net.node o).outletBuffers.length →
      net.outletBuffer o i ≠ b) (store : Store V) : net.perform meaning store o b = store b :=
  foldl_update_ne (fun i mem => rest i (mem_range.mp mem)) store

theorem perform_outlet (lt : i < (net.node o).outletBuffers.length)
    (only : ∀ j, net.outletBuffer o j = net.outletBuffer o i → j = i) (store : Store V) :
    net.perform meaning store o (net.outletBuffer o i) = meaning o (net.reads store o) i :=
  foldl_update_eq (mem_range.mpr lt) (fun j _ => only j) store

theorem play_take_succ (mem : os[i]? = some o) : net.play meaning (os.take (i + 1)) store =
      net.perform meaning (net.play meaning (os.take i) store) o := by
  rw [play, take_add_one, mem, Option.toList_some, foldl_append]
  rfl

theorem play_take_keeps {first last : Nat} (rises : first ≤ last) (lt : last ≤ os.length)
    (rest : ∀ turn o, first ≤ turn → turn < last → os[turn]? = some o →
      ∀ i, i < (net.node o).outletBuffers.length → net.outletBuffer o i ≠ b) :
    net.play meaning (os.take last) store b = net.play meaning (os.take first) store b := by
  induction last, rises using Nat.le_induction with
  | base => rfl
  | succ last rises ih =>
    have mem : os[last]? = some os[last] := getElem?_eq_getElem lt
    rw [play_take_succ mem, perform_ne (rest last _ rises (Nat.lt_succ_self _) mem)]
    exact ih (Nat.le_of_succ_le lt) fun turn o after pre =>
      rest turn o after (Nat.lt_succ_of_lt pre)

/-- An object that processes signals has no buffers yet, or it is what is left of an audio output. -/
theorem Flat.preset_of_active (flat : net.Flat g) (on : net.Active g o) :
    (∀ i, net.outletBuffer o i = .zero) ∨ ∃ channel, net.Adder o channel := by
  cases flat.preset o on.1 with
  | blank _ outs => exact .inl outs
  | output a => exact .inr ⟨_, a⟩
  | input type _ _ =>
    rcases flat.signal_of_active on with ⟨spec, isO, sig⟩
    have desc := isO.described
    rw [type] at desc
    cases desc
    cases sig

theorem Flat.active_of_adder (flat : net.Flat g)
    (mem : o ∈ net.contents g) (a : net.Adder o c) : net.Active g o := by
  rcases flat.objects o mem with ⟨spec, isO⟩
  have desc := isO.described
  rw [a.type] at desc
  refine ⟨mem, .object isO.notGraph isO.described ?_⟩
  cases desc
  rfl

theorem sendsSignal_bound {spec : Catalogue.IrSpec}
    (desc : Catalogue.irSpec? (net.node o).type = some spec)
    (sends : net.sendsSignal o i = true) : i < spec.outlets.length := by
  by_contra out
  simp [sendsSignal, desc, out, WireType.isSignal] at sends

theorem Flat.mem_openOutlets_of_sends (flat : net.Flat g)
    (on : net.Active g o) (sends : net.sendsSignal o i = true)
    (blank : net.outletBuffer o i = .zero) : (o, i) ∈ net.openOutlets o := by
  rcases flat.signal_of_active on with ⟨spec, isO, sig⟩
  refine mem_openOutlets.mpr ⟨rfl, ?_, ?_⟩
  · rw [isO.outlets sig]
    exact sendsSignal_bound isO.described sends
  · simp [isOpen, sends, blank, Buffer.zero]

namespace Allocated

variable {last : Net} {g src : Ref} {i outlet : Nat} {w : Wire}

section

variable (flat : net.Flat g) (plan : net.Scheduled g os) (alloc : net.Allocated g os last)
include flat plan alloc

theorem not_pooled (ord : o ∈ os) (closed : (o, i) ∉ net.openOutlets o) :
    ¬ ((last.outletBuffer o i).kind = .float ∨ (last.outletBuffer o i).kind = .integer) := by
  rw [alloc.closed o ord i closed]
  rcases flat.preset_of_active ((plan.mem o).mp ord) with blank | ⟨c, a⟩
  · simp [blank, Buffer.zero]
  · cases i with
    | zero => simp [outletBuffer, a.outletBuffers]
    | succ i => simp [outletBuffer, a.outletBuffers, Buffer.zero]

theorem outlet_only (ord : o ∈ os) (isOpen : (o, i) ∈ net.openOutlets o) (j : Nat)
    (eq : last.outletBuffer o j = last.outletBuffer o i) : j = i := by
  by_contra ne
  by_cases opens : (o, j) ∈ net.openOutlets o
  · exact alloc.distinct o ord _ opens _ isOpen (fun eq' => ne (congrArg Prod.snd eq')) eq
  · have pooled := alloc.pooled o ord _ isOpen
    rw [← eq] at pooled
    exact not_pooled flat plan alloc ord opens pooled

/-- Between an object and a reader of its outlet nobody writes the buffer of the outlet. -/
theorem untouched (inSrc : src ∈ os) (ord : o ∈ os) (isOpen : (src, outlet) ∈ net.openOutlets src)
    (leaves : w ∈ net.wiresAt (src, outlet)) (isS : w.isSignal = true)
    (after : os.idxOf src < os.idxOf o) (pre : os.idxOf o < os.idxOf w.target) (j : Nat) :
    last.outletBuffer o j ≠ last.outletBuffer src outlet := by
  by_cases opens : (o, j) ∈ net.openOutlets o
  · exact (alloc.clear src inSrc o ord after _ isOpen _ opens w leaves isS pre).symm
  · intro eq
    have pooled := alloc.pooled src inSrc _ isOpen
    rw [← eq] at pooled
    exact not_pooled flat plan alloc ord opens pooled

/-- An object reads what was written at the outlet that its signal comes from. -/
theorem inputAt_eq_outputAt (on : net.Active g o)
    (arr : w ∈ Build.signals ((net.node o).inlets.getD i []))
    (starts : net.FromOutlet w outlet) (runs : net.Processes w.source)
    (sends : net.sendsSignal w.source outlet = true) (meaning : Behaviour V) (store : Store V) :
    Precedes os w.source o ∧ last.inputAt meaning os store o i =
        last.outputAt meaning os store w.source outlet := by
  rcases mem_signals.mp arr with ⟨there, isS⟩
  rcases flat.wired.arriving o on.1 i w there with ⟨tgt, inSrc, ends⟩
  subst tgt
  rcases flat.wired.leaves on.1 there with ⟨j, leaves, startsThere⟩
  cases Option.some.inj (startsThere.symm.trans starts)
  have onSrc : net.Active g w.source := ⟨inSrc, runs⟩
  have sourceInOrder := (plan.mem _).mpr onSrc
  have ord := (plan.mem _).mpr on
  have heard : w ∈ net.heard w.target := mem_heard.mpr ⟨i, there, isS⟩
  have forward := plan.forward _ _ onSrc on (flat.heard_ends on.1 heard).2
  have isOpen : (w.source, outlet) ∈ net.openOutlets w.source := by
    apply flat.mem_openOutlets_of_sends onSrc sends
    rcases flat.preset_of_active onSrc with blank | ⟨c, a⟩
    · exact blank outlet
    · cases outlet with
      | zero => simp [wiresAt, a.last] at leaves
      | succ outlet => simp [wiresAt, a.last] at leaves
  have lt : outlet < (last.node w.source).outletBuffers.length := by
    rw [(alloc.fits _ (flat.fits_of_mem inSrc)).2, alloc.alike.outlets]
    exact (mem_openOutlets.mp isOpen).2.1
  have indexed : ∀ item ∈ os, os[os.idxOf item]? = some item := fun item isIn => by
    rw [getElem?_eq_getElem (idxOf_lt_length_of_mem isIn), getElem_idxOf]
  refine ⟨.of_idxOf_lt ord forward, ?_⟩
  calc last.inputAt meaning os store w.target i
      = last.play meaning (os.take (os.idxOf w.target)) store
          (last.outletBuffer w.source outlet) := by
        rw [inputAt, alloc.passed _ ord w heard outlet i starts ends]
        rfl
    _ = last.play meaning (os.take (os.idxOf w.source + 1)) store
          (last.outletBuffer w.source outlet) := by
        refine play_take_keeps forward (idxOf_le_length) ?_
        intro turn y after pre there' j _
        have position : os.idxOf y = turn := by
          rw [getElem?_eq_some_iff] at there'
          rcases there' with ⟨isIn, rfl⟩
          exact plan.nodup.idxOf_getElem turn isIn
        have inOther : y ∈ os := mem_of_getElem? there'
        exact untouched flat plan alloc sourceInOrder inOther isOpen leaves isS
          (by omega) (by omega) j
    _ = last.outputAt meaning os store w.source outlet := by
        rw [play_take_succ (indexed _ sourceInOrder),
          perform_outlet lt (outlet_only flat plan alloc sourceInOrder isOpen)]
        rfl

end

theorem reads_adder (plan : net.Scheduled g os)
    (flat : net.Flat g) (alloc : net.Allocated g os last) (ord : o ∈ os)
    (a : net.Adder o c) (store : Store V) : last.reads store o =
      [store (last.inletBuffer o 0), store ⟨.output, c⟩] := by
  have fits := flat.fits_of_mem ((plan.mem o).mp ord).1
  have two : (last.node o).inletBuffers.length = 2 := by
    rw [(alloc.fits _ fits).1, alloc.alike.inlets, ← fits.1, a.inletBuffers]
    rfl
  have snd : last.inletBuffer o 1 = ⟨.output, c⟩ := by
    rw [alloc.unheard o ord 1 (by rw [a.second]; rfl), inletBuffer,
      a.inletBuffers]
    rfl
  rw [← snd, reads, inletBuffer, inletBuffer]
  rcases length_eq_two.mp two with ⟨left, right, both⟩
  simp [both]

section

variable (flat : net.Flat g) (plan : net.Scheduled g os) (alloc : net.Allocated g os last)
include flat plan alloc

theorem output_ne (ord : o ∈ os) (notAdder : ¬ net.Adder o c) (j : Nat) :
    last.outletBuffer o j ≠ ⟨.output, c⟩ := by
  intro eq
  by_cases isOpen : (o, j) ∈ net.openOutlets o
  · have pooled := alloc.pooled o ord _ isOpen
    simp [eq] at pooled
  · rw [alloc.closed o ord j isOpen] at eq
    rcases flat.preset_of_active ((plan.mem o).mp ord) with blank | ⟨y, a⟩
    · rw [blank] at eq
      cases eq
    · rw [outletBuffer, a.outletBuffers] at eq
      cases j with
      | zero =>
        cases eq
        exact notAdder a
      | succ j => cases eq

theorem Adder.outletBuffer_eq (ord : o ∈ os) (a : net.Adder o c) :
    (last.node o).outletBuffers = [⟨.output, c⟩] := by
  have fits := flat.fits_of_mem ((plan.mem o).mp ord).1
  have one : (last.node o).outletBuffers.length = 1 := by
    rw [(alloc.fits _ fits).2, alloc.alike.outlets, a.last]
    rfl
  have closed : (o, 0) ∉ net.openOutlets o := by
    intro opened
    have opens := (mem_openOutlets.mp opened).2.2
    simp [isOpen, outletBuffer, a.outletBuffers] at opens
  have first := alloc.closed o ord 0 closed
  rw [outletBuffer, outletBuffer, a.outletBuffers] at first
  rcases length_eq_one_iff.mp one with ⟨b, only⟩
  rw [only] at first ⊢
  simpa using first

open Classical in
theorem play_output [AddCommMonoid V] (mute : store ⟨.output, c⟩ = 0)
    (adds : ∀ adder, net.Adder adder c → ∀ a b, meaning adder [a, b] 0 = a + b) (turn : Nat)
    (lt : turn ≤ os.length) : last.play meaning (os.take turn) store ⟨.output, c⟩ =
      (((os.take turn).filter fun o => net.Adder o c).map fun adder =>
        last.inputAt meaning os store adder 0).sum := by
  induction turn with
  | zero => exact mute
  | succ turn ih =>
    have mem : os[turn]? = some os[turn] := getElem?_eq_getElem lt
    have ord : os[turn] ∈ os := getElem_mem lt
    have position : os.idxOf os[turn] = turn := plan.nodup.idxOf_getElem turn lt
    have pre := ih (Nat.le_of_succ_le lt)
    rw [play_take_succ mem, take_add_one, mem, Option.toList_some, filter_append,
      map_append, sum_append, ← pre]
    by_cases isAdder : net.Adder os[turn] c
    · have buffers := Adder.outletBuffer_eq flat plan alloc ord isAdder
      have written : last.outletBuffer os[turn] 0 = ⟨.output, c⟩ := by
        simp [outletBuffer, buffers]
      have only : ∀ j, last.outletBuffer os[turn] j = last.outletBuffer os[turn] 0 → j = 0 := by
        intro j eq
        cases j with
        | zero => rfl
        | succ j =>
          rw [written, outletBuffer, buffers] at eq
          cases eq
      have here : last.inputAt meaning os store os[turn] 0 =
          last.play meaning (os.take turn) store (last.inletBuffer os[turn] 0) := by
        rw [inputAt, before, position]
      rw [← written, perform_outlet (by simp [buffers]) only,
        reads_adder plan flat alloc ord isAdder, adds _ isAdder, written, ← here]
      simp [isAdder, add_comm]
    · rw [perform_ne fun j _ => output_ne flat plan alloc ord isAdder j]
      simp [isAdder]

end

end Allocated

end Net

end PatchCompiler
