import Mathlib.Data.Multiset.AddSub
import Mathlib.Data.Multiset.Filter
import PatchCompiler.Net.Membership
import PatchCompiler.Proofs.SignalOrder

/-!
# The wires of a graph

A wire is noted at both its ends. The steps that change wires are described by what they do to the
collection of all wires of a graph, of which every let holds the part that starts or ends there.
-/

namespace PatchCompiler

open List Multiset

variable {third : Side} {os : List Ref} {hit : Wire → Prop} {last : Net} {w : Wire}
  {list : List Wire}

/-- The two kinds of lets. -/
inductive Side where
  | inlet
  | outlet
  deriving DecidableEq

namespace Side

def other : Side → Side
  | .inlet => .outlet
  | .outlet => .inlet

theorem other_ne (s : Side) : s.other ≠ s := by
  cases s <;> simp [other]

theorem eq_or_eq_other (s third : Side) : third = s ∨ third = s.other := by
  cases s <;> cases third <;> simp [other]

def both : List Side :=
  [.inlet, .outlet]

theorem mem_both (s : Side) : s ∈ both := by
  cases s <;> decide

end Side

def Wire.object (w : Wire) : Side → Ref
  | .inlet => w.target
  | .outlet => w.source

def Wire.index (w : Wire) : Side → Int
  | .inlet => w.inlet
  | .outlet => w.outlet

def Wire.At (s : Side) (o : Ref) (i : Nat) (w : Wire) : Prop :=
  w.object s = o ∧ w.index s = i

instance (s : Side) (o : Ref) (i : Nat) : DecidablePred (Wire.At s o i) :=
  fun _ => inferInstanceAs (Decidable (_ ∧ _))

theorem Wire.At.unique {w : Wire} {s : Side} {o other : Ref} {i j : Nat} (put : w.At s o i)
    (also : w.At s other j) : other = o ∧ j = i :=
  ⟨also.1.symm.trans put.1, Int.ofNat.inj (also.2.symm.trans put.2)⟩

namespace Node

def lets (node : Node) : Side → List (List Wire)
  | .inlet => node.inlets
  | .outlet => node.outlets

def changeLets (s : Side) (i : Nat) (f : List Wire → List Wire) (node : Node) : Node :=
  match s with
  | .inlet => { node with inlets := Build.changeLet node.inlets i f }
  | .outlet => { node with outlets := Build.changeLet node.outlets i f }

def unwired (node : Node) : Node :=
  { node with inlets := node.inlets.map fun _ => [], outlets := node.outlets.map fun _ => [] }

theorem changeLets_unwired (s : Side) (i : Nat) (f : List Wire → List Wire) (node : Node) :
    (node.changeLets s i f).unwired = node.unwired := by
  cases s <;> simp [changeLets, unwired, Build.changeLet, List.map_const']

theorem length_lets_unwired (s : Side) (node : Node) :
    (node.unwired.lets s).length = (node.lets s).length := by
  cases s <;> simp [lets, unwired]

@[simp]
theorem lets_changeLets_self (s : Side) (i : Nat) (f : List Wire → List Wire)
    (node : Node) : (node.changeLets s i f).lets s = (node.lets s).modify i f := by
  cases s <;> rfl

theorem lets_changeLets_ne {s : Side} (ne : third ≠ s) (i : Nat)
    (f : List Wire → List Wire) (node : Node) :
    (node.changeLets s i f).lets third = node.lets third := by
  cases s <;> cases third <;> first | rfl | exact absurd rfl ne

end Node

namespace Net

def held (net : Net) (s : Side) (o : Ref) (i : Nat) : List Wire :=
  ((net.node o).lets s).getD i []

def changeLets (net : Net) (s : Side) (o : Ref) (i : Nat) (f : List Wire → List Wire) : Net :=
  net.change o (Node.changeLets s i f)

variable {net other : Net} {g o : Ref} {s : Side} {i : Nat}
  {f : List Wire → List Wire} {w : Wire} {ws new : Multiset Wire}

theorem held_of_size_le (out : net.size ≤ o) : net.held s o i = [] := by
  rw [held, node_of_size_le out]
  cases s <;> rfl

theorem lt_of_mem_held (mem : w ∈ net.held s o i) :
    o < net.size ∧ i < ((net.node o).lets s).length := by
  constructor
  · refine lt_size_of_look (fun n => (n.lets s).getD i []) fun none => ?_
    rw [held, none] at mem
    cases s <;> cases mem
  · by_contra out
    rw [held, List.getD_eq_getElem?_getD, List.getElem?_eq_none (not_lt.mp out)] at mem
    cases mem

theorem alike_changeLets : Alike Node.unwired net (net.changeLets s o i f) :=
  .change (Node.changeLets_unwired s i f)

section Unwired

variable (alike : Alike Node.unwired net other) (ref : Ref)
include alike

theorem Alike.unwired_contents : other.contents ref = net.contents ref :=
  alike.look (fun node => node.body.objects.map Prod.snd) rfl

theorem Alike.unwired_length (s : Side) :
    ((other.node ref).lets s).length = ((net.node ref).lets s).length :=
  alike.look (fun node => (node.lets s).length) (funext (Node.length_lets_unwired s))

end Unwired

theorem held_changeLets_self (inside : o < net.size) (bound : i < ((net.node o).lets s).length) :
    (net.changeLets s o i f).held s o i = f (net.held s o i) := by
  rw [held, changeLets, node_change_self inside, Node.lets_changeLets_self, held]
  simp [bound]

theorem held_changeLets_ne {ref : Ref} {slot : Nat} (ne : ¬ (ref = o ∧ slot = i)) :
    (net.changeLets s o i f).held s ref slot = net.held s ref slot := by
  rcases node_change net o (Node.changeLets s i f) ref with same | ⟨rfl, changed⟩
  · rw [held, changeLets, same, held]
  · have apart : i ≠ slot := fun eq => ne ⟨rfl, eq.symm⟩
    rw [held, changeLets, changed, Node.lets_changeLets_self, held]
    simp [apart]

theorem held_changeLets_side (ne : third ≠ s) (ref : Ref) (slot : Nat) :
    (net.changeLets s o i f).held third ref slot = net.held third ref slot := by
  unfold held changeLets
  rw [node_change_keeps (fun node => node.lets third)
    (Node.lets_changeLets_ne ne i f)]

/-- A wire that can be between objects: its ends are different ones of them that have its lets. -/
structure Suits (net : Net) (os : List Ref) (w : Wire) : Prop where
  apart : w.source ≠ w.target
  mem : ∀ s, w.object s ∈ os
  bound : ∀ s, ∃ i < ((net.node (w.object s)).lets s).length, w.index s = i

theorem Alike.within {view : Node → Node} (alike : Alike view net other)
    (within : ∀ o ∈ os, o < net.size) : ∀ o ∈ os, o < other.size := by
  rw [alike.1]
  exact within

theorem Suits.alike (suits : net.Suits os w)
    (alike : Alike Node.unwired net other) : other.Suits os w where
  apart := suits.apart
  mem := suits.mem
  bound := by
    intro s
    rw [alike.unwired_length]
    exact suits.bound s

abbrev Admits (net : Net) (g : Ref) (w : Wire) : Prop :=
  net.Suits (net.contents g) w

theorem Admits.alike (fits : net.Admits g w) (alike : Alike Node.unwired net other) :
    other.Admits g w := by
  rw [Admits, alike.unwired_contents]
  exact Suits.alike fits alike

/-- The lets of one side of objects hold exactly the given wires. -/
def Holds (net : Net) (os : List Ref) (s : Side) (ws : Multiset Wire) : Prop :=
  ∀ o ∈ os, ∀ i, (net.held s o i : Multiset Wire) = ws.filter (Wire.At s o i)

/-- The given wires are between objects and noted at both their ends. Wires besides them may be
noted at one side only. -/
structure Threaded (net : Net) (os : List Ref) (ws : Multiset Wire)
    (besides : Side → Multiset Wire) : Prop where
  within : ∀ o ∈ os, o < net.size
  fits : ∀ w ∈ ws, net.Suits os w
  holds : ∀ s, net.Holds os s (ws + besides s)

def Housed (net : Net) (g : Ref) : Prop :=
  ∀ o ∈ net.contents g, o < net.size

/-- The wires of a graph are the given ones, at both their ends. -/
structure Strung (net : Net) (g : Ref) (ws : Multiset Wire) : Prop where
  within : net.Housed g
  fits : ∀ w ∈ ws, net.Admits g w
  holds : ∀ s, net.Holds (net.contents g) s ws

theorem Strung.threaded (strung : net.Strung g ws) :
    net.Threaded (net.contents g) ws fun _ => 0 := by
  refine ⟨strung.within, strung.fits, fun s => ?_⟩
  rw [Multiset.add_zero]
  exact strung.holds s

theorem Threaded.strung (thr : net.Threaded (net.contents g) ws fun _ => 0) : net.Strung g ws := by
  refine ⟨thr.within, thr.fits, fun s => ?_⟩
  have ok := thr.holds s
  rw [Multiset.add_zero] at ok
  exact ok

/-- Lists of wires at all lets that agree with the wires at both their ends. -/
theorem Threaded.of_lets {ws : List Wire} (within : ∀ o ∈ os, o < net.size)
    (fits : ∀ w ∈ ws, w.source ≠ w.target ∧ ∀ s ∈ Side.both, w.object s ∈ os ∧
        ∃ i < ((net.node (w.object s)).lets s).length, w.index s = i)
    (agree : ∀ s ∈ Side.both, ∀ o ∈ os, ∀ i < ((net.node o).lets s).length,
        (net.held s o i).Perm (ws.filter (Wire.At s o i))) : net.Threaded os ws fun _ => 0 where
  within := within
  fits := by
    intro w inWs
    obtain ⟨apart, ends⟩ := fits w (Multiset.mem_coe.mp inWs)
    exact ⟨apart, fun s => (ends s s.mem_both).1, fun s => (ends s s.mem_both).2⟩
  holds := by
    intro s o inside i
    rw [Multiset.add_zero, Multiset.filter_coe, Multiset.coe_eq_coe]
    by_cases bound : i < ((net.node o).lets s).length
    · exact agree s s.mem_both o inside i bound
    · have none : ws.filter (Wire.At s o i) = [] := by
        rw [List.filter_eq_nil_iff]
        intro w inWs
        rw [decide_eq_true_iff]
        rintro ⟨eq, k⟩
        obtain ⟨j, lt, known⟩ := ((fits w inWs).2 s s.mem_both).2
        rw [eq] at lt
        omega
      rw [none, held, getD_eq_getElem?_getD, List.getElem?_eq_none (Nat.le_of_not_gt bound)]
      rfl

theorem Strung.of_lets {ws : List Wire} (within : ∀ o ∈ net.contents g, o < net.size)
    (fits : ∀ w ∈ ws, w.source ≠ w.target ∧ ∀ s ∈ Side.both, w.object s ∈ net.contents g ∧
        ∃ i < ((net.node (w.object s)).lets s).length, w.index s = i)
    (agree : ∀ s ∈ Side.both, ∀ o ∈ net.contents g, ∀ i < ((net.node o).lets s).length,
        (net.held s o i).Perm (ws.filter (Wire.At s o i))) : net.Strung g ws :=
  (Threaded.of_lets within fits agree).strung

variable {os : List Ref}

namespace Holds

theorem changeLets_side (ok : net.Holds os third ws) (ne : third ≠ s) :
    (net.changeLets s o i f).Holds os third ws := by
  intro ref inside j
  rw [held_changeLets_side ne]
  exact ok ref inside j

theorem changeLets (ok : net.Holds os s ws) (inside : o < net.size)
    (bound : i < ((net.node o).lets s).length) (here : (f (net.held s o i) : Multiset Wire) =
      new.filter (Wire.At s o i)) (there : ∀ ref j, ¬ (ref = o ∧ j = i) →
      new.filter (Wire.At s ref j) = ws.filter (Wire.At s ref j)) :
    (net.changeLets s o i f).Holds os s new := by
  intro ref mem j
  by_cases eq : ref = o ∧ j = i
  · rcases eq with ⟨rfl, rfl⟩
    rw [held_changeLets_self inside bound, here]
  · rw [held_changeLets_ne eq, there ref j eq]
    exact ok ref mem j

variable (inside : w.object s < net.size) (mem : w.object s ∈ os)
  (bound : i < ((net.node (w.object s)).lets s).length)
  (k : w.index s = i)
include inside mem bound k

theorem attach (ok : net.Holds os s ws) : (net.changeLets s (w.object s) i (· ++ [w])).Holds os s
      (w ::ₘ ws) := by
  apply ok.changeLets inside bound
  · have put : w.At s (w.object s) i := ⟨rfl, k⟩
    rw [filter_cons_of_pos _ put, ← ok _ mem i, ← coe_add,
      Multiset.coe_singleton, Multiset.add_comm, Multiset.singleton_add]
  · intro ref j ne
    refine filter_cons_of_neg _ ?_
    rintro ⟨rfl, eq⟩
    exact ne ⟨rfl, by omega⟩

theorem detach (ok : net.Holds os s (w ::ₘ ws)) :
    (net.changeLets s (w.object s) i (·.erase w)).Holds os s ws := by
  have put : w.At s (w.object s) i := ⟨rfl, k⟩
  apply ok.changeLets inside bound
  · rw [← coe_erase, ok _ mem i, filter_cons_of_pos _ put, Multiset.erase_cons_head]
  · intro ref j ne
    refine (filter_cons_of_neg _ ?_).symm
    rintro ⟨rfl, eq⟩
    exact ne ⟨rfl, by omega⟩

theorem substitute (ok : net.Holds os s (w ::ₘ ws)) (effect : ∀ list : List Wire, w ∈ list →
      (f list : Multiset Wire) = new + (list : Multiset Wire).erase w)
    (shared : ∀ other ∈ new, other.object s = w.object s ∧ other.index s = w.index s) :
    (net.changeLets s (w.object s) i f).Holds os s (new + ws) := by
  have put : w.At s (w.object s) i := ⟨rfl, k⟩
  have there := ok _ mem i
  rw [filter_cons_of_pos _ put] at there
  apply ok.changeLets inside bound
  · have present : w ∈ net.held s (w.object s) i := by
      rw [← mem_coe, there]
      exact Multiset.mem_cons_self _ _
    have all : new.filter (Wire.At s (w.object s) i) = new := by
      rw [Multiset.filter_eq_self]
      intro other inN
      exact ⟨(shared other inN).1, (shared other inN).2.trans k⟩
    rw [effect _ present, there, Multiset.erase_cons_head, filter_add, all]
  · intro ref slot ne
    have notPlaced : ¬ w.At s ref slot := by
      rintro ⟨rfl, eq⟩
      exact ne ⟨rfl, by omega⟩
    have none : new.filter (Wire.At s ref slot) = 0 := by
      rw [filter_eq_nil]
      rintro other inN ⟨rfl, eq⟩
      rcases shared other inN with ⟨sameObject, sameIndex⟩
      exact ne ⟨sameObject, by omega⟩
    rw [Multiset.filter_add, none, Multiset.zero_add, Multiset.filter_cons_of_neg _ notPlaced]

end Holds

theorem Holds.mem_held (ok : net.Holds os s (w ::ₘ ws))
    (mem : w.object s ∈ os) (k : w.index s = i) : w ∈ net.held s (w.object s) i := by
  rw [← mem_coe, ok _ mem i, filter_cons_of_pos _ ⟨rfl, k⟩]
  exact Multiset.mem_cons_self _ _

/-- All wires but some are where they were, in the same order. -/
def Spares (touched : Wire → Prop) (net last : Net) : Prop :=
  ∀ keep : Wire → Bool, (∀ w, touched w → keep w = false) → ∀ s ref slot,
    (last.held s ref slot).filter keep = (net.held s ref slot).filter keep

theorem Spares.refl (hit : Wire → Prop) (net : Net) : Spares hit net net :=
  fun _ _ _ _ _ => rfl

theorem Spares.trans (first : Spares hit net other)
    (snd : Spares hit other last) : Spares hit net last :=
  fun keep blind s ref j =>
    (snd keep blind s ref j).trans (first keep blind s ref j)

theorem Spares.mono {more : Wire → Prop} (spares : Spares hit net other)
    (weaker : ∀ w, hit w → more w) : Spares more net other :=
  fun keep blind => spares keep fun w inTouched => blind w (weaker w inTouched)

theorem held_changeLets (third : Side) (ref : Ref) (j : Nat) :
    (net.changeLets s o i f).held third ref j = net.held third ref j ∨
      (net.changeLets s o i f).held third ref j = f (net.held third ref j) := by
  by_cases eq : third = s
  · subst eq
    rcases node_change net o (Node.changeLets third i f) ref with same | ⟨rfl, changed⟩
    · exact .inl (by rw [held, Net.changeLets, same, held])
    · rw [held, Net.changeLets, changed, Node.lets_changeLets_self, held]
      grind
  · exact .inl (held_changeLets_side eq ref j)

theorem Spares.changeLets (kept : ∀ keep : Wire → Bool, (∀ w, hit w → keep w = false) → ∀ list,
      (f list).filter keep = list.filter keep) : Spares hit net (net.changeLets s o i f) := by
  intro keep blind third ref j
  rcases held_changeLets third ref j with eq | changed
  · rw [eq]
  · rw [changed, kept keep blind]

/-- One side of objects has come to hold the given wires, and nothing else has changed. -/
structure Changes (net : Net) (os : List Ref) (s : Side) (ws : Multiset Wire)
    (touched : Wire → Prop) (last : Net) : Prop where
  alike : Alike Node.unwired net last
  holds : last.Holds os s ws
  keeps : ∀ third ≠ s, ∀ kept, net.Holds os third kept → last.Holds os third kept
  spares : Spares touched net last

theorem Changes.of_holds (ok : (net.changeLets s o i f).Holds os s ws)
    (kept : ∀ keep : Wire → Bool, (∀ w, hit w → keep w = false) → ∀ list,
      (f list).filter keep = list.filter keep) : Changes net os s ws hit (net.changeLets s o i f) :=
  ⟨alike_changeLets, ok, fun _ ne _ kept => kept.changeLets_side ne,
    .changeLets kept⟩

end Net

namespace Build

open Net

/-- What becomes of the wires at a let when a wire is replaced. -/
def replaceAt (w : Wire) (new : List Wire) : Side → List Wire → List Wire
  | .inlet => fun held => held.erase w ++ new
  | .outlet => replaceFirst w new

theorem coe_replaceFirst {new : List Wire} (present : w ∈ list) :
    (replaceFirst w new list : Multiset Wire) = new + (list : Multiset Wire).erase w := by
  rw [coe_erase, coe_add, coe_eq_coe]
  induction list with
  | nil => cases present
  | cons first rest ih =>
    by_cases eq : first = w
    · subst eq
      simp [replaceFirst]
    · have later : w ∈ rest := by
        rcases List.mem_cons.mp present with eq' | later
        · exact absurd eq'.symm eq
        · exact later
      rw [replaceFirst, if_neg eq, List.erase_cons_tail (by simpa using eq)]
      exact (List.Perm.cons first (ih later)).trans perm_middle.symm

theorem coe_replaceAt {s : Side} {new : List Wire} (present : w ∈ list) :
    (replaceAt w new s list : Multiset Wire) = new + (list : Multiset Wire).erase w := by
  cases s with
  | inlet => rw [replaceAt, ← Multiset.coe_add, Multiset.coe_erase, Multiset.add_comm]
  | outlet => exact coe_replaceFirst present

section Kept

variable {keep : Wire → Bool} {w : Wire} {new : List Wire}

theorem filter_erase_of_not (blind : keep w = false) (list : List Wire) :
    (list.erase w).filter keep = list.filter keep := by
  rw [← erase_filter, erase_of_not_mem]
  simp [blind]

theorem filter_replaceFirst_of_not (blind : keep w = false)
    (blindNew : ∀ other ∈ new, keep other = false) (list : List Wire) :
    (replaceFirst w new list).filter keep = list.filter keep := by
  have none : new.filter keep = [] := by simpa using blindNew
  induction list with
  | nil => rfl
  | cons first rest ih =>
    by_cases eq : first = w
    · subst eq
      simp [replaceFirst, none, blind]
    · simp [replaceFirst, eq, filter_cons, ih]

theorem filter_replaceAt_of_not (s : Side) (blind : keep w = false)
    (blindNew : ∀ other ∈ new, keep other = false) (list : List Wire) :
    (replaceAt w new s list).filter keep = list.filter keep := by
  cases s with
  | inlet =>
    have none : new.filter keep = [] := by simpa using blindNew
    rw [replaceAt, filter_append, filter_erase_of_not blind, none, append_nil]
  | outlet => exact filter_replaceFirst_of_not blind blindNew list

end Kept

theorem placeOfWire_eq {lets : List (List Wire)} {k : Int} {i : Nat}
    (named : k = i) (present : w ∈ lets.getD i []) : placeOfWire lets k w = .ok i := by
  have bound : i < lets.length := lt_length_of_mem_getD present
  rw [placeOfWire, named, place?_ofNat bound]
  simpa using present

section Runs

variable {net : Net} {s : Side} {w : Wire} {i : Nat}
  (apart : w.source ≠ w.target) (k : w.index s = i)
include apart k

theorem run_attach (bound : i < ((net.node (w.object s)).lets s).length) :
    (attach (w.object s) w).run net = .ok () (net.changeLets s (w.object s) i (· ++ [w])) := by
  have got : place? ((net.node (w.object s)).lets s).length (w.index s) = some i := by
    rw [k]
    exact place?_ofNat bound
  cases s with
  | inlet =>
    change place? (net.node w.target).inlets.length w.inlet = some i at got
    simp [attach, Wire.object, got, Net.changeLets]
    rfl
  | outlet =>
    change place? (net.node w.source).outlets.length w.outlet = some i at got
    simp [attach, Wire.object, apart.symm, got, Net.changeLets]
    rfl

variable (present : w ∈ net.held s (w.object s) i)
include present

theorem run_detach : (detach (w.object s) w).run net =
      .ok () (net.changeLets s (w.object s) i (·.erase w)) := by
  have got := placeOfWire_eq k present
  cases s with
  | inlet =>
    change placeOfWire (net.node w.target).inlets w.inlet w = .ok i at got
    simp [detach, Wire.object, got, Net.changeLets]
    rfl
  | outlet =>
    change placeOfWire (net.node w.source).outlets w.outlet w = .ok i at got
    simp [detach, Wire.object, apart.symm, got, Net.changeLets]
    rfl

theorem run_substitute (new : List Wire) : (substitute (w.object s) w new).run net =
      .ok () (net.changeLets s (w.object s) i (replaceAt w new s)) := by
  have got := placeOfWire_eq k present
  cases s with
  | inlet =>
    change placeOfWire (net.node w.target).inlets w.inlet w = .ok i at got
    simp [substitute, Wire.object, apart, got, Net.changeLets]
    rfl
  | outlet =>
    change placeOfWire (net.node w.source).outlets w.outlet w = .ok i at got
    simp [substitute, Wire.object, got, Net.changeLets]
    rfl

end Runs

variable {net : Net} {os : List Ref} {s : Side} {w : Wire} {ws : Multiset Wire}
  {besides : Side → Multiset Wire} {new : List Wire}

section Ends

variable (within : ∀ o ∈ os, o < net.size) (fits : net.Suits os w)
include within fits

theorem ends_attach (s : Side) (ok : net.Holds os s ws) :
    Ends (attach (w.object s) w) net fun _ last =>
      Changes net os s (w ::ₘ ws) (· = w) last := by
  rcases fits.bound s with ⟨i, bound, k⟩
  have mem := fits.mem s
  refine .of_run (run_attach fits.apart k bound)
    (.of_holds (ok.attach (within _ mem) mem bound k) ?_)
  intro keep blind list
  simp [blind w rfl]

theorem ends_detach (s : Side) (ok : net.Holds os s (w ::ₘ ws)) :
    Ends (detach (w.object s) w) net fun _ last =>
      Changes net os s ws (· = w) last := by
  rcases fits.bound s with ⟨i, bound, k⟩
  have mem := fits.mem s
  exact .of_run (run_detach fits.apart k (ok.mem_held mem k))
    (.of_holds (ok.detach (within _ mem) mem bound k)
      fun _ blind => filter_erase_of_not (blind w rfl))

theorem ends_substitute (ok : net.Holds os s (w ::ₘ ws))
    (shared : ∀ other ∈ new, other.object s = w.object s ∧ other.index s = w.index s) :
    Ends (substitute (w.object s) w new) net fun _ last =>
      Changes net os s (new + ws) (· ∈ w :: new) last := by
  rcases fits.bound s with ⟨i, bound, k⟩
  have mem := fits.mem s
  exact .of_run (run_substitute fits.apart k (ok.mem_held mem k) new)
    (.of_holds (ok.substitute (within _ mem) mem bound k
      (fun _ present => coe_replaceAt present) (by simpa using shared))
      fun _ blind => filter_replaceAt_of_not s (blind w List.mem_cons_self)
        (List.forall_mem_cons.mp blind).2)

end Ends

/-- The wires between objects are others, and nothing else in the net is. -/
structure Rethreaded (net : Net) (os : List Ref) (ws : Multiset Wire)
    (besides : Side → Multiset Wire) (touched : Wire → Prop) (last : Net) : Prop where
  alike : Alike Node.unwired net last
  threaded : last.Threaded os ws besides
  spares : Spares touched net last

theorem Rethreaded.of_holds (s : Side) (alike : Alike Node.unwired net last)
    (within : ∀ o ∈ os, o < net.size) (fits : ∀ w ∈ ws, net.Suits os w)
    (here : last.Holds os s (ws + besides s)) (there : last.Holds os s.other (ws + besides s.other))
    (spares : Spares hit net last) : Rethreaded net os ws besides hit last := by
  refine ⟨alike, ⟨alike.within within, fun w inside => (fits w inside).alike alike, ?_⟩, spares⟩
  intro third
  rcases s.eq_or_eq_other third with rfl | rfl
  · exact here
  · exact there

theorem ends_attachAll (within : ∀ o ∈ os, o < net.size)
    (fits : ∀ other ∈ new, net.Suits os other) (ok : net.Holds os s ws) :
    Ends (new.forM fun other => attach (other.object s) other) net fun _ last =>
      Changes net os s (new + ws) (· ∈ new) last := by
  apply Ends.forM (fun (done : List Wire) last =>
    Changes net os s (done + ws) (· ∈ new) last)
  · exact ⟨.refl _ _, by simpa using ok, fun _ _ _ kept => kept, .refl _ _⟩
  · intro done other rest cur split pre
    have fitsOther := fits other (by simp [split])
    apply Ends.mono (ends_attach (pre.alike.within within) (fitsOther.alike pre.alike) s pre.holds)
    intro _ last post
    refine ⟨pre.alike.trans post.alike, ?_, ?_, pre.spares.trans (post.spares.mono ?_)⟩
    · have wiresEq : ((done ++ [other] : List Wire) : Multiset Wire) + ws =
          other ::ₘ (done + ws) := by
        rw [← Multiset.coe_add, Multiset.coe_singleton, Multiset.add_comm (done : Multiset Wire),
          Multiset.add_assoc, Multiset.singleton_add]
      rw [wiresEq]
      exact post.holds
    · intro third ne kept before
      exact post.keeps third ne kept (pre.keeps third ne kept before)
    · rintro _ rfl
      simp [split]

end Build

namespace Net.Threaded

open Build

variable {net : Net} {os : List Ref} {s : Side} {w : Wire} {ws : Multiset Wire}
  {besides : Side → Multiset Wire} {new : List Wire}

theorem ends_disconnect (thr : net.Threaded os (w ::ₘ ws) besides) :
    Ends (disconnect w) net fun _ last =>
      Rethreaded net os ws besides (· = w) last := by
  have fits := thr.fits w (Multiset.mem_cons_self _ _)
  have ok : ∀ s, net.Holds os s (w ::ₘ (ws + besides s)) := by
    intro s
    rw [← cons_add]
    exact thr.holds s
  apply Ends.bind (ends_detach thr.within fits .outlet (ok .outlet))
  intro _ mid first
  have waiting := first.keeps .inlet (by simp) _ (ok .inlet)
  apply Ends.mono (ends_detach (first.alike.within thr.within) (fits.alike first.alike) .inlet
    waiting)
  intro _ last snd
  have ys : ∀ other ∈ ws, net.Suits os other :=
    fun other inside => thr.fits other (Multiset.mem_cons_of_mem inside)
  exact .of_holds .inlet (first.alike.trans snd.alike) thr.within ys snd.holds
    (snd.keeps .outlet (by simp) _ first.holds) (first.spares.trans snd.spares)

theorem ends_connectAny (thr : net.Threaded os ws besides) (fits : net.Suits os w) :
    Ends (connectAny w) net fun _ last =>
      Rethreaded net os (w ::ₘ ws) besides (· = w) last := by
  apply Ends.bind (ends_attach thr.within fits .outlet (thr.holds .outlet))
  intro _ mid first
  have waiting := first.keeps .inlet (by simp) _ (thr.holds .inlet)
  apply Ends.mono (ends_attach (first.alike.within thr.within) (fits.alike first.alike) .inlet
    waiting)
  intro _ last snd
  have all : ∀ other ∈ w ::ₘ ws, net.Suits os other := by
    intro other inside
    rcases Multiset.mem_cons.mp inside with rfl | old
    · exact fits
    · exact thr.fits other old
  refine .of_holds .inlet (first.alike.trans snd.alike) thr.within all ?_ ?_
    (first.spares.trans snd.spares)
  · rw [cons_add]
    exact snd.holds
  · rw [cons_add]
    exact snd.keeps .outlet (by simp) _ first.holds

theorem ends_connect (thr : net.Threaded os ws besides) (fits : net.Suits os w)
    (together : (net.node w.source).parent = (net.node w.target).parent) :
    Ends (connect w) net fun _ last =>
      Rethreaded net os (w ::ₘ ws) besides (· = w) last := by
  apply Ends.at_node
  apply Ends.at_node
  rw [if_pos together]
  exact thr.ends_connectAny fits

theorem ends_exchange (thr : net.Threaded os (w ::ₘ ws) besides)
    (shared : ∀ other ∈ new, other.object s = w.object s ∧
      other.index s = w.index s) (fits : ∀ other ∈ new, net.Suits os other) :
    Ends (do
      substitute (w.object s) w new
      detach (w.object s.other) w
      new.forM fun other => attach (other.object s.other) other) net
      fun _ last => Rethreaded net os (new + ws) besides (· ∈ w :: new) last := by
  have old := thr.fits w (Multiset.mem_cons_self _ _)
  have apart := s.other_ne
  have ok : ∀ s, net.Holds os s (w ::ₘ (ws + besides s)) := by
    intro s
    rw [← cons_add]
    exact thr.holds s
  apply Ends.bind (ends_substitute thr.within old (ok s) shared)
  intro _ snd first
  have waiting := first.keeps s.other apart _ (ok s.other)
  apply Ends.bind (ends_detach (first.alike.within thr.within) (old.alike first.alike)
    s.other waiting)
  intro _ third next
  have alike := first.alike.trans next.alike
  apply Ends.mono (ends_attachAll (alike.within thr.within)
    (fun other inside => (fits other inside).alike alike) next.holds)
  intro _ last attached
  have all : ∀ other ∈ (new : Multiset Wire) + ws, net.Suits os other := by
    intro other inside
    rcases mem_add.mp inside with added | kept
    · exact fits other (by simpa using added)
    · exact thr.fits other (Multiset.mem_cons_of_mem kept)
  have spares : Spares (· ∈ w :: new) net last := by
    refine (first.spares.trans (next.spares.mono ?_)).trans (attached.spares.mono ?_)
    · rintro _ rfl
      exact List.mem_cons_self
    · exact fun _ inN => List.mem_cons_of_mem _ inN
  refine .of_holds s (alike.trans attached.alike) thr.within all ?_ ?_ spares
  · rw [Multiset.add_assoc]
    exact attached.keeps s apart.symm _ (next.keeps s apart.symm _ first.holds)
  · rw [Multiset.add_assoc]
    exact attached.holds

theorem ends_rewire (thr : net.Threaded os (w ::ₘ ws) besides) (some : new ≠ [])
    (shared : ∀ other ∈ new, other.object s = w.object s ∧
      other.index s = w.index s) (fits : ∀ other ∈ new, net.Suits os other)
    (moved : s = .inlet → ∃ other ∈ new, other.source ≠ w.source) :
    Ends (rewire (.some w) new) net fun _ last =>
      Rethreaded net os (new + ws) besides (· ∈ w :: new) last := by
  have notEmpty : new.isEmpty = false := by simpa using some
  have exchange := thr.ends_exchange shared fits
  cases s with
  | outlet =>
    have srcs : (new.all fun other => other.source = w.source) = true :=
      all_eq_true.mpr fun other inside => decide_eq_true (shared other inside).1
    rw [rewire, notEmpty, srcs]
    exact exchange
  | inlet =>
    have notSources : (new.all fun other => other.source = w.source) = false := by
      simpa using moved rfl
    have targets : (new.all fun other => other.target = w.target) = true :=
      all_eq_true.mpr fun other inside => decide_eq_true (shared other inside).1
    rw [rewire, notEmpty, notSources, targets]
    exact exchange

theorem ends_disconnectAll (thr : net.Threaded os (list + ws) besides) :
    Ends (list.forM disconnect) net fun _ last =>
      Rethreaded net os ws besides (· ∈ list) last := by
  have go : ∀ rest : List Wire, (∀ w ∈ rest, w ∈ list) → ∀ cur,
      Alike Node.unwired net cur → Spares (· ∈ list) net cur → cur.Threaded os (rest + ws) besides →
      Ends (rest.forM disconnect) cur fun _ last =>
        Rethreaded net os ws besides (· ∈ list) last := by
    intro rest
    induction rest with
    | nil =>
      intro _ cur alike spares here
      exact .pure ⟨alike, by simpa using here, spares⟩
    | cons w rest ih =>
      intro part cur alike spares here
      change Ends (disconnect w >>= fun _ => rest.forM disconnect) cur _
      rw [← cons_coe, cons_add] at here
      apply Ends.bind (ends_disconnect here)
      intro _ last done
      refine ih (List.forall_mem_cons.mp part).2 last
        (alike.trans done.alike) (spares.trans (done.spares.mono ?_)) done.threaded
      rintro _ rfl
      exact part _ List.mem_cons_self
  exact go list (fun _ inside => inside) net (.refl _ _) (.refl _ _) thr

end Net.Threaded

namespace Build

open Net

variable {net : Net} {g : Ref} {s : Side} {w : Wire} {ws : Multiset Wire}
  {new : List Wire}

/-- The wires of a graph are others, and nothing else in the net is. -/
structure Restrung (net : Net) (g : Ref) (ws : Multiset Wire) (last : Net) : Prop where
  alike : Alike Node.unwired net last
  strung : last.Strung g ws

theorem Rethreaded.restrung
    (rethreaded : Rethreaded net (net.contents g) ws (fun _ => 0) hit last) :
    Restrung net g ws last := by
  have thr := rethreaded.threaded
  rw [← rethreaded.alike.unwired_contents] at thr
  exact ⟨rethreaded.alike, thr.strung⟩

theorem ends_rewire (strung : net.Strung g (w ::ₘ ws)) (some : new ≠ [])
    (shared : ∀ other ∈ new, other.object s = w.object s ∧ other.index s = w.index s)
    (fits : ∀ other ∈ new, net.Admits g other)
    (moved : s = .inlet → ∃ other ∈ new, other.source ≠ w.source) :
    Ends (rewire (.some w) new) net fun _ last => Restrung net g (new + ws) last :=
  (strung.threaded.ends_rewire some shared fits moved).mono fun _ _ done => done.restrung

theorem ends_rewire_none (strung : net.Strung g ws) (fits : net.Admits g w)
    (together : (net.node w.source).parent = (net.node w.target).parent) :
    Ends (rewire none [w]) net fun _ last => Restrung net g (w ::ₘ ws) last :=
  (strung.threaded.ends_connect fits together).bind fun _ _ done => .pure done.restrung

end Build

end PatchCompiler
