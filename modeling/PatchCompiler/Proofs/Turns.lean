import PatchCompiler.Proofs.Remainder
import PatchCompiler.Proofs.Replacement

/-!
# Turn by turn

In the middle of a reduction some objects have been replaced and the others wait for their turn. The
signals that arrive at an object that waits are those of the beginning that are not lost yet, and the
objects that are new have the values their wires give them. One turn takes an object away, with others
in its place, and keeps this.
-/

namespace PatchCompiler

open Multiset

variable {α : Type} {ref : Ref}

/-- When the signals along some wires are lost, and what is left of them. -/
def worths (fate : Ref → Option Nat) (v : Ref → Int → ℚ) (ws : Multiset Wire) :
    Multiset (Option Nat × ℚ) :=
  ws.map fun wire => (fate wire.source, v wire.source wire.outlet)

theorem filter_worths {fate : Ref → Option Nat} {v : Ref → Int → ℚ} {ws : Multiset Wire}
    {turn : Nat} : (worths fate v ws).filter (fun e => stands turn e.1) =
      worths fate v (ws.filter fun w => stands turn (fate w.source)) :=
  filter_map ..

theorem stands_of_succ {turn : Nat} {fate : Option Nat} (post : stands (turn + 1) fate = true) :
    stands turn fate = true := by
  match fate, post with
  | none, _ => rfl
  | some time, post => exact decide_eq_true (Nat.le_of_succ_le (of_decide_eq_true post))

theorem sum_map_filter {xs : Multiset α} {keeps : α → Prop} [DecidablePred keeps]
    {f : α → ℚ} (zero : ∀ item ∈ xs, ¬ keeps item → f item = 0) :
    ((xs.filter keeps).map f).sum = (xs.map f).sum := by
  have rest : ((xs.filter fun item => ¬ keeps item).map f).sum = 0 := by
    apply sum_eq_zero
    intro x inMap
    obtain ⟨item, mem, rfl⟩ := mem_map.mp inMap
    obtain ⟨hm, drops⟩ := mem_filter.mp mem
    exact zero item hm drops
  conv_rhs => rw [← filter_add_not keeps xs, map_add, sum_add, rest]
  rw [add_zero]

namespace Net

/-- Objects up to a turn have been replaced by new ones. -/
structure Halfway (net : Net) (g : Ref) (turn : Nat) (cur : Net) (now : Multiset Wire)
    (new : List Ref) (fate : Ref → Option Nat) : Prop where
  site : cur.Site g now
  floats : ∀ wire ∈ now, wire.type = .float
  rises : ∃ rank : Ref → Nat, ∀ wire ∈ now, rank wire.source < rank wire.target
  contents : cur.contents g = (net.contents g).drop turn ++ new
  distinct : (cur.contents g).Nodup
  looks : ∀ o ∈ (net.contents g).drop turn, (cur.node o).bare = (net.node o).bare
  plain : ∀ o ∈ new, (cur.node o).kind = .plain
  waiting : ∀ o ∈ (net.contents g).drop turn, fate o = net.loss (net.contents g) o
  lasting : ∀ o ∈ new, fate o = none

/-- The values of the objects in the middle of a reduction. -/
structure Valued (net : Net) (g : Ref) (ws : Multiset Wire) (inputs : Int → ℚ) (turn : Nat)
    (cur : Net) (now : Multiset Wire) (new : List Ref) (fate : Ref → Option Nat)
    (v : Ref → Int → ℚ) : Prop where
  waiting : ∀ o ∈ (net.contents g).drop turn, v o = net.remainder inputs (net.contents g) o
  solved : ∀ o ∈ new, v o = cur.evaluate inputs v o
  arrives : ∀ o ∈ (net.contents g).drop turn, ∀ i, worths fate v (now.filter (Wire.At .inlet o i)) =
      (worths (net.loss (net.contents g)) (net.remainder inputs (net.contents g))
        (ws.filter (Wire.At .inlet o i))).filter fun worth => stands turn worth.1
  delivered : ∀ channel, cur.delivered g v channel = net.remainingTotal g inputs channel

end Net

namespace Build

open Net

abbrev after (o : Ref) (ws inner : Multiset Wire) (outs : List (Wire × Wire)) : Multiset Wire :=
  inner + (↑(outs.map Prod.snd) + ws.filter (Wire.Avoids o))

/-- An object has given way to low-level ones that get float signals from each other and from where
the object got its signals. -/
structure Turn (net : Net) (g o : Ref) (ws : Multiset Wire) (os : List Ref)
    (inner : Multiset Wire) (outs : List (Wire × Wire)) (last : Net) : Prop
    extends Swapped net g o ws os inner outs last where
  leaves : ∀ pair ∈ outs, pair.1 ∈ ws ∧ pair.1.source = o
  floats : ∀ wire ∈ inner + ↑(outs.map Prod.snd), wire.type = .float
  origins : ∀ wire ∈ inner + ↑(outs.map Prod.snd), wire.source ∈ os ∨
    ∃ old ∈ ws, old.target = o ∧ old.source = wire.source
  grounded : ∀ wire ∈ inner, wire.source ∈ os → ∀ other ∈ inner, other.target ≠ wire.source
  plain : ∀ ref ∈ os, (last.node ref).kind = .plain

namespace Turn

variable {net last : Net} {g o ref : Ref} {ws inner : Multiset Wire}
  {os : List Ref} {outs : List (Wire × Wire)} {i : Nat}
  (step : Turn net g o ws os inner outs last)
include step

/-- Wires into an object that stays are old ones or go on from the object that has gone. -/
theorem filter_at_old (mem : ref < net.size) (ne : ref ≠ o) :
    (after o ws inner outs).filter (Wire.At .inlet ref i) =
      (↑(outs.map Prod.snd) : Multiset Wire).filter (Wire.At .inlet ref i) +
        (ws.filter (Wire.At .inlet ref i)).filter fun w => w.source ≠ o := by
  have none : inner.filter (Wire.At .inlet ref i) = 0 := by
    rw [filter_eq_nil]
    rintro w inI ⟨rfl, -⟩
    exact (step.fresh _ (step.enters w inI)).not_gt mem
  have avoiding : (ws.filter (Wire.Avoids o)).filter (Wire.At .inlet ref i) =
      (ws.filter (Wire.At .inlet ref i)).filter fun w => w.source ≠ o := by
    rw [filter_filter, filter_filter]
    apply filter_congr
    intro w _
    constructor
    · rintro ⟨isAt, avoids⟩
      exact ⟨avoids.1, isAt⟩
    · rintro ⟨src, isAt⟩
      exact ⟨isAt, src, fun tgt => ne (isAt.1.symm.trans tgt)⟩
  rw [after, filter_add, none, zero_add, filter_add, avoiding]

theorem filter_at_new (strung : net.Strung g ws) (new : ref ∈ os) :
    (after o ws inner outs).filter (Wire.At .inlet ref i) =
      inner.filter (Wire.At .inlet ref i) := by
  have late := step.fresh ref new
  have old : ∀ w ∈ ws, w.target ≠ ref := by
    rintro w inWs rfl
    exact late.not_gt (strung.within _ ((strung.fits w inWs).mem .inlet))
  have rest : (↑(outs.map Prod.snd) + ws.filter (Wire.Avoids o)).filter
      (Wire.At .inlet ref i) = 0 := by
    rw [filter_eq_nil]
    rintro w inR ⟨tgt, -⟩
    rcases mem_add.mp inR with out | avoiding
    · obtain ⟨pair, inO, rfl⟩ := List.mem_map.mp (mem_coe.mp out)
      exact old pair.1 (step.leaves pair inO).1 ((step.targets pair inO).1.symm.trans tgt)
    · exact old w (mem_filter.mp avoiding).1 tgt
  rw [after, filter_add, rest, add_zero]

/-- If the wires that left the object go on, what arrives at an object that stays is as before. -/
theorem map_arriving {first two : Wire → α} (mem : ref < net.size) (ne : ref ≠ o)
    (exit : (↑(outs.map Prod.fst) : Multiset Wire) = ws.filter fun w => w.source = o)
    (goesOn : ∀ pair ∈ outs, two pair.2 = first pair.1)
    (stays : ∀ w ∈ ws, w.source ≠ o → two w = first w) :
    ((after o ws inner outs).filter (Wire.At .inlet ref i)).map two =
      (ws.filter (Wire.At .inlet ref i)).map first := by
  have moved : ((↑(outs.map Prod.snd) : Multiset Wire).filter (Wire.At .inlet ref i)).map
      two = ((ws.filter (Wire.At .inlet ref i)).filter fun w => w.source = o).map first := by
    rw [filter_comm, ← exit, filter_coe, filter_coe,
      map_coe, map_coe, List.filter_map, List.filter_map, List.map_map, List.map_map]
    have sameAt : outs.filter ((fun w => decide (w.At .inlet ref i)) ∘ Prod.snd) =
        outs.filter ((fun w => decide (w.At .inlet ref i)) ∘ Prod.fst) := by
      apply List.filter_congr
      intro pair inO
      obtain ⟨tgt, inlet⟩ := step.targets pair inO
      apply decide_eq_decide.mpr
      simp only [Wire.At, Wire.object, Wire.index, tgt, inlet]
    rw [sameAt, coe_eq_coe]
    apply List.Perm.of_eq
    apply List.map_congr_left
    intro pair mem
    exact goesOn pair (List.mem_of_mem_filter mem)
  have rest : ((ws.filter (Wire.At .inlet ref i)).filter fun w => w.source ≠ o).map two =
      ((ws.filter (Wire.At .inlet ref i)).filter fun w => ¬ w.source = o).map first := by
    apply map_congr rfl
    intro w mem
    obtain ⟨inWs, src⟩ := mem_filter.mp mem
    exact stays w (mem_filter.mp inWs).1 src
  rw [step.filter_at_old mem ne, map_add, moved, rest, ← map_add, filter_add_not]

/-- If the object sends nothing on, the other wires into an object that stays are as before. -/
theorem map_arriving_lost {first snd : Wire → α} (mem : ref < net.size)
    (ne : ref ≠ o) (mute : outs = []) (stays : ∀ w ∈ ws, w.source ≠ o → snd w = first w) :
    ((after o ws inner outs).filter (Wire.At .inlet ref i)).map snd =
      ((ws.filter (Wire.At .inlet ref i)).filter fun w => w.source ≠ o).map first := by
  rw [step.filter_at_old mem ne, mute, List.map_nil, coe_nil, filter_zero, zero_add]
  apply map_congr rfl
  intro w mem
  obtain ⟨inWs, src⟩ := mem_filter.mp mem
  exact stays w (mem_filter.mp inWs).1 src

/-- New objects stand between the objects that fed the old one and those that it fed. -/
theorem rises (strung : net.Strung g ws)
    (rising : ∃ rank : Ref → Nat, ∀ w ∈ ws, rank w.source < rank w.target) :
    ∃ rank : Ref → Nat, ∀ w ∈ after o ws inner outs, rank w.source < rank w.target := by
  classical
  obtain ⟨rank, rising⟩ := rising
  have oldEnd : ∀ s, ∀ w ∈ ws, w.object s ∉ os := fun s w inWs new =>
    (step.fresh _ new).not_gt (strung.within _ ((strung.fits w inWs).mem s))
  refine ⟨fun ref => if ref ∈ os then
    2 * rank o + if ∃ w ∈ inner, w.target = ref then 1 else 0
    else 2 * rank ref + 1, ?_⟩
  intro w inAfter
  -- what feeds a wire that is new has at most the rank of the object that has gone
  have origin : ∀ w ∈ inner + ↑(outs.map Prod.snd), w.source ∉ os → rank w.source < rank o := by
    intro w nw notNew
    rcases step.origins w nw with new | ⟨old, inWs, tgt, src⟩
    · exact absurd new notNew
    · rw [← tgt, ← src]
      exact rising old inWs
  rw [mem_add, mem_add] at inAfter
  rcases inAfter with inI | out | avoiding
  · have fed : ∃ y ∈ inner, y.target = w.target := ⟨w, inI, rfl⟩
    simp only [if_pos (step.enters w inI), if_pos fed]
    by_cases new : w.source ∈ os
    · have unfed : ¬ ∃ y ∈ inner, y.target = w.source := by
        rintro ⟨y, hm, tgt⟩
        exact step.grounded w inI new y hm tgt
      simp only [if_pos new, if_neg unfed]
      omega
    · have lt := origin w (mem_add.mpr (.inl inI)) new
      simp only [if_neg new]
      omega
  · obtain ⟨pair, inO, rfl⟩ := List.mem_map.mp (mem_coe.mp out)
    obtain ⟨inWs, src⟩ := step.leaves pair inO
    have ge := rising pair.1 inWs
    rw [src] at ge
    have oldTarget : pair.1.target ∉ os := oldEnd .inlet pair.1 inWs
    simp only [(step.targets pair inO).1, if_neg oldTarget]
    by_cases new : pair.2.source ∈ os
    · simp only [if_pos new]
      split <;> omega
    · have lt := origin pair.2 (mem_add.mpr (.inr out)) new
      simp only [if_neg new]
      omega
  · have inWs := (mem_filter.mp avoiding).1
    have oldSource : w.source ∉ os := oldEnd .outlet w inWs
    have oldTarget : w.target ∉ os := oldEnd .inlet w inWs
    have rising := rising w inWs
    simp only [if_neg oldSource, if_neg oldTarget]
    omega

end Turn

end Build

/-- What is known of objects, with something new about some of them. -/
def amended {α : Type} (os : List Ref) (new old : Ref → α) (ref : Ref) : α :=
  if ref ∈ os then new ref else old ref

theorem amended_of_mem {os : List Ref} {new old : Ref → α}
    (mem : ref ∈ os) : amended os new old ref = new ref :=
  if_pos mem

theorem amended_of_notMem {os : List Ref} {new old : Ref → α}
    (out : ref ∉ os) : amended os new old ref = old ref :=
  if_neg out

namespace Net

open Build

variable {net cur last : Net} {g o : Ref} {ws now inner : Multiset Wire}
  {inputs : Int → ℚ} {turn : Nat} {new os : List Ref} {outs : List (Wire × Wire)}
  {fate : Ref → Option Nat} {v worth : Ref → Int → ℚ}

/-- It is the turn of an object. -/
structure Due (net : Net) (g : Ref) (ws : Multiset Wire) (rank : Ref → Nat) (turn : Nat) (cur : Net)
    (now : Multiset Wire) (new : List Ref) (fate : Ref → Option Nat) (o : Ref) : Prop
    extends net.Halfway g turn cur now new fate where
  ranked : net.Ranked g ws rank
  strung : net.Strung g ws
  once : (net.contents g).Nodup
  here : (net.contents g)[turn]? = some o

namespace Due

variable {rank : Ref → Nat} (due : net.Due g ws rank turn cur now new fate o)
include due

theorem contents_cons : cur.contents g = o :: ((net.contents g).drop (turn + 1) ++ new) := by
  obtain ⟨lt, eq⟩ := List.getElem?_eq_some_iff.mp due.here
  rw [due.contents, List.drop_eq_getElem_cons lt, eq, List.cons_append]

theorem mem_drop : o ∈ (net.contents g).drop turn := by
  obtain ⟨lt, eq⟩ := List.getElem?_eq_some_iff.mp due.here
  rw [List.drop_eq_getElem_cons lt, eq]
  exact List.mem_cons_self

theorem object_mem : o ∈ cur.contents g := by
  rw [due.contents_cons]
  exact List.mem_cons_self

variable (step : Turn cur g o now os inner outs last)
include step

theorem contents_turn : last.contents g = (net.contents g).drop (turn + 1) ++ (new ++ os) := by
  rw [step.contents, due.contents_cons, List.erase_cons_head, List.append_assoc]

theorem notMem_objects (mem : ref ∈ cur.contents g) : ref ∉ os :=
  fun new => (step.fresh ref new).not_gt (due.site.within ref mem)

theorem mem_current (mem : ref ∈ (net.contents g).drop (turn + 1) ++ new) :
    ref ∈ cur.contents g ∧ ref ≠ o := by
  have distinct := due.distinct
  rw [due.contents_cons] at distinct ⊢
  refine ⟨List.mem_cons_of_mem _ mem, ?_⟩
  rintro rfl
  exact (List.nodup_cons.mp distinct).1 mem

theorem bare_eq (mem : ref ∈ cur.contents g) : (last.node ref).bare = (cur.node ref).bare := by
  refine step.looks ref (due.site.within ref mem) ?_
  rintro rfl
  exact due.site.outside mem

theorem next : net.Halfway g (turn + 1) last (after o now inner outs) (new ++ os)
    (amended os (fun _ => none) fate) where
  site := step.site
  floats := by
    intro w inAfter
    rw [after, ← add_assoc, mem_add] at inAfter
    rcases inAfter with isNew | avoiding
    · exact step.floats w isNew
    · exact due.floats w (mem_filter.mp avoiding).1
  rises := step.rises due.site.toStrung due.rises
  contents := due.contents_turn step
  distinct := by
    have distinct := due.distinct
    rw [due.contents_cons] at distinct
    rw [due.contents_turn step, ← List.append_assoc]
    refine List.nodup_append.mpr ⟨(List.nodup_cons.mp distinct).2, step.distinct, ?_⟩
    rintro ref old _ isNew rfl
    exact due.notMem_objects step (due.mem_current step old).1 isNew
  looks := by
    intro ref mem
    obtain ⟨old, ne⟩ := due.mem_current step (List.mem_append_left _ mem)
    rw [due.bare_eq step old]
    exact due.looks ref (List.drop_subset_drop_left _ (Nat.le_succ turn) mem)
  plain := by
    intro ref mem
    rcases List.mem_append.mp mem with old | isNew
    · have eq := due.bare_eq step (due.mem_current step (List.mem_append_right _ old)).1
      rw [Node.look_of_bare eq Node.kind rfl]
      exact due.plain ref old
    · exact step.plain ref isNew
  waiting := by
    intro ref mem
    have old := (due.mem_current step (List.mem_append_left _ mem)).1
    rw [amended_of_notMem (due.notMem_objects step old)]
    exact due.waiting ref (List.drop_subset_drop_left _ (Nat.le_succ turn) mem)
  lasting := by
    intro ref mem
    rcases List.mem_append.mp mem with old | isNew
    · have hm := (due.mem_current step (List.mem_append_right _ old)).1
      rw [amended_of_notMem (due.notMem_objects step hm)]
      exact due.lasting ref old
    · exact amended_of_mem isNew

end Due

/-- What the objects that take the place of one must send for a turn to keep what is left of the
signals. -/
structure Relays (net : Net) (g : Ref) (inputs : Int → ℚ) (turn : Nat) (cur : Net)
    (now : Multiset Wire) (fate : Ref → Option Nat) (v : Ref → Int → ℚ) (o : Ref)
    (os : List Ref) (outs : List (Wire × Wire)) (last : Net) (worth : Ref → Int → ℚ) :
    Prop where
  solved : ∀ ref ∈ os, worth ref = last.evaluate inputs (amended os worth v) ref
  kept : net.loss (net.contents g) o ≠ some turn →
    (↑(outs.map Prod.fst) : Multiset Wire) = now.filter (fun wire => wire.source = o) ∧
    ∀ pair ∈ outs, amended os (fun _ => none) fate pair.2.source =
        net.loss (net.contents g) o ∧
      amended os worth v pair.2.source pair.2.outlet =
        net.remainder inputs (net.contents g) o pair.1.outlet
  lost : net.loss (net.contents g) o = some turn → outs = []
  tapped : ∀ channel, (os.map fun ref => (((last.node ref).taps channel).map
      (last.inflow (amended os worth v) ref)).sum).sum =
    (((cur.node o).taps channel).map (cur.inflow v o)).sum

def Proceeds (net : Net) (g : Ref) (ws : Multiset Wire) (turn : Nat) (cur : Net)
    (now : Multiset Wire) (new : List Ref) (fate : Ref → Option Nat) (o : Ref) (last : Net) :
    Prop :=
  ∃ os inner outs, Turn cur g o now os inner outs last ∧
    ∀ inputs v, net.Valued g ws inputs turn cur now new fate v →
      ∃ worth, net.Relays g inputs turn cur now fate v o os outs last worth

theorem Ranked.idxOf_le_loss {rank : Ref → Nat} {order : List Ref} {time : Nat}
    (ranked : net.Ranked g ws rank) (strung : net.Strung g ws)
    (mem : o ∈ net.contents g) (lost : net.loss order o = some time) : order.idxOf o ≤ time := by
  rw [ranked.loss_eq strung order o mem] at lost
  obtain ⟨-, op, -, ⟨-, rfl⟩ | ⟨-, -, ⟨-, -, rfl⟩ | ⟨-, alone⟩⟩⟩ := Node.fate_eq_some lost
  · exact le_rfl
  · exact le_rfl
  · have arr : some time ∈ net.fates (net.loss order) (order.idxOf o) o 0 := by
      rw [alone]
      exact List.mem_singleton_self _
    exact of_decide_eq_true (List.mem_filter.mp arr).2

theorem Ranked.remainder_of_isSome {rank : Ref → Nat} {order : List Ref}
    (ranked : net.Ranked g ws rank) (strung : net.Strung g ws)
    (mem : o ∈ net.contents g) (lost : (net.loss order o).isSome = true)
    (out : Int) : net.remainder inputs order o out = 0 := by
  rw [ranked.remainder_eq strung inputs order o mem]
  exact salvage_of_isSome lost

section Values

variable {rank : Ref → Nat} (due : net.Due g ws rank turn cur now new fate o)
include due

/-- Of the signals that still arrive, only those of the object whose turn it is can be lost now. -/
theorem Due.fate_eq_some {w : Wire} {time : Nat} (inWs : w ∈ now)
    (lost : fate w.source = some time) : turn ≤ time ∧ (time = turn → w.source = o) := by
  have hm := (due.site.fits w inWs).mem .outlet
  change w.source ∈ _ at hm
  rw [due.contents, List.mem_append] at hm
  rcases hm with waits | isNew
  · rw [due.waiting _ waits] at lost
    have least := due.ranked.idxOf_le_loss due.strung (List.mem_of_mem_drop waits) lost
    have split := List.take_append_drop turn (net.contents g)
    have sep : w.source ∉ (net.contents g).take turn := by
      have once := due.once
      rw [← split] at once
      exact fun early => (List.nodup_append.mp once).2.2 _ early _ waits rfl
    obtain ⟨lt, eq⟩ := List.getElem?_eq_some_iff.mp due.here
    have i : (net.contents g).idxOf w.source =
        turn + ((net.contents g).drop turn).idxOf w.source := by
      conv_lhs => rw [← split, List.idxOf_append_of_notMem sep]
      rw [List.length_take_of_le lt.le]
    refine ⟨by omega, ?_⟩
    intro same
    have first : (net.contents g).idxOf w.source = turn := by omega
    rw [← eq]
    have got := List.getElem_idxOf (List.idxOf_lt_length_of_mem (List.mem_of_mem_drop waits))
    simp only [first] at got
    exact got.symm
  · rw [due.lasting _ isNew] at lost
    cases lost

variable (valued : net.Valued g ws inputs turn cur now new fate v)
  (step : Turn cur g o now os inner outs last)
  (relays : net.Relays g inputs turn cur now fate v o os outs last worth)

section Arriving

include step

theorem Due.amended_source {nu old : Ref → α} {w : Wire}
    (inWs : w ∈ now) : amended os nu old w.source = old w.source :=
  amended_of_notMem (due.notMem_objects step ((due.site.fits w inWs).mem .outlet))

include valued relays

theorem Valued.inflow_next (mem : ref ∈ (net.contents g).drop (turn + 1) ++ new) (i : Nat) :
    last.inflow (amended os worth v) ref i = cur.inflow v ref i := by
  obtain ⟨old, ne⟩ := due.mem_current step mem
  have stays : ref ∈ last.contents g := by
    rw [due.contents_turn step, ← List.append_assoc]
    exact List.mem_append_left _ mem
  have lt := due.site.within ref old
  rw [step.site.toStrung.inflow_eq stays, due.site.toStrung.inflow_eq old]
  have unchanged : ∀ w ∈ now, w.source ≠ o →
      amended os worth v w.source w.outlet = v w.source w.outlet :=
    fun w inWs _ => by rw [due.amended_source step inWs]
  by_cases lost : net.loss (net.contents g) o = some turn
  · rw [step.map_arriving_lost lt ne (relays.lost lost) unchanged]
    apply sum_map_filter
    intro w hm kept
    have waits := due.mem_drop
    rw [not_not.mp kept, valued.waiting o waits]
    exact due.ranked.remainder_of_isSome due.strung (List.mem_of_mem_drop waits) (by rw [lost]; rfl) _
  · obtain ⟨exit, goesOn⟩ := relays.kept lost
    rw [step.map_arriving lt ne exit ?_ unchanged]
    intro pair inO
    rw [(goesOn pair inO).2, (step.leaves pair inO).2, valued.waiting o (due.mem_drop)]

/-- The signals that arrive at objects that still wait are those that are not lost yet. -/
theorem Valued.arrives_next (hm : ref ∈ (net.contents g).drop (turn + 1)) (i : Nat) :
    worths (amended os (fun _ => none) fate) (amended os worth v)
        ((after o now inner outs).filter (Wire.At .inlet ref i)) =
      (worths (net.loss (net.contents g)) (net.remainder inputs (net.contents g))
        (ws.filter (Wire.At .inlet ref i))).filter fun e => stands (turn + 1) e.1 := by
  obtain ⟨old, ne⟩ := due.mem_current step (List.mem_append_left _ hm)
  have lt := due.site.within ref old
  have unchanged : ∀ w ∈ now, w.source ≠ o → (amended os (fun _ => none) fate w.source,
        amended os worth v w.source w.outlet) =
      (fate w.source, v w.source w.outlet) := fun w inWs _ => by
    rw [due.amended_source step inWs, due.amended_source step inWs]
  have waits := due.mem_drop
  have pre : (worths (net.loss (net.contents g)) (net.remainder inputs (net.contents g))
      (ws.filter (Wire.At .inlet ref i))).filter (fun e => stands (turn + 1) e.1) =
      worths fate v ((now.filter (Wire.At .inlet ref i)).filter
        fun w => stands (turn + 1) (fate w.source)) := by
    rw [← filter_worths, valued.arrives ref
      (List.drop_subset_drop_left _ (Nat.le_succ turn) hm) i, filter_filter]
    apply filter_congr
    intro e _
    exact ⟨fun post => ⟨post, stands_of_succ post⟩, And.left⟩
  rw [pre]
  by_cases lost : net.loss (net.contents g) o = some turn
  · rw [worths, step.map_arriving_lost lt ne (relays.lost lost) unchanged, worths]
    congr 1
    apply filter_congr
    intro w mem
    have inWs := (mem_filter.mp mem).1
    constructor
    · intro src
      match eq : fate w.source with
      | none => rfl
      | some time =>
        obtain ⟨least, same⟩ :=
          due.fate_eq_some inWs eq
        exact decide_eq_true (Nat.lt_of_le_of_ne least fun eq' => src (same eq'.symm))
    · rintro post rfl
      rw [due.waiting _ waits, lost] at post
      exact Nat.lt_irrefl _ (of_decide_eq_true post)
  · obtain ⟨exit, goesOn⟩ := relays.kept lost
    rw [worths, step.map_arriving lt ne exit ?_ unchanged, worths]
    · congr 1
      symm
      rw [filter_eq_self]
      intro w mem
      have inWs := (mem_filter.mp mem).1
      match eq : fate w.source with
      | none => rfl
      | some time =>
        obtain ⟨least, same⟩ :=
          due.fate_eq_some inWs eq
        refine decide_eq_true (Nat.lt_of_le_of_ne least ?_)
        rintro rfl
        rw [same rfl, due.waiting _ waits] at eq
        exact lost eq
    · intro pair inO
      rw [(goesOn pair inO).1, (goesOn pair inO).2, (step.leaves pair inO).2,
        valued.waiting o waits, due.waiting o waits]

theorem Valued.solved_next (hm : ref ∈ new ++ os) : amended os worth v ref =
      last.evaluate inputs (amended os worth v) ref := by
  rcases List.mem_append.mp hm with old | isNew
  · have mem : ref ∈ (net.contents g).drop (turn + 1) ++ new := List.mem_append_right _ old
    have inCurrent := (due.mem_current step mem).1
    have eq := due.bare_eq step inCurrent
    rw [amended_of_notMem (due.notMem_objects step inCurrent), valued.solved ref old]
    funext outlet
    have plain : (last.node ref).kind ≠ .binary := by
      rw [Node.look_of_bare eq Node.kind rfl, due.plain ref old]
      exact nofun
    rw [evaluate, evaluate, valued.inflow_next due step relays mem,
      valued.inflow_next due step relays mem,
      Node.output_of_ne_binary plain _ _ _ _ _ (!(cur.held .inlet ref 1).isEmpty)]
    exact (Node.look_of_bare eq (fun n => n.output inputs outlet _ _ _) rfl).symm
  · rw [amended_of_mem isNew]
    exact relays.solved ref isNew

theorem Valued.delivered_next (channel : Int) : last.delivered g (amended os worth v) channel =
      net.remainingTotal g inputs channel := by
  rw [← valued.delivered channel]
  unfold Net.delivered
  rw [due.contents_turn step, ← List.append_assoc, List.map_append, List.sum_append, relays.tapped channel,
    due.contents_cons, List.map_cons, List.sum_cons, add_comm]
  congr 2
  apply List.map_congr_left
  intro ref mem
  have eq := due.bare_eq step (due.mem_current step mem).1
  rw [Node.look_of_bare eq (fun n => n.taps channel) rfl]
  congr 1
  apply List.map_congr_left
  intro i _
  exact valued.inflow_next due step relays mem i

theorem Valued.next : net.Valued g ws inputs (turn + 1) last (after o now inner outs)
    (new ++ os) (amended os (fun _ => none) fate) (amended os worth v) where
  waiting := by
    intro ref mem
    have old := (due.mem_current step (List.mem_append_left _ mem)).1
    rw [amended_of_notMem (due.notMem_objects step old)]
    exact valued.waiting ref (List.drop_subset_drop_left _ (Nat.le_succ turn) mem)
  solved := fun _ mem => valued.solved_next due step relays mem
  arrives := fun _ mem =>
    valued.arrives_next due step relays mem
  delivered := valued.delivered_next due step relays

end Arriving

section Now

include valued

theorem Valued.coe_fates_now (i : Nat) :
    (net.fates (net.loss (net.contents g)) turn o i : Multiset (Option Nat)) =
      ↑((cur.held .inlet o i).map fun w => fate w.source) := by
  have waits := due.mem_drop
  have firsts := congrArg (Multiset.map Prod.fst) (valued.arrives o waits i)
  rw [filter_worths, worths, worths, map_map, map_map] at firsts
  rw [due.strung.coe_fates (List.mem_of_mem_drop waits), filter_map, ← map_coe,
    due.site.holds .inlet o (due.object_mem)]
  exact firsts.symm

theorem Valued.loss_now : net.loss (net.contents g) o =
    (net.node o).fate turn ((cur.held .inlet o 0).map fun w => fate w.source)
      ((cur.held .inlet o 1).map fun w => fate w.source) := by
  obtain ⟨lt, eq⟩ := List.getElem?_eq_some_iff.mp due.here
  have i : (net.contents g).idxOf o = turn := by
    rw [← eq, due.once.idxOf_getElem]
  rw [due.ranked.loss_eq due.strung _ o (List.mem_of_mem_drop (due.mem_drop)), prune, i]
  exact Node.fate_perm (coe_eq_coe.mp (valued.coe_fates_now due 0))
    (coe_eq_coe.mp (valued.coe_fates_now due 1))

theorem Valued.inflow_now (i : Nat) : net.inflow (net.remainder inputs (net.contents g)) o i =
      cur.inflow v o i := by
  have waits := due.mem_drop
  have hin := List.mem_of_mem_drop waits
  have seconds := congrArg (Multiset.map Prod.snd) (valued.arrives o waits i)
  rw [filter_worths, worths, worths, map_map, map_map] at seconds
  rw [due.strung.inflow_eq hin, due.site.toStrung.inflow_eq (due.object_mem)]
  refine Eq.trans ?_ (congrArg Multiset.sum seconds).symm
  symm
  apply sum_map_filter
  intro w hm fallen
  have src := (due.strung.fits w (mem_filter.mp hm).1).mem .outlet
  apply due.ranked.remainder_of_isSome due.strung src
  match eq : net.loss (net.contents g) w.source with
  | none =>
    rw [eq] at fallen
    exact absurd rfl fallen
  | some time => rfl

/-- What is left at the object whose turn it is follows from what still arrives. -/
theorem Valued.remainder_now (out : Int) : net.remainder inputs (net.contents g) o out =
      if (net.loss (net.contents g) o).isSome then 0
      else (net.node o).output inputs out (cur.inflow v o 0)
        (cur.inflow v o 1) !(cur.held .inlet o 1).isEmpty := by
  obtain ⟨lt, eq⟩ := List.getElem?_eq_some_iff.mp due.here
  have i : (net.contents g).idxOf o = turn := by
    rw [← eq, due.once.idxOf_getElem]
  have same := coe_eq_coe.mp (valued.coe_fates_now due 1)
  have empty : (net.fates (net.loss (net.contents g)) turn o 1).isEmpty =
      (cur.held .inlet o 1).isEmpty := by
    rw [same.isEmpty_eq, List.isEmpty_map]
  rw [due.ranked.remainder_eq due.strung _ _ o (List.mem_of_mem_drop (due.mem_drop)),
    salvage, i, empty, valued.inflow_now due, valued.inflow_now due]

end Now

end Values

end Net

end PatchCompiler
