import PatchCompiler.Net.Reduction
import PatchCompiler.Proofs.Creation

/-!
# Objects in the place of another

A reduction adds new objects to a graph, moves wires from the old object to them and removes the old
object. What becomes of the graph is told by what becomes of its wires.
-/

namespace PatchCompiler

open List Multiset Net

variable {objects os : List Ref} {ins outs : List (Wire × Wire)} {extra : List Wire}

namespace Net

variable {net last : Net} {g o : Ref} {ws new : Multiset Wire}

structure Joined (net : Net) (g : Ref) (objects : List Ref) (last : Net) : Prop where
  size : last.size = net.size
  others : ∀ ref, ref ≠ g → ref ∉ objects → last.node ref = net.node ref
  own : ∀ ref ∈ objects, last.node ref = (net.node ref).inGraph g
  entries : (last.node g).body.objects =
    (net.node g).body.objects ++ objects.map fun o => (.own o, o)

/-- A new object of which a graph takes note without complaint. -/
def Welcome (net : Net) (o : Ref) : Prop :=
  (net.node o).type ∈ Build.quietTypes ∨
    (net.node o).type = "__inlet" ∧
      ∃ index, (net.node o).arguments.get? "index" = some index ∧ index.isNumber = true

theorem Joined.contents (joined : Joined net g objects last) :
    last.contents g = net.contents g ++ objects := by
  rw [Net.contents, joined.entries, map_append, List.map_map, Net.contents]
  simp [Function.comp_def]

theorem Joined.added {next : Net} (joined : Joined net g os last)
    (added : Added last g o next) (ne : o ≠ g) (nu : o ∉ os) (sep : g ∉ os) :
    Joined net g (os ++ [o]) next := by
  refine ⟨added.size.trans joined.size, ?_, ?_, ?_⟩
  · intro ref notG out
    rw [mem_append, List.mem_singleton, not_or] at out
    rw [added.others ref notG out.2, joined.others ref notG out.1]
  · intro ref mem
    rw [mem_append, List.mem_singleton] at mem
    rcases mem with old | rfl
    · have notG : ref ≠ g := fun eq => sep (eq ▸ old)
      have notObject : ref ≠ o := fun eq => nu (eq ▸ old)
      rw [added.others ref notG notObject, joined.own ref old]
    · rw [added.own, joined.others ref ne nu]
  · rw [added.objects, joined.entries, map_append, append_assoc]
    rfl

theorem Site.restrung (site : net.Site g ws) (restrung : Build.Restrung net g new last) :
    last.Site g new := by
  have alike := restrung.alike
  have body : ∀ ref, (last.node ref).body = (net.node ref).body := fun _ => alike.look Node.body rfl
  have cs := alike.unwired_contents g
  refine ⟨restrung.strung, ?_, ?_, ?_, ?_, ?_, ?_⟩
  · rw [alike.look Node.kind rfl]
    exact site.isGraph
  · rw [alike.1]
    exact site.inside
  · rw [cs]
    exact site.outside
  · rw [cs]
    intro o mem
    rw [alike.look Node.parent rfl]
    exact site.parents o mem
  · rw [body, alike.1]
    exact site.keys
  · rw [body]
    intro o mem
    rw [alike.1, alike.look Node.arguments rfl]
    exact site.indices o mem

theorem Site.removed (site : net.Site g ws) (removed : Build.Removed net g o ws last) :
    last.Site g (ws.filter (Wire.Avoids o)) := by
  have alike := removed.alike
  have subset : ∀ e ∈ (last.node g).body.objects, e ∈ (net.node g).body.objects := by
    rw [removed.body]
    exact fun e mem => mem_of_mem_eraseP mem
  have cs : ∀ ref ∈ last.contents g, ref ∈ net.contents g := by
    intro ref mem
    obtain ⟨e, hm, rfl⟩ := mem_map.mp mem
    exact mem_map_of_mem (subset e hm)
  refine ⟨removed.strung, ?_, ?_, ?_, ?_, ?_, ?_⟩
  · rw [alike.look Node.kind rfl]
    exact site.isGraph
  · rw [alike.1]
    exact site.inside
  · exact fun mem => site.outside (cs g mem)
  · intro ref mem
    rw [alike.look Node.parent rfl]
    exact site.parents ref (cs ref mem)
  · rw [alike.1]
    exact fun e mem => site.keys e (subset e mem)
  · rw [removed.body]
    intro ref mem
    rw [alike.1, alike.look Node.arguments rfl]
    exact site.indices ref mem

theorem Strung.split (strung : net.Strung g ws) (o : Ref) :
    ws = (ws.filter fun w => w.object .inlet = o) +
      ((ws.filter fun w => w.object .outlet = o) + ws.filter (Wire.Avoids o)) := by
  have exit : (ws.filter fun w => ¬ w.object .inlet = o) =
      (ws.filter fun w => w.object .outlet = o) + ws.filter (Wire.Avoids o) := by
    apply filter_add_filter_of_disjoint
    · intro w inWs
      have sep := (strung.fits w inWs).apart
      grind [Wire.Avoids, Wire.object]
    · rintro w - ⟨eq, avoids, -⟩
      exact avoids eq
  rw [← exit, filter_add_not]

theorem Joined.fits {wire : Wire} (joined : Joined net g os last) (out : g ∉ net.contents g ++ os)
    (suits : net.Suits (net.contents g ++ os) wire) : last.Admits g wire := by
  have lets : ∀ ref ∈ net.contents g ++ os, ∀ side,
      (last.node ref).lets side = (net.node ref).lets side := by
    intro ref hm side
    by_cases new : ref ∈ os
    · rw [joined.own ref new]
      cases side <;> rfl
    · rw [joined.others ref (fun eq => out (eq ▸ hm)) new]
  refine ⟨suits.apart, ?_, ?_⟩
  · rw [joined.contents]
    exact suits.mem
  · intro side
    rw [lets _ (suits.mem side)]
    exact suits.bound side

end Net

namespace Build

variable {net : Net} {g o : Ref} {ws : Multiset Wire}

theorem ends_addWelcome (site : net.Site g ws) (loose : net.Loose g o) (welcome : net.Welcome o) :
    Ends (add g o) net fun _ last =>
      Added net g o last ∧ last.Site g ws := by
  rcases welcome with quiet | ⟨type, k, indexed, q⟩
  · exact ends_add_quiet site loose quiet
  · exact ends_add_inlet site loose type indexed q

theorem ends_addAll (site : net.Site g ws) (nodup : objects.Nodup)
    (loose : ∀ o ∈ objects, net.Loose g o) (welcome : ∀ o ∈ objects, net.Welcome o) :
    Ends (objects.forM (add g)) net fun _ last =>
      Joined net g objects last ∧ last.Site g ws := by
  apply Ends.forM (fun done last => Joined net g done last ∧ last.Site g ws)
  · refine ⟨⟨rfl, fun _ _ _ => rfl, ?_, by simp⟩, site⟩
    intro ref mem
    cases mem
  · rintro done o rest cur split ⟨joined, siteHere⟩
    have inObjects : o ∈ objects := by simp [split]
    have looseHere := loose o inObjects
    rw [split] at nodup
    have nu : o ∉ done := by
      intro mem
      exact (nodup_append.mp nodup).2.2 o mem o mem_cons_self rfl
    have eq := joined.others o looseHere.different nu
    have sep : g ∉ done := by
      intro mem
      exact (loose g (by simp [split, mem])).different rfl
    have looseNow : cur.Loose g o := by
      refine ⟨joined.size ▸ looseHere.inside, looseHere.different, ?_, ?_, ?_, ?_⟩
      · rw [joined.contents, mem_append, not_or]
        exact ⟨looseHere.outside, nu⟩
      · rw [joined.entries]
        intro e kn key
        rcases mem_append.mp kn with old | new
        · exact looseHere.unnamed e old key
        · obtain ⟨y, hm, rfl⟩ := mem_map.mp new
          cases key
          exact nu hm
      · rw [eq]
        exact looseHere.identity
      · intro s i
        rw [held, eq]
        exact looseHere.silent s i
    have welcomeNow : cur.Welcome o := by
      rw [Welcome, eq]
      exact welcome o inObjects
    apply Ends.mono (ends_addWelcome siteHere looseNow welcomeNow)
    rintro _ last ⟨added, siteLast⟩
    exact ⟨joined.added added looseHere.different nu sep, siteLast⟩

def moved (pair : Wire × Wire) : Move :=
  (some pair.1, [pair.2])

/-- Wires of an object are moved one after the other, keeping the end at another object. -/
theorem ends_moves (s : Side) {pairs : List (Wire × Wire)}
    (strung : net.Strung g (↑(pairs.map Prod.fst) + ws))
    (shared : ∀ pair ∈ pairs, pair.2.object s = pair.1.object s ∧ pair.2.index s = pair.1.index s)
    (fits : ∀ pair ∈ pairs, net.Admits g pair.2)
    (away : s = .inlet → ∀ pair ∈ pairs, pair.2.source ≠ pair.1.source) :
    Ends ((pairs.map moved).forM fun move => rewire move.1 move.2) net fun _ last =>
      Restrung net g (↑(pairs.map Prod.snd) + ws) last := by
  have go : ∀ rest : List (Wire × Wire), (∀ pair ∈ rest, pair ∈ pairs) → ∀ cur,
      Alike Node.unwired net cur → ∀ ws, cur.Strung g (↑(rest.map Prod.fst) + ws) →
      Ends ((rest.map moved).forM fun move => rewire move.1 move.2) cur fun _ last =>
        Restrung net g (↑(rest.map Prod.snd) + ws) last := by
    intro rest
    induction rest with
    | nil =>
      intro _ cur alike ws here
      exact .pure ⟨alike, here⟩
    | cons pair rest ih =>
      intro subset cur alike ws here
      have inPairs := subset pair mem_cons_self
      rw [List.map_cons, ← cons_coe, cons_add] at here
      have rewired : Ends (rewire (some pair.1) [pair.2]) cur fun _ last =>
          Restrung cur g ([pair.2] + (↑(rest.map Prod.fst) + ws)) last :=
        ends_rewire here (by simp) (by simpa using shared pair inPairs)
          (by simpa using (fits pair inPairs).alike alike)
          (fun i => ⟨pair.2, by simp, away i pair inPairs⟩)
      apply Ends.bind rewired
      intro _ last done
      have strungLast := done.strung
      rw [coe_singleton, singleton_add, ← add_cons] at strungLast
      apply Ends.mono (ih (forall_mem_cons.mp subset).2 last (alike.trans done.alike) _ strungLast)
      intro _ final moves
      rw [List.map_cons, ← cons_coe, cons_add, ← add_cons]
      exact moves
  exact go pairs (fun _ mem => mem) net (.refl _ _) ws strung

/-- An object has been replaced by others, and the graph has other wires. -/
structure Replaced (net : Net) (g o : Ref) (objects : List Ref) (ws : Multiset Wire)
    (last : Net) : Prop where
  site : last.Site g ws
  contents : last.contents g = (net.contents g).erase o ++ objects
  others : ∀ ref, ref ≠ g → ref ∉ objects → (last.node ref).bare = (net.node ref).bare
  own : ∀ ref ∈ objects, (last.node ref).bare = ((net.node ref).inGraph g).bare

theorem ends_applyReduction (red : Reduction) {new : Multiset Wire}
    (site : net.Site g ws) (mem : o ∈ net.contents g)
    (mute : isMailbox (net.node o).type = false) (nodup : red.objects.Nodup)
    (loose : ∀ no ∈ red.objects, net.Loose g no) (welcome : ∀ no ∈ red.objects, net.Welcome no)
    (moves : ∀ cur, Joined net g red.objects cur → cur.Site g ws →
      Ends (red.moves.forM fun move => rewire move.1 move.2) cur fun _ last =>
        Restrung cur g new last) : Ends (applyReduction g o red) net fun _ last =>
      Replaced net g o red.objects (new.filter (Wire.Avoids o)) last := by
  have no : (red.objects == [o]) = false := by
    rw [beq_eq_false_iff_ne]
    intro eq
    exact (loose o (by simp [eq])).outside mem
  rw [applyReduction, no]
  apply Ends.bind (ends_addAll site nodup loose welcome)
  rintro _ snd ⟨joined, siteSecond⟩
  apply Ends.bind (moves snd joined siteSecond)
  intro _ third restrung
  have siteThird := siteSecond.restrung restrung
  have notNew : o ∉ red.objects := fun inObjects => (loose o inObjects).outside mem
  have notG : o ≠ g := fun eq => site.outside (eq ▸ mem)
  have contentsThird : third.contents g = net.contents g ++ red.objects := by
    rw [restrung.alike.unwired_contents, joined.contents]
  have insideThird : o ∈ third.contents g := by
    rw [contentsThird]
    exact mem_append_left _ mem
  have silentThird : isMailbox (third.node o).type = false := by
    rw [restrung.alike.look Node.type rfl, joined.others o notG notNew]
    exact mute
  apply Ends.mono (ends_remove siteThird.toStrung insideThird siteThird.inside silentThird)
  intro _ last removed
  have looks : ∀ ref, (last.node ref).bare = (snd.node ref).bare := by
    intro ref
    rw [removed.alike.2 ref, restrung.alike.look Node.bare (funext Node.bare_unwired)]
  refine ⟨siteThird.removed removed, ?_, ?_, ?_⟩
  · rw [Net.contents, removed.body, Node.objects_dropEntry]
    change (third.contents g).erase o = _
    rw [contentsThird, erase_append_left _ mem]
  · intro ref ne out
    rw [looks, joined.others ref ne out]
  · intro ref inObjects
    rw [looks, joined.own ref inObjects]

/-- The wires of an object on one side, each with a wire that is put in its place and has the same
end at another object. -/
structure Diverts (ws : Multiset Wire) (o : Ref) (side : Side) (pairs : List (Wire × Wire)) :
    Prop where
  all : (↑(pairs.map Prod.fst) : Multiset Wire) = ws.filter fun wire => wire.object side = o
  shared : ∀ pair ∈ pairs, pair.2.object side.other = pair.1.object side.other ∧
    pair.2.index side.other = pair.1.index side.other

theorem Diverts.old {s : Side} {pairs : List (Wire × Wire)} (diverts : Diverts ws o s pairs) :
    ∀ pair ∈ pairs, pair.1 ∈ ws ∧ pair.1.object s = o := by
  intro pair mem
  have there : pair.1 ∈ ws.filter fun w => w.object s = o := by
    rw [← diverts.all]
    exact mem_map_of_mem mem
  exact mem_filter.mp there

theorem ends_moveWires (strung : net.Strung g ws) (into : Diverts ws o .inlet ins)
    (out : Diverts ws o .outlet outs)
    (fits : ∀ pair ∈ ins ++ outs, net.Admits g pair.2) (away : ∀ pair ∈ outs, pair.2.source ≠ o) :
    Ends ((ins.map moved ++ outs.map moved).forM fun move => rewire move.1 move.2) net
      fun _ last => Restrung net g
        (↑(outs.map Prod.snd) + (↑(ins.map Prod.snd) + ws.filter (Wire.Avoids o))) last := by
  have start := strung
  rw [strung.split o, ← into.all, ← out.all] at start
  apply Ends.forM_append (ends_moves .outlet start into.shared
    (fun pair mem => fits pair (List.mem_append_left _ mem)) nofun)
  intro mid first
  have next := first.strung
  rw [← Multiset.add_assoc, Multiset.add_comm (↑(ins.map Prod.snd) : Multiset Wire),
    Multiset.add_assoc] at next
  apply Ends.mono (ends_moves .inlet next out.shared
    (fun pair mem => (fits pair (mem_append_right _ mem)).alike first.alike) ?_)
  · intro _ last two
    exact ⟨first.alike.trans two.alike, two.strung⟩
  · exact fun _ pair mem eq => away pair mem (eq.trans (out.old pair mem).2)

def plugged (wire : Wire) : Move :=
  (none, [wire])

theorem ends_plug (site : net.Site g ws) (fits : ∀ w ∈ extra, net.Admits g w) :
    Ends ((extra.map plugged).forM fun move => rewire move.1 move.2) net fun _ last =>
      Restrung net g (extra + ws) last := by
  have go : ∀ rest : List Wire, (∀ w ∈ rest, w ∈ extra) → ∀ cur ws,
      Alike Node.unwired net cur → cur.Site g ws →
      Ends ((rest.map plugged).forM fun move => rewire move.1 move.2) cur fun _ last =>
        Restrung net g (rest + ws) last := by
    intro rest
    induction rest with
    | nil =>
      intro _ cur ws alike siteHere
      refine .pure ⟨alike, ?_⟩
      rw [Multiset.coe_nil, Multiset.zero_add]
      exact siteHere.toStrung
    | cons w rest ih =>
      intro subset cur ws alike siteHere
      have fitsHere := (fits w (subset w mem_cons_self)).alike alike
      have together : (cur.node w.source).parent = (cur.node w.target).parent :=
        (siteHere.parents _ (fitsHere.mem .outlet)).trans
          (siteHere.parents _ (fitsHere.mem .inlet)).symm
      apply Ends.bind (ends_rewire_none siteHere.toStrung fitsHere together)
      intro _ last done
      apply Ends.mono (ih (forall_mem_cons.mp subset).2 last _
        (alike.trans done.alike) (siteHere.restrung done))
      intro _ final plugs
      rw [← cons_coe, cons_add, ← add_cons]
      exact plugs
  exact go extra (fun _ hm => hm) net ws (.refl _ _) site

/-- Objects take the place of another: its wires are moved to them, and wires between them are
added. -/
theorem ends_replace (site : net.Site g ws) (mem : o ∈ net.contents g)
    (mute : isMailbox (net.node o).type = false) (nodup : objects.Nodup)
    (loose : ∀ y ∈ objects, net.Loose g y) (welcome : ∀ y ∈ objects, net.Welcome y)
    (into : Diverts ws o .inlet ins) (out : Diverts ws o .outlet outs)
    (suits : ∀ wire ∈ extra ++ (outs.map Prod.snd ++ ins.map Prod.snd),
      net.Suits (net.contents g ++ objects) wire ∧ wire.Avoids o) : Ends (applyReduction g o
      ⟨objects, ins.map moved ++ outs.map moved ++ extra.map plugged⟩) net fun _ last =>
        Replaced net g o objects (extra + (↑(outs.map Prod.snd) + (↑(ins.map Prod.snd) +
            ws.filter (Wire.Avoids o)))) last := by
  have outside : g ∉ net.contents g ++ objects := by
    rw [mem_append, not_or]
    exact ⟨site.outside, fun new => (loose g new).different rfl⟩
  have avoids : ∀ wire ∈ (extra : Multiset Wire) + (↑(outs.map Prod.snd) + (↑(ins.map Prod.snd) +
      ws.filter (Wire.Avoids o))), wire.Avoids o := by
    intro wire inN
    simp only [Multiset.mem_add, Multiset.mem_coe, Multiset.mem_filter] at inN
    rcases inN with plug | out | into | ⟨-, old⟩
    · exact (suits wire (List.mem_append_left _ plug)).2
    · exact (suits wire (List.mem_append_right _ (List.mem_append_left _ out))).2
    · exact (suits wire (mem_append_right _ (mem_append_right _ into))).2
    · exact old
  rw [← filter_eq_self.mpr avoids]
  apply ends_applyReduction _ site mem mute nodup loose welcome
  intro cur joined siteHere
  have fits : ∀ wire ∈ extra ++ (outs.map Prod.snd ++ ins.map Prod.snd),
      cur.Admits g wire := fun wire inN => joined.fits outside (suits wire inN).1
  apply Ends.forM_append (ends_moveWires siteHere.toStrung into out ?_ ?_)
  · intro mid first
    apply Ends.mono (ends_plug (siteHere.restrung first) fun wire inExtra =>
      (fits wire (mem_append_left _ inExtra)).alike first.alike)
    intro _ last two
    exact ⟨first.alike.trans two.alike, two.strung⟩
  · intro pair inPairs
    apply fits
    rw [mem_append] at inPairs
    rcases inPairs with into | out
    · exact mem_append_right _ (mem_append_right _ (mem_map_of_mem into))
    · exact mem_append_right _ (mem_append_left _ (mem_map_of_mem out))
  · intro pair out
    exact (suits pair.2 (mem_append_right _ (mem_append_left _ (mem_map_of_mem out)))).2.1

/-- An object has given way to others. `outs` tells how the wires that left it go on, and `inner`
are the wires that enter the new objects. -/
structure Swapped (net : Net) (g o : Ref) (ws : Multiset Wire) (objects : List Ref)
    (inner : Multiset Wire) (outs : List (Wire × Wire)) (last : Net) : Prop where
  site : last.Site g (inner + (↑(outs.map Prod.snd) + ws.filter (Wire.Avoids o)))
  contents : last.contents g = (net.contents g).erase o ++ objects
  distinct : objects.Nodup
  fresh : ∀ ref ∈ objects, net.size ≤ ref
  looks : ∀ ref < net.size, ref ≠ g → (last.node ref).bare = (net.node ref).bare
  enters : ∀ wire ∈ inner, wire.target ∈ objects
  targets : ∀ pair ∈ outs, pair.2.target = pair.1.target ∧ pair.2.inlet = pair.1.inlet

/-- A wire that has its end at a new object. -/
structure Docks (net : Net) (objects : List Ref) (side : Side) (wire : Wire) : Prop where
  mem : wire.object side ∈ objects
  bound : ∃ place < ((net.node (wire.object side)).lets side).length, wire.index side = place

theorem Docks.suits {s : Side} {wire old : Wire}
    (docks : Docks net os s wire) (fits : net.Admits g old)
    (eq : wire.object s.other = old.object s.other ∧ wire.index s.other = old.index s.other)
    (nu : ∀ ref ∈ net.contents g, ref ∉ os) : net.Suits (net.contents g ++ os) wire := by
  have stays : wire.object s.other ∈ net.contents g := by
    rw [eq.1]
    exact fits.mem s.other
  have sep : wire.object s ≠ wire.object s.other := fun eq' => nu _ stays (eq' ▸ docks.mem)
  refine ⟨?_, ?_, ?_⟩
  · cases s with
    | inlet => exact sep.symm
    | outlet => exact sep
  · intro third
    rcases s.eq_or_eq_other third with rfl | rfl
    · exact mem_append_right _ docks.mem
    · exact mem_append_left _ stays
  · intro third
    rcases s.eq_or_eq_other third with rfl | rfl
    · exact docks.bound
    · rw [eq.1, eq.2]
      exact fits.bound s.other

theorem Diverts.suits {s : Side} {pairs : List (Wire × Wire)} (diverts : Diverts ws o s pairs)
    (docks : ∀ pair ∈ pairs, Docks net os s pair.2) (site : net.Site g ws) (mem : o ∈ net.contents g)
    (nu : ∀ ref ∈ net.contents g, ref ∉ os) :
    ∀ pair ∈ pairs, net.Suits (net.contents g ++ os) pair.2 ∧ pair.2.Avoids o := by
  intro pair inPairs
  obtain ⟨inWs, here⟩ := diverts.old pair inPairs
  have fits := site.fits pair.1 inWs
  have docked := docks pair inPairs
  have moved : pair.2.object s ≠ o := fun eq => nu o mem (eq ▸ docked.mem)
  have kept : pair.2.object s.other ≠ o := by
    rw [(diverts.shared pair inPairs).1, ← here]
    cases s with
    | inlet => exact fits.apart
    | outlet => exact fits.apart.symm
  refine ⟨docked.suits fits (diverts.shared pair inPairs) nu, ?_⟩
  cases s with
  | inlet => exact ⟨kept, moved⟩
  | outlet => exact ⟨moved, kept⟩

theorem ends_swap {made : Net} (full : Stocked net g ws objects made)
    (site : net.Site g ws) (hin : o ∈ net.contents g) (mute : isMailbox (net.node o).type = false)
    (welcome : ∀ y ∈ objects, made.Welcome y) (into : Diverts ws o .inlet ins)
    (out : Diverts ws o .outlet outs)
    (docksIn : ∀ pair ∈ ins, Docks made objects .inlet pair.2)
    (docksOut : ∀ pair ∈ outs, Docks made objects .outlet pair.2)
    (docks : ∀ w ∈ extra, w.source ≠ w.target ∧ ∀ s, Docks made objects s w) :
    Ends (applyReduction g o
      ⟨objects, ins.map moved ++ outs.map moved ++ extra.map plugged⟩) made fun _ last =>
        Swapped net g o ws objects (extra + ↑(ins.map Prod.snd)) outs last ∧
          ∀ ref ∈ objects, (last.node ref).bare = ((made.node ref).inGraph g).bare := by
  have loose := full.loose site
  have graphOld := full.old g site.inside
  have cs : made.contents g = net.contents g := by
    rw [Net.contents, graphOld, Net.contents]
  have insideMade : o ∈ made.contents g := by
    rw [cs]
    exact hin
  have nu : ∀ ref ∈ made.contents g, ref ∉ objects := fun ref old new => (loose ref new).outside old
  have silentMade : isMailbox (made.node o).type = false := by
    rw [full.old o (site.within o hin)]
    exact mute
  have suits : ∀ w ∈ extra ++ (outs.map Prod.snd ++ ins.map Prod.snd),
      made.Suits (made.contents g ++ objects) w ∧ w.Avoids o := by
    intro w inN
    rw [mem_append, mem_append] at inN
    rcases inN with plug | leaving | entering
    · obtain ⟨sep, docked⟩ := docks w plug
      refine ⟨⟨sep, fun s => mem_append_right _ (docked s).mem,
        fun s => (docked s).bound⟩, ?_, ?_⟩
      · exact fun eq => nu o insideMade (eq ▸ (docked .outlet).mem)
      · exact fun eq => nu o insideMade (eq ▸ (docked .inlet).mem)
    · obtain ⟨pair, inOuts, rfl⟩ := mem_map.mp leaving
      exact out.suits docksOut full.site insideMade nu pair inOuts
    · obtain ⟨pair, inIns, rfl⟩ := mem_map.mp entering
      exact into.suits docksIn full.site insideMade nu pair inIns
  apply Ends.mono (ends_replace full.site insideMade silentMade full.distinct loose welcome
    into out suits)
  intro _ last replaced
  refine ⟨⟨?_, ?_, full.distinct, ?_, ?_, ?_, out.shared⟩, replaced.own⟩
  · have siteLast := replaced.site
    rw [← Multiset.add_assoc (↑(outs.map Prod.snd) : Multiset Wire),
      Multiset.add_comm (↑(outs.map Prod.snd) : Multiset Wire), Multiset.add_assoc,
      ← Multiset.add_assoc] at siteLast
    exact siteLast
  · rw [replaced.contents, cs]
  · exact fun ref new => (full.fresh ref new).1
  · intro ref hm ne
    have notNew : ref ∉ objects := fun new => Nat.not_lt_of_le (full.fresh ref new).1 hm
    rw [replaced.others ref ne notNew, full.old ref hm]
  · intro w inI
    rw [mem_add, mem_coe, mem_coe] at inI
    rcases inI with plug | into
    · exact ((docks w plug).2 .inlet).mem
    · obtain ⟨pair, inIns, rfl⟩ := mem_map.mp into
      exact (docksIn pair inIns).mem

theorem Swapped.of_replaced {next : Multiset Wire} {last : Net}
    (replaced : Replaced net g o [] next last)
    (wiresEq : next = ↑(outs.map Prod.snd) + ws.filter (Wire.Avoids o))
    (targets : ∀ pair ∈ outs, pair.2.target = pair.1.target ∧ pair.2.inlet = pair.1.inlet) :
    Swapped net g o ws [] 0 outs last where
  site := by
    rw [Multiset.zero_add, ← wiresEq]
    exact replaced.site
  contents := replaced.contents
  distinct := .nil
  fresh := nofun
  looks := fun ref _ ne => replaced.others ref ne (List.not_mem_nil)
  enters := fun _ mem => absurd mem (notMem_zero _)
  targets := targets

theorem ends_gone (site : net.Site g ws) (mem : o ∈ net.contents g)
    (mute : isMailbox (net.node o).type = false) : Ends (applyReduction g o .gone) net fun _ last =>
      Swapped net g o ws [] 0 [] last := by
  have applied : Ends (applyReduction g o .gone) net fun _ last =>
      Replaced net g o [] (ws.filter (Wire.Avoids o)) last := by
    apply ends_applyReduction .gone site mem mute .nil nofun nofun
    intro cur _ siteHere
    exact .pure ⟨.refl _ _, siteHere.toStrung⟩
  apply Ends.mono applied
  intro _ last replaced
  refine .of_replaced replaced ?_ nofun
  rw [List.map_nil, Multiset.coe_nil, Multiset.zero_add]

def onward (wire other : Wire) : Wire :=
  { wire with target := other.target, inlet := other.inlet }

/-- The only wire that enters an object goes on to where those went that left it. -/
theorem ends_pass {w : Wire} {exit : List Wire} (site : net.Site g ws)
    (hm : o ∈ net.contents g) (mute : isMailbox (net.node o).type = false)
    (inWs : w ∈ ws) (tgt : w.target = o)
    (leavingEq : (exit : Multiset Wire) = ws.filter fun y => y.source = o)
    (some : exit ≠ []) (sep : ∀ y ∈ exit, w.source ≠ y.target) :
    Ends (applyReduction g o ⟨[], [(.some w, exit.map (onward w))]⟩) net
      fun _ last => Swapped net g o ws [] 0 (exit.map fun y => (y, onward w y)) last := by
  obtain ⟨ys, rfl⟩ := exists_cons_of_mem inWs
  have old : ∀ y ∈ exit, y ∈ w ::ₘ ys ∧ y.source = o := by
    intro y inE
    rw [← mem_coe, leavingEq] at inE
    exact mem_filter.mp inE
  have applied : Ends (applyReduction g o ⟨[], [(.some w, exit.map (onward w))]⟩)
      net fun _ last => Replaced net g o []
        ((↑(exit.map (onward w)) + ys).filter (Wire.Avoids o)) last := by
    apply ends_applyReduction ⟨[], [(.some w, exit.map (onward w))]⟩ site hm mute .nil nofun nofun
    intro cur _ siteHere
    have fitsWire := siteHere.fits w inWs
    have shared : ∀ next ∈ exit.map (onward w), next.object .outlet = w.object .outlet ∧
        next.index .outlet = w.index .outlet := by
      intro next inNext
      obtain ⟨y, -, rfl⟩ := mem_map.mp inNext
      exact ⟨rfl, rfl⟩
    have fits : ∀ next ∈ exit.map (onward w), cur.Admits g next := by
      intro next inNext
      obtain ⟨y, inE, rfl⟩ := mem_map.mp inNext
      have fitsOther := siteHere.fits y (old y inE).1
      refine ⟨sep y inE, ?_, ?_⟩
      · intro s
        cases s with
        | inlet => exact fitsOther.mem .inlet
        | outlet => exact fitsWire.mem .outlet
      · intro s
        cases s with
        | inlet => exact fitsOther.bound .inlet
        | outlet => exact fitsWire.bound .outlet
    have rewired := ends_rewire siteHere.toStrung (by simpa using some) shared fits nofun
    exact rewired.bind fun _ _ done => .pure done
  apply Ends.mono applied
  intro _ last replaced
  refine .of_replaced replaced ?_ ?_
  · have avoiding : (↑(exit.map (onward w)) : Multiset Wire).filter (Wire.Avoids o) =
        ↑(exit.map (onward w)) := by
      rw [Multiset.filter_eq_self]
      intro next inNext
      obtain ⟨y, inE, rfl⟩ := mem_map.mp inNext
      obtain ⟨inOthers, src⟩ := old y inE
      refine ⟨?_, ?_⟩
      · exact fun eq => (site.fits w inWs).apart (eq.trans tgt.symm)
      · exact fun eq => (site.fits y inOthers).apart (src.trans eq.symm)
    have touches : ¬ w.Avoids o := fun avoids => avoids.2 tgt
    rw [filter_add, avoiding, filter_cons_of_neg _ touches, List.map_map]
    rfl
  · intro pair inO
    obtain ⟨y, -, rfl⟩ := mem_map.mp inO
    exact ⟨rfl, rfl⟩

end Build

end PatchCompiler
