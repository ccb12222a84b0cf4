import PatchCompiler.Proofs.Buffering
import PatchCompiler.Proofs.OperatorTurns

/-!
# The turns of audio inputs and outputs

An audio input gives way to one inlet for each connected channel, and an audio output to one adder
for each. The channels are gone through one after the other, and those without wires are passed over.
-/

namespace PatchCompiler

open List Multiset

variable {node : Int → Nat → Node} {s : Side} {net made : Net} {o : Ref} {es : List (Ref × Nat)}
  {c : Int} {n : Nat} {e : Ref × Nat} {w : Wire}

/-- An audio input or output: the lets of one side are its channels, and there are no others. -/
structure Node.IsAudio (node : Node) (s : Side) : Prop where
  kind : node.kind = match s with
    | .outlet => .adc
    | .inlet => .dac
  type : Build.isMailbox node.type = false
  channels : (node.lets s).length = node.channels.length
  others : (node.lets s.other).length = 0

theorem Node.IsAudio.of_bare {node y : Node} (isA : y.IsAudio s)
    (eq : node.bare = y.bare) : node.IsAudio s where
  kind := (look_of_bare eq Node.kind rfl).trans isA.kind
  type := (look_of_bare eq (fun node => Build.isMailbox node.type) rfl).trans isA.type
  channels := by
    rw [look_of_bare eq (fun node => (node.lets s).length) (funext (length_lets_unwired s)),
      look_of_bare eq Node.channels rfl]
    exact isA.channels
  others := (look_of_bare eq (fun node => (node.lets s.other).length)
    (funext (length_lets_unwired s.other))).trans isA.others

namespace Net

theorem change_push_self {node : Node} {f : Node → Node} :
    (net.push node).change net.size f = net.push (f node) := by
  have table : (net.nodes.push node).modify net.nodes.size f = net.nodes.push (f node) := by
    apply Array.ext
    · simp
    · intro i lt y
      have last : i < net.nodes.size + 1 := by simpa using y
      rw [Array.getElem_modify, Array.getElem_push, Array.getElem_push]
      by_cases eq : net.nodes.size = i
      · simp [eq]
      · have early : i < net.nodes.size := by omega
        simp [eq, early]
  simp [push, change, size, table]

theorem run_fetch_made {i : Nat}
    (old : made.node o = net.node o) (lt : i < ((net.node o).lets s).length) (cur : Net) :
    (Build.fetch ((made.node o).lets s) i).run cur = .ok (net.held s o i) cur := by
  rw [old]
  exact Build.run_fetch (Build.at?_eq_getD (place?_ofNat lt) []) cur

end Net

namespace Build

open Net

/-- A wire with one end moved to the first let of another object. -/
def shifted : Side → Ref → Wire → Wire × Wire
  | .inlet, main, wire => movedTo main (wire, 0)
  | .outlet, main, wire => movedFrom main wire

/-- The wires at some lets of an object, each moved to the object that stands for its let. -/
def shifts (net : Net) (s : Side) (o : Ref) (es : List (Ref × Nat)) : List (Wire × Wire) :=
  es.flatMap fun entry => (net.held s o entry.2).map (shifted s entry.1)

theorem shifts_append {first second : List (Ref × Nat)} :
    shifts net s o (first ++ second) = shifts net s o first ++ shifts net s o second :=
  flatMap_append

theorem map_fst_shifts :
    (shifts net s o es).map Prod.fst = (es.map Prod.snd).flatMap (net.held s o) := by
  have eq : ∀ main, Prod.fst ∘ shifted s main = id := by
    intro main
    cases s <;> rfl
  simp [shifts, map_flatMap, flatMap_map, eq]

structure Stands (node : Int → Nat → Node) (s : Side) : Prop where
  identity : ∀ channel identity, (node channel identity).identity = identity
  silent : ∀ channel identity third place, ((node channel identity).lets third).getD place [] = []
  kind : ∀ channel identity, (node channel identity).kind = .plain
  lets : ∀ channel identity, 0 < ((node channel identity).lets s).length
  welcome : ∀ {net : Net} {ref channel}, net.node ref = node channel ref → net.Welcome ref

/-- Objects have been made for the connected channels among the first. -/
structure Channelled (net : Net) (g o : Ref) (ws : Multiset Wire) (s : Side)
    (node : Int → Nat → Node) (count : Nat) (es : List (Ref × Nat)) (made : Net) : Prop where
  stocked : Stocked net g ws (es.map Prod.fst) made
  places : es.map Prod.snd = (List.range count).filter fun place => !(net.held s o place).isEmpty
  nodes : ∀ entry ∈ es, made.node entry.1 = node ((net.node o).channels.getD entry.2 0) entry.1

section Channels

variable {net made : Net} {g o : Ref} {ws : Multiset Wire} {s : Side}
  {node : Int → Nat → Node} {n : Nat} {es : List (Ref × Nat)}

theorem Channelled.start (site : net.Site g ws) : Channelled net g o ws s node 0 [] net :=
  ⟨.none site, rfl, nofun⟩

theorem Channelled.skip (channelled : Channelled net g o ws s node n es made)
    (empty : net.held s o n = []) : Channelled net g o ws s node (n + 1) es made where
  stocked := channelled.stocked
  places := by
    rw [channelled.places, List.range_succ, filter_append, List.filter_singleton, empty]
    exact (append_nil _).symm
  nodes := channelled.nodes

theorem Channelled.push (stands : Stands node s)
    (channelled : Channelled net g o ws s node n es made)
    (wired : net.held s o n ≠ []) (eq : (net.node o).channels.getD n 0 = c) :
    Channelled net g o ws s node (n + 1) (es ++ [(made.size, n)])
      (made.push (node c made.size)) where
  stocked := by
    rw [map_append]
    exact channelled.stocked.push (stands.identity _ _) (stands.silent _ _)
  places := by
    have some : (!(net.held s o n).isEmpty) = true := by simpa using wired
    rw [map_append, channelled.places, List.range_succ, filter_append, List.filter_singleton, some]
    rfl
  nodes := by
    intro e mem
    rcases mem_append.mp mem with old | isNew
    · have lt := (channelled.stocked.fresh _ (mem_map_of_mem old)).2
      rw [node_push_of_lt lt, channelled.nodes e old]
    · rw [List.mem_singleton] at isNew
      rw [isNew, node_push_self, eq]

theorem Channelled.coe_map_fst (channelled : Channelled net g o ws s node n es made)
    (strung : net.Strung g ws) (inside : o ∈ net.contents g)
    (all : n = ((net.node o).lets s).length) :
    (↑((shifts net s o es).map Prod.fst) : Multiset Wire) = ws.filter fun w => w.object s = o := by
  have filtered : ∀ places : List Nat, (places.filter fun i => !(net.held s o i).isEmpty).flatMap
        (net.held s o) = places.flatMap (net.held s o) := by
    intro places
    induction places with
    | nil => rfl
    | cons i rest ih =>
      rw [filter_cons]
      split
      · rw [flatMap_cons, flatMap_cons, ih]
      next empty =>
        have none : net.held s o i = [] := by simpa using empty
        rw [flatMap_cons, none, nil_append, ih]
  have whole : (List.range n).map (net.held s o) = (net.node o).lets s := by
    rw [all]
    apply ext_getElem
    · simp
    · intro i lt y
      simp [held, y]
  rw [map_fst_shifts, channelled.places, filtered, flatMap_def, whole]
  exact strung.coe_flatten inside s

end Channels

def inletNode (channel : Int) (identity : Nat) : Node :=
  { Node.plain "__inlet" [("index", .int (127 + channel))] 0 1 identity with
    outletBuffers := [⟨.input, channel - 1⟩] }

def outputNode (channel : Int) (identity : Nat) : Node :=
  { Node.plain "__add~f" [] 2 1 identity with
    inletBuffers := [.zero, ⟨.output, channel - 1⟩]
    outletBuffers := [⟨.output, channel - 1⟩] }

theorem stands_inletNode : Stands inletNode .outlet where
  identity := fun _ _ => rfl
  silent := by
    intro c identity third i
    have eq : (inletNode c identity).lets third =
        (Node.plain "__inlet" [("index", .int (127 + c))] 0 1 identity).lets third := by
      cases third <;> rfl
    rw [eq, Node.plain_silent]
  kind := fun _ _ => rfl
  lets := fun _ _ => Nat.zero_lt_one
  welcome := fun eq => .inr (by rw [eq]; exact ⟨rfl, _, rfl, rfl⟩)

theorem stands_outputNode : Stands outputNode .inlet where
  identity := fun _ _ => rfl
  silent := by
    intro c identity third i
    have eq : (outputNode c identity).lets third =
        (Node.plain "__add~f" [] 2 1 identity).lets third := by
      cases third <;> rfl
    rw [eq, Node.plain_silent]
  kind := fun _ _ => rfl
  lets := fun _ _ => Nat.zero_lt_two
  welcome := fun eq => .inl (by rw [eq]; exact form_mem_quietTypes .add)

section Loops

variable {net : Net} {g o : Ref} {ws : Multiset Wire}

theorem done_of_split {channels : List Int} {done rest : List (Int × Nat)} {entry : Int × Nat}
    (split : channels.zipIdx = done ++ entry :: rest) :
    entry.2 = done.length ∧ channels[done.length]? = some entry.1 := by
  have got : channels.zipIdx[done.length]? = some entry := by
    rw [split]
    simp
  rw [List.getElem?_zipIdx, Option.map_eq_some_iff] at got
  obtain ⟨c, mem, rfl⟩ := got
  exact ⟨Nat.zero_add _, mem⟩

/-- The objects and moves for the channels that have been gone through. -/
def Gathered (net : Net) (g o : Ref) (ws : Multiset Wire) (s : Side)
    (node : Int → Nat → Node) (count : Nat) (state : List Ref × List Move) (made : Net) : Prop :=
  ∃ es, Channelled net g o ws s node count es made ∧
    state = (es.map Prod.fst, (shifts net s o es).map moved)

theorem Channelled.gathered (stands : Stands node s)
    (channelled : Channelled net g o ws s node n es made) (wired : net.held s o n ≠ [])
    (eq : (net.node o).channels[n]? = some c) : Gathered net g o ws s node (n + 1)
      (es.map Prod.fst ++ [made.size], (shifts net s o es).map moved ++
        (net.held s o n).map (moved ∘ shifted s made.size)) (made.push (node c made.size)) := by
  refine ⟨es ++ [(made.size, n)], channelled.push stands wired ?_, ?_⟩
  · rw [getD_eq_getElem?_getD, eq]
    rfl
  · rw [shifts_append, map_append, map_append]
    simp [shifts]

theorem run_fetch_channel (channelled : Channelled net g o ws s node n es made)
    (below : o < net.size) (isA : (net.node o).IsAudio s)
    (eq : (net.node o).channels[n]? = some c) : (fetch ((made.node o).lets s) n).run made =
      .ok (net.held s o n) made := by
  obtain ⟨lt, -⟩ := List.getElem?_eq_some_iff.mp eq
  rw [← isA.channels] at lt
  exact run_fetch_made (channelled.stocked.old o below) lt made

theorem ends_reduceAdc (site : net.Site g ws) (inside : o ∈ net.contents g)
    (isA : (net.node o).IsAudio .outlet) :
    Ends (reduceAdc o) net fun red made => Gathered net g o ws .outlet
      inletNode (net.node o).channels.length (red.objects, red.moves) made := by
  have channels : (channelsOf o).run net = .ok (net.node o).channels net := rfl
  have lt := site.within o inside
  unfold reduceAdc
  apply Ends.bind_run channels
  apply Ends.bind (Ends.forIn (fun done state made =>
    Gathered net g o ws .outlet inletNode done.length state made) ?_ ?_)
  · intro state made gathered
    rw [length_zipIdx] at gathered
    exact .pure gathered
  · exact ⟨[], .start site, rfl⟩
  · rintro done ⟨c, i⟩ rest _ made split ⟨es, channelled, rfl⟩
    obtain ⟨rfl, eq⟩ := done_of_split split
    rw [length_append]
    apply Ends.at_node
    apply Ends.bind_run (run_fetch_channel channelled lt isA eq)
    by_cases wired : net.held .outlet o done.length = []
    · rw [wired]
      exact .pure ⟨_, rfl, es, channelled.skip wired, rfl⟩
    · rw [if_pos (by simpa using wired)]
      apply Ends.bind_run (run_makePlain rfl rfl rfl rfl made)
      apply Ends.bind_run (run_change _ _ _)
      rw [change_push_self]
      exact .pure ⟨_, rfl, channelled.gathered stands_inletNode wired eq⟩

theorem ends_reduceDac (site : net.Site g ws) (inside : o ∈ net.contents g)
    (isA : (net.node o).IsAudio .inlet) :
    Ends (reduceDac o) net fun red made => Gathered net g o ws .inlet
      outputNode (net.node o).channels.length (red.objects, red.moves) made := by
  have channels : (channelsOf o).run net = .ok (net.node o).channels net := rfl
  have lt := site.within o inside
  unfold reduceDac
  apply Ends.bind_run channels
  apply Ends.bind (Ends.forIn (fun done state made =>
    Gathered net g o ws .inlet outputNode done.length state made) ?_ ?_)
  · intro state made gathered
    rw [length_zipIdx] at gathered
    exact .pure gathered
  · exact ⟨[], .start site, rfl⟩
  · rintro done ⟨c, i⟩ rest _ made split ⟨es, channelled, rfl⟩
    obtain ⟨rfl, eq⟩ := done_of_split split
    rw [length_append]
    apply Ends.at_node
    apply Ends.bind_run (run_fetch_channel channelled lt isA eq)
    by_cases wired : net.held .inlet o done.length = []
    · rw [wired]
      exact .pure ⟨_, rfl, es, channelled.skip wired, rfl⟩
    · rw [if_pos (by simpa using wired)]
      apply Ends.bind_run (run_makePlain_form .add made)
      apply Ends.bind_run (run_change _ _ _)
      rw [change_push_self]
      exact .pure ⟨_, rfl, channelled.gathered stands_outputNode wired eq⟩

end Loops

theorem mem_shifts {pair : Wire × Wire} (inside : pair ∈ shifts net s o es) :
    ∃ e ∈ es, ∃ w ∈ net.held s o e.2, shifted s e.1 w = pair := by
  obtain ⟨e, mem, mapped⟩ := mem_flatMap.mp inside
  obtain ⟨w, isHeld, eq⟩ := mem_map.mp mapped
  exact ⟨e, mem, w, isHeld, eq⟩

section Audio

variable {net cur : Net} {g o : Ref} {ws now : Multiset Wire} {turn : Nat}
  {new : List Ref} {fate : Ref → Option Nat} {rank : Ref → Nat}

theorem fate_of_isAudio {node : Node} (isA : node.IsAudio s) (turn : Nat)
    (left right : List (Option Nat)) : node.fate turn left right = none := by
  rw [Node.fate, isA.kind]
  cases s <;> rfl

theorem current_isAudio (due : net.Due g ws rank turn cur now new fate o)
    (isA : (net.node o).IsAudio s) : (cur.node o).IsAudio s :=
  isA.of_bare (due.looks o due.mem_drop)

theorem not_wired_of_isAudio {g : Ref} {ws : Multiset Wire}
    (isA : (net.node o).IsAudio s) (strung : net.Strung g ws)
    (inside : o ∈ net.contents g) : ws.filter (fun w => w.object s.other = o) = 0 := by
  rw [← strung.coe_flatten inside s.other, length_eq_zero_iff.mp isA.others]
  rfl

theorem Channelled.at?_channels (channelled : Channelled cur g o now s node
      (cur.node o).channels.length es made) (mem : e ∈ es) : at? (cur.node o).channels e.2 =
      some ((cur.node o).channels.getD e.2 0) := by
  have i : e.2 ∈ es.map Prod.snd := mem_map_of_mem mem
  rw [channelled.places, List.mem_filter, List.mem_range] at i
  exact at?_eq_getD (place?_ofNat i.1) 0

theorem of_mem_shifts {pair : Wire × Wire}
    (strung : cur.Strung g now) (inside : o ∈ cur.contents g) (mem : pair ∈ shifts cur s o es) :
    ∃ e ∈ es, pair.1 ∈ now ∧ pair.1.At s o e.2 ∧ pair.2 = (shifted s e.1 pair.1).2 := by
  obtain ⟨e, inEntries, w, isHeld, rfl⟩ := mem_shifts mem
  rw [← mem_coe, strung.holds s o inside] at isHeld
  obtain ⟨inNow, isAt⟩ := Multiset.mem_filter.mp isHeld
  cases s <;> exact ⟨e, inEntries, inNow, isAt, rfl⟩

theorem Channelled.docks (stands : Stands node s)
    (channelled : Channelled cur g o now s node n es made) (mem : e ∈ es) :
    Docks made (es.map Prod.fst) s (shifted s e.1 w).2 := by
  have lets := stands.lets ((cur.node o).channels.getD e.2 0) e.1
  rw [← channelled.nodes e mem] at lets
  cases s with
  | inlet => exact ⟨mem_map_of_mem mem, 0, lets, rfl⟩
  | outlet => exact ⟨mem_map_of_mem mem, 0, lets, rfl⟩

theorem Channelled.bare_entered {last : Net} (channelled : Channelled cur g o now s node n es made)
    (bare : ∀ ref ∈ es.map Prod.fst, (last.node ref).bare = ((made.node ref).inGraph g).bare)
    (mem : e ∈ es) : (last.node e.1).bare =
      ((node ((cur.node o).channels.getD e.2 0) e.1).inGraph g).bare := by
  rw [bare _ (mem_map_of_mem mem), channelled.nodes e mem]

theorem Stands.plain {last : Net} {channel : Ref × Nat → Int} (stands : Stands node s)
    (bare : ∀ e ∈ es, (last.node e.1).bare = ((node (channel e) e.1).inGraph g).bare) :
    ∀ ref ∈ es.map Prod.fst, (last.node ref).kind = .plain := by
  intro ref nw
  obtain ⟨e, mem, rfl⟩ := mem_map.mp nw
  rw [Node.look_of_bare (bare e mem) Node.kind rfl]
  exact stands.kind _ _

theorem of_mem_snd_shifts (strung : cur.Strung g now) (inside : o ∈ cur.contents g)
    (mem : w ∈ (shifts cur .inlet o es).map Prod.snd) :
    ∃ old ∈ now, old.target = o ∧ old.source = w.source ∧ old.type = w.type := by
  obtain ⟨pair, inIns, rfl⟩ := mem_map.mp mem
  obtain ⟨e, -, inNow, isAt, eq⟩ := of_mem_shifts strung inside inIns
  rw [eq]
  exact ⟨pair.1, inNow, isAt.1, rfl, rfl⟩

theorem Channelled.source_old (channelled : Channelled cur g o now .inlet node n es made)
    (strung : cur.Strung g now) (inside : o ∈ cur.contents g)
    (there : w ∈ (shifts cur .inlet o es).map Prod.snd) : w.source ∉ es.map Prod.fst := by
  obtain ⟨old, inNow, -, src, -⟩ := of_mem_snd_shifts strung inside there
  rw [← src]
  exact fun nw => Nat.not_lt_of_le (channelled.stocked.fresh _ nw).1
    (strung.within _ ((strung.fits old inNow).mem .outlet))

def picked : Side → Side → List (Wire × Wire) → List (Wire × Wire)
  | .inlet, .inlet, pairs | .outlet, .outlet, pairs => pairs
  | _, _, _ => []

theorem mem_picked {t : Side} {pairs : List (Wire × Wire)} {pair : Wire × Wire}
    (mem : pair ∈ picked s t pairs) : t = s ∧ pair ∈ pairs := by
  cases s <;> cases t <;> first | exact ⟨rfl, mem⟩ | cases mem

theorem ends_swap_channels (stands : Stands node s)
    (channelled : Channelled cur g o now s node (cur.node o).channels.length es made)
    (site : cur.Site g now) (inside : o ∈ cur.contents g) (isA : (cur.node o).IsAudio s)
    (floats : ∀ w ∈ now, w.type = .float) :
    Ends (applyReduction g o ⟨es.map Prod.fst, (shifts cur s o es).map moved⟩) made fun _ last =>
      Turn cur g o now (es.map Prod.fst) ↑((picked s .inlet (shifts cur s o es)).map Prod.snd)
        (picked s .outlet (shifts cur s o es)) last ∧ ∀ e ∈ es, (last.node e.1).bare =
        ((node ((cur.node o).channels.getD e.2 0) e.1).inGraph g).bare := by
  have strung := site.toStrung
  have whole : ∀ t, (↑((picked s t (shifts cur s o es)).map Prod.fst) : Multiset Wire) =
      now.filter fun w => w.object t = o := by
    intro t
    cases s <;> cases t <;> first
      | exact channelled.coe_map_fst strung inside isA.channels.symm
      | exact (not_wired_of_isAudio isA strung inside).symm
  have moves : (shifts cur s o es).map moved = (picked s .inlet (shifts cur s o es)).map moved ++
      (picked s .outlet (shifts cur s o es)).map moved ++ [].map plugged := by
    cases s <;> simp [picked]
  have facts : ∀ {t pair}, pair ∈ picked s t (shifts cur s o es) → t = s ∧ ∃ e ∈ es,
      pair.1 ∈ now ∧ pair.1.At s o e.2 ∧ pair.2 = (shifted s e.1 pair.1).2 :=
    fun mem => (mem_picked mem).imp_right (of_mem_shifts strung inside)
  rw [moves]
  apply Ends.mono (ends_swap channelled.stocked site inside isA.type ?_
    ⟨whole .inlet, ?_⟩ ⟨whole .outlet, ?_⟩ ?_ ?_ (by simp))
  · rintro _ last ⟨swapped, bare⟩
    have bareEntry := fun e => channelled.bare_entered (e := e) bare
    rw [coe_nil, zero_add] at swapped
    have fresh : ∀ w ∈ (↑((picked s .inlet (shifts cur s o es)).map Prod.snd) : Multiset Wire) +
        ↑((picked s .outlet (shifts cur s o es)).map Prod.snd), ∃ e ∈ es, ∃ old ∈ now,
          old.At s o e.2 ∧ w = (shifted s e.1 old).2 := by
      intro w nw
      obtain ⟨t, pair, mem, rfl⟩ : ∃ t, ∃ pair ∈ picked s t (shifts cur s o es), pair.2 = w := by
        rcases mem_add.mp nw with nw | nw <;> exact ⟨_, mem_map.mp (mem_coe.mp nw)⟩
      obtain ⟨-, e, inEs, inNow, isAt, eq⟩ := facts mem
      exact ⟨e, inEs, pair.1, inNow, isAt, eq⟩
    refine ⟨⟨swapped, ?_, ?_, ?_, ?_, stands.plain bareEntry⟩, bareEntry⟩
    · intro pair inO
      obtain ⟨rfl, e, -, inNow, isAt, -⟩ := facts inO
      exact ⟨inNow, isAt.1⟩
    · intro w nw
      obtain ⟨e, -, old, inNow, -, rfl⟩ := fresh w nw
      cases s <;> exact floats old inNow
    · intro w nw
      obtain ⟨e, mem, old, inNow, isAt, rfl⟩ := fresh w nw
      cases s with
      | inlet => exact .inr ⟨old, inNow, isAt.1, rfl⟩
      | outlet => exact .inl (mem_map_of_mem mem)
    · intro w nw src
      obtain ⟨pair, mem, -⟩ := mem_map.mp (mem_coe.mp nw)
      obtain ⟨rfl, -⟩ := mem_picked mem
      exact absurd src (channelled.source_old strung inside (mem_coe.mp nw))
  · intro ref nw
    obtain ⟨e, mem, rfl⟩ := mem_map.mp nw
    exact stands.welcome (channelled.nodes e mem)
  all_goals
    intro pair inPairs
    obtain ⟨rfl, e, mem, -, -, eq⟩ := facts inPairs
    rw [eq]
    first | exact ⟨rfl, rfl⟩ | exact channelled.docks stands mem

section Input

variable {made last : Net} {es : List (Ref × Nat)}
  (channelled : Channelled cur g o now .outlet inletNode (cur.node o).channels.length es made)
include channelled

theorem relays_adc {inputs : Int → ℚ} {v : Ref → Int → ℚ}
    (strung : cur.Strung g now) (inside : o ∈ cur.contents g) (isA : (cur.node o).IsAudio .outlet)
    (lasts : net.loss (net.contents g) o = none)
    (means : ∀ outlet, net.remainder inputs (net.contents g) o outlet =
      inputs ((at? (cur.node o).channels outlet).getD 0 - 1))
    (bare : ∀ e ∈ es, (last.node e.1).bare = ((inletNode
      ((cur.node o).channels.getD e.2 0) e.1).inGraph g).bare) :
    ∃ worth, net.Relays g inputs turn cur now fate v o (es.map Prod.fst)
      (shifts cur .outlet o es) last worth := by
  have sends : ∀ e ∈ es, ∀ outlet left right isWired,
      (last.node e.1).output inputs outlet left right isWired =
        inputs ((cur.node o).channels.getD e.2 0 - 1) := by
    intro e mem outlet left right isWired
    rw [Node.output_entered (bare e mem)]
    rfl
  refine ⟨fun ref _ => (last.node ref).output inputs 0 0 0 false, ?_, ?_, ?_, ?_⟩
  · intro ref nw
    obtain ⟨e, mem, rfl⟩ := mem_map.mp nw
    funext outlet
    exact (sends e mem 0 0 0 false).trans (sends e mem outlet _ _ _).symm
  · intro _
    refine ⟨channelled.coe_map_fst strung inside isA.channels.symm, ?_⟩
    intro pair inO
    obtain ⟨e, mem, -, isAt, eq⟩ := of_mem_shifts strung inside inO
    have nw : e.1 ∈ es.map Prod.fst := mem_map_of_mem mem
    rw [eq]
    refine ⟨(amended_of_mem nw).trans lasts.symm, ?_⟩
    refine (congrFun (amended_of_mem nw) 0).trans ?_
    rw [sends e mem, means, show pair.1.outlet = e.2 from isAt.2, channelled.at?_channels mem]
    rfl
  · intro lost
    rw [lasts] at lost
    cases lost
  · intro c
    have none : (cur.node o).taps c = [] := by rw [Node.taps, isA.kind]
    rw [none]
    refine sum_eq_zero ?_
    intro x inMap
    obtain ⟨ref, nw, rfl⟩ := mem_map.mp inMap
    obtain ⟨e, mem, rfl⟩ := mem_map.mp nw
    have quiet : (inletNode ((cur.node o).channels.getD e.2 0) e.1).taps c =
        [] := by simp [inletNode, Node.taps, Node.plain]
    rw [Node.taps_entered (bare e mem), quiet]
    rfl

end Input

section Output

theorem filter_shifts (ne : (es.map Prod.fst).Nodup)
    (mem : e ∈ es) : (shifts cur .inlet o es).filter (fun pair => pair.2.At .inlet e.1 0) =
      (cur.held .inlet o e.2).map (shifted .inlet e.1) := by
  induction es with
  | nil => cases mem
  | cons first rest ih =>
    rw [List.map_cons, List.nodup_cons] at ne
    have split : shifts cur .inlet o (first :: rest) =
        (cur.held .inlet o first.2).map (shifted .inlet first.1) ++
          shifts cur .inlet o rest := flatMap_cons
    rw [split, filter_append]
    rcases mem_cons.mp mem with rfl | later
    · have none : (shifts cur .inlet o rest).filter (fun pair => pair.2.At .inlet e.1 0) = [] := by
        rw [filter_eq_nil_iff]
        intro pair inR
        obtain ⟨y, inOthers, w, -, rfl⟩ := mem_shifts inR
        rw [decide_eq_true_iff]
        rintro ⟨eq, -⟩
        exact ne.1 (mem_map.mpr ⟨y, inOthers, eq⟩)
      rw [none, append_nil, filter_eq_self]
      intro pair inF
      obtain ⟨w, -, rfl⟩ := mem_map.mp inF
      exact decide_eq_true ⟨rfl, rfl⟩
    · have none : ((cur.held .inlet o first.2).map (shifted .inlet first.1)).filter
          (fun pair => pair.2.At .inlet e.1 0) = [] := by
        rw [filter_eq_nil_iff]
        intro pair inF
        obtain ⟨w, -, rfl⟩ := mem_map.mp inF
        rw [decide_eq_true_iff]
        rintro ⟨eq, -⟩
        exact ne.1 (mem_map.mpr ⟨e, later, eq.symm⟩)
      rw [none, nil_append, ih ne.2 later]

theorem sum_filter_ite {inflow : Nat → ℚ} {isWired : Nat → Bool} {holds : Nat → Prop}
    [DecidablePred holds] (mute : ∀ i, isWired i = false → inflow i = 0) (places : List Nat) :
    ((places.filter isWired).map fun i => if holds i then inflow i else 0).sum =
      ((places.filter (holds ·)).map inflow).sum := by
  induction places with
  | nil => rfl
  | cons i rest ih =>
    cases wired : isWired i <;> by_cases here : holds i <;> simp [wired, here, ih, mute]

theorem sum_taps_dac {inflow : Nat → ℚ} {channels : List Int}
    {isWired : Nat → Bool} (mute : ∀ i, isWired i = false → inflow i = 0) :
    (((List.range channels.length).filter isWired).map fun i =>
      if channels.getD i 0 = c then inflow i else 0).sum =
      (((channels.zipIdx.filter fun e => e.1 = c).map Prod.snd).map inflow).sum := by
  have indexed : channels.zipIdx =
      (List.range channels.length).map fun i => (channels.getD i 0, i) := by
    apply ext_getElem
    · simp
    · intro i lt y
      have inside : i < channels.length := by simpa using lt
      simp [inside]
  rw [indexed, List.filter_map, List.map_map, List.map_map]
  exact sum_filter_ite mute _

theorem taps_outputNode (q : Int) (ident : Nat) (c : Int) :
    (outputNode q ident).taps c = if q = c then [0] else [] := by
  by_cases eq : q = c
  · simp [outputNode, Node.taps, Node.plain, eq]
  · have sep : q - 1 ≠ c - 1 := by omega
    simp [outputNode, Node.taps, Node.plain, eq]

variable {made last : Net} {es : List (Ref × Nat)}
  (channelled : Channelled cur g o now .inlet outputNode (cur.node o).channels.length es made)

include channelled

variable {inputs : Int → ℚ} {v worth : Ref → Int → ℚ} (strung : cur.Strung g now)
  (inside : o ∈ cur.contents g)
  (step : Turn cur g o now (es.map Prod.fst) ↑((shifts cur .inlet o es).map Prod.snd) [] last)
include strung inside step

theorem inflow_amended_dac {ref : Ref} (nw : ref ∈ es.map Prod.fst) (place : Nat) :
    last.inflow (amended (es.map Prod.fst) worth v) ref place = last.inflow v ref place := by
  have inLast : ref ∈ last.contents g := by
    rw [step.contents]
    exact mem_append_right _ nw
  rw [step.site.toStrung.inflow_eq inLast, step.site.toStrung.inflow_eq inLast,
    step.filter_at_new strung nw]
  congr 1
  apply map_congr rfl
  intro w inI
  have moved := mem_coe.mp (Multiset.mem_filter.mp inI).1
  rw [amended_of_notMem (channelled.source_old strung inside moved)]

omit inside in
theorem inflow_dac (mem : e ∈ es) : last.inflow v e.1 0 = cur.inflow v o e.2 := by
  have nw : e.1 ∈ es.map Prod.fst := mem_map_of_mem mem
  have inLast : e.1 ∈ last.contents g := by
    rw [step.contents]
    exact mem_append_right _ nw
  have only : (shifts cur .inlet o es).filter _ = _ := filter_shifts channelled.stocked.distinct mem
  rw [step.site.toStrung.inflow_eq inLast, step.filter_at_new strung nw, filter_coe,
    map_coe, sum_coe, List.filter_map, List.map_map]
  refine (congrArg (fun pairs : List (Wire × Wire) =>
    (pairs.map fun pair => v pair.2.source pair.2.outlet).sum) only).trans ?_
  rw [List.map_map]
  rfl

/-- The adders for the channels of an audio output send on what arrived there. -/
theorem relays_dac (isA : (cur.node o).IsAudio .inlet)
    (bare : ∀ entry ∈ es, (last.node entry.1).bare = ((outputNode
      ((cur.node o).channels.getD entry.2 0) entry.1).inGraph g).bare) :
    ∃ worth, net.Relays g inputs turn cur now fate v o (es.map Prod.fst) [] last worth := by
  have unsent : now.filter (fun w => w.source = o) = 0 := not_wired_of_isAudio isA strung inside
  refine ⟨fun ref _ => last.inflow v ref 0 + last.inflow v ref 1, ?_, ?_, fun _ => rfl, ?_⟩
  · intro ref nw
    funext outlet
    rw [evaluate, inflow_amended_dac channelled strung inside step nw,
      inflow_amended_dac channelled strung inside step nw]
    obtain ⟨entry, mem, rfl⟩ := mem_map.mp nw
    rw [Node.output_entered (bare entry mem)]
    rfl
  · intro _
    rw [unsent]
    exact ⟨rfl, by simp⟩
  · intro c
    rw [List.map_map]
    have tapped : ∀ entry ∈ es, ((fun ref => (((last.node ref).taps c).map
        (last.inflow (amended (es.map Prod.fst)
          (fun ref _ => last.inflow v ref 0 + last.inflow v ref 1) v) ref)).sum) ∘
            Prod.fst) entry =
        ((fun i => if (cur.node o).channels.getD i 0 = c then
          cur.inflow v o i else 0) ∘ Prod.snd) entry := by
      intro entry mem
      have nw : entry.1 ∈ es.map Prod.fst := mem_map_of_mem mem
      simp only [Function.comp_apply]
      rw [Node.taps_entered (bare entry mem), taps_outputNode]
      split
      · rw [List.map_singleton, List.sum_singleton,
          inflow_amended_dac channelled strung inside step nw,
          inflow_dac channelled strung step mem]
      · rfl
    rw [map_congr_left tapped, ← List.map_map, channelled.places, sum_taps_dac, Node.taps, isA.kind]
    intro i unwired
    have none : cur.held .inlet o i = [] := by simpa using unwired
    rw [inflow, none]
    rfl

end Output

section Turns

variable (due : net.Due g ws rank turn cur now new fate o)
include due

theorem ends_reduce_dac (isA : (net.node o).IsAudio .inlet) : Ends (reductionOf o) cur
      (Settles net g ws turn cur now new fate o) := by
  have isHere := current_isAudio due isA
  have inside := due.object_mem
  apply Ends.at_node
  rw [isHere.kind]
  apply Ends.mono (ends_reduceDac due.site inside isHere)
  rintro ⟨os, moves⟩ made ⟨es, channelled, eq⟩
  cases eq
  apply Ends.mono (ends_swap_channels stands_outputNode channelled due.site inside isHere due.floats)
  rintro _ last ⟨step, bare⟩
  exact ⟨_, _, _, step, fun inputs v _ =>
    relays_dac channelled due.site.toStrung inside step isHere bare⟩

theorem ends_reduce_adc (valued : ∀ inputs, ∃ v, net.Valued g ws inputs turn cur now new fate v)
    (isA : (net.node o).IsAudio .outlet) : Ends (reductionOf o) cur
      (Settles net g ws turn cur now new fate o) := by
  have isHere := current_isAudio due isA
  have inside := due.object_mem
  have lasts : net.loss (net.contents g) o = none := by
    obtain ⟨v, val⟩ := valued fun _ => 0
    rw [val.loss_now due, fate_of_isAudio isA]
  apply Ends.at_node
  rw [isHere.kind]
  apply Ends.mono (ends_reduceAdc due.site inside isHere)
  rintro ⟨os, moves⟩ made ⟨es, channelled, eq⟩
  cases eq
  apply Ends.mono (ends_swap_channels stands_inletNode channelled due.site inside isHere due.floats)
  rintro _ last ⟨step, bare⟩
  refine ⟨_, _, _, step, fun inputs v val =>
    relays_adc channelled due.site.toStrung inside isHere lasts ?_ bare⟩
  intro outlet
  rw [val.remainder_now due, lasts, Node.output, isA.kind,
    Node.look_of_bare (due.looks o due.mem_drop) Node.channels rfl]
  rfl

end Turns

end Audio

end Build

end PatchCompiler
