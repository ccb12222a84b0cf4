import PatchCompiler.Proofs.Receivers

/-!
# One receiver for each name

The receivers that a root graph knows by one name become one, which sends what they sent in the
order of their priorities. A name that has had its turn is not touched by the turns after it.
-/

namespace PatchCompiler

open List

variable {name : Name} {w : Wire} {s : Side}

namespace Registry

variable {registry : Registry} {typeOf : Ref → String} {type : String}

theorem ofTypes_singleton (name : Name) : registry.ofTypes typeOf name [type] =
    (registry.get name).filter fun o => typeOf o == type := by
  apply filter_congr
  intro o _
  rw [Bool.eq_iff_iff]
  simp

theorem keys_byType_sublist : ((registry.byType typeOf type).map Prod.fst).Sublist
    (registry.entries.map Prod.fst) := by
  have kept := (filter_sublist (p := fun e : Name × List Ref => !e.2.isEmpty)
    (l := registry.entries.map fun e =>
      (e.1, e.2.filter fun o => typeOf o == type))).map Prod.fst
  rw [map_map] at kept
  exact kept

theorem mem_entries_of_get (some : registry.get name ≠ []) :
    (name, registry.get name) ∈ registry.entries := by
  unfold get at some ⊢
  cases got : registry.entries.lookup name with
  | none =>
    rw [got] at some
    exact absurd rfl some
  | some held =>
    obtain ⟨pre, after, split, -⟩ := lookup_eq_some_iff.mp got
    rw [split]
    simp

theorem mem_byType (nodup : (registry.entries.map Prod.fst).Nodup)
    {held : List Ref} : (name, held) ∈ registry.byType typeOf type ↔
      held = registry.ofTypes typeOf name [type] ∧ held ≠ [] := by
  rw [ofTypes_singleton, byType, mem_filter, mem_map]
  constructor
  · rintro ⟨⟨⟨key, all⟩, mem, eq⟩, some⟩
    cases eq
    rw [get_of_mem nodup mem]
    exact ⟨rfl, by simpa using some⟩
  · rintro ⟨rfl, some⟩
    refine ⟨⟨(name, registry.get name), mem_entries_of_get ?_, rfl⟩, by simpa using some⟩
    intro none
    rw [none] at some
    exact some rfl

end Registry

/-- The receivers of a name, as registered and as they are taken over, and the one that takes
over. -/
structure Group where
  name : Name
  receivers : List Ref
  ordered : List Ref
  single : Ref

def Group.wires (net : Net) (group : Group) : List Wire :=
  net.moved group.single group.ordered

def Group.gone (groups : List Group) : List Ref :=
  groups.flatMap Group.receivers

def Group.allWires (net : Net) (groups : List Group) : List Wire :=
  groups.flatMap (Group.wires net)

theorem Group.exists_of_mem_allWires {net : Net} {groups : List Group}
    (isIn : w ∈ allWires net groups) : ∃ gp ∈ groups, w.source = gp.single := by
  obtain ⟨gp, among, mem⟩ := mem_flatMap.mp isIn
  exact ⟨gp, among, Net.source_of_mem_moved mem⟩

/-- The wires of all who have taken over tell by their sources whose they are. -/
theorem Group.filter_allWires {net : Net} {groups : List Group}
    (nodup : (groups.map Group.single).Nodup) {gp : Group} (among : gp ∈ groups) :
    (allWires net groups).filter (·.source = gp.single) = gp.wires net := by
  have mine : ∀ other : Group, other.single = gp.single →
      (other.wires net).filter (·.source = gp.single) = other.wires net := by
    intro other eq
    refine filter_eq_self.mpr fun w mem => ?_
    simpa [eq] using Net.source_of_mem_moved mem
  have ys : ∀ other : Group, other.single ≠ gp.single →
      (other.wires net).filter (·.source = gp.single) = [] := by
    intro other ne
    refine filter_eq_nil_iff.mpr fun w mem => ?_
    simpa [Net.source_of_mem_moved mem] using ne
  induction groups with
  | nil => cases among
  | cons first rest ih =>
    rw [map_cons, nodup_cons, mem_map] at nodup
    rw [allWires, flatMap_cons, filter_append]
    rcases mem_cons.mp among with rfl | later
    · have none : (rest.flatMap (Group.wires net)).filter (·.source = gp.single) = [] := by
        rw [filter_flatMap, flatMap_eq_nil_iff]
        intro other mem
        exact ys other fun eq => nodup.1 ⟨other, mem, eq⟩
      rw [mine gp rfl, none, append_nil]
    · rw [ys first fun eq => nodup.1 ⟨gp, later, eq.symm⟩, nil_append]
      exact ih nodup.2 later

namespace Net

def receivers (net : Net) (graph : Ref) (name : Name) : List Ref :=
  (net.node graph).body.registry.ofTypes net.view.typeOf name ["__receive"]

/-- Some names have one receiver each in the place of all they had. -/
structure Merged (net : Net) (root : Ref) (groups : List Group) (last : Net) : Prop where
  size : last.size = net.size + groups.length
  core : ∀ ref < net.size, (last.node ref).core = (net.node ref).core
  fresh : groups.map Group.single = List.range' net.size groups.length
  sorted : ∀ group ∈ groups, net.ByPriority group.receivers group.ordered
  made : ∀ group ∈ groups, (last.node group.single).type = "__receive" ∧
    ((last.node group.single).lets .outlet).length = 1
  placed : ∀ wire ∈ Group.allWires net groups, ∀ side, (last.letOf side wire).isSome
  held : ∀ side ref slot, last.held side ref slot =
    (net.held side ref slot).filter (·.source ∉ Group.gone groups) ++
      (Group.allWires net groups).filter (last.Meets side ref slot)
  contents : ∀ graph, last.contents graph = (net.contents graph).filter (· ∉ Group.gone groups) ++
      if graph = root then groups.map Group.single else []
  registered : ∀ graph called, (last.node graph).body.registry.get called =
    ((net.node graph).body.registry.get called).filter (· ∉ Group.gone groups) ++
      if graph = root then (groups.filter (·.name = called)).map Group.single else []
  others : ∀ other receiver, net.Receiver root other receiver → receiver ∉ Group.gone groups →
    last.Receiver root other receiver

theorem Merged.refl (net : Net) (root : Ref) : Merged net root [] net := by
  refine ⟨rfl, fun _ _ => rfl, rfl, nofun, nofun, nofun, ?_, ?_, ?_, fun _ _ h _ => h⟩ <;>
    simp [Group.gone, Group.allWires]

variable {net middle last : Net} {root : Ref} {groups : List Group}

theorem Merged.size_le_single (merged : Merged net root groups last) {gp : Group}
    (mem : gp ∈ groups) : net.size ≤ gp.single := by
  have isIn : gp.single ∈ List.range' net.size groups.length := merged.fresh ▸ mem_map_of_mem mem
  exact (mem_range'_1.mp isIn).1

theorem Merged.single_lt (merged : Merged net root groups last) {gp : Group}
    (mem : gp ∈ groups) : gp.single < last.size := by
  have isIn : gp.single ∈ List.range' net.size groups.length := merged.fresh ▸ mem_map_of_mem mem
  rw [merged.size]
  exact (mem_range'_1.mp isIn).2

theorem Merged.held_outlet (merged : Merged net root groups last) {receiver : Ref}
    (isR : net.Receiver root name receiver) (stays : receiver ∉ Group.gone groups)
    (slot : Nat) : last.held .outlet receiver slot = net.held .outlet receiver slot := by
  have none : (Group.allWires net groups).filter (last.Meets .outlet receiver slot) = [] := by
    refine filter_eq_nil_iff.mpr fun w isIn => ?_
    obtain ⟨gp, among, src⟩ := Group.exists_of_mem_allWires isIn
    have ne : w.source ≠ receiver := by
      rw [src]
      exact (isR.lt_size.trans_le (merged.size_le_single among)).ne'
    simpa using fun meets => ne meets.1
  rw [merged.held, none, append_nil, filter_eq_self]
  intro w mem
  rw [isR.own slot w mem]
  simpa using stays

theorem letOf_of_core {wire : Wire}
    (core : (last.node (wire.object s)).core = (net.node (wire.object s)).core) :
    last.letOf s wire = net.letOf s wire := by
  apply letOf_eq
  rw [← Node.length_lets_core, core, Node.length_lets_core]

theorem Grouped.letOf {rs ord : List Ref} (grp : Grouped net root name rs ord last) {wire : Wire}
    (put : (net.letOf s wire).isSome) : last.letOf s wire = net.letOf s wire := by
  obtain ⟨j, met⟩ := Option.isSome_iff_exists.mp put
  exact letOf_of_core (grp.core _ (lt_size_of_letOf met))

theorem ByPriority.of_core {receivers ordered : List Ref}
    (sorted : middle.ByPriority receivers ordered)
    (core : ∀ receiver ∈ receivers, (middle.node receiver).core = (net.node receiver).core) :
    net.ByPriority receivers ordered := by
  have eq : ∀ receiver ∈ receivers, middle.priority receiver = net.priority receiver := by
    intro receiver mem
    change (middle.node receiver).core.arguments.getD _ _ =
      (net.node receiver).core.arguments.getD _ _
    rw [core receiver mem]
  refine ⟨sorted.perm, ?_, ?_⟩
  · refine sorted.falling.imp_of_mem fun first snd notLower => ?_
    rw [← eq _ (sorted.perm.mem_iff.mp first), ← eq _ (sorted.perm.mem_iff.mp snd)]
    exact notLower
  · intro a b pair eq'
    have first : a ∈ receivers := pair.subset (by simp)
    have snd : b ∈ receivers := pair.subset (by simp)
    rw [← eq a first, ← eq b snd] at eq'
    exact sorted.stable a b pair eq'

theorem Merged.snoc (merged : Merged net root groups middle)
    {receivers ordered : List Ref} (all : ∀ r ∈ receivers, net.Receiver root name r)
    (left : ∀ r ∈ receivers, r ∉ Group.gone groups)
    (grp : Grouped middle root name receivers ordered last) :
    Merged net root (groups ++ [⟨name, receivers, ordered, middle.size⟩]) last := by
  have gone : ∀ ref, ref ∈ Group.gone (groups ++ [⟨name, receivers, ordered, middle.size⟩]) ↔
      ref ∈ Group.gone groups ∨ ref ∈ receivers := by
    simp [Group.gone]
  have more : net.size ≤ middle.size := by
    rw [merged.size]
    exact Nat.le_add_right _ _
  have moved : middle.moved middle.size ordered = net.moved middle.size ordered := by
    unfold Net.moved
    apply flatMap_congr
    intro r isIn
    have mem := grp.sorted.perm.mem_iff.mp isIn
    rw [merged.held_outlet (all r mem) (left r mem)]
  have ws : Group.allWires net (groups ++ [⟨name, receivers, ordered, middle.size⟩]) =
      Group.allWires net groups ++ middle.moved middle.size ordered := by
    rw [moved]
    simp [Group.allWires, Group.wires]
  have singleApart : ∀ gp ∈ groups, gp.single ∉ receivers := by
    intro gp mem isIn
    exact (merged.size_le_single mem).not_gt (all _ isIn).lt_size
  have unmoved : ∀ some ⊆ groups,
      (some.map Group.single).filter (· ∉ receivers) = some.map Group.single := by
    intro some among
    refine filter_eq_self.mpr (forall_mem_map.mpr fun gp mem => ?_)
    simpa using singleApart gp (among mem)
  refine ⟨?_, ?_, ?_, ?_, ?_, ?_, ?_, ?_, ?_, ?_⟩
  · rw [grp.size, merged.size]
    simp [Nat.add_assoc]
  · intro ref lt
    rw [grp.core ref (lt.trans_le more), merged.core ref lt]
  · rw [map_append, merged.fresh, merged.size, length_append, length_singleton,
      List.range'_1_concat]
    rfl
  · intro gp mem
    rcases mem_append.mp mem with pre | now
    · exact merged.sorted gp pre
    · obtain rfl := mem_singleton.mp now
      exact grp.sorted.of_core fun r isIn => merged.core _ (all r isIn).lt_size
  · intro gp mem
    rcases mem_append.mp mem with pre | now
    · have core := grp.core _ (merged.single_lt pre)
      obtain ⟨type, outs⟩ := merged.made gp pre
      constructor
      · change (last.node gp.single).core.type = _
        rw [core]
        exact type
      · rw [← Node.length_lets_core, core, Node.length_lets_core]
        exact outs
    · obtain rfl := mem_singleton.mp now
      exact ⟨grp.type, grp.lets.2⟩
  · intro wire hin s
    rw [ws] at hin
    rcases mem_append.mp hin with pre | now
    · rw [grp.letOf (merged.placed wire pre s)]
      exact merged.placed wire pre s
    · exact grp.placed wire now s
  · intro s ref j
    have kept : ((Group.allWires net groups).filter (middle.Meets s ref j)).filter
        (·.source ∉ receivers) = (Group.allWires net groups).filter (last.Meets s ref j) := by
      rw [filter_filter]
      apply filter_congr
      intro wire hin
      obtain ⟨gp, mem, src⟩ := Group.exists_of_mem_allWires hin
      have stays : wire.source ∉ receivers := src ▸ singleApart gp mem
      have eq : last.Meets s ref j wire ↔ middle.Meets s ref j wire := by
        simp only [Meets, grp.letOf (merged.placed wire hin s)]
      simp [stays, eq]
    rw [grp.held, merged.held, filter_append, kept, filter_filter, ws, filter_append, append_assoc]
    simp [gone, Bool.and_comm]
  · intro g
    rw [grp.contents, merged.contents, filter_append, filter_filter]
    split
    · rw [unmoved groups (Subset.refl _)]
      simp [gone, Bool.and_comm]
    · simp [gone, Bool.and_comm]
  · intro g called
    rw [grp.registered, merged.registered, filter_append, filter_filter]
    by_cases eq : g = root
    · rw [if_pos eq, if_pos eq, unmoved _ (filter_subset_self groups)]
      by_cases eq' : called = name
      · simp [eq, eq', gone, Bool.and_comm]
      · have ne : name ≠ called := Ne.symm eq'
        simp [eq', ne, gone, Bool.and_comm]
    · simp [eq, gone, Bool.and_comm]
  · intro graph r isR stays
    rw [gone, not_or] at stays
    exact grp.others graph r (merged.others graph r isR stays.1) stays.2

/-- The control receivers that a root knows are public ones in its hierarchy. -/
structure Posted (net : Net) (root : Ref) : Prop where
  inside : root < net.size
  top : (net.node root).parent = none
  names : ((net.node root).body.registry.entries.map Prod.fst).Nodup
  known : ∀ name, ∀ object ∈ (net.node root).body.registry.get name, object < net.size
  wires : ∀ side ref slot, ∀ wire ∈ net.held side ref slot, wire.source < net.size
  receivers : ∀ name, ∀ receiver ∈ net.receivers root name, net.Receiver root name receiver

theorem Receiver.name_eq {other : Name} {r : Ref}
    (first : net.Receiver root name r) (snd : net.Receiver root other r) : name = other :=
  (snd.nowhere root name (count_pos_iff.mp (by rw [first.enrolled]; exact Nat.one_pos))).2

theorem Posted.nodup (posted : net.Posted root) (name : Name) : (net.receivers root name).Nodup := by
  rw [nodup_iff_count_le_one]
  intro r
  by_cases mem : r ∈ net.receivers root name
  · rw [← (posted.receivers name r mem).enrolled]
    exact filter_sublist.count_le r
  · rw [count_eq_zero.mpr mem]
    exact Nat.zero_le _

/-- What the wires of some receivers are at the inlets, they are at the outlets. -/
theorem Receiver.perm_inlet {r : Ref} (isR : net.Receiver root name r) (ref : Ref) (j : Nat) :
    ((net.held .outlet r 0).filter (net.Meets .inlet ref j)).Perm
      ((net.held .inlet ref j).filter (·.source = r)) := by
  rw [perm_iff_count]
  intro wire
  by_cases src : wire.source = r
  · rw [count_filter (p := fun wire : Wire => decide (wire.source = r))
      (by simpa using src)]
    by_cases mem : wire ∈ net.held .inlet ref j
    · have meets := isR.noted .inlet ref j wire mem src
      rw [count_filter (by simpa using meets), isR.count_eq mem src]
    · rw [count_eq_zero.mpr mem, count_eq_zero]
      intro kept
      have meets : net.Meets .inlet ref j wire := by simpa using (mem_filter.mp kept).2
      have pres := count_pos_iff.mpr (mem_of_mem_filter kept)
      rw [← isR.timesNoted_eq (mem_of_mem_filter kept) src,
        isR.agree wire src, timesNoted, meets.2] at pres
      exact mem (meets.1 ▸ count_pos_iff.mp pres)
  · rw [count_eq_zero.mpr, count_eq_zero.mpr]
    · simp [src]
    · exact fun kept => src (isR.own 0 wire (mem_of_mem_filter kept))

theorem perm_inlet_all {rs : List Ref} (nodup : rs.Nodup)
    (all : ∀ r ∈ rs, net.Receiver root name r) (ref : Ref) (j : Nat) :
    ((rs.flatMap (net.held .outlet · 0)).filter (net.Meets .inlet ref j)).Perm
      ((net.held .inlet ref j).filter (·.source ∈ rs)) := by
  induction rs with
  | nil => simp
  | cons first rest ih =>
    rw [nodup_cons] at nodup
    have now := (all first mem_cons_self).perm_inlet ref j
    have post := ih nodup.2 (forall_mem_cons.mp all).2
    rw [flatMap_cons, filter_append]
    refine (now.append post).trans ?_
    have parted := filter_append_perm (fun w : Wire => decide (w.source = first))
      ((net.held .inlet ref j).filter (·.source ∈ first :: rest))
    rw [filter_filter, filter_filter] at parted
    convert parted using 2
    · apply filter_congr
      intro w _
      by_cases eq : w.source = first <;> simp [eq]
    · apply filter_congr
      intro w _
      by_cases eq : w.source = first
      · simp [eq, nodup.1]
      · simp [eq]

/-- Each name that had receivers has one in their place. -/
structure OneEach (net : Net) (root : Ref) (single : Name → Ref) (last : Net) : Prop where
  one : ∀ name, last.receivers root name =
    if net.receivers root name = [] then [] else [single name]
  gone : ∀ name, ∀ receiver ∈ net.receivers root name, (∀ graph, receiver ∉ last.contents graph) ∧
      ∀ graph called, receiver ∉ (last.node graph).body.registry.get called
  outlet : ∀ name, net.receivers root name ≠ [] →
    ∃ ordered, net.ByPriority (net.receivers root name) ordered ∧
      last.held .outlet (single name) 0 = net.moved (single name) ordered
  inlets : ∀ name, net.receivers root name ≠ [] → ∀ ref slot,
    ((last.held .inlet ref slot).filter (·.source = single name)).Perm
      (((net.held .inlet ref slot).filter (·.source ∈ net.receivers root name)).map
        (·.startAt (single name)))
  rest : Spares (fun wire => ∃ name, net.receivers root name ≠ [] ∧
    (wire.source ∈ net.receivers root name ∨ wire.source = single name)) net last

namespace Merged

variable (merged : Merged net root groups last)
include merged

theorem nodup_single : (groups.map Group.single).Nodup := by
  rw [merged.fresh]
  exact nodup_range'

theorem held_single_outlet {gp : Group} (mem : gp ∈ groups) :
    last.held .outlet gp.single 0 = gp.wires net := by
  have empty : net.held .outlet gp.single 0 = [] := by
    rw [Net.held, node_of_size_le (merged.size_le_single mem)]
    rfl
  rw [merged.held, empty, filter_nil, nil_append, ← Group.filter_allWires merged.nodup_single mem]
  apply filter_congr
  intro wire isIn
  by_cases src : wire.source = gp.single
  · obtain ⟨j, met⟩ := Option.isSome_iff_exists.mp (merged.placed wire isIn .outlet)
    have lt := bound_of_letOf met
    rw [Wire.object, src, (merged.made gp mem).2] at lt
    obtain rfl : j = 0 := by omega
    have meets : last.Meets .outlet gp.single 0 wire := ⟨src, met⟩
    simp [meets, src]
  · have sep : ¬ last.Meets .outlet gp.single 0 wire := fun meets => src meets.1
    simp [sep, src]

theorem perm_single_inlet (ws : ∀ s ref j, ∀ wire ∈ net.held s ref j,
    wire.source < net.size) {gp : Group} (among : gp ∈ groups) (nodup : gp.receivers.Nodup)
    (all : ∀ r ∈ gp.receivers, net.Receiver root gp.name r) (ref : Ref) (j : Nat) :
    ((last.held .inlet ref j).filter (·.source = gp.single)).Perm
      (((net.held .inlet ref j).filter (·.source ∈ gp.receivers)).map (·.startAt gp.single)) := by
  have sorted := (merged.sorted gp among).perm
  have old : ((net.held .inlet ref j).filter (·.source ∉ Group.gone groups)).filter
      (·.source = gp.single) = [] := by
    refine filter_eq_nil_iff.mpr fun wire mem => ?_
    have lt := ws .inlet ref j wire (mem_of_mem_filter mem)
    simpa using (lt.trans_le (merged.size_le_single among)).ne
  have new : ((Group.allWires net groups).filter (last.Meets .inlet ref j)).filter
      (·.source = gp.single) = (gp.wires net).filter (last.Meets .inlet ref j) := by
    rw [← Group.filter_allWires merged.nodup_single among, filter_filter, filter_filter]
    simp [Bool.and_comm]
  have moved : (gp.wires net).filter (last.Meets .inlet ref j) =
      ((gp.ordered.flatMap (net.held .outlet · 0)).filter (net.Meets .inlet ref j)).map
        (·.startAt gp.single) := by
    rw [Group.wires, Net.moved, ← map_flatMap, filter_map]
    congr 1
    apply filter_congr
    intro wire isIn
    obtain ⟨r, mem, held⟩ := mem_flatMap.mp isIn
    obtain ⟨i, met⟩ := (all r (sorted.mem_iff.mp mem)).exists_inlet wire held
    have eq : last.letOf .inlet (wire.startAt gp.single) = net.letOf .inlet wire :=
      letOf_of_core (merged.core _ (lt_size_of_letOf met))
    have meets : last.Meets .inlet ref j (wire.startAt gp.single) ↔
        net.Meets .inlet ref j wire := by
      unfold Meets
      rw [eq]
      rfl
    simp [meets]
  rw [merged.held, filter_append, old, nil_append, new, moved]
  have taken := perm_inlet_all (sorted.nodup_iff.mpr nodup)
    (fun r mem => all r (sorted.mem_iff.mp mem)) ref j
  simp only [sorted.mem_iff] at taken
  exact taken.map _

theorem receivers_eq (eq : ∀ name, ∀ o ∈ (net.node root).body.registry.get name,
    o < net.size) (name : Name) (all : ∀ r ∈ net.receivers root name, r ∈ Group.gone groups) :
    last.receivers root name = (groups.filter (·.name = name)).map Group.single := by
  rw [Net.receivers, Registry.ofTypes_singleton, merged.registered, if_pos rfl, filter_append]
  have old : (((net.node root).body.registry.get name).filter (· ∉ Group.gone groups)).filter
      (fun o => last.view.typeOf o == "__receive") = [] := by
    refine filter_eq_nil_iff.mpr fun o mem isR => ?_
    obtain ⟨listed, stays⟩ := mem_filter.mp mem
    have type : (last.node o).core.type = (net.node o).core.type := by
      rw [merged.core o (eq name o listed)]
    refine (of_decide_eq_true stays) (all o ?_)
    rw [Net.receivers, Registry.ofTypes_singleton, mem_filter]
    refine ⟨listed, ?_⟩
    change ((last.node o).core.type == "__receive") = true at isR
    rw [type] at isR
    exact isR
  have new : ((groups.filter (·.name = name)).map Group.single).filter
      (fun o => last.view.typeOf o == "__receive") =
      (groups.filter (·.name = name)).map Group.single := by
    refine filter_eq_self.mpr fun o mem => ?_
    obtain ⟨gp, among, rfl⟩ := mem_map.mp mem
    have type := (merged.made gp (mem_of_mem_filter among)).1
    change ((last.node gp.single).type == "__receive") = true
    rw [type]
    rfl
  rw [old, new, nil_append]

theorem absent {receiver : Ref} (gone : receiver ∈ Group.gone groups)
    (lt : receiver < net.size) : (∀ g, receiver ∉ last.contents g) ∧
      ∀ g called, receiver ∉ (last.node g).body.registry.get called := by
  have sep : ∀ gp ∈ groups, gp.single ≠ receiver := fun gp mem eq =>
    (merged.size_le_single mem).not_gt (eq ▸ lt)
  constructor
  · intro g
    rw [merged.contents]
    split
    · simpa [gone] using sep
    · simp [gone]
  · intro g called
    rw [merged.registered]
    split
    · simpa [gone] using fun gp mem _ => sep gp mem
    · simp [gone]

theorem spares : Spares (fun w => w.source ∈ Group.gone groups ∨
    ∃ gp ∈ groups, w.source = gp.single) net last := by
  intro keep blind s ref j
  have old : ((net.held s ref j).filter (·.source ∉ Group.gone groups)).filter keep =
      (net.held s ref j).filter keep := by
    rw [filter_filter]
    apply filter_congr
    intro w _
    by_cases gone : w.source ∈ Group.gone groups
    · simp [blind w (.inl gone)]
    · simp [gone]
  have new : ((Group.allWires net groups).filter (last.Meets s ref j)).filter keep = [] := by
    refine filter_eq_nil_iff.mpr fun w isIn => ?_
    obtain ⟨gp, mem, src⟩ := Group.exists_of_mem_allWires (mem_of_mem_filter isIn)
    rw [blind w (.inr ⟨gp, mem, src⟩)]
    exact Bool.false_ne_true
  rw [merged.held, filter_append, old, new, append_nil]

end Merged

/-- The groups are those of all names that have receivers. -/
structure Covers (net : Net) (root : Ref) (groups : List Group) : Prop where
  names : (groups.map Group.name).Nodup
  all : ∀ group ∈ groups, group.receivers = net.receivers root group.name ∧ group.receivers ≠ []
  complete : ∀ name, net.receivers root name ≠ [] →
    ∃ group ∈ groups, group.name = name ∧ group.receivers = net.receivers root name

theorem Covers.of_byType (dist : ((net.node root).body.registry.entries.map Prod.fst).Nodup)
    (names : groups.map (fun gp => (gp.name, gp.receivers)) =
      (net.node root).body.registry.byType net.view.typeOf "__receive") :
    Covers net root groups := by
  refine ⟨?_, ?_, ?_⟩
  · have keys := (@Registry.keys_byType_sublist (net.node root).body.registry net.view.typeOf
      "__receive").nodup dist
    rw [← names, map_map] at keys
    exact keys
  · intro gp mem
    refine (Registry.mem_byType dist).mp ?_
    rw [← names]
    exact mem_map_of_mem mem
  · intro name some
    have listed := (Registry.mem_byType dist).mpr ⟨rfl, some⟩
    rw [← names] at listed
    obtain ⟨gp, mem, eq⟩ := mem_map.mp listed
    exact ⟨gp, mem, congrArg Prod.fst eq, congrArg Prod.snd eq⟩

namespace Covers

variable (covers : Covers net root groups)
include covers

theorem mem_gone {ref : Ref} : ref ∈ Group.gone groups ↔ ∃ name, ref ∈ net.receivers root name := by
  rw [Group.gone, mem_flatMap]
  constructor
  · rintro ⟨gp, among, mem⟩
    exact ⟨gp.name, (covers.all gp among).1 ▸ mem⟩
  · rintro ⟨name, mem⟩
    obtain ⟨gp, among, -, eq⟩ := covers.complete name (ne_nil_of_mem mem)
    exact ⟨gp, among, eq ▸ mem⟩

theorem eq_of_name {group other : Group} (mem : group ∈ groups) (isIn : other ∈ groups)
    (eq : other.name = group.name) : other = group :=
  inj_on_of_nodup_map covers.names isIn mem eq

theorem filter_name {gp : Group} (mem : gp ∈ groups) : groups.filter (·.name = gp.name) = [gp] := by
  rw [← perm_singleton, perm_ext_iff_of_nodup (covers.names.of_map.filter _) (nodup_singleton gp)]
  intro other
  rw [mem_filter, mem_singleton]
  constructor
  · rintro ⟨isIn, eq⟩
    exact covers.eq_of_name mem isIn (of_decide_eq_true eq)
  · rintro rfl
    exact ⟨mem, decide_eq_true rfl⟩

theorem filter_none (none : net.receivers root name = []) : groups.filter (·.name = name) = [] := by
  rw [filter_eq_nil_iff]
  intro gp mem same
  obtain ⟨eq, some⟩ := covers.all gp mem
  rw [of_decide_eq_true same, none] at eq
  exact some eq

theorem exists_single : ∃ one : Name → Ref, ∀ gp ∈ groups, gp.single = one gp.name := by
  have named : ∀ name, ∃ ref, ∀ gp ∈ groups, gp.name = name → gp.single = ref := by
    intro name
    by_cases some : ∃ gp ∈ groups, gp.name = name
    · obtain ⟨gp, mem, rfl⟩ := some
      exact ⟨gp.single, fun other isIn eq => by rw [covers.eq_of_name mem isIn eq]⟩
    · exact ⟨0, fun gp mem eq => absurd ⟨gp, mem, eq⟩ some⟩
  choose one isSingle using named
  exact ⟨one, fun gp mem => isSingle gp.name gp mem rfl⟩

end Covers

end Net

namespace Build

open Net

variable {net last : Net} {root : Ref}

theorem yields_groupReceivers (posted : net.Posted root) :
    Yields (groupReceivers root) net fun _ last => ∃ groups, Merged net root groups last ∧
      groups.map (fun gp => (gp.name, gp.receivers)) =
        (net.node root).body.registry.byType net.view.typeOf "__receive" := by
  unfold groupReceivers
  have read : (get : Build Net).run net = .ok net net := rfl
  refine Guarded.bind_run read ?_
  have dist : (((net.node root).body.registry.byType net.view.typeOf "__receive").map
      Prod.fst).Nodup := Registry.keys_byType_sublist.nodup posted.names
  refine Guarded.bind (Guarded.forIn (fun done _ cur => ∃ groups,
    Merged net root groups cur ∧
      groups.map (fun gp => (gp.name, gp.receivers)) = done) ⟨[], .refl net root, rfl⟩ ?_)
    fun _ last done => .pure done
  rintro done ⟨name, rs⟩ rest _ cur split ⟨groups, merged, names⟩
  rw [split, map_append, map_cons] at dist
  have listed : (name, rs) ∈
      (net.node root).body.registry.byType net.view.typeOf "__receive" := by
    rw [split]
    simp
  obtain ⟨isAll, some⟩ := (Registry.mem_byType posted.names).mp listed
  have all : ∀ receiver ∈ rs, net.Receiver root name receiver := by
    intro receiver mem
    rw [isAll] at mem
    exact posted.receivers name receiver mem
  have left : ∀ receiver ∈ rs, receiver ∉ Group.gone groups := by
    intro receiver mem before
    obtain ⟨gp, among, isIn⟩ := mem_flatMap.mp before
    have pre : (gp.name, gp.receivers) ∈ done := names ▸ mem_map_of_mem among
    have isGroup := ((Registry.mem_byType posted.names).mp (split ▸ mem_append_left _ pre)).1
    rw [isGroup] at isIn
    have eq := (all receiver mem).name_eq (posted.receivers gp.name receiver isIn)
    rw [nodup_append'] at dist
    refine dist.2.2 (mem_map_of_mem pre) ?_
    rw [← eq]
    exact mem_cons_self
  have lt : root < cur.size := by
    rw [merged.size]
    exact posted.inside.trans_le (Nat.le_add_right _ _)
  have top : (cur.node root).parent = none := by
    change (cur.node root).core.parent = none
    rw [merged.core root posted.inside]
    exact posted.top
  have once : rs.Nodup := by
    rw [isAll]
    exact posted.nodup name
  apply Guarded.bind (yields_groupName top lt some once fun receiver mem =>
    merged.others name receiver (all receiver mem) (left receiver mem))
  rintro _ last ⟨ord, grp⟩
  refine .pure ⟨_, rfl, _, merged.snoc all left grp, ?_⟩
  rw [map_append, names]
  rfl

/-- Control receivers of one name are merged without losing or reordering what they send. -/
theorem receivers_one_each (posted : net.Posted root)
    (done : (groupReceivers root).run net = .ok () last) :
    ∃ single : Name → Ref, OneEach net root single last := by
  obtain ⟨groups, merged, names⟩ := Guarded.of_ok (yields_groupReceivers posted) done
  have covers := Covers.of_byType posted.names names
  obtain ⟨single, isSingle⟩ := covers.exists_single
  refine ⟨single, ?_, ?_, ?_, ?_, ?_⟩
  · intro name
    rw [merged.receivers_eq posted.known name fun receiver there =>
      covers.mem_gone.mpr ⟨name, there⟩]
    split
    · next none => rw [covers.filter_none none, map_nil]
    · next some =>
        obtain ⟨group, among, rfl, -⟩ := covers.complete name some
        rw [covers.filter_name among, map_singleton, isSingle group among]
  · exact fun name receiver there => merged.absent (covers.mem_gone.mpr ⟨name, there⟩)
      (posted.receivers name receiver there).lt_size
  · intro name some
    obtain ⟨group, among, rfl, equal⟩ := covers.complete name some
    rw [← isSingle group among, ← equal]
    exact ⟨group.ordered, merged.sorted group among, merged.held_single_outlet among⟩
  · intro name some ref slot
    obtain ⟨group, among, rfl, equal⟩ := covers.complete name some
    rw [← isSingle group among, ← equal]
    refine merged.perm_single_inlet posted.wires among ?_ ?_ ref slot
    · rw [equal]
      exact posted.nodup group.name
    · rw [equal]
      exact posted.receivers group.name
  · refine merged.spares.mono fun wire touched => ?_
    rcases touched with gone | ⟨group, among, source⟩
    · obtain ⟨name, there⟩ := covers.mem_gone.mp gone
      exact ⟨name, ne_nil_of_mem there, .inl there⟩
    · obtain ⟨equal, some⟩ := covers.all group among
      exact ⟨group.name, equal ▸ some, .inr (source.trans (isSingle group among))⟩

end Build

namespace Tuning

def receive (identity : Nat) (parent : Ref) (priority : Int) (wires : List Wire) : Node :=
  { type := "__receive", kind := .plain, identity, parent := some parent
    arguments := [("name", .text "tune"), ("extern", .null), ("attributes", .record []),
      ("priority", .int priority)]
    annotations := [("scope", .text "public")]
    outlets := [wires] }

def heard (source target : Ref) : Wire :=
  ⟨source, 0, target, 0, .control⟩

/-- Three receivers at two depths, one of them more urgent than the others, one with two equal
wires. -/
def start : Net where
  nodes := #[
    { type := "graph", kind := .graph, identity := 0
      body := { objects := [(.own 1, 1), (.own 2, 2), (.own 3, 3), (.own 7, 7)]
                registry := ⟨[(.word "tune", [1, 4, 5])]⟩ } },
    receive 1 0 0 [heard 1 3, heard 1 3],
    { type := "graph", kind := .graph, identity := 2, parent := some 0
      body := { objects := [(.own 4, 4), (.own 5, 5), (.own 6, 6)] } },
    .wired "__print" 3 0 [[heard 1 3, heard 7 3, heard 1 3]] [],
    receive 4 2 5 [heard 4 6],
    receive 5 2 0 [heard 5 6],
    .wired "__print" 6 2 [[heard 5 6, heard 4 6]] [],
    .wired "__add" 7 0 [[], []] [[heard 7 3]]]

theorem exists_held_of_timesNoted (noted : start.timesNoted s w ≠ 0) :
    ∃ slot, w ∈ start.held s (w.object s) slot := by
  rw [Net.timesNoted] at noted
  split at noted
  · exact absurd rfl noted
  · next slot _ => exact ⟨slot, count_pos_iff.mp (Nat.pos_of_ne_zero noted)⟩

theorem registered {g o : Ref} {name : Name} (listed : o ∈ (start.node g).body.registry.get name) :
    g = 0 ∧ name = .word "tune" ∧ o ∈ [1, 4, 5] := by
  have some := ne_nil_of_mem listed
  have small : ∀ g < 8, ∀ entry ∈ (start.node g).body.registry.entries,
      g = 0 ∧ entry = (.word "tune", [1, 4, 5]) := by decide
  have low : g < start.size := Net.lt_size_of_look (fun n => n.body.registry.get name) some
  obtain ⟨isRoot, entry⟩ := small g low _ (Registry.mem_entries_of_get some)
  obtain ⟨rfl, held⟩ := Prod.mk.inj entry
  exact ⟨isRoot, rfl, held ▸ listed⟩

theorem isReceiver {r : Ref} (among : r ∈ [1, 4, 5]) : start.Receiver 0 (.word "tune") r := by
  have checked : ∀ r ∈ [1, 4, 5], ((start.node r).lets .inlet).length = 0 ∧
      ((start.node r).lets .outlet).length = 1 ∧ [1, 4, 5].count r = 1 ∧
      (∃ g < 8, (start.node r).parent = some g ∧ start.root g = 0 ∧
        ∀ other < 8, (start.contents other).count r = if other = g then 1 else 0) ∧
      (∀ j < ((start.node r).lets .outlet).length, ∀ wire ∈ start.held .outlet r j,
        wire.source = r) ∧
      ∀ s ∈ Side.both, ∀ ref < 8, ∀ j < ((start.node ref).lets s).length,
        ∀ wire ∈ start.held s ref j, wire.source = r → start.Meets s ref j wire ∧
          start.timesNoted .outlet wire = start.timesNoted .inlet wire := by decide
  obtain ⟨ins, outs, enrolled, ⟨g, inside, up, top, once⟩, own, wires⟩ := checked r among
  have looks : (start.node r).type = "__receive" ∧ (start.node r).scope = .text "public" ∧
      start.nameIs r (.word "tune") := by
    simp only [mem_cons, not_mem_nil, or_false] at among
    rcases among with rfl | rfl | rfl <;> exact ⟨rfl, rfl, rfl⟩
  have each : ∀ s ref j, ∀ wire ∈ start.held s ref j, wire.source = r →
      start.Meets s ref j wire ∧ start.timesNoted .outlet wire = start.timesNoted .inlet wire := by
    intro s ref j wire mem
    obtain ⟨lt, bd⟩ := Net.lt_of_mem_held mem
    exact wires s s.mem_both ref lt j bd wire mem
  refine ⟨looks.1, looks.2.1, looks.2.2, ins, outs, ⟨g, up, top, ?_, ?_⟩, enrolled, ?_, ?_, ?_, ?_⟩
  · rw [once g inside, if_pos rfl]
  · intro other ne inside
    have some := count_pos_iff.mpr inside
    rw [once other (Net.lt_size_of_mem_contents inside), if_neg ne] at some
    cases some
  · exact fun i other listed => ⟨(registered listed).1, (registered listed).2.1⟩
  · exact fun j wire mem => own j (Net.lt_of_mem_held mem).2 wire mem
  · exact fun s ref j wire mem src => (each s ref j wire mem src).1
  · intro wire src
    by_cases out : start.timesNoted .outlet wire = 0
    · by_cases inlet : start.timesNoted .inlet wire = 0
      · rw [out, inlet]
      · obtain ⟨j, mem⟩ := exists_held_of_timesNoted inlet
        exact (each _ _ j wire mem src).2
    · obtain ⟨j, mem⟩ := exists_held_of_timesNoted out
      exact (each _ _ j wire mem src).2

theorem posted : start.Posted 0 := by
  refine ⟨by decide, by decide, by decide, ?_, ?_, ?_⟩
  · intro name o listed
    have small : ∀ o ∈ [1, 4, 5], o < start.size := by decide
    exact small o (registered listed).2.2
  · intro s ref j w mem
    have all : ∀ s ∈ Side.both, ∀ ref < 8, ∀ j < ((start.node ref).lets s).length,
      ∀ w ∈ start.held s ref j, w.source < 8 := by decide
    obtain ⟨lt, bd⟩ := Net.lt_of_mem_held mem
    exact all s s.mem_both ref lt j bd w mem
  · intro name r among
    obtain ⟨-, rfl, mem⟩ := registered (mem_of_mem_filter among)
    exact isReceiver mem

/-- The receiver that is left has the wires of the urgent one first. -/
theorem receivers_one_each_tune : start.Posted 0 ∧ (∃ single : Name → Ref,
      start.OneEach 0 single ((Build.groupReceivers 0).netAfter start)) ∧
    ((Build.groupReceivers 0).netAfter start).held .outlet 8 0 =
      [heard 8 6, heard 8 3, heard 8 3, heard 8 6] := by
  obtain ⟨_, run⟩ := Build.run_of_finishes
    (show (Build.groupReceivers 0).finishes start = true by decide +kernel)
  exact ⟨posted, Build.receivers_one_each posted run, by decide +kernel⟩

end Tuning

end PatchCompiler
