import PatchCompiler.Proofs.Passage

/-!
# Down into the graphs

Buffering goes into the graphs that process signals and leaves out the others. When it is over, every
level that it has been in is settled: each outlet has the buffer that is passed on to it, one of the
pool, or the one it had before.
-/

namespace PatchCompiler.Net

open List Relation

variable {inner : Ref} {i : Nat} {src : Ref × Nat} {mid : Net}

/-- Buffering goes from a graph into the graphs in it that process signals. -/
def Opens (net : Net) (g inner : Ref) : Prop :=
  net.Contains g inner ∧ (net.node inner).isGraph = true ∧ net.Processes inner

def Reached (net : Net) (g inner : Ref) : Prop :=
  ReflTransGen net.Opens g inner

/-- A low-level object that processes signals and has an outlet to be filled. -/
def Filled (net : Net) (o : Ref) (place : Nat) : Prop :=
  (net.node o).isGraph = false ∧ net.Processes o ∧ net.isOpen o place = true

/-- What the buffer at an outlet is when buffering is over. -/
structure Carries (net : Net) (o : Ref) (place : Nat) (last : Net) : Prop where
  passed : ∀ source, net.Passed source (o, place) →
    ((net.node o).isGraph = true → net.Processes o) →
      last.outletBuffer o place = last.outletBuffer source.1 source.2
  silent : (net.node o).isGraph = true → ¬ net.Processes o → last.outletBuffer o place = .zero
  filled : net.Filled o place → last.outletBuffer o place ≠ .zero
  own : (∀ source, ¬ net.Passed source (o, place)) → ¬ net.Filled o place →
    last.outletBuffer o place = net.outletBuffer o place

/-- The signals that arrive at an object are in the buffers they come from. -/
def Hears (net : Net) (o : Ref) (last : Net) : Prop :=
  ∀ place, ∀ wire ∈ Build.signals ((net.node o).inlets.getD place []), ∀ slot,
    net.FromOutlet wire slot → last.inletBuffer o place = last.outletBuffer wire.source slot

structure Settled (net : Net) (g : Ref) (last : Net) : Prop where
  order : ∀ o, o ∈ last.order g ↔ net.Active g o
  heard : ∀ o, net.Active g o → (net.node o).isGraph = false → net.Hears o last
  carries : ∀ o ∈ net.contents g, ∀ place, net.Carries o place last

structure Idle (net : Net) (g : Ref) (last : Net) : Prop where
  order : last.order g = []
  contents : ∀ o ∈ net.contents g, last.node o = net.node o

/-- An object that buffering has been through, with all that is in it. -/
structure Finished (net : Net) (o : Ref) (last : Net) : Prop where
  heard : (net.node o).isGraph = false → net.Hears o last
  carries : ∀ place, net.Carries o place last
  inner : (net.node o).isGraph = true → ∀ inner, net.Reached o inner → net.Settled inner last
  unreached : ∀ inner, net.Inside o inner → (net.node inner).isGraph = true →
    ¬ net.Reached o inner → net.Idle inner last

/-- What the buffers of an object and of all that is in it depend on. -/
def Scope (net : Net) (o other : Ref) : Prop :=
  net.Within o other ∨ other ∈ net.sources o

theorem Reached.within {net : Net} {g : Ref} (got : net.Reached g inner) : net.Within g inner :=
  ReflTransGen.mono (fun _ _ opens => opens.1) _ _ got

section Frame

variable {net cur last : Net} {root g o : Ref} {touched : Ref → Prop}

theorem Carries.congr (carries : net.Carries o i cur)
    (keeps : Keeps touched cur last) (self : ¬ touched o)
    (pre : ∀ src, net.Passed src (o, i) → ¬ touched src.1) : net.Carries o i last := by
  have eq := keeps.outletBuffer self i
  refine ⟨?_, ?_, ?_, ?_⟩
  · intro src pass runs
    rw [eq, keeps.outletBuffer (pre src pass)]
    exact carries.passed src pass runs
  · rw [eq]
    exact carries.silent
  · rw [eq]
    exact carries.filled
  · rw [eq]
    exact carries.own

theorem Hears.congr (hears : net.Hears o cur) (keeps : Keeps touched cur last)
    (self : ¬ touched o) (srcs : ∀ src ∈ net.sources o, ¬ touched src) : net.Hears o last := by
  intro i w heard j starts
  have isSrc : w.source ∈ net.sources o := mem_sources (mem_signals.mp heard).1
  rw [keeps.inletBuffer self, keeps.outletBuffer (srcs _ isSrc)]
  exact hears i w heard j starts

theorem Hierarchy.source_contained (tree : net.Hierarchy root) (sub : net.Within root g)
    (mem : net.Contains g o) {source : Ref} (isSrc : source ∈ net.sources o) :
    net.Contains g source :=
  ⟨mem.1, (tree.stratum_of_contains sub mem).wired.source_mem mem.2 isSrc⟩

/-- What is passed on inside an object comes from inside it or from its sources. -/
theorem Hierarchy.scope_of_passed (tree : net.Hierarchy root) (near : net.Within root o)
    (sub : net.Within o g) (mem : net.Contains g inner)
    (pass : net.Passed src (inner, i)) : net.Scope o src.1 := by
  have toGraph : net.Within root g := near.trans sub
  cases pass with
  | into ok _ _ heard _ =>
    cases tree.contains_unique mem ok
    have isSrc := mem_sources (mem_signals.mp heard).1
    rcases sub.cases_tail with rfl | ⟨up, path, inP⟩
    · exact .inr isSrc
    · exact .inl (path.tail (tree.source_contained (near.trans path) inP isSrc))
  | out ok _ _ heard _ =>
    have isSrc := mem_sources (mem_signals.mp heard).1
    have src := tree.source_contained (toGraph.tail mem) ok isSrc
    exact .inl ((sub.tail mem).tail src)

theorem Hierarchy.settled_congr (tree : net.Hierarchy root) (near : net.Within root o)
    (sub : net.Within o g) (settled : net.Settled g cur) (isG : (net.node g).isGraph = true)
    (keeps : Keeps touched cur last) (sep : ∀ y, net.Scope o y → ¬ touched y) :
    net.Settled g last := by
  have toGraph : net.Within root g := near.trans sub
  refine ⟨?_, ?_, ?_⟩
  · rw [keeps.order (sep g (.inl sub))]
    exact settled.order
  · intro inner on plain
    have mem : net.Contains g inner := ⟨isG, on.1⟩
    refine (settled.heard inner on plain).congr keeps (sep inner (.inl (sub.tail mem))) ?_
    intro src isSrc
    exact sep src (.inl (sub.tail (tree.source_contained toGraph mem isSrc)))
  · intro inner inC i
    have mem : net.Contains g inner := ⟨isG, inC⟩
    refine (settled.carries inner inC i).congr keeps (sep inner (.inl (sub.tail mem))) ?_
    intro src pass
    exact sep src.1 (tree.scope_of_passed near sub mem pass)

theorem Idle.congr (idle : net.Idle g cur) (isG : (net.node g).isGraph = true)
    (keeps : Keeps touched cur last) (sep : ∀ y, net.Within g y → ¬ touched y) :
    net.Idle g last := by
  refine ⟨?_, fun o mem => ?_⟩
  · rw [keeps.order (sep g .refl)]
    exact idle.order
  · rw [keeps o (sep o (.single ⟨isG, mem⟩))]
    exact idle.contents o mem

theorem Hierarchy.not_inlet_of_processes (tree : net.Hierarchy root)
    (sub : net.Within root g) (mem : net.Contains g o)
    (runs : net.Processes o) : (net.node o).kind ≠ .inlet := by
  intro kind
  obtain ⟨spec, isO⟩ := (tree.stratum_of_contains sub mem).objects o mem.2
    (not_isGraph_of_inlet kind)
  exact isO.notInlet (isO.signal_of_processes runs) kind

/-- What is passed on to an object that processes signals comes from inside it. -/
theorem Hierarchy.contains_of_passed (tree : net.Hierarchy root) (sub : net.Within root g)
    (mem : net.Contains g o) (runs : net.Processes o)
    (pass : net.Passed src (o, i)) : net.Contains o src.1 := by
  cases pass with
  | into _ kind _ _ _ =>
    exact absurd kind (tree.not_inlet_of_processes sub mem runs)
  | out ok _ _ heard _ =>
    exact tree.source_contained (sub.tail mem) ok (mem_sources (mem_signals.mp heard).1)

theorem Hierarchy.finished_congr (tree : net.Hierarchy root) (within : net.Within root g)
    (on : net.Active g o) (isG : (net.node g).isGraph = true)
    (fin : net.Finished o cur) (keeps : Keeps touched cur last)
    (sep : ∀ y, net.Scope o y → ¬ touched y) : net.Finished o last := by
  have mem : net.Contains g o := ⟨isG, on.1⟩
  refine ⟨?_, ?_, ?_, ?_⟩
  · intro plain
    exact (fin.heard plain).congr keeps (sep o (.inl .refl)) fun src isSrc =>
      sep src (.inr isSrc)
  · intro i
    refine (fin.carries i).congr keeps (sep o (.inl .refl)) fun src pass => ?_
    exact sep src.1 (.inl (.single (tree.contains_of_passed within mem on.2 pass)))
  · intro isG sub got
    have innerGraph : (net.node sub).isGraph = true := by
      rcases got.cases_tail with rfl | ⟨_, _, opens⟩
      · exact isG
      · exact opens.2.1
    exact tree.settled_congr (within.tail mem) got.within
      (fin.inner isG sub got) innerGraph keeps sep
  · intro sub inI isG unreached
    refine (fin.unreached sub inI isG unreached).congr isG keeps ?_
    exact fun y path => sep y (.inl (inI.to_reflTransGen.trans path))

end Frame

section Level

variable {net cur begun last : Net} {root g o : Ref} {done rest : List Ref}

/-- A graph that buffering has not come to yet. -/
structure Untouched (net : Net) (g : Ref) (cur : Net) : Prop where
  inner : ∀ o, net.Inside g o → cur.node o = net.node o
  blank : ∀ place, cur.outletBuffer g place = .zero

/-- A level whose inlet objects have their buffers, before its objects are gone through. -/
structure Begun (net : Net) (g : Ref) (cur begun : Net) : Prop where
  scheduled : net.Scheduled g (begun.order g)
  keeps : Keeps (net.Within g) cur begun
  blank : ∀ place, begun.outletBuffer g place = .zero
  inner : ∀ o, net.Inside g o → o ∉ net.contents g → begun.node o = net.node o
  orders : ∀ o ∈ net.contents g, (net.node o).isGraph = true → begun.order o = []
  passed : ∀ o ∈ net.contents g, (net.node o).isGraph = false → ∀ place source,
    net.Passed source (o, place) → begun.outletBuffer o place = begun.outletBuffer source.1 source.2
  own : ∀ o ∈ net.contents g, ∀ place, ((net.node o).isGraph = true ∨
    ∀ source, ¬ net.Passed source (o, place)) →
      begun.outletBuffer o place = net.outletBuffer o place

/-- The state when some objects of a level have been gone through. -/
structure Amid (net : Net) (root : Ref) (begun : Net) (done : List Ref) (middle : Net) : Prop where
  supplied : net.Supplied root middle
  keeps : Keeps (fun other => ∃ o ∈ done, net.Within o other) begun middle
  finished : ∀ o ∈ done, net.Finished o middle

/-- What buffering has done when it comes out of a graph again. -/
structure Descended (net : Net) (root g : Ref) (cur last : Net) : Prop where
  supplied : net.Supplied root last
  keeps : Keeps (net.Within g) cur last
  passed : ∀ place source, net.Passed source (g, place) →
    last.outletBuffer g place = last.outletBuffer source.1 source.2
  own : ∀ place, (∀ source, ¬ net.Passed source (g, place)) → last.outletBuffer g place = .zero
  inner : ∀ inner, net.Reached g inner → net.Settled inner last
  unreached : ∀ inner, net.Inside g inner → (net.node inner).isGraph = true →
    ¬ net.Reached g inner → net.Idle inner last

theorem Supplied.sequenced (fed : net.Supplied root cur)
    (seq : net.Sequenced g cur last) : net.Supplied root last where
  alike := seq.alike
  fits := by
    intro o fits
    rw [Fits, seq.inletBuffers, seq.outletBuffers, seq.alike.inlets,
      seq.alike.outlets, ← fed.alike.inlets, ← fed.alike.outlets]
    exact fed.fits o fits
  sound := seq.pool ▸ fed.sound
  held := by
    intro o i sub ws
    rw [seq.pool, outletBuffer, seq.outletBuffers]
    exact fed.held o i sub ws

section

variable (tree : net.Hierarchy root) (sub : net.Within root g)
include tree sub

theorem Hierarchy.source_outside
    {source : Ref} (isSrc : source ∈ net.sources g) : ¬ net.Within g source := by
  obtain ⟨w, incoming, rfl⟩ := mem_map.mp isSrc
  obtain ⟨i, arr⟩ := mem_flatten_iff.mp incoming
  obtain ⟨up, near, inP⟩ := tree.parent_of_arrives sub arr
  have tier := tree.stratum_of_contains near inP
  have off : w.source ≠ g := by
    intro eq
    exact tier.acyclic g inP.2 (.single (eq ▸ isSrc))
  exact tree.not_within_sibling near inP (tree.source_contained near inP isSrc) off

theorem Hierarchy.begins (isG : (net.node g).isGraph = true) {ord : Net}
    (rest : net.Untouched g cur) (seq : net.Sequenced g cur ord)
    (enters : net.Enters root g (List.range (net.node g).inlets.length) ord begun) :
    net.Begun g cur begun := by
  have tier := tree.strata g sub isG
  have mem : ∀ o ∈ net.contents g, net.Contains g o := fun _ there =>
    ⟨isG, there⟩
  have notInlet : ¬ (net.Contains g g ∧ (net.node g).kind = .inlet) := fun both =>
    tree.not_contains_self sub both.1
  have new : ∀ o ∈ net.contents g, ∀ place,
      ord.outletBuffer o place = net.outletBuffer o place := by
    intro o there place
    rw [outletBuffer, seq.outletBuffers, rest.inner o (.single (mem _ there))]
    rfl
  refine ⟨?_, ?_, ?_, ?_, ?_, ?_, ?_⟩
  · rw [enters.keeps.order notInlet]
    exact seq.scheduled
  · refine (seq.keeps.mono ?_).trans (enters.keeps.mono fun _ both => .single both.1)
    rintro ref (rfl | there)
    · exact .refl
    · exact .single (mem ref there)
  · intro place
    rw [enters.keeps.outletBuffer notInlet, outletBuffer, seq.outletBuffers]
    exact rest.blank place
  · intro o inObj outside
    rw [enters.keeps o fun both => outside both.1.2, seq.keeps o,
      rest.inner o inObj]
    rintro (rfl | there)
    · exact tree.not_inside_itself sub inObj
    · exact outside there
  · intro o there objectGraph
    have notInlet : ¬ (net.Contains g o ∧ (net.node o).kind = .inlet) := fun both =>
      absurd (objectGraph.symm.trans (not_isGraph_of_inlet both.2)) (by simp)
    have off : o ≠ g := by
      rintro rfl
      exact tree.not_contains_self sub (mem _ there)
    rw [enters.keeps.order notInlet, seq.orders o off, order, rest.inner o (.single (mem _ there))]
    exact (tree.strata o (sub.tail (mem _ there)) objectGraph).unordered
  · intro o there plain place src pass
    cases pass with
    | into ok kind k heard starts =>
      cases tree.contains_unique ok (mem _ there)
      have arr := (mem_signals.mp heard).1
      have lt := mem_range.mpr (lt_length_of_mem_getD arr)
      rw [enters.passed _ lt o there kind k _ heard _ starts]
      -- the source is outside the graph
      refine (enters.keeps.outletBuffer ?_ _).symm
      rintro ⟨inGraph, _⟩
      exact tree.source_outside sub (mem_sources arr) (.single inGraph)
    | out ok _ _ _ _ => exact absurd (ok.1.symm.trans plain) (by simp)
  · intro o there place free
    rw [← new o there]
    by_cases kind : (net.node o).kind = .inlet
    · have none := free.resolve_left (by simp [not_isGraph_of_inlet kind])
      obtain ⟨k, isIndex, _⟩ := (tier.inletObjects o there kind).listed
      apply enters.others o k place isIndex
      right
      rw [or_iff_not_imp_left, not_not]
      rintro rfl
      rw [eq_nil_iff_forall_not_mem]
      intro w heard
      have arr := (mem_signals.mp heard).1
      obtain ⟨up, near, inP⟩ := tree.parent_of_arrives sub arr
      obtain ⟨_, _, j, facts⟩ := enters.supplied.arrives tree near inP arr
      exact none _ (.into (mem _ there) kind isIndex heard facts.starts)
    · exact enters.keeps.outletBuffer (fun both => kind both.2) place

/-- One more object of a level is finished, and the earlier ones do not depend on it. -/
theorem Amid.next (isG : (net.node g).isGraph = true) (plan : net.Scheduled g (done ++ o :: rest))
    (amid : net.Amid root begun done mid) (fed : net.Supplied root last)
    (keeps : Keeps (net.Within o) mid last) (fin : net.Finished o last) :
    net.Amid root begun (done ++ [o]) last := by
  have on : ∀ other ∈ done ++ o :: rest, net.Active g other := fun other ord =>
    (plan.mem other).mp ord
  have activeObject := on o (by simp)
  have inObj : net.Contains g o := ⟨isG, activeObject.1⟩
  refine ⟨fed, ?_, ?_⟩
  · refine (amid.keeps.mono ?_).trans (keeps.mono ?_)
    · rintro other ⟨pre, inD, path⟩
      exact ⟨pre, mem_append_left _ inD, path⟩
    · exact fun other path => ⟨o, by simp, path⟩
  · intro other hm
    rcases mem_append.mp hm with inD | here
    · have activeOther := on other (mem_append_left _ inD)
      have inOther : net.Contains g other := ⟨isG, activeOther.1⟩
      have ne : other ≠ o := by
        rintro rfl
        exact disjoint_of_nodup_append plan.nodup inD mem_cons_self
      refine tree.finished_congr sub activeOther isG (amid.finished other inD) keeps ?_
      rintro inner (path | isSource)
      · exact tree.apart sub inOther inObj ne.symm path
      · -- a source comes earlier than the object that reads it
        have src := tree.source_contained sub inOther isSource
        refine tree.not_within_sibling sub inObj src ?_
        rintro rfl
        have forward := plan.forward inner other activeObject activeOther isSource
        have early := idxOf_lt_of_mem inD (inner :: rest)
        have i := idxOf_middle plan.nodup
        omega
    · rw [mem_singleton.mp here]
      exact fin

theorem Descended.finished (runs : net.Processes g) (isG : (net.node g).isGraph = true)
    (descended : net.Descended root g cur last) : net.Finished g last := by
  have notFilled : ∀ place, ¬ net.Filled g place := by
    intro place filled
    exact nomatch isG.symm.trans filled.1
  refine ⟨?_, fun place => ⟨?_, ?_, ?_, ?_⟩, fun _ => descended.inner, descended.unreached⟩
  · intro plain
    exact nomatch isG.symm.trans plain
  · exact fun src pass _ => descended.passed place src pass
  · exact fun _ mute => absurd runs mute
  · exact fun filled => absurd filled (notFilled place)
  · intro none _
    rw [(tree.strata g sub isG).blank]
    exact descended.own place none

theorem Served.finished (mem : net.Contains g o) (runs : net.Processes o)
    (plain : (net.node o).isGraph = false) (served : net.Served o last) : net.Finished o last := by
  have none : ∀ i src, ¬ net.Passed src (o, i) := by
    intro i src pass
    have ok := tree.contains_of_passed sub mem runs pass
    exact nomatch ok.1.symm.trans plain
  refine ⟨fun _ => served.heard, fun i => ⟨?_, ?_, ?_, ?_⟩, ?_, ?_⟩
  · exact fun src pass => absurd pass (none i src)
  · exact fun isG => nomatch isG.symm.trans plain
  · exact fun filled => served.pooled i filled.2.2
  · intro _ notFilled
    apply served.closed
    rw [← Bool.not_eq_true]
    exact fun isOpen => notFilled ⟨plain, runs, isOpen⟩
  · exact fun isG => nomatch isG.symm.trans plain
  · intro inner inI
    obtain ⟨_, ok, _⟩ := TransGen.head'_iff.mp inI
    exact nomatch ok.1.symm.trans plain

theorem Hierarchy.not_mem_contents (mem : net.Contains g o) (path : net.Inside o inner) :
    inner ∉ net.contents g := by
  intro hm
  have inGraph : net.Contains g inner := ⟨mem.1, hm⟩
  by_cases eq : inner = o
  · exact tree.not_inside_itself (sub.tail mem) (eq ▸ path)
  · exact tree.not_within_sibling sub mem inGraph eq path.to_reflTransGen

theorem Amid.untouched (isG : (net.node g).isGraph = true)
    (plan : net.Scheduled g (done ++ o :: rest))
    (lvl : net.Begun g cur begun) (amid : net.Amid root begun done mid) :
    (∀ i, mid.outletBuffer o i = begun.outletBuffer o i) ∧
      ∀ inner, net.Inside o inner → mid.node inner = net.node inner := by
  have on := (plan.mem o).mp (by simp)
  have inObj : net.Contains g o := ⟨isG, on.1⟩
  have sep : ∀ inner, net.Within o inner → ¬ ∃ other ∈ done, net.Within other inner := by
    rintro inner path ⟨other, inD, path'⟩
    have inOther : net.Contains g other := ⟨isG, ((plan.mem other).mp (mem_append_left _ inD)).1⟩
    refine tree.apart sub inObj inOther ?_ path path'
    rintro rfl
    exact disjoint_of_nodup_append plan.nodup inD mem_cons_self
  refine ⟨fun i => amid.keeps.outletBuffer (sep o .refl) i, fun inner path => ?_⟩
  rw [amid.keeps inner (sep inner path.to_reflTransGen)]
  exact lvl.inner inner (.head inObj path) (tree.not_mem_contents sub inObj path)

theorem Hierarchy.outside_of_passed (mem : net.Contains g o) (plain : (net.node o).isGraph = false)
    (pass : net.Passed src (o, i)) : ¬ net.Within g src.1 := by
  cases pass with
  | into ok _ _ heard _ =>
    cases tree.contains_unique ok mem
    exact tree.source_outside sub (mem_sources (mem_signals.mp heard).1)
  | out ok _ _ _ _ => exact nomatch ok.1.symm.trans plain

/-- Objects that do not process signals have the buffers they had before their level was gone
through. -/
theorem Begun.idle (lvl : net.Begun g cur begun) (mem : net.Contains g o) (idle : ¬ net.Processes o)
    (eq : ∀ i, last.outletBuffer o i = begun.outletBuffer o i) (out : ∀ y, ¬ net.Within g y → ∀ i,
      last.outletBuffer y i = begun.outletBuffer y i) (i : Nat) : net.Carries o i last := by
  refine ⟨?_, ?_, ?_, ?_⟩
  · intro src pass runs
    have plain : (net.node o).isGraph = false := by
      rw [← Bool.not_eq_true]
      exact fun isG => idle (runs isG)
    rw [eq, lvl.passed o mem.2 plain i src pass]
    exact (out _ (tree.outside_of_passed sub mem plain pass) _).symm
  · intro isG _
    rw [eq, lvl.own o mem.2 i (.inl isG)]
    exact (tree.strata o (sub.tail mem) isG).blank i
  · exact fun filled => absurd filled.2.1 idle
  · intro none _
    rw [eq, lvl.own o mem.2 i (.inr none)]

/-- A level is settled when all its objects have been gone through and its outlets have their
buffers. -/
theorem Begun.settled (lvl : net.Begun g cur begun) (isG : (net.node g).isGraph = true)
    (amid : net.Amid root begun (begun.order g) mid)
    (keeps : Keeps (· = g) mid last) (order : last.order g = mid.order g) : net.Settled g last := by
  have inC : ∀ o, net.Inside g o → o ≠ g := by
    rintro o hm rfl
    exact tree.not_inside_itself sub hm
  have on : ∀ o ∈ begun.order g, net.Active g o := fun o ord =>
    (lvl.scheduled.mem o).mp ord
  have sep : ∀ other, ¬ net.Inside g other → ¬ ∃ o ∈ begun.order g, net.Within o other := by
    rintro other out ⟨o, ord, path⟩
    exact out (.head' ⟨isG, (on o ord).1⟩ path)
  refine ⟨?_, ?_, ?_⟩
  · rw [order, amid.keeps.order (sep g (tree.not_inside_itself sub))]
    exact lvl.scheduled.mem
  · intro o isActive plain
    have hm : net.Contains g o := ⟨isG, isActive.1⟩
    have fin := amid.finished o ((lvl.scheduled.mem o).mpr isActive)
    refine (fin.heard plain).congr keeps (inC o (.single hm)) ?_
    intro src isSrc
    exact inC src (.single (tree.source_contained sub hm isSrc))
  · intro o hin i
    have hm : net.Contains g o := ⟨isG, hin⟩
    by_cases runs : net.Processes o
    · have fin := amid.finished o ((lvl.scheduled.mem o).mpr ⟨hin, runs⟩)
      refine (fin.carries i).congr keeps (inC o (.single hm)) ?_
      intro src pass
      exact inC src.1 (.head hm (.single (tree.contains_of_passed sub hm runs pass)))
    · refine lvl.idle tree sub hm runs ?_ ?_ i
      · intro i
        rw [keeps.outletBuffer (inC o (.single hm)), amid.keeps.outletBuffer]
        rintro ⟨other, ord, path⟩
        refine tree.not_within_sibling sub ⟨isG, (on other ord).1⟩ hm ?_ path
        rintro rfl
        exact runs (on o ord).2
      · intro other out i
        rw [keeps.outletBuffer, amid.keeps.outletBuffer]
        · exact sep other fun inInside => out inInside.to_reflTransGen
        · rintro rfl
          exact out .refl

theorem Begun.unreached (lvl : net.Begun g cur begun)
    (amid : net.Amid root begun (begun.order g) mid)
    (inI : net.Inside g inner) (isG : (net.node inner).isGraph = true)
    (unreached : ¬ net.Reached g inner) : net.Idle inner mid := by
  obtain ⟨o, hm, path⟩ := TransGen.head'_iff.mp inI
  by_cases runs : net.Processes o
  · have fin := amid.finished o ((lvl.scheduled.mem o).mpr ⟨hm.2, runs⟩)
    rcases reflTransGen_iff_eq_or_transGen.mp path with rfl | inObject
    · exact absurd (.single ⟨hm, isG, runs⟩) unreached
    · refine fin.unreached inner inObject isG fun got => unreached (.head ?_ got)
      obtain ⟨_, ok, _⟩ := TransGen.head'_iff.mp inObject
      exact ⟨hm, ok.1, runs⟩
  · -- nothing in the object has been gone through
    have kept : ∀ other, net.Within o other → mid.node other = begun.node other := by
      intro other path
      apply amid.keeps
      rintro ⟨pre, ord, path'⟩
      have on := (lvl.scheduled.mem pre).mp ord
      refine tree.apart sub hm ⟨hm.1, on.1⟩ ?_ path path'
      rintro rfl
      exact runs on.2
    have new : ∀ other, net.Inside o other → mid.node other = net.node other := by
      intro other inOther
      rw [kept other inOther.to_reflTransGen]
      exact lvl.inner other (.head hm inOther) (tree.not_mem_contents sub hm inOther)
    refine ⟨?_, fun other hin => new other (.tail' path ⟨isG, hin⟩)⟩
    rcases reflTransGen_iff_eq_or_transGen.mp path with rfl | inObject
    · rw [order, kept inner .refl]
      exact lvl.orders inner hm.2 isG
    · rw [order, new inner inObject]
      exact (tree.strata inner (sub.trans inI.to_reflTransGen) isG).unordered

theorem Begun.descended (lvl : net.Begun g cur begun) (isG : (net.node g).isGraph = true)
    (amid : net.Amid root begun (begun.order g) mid)
    (exits : net.Exits root g (List.range (net.node g).body.outletObjects.length) mid
      last) : net.Descended root g cur last := by
  have tier := tree.strata g sub isG
  have off : ∀ o, net.Inside g o → o ≠ g := by
    rintro o hm rfl
    exact tree.not_inside_itself sub hm
  have on : ∀ o ∈ begun.order g, net.Active g o := fun o ord =>
    (lvl.scheduled.mem o).mp ord
  refine ⟨exits.supplied, ?_, ?_, ?_, ?_, ?_⟩
  · refine (lvl.keeps.trans (amid.keeps.mono ?_)).trans (exits.keeps.mono ?_)
    · rintro inner ⟨o, ord, path⟩
      exact .head ⟨isG, (on o ord).1⟩ path
    · rintro _ rfl
      exact .refl
  · intro i src pass
    cases pass with
    | into _ kind _ _ _ => exact nomatch isG.symm.trans (not_isGraph_of_inlet kind)
    | out ok kind k heard starts =>
      have got := tier.outletAt ok.2 kind k
      have lt := List.mem_range.mpr (List.getElem?_eq_some_iff.mp got).1
      have isSource := mem_sources (mem_signals.mp heard).1
      have hm := tree.source_contained sub ok isSource
      rw [exits.passed i lt _ (tier.outletObjects i _ got) _ heard _ starts,
        exits.keeps.outletBuffer (off _ (.single hm))]
  · intro i none
    rw [exits.others i, amid.keeps.outletBuffer, lvl.blank]
    · rintro ⟨o, ord, path⟩
      exact tree.not_inside_itself sub (.head' ⟨isG, (on o ord).1⟩ path)
    · right
      intro outlet isOut
      rw [eq_nil_iff_forall_not_mem]
      intro w heard
      have ok : net.Contains g outlet := ⟨isG, isOut.inside⟩
      obtain ⟨_, _, j, facts⟩ :=
        exits.supplied.arrives tree sub ok (mem_signals.mp heard).1
      exact none _ (.out ok isOut.kind isOut.index heard facts.starts)
  · intro inner reached
    rcases ReflTransGen.cases_head reached with rfl | ⟨o, opens, path⟩
    · exact lvl.settled tree sub isG amid exits.keeps exits.order
    · have fin := amid.finished o ((lvl.scheduled.mem o).mpr ⟨opens.1.2, opens.2.2⟩)
      have innerGraph : (net.node inner).isGraph = true := by
        rcases ReflTransGen.cases_tail path with rfl | ⟨_, _, last⟩
        · exact opens.2.1
        · exact last.2.1
      refine tree.settled_congr (sub.tail opens.1) (Reached.within path)
        (fin.inner opens.2.1 inner path) innerGraph exits.keeps ?_
      rintro y (hm | isSource)
      · exact off y (.head' opens.1 hm)
      · exact off y (.single (tree.source_contained sub opens.1 isSource))
  · intro inner hm innerGraph unreached
    refine (lvl.unreached tree sub amid hm innerGraph unreached).congr innerGraph exits.keeps ?_
    exact fun o path => off o (hm.trans_left path)

end

open Build in
theorem Hierarchy.ends_assignWithin (tree : net.Hierarchy root) {depth : Nat}
    (sub : net.Within root g) (isG : (net.node g).isGraph = true)
    (deep : net.depth g < depth) (fed : net.Supplied root cur) (kept : net.Untouched g cur) :
    Ends (assignWithin depth g) cur fun _ last => net.Descended root g cur last := by
  induction depth generalizing g cur with
  | zero => omega
  | succ depth ih =>
    have tier := tree.strata g sub isG
    have low := tree.lowered_within sub
    have unplaced : ∀ o ∈ net.contents g, (cur.node o).ordered = false := by
      intro o hm
      rw [kept.inner o (.single ⟨isG, hm⟩)]
      exact tier.unplaced o hm
    obtain ⟨ord, run, seq⟩ := Net.run_orderSignals fed.alike isG
      (fun o hm => low.contents ⟨isG, hm⟩) tier.wired tier.acyclic unplaced
    rw [assignWithin]
    refine .bind_run run ?_
    apply Ends.bind ((fed.sequenced seq).ends_assignInlets tree sub isG)
    intro _ begun enters
    have lvl := tree.begins sub isG kept seq enters
    refine .bind_run (run_node g begun) ?_
    have loop : Ends ((begun.order g).forM fun o => do
        if (← Build.node o).isGraph then assignWithin depth o else assignObject o)
        begun fun _ middle => net.Amid root begun (begun.order g) middle := by
      apply Ends.forM fun done middle => net.Amid root begun done middle
      · exact ⟨enters.supplied, .refl _ _, by simp⟩
      · intro done o rest middle split amid
        have plan := split ▸ lvl.scheduled
        have on := (plan.mem o).mp (by simp)
        have hin : net.Contains g o := ⟨isG, on.1⟩
        have post := amid.untouched tree sub isG plan lvl
        refine .bind_run (run_node o middle) ?_
        rw [amid.supplied.alike.isGraph]
        cases objectGraph : (net.node o).isGraph with
        | true =>
          have near := sub.tail hin
          have blank : ∀ place, middle.outletBuffer o place = .zero := by
            intro place
            rw [post.1, lvl.own o on.1 place (.inl objectGraph)]
            exact (tree.strata o near objectGraph).blank place
          have shallow : net.depth o < depth := by
            have := low.depth_lt hin
            omega
          refine (ih near objectGraph shallow amid.supplied ⟨post.2, blank⟩).mono ?_
          intro _ last descended
          exact amid.next tree sub isG plan descended.supplied descended.keeps
            (descended.finished tree near on.2 objectGraph)
        | false =>
          obtain ⟨spec, isO⟩ := tier.objects o on.1 objectGraph
          have new : ∀ place, middle.outletBuffer o place = net.outletBuffer o place := by
            intro place
            rw [post.1, lvl.own o on.1 place (.inr fun src pass => ?_)]
            have ok := tree.contains_of_passed sub hin on.2 pass
            exact nomatch ok.1.symm.trans objectGraph
          refine (amid.supplied.ends_assignObject tree sub on isO isG new).mono ?_
          rintro _ last ⟨suppliedLast, keeps, served⟩
          refine amid.next tree sub isG plan suppliedLast (keeps.mono ?_)
            (served.finished tree sub hin on.2 objectGraph)
          rintro _ rfl
          exact .refl
    apply Ends.bind loop
    intro _ middle amid
    refine (amid.supplied.ends_assignOutlets tree sub isG).mono ?_
    intro _ last exits
    exact lvl.descended tree sub isG amid exits

end Level

end PatchCompiler.Net
