import Mathlib.Data.List.Induction
import PatchCompiler.Program
import PatchCompiler.Proofs.Merging

/-!
# Names in code

Receivers and tables are listed under names that may stand in code: a name that starts with a digit
gets an underscore in front. The underscore makes `1a` and `_1a` the same, and then only one of the
two is listed. Of receivers the last one counts, of tables the first one.
-/

namespace PatchCompiler

open List

variable {name key : String}

def StartsWithDigit (name : String) : Prop :=
  ∃ c ∈ name.toList.head?, Text.isDecimal c = true

instance (name : String) : Decidable (StartsWithDigit name) :=
  decidable_of_iff (name.toList.head?.any Text.isDecimal = true)
    (by cases first : name.toList.head? <;> simp [StartsWithDigit, first])

theorem codeName_of_digit (digit : StartsWithDigit name) : codeName name = "_" ++ name := by
  obtain ⟨c, first, isDigit⟩ := digit
  unfold codeName
  split
  next d rest letters =>
    rw [letters, head?_cons, Option.mem_some_iff] at first
    rw [first, if_pos isDigit]
  next letters =>
    rw [letters] at first
    cases first

theorem codeName_of_not_digit (no : ¬ StartsWithDigit name) : codeName name = name := by
  unfold codeName
  split
  next d rest letters =>
    rw [if_neg]
    intro isDigit
    exact no ⟨d, by rw [letters]; rfl, isDigit⟩
  next => rfl

/-- Two names are the same in code only if one is the other with an underscore before a digit. -/
theorem codeName_eq_iff {a b : String} : codeName a = codeName b ↔
      a = b ∨ StartsWithDigit a ∧ b = "_" ++ a ∨ StartsWithDigit b ∧ a = "_" ++ b := by
  have underscore (name : String) : ¬ StartsWithDigit ("_" ++ name) := by
    rintro ⟨c, first, isDigit⟩
    have : '_' = c := by simpa using first
    subst this
    exact absurd isDigit (by decide)
  have cancel {x y : String} (eq : "_" ++ x = "_" ++ y) : x = y := by
    simpa using eq
  constructor
  · intro eq
    by_cases first : StartsWithDigit a <;> by_cases snd : StartsWithDigit b
    · rw [codeName_of_digit first, codeName_of_digit snd] at eq
      exact .inl (cancel eq)
    · rw [codeName_of_digit first, codeName_of_not_digit snd] at eq
      exact .inr (.inl ⟨first, eq.symm⟩)
    · rw [codeName_of_not_digit first, codeName_of_digit snd] at eq
      exact .inr (.inr ⟨snd, eq⟩)
    · rw [codeName_of_not_digit first, codeName_of_not_digit snd] at eq
      exact .inl eq
  · rintro (rfl | ⟨digit, rfl⟩ | ⟨digit, rfl⟩)
    · rfl
    · rw [codeName_of_digit digit, codeName_of_not_digit (underscore a)]
    · rw [codeName_of_digit digit, codeName_of_not_digit (underscore b)]

/-- A name that starts with a digit and the same name with an underscore are both in use. -/
def Clash (names : List String) : Prop :=
  ∃ name ∈ names, StartsWithDigit name ∧ "_" ++ name ∈ names

instance (names : List String) : Decidable (Clash names) :=
  decidable_of_iff (names.any fun name => StartsWithDigit name ∧ "_" ++ name ∈ names)
    (by simp [Clash])

theorem nodup_codeName_iff {names : List String} (distinct : names.Nodup) :
    (names.map codeName).Nodup ↔ ¬ Clash names := by
  rw [nodup_map_iff_inj_on distinct]
  constructor
  · rintro injective ⟨name, sub, digit, y⟩
    have eq := injective name sub ("_" ++ name) y
      (codeName_eq_iff.mpr (.inr (.inl ⟨digit, rfl⟩)))
    exact absurd (congrArg String.length eq) (by simp)
  · intro free a sub b mem eq
    rcases codeName_eq_iff.mp eq with eq' | ⟨digit, rfl⟩ | ⟨digit, rfl⟩
    · exact eq'
    · exact absurd ⟨a, sub, digit, mem⟩ free
    · exact absurd ⟨b, mem, digit, sub⟩ free

section Collecting

variable {α : Type} {pairs : List (String × α)}

/-- Later pairs take the place of earlier ones with the same name in code. -/
def lastWins (pairs : List (String × α)) (all : List (String × α)) : List (String × α) :=
  pairs.foldl (fun all pair => setEntry (codeName pair.1) pair.2 all) all

/-- Pairs are passed over if there is one with the same name in code. -/
def firstWins (pairs : List (String × α)) (all : List (String × α)) : List (String × α) :=
  pairs.foldl (fun all pair =>
    if (all.lookup (codeName pair.1)).isSome then all else all ++ [(codeName pair.1, pair.2)]) all

/-- A list by names in code, every name once, with nothing but the given pairs. If no two pairs
have the same name in code all of them are there. -/
structure Collected (pairs all : List (String × α)) : Prop where
  nodup : (all.map Prod.fst).Nodup
  origin : ∀ pair ∈ all, ∃ origin ∈ pairs, pair = (codeName origin.1, origin.2)
  complete : ((pairs.map Prod.fst).map codeName).Nodup →
    all = pairs.map fun pair => (codeName pair.1, pair.2)

theorem keys_setEntry {κ : Type} [DecidableEq κ] (key : κ) (item : α) (all : List (κ × α)) :
    (setEntry key item all).map Prod.fst =
      if key ∈ all.map Prod.fst then all.map Prod.fst else all.map Prod.fst ++ [key] := by
  induction all with
  | nil => simp [setEntry]
  | cons pair rest ih =>
    obtain ⟨name, old⟩ := pair
    by_cases eq : name = key
    · simp [setEntry, eq]
    · have no : key ≠ name := Ne.symm eq
      simp only [setEntry, if_neg eq, map_cons, ih, mem_cons, no, false_or]
      split <;> simp

theorem mem_setEntry {item : α} {all : List (String × α)} {pair : String × α}
    (sub : pair ∈ setEntry key item all) : pair = (key, item) ∨ pair ∈ all := by
  induction all with
  | nil => exact .inl (by simpa [setEntry] using sub)
  | cons first rest ih =>
    obtain ⟨name, old⟩ := first
    by_cases eq : name = key
    · rw [setEntry, if_pos eq, eq] at sub
      exact (mem_cons.mp sub).imp_right (mem_cons_of_mem _)
    · rw [setEntry, if_neg eq] at sub
      rcases mem_cons.mp sub with rfl | later
      · exact .inr mem_cons_self
      · exact (ih later).imp_right (mem_cons_of_mem _)

theorem setEntry_fresh {item : α} {all : List (String × α)}
    (new : key ∉ all.map Prod.fst) : setEntry key item all = all ++ [(key, item)] := by
  induction all with
  | nil => rfl
  | cons pair rest ih =>
    obtain ⟨name, old⟩ := pair
    rw [map_cons, mem_cons, not_or] at new
    rw [setEntry, if_neg (Ne.symm new.1), ih new.2, cons_append]

theorem lookup_isSome_iff {all : List (String × α)} :
    (all.lookup key).isSome ↔ key ∈ all.map Prod.fst := by
  induction all with
  | nil => simp
  | cons pair rest ih =>
    rw [lookup_cons, map_cons, mem_cons]
    by_cases eq : key = pair.1
    · simp [eq]
    · have no : (key == pair.1) = false := by simpa using eq
      rw [no, ih]
      simp [eq]

/-- One more pair is collected if it comes last, takes the place of one of its name, or is left out
for one. -/
theorem Collected.snoc {all next : List (String × α)} {pair : String × α}
    (collected : Collected pairs all)
    (keys : next.map Prod.fst = if codeName pair.1 ∈ all.map Prod.fst then all.map Prod.fst
      else all.map Prod.fst ++ [codeName pair.1])
    (members : ∀ y ∈ next, y = (codeName pair.1, pair.2) ∨ y ∈ all)
    (new : codeName pair.1 ∉ all.map Prod.fst → next = all ++ [(codeName pair.1, pair.2)]) :
    Collected (pairs ++ [pair]) next where
  nodup := by
    rw [keys]
    split
    · exact collected.nodup
    · next absent =>
        rw [← concat_eq_append, nodup_concat]
        exact ⟨absent, collected.nodup⟩
  origin y inside := by
    rcases members y inside with rfl | old
    · exact ⟨pair, by simp, rfl⟩
    · obtain ⟨origin, mem, rfl⟩ := collected.origin y old
      exact ⟨origin, mem_append_left _ mem, rfl⟩
  complete distinct := by
    rw [map_append, map_append, nodup_append] at distinct
    obtain ⟨pre, -, sep⟩ := distinct
    have eq := collected.complete pre
    rw [map_append, ← eq]
    apply new
    intro mem
    rw [eq, map_map] at mem
    obtain ⟨y, inside, same⟩ := mem_map.mp mem
    exact sep (codeName y.1)
      (mem_map_of_mem (mem_map_of_mem inside)) (codeName pair.1) (by simp) same

theorem collected_nil : Collected ([] : List (String × α)) [] :=
  ⟨nodup_nil, nofun, fun _ => rfl⟩

theorem collected_lastWins (pairs : List (String × α)) : Collected pairs (lastWins pairs []) := by
  induction pairs using reverseRecOn with
  | nil => exact collected_nil
  | append_singleton pairs pair ih =>
    rw [lastWins, foldl_append]
    exact ih.snoc (keys_setEntry _ _ _) (fun _ => mem_setEntry) setEntry_fresh

theorem collected_firstWins (pairs : List (String × α)) : Collected pairs (firstWins pairs []) := by
  induction pairs using reverseRecOn with
  | nil => exact collected_nil
  | append_singleton pairs pair ih =>
    have last : firstWins (pairs ++ [pair]) [] =
        if codeName pair.1 ∈ (firstWins pairs []).map Prod.fst then firstWins pairs []
        else firstWins pairs [] ++ [(codeName pair.1, pair.2)] := by
      simp only [firstWins, foldl_append, foldl_cons, foldl_nil, lookup_isSome_iff]
    rw [last]
    refine ih.snoc ?_ ?_ fun absent => if_neg absent
    · split <;> simp
    · intro y sub
      split at sub
      · exact .inr sub
      · simpa [or_comm] using sub

end Collecting

section Listing

variable {α : Type} {net : Net} {named : List (Name × List Ref)}
  {item? : Name × List Ref → Option (String × α)} {all : List (String × α)}

/-- There are as many entries as names, and the entry that is made for each name is among them. -/
def Listed (item? : Name × List Ref → Option (String × α)) (named : List (Name × List Ref))
    (all : List (String × α)) : Prop :=
  all.length = named.length ∧
    ∀ entry ∈ named, ∃ pair, item? entry = some pair ∧ pair.2 ∈ all.map Prod.snd

def wordsOf (named : List (Name × List Ref)) : List String :=
  (named.map Prod.fst).filterMap fun
    | .word name => some name
    | _ => none

/-- What is made for a name is made under that name, which is a word. -/
def KeepsNames (item? : Name × List Ref → Option (String × α)) : Prop :=
  ∀ entry pair, item? entry = some pair → entry.1 = .word pair.1

theorem KeepsNames.wordsOf_eq (keeps : KeepsNames item?) {pairs : List (String × α)}
    (eq : named.map item? = pairs.map some) : wordsOf named = pairs.map Prod.fst := by
  induction named generalizing pairs with
  | nil =>
    rw [map_nil, eq_comm, map_eq_nil_iff] at eq
    rw [eq]
    rfl
  | cons e rest ih =>
    cases pairs with
    | nil => cases eq
    | cons pair pairs =>
      rw [map_cons, map_cons, cons.injEq] at eq
      rw [wordsOf, map_cons, keeps e pair eq.1, map_cons, ← ih eq.2]
      rfl

/-- If the pairs are collected, all names are listed exactly if no two of them clash. -/
theorem Collected.listed_iff {pairs : List (String × α)} (collected : Collected pairs all)
    (keeps : KeepsNames item?) (eq : named.map item? = pairs.map some)
    (distinct : (wordsOf named).Nodup) : Listed item? named all ↔ ¬ Clash (wordsOf named) := by
  have size : named.length = pairs.length := by
    rw [← length_map item?, eq, length_map]
  rw [← nodup_codeName_iff distinct, keeps.wordsOf_eq eq]
  constructor
  · rintro ⟨same, -⟩
    -- the names in code are distinct, and there are no fewer of them than names
    have sub : all.map Prod.fst ⊆ (pairs.map Prod.fst).map codeName := by
      intro key mem
      obtain ⟨pair, isListed, rfl⟩ := mem_map.mp mem
      obtain ⟨origin, isPair, rfl⟩ := collected.origin pair isListed
      exact mem_map_of_mem (mem_map_of_mem isPair)
    have perm := (collected.nodup.subperm sub).perm_of_length_le (by simp [same, size])
    exact perm.nodup_iff.mp collected.nodup
  · intro codes
    rw [Listed, collected.complete codes, length_map, size]
    refine ⟨rfl, fun e isNamed => ?_⟩
    have item : item? e ∈ pairs.map some := eq ▸ mem_map_of_mem isNamed
    obtain ⟨pair, isPair, got⟩ := mem_map.mp item
    refine ⟨pair, got.symm, ?_⟩
    rw [map_map]
    exact mem_map_of_mem isPair

end Listing

namespace Net

def receiverPair? (net : Net) : Name × List Ref → Option (String × Program.Receiver)
  | (.word name, object :: _) => do
      let hash ← (Hash.ofText name).toOption
      let exported ← (net.node object).arguments.get? "extern"
      let attributes ← (net.node object).arguments.get? "attributes"
      return (name, ⟨name, Hash.literal hash, exported, attributes, (net.node object).identity⟩)
  | _ => none

def tablePair? (net : Net) : Name × List Ref → Option (String × Program.Table)
  | (.word name, object :: _) => do
      let hash ← (Hash.ofText name).toOption
      let exported ← (net.node object).arguments.get? "extern"
      return (name, ⟨(net.node object).identity, name, Hash.literal hash, exported⟩)
  | _ => none

def namedReceivers (net : Net) (g : Ref) : List (Name × List Ref) :=
  (net.node g).body.registry.byType net.view.typeOf "__receive"

/-- The tables that are registered with a graph, by name, whether they are lowered or not. -/
def namedTables (net : Net) (g : Ref) : List (Name × List Ref) :=
  let registry := (net.node g).body.registry
  (registry.byType net.view.typeOf "table").foldl
    (fun all entry => setEntry entry.1 entry.2 all) (registry.byType net.view.typeOf "__table")

end Net

variable {net : Net} {g : Ref}

theorem Net.of_receiverPair? {e : Name × List Ref} {pair : String × Program.Receiver}
    (got : net.receiverPair? e = some pair) : ∃ name obj rest hash exported attributes,
      e = (.word name, obj :: rest) ∧ Hash.ofText name = .ok hash ∧
      (net.node obj).arguments.get? "extern" = some exported ∧
      (net.node obj).arguments.get? "attributes" = some attributes ∧
      pair = (name, ⟨name, Hash.literal hash, exported, attributes, (net.node obj).identity⟩) := by
  unfold receiverPair? at got
  split at got
  next name obj rest =>
    cases hashed : Hash.ofText name <;>
      simp_all [Except.toOption, Option.bind_eq_some_iff, @eq_comm _ _ pair]
  next => cases got

theorem Net.of_tablePair? {e : Name × List Ref} {pair : String × Program.Table}
    (got : net.tablePair? e = some pair) : ∃ name obj rest hash exported,
      e = (.word name, obj :: rest) ∧ Hash.ofText name = .ok hash ∧
      (net.node obj).arguments.get? "extern" = some exported ∧
      pair = (name, ⟨(net.node obj).identity, name, Hash.literal hash, exported⟩) := by
  unfold tablePair? at got
  split at got
  next name obj rest =>
    cases hashed : Hash.ofText name <;>
      simp_all [Except.toOption, Option.bind_eq_some_iff, @eq_comm _ _ pair]
  next => cases got

theorem keepsNames_receivers : KeepsNames net.receiverPair? := by
  intro e pair got
  obtain ⟨name, obj, rest, _, _, _, rfl, -, -, -, rfl⟩ := Net.of_receiverPair? got
  rfl

theorem keepsNames_tables : KeepsNames net.tablePair? := by
  intro e pair got
  obtain ⟨name, obj, rest, _, _, rfl, -, -, rfl⟩ := Net.of_tablePair? got
  rfl

namespace Build

theorem run_forIn_pairs {ε π β : Type} {step : ε → β → Build (ForInStep β)} {item? : ε → Option π}
    {f : β → π → β} {named : List ε} {pairs : List π} (eq : named.map item? = pairs.map some)
    (turn : ∀ e pair acc, item? e = some pair →
      (step e acc).run net = .ok (.yield (f acc pair)) net) (acc : β) :
    (ForIn.forIn named acc step).run net = .ok (pairs.foldl f acc) net := by
  induction named generalizing pairs acc with
  | nil =>
    rw [map_nil, eq_comm, map_eq_nil_iff] at eq
    subst eq
    rfl
  | cons e rest ih =>
    cases pairs with
    | nil => cases eq
    | cons pair pairs =>
      rw [map_cons, map_cons, cons.injEq] at eq
      rw [forIn_cons, EStateM.run_bind, turn e pair acc eq.1]
      exact ih eq.2 _

theorem run_nameHash {hash : Nat} (hashed : Hash.ofText name = .ok hash) :
    (nameHash name).run net = .ok (Hash.literal hash) net := by
  rw [nameHash, hashed]
  rfl

theorem run_receiverList {pairs : List (String × Program.Receiver)}
    (eq : (net.namedReceivers g).map net.receiverPair? = pairs.map some) :
    (receiverList g).run net = .ok (lastWins pairs []) net := by
  change (ForIn.forIn (net.namedReceivers g) [] _ >>= pure : Build _).run net = _
  rw [bind_pure]
  refine run_forIn_pairs eq (fun e pair all got => ?_) []
  obtain ⟨name, obj, rest, hash, exported, attributes, rfl, hashed, isExtern, isAttributes, rfl⟩ :=
    Net.of_receiverPair? got
  simp only [nameText, EStateM.run_bind, run_node, run_nameHash hashed, run_argument isExtern,
    run_argument isAttributes, EStateM.run_pure]

theorem run_tableList {pairs : List (String × Program.Table)}
    (eq : (net.namedTables g).map net.tablePair? = pairs.map some) :
    (tableList g).run net = .ok (firstWins pairs []) net := by
  change (ForIn.forIn (net.namedTables g) [] _ >>= pure : Build _).run net = _
  rw [bind_pure]
  refine run_forIn_pairs eq (fun e pair all got => ?_) []
  obtain ⟨name, obj, rest, hash, exported, rfl, hashed, isExtern, rfl⟩ :=
    Net.of_tablePair? got
  simp only [nameText, EStateM.run_bind, EStateM.run_pure]
  cases present : all.lookup (codeName name) with
  | none =>
    simp only [EStateM.run_bind, run_nameHash hashed, run_argument isExtern]
    rfl
  | some _ => rfl

theorem exists_pairs {ε π : Type} {item? : ε → Option π} {named : List ε}
    (all : ∀ e ∈ named, (item? e).isSome) : ∃ pairs : List π, named.map item? = pairs.map some := by
  induction named with
  | nil => exact ⟨[], rfl⟩
  | cons e rest ih =>
    obtain ⟨pairs, eq⟩ := ih (forall_mem_cons.mp all).2
    obtain ⟨pair, got⟩ := Option.isSome_iff_exists.mp (all e mem_cons_self)
    exact ⟨pair :: pairs, by rw [map_cons, map_cons, eq, got]⟩

/-- What is collected for distinct names lists all of them exactly if something can be made for
each of them and no two of them clash. -/
theorem listed_iff_of_collects {α : Type} {step : Build (List (String × α))}
    {named : List (Name × List Ref)} {item? : Name × List Ref → Option (String × α)}
    {collect : List (String × α) → List (String × α)} (keeps : KeepsNames item?)
    (distinct : (named.map Prod.fst).Nodup)
    (run : ∀ pairs, named.map item? = pairs.map some → step.run net = .ok (collect pairs) net)
    (collected : ∀ pairs, Collected pairs (collect pairs)) :
    (∃ all, step.run net = .ok all net ∧ Listed item? named all) ↔
      (∀ e ∈ named, (item? e).isSome) ∧ ¬ Clash (wordsOf named) := by
  have words : (wordsOf named).Nodup := by
    refine distinct.filterMap fun first snd text one two => ?_
    cases first <;> cases snd <;> simp_all
  constructor
  · rintro ⟨all, done, mem⟩
    have whole : ∀ e ∈ named, (item? e).isSome := fun e isNamed => by
      obtain ⟨pair, got, -⟩ := mem.2 e isNamed
      rw [got]
      rfl
    obtain ⟨pairs, eq⟩ := exists_pairs whole
    have same := (run pairs eq).symm.trans done
    injection same with same
    rw [← same] at mem
    exact ⟨whole, ((collected pairs).listed_iff keeps eq words).mp mem⟩
  · rintro ⟨whole, free⟩
    obtain ⟨pairs, eq⟩ := exists_pairs whole
    exact ⟨_, run pairs eq, ((collected pairs).listed_iff keeps eq words).mpr free⟩

variable (distinct : ((net.node g).body.registry.entries.map Prod.fst).Nodup)

include distinct

theorem tables_listed_iff : (∃ all, (tableList g).run net = .ok all net ∧
        Listed net.tablePair? (net.namedTables g) all) ↔
      (∀ e ∈ net.namedTables g, (net.tablePair? e).isSome) ∧
        ¬ Clash (wordsOf (net.namedTables g)) := by
  refine listed_iff_of_collects keepsNames_tables ?_ (fun _ eq => run_tableList eq)
    collected_firstWins
  have step : ∀ (more all : List (Name × List Ref)), (all.map Prod.fst).Nodup →
      ((more.foldl (fun all e => setEntry e.1 e.2 all) all).map Prod.fst).Nodup := by
    intro more
    induction more with
    | nil => exact fun _ held => held
    | cons e rest ih =>
      intro all held
      refine ih _ ?_
      rw [keys_setEntry]
      split
      · exact held
      · next absent =>
          rw [← concat_eq_append, nodup_concat]
          exact ⟨absent, held⟩
  exact step _ _ (Registry.keys_byType_sublist.nodup distinct)

/-- All receivers and all tables that are registered with a graph are listed, each name once with
its hash and its object, exactly if the names are texts that have hashes, the objects have their
arguments, and no name that starts with a digit is there with an underscore as well. -/
theorem named_listed_iff : ((∃ receivers, (receiverList g).run net = .ok receivers net ∧
        Listed net.receiverPair? (net.namedReceivers g) receivers) ↔
      (∀ entry ∈ net.namedReceivers g, (net.receiverPair? entry).isSome) ∧
        ¬ Clash (wordsOf (net.namedReceivers g))) ∧
    ((∃ tables, (tableList g).run net = .ok tables net ∧
        Listed net.tablePair? (net.namedTables g) tables) ↔
      (∀ entry ∈ net.namedTables g, (net.tablePair? entry).isSome) ∧
        ¬ Clash (wordsOf (net.namedTables g))) :=
  ⟨listed_iff_of_collects keepsNames_receivers (Registry.keys_byType_sublist.nodup distinct)
    (fun _ known => run_receiverList known) collected_lastWins, tables_listed_iff distinct⟩

end Build

namespace Shelf

def shelf (first second : String) : Net :=
  { nodes := #[
      { type := "__graph", kind := .graph, identity := 0
        body := { registry := ⟨[(.word first, [1]), (.word second, [2])]⟩ } },
      { type := "__table", kind := .plain, identity := 1, parent := some 0
        arguments := [("extern", .bool false)] },
      { type := "__table", kind := .plain, identity := 2, parent := some 0
        arguments := [("extern", .bool false)] }] }

theorem distinct {first snd : String} (ne : first ≠ snd) :
    (((shelf first snd).node 0).body.registry.entries.map Prod.fst).Nodup := by
  simpa [shelf, Net.node] using ne

theorem shelf_listed : ∃ tables,
    (Build.tableList 0).run (shelf "1a" "b") = .ok tables (shelf "1a" "b") ∧
    Listed (shelf "1a" "b").tablePair? ((shelf "1a" "b").namedTables 0) tables := by
  exact (Build.named_listed_iff (distinct (by decide))).2.mpr
    ⟨by decide +kernel, by decide +kernel⟩

/-- Of two tables whose names clash one is missing. -/
theorem not_listed : ¬ ∃ tables,
    (Build.tableList 0).run (shelf "1a" "_1a") = .ok tables (shelf "1a" "_1a") ∧
    Listed (shelf "1a" "_1a").tablePair? ((shelf "1a" "_1a").namedTables 0) tables := by
  intro listed
  exact ((Build.tables_listed_iff (distinct (by decide))).mp listed).2 (by decide +kernel)

end Shelf

end PatchCompiler
