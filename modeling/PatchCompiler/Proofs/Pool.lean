import Mathlib.Data.List.Nodup
import PatchCompiler.Net.Pool

/-!
# The counts of a pool

A pool is read as a function from buffers to retain counts. Handing out a buffer and retaining one
both give one buffer another count and leave the counts of all others as they are. The buffer that
is handed out is new or has the count zero.
-/

namespace PatchCompiler

open List

namespace Buckets

def indices (buckets : Buckets) : List Int :=
  buckets.flatMap (·.2)

def counts (buckets : Buckets) : List Int :=
  buckets.map (·.1)

/-- Every count has one bucket, and the buffers in them are numbered from zero on, each in one
place. -/
structure Sound (buckets : Buckets) : Prop where
  counts_nodup : buckets.counts.Nodup
  numbered : buckets.indices.Perm ((List.range buckets.total).map Int.ofNat)

@[simp]
theorem indices_cons (bk : Int × List Int) (rest : Buckets) :
    indices (bk :: rest) = bk.2 ++ rest.indices :=
  rfl

theorem total_eq_length (bs : Buckets) : bs.total = bs.indices.length := by
  induction bs with
  | nil => rfl
  | cons bk rest ih =>
    rw [indices_cons, length_append, ← ih]
    rfl

theorem get_cons (n : Int) (held : List Int) (rest : Buckets) (other : Int) :
    get ((n, held) :: rest) other = if other = n then held else rest.get other := by
  by_cases eq : other = n
  · simp [get, eq]
  · have differs : (other == n) = false := by simpa using eq
    simp [get, lookup_cons, differs, eq]

theorem get_change (bs : Buckets) (n other : Int) (f : List Int → List Int) :
    (bs.change n f).get other =
      if other = n then f (bs.get n) else bs.get other := by
  induction bs with
  | nil =>
    rw [change, get_cons]
    rfl
  | cons bk rest ih =>
    rcases bk with ⟨c, held⟩
    rw [change]
    by_cases here : c = n
    · subst here
      by_cases eq : other = c
      · simp [get_cons, eq]
      · simp [get_cons, eq]
    · rw [if_neg here, get_cons, ih, get_cons, get_cons]
      by_cases eq : other = c
      · subst eq
        simp [here]
      · simp [eq, Ne.symm here]

theorem get_move (bs : Buckets) (k n tgt other : Int) : (bs.move k n tgt).get other =
      if other = tgt then
        (if tgt = n then (bs.get n).erase k else bs.get tgt) ++ [k]
      else if other = n then (bs.get n).erase k
      else bs.get other := by
  rw [move, get_change, get_change, get_change]

theorem mem_counts_change (bs : Buckets) (n y : Int) (f : List Int → List Int) :
    y ∈ (bs.change n f).counts ↔ y ∈ bs.counts ∨ y = n := by
  induction bs with
  | nil => simp [change, counts]
  | cons bk rest ih =>
    rcases bk with ⟨c, held⟩
    rw [change]
    by_cases here : c = n
    · simp [counts, here, or_comm]
    · rw [if_neg here]
      simp only [counts, map_cons, mem_cons] at ih ⊢
      rw [ih, or_assoc]

theorem counts_nodup_change {bs : Buckets} (nodup : bs.counts.Nodup) (n : Int)
    (f : List Int → List Int) : (bs.change n f).counts.Nodup := by
  induction bs with
  | nil => simp [change, counts]
  | cons bk rest ih =>
    rcases bk with ⟨c, held⟩
    have split : c ∉ counts rest ∧ (counts rest).Nodup := nodup_cons.mp nodup
    rw [change]
    by_cases here : c = n
    · rw [if_pos here]
      exact nodup
    · rw [if_neg here]
      have absent : c ∉ (change rest n f).counts := by
        rw [mem_counts_change]
        exact not_or.mpr ⟨split.1, here⟩
      exact nodup_cons.mpr ⟨absent, ih split.2⟩

theorem indices_change (bs : Buckets) (n : Int) :
    ∃ ys, bs.indices.Perm (bs.get n ++ ys) ∧ ∀ f : List Int → List Int,
        (bs.change n f).indices.Perm (f (bs.get n) ++ ys) := by
  induction bs with
  | nil => exact ⟨[], .refl _, fun f => by simp [change, indices, get]⟩
  | cons bk rest ih =>
    rcases bk with ⟨c, held⟩
    by_cases here : c = n
    · subst here
      refine ⟨indices rest, ?_, fun f => ?_⟩
      · simp [get_cons]
      · simp [change, get_cons]
    · rcases ih with ⟨ys, pre, after⟩
      -- the bucket in front is one of the others
      have front : ∀ {xs : List Int} {front back : List Int}, xs.Perm (front ++ back) →
          (held ++ xs).Perm (front ++ (held ++ back)) := by
        intro xs front back perm
        refine (perm.append_left held).trans ?_
        rw [← append_assoc, ← append_assoc]
        exact perm_append_comm.append_right back
      refine ⟨held ++ ys, ?_, fun f => ?_⟩
      · simpa [get_cons, Ne.symm here] using front pre
      · simpa [change, here, get_cons, Ne.symm here] using front (after f)

namespace Sound

variable {bs : Buckets} {k n tgt : Int}

theorem indices_nodup (ok : bs.Sound) : bs.indices.Nodup := by
  refine ok.numbered.nodup_iff.mpr (nodup_range.map ?_)
  exact fun a b eq => Int.ofNat.inj eq

theorem total_not_mem (ok : bs.Sound) : (bs.total : Int) ∉ bs.indices := by
  rw [ok.numbered.mem_iff]
  intro mem
  rcases mem_map.mp mem with ⟨i, lt, eq⟩
  have eq' : i = bs.total := Int.ofNat.inj eq
  exact absurd (mem_range.mp lt) (by omega)

theorem get_nodup (ok : bs.Sound) (n : Int) : (bs.get n).Nodup := by
  rcases bs.indices_change n with ⟨ys, pre, _⟩
  exact (pre.nodup_iff.mp ok.indices_nodup).of_append_left

theorem mem_indices_of_mem_get (mem : k ∈ bs.get n) : k ∈ bs.indices := by
  rcases bs.indices_change n with ⟨ys, pre, _⟩
  exact pre.mem_iff.mpr (mem_append_left _ mem)

end Sound

theorem countOf?_eq_some_iff {bs : Buckets} (nodup : bs.counts.Nodup)
    (once : bs.indices.Nodup) (k n : Int) : bs.countOf? k = some n ↔ k ∈ bs.get n := by
  induction bs with
  | nil => simp [countOf?, get]
  | cons bk rest ih =>
    rcases bk with ⟨c, held⟩
    have fresh : c ∉ counts rest ∧ (counts rest).Nodup := nodup_cons.mp nodup
    have sep := disjoint_of_nodup_append once
    have post := ih fresh.2 once.of_append_right
    rw [get_cons]
    by_cases inHeld : k ∈ held
    · have notLater : ∀ other, k ∉ get rest other := fun other mem =>
        sep inHeld (Sound.mem_indices_of_mem_get mem)
      by_cases eq : n = c
      · simp [countOf?, inHeld, eq]
      · simp [countOf?, inHeld, eq, notLater, Ne.symm eq]
    · have skip : countOf? ((c, held) :: rest) k = countOf? rest k := by
        simp [countOf?, inHeld]
      rw [skip, post]
      by_cases eq : n = c
      · subst eq
        have absent : get rest n = [] := by
          have none : rest.lookup n = none := by
            rw [lookup_eq_none_iff]
            intro e mem
            have differs : n ≠ e.1 := by
              rintro rfl
              exact fresh.1 (mem_map_of_mem mem)
            simpa using differs
          simp [get, none]
        simp [inHeld, absent]
      · simp [eq]

namespace Sound

variable {bs : Buckets} {k n tgt : Int}

section

variable (ok : bs.Sound)
include ok

theorem countOf?_iff : bs.countOf? k = some n ↔ k ∈ bs.get n :=
  countOf?_eq_some_iff ok.counts_nodup ok.indices_nodup k n

theorem countOf?_total : bs.countOf? bs.total = none := by
  rw [Option.eq_none_iff_forall_ne_some]
  intro n got
  exact ok.total_not_mem (mem_indices_of_mem_get (ok.countOf?_iff.mp got))

theorem of_perm {y : Buckets} (nodup : y.counts.Nodup)
    (eq : y.indices.Perm bs.indices) : y.Sound := by
  refine ⟨nodup, ?_⟩
  rw [total_eq_length, eq.length_eq, ← total_eq_length]
  exact eq.trans ok.numbered

theorem mention (n : Int) : (bs.change n id).Sound := by
  refine ok.of_perm (counts_nodup_change ok.counts_nodup n id) ?_
  rcases bs.indices_change n with ⟨ys, pre, after⟩
  exact (after id).trans pre.symm

theorem countOf?_mention (n : Int) (k : Int) : (bs.change n id).countOf? k = bs.countOf? k := by
  apply Option.ext
  intro y
  rw [(ok.mention n).countOf?_iff, ok.countOf?_iff, get_change]
  by_cases eq : y = n
  · simp [eq]
  · simp [eq]

open scoped List in
theorem move (mem : k ∈ bs.get n) (tgt : Int) : (bs.move k n tgt).Sound := by
  refine ok.of_perm (counts_nodup_change (counts_nodup_change ok.counts_nodup _ _) _ _) ?_
  rcases bs.indices_change n with ⟨others, pre, erased⟩
  rcases (bs.change n (·.erase k)).indices_change tgt with ⟨more, mid, added⟩
  -- out of one bucket and into another
  calc (bs.move k n tgt).indices
      _ ~ ((bs.change n (·.erase k)).get tgt ++ [k]) ++ more := added _
      _ ~ k :: ((bs.change n (·.erase k)).get tgt ++ more) := by
          rw [append_assoc, singleton_append]
          exact perm_middle
      _ ~ k :: (bs.change n (·.erase k)).indices := mid.symm.cons k
      _ ~ k :: ((bs.get n).erase k ++ others) := (erased _).cons k
      _ ~ bs.get n ++ others :=
          ((perm_cons_erase mem).symm.append_right others)
      _ ~ bs.indices := pre.symm

theorem countOf?_move (mem : k ∈ bs.get n) (tgt : Int)
    (other : Int) : (bs.move k n tgt).countOf? other =
      if other = k then some tgt else bs.countOf? other := by
  have nodup := ok.get_nodup n
  apply Option.ext
  intro c
  rw [(ok.move mem tgt).countOf?_iff, get_move]
  by_cases eq : other = k
  · subst eq
    have alone : other ∈ bs.get c → c = n := fun there =>
      Option.some.inj ((ok.countOf?_iff.mpr there).symm.trans (ok.countOf?_iff.mpr mem))
    by_cases atTarget : c = tgt
    · simp [atTarget]
    · by_cases atCount : c = n
      · subst atCount
        simp [atTarget, Ne.symm atTarget, nodup.not_mem_erase]
      · simp [atTarget, atCount, mt alone atCount, Ne.symm atTarget]
  · rw [if_neg eq, ok.countOf?_iff]
    by_cases atTarget : c = tgt
    · by_cases atCount : tgt = n
      · simp [atTarget, atCount, eq, mem_erase_of_ne eq]
      · simp [atTarget, atCount, eq]
    · by_cases atCount : c = n
      · subst atCount
        simp [atTarget, mem_erase_of_ne eq]
      · simp [atTarget, atCount]

theorem new (n : Int) : (bs.change n (· ++ [(bs.total : Int)])).Sound := by
  refine ⟨counts_nodup_change ok.counts_nodup _ _, ?_⟩
  rcases bs.indices_change n with ⟨ys, pre, after⟩
  have grown : (bs.change n (· ++ [(bs.total : Int)])).indices.Perm
      ((bs.total : Int) :: bs.indices) := by
    refine (after _).trans ?_
    rw [append_assoc, singleton_append]
    exact perm_middle.trans (pre.symm.cons _)
  have total : (bs.change n (· ++ [(bs.total : Int)])).total = bs.total + 1 := by
    rw [total_eq_length, grown.length_eq, length_cons, ← total_eq_length]
  rw [total, range_succ, map_append]
  refine grown.trans ((ok.numbered.cons _).trans ?_)
  exact (perm_append_singleton _ _).symm

theorem countOf?_new (n : Int) (other : Int) :
    (bs.change n (· ++ [(bs.total : Int)])).countOf? other =
      if other = bs.total then some n else bs.countOf? other := by
  have fresh : ∀ c, (bs.total : Int) ∉ bs.get c := fun c mem =>
    ok.total_not_mem (mem_indices_of_mem_get mem)
  apply Option.ext
  intro c
  rw [(ok.new n).countOf?_iff, get_change]
  by_cases eq : other = bs.total
  · subst eq
    by_cases here : c = n
    · simp [here]
    · simp [here, Ne.symm here, fresh]
  · rw [if_neg eq, ok.countOf?_iff]
    by_cases here : c = n
    · subst here
      simp [eq]
    · simp [here]

end

end Sound

end Buckets

namespace Pool

def count? (pool : Pool) (b : Buffer) : Option Int :=
  (pool.buckets? b.kind).bind (·.countOf? b.index)

def Sound (pool : Pool) : Prop :=
  ∀ kind buckets, pool.buckets? kind = some buckets → buckets.Sound

/-- The count has come up. Counts are never taken off the list, so these are the counts of all
times. -/
def Noted (pool : Pool) (count : Int) : Prop :=
  ∃ kind buckets, pool.buckets? kind = some buckets ∧ count ∈ buckets.counts

structure Recounts (pool : Pool) (b : Buffer) (count : Int) (last : Pool) : Prop where
  sound : last.Sound
  count? : ∀ other, last.count? other = if other = b then some count else pool.count? other
  only : ∀ other, last.Noted other → pool.Noted other ∨ other = count ∨ other = 0

variable {pool : Pool} {kind : BufferKind} {old new : Buckets} {b : Buffer}
  {k n : Int}

theorem empty_sound : Sound .empty := by
  intro kind bs got
  cases kind <;> cases got <;> exact ⟨nodup_nil, .refl _⟩

theorem empty_noted (n : Int) : ¬ Noted .empty n := by
  rintro ⟨kind, bs, got, mem⟩
  cases kind <;> cases got <;> cases mem

theorem buckets?_setBuckets (got : pool.buckets? kind = some old) (other : BufferKind) :
    (pool.setBuckets kind new).buckets? other =
      if other = kind then some new else pool.buckets? other := by
  cases kind <;> cases got <;> cases other <;> rfl

theorem Sound.setBuckets (sound : pool.Sound) (got : pool.buckets? kind = some old)
    (newSound : new.Sound) (counts : ∀ y, new.countOf? y =
      if y = k then some n else old.countOf? y)
    (only : ∀ y ∈ new.counts, y ∈ old.counts ∨ y = n ∨ y = 0) :
    pool.Recounts ⟨kind, k⟩ n (pool.setBuckets kind new) where
  sound := by
    intro y bs mem
    rw [buckets?_setBuckets got] at mem
    by_cases eq : y = kind
    · rw [if_pos eq] at mem
      exact Option.some.inj mem ▸ newSound
    · rw [if_neg eq] at mem
      exact sound y bs mem
  count? := by
    rintro ⟨otherKind, otherIndex⟩
    rw [Pool.count?, Pool.count?, buckets?_setBuckets got]
    by_cases eq : otherKind = kind
    · subst eq
      simp [counts, got]
    · simp [eq]
  only := by
    rintro y ⟨otherKind, bs, mem, isIn⟩
    rw [buckets?_setBuckets got] at mem
    by_cases eq : otherKind = kind
    · rw [if_pos eq] at mem
      cases mem
      exact (only y isIn).imp (fun inOld => ⟨kind, old, got, inOld⟩) id
    · rw [if_neg eq] at mem
      exact .inl ⟨otherKind, bs, mem, isIn⟩

theorem kind_of_count? (held : pool.count? b = some n) : b.kind = .float ∨ b.kind = .integer := by
  rcases Option.bind_eq_some_iff.mp held with ⟨bs, got, _⟩
  generalize b.kind = kind at got
  cases kind <;> first | exact .inl rfl | exact .inr rfl | cases got

theorem retain_uncounted (uncounted : b.kind = .zero ∨ b.kind = .input) (more : Int) :
    pool.retain b more = .ok (0, pool) := by
  simp [Pool.retain, uncounted]

/-- A buffer of the pool can be retained, and released with a negative number. -/
theorem Sound.retain (sound : pool.Sound) (held : pool.count? b = some n) (more : Int) :
    ∃ last, pool.retain b more = .ok (n + more, last) ∧ pool.Recounts b (n + more) last := by
  rcases b with ⟨kind, k⟩
  rcases Option.bind_eq_some_iff.mp held with ⟨bs, got, mem⟩
  have bucketsSound := sound kind bs got
  have isIn := bucketsSound.countOf?_iff.mp mem
  have cnt : ¬ (kind = .zero ∨ kind = .input) := by
    rintro (rfl | rfl) <;> cases got
  have eq : n ∈ bs.counts := by
    rcases Option.map_eq_some_iff.mp mem with ⟨bk, first, rfl⟩
    exact mem_map_of_mem (mem_of_find?_eq_some first)
  refine ⟨pool.setBuckets kind (bs.move k n (n + more)), ?_, ?_⟩
  · simp [Pool.retain, cnt, got, mem]
  · refine sound.setBuckets got (bucketsSound.move isIn _)
      (bucketsSound.countOf?_move isIn _) fun y inN => ?_
    rw [Buckets.move, Buckets.mem_counts_change, Buckets.mem_counts_change] at inN
    rcases inN with (inOld | rfl) | rfl
    · exact .inl inOld
    · exact .inl eq
    · exact .inr (.inl rfl)

theorem Sound.acquire (sound : pool.Sound) (got : pool.buckets? kind = some old) (n : Int)
    (excluded : List Buffer) : ∃ b last, pool.acquire kind n excluded = .ok (b, last) ∧
      b.kind = kind ∧ (pool.count? b = none ∨ pool.count? b = some 0 ∧ b ∉ excluded) ∧
      pool.Recounts b n last := by
  have oldSound := sound kind old got
  have sameCount : ∀ k, pool.count? ⟨kind, k⟩ = (old.change 0 id).countOf? k := by
    intro k
    rw [oldSound.countOf?_mention, Pool.count?, got]
    rfl
  have zeroSound := oldSound.mention 0
  generalize free : ((old.change 0 id).get 0).reverse.find?
    (fun k => !excluded.contains ⟨kind, k⟩) = choice
  cases choice with
  | some k =>
    have mem : k ∈ (old.change 0 id).get 0 := mem_reverse.mp (mem_of_find?_eq_some free)
    have allowed : (⟨kind, k⟩ : Buffer) ∉ excluded := by
      simpa using find?_some free
    refine ⟨⟨kind, k⟩, pool.setBuckets kind ((old.change 0 id).move k 0 n), ?_, rfl,
      .inr ⟨?_, allowed⟩, ?_⟩
    · simp only [Pool.acquire, got, free]
    · rw [sameCount]
      exact zeroSound.countOf?_iff.mpr mem
    · refine sound.setBuckets got (zeroSound.move mem n) ?_ ?_
      · intro y
        rw [zeroSound.countOf?_move mem, oldSound.countOf?_mention]
      · intro y inN
        rw [Buckets.move, Buckets.mem_counts_change, Buckets.mem_counts_change,
          Buckets.mem_counts_change] at inN
        rcases inN with ((inOld | rfl) | rfl) | rfl
        · exact .inl inOld
        · exact .inr (.inr rfl)
        · exact .inr (.inr rfl)
        · exact .inr (.inl rfl)
  | none =>
    refine ⟨⟨kind, (old.change 0 id).total⟩, pool.setBuckets kind ((old.change 0 id).change n
      (· ++ [((old.change 0 id).total : Int)])), ?_, rfl, .inl ?_, ?_⟩
    · simp only [Pool.acquire, got, free]
    · rw [sameCount]
      exact zeroSound.countOf?_total
    · refine sound.setBuckets got (zeroSound.new n) ?_ ?_
      · intro y
        rw [zeroSound.countOf?_new, oldSound.countOf?_mention]
      · intro y inN
        rw [Buckets.mem_counts_change, Buckets.mem_counts_change] at inN
        rcases inN with (inOld | rfl) | rfl
        · exact .inl inOld
        · exact .inr (.inr rfl)
        · exact .inr (.inl rfl)

end Pool

end PatchCompiler
