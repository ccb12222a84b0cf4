import PatchCompiler.Proofs.Pool

/-!
# The history of a pool

What has been done with the buffers of a pool is a list, the latest first, and the history gives
every buffer a count. In every pool that can come about the buffers of a kind are numbered from zero
on, each is in one bucket, and that is the bucket of its count. A new buffer is made only if there
is no free one to hand out.
-/

namespace PatchCompiler.Pool

open List

inductive Use where
  | acquired (buffer : Buffer) (count : Int)
  | retained (buffer : Buffer) (count : Int)
  | released (buffer : Buffer) (count : Int)

/-- The count with which a buffer was last handed out, with what it was retained since and without
what it was released. -/
def tally (b : Buffer) : List Use → Option Int
  | [] => none
  | .acquired other count :: rest => if b = other then some count else tally b rest
  | .retained other count :: rest =>
    if b = other then (tally b rest).map (· + count) else tally b rest
  | .released other count :: rest =>
    if b = other then (tally b rest).map (· - count) else tally b rest

/-- The pools that come about from an empty one, with what has been done. -/
inductive Reached : Pool → List Use → Prop
  | empty : Reached .empty []
  | acquire {pool last : Pool} {history : List Use} {kind : BufferKind} {count : Int}
      {excluded : List Buffer} {b : Buffer} (before : Reached pool history)
      (done : pool.acquire kind count excluded = .ok (b, last)) :
      Reached last (.acquired b count :: history)
  | retain {pool last : Pool} {history : List Use} {b : Buffer} {count left : Int}
      (before : Reached pool history) (done : pool.retain b count = .ok (left, last)) :
      Reached last (.retained b count :: history)
  | release {pool last : Pool} {history : List Use} {b : Buffer} {count left : Int}
      (before : Reached pool history) (done : pool.release b count = .ok (left, last)) :
      Reached last (.released b count :: history)

/-- The buffers of a kind are numbered, each is in one bucket, and that is the one of its tally. -/
def Tallied (pool : Pool) (history : List Use) : Prop :=
  ∀ kind buckets, pool.buckets? kind = some buckets →
    pool.sizeOf kind = .ok buckets.total ∧ buckets.counts.Nodup ∧ buckets.indices.Nodup ∧
    (∀ k, k ∈ buckets.indices ↔ 0 ≤ k ∧ k < buckets.total) ∧
    ∀ k count, k ∈ buckets.get count ↔ tally ⟨kind, k⟩ history = some count

def OnlyKind (pool : Pool) (kind : BufferKind) (last : Pool) : Prop :=
  ∀ other ≠ kind, last.buckets? other = pool.buckets? other

/-- A buffer can be had that is not excluded. It was free, or it is new and none was free. -/
def Serves (pool : Pool) (history : List Use) : Prop :=
  ∀ kind ∈ [BufferKind.float, .integer], ∀ count excluded,
    (∀ b ∈ excluded, (tally b history).isSome) →
    ∃ b last, pool.acquire kind count excluded = .ok (b, last) ∧ b.kind = kind ∧ b ∉ excluded ∧
      (tally b history = some 0 ∨ tally b history = none ∧ ∀ k count,
        tally ⟨kind, k⟩ history = some count → count ≠ 0 ∨ ⟨kind, k⟩ ∈ excluded) ∧
      pool.OnlyKind kind last

/-- Buffers of the pool can be retained and released, and the others are not counted. -/
def Counts (pool : Pool) (history : List Use) : Prop :=
  (∀ b count more, tally b history = some count →
    (∃ last, pool.retain b more = .ok (count + more, last) ∧ pool.OnlyKind b.kind last) ∧
    ∃ last, pool.release b more = .ok (count - more, last) ∧ pool.OnlyKind b.kind last) ∧
  ∀ b more, b.kind = .zero ∨ b.kind = .input →
    pool.retain b more = .ok (0, pool) ∧ pool.release b more = .ok (0, pool)

variable {pool last : Pool} {history : List Use} {kind : BufferKind} {b : Buffer}
  {n left : Int} {excluded : List Buffer}

theorem onlyKind_setBuckets {old new : Buckets} (got : pool.buckets? kind = some old) :
    pool.OnlyKind kind (pool.setBuckets kind new) := by
  intro y ne
  rw [buckets?_setBuckets got, if_neg ne]

theorem acquire_ok (done : pool.acquire kind n excluded = .ok (b, last)) :
    ∃ old, pool.buckets? kind = some old ∧ pool.OnlyKind kind last := by
  unfold acquire at done
  cases got : pool.buckets? kind with
  | none => simp [got] at done
  | some old =>
    simp only [got] at done
    split at done <;> cases done <;> exact ⟨old, rfl, onlyKind_setBuckets got⟩

theorem Sound.acquire_new (sound : pool.Sound)
    (done : pool.acquire kind n excluded = .ok (b, last)) (new : pool.count? b = none) {k : Int}
    (free : pool.count? ⟨kind, k⟩ = some 0) : ⟨kind, k⟩ ∈ excluded := by
  obtain ⟨old, got, -⟩ := acquire_ok done
  have oldSound := sound kind old got
  have held : ∀ i, pool.count? ⟨kind, i⟩ = some 0 ↔ i ∈ (old.change 0 id).get 0 := by
    intro i
    rw [Pool.count?, got, Option.bind_some, ← oldSound.countOf?_mention 0,
      (oldSound.mention 0).countOf?_iff]
  simp only [Pool.acquire, got] at done
  split at done
  next i first =>
    cases done
    have isFree := (held i).mpr (mem_reverse.mp (mem_of_find?_eq_some first))
    cases new.symm.trans isFree
  next none =>
    have mem := find?_eq_none.mp none k (mem_reverse.mpr ((held k).mp free))
    simpa using mem

theorem retain_ok (done : pool.retain b n = .ok (left, last)) : pool.OnlyKind b.kind last ∧
      (last = pool ∧ pool.count? b = none ∨ ∃ old, pool.count? b = some old) := by
  unfold retain at done
  split at done
  next special =>
    cases done
    refine ⟨fun _ _ => rfl, .inl ⟨rfl, ?_⟩⟩
    rcases special with zero | input <;> simp [Pool.count?, buckets?, *]
  next =>
    cases got : pool.buckets? b.kind with
    | none => simp [got] at done
    | some buckets =>
      cases eq : buckets.countOf? b.index with
      | none => simp [got, eq] at done
      | some old =>
        simp only [got, eq, Except.ok.injEq, Prod.mk.injEq] at done
        exact ⟨done.2 ▸ onlyKind_setBuckets got, .inr ⟨old, by simp [Pool.count?, got, eq]⟩⟩

/-- A buffer that the pool has is recounted, and any other leaves the pool as it is. -/
theorem Sound.count?_retain (sound : pool.Sound) (done : pool.retain b n = .ok (left, last)) :
    last.Sound ∧ ∀ other, last.count? other =
      if other = b then (pool.count? other).map (· + n) else pool.count? other := by
  rcases (retain_ok done).2 with ⟨rfl, absent⟩ | ⟨old, held⟩
  · refine ⟨sound, fun other => ?_⟩
    by_cases eq : other = b
    · simp [eq, absent]
    · simp [eq]
  · obtain ⟨_, run, recounts⟩ := sound.retain held n
    cases run.symm.trans done
    refine ⟨recounts.sound, fun other => ?_⟩
    rw [recounts.count?]
    by_cases eq : other = b
    · simp [eq, held]
    · simp [eq]

/-- The invariant of all uses: the counts of the pool are those of its history. -/
theorem Reached.count?_eq_tally (got : Reached pool history) :
    pool.Sound ∧ ∀ b, pool.count? b = tally b history := by
  induction got with
  | empty =>
    refine ⟨empty_sound, fun b => ?_⟩
    rcases b with ⟨kind, k⟩
    cases kind <;> rfl
  | acquire pre done ih =>
    obtain ⟨old, found, -⟩ := acquire_ok done
    obtain ⟨_, _, run, -, -, recounts⟩ := ih.1.acquire found _ _
    cases run.symm.trans done
    refine ⟨recounts.sound, fun y => ?_⟩
    rw [recounts.count?, tally, ih.2]
  | retain pre done ih =>
    obtain ⟨ok, counts⟩ := ih.1.count?_retain done
    exact ⟨ok, fun y => by rw [counts, tally, ih.2]⟩
  | release pre done ih =>
    obtain ⟨ok, counts⟩ := ih.1.count?_retain done
    exact ⟨ok, fun y => by rw [counts, tally, ih.2]; rfl⟩

theorem Sound.tallied (ok : pool.Sound) (counts : ∀ b, pool.count? b = tally b history) :
    pool.Tallied history := by
  intro kind buckets got
  have held := ok kind buckets got
  refine ⟨by rw [sizeOf, got], held.counts_nodup, held.indices_nodup, fun k => ?_,
    fun k n => ?_⟩
  · rw [held.numbered.mem_iff, mem_map]
    constructor
    · rintro ⟨i, inRange, rfl⟩
      exact ⟨Int.natCast_nonneg i, Int.ofNat_lt.mpr (mem_range.mp inRange)⟩
    · rintro ⟨nonneg, lt⟩
      exact ⟨k.toNat, mem_range.mpr (by omega), Int.toNat_of_nonneg nonneg⟩
  · rw [← counts, Pool.count?, got, Option.bind_some, held.countOf?_iff]

theorem Sound.serves (ok : pool.Sound) (counts : ∀ b, pool.count? b = tally b history) :
    pool.Serves history := by
  intro kind isS n excluded alloc
  obtain ⟨old, got⟩ : ∃ old, pool.buckets? kind = some old := by
    rcases mem_pair.mp isS with rfl | rfl <;> exact ⟨_, rfl⟩
  obtain ⟨b, last, done, ofKind, arg, -⟩ := ok.acquire got n excluded
  refine ⟨b, last, done, ofKind, ?_, ?_, (acquire_ok done).choose_spec.2⟩
  · rcases arg with new | ⟨-, allowed⟩
    · intro mem
      have isSome := alloc b mem
      rw [← counts, new] at isSome
      cases isSome
    · exact allowed
  · rcases arg with new | ⟨free, -⟩
    · refine .inr ⟨counts b ▸ new, fun k y held => ?_⟩
      by_cases zero : y = 0
      · rw [zero, ← counts] at held
        exact .inr (ok.acquire_new done new held)
      · exact .inl zero
    · exact .inl (counts b ▸ free)

theorem Sound.counts (ok : pool.Sound) (counts : ∀ b, pool.count? b = tally b history) :
    pool.Counts history := by
  refine ⟨fun b n more held => ?_, fun b more special => ?_⟩
  · rw [← counts] at held
    obtain ⟨more', run, -⟩ := ok.retain held more
    obtain ⟨less, runLess, -⟩ := ok.retain held (-more)
    exact ⟨⟨more', run, (retain_ok run).1⟩, less, runLess, (retain_ok runLess).1⟩
  · exact ⟨retain_uncounted special more, retain_uncounted special (-more)⟩

/-- Whatever has been done with a pool, its buffers are numbered from zero on and kept by their
tallies, a buffer that is asked for is free or new, and new only if none is free, and the counts of
one kind have nothing to do with those of the other. -/
theorem reached_tallied (reached : Reached pool history) :
    pool.Tallied history ∧ pool.Serves history ∧ pool.Counts history :=
  have ⟨sound, counts⟩ := reached.count?_eq_tally
  ⟨sound.tallied counts, sound.serves counts, sound.counts counts⟩

/-- A pool from which the first buffer was handed out with the count zero, so that it stayed free and
was handed out again. -/
def twice : Pool :=
  { float := [(0, []), (2, [0])], integer := [(0, []), (1, []), (-1, [0])] }

def twiceUses : List Use :=
  [.released ⟨.integer, 0⟩ 2, .acquired ⟨.integer, 0⟩ 1, .retained .zero 3,
    .acquired ⟨.float, 0⟩ 2, .acquired ⟨.float, 0⟩ 0]

theorem twice_reached : Reached twice twiceUses := by
  have first : Reached _ [.acquired ⟨.float, 0⟩ 0] :=
    @Reached.acquire _ _ _ .float _ [] _ .empty rfl
  have snd : Reached _ (.acquired ⟨.float, 0⟩ 2 :: _) :=
    @Reached.acquire _ _ _ .float _ [] _ first rfl
  have third : Reached _ (.retained .zero 3 :: _) := .retain snd rfl
  have fourth : Reached _ (.acquired ⟨.integer, 0⟩ 1 :: _) :=
    @Reached.acquire _ _ _ .integer _ [⟨.float, 0⟩] _ third rfl
  exact .release fourth rfl

theorem twice_tallied : Reached twice twiceUses ∧ twice.Tallied twiceUses ∧
    twice.Serves twiceUses ∧ twice.Counts twiceUses :=
  ⟨twice_reached, reached_tallied twice_reached⟩

end PatchCompiler.Pool
