import PatchCompiler.Proofs.SignalOrder
import PatchCompiler.Proofs.Buffering
import PatchCompiler.Proofs.Pool

/-!
# Signals and the buffers they are in

While buffers are given out some outlets have been filled and some wires read. The ledger of a pool
tells which: the count of a buffer is never below the number of wires that have not been read, so a
buffer that is handed out again has no reader left. A wire that has been read has the same buffer at
both ends.
-/

namespace PatchCompiler

open List

def unread (read ws : List Wire) : Nat :=
  ws.countP fun w => w ∉ read

section Unread

variable {read ws : List Wire} {w : Wire}

theorem unread_append_le (read more ws : List Wire) :
    unread (read ++ more) ws ≤ unread read ws := by
  apply countP_mono_left
  intro w _
  simp +contextual

theorem unread_pos (mem : w ∈ ws) (new : w ∉ read) : 0 < unread read ws :=
  countP_pos_iff.mpr ⟨w, mem, by simpa using new⟩

theorem unread_le_length (read ws : List Wire) : unread read ws ≤ ws.length :=
  countP_le_length

theorem unread_append_lt (mem : w ∈ ws) (new : w ∉ read) :
    unread (read ++ [w]) ws < unread read ws := by
  induction ws with
  | nil => cases mem
  | cons first rest ih =>
    have post := unread_append_le read [w] rest
    unfold unread at ih post ⊢
    by_cases eq : first = w
    · subst eq
      rw [countP_cons_of_neg (by simp), countP_cons_of_pos (by simpa using new)]
      omega
    · have inR : w ∈ rest := by simpa [Ne.symm eq] using mem
      have drops := ih inR
      by_cases seen : first ∈ read
      · rw [countP_cons_of_neg (by simp [seen]), countP_cons_of_neg (by simp [seen])]
        exact drops
      · rw [countP_cons_of_pos (by simp [seen, eq]),
          countP_cons_of_pos (by simp [seen])]
        omega

end Unread

/-- The outlets that have a buffer of the pool and the wires that have been read from them. -/
structure Ledger (ws : Ref × Nat → List Wire) (b : Ref × Nat → Buffer)
    (filled : List (Ref × Nat)) (read : List Wire) (pool : Pool) : Prop where
  sound : pool.Sound
  rising : ∀ count, pool.Noted count → 0 ≤ count
  held : ∀ outlet ∈ filled, ∃ count, pool.count? (b outlet) = some count ∧
    (unread read (ws outlet) : Int) ≤ count
  apart : ∀ outlet ∈ filled, ∀ other ∈ filled, outlet ≠ other → b outlet = b other →
    unread read (ws outlet) = 0 ∨ unread read (ws other) = 0

namespace Ledger

variable {ws : Ref × Nat → List Wire} {b : Ref × Nat → Buffer}
  {filled : List (Ref × Nat)} {read : List Wire} {pool : Pool} {outlet : Ref × Nat}

theorem empty (ws : Ref × Nat → List Wire) (b : Ref × Nat → Buffer) : Ledger ws b [] [] .empty where
  sound := Pool.empty_sound
  rising := fun n noted => absurd noted (Pool.empty_noted n)
  held := by simp
  apart := by simp

theorem append (ledger : Ledger ws b filled read pool) (more : List Wire) :
    Ledger ws b filled (read ++ more) pool where
  sound := ledger.sound
  rising := ledger.rising
  held := by
    intro outlet inF
    rcases ledger.held outlet inF with ⟨n, cnt, enough⟩
    have fewer := unread_append_le read more (ws outlet)
    exact ⟨n, cnt, by omega⟩
  apart := by
    intro outlet inF y inFilled' ne eq
    have fewer := unread_append_le read more (ws outlet)
    have fewer' := unread_append_le read more (ws y)
    rcases ledger.apart outlet inF y inFilled' ne eq with none | none
    · exact .inl (by omega)
    · exact .inr (by omega)

/-- Reading a wire releases the buffer it comes from. All other outlets with that buffer have no
readers left, since this one has. -/
theorem reads (ledger : Ledger ws b filled read pool) (inF : outlet ∈ filled)
    {w : Wire} (mem : w ∈ ws outlet) (new : w ∉ read) :
    ∃ n last, pool.retain (b outlet) (-1) = .ok (n, last) ∧
      Ledger ws b filled (read ++ [w]) last := by
  rcases ledger.held outlet inF with ⟨n, cnt, enough⟩
  rcases ledger.sound.retain cnt (-1) with ⟨last, retained, recounts⟩
  have waiting := unread_pos mem new
  refine ⟨n + -1, last, retained, recounts.sound, ?_, ?_, (ledger.append [w]).apart⟩
  · intro y noted
    rcases recounts.only y noted with old | rfl | rfl
    · exact ledger.rising y old
    · omega
    · exact le_refl _
  · intro y inFilled'
    rw [recounts.count?]
    by_cases eq : b y = b outlet
    · refine ⟨n + -1, if_pos eq, ?_⟩
      by_cases self : y = outlet
      · subst self
        have drops := unread_append_lt mem new
        omega
      · have fewer := unread_append_le read [w] (ws y)
        rcases ledger.apart y inFilled' outlet inF self eq with none | none
        · omega
        · omega
    · rw [if_neg eq]
      exact (ledger.append [w]).held y inFilled'

theorem fills (ledger : Ledger ws b filled read pool) {kind : BufferKind}
    {bs : Buckets} (got : pool.buckets? kind = some bs) (outlet : Ref × Nat)
    (excluded : List Buffer) : ∃ arg last,
      pool.acquire kind (ws outlet).length excluded = .ok (arg, last) ∧ arg.kind = kind ∧
      (∀ y ∈ filled, b y = arg → unread read (ws y) = 0 ∧ arg ∉ excluded) ∧
      ∀ buffer', buffer' outlet = arg → (∀ y ∈ filled, buffer' y = b y) →
        Ledger ws buffer' (filled ++ [outlet]) read last := by
  rcases ledger.sound.acquire got (ws outlet).length excluded with
    ⟨arg, last, acquired, kindIs, free, recounts⟩
  have fin : ∀ y ∈ filled, b y = arg → unread read (ws y) = 0 ∧ arg ∉ excluded := by
    intro y inF eq
    rcases ledger.held y inF with ⟨n, cnt, enough⟩
    rw [eq] at cnt
    rcases free with none | ⟨zero, allowed⟩
    · rw [none] at cnt
      cases cnt
    · rw [zero] at cnt
      cases cnt
      exact ⟨by omega, allowed⟩
  refine ⟨arg, last, acquired, kindIs, fin, fun buffer' here mem => ?_⟩
  have whole := unread_le_length read (ws outlet)
  refine ⟨recounts.sound, ?_, ?_, ?_⟩
  · intro n noted
    rcases recounts.only n noted with old | rfl | rfl
    · exact ledger.rising n old
    · omega
    · exact le_refl _
  · intro y inF
    rw [recounts.count?]
    rcases mem_append.mp inF with old | last
    · rw [mem y old]
      by_cases eq : b y = arg
      · refine ⟨_, if_pos eq, ?_⟩
        have none := (fin y old eq).1
        omega
      · rw [if_neg eq]
        exact ledger.held y old
    · rw [mem_singleton.mp last, here]
      exact ⟨_, if_pos rfl, by omega⟩
  · intro first inFirst snd inSecond ne eq
    rcases mem_append.mp inFirst with oldFirst | lastFirst
    · rw [mem first oldFirst] at eq
      rcases mem_append.mp inSecond with oldSecond | lastSecond
      · rw [mem snd oldSecond] at eq
        exact ledger.apart first oldFirst snd oldSecond ne eq
      · rw [mem_singleton.mp lastSecond, here] at eq
        exact .inl (fin first oldFirst eq).1
    · rw [mem_singleton.mp lastFirst, here] at eq
      rcases mem_append.mp inSecond with oldSecond | lastSecond
      · rw [mem snd oldSecond] at eq
        exact .inr (fin snd oldSecond eq.symm).1
      · rw [mem_singleton.mp lastFirst, mem_singleton.mp lastSecond] at ne
        exact absurd rfl ne

end Ledger

namespace Net

def wiresAt (net : Net) (outlet : Ref × Nat) : List Wire :=
  (net.node outlet.1).outlets.getD outlet.2 []

def FromOutlet (net : Net) (w : Wire) (i : Nat) : Prop :=
  place? (net.node w.source).outlets.length w.outlet = some i

def ToInlet (net : Net) (w : Wire) (i : Nat) : Prop :=
  place? (net.node w.target).inlets.length w.inlet = some i

def heard (net : Net) (o : Ref) : List Wire :=
  (List.range (net.node o).inlets.length).flatMap fun i =>
    Build.signals ((net.node o).inlets.getD i [])

def sendsSignal (net : Net) (o : Ref) (i : Nat) : Bool :=
  ((Catalogue.irSpec? (net.node o).type).map fun spec =>
    (spec.outlets.getD i .control).isSignal).getD false

/-- An outlet that sends a signal and has no buffer of its own. -/
def isOpen (net : Net) (o : Ref) (i : Nat) : Bool :=
  net.sendsSignal o i && (net.outletBuffer o i).kind == .zero

def openOutlets (net : Net) (o : Ref) : List (Ref × Nat) :=
  ((List.range (net.node o).outlets.length).filter (net.isOpen o)).map (o, ·)

/-- The state of buffering when some outlets have been filled and some wires read. -/
structure Routed (net : Net) (orders : Ref → List Ref) (filled : List (Ref × Nat))
    (read : List Wire) (cur : Net) : Prop where
  alike : Alike Node.shape net cur
  orders : ∀ graph, cur.order graph = orders graph
  fits : ∀ o, net.Fits o → cur.Fits o
  ledger : Ledger net.wiresAt (fun outlet => cur.outletBuffer outlet.1 outlet.2) filled read
    cur.pool
  unfilled : ∀ o i, (o, i) ∉ filled → cur.outletBuffer o i = net.outletBuffer o i
  passed : ∀ w ∈ read, ∀ outlet inlet, net.FromOutlet w outlet → net.ToInlet w inlet →
    cur.inletBuffer w.target inlet = cur.outletBuffer w.source outlet
  unheard : ∀ o i, (∀ w ∈ read, w.target = o → ¬ net.ToInlet w i) →
    cur.inletBuffer o i = net.inletBuffer o i

namespace Routed

variable {net cur : Net} {orders : Ref → List Ref} {filled : List (Ref × Nat)}
  {read : List Wire} {o : Ref} {i : Nat} {b : Buffer} {pool : Pool} {w : Wire}

theorem reads {out : Nat} (routed : net.Routed orders filled read cur) (fits : net.Fits w.target)
    (mem : w.target < net.size) (starts : net.FromOutlet w out) (ends : net.ToInlet w i)
    (new : ∀ y ∈ read, y.target = w.target → ¬ net.ToInlet y i)
    (ledger : Ledger net.wiresAt (fun out => cur.outletBuffer out.1 out.2) filled
      (read ++ [w]) pool) : net.Routed orders filled (read ++ [w]) ((cur.setInlet w.target i
      (cur.outletBuffer w.source out)).withPool pool) := by
  have lt : i < (cur.node w.target).inletBuffers.length := by
    rw [(routed.fits _ fits).1, routed.alike.inlets]
    exact place?_lt ends
  have inNow : w.target < cur.size := by
    rw [routed.alike.1]
    exact mem
  refine ⟨routed.alike.trans (alike_setInlet.trans alike_withPool), ?_, ?_, ?_, ?_, ?_, ?_⟩
  · simpa using routed.orders
  · exact fun y otherFits => (routed.fits y otherFits).setInlet
  · simpa using ledger
  · simpa using routed.unfilled
  · intro y inRead otherOutlet otherInlet otherStarts otherEnds
    simp only [inletBuffer_withPool, outletBuffer_withPool, outletBuffer_setInlet,
      inletBuffer_setInlet inNow lt]
    rcases List.mem_append.mp inRead with old | last
    · have far : ¬ (y.target = w.target ∧ otherInlet = i) := by
        rintro ⟨sameTarget, rfl⟩
        exact new y old sameTarget otherEnds
      rw [if_neg far]
      exact routed.passed y old otherOutlet otherInlet otherStarts otherEnds
    · cases List.mem_singleton.mp last
      rw [if_pos ⟨rfl, Option.some.inj (otherEnds.symm.trans ends)⟩,
        Option.some.inj (otherStarts.symm.trans starts)]
  · intro y j none
    have far : ¬ (y = w.target ∧ j = i) := by
      rintro ⟨rfl, rfl⟩
      exact none w (by simp) rfl ends
    simp only [inletBuffer_withPool, inletBuffer_setInlet inNow lt, if_neg far]
    exact routed.unheard y j fun w inRead => none w (List.mem_append_left _ inRead)

theorem fills (routed : net.Routed orders filled read cur) (fits : net.Fits o)
    (mem : o < net.size) (lt : i < (net.node o).outlets.length)
    (new : ∀ y ∈ read, y.source = o → ¬ net.FromOutlet y i) (ledger : Ledger net.wiresAt
      (fun out => (cur.setOutlet o i b).outletBuffer out.1 out.2) (filled ++ [(o, i)]) read pool) :
    net.Routed orders (filled ++ [(o, i)]) read ((cur.setOutlet o i b).withPool pool) := by
  have boundNow : i < (cur.node o).outletBuffers.length := by
    rw [(routed.fits _ fits).2, routed.alike.outlets]
    exact lt
  have inNow : o < cur.size := by
    rw [routed.alike.1]
    exact mem
  refine ⟨routed.alike.trans (alike_setOutlet.trans alike_withPool), ?_, ?_, ledger, ?_, ?_, ?_⟩
  · simpa using routed.orders
  · exact fun y otherFits => (routed.fits y otherFits).setOutlet
  · intro y j outside
    have far : ¬ (y = o ∧ j = i) := by
      rintro ⟨rfl, rfl⟩
      exact outside (by simp)
    simp only [outletBuffer_withPool, outletBuffer_setOutlet inNow boundNow, if_neg far]
    exact routed.unfilled y j fun old => outside (List.mem_append_left _ old)
  · intro w inRead out inlet starts ends
    have far : ¬ (w.source = o ∧ out = i) := by
      rintro ⟨eq, rfl⟩
      exact new w inRead eq starts
    simp only [inletBuffer_withPool, outletBuffer_withPool, inletBuffer_setOutlet,
      outletBuffer_setOutlet inNow boundNow, if_neg far]
    exact routed.passed w inRead out inlet starts ends
  · simpa using routed.unheard

end Routed

end Net

end PatchCompiler
