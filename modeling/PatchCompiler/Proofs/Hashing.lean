import Mathlib.Data.Nat.Bitwise
import PatchCompiler.Hash

/-!
# The hash of a text

The runtime hashes the bytes of a text in words of 32 bits. The hash of a text that is ASCII is the
same, although only some of its steps are cut to 32 bits.
-/

namespace PatchCompiler.Hash

open List

def factor : UInt32 := 0x5bd1e995

def digest (a b c d : UInt8) : UInt32 :=
  let k := (a.toUInt32 ||| b.toUInt32 <<< 8 ||| c.toUInt32 <<< 16 ||| d.toUInt32 <<< 24) * factor
  (k ^^^ (k >>> 24)) * factor

/-- Mixes bytes into a word, four at a time, and what is left in the end by itself. -/
def stir (x : UInt32) : List UInt8 → UInt32
  | a :: b :: c :: d :: rest => stir (x * factor ^^^ digest a b c d) rest
  | [a, b, c] => (x ^^^ c.toUInt32 <<< 16 ^^^ b.toUInt32 <<< 8 ^^^ a.toUInt32) * factor
  | [a, b] => (x ^^^ b.toUInt32 <<< 8 ^^^ a.toUInt32) * factor
  | [a] => (x ^^^ a.toUInt32) * factor
  | [] => x

/-- The hash that the runtime computes from the bytes of a text. -/
def murmur (bytes : List UInt8) : UInt32 :=
  let x := stir (UInt32.ofNat bytes.length) bytes
  let x := (x ^^^ (x >>> 13)) * factor
  x ^^^ (x >>> 15)

theorem low_lt (n : Nat) : low n < 2 ^ 32 :=
  Nat.and_lt_two_pow n (by decide)

theorem low_eq_mod (n : Nat) : low n = n % 2 ^ 32 :=
  Nat.and_two_pow_sub_one_eq_mod n 32

theorem toNat_mul_factor (x : UInt32) : (x * factor).toNat = low (x.toNat * multiplier) := by
  rw [UInt32.toNat_mul, low_eq_mod]
  rfl

theorem finish_lt (h : Nat) : finish h < 2 ^ 32 :=
  Nat.xor_lt_two_pow (low_lt _) ((Nat.shiftRight_le _ _).trans_lt (low_lt _))

theorem toNat_shifted (b : UInt8) {i : Nat} (lt : i < 32) :
    (b.toUInt32 <<< UInt32.ofNat i).toNat = low (b.toNat <<< i) := by
  have amount : (UInt32.ofNat i).toNat % 32 = i := by
    rw [UInt32.toNat_ofNat', Nat.mod_eq_of_lt (by omega : i < 2 ^ 32), Nat.mod_eq_of_lt lt]
  rw [UInt32.toNat_shiftLeft, amount, UInt8.toNat_toUInt32, low_eq_mod]

theorem toNat_or_shiftLeft {x : UInt32} (b : UInt8) {i : Nat} (le : i ≤ 24) (lt : x.toNat < 2 ^ i) :
    (x ||| b.toUInt32 <<< UInt32.ofNat i).toNat = x.toNat + 2 ^ i * b.toNat := by
  have small : b.toNat * 2 ^ i < 2 ^ 32 :=
    calc b.toNat * 2 ^ i < 2 ^ 8 * 2 ^ 24 :=
          Nat.mul_lt_mul_of_lt_of_le b.toNat_lt (Nat.pow_le_pow_right (by decide) le) (by decide)
      _ = 2 ^ 32 := by decide
  rw [UInt32.toNat_or, toNat_shifted b (by omega), low_eq_mod, Nat.shiftLeft_eq,
    Nat.mod_eq_of_lt small, Nat.mul_comm, Nat.or_comm, ← Nat.two_pow_add_eq_or_of_lt lt,
    Nat.add_comm]

theorem toNat_digest (a b c d : UInt8) : (digest a b c d).toNat = scramble (word a b c d) := by
  have first := a.toNat_lt
  have second := b.toNat_lt
  have third := c.toNat_lt
  have two := toNat_or_shiftLeft (x := a.toUInt32) b (i := 8) (by decide) first
  rw [UInt8.toNat_toUInt32] at two
  have three := toNat_or_shiftLeft c (i := 16) (by decide) (two.trans_lt (by omega))
  rw [two] at three
  have joined := toNat_or_shiftLeft d (i := 24) (by decide) (three.trans_lt (by omega))
  have whole : word a b c d = a.toNat + 2 ^ 8 * b.toNat + 2 ^ 16 * c.toNat + 2 ^ 24 * d.toNat := by
    unfold word
    omega
  rw [three, ← whole] at joined
  simp only [digest, scramble, toNat_mul_factor, UInt32.toNat_xor, UInt32.toNat_shiftRight,
    ← joined]
  rfl

theorem toNat_finish (x : UInt32) :
    ((x ^^^ (x >>> 13)) * factor ^^^ (((x ^^^ (x >>> 13)) * factor) >>> 15)).toNat =
      finish x.toNat := by
  simp only [finish, toNat_mul_factor, UInt32.toNat_xor, UInt32.toNat_shiftRight]
  rfl

/-- The code of an ASCII character is one byte, and that of another character is longer. -/
theorem length_utf8EncodeChar_eq_one_iff (c : Char) :
    (String.utf8EncodeChar c).length = 1 ↔ c.toNat < 128 := by
  rw [String.length_utf8EncodeChar, Char.utf8Size_eq_one_iff, UInt32.le_iff_toNat_le]
  exact Nat.lt_succ_iff.symm

theorem exists_byte {c : Char} (lt : c.toNat < 128) :
    ∃ b : UInt8, String.utf8EncodeChar c = [b] ∧ b.toNat = c.toNat := by
  have size := (length_utf8EncodeChar_eq_one_iff c).mpr lt
  rw [String.length_utf8EncodeChar] at size
  refine ⟨_, String.utf8EncodeChar_eq_singleton size, ?_⟩
  exact (UInt32.toNat_toUInt8 c.val).trans (Nat.mod_eq_of_lt (Nat.lt_trans lt (by decide)))

theorem length_group_eq_four_iff (a b c d : Char) :
    ([a, b, c, d].flatMap String.utf8EncodeChar).length = 4 ↔
      ∀ e ∈ [a, b, c, d], e.toNat < 128 := by
  have pos : ∀ e : Char, 0 < (String.utf8EncodeChar e).length := by
    intro e
    rw [String.length_utf8EncodeChar]
    exact e.utf8Size_pos
  have := pos a
  have := pos b
  have := pos c
  have := pos d
  simp only [← length_utf8EncodeChar_eq_one_iff, flatMap_cons, flatMap_nil,
    length_append, length_nil, forall_mem_cons, not_mem_nil, false_imp_iff, implies_true, and_true]
  omega

theorem take_groups (a b c d : Char) (rest : List Char) :
    (a :: b :: c :: d :: rest).take (4 * ((a :: b :: c :: d :: rest).length / 4)) =
      [a, b, c, d] ++ rest.take (4 * (rest.length / 4)) := by
  have count : 4 * ((rest.length + 1 + 1 + 1 + 1) / 4) = 4 * (rest.length / 4) + 4 := by omega
  simp only [length_cons, count, take_succ_cons, cons_append, nil_append]

theorem mixAll_eq_error_iff (h : Nat) (cs : List Char) : (∃ fault, mixAll h cs = .error fault) ↔
      ∃ c ∈ cs.take (4 * (cs.length / 4)), 128 ≤ c.toNat := by
  fun_induction mixAll h cs with
  | case1 h a b c d rest w x y z bytes ih =>
    have ascii := (length_group_eq_four_iff a b c d).mp (by rw [bytes]; rfl)
    rw [ih, take_groups]
    constructor
    · rintro ⟨e, mem, le⟩
      exact ⟨e, mem_append_right _ mem, le⟩
    · rintro ⟨e, mem, le⟩
      rcases mem_append.mp mem with group | later
      · exact absurd (ascii e group) le.not_gt
      · exact ⟨e, later, le⟩
  | case2 h a b c d rest odd =>
    have other : ∃ e ∈ [a, b, c, d], 128 ≤ e.toNat := by
      by_contra none
      simp only [not_exists, not_and, Nat.not_le] at none
      have four := (length_group_eq_four_iff a b c d).mpr none
      match eq : [a, b, c, d].flatMap String.utf8EncodeChar, four with
      | [w, x, y, z], _ => exact odd w x y z eq
    obtain ⟨e, mem, le⟩ := other
    rw [take_groups]
    exact iff_of_true ⟨_, rfl⟩ ⟨e, mem_append_left _ mem, le⟩
  | case3 h rest short =>
    have none : rest.length / 4 = 0 := by
      match rest with
      | [] | [_] | [_, _] | [_, _, _] => simp
      | a :: b :: c :: d :: rest => exact absurd rfl (short a b c d rest)
    simp [none]

theorem toNat_mix (x : UInt32) (a b c d : UInt8) :
    (x * factor ^^^ digest a b c d).toNat = mix x.toNat (word a b c d) := by
  rw [UInt32.toNat_xor, toNat_mul_factor, toNat_digest]
  rfl

theorem exists_bytes {cs : List Char} (ascii : ∀ c ∈ cs, c.toNat < 128) :
    ∃ bytes, cs.flatMap String.utf8EncodeChar = bytes ∧
      cs.map Char.toNat = bytes.map UInt8.toNat := by
  induction cs with
  | nil => exact ⟨[], rfl, rfl⟩
  | cons c cs ih =>
    obtain ⟨b, one, code⟩ := exists_byte (ascii c mem_cons_self)
    obtain ⟨bytes, rest, codes⟩ := ih fun e mem => ascii e (mem_cons_of_mem c mem)
    refine ⟨b :: bytes, by rw [flatMap_cons, one, rest, singleton_append], ?_⟩
    rw [map_cons, map_cons, code, codes]

theorem mixRest_bytes (x : UInt32) {bytes : List UInt8} (short : bytes.length < 4) :
    mixRest x.toNat (bytes.map UInt8.toNat) = (stir x bytes).toNat := by
  have second : ∀ b : UInt8, (b.toUInt32 <<< 8).toNat = low (b.toNat <<< 8) := fun b =>
    toNat_shifted b (i := 8) (by decide)
  have third : ∀ b : UInt8, (b.toUInt32 <<< 16).toNat = low (b.toNat <<< 16) := fun b =>
    toNat_shifted b (i := 16) (by decide)
  match bytes with
  | [] => rfl
  | [_] | [_, _] | [_, _, _] =>
    simp only [map_cons, map_nil, mixRest, stir, toNat_mul_factor, UInt32.toNat_xor,
      UInt8.toNat_toUInt32, second, third]

theorem mixAll_ascii (x : UInt32) : ∀ {cs : List Char}, (∀ c ∈ cs, c.toNat < 128) →
    mixAll x.toNat cs = .ok (stir x (cs.flatMap String.utf8EncodeChar)).toNat
  | a :: b :: c :: d :: rest, ascii => by
    have split : ∀ e ∈ [a, b, c, d] ++ rest, e.toNat < 128 := ascii
    obtain ⟨group, later⟩ := forall_mem_append.mp split
    have four := (length_group_eq_four_iff a b c d).mpr group
    have whole : (a :: b :: c :: d :: rest).flatMap String.utf8EncodeChar =
        [a, b, c, d].flatMap String.utf8EncodeChar ++ rest.flatMap String.utf8EncodeChar := by
      rw [← flatMap_append]
      rfl
    match encoded : [a, b, c, d].flatMap String.utf8EncodeChar, four with
    | [i, j, k, l], _ =>
      have next := mixAll_ascii (x * factor ^^^ digest i j k l) later
      rw [toNat_mix] at next
      rw [whole, encoded, mixAll, encoded]
      exact next
  | [], _ => rfl
  | [a], ascii | [a, b], ascii | [a, b, c], ascii => by
    obtain ⟨bytes, encoded, codes⟩ := exists_bytes ascii
    rw [encoded, ← mixRest_bytes x, ← codes]
    · rfl
    · rw [← length_map UInt8.toNat, ← codes]
      simp

/-- A hash exists if the groups of four characters are ASCII. It has 32 bits, and for an ASCII text
it is the hash that the runtime computes from the bytes of the text. -/
theorem ofText_murmur (s : String) (other : s ≠ "bang") :
    ((∃ fault, ofText s = .error fault) ↔ ∃ c ∈ s.toList.take (4 * (s.length / 4)), 128 ≤ c.toNat) ∧
      (∀ hash, ofText s = .ok hash → hash < 2 ^ 32) ∧
      ((∀ c ∈ s.toList, c.toNat < 128) → s.length < 2 ^ 32 →
        ofText s = .ok (murmur s.toUTF8.data.toList).toNat) := by
  have mixed : ofText s = finish <$> mixAll s.length s.toList := if_neg other
  refine ⟨?_, ?_, ?_⟩
  · rw [mixed, ← String.length_toList, ← mixAll_eq_error_iff s.toList.length]
    cases mixAll s.toList.length s.toList <;> simp
  · intro hash eq
    rw [mixed] at eq
    cases all : mixAll s.length s.toList with
    | error fault => simp [all] at eq
    | ok h =>
      rw [all] at eq
      exact Except.ok.inj eq ▸ finish_lt h
  · intro ascii lt
    have seed : (UInt32.ofNat s.length).toNat = s.length := UInt32.toNat_ofNat_of_lt' lt
    have bytes : s.toUTF8.data.toList = s.toList.flatMap String.utf8EncodeChar := by
      rw [String.toUTF8, ← String.utf8Encode_toList, List.utf8Encode, data_toByteArray]
    have length : (s.toList.flatMap String.utf8EncodeChar).length = s.length := by
      obtain ⟨bytes, encoded, codes⟩ := exists_bytes ascii
      rw [encoded, ← length_map UInt8.toNat, ← codes, length_map, String.length_toList]
    have all := mixAll_ascii (UInt32.ofNat s.length) ascii
    rw [seed] at all
    rw [mixed, all, murmur, bytes, length]
    exact congrArg _ (toNat_finish _).symm

/-- A text with one group of four characters and a rest of three. -/
theorem ofText_channel : "channel" ≠ "bang" ∧ (∀ c ∈ "channel".toList, c.toNat < 128) ∧
    ofText "channel" = .ok (murmur [99, 104, 97, 110, 110, 101, 108]).toNat := by
  have other : "channel" ≠ "bang" := by decide
  have ascii : ∀ c ∈ "channel".toList, c.toNat < 128 := by simp
  exact ⟨other, ascii, (ofText_murmur "channel" other).2.2 ascii (by decide)⟩

end PatchCompiler.Hash
