import PatchCompiler.Fault

/-!
# Places in lists

An index counts from the front, or from the end when it is negative.
-/

namespace PatchCompiler

def place? (length : Nat) (index : Int) : Option Nat :=
  let counted := if index < 0 then index + length else index
  if 0 ≤ counted ∧ counted < length then some counted.toNat else none

def at? {α : Type} (items : List α) (index : Int) : Option α :=
  (place? items.length index).bind fun place => items[place]?

def fetch {α : Type} (items : List α) (index : Int) : Except Fault α :=
  match at? items index with
  | some item => .ok item
  | none => .error .outOfRange

theorem place?_lt {length : Nat} {index : Int} {place : Nat} (h : place? length index = some place) :
    place < length := by
  unfold place? at h
  dsimp only at h
  split at h <;> split at h <;> simp at h <;> omega

theorem place?_ofNat {length place : Nat} (h : place < length) :
    place? length (place : Int) = some place := by
  unfold place?
  have h' : ¬ ((place : Int) < 0) := by omega
  simp [h', h]

end PatchCompiler
