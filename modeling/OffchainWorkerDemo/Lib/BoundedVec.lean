/-
# Bounded vectors

A list together with the proof that it is within its bound, so that no value of
the type can overflow; the two fallible operations decide the bound.
-/
import Mathlib.Data.List.Basic

namespace OffchainWorkerDemo

/-- At most `n` elements. -/
structure BoundedVec (α : Type) (n : ℕ) where
  val : List α
  bound : val.length ≤ n
  deriving DecidableEq

namespace BoundedVec

variable {α : Type} {n : ℕ}

theorem ext_val {u v : BoundedVec α n} (h : u.val = v.val) : u = v := by
  cases u
  cases v
  cases h
  rfl

/-- `Default`: the empty vector. -/
instance : Inhabited (BoundedVec α n) := ⟨⟨[], Nat.zero_le n⟩⟩

@[simp] theorem val_default : (default : BoundedVec α n).val = [] := rfl

/-- `try_from` on a plain vector. -/
def tryFrom (n : ℕ) (xs : List α) : Option (BoundedVec α n) :=
  if h : xs.length ≤ n then some ⟨xs, h⟩ else none

/-- `try_push`. -/
def tryPush (v : BoundedVec α n) (a : α) : Option (BoundedVec α n) :=
  tryFrom n (v.val ++ [a])

theorem tryFrom_of_le {xs : List α} (h : xs.length ≤ n) : tryFrom n xs = some ⟨xs, h⟩ :=
  dif_pos h

theorem tryFrom_of_not_le {xs : List α} (h : ¬ xs.length ≤ n) : tryFrom n xs = none :=
  dif_neg h

theorem tryFrom_eq_some_iff {xs : List α} {v : BoundedVec α n} :
    tryFrom n xs = some v ↔ v.val = xs := by
  unfold tryFrom
  split
  · rename_i h
    rw [Option.some_inj]
    exact ⟨fun hv => by rw [← hv], fun hv => ext_val hv.symm⟩
  · rename_i h
    constructor
    · intro hv
      cases hv
    · rintro rfl
      exact absurd v.bound h

@[simp] theorem tryFrom_val (v : BoundedVec α n) : tryFrom n v.val = some v :=
  tryFrom_eq_some_iff.mpr rfl

end BoundedVec

end OffchainWorkerDemo
