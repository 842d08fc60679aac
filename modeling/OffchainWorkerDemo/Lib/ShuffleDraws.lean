/-
# The draws of a shuffle

A shuffle draws one position for each of its swaps.  Every rearrangement of a list
without repetitions comes from exactly one choice of these positions
(`existsUnique_shuffleBy`); so if the choices are equally likely, so are the
rearrangements.
-/
import OffchainWorkerDemo.Lib.Shuffle
import Mathlib.SetTheory.Cardinal.Finite
import Mathlib.Data.Nat.Factorial.Basic

namespace OffchainWorkerDemo

variable {α ρ : Type}

/-! ## Shuffling by given positions -/

/-- One position at or below each of `i, i - 1, …, 1`. -/
def Indices : ℕ → Type
  | 0 => Unit
  | i + 1 => Fin (i + 2) × Indices i

theorem card_indices (i : ℕ) : Nat.card (Indices i) = (i + 1).factorial := by
  induction i with
  | zero => exact (Nat.card_unique : Nat.card Unit = 1)
  | succ i ih =>
    show Nat.card (Fin (i + 2) × Indices i) = (i + 2).factorial
    rw [Nat.card_prod, Nat.card_fin, ih, ← Nat.factorial_succ]

/-- The shuffle that draws these positions. -/
def shuffleBy : (i : ℕ) → List α → Indices i → List α
  | 0, xs, _ => xs
  | i + 1, xs, (j, js) => shuffleBy i (swapAt xs (i + 1) j.val) js

/-- The positions a shuffle draws. -/
def indicesOf (genIndex : ρ → (i : ℕ) → Fin (i + 1) × ρ) : (i : ℕ) → ρ → Indices i × ρ
  | 0, rng => ((), rng)
  | i + 1, rng =>
    let (j, rng') := genIndex rng (i + 1)
    let (js, rng'') := indicesOf genIndex i rng'
    ((j, js), rng'')

/-- **A shuffle is the one by the positions it draws.** -/
theorem shuffleFrom_eq (genIndex : ρ → (i : ℕ) → Fin (i + 1) × ρ) (i : ℕ) (xs : List α) (rng : ρ) :
    shuffleFrom genIndex i xs rng =
      (shuffleBy i xs (indicesOf genIndex i rng).1, (indicesOf genIndex i rng).2) := by
  induction i generalizing xs rng with
  | zero => rfl
  | succ i ih => exact ih _ _

theorem shuffleBy_perm (i : ℕ) (xs : List α) (js : Indices i) : (shuffleBy i xs js).Perm xs := by
  induction i generalizing xs with
  | zero => exact List.Perm.refl xs
  | succ i ih =>
    obtain ⟨j, js⟩ := js
    exact (ih (swapAt xs (i + 1) j.val) js).trans (swapAt_perm xs (i + 1) j.val)

/-! ## What a swap moves -/

theorem getElem?_swapAt {xs : List α} {i j : ℕ} (hi : i < xs.length) (hj : j < xs.length) (k : ℕ) :
    (swapAt xs i j)[k]? = if k = i then xs[j]? else if k = j then xs[i]? else xs[k]? := by
  have hi' : i < xs.toArray.size := hi
  have hj' : j < xs.toArray.size := hj
  rw [swapAt, Array.swapIfInBounds_def, dif_pos hi', dif_pos hj', Array.getElem?_toList,
    Array.getElem?_swap]
  simp only [List.getElem_toArray, List.getElem?_toArray, List.getElem?_eq_getElem hi,
    List.getElem?_eq_getElem hj]
  split
  · rename_i hjk
    subst hjk
    split
    · rename_i hij
      subst hij
      rfl
    · rw [if_pos rfl]
  · rename_i hjk
    rw [if_neg (Ne.symm hjk)]
    split
    · rename_i hik
      rw [if_pos hik.symm]
    · rename_i hik
      rw [if_neg (Ne.symm hik)]

theorem length_swapAt (xs : List α) (i j : ℕ) : (swapAt xs i j).length = xs.length :=
  (swapAt_perm xs i j).length_eq

/-- The positions above the first swap stay as they are. -/
theorem getElem?_shuffleBy_of_lt {i : ℕ} {xs : List α} (hi : i < xs.length) (js : Indices i) {k : ℕ}
    (hk : i < k) : (shuffleBy i xs js)[k]? = xs[k]? := by
  induction i generalizing xs with
  | zero => rfl
  | succ i ih =>
    obtain ⟨j, js⟩ := js
    have hj : j.val < xs.length := by omega
    have hkj : k ≠ j.val := by omega
    rw [shuffleBy, ih (by rw [length_swapAt]; omega) js (by omega), getElem?_swapAt hi hj,
      if_neg (by omega), if_neg hkj]

/-- The first swap decides what its position holds in the end. -/
theorem getElem?_shuffleBy_self {i : ℕ} {xs : List α} (hi : i + 1 < xs.length) (j : Fin (i + 2))
    (js : Indices i) : (shuffleBy (i + 1) xs (j, js))[i + 1]? = xs[j.val]? := by
  have hj : j.val < xs.length := by omega
  rw [shuffleBy, getElem?_shuffleBy_of_lt (by rw [length_swapAt]; omega) js (Nat.lt_succ_self i),
    getElem?_swapAt hi hj, if_pos rfl]

/-! ## Every rearrangement, once -/

/-- Two rearrangements that agree above a position: the one holds there what the other holds at or
below it. -/
theorem exists_position {xs ys : List α} (hxs : xs.Nodup) {i : ℕ} (hi : i < xs.length)
    (hperm : ys.Perm xs) (habove : ∀ k, i < k → ys[k]? = xs[k]?) :
    ∃ j ≤ i, ys[i]? = xs[j]? := by
  have hlen : i < ys.length := by rwa [hperm.length_eq]
  have hys : ys.Nodup := hperm.nodup_iff.mpr hxs
  have hmem : ys[i] ∈ xs := hperm.mem_iff.mp (List.getElem_mem hlen)
  obtain ⟨j, hj, hget⟩ := List.getElem_of_mem hmem
  have hij : ys[i]? = xs[j]? := by
    rw [List.getElem?_eq_getElem hlen, List.getElem?_eq_getElem hj, hget]
  refine ⟨j, ?_, hij⟩
  -- above the position the two agree, and nothing is there twice
  by_contra hgt
  have hsame : ys[i]? = ys[j]? := hij.trans (habove j (by omega)).symm
  have := (List.getElem?_inj hlen hys).mp hsame
  omega

/-- **Every rearrangement comes from one choice of positions**, and from one only. -/
theorem existsUnique_shuffleBy {xs ys : List α} (hxs : xs.Nodup) {i : ℕ} (hi : i < xs.length)
    (hperm : ys.Perm xs) (habove : ∀ k, i < k → ys[k]? = xs[k]?) :
    ∃! js : Indices i, shuffleBy i xs js = ys := by
  induction i generalizing xs with
  | zero =>
    obtain ⟨j, hj, hij⟩ := exists_position hxs hi hperm habove
    obtain rfl : j = 0 := by omega
    refine ⟨(), ?_, fun _ _ => rfl⟩
    refine List.ext_getElem? fun k => ?_
    rcases Nat.eq_zero_or_pos k with rfl | hk
    · exact hij.symm
    · exact (habove k hk).symm
  | succ i ih =>
    obtain ⟨j, hj, hij⟩ := exists_position hxs hi hperm habove
    have hjlen : j < xs.length := by omega
    -- the first swap puts the right element at its position
    have hperm' : ys.Perm (swapAt xs (i + 1) j) := hperm.trans (swapAt_perm xs (i + 1) j).symm
    have hnodup' : (swapAt xs (i + 1) j).Nodup := (swapAt_perm xs (i + 1) j).nodup_iff.mpr hxs
    have hlen' : i < (swapAt xs (i + 1) j).length := by
      rw [length_swapAt]
      omega
    have habove' : ∀ k, i < k → ys[k]? = (swapAt xs (i + 1) j)[k]? := by
      intro k hk
      rw [getElem?_swapAt hi hjlen]
      by_cases hki : k = i + 1
      · rw [if_pos hki, hki, hij]
      · rw [if_neg hki, if_neg (by omega)]
        exact habove k (by omega)
    obtain ⟨js, hjs, hunique⟩ := ih hnodup' hlen' hperm' habove'
    refine ⟨(⟨j, by omega⟩, js), hjs, ?_⟩
    rintro ⟨l, ls⟩ hls
    have hget : xs[l.val]? = xs[j]? := by
      rw [← getElem?_shuffleBy_self hi l ls, hls, hij]
    have hl : l.val = j := (List.getElem?_inj (by omega) hxs).mp hget
    subst hl
    rw [hunique ls hls]

end OffchainWorkerDemo
