/-
# A ledger of deliveries

Items are accepted into a single place, each replacing the one before it, and taken
out of it, delivered or not.  The ledger numbers the items and keeps who is held and
who was delivered.  Nothing is lost exactly as long as every item is accepted into a
free place and every item taken is delivered.
-/
import Mathlib.Data.List.Basic

namespace OffchainWorkerDemo

/-- The items accepted, oldest first, the number of the one that is held, and the numbers of
those delivered. -/
structure Ledger (V : Type) where
  accepted : List V
  held : Option ℕ
  delivered : List ℕ
  held_lt : ∀ n ∈ held, n < accepted.length
  delivered_lt : ∀ n ∈ delivered, n < accepted.length
  /-- What is held has not been delivered. -/
  held_fresh : ∀ n ∈ held, n ∉ delivered

namespace Ledger

variable {V : Type}

/-- Nothing accepted yet. -/
def empty (V : Type) : Ledger V where
  accepted := []
  held := none
  delivered := []
  held_lt := by simp
  delivered_lt := by simp
  held_fresh := by simp

/-- Accept an item. -/
def accept (l : Ledger V) (v : V) : Ledger V where
  accepted := l.accepted ++ [v]
  held := some l.accepted.length
  delivered := l.delivered
  held_lt := by
    rintro n ⟨⟩
    simp
  delivered_lt := by
    intro n hn
    have := l.delivered_lt n hn
    rw [List.length_append]
    omega
  held_fresh := by
    rintro n ⟨⟩ hn
    exact absurd (l.delivered_lt _ hn) (Nat.lt_irrefl _)

/-- Take the item that is held, and deliver it or not. -/
def take (l : Ledger V) (deliver : Bool) : Ledger V where
  accepted := l.accepted
  held := none
  delivered := if deliver then l.delivered ++ l.held.toList else l.delivered
  held_lt := by simp
  delivered_lt := by
    intro n hn
    split at hn
    · rcases List.mem_append.mp hn with hn | hn
      · exact l.delivered_lt n hn
      · exact l.held_lt n (Option.mem_toList.mp hn)
    · exact l.delivered_lt n hn
  held_fresh := by simp

/-- The item that is held. -/
def heldItem (l : Ledger V) : Option V := l.held.bind fun n => l.accepted[n]?

/-- Every accepted item was delivered or is held. -/
def Complete (l : Ledger V) : Prop :=
  ∀ n < l.accepted.length, n ∈ l.delivered ∨ l.held = some n

theorem complete_empty : (empty V).Complete := by
  intro n hn
  cases hn

@[simp] theorem heldItem_accept (l : Ledger V) (v : V) : (l.accept v).heldItem = some v := by
  simp [heldItem, accept]

@[simp] theorem heldItem_take (l : Ledger V) (deliver : Bool) : (l.take deliver).heldItem = none :=
  rfl

/-- There is an item behind the number that is held. -/
theorem heldItem_eq_none_iff {l : Ledger V} : l.heldItem = none ↔ l.held = none := by
  rcases hheld : l.held with _ | n
  · simp [heldItem, hheld]
  · have hlt := l.held_lt n hheld
    simp [heldItem, hheld, hlt]

/-- **Accepting** loses an item exactly when one is held. -/
theorem complete_accept_iff {l : Ledger V} {v : V} :
    (l.accept v).Complete ↔ l.Complete ∧ l.held = none := by
  constructor
  · intro h
    have hnone : l.held = none := by
      rw [Option.eq_none_iff_forall_ne_some]
      intro n hn
      have hlt := l.held_lt n hn
      -- the item that was held is neither delivered nor held any more
      rcases h n (by simp only [accept, List.length_append]; omega) with hdelivered | hheld
      · exact l.held_fresh n hn hdelivered
      · have : l.accepted.length = n := Option.some_inj.mp hheld
        omega
    refine ⟨fun n hn => ?_, hnone⟩
    rcases h n (by simp only [accept, List.length_append]; omega) with hdelivered | hheld
    · exact Or.inl hdelivered
    · have : l.accepted.length = n := Option.some_inj.mp hheld
      omega
  · rintro ⟨h, hnone⟩ n hn
    rw [accept, List.length_append, List.length_singleton] at hn
    rcases Nat.lt_succ_iff_lt_or_eq.mp hn with hlt | rfl
    · rcases h n hlt with hdelivered | hheld
      · exact Or.inl hdelivered
      · rw [hnone] at hheld
        cases hheld
    · exact Or.inr rfl

/-- **Taking** loses an item exactly when one is held and not delivered. -/
theorem complete_take_iff {l : Ledger V} {deliver : Bool} :
    (l.take deliver).Complete ↔ l.Complete ∧ (l.held.isSome → deliver = true) := by
  cases deliver with
  | true =>
    constructor
    · intro h
      refine ⟨fun n hn => ?_, fun _ => rfl⟩
      rcases h n hn with hdelivered | hheld
      · rcases List.mem_append.mp hdelivered with hdelivered | hheld
        · exact Or.inl hdelivered
        · exact Or.inr (Option.mem_toList.mp hheld)
      · cases hheld
    · rintro ⟨h, -⟩ n hn
      rcases h n hn with hdelivered | hheld
      · exact Or.inl (List.mem_append_left _ hdelivered)
      · exact Or.inl (List.mem_append_right _ (Option.mem_toList.mpr hheld))
  | false =>
    constructor
    · intro h
      have hdelivered : ∀ n < l.accepted.length, n ∈ l.delivered := by
        intro n hn
        rcases h n hn with hdelivered | hheld
        · exact hdelivered
        · cases hheld
      refine ⟨fun n hn => Or.inl (hdelivered n hn), fun hsome => ?_⟩
      -- an item held and then dropped would have been delivered before
      obtain ⟨n, hn⟩ := Option.isSome_iff_exists.mp hsome
      exact absurd (hdelivered n (l.held_lt n hn)) (l.held_fresh n hn)
    · rintro ⟨h, hnone⟩ n hn
      rcases h n hn with hdelivered | hheld
      · exact Or.inl hdelivered
      · exact absurd (hnone (by rw [hheld]; rfl)) Bool.false_ne_true

end Ledger

end OffchainWorkerDemo
