/-
# Calls of any origin

Every dispatchable of the four pallets starts with `ensure_signed`, so a call that is
not signed returns `BadOrigin` and leaves the chain as it is.  A run of calls of any
origin is the run of the signed ones among them.
-/
import OffchainWorkerDemo.Runtime

namespace OffchainWorkerDemo

variable {A : Type}

/-- A call, its origin and the environment it is run with. -/
structure Extrinsic (A : Type) where
  env : Env
  origin : Origin A
  call : Call

/-- The signed call, if the extrinsic is signed. -/
def Extrinsic.signed (x : Extrinsic A) : Option (SignedCall A) :=
  match x.origin with
  | .signed who => some ⟨x.env, who, x.call⟩
  | _ => none

/-- The signed calls of a list of extrinsics, in their order. -/
def signedCalls (xs : List (Extrinsic A)) : List (SignedCall A) := xs.filterMap Extrinsic.signed

variable [DecidableEq A]

/-- **A call that is not signed returns `BadOrigin`** before it does anything. -/
theorem dispatch_of_not_signed (env : Env) {origin : Origin A}
    (h : ∀ who, origin ≠ .signed who) (call : Call) (s : Chain A) :
    dispatch env origin call s = .err .badOrigin s := by
  have hensure : (ensureSigned origin : Dispatch A A) = Exec.fail .badOrigin := by
    rcases origin with _ | who | _
    · rfl
    · exact absurd rfl (h who)
    · rfl
  cases call <;> exact congrArg (fun x : Dispatch A A => (x >>= _) s) hensure

namespace Extrinsic

/-- How an extrinsic ends: `none` when it traps. -/
def result (x : Extrinsic A) (s : Chain A) : Option (Except DispatchError Unit) :=
  (dispatch x.env x.origin x.call s).outcome.map Prod.fst

/-- The state after an extrinsic; one that traps leaves no trace. -/
def apply (x : Extrinsic A) (s : Chain A) : Chain A :=
  (dispatch x.env x.origin x.call s).commit s

omit [DecidableEq A] in
theorem not_signed_of_signed_eq_none {x : Extrinsic A} (h : x.signed = none) (who : A) :
    x.origin ≠ .signed who := by
  intro hwho
  rw [signed, hwho] at h
  cases h

omit [DecidableEq A] in
theorem eq_of_signed_eq_some {x : Extrinsic A} {y : SignedCall A} (h : x.signed = some y) :
    x = ⟨y.env, .signed y.who, y.call⟩ := by
  rcases x with ⟨env, _ | who | _, call⟩
  · cases h
  · cases h
    rfl
  · cases h

/-- An extrinsic ends as its signed call does, or with `BadOrigin`. -/
theorem result_eq (x : Extrinsic A) (s : Chain A) :
    x.result s = (x.signed.map fun y => y.result s).getD (some (.error .badOrigin)) := by
  rcases hsigned : x.signed with _ | y
  · rw [result, dispatch_of_not_signed _ (not_signed_of_signed_eq_none hsigned)]
    rfl
  · rw [eq_of_signed_eq_some hsigned]
    rfl

/-- An extrinsic does what its signed call does, or nothing. -/
theorem apply_eq (x : Extrinsic A) (s : Chain A) :
    x.apply s = (x.signed.map fun y => y.apply s).getD s := by
  rcases hsigned : x.signed with _ | y
  · rw [apply, dispatch_of_not_signed _ (not_signed_of_signed_eq_none hsigned)]
    rfl
  · rw [eq_of_signed_eq_some hsigned]
    rfl

end Extrinsic

/-- The state after extrinsics, one after another. -/
def runExtrinsics (s : Chain A) (xs : List (Extrinsic A)) : Chain A :=
  xs.foldl (fun s x => x.apply s) s

/-- **A run of extrinsics is the run of its signed calls.** -/
theorem runExtrinsics_eq (s : Chain A) (xs : List (Extrinsic A)) :
    runExtrinsics s xs = runFrom s (signedCalls xs) := by
  induction xs generalizing s with
  | nil => rfl
  | cons x xs ih =>
    have hstep : runExtrinsics s (x :: xs) = runExtrinsics (x.apply s) xs := rfl
    rw [hstep, ih, x.apply_eq, signedCalls, signedCalls]
    rcases hsigned : x.signed with _ | y
    · rw [List.filterMap_cons_none hsigned]
      rfl
    · rw [List.filterMap_cons_some hsigned]
      rfl

end OffchainWorkerDemo
