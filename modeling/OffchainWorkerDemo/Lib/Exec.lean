/-
# Computations that return, fail or trap

A computation over a state ends in one of three ways: it returns a value, it
returns an error with the writes made so far kept, or it traps.  A trap keeps
the state it happened in, so that a caller outside any transaction can still see
it; `Ended.outcome` is what is left once a trapped run has been rolled back.
-/
import Mathlib.Logic.Function.Basic

namespace OffchainWorkerDemo

/-! ## The monad -/

/-- How a computation over the state `σ` ends. -/
inductive Ended (σ ε α : Type) : Type where
  | ok (a : α) (s : σ) : Ended σ ε α
  | err (e : ε) (s : σ) : Ended σ ε α
  | trap (msg : String) (s : σ) : Ended σ ε α
  deriving DecidableEq

/-- A computation over the state `σ` with errors in `ε`. -/
def Exec (σ ε α : Type) : Type := σ → Ended σ ε α

variable {σ ε ε' α β β' : Type}

/-- Run `f` on a returned value; errors and traps pass through. -/
def Ended.andThen : Ended σ ε α → (α → Exec σ ε β) → Ended σ ε β
  | .ok a s, f => f a s
  | .err e s, _ => .err e s
  | .trap msg s, _ => .trap msg s

@[simp] theorem Ended.andThen_ok (a : α) (s : σ) (f : α → Exec σ ε β) :
    (Ended.ok a s).andThen f = f a s := rfl

@[simp] theorem Ended.andThen_err (e : ε) (s : σ) (f : α → Exec σ ε β) :
    (Ended.err e s).andThen f = .err e s := rfl

@[simp] theorem Ended.andThen_trap (msg : String) (s : σ) (f : α → Exec σ ε β) :
    (Ended.trap msg s).andThen f = .trap msg s := rfl

namespace Exec

instance : Monad (Exec σ ε) where
  pure a := fun s => .ok a s
  bind x f := fun s => (x s).andThen f

@[simp] theorem pure_apply (a : α) (s : σ) : (pure a : Exec σ ε α) s = .ok a s := rfl

@[simp] theorem bind_apply (x : Exec σ ε α) (f : α → Exec σ ε β) (s : σ) :
    (x >>= f) s = (x s).andThen f := rfl

instance : LawfulMonad (Exec σ ε) := by
  refine LawfulMonad.mk' (Exec σ ε) ?_ ?_ ?_
  · intro α x
    funext s
    show (x s).andThen _ = x s
    cases x s <;> rfl
  · intro α β a f
    rfl
  · intro α β γ x f g
    funext s
    show ((x s).andThen f).andThen g = (x s).andThen fun a => f a >>= g
    cases x s <;> rfl

/-! ## Primitives -/

/-- The current state. -/
def get : Exec σ ε σ := fun s => .ok s s

/-- Apply a write. -/
def modify (f : σ → σ) : Exec σ ε Unit := fun s => .ok () (f s)

/-- Return an error; the writes made so far stay. -/
def fail (e : ε) : Exec σ ε α := fun s => .err e s

/-- Panic. -/
def trap (msg : String) : Exec σ ε α := fun s => .trap msg s

/-- `expect` and `unwrap`: a missing value is a panic. -/
def expect (msg : String) : Option α → Exec σ ε α
  | some a => pure a
  | none => trap msg

/-- `?` on a value: an `Err` is returned to the caller. -/
def ofExcept : Except ε α → Exec σ ε α
  | .ok a => pure a
  | .error e => fail e

/-- Hand the error of `x` to the caller as a value; a panic still passes through. -/
def attempt (x : Exec σ ε α) : Exec σ ε' (Except ε α) := fun s =>
  match x s with
  | .ok a s' => .ok (.ok a) s'
  | .err e s' => .ok (.error e) s'
  | .trap msg s' => .trap msg s'

/-- `map_err` -/
def mapErr (f : ε → ε') (x : Exec σ ε α) : Exec σ ε' α := fun s =>
  match x s with
  | .ok a s' => .ok a s'
  | .err e s' => .err (f e) s'
  | .trap msg s' => .trap msg s'

@[simp] theorem get_apply (s : σ) : (get : Exec σ ε σ) s = .ok s s := rfl

@[simp] theorem modify_apply (f : σ → σ) (s : σ) :
    (modify f : Exec σ ε Unit) s = .ok () (f s) := rfl

@[simp] theorem fail_apply (e : ε) (s : σ) : (fail e : Exec σ ε α) s = .err e s := rfl

@[simp] theorem trap_apply (msg : String) (s : σ) :
    (trap msg : Exec σ ε α) s = .trap msg s := rfl

@[simp] theorem expect_some (msg : String) (a : α) (s : σ) :
    (expect msg (some a) : Exec σ ε α) s = .ok a s := rfl

@[simp] theorem expect_none (msg : String) (s : σ) :
    (expect msg none : Exec σ ε α) s = .trap msg s := rfl

@[simp] theorem expect_some_bind (msg : String) (a : α) (f : α → Exec σ ε β) :
    (expect msg (some a) >>= f) = f a := rfl

@[simp] theorem expect_none_bind (msg : String) (f : α → Exec σ ε β) :
    (expect msg none >>= f) = trap msg := rfl

@[simp] theorem ofExcept_ok (a : α) (s : σ) :
    (ofExcept (.ok a) : Exec σ ε α) s = .ok a s := rfl

@[simp] theorem ofExcept_error (e : ε) (s : σ) :
    (ofExcept (.error e) : Exec σ ε α) s = .err e s := rfl

@[simp] theorem ite_apply (c : Prop) [Decidable c] (x y : Exec σ ε α) (s : σ) :
    (if c then x else y) s = if c then x s else y s := by
  split <;> rfl

/-! ## What a caller sees of a rolled back run -/

end Exec

/-- The result and the state left behind; `none` when the run trapped and its
writes were rolled back. -/
def Ended.outcome : Ended σ ε α → Option (Except ε α × σ)
  | .ok a s => some (.ok a, s)
  | .err e s => some (.error e, s)
  | .trap _ _ => none

@[simp] theorem Ended.outcome_ok (a : α) (s : σ) :
    (Ended.ok a s : Ended σ ε α).outcome = some (.ok a, s) := rfl

@[simp] theorem Ended.outcome_err (e : ε) (s : σ) :
    (Ended.err e s : Ended σ ε α).outcome = some (.error e, s) := rfl

@[simp] theorem Ended.outcome_trap (msg : String) (s : σ) :
    (Ended.trap msg s : Ended σ ε α).outcome = none := rfl

/-- Continue an outcome: only a returned value goes on. -/
def continueWith (o : Option (Except ε α × σ)) (f : α → Exec σ ε β) :
    Option (Except ε β × σ) :=
  match o with
  | some (.ok a, s) => (f a s).outcome
  | some (.error e, s) => some (.error e, s)
  | none => none

@[simp] theorem continueWith_ok (a : α) (s : σ) (f : α → Exec σ ε β) :
    continueWith (some (.ok a, s)) f = (f a s).outcome := rfl

@[simp] theorem continueWith_error (e : ε) (s : σ) (f : α → Exec σ ε β) :
    continueWith (some (.error e, s)) f = some (.error e, s) := rfl

@[simp] theorem continueWith_none (f : α → Exec σ ε β) :
    continueWith (none : Option (Except ε α × σ)) f = none := rfl

/-- The outcome of a sequence depends on its first part through its outcome only. -/
theorem Ended.outcome_andThen (x : Ended σ ε α) (f : α → Exec σ ε β) :
    (x.andThen f).outcome = continueWith x.outcome f := by
  cases x <;> rfl

theorem Exec.outcome_get_bind (f : σ → Exec σ ε β) (s : σ) :
    ((Exec.get >>= f) s).outcome = (f s s).outcome := rfl

/-- A conversion that is unwrapped stops the rest exactly when it fails. -/
theorem Exec.outcome_expect_bind (msg : String) (o : Option α) (f : α → Exec σ ε β) (s : σ) :
    ((Exec.expect msg o >>= f) s).outcome = o.bind fun a => (f a s).outcome := by
  cases o <;> rfl

/-- What is attempted hands its whole outcome to the rest, an error as a value. -/
theorem Exec.outcome_attempt_bind (x : Exec σ ε α) (f : Except ε α → Exec σ ε' β) (s : σ) :
    ((Exec.attempt x >>= f) s).outcome = (x s).outcome.bind fun r => (f r.1 r.2).outcome := by
  rw [Exec.bind_apply, Exec.attempt]
  cases x s <;> rfl

/-- The state left behind by a transaction that started in `s`. -/
def Ended.commit (s : σ) (x : Ended σ ε α) : σ :=
  (x.outcome.map Prod.snd).getD s

@[simp] theorem Ended.commit_ok (s : σ) (a : α) (s' : σ) :
    (Ended.ok a s' : Ended σ ε α).commit s = s' := rfl

@[simp] theorem Ended.commit_err (s : σ) (e : ε) (s' : σ) :
    (Ended.err e s' : Ended σ ε α).commit s = s' := rfl

@[simp] theorem Ended.commit_trap (s : σ) (msg : String) (s' : σ) :
    (Ended.trap msg s' : Ended σ ε α).commit s = s := rfl

namespace Exec

/-! ## Loops of fallible conversions -/

/-- A loop that unwraps one conversion per element unwraps the whole conversion:
its outcome is that of `List.mapM` in `Option`. -/
theorem mapM_expect_apply (msg : String) (f : α → Option β) (xs : List α) (s : σ) :
    (xs.mapM (fun x => (expect msg (f x) : Exec σ ε β))) s =
      match xs.mapM f with
      | some ys => .ok ys s
      | none => .trap msg s := by
  induction xs with
  | nil => rfl
  | cons x xs ih =>
    -- the first missing value stops both
    rw [List.mapM_cons, List.mapM_cons, bind_apply]
    cases hx : f x with
    | none => rfl
    | some y =>
      simp only [expect_some, Ended.andThen_ok, bind_apply, ih]
      cases xs.mapM f <;> rfl

theorem outcome_mapM_expect_bind (msg : String) (f : α → Option β) (xs : List α)
    (g : List β → Exec σ ε β') (s : σ) :
    ((xs.mapM (fun x => (expect msg (f x) : Exec σ ε β)) >>= g) s).outcome =
      (xs.mapM f).bind fun ys => (g ys s).outcome := by
  rw [bind_apply, mapM_expect_apply]
  cases xs.mapM f <;> rfl

end Exec

/-! ## What a run does to its state, however it ends -/

/-- The state a computation stopped in. -/
def Ended.state : Ended σ ε α → σ
  | .ok _ s => s
  | .err _ s => s
  | .trap _ s => s

namespace Exec

/-- From every state, the state `x` stops in is related to it. -/
def Within (R : σ → σ → Prop) (x : Exec σ ε α) : Prop := ∀ s, R s (x s).state

/-- A coarser relation. -/
theorem Within.mono {R R' : σ → σ → Prop} {x : Exec σ ε α} (hx : Within R x)
    (h : ∀ s t, R s t → R' s t) : Within R' x := fun s => h _ _ (hx s)

section Within

variable {R : σ → σ → Prop} (hrefl : ∀ s, R s s)
  (htrans : ∀ s t u, R s t → R t u → R s u)

include hrefl

theorem within_pure (a : α) : Within R (pure a : Exec σ ε α) := fun s => hrefl s

theorem within_expect (msg : String) (o : Option α) : Within R (expect msg o : Exec σ ε α) := by
  intro s
  cases o <;> exact hrefl s

omit hrefl

theorem within_modify {f : σ → σ} (h : ∀ s, R s (f s)) : Within R (modify f : Exec σ ε Unit) :=
  fun s => h s

include htrans in
/-- A sequence relates its states when both its parts do. -/
theorem within_bind {x : Exec σ ε α} {f : α → Exec σ ε β} (hx : Within R x)
    (hf : ∀ a, Within R (f a)) : Within R (x >>= f) := by
  intro s
  have hs := hx s
  rw [bind_apply]
  cases h : x s with
  | ok a s' =>
    rw [h] at hs
    exact htrans _ _ _ hs (hf a s')
  | err e s' =>
    rw [h] at hs
    exact hs
  | trap msg s' =>
    rw [h] at hs
    exact hs

theorem within_attempt {x : Exec σ ε α} (hx : Within R x) :
    Within R (attempt x : Exec σ ε' (Except ε α)) := by
  intro s
  have hs := hx s
  unfold attempt
  cases h : x s <;> rw [h] at hs <;> exact hs

include hrefl htrans in
theorem within_forM {xs : List β} {f : β → Exec σ ε Unit} (hf : ∀ b, Within R (f b)) :
    Within R (forM xs f) := by
  induction xs with
  | nil => exact within_pure hrefl ()
  | cons b xs ih =>
    rw [List.forM_cons]
    exact within_bind htrans (hf b) fun _ => ih

end Within

/-! ## What a panic can say -/

/-- Every panic of `x`, from any state, has a message that satisfies `P`. -/
def TrapsIn (P : String → Prop) (x : Exec σ ε α) : Prop :=
  ∀ s msg s', x s = .trap msg s' → P msg

section TrapsIn

variable {P : String → Prop}

theorem trapsIn_pure (a : α) : TrapsIn P (pure a : Exec σ ε α) := by
  intro s msg s' h
  cases h

theorem trapsIn_get : TrapsIn P (get : Exec σ ε σ) := by
  intro s msg s' h
  cases h

theorem trapsIn_modify (f : σ → σ) : TrapsIn P (modify f : Exec σ ε Unit) := by
  intro s msg s' h
  cases h

theorem trapsIn_fail (e : ε) : TrapsIn P (fail e : Exec σ ε α) := by
  intro s msg s' h
  cases h

theorem trapsIn_trap {msg : String} (h : P msg) : TrapsIn P (trap msg : Exec σ ε α) := by
  intro s msg' s' htrap
  cases htrap
  exact h

theorem trapsIn_expect {msg : String} (h : P msg) (o : Option α) :
    TrapsIn P (expect msg o : Exec σ ε α) := by
  cases o with
  | none => exact trapsIn_trap h
  | some a => exact trapsIn_pure a

/-- A sequence panics in its first part or in its second. -/
theorem trapsIn_bind {x : Exec σ ε α} {f : α → Exec σ ε β} (hx : TrapsIn P x)
    (hf : ∀ a, TrapsIn P (f a)) : TrapsIn P (x >>= f) := by
  intro s msg s' h
  rw [bind_apply] at h
  cases hs : x s with
  | ok a t =>
    rw [hs] at h
    exact hf a t msg s' h
  | err e t =>
    rw [hs] at h
    cases h
  | trap msg' t =>
    rw [hs] at h
    cases h
    exact hx s _ _ hs

theorem trapsIn_attempt {x : Exec σ ε α} (hx : TrapsIn P x) :
    TrapsIn P (attempt x : Exec σ ε' (Except ε α)) := by
  intro s msg s' h
  unfold attempt at h
  cases hs : x s with
  | ok a t =>
    rw [hs] at h
    cases h
  | err e t =>
    rw [hs] at h
    cases h
  | trap msg' t =>
    rw [hs] at h
    cases h
    exact hx s _ _ hs

theorem trapsIn_mapErr {f : ε → ε'} {x : Exec σ ε α} (hx : TrapsIn P x) :
    TrapsIn P (mapErr f x) := by
  intro s msg s' h
  unfold mapErr at h
  cases hs : x s with
  | ok a t =>
    rw [hs] at h
    cases h
  | err e t =>
    rw [hs] at h
    cases h
  | trap msg' t =>
    rw [hs] at h
    cases h
    exact hx s _ _ hs

theorem trapsIn_forM {xs : List β} {f : β → Exec σ ε Unit} (hf : ∀ b, TrapsIn P (f b)) :
    TrapsIn P (forM xs f) := by
  induction xs with
  | nil => exact trapsIn_pure ()
  | cons b xs ih =>
    rw [List.forM_cons]
    exact trapsIn_bind (hf b) fun _ => ih

end TrapsIn

end Exec

end OffchainWorkerDemo
