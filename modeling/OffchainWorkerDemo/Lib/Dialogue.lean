/-
# Computations that ask

A computation that only asks questions is known by its dialogue: what it asks and how it
ends, once it is known how many questions were asked before.  The questions are kept by
the state, which is all the computation does to it.  A sequence has the dialogue that its
parts have one after the other (`Follows.bind`).
-/
import OffchainWorkerDemo.Lib.Exec
import Mathlib.Data.Nat.Notation

namespace OffchainWorkerDemo

variable {σ Q ε ε' α β : Type}

/-! ## Dialogues -/

/-- How a computation ends, without its state and without the message of a panic. -/
inductive Answer (ε α : Type) : Type where
  | reply (a : α)
  | failed (e : ε)
  | stop
  deriving DecidableEq

/-- A failure is handed on as a value. -/
def Answer.attempt : Answer ε α → Answer ε' (Except ε α)
  | .reply a => .reply (.ok a)
  | .failed e => .reply (.error e)
  | .stop => .stop

/-- A reply is passed on. -/
def Answer.map (k : α → β) : Answer ε α → Answer ε β
  | .reply a => .reply (k a)
  | .failed e => .failed e
  | .stop => .stop

/-- What is asked, and the answer that is made of it. -/
structure Dialogue (Q ε α : Type) where
  asked : List Q
  answer : Answer ε α
  deriving DecidableEq

namespace Dialogue

/-- Nothing is asked. -/
def silent (answer : Answer ε α) : ℕ → Dialogue Q ε α := fun _ => ⟨[], answer⟩

/-- A value that is needed; without it there is a panic. -/
def needing (o : Option α) (d : α → ℕ → Dialogue Q ε β) : ℕ → Dialogue Q ε β :=
  o.elim (silent .stop) d

/-- The same questions, with another answer. -/
def answered (f : Answer ε α → Answer ε' β) (d : Dialogue Q ε α) : Dialogue Q ε' β :=
  ⟨d.asked, f d.answer⟩

@[simp] theorem answered_asked (f : Answer ε α → Answer ε' β) (d : Dialogue Q ε α) :
    (d.answered f).asked = d.asked := rfl

/-- A reply goes on to a second dialogue, whose questions come after those of the first. -/
def bind (d : ℕ → Dialogue Q ε α) (f : α → ℕ → Dialogue Q ε β) (n : ℕ) : Dialogue Q ε β :=
  match (d n).answer with
  | .reply a =>
    let rest := f a (n + (d n).asked.length)
    ⟨(d n).asked ++ rest.asked, rest.answer⟩
  | .failed e => ⟨(d n).asked, .failed e⟩
  | .stop => ⟨(d n).asked, .stop⟩

/-- Two dialogues in a row that are both needed: a panic of the first prevents the second, and a
failure of either is a panic once both are over. -/
def both (d : ℕ → Dialogue Q ε α) (d' : ℕ → Dialogue Q ε β) (n : ℕ) : Dialogue Q ε' (α × β) :=
  let first := d n
  let second := d' (n + first.asked.length)
  match first.answer, second.answer with
  | .stop, _ => ⟨first.asked, .stop⟩
  | .reply a, .reply b => ⟨first.asked ++ second.asked, .reply (a, b)⟩
  | _, _ => ⟨first.asked ++ second.asked, .stop⟩

theorem needing_eq_reply {o : Option α} {d : α → ℕ → Dialogue Q ε β} {n : ℕ} {b : β}
    (h : (needing o d n).answer = .reply b) : ∃ a, o = some a ∧ (d a n).answer = .reply b := by
  rcases o with _ | a
  · cases h
  · exact ⟨a, rfl, h⟩

theorem length_needing_le {o : Option α} {d : α → ℕ → Dialogue Q ε β} {m : ℕ}
    (h : ∀ a n, (d a n).asked.length ≤ m) (n : ℕ) : (needing o d n).asked.length ≤ m := by
  rcases o with _ | a
  · exact Nat.zero_le m
  · exact h a n

/-- **Two dialogues are replied to** when each of them is. -/
theorem both_eq_reply {d : ℕ → Dialogue Q ε α} {d' : ℕ → Dialogue Q ε β} {n : ℕ} {r : α × β}
    (h : (both d d' n : Dialogue Q ε' (α × β)).answer = .reply r) :
    (d n).answer = .reply r.1 ∧ (d' (n + (d n).asked.length)).answer = .reply r.2 ∧
      (both d d' n : Dialogue Q ε' (α × β)).asked =
        (d n).asked ++ (d' (n + (d n).asked.length)).asked := by
  unfold both at h ⊢
  rcases hfirst : (d n).answer with a | e | _
  · rcases hsecond : (d' (n + (d n).asked.length)).answer with b | e | _
    all_goals
      simp only [hfirst, hsecond] at h
      cases h
    refine ⟨rfl, rfl, ?_⟩
    simp only [hfirst, hsecond]
  · simp only [hfirst] at h
    cases h
  · simp only [hfirst] at h
    cases h

/-- A first dialogue that stops prevents the second. -/
theorem asked_both_of_stop {d : ℕ → Dialogue Q ε α} {d' : ℕ → Dialogue Q ε β} {n : ℕ}
    (h : (d n).answer = .stop) :
    (both d d' n : Dialogue Q ε' (α × β)).asked = (d n).asked := by
  simp only [both, h]

/-- Any other is followed by the second. -/
theorem asked_both_of_ne_stop {d : ℕ → Dialogue Q ε α} {d' : ℕ → Dialogue Q ε β} {n : ℕ}
    (h : (d n).answer ≠ .stop) : (both d d' n : Dialogue Q ε' (α × β)).asked =
      (d n).asked ++ (d' (n + (d n).asked.length)).asked := by
  unfold both
  dsimp only
  split
  · rename_i hstop
    exact absurd hstop h
  · rfl
  · rfl

theorem length_both_le {d : ℕ → Dialogue Q ε α} {d' : ℕ → Dialogue Q ε β} {a b : ℕ}
    (hd : ∀ n, (d n).asked.length ≤ a) (hd' : ∀ n, (d' n).asked.length ≤ b) (n : ℕ) :
    (both d d' n : Dialogue Q ε' (α × β)).asked.length ≤ a + b := by
  have hfirst := hd n
  have hsecond := hd' (n + (d n).asked.length)
  unfold both
  dsimp only
  split
  · exact Nat.le_trans hfirst (Nat.le_add_right a b)
  · rw [List.length_append]
    exact Nat.add_le_add hfirst hsecond
  · rw [List.length_append]
    exact Nat.add_le_add hfirst hsecond

end Dialogue

theorem Answer.map_eq_reply {k : α → β} {x : Answer ε α} {b : β} (h : x.map k = .reply b) :
    ∃ a, x = .reply a ∧ k a = b := by
  rcases x with a | e | _
  · cases h
    exact ⟨a, rfl, rfl⟩
  · cases h
  · cases h

/-! ## Following a dialogue -/

/-- A state that keeps the questions asked. -/
structure Log (σ Q : Type) where
  count : σ → ℕ
  ask : σ → List Q → σ
  ask_nil : ∀ s, ask s [] = s
  ask_append : ∀ s qs qs', ask (ask s qs) qs' = ask s (qs ++ qs')
  count_ask : ∀ s qs, count (ask s qs) = count s + qs.length

/-- How a computation with this dialogue ends from `s`. -/
inductive Dialogue.Ends (log : Log σ Q) (s : σ) (d : Dialogue Q ε α) : Ended σ ε α → Prop
  | ok {a : α} (h : d.answer = .reply a) : Ends log s d (.ok a (log.ask s d.asked))
  | err {e : ε} (h : d.answer = .failed e) : Ends log s d (.err e (log.ask s d.asked))
  | trap {msg : String} (h : d.answer = .stop) : Ends log s d (.trap msg (log.ask s d.asked))

/-- From every state the computation has the dialogue that belongs to the number of questions
asked before. -/
def Follows (log : Log σ Q) (x : Exec σ ε α) (d : ℕ → Dialogue Q ε α) : Prop :=
  ∀ s, (d (log.count s)).Ends log s (x s)

section Rules

variable {log : Log σ Q}

theorem follows_pure (a : α) : Follows log (pure a : Exec σ ε α) (Dialogue.silent (.reply a)) := by
  intro s
  have hends : (⟨[], .reply a⟩ : Dialogue Q ε α).Ends log s (.ok a (log.ask s [])) := .ok rfl
  rwa [log.ask_nil] at hends

theorem follows_trap (msg : String) :
    Follows log (Exec.trap msg : Exec σ ε α) (Dialogue.silent .stop) := by
  intro s
  have hends : (⟨[], .stop⟩ : Dialogue Q ε α).Ends log s (.trap msg (log.ask s [])) := .trap rfl
  rwa [log.ask_nil] at hends

/-- A value that is unwrapped. -/
theorem follows_expect (msg : String) (o : Option α) : Follows log (Exec.expect msg o : Exec σ ε α)
    (Dialogue.silent (o.elim .stop .reply)) := by
  rcases o with _ | a
  · exact follows_trap msg
  · exact follows_pure a

theorem follows_needing (msg : String) {o : Option α} {f : α → Exec σ ε β}
    {d : α → ℕ → Dialogue Q ε β} (h : ∀ a, Follows log (f a) (d a)) :
    Follows log (Exec.expect msg o >>= f) (Dialogue.needing o d) := by
  rcases o with _ | a
  · exact follows_trap msg
  · exact h a

/-- **A sequence** asks what its parts ask, one after the other. -/
theorem Follows.bind {x : Exec σ ε α} {f : α → Exec σ ε β} {d : ℕ → Dialogue Q ε α}
    {d' : α → ℕ → Dialogue Q ε β} (hx : Follows log x d) (hf : ∀ a, Follows log (f a) (d' a)) :
    Follows log (x >>= f) (Dialogue.bind d d') := by
  intro s
  have hs := hx s
  rw [Exec.bind_apply]
  unfold Dialogue.bind
  generalize x s = ended at hs
  cases hs with
  | @ok a hanswer =>
    have ht := hf a (log.ask s (d (log.count s)).asked)
    rw [log.count_ask] at ht
    rw [hanswer, Ended.andThen_ok]
    generalize f a (log.ask s (d (log.count s)).asked) = ended at ht
    cases ht with
    | ok h =>
      rw [log.ask_append]
      exact .ok h
    | err h =>
      rw [log.ask_append]
      exact .err h
    | trap h =>
      rw [log.ask_append]
      exact .trap h
  | @err e hanswer =>
    rw [hanswer]
    exact .err rfl
  | @trap msg hanswer =>
    rw [hanswer]
    exact .trap rfl

theorem Follows.attempt {x : Exec σ ε α} {d : ℕ → Dialogue Q ε α} (hx : Follows log x d) :
    Follows log (Exec.attempt x : Exec σ ε' (Except ε α)) fun n =>
      (d n).answered Answer.attempt := by
  intro s
  have hs := hx s
  unfold Exec.attempt
  generalize x s = ended at hs
  cases hs with
  | ok hanswer => exact .ok (congrArg Answer.attempt hanswer)
  | err hanswer => exact .ok (congrArg Answer.attempt hanswer)
  | trap hanswer => exact .trap (congrArg Answer.attempt hanswer)

theorem Follows.map {x : Exec σ ε α} {d : ℕ → Dialogue Q ε α} (hx : Follows log x d) (k : α → β) :
    Follows log (x >>= fun a => pure (k a)) fun n => (d n).answered (Answer.map k) := by
  intro s
  have hs := hx s
  rw [Exec.bind_apply]
  generalize x s = ended at hs
  cases hs with
  | ok hanswer => exact .ok (congrArg (Answer.map k) hanswer)
  | err hanswer => exact .err (congrArg (Answer.map k) hanswer)
  | trap hanswer => exact .trap (congrArg (Answer.map k) hanswer)

/-- **Two computations in a row**, each of them attempted and both replies unwrapped. -/
theorem follows_both {x : Exec σ ε α} {y : Exec σ ε β} {d : ℕ → Dialogue Q ε α}
    {d' : ℕ → Dialogue Q ε β} (hx : Follows log x d) (hy : Follows log y d') (msg msg' : String) :
    Follows log (do
      let r ← Exec.attempt x
      let r' ← Exec.attempt y
      let a ← Exec.expect msg r.toOption
      let b ← Exec.expect msg' r'.toOption
      pure (a, b) : Exec σ ε' (α × β)) (Dialogue.both d d') := by
  have heq : (Dialogue.both d d' : ℕ → Dialogue Q ε' (α × β)) =
      Dialogue.bind (fun n => (d n).answered Answer.attempt) fun r =>
        Dialogue.bind (fun n => (d' n).answered Answer.attempt) fun r' =>
          Dialogue.bind (Dialogue.silent (r.toOption.elim .stop .reply)) fun a =>
            Dialogue.bind (Dialogue.silent (r'.toOption.elim .stop .reply)) fun b =>
              Dialogue.silent (.reply (a, b)) := by
    funext n
    rcases hfirst : (d n).answer with a | e | _
    case stop => simp only [Dialogue.both, Dialogue.bind, Dialogue.answered, hfirst, Answer.attempt]
    -- the second dialogue is held whatever the first one brought
    all_goals
      rcases hsecond : (d' (n + (d n).asked.length)).answer with b | e | _
      all_goals
        simp [Dialogue.both, Dialogue.bind, Dialogue.answered, Dialogue.silent, Answer.attempt,
          Except.toOption, hfirst, hsecond]
  rw [heq]
  exact hx.attempt.bind fun r => hy.attempt.bind fun r' => (follows_expect msg _).bind fun a =>
    (follows_expect msg' _).bind fun b => follows_pure (a, b)

end Rules

end OffchainWorkerDemo
