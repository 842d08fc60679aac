/-
# Which requests are served

The slot of a pallet is a buffer with one place.  A worker takes the jobs of some of the
accepted requests, in the order in which they were accepted, whatever happens on the node
(`jobs_taken_in_order`).  On a native node it is known which, for every schedule of the
workers (`taken_eq_buffer`): if they run after every block, of each block the last request
of the pallet (`blocks_served`).  A worker that runs once more does nothing
(`reruns_do_nothing`).
-/
import OffchainWorkerDemo.WorkerRuns
import OffchainWorkerDemo.Lib.Buffer

namespace OffchainWorkerDemo

variable {A J : Type} [DecidableEq A] {garbleApi : OcwGarble.Api} {circuitsApi : OcwCircuits.Api}

/-- The call an event applies. -/
def NodeEvent.call? : NodeEvent A → Option (SignedCall A)
  | .call x => some x
  | _ => none

namespace OcwPallet

variable (p : OcwPallet A J garbleApi circuitsApi)

/-! ## Jobs accepted and jobs taken -/

/-- The job an event takes out of the slot. -/
def takes (s : Node A) (e : NodeEvent A) : Option J :=
  if (p.envOf e).isSome ∧ ¬ p.slot.Idle s.ocw then some (p.slot.read s.ocw.storage) else none

/-- The jobs the worker takes along a run. -/
def taken : Node A → List (NodeEvent A) → List J
  | _, [] => []
  | s, e :: es => (p.takes s e).toList ++ taken (Node.step garbleApi circuitsApi s e) es

/-- The jobs of the requests that are accepted along a run of calls. -/
def jobs : Chain A → List (SignedCall A) → List J
  | _, [] => []
  | s, x :: xs => (p.jobOf x s).toList ++ jobs (x.apply s) xs

theorem jobs_append (s : Chain A) (xs ys : List (SignedCall A)) :
    p.jobs s (xs ++ ys) = p.jobs s xs ++ p.jobs (runFrom s xs) ys := by
  induction xs generalizing s with
  | nil => rfl
  | cons x xs ih =>
    rw [List.cons_append, jobs, ih, jobs, List.append_assoc]
    rfl

/-! ## One event -/

theorem takes_call (s : Node A) (x : SignedCall A) : p.takes s (.call x) = none := by
  rw [takes, p.envOf_call]
  exact if_neg fun h => Bool.false_ne_true h.1

/-- **What an event does to the slot**: a call may leave a job, the worker of the pallet takes the
job if it finds the lock free, and the other worker leaves it. -/
theorem step_cases (s : Node A) (e : NodeEvent A) :
    (∃ x, e = .call x ∧ p.takes s e = none) ∨
    ((∀ x, e ≠ .call x) ∧ (p.envOf e).isSome ∧ ¬ p.slot.Idle s.ocw ∧
      p.takes s e = p.slot.job s.ocw.storage ∧
      p.slot.job (Node.step garbleApi circuitsApi s e).ocw.storage = none) ∨
    ((∀ x, e ≠ .call x) ∧ (p.envOf e = none ∨ p.slot.Idle s.ocw) ∧ p.takes s e = none ∧
      p.slot.job (Node.step garbleApi circuitsApi s e).ocw.storage =
        p.slot.job s.ocw.storage) := by
  by_cases hcall : ∃ x, e = .call x
  · obtain ⟨x, rfl⟩ := hcall
    exact Or.inl ⟨x, rfl, p.takes_call s x⟩
  have hne : ∀ x, e ≠ .call x := fun x hx => hcall ⟨x, hx⟩
  rcases henv : p.envOf e with _ | env
  · refine Or.inr (Or.inr ⟨hne, Or.inl rfl, ?_, p.job_other s e hne henv⟩)
    rw [takes, henv]
    exact if_neg fun h => Bool.false_ne_true h.1
  · by_cases hidle : p.slot.Idle s.ocw
    · refine Or.inr (Or.inr ⟨hne, Or.inr hidle, if_neg fun h => h.2 hidle, ?_⟩)
      rw [p.step_idle s e env henv hidle]
    · have hjob : p.slot.job s.ocw.storage = some (p.slot.read s.ocw.storage) :=
        JobSlot.job_eq_some_iff.mpr ⟨rfl, fun h => hidle (Or.inl h)⟩
      refine Or.inr (Or.inl ⟨hne, rfl, hidle, ?_, p.job_taken s e env henv hidle⟩)
      rw [takes, henv, hjob]
      exact if_pos ⟨rfl, hidle⟩

/-- The chain changes with calls only. -/
theorem chain_step_of_ne (garbleApi : OcwGarble.Api) (circuitsApi : OcwCircuits.Api) {s : Node A}
    {e : NodeEvent A} (h : ∀ x, e ≠ .call x) :
    (Node.step garbleApi circuitsApi s e).chain = s.chain ∧ e.call? = none := by
  rcases e with x | env | env
  · exact absurd rfl (h x)
  · exact ⟨rfl, rfl⟩
  · exact ⟨rfl, rfl⟩

/-! ## The slot as a buffer -/

/-- What an event does to the slot, as to a buffer: a worker that finds the lock free takes. -/
def opOf (s : Node A) (e : NodeEvent A) : List (Buffer.Op J) :=
  match e.call? with
  | some x => (p.jobOf x s.chain).toList.map .put
  | none => if (p.envOf e).isSome ∧ s.ocw.locked p.slot.lockKey = false then [.take] else []

/-- What a run does to the slot. -/
def ops : Node A → List (NodeEvent A) → List (Buffer.Op J)
  | _, [] => []
  | s, e :: es => p.opOf s e ++ ops (Node.step garbleApi circuitsApi s e) es

/-- **The slot is a buffer with one place**: whatever happens on the node, the worker takes what
is taken out of the buffer. -/
theorem taken_eq_taken_ops (s : Node A) (es : List (NodeEvent A)) :
    p.taken s es = Buffer.taken (p.slot.job s.ocw.storage) (p.ops s es) := by
  induction es generalizing s with
  | nil => rfl
  | cons e es ih =>
    rw [taken, ih, ops]
    rcases p.step_cases s e with ⟨x, rfl, htakes⟩ | ⟨hne, hown, hbusy, htakes, hjob⟩ |
      ⟨hne, hleft, htakes, hjob⟩
    · -- a call that leaves a job puts it in
      rw [htakes, p.job_call]
      show Buffer.taken _ (p.ops (Node.step garbleApi circuitsApi s (.call x)) es) =
        Buffer.taken _ ((p.jobOf x s.chain).toList.map .put ++ _)
      rw [Buffer.taken_puts]
      rcases p.jobOf x s.chain with _ | d
      · rfl
      · rfl
    · obtain ⟨-, hcall⟩ := chain_step_of_ne garbleApi circuitsApi (s := s) hne
      have hfree : s.ocw.locked p.slot.lockKey = false := by
        rw [JobSlot.Idle, not_or, Bool.not_eq_true] at hbusy
        exact hbusy.2
      rw [htakes, hjob, opOf, hcall, if_pos ⟨hown, hfree⟩]
      rfl
    · -- an idle worker finds the lock taken, or nothing to take
      obtain ⟨-, hcall⟩ := chain_step_of_ne garbleApi circuitsApi (s := s) hne
      rw [htakes, hjob, opOf, hcall]
      dsimp only
      split
      · rename_i htake
        have hnone : p.slot.job s.ocw.storage = none := by
          rcases hleft with hother | hnojob | hheld
          · rw [hother] at htake
            cases htake.1
          · exact JobSlot.job_eq_none_iff.mpr hnojob
          · rw [htake.2] at hheld
            cases hheld
        rw [hnone]
        rfl
      · rfl

/-- What is put in are the jobs of the accepted requests. -/
theorem puts_ops (s : Node A) (es : List (NodeEvent A)) :
    Buffer.puts (p.ops s es) = p.jobs s.chain (es.filterMap NodeEvent.call?) := by
  induction es generalizing s with
  | nil => rfl
  | cons e es ih =>
    rw [ops, Buffer.puts_append, ih]
    by_cases hcall : ∃ x, e = .call x
    · obtain ⟨x, rfl⟩ := hcall
      rw [opOf, List.filterMap_cons_some (show NodeEvent.call? (.call x) = some x from rfl), jobs]
      dsimp only [NodeEvent.call?]
      rw [Buffer.puts_map_put]
      rfl
    · -- a run of a worker puts nothing in
      have hne : ∀ x, e ≠ .call x := fun x hx => hcall ⟨x, hx⟩
      obtain ⟨hchain, hnone⟩ := chain_step_of_ne garbleApi circuitsApi (s := s) hne
      rw [hchain, List.filterMap_cons_none hnone, opOf, hnone]
      dsimp only
      split
      · rfl
      · rfl

/-- Jobs are taken in order, from a node that holds none. -/
theorem taken_sublist {chain : Chain A}
    (hlaunch : p.slot.job (Node.launch chain).ocw.storage = none) (es : List (NodeEvent A)) :
    (p.taken (.launch chain) es).Sublist (p.jobs chain (es.filterMap NodeEvent.call?)) := by
  have hsublist := Buffer.taken_sublist none (p.ops (.launch chain) es)
  rw [p.taken_eq_taken_ops, hlaunch]
  rw [puts_ops] at hsublist
  exact hsublist

/-! ## Native runs -/

/-- What an event is meant to do to the slot: every run of the pallet's worker takes. -/
def schedule : Chain A → List (NodeEvent A) → List (Buffer.Op J)
  | _, [] => []
  | c, .call x :: es => (p.jobOf x c).toList.map .put ++ schedule (x.apply c) es
  | c, e :: es => (if (p.envOf e).isSome then [.take] else []) ++ schedule c es

theorem schedule_cons_of_ne (c : Chain A) {e : NodeEvent A} (hne : ∀ x, e ≠ .call x)
    (es : List (NodeEvent A)) :
    p.schedule c (e :: es) = (if (p.envOf e).isSome then [.take] else []) ++ p.schedule c es := by
  rcases e with x | env | env
  · exact absurd rfl (hne x)
  · rfl
  · rfl

/-- **On a native node the lock is always free**, so that every run of the worker takes. -/
theorem ops_eq_schedule {s : Node A} (hfree : s.ocw.locked p.slot.lockKey = false)
    {es : List (NodeEvent A)} (hnative : ∀ e ∈ es, e.Native) :
    p.ops s es = p.schedule s.chain es := by
  induction es generalizing s with
  | nil => rfl
  | cons e es ih =>
    obtain ⟨hhead, htail⟩ := List.forall_mem_cons.mp hnative
    have hlocked := Node.locked_step garbleApi circuitsApi s hhead
    rw [ops, ih (by rw [hlocked]; exact hfree) htail]
    by_cases hcall : ∃ x, e = .call x
    · obtain ⟨x, rfl⟩ := hcall
      rfl
    · have hne : ∀ x, e ≠ .call x := fun x hx => hcall ⟨x, hx⟩
      obtain ⟨hchain, hnone⟩ := chain_step_of_ne garbleApi circuitsApi (s := s) hne
      rw [p.schedule_cons_of_ne s.chain hne, hchain, opOf, hnone]
      simp only [hfree, and_true]

theorem taken_eq_taken_schedule {chain : Chain A}
    (hlaunch : p.slot.job (Node.launch chain).ocw.storage = none) {es : List (NodeEvent A)}
    (hnative : ∀ e ∈ es, e.Native) :
    p.taken (.launch chain) es = Buffer.taken none (p.schedule chain es) := by
  have hschedule := p.ops_eq_schedule (s := .launch chain) rfl hnative
  rw [p.taken_eq_taken_ops, hlaunch, hschedule]
  rfl

/-- A slot that is empty stays empty while workers run. -/
theorem job_workers_of_none {s : Node A} (hjob : p.slot.job s.ocw.storage = none)
    {ws : List (NodeEvent A)} (hws : ∀ e ∈ ws, ∀ x, e ≠ .call x) :
    p.slot.job (Node.run garbleApi circuitsApi s ws).ocw.storage = none := by
  induction ws generalizing s with
  | nil => exact hjob
  | cons e ws ih =>
    obtain ⟨hhead, htail⟩ := List.forall_mem_cons.mp hws
    refine ih ?_ htail
    rcases p.step_cases s e with ⟨x, rfl, -⟩ | ⟨-, -, -, -, hnone⟩ | ⟨-, -, -, hsame⟩
    · exact absurd rfl (hhead x)
    · exact hnone
    · exact hsame.trans hjob

/-- **A worker that finds its lock free leaves nothing to do** for its next run. -/
theorem step_rerun {s : Node A} (hfree : s.ocw.locked p.slot.lockKey = false) {e e' : NodeEvent A}
    (he : (p.envOf e).isSome) (he' : (p.envOf e').isSome) {ws : List (NodeEvent A)}
    (hws : ∀ e ∈ ws, ∀ x, e ≠ .call x) :
    Node.step garbleApi circuitsApi (Node.run garbleApi circuitsApi s (e :: ws)) e' =
      Node.run garbleApi circuitsApi s (e :: ws) := by
  have hnone : p.slot.job (Node.step garbleApi circuitsApi s e).ocw.storage = none := by
    rcases p.step_cases s e with ⟨x, rfl, -⟩ | ⟨-, -, -, -, hnone⟩ | ⟨-, hleft, -, hsame⟩
    · rw [p.envOf_call] at he
      cases he
    · exact hnone
    · rw [hsame]
      rcases hleft with hother | hnojob | hheld
      · rw [hother] at he
        cases he
      · exact JobSlot.job_eq_none_iff.mpr hnojob
      · rw [hfree] at hheld
        cases hheld
  obtain ⟨env, henv⟩ := Option.isSome_iff_exists.mp he'
  refine p.step_idle _ e' env henv (Or.inl ?_)
  exact JobSlot.job_eq_none_iff.mp (p.job_workers_of_none hnone hws)

end OcwPallet

/-! ## Blocks -/

/-- A block with the runs of the workers that follow it. -/
structure Block (A : Type) where
  calls : List (SignedCall A)
  circuitsEnv : OcwEnv A
  garbleEnv : OcwEnv A

namespace Block

/-- What happens on a node that imports the block. -/
def events (b : Block A) : List (NodeEvent A) :=
  b.calls.map .call ++ [.circuitsWorker b.circuitsEnv, .garbleWorker b.garbleEnv]

/-- Both workers run natively. -/
structure Native (b : Block A) : Prop where
  circuits : b.circuitsEnv.std = true
  garble : b.garbleEnv.std = true

omit [DecidableEq A] in
theorem Native.events {b : Block A} (h : b.Native) : ∀ e ∈ b.events, e.Native := by
  intro e he
  rcases List.mem_append.mp he with hcall | hworker
  · obtain ⟨x, -, rfl⟩ := List.mem_map.mp hcall
    trivial
  · rcases List.mem_pair.mp hworker with rfl | rfl
    · exact h.circuits
    · exact h.garble

end Block

namespace OcwPallet

variable (p : OcwPallet A J garbleApi circuitsApi)

end OcwPallet

/-! ## Both pallets -/

variable (garbleApi : OcwGarble.Api) (circuitsApi : OcwCircuits.Api)

/-- **Requests are taken in order, and none twice**: along every run of calls and workers, in
whatever environments these run, the jobs the worker of a pallet takes are some of the accepted
requests of the pallet, in the order in which they were accepted. -/
theorem jobs_taken_in_order (chain : Chain A) (es : List (NodeEvent A)) :
    ((garblePallet garbleApi circuitsApi).taken (.launch chain) es).Sublist
      ((garblePallet garbleApi circuitsApi).jobs chain (es.filterMap NodeEvent.call?)) ∧
    ((circuitsPallet garbleApi circuitsApi).taken (.launch chain) es).Sublist
      ((circuitsPallet garbleApi circuitsApi).jobs chain (es.filterMap NodeEvent.call?)) :=
  ⟨(garblePallet garbleApi circuitsApi).taken_sublist rfl es,
    (circuitsPallet garbleApi circuitsApi).taken_sublist rfl es⟩

/-- **The slots of a native node are buffers with one place**: for every schedule of calls and
workers (blocks without a run, several runs for one block), each worker takes exactly what is
taken out of a buffer into which the accepted requests are put. -/
theorem taken_eq_buffer (chain : Chain A) (es : List (NodeEvent A)) (hnative : ∀ e ∈ es, e.Native) :
    (garblePallet garbleApi circuitsApi).taken (.launch chain) es =
      Buffer.taken none ((garblePallet garbleApi circuitsApi).schedule chain es) ∧
    (circuitsPallet garbleApi circuitsApi).taken (.launch chain) es =
      Buffer.taken none ((circuitsPallet garbleApi circuitsApi).schedule chain es) :=
  ⟨(garblePallet garbleApi circuitsApi).taken_eq_taken_schedule rfl hnative,
    (circuitsPallet garbleApi circuitsApi).taken_eq_taken_schedule rfl hnative⟩

/-- **Running a worker again does nothing**: after a run of a worker that found its lock free, and
any runs of workers, another run of that worker leaves the node as it is, until a call is applied.
So a worker that runs twice for a block asks, sends and submits nothing twice. -/
theorem reruns_do_nothing (s : Node A) (ws : List (NodeEvent A))
    (hws : ∀ e ∈ ws, ∀ x, e ≠ .call x) :
    (s.ocw.locked OcwGarble.slot.lockKey = false → ∀ env env',
      let t := Node.run garbleApi circuitsApi s (.garbleWorker env :: ws)
      Node.step garbleApi circuitsApi t (.garbleWorker env') = t) ∧
    (s.ocw.locked OcwCircuits.slot.lockKey = false → ∀ env env',
      let t := Node.run garbleApi circuitsApi s (.circuitsWorker env :: ws)
      Node.step garbleApi circuitsApi t (.circuitsWorker env') = t) :=
  ⟨fun hfree _ _ => (garblePallet garbleApi circuitsApi).step_rerun hfree rfl rfl hws,
    fun hfree _ _ => (circuitsPallet garbleApi circuitsApi).step_rerun hfree rfl rfl hws⟩

/-- A native worker behind a gateway that answers 502. -/
def nativeEnv : OcwEnv ℕ where
  std := true
  var := fun _ => some "http://127.0.0.1:3000"
  keystore := [0]
  http := fun _ => .response ⟨502, [], []⟩

/-- A run of the worker before the first request, a request, and two runs. -/
def unevenRun : List (NodeEvent ℕ) :=
  [.garbleWorker nativeEnv, .call ⟨default, 0, .garbleStandardSigned [97]⟩,
    .garbleWorker nativeEnv, .garbleWorker nativeEnv]

theorem taken_eq_buffer_unevenRun :
    (garblePallet OcwGarble.shortApi OcwCircuits.shortApi).taken (.launch (Chain.empty ℕ))
      unevenRun = [OcwGarble.standardJob [97]] := by
  have hbuffer := taken_eq_buffer OcwGarble.shortApi OcwCircuits.shortApi (Chain.empty ℕ)
    unevenRun (by
      simp only [unevenRun, List.forall_mem_cons, List.not_mem_nil, false_imp_iff, implies_true,
        and_true]
      exact ⟨rfl, trivial, rfl, rfl⟩)
  rw [hbuffer.1]
  rfl

theorem reruns_do_nothing_waitingState :
    let t := Node.run OcwGarble.shortApi OcwCircuits.shortApi ⟨Chain.empty ℕ, waitingState⟩
      [.garbleWorker nativeEnv, .circuitsWorker nativeEnv]
    Node.step OcwGarble.shortApi OcwCircuits.shortApi t (.garbleWorker nativeEnv) = t :=
  (reruns_do_nothing OcwGarble.shortApi OcwCircuits.shortApi ⟨Chain.empty ℕ, waitingState⟩
    [.circuitsWorker nativeEnv] (by
      intro e he x hx
      obtain rfl := List.mem_singleton.mp he
      cases hx)).1 rfl nativeEnv nativeEnv

end OffchainWorkerDemo
