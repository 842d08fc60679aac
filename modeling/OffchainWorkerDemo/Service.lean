/-
# The service behind a node

A node without its bytes: every pallet has a desk with room for one job, and its worker,
unless a panic bars it until the lock expires, clears the desk, has a dialogue with its
server and submits the call that the last reply makes.  Along every run, in whatever
environments the workers run and however they end, this is what a node does
(`node_refines_service`).  Read off the service: what a native node answers of its blocks
(`blocks_answered`), and that a worker that is barred might as well not be there
(`stopped_worker_is_absent`).
-/
import OffchainWorkerDemo.Blocks

namespace OffchainWorkerDemo

variable {A J : Type}

/-! ## Desks -/

/-- The desk of a worker: the job on it, and whether the worker is barred. -/
structure Desk (J : Type) where
  job : Option J
  barred : Bool

namespace Desk

/-- The job a worker that comes now would take. -/
def next (desk : Desk J) : Option J := if desk.barred then none else desk.job

/-- A job replaces the one on the desk. -/
def receive (desk : Desk J) (job : Option J) : Desk J := { desk with job := job.or desk.job }

/-- The desk once its job had this outcome: a worker that stops without unwinding is barred. -/
def after (env : OcwEnv A) (o : Outcome) : Desk J where
  job := none
  barred := o.stops && !env.std

/-- The deadline of the lock. -/
def unbar (desk : Desk J) : Desk J := { desk with barred := false }

end Desk

namespace JobSlot

variable (slot : JobSlot J)

/-- The slot and its lock as a desk. -/
def desk (s : OcwState A) : Desk J where
  job := slot.job s.storage
  barred := s.locked slot.lockKey

variable {slot}

theorem next_desk_of_idle {s : OcwState A} (h : slot.Idle s) : (slot.desk s).next = none := by
  rcases h with hnojob | hheld
  · have hnone : slot.job s.storage = none := job_eq_none_iff.mpr hnojob
    rw [Desk.next, desk, hnone, ite_self]
  · exact if_pos hheld

theorem next_desk_of_busy {s : OcwState A} (h : ¬ slot.Idle s) :
    (slot.desk s).next = some (slot.read s.storage) := by
  obtain ⟨hjob, hfree⟩ := not_or.mp h
  have hsome : slot.job s.storage = some (slot.read s.storage) :=
    job_eq_some_iff.mpr ⟨rfl, hjob⟩
  exact (if_neg hfree).trans hsome

theorem desk_served (env : OcwEnv A) (o : Outcome) (s : OcwState A) :
    slot.desk (slot.served env o s) = Desk.after env o := by
  have hjob : slot.job (slot.served env o s).storage = none := slot.job_reset _
  have hheld : (slot.served env o s).locked slot.lockKey = (o.stops && !env.std) :=
    Function.update_self _ _ _
  rw [desk, hjob, hheld]
  rfl

/-- A slot with another key and another lock. -/
theorem desk_served_of_ne {I : Type} {other : JobSlot I} (hkey : other.key ≠ slot.key)
    (hlock : other.lockKey ≠ slot.lockKey) (env : OcwEnv A) (o : Outcome) (s : OcwState A) :
    other.desk (slot.served env o s) = other.desk s := by
  have hjob : other.job (slot.served env o s).storage = other.job s.storage :=
    other.job_congr (OcwState.put_storage_of_ne _ _ _ hkey)
  have hheld : (slot.served env o s).locked other.lockKey = s.locked other.lockKey := by
    show Function.update (Function.update s.locked _ _) _ _ other.lockKey = _
    rw [Function.update_of_ne hlock, Function.update_of_ne hlock]
  rw [desk, hjob, hheld]
  rfl

theorem desk_setLock (s : OcwState A) :
    slot.desk (s.setLock slot.lockKey false) = (slot.desk s).unbar := by
  rw [desk, OcwState.setLock_locked_self]
  rfl

theorem desk_setLock_of_ne {lockKey : Bytes} (hlock : slot.lockKey ≠ lockKey) (s : OcwState A)
    (held : Bool) : slot.desk (s.setLock lockKey held) = slot.desk s := by
  have hheld : (s.setLock lockKey held).locked slot.lockKey = s.locked slot.lockKey :=
    Function.update_of_ne hlock _ _
  rw [desk, hheld]
  rfl

end JobSlot

/-! ## The service -/

/-- A node as a service: the chain, a desk for each worker, the requests posted, each with the end
of its exchange, and the transactions submitted. -/
structure Service (A : Type) where
  chain : Chain A
  garble : Desk OcwGarble.IndexingData
  circuits : Desk OcwCircuits.IndexingData
  exchanges : List (HttpRequest × Exchange)
  submitted : List (A × Call)

/-- The requests posted. -/
def Service.posted (s : Service A) : List HttpRequest := s.exchanges.map Prod.fst

/-- An event of a node, or the deadline of one of the two locks. -/
inductive TimedEvent (A : Type) : Type where
  | event (e : NodeEvent A)
  | garbleLockExpires
  | circuitsLockExpires

variable [DecidableEq A]

namespace Service

variable (garbleApi : OcwGarble.Api) (circuitsApi : OcwCircuits.Api)

/-- The exchanges and the transactions of an outcome. -/
def record (s : Service A) (env : OcwEnv A) (o : Outcome) : Service A :=
  { s with
    exchanges := s.exchanges ++ o.exchanges
    submitted := s.submitted ++ o.submissions env.keystore }

/-- The service after an event: an accepted request is put on the desk of its pallet, and a worker
that finds a job clears its desk for the outcome of that job. -/
def step (s : Service A) : TimedEvent A → Service A
  | .event (.call x) =>
    { s with
      chain := x.apply s.chain
      garble := s.garble.receive (OcwGarble.jobOf x s.chain)
      circuits := s.circuits.receive (OcwCircuits.jobOf x s.chain) }
  | .event (.garbleWorker env) =>
    match s.garble.next with
    | none => s
    | some d =>
      let o := OcwGarble.outcome garbleApi env s.posted.length d
      { s.record env o with garble := .after env o }
  | .event (.circuitsWorker env) =>
    match s.circuits.next with
    | none => s
    | some d =>
      let o := OcwCircuits.outcome circuitsApi env s.posted.length d
      { s.record env o with circuits := .after env o }
  | .garbleLockExpires => { s with garble := s.garble.unbar }
  | .circuitsLockExpires => { s with circuits := s.circuits.unbar }

/-- The service after events, one after another. -/
def run (s : Service A) (es : List (TimedEvent A)) : Service A :=
  es.foldl (step garbleApi circuitsApi) s

end Service

namespace Node

variable (garbleApi : OcwGarble.Api) (circuitsApi : OcwCircuits.Api)

/-- The node after an event; an expired lock can be taken again. -/
def timedStep (s : Node A) : TimedEvent A → Node A
  | .event e => step garbleApi circuitsApi s e
  | .garbleLockExpires => { s with ocw := s.ocw.setLock OcwGarble.slot.lockKey false }
  | .circuitsLockExpires => { s with ocw := s.ocw.setLock OcwCircuits.slot.lockKey false }

/-- The node after events, one after another. -/
def timedRun (s : Node A) (es : List (TimedEvent A)) : Node A :=
  es.foldl (timedStep garbleApi circuitsApi) s

omit [DecidableEq A] in
/-- A node as the service it gives. -/
def service (s : Node A) : Service A where
  chain := s.chain
  garble := OcwGarble.slot.desk s.ocw
  circuits := OcwCircuits.slot.desk s.ocw
  exchanges := s.ocw.exchanges
  submitted := s.ocw.submitted

end Node

/-! ## The node gives the service -/

/-- The two locks have keys of their own. -/
theorem garbleLockKey_ne_circuitsLockKey :
    OcwGarble.slot.lockKey ≠ OcwCircuits.slot.lockKey := by
  decide

/-- **A call** puts its job on the desk of its pallet. -/
theorem service_call (garbleApi : OcwGarble.Api) (circuitsApi : OcwCircuits.Api) (s : Node A)
    (x : SignedCall A) : (Node.timedStep garbleApi circuitsApi s (.event (.call x))).service =
      s.service.step garbleApi circuitsApi (.event (.call x)) := by
  have hgarble : OcwGarble.slot.desk (s.ocw.flush (x.indexed s.chain)) =
      (OcwGarble.slot.desk s.ocw).receive (OcwGarble.jobOf x s.chain) := by
    rw [JobSlot.desk, OcwGarble.job_flush_indexed, OcwState.flush_locked]
    rfl
  have hcircuits : OcwCircuits.slot.desk (s.ocw.flush (x.indexed s.chain)) =
      (OcwCircuits.slot.desk s.ocw).receive (OcwCircuits.jobOf x s.chain) := by
    rw [JobSlot.desk, OcwCircuits.job_flush_indexed, OcwState.flush_locked]
    rfl
  have hexchanges := OcwState.flush_exchanges s.ocw (x.indexed s.chain)
  have hsubmitted := OcwState.flush_submitted s.ocw (x.indexed s.chain)
  show Service.mk _ _ _ _ _ = Service.mk _ _ _ _ _
  congr 1

variable (garbleApi : OcwGarble.Api) (circuitsApi : OcwCircuits.Api)

/-- **A run of the garbling worker** clears its desk and leaves the other one. -/
theorem service_garbleWorker (s : Node A) (env : OcwEnv A) :
    (Node.timedStep garbleApi circuitsApi s (.event (.garbleWorker env))).service =
      s.service.step garbleApi circuitsApi (.event (.garbleWorker env)) := by
  by_cases hidle : OcwGarble.slot.Idle s.ocw
  · have hnext : s.service.garble.next = none := JobSlot.next_desk_of_idle hidle
    have hstep : Node.timedStep garbleApi circuitsApi s (.event (.garbleWorker env)) = s :=
      (garblePallet garbleApi circuitsApi).step_idle s (.garbleWorker env) env rfl hidle
    rw [hstep, Service.step, hnext]
  · have hnext : s.service.garble.next = some (OcwGarble.slot.read s.ocw.storage) :=
      JobSlot.next_desk_of_busy hidle
    have hstate := OcwGarble.processIfNeeded_state_eq garbleApi env hidle
    have hocw : (Node.timedStep garbleApi circuitsApi s (.event (.garbleWorker env))).ocw = _ :=
      hstate
    have hother := JobSlot.desk_served_of_ne garbleKey_ne_circuitsKey.symm
      garbleLockKey_ne_circuitsLockKey.symm env
      (OcwGarble.outcome garbleApi env s.ocw.posted.length (OcwGarble.slot.read s.ocw.storage)) s.ocw
    rw [Node.service, hocw, JobSlot.desk_served, hother, Service.step, hnext]
    rfl

/-- **A run of the circuits worker** clears its desk and leaves the other one. -/
theorem service_circuitsWorker (s : Node A) (env : OcwEnv A) :
    (Node.timedStep garbleApi circuitsApi s (.event (.circuitsWorker env))).service =
      s.service.step garbleApi circuitsApi (.event (.circuitsWorker env)) := by
  by_cases hidle : OcwCircuits.slot.Idle s.ocw
  · have hnext : s.service.circuits.next = none := JobSlot.next_desk_of_idle hidle
    have hstep : Node.timedStep garbleApi circuitsApi s (.event (.circuitsWorker env)) = s :=
      (circuitsPallet garbleApi circuitsApi).step_idle s (.circuitsWorker env) env rfl hidle
    rw [hstep, Service.step, hnext]
  · have hnext : s.service.circuits.next = some (OcwCircuits.slot.read s.ocw.storage) :=
      JobSlot.next_desk_of_busy hidle
    have hstate := OcwCircuits.processIfNeeded_state_eq circuitsApi env hidle
    have hocw : (Node.timedStep garbleApi circuitsApi s (.event (.circuitsWorker env))).ocw = _ :=
      hstate
    have hother := JobSlot.desk_served_of_ne garbleKey_ne_circuitsKey
      garbleLockKey_ne_circuitsLockKey env
      (OcwCircuits.outcome circuitsApi env s.ocw.posted.length (OcwCircuits.slot.read s.ocw.storage))
      s.ocw
    rw [Node.service, hocw, JobSlot.desk_served, hother, Service.step, hnext]
    rfl

/-- **A lock that expires** admits its worker, and not the other one. -/
theorem service_lockExpires (s : Node A) :
    (Node.timedStep garbleApi circuitsApi s .garbleLockExpires).service =
      s.service.step garbleApi circuitsApi .garbleLockExpires ∧
    (Node.timedStep garbleApi circuitsApi s .circuitsLockExpires).service =
      s.service.step garbleApi circuitsApi .circuitsLockExpires := by
  constructor
  · have hother := JobSlot.desk_setLock_of_ne garbleLockKey_ne_circuitsLockKey.symm s.ocw false
    rw [Node.timedStep, Node.service, JobSlot.desk_setLock, hother]
    rfl
  · have hother := JobSlot.desk_setLock_of_ne garbleLockKey_ne_circuitsLockKey s.ocw false
    rw [Node.timedStep, Node.service, JobSlot.desk_setLock, hother]
    rfl

theorem service_timedStep (s : Node A) (e : TimedEvent A) :
    (Node.timedStep garbleApi circuitsApi s e).service =
      s.service.step garbleApi circuitsApi e := by
  rcases e with e | _ | _
  · rcases e with x | env | env
    · exact service_call garbleApi circuitsApi s x
    · exact service_garbleWorker garbleApi circuitsApi s env
    · exact service_circuitsWorker garbleApi circuitsApi s env
  · exact (service_lockExpires garbleApi circuitsApi s).1
  · exact (service_lockExpires garbleApi circuitsApi s).2

/-- **The node gives the service**: from every state and along every run of calls, workers in
whatever environments, and expiring locks, the chain, the jobs waiting, the workers barred, the
requests posted with the ends of their exchanges, and the transactions submitted are those of the
service. -/
theorem node_refines_service (s : Node A) (es : List (TimedEvent A)) :
    (Node.timedRun garbleApi circuitsApi s es).service =
      s.service.run garbleApi circuitsApi es := by
  induction es generalizing s with
  | nil => rfl
  | cons e es ih =>
    have hstep := service_timedStep garbleApi circuitsApi s e
    have hrest := ih (Node.timedStep garbleApi circuitsApi s e)
    rw [hstep] at hrest
    exact hrest

/-! ## Blocks -/

namespace Service

/-- A service with nothing to do, before any request. -/
def launch (chain : Chain A) : Service A where
  chain := chain
  garble := ⟨none, false⟩
  circuits := ⟨none, false⟩
  exchanges := []
  submitted := []

/-- The service after a job, if there is one. -/
def serve (s : Service A) (env : OcwEnv A) (outcomeOf : ℕ → J → Outcome) : Option J → Service A
  | none => s
  | some d => s.record env (outcomeOf s.posted.length d)

/-- The service after a block: its calls are applied, and of its accepted requests the last one of
each pallet is answered, that of the circuits pallet first. -/
def block (s : Service A) (b : Block A) : Service A :=
  let circuitsJob := ((circuitsPallet garbleApi circuitsApi).jobs s.chain b.calls).getLast?
  let garbleJob := ((garblePallet garbleApi circuitsApi).jobs s.chain b.calls).getLast?
  let s := { s with chain := runFrom s.chain b.calls }
  let s := s.serve b.circuitsEnv (OcwCircuits.outcome circuitsApi b.circuitsEnv) circuitsJob
  s.serve b.garbleEnv (OcwGarble.outcome garbleApi b.garbleEnv) garbleJob

theorem run_append (s : Service A) (es es' : List (TimedEvent A)) :
    s.run garbleApi circuitsApi (es ++ es') =
      (s.run garbleApi circuitsApi es).run garbleApi circuitsApi es' := List.foldl_append

end Service

namespace OcwPallet

variable {garbleApi : OcwGarble.Api} {circuitsApi : OcwCircuits.Api}
  (p : OcwPallet A J garbleApi circuitsApi)

/-- The event is a run of the pallet's worker. -/
def isOwn : TimedEvent A → Bool
  | .event e => (p.envOf e).isSome
  | _ => false

/-- **Behind a held lock a worker is as if it were not there**: its runs can be left out, until the
lock expires. -/
theorem timedRun_of_held {expiry : TimedEvent A}
    (hkeeps : ∀ s e, p.isOwn e = false → e ≠ expiry →
      (Node.timedStep garbleApi circuitsApi s e).ocw.locked p.slot.lockKey =
        s.ocw.locked p.slot.lockKey) {s : Node A} (hheld : s.ocw.locked p.slot.lockKey = true)
    {es : List (TimedEvent A)} (hes : expiry ∉ es) :
    Node.timedRun garbleApi circuitsApi s es =
      Node.timedRun garbleApi circuitsApi s (es.filter fun e => !p.isOwn e) := by
  induction es generalizing s with
  | nil => rfl
  | cons e es ih =>
    obtain ⟨hne, htail⟩ := List.ne_and_not_mem_of_not_mem_cons hes
    cases hown : p.isOwn e with
    | false =>
      have hstep := hkeeps s e hown hne.symm
      rw [List.filter_cons_of_pos (by rw [hown]; rfl)]
      exact ih (hstep.trans hheld) htail
    | true =>
      -- a run of the worker finds the lock held
      have hidle : Node.timedStep garbleApi circuitsApi s e = s := by
        rcases e with e | _ | _
        · obtain ⟨env, henv⟩ := Option.isSome_iff_exists.mp hown
          exact p.step_idle s e env henv (Or.inr hheld)
        · cases hown
        · cases hown
      have hrest : Node.timedRun garbleApi circuitsApi s (e :: es) =
          Node.timedRun garbleApi circuitsApi s es := by
        show Node.timedRun garbleApi circuitsApi (Node.timedStep garbleApi circuitsApi s e) es = _
        rw [hidle]
      rw [List.filter_cons_of_neg (by rw [hown]; exact Bool.false_ne_true), hrest]
      exact ih hheld htail

/-- The lock is held after a run with a job exactly if the worker stops and does not unwind; and
then, until the lock expires, the worker is as if it were not there. -/
def BarredByPanics (workerOf : OcwEnv A → NodeEvent A) (outcome : OcwEnv A → ℕ → J → Outcome)
    (expiry : TimedEvent A) : Prop :=
  ∀ s env, ¬ p.slot.Idle s.ocw →
    let t := Node.step garbleApi circuitsApi s (workerOf env)
    let o := outcome env s.ocw.posted.length (p.slot.read s.ocw.storage)
    (t.ocw.locked p.slot.lockKey = true ↔ o.stops = true ∧ env.std = false) ∧
    (t.ocw.locked p.slot.lockKey = true → ∀ es : List (TimedEvent A), expiry ∉ es →
      Node.timedRun garbleApi circuitsApi t es =
        Node.timedRun garbleApi circuitsApi t (es.filter fun e => !p.isOwn e))

variable {p} in
theorem barredByPanics {workerOf : OcwEnv A → NodeEvent A}
    {outcome : OcwEnv A → ℕ → J → Outcome} {expiry : TimedEvent A}
    (hserved : ∀ s env, ¬ p.slot.Idle s.ocw →
      (Node.step garbleApi circuitsApi s (workerOf env)).ocw =
        p.slot.served env (outcome env s.ocw.posted.length (p.slot.read s.ocw.storage)) s.ocw)
    (hkeeps : ∀ s e, p.isOwn e = false → e ≠ expiry →
      (Node.timedStep garbleApi circuitsApi s e).ocw.locked p.slot.lockKey =
        s.ocw.locked p.slot.lockKey) : p.BarredByPanics workerOf outcome expiry := by
  intro s env hidle t o
  refine ⟨?_, fun hheld es hes => p.timedRun_of_held hkeeps hheld hes⟩
  have hheld : t.ocw.locked p.slot.lockKey = (o.stops && !env.std) := by
    rw [show t.ocw = _ from hserved s env hidle]
    exact Function.update_self _ _ _
  rw [hheld, Bool.and_eq_true, Bool.not_eq_true']

end OcwPallet

/-- The circuits worker leaves the garbling desk alone, and the garbling worker the other one. -/
theorem Service.step_garble (s : Service A) (env : OcwEnv A) :
    (s.step garbleApi circuitsApi (.event (.circuitsWorker env))).garble = s.garble := by
  unfold step
  dsimp only
  split <;> rfl

theorem Service.step_circuits (s : Service A) (env : OcwEnv A) :
    (s.step garbleApi circuitsApi (.event (.garbleWorker env))).circuits = s.circuits := by
  unfold step
  dsimp only
  split <;> rfl

/-- **A worker that stops without unwinding bars itself** until its lock expires, and only such a
worker does; for both pallets. -/
theorem stopped_worker_is_absent :
    (garblePallet (A := A) garbleApi circuitsApi).BarredByPanics .garbleWorker
      (OcwGarble.outcome garbleApi) .garbleLockExpires ∧
    (circuitsPallet (A := A) garbleApi circuitsApi).BarredByPanics .circuitsWorker
      (OcwCircuits.outcome circuitsApi) .circuitsLockExpires := by
  constructor
  · refine OcwPallet.barredByPanics (fun s env hidle => ?_) fun s e hown hne => ?_
    · exact OcwGarble.processIfNeeded_state_eq garbleApi env hidle
    · -- the garbling desk is barred as before
      have hstep : (Node.timedStep garbleApi circuitsApi s e).service.garble.barred = _ :=
        congrArg (fun t => t.garble.barred) (service_timedStep garbleApi circuitsApi s e)
      refine Eq.trans hstep ?_
      rcases e with (x | env | env) | _ | _
      · rfl
      · cases hown
      · rw [Service.step_garble]
        rfl
      · exact absurd rfl hne
      · rfl
  · refine OcwPallet.barredByPanics (fun s env hidle => ?_) fun s e hown hne => ?_
    · exact OcwCircuits.processIfNeeded_state_eq circuitsApi env hidle
    · have hstep : (Node.timedStep garbleApi circuitsApi s e).service.circuits.barred = _ :=
        congrArg (fun t => t.circuits.barred) (service_timedStep garbleApi circuitsApi s e)
      refine Eq.trans hstep ?_
      rcases e with (x | env | env) | _ | _
      · rfl
      · rw [Service.step_circuits]
        rfl
      · cases hown
      · rfl
      · exact absurd rfl hne

/-- A bad answer bars the worker where panics do not unwind. -/
example : (Node.step OcwGarble.shortApi OcwCircuits.shortApi ⟨Chain.empty ℕ, waitingState⟩
    (.garbleWorker { nativeEnv with std := false })).ocw.locked OcwGarble.slot.lockKey = true := rfl

end OffchainWorkerDemo
