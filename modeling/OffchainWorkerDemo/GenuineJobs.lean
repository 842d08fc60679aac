/-
# Only genuine jobs are dispatched

A chain and the workers of one pallet beside it: calls of any kind are applied, the
workers take their steps in any order, each with the environment of its own run, and
the lock may expire at any time.  Every job in the slot or with a worker was left by
a request accepted earlier; so what a worker dispatches is the job of such a request,
goes to the endpoint of its kind, and has every field its kind needs.
-/
import OffchainWorkerDemo.Dispatching
import OffchainWorkerDemo.Node
import OffchainWorkerDemo.WorkerInterleaving

namespace OffchainWorkerDemo

open Mailbox (Stage Action)

variable {A W J ε : Type}

/-! ## Jobs in sight -/

namespace Workers

variable {slot : JobSlot J} {P : J → Prop}

/-- Every job in sight, in the slot or with a worker, satisfies `P`. -/
structure AllJobs (slot : JobSlot J) (P : J → Prop) (c : Workers A W J) : Prop where
  slot : ∀ d, slot.job c.node.storage = some d → P d
  stage : ∀ w d, (c.stage w).letter = some d → P d

theorem AllJobs.mono {Q : J → Prop} {c : Workers A W J} (h : AllJobs slot P c)
    (hPQ : ∀ d, P d → Q d) : AllJobs slot Q c :=
  ⟨fun d hd => hPQ d (h.slot d hd), fun w d hd => hPQ d (h.stage w d hd)⟩

/-- The node changes and the workers stay where they are. -/
theorem AllJobs.withNode {c : Workers A W J} (h : AllJobs slot P c) {node : OcwState A}
    (hnode : ∀ d, slot.job node.storage = some d → P d) :
    AllJobs slot P { c with node := node } :=
  ⟨hnode, h.stage⟩

variable [DecidableEq W]

/-- A worker moves on with a job that satisfies `P`, or without one. -/
theorem AllJobs.goto {c : Workers A W J} (h : AllJobs slot P c) (w : W) {stage : Stage J}
    (hstage : ∀ d, stage.letter = some d → P d) : AllJobs slot P (c.goto w stage) := by
  refine ⟨h.slot, fun w' d hd => ?_⟩
  have hupdate : (c.goto w stage).stage w' = Function.update c.stage w stage w' := rfl
  rw [hupdate] at hd
  by_cases hw : w' = w
  · subst hw
    rw [Function.update_self] at hd
    exact hstage d hd
  · rw [Function.update_of_ne hw] at hd
    exact h.stage w' d hd

/-- A worker moves on with the job it had. -/
theorem AllJobs.goto_of_letter {c : Workers A W J} (h : AllJobs slot P c) (w : W)
    {stage : Stage J} (hstage : stage.letter = (c.stage w).letter) :
    AllJobs slot P (c.goto w stage) := by
  refine h.goto w fun d hd => h.stage w d ?_
  rw [← hstage]
  exact hd

theorem AllJobs.goto_of_none {c : Workers A W J} (h : AllJobs slot P c) (w : W)
    {stage : Stage J} (hstage : stage.letter = none) : AllJobs slot P (c.goto w stage) := by
  refine h.goto w fun d hd => ?_
  rw [hstage] at hd
  cases hd

/-- **A step shows no new job**, unless it writes one. -/
theorem AllJobs.step {process : J → Worker A ε Unit}
    (hprocess : ∀ d, Exec.Within OcwState.Extends (process d)) {c c' : Workers A W J}
    (h : AllJobs slot P c) {a : Action W J} (ha : ∀ d, a = .post d → P d)
    (hstep : Workers.step slot process c a = some c') : AllJobs slot P c' := by
  cases moves_of_step hstep with
  | write hfits hjob =>
    refine h.withNode fun d' hd' => ?_
    rw [slot.job_put hfits hjob] at hd'
    cases hd'
    exact ha _ rfl
  | readNothing hw hjob => exact h
  | @read w d hw hjob =>
    refine h.goto w fun d' hd' => ?_
    cases hd'
    exact h.slot d hjob
  | @giveUp w d hw hlocked => exact h.goto_of_none w rfl
  | @lock w d hw hlocked =>
    have hgoto : AllJobs slot P (c.goto w (.acquired d)) :=
      h.goto_of_letter w (by rw [hw]; rfl)
    exact hgoto.withNode hgoto.slot
  | @reset w d hw =>
    -- the slot is empty, and the worker keeps the job it read
    have hgoto : AllJobs slot P (c.goto w (.cleared d)) :=
      h.goto_of_letter w (by rw [hw]; rfl)
    refine hgoto.withNode fun d' hd' => ?_
    rw [slot.job_reset] at hd'
    cases hd'
  | @dispatch w d hw =>
    refine (h.goto_of_none w rfl).withNode fun d' hd' => h.slot d' ?_
    rw [← (hprocess d c.node).storage]
    exact hd'
  | @unlock w hw => exact (h.goto_of_none w rfl).withNode h.slot

/-- A worker that dispatches has reset the slot for the job it read. -/
theorem dispatched_of_step {process : J → Worker A ε Unit} {c c' : Workers A W J} {w : W}
    (h : Workers.step slot process c (.work w) = some c') :
    ∃ d, c.stage w = .cleared d ∧ c'.node = (process d c.node).state := by
  cases moves_of_step h with
  | @dispatch w d hw => exact ⟨d, hw, rfl⟩

end Workers

/-! ## A chain and the workers beside it -/

/-- A node on which the workers of one pallet run. -/
structure Site (A W J : Type) where
  chain : Chain A
  workers : Workers A W J

/-- The steps of a worker: it reads the slot, tries the lock, resets the slot, dispatches the
job it read, and releases the lock. -/
inductive WorkerStep : Type where
  | read
  | tryLock
  | reset
  | dispatch
  | unlock

/-- The step as one of the given worker. -/
def WorkerStep.action (w : W) : WorkerStep → Action W J
  | .read => .look w
  | .tryLock => .acquire w
  | .reset => .clear w
  | .dispatch => .work w
  | .unlock => .release w

theorem WorkerStep.action_ne_post (k : WorkerStep) (w : W) (d : J) : k.action w ≠ .post d := by
  intro h
  cases k <;> cases h

/-- What happens: a call of a block, a step of a worker, or the deadline of the lock. -/
inductive SiteEvent (A W : Type) : Type where
  | call (x : SignedCall A)
  | worker (env : OcwEnv A) (w : W) (step : WorkerStep)
  | lockExpires

/-- The call, if the event is one. -/
def SiteEvent.signedCall : SiteEvent A W → Option (SignedCall A)
  | .call x => some x
  | _ => none

/-- The calls of a run, in their order. -/
def calls (es : List (SiteEvent A W)) : List (SignedCall A) := es.filterMap SiteEvent.signedCall

theorem calls_concat (es : List (SiteEvent A W)) (e : SiteEvent A W) :
    calls (es ++ [e]) = calls es ++ e.signedCall.toList := by
  rw [calls, List.filterMap_append, calls]
  rcases h : e.signedCall with _ | x
  · rw [List.filterMap_cons_none h]
    rfl
  · rw [List.filterMap_cons_some h]
    rfl

/-- The storage of a slot holds nothing to do: it is absent, undecodable or reset. -/
def JobSlot.Void (slot : JobSlot J) (storage : Bytes → Option Bytes) : Prop :=
  storage slot.key = none ∨
    (∃ value, storage slot.key = some value ∧ slot.codec.read value = none) ∨
    storage slot.key = some (slot.codec.encode slot.empty)

theorem JobSlot.read_of_void {slot : JobSlot J} {storage : Bytes → Option Bytes}
    (h : slot.Void storage) : slot.read storage = slot.empty := by
  unfold read
  rcases h with h | ⟨value, h, hvalue⟩ | h
  · rw [h]
    rfl
  · rw [h, Option.bind_some, hvalue]
    rfl
  · rw [h, Option.bind_some, Codec.read_encode _ slot.fits_empty]
    rfl

/-- A pallet whose workers take the jobs its requests left to the server: what a job is, where
the calls that leave one send it, and what a job must have. -/
structure DispatchingPallet (A J ε : Type) [DecidableEq A] where
  slot : JobSlot J
  jobOf : SignedCall A → Chain A → Option J
  endpointOf : Call → Option String
  process : OcwEnv A → J → Worker A ε Unit
  Complete : J → Prop
  /-- A call leaves its job or nothing. -/
  job_flush : ∀ x s (ocw : OcwState A), slot.job (ocw.flush (x.indexed s)).storage =
    (jobOf x s).or (slot.job ocw.storage)
  /-- Processing touches neither the slot nor the lock. -/
  within_process : ∀ env d, Exec.Within OcwState.Extends (process env d)
  /-- A job goes to the endpoint of its call. -/
  posts : ∀ x s d, jobOf x s = some d → ∃ endpoint, endpointOf x.call = some endpoint ∧
    ∀ env, Exec.Within (OcwState.PostsTo endpoint) (process env d)
  complete : ∀ x s d, jobOf x s = some d → Complete d
  /-- No field of a complete job is missed. -/
  notMissing : ∀ env d, Complete d → Exec.TrapsIn NotMissing (process env d)

namespace DispatchingPallet

variable [DecidableEq A] [DecidableEq W] (p : DispatchingPallet A J ε)

/-- One event: what a call writes to the off-chain index lands in the storage of the workers. -/
def step (s : Site A W J) : SiteEvent A W → Option (Site A W J)
  | .call x => some
    { chain := x.apply s.chain,
      workers := { s.workers with node := s.workers.node.flush (x.indexed s.chain) } }
  | .worker env w k => (Workers.step p.slot (p.process env) s.workers (k.action w)).map
    fun workers => { s with workers := workers }
  | .lockExpires => some
    { s with workers :=
        { s.workers with node := s.workers.node.setLock p.slot.lockKey false } }

/-- Events one after another. -/
def run (s : Site A W J) (es : List (SiteEvent A W)) : Option (Site A W J) := es.foldlM p.step s

theorem run_concat {s s' : Site A W J} {es : List (SiteEvent A W)} {e : SiteEvent A W} :
    p.run s (es ++ [e]) = some s' ↔ ∃ s₁, p.run s es = some s₁ ∧ p.step s₁ e = some s' := by
  simp [run, List.foldlM_append, Option.bind_eq_some_iff]

omit [DecidableEq W] in
/-- One of the calls was a request that was accepted and left the job. -/
def Requested (chain : Chain A) (xs : List (SignedCall A)) (d : J) : Prop :=
  ∃ pre x post, xs = pre ++ x :: post ∧ p.jobOf x (runFrom chain pre) = some d

/-- The slot holds no job, and every worker is yet to read it. -/
structure Fresh (s : Site A W J) : Prop where
  slot : p.slot.job s.workers.node.storage = none
  stage : ∀ w, s.workers.stage w = .idle

/-- The worker dispatches the job `d`: it is the job of a request accepted before, everything
that is sent goes to the endpoint of that request, and none of the fields it needs is
missing. -/
structure Dispatches (chain : Chain A) (xs : List (SignedCall A)) (env : OcwEnv A) (w : W)
    (s s' : Site A W J) (d : J) : Prop where
  held : s.workers.stage w = .cleared d
  processed : s'.workers.node = (p.process env d s.workers.node).state
  requested : ∃ pre x post endpoint, xs = pre ++ x :: post ∧
    p.jobOf x (runFrom chain pre) = some d ∧ p.endpointOf x.call = some endpoint ∧
    OcwState.PostsTo endpoint s.workers.node s'.workers.node
  complete : p.Complete d
  notMissing : ∀ msg t, p.process env d s.workers.node = .trap msg t → NotMissing msg

/-! ## Every job was requested -/

section Requested

omit [DecidableEq W]

variable {p} {chain : Chain A} {xs : List (SignedCall A)} {d : J}

theorem Requested.concat (h : p.Requested chain xs d) (ys : List (SignedCall A)) :
    p.Requested chain (xs ++ ys) d := by
  obtain ⟨pre, x, post, rfl, hd⟩ := h
  exact ⟨pre, x, post ++ ys, by rw [List.append_assoc, List.cons_append], hd⟩

theorem requested_last {x : SignedCall A} (h : p.jobOf x (runFrom chain xs) = some d) :
    p.Requested chain (xs ++ [x]) d := ⟨xs, x, [], rfl, h⟩

end Requested

/-- The chain is that of the calls made, and every job in sight was left by one of them. -/
structure Sound (chain : Chain A) (xs : List (SignedCall A)) (s : Site A W J) : Prop where
  chain_eq : s.chain = runFrom chain xs
  jobs : Workers.AllJobs p.slot (p.Requested chain xs) s.workers

omit [DecidableEq W] in
theorem sound_of_fresh {s : Site A W J} (h : p.Fresh s) : p.Sound s.chain [] s := by
  refine ⟨rfl, fun d hd => ?_, fun w d hd => ?_⟩
  · rw [h.slot] at hd
    cases hd
  · rw [h.stage] at hd
    cases hd

/-- **Every event keeps the jobs genuine**: only an accepted request adds one. -/
theorem Sound.step {chain : Chain A} {xs : List (SignedCall A)} {s s' : Site A W J}
    (h : p.Sound chain xs s) {e : SiteEvent A W} (hstep : p.step s e = some s') :
    p.Sound chain (xs ++ e.signedCall.toList) s' := by
  have hjobs : Workers.AllJobs p.slot (p.Requested chain (xs ++ e.signedCall.toList)) s.workers :=
    h.jobs.mono fun d hd => hd.concat _
  rcases e with x | ⟨env, w, k⟩ | _
  · cases hstep
    refine ⟨?_, hjobs.withNode fun d hd => ?_⟩
    · rw [runFrom_append, ← h.chain_eq]
      rfl
    · rw [p.job_flush] at hd
      rcases Option.or_eq_some_iff.mp hd with hleft | ⟨-, hheld⟩
      · rw [h.chain_eq] at hleft
        exact requested_last hleft
      · exact hjobs.slot d hheld
  · obtain ⟨workers, hworkers, rfl⟩ := Option.map_eq_some_iff.mp hstep
    refine ⟨?_, hjobs.step (p.within_process env) (fun d hd => ?_) hworkers⟩
    · rw [h.chain_eq]
      exact congrArg (runFrom chain) (List.append_nil xs).symm
    · exact absurd hd (k.action_ne_post w d)
  · cases hstep
    refine ⟨?_, hjobs.withNode hjobs.slot⟩
    rw [h.chain_eq]
    exact congrArg (runFrom chain) (List.append_nil xs).symm

theorem sound_of_run {s₀ s : Site A W J} {es : List (SiteEvent A W)} (hfresh : p.Fresh s₀)
    (h : p.run s₀ es = some s) : p.Sound s₀.chain (calls es) s := by
  induction es using List.reverseRecOn generalizing s with
  | nil =>
    cases h
    exact p.sound_of_fresh hfresh
  | append_singleton es e ih =>
    obtain ⟨s₁, hs₁, hstep⟩ := p.run_concat.mp h
    rw [calls_concat]
    exact (ih hs₁).step p hstep

/-! ## What a worker dispatches -/

/-- **What a worker dispatches is a genuine job.** -/
theorem dispatches_of_run {s₀ s s' : Site A W J} {es : List (SiteEvent A W)}
    (hfresh : p.Fresh s₀) (h : p.run s₀ es = some s) {env : OcwEnv A} {w : W}
    (hstep : p.step s (.worker env w .dispatch) = some s') :
    ∃ d, p.Dispatches s₀.chain (calls es) env w s s' d := by
  obtain ⟨workers, hworkers, rfl⟩ := Option.map_eq_some_iff.mp hstep
  obtain ⟨d, hw, hnode⟩ := Workers.dispatched_of_step hworkers
  have hheld : (s.workers.stage w).letter = some d := by
    rw [hw]
    rfl
  obtain ⟨pre, x, post, hcalls, hjob⟩ := (p.sound_of_run hfresh h).jobs.stage w d hheld
  obtain ⟨endpoint, hendpoint, hposts⟩ := p.posts x _ d hjob
  have hcomplete := p.complete x _ d hjob
  have hpostsTo : OcwState.PostsTo endpoint s.workers.node workers.node := hnode ▸ hposts env _
  exact ⟨d, hw, hnode, ⟨pre, x, post, endpoint, hcalls, hjob, hendpoint, hpostsTo⟩, hcomplete,
    fun msg t htrap => p.notMissing env d hcomplete _ msg t htrap⟩

/-- **A worker that finds nothing to do stays where it is**, and dispatches nothing. -/
theorem step_read_of_void {s : Site A W J} (hvoid : p.slot.Void s.workers.node.storage) {w : W}
    (hw : s.workers.stage w = .idle) (env : OcwEnv A) :
    p.step s (.worker env w .read) = some s ∧ p.step s (.worker env w .dispatch) = none := by
  have hread : p.slot.blockNumber (p.slot.read s.workers.node.storage) = 0 := by
    rw [JobSlot.read_of_void hvoid, p.slot.blockNumber_empty]
  constructor
  · simp [step, WorkerStep.action, Workers.step, hw, hread]
  · simp [step, WorkerStep.action, Workers.step, hw]

end DispatchingPallet

/-! ## The two pallets -/

namespace OcwGarble

/-- Where the job of a request is sent. -/
def endpointOf : Call → Option String
  | .garbleStandardSigned _ => some apiEndpointGarbleUrl
  | .garbleAndStripDisplayCircuitsPackageSigned _ => some apiEndpointGarbleStripUrl
  | _ => none

variable [DecidableEq A]

/-- A request and its job agree on the endpoint, and the job has all fields of its kind. -/
theorem endpointOf_of_jobOf {x : SignedCall A} {s : Chain A} {d : IndexingData}
    (h : jobOf x s = some d) : endpointOf x.call = some d.grpcKind.endpoint ∧ d.Complete := by
  unfold jobOf at h
  obtain ⟨-, h⟩ := Option.ite_none_right_eq_some.mp h
  revert h
  generalize x.call = call
  intro h
  cases call with
  | garbleStandardSigned cid =>
    cases h
    exact ⟨rfl, rfl⟩
  | garbleAndStripDisplayCircuitsPackageSigned txMsg =>
    obtain ⟨pkg, -, rfl⟩ := Option.map_eq_some_iff.mp h
    exact ⟨rfl, rfl, rfl, rfl, rfl, rfl⟩
  | _ => cases h

/-- The garbling pallet with its workers. -/
def dispatching (api : Api) : DispatchingPallet A IndexingData Error where
  slot := slot
  jobOf := jobOf
  endpointOf := endpointOf
  process := processJob api
  Complete := IndexingData.Complete
  job_flush := job_flush_indexed
  within_process := within_processJob api
  posts _ _ d h := ⟨_, (endpointOf_of_jobOf h).1, fun env => postsTo_processJob api env d⟩
  complete _ _ _ h := (endpointOf_of_jobOf h).2
  notMissing env _ h := notMissing_processJob api env h

end OcwGarble

namespace OcwCircuits

/-- Where the job of a request is sent. -/
def endpointOf : Call → Option String
  | .submitConfigGenericSigned _ => some apiEndpointGenericUrl
  | .submitConfigDisplayCircuitsPackageSigned => some apiEndpointDisplayUrl
  | _ => none

variable [DecidableEq A]

/-- A request and its job agree on the endpoint, and the job has all fields of its kind. -/
theorem endpointOf_of_jobOf {x : SignedCall A} {s : Chain A} {d : IndexingData}
    (h : jobOf x s = some d) : endpointOf x.call = some d.grpcKind.endpoint ∧ d.Complete := by
  unfold jobOf at h
  obtain ⟨-, h⟩ := Option.ite_none_right_eq_some.mp h
  revert h
  generalize x.call = call
  intro h
  cases call with
  | submitConfigGenericSigned cid =>
    cases h
    exact ⟨rfl, rfl⟩
  | submitConfigDisplayCircuitsPackageSigned =>
    cases h
    exact ⟨rfl, trivial⟩
  | _ => cases h

/-- The circuits pallet with its workers. -/
def dispatching (api : Api) : DispatchingPallet A IndexingData Error where
  slot := slot
  jobOf := jobOf
  endpointOf := endpointOf
  process := processJob api
  Complete := IndexingData.Complete
  job_flush := job_flush_indexed
  within_process := within_processJob api
  posts _ _ d h := ⟨_, (endpointOf_of_jobOf h).1, fun env => postsTo_processJob api env d⟩
  complete _ _ _ h := (endpointOf_of_jobOf h).2
  notMissing env _ h := notMissing_processJob api env h

end OcwCircuits

/-- **Workers dispatch only genuine, complete jobs**, whatever the order of the calls and of
their steps; one that reads an absent, undecodable or reset slot dispatches nothing. -/
theorem workers_dispatch_genuine_jobs [DecidableEq A] [DecidableEq W] (garbleApi : OcwGarble.Api)
    (circuitsApi : OcwCircuits.Api) :
    (∀ (s₀ s : Site A W OcwGarble.IndexingData) es,
      (OcwGarble.dispatching garbleApi).Fresh s₀ →
      (OcwGarble.dispatching garbleApi).run s₀ es = some s →
      (∀ env w s', (OcwGarble.dispatching garbleApi).step s (.worker env w .dispatch) = some s' →
        ∃ d, (OcwGarble.dispatching garbleApi).Dispatches s₀.chain (calls es) env w s s' d) ∧
      ∀ env w, OcwGarble.slot.Void s.workers.node.storage → s.workers.stage w = .idle →
        (OcwGarble.dispatching garbleApi).step s (.worker env w .read) = some s ∧
        (OcwGarble.dispatching garbleApi).step s (.worker env w .dispatch) = none) ∧
    (∀ (s₀ s : Site A W OcwCircuits.IndexingData) es,
      (OcwCircuits.dispatching circuitsApi).Fresh s₀ →
      (OcwCircuits.dispatching circuitsApi).run s₀ es = some s →
      (∀ env w s', (OcwCircuits.dispatching circuitsApi).step s (.worker env w .dispatch) =
          some s' →
        ∃ d, (OcwCircuits.dispatching circuitsApi).Dispatches s₀.chain (calls es) env w s s' d) ∧
      ∀ env w, OcwCircuits.slot.Void s.workers.node.storage → s.workers.stage w = .idle →
        (OcwCircuits.dispatching circuitsApi).step s (.worker env w .read) = some s ∧
        (OcwCircuits.dispatching circuitsApi).step s (.worker env w .dispatch) = none) := by
  constructor
  · intro s₀ s es hfresh hrun
    refine ⟨fun env w s' hstep => ?_, fun env w hvoid hw => ?_⟩
    · exact DispatchingPallet.dispatches_of_run _ hfresh hrun hstep
    · exact DispatchingPallet.step_read_of_void _ hvoid hw env
  · intro s₀ s es hfresh hrun
    refine ⟨fun env w s' hstep => ?_, fun env w hvoid hw => ?_⟩
    · exact DispatchingPallet.dispatches_of_run _ hfresh hrun hstep
    · exact DispatchingPallet.step_read_of_void _ hvoid hw env

/-- A chain and idle workers of one pallet. -/
def Site.launch (W J : Type) (chain : Chain ℕ) : Site ℕ W J where
  chain := chain
  workers := .start W J freshNode

/-- A request is accepted, a worker reads its job and waits; another request follows, and the
worker goes on. -/
def overtakenRun (request request' : Call) : List (SiteEvent ℕ ℕ) :=
  [.call ⟨default, 0, request⟩, .worker offline 0 .read, .call ⟨default, 1, request'⟩,
    .worker offline 0 .tryLock, .worker offline 0 .reset]

/-- In both pallets the worker that was overtaken still dispatches a genuine job. -/
theorem workers_dispatch_genuine_jobs_overtakenRun :
    (∃ s s', (OcwGarble.dispatching OcwGarble.shortApi).step s (.worker offline 0 .dispatch) =
        some s' ∧
      ∃ d, (OcwGarble.dispatching OcwGarble.shortApi).Dispatches (Chain.empty ℕ)
        (calls (overtakenRun (.garbleStandardSigned [97]) (.garbleStandardSigned [98])))
        offline 0 s s' d) ∧
    ∃ s s', (OcwCircuits.dispatching OcwCircuits.shortApi).step s (.worker offline 0 .dispatch) =
        some s' ∧
      ∃ d, (OcwCircuits.dispatching OcwCircuits.shortApi).Dispatches (Chain.empty ℕ)
        (calls (overtakenRun (.submitConfigGenericSigned [97])
          .submitConfigDisplayCircuitsPackageSigned))
        offline 0 s s' d :=
  ⟨⟨_, _, rfl, ((workers_dispatch_genuine_jobs OcwGarble.shortApi OcwCircuits.shortApi).1
      (.launch ℕ _ (Chain.empty ℕ)) _ _ ⟨rfl, fun _ => rfl⟩ rfl).1 offline 0 _ rfl⟩,
    ⟨_, _, rfl, ((workers_dispatch_genuine_jobs OcwGarble.shortApi OcwCircuits.shortApi).2
      (.launch ℕ _ (Chain.empty ℕ)) _ _ ⟨rfl, fun _ => rfl⟩ rfl).1 offline 0 _ rfl⟩⟩

end OffchainWorkerDemo
