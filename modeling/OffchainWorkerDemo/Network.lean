/-
# A network of nodes

The calls of the blocks, one after another; nodes that import them, each at its own
pace, and run their workers; and the pool of the transactions the workers submitted,
which are put in a block in any order, or dropped.  A block is imported one call at a
time, so a worker may also run in the middle of one; forks are left out.

Whatever the order of events, a transaction of the pool publishes what the server
replied to the job of an accepted request (`sound_run`).
-/
import OffchainWorkerDemo.WorkerRuns
import Mathlib.Data.List.Induction

namespace OffchainWorkerDemo

variable {ι A J : Type} [DecidableEq A]

/-! ## The network -/

/-- A node of the network, and how many calls it has imported. -/
structure Peer (A : Type) where
  imported : ℕ
  node : Node A

/-- The calls that are in blocks, the nodes, and the transactions waiting for a block. -/
structure Network (ι A : Type) where
  calls : List (SignedCall A)
  peers : ι → Peer A
  pool : List (A × Call)

/-- What happens in a network. -/
inductive NetworkEvent (ι A : Type) : Type where
  /-- A call that no worker submitted is put in a block. -/
  | call (x : SignedCall A)
  /-- A transaction of the pool is put in a block. -/
  | includeTx (k : ℕ) (env : Env)
  /-- A transaction leaves the pool unused. -/
  | dropTx (k : ℕ)
  /-- A node imports the next call. -/
  | importCall (i : ι)
  | garbleWorker (i : ι) (env : OcwEnv A)
  | circuitsWorker (i : ι) (env : OcwEnv A)

/-- The run of a worker, and the node it runs on. -/
def NetworkEvent.worker : NetworkEvent ι A → Option (ι × NodeEvent A)
  | .garbleWorker i env => some (i, .garbleWorker env)
  | .circuitsWorker i env => some (i, .circuitsWorker env)
  | _ => none

namespace Network

/-- Nodes that have imported nothing. -/
def launch (ι A : Type) : Network ι A where
  calls := []
  peers := fun _ => ⟨0, Node.launch (Chain.empty A)⟩
  pool := []

/-- The off-chain state of a node. -/
def ocw (net : Network ι A) (i : ι) : OcwState A := (net.peers i).node.ocw

section Steps

variable [DecidableEq ι] (garbleApi : OcwGarble.Api) (circuitsApi : OcwCircuits.Api)

/-- A node runs a worker; what it submits goes to the pool. -/
def work (net : Network ι A) (i : ι) (e : NodeEvent A) : Network ι A :=
  let peer := net.peers i
  let node := Node.step garbleApi circuitsApi peer.node e
  { net with
    peers := Function.update net.peers i { peer with node := node }
    pool := net.pool ++ node.ocw.submitted.drop peer.node.ocw.submitted.length }

/-- A node imports a call. -/
def importNext (net : Network ι A) (i : ι) (x : SignedCall A) : Network ι A :=
  let peer := net.peers i
  let node := Node.step garbleApi circuitsApi peer.node (.call x)
  { net with peers := Function.update net.peers i ⟨peer.imported + 1, node⟩ }

/-- The network after an event. -/
def step (net : Network ι A) : NetworkEvent ι A → Network ι A
  | .call x => { net with calls := net.calls ++ [x] }
  | .includeTx k env =>
    match net.pool[k]? with
    | some (who, call) =>
      { net with calls := net.calls ++ [⟨env, who, call⟩], pool := net.pool.eraseIdx k }
    | none => net
  | .dropTx k => { net with pool := net.pool.eraseIdx k }
  | .importCall i =>
    match net.calls[(net.peers i).imported]? with
    | some x => net.importNext garbleApi circuitsApi i x
    | none => net
  | .garbleWorker i env => net.work garbleApi circuitsApi i (.garbleWorker env)
  | .circuitsWorker i env => net.work garbleApi circuitsApi i (.circuitsWorker env)

/-- The network after events, one after another. -/
def run (net : Network ι A) (es : List (NetworkEvent ι A)) : Network ι A :=
  es.foldl (step garbleApi circuitsApi) net

theorem run_concat (net : Network ι A) (es : List (NetworkEvent ι A)) (e : NetworkEvent ι A) :
    net.run garbleApi circuitsApi (es ++ [e]) =
      (net.run garbleApi circuitsApi es).step garbleApi circuitsApi e := List.foldl_append

theorem step_call (net : Network ι A) (x : SignedCall A) :
    net.step garbleApi circuitsApi (.call x) = { net with calls := net.calls ++ [x] } := rfl

/-- What a step can do: a block gets a call of a user or of the pool, the pool shrinks, a node
imports its next call, or a node runs a worker. -/
inductive Moves (net : Network ι A) (e : NetworkEvent ι A) : Network ι A → Prop where
  | call {x : SignedCall A} (hx : e = .call x) : Moves net e { net with calls := net.calls ++ [x] }
  | includeTx {k : ℕ} {x : SignedCall A} (hx : net.pool[k]? = some (x.who, x.call)) :
      Moves net e { net with calls := net.calls ++ [x], pool := net.pool.eraseIdx k }
  | forget {pool : List (A × Call)} (hpool : List.Sublist pool net.pool) :
      Moves net e { net with pool := pool }
  | importCall {i : ι} {x : SignedCall A} (hx : net.calls[(net.peers i).imported]? = some x) :
      Moves net e (net.importNext garbleApi circuitsApi i x)
  | work {i : ι} {ne : NodeEvent A} (hwork : e.worker = some (i, ne)) :
      Moves net e (net.work garbleApi circuitsApi i ne)

/-- **A step is one of these.** -/
theorem moves_step (net : Network ι A) (e : NetworkEvent ι A) :
    Moves garbleApi circuitsApi net e (net.step garbleApi circuitsApi e) := by
  rcases e with x | ⟨k, env⟩ | k | i | ⟨i, env⟩ | ⟨i, env⟩
  · exact .call rfl
  · rw [step]
    rcases hk : net.pool[k]? with _ | ⟨who, call⟩
    · exact .forget (List.Sublist.refl _)
    · exact .includeTx hk
  · exact .forget (List.eraseIdx_sublist ..)
  · rw [step]
    rcases hx : net.calls[(net.peers i).imported]? with _ | x
    · exact .forget (List.Sublist.refl _)
    · exact .importCall hx
  · exact .work rfl
  · exact .work rfl

end Steps

end Network

/-! ## One event of a node -/

variable {garbleApi : OcwGarble.Api} {circuitsApi : OcwCircuits.Api}

namespace OcwService

variable (p : OcwService A J garbleApi circuitsApi)

/-- A job in the slot was there before, or the event is the request that left it. -/
theorem job_step {s : Node A} {e : NodeEvent A} {d : J}
    (h : p.slot.job (Node.step garbleApi circuitsApi s e).ocw.storage = some d) :
    p.slot.job s.ocw.storage = some d ∨ ∃ x, e = .call x ∧ p.jobOf x s.chain = some d := by
  rcases henv : p.envOf e with _ | env
  · by_cases hcall : ∃ x, e = .call x
    · obtain ⟨x, rfl⟩ := hcall
      rw [p.job_call] at h
      rcases Option.or_eq_some_iff.mp h with hjob | ⟨-, hold⟩
      · exact Or.inr ⟨x, rfl, hjob⟩
      · exact Or.inl hold
    · rw [p.job_other s e (fun x hx => hcall ⟨x, hx⟩) henv] at h
      exact Or.inl h
  · by_cases hidle : p.slot.Idle s.ocw
    · rw [p.step_idle s e env henv hidle] at h
      exact Or.inl h
    · rw [p.job_taken s e env henv hidle] at h
      cases h

/-- The run submits the transaction, for a job of the slot. -/
def Submits (s : Node A) (e : NodeEvent A) (tx : A × Call) : Prop :=
  ∃ d env posts, p.slot.job s.ocw.storage = some d ∧ p.envOf e = some env ∧
    tx.1 ∈ env.keystore ∧ p.answers env s.ocw.posted.length d posts tx.2 ∧
    (Node.step garbleApi circuitsApi s e).ocw.posted = s.ocw.posted ++ posts

/-- What a run of the worker adds to the transactions, it submits. -/
theorem submits_of_mem {s : Node A} {e : NodeEvent A} {env : OcwEnv A} (henv : p.envOf e = some env)
    {tx : A × Call} (h : tx ∈ (Node.step garbleApi circuitsApi s e).ocw.submitted) :
    tx ∈ s.ocw.submitted ∨ p.Submits s e tx := by
  by_cases hidle : p.slot.Idle s.ocw
  · rw [p.step_idle s e env henv hidle] at h
    exact Or.inl h
  · have hjob : p.slot.job s.ocw.storage = some (p.slot.read s.ocw.storage) :=
      JobSlot.job_eq_some_iff.mpr ⟨rfl, fun h0 => hidle (Or.inl h0)⟩
    rcases (p.worked s e env henv hidle).submitted with heq | ⟨posts, call, hanswers, hposted, heq⟩
    · rw [heq] at h
      exact Or.inl h
    · rw [heq] at h
      refine (List.mem_append.mp h).imp id fun hnew => ?_
      obtain ⟨account, haccount, rfl⟩ := List.mem_map.mp hnew
      exact ⟨_, env, posts, hjob, henv, haccount, hanswers, hposted⟩

theorem submitted_grows {s : Node A} {e : NodeEvent A} {env : OcwEnv A}
    (henv : p.envOf e = some env) :
    s.ocw.submitted <+: (Node.step garbleApi circuitsApi s e).ocw.submitted := by
  by_cases hidle : p.slot.Idle s.ocw
  · have hstep := p.step_idle s e env henv hidle
    exact hstep.symm ▸ List.prefix_rfl
  · rcases (p.worked s e env henv hidle).submitted with heq | ⟨posts, call, -, -, heq⟩
    · exact heq.symm ▸ List.prefix_rfl
    · exact heq.symm ▸ List.prefix_append _ _

end OcwService

/-- **A transaction of a node** was submitted before the event, or by the worker that ran. -/
theorem Node.submitted_step {s : Node A} {e : NodeEvent A} {tx : A × Call}
    (h : tx ∈ (Node.step garbleApi circuitsApi s e).ocw.submitted) :
    tx ∈ s.ocw.submitted ∨ (garbleService garbleApi circuitsApi).Submits s e tx ∨
      (circuitsService garbleApi circuitsApi).Submits s e tx := by
  rcases e with x | env | env
  · have hsubmitted := OcwState.flush_submitted s.ocw (x.indexed s.chain)
    exact Or.inl (hsubmitted ▸ h)
  · exact ((garbleService garbleApi circuitsApi).submits_of_mem rfl h).imp id Or.inl
  · exact ((circuitsService garbleApi circuitsApi).submits_of_mem rfl h).imp id Or.inr

/-- Transactions are only added. -/
theorem Node.submitted_grows (garbleApi : OcwGarble.Api) (circuitsApi : OcwCircuits.Api) (s : Node A)
    (e : NodeEvent A) :
    s.ocw.submitted <+: (Node.step garbleApi circuitsApi s e).ocw.submitted := by
  rcases e with x | env | env
  · have hsubmitted := OcwState.flush_submitted s.ocw (x.indexed s.chain)
    exact hsubmitted ▸ List.prefix_rfl
  · exact (garbleService garbleApi circuitsApi).submitted_grows rfl
  · exact (circuitsService garbleApi circuitsApi).submitted_grows rfl

/-! ## Where a transaction comes from -/

namespace OcwService

variable (p : OcwService A J garbleApi circuitsApi)

/-- Some accepted request among the calls left this job. -/
def Requested (calls : List (SignedCall A)) (d : J) : Prop :=
  ∃ pre x post, calls = pre ++ x :: post ∧ p.jobOf x (run pre) = some d

/-- The worker ran on node `i` with this environment. -/
def Ran (es : List (NetworkEvent ι A)) (i : ι) (env : OcwEnv A) : Prop :=
  ∃ e ∈ es, ∃ ne, e.worker = some (i, ne) ∧ p.envOf ne = some env

/-- A run of the worker on node `i` took the job of an accepted request, posted the requests of
that job, and submitted the transaction, signed by one of its keys, to publish the replies. -/
def Justifies (calls : List (SignedCall A)) (es : List (NetworkEvent ι A)) (i : ι)
    (posted : List HttpRequest) (tx : A × Call) : Prop :=
  ∃ d env before posts, p.Requested calls d ∧ p.Ran es i env ∧ tx.1 ∈ env.keystore ∧
    p.answers env before.length d posts tx.2 ∧ before ++ posts <+: posted

variable {p}

theorem Requested.mono {calls calls' : List (SignedCall A)} {d : J} (h : p.Requested calls d)
    (hcalls : calls <+: calls') : p.Requested calls' d := by
  obtain ⟨pre, x, post, rfl, hjob⟩ := h
  obtain ⟨rest, rfl⟩ := hcalls
  exact ⟨pre, x, post ++ rest, by simp, hjob⟩

/-- What justifies a transaction stays as blocks, events and requests are added. -/
theorem Justifies.mono {calls calls' : List (SignedCall A)} {es es' : List (NetworkEvent ι A)} {i : ι}
    {posted posted' : List HttpRequest} {tx : A × Call} (h : p.Justifies calls es i posted tx)
    (hcalls : calls <+: calls') (hes : es ⊆ es') (hposted : posted <+: posted') :
    p.Justifies calls' es' i posted' tx := by
  obtain ⟨d, env, before, posts, hd, ⟨e, he, hran⟩, hkey, hanswers, hposts⟩ := h
  exact ⟨d, env, before, posts, hd.mono hcalls, ⟨e, hes he, hran⟩, hkey, hanswers,
    hposts.trans hposted⟩

end OcwService

namespace Network

section Sound

variable (garbleApi circuitsApi)

/-- One of the two services justifies the transaction. -/
def Justified (calls : List (SignedCall A)) (es : List (NetworkEvent ι A)) (i : ι)
    (posted : List HttpRequest) (tx : A × Call) : Prop :=
  (garbleService garbleApi circuitsApi).Justifies calls es i posted tx ∨
    (circuitsService garbleApi circuitsApi).Justifies calls es i posted tx

/-- A node that has imported some of the calls: its chain is that of these calls, and the jobs
of its slots were left by requests among them. -/
structure PeerSound (calls : List (SignedCall A)) (peer : Peer A) : Prop where
  imported_le : peer.imported ≤ calls.length
  chain : peer.node.chain = OffchainWorkerDemo.run (calls.take peer.imported)
  garbleJob : ∀ d, (garbleService (A := A) garbleApi circuitsApi).slot.job peer.node.ocw.storage = some d →
    (garbleService garbleApi circuitsApi).Requested (calls.take peer.imported) d
  circuitsJob : ∀ d,
    (circuitsService (A := A) garbleApi circuitsApi).slot.job peer.node.ocw.storage = some d →
    (circuitsService garbleApi circuitsApi).Requested (calls.take peer.imported) d

/-- The network after the events `es`: its nodes are sound, every transaction a node submitted
is justified, the pool holds such transactions only, and a call in a block was put there by a
user, or was justified by the calls before it. -/
structure Sound (net : Network ι A) (es : List (NetworkEvent ι A)) : Prop where
  peers : ∀ i, PeerSound garbleApi circuitsApi net.calls (net.peers i)
  submitted : ∀ i, ∀ tx ∈ (net.ocw i).submitted,
    Justified garbleApi circuitsApi net.calls es i (net.ocw i).posted tx
  pool : ∀ tx ∈ net.pool, ∃ i, tx ∈ (net.ocw i).submitted
  calls : ∀ pre x post, net.calls = pre ++ x :: post → .call x ∈ es ∨
    ∃ i, Justified garbleApi circuitsApi pre es i (net.ocw i).posted (x.who, x.call)

end Sound

theorem Justified.mono {calls calls' : List (SignedCall A)} {es es' : List (NetworkEvent ι A)} {i : ι}
    {posted posted' : List HttpRequest} {tx : A × Call}
    (h : Justified garbleApi circuitsApi calls es i posted tx) (hcalls : calls <+: calls')
    (hes : es ⊆ es') (hposted : posted <+: posted') :
    Justified garbleApi circuitsApi calls' es' i posted' tx :=
  h.imp (fun h => h.mono hcalls hes hposted) fun h => h.mono hcalls hes hposted

theorem PeerSound.mono {calls calls' : List (SignedCall A)} {peer : Peer A}
    (h : PeerSound garbleApi circuitsApi calls peer) (hcalls : calls <+: calls') :
    PeerSound garbleApi circuitsApi calls' peer := by
  obtain ⟨rest, rfl⟩ := hcalls
  have htake : (calls ++ rest).take peer.imported = calls.take peer.imported :=
    List.take_append_of_le_length h.imported_le
  refine ⟨?_, by rw [htake]; exact h.chain, by rw [htake]; exact h.garbleJob,
    by rw [htake]; exact h.circuitsJob⟩
  have := h.imported_le
  rw [List.length_append]
  omega

/-- A job after an import was left by a call imported so far. -/
theorem requested_import {p : OcwService A J garbleApi circuitsApi} {calls : List (SignedCall A)}
    {peer : Peer A} {x : SignedCall A} (hx : calls[peer.imported]? = some x)
    (hchain : peer.node.chain = OffchainWorkerDemo.run (calls.take peer.imported))
    (hjob : ∀ d, p.slot.job peer.node.ocw.storage = some d →
      p.Requested (calls.take peer.imported) d) {d : J}
    (h : p.slot.job (Node.step garbleApi circuitsApi peer.node (.call x)).ocw.storage = some d) :
    p.Requested (calls.take (peer.imported + 1)) d := by
  have htake : calls.take (peer.imported + 1) = calls.take peer.imported ++ [x] := by
    rw [List.take_add_one, hx]
    rfl
  rw [htake]
  rcases p.job_step h with hold | ⟨y, hy, hleft⟩
  · exact (hjob d hold).mono (List.prefix_append _ _)
  · obtain rfl := NodeEvent.call.inj hy
    rw [hchain] at hleft
    exact ⟨_, x, [], rfl, hleft⟩

/-- **A node that imports its next call stays sound.** -/
theorem PeerSound.importNext {calls : List (SignedCall A)} {peer : Peer A}
    (h : PeerSound garbleApi circuitsApi calls peer) {x : SignedCall A}
    (hx : calls[peer.imported]? = some x) :
    PeerSound garbleApi circuitsApi calls
      ⟨peer.imported + 1, Node.step garbleApi circuitsApi peer.node (.call x)⟩ := by
  obtain ⟨hlt, -⟩ := List.getElem?_eq_some_iff.mp hx
  refine ⟨hlt, ?_, fun d => requested_import hx h.chain h.garbleJob,
    fun d => requested_import hx h.chain h.circuitsJob⟩
  show x.apply peer.node.chain = OffchainWorkerDemo.run (calls.take (peer.imported + 1))
  rw [List.take_add_one, hx, h.chain]
  exact (OffchainWorkerDemo.run_concat _ x).symm

omit [DecidableEq A] in
/-- The run of a worker is not a call. -/
theorem worker_ne_call {e : NetworkEvent ι A} {i : ι} {ne : NodeEvent A}
    (h : e.worker = some (i, ne)) (x : SignedCall A) : ne ≠ .call x := by
  rintro rfl
  cases e <;> cases h

/-- **A node that runs a worker stays sound**: a job it still holds is an old one. -/
theorem PeerSound.work {calls : List (SignedCall A)} {peer : Peer A}
    (h : PeerSound garbleApi circuitsApi calls peer) {ne : NodeEvent A} (hne : ∀ x, ne ≠ .call x) :
    PeerSound garbleApi circuitsApi calls
      { peer with node := Node.step garbleApi circuitsApi peer.node ne } := by
  have hchain : (Node.step garbleApi circuitsApi peer.node ne).chain = peer.node.chain := by
    rcases ne with x | env | env
    · exact absurd rfl (hne x)
    · rfl
    · rfl
  refine ⟨h.imported_le, hchain.trans h.chain, fun d hd => h.garbleJob d ?_,
    fun d hd => h.circuitsJob d ?_⟩
  · exact (OcwService.job_step _ hd).resolve_right fun ⟨x, hx, _⟩ => hne x hx
  · exact (OcwService.job_step _ hd).resolve_right fun ⟨x, hx, _⟩ => hne x hx

/-- What a run of a worker submits is justified. -/
theorem justifies_of_submits {p : OcwService A J garbleApi circuitsApi} {calls : List (SignedCall A)}
    {es : List (NetworkEvent ι A)} {e : NetworkEvent ι A} {i : ι} {ne : NodeEvent A}
    (hwork : e.worker = some (i, ne)) {peer : Peer A}
    (hjob : ∀ d, p.slot.job peer.node.ocw.storage = some d →
      p.Requested (calls.take peer.imported) d) {tx : A × Call} (h : p.Submits peer.node ne tx) :
    p.Justifies calls (es ++ [e]) i (Node.step garbleApi circuitsApi peer.node ne).ocw.posted
      tx := by
  obtain ⟨d, env, posts, hd, henv, hkey, hanswers, hposted⟩ := h
  have hran : p.Ran (es ++ [e]) i env := ⟨e, by simp, ne, hwork, henv⟩
  refine ⟨d, env, peer.node.ocw.posted, posts, (hjob d hd).mono (List.take_prefix _ _), hran, hkey,
    hanswers, ?_⟩
  exact hposted.symm ▸ List.prefix_rfl

theorem sound_launch : Sound garbleApi circuitsApi (launch ι A) [] := by
  refine ⟨fun i => ⟨Nat.zero_le _, rfl, ?_, ?_⟩, ?_, ?_, ?_⟩
  · intro d hd
    cases hd
  · intro d hd
    cases hd
  · intro i tx htx
    cases htx
  · intro tx htx
    cases htx
  · intro pre x post hcalls
    exact absurd hcalls.symm (by simp [launch])

section Steps

variable {net : Network ι A} {es : List (NetworkEvent ι A)}

/-- A longer chain and a smaller pool keep the network sound. -/
theorem Sound.block (h : Sound garbleApi circuitsApi net es) {e : NetworkEvent ι A} {x : SignedCall A}
    {pool : List (A × Call)} (hpool : pool ⊆ net.pool)
    (hx : e = .call x ∨ (x.who, x.call) ∈ net.pool) :
    Sound garbleApi circuitsApi { net with calls := net.calls ++ [x], pool := pool } (es ++ [e]) := by
  have hcalls : net.calls <+: net.calls ++ [x] := List.prefix_append _ _
  refine ⟨fun i => (h.peers i).mono hcalls, ?_, fun tx htx => h.pool tx (hpool htx), ?_⟩
  · intro i tx htx
    exact (h.submitted i tx htx).mono hcalls (List.subset_append_left _ _) List.prefix_rfl
  · intro pre y post hsplit
    rcases List.eq_nil_or_concat post with rfl | ⟨post, z, rfl⟩
    · -- the new call: what justifies it is there already
      obtain ⟨rfl, hlast⟩ := List.append_inj' hsplit rfl
      obtain rfl := List.singleton_inj.mp hlast
      rcases hx with rfl | hmem
      · exact Or.inl (by simp)
      · obtain ⟨i, hi⟩ := h.pool _ hmem
        exact Or.inr ⟨i, (h.submitted i _ hi).mono List.prefix_rfl (List.subset_append_left _ _)
          List.prefix_rfl⟩
    · have hconcat : net.calls ++ [x] = (pre ++ y :: post) ++ [z] := by simpa using hsplit
      obtain ⟨hold, -⟩ := List.append_inj' hconcat rfl
      exact (h.calls pre y post hold).imp (List.mem_append_left _) fun ⟨i, hi⟩ =>
        ⟨i, hi.mono List.prefix_rfl (List.subset_append_left _ _) List.prefix_rfl⟩

theorem Sound.forget (h : Sound garbleApi circuitsApi net es) (e : NetworkEvent ι A)
    {pool : List (A × Call)} (hpool : pool ⊆ net.pool) :
    Sound garbleApi circuitsApi { net with pool := pool } (es ++ [e]) := by
  refine ⟨h.peers, ?_, fun tx htx => h.pool tx (hpool htx), ?_⟩
  · intro i tx htx
    exact (h.submitted i tx htx).mono List.prefix_rfl (List.subset_append_left _ _) List.prefix_rfl
  · intro pre y post hsplit
    exact (h.calls pre y post hsplit).imp (List.mem_append_left _) fun ⟨i, hi⟩ =>
      ⟨i, hi.mono List.prefix_rfl (List.subset_append_left _ _) List.prefix_rfl⟩

variable [DecidableEq ι]

/-- One node changes, and keeps what it posted and submitted. -/
theorem Sound.update (h : Sound garbleApi circuitsApi net es) {e : NetworkEvent ι A} {i : ι}
    {peer : Peer A} {pool : List (A × Call)} (hpeer : PeerSound garbleApi circuitsApi net.calls peer)
    (hposted : (net.ocw i).posted <+: peer.node.ocw.posted)
    (hold : ∀ tx ∈ (net.ocw i).submitted, tx ∈ peer.node.ocw.submitted)
    (hnew : ∀ tx ∈ peer.node.ocw.submitted,
      Justified garbleApi circuitsApi net.calls (es ++ [e]) i peer.node.ocw.posted tx)
    (hpool : ∀ tx ∈ pool, tx ∈ net.pool ∨ tx ∈ peer.node.ocw.submitted) :
    Sound garbleApi circuitsApi
      { net with peers := Function.update net.peers i peer, pool := pool } (es ++ [e]) := by
  -- what some node submitted, some node still has
  have hsome : ∀ tx, (∃ j, tx ∈ (net.ocw j).submitted) →
      ∃ j, tx ∈ (Function.update net.peers i peer j).node.ocw.submitted := by
    rintro tx ⟨j, hj⟩
    by_cases hij : j = i
    · subst hij
      exact ⟨j, by rw [Function.update_self]; exact hold tx hj⟩
    · exact ⟨j, by rw [Function.update_of_ne hij]; exact hj⟩
  refine ⟨fun j => ?_, fun j tx htx => ?_, fun tx htx => ?_, fun pre y post hsplit => ?_⟩
  · by_cases hij : j = i
    · subst hij
      show PeerSound garbleApi circuitsApi net.calls (Function.update net.peers j peer j)
      rw [Function.update_self]
      exact hpeer
    · show PeerSound garbleApi circuitsApi net.calls (Function.update net.peers i peer j)
      rw [Function.update_of_ne hij]
      exact h.peers j
  · by_cases hij : j = i
    · subst hij
      simp only [ocw, Function.update_self] at htx ⊢
      exact hnew tx htx
    · simp only [ocw, Function.update_of_ne hij] at htx ⊢
      exact (h.submitted j tx htx).mono List.prefix_rfl (List.subset_append_left _ _)
        List.prefix_rfl
  · rcases hpool tx htx with hin | hin
    · exact hsome tx (h.pool tx hin)
    · exact ⟨i, by simp only [ocw, Function.update_self]; exact hin⟩
  · refine (h.calls pre y post hsplit).imp (List.mem_append_left _) fun ⟨j, hj⟩ => ⟨j, ?_⟩
    refine hj.mono List.prefix_rfl (List.subset_append_left _ _) ?_
    by_cases hij : j = i
    · subst hij
      simp only [ocw, Function.update_self]
      exact hposted
    · simp only [ocw, Function.update_of_ne hij]
      exact List.prefix_rfl

/-- **A step keeps the network sound.** -/
theorem Sound.step (h : Sound garbleApi circuitsApi net es) (e : NetworkEvent ι A) :
    Sound garbleApi circuitsApi (net.step garbleApi circuitsApi e) (es ++ [e]) := by
  have hmoves := moves_step garbleApi circuitsApi net e
  revert hmoves
  generalize net.step garbleApi circuitsApi e = net'
  intro hmoves
  cases hmoves with
  | call hx => exact h.block (List.Subset.refl _) (Or.inl hx)
  | includeTx hx => exact h.block List.eraseIdx_subset (Or.inr (List.mem_of_getElem? hx))
  | forget hpool => exact h.forget e hpool.subset
  | @importCall i x hx =>
    have hsubmitted := OcwState.flush_submitted (net.ocw i) (x.indexed (net.peers i).node.chain)
    have hposted := OcwState.posted_flush (net.ocw i) (x.indexed (net.peers i).node.chain)
    refine h.update ((h.peers i).importNext hx) (hposted.symm ▸ List.prefix_rfl) (fun tx htx => ?_)
      (fun tx htx => ?_) fun tx htx => Or.inl htx
    · exact hsubmitted.symm ▸ htx
    · refine (h.submitted i tx (hsubmitted ▸ htx)).mono List.prefix_rfl
        (List.subset_append_left _ _) ?_
      exact hposted.symm ▸ List.prefix_rfl
  | @work i ne hwork =>
    have hpeer := h.peers i
    have hne := worker_ne_call hwork
    have hposted := OcwState.posted_prefix
      (Node.exchanges_step garbleApi circuitsApi (net.peers i).node ne)
    have hsubmitted := Node.submitted_grows garbleApi circuitsApi (net.peers i).node ne
    refine h.update (hpeer.work hne) hposted (fun tx htx => hsubmitted.subset htx)
      (fun tx htx => ?_) ?_
    · rcases Node.submitted_step htx with hold | hgarble | hcircuits
      · exact (h.submitted i tx hold).mono List.prefix_rfl (List.subset_append_left _ _) hposted
      · exact Or.inl (justifies_of_submits hwork hpeer.garbleJob hgarble)
      · exact Or.inr (justifies_of_submits hwork hpeer.circuitsJob hcircuits)
    · intro tx htx
      exact (List.mem_append.mp htx).imp id List.mem_of_mem_drop

/-- **Whatever the order of events, the network is sound.** -/
theorem sound_run (es : List (NetworkEvent ι A)) :
    Sound garbleApi circuitsApi ((launch ι A).run garbleApi circuitsApi es) es := by
  induction es using List.reverseRecOn with
  | nil => exact sound_launch
  | append_singleton es e ih =>
    rw [run_concat]
    exact ih.step e

end Steps

end Network

end OffchainWorkerDemo
