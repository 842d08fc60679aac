/-
# How much the workers do

A job is taken out of its slot before it is processed, and the callbacks of the workers
ask for nothing.  So what the workers of a network post and submit is bounded by what
its users ask for (`bounded_traffic`), and an account gets at most one package from
every node for every accepted request (`pending_le_requests`).
-/
import OffchainWorkerDemo.TracedCodes
import OffchainWorkerDemo.Lib.Runs
import Mathlib.Algebra.Group.Action.Defs
import Mathlib.Algebra.BigOperators.Group.Finset.Basic
import Mathlib.Algebra.Order.BigOperators.Group.Finset

namespace OffchainWorkerDemo

variable {ι A : Type} [DecidableEq A] {garbleApi : OcwGarble.Api} {circuitsApi : OcwCircuits.Api}

/-! ## Charges of a node -/

/-- A quantity of the off-chain side that calls leave alone and that a run with a job raises by
the weight of the job at most, in the environments that are `Ok`. -/
structure Charge (A : Type) [DecidableEq A] (garbleApi : OcwGarble.Api)
    (circuitsApi : OcwCircuits.Api) (Ok : OcwEnv A → Prop) where
  amount : OcwState A → ℕ
  garbleWeight : OcwGarble.IndexingData → ℕ
  circuitsWeight : OcwCircuits.IndexingData → ℕ
  amount_launch : amount (Node.launch (Chain.empty A)).ocw = 0
  amount_flush : ∀ s writes, amount (s.flush writes) = amount s
  amount_garble : ∀ s env, Ok env → ¬ OcwGarble.slot.Idle s →
    amount (OcwGarble.processIfNeeded garbleApi env s).state ≤
      amount s + garbleWeight (OcwGarble.slot.read s.storage)
  amount_circuits : ∀ s env, Ok env → ¬ OcwCircuits.slot.Idle s →
    amount (OcwCircuits.processIfNeeded circuitsApi env s).state ≤
      amount s + circuitsWeight (OcwCircuits.slot.read s.storage)

namespace Charge

variable {Ok : OcwEnv A → Prop} (charge : Charge A garbleApi circuitsApi Ok)

/-- The weight of the jobs in the two slots. -/
def held (s : OcwState A) : ℕ :=
  (OcwGarble.slot.job s.storage).elim 0 charge.garbleWeight +
    (OcwCircuits.slot.job s.storage).elim 0 charge.circuitsWeight

/-- The weight of the job an accepted request leaves. -/
def request (s : Chain A) (x : SignedCall A) : ℕ :=
  (OcwGarble.jobOf x s).elim 0 charge.garbleWeight +
    (OcwCircuits.jobOf x s).elim 0 charge.circuitsWeight

omit [DecidableEq A] in
theorem elim_or_le {J : Type} (w : J → ℕ) (o o' : Option J) :
    (o.or o').elim 0 w ≤ o.elim 0 w + o'.elim 0 w := by
  rcases o with _ | d
  · rw [Option.none_or]
    exact Nat.le_add_left _ _
  · exact Nat.le_add_right _ _

/-- **A call adds the job it leaves.** -/
theorem call_le (s : Node A) (x : SignedCall A) :
    charge.amount (Node.step garbleApi circuitsApi s (.call x)).ocw +
        charge.held (Node.step garbleApi circuitsApi s (.call x)).ocw ≤
      charge.amount s.ocw + charge.held s.ocw + charge.request s.chain x := by
  have hamount : charge.amount (Node.step garbleApi circuitsApi s (.call x)).ocw =
      charge.amount s.ocw := charge.amount_flush _ _
  have hgarble := (garblePallet garbleApi circuitsApi).job_call s x
  have hcircuits := (circuitsPallet garbleApi circuitsApi).job_call s x
  have hg : OcwGarble.slot.job (Node.step garbleApi circuitsApi s (.call x)).ocw.storage =
      (OcwGarble.jobOf x s.chain).or (OcwGarble.slot.job s.ocw.storage) := hgarble
  have hc : OcwCircuits.slot.job (Node.step garbleApi circuitsApi s (.call x)).ocw.storage =
      (OcwCircuits.jobOf x s.chain).or (OcwCircuits.slot.job s.ocw.storage) := hcircuits
  have hgle := elim_or_le charge.garbleWeight (OcwGarble.jobOf x s.chain)
    (OcwGarble.slot.job s.ocw.storage)
  have hcle := elim_or_le charge.circuitsWeight (OcwCircuits.jobOf x s.chain)
    (OcwCircuits.slot.job s.ocw.storage)
  rw [hamount, held, hg, hc, held, request]
  omega

/-- The environment of a worker's run is `Ok`. -/
def Runs (Ok : OcwEnv A → Prop) : NodeEvent A → Prop
  | .call _ => False
  | .garbleWorker env => Ok env
  | .circuitsWorker env => Ok env

omit [DecidableEq A] in
theorem elim_job_of_not_idle {J : Type} {slot : JobSlot J} {s : OcwState A} (w : J → ℕ)
    (h : ¬ slot.Idle s) : (slot.job s.storage).elim 0 w = w (slot.read s.storage) := by
  have hjob : slot.job s.storage = some (slot.read s.storage) :=
    JobSlot.job_eq_some_iff.mpr ⟨rfl, fun hnumber => h (Or.inl hnumber)⟩
  rw [hjob, Option.elim_some]

omit charge in
/-- **A run of a pallet's worker** raises a quantity by at most the weight of the job it takes, and
leaves the job of the other pallet. -/
theorem run_le {J K : Type} (p : OcwPallet A J garbleApi circuitsApi)
    (q : OcwPallet A K garbleApi circuitsApi) (amount : OcwState A → ℕ) (w : J → ℕ) (v : K → ℕ)
    {s : Node A} {e : NodeEvent A} {env : OcwEnv A} (henv : p.envOf e = some env)
    (hne : ∀ x, e ≠ .call x) (hother : q.envOf e = none)
    (hamount : ¬ p.slot.Idle s.ocw → amount (Node.step garbleApi circuitsApi s e).ocw ≤
      amount s.ocw + w (p.slot.read s.ocw.storage)) :
    let t := Node.step garbleApi circuitsApi s e
    amount t.ocw + ((p.slot.job t.ocw.storage).elim 0 w + (q.slot.job t.ocw.storage).elim 0 v) ≤
      amount s.ocw +
        ((p.slot.job s.ocw.storage).elim 0 w + (q.slot.job s.ocw.storage).elim 0 v) := by
  intro t
  by_cases hidle : p.slot.Idle s.ocw
  · show amount (Node.step garbleApi circuitsApi s e).ocw + _ ≤ _
    rw [show t = s from p.step_idle s e env henv hidle, p.step_idle s e env henv hidle]
  · have hle : amount t.ocw ≤ _ := hamount hidle
    have htaken : p.slot.job t.ocw.storage = none := p.job_taken s e env henv hidle
    have hleft : q.slot.job t.ocw.storage = q.slot.job s.ocw.storage := q.job_other s e hne hother
    rw [htaken, hleft, elim_job_of_not_idle w hidle, Option.elim_none]
    omega

/-- **A run of a worker** is paid for by the job it takes. -/
theorem work_le (s : Node A) {e : NodeEvent A} (he : Runs Ok e) :
    charge.amount (Node.step garbleApi circuitsApi s e).ocw +
        charge.held (Node.step garbleApi circuitsApi s e).ocw ≤
      charge.amount s.ocw + charge.held s.ocw := by
  rcases e with x | env | env
  · exact he.elim
  · exact run_le (garblePallet garbleApi circuitsApi) (circuitsPallet garbleApi circuitsApi)
      charge.amount charge.garbleWeight charge.circuitsWeight rfl (fun _ => by simp) rfl
      (charge.amount_garble s.ocw env he)
  · have hrun := run_le (circuitsPallet garbleApi circuitsApi) (garblePallet garbleApi circuitsApi)
      charge.amount charge.circuitsWeight charge.garbleWeight (s := s)
      (e := .circuitsWorker env) rfl (fun _ => by simp) rfl (charge.amount_circuits s.ocw env he)
    rw [held, held, Nat.add_comm (Option.elim _ 0 charge.garbleWeight),
      Nat.add_comm (Option.elim _ 0 charge.garbleWeight)]
    exact hrun

/-- What the requests among the calls are charged. -/
def due (xs : List (SignedCall A)) : ℕ :=
  Runs.total (fun s x => SignedCall.apply x s) charge.request (Chain.empty A) xs

theorem due_concat (xs : List (SignedCall A)) (x : SignedCall A) :
    charge.due (xs ++ [x]) = charge.due xs + charge.request (run xs) x :=
  OffchainWorkerDemo.Runs.total_concat _ xs x

theorem due_mono {xs ys : List (SignedCall A)} (h : xs <+: ys) : charge.due xs ≤ charge.due ys :=
  OffchainWorkerDemo.Runs.total_mono _ h

end Charge

/-! ## Charges of a network -/

/-- Every worker of the run has an environment that is `Ok`. -/
def EnvsOk (Ok : OcwEnv A → Prop) (es : List (NetworkEvent ι A)) : Prop :=
  ∀ e ∈ es, ∀ i ne, e.worker = some (i, ne) → Charge.Runs Ok ne

variable {Ok : OcwEnv A → Prop}

omit [DecidableEq A] in
theorem EnvsOk.of_concat {es : List (NetworkEvent ι A)} {e : NetworkEvent ι A}
    (h : EnvsOk Ok (es ++ [e])) : EnvsOk Ok es :=
  fun e' he' => h e' (List.mem_append_left _ he')

variable [DecidableEq ι]

/-- A node has paid: what it did and what it still holds is at most what the requests it imported
are charged. -/
def Charge.Paid (charge : Charge A garbleApi circuitsApi Ok) (net : Network ι A) (i : ι) : Prop :=
  charge.amount (net.ocw i) + charge.held (net.ocw i) ≤
    charge.due (net.calls.take (net.peers i).imported)

/-- **A step keeps a node paid.** -/
theorem Charge.Paid.step {charge : Charge A garbleApi circuitsApi Ok} {net : Network ι A}
    {i : ι} (h : charge.Paid net i)
    (hpeer : Network.PeerSound garbleApi circuitsApi net.calls (net.peers i)) {e : NetworkEvent ι A}
    (hwork : ∀ j ne, e.worker = some (j, ne) → Charge.Runs Ok ne) :
    charge.Paid (net.step garbleApi circuitsApi e) i := by
  unfold Paid at h ⊢
  have hmoves := net.moves_step garbleApi circuitsApi e
  revert hmoves
  generalize net.step garbleApi circuitsApi e = net'
  intro hmoves
  cases hmoves with
  | call hx =>
    refine h.trans (charge.due_mono ?_)
    rw [List.take_append_of_le_length hpeer.imported_le]
  | includeTx hx =>
    refine h.trans (charge.due_mono ?_)
    rw [List.take_append_of_le_length hpeer.imported_le]
  | forget hpool => exact h
  | @importCall j x hx =>
    by_cases hij : i = j
    · subst hij
      have hstep := charge.call_le (net.peers i).node x
      simp only [Network.ocw, Network.importNext, Function.update_self] at h ⊢
      rw [List.take_add_one, hx]
      show _ ≤ charge.due (net.calls.take (net.peers i).imported ++ [x])
      rw [charge.due_concat, ← hpeer.chain]
      omega
    · simp only [Network.ocw, Network.importNext, Function.update_of_ne hij] at h ⊢
      exact h
  | @work j ne hne =>
    by_cases hij : i = j
    · subst hij
      have hstep := charge.work_le (net.peers i).node (hwork i ne hne)
      simp only [Network.ocw, Network.work, Function.update_self] at h ⊢
      exact hstep.trans h
    · simp only [Network.ocw, Network.work, Function.update_of_ne hij] at h ⊢
      exact h

/-- **Every node has paid**, whatever the order of events. -/
theorem Charge.paid_run (charge : Charge A garbleApi circuitsApi Ok) {es : List (NetworkEvent ι A)}
    (hes : EnvsOk Ok es) (i : ι) :
    charge.Paid ((Network.launch ι A).run garbleApi circuitsApi es) i := by
  induction es using List.reverseRecOn with
  | nil =>
    have hheld : charge.held (Node.launch (Chain.empty A)).ocw = 0 := rfl
    show charge.amount (Node.launch (Chain.empty A)).ocw +
      charge.held (Node.launch (Chain.empty A)).ocw ≤ charge.due []
    rw [charge.amount_launch, hheld]
    exact Nat.zero_le _
  | append_singleton es e ih =>
    have hsound := @Network.sound_run ι A _ garbleApi circuitsApi _ es
    rw [Network.run_concat]
    exact (ih hes.of_concat).step (hsound.peers i) (hes e (by simp))

/-- What a node did is at most what the requests in blocks are charged. -/
theorem Charge.amount_le (charge : Charge A garbleApi circuitsApi Ok)
    {es : List (NetworkEvent ι A)} (hes : EnvsOk Ok es) (i : ι) :
    charge.amount (((Network.launch ι A).run garbleApi circuitsApi es).ocw i) ≤
      charge.due ((Network.launch ι A).run garbleApi circuitsApi es).calls := by
  have hnode := charge.paid_run hes i
  have hdue := charge.due_mono (List.take_prefix
    (((Network.launch ι A).run garbleApi circuitsApi es).peers i).imported
    ((Network.launch ι A).run garbleApi circuitsApi es).calls)
  unfold Paid at hnode
  omega

/-! ## The flow of transactions -/

omit [DecidableEq A] in
/-- Taking a transaction out of the pool takes it out of every count. -/
theorem countP_eraseIdx_add {pool : List (A × Call)} {k : ℕ} {tx : A × Call}
    (hk : pool[k]? = some tx) (p : A × Call → Bool) :
    (pool.eraseIdx k).countP p + (if p tx then 1 else 0) = pool.countP p := by
  obtain ⟨hlt, rfl⟩ := List.getElem?_eq_some_iff.mp hk
  have hsplit : pool = pool.take k ++ pool[k] :: pool.drop (k + 1) := by simp
  rw [List.eraseIdx_eq_take_drop_succ, List.countP_append]
  conv_rhs => rw [hsplit]
  rw [List.countP_append, List.countP_cons]
  omega

omit [DecidableEq A] [DecidableEq ι] in
/-- Sums of two families that agree off one index. -/
theorem sum_add_of_agree [Fintype ι] {f f' : ι → ℕ} {i : ι} (h : ∀ j, j ≠ i → f' j = f j) :
    ∑ j, f' j + f i = ∑ j, f j + f' i := by
  classical
  have hrest : ∑ j ∈ Finset.univ.erase i, f' j = ∑ j ∈ Finset.univ.erase i, f j :=
    Finset.sum_congr rfl fun j hj => h j (Finset.ne_of_mem_erase hj)
  rw [← Finset.add_sum_erase Finset.univ f (Finset.mem_univ i),
    ← Finset.add_sum_erase Finset.univ f' (Finset.mem_univ i), hrest]
  omega

/-- The event puts a call of a user with the property in a block. -/
def NetworkEvent.callWith (p : A × Call → Bool) : NetworkEvent ι A → Bool
  | .call x => p (x.who, x.call)
  | _ => false

variable [Fintype ι]

/-- Where transactions are: those with a property that are in blocks or wait for one were put
there by users, or submitted by nodes. -/
def Network.Flows (p : A × Call → Bool) (net : Network ι A) (es : List (NetworkEvent ι A)) : Prop :=
  net.calls.countP (fun x => p (x.who, x.call)) + net.pool.countP p ≤
    es.countP (NetworkEvent.callWith p) + ∑ i, (net.ocw i).submitted.countP p

/-- **A step keeps the flow.** -/
theorem Network.Flows.step {p : A × Call → Bool} {net : Network ι A} {es : List (NetworkEvent ι A)}
    (h : net.Flows p es) (e : NetworkEvent ι A) :
    (net.step garbleApi circuitsApi e).Flows p (es ++ [e]) := by
  unfold Flows at h ⊢
  rw [List.countP_append, List.countP_singleton]
  have hmoves := net.moves_step garbleApi circuitsApi e
  revert hmoves
  generalize net.step garbleApi circuitsApi e = net'
  intro hmoves
  cases hmoves with
  | @call x hx =>
    subst hx
    show (net.calls ++ [x]).countP _ + net.pool.countP p ≤
      es.countP _ + (if p (x.who, x.call) = true then 1 else 0) +
        ∑ i, (net.ocw i).submitted.countP p
    rw [List.countP_append, List.countP_singleton]
    omega
  | @includeTx k x hx =>
    have hpool := countP_eraseIdx_add hx p
    show (net.calls ++ [x]).countP _ + (net.pool.eraseIdx k).countP p ≤
      es.countP _ + _ + ∑ i, (net.ocw i).submitted.countP p
    rw [List.countP_append, List.countP_singleton]
    omega
  | @forget pool hpool =>
    have hle := hpool.countP_le (p := p)
    show net.calls.countP _ + pool.countP p ≤ es.countP _ + _ + ∑ i, (net.ocw i).submitted.countP p
    omega
  | @importCall i x hx =>
    have hsum := @sum_add_of_agree ι _ (fun j => (net.ocw j).submitted.countP p)
      (fun j => ((net.importNext garbleApi circuitsApi i x).ocw j).submitted.countP p) i
      (fun j hj => by simp only [ocw, importNext, Function.update_of_ne hj])
    have hsame : ((net.importNext garbleApi circuitsApi i x).ocw i).submitted =
        (net.ocw i).submitted := by
      simp only [ocw, importNext, Function.update_self]
      exact OcwState.flush_submitted _ _
    rw [hsame] at hsum
    show net.calls.countP _ + net.pool.countP p ≤ _
    omega
  | @work i ne hne =>
    have hsum := @sum_add_of_agree ι _ (fun j => (net.ocw j).submitted.countP p)
      (fun j => ((net.work garbleApi circuitsApi i ne).ocw j).submitted.countP p) i
      (fun j hj => by simp only [ocw, work, Function.update_of_ne hj])
    -- what the run submitted is what it adds to the pool
    obtain ⟨new, hnew⟩ := Node.submitted_grows garbleApi circuitsApi (net.peers i).node ne
    have hsubmitted : ((net.work garbleApi circuitsApi i ne).ocw i).submitted =
        (net.ocw i).submitted ++ new := by
      simp only [ocw, work, Function.update_self]
      exact hnew.symm
    have hpool : (net.work garbleApi circuitsApi i ne).pool = net.pool ++ new := by
      simp only [work]
      rw [← hnew, List.drop_left]
    rw [hsubmitted, List.countP_append] at hsum
    rw [hpool, List.countP_append]
    show net.calls.countP _ + _ ≤ _
    omega

theorem Network.flows_run (p : A × Call → Bool) (es : List (NetworkEvent ι A)) :
    ((launch ι A).run garbleApi circuitsApi es).Flows p es := by
  induction es using List.reverseRecOn with
  | nil => exact Nat.zero_le _
  | append_singleton es e ih =>
    rw [run_concat]
    exact ih.step e

/-! ## Requests and transactions -/

omit [DecidableEq A] [DecidableEq ι] [Fintype ι] in
/-- A run with a job submits what its keys sign, and no more. -/
theorem Worked.countP_submitted_le {J : Type} {slot : JobSlot J} {env : OcwEnv A} {n k : ℕ}
    {answers : List HttpRequest → Call → Prop} {s t : OcwState A}
    (h : Worked slot env n answers s t) {p : A × Call → Bool}
    (hk : ∀ posts call, answers posts call →
      (env.keystore.map fun account => (account, call)).countP p ≤ k) :
    t.submitted.countP p ≤ s.submitted.countP p + k := by
  rcases h.submitted with heq | ⟨posts, call, hanswers, -, heq⟩
  · rw [heq]
    exact Nat.le_add_right _ _
  · have hnew := hk posts call hanswers
    rw [heq, List.countP_append]
    omega

omit [DecidableEq A] [DecidableEq ι] [Fintype ι] in
theorem Worked.length_posted_le {J : Type} {slot : JobSlot J} {env : OcwEnv A} {n : ℕ}
    {answers : List HttpRequest → Call → Prop} {s t : OcwState A}
    (h : Worked slot env n answers s t) : t.posted.length ≤ s.posted.length + n := by
  obtain ⟨posts, hposted, hlen⟩ := h.posted
  rw [hposted, List.length_append]
  omega

namespace Charge

/-- The requests posted. -/
def posted (garbleApi : OcwGarble.Api) (circuitsApi : OcwCircuits.Api) :
    Charge A garbleApi circuitsApi (fun _ => True) where
  amount s := s.posted.length
  garbleWeight d := d.grpcKind.nbCalls
  circuitsWeight d := d.grpcKind.nbCalls
  amount_launch := rfl
  amount_flush s writes := by rw [OcwState.posted_flush]
  amount_garble s env _ hidle :=
    (OcwGarble.worked_processIfNeeded garbleApi env hidle).length_posted_le
  amount_circuits s env _ hidle :=
    (OcwCircuits.worked_processIfNeeded circuitsApi env hidle).length_posted_le

/-- The transactions submitted by keystores of at most `k` keys. -/
def submitted (garbleApi : OcwGarble.Api) (circuitsApi : OcwCircuits.Api) (k : ℕ) :
    Charge A garbleApi circuitsApi (fun env => env.keystore.length ≤ k) where
  amount s := s.submitted.countP fun _ => true
  garbleWeight _ := k
  circuitsWeight _ := k
  amount_launch := rfl
  amount_flush s writes := by rw [OcwState.flush_submitted]
  amount_garble s env hk hidle :=
    (OcwGarble.worked_processIfNeeded garbleApi env hidle).countP_submitted_le fun _ _ _ => by
      simpa using hk
  amount_circuits s env hk hidle :=
    (OcwCircuits.worked_processIfNeeded circuitsApi env hidle).countP_submitted_le fun _ _ _ => by
      simpa using hk

end Charge

/-- The call asks a worker for something. -/
def Call.asksWorker : Call → Bool
  | .submitConfigGenericSigned _ | .submitConfigDisplayCircuitsPackageSigned
  | .garbleStandardSigned _ | .garbleAndStripDisplayCircuitsPackageSigned _ => true
  | _ => false

omit [DecidableEq ι] [Fintype ι] in
/-- A request leaves one job, and no other call leaves any. -/
theorem Charge.request_le {Ok : OcwEnv A → Prop} (charge : Charge A garbleApi circuitsApi Ok)
    {k : ℕ} (hg : ∀ d, charge.garbleWeight d ≤ k) (hc : ∀ d, charge.circuitsWeight d ≤ k)
    (s : Chain A) (x : SignedCall A) :
    charge.request s x ≤ if x.call.asksWorker then k else 0 := by
  unfold request OcwGarble.jobOf OcwCircuits.jobOf
  split
  · cases x.call with
    | submitConfigGenericSigned cid => simpa [Call.asksWorker] using hc _
    | submitConfigDisplayCircuitsPackageSigned => simpa [Call.asksWorker] using hc _
    | garbleStandardSigned cid => simpa [Call.asksWorker] using hg _
    | garbleAndStripDisplayCircuitsPackageSigned txMsg =>
      rcases (OcwCircuits.getDisplayCircuitsPackage s).toOption with _ | pkg
      · simp [Call.asksWorker]
      · simpa [Call.asksWorker] using hg _
    | _ => simp [Call.asksWorker]
  · exact Nat.zero_le _

omit [DecidableEq ι] [Fintype ι] in
/-- The workers submit callbacks, which ask for nothing. -/
theorem asksWorker_of_justified {calls : List (SignedCall A)} {es : List (NetworkEvent ι A)} {i : ι}
    {posts : List HttpRequest} {tx : A × Call}
    (h : Network.Justified garbleApi circuitsApi calls es i posts tx) : tx.2.asksWorker = false := by
  rcases h with hgarble | hcircuits
  · obtain ⟨-, -, -, -, -, -, -, -, -, -, -, ⟨r, root, reply, -, -, -, -, hcall⟩, -⟩ :=
      exists_of_garble_justifies hgarble
    rw [hcall]
    cases reply <;> rfl
  · rcases displaying_of_justifies hcircuits with ⟨cid, hcall⟩ | ⟨d, -, -, -, hcall⟩
    · rw [hcall]
      rfl
    · rw [hcall]
      rfl

/-- The event is a request of a user. -/
def NetworkEvent.asksWorker : NetworkEvent ι A → Bool := callWith fun tx => tx.2.asksWorker

/-- The requests in blocks are requests of users. -/
theorem Network.countP_asksWorker_le (es : List (NetworkEvent ι A)) :
    ((launch ι A).run garbleApi circuitsApi es).calls.countP (fun x => x.call.asksWorker) ≤
      es.countP NetworkEvent.asksWorker := by
  have hflows := @flows_run ι A _ garbleApi circuitsApi _ _ (fun tx => tx.2.asksWorker) es
  have hsound := @sound_run ι A _ garbleApi circuitsApi _ es
  have hnone : ∑ i, (((launch ι A).run garbleApi circuitsApi es).ocw i).submitted.countP
      (fun tx => tx.2.asksWorker) = 0 := by
    refine Finset.sum_eq_zero fun i _ => List.countP_eq_zero.mpr fun tx htx => ?_
    rw [asksWorker_of_justified (hsound.submitted i tx htx)]
    exact Bool.false_ne_true
  unfold Flows at hflows
  rw [hnone] at hflows
  exact (Nat.le_add_right _ _).trans hflows

/-- What a charge of at most `k` a job makes due is `k` times the requests of the users. -/
theorem Charge.due_le {Ok : OcwEnv A → Prop} (charge : Charge A garbleApi circuitsApi Ok)
    {k : ℕ} (hg : ∀ d, charge.garbleWeight d ≤ k) (hc : ∀ d, charge.circuitsWeight d ≤ k)
    (es : List (NetworkEvent ι A)) :
    charge.due ((Network.launch ι A).run garbleApi circuitsApi es).calls ≤
      k * es.countP NetworkEvent.asksWorker := by
  have htotal : charge.due ((Network.launch ι A).run garbleApi circuitsApi es).calls ≤
      k * ((Network.launch ι A).run garbleApi circuitsApi es).calls.countP
        fun x => x.call.asksWorker :=
    OffchainWorkerDemo.Runs.total_le_mul_countP (charge.request_le hg hc) _ _
  have hrequests := @Network.countP_asksWorker_le ι A _ garbleApi circuitsApi _ _ es
  exact htotal.trans (Nat.mul_le_mul_left k hrequests)

/-- **The workers do not feed themselves.**  Whatever the order of events, with keystores of at
most `k` keys: no node posts more than two requests, or submits more than `k` transactions, for
every request of a user; so the blocks and the pool together hold no more than the calls of users
and these transactions of all nodes. -/
theorem bounded_traffic (garbleApi : OcwGarble.Api) (circuitsApi : OcwCircuits.Api) (k : ℕ)
    (es : List (NetworkEvent ι A)) (hes : EnvsOk (fun env => env.keystore.length ≤ k) es) :
    let net := (Network.launch ι A).run garbleApi circuitsApi es
    let requests := es.countP NetworkEvent.asksWorker
    (∀ i, (net.ocw i).posted.length ≤ 2 * requests ∧ (net.ocw i).submitted.length ≤ k * requests) ∧
    net.calls.length + net.pool.length ≤
      es.countP (NetworkEvent.callWith fun _ => true) + Fintype.card ι * (k * requests) := by
  intro net requests
  have hsubmitted : ∀ i, (net.ocw i).submitted.countP (fun _ => true) ≤ k * requests := fun i =>
    ((Charge.submitted garbleApi circuitsApi k).amount_le hes i).trans
      ((Charge.submitted garbleApi circuitsApi k).due_le (fun _ => Nat.le_refl k)
        (fun _ => Nat.le_refl k) es)
  refine ⟨fun i => ⟨?_, ?_⟩, ?_⟩
  · have htrue : EnvsOk (fun _ => True) es := by
      intro e he j ne hne
      have hok := hes e he j ne hne
      cases ne
      · exact hok
      · trivial
      · trivial
    refine ((Charge.posted garbleApi circuitsApi).amount_le htrue i).trans ?_
    refine (Charge.posted garbleApi circuitsApi).due_le ?_ ?_ es
    · rintro ⟨n, kind, a, b, c, t, m, p⟩
      show kind.nbCalls ≤ 2
      cases kind <;> decide
    · rintro ⟨cid, n, kind⟩
      show kind.nbCalls ≤ 2
      cases kind <;> decide
  · have hi := hsubmitted i
    rwa [List.countP_true] at hi
  · have hflows := @Network.flows_run ι A _ garbleApi circuitsApi _ _ (fun _ => true) es
    have hsum : ∑ i, (net.ocw i).submitted.countP (fun _ => true) ≤
        Fintype.card ι * (k * requests) := by
      have hle := Finset.sum_le_card_nsmul Finset.univ _ _ fun i _ => hsubmitted i
      rwa [Finset.card_univ, smul_eq_mul] at hle
    have hflows : net.calls.countP (fun _ => true) + net.pool.countP (fun _ => true) ≤
        es.countP (NetworkEvent.callWith fun _ => true) +
          ∑ i, (net.ocw i).submitted.countP fun _ => true := hflows
    simp only [List.countP_true] at hflows hsum
    omega

omit [DecidableEq A] [DecidableEq ι] [Fintype ι] in
/-- The environments of the two workers of the served network. -/
theorem envsOk_servedRun {Ok : OcwEnv ℕ → Prop} (hdisplay : Ok sampleDisplayRound.workerEnv)
    (hgarble : Ok sampleGarbleRound.workerEnv) : EnvsOk Ok servedRun := by
  intro e he i ne hne
  simp only [servedRun, List.mem_cons, List.not_mem_nil, or_false] at he
  rcases he with rfl | rfl | rfl | rfl | rfl | rfl | rfl | rfl | rfl | rfl
  · cases hne
  · cases hne
  · cases hne
    exact hdisplay
  · cases hne
  · cases hne
  · cases hne
  · cases hne
  · cases hne
    exact hgarble
  · cases hne
  · cases hne

/-- Two requests and one key: four requests to the servers and two transactions at most. -/
theorem bounded_traffic_servedRun :
    (∀ i, (servedNetwork.ocw i).posted.length ≤ 2 * 2 ∧
      (servedNetwork.ocw i).submitted.length ≤ 1 * 2) ∧
    servedNetwork.calls.length + servedNetwork.pool.length ≤ 2 + Fintype.card Unit * (1 * 2) := by
  have hrequests : servedRun.countP NetworkEvent.asksWorker = 2 := by decide
  have hcalls : servedRun.countP (NetworkEvent.callWith fun _ => true) = 2 := by decide
  have hbounded := bounded_traffic OcwGarble.shortApi OcwCircuits.displayApi 1 servedRun
    (envsOk_servedRun (Nat.le_refl 1) (Nat.le_refl 1))
  simp only [hrequests, hcalls] at hbounded
  rw [servedNetwork]
  exact hbounded

/-! ## One package a node and request -/

/-- A strip callback of the account. -/
def isStripOf (a : A) (tx : A × Call) : Bool := decide (tx.1 = a) && tx.2.isStripCallback

omit [DecidableEq A] [DecidableEq ι] [Fintype ι] in
/-- Only a job for the display circuits is answered by a strip callback. -/
theorem OcwGarble.grpcKind_of_answers {env : OcwEnv A} {n : ℕ} {d : OcwGarble.IndexingData}
    {posts : List HttpRequest} {call : Call} (h : OcwGarble.Answers garbleApi env n d posts call)
    (hcall : call.isStripCallback = true) : d.grpcKind = .garbleAndStrip := by
  obtain ⟨r, root, reply, hr, -, hbrings, -, rfl⟩ := h
  rcases reply with reply | ⟨messageReply, md, pinpadReply, pd⟩
  · cases hcall
  · rcases r with message | ⟨message, pinpad, md', pd'⟩
    · exact hbrings.elim
    · exact OcwGarble.grpcKind_of_requests hr

omit [DecidableEq ι] [Fintype ι] in
/-- Keys that are all different sign a call for an account once at most. -/
theorem countP_isStripOf_le {keystore : List A} (h : keystore.Nodup) (a : A) (call : Call) :
    (keystore.map fun account => (account, call)).countP (isStripOf a) ≤
      if call.isStripCallback then 1 else 0 := by
  rw [List.countP_map]
  rcases hcall : call.isStripCallback with _ | _
  · have hnone : keystore.countP (isStripOf a ∘ fun account => (account, call)) = 0 := by
      refine List.countP_eq_zero.mpr fun account _ => ?_
      simp [isStripOf, hcall]
    rw [hnone]
    exact Nat.zero_le _
  · have hcount : keystore.countP (isStripOf a ∘ fun account => (account, call)) =
        keystore.count a := by
      refine List.countP_congr fun account _ => ?_
      simp [isStripOf, hcall]
    rw [hcount]
    exact List.nodup_iff_count_le_one.mp h a

/-- The strip callbacks submitted for an account, by keystores without repetitions. -/
def Charge.strip (garbleApi : OcwGarble.Api) (circuitsApi : OcwCircuits.Api) (a : A) :
    Charge A garbleApi circuitsApi (fun env => env.keystore.Nodup) where
  amount s := s.submitted.countP (isStripOf a)
  garbleWeight d := match d.grpcKind with
    | .garbleStandard => 0
    | .garbleAndStrip => 1
  circuitsWeight _ := 0
  amount_launch := rfl
  amount_flush s writes := by rw [OcwState.flush_submitted]
  amount_garble s env hnodup hidle := by
    refine (OcwGarble.worked_processIfNeeded garbleApi env hidle).countP_submitted_le ?_
    intro posts call hanswers
    refine (countP_isStripOf_le hnodup a call).trans ?_
    split
    · rename_i hstrip
      rw [OcwGarble.grpcKind_of_answers hanswers hstrip]
    · exact Nat.zero_le _
  amount_circuits s env hnodup hidle := by
    refine (OcwCircuits.worked_processIfNeeded circuitsApi env hidle).countP_submitted_le ?_
    rintro posts call ⟨r, root, reply, -, -, -, -, hcall⟩
    refine (countP_isStripOf_le hnodup a call).trans ?_
    rcases OcwCircuits.publishedBy_cases hcall with ⟨cid, rfl⟩ | ⟨replies, -, rfl⟩
    · exact Nat.le_refl 0
    · exact Nat.le_refl 0

/-- The call asks for the display circuits to be garbled. -/
def Call.isStripRequest : Call → Bool
  | .garbleAndStripDisplayCircuitsPackageSigned _ => true
  | _ => false

/-- How many requests for garbled display circuits are accepted. -/
def acceptedStripRequests (xs : List (SignedCall A)) : ℕ :=
  Runs.total (fun s x => SignedCall.apply x s)
    (fun s x => if x.result s = some (.ok ()) ∧ x.call.isStripRequest then 1 else 0)
    (Chain.empty A) xs

omit [DecidableEq ι] [Fintype ι] in
theorem Charge.due_strip_le (a : A) (xs : List (SignedCall A)) :
    (Charge.strip garbleApi circuitsApi a).due xs ≤ acceptedStripRequests xs := by
  refine OffchainWorkerDemo.Runs.total_le_total (fun s x => ?_) _ xs
  unfold request OcwGarble.jobOf OcwCircuits.jobOf
  by_cases hresult : x.result s = some (.ok ())
  · simp only [hresult, if_true, true_and]
    cases x.call with
    | garbleAndStripDisplayCircuitsPackageSigned txMsg =>
      rcases (OcwCircuits.getDisplayCircuitsPackage s).toOption with _ | pkg
      · exact Nat.zero_le _
      · exact Nat.le_refl 1
    | _ => exact Nat.zero_le _
  · simp only [hresult, if_false]
    exact Nat.zero_le _

omit [DecidableEq ι] [Fintype ι] in
/-- A package of an account stands for a strip callback it signed. -/
theorem successes_le_countP (a : A) (s : Chain A) (xs : List (SignedCall A)) :
    successes a s xs ≤ xs.countP fun x => isStripOf a (x.who, x.call) := by
  induction xs generalizing s with
  | nil => exact Nat.le_refl 0
  | cons x xs ih =>
    have hrest := ih (x.apply s)
    rw [successes, List.countP_cons]
    split
    · rename_i hx
      have hstrip : isStripOf a (x.who, x.call) = true := by simp [isStripOf, hx]
      rw [if_pos hstrip]
      omega
    · omega

/-- **No request is answered twice by a node.**  When the users store nothing and no keystore has
a key twice, the list of an account holds at most one package from every node for every accepted
request, whatever the order of events. -/
theorem pending_le_requests (garbleApi : OcwGarble.Api) (circuitsApi : OcwCircuits.Api)
    (es : List (NetworkEvent ι A)) (husers : UsersStoreNothing es)
    (hes : EnvsOk (fun env => env.keystore.Nodup) es) (i : ι) (a : A) :
    let net := (Network.launch ι A).run garbleApi circuitsApi es
    ((net.peers i).node.chain.pending a).val.length ≤
      Fintype.card ι * acceptedStripRequests net.calls := by
  intro net
  have hsound : Network.Sound garbleApi circuitsApi net es := Network.sound_run es
  have hflows : net.Flows (isStripOf a) es := Network.flows_run (isStripOf a) es
  have huser : es.countP (NetworkEvent.callWith (isStripOf a)) = 0 := by
    refine List.countP_eq_zero.mpr fun e he hstrip => ?_
    rcases e with x | _ | _ | _ | _ | _
    · have hcall : x.call.isStripCallback = true := (Bool.and_eq_true_iff.mp hstrip).2
      have hstores := husers x he
      revert hcall hstores
      cases x.call <;> simp [Call.isStripCallback, Call.Stores]
    · cases hstrip
    · cases hstrip
    · cases hstrip
    · cases hstrip
    · cases hstrip
  have hnode : ∀ j, (net.ocw j).submitted.countP (isStripOf a) ≤ acceptedStripRequests net.calls :=
    fun j => ((Charge.strip garbleApi circuitsApi a).amount_le hes j).trans
      (Charge.due_strip_le a net.calls)
  have hsum := Finset.sum_le_card_nsmul Finset.univ _ _ fun j _ => hnode j
  rw [Finset.card_univ, smul_eq_mul] at hsum
  unfold Network.Flows at hflows
  have hlength : ((net.peers i).node.chain.pending a).val.length ≤
      net.calls.countP fun x => isStripOf a (x.who, x.call) := by
    rw [(hsound.peers i).chain, length_pending_run]
    exact (successes_le_countP a _ _).trans
      ((List.take_sublist (net.peers i).imported net.calls).countP_le)
  omega

/-- Account 0 of the served network has one package at most. -/
theorem pending_le_requests_servedRun :
    ((servedNetwork.peers ()).node.chain.pending 0).val.length ≤
      Fintype.card Unit * acceptedStripRequests servedNetwork.calls := by
  have husers : UsersStoreNothing servedRun := fun x hx =>
    usersStoreNothing_servedRun x (List.mem_append_left _ hx)
  have hpending := pending_le_requests OcwGarble.shortApi OcwCircuits.displayApi servedRun husers
    (envsOk_servedRun (List.nodup_singleton 0) (List.nodup_singleton 0)) () 0
  rw [servedNetwork]
  exact hpending

end OffchainWorkerDemo
