/-
# The outcome of a job

What becomes of a job is fixed by its dialogue with the server: the exchanges, the call that
is submitted, and whether the worker stops.  A run with a job resets the slot and leaves this
outcome, with the lock held if it stopped with a panic that does not unwind.  The requests of
the job all leave the node exactly if it is `Sendable`.
-/
import OffchainWorkerDemo.Dialogues

namespace OffchainWorkerDemo

variable {A J K ε ε' : Type}

/-! ## The outcome of a job -/

/-- What becomes of a job: the requests that are posted, each with the end of its exchange, the
call that is submitted, and whether the worker stops with a panic. -/
structure Outcome where
  exchanges : List (HttpRequest × Exchange)
  call : Option Call
  stops : Bool

/-- A reply is published if a call can be made of it; if none can, the first account that would
sign it stops the worker. -/
def Dialogue.outcome (keystore : List A) (publish : K → Option Call)
    (d : Dialogue (HttpRequest × Exchange) ε K) : Outcome :=
  match d.answer with
  | .reply k => ⟨d.asked, publish k, (publish k).isNone && !keystore.isEmpty⟩
  | .failed _ => ⟨d.asked, none, false⟩
  | .stop => ⟨d.asked, none, true⟩

/-- The transactions of an outcome: its call, once for every account. -/
def Outcome.submissions (o : Outcome) (keystore : List A) : List (A × Call) :=
  o.call.elim [] fun call => keystore.map fun account => (account, call)

/-- The exchanges and the transactions of an outcome are added to those of the node. -/
def Outcome.applied (o : Outcome) (keystore : List A) (s : OcwState A) : OcwState A :=
  { s with
    exchanges := s.exchanges ++ o.exchanges
    submitted := s.submitted ++ o.submissions keystore }

theorem Outcome.applied_of_none {o : Outcome} (h : o.call = none) (keystore : List A)
    (s : OcwState A) : o.applied keystore s = OcwState.log.ask s o.exchanges := by
  rw [applied, submissions, h, Option.elim_none, List.append_nil]
  rfl

/-! ## The guard of a run -/

/-- Whether a computation ended with a panic. -/
def Ended.traps {σ α : Type} : Ended σ ε α → Bool
  | .trap _ _ => true
  | _ => false

/-- A guard that is held is dropped, unless it is a panic that does not unwind. -/
theorem dropGuard_state_eq (env : OcwEnv A) {lockKey : Bytes} {x : Ended (OcwState A) ε Unit}
    (hheld : x.state.locked lockKey = true) : (dropGuard env lockKey x).state =
      x.state.setLock lockKey (x.traps && !env.std) := by
  rcases x with ⟨_, s⟩ | ⟨e, s⟩ | ⟨msg, s⟩
  · rfl
  · rfl
  · rw [dropGuard]
    rcases hstd : env.std with _ | _
    · -- the guard stays, and the lock with it
      have hself : Function.update s.locked lockKey true = s.locked := by
        rw [← show s.locked lockKey = true from hheld, Function.update_eq_self]
      show s = { s with locked := Function.update s.locked lockKey true }
      rw [hself]
    · rfl

/-- A native worker drops its guard however it ends. -/
theorem dropGuard_state_of_std {env : OcwEnv A} (hstd : env.std = true) (lockKey : Bytes)
    (x : Ended (OcwState A) ε Unit) :
    (dropGuard env lockKey x).state = x.state.setLock lockKey false := by
  rcases x with ⟨_, s⟩ | ⟨e, s⟩ | ⟨msg, s⟩
  · rfl
  · rfl
  · rw [dropGuard, hstd]
    rfl

/-- **A native worker leaves the locks as it finds them**, also when it panics. -/
theorem processIfNeededWith_locked {env : OcwEnv A} (hstd : env.std = true) {slot : JobSlot J}
    {process : J → Worker A ε Unit} (hprocess : ∀ d, Exec.Within OcwState.Extends (process d))
    (s : OcwState A) : (processIfNeededWith env slot process s).state.locked = s.locked := by
  by_cases hidle : slot.Idle s
  · rw [processIfNeededWith_idle env slot process hidle]
    rfl
  · -- the lock was free, so taking and releasing it changes nothing
    have hfree : s.locked slot.lockKey = false := by
      rw [JobSlot.Idle, not_or, Bool.not_eq_true] at hidle
      exact hidle.2
    have hextends := hprocess (slot.read s.storage) (slot.take s)
    rw [processIfNeededWith_busy env slot process hidle, dropGuard_state_of_std hstd]
    show Function.update _ slot.lockKey false = s.locked
    rw [hextends.locked]
    show Function.update (Function.update s.locked slot.lockKey true) slot.lockKey false = s.locked
    rw [Function.update_idem, ← hfree, Function.update_eq_self]

/-! ## Processing a job -/

section Process

variable {env : OcwEnv A} {callGrpcOf : Worker A ε' K} {finalize : Except ε' K → Worker A ε Unit}
  {build : K → Worker A ε Call} {publish : K → Option Call}
  {d : ℕ → Dialogue (HttpRequest × Exchange) ε' K}

/-- **Processing a job** posts and submits its outcome. -/
theorem process_outcome (hfollows : Follows OcwState.log callGrpcOf d)
    (hfailed : ∀ e, finalize (.error e) = pure ())
    (hreply : ∀ k, finalize (.ok k) = sendSignedTransaction env (build k))
    (hbuild : ∀ k s, build k s = unwrap (publish k) s) (s : OcwState A) :
    let ended := (Exec.attempt callGrpcOf >>= finalize) s
    let o := (d s.posted.length).outcome env.keystore publish
    ended.state = o.applied env.keystore s ∧ ended.traps = o.stops := by
  intro ended o
  have hs : (d s.posted.length).Ends OcwState.log s (callGrpcOf s) := hfollows s
  have hnone : o.call = none → o.applied env.keystore s = OcwState.log.ask s o.exchanges :=
    fun h => Outcome.applied_of_none h env.keystore s
  simp only [ended, o, Exec.bind_apply, Exec.attempt] at hnone ⊢
  generalize callGrpcOf s = called at hs
  cases hs with
  | @ok k hanswer =>
    simp only [Dialogue.outcome, hanswer, Ended.andThen_ok, hreply] at hnone ⊢
    rcases hpublish : publish k with _ | call
    · -- without a call to make of it, a reply stops the first account
      have htrap : build k (OcwState.log.ask s (d s.posted.length).asked) =
          .trap unwrapMsg (OcwState.log.ask s (d s.posted.length).asked) := by
        rw [hbuild, hpublish, unwrap_none]
      rw [hpublish] at hnone
      rw [sendSignedTransaction_of_trap env htrap, hnone rfl]
      rcases env.keystore with _ | ⟨account, accounts⟩
      · exact ⟨rfl, rfl⟩
      · exact ⟨rfl, rfl⟩
    · have hok : ∀ t, build k t = .ok call t := by
        intro t
        rw [hbuild, hpublish, unwrap_some]
      rw [sendSignedTransaction_of_ok env hok]
      exact ⟨rfl, rfl⟩
  | @err e hanswer =>
    simp only [Dialogue.outcome, hanswer, Ended.andThen_ok, hfailed] at hnone ⊢
    exact ⟨(hnone trivial).symm, rfl⟩
  | @trap msg hanswer =>
    simp only [Dialogue.outcome, hanswer, Ended.andThen_trap] at hnone ⊢
    exact ⟨(hnone trivial).symm, rfl⟩

end Process

/-- The off-chain side of a node once a job had this outcome: the slot is reset, and the lock is
held if the worker stopped and does not unwind. -/
def JobSlot.served (slot : JobSlot J) (env : OcwEnv A) (o : Outcome) (s : OcwState A) :
    OcwState A :=
  o.applied env.keystore ((slot.take s).setLock slot.lockKey (o.stops && !env.std))

/-- **A run with a job**, whatever its outcome. -/
theorem processIfNeededWith_state_eq {env : OcwEnv A} {slot : JobSlot J}
    {process : J → Worker A ε Unit} {s : OcwState A} (hidle : ¬ slot.Idle s) {o : Outcome}
    (ho : let ended := process (slot.read s.storage) (slot.take s)
      ended.state = o.applied env.keystore (slot.take s) ∧ ended.traps = o.stops) :
    (processIfNeededWith env slot process s).state = slot.served env o s := by
  obtain ⟨hstate, htraps⟩ := ho
  have hheld : (process (slot.read s.storage) (slot.take s)).state.locked slot.lockKey = true := by
    rw [hstate]
    exact Function.update_self _ _ _
  rw [processIfNeededWith_busy env slot process hidle, dropGuard_state_eq env hheld, hstate, htraps]
  rfl

/-- All that a dialogue asks is posted. -/
theorem Dialogue.outcome_exchanges (keystore : List A) (publish : K → Option Call)
    (d : Dialogue (HttpRequest × Exchange) ε K) :
    (d.outcome keystore publish).exchanges = d.asked := by
  unfold outcome
  split <;> rfl

/-! ## What leaves the node -/

section Asks

variable {I R : Type} {base64Decode : Bytes → Option Bytes} {env : OcwEnv A}
  {requestMessage : ProstMessage I} {replyMessage : ProstMessage R} {uriRootVar endpoint : String}
  {httpFetchingError : ε} {input input' : I} {n : ℕ} {root : String}
  (hroot : env.root uriRootVar = some root)

include hroot

/-- The request of a call leaves the node unless `send` fails. -/
theorem sentOf_asks_iff :
    sentOf (asks base64Decode env requestMessage replyMessage uriRootVar endpoint httpFetchingError
        input n).asked = [callRequest requestMessage endpoint input root] ↔
      env.http n ≠ .sendError := by
  rw [asks, hroot]
  refine sentOf_eq_map_iff.trans ?_
  simp only [List.mem_singleton, forall_eq]

/-- **The requests of two calls leave the node** if the first call goes on to the second and
neither `send` fails. -/
theorem sentOf_both_asks_iff :
    sentOf (Dialogue.both (asks base64Decode env requestMessage replyMessage uriRootVar endpoint
        httpFetchingError input) (asks base64Decode env requestMessage replyMessage uriRootVar
        endpoint httpFetchingError input') n : Dialogue _ ε' (R × R)).asked =
      [callRequest requestMessage endpoint input root,
        callRequest requestMessage endpoint input' root] ↔
      BothSent base64Decode replyMessage env n := by
  have hasks : ∀ message k, asks base64Decode env requestMessage replyMessage uriRootVar endpoint
      httpFetchingError message k =
        ⟨[(callRequest requestMessage endpoint message root, env.http k)],
          answerOf base64Decode replyMessage httpFetchingError (env.http k)⟩ := by
    intro message k
    rw [asks, hroot]
  by_cases hgo : (env.http n).GoesOn base64Decode replyMessage
  · rw [Dialogue.asked_both_of_ne_stop]
    · rw [hasks, hasks]
      refine sentOf_eq_map_iff.trans ⟨fun h => ?_, fun h => ?_⟩
      · exact ⟨h _ List.mem_cons_self, hgo, h _ (List.mem_cons_of_mem _ List.mem_cons_self)⟩
      · intro x hx
        rcases List.mem_pair.mp hx with rfl | rfl
        · exact h.first
        · exact h.second
    · rw [hasks]
      exact fun hstop => answerOf_eq_stop_iff.mp hstop hgo
  · -- the second request is not even posted
    rw [Dialogue.asked_both_of_stop, hasks]
    · refine iff_of_false (fun h => ?_) fun h => hgo h.goesOn
      have hlength := congrArg List.length h
      have hle := List.length_filter_le (fun exchange => exchange.2 ≠ .sendError)
        [(callRequest requestMessage endpoint input root, env.http n)]
      rw [sentOf, List.length_map] at hlength
      exact absurd (hlength.symm.trans_le hle) (Nat.not_succ_le_self 1)
    · rw [hasks]
      exact answerOf_eq_stop_iff.mpr hgo

end Asks

/-- What a run with a job sends. -/
theorem JobSlot.sent_served (slot : JobSlot J) (env : OcwEnv A) (o : Outcome) (s : OcwState A) :
    (slot.served env o s).sent = s.sent ++ sentOf o.exchanges :=
  OcwState.sent_eq_append rfl

/-! ## The garbling worker -/

namespace OcwGarble

/-- The outcome of a job, after `n` exchanges. -/
def outcome (api : Api) (env : OcwEnv A) (n : ℕ) (d : IndexingData) : Outcome :=
  (dialogue api env d n).outcome env.keystore fun reply => some (callbackOf reply)

/-- **A run of the garbling worker with a job** leaves the outcome of the job. -/
theorem processIfNeeded_state_eq (api : Api) (env : OcwEnv A) {s : OcwState A}
    (hidle : ¬ slot.Idle s) : (processIfNeeded api env s).state =
      slot.served env (outcome api env s.posted.length (slot.read s.storage)) s := by
  refine processIfNeededWith_state_eq hidle ?_
  exact process_outcome (follows_callGrpcOf api env _) (fun _ => rfl) (fun _ => rfl)
    (fun _ _ => rfl) (slot.take s)

/-- The requests that post the messages of a job. -/
def Requests.posts (api : Api) (root : String) : Requests → List HttpRequest
  | .standard message => [standardPost api root message]
  | .strip message pinpad _ _ => [stripPost api root message, stripPost api root pinpad]

/-- What a job posts, when its fields are there, its strings are UTF-8 and the URI root is set. -/
def postsOf (api : Api) (env : OcwEnv A) (d : IndexingData) : Option (List HttpRequest) := do
  let r ← requestsOf d
  let root ← env.root uriRootVar
  some (r.posts api root)

/-- Nothing keeps the requests of a job from leaving the node, after `n` exchanges. -/
def Requests.Sendable (api : Api) (env : OcwEnv A) (n : ℕ) : Requests → Prop
  | .standard _ => env.http n ≠ .sendError
  | .strip _ _ _ _ => BothSent api.base64Decode api.garbleAndStripIpfsReply env n

/-- The fields of the job are there, its strings are UTF-8, the URI root is set, and nothing keeps
its requests from leaving the node. -/
def Sendable (api : Api) (env : OcwEnv A) (n : ℕ) (d : IndexingData) : Prop :=
  (env.root uriRootVar).isSome ∧ ∃ r, requestsOf d = some r ∧ r.Sendable api env n

/-- What the messages of a job ask. -/
def Requests.asked (api : Api) (env : OcwEnv A) (n : ℕ) : Requests → List (HttpRequest × Exchange)
  | .standard message =>
    (asks api.base64Decode env api.garbleIpfsRequest api.garbleIpfsReply uriRootVar
      apiEndpointGarbleUrl Error.httpFetchingError message n).asked
  | .strip message pinpad _ _ =>
    (Dialogue.both (stripAsks api env (some message)) (stripAsks api env (some pinpad)) n :
      Dialogue _ Error _).asked

/-- A job that names its messages asks what they do. -/
theorem asked_of_requests (api : Api) (env : OcwEnv A) {d : IndexingData} {r : Requests}
    (h : requestsOf d = some r) (n : ℕ) : (dialogue api env d n).asked = r.asked api env n := by
  unfold requestsOf at h
  unfold dialogue IndexingData.stripFields
  rcases hkind : d.grpcKind with _ | _
  · simp only [hkind, Option.bind_eq_bind, Option.bind_eq_some_iff, Option.some_inj] at h
    obtain ⟨skcdCid, hcid, skcdCidStr, hstr, rfl⟩ := h
    simp only [hcid, Option.bind_some, hstr]
    rfl
  · simp only [hkind, Option.bind_eq_bind, Option.bind_eq_some_iff, Option.some_inj] at h
    obtain ⟨mc, hmc, pc, hpc, t, ht, md, hmd, pd, hpd, message, hm, pinpad, hp, rfl⟩ := h
    simp only [hmc, hpc, ht, hmd, hpd, Option.bind_eq_bind, Option.bind_some]
    show (stripDialogue api env _ n).asked = _
    rw [stripDialogue, Dialogue.answered_asked, hm, hp]
    rfl

theorem sentOf_asked_iff {api : Api} {env : OcwEnv A} {root : String}
    (hroot : env.root uriRootVar = some root) (r : Requests) (n : ℕ) :
    sentOf (r.asked api env n) = r.posts api root ↔ r.Sendable api env n := by
  rcases r with message | ⟨message, pinpad, md, pd⟩
  · exact sentOf_asks_iff hroot
  · exact sentOf_both_asks_iff hroot

/-- **A run with a job sends all its requests** exactly if the job is sendable. -/
theorem processIfNeeded_sent_iff {api : Api} {env : OcwEnv A} {s : OcwState A}
    (hidle : ¬ slot.Idle s) :
    (∃ posts, postsOf api env (slot.read s.storage) = some posts ∧
      (processIfNeeded api env s).state.sent = s.sent ++ posts) ↔
      Sendable api env s.posted.length (slot.read s.storage) := by
  rw [processIfNeeded_state_eq api env hidle, JobSlot.sent_served, outcome,
    Dialogue.outcome_exchanges]
  unfold postsOf Sendable
  generalize slot.read s.storage = d
  rcases hr : requestsOf d with _ | r
  · simp
  rcases hroot : env.root uriRootVar with _ | root
  · simp
  rw [asked_of_requests api env hr]
  simp [sentOf_asked_iff hroot]

end OcwGarble

/-! ## The circuits worker -/

namespace OcwCircuits

/-- The callback that publishes a reply, when its metadata is there. -/
def publishedBy : GrpcCallReplyKind → Option Call
  | .generic reply => some (.callbackNewSkcdSigned (utf8Bytes reply.skcdCid))
  | .display messageReply pinpadReply => do
    let messageMetadata ← messageReply.serverMetadata
    let pinpadMetadata ← pinpadReply.serverMetadata
    some (.callbackNewDisplayCircuitsPackageSigned (utf8Bytes messageReply.skcdCid)
      messageMetadata.nbDigits (utf8Bytes pinpadReply.skcdCid) pinpadMetadata.nbDigits)

theorem callbackOf_apply (reply : GrpcCallReplyKind) (s : OcwState A) :
    (callbackOf reply : Worker A ε Call) s = unwrap (publishedBy reply) s := by
  rcases reply with reply | ⟨messageReply, pinpadReply⟩
  · rfl
  · rcases hm : messageReply.serverMetadata with _ | messageMetadata
    · simp only [callbackOf, publishedBy, hm]
      rfl
    · rcases hp : pinpadReply.serverMetadata with _ | pinpadMetadata
      · simp only [callbackOf, publishedBy, hm, hp]
        rfl
      · simp only [callbackOf, publishedBy, hm, hp]
        rfl

/-- The outcome of a job, after `n` exchanges. -/
def outcome (api : Api) (env : OcwEnv A) (n : ℕ) (d : IndexingData) : Outcome :=
  (dialogue api env d n).outcome env.keystore publishedBy

/-- **A run of the circuits worker with a job** leaves the outcome of the job. -/
theorem processIfNeeded_state_eq (api : Api) (env : OcwEnv A) {s : OcwState A}
    (hidle : ¬ slot.Idle s) : (processIfNeeded api env s).state =
      slot.served env (outcome api env s.posted.length (slot.read s.storage)) s := by
  refine processIfNeededWith_state_eq hidle ?_
  exact process_outcome (follows_callGrpcOf api env _) (fun _ => rfl) (fun _ => rfl)
    callbackOf_apply (slot.take s)

/-- The requests that post the messages of a job. -/
def Requests.posts (api : Api) (root : String) : Requests → List HttpRequest
  | .generic message => [genericPost api root message]
  | .display =>
    [displayPost api root messageDisplayRequest, displayPost api root pinpadDisplayRequest]

/-- What a job posts, when its cid is there and UTF-8 and the URI root of its endpoint is set. -/
def postsOf (api : Api) (env : OcwEnv A) (d : IndexingData) : Option (List HttpRequest) := do
  let r ← requestsOf d
  let root ← env.root r.uriRootVar
  some (r.posts api root)

/-- Nothing keeps the requests of a job from leaving the node, after `n` exchanges. -/
def Requests.Sendable (api : Api) (env : OcwEnv A) (n : ℕ) : Requests → Prop
  | .generic _ => env.http n ≠ .sendError
  | .display => BothSent api.base64Decode api.skcdDisplayReply env n

/-- The cid of the job is there and UTF-8, the URI root is set, and nothing keeps its requests from
leaving the node. -/
def Sendable (api : Api) (env : OcwEnv A) (n : ℕ) (d : IndexingData) : Prop :=
  ∃ r, requestsOf d = some r ∧ (env.root r.uriRootVar).isSome ∧ r.Sendable api env n

/-- What the messages of a job ask. -/
def Requests.asked (api : Api) (env : OcwEnv A) (n : ℕ) : Requests → List (HttpRequest × Exchange)
  | .generic message =>
    (asks api.base64Decode env api.skcdGenericFromIpfsRequest api.skcdGenericFromIpfsReply
      uriRootVarGeneric apiEndpointGenericUrl Error.httpFetchingError message n).asked
  | .display =>
    (Dialogue.both (displayAsks api env messageDisplayRequest)
      (displayAsks api env pinpadDisplayRequest) n : Dialogue _ Error _).asked

/-- A job that names its messages asks what they do. -/
theorem asked_of_requests (api : Api) (env : OcwEnv A) {d : IndexingData} {r : Requests}
    (h : requestsOf d = some r) (n : ℕ) : (dialogue api env d n).asked = r.asked api env n := by
  unfold requestsOf at h
  unfold dialogue
  rcases hkind : d.grpcKind with _ | _
  · simp only [hkind, Option.bind_eq_bind, Option.bind_eq_some_iff, Option.some_inj] at h
    obtain ⟨verilogCid, hcid, verilogCidStr, hstr, rfl⟩ := h
    simp only [hcid, Option.bind_some, hstr]
    rfl
  · simp only [hkind, Option.some_inj] at h
    subst h
    rfl

theorem sentOf_asked_iff {api : Api} {env : OcwEnv A} {r : Requests} {root : String}
    (hroot : env.root r.uriRootVar = some root) (n : ℕ) :
    sentOf (r.asked api env n) = r.posts api root ↔ r.Sendable api env n := by
  rcases r with message | _
  · exact sentOf_asks_iff hroot
  · exact sentOf_both_asks_iff hroot

/-- **A run with a job sends all its requests** exactly if the job is sendable. -/
theorem processIfNeeded_sent_iff {api : Api} {env : OcwEnv A} {s : OcwState A}
    (hidle : ¬ slot.Idle s) :
    (∃ posts, postsOf api env (slot.read s.storage) = some posts ∧
      (processIfNeeded api env s).state.sent = s.sent ++ posts) ↔
      Sendable api env s.posted.length (slot.read s.storage) := by
  rw [processIfNeeded_state_eq api env hidle, JobSlot.sent_served, outcome,
    Dialogue.outcome_exchanges]
  unfold postsOf Sendable
  generalize slot.read s.storage = d
  rcases hr : requestsOf d with _ | r
  · simp
  rcases hroot : env.root r.uriRootVar with _ | root
  · simp [hroot]
  rw [asked_of_requests api env hr]
  simp [hroot, sentOf_asked_iff hroot]

end OcwCircuits

end OffchainWorkerDemo
