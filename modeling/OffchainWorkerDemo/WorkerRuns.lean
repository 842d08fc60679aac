/-
# What one run of a worker does

A run with a job posts at most the requests of the kind of the job, and submits either
nothing or, for every key of its keystore, the callback that publishes the replies of those
requests.  `OcwService` is a pallet with its worker and this fact about its runs.
-/
import OffchainWorkerDemo.Node
import OffchainWorkerDemo.BadAnswer

namespace OffchainWorkerDemo

variable {A J K ε ε' : Type}

/-! ## A run with a job -/

/-- At most `n` requests are posted. -/
def PostsAtMost (n : ℕ) (s t : OcwState A) : Prop :=
  ∃ posts, t.posted = s.posted ++ posts ∧ posts.length ≤ n

/-- What a run with a job does: the slot is reset and nothing else is written; at most `n`
requests are posted; and nothing is submitted, or a call that the requests posted account for,
once for every key. -/
structure Worked (slot : JobSlot J) (env : OcwEnv A) (n : ℕ)
    (answers : List HttpRequest → Call → Prop) (s t : OcwState A) : Prop where
  storage : t.storage = (slot.take s).storage
  posted : PostsAtMost n s t
  submitted : t.submitted = s.submitted ∨ ∃ posts call, answers posts call ∧
    t.posted = s.posted ++ posts ∧
    t.submitted = s.submitted ++ env.keystore.map fun account => (account, call)

/-- **A run with a job**, from its outcome. -/
theorem worked_served {slot : JobSlot J} {env : OcwEnv A} {n : ℕ}
    {answers : List HttpRequest → Call → Prop} {o : Outcome} (hlength : o.exchanges.length ≤ n)
    (hanswers : ∀ call, o.call = some call → answers (o.exchanges.map Prod.fst) call)
    (s : OcwState A) : Worked slot env n answers s (slot.served env o s) := by
  have hposted : (slot.served env o s).posted = s.posted ++ o.exchanges.map Prod.fst :=
    OcwState.posted_eq_append rfl
  refine ⟨rfl, ⟨_, hposted, by rwa [List.length_map]⟩, ?_⟩
  rcases hcall : o.call with _ | call
  · refine Or.inl ?_
    show s.submitted ++ o.submissions env.keystore = s.submitted
    rw [Outcome.submissions, hcall, Option.elim_none, List.append_nil]
  · refine Or.inr ⟨_, call, hanswers call hcall, hposted, ?_⟩
    show s.submitted ++ o.submissions env.keystore = _
    rw [Outcome.submissions, hcall]
    rfl

/-- What is published is made of a reply. -/
theorem Dialogue.outcome_call_eq {keystore : List A} {publish : K → Option Call}
    {d : Dialogue (HttpRequest × Exchange) ε K} {call : Call}
    (h : (d.outcome keystore publish).call = some call) :
    ∃ k, d.answer = .reply k ∧ publish k = some call := by
  unfold outcome at h
  rcases hanswer : d.answer with k | e | _
  · rw [hanswer] at h
    exact ⟨k, rfl, h⟩
  · rw [hanswer] at h
    cases h
  · rw [hanswer] at h
    cases h

/-! ## The garbling worker -/

namespace OcwGarble

/-- How many calls a job of this kind makes. -/
def GrpcCallKind.nbCalls : GrpcCallKind → ℕ
  | .garbleStandard => 1
  | .garbleAndStrip => 2

/-- The exchanges from number `n` on bring these replies; the digits of a strip job stay with
the replies of their circuits. -/
def Requests.Brings (api : Api) (env : OcwEnv A) (n : ℕ) : Requests → GrpcCallReplyKind → Prop
  | .standard _, .garbleStandard reply =>
    AcceptedReply api.base64Decode api.garbleIpfsReply (env.http n) reply
  | .strip _ _ md pd, .garbleAndStrip messageReply md' pinpadReply pd' =>
    AcceptedReply api.base64Decode api.garbleAndStripIpfsReply (env.http n) messageReply ∧
    AcceptedReply api.base64Decode api.garbleAndStripIpfsReply (env.http (n + 1)) pinpadReply ∧
    md' = md ∧ pd' = pd
  | _, _ => False

/-- The call publishes what the exchanges from number `n` on bring for the job, which posts
these requests. -/
def Answers (api : Api) (env : OcwEnv A) (n : ℕ) (d : IndexingData) (posts : List HttpRequest)
    (call : Call) : Prop :=
  ∃ r root reply, requestsOf d = some r ∧ env.root uriRootVar = some root ∧
    r.Brings api env n reply ∧ posts = r.posts api root ∧ call = callbackOf reply

/-- What is replied for one of the two circuits. -/
theorem stripAsks_eq_reply {api : Api} {env : OcwEnv A} {message : Option GarbleAndStripIpfsRequest}
    {n : ℕ} {reply : GarbleAndStripIpfsReply} (h : (stripAsks api env message n).answer = .reply reply) :
    ∃ m root, message = some m ∧ env.root uriRootVar = some root ∧
      AcceptedReply api.base64Decode api.garbleAndStripIpfsReply (env.http n) reply ∧
      (stripAsks api env message n).asked = [(stripPost api root m, env.http n)] := by
  obtain ⟨m, rfl, hm⟩ := Dialogue.needing_eq_reply h
  obtain ⟨root, hroot, hreply, hasked⟩ := asks_eq_reply hm
  exact ⟨m, root, rfl, hroot, hreply, hasked⟩

/-- The fields of a strip job make its messages. -/
theorem requestsOf_strip {d : IndexingData} {f : StripFields} (hkind : d.grpcKind = .garbleAndStrip)
    (hf : d.stripFields = some f) {message pinpad : GarbleAndStripIpfsRequest}
    (hmessage : stripRequest f.messageCid f.txMsg f.messageDigits = some message)
    (hpinpad : stripRequest f.pinpadCid [] f.pinpadDigits = some pinpad) :
    requestsOf d = some (.strip message pinpad f.messageDigits f.pinpadDigits) := by
  unfold IndexingData.stripFields at hf
  simp only [Option.bind_eq_bind, Option.bind_eq_some_iff, Option.some_inj] at hf
  obtain ⟨mc, hmc, pc, hpc, t, ht, md, hmd, pd, hpd, rfl⟩ := hf
  simp only [requestsOf, hkind, hmc, hpc, ht, hmd, hpd, hmessage, hpinpad, Option.bind_eq_bind,
    Option.bind_some]

/-- **A call that is replied to** was brought what it makes its reply of. -/
theorem dialogue_eq_reply {api : Api} {env : OcwEnv A} {d : IndexingData} {n : ℕ}
    {reply : GrpcCallReplyKind} (h : (dialogue api env d n).answer = .reply reply) :
    ∃ r root, requestsOf d = some r ∧ env.root uriRootVar = some root ∧
      r.Brings api env n reply ∧ (dialogue api env d n).asked.map Prod.fst = r.posts api root := by
  unfold dialogue at h ⊢
  rcases hkind : d.grpcKind with _ | _
  · simp only [hkind] at h ⊢
    obtain ⟨skcdCid, hcid, hstandard⟩ := Dialogue.needing_eq_reply h
    obtain ⟨reply', hreply', rfl⟩ := Answer.map_eq_reply hstandard
    obtain ⟨root, hroot, hreply, hasked⟩ := asks_eq_reply hreply'
    obtain ⟨bytes, hbytes, hstr⟩ := Option.bind_eq_some_iff.mp hcid
    refine ⟨.standard ⟨skcdCid⟩, root, ?_, hroot, hreply, ?_⟩
    · simp only [requestsOf, hkind, hbytes, hstr, Option.bind_eq_bind, Option.bind_some]
    · rw [hcid]
      exact congrArg (List.map Prod.fst) hasked
  · simp only [hkind] at h ⊢
    obtain ⟨f, hf, hstrip⟩ := Dialogue.needing_eq_reply h
    obtain ⟨⟨messageReply, pinpadReply⟩, hboth, rfl⟩ := Answer.map_eq_reply hstrip
    obtain ⟨hfirst, hsecond, hasked⟩ := Dialogue.both_eq_reply hboth
    obtain ⟨message, root, hmessage, hroot, hmessageReply, hmessageAsked⟩ := stripAsks_eq_reply hfirst
    rw [hmessageAsked] at hsecond hasked
    obtain ⟨pinpad, root', hpinpad, hroot', hpinpadReply, hpinpadAsked⟩ := stripAsks_eq_reply hsecond
    obtain rfl := Option.some_inj.mp (hroot.symm.trans hroot')
    refine ⟨_, root, requestsOf_strip hkind hf hmessage hpinpad, hroot,
      ⟨hmessageReply, hpinpadReply, rfl, rfl⟩, ?_⟩
    rw [hf]
    refine (congrArg (List.map Prod.fst) hasked).trans ?_
    rw [hpinpadAsked]
    rfl

theorem length_stripAsks_le (api : Api) (env : OcwEnv A)
    (message : Option GarbleAndStripIpfsRequest) (n : ℕ) :
    (stripAsks api env message n).asked.length ≤ 1 :=
  Dialogue.length_needing_le (fun _ _ => length_asks_le) n

theorem length_dialogue_le (api : Api) (env : OcwEnv A) (d : IndexingData) (n : ℕ) :
    (dialogue api env d n).asked.length ≤ d.grpcKind.nbCalls := by
  unfold dialogue
  cases d.grpcKind with
  | garbleStandard =>
    have hone : ∀ skcdCid n, (standardDialogue api env skcdCid n).asked.length ≤ 1 := by
      intro skcdCid n
      rw [standardDialogue, Dialogue.answered_asked]
      exact length_asks_le
    exact Dialogue.length_needing_le hone n
  | garbleAndStrip =>
    have htwo : ∀ f n, (stripDialogue api env f n).asked.length ≤ 1 + 1 := fun _ =>
      Dialogue.length_both_le (length_stripAsks_le api env _) (length_stripAsks_le api env _)
    exact Dialogue.length_needing_le htwo n

theorem worked_processIfNeeded (api : Api) (env : OcwEnv A) {s : OcwState A}
    (hidle : ¬ slot.Idle s) :
    Worked slot env (slot.read s.storage).grpcKind.nbCalls
      (Answers api env s.posted.length (slot.read s.storage)) s (processIfNeeded api env s).state := by
  rw [processIfNeeded_state_eq api env hidle]
  refine worked_served ?_ (fun call hcall => ?_) s
  · rw [outcome, Dialogue.outcome_exchanges]
    exact length_dialogue_le api env _ _
  · obtain ⟨reply, hreply, hpublish⟩ := Dialogue.outcome_call_eq hcall
    obtain ⟨r, root, hr, hroot, hbrings, hasked⟩ := dialogue_eq_reply hreply
    rw [outcome, Dialogue.outcome_exchanges]
    exact ⟨r, root, reply, hr, hroot, hbrings, hasked, (Option.some_inj.mp hpublish).symm⟩

end OcwGarble

/-! ## The circuits worker -/

namespace OcwCircuits

/-- How many calls a job of this kind makes. -/
def GrpcCallKind.nbCalls : GrpcCallKind → ℕ
  | .generic => 1
  | .display => 2

/-- The exchanges from number `n` on bring these replies. -/
def Requests.Brings (api : Api) (env : OcwEnv A) (n : ℕ) : Requests → GrpcCallReplyKind → Prop
  | .generic _, .generic reply =>
    AcceptedReply api.base64Decode api.skcdGenericFromIpfsReply (env.http n) reply
  | .display, .display messageReply pinpadReply =>
    AcceptedReply api.base64Decode api.skcdDisplayReply (env.http n) messageReply ∧
    AcceptedReply api.base64Decode api.skcdDisplayReply (env.http (n + 1)) pinpadReply
  | _, _ => False

/-- The call publishes what the exchanges from number `n` on bring for the job, which posts
these requests. -/
def Answers (api : Api) (env : OcwEnv A) (n : ℕ) (d : IndexingData) (posts : List HttpRequest)
    (call : Call) : Prop :=
  ∃ r root reply, requestsOf d = some r ∧ env.root r.uriRootVar = some root ∧
    r.Brings api env n reply ∧ posts = r.posts api root ∧ publishedBy reply = some call

/-- **A call that is replied to** was brought what it makes its reply of. -/
theorem dialogue_eq_reply {api : Api} {env : OcwEnv A} {d : IndexingData} {n : ℕ}
    {reply : GrpcCallReplyKind} (h : (dialogue api env d n).answer = .reply reply) :
    ∃ r root, requestsOf d = some r ∧ env.root r.uriRootVar = some root ∧
      r.Brings api env n reply ∧ (dialogue api env d n).asked.map Prod.fst = r.posts api root := by
  unfold dialogue at h ⊢
  rcases hkind : d.grpcKind with _ | _
  · simp only [hkind] at h ⊢
    obtain ⟨verilogCid, hcid, hgeneric⟩ := Dialogue.needing_eq_reply h
    obtain ⟨reply', hreply', rfl⟩ := Answer.map_eq_reply hgeneric
    obtain ⟨root, hroot, hreply, hasked⟩ := asks_eq_reply hreply'
    obtain ⟨bytes, hbytes, hstr⟩ := Option.bind_eq_some_iff.mp hcid
    refine ⟨.generic ⟨verilogCid⟩, root, ?_, hroot, hreply, ?_⟩
    · simp only [requestsOf, hkind, hbytes, hstr, Option.bind_eq_bind, Option.bind_some]
    · rw [hcid]
      exact congrArg (List.map Prod.fst) hasked
  · simp only [hkind] at h ⊢
    obtain ⟨⟨messageReply, pinpadReply⟩, hboth, rfl⟩ := Answer.map_eq_reply h
    obtain ⟨hfirst, hsecond, hasked⟩ := Dialogue.both_eq_reply hboth
    unfold displayAsks at hfirst hsecond hasked
    obtain ⟨root, hroot, hmessageReply, hmessageAsked⟩ := asks_eq_reply hfirst
    rw [hmessageAsked] at hsecond hasked
    obtain ⟨root', hroot', hpinpadReply, hpinpadAsked⟩ := asks_eq_reply hsecond
    obtain rfl := Option.some_inj.mp (hroot.symm.trans hroot')
    refine ⟨.display, root, ?_, hroot, ⟨hmessageReply, hpinpadReply⟩, ?_⟩
    · simp only [requestsOf, hkind]
    · refine (congrArg (List.map Prod.fst) hasked).trans ?_
      rw [hpinpadAsked]
      rfl

theorem length_dialogue_le (api : Api) (env : OcwEnv A) (d : IndexingData) (n : ℕ) :
    (dialogue api env d n).asked.length ≤ d.grpcKind.nbCalls := by
  unfold dialogue
  cases d.grpcKind with
  | generic =>
    have hone : ∀ verilogCid n, (genericDialogue api env verilogCid n).asked.length ≤ 1 := by
      intro verilogCid n
      rw [genericDialogue, Dialogue.answered_asked]
      exact length_asks_le
    exact Dialogue.length_needing_le hone n
  | display =>
    have hone : ∀ message n, (displayAsks api env message n).asked.length ≤ 1 :=
      fun _ _ => length_asks_le
    exact Dialogue.length_both_le (hone _) (hone _) n

theorem worked_processIfNeeded (api : Api) (env : OcwEnv A) {s : OcwState A}
    (hidle : ¬ slot.Idle s) :
    Worked slot env (slot.read s.storage).grpcKind.nbCalls
      (Answers api env s.posted.length (slot.read s.storage)) s (processIfNeeded api env s).state := by
  rw [processIfNeeded_state_eq api env hidle]
  refine worked_served ?_ (fun call hcall => ?_) s
  · rw [outcome, Dialogue.outcome_exchanges]
    exact length_dialogue_le api env _ _
  · obtain ⟨reply, hreply, hpublish⟩ := Dialogue.outcome_call_eq hcall
    obtain ⟨r, root, hr, hroot, hbrings, hasked⟩ := dialogue_eq_reply hreply
    rw [outcome, Dialogue.outcome_exchanges]
    exact ⟨r, root, reply, hr, hroot, hbrings, hasked, hpublish⟩

end OcwCircuits

/-! ## The two services -/

variable [DecidableEq A]

omit [DecidableEq A] in
/-- A worker runs natively. -/
def NodeEvent.Native : NodeEvent A → Prop
  | .call _ => True
  | .garbleWorker env => env.std = true
  | .circuitsWorker env => env.std = true

omit [DecidableEq A] in
theorem OcwState.flush_locked (s : OcwState A) (writes : List (Bytes × Bytes)) :
    (s.flush writes).locked = s.locked := by
  unfold flush
  induction writes generalizing s with
  | nil => rfl
  | cons write writes ih =>
    rw [List.foldl_cons, ih]
    rfl

omit [DecidableEq A] in
theorem OcwState.flush_submitted (s : OcwState A) (writes : List (Bytes × Bytes)) :
    (s.flush writes).submitted = s.submitted := by
  unfold flush
  induction writes generalizing s with
  | nil => rfl
  | cons write writes ih =>
    rw [List.foldl_cons, ih]
    rfl

/-- **On a native node no lock stays behind.** -/
theorem Node.locked_step (garbleApi : OcwGarble.Api) (circuitsApi : OcwCircuits.Api) (s : Node A)
    {e : NodeEvent A} (h : e.Native) :
    (Node.step garbleApi circuitsApi s e).ocw.locked = s.ocw.locked := by
  rcases e with x | env | env
  · exact OcwState.flush_locked s.ocw (x.indexed s.chain)
  · exact processIfNeededWith_locked h (OcwGarble.within_processJob garbleApi env) s.ocw
  · exact processIfNeededWith_locked h (OcwCircuits.within_processJob circuitsApi env) s.ocw

/-- A pallet with its worker, and what a run of the worker does when it has a job. -/
structure OcwService (A J : Type) [DecidableEq A] (garbleApi : OcwGarble.Api)
    (circuitsApi : OcwCircuits.Api) extends OcwPallet A J garbleApi circuitsApi where
  nbCalls : J → ℕ
  answers : OcwEnv A → ℕ → J → List HttpRequest → Call → Prop
  worked : ∀ s e env, envOf e = some env → ¬ slot.Idle s.ocw →
    Worked slot env (nbCalls (slot.read s.ocw.storage))
      (answers env s.ocw.posted.length (slot.read s.ocw.storage)) s.ocw
      (Node.step garbleApi circuitsApi s e).ocw

variable (garbleApi : OcwGarble.Api) (circuitsApi : OcwCircuits.Api)

/-- The garbling service. -/
def garbleService : OcwService A OcwGarble.IndexingData garbleApi circuitsApi where
  toOcwPallet := garblePallet garbleApi circuitsApi
  nbCalls d := d.grpcKind.nbCalls
  answers := OcwGarble.Answers garbleApi
  worked s e env henv hidle := by
    rcases e with x | env' | env'
    · cases henv
    · cases henv
      exact OcwGarble.worked_processIfNeeded garbleApi env hidle
    · cases henv

/-- The circuits service. -/
def circuitsService : OcwService A OcwCircuits.IndexingData garbleApi circuitsApi where
  toOcwPallet := circuitsPallet garbleApi circuitsApi
  nbCalls d := d.grpcKind.nbCalls
  answers := OcwCircuits.Answers circuitsApi
  worked s e env henv hidle := by
    rcases e with x | env' | env'
    · cases henv
    · cases henv
    · cases henv
      exact OcwCircuits.worked_processIfNeeded circuitsApi env hidle

end OffchainWorkerDemo
