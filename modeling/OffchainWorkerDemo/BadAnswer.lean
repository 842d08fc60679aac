/-
# Bad answers of the server

What a worker run owes whatever the server answers: it returns with the lock
released, and when a reply is missing its call is an error and nothing is
submitted.  `ocwEndsWell_iff` says for which exchanges the two workers keep this.
They stop on a response without a content type, on a body that does not decode, and
whenever one of two calls is an error; and they take a body whose flags or trailer
length are wrong.
-/
import OffchainWorkerDemo.OcwGarbleWorker
import OffchainWorkerDemo.OcwCircuitsWorker

namespace OffchainWorkerDemo

variable {A : Type}

/-! ## What a run owes -/

section EndsWell

variable {J R ε : Type}

/-- The run returns; if it had a job, the lock is released, and if one of the exchanges did
not bring a well-formed reply, the call is an error and nothing is submitted. -/
def EndsWell (slot : JobSlot J) (callGrpcOf : J → Worker A ε R) (run : Worker A ε Unit)
    (answered : J → ℕ → Prop) (s : OcwState A) : Prop :=
  ∃ s', run s = .ok () s' ∧
    (¬ slot.Idle s → s'.locked slot.lockKey = false ∧
      (¬ answered (slot.read s.storage) s.posted.length →
        (∃ e t, callGrpcOf (slot.read s.storage) (slot.take s) = .err e t) ∧
        s'.submitted = s.submitted))

/-- **When a run ends well**: it has nothing to do, its call is an error, or both its
exchanges are well formed and the replies can be published. -/
theorem endsWell_iff (env : OcwEnv A) (slot : JobSlot J) {callGrpcOf : J → Worker A ε R}
    {finalize : Except ε R → Worker A ε Unit} {answered : J → ℕ → Prop} {s : OcwState A}
    (hcall : ∀ d, Exec.Within OcwState.Sends (callGrpcOf d))
    (herror : ∀ e, finalize (.error e) = pure ()) :
    EndsWell slot callGrpcOf
        (processIfNeededWith env slot fun d => Exec.attempt (callGrpcOf d) >>= finalize) answered s ↔
      slot.Idle s ∨ (∃ e t, callGrpcOf (slot.read s.storage) (slot.take s) = .err e t) ∨
      (answered (slot.read s.storage) s.posted.length ∧
        ∃ r t u, callGrpcOf (slot.read s.storage) (slot.take s) = .ok r t ∧
          finalize (.ok r) t = .ok () u) := by
  unfold EndsWell
  by_cases hidle : slot.Idle s
  · refine iff_of_true ⟨s, processIfNeededWith_idle env slot _ hidle, ?_⟩ (Or.inl hidle)
    exact fun h => absurd hidle h
  rw [processIfNeededWith_busy env slot _ hidle, Exec.bind_apply, Exec.attempt]
  have hsends := hcall (slot.read s.storage) (slot.take s)
  rcases hended : callGrpcOf (slot.read s.storage) (slot.take s) with ⟨r, t⟩ | ⟨e, t⟩ | ⟨msg, t⟩
  · rw [Ended.andThen_ok]
    rcases hfin : finalize (.ok r) t with ⟨⟨⟩, u⟩ | ⟨e, u⟩ | ⟨msg, u⟩
    · simp [dropGuard, hidle, hfin, OcwState.setLock]
    · simp [dropGuard, hidle, hfin]
    · simp [dropGuard, hidle, hfin]
  · rw [Ended.andThen_ok, herror, Exec.pure_apply, dropGuard]
    refine iff_of_true ⟨_, rfl, fun _ => ⟨by simp [OcwState.setLock], fun _ => ⟨⟨e, t, rfl⟩, ?_⟩⟩⟩
      (Or.inr (Or.inl ⟨e, t, rfl⟩))
    rw [hended] at hsends
    exact hsends.submitted
  · simp [dropGuard, hidle]

end EndsWell

/-! ## The garbling worker -/

namespace OcwGarble

/-- The kind of the job that asks this. -/
def Requests.kind : Requests → GrpcCallKind
  | .standard _ => .garbleStandard
  | .strip _ _ _ _ => .garbleAndStrip

theorem grpcKind_of_requests {d : IndexingData} {r : Requests} (h : requestsOf d = some r) :
    d.grpcKind = r.kind := by
  unfold requestsOf at h
  rcases hkind : d.grpcKind with _ | _
  · simp only [hkind, Option.bind_eq_bind, Option.bind_eq_some_iff, Option.some_inj] at h
    obtain ⟨_, _, _, _, rfl⟩ := h
    rfl
  · simp only [hkind, Option.bind_eq_bind, Option.bind_eq_some_iff, Option.some_inj] at h
    obtain ⟨_, _, _, _, _, _, _, _, _, _, _, _, _, _, rfl⟩ := h
    rfl

/-- Every exchange of the job brings a well-formed reply. -/
def Answered (api : Api) (env : OcwEnv A) (d : IndexingData) (n : ℕ) : Prop :=
  match d.grpcKind with
  | .garbleStandard =>
    ∃ reply, WellFormedReply api.base64Decode api.garbleIpfsReply (env.http n) reply
  | .garbleAndStrip =>
    (∃ reply, WellFormedReply api.base64Decode api.garbleAndStripIpfsReply (env.http n) reply) ∧
    ∃ reply, WellFormedReply api.base64Decode api.garbleAndStripIpfsReply (env.http (n + 1)) reply

/-- Without its URI root the worker stops at the first call. -/
theorem call_unconfigured (api : Api) {env : OcwEnv A} (h : env.root uriRootVar = none)
    (r : Requests) (s : OcwState A) : ∃ msg s', r.call api env s = .trap msg s' := by
  rcases r with message | ⟨message, pinpad, md, pd⟩
  · refine ⟨unwrapMsg, s, ?_⟩
    simp only [Requests.call, Exec.bind_apply, standardCall, callGrpc_unconfigured _ _ _ _ _ _ _ _ h,
      Ended.andThen_trap]
  · have htrap : ∀ t, ∃ msg t', stripCall api env message t = .trap msg t' :=
      fun t => ⟨_, _, callGrpc_unconfigured _ _ _ _ _ _ _ _ h t⟩
    have hboth : ∃ msg s', (callBoth (stripCall api env message) (stripCall api env pinpad) :
        Worker A Error _) s = .trap msg s' := callBoth_trap s (Or.inl htrap)
    obtain ⟨msg, s', hboth⟩ := hboth
    refine ⟨msg, s', ?_⟩
    simp only [Requests.call, Exec.bind_apply, hboth, Ended.andThen_trap]

/-- A call that does not stop the worker has its messages and its URI root. -/
theorem configured_of_not_trap {api : Api} {env : OcwEnv A} {d : IndexingData} {s : OcwState A}
    (h : ∀ msg s', callGrpcOf api env d s ≠ .trap msg s') :
    ∃ r root, requestsOf d = some r ∧ env.root uriRootVar = some root := by
  rcases hr : requestsOf d with _ | r
  · obtain ⟨msg, s', htrap⟩ := callGrpcOf_of_none api env hr s
    exact absurd htrap (h msg s')
  · rcases hroot : env.root uriRootVar with _ | root
    · obtain ⟨msg, s', htrap⟩ := call_unconfigured api hroot r s
      rw [← callGrpcOf_of_requests hr] at htrap
      exact absurd htrap (h msg s')
    · exact ⟨r, root, rfl, rfl⟩

/-- Both circuits are asked for without an error of their own. -/
theorem call_strip_ne_err (api : Api) (env : OcwEnv A) (message pinpad : GarbleAndStripIpfsRequest)
    (md pd : Bytes) (s t : OcwState A) (e : Error) :
    (Requests.strip message pinpad md pd).call api env s ≠ .err e t := by
  simp only [Requests.call, Exec.bind_apply]
  rcases hboth : (callBoth (stripCall api env message) (stripCall api env pinpad) :
    Worker A Error _) s with r | e' | msg
  · simp
  · exact absurd hboth (callBoth_ne_err _ _ _ _ _)
  · simp

/-- **The call is an error** only for a standard job whose exchange fails. -/
theorem callGrpcOf_err_iff {api : Api} {env : OcwEnv A} {d : IndexingData} {s : OcwState A} :
    (∃ e t, callGrpcOf api env d s = .err e t) ↔
      (requestsOf d).isSome ∧ (env.root uriRootVar).isSome ∧
        d.grpcKind = .garbleStandard ∧ (env.http s.posted.length).Fails := by
  constructor
  · rintro ⟨e, t, hended⟩
    obtain ⟨r, root, hr, hroot⟩ := configured_of_not_trap (by
      intro msg s' htrap
      cases hended.symm.trans htrap)
    rw [hr, hroot, grpcKind_of_requests hr]
    rw [callGrpcOf_of_requests hr] at hended
    rcases r with message | ⟨message, pinpad, md, pd⟩
    · refine ⟨rfl, rfl, rfl, ?_⟩
      rcases call_standard_cases hroot message s with ⟨hfails, -⟩ | ⟨reply, -, h⟩ | ⟨-, msg, h⟩
      · exact hfails
      · cases hended.symm.trans h
      · cases hended.symm.trans h
    · exact absurd hended (call_strip_ne_err api env message pinpad md pd s t e)
  · rintro ⟨hsome, hconf, hkind, hfails⟩
    obtain ⟨r, hr⟩ := Option.isSome_iff_exists.mp hsome
    obtain ⟨root, hroot⟩ := Option.isSome_iff_exists.mp hconf
    rw [grpcKind_of_requests hr] at hkind
    rcases r with message | ⟨message, pinpad, md, pd⟩
    · rw [callGrpcOf_of_requests hr]
      rcases call_standard_cases hroot message s with ⟨-, h⟩ | ⟨reply, hreply, -⟩ | ⟨hnot, -⟩
      · exact ⟨_, _, h⟩
      · exact absurd hfails hreply.not_fails
      · exact absurd hfails hnot
    · cases hkind

/-- **Well-formed replies are returned.** -/
theorem callGrpcOf_of_answered {api : Api} {env : OcwEnv A} {d : IndexingData} {s : OcwState A}
    (hsome : (requestsOf d).isSome) (hconf : (env.root uriRootVar).isSome)
    (h : Answered api env d s.posted.length) : ∃ reply t, callGrpcOf api env d s = .ok reply t := by
  obtain ⟨r, hr⟩ := Option.isSome_iff_exists.mp hsome
  obtain ⟨root, hroot⟩ := Option.isSome_iff_exists.mp hconf
  rw [callGrpcOf_of_requests hr]
  unfold Answered at h
  rw [grpcKind_of_requests hr] at h
  rcases r with message | ⟨message, pinpad, md, pd⟩
  · obtain ⟨reply, hreply⟩ := h
    exact ⟨_, _, call_standard_of_accepted hroot message hreply.accepted⟩
  · obtain ⟨⟨messageReply, hmessage⟩, pinpadReply, hpinpad⟩ := h
    exact ⟨_, _, call_strip_of_accepted hroot hmessage.accepted hpinpad.accepted⟩

/-- The job names its messages, the URI root is set, and every exchange is well formed, or
the only one fails in a way `fetch_from_remote_grpc_web` reports. -/
def Handles (api : Api) (env : OcwEnv A) (d : IndexingData) (n : ℕ) : Prop :=
  (requestsOf d).isSome ∧ (env.root uriRootVar).isSome ∧
    (Answered api env d n ∨ d.grpcKind = .garbleStandard ∧ (env.http n).Fails)

/-- The garbling worker ends well whatever the server answers. -/
def OcwEndsWell (api : Api) (env : OcwEnv A) (s : OcwState A) : Prop :=
  EndsWell slot (callGrpcOf api env) (processIfNeeded api env) (Answered api env) s

theorem ocwEndsWell_iff (api : Api) (env : OcwEnv A) (s : OcwState A) :
    OcwEndsWell api env s ↔
      slot.Idle s ∨ Handles api env (slot.read s.storage) s.posted.length := by
  have hfin : ∀ reply t, ∃ u : OcwState A, (finalizeGrpcCall env (.ok reply) : Worker A Error Unit) t =
      .ok () u :=
    fun reply t => ⟨_, sendSignedTransaction_of_ok env (fun _ => rfl) t⟩
  have hiff := @endsWell_iff A _ _ _ env slot (callGrpcOf api env) (finalizeGrpcCall env)
    (Answered api env) s (within_callGrpcOf api env) (fun _ => rfl)
  refine hiff.trans (or_congr_right ?_)
  rw [callGrpcOf_err_iff]
  constructor
  · rintro (⟨hsome, hconf, hkind, hfails⟩ | ⟨hanswered, r, t, u, hcall, -⟩)
    · exact ⟨hsome, hconf, Or.inr ⟨hkind, hfails⟩⟩
    · obtain ⟨r, root, hr, hroot⟩ := configured_of_not_trap (by
        intro msg s' htrap
        cases hcall.symm.trans htrap)
      exact ⟨Option.isSome_of_eq_some hr, Option.isSome_of_eq_some hroot, Or.inl hanswered⟩
  · rintro ⟨hsome, hconf, hanswered | ⟨hkind, hfails⟩⟩
    · obtain ⟨reply, t, hcall⟩ := callGrpcOf_of_answered (s := slot.take s) hsome hconf hanswered
      obtain ⟨u, hu⟩ := hfin reply t
      exact Or.inr ⟨hanswered, reply, t, u, hcall, hu⟩
    · exact Or.inl ⟨hsome, hconf, hkind, hfails⟩

end OcwGarble

/-! ## The circuits worker -/

namespace OcwCircuits

/-- The kind of the job that asks this. -/
def Requests.kind : Requests → GrpcCallKind
  | .generic _ => .generic
  | .display => .display

theorem grpcKind_of_requests {d : IndexingData} {r : Requests} (h : requestsOf d = some r) :
    d.grpcKind = r.kind := by
  unfold requestsOf at h
  rcases hkind : d.grpcKind with _ | _
  · simp only [hkind, Option.bind_eq_bind, Option.bind_eq_some_iff, Option.some_inj] at h
    obtain ⟨_, _, _, _, rfl⟩ := h
    rfl
  · simp only [hkind, Option.some_inj] at h
    subst h
    rfl

/-- Every exchange of the job brings a well-formed reply. -/
def Answered (api : Api) (env : OcwEnv A) (d : IndexingData) (n : ℕ) : Prop :=
  match d.grpcKind with
  | .generic =>
    ∃ reply, WellFormedReply api.base64Decode api.skcdGenericFromIpfsReply (env.http n) reply
  | .display =>
    (∃ reply, WellFormedReply api.base64Decode api.skcdDisplayReply (env.http n) reply) ∧
    ∃ reply, WellFormedReply api.base64Decode api.skcdDisplayReply (env.http (n + 1)) reply

/-- The URI root of the job's endpoint is set; a generic job has a well-formed exchange or
one that fails as `fetch_from_remote_grpc_web` reports; a display job has two well-formed
ones, whose replies carry their metadata if anybody signs. -/
def Requests.Handled (api : Api) (env : OcwEnv A) (n : ℕ) (r : Requests) : Prop :=
  (env.root r.uriRootVar).isSome ∧
  match r with
  | .generic _ => (env.http n).Fails ∨
      ∃ reply, WellFormedReply api.base64Decode api.skcdGenericFromIpfsReply (env.http n) reply
  | .display => ∃ messageReply pinpadReply,
      WellFormedReply api.base64Decode api.skcdDisplayReply (env.http n) messageReply ∧
      WellFormedReply api.base64Decode api.skcdDisplayReply (env.http (n + 1)) pinpadReply ∧
      (env.keystore = [] ∨
        (messageReply.serverMetadata.isSome ∧ pinpadReply.serverMetadata.isSome))

/-- The job names its messages, and they are handled. -/
def Handles (api : Api) (env : OcwEnv A) (d : IndexingData) (n : ℕ) : Prop :=
  ∃ r, requestsOf d = some r ∧ r.Handled api env n

/-- The circuits worker ends well whatever the server answers. -/
def OcwEndsWell (api : Api) (env : OcwEnv A) (s : OcwState A) : Prop :=
  EndsWell slot (callGrpcOf api env) (processIfNeeded api env) (Answered api env) s

/-- A job whose call does not stop the worker is handled as its replies are. -/
theorem handled_iff {api : Api} {env : OcwEnv A} {d : IndexingData} {s : OcwState A} :
    ((∃ e t, callGrpcOf api env d s = .err e t) ∨ (Answered api env d s.posted.length ∧
      ∃ r t u, callGrpcOf api env d s = .ok r t ∧
        (finalizeGrpcCall env (.ok r) : Worker A Error Unit) t = .ok () u)) ↔
      Handles api env d s.posted.length := by
  unfold Handles
  rcases hr : requestsOf d with _ | r
  · obtain ⟨msg, s', htrap⟩ := callGrpcOf_of_none api env hr s
    simp [htrap]
  rw [callGrpcOf_of_requests hr]
  simp only [Option.some_inj, exists_eq_left', Requests.Handled]
  rcases hroot : env.root r.uriRootVar with _ | root
  · obtain ⟨msg, s', htrap⟩ := call_unconfigured api hroot s
    simp [htrap]
  unfold Answered
  rw [grpcKind_of_requests hr]
  rcases r with message | _
  · have hfin : ∀ reply (t : OcwState A), ∃ u,
        (finalizeGrpcCall env (.ok (.generic reply)) : Worker A Error Unit) t = .ok () u :=
      fun reply t => ⟨_, sendSignedTransaction_of_ok env (fun _ => rfl) t⟩
    rcases call_generic_cases hroot message s with ⟨hfails, h⟩ | ⟨reply, hreply, h⟩ | ⟨hfails, msg, h⟩
    · rw [h]
      simp [hfails]
    · obtain ⟨u, hu⟩ := hfin reply (s.send env (genericPost api root message))
      rw [h]
      simp [hreply.not_fails, hu, Requests.kind]
    · rw [h]
      refine iff_of_false (by simp) ?_
      rintro ⟨-, hfails' | ⟨reply, hreply⟩⟩
      · exact hfails hfails'
      · rw [call_generic_of_accepted hroot message hreply.accepted] at h
        cases h
  · simp only [Requests.kind]
    constructor
    · rintro (⟨e, t, hended⟩ | ⟨⟨⟨m, hm⟩, p, hp⟩, reply, t, u, hended, hfin⟩)
      · exact absurd hended (call_display_ne_err api env s t e)
      · rw [call_display_of_accepted hroot hm.accepted hp.accepted] at hended
        cases hended
        exact ⟨rfl, m, p, hm, hp, finalizeGrpcCall_display_iff.mp ⟨u, hfin⟩⟩
    · rintro ⟨-, m, p, hm, hp, hpublished⟩
      obtain ⟨u, hu⟩ := finalizeGrpcCall_display_iff.mpr hpublished
      exact Or.inr ⟨⟨⟨m, hm⟩, p, hp⟩, _, _, u,
        call_display_of_accepted hroot hm.accepted hp.accepted, hu⟩

theorem ocwEndsWell_iff (api : Api) (env : OcwEnv A) (s : OcwState A) :
    OcwEndsWell api env s ↔
      slot.Idle s ∨ Handles api env (slot.read s.storage) s.posted.length := by
  have hiff := @endsWell_iff A _ _ _ env slot (callGrpcOf api env) (finalizeGrpcCall env)
    (Answered api env) s (within_callGrpcOf api env) (fun _ => rfl)
  exact hiff.trans (or_congr_right handled_iff)

end OcwCircuits

/-! ## Both workers -/

/-- **When the workers end well**: they have nothing to do, or the job and the exchanges are
ones they handle. -/
theorem workersEndWell_iff (garbleApi : OcwGarble.Api) (circuitsApi : OcwCircuits.Api)
    (env : OcwEnv A) (s : OcwState A) :
    (OcwGarble.OcwEndsWell garbleApi env s ↔ OcwGarble.slot.Idle s ∨
      OcwGarble.Handles garbleApi env (OcwGarble.slot.read s.storage) s.posted.length) ∧
    (OcwCircuits.OcwEndsWell circuitsApi env s ↔ OcwCircuits.slot.Idle s ∨
      OcwCircuits.Handles circuitsApi env (OcwCircuits.slot.read s.storage) s.posted.length) :=
  ⟨OcwGarble.ocwEndsWell_iff garbleApi env s, OcwCircuits.ocwEndsWell_iff circuitsApi env s⟩

/-- A server behind a gateway that answers 502 and no header. -/
def badGateway : OcwEnv ℕ where
  std := true
  var := fun _ => some "http://127.0.0.1:3000"
  keystore := [0]
  http := fun _ => .response ⟨502, [], []⟩

/-- A standard job waits, and the lock is free. -/
def waitingState : OcwState ℕ where
  storage := fun key => if key = OcwGarble.jobKey then
    some (OcwGarble.IndexingData.codec.encode (OcwGarble.standardJob [97])) else none
  locked := fun _ => false
  exchanges := []
  submitted := []

/-- The garbling worker panics on that answer, whatever the codecs of the API. -/
theorem not_endsWell_badGateway :
    ¬ ∃ api : OcwGarble.Api, OcwGarble.OcwEndsWell api badGateway waitingState := by
  rintro ⟨api, s', hrun, -⟩
  cases hrun

end OffchainWorkerDemo
