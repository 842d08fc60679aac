/-
# What the workers ask the servers

The calls of a worker as dialogues with its server.  A body is answered by the payload it
carries (`readLax`); an exchange fails, is a reply, or stops the worker (`answerOf`); and
the call of a job asks for one circuit, or for two in a row.
-/
import OffchainWorkerDemo.OcwGarbleWorker
import OffchainWorkerDemo.OcwCircuitsWorker
import OffchainWorkerDemo.Lib.Dialogue

namespace OffchainWorkerDemo

variable {A T ε : Type}

/-! ## The answer to a request -/

/-- The reply a body carries: behind a flag byte and four bytes of length, with at least five more
bytes before the trailers. -/
def readLax (message : ProstMessage T) : Bytes → Option T
  | [] => none
  | _ :: body =>
    let len := beNat (body.take 4)
    if len + 9 ≤ body.length then message.decode ((body.drop 4).take len) else none

theorem readLax_eq_some_iff {message : ProstMessage T} {body : Bytes} {reply : T} :
    readLax message body = some reply ↔ ∃ trailers, LaxBody message body (reply, trailers) := by
  constructor
  · intro h
    rcases body with _ | ⟨flag, body⟩
    · cases h
    · obtain ⟨hlen, hdecode⟩ := Option.ite_none_right_eq_some.mp h
      obtain ⟨payload, header, trailers, hpayload, -, hbody, hlt, hheader⟩ :=
        @eq_frame body flag (by omega) (by rw [List.length_drop]; omega)
          (by rw [List.length_drop, List.length_drop]; omega)
      refine ⟨trailers, flag, payload, header, hbody, hlt, hheader, ?_⟩
      rw [hpayload]
      exact hdecode
  · rintro ⟨trailers, flag, payload, header, rfl, hlt, hheader, hdecode⟩
    have h4 := length_beU32 payload.length
    rw [readLax, List.take_left' h4, List.drop_left' h4, beNat_beU32 hlt, List.take_left]
    refine (if_pos ?_).trans hdecode
    simp only [List.length_append, h4, hheader]
    omega

/-- What a worker makes of an exchange. -/
def answerOf (base64Decode : Bytes → Option Bytes) (message : ProstMessage T)
    (httpFetchingError : ε) : Exchange → Answer ε T
  | .response r =>
    match headersFind r.headers contentTypeName with
    | none => .stop
    | some contentType =>
      if r.code = 200 then
        ((plainBody base64Decode r.body (contentTypeOf contentType)).bind (readLax message)).elim
          .stop .reply
      else .failed httpFetchingError
  | _ => .failed httpFetchingError

section AnswerOf

variable {base64Decode : Bytes → Option Bytes} {message : ProstMessage T} {e : ε} {ex : Exchange}

theorem answerOf_of_fails (h : ex.Fails) : answerOf base64Decode message e ex = .failed e := by
  rcases ex with _ | _ | _ | r
  · rfl
  · rfl
  · rfl
  · obtain ⟨hsome, hcode⟩ := h
    obtain ⟨contentType, hfind⟩ := Option.isSome_iff_exists.mp hsome
    simp only [answerOf, hfind]
    exact if_neg hcode

theorem answerOf_of_brings {body : Bytes} {contentType : GrpcWebContentType}
    (h : ex.Brings body contentType) : answerOf base64Decode message e ex =
      ((plainBody base64Decode body contentType).bind (readLax message)).elim .stop .reply := by
  obtain ⟨r, value, rfl, hfind, hcode, rfl, rfl⟩ := h
  simp only [answerOf, hfind]
  exact if_pos hcode

theorem answerOf_of_untyped (h : ex.Untyped) : answerOf base64Decode message e ex = .stop := by
  obtain ⟨r, rfl, hfind⟩ := h
  simp only [answerOf, hfind]

/-- **A reply is one that `decode_body` takes.** -/
theorem answerOf_eq_reply_iff {reply : T} :
    answerOf base64Decode message e ex = .reply reply ↔
      AcceptedReply base64Decode message ex reply := by
  constructor
  · intro h
    rcases ex.trichotomy with hfails | ⟨body, contentType, hbrings⟩ | huntyped
    · cases (answerOf_of_fails hfails).symm.trans h
    · rw [answerOf_of_brings hbrings] at h
      rcases hread : (plainBody base64Decode body contentType).bind (readLax message) with _ | reply'
      · rw [hread] at h
        cases h
      · rw [hread] at h
        cases h
        obtain ⟨plain, hplain, hlax⟩ := Option.bind_eq_some_iff.mp hread
        obtain ⟨trailers, hbody⟩ := readLax_eq_some_iff.mp hlax
        exact ⟨body, contentType, plain, trailers, hbrings, hplain, hbody⟩
    · cases (answerOf_of_untyped huntyped).symm.trans h
  · rintro ⟨body, contentType, plain, trailers, hbrings, hplain, hbody⟩
    rw [answerOf_of_brings hbrings, hplain, Option.bind_some,
      readLax_eq_some_iff.mpr ⟨trailers, hbody⟩]
    rfl

/-- A failure is one the worker can report. -/
theorem answerOf_eq_failed_iff {e' : ε} :
    answerOf base64Decode message e ex = .failed e' ↔ ex.Fails ∧ e' = e := by
  constructor
  · intro h
    rcases ex.trichotomy with hfails | ⟨body, contentType, hbrings⟩ | huntyped
    · cases (answerOf_of_fails hfails).symm.trans h
      exact ⟨hfails, rfl⟩
    · rw [answerOf_of_brings hbrings] at h
      rcases hread : (plainBody base64Decode body contentType).bind (readLax message) with _ | reply
      all_goals
        rw [hread] at h
        cases h
    · cases (answerOf_of_untyped huntyped).symm.trans h
  · rintro ⟨hfails, rfl⟩
    exact answerOf_of_fails hfails

/-- An exchange stops the worker if it is neither. -/
theorem answerOf_eq_stop_iff :
    answerOf base64Decode message e ex = .stop ↔ ¬ ex.GoesOn base64Decode message := by
  constructor
  · rintro hstop (hfails | ⟨reply, hreply⟩)
    · cases (answerOf_of_fails hfails).symm.trans hstop
    · cases (answerOf_eq_reply_iff.mpr hreply).symm.trans hstop
  · intro hnot
    rcases hanswer : answerOf base64Decode message e ex with reply | e' | _
    · exact absurd (Or.inr ⟨reply, answerOf_eq_reply_iff.mp hanswer⟩) hnot
    · exact absurd (Or.inl (answerOf_eq_failed_iff.mp hanswer).1) hnot
    · rfl

end AnswerOf

/-! ## One call, and two -/

/-- The exchanges of a node are the questions its workers asked. -/
def OcwState.log : Log (OcwState A) (HttpRequest × Exchange) where
  count s := s.posted.length
  ask s exchanges := { s with exchanges := s.exchanges ++ exchanges }
  ask_nil s := by rw [List.append_nil]
  ask_append s exchanges exchanges' := by rw [List.append_assoc]
  count_ask s exchanges := by
    rw [OcwState.posted_eq_append rfl, List.length_append, List.length_map]

/-- What a call asks: its request is posted if the URI root is set, and the exchange answered. -/
def asks {I R : Type} (base64Decode : Bytes → Option Bytes) (env : OcwEnv A)
    (requestMessage : ProstMessage I) (replyMessage : ProstMessage R)
    (uriRootVar endpoint : String) (httpFetchingError : ε) (input : I) (n : ℕ) :
    Dialogue (HttpRequest × Exchange) ε R :=
  match env.root uriRootVar with
  | some root =>
    { asked := [(callRequest requestMessage endpoint input root, env.http n)],
      answer := answerOf base64Decode replyMessage httpFetchingError (env.http n) }
  | none => ⟨[], .stop⟩

section Asks

variable {I R : Type} {base64Decode : Bytes → Option Bytes} {env : OcwEnv A}
  {requestMessage : ProstMessage I} {replyMessage : ProstMessage R} {uriRootVar endpoint : String}
  {httpFetchingError : ε} {input : I} {n : ℕ}

/-- **A call that is replied to** was configured, posted its request, and was brought the reply. -/
theorem asks_eq_reply {reply : R} (h : (asks base64Decode env requestMessage replyMessage uriRootVar
      endpoint httpFetchingError input n).answer = .reply reply) :
    ∃ root, env.root uriRootVar = some root ∧
      AcceptedReply base64Decode replyMessage (env.http n) reply ∧
      (asks base64Decode env requestMessage replyMessage uriRootVar endpoint httpFetchingError input
        n).asked = [(callRequest requestMessage endpoint input root, env.http n)] := by
  unfold asks at h ⊢
  rcases hroot : env.root uriRootVar with _ | root
  · rw [hroot] at h
    cases h
  · rw [hroot] at h
    exact ⟨root, rfl, answerOf_eq_reply_iff.mp h, rfl⟩

theorem length_asks_le : (asks base64Decode env requestMessage replyMessage uriRootVar endpoint
    httpFetchingError input n).asked.length ≤ 1 := by
  unfold asks
  split
  · exact Nat.le_refl 1
  · exact Nat.zero_le 1

end Asks

/-- **A call asks its request**, and ends as the exchange is answered. -/
theorem follows_callGrpc {I R : Type} (base64Decode : Bytes → Option Bytes) (env : OcwEnv A)
    (requestMessage : ProstMessage I) (replyMessage : ProstMessage R)
    (uriRootVar endpoint : String) (httpFetchingError : ε) (input : I) :
    Follows OcwState.log (callGrpc base64Decode env requestMessage replyMessage uriRootVar endpoint
        httpFetchingError input)
      (asks base64Decode env requestMessage replyMessage uriRootVar endpoint httpFetchingError
        input) := by
  rcases hroot : env.root uriRootVar with _ | root
  · intro s
    rw [callGrpc_unconfigured _ _ _ _ _ _ _ _ hroot, asks, hroot]
    exact follows_trap unwrapMsg s
  · intro s
    have hsend : s.send env (callRequest requestMessage endpoint input root) =
        OcwState.log.ask s [(callRequest requestMessage endpoint input root,
          env.http (OcwState.log.count s))] := rfl
    rw [asks, hroot]
    rcases callGrpc_cases base64Decode requestMessage replyMessage endpoint httpFetchingError input
      hroot (s := s) with ⟨hfails, hended⟩ | ⟨reply, hreply, hended⟩ | ⟨hnot, msg, hended⟩
    · rw [hended, hsend]
      exact .err (answerOf_of_fails hfails)
    · rw [hended, hsend]
      exact .ok (answerOf_eq_reply_iff.mpr hreply)
    · -- neither a failure nor a reply
      rw [hended, hsend]
      refine .trap ?_
      rcases hanswer : answerOf base64Decode replyMessage httpFetchingError
        (env.http (OcwState.log.count s)) with reply | e | _
      · have hreply := callGrpc_of_accepted base64Decode requestMessage replyMessage endpoint
          httpFetchingError input hroot (answerOf_eq_reply_iff.mp hanswer)
        cases hended.symm.trans hreply
      · exact absurd (answerOf_eq_failed_iff.mp hanswer).1 hnot
      · rfl

theorem follows_callBoth {R ε' : Type} {callMessage callPinpad : Worker A ε R}
    {d d' : ℕ → Dialogue (HttpRequest × Exchange) ε R} (hmessage : Follows OcwState.log callMessage d)
    (hpinpad : Follows OcwState.log callPinpad d') :
    Follows OcwState.log (callBoth callMessage callPinpad : Worker A ε' (R × R))
      (Dialogue.both d d') :=
  follows_both hmessage hpinpad _ _

/-! ## The garbling worker -/

namespace OcwGarble

/-- What is asked for one of the two circuits, if its strings are UTF-8. -/
def stripAsks (api : Api) (env : OcwEnv A) (message : Option GarbleAndStripIpfsRequest) :
    ℕ → Dialogue (HttpRequest × Exchange) Error GarbleAndStripIpfsReply :=
  .needing message (asks api.base64Decode env api.garbleAndStripIpfsRequest
    api.garbleAndStripIpfsReply uriRootVar apiEndpointGarbleStripUrl .httpFetchingError)

theorem follows_stripOne (api : Api) (env : OcwEnv A) (skcdCid txMsg digits : Bytes) :
    Follows OcwState.log (callGrpcGarbleAndStripOne api env skcdCid txMsg digits)
      (stripAsks api env (stripRequest skcdCid txMsg digits)) := by
  rw [callGrpcGarbleAndStripOne_eq]
  rcases stripRequest skcdCid txMsg digits with _ | message
  · exact follows_trap _
  · exact follows_callGrpc _ _ _ _ _ _ _ _

/-- The fields of a strip job. -/
structure StripFields where
  messageCid : Bytes
  pinpadCid : Bytes
  txMsg : Bytes
  messageDigits : Bytes
  pinpadDigits : Bytes

/-- The fields of a strip job, when they are there. -/
def IndexingData.stripFields (d : IndexingData) : Option StripFields := do
  let messageCid ← d.messageSkcdIpfsCid
  let pinpadCid ← d.pinpadSkcdIpfsCid
  let txMsg ← d.txMsg
  let messageDigits ← d.messageDigits
  let pinpadDigits ← d.pinpadDigits
  some ⟨messageCid, pinpadCid, txMsg, messageDigits, pinpadDigits⟩

/-- What is asked for both circuits: the message with its text, and then the pinpad. -/
def stripDialogue (api : Api) (env : OcwEnv A) (f : StripFields) (n : ℕ) :
    Dialogue (HttpRequest × Exchange) Error GrpcCallReplyKind :=
  let message := stripAsks api env (stripRequest f.messageCid f.txMsg f.messageDigits)
  let pinpad := stripAsks api env (stripRequest f.pinpadCid [] f.pinpadDigits)
  (Dialogue.both message pinpad n).answered
    (.map fun r => .garbleAndStrip r.1 f.messageDigits r.2 f.pinpadDigits)

/-- What is asked for the circuit of a standard job. -/
def standardDialogue (api : Api) (env : OcwEnv A) (skcdCid : Str) (n : ℕ) :
    Dialogue (HttpRequest × Exchange) Error GrpcCallReplyKind :=
  (asks api.base64Decode env api.garbleIpfsRequest api.garbleIpfsReply uriRootVar
    apiEndpointGarbleUrl .httpFetchingError ⟨skcdCid⟩ n).answered (.map .garbleStandard)

/-- What the call of a job asks.  A field that is missing, or that is not UTF-8, stops the
worker. -/
def dialogue (api : Api) (env : OcwEnv A) (d : IndexingData) :
    ℕ → Dialogue (HttpRequest × Exchange) Error GrpcCallReplyKind :=
  match d.grpcKind with
  | .garbleStandard => .needing (d.skcdIpfsCid.bind fromUtf8) (standardDialogue api env)
  | .garbleAndStrip => .needing d.stripFields (stripDialogue api env)

/-- **The call of a job** has this dialogue. -/
theorem follows_callGrpcOf (api : Api) (env : OcwEnv A) (d : IndexingData) :
    Follows OcwState.log (callGrpcOf api env d) (dialogue api env d) := by
  unfold callGrpcOf dialogue IndexingData.stripFields
  cases d.grpcKind with
  | garbleStandard =>
    rcases d.skcdIpfsCid with _ | skcdCid
    · exact follows_trap _
    · exact follows_needing _ fun _ => (follows_callGrpc _ _ _ _ _ _ _ _).map _
  | garbleAndStrip =>
    rcases d.messageSkcdIpfsCid with _ | messageCid
    · exact follows_trap _
    rcases d.pinpadSkcdIpfsCid with _ | pinpadCid
    · exact follows_trap _
    rcases d.txMsg with _ | txMsg
    · exact follows_trap _
    rcases d.messageDigits with _ | messageDigits
    · exact follows_trap _
    rcases d.pinpadDigits with _ | pinpadDigits
    · exact follows_trap _
    exact (follows_callBoth (follows_stripOne _ _ _ _ _) (follows_stripOne _ _ _ _ _)).map _

end OcwGarble

/-! ## The circuits worker -/

namespace OcwCircuits

/-- What is asked for one of the two display circuits. -/
def displayAsks (api : Api) (env : OcwEnv A) (message : SkcdDisplayRequest) :
    ℕ → Dialogue (HttpRequest × Exchange) Error SkcdDisplayReply :=
  asks api.base64Decode env api.skcdDisplayRequest api.skcdDisplayReply uriRootVarDisplay
    apiEndpointDisplayUrl .httpFetchingError message

/-- What is asked for the circuit of a generic job. -/
def genericDialogue (api : Api) (env : OcwEnv A) (verilogCid : Str) (n : ℕ) :
    Dialogue (HttpRequest × Exchange) Error GrpcCallReplyKind :=
  (asks api.base64Decode env api.skcdGenericFromIpfsRequest api.skcdGenericFromIpfsReply
    uriRootVarGeneric apiEndpointGenericUrl .httpFetchingError ⟨verilogCid⟩ n).answered
      (.map .generic)

/-- What is asked for both display circuits: the message, and then the pinpad. -/
def displayDialogue (api : Api) (env : OcwEnv A) (n : ℕ) :
    Dialogue (HttpRequest × Exchange) Error GrpcCallReplyKind :=
  (Dialogue.both (displayAsks api env messageDisplayRequest)
    (displayAsks api env pinpadDisplayRequest) n).answered (.map fun r => .display r.1 r.2)

/-- What the call of a job asks. -/
def dialogue (api : Api) (env : OcwEnv A) (d : IndexingData) :
    ℕ → Dialogue (HttpRequest × Exchange) Error GrpcCallReplyKind :=
  match d.grpcKind with
  | .generic => .needing (d.verilogIpfsHash.bind fromUtf8) (genericDialogue api env)
  | .display => displayDialogue api env

/-- **The call of a job** has this dialogue. -/
theorem follows_callGrpcOf (api : Api) (env : OcwEnv A) (d : IndexingData) :
    Follows OcwState.log (callGrpcOf api env d) (dialogue api env d) := by
  unfold callGrpcOf dialogue
  cases d.grpcKind with
  | generic =>
    rcases d.verilogIpfsHash with _ | verilogCid
    · exact follows_trap _
    · exact follows_needing _ fun _ => (follows_callGrpc _ _ _ _ _ _ _ _).map _
  | display =>
    have hone : ∀ isMessage, Follows OcwState.log (callGrpcDisplayOne api env isMessage) _ :=
      fun _ => follows_callGrpc _ _ _ _ _ _ _ _
    exact (follows_callBoth (hone true) (hone false)).map _

end OcwCircuits

end OffchainWorkerDemo
