/-
# The worker of the circuits pallet

`process_if_needed` takes the job of the slot, calls the circuits server once for a
generic circuit or twice for the display circuits, and submits the result as a
callback signed by every account of the keystore.
-/
import OffchainWorkerDemo.GrpcWeb

namespace OffchainWorkerDemo

namespace OcwCircuits

variable {A ε : Type}

/-! ## Messages -/

/-- `SkcdGenericFromIpfsRequest` -/
structure SkcdGenericFromIpfsRequest where
  verilogCid : Str

/-- `SkcdGenericFromIpfsReply` -/
structure SkcdGenericFromIpfsReply where
  skcdCid : Str

/-- `SkcdDisplayRequest` -/
structure SkcdDisplayRequest where
  width : UInt32
  height : UInt32
  digitsBboxes : List Float32

/-- `SkcdServerMetadata` -/
structure SkcdServerMetadata where
  nbDigits : UInt32

/-- `SkcdDisplayReply` -/
structure SkcdDisplayReply where
  skcdCid : Str
  serverMetadata : Option SkcdServerMetadata

/-- The generated messages of the circuits server's API, and base64. -/
structure Api where
  base64Decode : Bytes → Option Bytes
  skcdGenericFromIpfsRequest : ProstMessage SkcdGenericFromIpfsRequest
  skcdGenericFromIpfsReply : ProstMessage SkcdGenericFromIpfsReply
  skcdDisplayRequest : ProstMessage SkcdDisplayRequest
  skcdDisplayReply : ProstMessage SkcdDisplayReply

/-- The messages of the generic circuits on the wire when the cid is shorter than 128 bytes;
the display circuits are not served. -/
def shortApi : Api where
  base64Decode := fun _ => none
  skcdGenericFromIpfsRequest :=
    { encode := fun m => protoField 1 (utf8Bytes m.verilogCid)
      decode := fun bs => do
        let (cid, _) ← readProtoString 1 bs
        some ⟨cid⟩ }
  skcdGenericFromIpfsReply :=
    { encode := fun m => protoField 1 (utf8Bytes m.skcdCid)
      decode := fun bs => do
        let (cid, _) ← readProtoString 1 bs
        some ⟨cid⟩ }
  skcdDisplayRequest := ⟨fun _ => [], fun _ => none⟩
  skcdDisplayReply := ⟨fun _ => [], fun _ => none⟩

/-- `GrpcCallReplyKind` -/
inductive GrpcCallReplyKind : Type where
  | generic (reply : SkcdGenericFromIpfsReply)
  | display (messageReply pinpadReply : SkcdDisplayReply)

/-! ## Calls to the server -/

/-- The variable `call_grpc_generic` reads the URI root from. -/
def uriRootVarGeneric : String := "aaa"

/-- The variable `call_grpc_display` reads the URI root from. -/
def uriRootVarDisplay : String := "INTERSTELLAR_URI_ROOT_API_CIRCUITS"

/-- `API_ENDPOINT_GENERIC_URL` -/
def apiEndpointGenericUrl : String :=
  "/interstellarpbapicircuits.SkcdApi/GenerateSkcdGenericFromIPFS"

/-- `API_ENDPOINT_DISPLAY_URL` -/
def apiEndpointDisplayUrl : String := "/interstellarpbapicircuits.SkcdApi/GenerateSkcdDisplay"

/-- The endpoint of a kind. -/
def GrpcCallKind.endpoint : GrpcCallKind → String
  | .generic => apiEndpointGenericUrl
  | .display => apiEndpointDisplayUrl

/-- `call_grpc_generic` -/
def callGrpcGeneric (api : Api) (env : OcwEnv A) (verilogCid : Bytes) :
    Worker A Error GrpcCallReplyKind := do
  let verilogCidStr ← Exec.expect "call_grpc_generic from_utf8" (fromUtf8 verilogCid)
  let resp ← callGrpc api.base64Decode env api.skcdGenericFromIpfsRequest
    api.skcdGenericFromIpfsReply uriRootVarGeneric apiEndpointGenericUrl .httpFetchingError
    { verilogCid := verilogCidStr }
  pure (.generic resp)

/-- The request for the message: two digits. -/
def messageDisplayRequest : SkcdDisplayRequest where
  width := 1280 / 2
  height := 720 / 2
  digitsBboxes := [0.25, 0.1, 0.45, 0.9, 0.55, 0.1, 0.75, 0.9]

/-- The request for the pinpad: ten digits side by side. -/
def pinpadDisplayRequest : SkcdDisplayRequest where
  width := 590
  height := 50
  digitsBboxes := (List.range 10).flatMap fun i =>
    [0.1 * Float32.ofNat i, 0.0, 0.1 * Float32.ofNat (i + 1), 1.0]

/-- `call_grpc_display_one` -/
def callGrpcDisplayOne (api : Api) (env : OcwEnv A) (isMessage : Bool) :
    Worker A Error SkcdDisplayReply :=
  callGrpc api.base64Decode env api.skcdDisplayRequest api.skcdDisplayReply uriRootVarDisplay
    apiEndpointDisplayUrl .httpFetchingError
    (if isMessage then messageDisplayRequest else pinpadDisplayRequest)

/-- `call_grpc_display` -/
def callGrpcDisplay (api : Api) (env : OcwEnv A) : Worker A Error GrpcCallReplyKind := do
  let (messageReply, pinpadReply) ← callBoth
    (callGrpcDisplayOne api env true) (callGrpcDisplayOne api env false)
  pure (.display messageReply pinpadReply)

/-! ## Processing a job -/

/-- The `match` of `process_if_needed` on the kind of the job. -/
def callGrpcOf (api : Api) (env : OcwEnv A) (indexingData : IndexingData) :
    Worker A Error GrpcCallReplyKind :=
  match indexingData.grpcKind with
  | .generic => do
    let verilogCid ← Exec.expect "missing verilog_cid" indexingData.verilogIpfsHash
    callGrpcGeneric api env verilogCid
  | .display => callGrpcDisplay api env

/-- The callback that publishes a reply; a display reply without metadata is a panic. -/
def callbackOf : GrpcCallReplyKind → Worker A ε Call
  | .generic reply => pure (.callbackNewSkcdSigned (utf8Bytes reply.skcdCid))
  | .display messageReply pinpadReply => do
    let messageMetadata ← unwrap messageReply.serverMetadata
    let pinpadMetadata ← unwrap pinpadReply.serverMetadata
    pure (.callbackNewDisplayCircuitsPackageSigned (utf8Bytes messageReply.skcdCid)
      messageMetadata.nbDigits (utf8Bytes pinpadReply.skcdCid) pinpadMetadata.nbDigits)

/-- `finalize_grpc_call` -/
def finalizeGrpcCall (env : OcwEnv A) (resultGrpcCall : Except Error GrpcCallReplyKind) :
    Worker A ε Unit :=
  match resultGrpcCall with
  | .ok resultReply => sendSignedTransaction env (callbackOf resultReply)
  | .error _ => pure ()

/-- The off-chain record of the pallet; its keys are `derived_key` and `LOCK_KEY`. -/
def slot : JobSlot IndexingData where
  codec := IndexingData.codec
  empty := default
  blockNumber := IndexingData.blockNumber
  key := jobKey
  lockKey := utf8Bytes "ocw-circuits::lock".toList
  fits_empty := IndexingData.fits_iff.mpr (by simp [default])
  blockNumber_empty := rfl

/-- What `process_if_needed` does with a job under the lock. -/
def processJob (api : Api) (env : OcwEnv A) (indexingData : IndexingData) : Worker A ε Unit := do
  let resultGrpcCall ← Exec.attempt (callGrpcOf api env indexingData)
  finalizeGrpcCall env resultGrpcCall

/-- `process_if_needed` -/
def processIfNeeded (api : Api) (env : OcwEnv A) : Worker A Error Unit :=
  processIfNeededWith env slot (processJob api env)

/-! ## What it does -/

/-- What a job asks of the server: the message of a generic circuit, or the two fixed
messages of the display circuits. -/
inductive Requests : Type where
  | generic (message : SkcdGenericFromIpfsRequest)
  | display

/-- What a job asks, when its cid is there and UTF-8. -/
def requestsOf (d : IndexingData) : Option Requests :=
  match d.grpcKind with
  | .generic => do
    let verilogCid ← d.verilogIpfsHash
    let verilogCidStr ← fromUtf8 verilogCid
    some (.generic ⟨verilogCidStr⟩)
  | .display => some .display

/-- The variable the URI root of a call is read from. -/
def Requests.uriRootVar : Requests → String
  | .generic _ => uriRootVarGeneric
  | .display => uriRootVarDisplay

/-- The call that posts the message of a generic circuit. -/
def genericCall (api : Api) (env : OcwEnv A) (message : SkcdGenericFromIpfsRequest) :
    Worker A Error SkcdGenericFromIpfsReply :=
  callGrpc api.base64Decode env api.skcdGenericFromIpfsRequest api.skcdGenericFromIpfsReply
    uriRootVarGeneric apiEndpointGenericUrl .httpFetchingError message

/-- Post the messages of a job and return the replies. -/
def Requests.call (api : Api) (env : OcwEnv A) : Requests → Worker A Error GrpcCallReplyKind
  | .generic message => do
    let reply ← genericCall api env message
    pure (.generic reply)
  | .display => callGrpcDisplay api env

/-- **The call of a job**: its messages are posted and the replies returned. -/
theorem callGrpcOf_of_requests {api : Api} {env : OcwEnv A} {d : IndexingData} {r : Requests}
    (h : requestsOf d = some r) : callGrpcOf api env d = r.call api env := by
  unfold requestsOf at h
  unfold callGrpcOf
  rcases hkind : d.grpcKind with _ | _
  · simp only [hkind, Option.bind_eq_bind, Option.bind_eq_some_iff, Option.some_inj] at h
    obtain ⟨verilogCid, hcid, verilogCidStr, hstr, rfl⟩ := h
    simp only [hcid, callGrpcGeneric, hstr, Exec.expect_some_bind]
    rfl
  · simp only [hkind, Option.some_inj] at h
    subst h
    rfl

/-- A job that names no message stops the worker. -/
theorem callGrpcOf_of_none (api : Api) (env : OcwEnv A) {d : IndexingData}
    (h : requestsOf d = none) (s : OcwState A) : ∃ msg s', callGrpcOf api env d s = .trap msg s' := by
  unfold requestsOf at h
  unfold callGrpcOf
  rcases hkind : d.grpcKind with _ | _
  · simp only [hkind, Option.bind_eq_bind] at h ⊢
    rcases hcid : d.verilogIpfsHash with _ | verilogCid
    · exact ⟨_, _, rfl⟩
    · simp only [hcid, Option.bind_some] at h
      rcases hstr : fromUtf8 verilogCid with _ | verilogCidStr
      · simp only [Exec.expect_some_bind, callGrpcGeneric, hstr]
        exact ⟨_, _, rfl⟩
      · rw [hstr] at h
        cases h
  · rw [hkind] at h
    cases h

/-- The request that posts the message of a generic circuit. -/
def genericPost (api : Api) (root : String) (message : SkcdGenericFromIpfsRequest) : HttpRequest :=
  callRequest api.skcdGenericFromIpfsRequest apiEndpointGenericUrl message root

/-- **A generic job** ends as its only exchange does. -/
theorem call_generic_cases {api : Api} {env : OcwEnv A} {root : String}
    (hroot : env.root uriRootVarGeneric = some root) (message : SkcdGenericFromIpfsRequest)
    (s : OcwState A) :
    let ended := (Requests.generic message).call api env s
    let sent := s.send env (genericPost api root message)
    ((env.http s.posted.length).Fails ∧ ended = .err .httpFetchingError sent) ∨
    (∃ reply, AcceptedReply api.base64Decode api.skcdGenericFromIpfsReply
      (env.http s.posted.length) reply ∧ ended = .ok (.generic reply) sent) ∨
    (¬ (env.http s.posted.length).Fails ∧ ∃ msg, ended = .trap msg sent) :=
  callGrpc_map_cases _ _ _ _ _ _ hroot GrpcCallReplyKind.generic

theorem call_generic_of_accepted {api : Api} {env : OcwEnv A} {root : String}
    (hroot : env.root uriRootVarGeneric = some root) (message : SkcdGenericFromIpfsRequest)
    {s : OcwState A} {reply : SkcdGenericFromIpfsReply}
    (h : AcceptedReply api.base64Decode api.skcdGenericFromIpfsReply (env.http s.posted.length)
      reply) :
    (Requests.generic message).call api env s =
      .ok (.generic reply) (s.send env (genericPost api root message)) := by
  have hcall : genericCall api env message s =
      .ok reply (s.send env (genericPost api root message)) :=
    callGrpc_of_accepted _ _ _ _ _ _ hroot h
  simp only [Requests.call, Exec.bind_apply, hcall, Ended.andThen_ok, Exec.pure_apply]

/-- The request that posts a message for the display circuits. -/
def displayPost (api : Api) (root : String) (message : SkcdDisplayRequest) : HttpRequest :=
  callRequest api.skcdDisplayRequest apiEndpointDisplayUrl message root

/-- **What is posted for a display circuit**: its message in one uncompressed data frame. -/
theorem displayPost_eq (api : Api) (root : String) (message : SkcdDisplayRequest) :
    displayPost api root message =
      { url := root ++ "/interstellarpbapicircuits.SkcdApi/GenerateSkcdDisplay"
        headers := [("Content-Type", "application/grpc-web"), ("X-Grpc-Web", "1")]
        body := 0 :: (beU32 (api.skcdDisplayRequest.encode message).length ++
          api.skcdDisplayRequest.encode message) } :=
  callRequest_eq _ _ _ _

/-- **Both display circuits are answered**, the message first. -/
theorem call_display_of_accepted {api : Api} {env : OcwEnv A} {root : String}
    (hroot : env.root uriRootVarDisplay = some root) {messageReply pinpadReply : SkcdDisplayReply}
    {s : OcwState A}
    (hmessage : AcceptedReply api.base64Decode api.skcdDisplayReply (env.http s.posted.length)
      messageReply)
    (hpinpad : AcceptedReply api.base64Decode api.skcdDisplayReply (env.http (s.posted.length + 1))
      pinpadReply) :
    Requests.display.call api env s = .ok (.display messageReply pinpadReply)
      ((s.send env (displayPost api root messageDisplayRequest)).send env
        (displayPost api root pinpadDisplayRequest)) := by
  have hfirst : callGrpcDisplayOne api env true s =
      .ok messageReply (s.send env (displayPost api root messageDisplayRequest)) :=
    callGrpc_of_accepted _ _ _ _ _ _ hroot hmessage
  have hsecond : callGrpcDisplayOne api env false
      (s.send env (displayPost api root messageDisplayRequest)) =
      .ok pinpadReply ((s.send env (displayPost api root messageDisplayRequest)).send env
        (displayPost api root pinpadDisplayRequest)) := by
    -- the second exchange is the one after the first
    refine callGrpc_of_accepted _ _ _ _ _ _ hroot ?_
    rw [OcwState.length_posted_send]
    exact hpinpad
  have hboth : (callBoth (callGrpcDisplayOne api env true) (callGrpcDisplayOne api env false) :
      Worker A Error _) s = .ok (messageReply, pinpadReply) _ :=
    callBoth_eq_ok_iff.mpr ⟨_, hfirst, hsecond⟩
  simp only [Requests.call, callGrpcDisplay, Exec.bind_apply, hboth, Ended.andThen_ok,
    Exec.pure_apply]

/-- Both circuits are asked for without an error of their own. -/
theorem call_display_ne_err (api : Api) (env : OcwEnv A) (s t : OcwState A) (e : Error) :
    Requests.display.call api env s ≠ .err e t := by
  simp only [Requests.call, callGrpcDisplay, Exec.bind_apply]
  rcases hboth : (callBoth (callGrpcDisplayOne api env true) (callGrpcDisplayOne api env false) :
    Worker A Error _) s with r | e' | msg
  · simp
  · exact absurd hboth (callBoth_ne_err _ _ _ _ _)
  · simp

/-- Without its URI root the worker stops at the first call. -/
theorem call_unconfigured (api : Api) {env : OcwEnv A} {r : Requests}
    (h : env.root r.uriRootVar = none) (s : OcwState A) :
    ∃ msg s', r.call api env s = .trap msg s' := by
  rcases r with message | _
  · have hcall : genericCall api env message s = .trap unwrapMsg s :=
      callGrpc_unconfigured _ _ _ _ _ _ _ _ h s
    refine ⟨unwrapMsg, s, ?_⟩
    simp only [Requests.call, Exec.bind_apply, hcall, Ended.andThen_trap]
  · have htrap : ∀ t, ∃ msg t', callGrpcDisplayOne api env true t = .trap msg t' :=
      fun t => ⟨_, _, callGrpc_unconfigured _ _ _ _ _ _ _ _ h t⟩
    have hboth : ∃ msg s', (callBoth (callGrpcDisplayOne api env true)
        (callGrpcDisplayOne api env false) : Worker A Error _) s = .trap msg s' :=
      callBoth_trap s (Or.inl htrap)
    obtain ⟨msg, s', hboth⟩ := hboth
    refine ⟨msg, s', ?_⟩
    simp only [Requests.call, callGrpcDisplay, Exec.bind_apply, hboth, Ended.andThen_trap]

/-- A display reply with its metadata. -/
theorem callbackOf_display {messageReply pinpadReply : SkcdDisplayReply}
    {messageMetadata pinpadMetadata : SkcdServerMetadata}
    (hm : messageReply.serverMetadata = some messageMetadata)
    (hp : pinpadReply.serverMetadata = some pinpadMetadata) (s : OcwState A) :
    (callbackOf (.display messageReply pinpadReply) : Worker A ε Call) s =
      .ok (.callbackNewDisplayCircuitsPackageSigned (utf8Bytes messageReply.skcdCid)
        messageMetadata.nbDigits (utf8Bytes pinpadReply.skcdCid) pinpadMetadata.nbDigits) s := by
  simp only [callbackOf, hm, hp]
  rfl

/-- A display reply without one of its metadata cannot be published. -/
theorem callbackOf_display_trap {messageReply pinpadReply : SkcdDisplayReply}
    (h : ¬ (messageReply.serverMetadata.isSome ∧ pinpadReply.serverMetadata.isSome))
    (s : OcwState A) :
    (callbackOf (.display messageReply pinpadReply) : Worker A ε Call) s = .trap unwrapMsg s := by
  simp only [callbackOf]
  rcases hm : messageReply.serverMetadata with _ | messageMetadata
  · rfl
  · rcases hp : pinpadReply.serverMetadata with _ | pinpadMetadata
    · rfl
    · rw [hm, hp] at h
      exact absurd ⟨rfl, rfl⟩ h

/-- **A display reply is published** when both metadata are there, or nobody signs it. -/
theorem finalizeGrpcCall_display_iff {env : OcwEnv A} {messageReply pinpadReply : SkcdDisplayReply}
    {s : OcwState A} :
    (∃ s', (finalizeGrpcCall env (.ok (.display messageReply pinpadReply)) : Worker A ε Unit) s =
      .ok () s') ↔
      env.keystore = [] ∨
        (messageReply.serverMetadata.isSome ∧ pinpadReply.serverMetadata.isSome) := by
  by_cases h : messageReply.serverMetadata.isSome ∧ pinpadReply.serverMetadata.isSome
  · obtain ⟨messageMetadata, hm⟩ := Option.isSome_iff_exists.mp h.1
    obtain ⟨pinpadMetadata, hp⟩ := Option.isSome_iff_exists.mp h.2
    exact iff_of_true ⟨_, sendSignedTransaction_of_ok env (callbackOf_display hm hp) s⟩ (Or.inr h)
  · have hfin : (finalizeGrpcCall env (.ok (.display messageReply pinpadReply)) : Worker A ε Unit) s =
        if env.keystore = [] then .ok () s else .trap unwrapMsg s :=
      sendSignedTransaction_of_trap env (callbackOf_display_trap h s)
    rw [hfin]
    by_cases hkeys : env.keystore = []
    · exact iff_of_true ⟨s, if_pos hkeys⟩ (Or.inl hkeys)
    · refine iff_of_false ?_ ?_
      · rintro ⟨s', hs'⟩
        rw [if_neg hkeys] at hs'
        cases hs'
      · rintro (hnil | hsome)
        · exact hkeys hnil
        · exact h hsome

/-! ## What it leaves alone -/

open OcwState

section Within

variable {R : OcwState A → OcwState A → Prop} (hrefl : ∀ s, R s s)
  (htrans : ∀ s t u, R s t → R t u → R s u) {api : Api} {env : OcwEnv A}

include hrefl htrans

/-- **The call of a job** does what calls to the endpoint of its kind do. -/
theorem within_callGrpcOf_of {d : IndexingData}
    (hcalls : CallsWithin Error R api.base64Decode env d.grpcKind.endpoint) :
    Exec.Within R (callGrpcOf api env d) := by
  unfold callGrpcOf
  revert hcalls
  cases d.grpcKind with
  | generic =>
    intro hcalls
    refine Exec.within_bind htrans (Exec.within_expect hrefl _ _) fun _ => ?_
    refine Exec.within_bind htrans (Exec.within_expect hrefl _ _) fun _ => ?_
    refine Exec.within_bind htrans (hcalls _ _ _ _ _ _ _) fun _ => ?_
    exact Exec.within_pure hrefl _
  | display =>
    intro hcalls
    have hone : ∀ isMessage, Exec.Within R (callGrpcDisplayOne api env isMessage) :=
      fun _ => hcalls _ _ _ _ _ _ _
    refine Exec.within_bind htrans (within_callBoth hrefl htrans (hone _) (hone _)) fun _ => ?_
    exact Exec.within_pure hrefl _

theorem within_finalizeGrpcCall_of (hsubmit : ∀ who c s, R s (s.submit who c)) (env : OcwEnv A)
    (result : Except Error GrpcCallReplyKind) :
    Exec.Within R (finalizeGrpcCall env result : Worker A ε Unit) := by
  cases result with
  | ok reply =>
    refine within_sendSignedTransaction hrefl htrans hsubmit env ?_
    cases reply with
    | generic reply => exact Exec.within_pure hrefl _
    | display messageReply pinpadReply =>
      refine Exec.within_bind htrans (Exec.within_expect hrefl _ _) fun _ => ?_
      refine Exec.within_bind htrans (Exec.within_expect hrefl _ _) fun _ => ?_
      exact Exec.within_pure hrefl _
  | error e => exact Exec.within_pure hrefl _

/-- **Processing a job** does what calls to the endpoint of its kind and submissions do. -/
theorem within_processJob_of (hsubmit : ∀ who c s, R s (s.submit who c)) {d : IndexingData}
    (hcalls : CallsWithin Error R api.base64Decode env d.grpcKind.endpoint) :
    Exec.Within R (processJob api env d : Worker A ε Unit) := by
  have hcall := within_callGrpcOf_of hrefl htrans hcalls
  refine Exec.within_bind htrans (Exec.within_attempt hcall) fun result => ?_
  exact within_finalizeGrpcCall_of hrefl htrans hsubmit env result

end Within

theorem within_callGrpcOf (api : Api) (env : OcwEnv A) (d : IndexingData) :
    Exec.Within Sends (callGrpcOf api env d) :=
  within_callGrpcOf_of Sends.refl Sends.trans (callsWithin_sends _ _ _)

theorem within_finalizeGrpcCall (env : OcwEnv A) (result : Except Error GrpcCallReplyKind) :
    Exec.Within Extends (finalizeGrpcCall env result : Worker A ε Unit) :=
  within_finalizeGrpcCall_of Extends.refl Extends.trans extends_submit env result

/-- **Processing a job** posts requests and submits transactions, and touches neither the
slot nor the lock. -/
theorem within_processJob (api : Api) (env : OcwEnv A) (d : IndexingData) :
    Exec.Within Extends (processJob api env d : Worker A ε Unit) :=
  within_processJob_of Extends.refl Extends.trans extends_submit (callsWithin_extends _ _ _)

end OcwCircuits

end OffchainWorkerDemo
