/-
# The worker of the garbling pallet

`process_if_needed` takes the job of the slot, calls the garbling server once for a
standard circuit or twice for the message and the pinpad, and submits the result
as a callback signed by every account of the keystore.
-/
import OffchainWorkerDemo.GrpcWeb

namespace OffchainWorkerDemo

namespace OcwGarble

variable {A ε : Type}

/-! ## Messages -/

/-- `GarbleIpfsRequest` -/
structure GarbleIpfsRequest where
  skcdCid : Str

/-- `GarbleIpfsReply` -/
structure GarbleIpfsReply where
  pgarbledCid : Str

/-- `CircuitServerMetadata` -/
structure CircuitServerMetadata where
  digits : Bytes

/-- `GarbleAndStripIpfsRequest` -/
structure GarbleAndStripIpfsRequest where
  skcdCid : Str
  txMsg : Str
  serverMetadata : Option CircuitServerMetadata

/-- `GarbleAndStripIpfsReply` -/
structure GarbleAndStripIpfsReply where
  pgarbledCid : Str
  packmsgCid : Str

/-- The generated messages of the garbling server's API, and base64. -/
structure Api where
  base64Decode : Bytes → Option Bytes
  garbleIpfsRequest : ProstMessage GarbleIpfsRequest
  garbleIpfsReply : ProstMessage GarbleIpfsReply
  garbleAndStripIpfsRequest : ProstMessage GarbleAndStripIpfsRequest
  garbleAndStripIpfsReply : ProstMessage GarbleAndStripIpfsReply

/-- The messages on the wire when every field is shorter than 128 bytes, with the fields
numbered in their order; the base64 text type is not served. -/
def shortApi : Api where
  base64Decode := fun _ => none
  garbleIpfsRequest :=
    { encode := fun m => protoField 1 (utf8Bytes m.skcdCid)
      decode := fun bs => do
        let (cid, _) ← readProtoString 1 bs
        some ⟨cid⟩ }
  garbleIpfsReply :=
    { encode := fun m => protoField 1 (utf8Bytes m.pgarbledCid)
      decode := fun bs => do
        let (cid, _) ← readProtoString 1 bs
        some ⟨cid⟩ }
  garbleAndStripIpfsRequest :=
    { encode := fun m => protoField 1 (utf8Bytes m.skcdCid) ++ protoField 2 (utf8Bytes m.txMsg) ++
        match m.serverMetadata with
        | some metadata => protoField 3 (protoField 1 metadata.digits)
        | none => []
      decode := fun bs => do
        let (cid, rest) ← readProtoString 1 bs
        let (txMsg, rest) ← readProtoString 2 rest
        let (metadata, _) ← readProtoField 3 rest
        let (digits, _) ← readProtoField 1 metadata
        some ⟨cid, txMsg, some ⟨digits⟩⟩ }
  garbleAndStripIpfsReply :=
    { encode := fun m =>
        protoField 1 (utf8Bytes m.pgarbledCid) ++ protoField 2 (utf8Bytes m.packmsgCid)
      decode := fun bs => do
        let (pgarbledCid, rest) ← readProtoString 1 bs
        let (packmsgCid, _) ← readProtoString 2 rest
        some ⟨pgarbledCid, packmsgCid⟩ }

/-- `GrpcCallReplyKind` -/
inductive GrpcCallReplyKind : Type where
  | garbleStandard (reply : GarbleIpfsReply)
  | garbleAndStrip (messageReply : GarbleAndStripIpfsReply) (messageDigits : Bytes)
      (pinpadReply : GarbleAndStripIpfsReply) (pinpadDigits : Bytes)

/-- `pallet_ocw_garble::Error`, the variant in use. -/
inductive Error : Type where
  | httpFetchingError
  deriving DecidableEq

/-! ## Calls to the server -/

/-- The variable that holds the URI root of the garbling server. -/
def uriRootVar : String := "INTERSTELLAR_URI_ROOT_API_GARBLE"

/-- `API_ENDPOINT_GARBLE_URL` -/
def apiEndpointGarbleUrl : String := "/interstellarpbapigarble.GarbleApi/GarbleIpfs"

/-- `API_ENDPOINT_GARBLE_STRIP_URL` -/
def apiEndpointGarbleStripUrl : String := "/interstellarpbapigarble.GarbleApi/GarbleAndStripIpfs"

/-- The endpoint of a kind. -/
def GrpcCallKind.endpoint : GrpcCallKind → String
  | .garbleStandard => apiEndpointGarbleUrl
  | .garbleAndStrip => apiEndpointGarbleStripUrl

/-- `call_grpc_garble` -/
def callGrpcGarble (api : Api) (env : OcwEnv A) (skcdCid : Bytes) :
    Worker A Error GrpcCallReplyKind := do
  let skcdCidStr ← Exec.expect "call_grpc_garble from_utf8" (fromUtf8 skcdCid)
  let resp ← callGrpc api.base64Decode env api.garbleIpfsRequest api.garbleIpfsReply
    uriRootVar apiEndpointGarbleUrl .httpFetchingError { skcdCid := skcdCidStr }
  pure (.garbleStandard resp)

/-- `call_grpc_garble_and_strip_one` -/
def callGrpcGarbleAndStripOne (api : Api) (env : OcwEnv A) (skcdCid txMsg digits : Bytes) :
    Worker A Error GarbleAndStripIpfsReply := do
  let skcdCidStr ← Exec.expect "call_grpc_garble_and_strip from_utf8" (fromUtf8 skcdCid)
  let txMsgStr ← Exec.expect "call_grpc_garble_and_strip from_utf8" (fromUtf8 txMsg)
  callGrpc api.base64Decode env api.garbleAndStripIpfsRequest api.garbleAndStripIpfsReply
    uriRootVar apiEndpointGarbleStripUrl .httpFetchingError
    { skcdCid := skcdCidStr, txMsg := txMsgStr, serverMetadata := some { digits := digits } }

/-- `call_grpc_garble_and_strip` -/
def callGrpcGarbleAndStrip (api : Api) (env : OcwEnv A)
    (messageSkcdIpfsCid pinpadSkcdIpfsCid txMsg messageDigits pinpadDigits : Bytes) :
    Worker A Error GrpcCallReplyKind := do
  let (messageReply, pinpadReply) ← callBoth
    (callGrpcGarbleAndStripOne api env messageSkcdIpfsCid txMsg messageDigits)
    (callGrpcGarbleAndStripOne api env pinpadSkcdIpfsCid [] pinpadDigits)
  pure (.garbleAndStrip messageReply messageDigits pinpadReply pinpadDigits)

/-! ## Processing a job -/

/-- The `match` of `process_if_needed` on the kind of the job. -/
def callGrpcOf (api : Api) (env : OcwEnv A) (indexingData : IndexingData) :
    Worker A Error GrpcCallReplyKind :=
  match indexingData.grpcKind with
  | .garbleStandard => do
    let skcdIpfsCid ← Exec.expect "missing skcd_ipfs_cid" indexingData.skcdIpfsCid
    callGrpcGarble api env skcdIpfsCid
  | .garbleAndStrip => do
    let messageSkcdIpfsCid ←
      Exec.expect "missing message_skcd_ipfs_cid" indexingData.messageSkcdIpfsCid
    let pinpadSkcdIpfsCid ←
      Exec.expect "missing pinpad_skcd_ipfs_cid" indexingData.pinpadSkcdIpfsCid
    let txMsg ← Exec.expect "missing tx_msg" indexingData.txMsg
    let messageDigits ← Exec.expect "missing message_digits" indexingData.messageDigits
    let pinpadDigits ← Exec.expect "missing pinpad_digits" indexingData.pinpadDigits
    callGrpcGarbleAndStrip api env messageSkcdIpfsCid pinpadSkcdIpfsCid txMsg messageDigits
      pinpadDigits

/-- The callback that publishes a reply. -/
def callbackOf : GrpcCallReplyKind → Call
  | .garbleStandard reply => .callbackNewGarbledSigned (utf8Bytes reply.pgarbledCid)
  | .garbleAndStrip messageReply messageDigits pinpadReply pinpadDigits =>
    .callbackNewGarbledAndStripSigned (utf8Bytes messageReply.pgarbledCid)
      (utf8Bytes messageReply.packmsgCid) messageDigits (utf8Bytes pinpadReply.pgarbledCid)
      (utf8Bytes pinpadReply.packmsgCid) pinpadDigits

/-- `finalize_grpc_call` -/
def finalizeGrpcCall (env : OcwEnv A) (resultGrpcCall : Except Error GrpcCallReplyKind) :
    Worker A ε Unit :=
  match resultGrpcCall with
  | .ok resultReply => sendSignedTransaction env (pure (callbackOf resultReply))
  | .error _ => pure ()

/-- The off-chain record of the pallet; its keys are `derived_key` and `LOCK_KEY`. -/
def slot : JobSlot IndexingData where
  codec := IndexingData.codec
  empty := default
  blockNumber := IndexingData.blockNumber
  key := jobKey
  lockKey := utf8Bytes "ocw-garble::lock".toList
  fits_empty := IndexingData.fits_iff.mpr (by simp [IndexingData.fields, default])
  blockNumber_empty := rfl

/-- What `process_if_needed` does with a job under the lock. -/
def processJob (api : Api) (env : OcwEnv A) (indexingData : IndexingData) : Worker A ε Unit := do
  let resultGrpcCall ← Exec.attempt (callGrpcOf api env indexingData)
  finalizeGrpcCall env resultGrpcCall

/-- `process_if_needed` -/
def processIfNeeded (api : Api) (env : OcwEnv A) : Worker A Error Unit :=
  processIfNeededWith env slot (processJob api env)

/-! ## What it does -/

/-- What a job asks of the server: the messages of its calls, with the digits of the two
circuits. -/
inductive Requests : Type where
  | standard (message : GarbleIpfsRequest)
  | strip (message pinpad : GarbleAndStripIpfsRequest) (messageDigits pinpadDigits : Bytes)

/-- The request for one of the two circuits, when its strings are UTF-8. -/
def stripRequest (skcdCid txMsg digits : Bytes) : Option GarbleAndStripIpfsRequest := do
  let skcdCidStr ← fromUtf8 skcdCid
  let txMsgStr ← fromUtf8 txMsg
  some ⟨skcdCidStr, txMsgStr, some ⟨digits⟩⟩

/-- What a job asks, when its fields are there and its strings are UTF-8. -/
def requestsOf (d : IndexingData) : Option Requests :=
  match d.grpcKind with
  | .garbleStandard => do
    let skcdCid ← d.skcdIpfsCid
    let skcdCidStr ← fromUtf8 skcdCid
    some (.standard ⟨skcdCidStr⟩)
  | .garbleAndStrip => do
    let messageSkcdIpfsCid ← d.messageSkcdIpfsCid
    let pinpadSkcdIpfsCid ← d.pinpadSkcdIpfsCid
    let txMsg ← d.txMsg
    let messageDigits ← d.messageDigits
    let pinpadDigits ← d.pinpadDigits
    let message ← stripRequest messageSkcdIpfsCid txMsg messageDigits
    let pinpad ← stripRequest pinpadSkcdIpfsCid [] pinpadDigits
    some (.strip message pinpad messageDigits pinpadDigits)

/-- The call that posts the message of a standard job. -/
def standardCall (api : Api) (env : OcwEnv A) (message : GarbleIpfsRequest) :
    Worker A Error GarbleIpfsReply :=
  callGrpc api.base64Decode env api.garbleIpfsRequest api.garbleIpfsReply uriRootVar
    apiEndpointGarbleUrl .httpFetchingError message

/-- The call that posts the message for one of the two circuits. -/
def stripCall (api : Api) (env : OcwEnv A) (message : GarbleAndStripIpfsRequest) :
    Worker A Error GarbleAndStripIpfsReply :=
  callGrpc api.base64Decode env api.garbleAndStripIpfsRequest api.garbleAndStripIpfsReply
    uriRootVar apiEndpointGarbleStripUrl .httpFetchingError message

/-- One circuit is asked for by its message; without one the worker stops. -/
theorem callGrpcGarbleAndStripOne_eq (api : Api) (env : OcwEnv A) (skcdCid txMsg digits : Bytes) :
    callGrpcGarbleAndStripOne api env skcdCid txMsg digits =
      match stripRequest skcdCid txMsg digits with
      | some message => stripCall api env message
      | none => Exec.trap "call_grpc_garble_and_strip from_utf8" := by
  unfold callGrpcGarbleAndStripOne stripRequest
  rcases fromUtf8 skcdCid with _ | skcdCidStr
  · rfl
  · rcases fromUtf8 txMsg with _ | txMsgStr <;> rfl

/-- Post the messages of a job and return the replies. -/
def Requests.call (api : Api) (env : OcwEnv A) : Requests → Worker A Error GrpcCallReplyKind
  | .standard message => do
    let reply ← standardCall api env message
    pure (.garbleStandard reply)
  | .strip message pinpad messageDigits pinpadDigits => do
    let (messageReply, pinpadReply) ←
      callBoth (stripCall api env message) (stripCall api env pinpad)
    pure (.garbleAndStrip messageReply messageDigits pinpadReply pinpadDigits)

/-- **The call of a job**: its messages are posted and the replies returned. -/
theorem callGrpcOf_of_requests {api : Api} {env : OcwEnv A} {d : IndexingData} {r : Requests}
    (h : requestsOf d = some r) : callGrpcOf api env d = r.call api env := by
  unfold requestsOf at h
  unfold callGrpcOf
  rcases hkind : d.grpcKind with _ | _
  · simp only [hkind, Option.bind_eq_bind, Option.bind_eq_some_iff, Option.some_inj] at h
    obtain ⟨skcdCid, hcid, skcdCidStr, hstr, rfl⟩ := h
    simp only [hcid, callGrpcGarble, hstr, Exec.expect_some_bind]
    rfl
  · simp only [hkind, Option.bind_eq_bind, Option.bind_eq_some_iff, Option.some_inj] at h
    obtain ⟨mc, hmc, pc, hpc, t, ht, md, hmd, pd, hpd, message, hm, pinpad, hp, rfl⟩ := h
    simp only [hmc, hpc, ht, hmd, hpd, callGrpcGarbleAndStrip, callGrpcGarbleAndStripOne_eq, hm, hp,
      Exec.expect_some_bind]
    rfl

/-- Without one of its messages a call for both circuits stops the worker. -/
theorem callGrpcGarbleAndStrip_trap (api : Api) (env : OcwEnv A) {mc pc t md pd : Bytes}
    (h : stripRequest mc t md = none ∨ stripRequest pc [] pd = none) (s : OcwState A) :
    ∃ msg s', callGrpcGarbleAndStrip api env mc pc t md pd s = .trap msg s' := by
  have hboth : ∃ msg s', (callBoth (callGrpcGarbleAndStripOne api env mc t md)
      (callGrpcGarbleAndStripOne api env pc [] pd) : Worker A Error _) s = .trap msg s' := by
    refine callBoth_trap s (h.imp ?_ ?_)
    all_goals
      intro hnone t'
      rw [callGrpcGarbleAndStripOne_eq, hnone]
      exact ⟨_, _, rfl⟩
  obtain ⟨msg, s', hboth⟩ := hboth
  refine ⟨msg, s', ?_⟩
  unfold callGrpcGarbleAndStrip
  rw [Exec.bind_apply, hboth, Ended.andThen_trap]

/-- A job that names no messages stops the worker. -/
theorem callGrpcOf_of_none (api : Api) (env : OcwEnv A) {d : IndexingData}
    (h : requestsOf d = none) (s : OcwState A) : ∃ msg s', callGrpcOf api env d s = .trap msg s' := by
  unfold requestsOf at h
  unfold callGrpcOf
  rcases hkind : d.grpcKind with _ | _
  · simp only [hkind, Option.bind_eq_bind] at h ⊢
    rcases hcid : d.skcdIpfsCid with _ | skcdCid
    · exact ⟨_, _, rfl⟩
    · simp only [hcid, Option.bind_some] at h
      rcases hstr : fromUtf8 skcdCid with _ | skcdCidStr
      · simp only [Exec.expect_some_bind, callGrpcGarble, hstr]
        exact ⟨_, _, rfl⟩
      · rw [hstr] at h
        cases h
  · -- a missing field stops it before the calls, bytes that are not UTF-8 in one of them
    simp only [hkind, Option.bind_eq_bind] at h ⊢
    rcases hmc : d.messageSkcdIpfsCid with _ | mc
    · exact ⟨_, _, rfl⟩
    rcases hpc : d.pinpadSkcdIpfsCid with _ | pc
    · exact ⟨_, _, rfl⟩
    rcases ht : d.txMsg with _ | t
    · exact ⟨_, _, rfl⟩
    rcases hmd : d.messageDigits with _ | md
    · exact ⟨_, _, rfl⟩
    rcases hpd : d.pinpadDigits with _ | pd
    · exact ⟨_, _, rfl⟩
    simp only [hmc, hpc, ht, hmd, hpd, Option.bind_some, Exec.expect_some_bind] at h ⊢
    apply callGrpcGarbleAndStrip_trap
    rcases hm : stripRequest mc t md with _ | message
    · exact Or.inl rfl
    · rw [hm, Option.bind_some] at h
      rcases hp : stripRequest pc [] pd with _ | pinpad
      · exact Or.inr rfl
      · rw [hp] at h
        cases h

/-- The request that posts the message of a standard job. -/
def standardPost (api : Api) (root : String) (message : GarbleIpfsRequest) : HttpRequest :=
  callRequest api.garbleIpfsRequest apiEndpointGarbleUrl message root

/-- **A standard job** ends as its only exchange does. -/
theorem call_standard_cases {api : Api} {env : OcwEnv A} {root : String}
    (hroot : env.root uriRootVar = some root) (message : GarbleIpfsRequest) (s : OcwState A) :
    let ended := (Requests.standard message).call api env s
    let sent := s.send env (standardPost api root message)
    ((env.http s.posted.length).Fails ∧ ended = .err .httpFetchingError sent) ∨
    (∃ reply, AcceptedReply api.base64Decode api.garbleIpfsReply (env.http s.posted.length) reply ∧
      ended = .ok (.garbleStandard reply) sent) ∨
    (¬ (env.http s.posted.length).Fails ∧ ∃ msg, ended = .trap msg sent) :=
  callGrpc_map_cases _ _ _ _ _ _ hroot GrpcCallReplyKind.garbleStandard

theorem call_standard_of_accepted {api : Api} {env : OcwEnv A} {root : String}
    (hroot : env.root uriRootVar = some root) (message : GarbleIpfsRequest) {s : OcwState A}
    {reply : GarbleIpfsReply} (h : AcceptedReply api.base64Decode api.garbleIpfsReply
      (env.http s.posted.length) reply) :
    (Requests.standard message).call api env s =
      .ok (.garbleStandard reply) (s.send env (standardPost api root message)) := by
  have hcall : standardCall api env message s =
      .ok reply (s.send env (standardPost api root message)) :=
    callGrpc_of_accepted _ _ _ _ _ _ hroot h
  simp only [Requests.call, Exec.bind_apply, hcall, Ended.andThen_ok, Exec.pure_apply]

/-- The request that posts a message for one of the two circuits. -/
def stripPost (api : Api) (root : String) (message : GarbleAndStripIpfsRequest) : HttpRequest :=
  callRequest api.garbleAndStripIpfsRequest apiEndpointGarbleStripUrl message root

/-- **What is posted for a circuit**: its message in one uncompressed data frame. -/
theorem stripPost_eq (api : Api) (root : String) (message : GarbleAndStripIpfsRequest) :
    stripPost api root message =
      { url := root ++ "/interstellarpbapigarble.GarbleApi/GarbleAndStripIpfs"
        headers := [("Content-Type", "application/grpc-web"), ("X-Grpc-Web", "1")]
        body := 0 :: (beU32 (api.garbleAndStripIpfsRequest.encode message).length ++
          api.garbleAndStripIpfsRequest.encode message) } :=
  callRequest_eq _ _ _ _

/-- **Both circuits are answered**: the two messages are posted in their order and each reply
stays with the digits of its own circuit. -/
theorem call_strip_of_accepted {api : Api} {env : OcwEnv A} {root : String}
    (hroot : env.root uriRootVar = some root) {message pinpad : GarbleAndStripIpfsRequest}
    {messageDigits pinpadDigits : Bytes} {messageReply pinpadReply : GarbleAndStripIpfsReply}
    {s : OcwState A}
    (hmessage : AcceptedReply api.base64Decode api.garbleAndStripIpfsReply
      (env.http s.posted.length) messageReply)
    (hpinpad : AcceptedReply api.base64Decode api.garbleAndStripIpfsReply
      (env.http (s.posted.length + 1)) pinpadReply) :
    (Requests.strip message pinpad messageDigits pinpadDigits).call api env s =
      .ok (.garbleAndStrip messageReply messageDigits pinpadReply pinpadDigits)
        ((s.send env (stripPost api root message)).send env (stripPost api root pinpad)) := by
  have hfirst : stripCall api env message s =
      .ok messageReply (s.send env (stripPost api root message)) :=
    callGrpc_of_accepted _ _ _ _ _ _ hroot hmessage
  have hsecond : stripCall api env pinpad (s.send env (stripPost api root message)) =
      .ok pinpadReply
        ((s.send env (stripPost api root message)).send env (stripPost api root pinpad)) := by
    -- the second exchange is the one after the first
    refine callGrpc_of_accepted _ _ _ _ _ _ hroot ?_
    rw [OcwState.length_posted_send]
    exact hpinpad
  have hboth : (callBoth (stripCall api env message) (stripCall api env pinpad) :
      Worker A Error _) s = .ok (messageReply, pinpadReply) _ :=
    callBoth_eq_ok_iff.mpr ⟨_, hfirst, hsecond⟩
  simp only [Requests.call, Exec.bind_apply, hboth, Ended.andThen_ok, Exec.pure_apply]

/-! ## What it leaves alone -/

open OcwState

section Within

variable {R : OcwState A → OcwState A → Prop} (hrefl : ∀ s, R s s)
  (htrans : ∀ s t u, R s t → R t u → R s u) {api : Api} {env : OcwEnv A}

include hrefl htrans

theorem within_callGrpcGarbleAndStripOne_of
    (hcalls : CallsWithin Error R api.base64Decode env apiEndpointGarbleStripUrl)
    (skcdCid txMsg digits : Bytes) :
    Exec.Within R (callGrpcGarbleAndStripOne api env skcdCid txMsg digits) := by
  refine Exec.within_bind htrans (Exec.within_expect hrefl _ _) fun _ => ?_
  refine Exec.within_bind htrans (Exec.within_expect hrefl _ _) fun _ => ?_
  exact hcalls _ _ _ _ _ _ _

/-- **The call of a job** does what calls to the endpoint of its kind do. -/
theorem within_callGrpcOf_of {d : IndexingData}
    (hcalls : CallsWithin Error R api.base64Decode env d.grpcKind.endpoint) :
    Exec.Within R (callGrpcOf api env d) := by
  unfold callGrpcOf
  revert hcalls
  cases d.grpcKind with
  | garbleStandard =>
    intro hcalls
    refine Exec.within_bind htrans (Exec.within_expect hrefl _ _) fun _ => ?_
    refine Exec.within_bind htrans (Exec.within_expect hrefl _ _) fun _ => ?_
    refine Exec.within_bind htrans (hcalls _ _ _ _ _ _ _) fun _ => ?_
    exact Exec.within_pure hrefl _
  | garbleAndStrip =>
    intro hcalls
    have hone := within_callGrpcGarbleAndStripOne_of hrefl htrans hcalls
    refine Exec.within_bind htrans (Exec.within_expect hrefl _ _) fun _ => ?_
    refine Exec.within_bind htrans (Exec.within_expect hrefl _ _) fun _ => ?_
    refine Exec.within_bind htrans (Exec.within_expect hrefl _ _) fun _ => ?_
    refine Exec.within_bind htrans (Exec.within_expect hrefl _ _) fun _ => ?_
    refine Exec.within_bind htrans (Exec.within_expect hrefl _ _) fun _ => ?_
    refine Exec.within_bind htrans (within_callBoth hrefl htrans (hone _ _ _) (hone _ _ _))
      fun _ => ?_
    exact Exec.within_pure hrefl _

theorem within_finalizeGrpcCall_of (hsubmit : ∀ who c s, R s (s.submit who c)) (env : OcwEnv A)
    (result : Except Error GrpcCallReplyKind) :
    Exec.Within R (finalizeGrpcCall env result : Worker A ε Unit) := by
  cases result with
  | ok reply =>
    exact within_sendSignedTransaction hrefl htrans hsubmit env (Exec.within_pure hrefl _)
  | error e => exact Exec.within_pure hrefl _

/-- **Processing a job** does what calls to the endpoint of its kind and submissions do. -/
theorem within_processJob_of (hsubmit : ∀ who c s, R s (s.submit who c)) {d : IndexingData}
    (hcalls : CallsWithin Error R api.base64Decode env d.grpcKind.endpoint) :
    Exec.Within R (processJob api env d : Worker A ε Unit) := by
  have hcall := within_callGrpcOf_of hrefl htrans hcalls
  refine Exec.within_bind htrans (Exec.within_attempt hcall) fun result => ?_
  exact within_finalizeGrpcCall_of hrefl htrans hsubmit env result

end Within

theorem within_callGrpcOf (api : Api) (env : OcwEnv A) (d : IndexingData) :
    Exec.Within Sends (callGrpcOf api env d) :=
  within_callGrpcOf_of Sends.refl Sends.trans (callsWithin_sends _ _ _)

theorem within_finalizeGrpcCall (env : OcwEnv A) (result : Except Error GrpcCallReplyKind) :
    Exec.Within Extends (finalizeGrpcCall env result : Worker A ε Unit) :=
  within_finalizeGrpcCall_of Extends.refl Extends.trans extends_submit env result

/-- **Processing a job** posts requests and submits transactions, and touches neither the
slot nor the lock. -/
theorem within_processJob (api : Api) (env : OcwEnv A) (d : IndexingData) :
    Exec.Within Extends (processJob api env d : Worker A ε Unit) :=
  within_processJob_of Extends.refl Extends.trans extends_submit (callsWithin_extends _ _ _)

/-- **A job for both circuits whose exchanges bring replies**: two requests are posted, and the
callback is submitted once for every key. -/
theorem processIfNeeded_strip {api : Api} {env : OcwEnv A} {s : OcwState A}
    (hidle : ¬ slot.Idle s) {message pinpad : GarbleAndStripIpfsRequest}
    {messageDigits pinpadDigits : Bytes}
    (hrequests : requestsOf (slot.read s.storage) =
      some (.strip message pinpad messageDigits pinpadDigits)) {root : String}
    (hroot : env.root uriRootVar = some root)
    {messageReply pinpadReply : GarbleAndStripIpfsReply}
    (hmessage : AcceptedReply api.base64Decode api.garbleAndStripIpfsReply
      (env.http s.posted.length) messageReply)
    (hpinpad : AcceptedReply api.base64Decode api.garbleAndStripIpfsReply
      (env.http (s.posted.length + 1)) pinpadReply) :
    (processIfNeeded api env s).state.exchanges = s.exchanges ++
      [(stripPost api root message, env.http s.posted.length),
        (stripPost api root pinpad, env.http (s.posted.length + 1))] ∧
    (processIfNeeded api env s).state.submitted =
      s.submitted ++ env.keystore.map fun account =>
        (account, callbackOf (.garbleAndStrip messageReply messageDigits pinpadReply
          pinpadDigits)) := by
  have hcall : callGrpcOf api env (slot.read s.storage) (slot.take s) =
      .ok (.garbleAndStrip messageReply messageDigits pinpadReply pinpadDigits)
        (((slot.take s).send env (stripPost api root message)).send env
          (stripPost api root pinpad)) := by
    rw [callGrpcOf_of_requests hrequests]
    exact @call_strip_of_accepted A api env root hroot message pinpad messageDigits pinpadDigits
      messageReply pinpadReply (slot.take s) hmessage hpinpad
  let call := callbackOf (.garbleAndStrip messageReply messageDigits pinpadReply pinpadDigits)
  let called :=
    ((slot.take s).send env (stripPost api root message)).send env (stripPost api root pinpad)
  let submitted := s.submitted ++ env.keystore.map fun account => (account, call)
  have hsend : sendSignedTransaction env (pure call : Worker A Error Call) called =
      .ok () { called with submitted := submitted } :=
    sendSignedTransaction_of_ok env (fun _ => rfl) called
  have hprocess : (processJob api env (slot.read s.storage) : Worker A Error Unit) (slot.take s) =
      .ok () { called with submitted := submitted } := by
    rw [processJob, Exec.bind_apply, Exec.attempt, hcall]
    exact hsend
  rw [processIfNeeded, processIfNeededWith_busy env slot _ hidle, dropGuard_exchanges,
    dropGuard_submitted, hprocess]
  refine ⟨?_, rfl⟩
  exact exchanges_send_send (slot.take s) env _ _

end OcwGarble

end OffchainWorkerDemo
