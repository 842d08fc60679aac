/-
# Where a job goes

The requests a job posts go to the endpoint of its kind and to no other, whatever
becomes of them.  A job that has every field its kind needs gets past each
`expect("missing ...")` of `process_if_needed`: what may still stop the worker says
something else.
-/
import OffchainWorkerDemo.OcwGarbleWorker
import OffchainWorkerDemo.OcwCircuitsWorker

namespace OffchainWorkerDemo

variable {A ε : Type}

/-! ## Requests to one endpoint -/

namespace OcwState

/-- Whatever is posted goes to the given endpoint, under some URI root. -/
def PostsTo (endpoint : String) (s t : OcwState A) : Prop :=
  ∃ posts, t.posted = s.posted ++ posts ∧ ∀ p ∈ posts, ∃ root, p.url = root ++ endpoint

section PostsTo

variable {endpoint : String}

theorem PostsTo.of_posted {s t : OcwState A} (h : t.posted = s.posted) : PostsTo endpoint s t :=
  ⟨[], by rw [h, List.append_nil], by simp⟩

theorem PostsTo.refl (s : OcwState A) : PostsTo endpoint s s := PostsTo.of_posted rfl

theorem PostsTo.trans (s t u : OcwState A) (h : PostsTo endpoint s t) (h' : PostsTo endpoint t u) :
    PostsTo endpoint s u := by
  obtain ⟨posts, hposted, hposts⟩ := h
  obtain ⟨posts', hposted', hposts'⟩ := h'
  refine ⟨posts ++ posts', by rw [hposted', hposted, List.append_assoc], ?_⟩
  intro p hp
  rcases List.mem_append.mp hp with hp | hp
  · exact hposts p hp
  · exact hposts' p hp

end PostsTo

end OcwState

open OcwState

/-- A call posts to its own endpoint. -/
theorem callsWithin_postsTo (base64Decode : Bytes → Option Bytes) (env : OcwEnv A)
    (endpoint : String) : CallsWithin ε (PostsTo endpoint) base64Decode env endpoint := by
  intro I T requestMessage replyMessage uriRootVar httpFetchingError input s
  rcases hroot : env.root uriRootVar with _ | root
  · rw [callGrpc_unconfigured base64Decode env requestMessage replyMessage uriRootVar endpoint
      httpFetchingError input hroot]
    exact PostsTo.refl s
  · rw [callGrpc_state base64Decode requestMessage replyMessage endpoint httpFetchingError input
      hroot s]
    refine ⟨[callRequest requestMessage endpoint input root], posted_send s env _, ?_⟩
    intro p hp
    obtain rfl := List.mem_singleton.mp hp
    exact ⟨root, rfl⟩

/-- Submitting posts nothing to the server. -/
theorem postsTo_submit {endpoint : String} (who : A) (call : Call) (s : OcwState A) :
    PostsTo endpoint s (s.submit who call) := PostsTo.of_posted rfl

/-! ## Panics about missing fields -/

/-- The messages of the `expect("missing ...")` of both pallets. -/
def missingMsgs : List String :=
  ["missing verilog_cid", "missing skcd_ipfs_cid", "missing message_skcd_ipfs_cid",
    "missing pinpad_skcd_ipfs_cid", "missing tx_msg", "missing message_digits",
    "missing pinpad_digits"]

/-- The message is none of them. -/
def NotMissing (msg : String) : Prop := msg ∉ missingMsgs

theorem notMissing_unwrapMsg : NotMissing unwrapMsg := by
  simp [NotMissing, missingMsgs, unwrapMsg]

open Exec

theorem notMissing_unwrap {σ α : Type} (o : Option α) :
    TrapsIn NotMissing (unwrap o : Exec σ ε α) := trapsIn_expect notMissing_unwrapMsg o

theorem notMissing_bufAdvance {σ : Type} (n : ℕ) (body : Bytes) :
    TrapsIn NotMissing (bufAdvance n body : Exec σ ε Bytes) := by
  unfold bufAdvance
  split
  · exact trapsIn_pure _
  · exact trapsIn_trap (by simp [NotMissing, missingMsgs])

theorem notMissing_decodeBody {σ T : Type} (base64Decode : Bytes → Option Bytes)
    (message : ProstMessage T) (bodyBytes : Bytes) (ct : GrpcWebContentType) :
    TrapsIn NotMissing (decodeBody base64Decode message bodyBytes ct : Exec σ ε (T × Bytes)) := by
  refine trapsIn_bind (notMissing_unwrap _) fun body => ?_
  refine trapsIn_bind (notMissing_bufAdvance 1 body) fun body => ?_
  refine trapsIn_bind ?_ fun (len, body) => ?_
  · unfold bufGetU32
    split
    · exact trapsIn_pure _
    · exact trapsIn_trap (by simp [NotMissing, missingMsgs])
  refine trapsIn_bind ?_ fun (payload, body) => ?_
  · unfold bufSplitTo
    split
    · exact trapsIn_pure _
    · exact trapsIn_trap (by simp [NotMissing, missingMsgs])
  refine trapsIn_bind (trapsIn_expect (by simp [NotMissing, missingMsgs]) _) fun reply => ?_
  exact trapsIn_bind (notMissing_bufAdvance 5 body) fun trailers => trapsIn_pure _

theorem notMissing_fetchFromRemoteGrpcWeb (env : OcwEnv A) (bodyBytes : Bytes) (url : String) :
    TrapsIn NotMissing (fetchFromRemoteGrpcWeb env bodyBytes url) := by
  refine trapsIn_bind ?_ fun ex => ?_
  · exact trapsIn_bind trapsIn_get fun s => trapsIn_bind (trapsIn_modify _) fun _ => trapsIn_pure _
  · rcases ex with _ | _ | e | response
    · exact trapsIn_fail _
    · exact trapsIn_fail _
    · exact trapsIn_fail e
    · refine trapsIn_bind (notMissing_unwrap _) fun contentType => ?_
      split
      · exact trapsIn_fail _
      · exact trapsIn_pure _

theorem notMissing_callGrpc {I R : Type} (base64Decode : Bytes → Option Bytes) (env : OcwEnv A)
    (requestMessage : ProstMessage I) (replyMessage : ProstMessage R)
    (uriRootVar endpoint : String) (httpFetchingError : ε) (input : I) :
    TrapsIn NotMissing (callGrpc base64Decode env requestMessage replyMessage uriRootVar endpoint
      httpFetchingError input) := by
  refine trapsIn_bind ?_ fun root => ?_
  · unfold uriRoot
    split
    · exact notMissing_unwrap _
    · exact trapsIn_pure _
  refine trapsIn_bind (trapsIn_mapErr (notMissing_fetchFromRemoteGrpcWeb _ _ _)) fun fetched => ?_
  exact trapsIn_bind (notMissing_decodeBody _ _ _ _) fun decoded => trapsIn_pure _

theorem notMissing_callBoth {R ε' : Type} {callMessage callPinpad : Worker A ε R}
    (hmessage : TrapsIn NotMissing callMessage) (hpinpad : TrapsIn NotMissing callPinpad) :
    TrapsIn NotMissing (callBoth callMessage callPinpad : Worker A ε' (R × R)) := by
  refine trapsIn_bind (trapsIn_attempt hmessage) fun _ => ?_
  refine trapsIn_bind (trapsIn_attempt hpinpad) fun _ => ?_
  refine trapsIn_bind (trapsIn_expect (by simp [NotMissing, missingMsgs]) _) fun _ => ?_
  refine trapsIn_bind (trapsIn_expect (by simp [NotMissing, missingMsgs]) _) fun _ => ?_
  exact trapsIn_pure _

theorem notMissing_sendSignedTransaction (env : OcwEnv A) {call : Worker A ε Call}
    (h : TrapsIn NotMissing call) : TrapsIn NotMissing (sendSignedTransaction env call) :=
  trapsIn_forM fun _ => trapsIn_bind h fun _ => trapsIn_modify _

/-! ## The garbling pallet -/

namespace OcwGarble

/-- Every field the kind of a job needs is there. -/
def IndexingData.Complete (d : IndexingData) : Prop :=
  match d.grpcKind with
  | .garbleStandard => d.skcdIpfsCid.isSome
  | .garbleAndStrip => d.messageSkcdIpfsCid.isSome ∧ d.pinpadSkcdIpfsCid.isSome ∧
      d.txMsg.isSome ∧ d.messageDigits.isSome ∧ d.pinpadDigits.isSome

/-- **A job goes to the endpoint of its kind.** -/
theorem postsTo_processJob (api : Api) (env : OcwEnv A) (d : IndexingData) :
    Within (PostsTo d.grpcKind.endpoint) (processJob api env d : Worker A ε Unit) :=
  within_processJob_of PostsTo.refl PostsTo.trans postsTo_submit (callsWithin_postsTo _ _ _)

theorem notMissing_callGrpcGarbleAndStripOne (api : Api) (env : OcwEnv A)
    (skcdCid txMsg digits : Bytes) :
    TrapsIn NotMissing (callGrpcGarbleAndStripOne api env skcdCid txMsg digits) := by
  refine trapsIn_bind (trapsIn_expect (by simp [NotMissing, missingMsgs]) _) fun _ => ?_
  refine trapsIn_bind (trapsIn_expect (by simp [NotMissing, missingMsgs]) _) fun _ => ?_
  exact notMissing_callGrpc _ _ _ _ _ _ _ _

/-- **A complete job passes every `expect("missing ...")`.** -/
theorem notMissing_processJob (api : Api) (env : OcwEnv A) {d : IndexingData} (h : d.Complete) :
    TrapsIn NotMissing (processJob api env d : Worker A ε Unit) := by
  refine trapsIn_bind (trapsIn_attempt ?_) fun result => ?_
  · unfold IndexingData.Complete at h
    unfold callGrpcOf
    rcases hkind : d.grpcKind with _ | _
    · rw [hkind] at h
      obtain ⟨cid, hcid⟩ := Option.isSome_iff_exists.mp h
      simp only [hcid, expect_some_bind]
      refine trapsIn_bind (trapsIn_expect (by simp [NotMissing, missingMsgs]) _) fun _ => ?_
      exact trapsIn_bind (notMissing_callGrpc _ _ _ _ _ _ _ _) fun _ => trapsIn_pure _
    · rw [hkind] at h
      obtain ⟨hmc, hpc, ht, hmd, hpd⟩ := h
      obtain ⟨mc, hmc⟩ := Option.isSome_iff_exists.mp hmc
      obtain ⟨pc, hpc⟩ := Option.isSome_iff_exists.mp hpc
      obtain ⟨t, ht⟩ := Option.isSome_iff_exists.mp ht
      obtain ⟨md, hmd⟩ := Option.isSome_iff_exists.mp hmd
      obtain ⟨pd, hpd⟩ := Option.isSome_iff_exists.mp hpd
      have hone := notMissing_callGrpcGarbleAndStripOne api env
      simp only [hmc, hpc, ht, hmd, hpd, expect_some_bind]
      exact trapsIn_bind (notMissing_callBoth (hone _ _ _) (hone _ _ _)) fun _ => trapsIn_pure _
  · rcases result with e | reply
    · exact trapsIn_pure _
    · exact notMissing_sendSignedTransaction env (trapsIn_pure _)

end OcwGarble

/-! ## The circuits pallet -/

namespace OcwCircuits

/-- Every field the kind of a job needs is there. -/
def IndexingData.Complete (d : IndexingData) : Prop :=
  match d.grpcKind with
  | .generic => d.verilogIpfsHash.isSome
  | .display => True

/-- **A job goes to the endpoint of its kind.** -/
theorem postsTo_processJob (api : Api) (env : OcwEnv A) (d : IndexingData) :
    Within (PostsTo d.grpcKind.endpoint) (processJob api env d : Worker A ε Unit) :=
  within_processJob_of PostsTo.refl PostsTo.trans postsTo_submit (callsWithin_postsTo _ _ _)

/-- **A complete job passes the `expect("missing verilog_cid")`.** -/
theorem notMissing_processJob (api : Api) (env : OcwEnv A) {d : IndexingData} (h : d.Complete) :
    TrapsIn NotMissing (processJob api env d : Worker A ε Unit) := by
  refine trapsIn_bind (trapsIn_attempt ?_) fun result => ?_
  · unfold IndexingData.Complete at h
    unfold callGrpcOf
    rcases hkind : d.grpcKind with _ | _
    · rw [hkind] at h
      obtain ⟨cid, hcid⟩ := Option.isSome_iff_exists.mp h
      simp only [hcid, expect_some_bind]
      refine trapsIn_bind (trapsIn_expect (by simp [NotMissing, missingMsgs]) _) fun _ => ?_
      exact trapsIn_bind (notMissing_callGrpc _ _ _ _ _ _ _ _) fun _ => trapsIn_pure _
    · have hone := fun isMessage : Bool => notMissing_callGrpc api.base64Decode env
        api.skcdDisplayRequest api.skcdDisplayReply uriRootVarDisplay apiEndpointDisplayUrl
        Error.httpFetchingError (if isMessage then messageDisplayRequest else pinpadDisplayRequest)
      exact trapsIn_bind (notMissing_callBoth (hone true) (hone false)) fun _ => trapsIn_pure _
  · rcases result with e | reply
    · exact trapsIn_pure _
    · refine notMissing_sendSignedTransaction env ?_
      rcases reply with reply | ⟨messageReply, pinpadReply⟩
      · exact trapsIn_pure _
      · refine trapsIn_bind (notMissing_unwrap _) fun _ => ?_
        exact trapsIn_bind (notMissing_unwrap _) fun _ => trapsIn_pure _

end OcwCircuits

end OffchainWorkerDemo
