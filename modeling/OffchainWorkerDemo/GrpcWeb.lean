/-
# gRPC-web exchanges

What `decode_body` accepts: a flag byte, a big-endian length, that many payload
bytes that decode, and five more bytes before the trailers.  A unary gRPC-web body
fixes these bytes, one uncompressed data frame and one trailers frame; it is read
back as its two payloads, but the reader looks at neither flag nor at the length of
the trailers.

An exchange fails, is read, or stops the worker: `callGrpc_cases` says when.
-/
import OffchainWorkerDemo.OcwCommon

namespace OffchainWorkerDemo

variable {A T : Type} {σ ε : Type}

/-! ## Big-endian lengths -/

theorem length_beU32 (n : ℕ) : (beU32 n).length = 4 := by
  rw [beU32, List.length_reverse, length_leBytes]

theorem beNat_beU32 {n : ℕ} (h : n < 2 ^ 32) : beNat (beU32 n) = n := by
  rw [beNat, beU32, List.reverse_reverse, leNat_leBytes 4 n (by omega)]

theorem beU32_beNat {bs : Bytes} (h : bs.length = 4) : beU32 (beNat bs) = bs := by
  rw [beU32, beNat, leBytes_leNat (by rw [List.length_reverse, h]), List.reverse_reverse]

theorem beNat_lt {bs : Bytes} (h : bs.length = 4) : beNat bs < 2 ^ 32 := by
  have hlt := leNat_lt bs.reverse
  rw [List.length_reverse, h] at hlt
  exact hlt

/-! ## Encoding -/

/-- `encode_body` over the five bytes that happen to be in the buffer it reserves. -/
def encodeBodyOver (message : ProstMessage T) (reserved : Bytes) (input : T) : Bytes :=
  let buf := reserved ++ message.encode input
  let len := buf.length - 5
  let buf := (0 :: beU32 len) ++ buf.drop 5
  buf.take (len + 5)

/-- **One data frame**: the flag byte, the length and the message, whatever was reserved. -/
theorem encodeBodyOver_eq (message : ProstMessage T) {reserved : Bytes} (h : reserved.length = 5)
    (input : T) :
    encodeBodyOver message reserved input =
      0 :: (beU32 (message.encode input).length ++ message.encode input) := by
  have hlen : (reserved ++ message.encode input).length - 5 = (message.encode input).length := by
    rw [List.length_append, h]
    omega
  have hdrop : (reserved ++ message.encode input).drop 5 = message.encode input :=
    List.drop_left' h
  simp only [encodeBodyOver, hlen, hdrop]
  -- nothing is cut off
  apply List.take_of_length_le
  rw [List.length_append, List.length_cons, length_beU32]
  omega

/-- The reserved bytes leave no trace. -/
theorem encodeBody_eq (message : ProstMessage T) (input : T) :
    encodeBody message input =
      0 :: (beU32 (message.encode input).length ++ message.encode input) :=
  encodeBodyOver_eq message List.length_replicate input

/-! ## Decoding -/

/-- The shape `decode_body` accepts, with the reply and the trailers it returns. -/
def LaxBody (message : ProstMessage T) (body : Bytes) (r : T × Bytes) : Prop :=
  ∃ (flag : UInt8) (payload header : Bytes),
    body = flag :: (beU32 payload.length ++ (payload ++ (header ++ r.2))) ∧
    payload.length < 2 ^ 32 ∧ header.length = 5 ∧ message.decode payload = some r.1

/-- A unary gRPC-web body: an uncompressed data frame and a trailers frame, with nothing
after them. -/
def UnaryBody (message : ProstMessage T) (body : Bytes) (r : T × Bytes) : Prop :=
  ∃ payload : Bytes,
    body = 0 :: (beU32 payload.length ++ (payload ++ ((0x80 :: beU32 r.2.length) ++ r.2))) ∧
    payload.length < 2 ^ 32 ∧ r.2.length < 2 ^ 32 ∧ message.decode payload = some r.1

theorem UnaryBody.lax {message : ProstMessage T} {body : Bytes} {r : T × Bytes}
    (h : UnaryBody message body r) : LaxBody message body r := by
  obtain ⟨payload, hbody, hlen, -, hdecode⟩ := h
  refine ⟨0, payload, 0x80 :: beU32 r.2.length, hbody, hlen, ?_, hdecode⟩
  rw [List.length_cons, length_beU32]

/-- **The shape is accepted.** -/
theorem decodeBody_of_lax {base64Decode : Bytes → Option Bytes} {message : ProstMessage T}
    {bodyBytes body : Bytes} {ct : GrpcWebContentType} {r : T × Bytes}
    (hplain : plainBody base64Decode bodyBytes ct = some body) (h : LaxBody message body r)
    (s : σ) :
    (decodeBody base64Decode message bodyBytes ct : Exec σ ε (T × Bytes)) s = .ok r s := by
  obtain ⟨flag, payload, header, rfl, hlen, hheader, hdecode⟩ := h
  have h4 := length_beU32 payload.length
  unfold decodeBody
  rw [hplain, Exec.bind_apply, unwrap_some, Ended.andThen_ok, Exec.bind_apply, bufAdvance,
    if_pos (by simp)]
  simp only [Exec.pure_apply, Ended.andThen_ok, List.drop_succ_cons, List.drop_zero,
    Exec.bind_apply, bufGetU32]
  rw [if_pos (by rw [List.length_append]; omega)]
  rw [List.take_left' h4, List.drop_left' h4, beNat_beU32 hlen]
  simp only [Exec.pure_apply, Ended.andThen_ok, Exec.bind_apply, bufSplitTo]
  rw [if_pos (by rw [List.length_append]; omega), List.take_left, List.drop_left]
  simp only [Exec.pure_apply, Ended.andThen_ok, Exec.bind_apply, hdecode, Exec.expect_some,
    bufAdvance]
  rw [if_pos (by rw [List.length_append]; omega), List.drop_left' hheader]
  rfl

/-- A body of at least five bytes, cut at its length. -/
theorem eq_frame {body : Bytes} {flag : UInt8} (h4 : 4 ≤ body.length)
    (hlen : beNat (body.take 4) ≤ (body.drop 4).length)
    (h5 : 5 ≤ ((body.drop 4).drop (beNat (body.take 4))).length) :
    ∃ payload header trailers, payload = (body.drop 4).take (beNat (body.take 4)) ∧
      trailers = ((body.drop 4).drop (beNat (body.take 4))).drop 5 ∧
      flag :: body =
        flag :: (beU32 payload.length ++ (payload ++ (header ++ trailers))) ∧
      payload.length < 2 ^ 32 ∧ header.length = 5 := by
  have htake : (body.take 4).length = 4 := by
    rw [List.length_take]
    omega
  have hpayload : ((body.drop 4).take (beNat (body.take 4))).length = beNat (body.take 4) := by
    rw [List.length_take]
    omega
  refine ⟨_, ((body.drop 4).drop (beNat (body.take 4))).take 5, _, rfl, rfl, ?_, ?_, ?_⟩
  · rw [hpayload, beU32_beNat htake, List.take_append_drop, List.take_append_drop,
      List.take_append_drop]
  · rw [hpayload]
    exact beNat_lt htake
  · rw [List.length_take]
    omega

/-- **Nothing else is accepted**: any other body is a panic, and the state is untouched. -/
theorem decodeBody_cases (base64Decode : Bytes → Option Bytes) (message : ProstMessage T)
    (bodyBytes : Bytes) (ct : GrpcWebContentType) (s : σ) :
    (∃ body r, plainBody base64Decode bodyBytes ct = some body ∧ LaxBody message body r ∧
      (decodeBody base64Decode message bodyBytes ct : Exec σ ε (T × Bytes)) s = .ok r s) ∨
    ∃ msg, (decodeBody base64Decode message bodyBytes ct : Exec σ ε (T × Bytes)) s =
      .trap msg s := by
  unfold decodeBody
  cases hplain : plainBody base64Decode bodyBytes ct with
  | none => exact Or.inr ⟨_, rfl⟩
  | some body =>
    rw [Exec.bind_apply, unwrap_some, Ended.andThen_ok, Exec.bind_apply, bufAdvance]
    cases body with
    | nil => exact Or.inr ⟨_, rfl⟩
    | cons flag body =>
      rw [if_pos (by simp)]
      simp only [Exec.pure_apply, Ended.andThen_ok, List.drop_succ_cons, List.drop_zero,
        Exec.bind_apply, bufGetU32]
      by_cases h4 : 4 ≤ body.length
      swap
      · rw [if_neg h4]
        exact Or.inr ⟨_, rfl⟩
      rw [if_pos h4]
      simp only [Exec.pure_apply, Ended.andThen_ok, Exec.bind_apply, bufSplitTo]
      by_cases hlen : beNat (body.take 4) ≤ (body.drop 4).length
      swap
      · rw [if_neg hlen]
        exact Or.inr ⟨_, rfl⟩
      rw [if_pos hlen]
      simp only [Exec.pure_apply, Ended.andThen_ok, Exec.bind_apply]
      cases hdecode : message.decode ((body.drop 4).take (beNat (body.take 4))) with
      | none => exact Or.inr ⟨_, rfl⟩
      | some reply =>
        simp only [Exec.expect_some, Ended.andThen_ok, Exec.bind_apply, bufAdvance]
        by_cases h5 : 5 ≤ ((body.drop 4).drop (beNat (body.take 4))).length
        · rw [if_pos h5]
          obtain ⟨payload, header, trailers, hpayload, htrailers, hbody, hlt, hheader⟩ :=
            eq_frame h4 hlen h5
          refine Or.inl ⟨_, (reply, trailers), rfl,
            ⟨flag, payload, header, hbody, hlt, hheader, ?_⟩, ?_⟩
          · rw [hpayload]
            exact hdecode
          · rw [htrailers]
            rfl
        · rw [if_neg h5]
          exact Or.inr ⟨_, rfl⟩

/-! ## The end of an exchange -/

/-- The exchange is reported as an error: there is no response, or its content type can be
read and its code is not 200. -/
def Exchange.Fails : Exchange → Prop
  | .response r => (headersFind r.headers contentTypeName).isSome ∧ r.code ≠ 200
  | _ => True

/-- The exchange brings a response of code 200 whose content type can be read. -/
def Exchange.Brings (ex : Exchange) (body : Bytes) (contentType : GrpcWebContentType) : Prop :=
  ∃ r value, ex = .response r ∧ headersFind r.headers contentTypeName = some value ∧
    r.code = 200 ∧ body = r.body ∧ contentType = contentTypeOf value

/-- The exchange brings a response without a content type that can be read. -/
def Exchange.Untyped (ex : Exchange) : Prop :=
  ∃ r, ex = .response r ∧ headersFind r.headers contentTypeName = none

/-- An exchange ends in one of three ways. -/
theorem Exchange.trichotomy (ex : Exchange) :
    ex.Fails ∨ (∃ body contentType, ex.Brings body contentType) ∨ ex.Untyped := by
  rcases ex with _ | _ | e | r
  · exact Or.inl trivial
  · exact Or.inl trivial
  · exact Or.inl trivial
  · cases hfind : headersFind r.headers contentTypeName with
    | none => exact Or.inr (Or.inr ⟨r, rfl, hfind⟩)
    | some value =>
      by_cases hcode : r.code = 200
      · exact Or.inr (Or.inl ⟨_, _, r, value, rfl, hfind, hcode, rfl, rfl⟩)
      · exact Or.inl ⟨by rw [hfind]; rfl, hcode⟩

theorem Exchange.Brings.not_fails {ex : Exchange} {body : Bytes} {contentType : GrpcWebContentType}
    (h : ex.Brings body contentType) : ¬ ex.Fails := by
  obtain ⟨r, value, rfl, -, hcode, -⟩ := h
  rintro ⟨-, hne⟩
  exact hne hcode

theorem Exchange.Untyped.not_fails {ex : Exchange} (h : ex.Untyped) : ¬ ex.Fails := by
  obtain ⟨r, rfl, hfind⟩ := h
  rintro ⟨hsome, -⟩
  rw [hfind] at hsome
  cases hsome

/-- Posting a request and waiting for its exchange. -/
@[simp] theorem exchange_apply (env : OcwEnv A) (request : HttpRequest) (s : OcwState A) :
    (exchange env request : Worker A ε Exchange) s =
      .ok (env.http s.posted.length) (s.send env request) := rfl

section Fetch

variable {env : OcwEnv A} {s : OcwState A} (bodyBytes : Bytes) (url : String)

theorem fetchFromRemoteGrpcWeb_of_fails (h : (env.http s.posted.length).Fails) :
    ∃ e, fetchFromRemoteGrpcWeb env bodyBytes url s =
      .err e (s.send env (grpcWebRequest bodyBytes url)) := by
  unfold fetchFromRemoteGrpcWeb
  rw [Exec.bind_apply, exchange_apply, Ended.andThen_ok]
  rcases hex : env.http s.posted.length with _ | _ | e | r
  · exact ⟨_, rfl⟩
  · exact ⟨_, rfl⟩
  · exact ⟨_, rfl⟩
  · rw [hex] at h
    obtain ⟨hsome, hcode⟩ := h
    obtain ⟨value, hfind⟩ := Option.isSome_iff_exists.mp hsome
    refine ⟨.unknown, ?_⟩
    simp only [Exec.bind_apply, hfind, unwrap_some, Ended.andThen_ok, Exec.ite_apply]
    rw [if_pos hcode, Exec.fail_apply]

theorem fetchFromRemoteGrpcWeb_of_brings {body : Bytes} {contentType : GrpcWebContentType}
    (h : (env.http s.posted.length).Brings body contentType) :
    fetchFromRemoteGrpcWeb env bodyBytes url s =
      .ok (body, contentType) (s.send env (grpcWebRequest bodyBytes url)) := by
  obtain ⟨r, value, hex, hfind, hcode, rfl, rfl⟩ := h
  unfold fetchFromRemoteGrpcWeb
  rw [Exec.bind_apply, exchange_apply, Ended.andThen_ok, hex]
  simp only [Exec.bind_apply, hfind, unwrap_some, Ended.andThen_ok, Exec.ite_apply]
  rw [if_neg (not_not.mpr hcode), Exec.pure_apply]

theorem fetchFromRemoteGrpcWeb_of_untyped (h : (env.http s.posted.length).Untyped) :
    fetchFromRemoteGrpcWeb env bodyBytes url s =
      .trap unwrapMsg (s.send env (grpcWebRequest bodyBytes url)) := by
  obtain ⟨r, hex, hfind⟩ := h
  unfold fetchFromRemoteGrpcWeb
  rw [Exec.bind_apply, exchange_apply, Ended.andThen_ok, hex]
  simp only [Exec.bind_apply, hfind, unwrap_none, Ended.andThen_trap]

end Fetch

/-! ## One call -/

/-- The exchange brings a body of the given shape that stands for `reply`. -/
def Exchange.Carries (shape : Bytes → T × Bytes → Prop) (base64Decode : Bytes → Option Bytes)
    (ex : Exchange) (reply : T) : Prop :=
  ∃ bodyBytes contentType body trailers, ex.Brings bodyBytes contentType ∧
    plainBody base64Decode bodyBytes contentType = some body ∧ shape body (reply, trailers)

/-- The exchange brings a well-formed reply. -/
def WellFormedReply (base64Decode : Bytes → Option Bytes) (message : ProstMessage T)
    (ex : Exchange) (reply : T) : Prop :=
  ex.Carries (UnaryBody message) base64Decode reply

/-- The exchange brings a reply that `decode_body` takes. -/
def AcceptedReply (base64Decode : Bytes → Option Bytes) (message : ProstMessage T)
    (ex : Exchange) (reply : T) : Prop :=
  ex.Carries (LaxBody message) base64Decode reply

theorem WellFormedReply.accepted {base64Decode : Bytes → Option Bytes} {message : ProstMessage T}
    {ex : Exchange} {reply : T} (h : WellFormedReply base64Decode message ex reply) :
    AcceptedReply base64Decode message ex reply := by
  obtain ⟨bodyBytes, contentType, body, trailers, hbrings, hplain, hbody⟩ := h
  exact ⟨bodyBytes, contentType, body, trailers, hbrings, hplain, hbody.lax⟩

/-- A unary gRPC-web response with no trailers. -/
def unaryResponse (payload : Bytes) : Exchange :=
  .response
    { code := 200
      headers := [(contentTypeName, utf8Bytes "application/grpc-web".toList)]
      body := 0 :: (beU32 payload.length ++ (payload ++ ((0x80 :: beU32 0) ++ []))) }

/-- What encodes a reply is brought as that reply. -/
theorem wellFormedReply_unaryResponse (base64Decode : Bytes → Option Bytes)
    {message : ProstMessage T} {payload : Bytes} {reply : T} (hlen : payload.length < 2 ^ 32)
    (h : message.decode payload = some reply) :
    WellFormedReply base64Decode message (unaryResponse payload) reply := by
  have hfind : headersFind [(contentTypeName, utf8Bytes "application/grpc-web".toList)]
      contentTypeName = some "application/grpc-web".toList := by
    rw [headersFind, List.find?_cons_of_pos (by simp), Option.bind_some, fromUtf8_utf8Bytes]
  have htype : GrpcWebContentType.grpcWeb = contentTypeOf "application/grpc-web".toList := rfl
  exact ⟨_, .grpcWeb, _, [], ⟨_, _, rfl, hfind, rfl, rfl, htype⟩, rfl, payload, rfl, hlen,
    Nat.two_pow_pos 32, h⟩

theorem AcceptedReply.not_fails {base64Decode : Bytes → Option Bytes} {message : ProstMessage T}
    {ex : Exchange} {reply : T} (h : AcceptedReply base64Decode message ex reply) :
    ¬ ex.Fails := by
  obtain ⟨bodyBytes, contentType, body, trailers, hbrings, -⟩ := h
  exact hbrings.not_fails

theorem AcceptedReply.ne_sendError {base64Decode : Bytes → Option Bytes} {message : ProstMessage T}
    {ex : Exchange} {reply : T} (h : AcceptedReply base64Decode message ex reply) :
    ex ≠ .sendError := by
  rintro rfl
  exact h.not_fails trivial

/-- The exchange does not stop the worker: it is reported as an error, or brings a reply that
`decode_body` takes. -/
def Exchange.GoesOn (base64Decode : Bytes → Option Bytes) (message : ProstMessage T)
    (ex : Exchange) : Prop :=
  ex.Fails ∨ ∃ reply, AcceptedReply base64Decode message ex reply

/-- Two requests in a row leave the node, from exchange number `n` on: neither `send` fails, and
the answer to the first request does not stop the worker. -/
structure BothSent (base64Decode : Bytes → Option Bytes) (message : ProstMessage T) (env : OcwEnv A)
    (n : ℕ) : Prop where
  first : env.http n ≠ .sendError
  goesOn : (env.http n).GoesOn base64Decode message
  second : env.http (n + 1) ≠ .sendError

/-- The URI root the node is configured with. -/
def OcwEnv.root (env : OcwEnv A) (name : String) : Option String :=
  if env.std then env.var name else some "PLACEHOLDER_no_std"

theorem uriRoot_apply (env : OcwEnv A) (name : String) (s : OcwState A) :
    (uriRoot env name : Worker A ε String) s = unwrap (env.root name) s := by
  unfold uriRoot OcwEnv.root
  cases env.std <;> rfl

section Call

variable {I R : Type} (base64Decode : Bytes → Option Bytes) (env : OcwEnv A)
  (requestMessage : ProstMessage I) (replyMessage : ProstMessage R)
  (uriRootVar endpoint : String) (httpFetchingError : ε) (input : I)

/-- The request a call posts. -/
def callRequest (root : String) : HttpRequest :=
  grpcWebRequest (encodeBody requestMessage input) (root ++ endpoint)

/-- **What a call posts**: its message in one uncompressed data frame. -/
theorem callRequest_eq (root : String) :
    callRequest requestMessage endpoint input root =
      { url := root ++ endpoint
        headers := [("Content-Type", "application/grpc-web"), ("X-Grpc-Web", "1")]
        body := 0 :: (beU32 (requestMessage.encode input).length ++ requestMessage.encode input) } := by
  rw [callRequest, grpcWebRequest, encodeBody_eq]

/-- Without its URI root a call is a panic, and nothing is posted. -/
theorem callGrpc_unconfigured (h : env.root uriRootVar = none) (s : OcwState A) :
    callGrpc base64Decode env requestMessage replyMessage uriRootVar endpoint httpFetchingError
      input s = .trap unwrapMsg s := by
  unfold callGrpc
  rw [Exec.bind_apply, uriRoot_apply, h, unwrap_none, Ended.andThen_trap]

variable {env uriRootVar} {root : String} (hroot : env.root uriRootVar = some root)
  {s : OcwState A}

include hroot

theorem callGrpc_of_fails (h : (env.http s.posted.length).Fails) :
    callGrpc base64Decode env requestMessage replyMessage uriRootVar endpoint httpFetchingError
      input s = .err httpFetchingError (s.send env (callRequest requestMessage endpoint input root)) := by
  obtain ⟨e, hfetch⟩ := fetchFromRemoteGrpcWeb_of_fails (encodeBody requestMessage input)
    (root ++ endpoint) h
  unfold callGrpc
  rw [Exec.bind_apply, uriRoot_apply, hroot, unwrap_some, Ended.andThen_ok, Exec.bind_apply,
    Exec.mapErr, hfetch]
  rfl

/-- A body that arrives is decoded. -/
theorem callGrpc_of_brings {body : Bytes} {contentType : GrpcWebContentType}
    (h : (env.http s.posted.length).Brings body contentType) :
    callGrpc base64Decode env requestMessage replyMessage uriRootVar endpoint httpFetchingError
      input s = (decodeBody base64Decode replyMessage body contentType
        (s.send env (callRequest requestMessage endpoint input root))).andThen
          fun r => pure r.1 := by
  unfold callGrpc
  rw [Exec.bind_apply, uriRoot_apply, hroot, unwrap_some, Ended.andThen_ok, Exec.bind_apply,
    Exec.mapErr, fetchFromRemoteGrpcWeb_of_brings _ _ h]
  rfl

/-- **An accepted reply is returned.** -/
theorem callGrpc_of_accepted {reply : R}
    (h : AcceptedReply base64Decode replyMessage (env.http s.posted.length) reply) :
    callGrpc base64Decode env requestMessage replyMessage uriRootVar endpoint httpFetchingError
      input s = .ok reply (s.send env (callRequest requestMessage endpoint input root)) := by
  obtain ⟨bodyBytes, contentType, body, trailers, hbrings, hplain, hbody⟩ := h
  rw [callGrpc_of_brings base64Decode requestMessage replyMessage endpoint httpFetchingError input
    hroot hbrings, decodeBody_of_lax hplain hbody]
  rfl

/-- **How a call ends**: the request is posted, and then the exchange failed, brought an
accepted reply, or stopped the worker. -/
theorem callGrpc_cases :
    let ended := callGrpc base64Decode env requestMessage replyMessage uriRootVar endpoint
      httpFetchingError input s
    let sent := s.send env (callRequest requestMessage endpoint input root)
    ((env.http s.posted.length).Fails ∧ ended = .err httpFetchingError sent) ∨
    (∃ reply, AcceptedReply base64Decode replyMessage (env.http s.posted.length) reply ∧
      ended = .ok reply sent) ∨
    (¬ (env.http s.posted.length).Fails ∧ ∃ msg, ended = .trap msg sent) := by
  intro ended sent
  rcases (env.http s.posted.length).trichotomy with hfails | ⟨body, contentType, hbrings⟩ | huntyped
  · exact Or.inl ⟨hfails, callGrpc_of_fails base64Decode requestMessage replyMessage endpoint
      httpFetchingError input hroot hfails⟩
  · have hcall := callGrpc_of_brings base64Decode requestMessage replyMessage endpoint
      httpFetchingError input hroot hbrings
    rcases decodeBody_cases (ε := ε) base64Decode replyMessage body contentType sent with
      ⟨plain, r, hplain, hbody, hdecode⟩ | ⟨msg, hdecode⟩
    · refine Or.inr (Or.inl ⟨r.1, ⟨body, contentType, plain, r.2, hbrings, hplain, hbody⟩, ?_⟩)
      rw [show ended = _ from hcall, hdecode]
      rfl
    · refine Or.inr (Or.inr ⟨hbrings.not_fails, msg, ?_⟩)
      rw [show ended = _ from hcall, hdecode]
      rfl
  · refine Or.inr (Or.inr ⟨huntyped.not_fails, unwrapMsg, ?_⟩)
    unfold ended callGrpc
    rw [Exec.bind_apply, uriRoot_apply, hroot, unwrap_some, Ended.andThen_ok, Exec.bind_apply,
      Exec.mapErr, fetchFromRemoteGrpcWeb_of_untyped _ _ huntyped]
    rfl

/-- What a call whose reply is passed on makes of these. -/
theorem callGrpc_map_cases {K : Type} (k : R → K) :
    let ended := (callGrpc base64Decode env requestMessage replyMessage uriRootVar endpoint
      httpFetchingError input >>= fun reply => pure (k reply)) s
    let sent := s.send env (callRequest requestMessage endpoint input root)
    ((env.http s.posted.length).Fails ∧ ended = .err httpFetchingError sent) ∨
    (∃ reply, AcceptedReply base64Decode replyMessage (env.http s.posted.length) reply ∧
      ended = .ok (k reply) sent) ∨
    (¬ (env.http s.posted.length).Fails ∧ ∃ msg, ended = .trap msg sent) := by
  intro ended sent
  simp only [ended, Exec.bind_apply]
  rcases callGrpc_cases base64Decode requestMessage replyMessage endpoint httpFetchingError input
    hroot (s := s) with ⟨hfails, h⟩ | ⟨reply, hreply, h⟩ | ⟨hfails, msg, h⟩
  · rw [h]
    exact Or.inl ⟨hfails, rfl⟩
  · rw [h]
    exact Or.inr (Or.inl ⟨reply, hreply, rfl⟩)
  · rw [h]
    exact Or.inr (Or.inr ⟨hfails, msg, rfl⟩)

end Call

/-- A call only posts its request, however it ends. -/
theorem within_callGrpc {I R : Type} (base64Decode : Bytes → Option Bytes) (env : OcwEnv A)
    (requestMessage : ProstMessage I) (replyMessage : ProstMessage R)
    (uriRootVar endpoint : String) (httpFetchingError : ε) (input : I) :
    Exec.Within OcwState.Sends (callGrpc base64Decode env requestMessage replyMessage uriRootVar
      endpoint httpFetchingError input) := by
  intro s
  cases hroot : env.root uriRootVar with
  | none =>
    rw [callGrpc_unconfigured base64Decode env requestMessage replyMessage uriRootVar endpoint
      httpFetchingError input hroot]
    exact OcwState.Sends.refl s
  | some root =>
    rcases callGrpc_cases base64Decode requestMessage replyMessage endpoint httpFetchingError input
      hroot (s := s) with ⟨-, h⟩ | ⟨reply, -, h⟩ | ⟨-, msg, h⟩
    all_goals
      rw [h]
      exact OcwState.sends_send env _ s

/-- Every call to the endpoint relates the states before and after it. -/
def CallsWithin (ε : Type) (R : OcwState A → OcwState A → Prop)
    (base64Decode : Bytes → Option Bytes) (env : OcwEnv A) (endpoint : String) : Prop :=
  ∀ (I T : Type) (requestMessage : ProstMessage I) (replyMessage : ProstMessage T)
    (uriRootVar : String) (httpFetchingError : ε) (input : I),
    Exec.Within R (callGrpc base64Decode env requestMessage replyMessage uriRootVar endpoint
      httpFetchingError input)

theorem callsWithin_sends (base64Decode : Bytes → Option Bytes) (env : OcwEnv A)
    (endpoint : String) : CallsWithin ε OcwState.Sends base64Decode env endpoint :=
  fun _ _ _ _ _ _ _ => within_callGrpc _ _ _ _ _ _ _ _

theorem callsWithin_extends (base64Decode : Bytes → Option Bytes) (env : OcwEnv A)
    (endpoint : String) : CallsWithin ε OcwState.Extends base64Decode env endpoint :=
  fun _ _ _ _ _ _ _ => (within_callGrpc _ _ _ _ _ _ _ _).mono OcwState.Sends.toExtends

/-- **A configured call always posts its request**, whatever the exchange. -/
theorem callGrpc_state {I R : Type} (base64Decode : Bytes → Option Bytes) {env : OcwEnv A}
    (requestMessage : ProstMessage I) (replyMessage : ProstMessage R)
    {uriRootVar : String} (endpoint : String) (httpFetchingError : ε) (input : I) {root : String}
    (hroot : env.root uriRootVar = some root) (s : OcwState A) :
    (callGrpc base64Decode env requestMessage replyMessage uriRootVar endpoint httpFetchingError
      input s).state = s.send env (callRequest requestMessage endpoint input root) := by
  rcases callGrpc_cases base64Decode requestMessage replyMessage endpoint httpFetchingError input
    hroot (s := s) with ⟨-, h⟩ | ⟨reply, -, h⟩ | ⟨-, msg, h⟩
  all_goals
    rw [h]
    rfl

end OffchainWorkerDemo
