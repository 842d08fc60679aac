/-
# What the two workers share

The local state of a node's workers, the HTTP exchange with the remote server, and
the gRPC-web framing of `ocw-common`.  The protobuf messages and base64 come from
other crates: they are parameters, `ProstMessage` and `base64Decode`.
-/
import OffchainWorkerDemo.Runtime

namespace OffchainWorkerDemo

variable {A : Type} {σ ε : Type}

/-! ## The node -/

/-- A POST request for the remote server. -/
structure HttpRequest where
  url : String
  headers : List (String × String)
  body : Bytes
  deriving DecidableEq

/-- A response: its status code, its raw headers and what was read of its body. -/
structure Response where
  code : ℕ
  headers : List (Bytes × Bytes)
  body : Bytes
  deriving DecidableEq

/-- `sp_runtime::offchain::http::Error` -/
inductive HttpError : Type where
  | deadlineReached
  | ioError
  | unknown
  deriving DecidableEq

/-- How an exchange ends. -/
inductive Exchange : Type where
  /-- `send` fails. -/
  | sendError
  /-- `try_wait` gives the pending request back. -/
  | deadlineReached
  /-- `try_wait` returns an error. -/
  | failed (e : HttpError)
  | response (r : Response)
  deriving DecidableEq

/-- The off-chain storage and the storage locks of a node, the requests its workers handed to
`send`, each with the end of its exchange, and the transactions they submitted, each with its
signer. -/
structure OcwState (A : Type) where
  storage : Bytes → Option Bytes
  locked : Bytes → Bool
  exchanges : List (HttpRequest × Exchange)
  submitted : List (A × Call)

/-- What a worker is run with. -/
structure OcwEnv (A : Type) where
  /-- Whether the runtime is executed natively (the `std` feature). -/
  std : Bool
  /-- `std::env::var` -/
  var : String → Option String
  /-- The accounts of the pallet's keys in the keystore. -/
  keystore : List A
  /-- How the exchange ends that the node attempts after `n` others. -/
  http : ℕ → Exchange

/-- The requests of these exchanges that left the node: those whose `send` did not fail. -/
def sentOf (exchanges : List (HttpRequest × Exchange)) : List HttpRequest :=
  (exchanges.filter fun exchange => exchange.2 ≠ .sendError).map Prod.fst

namespace OcwState

/-- The requests handed to `send`. -/
def posted (s : OcwState A) : List HttpRequest := s.exchanges.map Prod.fst

/-- The requests sent: those of them whose `send` did not fail. -/
def sent (s : OcwState A) : List HttpRequest := sentOf s.exchanges

/-- `StorageValueRef::set` -/
def put (s : OcwState A) (key value : Bytes) : OcwState A :=
  { s with storage := Function.update s.storage key (some value) }

/-- Take or release a storage lock. -/
def setLock (s : OcwState A) (key : Bytes) (held : Bool) : OcwState A :=
  { s with locked := Function.update s.locked key held }

/-- Hand a request to `send`, and keep how its exchange ends. -/
def send (s : OcwState A) (env : OcwEnv A) (request : HttpRequest) : OcwState A :=
  { s with exchanges := s.exchanges ++ [(request, env.http s.posted.length)] }

/-- Submit a transaction. -/
def submit (s : OcwState A) (who : A) (call : Call) : OcwState A :=
  { s with submitted := s.submitted ++ [(who, call)] }

end OcwState

/-- A worker, or a part of one. -/
abbrev Worker (A ε α : Type) := Exec (OcwState A) ε α

/-! ## gRPC-web bodies -/

/-- A `prost::Message`: its encoder, and its decoder on a whole payload. -/
structure ProstMessage (T : Type) where
  encode : T → Bytes
  decode : Bytes → Option T

/-- A length-delimited field shorter than 128 bytes as protobuf writes it; an empty one is
left out. -/
def protoField (n : ℕ) (v : Bytes) : Bytes :=
  if v = [] then [] else UInt8.ofNat (8 * n + 2) :: UInt8.ofNat v.length :: v

/-- Read such a field off the front; one that is not there is empty. -/
def readProtoField (n : ℕ) : Bytes → Option (Bytes × Bytes)
  | tag :: len :: rest =>
    if tag = UInt8.ofNat (8 * n + 2) then
      if len.toNat ≤ rest.length then some (rest.take len.toNat, rest.drop len.toNat) else none
    else some ([], tag :: len :: rest)
  | bs => some ([], bs)

/-- Read a string off the front. -/
def readProtoString (n : ℕ) (bs : Bytes) : Option (Str × Bytes) := do
  let (v, rest) ← readProtoField n bs
  let str ← fromUtf8 v
  some (str, rest)

/-- `n as u32`, four big-endian bytes. -/
def beU32 (n : ℕ) : Bytes := (leBytes 4 n).reverse

/-- The number four big-endian bytes stand for. -/
def beNat (bs : Bytes) : ℕ := leNat bs.reverse

/-- `encode_body`: five bytes are reserved, the message grows the buffer, and the flag
byte and the length are written over the reserved ones. -/
def encodeBody {T : Type} (message : ProstMessage T) (input : T) : Bytes :=
  let buf := List.replicate 5 0 ++ message.encode input
  let len := buf.length - 5
  let buf := (0 :: beU32 len) ++ buf.drop 5
  buf.take (len + 5)

/-- `GrpcWebContentType` -/
inductive GrpcWebContentType : Type where
  | grpcWeb
  | grpcWebTextProto
  | unknown
  deriving DecidableEq

/-- `Buf::advance` -/
def bufAdvance (n : ℕ) (body : Bytes) : Exec σ ε Bytes :=
  if n ≤ body.length then pure (body.drop n)
  else Exec.trap "cannot advance past remaining"

/-- `Buf::get_u32` -/
def bufGetU32 (body : Bytes) : Exec σ ε (ℕ × Bytes) :=
  if 4 ≤ body.length then pure (beNat (body.take 4), body.drop 4)
  else Exec.trap "buffer too short"

/-- `Bytes::split_to` -/
def bufSplitTo (n : ℕ) (body : Bytes) : Exec σ ε (Bytes × Bytes) :=
  if n ≤ body.length then pure (body.take n, body.drop n)
  else Exec.trap "split_to out of bounds"

/-- The bytes a body stands for: only the text content type is base64. -/
def plainBody (base64Decode : Bytes → Option Bytes) (bodyBytes : Bytes) :
    GrpcWebContentType → Option Bytes
  | .grpcWebTextProto => base64Decode bodyBytes
  | _ => some bodyBytes

/-- `decode_body` -/
def decodeBody {T : Type} (base64Decode : Bytes → Option Bytes) (message : ProstMessage T)
    (bodyBytes : Bytes) (grpcContentType : GrpcWebContentType) : Exec σ ε (T × Bytes) := do
  let body ← unwrap (plainBody base64Decode bodyBytes grpcContentType)
  let body ← bufAdvance 1 body
  let (len, body) ← bufGetU32 body
  let (payload, body) ← bufSplitTo len body
  let reply ← Exec.expect "decode" (message.decode payload)
  let trailers ← bufAdvance 5 body
  pure (reply, trailers)

/-! ## The exchange -/

/-- `Headers::find`: the first header of that name, if its value is UTF-8. -/
def headersFind (headers : List (Bytes × Bytes)) (name : Bytes) : Option Str :=
  (headers.find? fun header => header.1 = name).bind fun header => fromUtf8 header.2

/-- The name `fetch_from_remote_grpc_web` looks up. -/
def contentTypeName : Bytes := utf8Bytes "content-type".toList

/-- The `Content-Type` of a response. -/
def contentTypeOf (contentType : Str) : GrpcWebContentType :=
  if contentType = "application/grpc-web".toList then .grpcWeb
  else if contentType = "application/grpc-web+proto".toList then .grpcWeb
  else if contentType = "application/grpc-web-text+proto".toList then .grpcWebTextProto
  else .unknown

/-- The request `fetch_from_remote_grpc_web` posts. -/
def grpcWebRequest (bodyBytes : Bytes) (url : String) : HttpRequest where
  url := url
  headers := [("Content-Type", "application/grpc-web"), ("X-Grpc-Web", "1")]
  body := bodyBytes

/-- Hand a request to `send` and learn how its exchange ends: `send` itself may fail. -/
def exchange (env : OcwEnv A) (request : HttpRequest) : Worker A ε Exchange := do
  let s ← Exec.get
  Exec.modify (·.send env request)
  pure (env.http s.posted.length)

/-- `fetch_from_remote_grpc_web`.  The content type is looked up before the status code is
checked; the loop over the headers only logs. -/
def fetchFromRemoteGrpcWeb (env : OcwEnv A) (bodyBytes : Bytes) (url : String) :
    Worker A HttpError (Bytes × GrpcWebContentType) := do
  match ← exchange env (grpcWebRequest bodyBytes url) with
  | .sendError => Exec.fail .ioError
  | .deadlineReached => Exec.fail .deadlineReached
  | .failed e => Exec.fail e
  | .response response =>
    let contentType ← unwrap (headersFind response.headers contentTypeName)
    if response.code ≠ 200 then Exec.fail .unknown
    else pure (response.body, contentTypeOf contentType)

/-- The URI root: an environment variable when native, a placeholder otherwise. -/
def uriRoot (env : OcwEnv A) (name : String) : Worker A ε String :=
  if env.std then unwrap (env.var name) else pure "PLACEHOLDER_no_std"

/-- What each `call_grpc_*` function of the two pallets does with its own messages,
environment variable and endpoint: encode the request, post it, decode the reply. -/
def callGrpc {I R : Type} (base64Decode : Bytes → Option Bytes) (env : OcwEnv A)
    (requestMessage : ProstMessage I) (replyMessage : ProstMessage R)
    (uriRootVar endpoint : String) (httpFetchingError : ε) (input : I) : Worker A ε R := do
  let bodyBytes := encodeBody requestMessage input
  let root ← uriRoot env uriRootVar
  let (respBytes, respContentType) ←
    Exec.mapErr (fun _ => httpFetchingError) (fetchFromRemoteGrpcWeb env bodyBytes (root ++ endpoint))
  let (resp, _trailers) ← decodeBody base64Decode replyMessage respBytes respContentType
  pure resp

/-- Two calls, as both pallets make them: either result is looked at only after both, and
an error of one of them is a panic. -/
def callBoth {R ε' : Type} (callMessage callPinpad : Worker A ε R) : Worker A ε' (R × R) := do
  let messageReply ← Exec.attempt callMessage
  let pinpadReply ← Exec.attempt callPinpad
  let messageReply ← Exec.expect "message_reply failed!" messageReply.toOption
  let pinpadReply ← Exec.expect "pinpad_reply failed!" pinpadReply.toOption
  pure (messageReply, pinpadReply)

/-! ## The job slot -/

/-- The off-chain record of a pallet: its codec, the value of an empty slot, the field
that tells a job from none, and the keys of the slot and of its lock. -/
structure JobSlot (J : Type) where
  codec : Codec J
  empty : J
  blockNumber : J → UInt32
  key : Bytes
  lockKey : Bytes
  fits_empty : codec.Fits empty
  blockNumber_empty : blockNumber empty = 0

/-- `StorageValueRef::get`, with an absent or undecodable value read as the empty record. -/
def JobSlot.read {J : Type} (slot : JobSlot J) (storage : Bytes → Option Bytes) : J :=
  ((storage slot.key).bind slot.codec.read).getD slot.empty

/-- The guard of a `StorageLock` is dropped: a panic drops it only where it unwinds, in the
native runtime. -/
def dropGuard (env : OcwEnv A) (lockKey : Bytes) :
    Ended (OcwState A) ε Unit → Ended (OcwState A) ε Unit
  | .ok a s => .ok a (s.setLock lockKey false)
  | .err e s => .err e (s.setLock lockKey false)
  | .trap msg s => .trap msg (if env.std then s.setLock lockKey false else s)

/-- A `StorageLock` held by its guard while `body` runs; nothing is run when it is taken. -/
def withStorageLock (env : OcwEnv A) (lockKey : Bytes) (body : Worker A ε Unit) :
    Worker A ε Unit := fun s =>
  if s.locked lockKey then .ok () s
  else dropGuard env lockKey (body (s.setLock lockKey true))

/-- `process_if_needed` of both pallets: read the slot, and under the lock reset it and
process the job. -/
def processIfNeededWith {J : Type} (env : OcwEnv A) (slot : JobSlot J)
    (process : J → Worker A ε Unit) : Worker A ε Unit := do
  let s ← Exec.get
  let indexingData := slot.read s.storage
  if slot.blockNumber indexingData = 0 then pure ()
  else withStorageLock env slot.lockKey do
    Exec.modify (·.put slot.key (slot.codec.encode slot.empty))
    process indexingData

/-- `send_signed_transaction` from all accounts of the keystore: the call is built once for
each of them. -/
def sendSignedTransaction (env : OcwEnv A) (call : Worker A ε Call) : Worker A ε Unit :=
  forM env.keystore fun account => do
    let call ← call
    Exec.modify (·.submit account call)

/-! ## What they do -/

/-- Everything that was posted left the node if no `send` failed. -/
theorem sentOf_eq_map_iff {exchanges : List (HttpRequest × Exchange)} :
    sentOf exchanges = exchanges.map Prod.fst ↔ ∀ x ∈ exchanges, x.2 ≠ .sendError := by
  constructor
  · intro h
    have hlength := congrArg List.length h
    rw [sentOf, List.length_map, List.length_map, List.length_filter_eq_length_iff] at hlength
    exact fun x hx => of_decide_eq_true (hlength x hx)
  · intro h
    rw [sentOf, List.filter_eq_self.mpr fun x hx => decide_eq_true (h x hx)]

namespace OcwState

section Put

variable (s : OcwState A) (key value : Bytes) (held : Bool)

@[simp] theorem put_storage_self : (s.put key value).storage key = some value :=
  Function.update_self ..

theorem put_storage_of_ne {key' : Bytes} (h : key' ≠ key) :
    (s.put key value).storage key' = s.storage key' := Function.update_of_ne h ..

@[simp] theorem put_locked : (s.put key value).locked = s.locked := rfl

@[simp] theorem setLock_storage : (s.setLock key held).storage = s.storage := rfl

@[simp] theorem setLock_locked_self : (s.setLock key held).locked key = held :=
  Function.update_self ..

end Put

section Posted

variable (s : OcwState A) (env : OcwEnv A) (request : HttpRequest)

@[simp] theorem posted_send : (s.send env request).posted = s.posted ++ [request] :=
  List.map_append

/-- The next exchange is the one after. -/
theorem length_posted_send : (s.send env request).posted.length = s.posted.length + 1 := by
  rw [posted_send, List.length_append, List.length_singleton]

/-- The exchanges of two requests in a row. -/
theorem exchanges_send_send (request' : HttpRequest) :
    ((s.send env request).send env request').exchanges = s.exchanges ++
      [(request, env.http s.posted.length), (request', env.http (s.posted.length + 1))] := by
  show (s.exchanges ++ _) ++ [(request', env.http (s.send env request).posted.length)] = _
  rw [length_posted_send, List.append_assoc]
  rfl

variable {s} {t : OcwState A} {exchanges : List (HttpRequest × Exchange)}

theorem posted_eq_append (h : t.exchanges = s.exchanges ++ exchanges) :
    t.posted = s.posted ++ exchanges.map Prod.fst := by
  rw [posted, h, List.map_append]
  rfl

theorem posted_prefix (h : s.exchanges <+: t.exchanges) : s.posted <+: t.posted := h.map Prod.fst

theorem sent_prefix (h : s.exchanges <+: t.exchanges) : s.sent <+: t.sent := (h.filter _).map Prod.fst

theorem sent_eq_append (h : t.exchanges = s.exchanges ++ exchanges) :
    t.sent = s.sent ++ sentOf exchanges := by
  rw [sent, h, sentOf, List.filter_append, List.map_append]
  rfl

/-- Two more requests whose `send` did not fail. -/
theorem sent_eq_append_pair {p q : HttpRequest} {ex ex' : Exchange}
    (h : t.exchanges = s.exchanges ++ [(p, ex), (q, ex')]) (hex : ex ≠ .sendError)
    (hex' : ex' ≠ .sendError) : t.sent = s.sent ++ [p, q] := by
  have hall : ∀ x ∈ [(p, ex), (q, ex')], x.2 ≠ Exchange.sendError := by
    intro x hx
    rcases List.mem_pair.mp hx with rfl | rfl
    · exact hex
    · exact hex'
  rw [sent_eq_append h, sentOf_eq_map_iff.mpr hall]
  rfl

end Posted

/-- Requests are handed to `send`, and nothing else changes. -/
structure Sends (s t : OcwState A) : Prop where
  storage : t.storage = s.storage
  locked : t.locked = s.locked
  exchanges : s.exchanges <+: t.exchanges
  submitted : t.submitted = s.submitted

theorem Sends.refl (s : OcwState A) : Sends s s := ⟨rfl, rfl, List.prefix_rfl, rfl⟩

theorem Sends.trans (s t u : OcwState A) (h : Sends s t) (h' : Sends t u) : Sends s u where
  storage := h'.storage.trans h.storage
  locked := h'.locked.trans h.locked
  exchanges := h.exchanges.trans h'.exchanges
  submitted := h'.submitted.trans h.submitted

theorem sends_send (env : OcwEnv A) (request : HttpRequest) (s : OcwState A) :
    Sends s (s.send env request) := ⟨rfl, rfl, List.prefix_append _ _, rfl⟩

/-- Requests are handed to `send` and transactions submitted, and nothing else changes. -/
structure Extends (s t : OcwState A) : Prop where
  storage : t.storage = s.storage
  locked : t.locked = s.locked
  exchanges : s.exchanges <+: t.exchanges
  submitted : s.submitted <+: t.submitted

theorem Extends.refl (s : OcwState A) : Extends s s :=
  ⟨rfl, rfl, List.prefix_rfl, List.prefix_rfl⟩

theorem Extends.trans (s t u : OcwState A) (h : Extends s t) (h' : Extends t u) : Extends s u where
  storage := h'.storage.trans h.storage
  locked := h'.locked.trans h.locked
  exchanges := h.exchanges.trans h'.exchanges
  submitted := h.submitted.trans h'.submitted

theorem Sends.toExtends (s t : OcwState A) (h : Sends s t) : Extends s t where
  storage := h.storage
  locked := h.locked
  exchanges := h.exchanges
  submitted := h.submitted ▸ List.prefix_rfl

theorem extends_submit (who : A) (call : Call) (s : OcwState A) : Extends s (s.submit who call) :=
  ⟨rfl, rfl, List.prefix_rfl, List.prefix_append _ _⟩

end OcwState

section CallBoth

variable {R ε' : Type} {callMessage callPinpad : Worker A ε R} {s s' : OcwState A}

/-- Two calls return when both do. -/
theorem callBoth_eq_ok_iff {r : R × R} :
    (callBoth callMessage callPinpad : Worker A ε' (R × R)) s = .ok r s' ↔
      ∃ t, callMessage s = .ok r.1 t ∧ callPinpad t = .ok r.2 s' := by
  unfold callBoth
  rw [Exec.bind_apply, Exec.attempt]
  cases hmessage : callMessage s with
  | trap msg t => simp
  | err e t =>
    rw [Ended.andThen_ok, Exec.bind_apply, Exec.attempt]
    cases callPinpad t <;> simp [Except.toOption, -bind_pure_comp]
  | ok a t =>
    rw [Ended.andThen_ok, Exec.bind_apply, Exec.attempt]
    cases hpinpad : callPinpad t with
    | trap msg u => simp [hpinpad]
    | err e u => simp [hpinpad, Except.toOption, -bind_pure_comp]
    | ok b u =>
      simp only [Ended.andThen_ok, Except.toOption, Exec.bind_apply, Exec.expect_some,
        Exec.pure_apply, Ended.ok.injEq]
      constructor
      · rintro ⟨rfl, rfl⟩
        exact ⟨t, ⟨rfl, rfl⟩, hpinpad⟩
      · rintro ⟨t', ⟨rfl, rfl⟩, h⟩
        rw [hpinpad, Ended.ok.injEq] at h
        obtain ⟨rfl, rfl⟩ := h
        exact ⟨rfl, rfl⟩

/-- **Two calls never return an error.** -/
theorem callBoth_ne_err (callMessage callPinpad : Worker A ε R) (s s' : OcwState A) (e : ε') :
    callBoth callMessage callPinpad s ≠ .err e s' := by
  unfold callBoth
  rw [Exec.bind_apply, Exec.attempt]
  -- an error of either call is a panic once both have been made
  cases callMessage s with
  | trap msg t => simp
  | err e t =>
    rw [Ended.andThen_ok, Exec.bind_apply, Exec.attempt]
    cases callPinpad t <;> simp [Except.toOption, -bind_pure_comp]
  | ok a t =>
    rw [Ended.andThen_ok, Exec.bind_apply, Exec.attempt]
    cases callPinpad t <;> simp [Except.toOption, -bind_pure_comp]

/-- A call that stops the worker keeps two calls from ending. -/
theorem callBoth_trap (s : OcwState A)
    (h : (∀ t, ∃ msg t', callMessage t = .trap msg t') ∨
      ∀ t, ∃ msg t', callPinpad t = .trap msg t') :
    ∃ msg s', (callBoth callMessage callPinpad : Worker A ε' (R × R)) s = .trap msg s' := by
  rcases hboth : (callBoth callMessage callPinpad : Worker A ε' (R × R)) s with r | e | msg
  · obtain ⟨t, hmessage, hpinpad⟩ := callBoth_eq_ok_iff.mp hboth
    rcases h with h | h
    · obtain ⟨msg, t', ht⟩ := h s
      cases ht.symm.trans hmessage
    · obtain ⟨msg, t', ht⟩ := h t
      cases ht.symm.trans hpinpad
  · exact absurd hboth (callBoth_ne_err _ _ _ _ _)
  · exact ⟨_, _, rfl⟩

end CallBoth

section Within

variable {R : OcwState A → OcwState A → Prop} (hrefl : ∀ s, R s s)
  (htrans : ∀ s t u, R s t → R t u → R s u)

include hrefl htrans

/-- Two calls relate their states as each of them does. -/
theorem within_callBoth {T ε' : Type} {callMessage callPinpad : Worker A ε T}
    (hmessage : Exec.Within R callMessage) (hpinpad : Exec.Within R callPinpad) :
    Exec.Within R (callBoth callMessage callPinpad : Worker A ε' (T × T)) := by
  refine Exec.within_bind htrans (Exec.within_attempt hmessage) fun _ => ?_
  refine Exec.within_bind htrans (Exec.within_attempt hpinpad) fun _ => ?_
  refine Exec.within_bind htrans (Exec.within_expect hrefl _ _) fun _ => ?_
  refine Exec.within_bind htrans (Exec.within_expect hrefl _ _) fun _ => ?_
  exact Exec.within_pure hrefl _

/-- Submitting adds transactions, however it ends. -/
theorem within_sendSignedTransaction (hsubmit : ∀ who c s, R s (s.submit who c)) (env : OcwEnv A)
    {call : Worker A ε Call} (h : Exec.Within R call) :
    Exec.Within R (sendSignedTransaction env call) := by
  refine Exec.within_forM hrefl htrans fun account => ?_
  refine Exec.within_bind htrans h fun c => ?_
  exact Exec.within_modify (hsubmit account c)

end Within

/-- **A call that can be built is submitted once for every account of the keystore.** -/
theorem sendSignedTransaction_of_ok (env : OcwEnv A) {call : Worker A ε Call} {c : Call}
    (h : ∀ s, call s = .ok c s) (s : OcwState A) :
    sendSignedTransaction env call s =
      .ok () { s with submitted := s.submitted ++ env.keystore.map fun account => (account, c) } := by
  unfold sendSignedTransaction
  -- on the accounts: each one submits, and leaves the rest to those after it
  generalize env.keystore = accounts
  induction accounts generalizing s with
  | nil => simp
  | cons account accounts ih =>
    rw [List.forM_cons, Exec.bind_apply, Exec.bind_apply, h, Ended.andThen_ok, Exec.modify_apply,
      Ended.andThen_ok, ih, OcwState.submit]
    simp

/-- A call that cannot be built stops the worker, unless no account would sign it. -/
theorem sendSignedTransaction_of_trap (env : OcwEnv A) {call : Worker A ε Call} {msg : String}
    {s : OcwState A} (h : call s = .trap msg s) :
    sendSignedTransaction env call s =
      if env.keystore = [] then .ok () s else .trap msg s := by
  unfold sendSignedTransaction
  rcases env.keystore with _ | ⟨account, accounts⟩
  · rfl
  · rw [List.forM_cons, Exec.bind_apply, Exec.bind_apply, h]
    simp

namespace JobSlot

variable {J : Type}

/-- The job a slot holds, if it holds one. -/
def job (slot : JobSlot J) (storage : Bytes → Option Bytes) : Option J :=
  if slot.blockNumber (slot.read storage) = 0 then none else some (slot.read storage)

theorem job_eq_some_iff {slot : JobSlot J} {storage : Bytes → Option Bytes} {d : J} :
    slot.job storage = some d ↔ slot.read storage = d ∧ slot.blockNumber d ≠ 0 := by
  unfold job
  split
  · rename_i h
    refine iff_of_false (by simp) ?_
    rintro ⟨rfl, hne⟩
    exact hne h
  · rename_i h
    constructor
    · intro heq
      obtain rfl := Option.some_inj.mp heq
      exact ⟨rfl, h⟩
    · rintro ⟨rfl, -⟩
      rfl

theorem job_eq_none_iff {slot : JobSlot J} {storage : Bytes → Option Bytes} :
    slot.job storage = none ↔ slot.blockNumber (slot.read storage) = 0 := by
  unfold job
  split <;> simp_all

/-- A record that fits is read back. -/
theorem read_put (slot : JobSlot J) {d : J} (h : slot.codec.Fits d) (s : OcwState A) :
    slot.read (s.put slot.key (slot.codec.encode d)).storage = d := by
  rw [read, OcwState.put_storage_self, Option.bind_some, Codec.read_encode _ h]
  rfl

/-- A slot only depends on what its key holds. -/
theorem job_congr (slot : JobSlot J) {storage storage' : Bytes → Option Bytes}
    (h : storage slot.key = storage' slot.key) : slot.job storage = slot.job storage' := by
  unfold job read
  rw [h]

/-- A job that is written is held. -/
theorem job_put (slot : JobSlot J) {d : J} (h : slot.codec.Fits d) (hd : slot.blockNumber d ≠ 0)
    (s : OcwState A) : slot.job (s.put slot.key (slot.codec.encode d)).storage = some d :=
  job_eq_some_iff.mpr ⟨slot.read_put h s, hd⟩

/-- A reset slot holds no job. -/
theorem job_reset (slot : JobSlot J) (s : OcwState A) :
    slot.job (s.put slot.key (slot.codec.encode slot.empty)).storage = none := by
  rw [job_eq_none_iff, slot.read_put slot.fits_empty, slot.blockNumber_empty]

/-- Nothing to do: there is no job, or another worker holds the lock. -/
def Idle (slot : JobSlot J) (s : OcwState A) : Prop :=
  slot.blockNumber (slot.read s.storage) = 0 ∨ s.locked slot.lockKey = true

instance (slot : JobSlot J) (s : OcwState A) : Decidable (slot.Idle s) :=
  inferInstanceAs (Decidable (_ ∨ _))

/-- The state a job is processed in: the lock is taken and the slot reset. -/
def take (slot : JobSlot J) (s : OcwState A) : OcwState A :=
  (s.setLock slot.lockKey true).put slot.key (slot.codec.encode slot.empty)

end JobSlot

/-- Dropping the guard releases the lock, or leaves everything as it is. -/
theorem dropGuard_state (env : OcwEnv A) (lockKey : Bytes) (x : Ended (OcwState A) ε Unit) :
    (dropGuard env lockKey x).state = x.state.setLock lockKey false ∨
      (dropGuard env lockKey x).state = x.state := by
  rcases x with ⟨_, s⟩ | ⟨e, s⟩ | ⟨msg, s⟩
  · exact Or.inl rfl
  · exact Or.inl rfl
  · rw [dropGuard]
    cases env.std
    · exact Or.inr rfl
    · exact Or.inl rfl

theorem dropGuard_exchanges (env : OcwEnv A) (lockKey : Bytes) (x : Ended (OcwState A) ε Unit) :
    (dropGuard env lockKey x).state.exchanges = x.state.exchanges := by
  rcases dropGuard_state env lockKey x with h | h
  · rw [h]
    rfl
  · rw [h]

theorem dropGuard_submitted (env : OcwEnv A) (lockKey : Bytes) (x : Ended (OcwState A) ε Unit) :
    (dropGuard env lockKey x).state.submitted = x.state.submitted := by
  rcases dropGuard_state env lockKey x with h | h
  · rw [h]
    rfl
  · rw [h]

theorem dropGuard_storage (env : OcwEnv A) (lockKey : Bytes) (x : Ended (OcwState A) ε Unit) :
    (dropGuard env lockKey x).state.storage = x.state.storage := by
  rcases dropGuard_state env lockKey x with h | h
  · rw [h]
    rfl
  · rw [h]

section Slot

variable {J : Type} (env : OcwEnv A) (slot : JobSlot J) (process : J → Worker A ε Unit)

theorem processIfNeededWith_idle {s : OcwState A} (h : slot.Idle s) :
    processIfNeededWith env slot process s = .ok () s := by
  unfold processIfNeededWith
  rw [Exec.bind_apply, Exec.get_apply, Ended.andThen_ok, Exec.ite_apply]
  by_cases hjob : slot.blockNumber (slot.read s.storage) = 0
  · rw [if_pos hjob]
    rfl
  · have hlocked : s.locked slot.lockKey = true := h.resolve_left hjob
    rw [if_neg hjob, withStorageLock, if_pos hlocked]

/-- **A job is processed** with the lock taken and the slot already reset. -/
theorem processIfNeededWith_busy {s : OcwState A} (h : ¬ slot.Idle s) :
    processIfNeededWith env slot process s =
      dropGuard env slot.lockKey (process (slot.read s.storage) (slot.take s)) := by
  obtain ⟨hjob, hlocked⟩ := not_or.mp h
  unfold processIfNeededWith
  rw [Exec.bind_apply, Exec.get_apply, Ended.andThen_ok, Exec.ite_apply, if_neg hjob,
    withStorageLock, if_neg hlocked]
  rfl

/-! ### Processing that sends and submits -/

variable {slot process}
variable (hprocess : ∀ d, Exec.Within OcwState.Extends (process d))

include hprocess

/-- The storage after a job: the slot is reset, and nothing else is written. -/
theorem processIfNeededWith_storage {s : OcwState A} (h : ¬ slot.Idle s) :
    (processIfNeededWith env slot process s).state.storage = (slot.take s).storage := by
  rw [processIfNeededWith_busy env slot process h, dropGuard_storage]
  exact (hprocess _ _).storage

/-- A run writes to its own slot only. -/
theorem processIfNeededWith_storage_of_ne (s : OcwState A) {key : Bytes} (hkey : key ≠ slot.key) :
    (processIfNeededWith env slot process s).state.storage key = s.storage key := by
  by_cases h : slot.Idle s
  · rw [processIfNeededWith_idle env slot process h]
    rfl
  · rw [processIfNeededWith_storage env hprocess h]
    exact OcwState.put_storage_of_ne _ _ _ hkey

/-- A run with a job leaves an empty slot. -/
theorem job_processIfNeededWith {s : OcwState A} (h : ¬ slot.Idle s) :
    slot.job (processIfNeededWith env slot process s).state.storage = none := by
  rw [processIfNeededWith_storage env hprocess h]
  exact slot.job_reset _

/-- Exchanges are only added. -/
theorem processIfNeededWith_exchanges (s : OcwState A) :
    s.exchanges <+: (processIfNeededWith env slot process s).state.exchanges := by
  by_cases h : slot.Idle s
  · rw [processIfNeededWith_idle env slot process h]
    exact List.prefix_rfl
  · rw [processIfNeededWith_busy env slot process h, dropGuard_exchanges]
    exact (hprocess _ (slot.take s)).exchanges

end Slot

end OffchainWorkerDemo
