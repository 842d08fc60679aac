/-
# From the display circuits to a usable code

A request for the display circuits, the run of the circuits worker that takes its job
and the callback that publishes the two cids the server replies; then a round of the
garbling pallet on these circuits.  Whatever the two workers submit, the signer of the
second callback can pass `check_input` in the end (`display_then_garble`).
-/
import OffchainWorkerDemo.Pipeline
import OffchainWorkerDemo.WorkerRuns

namespace OffchainWorkerDemo

variable {A : Type} [DecidableEq A]

namespace OcwCircuits

/-! ## The job of the display circuits -/

omit [DecidableEq A] in
/-- **A display job whose exchanges bring replies with their metadata**: two requests are posted,
and the callback is submitted once for every key. -/
theorem processIfNeeded_display {api : Api} {env : OcwEnv A} {s : OcwState A}
    (hidle : ¬ slot.Idle s) (hrequests : requestsOf (slot.read s.storage) = some .display)
    {root : String} (hroot : env.root uriRootVarDisplay = some root)
    {messageReply pinpadReply : SkcdDisplayReply}
    (hmessage : AcceptedReply api.base64Decode api.skcdDisplayReply (env.http s.posted.length)
      messageReply)
    (hpinpad : AcceptedReply api.base64Decode api.skcdDisplayReply (env.http (s.posted.length + 1))
      pinpadReply) {messageMetadata pinpadMetadata : SkcdServerMetadata}
    (hm : messageReply.serverMetadata = some messageMetadata)
    (hp : pinpadReply.serverMetadata = some pinpadMetadata) :
    (processIfNeeded api env s).state.exchanges = s.exchanges ++
      [(displayPost api root messageDisplayRequest, env.http s.posted.length),
        (displayPost api root pinpadDisplayRequest, env.http (s.posted.length + 1))] ∧
    (processIfNeeded api env s).state.submitted =
      s.submitted ++ env.keystore.map fun account =>
        (account, .callbackNewDisplayCircuitsPackageSigned (utf8Bytes messageReply.skcdCid)
          messageMetadata.nbDigits (utf8Bytes pinpadReply.skcdCid) pinpadMetadata.nbDigits) := by
  let called := ((slot.take s).send env (displayPost api root messageDisplayRequest)).send env
    (displayPost api root pinpadDisplayRequest)
  have hcall : callGrpcOf api env (slot.read s.storage) (slot.take s) =
      .ok (.display messageReply pinpadReply) called := by
    rw [callGrpcOf_of_requests hrequests]
    exact call_display_of_accepted hroot hmessage hpinpad
  have hsend : (finalizeGrpcCall env (.ok (.display messageReply pinpadReply)) :
      Worker A Error Unit) called = .ok () _ :=
    sendSignedTransaction_of_ok env (callbackOf_display hm hp) called
  rw [processIfNeeded, processIfNeededWith_busy env slot _ hidle, dropGuard_exchanges,
    dropGuard_submitted, processJob, Exec.bind_apply, Exec.attempt, hcall, Ended.andThen_ok, hsend]
  refine ⟨?_, rfl⟩
  exact OcwState.exchanges_send_send (slot.take s) env _ _

end OcwCircuits

/-! ## A display round -/

/-- Who asks for the display circuits, who signs the callback, and what the three steps are run
with. -/
structure DisplayRound (A : Type) where
  requestEnv : Env
  requester : A
  workerEnv : OcwEnv A
  callbackEnv : Env
  signer : A

namespace DisplayRound

/-- The request. -/
def request (d : DisplayRound A) : SignedCall A where
  env := d.requestEnv
  who := d.requester
  call := .submitConfigDisplayCircuitsPackageSigned

section

variable (garbleApi : OcwGarble.Api) (circuitsApi : OcwCircuits.Api)

/-- The node after the request and the run of the worker. -/
def asked (d : DisplayRound A) (s : Node A) : Node A :=
  Node.run garbleApi circuitsApi s [.call d.request, .circuitsWorker d.workerEnv]

/-- The run submits this call for the signer. -/
def Submits (d : DisplayRound A) (s : Node A) (call : Call) : Prop :=
  (d.signer, call) ∈
    (d.asked garbleApi circuitsApi s).ocw.submitted.drop s.ocw.submitted.length

/-- The call, signed by the signer. -/
def signed (d : DisplayRound A) (call : Call) : SignedCall A := ⟨d.callbackEnv, d.signer, call⟩

/-- The node after the call of the signer. -/
def answered (d : DisplayRound A) (s : Node A) (call : Call) : Node A :=
  Node.step garbleApi circuitsApi (d.asked garbleApi circuitsApi s) (.call (d.signed call))

end

/-- What the server replies: two cids, each with its number of digits. -/
structure Replies where
  messageCid : Str
  messageNbDigits : UInt32
  pinpadCid : Str
  pinpadNbDigits : UInt32

/-- The reply for the message circuit. -/
def Replies.message (replies : Replies) : OcwCircuits.SkcdDisplayReply :=
  ⟨replies.messageCid, some ⟨replies.messageNbDigits⟩⟩

/-- The reply for the pinpad circuit. -/
def Replies.pinpad (replies : Replies) : OcwCircuits.SkcdDisplayReply :=
  ⟨replies.pinpadCid, some ⟨replies.pinpadNbDigits⟩⟩

/-- The callback that publishes the replies. -/
def Replies.callback (replies : Replies) : Call :=
  .callbackNewDisplayCircuitsPackageSigned (utf8Bytes replies.messageCid) replies.messageNbDigits
    (utf8Bytes replies.pinpadCid) replies.pinpadNbDigits

/-- The worker is free and configured, the signer's key is in its keystore, and both exchanges
bring a reply with a storable cid and some digits. -/
structure Served (d : DisplayRound A) (circuitsApi : OcwCircuits.Api) (s : Node A) (root : String)
    (replies : Replies) : Prop where
  unlocked : s.ocw.locked OcwCircuits.slot.lockKey = false
  root : d.workerEnv.root OcwCircuits.uriRootVarDisplay = some root
  key : d.signer ∈ d.workerEnv.keystore
  message : AcceptedReply circuitsApi.base64Decode circuitsApi.skcdDisplayReply
    (d.workerEnv.http s.ocw.posted.length) replies.message
  pinpad : AcceptedReply circuitsApi.base64Decode circuitsApi.skcdDisplayReply
    (d.workerEnv.http (s.ocw.posted.length + 1)) replies.pinpad
  messageCid : (utf8Bytes replies.messageCid).length ≤ 64
  pinpadCid : (utf8Bytes replies.pinpadCid).length ≤ 64
  messageNbDigits : replies.messageNbDigits ≠ 0
  pinpadNbDigits : replies.pinpadNbDigits ≠ 0

variable {garbleApi : OcwGarble.Api} {circuitsApi : OcwCircuits.Api} {d : DisplayRound A}
  {s : Node A} {root : String} {replies : Replies}

/-- The node once the request is in. -/
theorem step_request (d : DisplayRound A) (s : Node A) :
    (Node.step garbleApi circuitsApi s (.call d.request)).ocw =
      s.ocw.put OcwCircuits.slot.key (OcwCircuits.slot.codec.encode OcwCircuits.displayJob) := by
  have hwrites : (d.request.writes s.chain).index =
      [(OcwCircuits.slot.key, OcwCircuits.slot.codec.encode OcwCircuits.displayJob)] := rfl
  rw [Node.step, SignedCall.indexed_eq, hwrites]
  rfl

/-- **The run of the worker**: two exchanges, and the callback for every key. -/
theorem processIfNeeded_of_served (h : d.Served circuitsApi s root replies) :
    let ocw := (d.asked garbleApi circuitsApi s).ocw
    ocw.exchanges = s.ocw.exchanges ++
      [(OcwCircuits.displayPost circuitsApi root OcwCircuits.messageDisplayRequest,
          d.workerEnv.http s.ocw.posted.length),
        (OcwCircuits.displayPost circuitsApi root OcwCircuits.pinpadDisplayRequest,
          d.workerEnv.http (s.ocw.posted.length + 1))] ∧
    ocw.submitted = s.ocw.submitted ++
      d.workerEnv.keystore.map fun account => (account, replies.callback) := by
  intro ocw
  have hfits : OcwCircuits.slot.codec.Fits OcwCircuits.displayJob := by decide
  -- the worker finds the job and the lock free
  generalize hs₁ : s.ocw.put OcwCircuits.slot.key
    (OcwCircuits.slot.codec.encode OcwCircuits.displayJob) = s₁
  have hread : OcwCircuits.slot.read s₁.storage = OcwCircuits.displayJob := by
    rw [← hs₁]
    exact OcwCircuits.slot.read_put hfits s.ocw
  have hidle : ¬ OcwCircuits.slot.Idle s₁ := by
    rintro (hzero | hlocked)
    · rw [hread] at hzero
      exact absurd hzero (by decide : OcwCircuits.slot.blockNumber OcwCircuits.displayJob ≠ 0)
    · rw [← hs₁] at hlocked
      exact Bool.false_ne_true (h.unlocked.symm.trans hlocked)
  have hocw : ocw = (OcwCircuits.processIfNeeded circuitsApi d.workerEnv s₁).state := by
    have hstep := @step_request A _ garbleApi circuitsApi d s
    rw [← hs₁, ← hstep]
    rfl
  have hexchanges : s₁.exchanges = s.ocw.exchanges := by rw [← hs₁]; rfl
  have hposted : s₁.posted = s.ocw.posted := congrArg (List.map Prod.fst) hexchanges
  have hsubmitted : s₁.submitted = s.ocw.submitted := by rw [← hs₁]; rfl
  have hmessage := h.message
  have hpinpad := h.pinpad
  rw [← hposted] at hmessage hpinpad
  have hrequests : OcwCircuits.requestsOf (OcwCircuits.slot.read s₁.storage) = some .display := by
    rw [hread]
    rfl
  have hrun := OcwCircuits.processIfNeeded_display hidle hrequests h.root hmessage hpinpad rfl rfl
  rw [hexchanges, hposted, hsubmitted, ← hocw] at hrun
  exact hrun

/-- **The two requests are sent**, the message first. -/
theorem sent_of_served (h : d.Served circuitsApi s root replies) :
    (d.asked garbleApi circuitsApi s).ocw.sent = s.ocw.sent ++
      [OcwCircuits.displayPost circuitsApi root OcwCircuits.messageDisplayRequest,
        OcwCircuits.displayPost circuitsApi root OcwCircuits.pinpadDisplayRequest] := by
  obtain ⟨hexchanges, -⟩ := @processIfNeeded_of_served A _ garbleApi circuitsApi _ _ _ _ h
  exact OcwState.sent_eq_append_pair hexchanges h.message.ne_sendError h.pinpad.ne_sendError

/-- The run submits the callback of the replies for the signer, and no other call. -/
theorem submits_iff (h : d.Served circuitsApi s root replies) {call : Call} :
    d.Submits garbleApi circuitsApi s call ↔ call = replies.callback := by
  obtain ⟨-, hsubmitted⟩ := @processIfNeeded_of_served A _ garbleApi circuitsApi _ _ _ _ h
  rw [Submits, hsubmitted, List.drop_left, List.mem_map]
  constructor
  · rintro ⟨account, -, heq⟩
    exact (Prod.mk.inj heq).2.symm
  · rintro rfl
    exact ⟨d.signer, h.key, rfl⟩

/-- **The callback makes its package ready**, and sends nothing. -/
theorem ready_answered (h : d.Served circuitsApi s root replies) :
    (∃ pkg, Round.Ready (d.answered garbleApi circuitsApi s replies.callback) pkg
      replies.messageCid replies.pinpadCid) ∧
    (d.answered garbleApi circuitsApi s replies.callback).ocw =
      (d.asked garbleApi circuitsApi s).ocw := by
  have hlog : LogOk d.callbackEnv [(utf8Bytes replies.messageCid, "message_skcd_cid utf8"),
      (utf8Bytes replies.pinpadCid, "pinpad_skcd_cid utf8")] := by
    intro _ arg harg
    rcases List.mem_pair.mp harg with rfl | rfl
    · exact isUtf8_utf8Bytes replies.messageCid
    · exact isUtf8_utf8Bytes replies.pinpadCid
  obtain ⟨pkg, hpkg⟩ := Option.isSome_iff_exists.mp
    (OcwCircuits.displayEntry_isSome_iff.mpr ⟨h.messageCid, h.pinpadCid⟩)
  have hok : (d.signed replies.callback).result (d.asked garbleApi circuitsApi s).chain =
      some (.ok ()) := by
    rw [SignedCall.result_eq, signed, Replies.callback, effect, if_pos hlog, hpkg]
    rfl
  obtain ⟨hready, hocw, -⟩ := @Round.ready_of_display A _ garbleApi circuitsApi
    (d.asked garbleApi circuitsApi s) _ _ _ _ _ rfl hok h.messageNbDigits h.pinpadNbDigits
  exact ⟨hready, hocw⟩

/-- A native round leaves the locks as they were. -/
theorem locked_answered (hstd : d.workerEnv.std = true) (s : Node A) (call : Call) :
    (d.answered garbleApi circuitsApi s call).ocw.locked = s.ocw.locked := by
  have hrequest := @Node.locked_step A _ garbleApi circuitsApi s (.call d.request) trivial
  have hworker := @Node.locked_step A _ garbleApi circuitsApi
    (Node.step garbleApi circuitsApi s (.call d.request)) (.circuitsWorker d.workerEnv) hstd
  have hcallback := @Node.locked_step A _ garbleApi circuitsApi (d.asked garbleApi circuitsApi s)
    (.call (d.signed call)) trivial
  exact hcallback.trans (hworker.trans hrequest)

end DisplayRound

/-! ## In between -/

/-- The event is a display callback, which replaces the display package. -/
def NodeEvent.Displays : NodeEvent A → Prop
  | .call ⟨_, _, .callbackNewDisplayCircuitsPackageSigned ..⟩ => True
  | _ => False

section Between

variable {garbleApi : OcwGarble.Api} {circuitsApi : OcwCircuits.Api} {s : Node A}
  {pkg : DisplaySkcdPackage} {messageCid pinpadCid : Str}

/-- Only a display callback writes the display package. -/
theorem SignedCall.display_apply_of_not_displays {x : SignedCall A}
    (hx : ¬ NodeEvent.Displays (.call x)) (c : Chain A) :
    (x.apply c).displaySkcdPackageValue = c.displaySkcdPackageValue := by
  rw [SignedCall.display_apply]
  rcases x.writes_cases c with ⟨-, hwrites⟩ | ⟨r, -, hmakes⟩
  · rw [hwrites]
    rfl
  · revert hmakes
    generalize x.writes c = e
    intro hmakes
    rcases x with ⟨env, who, call⟩
    cases hmakes with
    | callbackNewDisplay => exact absurd trivial hx
    | _ => rfl

/-- The display package stays ready. -/
theorem Round.Ready.step (h : Round.Ready s pkg messageCid pinpadCid) {e : NodeEvent A}
    (he : ¬ e.Displays) : Round.Ready (Node.step garbleApi circuitsApi s e) pkg messageCid pinpadCid := by
  rcases e with x | env | env
  · have hvalue := SignedCall.display_apply_of_not_displays he s.chain
    refine ⟨?_, h.message, h.pinpad⟩
    show OcwCircuits.getDisplayCircuitsPackage (x.apply s.chain) = .ok pkg
    rw [OcwCircuits.getDisplayCircuitsPackage, hvalue]
    exact h.package
  · exact ⟨h.package, h.message, h.pinpad⟩
  · exact ⟨h.package, h.message, h.pinpad⟩

theorem Round.Ready.run (h : Round.Ready s pkg messageCid pinpadCid) {es : List (NodeEvent A)}
    (hes : ∀ e ∈ es, ¬ e.Displays) :
    Round.Ready (Node.run garbleApi circuitsApi s es) pkg messageCid pinpadCid := by
  induction es generalizing s with
  | nil => exact h
  | cons e es ih =>
    obtain ⟨he, hes⟩ := List.forall_mem_cons.mp hes
    exact ih (h.step he) hes

/-- What was sent before comes first. -/
theorem Node.sent_run (garbleApi : OcwGarble.Api) (circuitsApi : OcwCircuits.Api) (s : Node A)
    (es : List (NodeEvent A)) : s.ocw.sent <+: (Node.run garbleApi circuitsApi s es).ocw.sent := by
  induction es generalizing s with
  | nil => exact List.prefix_rfl
  | cons e es ih =>
    have hstep := OcwState.sent_prefix (Node.exchanges_step garbleApi circuitsApi s e)
    exact hstep.trans (ih _)

end Between

/-! ## The two rounds -/

/-- **The server's circuits become a usable code.**  After a display round, and until another
display callback is made, every garbling round has the circuits garbled whose cids the circuits
server replied, the message with the text and its digits, the pinpad with its own, each in a
gRPC-web data frame; and whatever it submits for its signer lets the signer pass `check_input` with
a code for the digits drawn. -/
theorem display_then_garble (garbleApi : OcwGarble.Api) (circuitsApi : OcwCircuits.Api) (s : Node A)
    (d : DisplayRound A) {circuitsRoot : String} {replies : DisplayRound.Replies}
    (hd : d.Served circuitsApi s circuitsRoot replies) :
    let displayPost (message : OcwCircuits.SkcdDisplayRequest) : HttpRequest :=
      let payload := circuitsApi.skcdDisplayRequest.encode message
      { url := circuitsRoot ++ "/interstellarpbapicircuits.SkcdApi/GenerateSkcdDisplay"
        headers := [("Content-Type", "application/grpc-web"), ("X-Grpc-Web", "1")]
        body := 0 :: (beU32 payload.length ++ payload) }
    (∃ call, d.Submits garbleApi circuitsApi s call) ∧
    ∀ call, d.Submits garbleApi circuitsApi s call →
      let displayed := d.answered garbleApi circuitsApi s call
      ∀ es : List (NodeEvent A), (∀ e ∈ es, ¬ e.Displays) →
      let later := Node.run garbleApi circuitsApi displayed es
      ∀ (r : Round A) root messageReply pinpadReply,
        r.Served garbleApi later root messageReply pinpadReply →
        let digits := r.digits later
        let garblePost (message : OcwGarble.GarbleAndStripIpfsRequest) : HttpRequest :=
          let payload := garbleApi.garbleAndStripIpfsRequest.encode message
          { url := root ++ "/interstellarpbapigarble.GarbleApi/GarbleAndStripIpfs"
            headers := [("Content-Type", "application/grpc-web"), ("X-Grpc-Web", "1")]
            body := 0 :: (beU32 payload.length ++ payload) }
        displayed.ocw.sent = s.ocw.sent ++ [displayPost OcwCircuits.messageDisplayRequest,
          displayPost OcwCircuits.pinpadDisplayRequest] ∧
        displayed.ocw.sent <+: later.ocw.sent ∧
        (r.asked garbleApi circuitsApi later).ocw.sent = later.ocw.sent ++
          [garblePost ⟨replies.messageCid, r.txMsg, some ⟨digits.1⟩⟩,
            garblePost ⟨replies.pinpadCid, [], some ⟨digits.2⟩⟩] ∧
        (∃ call', r.Submits garbleApi circuitsApi later call') ∧
        ∀ call', r.Submits garbleApi circuitsApi later call' →
          Round.Reaches later.chain (r.answered garbleApi circuitsApi later call').chain
            r.signer messageReply pinpadReply digits := by
  intro displayPost
  have hsubmits := fun call => @DisplayRound.submits_iff A _ garbleApi circuitsApi d s _ _ hd call
  refine ⟨⟨_, (hsubmits _).mpr rfl⟩, ?_⟩
  intro call hcall displayed es hes later r root messageReply pinpadReply hr digits garblePost
  obtain rfl := (hsubmits call).mp hcall
  have hdisplayPost : OcwCircuits.displayPost circuitsApi circuitsRoot = displayPost :=
    funext fun message => OcwCircuits.displayPost_eq circuitsApi circuitsRoot message
  have hgarblePost : OcwGarble.stripPost garbleApi root = garblePost :=
    funext fun message => OcwGarble.stripPost_eq garbleApi root message
  obtain ⟨⟨pkg, hdisplayed⟩, hocw⟩ := @DisplayRound.ready_answered A _ garbleApi circuitsApi d s _ _ hd
  have hready := @Round.Ready.run A _ garbleApi circuitsApi _ _ _ _ hdisplayed es hes
  have hgarbles := fun call' => @Round.submits_iff A _ garbleApi circuitsApi _ _ _ _ _ _ _ _ hr
    hready call'
  refine ⟨?_, Node.sent_run garbleApi circuitsApi displayed es, ?_, ⟨_, (hgarbles _).mpr rfl⟩, ?_⟩
  · rw [← hdisplayPost, show displayed.ocw = _ from hocw]
    exact DisplayRound.sent_of_served hd
  · rw [← hgarblePost]
    exact Round.sent_of_served hr hready
  · intro call' hcall'
    rw [(hgarbles call').mp hcall']
    exact (Round.publishes_answered hr hready).reaches

/-- A number below 2^14 as protobuf writes it. -/
def protoVarint (n : ℕ) : Bytes :=
  if n < 128 then [UInt8.ofNat n] else [UInt8.ofNat (n % 128 + 128), UInt8.ofNat (n / 128)]

/-- The messages of the circuits server on the wire when they are short; a client decodes no
request. -/
def OcwCircuits.displayApi : OcwCircuits.Api where
  base64Decode := OcwCircuits.shortApi.base64Decode
  skcdGenericFromIpfsRequest := OcwCircuits.shortApi.skcdGenericFromIpfsRequest
  skcdGenericFromIpfsReply := OcwCircuits.shortApi.skcdGenericFromIpfsReply
  skcdDisplayRequest :=
    { encode := fun m => 8 :: protoVarint m.width.toNat ++ 16 :: protoVarint m.height.toNat ++
        26 :: protoVarint (4 * m.digitsBboxes.length) ++
          m.digitsBboxes.flatMap fun x => leBytes 4 x.toBits.toNat
      decode := fun _ => none }
  skcdDisplayReply :=
    { encode := fun m => protoField 1 (utf8Bytes m.skcdCid) ++
        match m.serverMetadata with
        | some metadata => 18 :: 2 :: 8 :: protoVarint metadata.nbDigits.toNat
        | none => []
      decode := fun bs => do
        let (cid, rest) ← readProtoString 1 bs
        match rest with
        | [18, 2, 8, n] => some ⟨cid, some ⟨UInt32.ofNat n.toNat⟩⟩
        | [] => some ⟨cid, none⟩
        | _ => none }

/-- What the circuits server answers. -/
def sampleDisplayReplies : DisplayRound.Replies := ⟨['m'], 2, ['p'], 10⟩

/-- A display round with that server. -/
def sampleDisplayRound : DisplayRound ℕ where
  requestEnv := default
  requester := 1
  workerEnv :=
    { std := true
      var := fun _ => some "http://127.0.0.1:3000"
      keystore := [0]
      http
        | 0 => unaryResponse
          (OcwCircuits.displayApi.skcdDisplayReply.encode sampleDisplayReplies.message)
        | _ => unaryResponse
          (OcwCircuits.displayApi.skcdDisplayReply.encode sampleDisplayReplies.pinpad) }
  callbackEnv := default
  signer := 0

theorem served_sampleDisplayRound :
    sampleDisplayRound.Served OcwCircuits.displayApi (.launch (Chain.empty ℕ))
      "http://127.0.0.1:3000" sampleDisplayReplies where
  unlocked := rfl
  root := rfl
  key := List.mem_singleton_self 0
  message := (wellFormedReply_unaryResponse _ (by decide) rfl).accepted
  pinpad := (wellFormedReply_unaryResponse _ (by decide) rfl).accepted
  messageCid := by decide
  pinpadCid := by decide
  messageNbDigits := by decide
  pinpadNbDigits := by decide

/-- The garbling round that follows: its exchanges are the third and the fourth. -/
def sampleGarbleRound : Round ℕ :=
  { sampleRound 1 0 with
    workerEnv :=
      { (sampleRound 1 0).workerEnv with http := fun n => (sampleRound 1 0).workerEnv.http (n - 2) } }

/-- A call in between that changes nothing: the key is too short. -/
def shortKeyCall : SignedCall ℕ := ⟨default, 2, .registerMobile [1]⟩

/-- Account 1 asks for both, and account 0 gets a code for the circuits of the server. -/
theorem display_then_garble_sampleRounds :
    ∃ call call', sampleDisplayRound.Submits OcwGarble.shortApi OcwCircuits.displayApi
        (.launch (Chain.empty ℕ)) call ∧
      let later := Node.run OcwGarble.shortApi OcwCircuits.displayApi
        (sampleDisplayRound.answered OcwGarble.shortApi OcwCircuits.displayApi
          (.launch (Chain.empty ℕ)) call) [.call shortKeyCall]
      sampleGarbleRound.Submits OcwGarble.shortApi OcwCircuits.displayApi later call' ∧
      Round.Reaches later.chain (sampleGarbleRound.answered OcwGarble.shortApi
        OcwCircuits.displayApi later call').chain 0 sampleReplies.1 sampleReplies.2
        (sampleGarbleRound.digits later) := by
  obtain ⟨⟨call, hcall⟩, hrounds⟩ := display_then_garble OcwGarble.shortApi OcwCircuits.displayApi
    (.launch (Chain.empty ℕ)) sampleDisplayRound served_sampleDisplayRound
  have hbetween : ∀ e ∈ [NodeEvent.call shortKeyCall], ¬ e.Displays := by
    intro e he
    rw [List.mem_singleton.mp he]
    exact id
  have hserved : sampleGarbleRound.Served OcwGarble.shortApi
      (Node.run OcwGarble.shortApi OcwCircuits.displayApi
        (sampleDisplayRound.answered OcwGarble.shortApi OcwCircuits.displayApi
          (.launch (Chain.empty ℕ)) call) [.call shortKeyCall])
      "http://127.0.0.1:3000" sampleReplies.1 sampleReplies.2 := by
    obtain rfl := (DisplayRound.submits_iff served_sampleDisplayRound).mp hcall
    -- the display round freed its lock and made the first two exchanges
    have hlocked := @DisplayRound.locked_answered ℕ _ OcwGarble.shortApi OcwCircuits.displayApi
      sampleDisplayRound rfl (.launch (Chain.empty ℕ)) sampleDisplayReplies.callback
    have hocw := (@DisplayRound.ready_answered ℕ _ OcwGarble.shortApi OcwCircuits.displayApi _ _ _ _
      served_sampleDisplayRound).2
    have hasked := OcwState.posted_eq_append (@DisplayRound.processIfNeeded_of_served ℕ _
      OcwGarble.shortApi OcwCircuits.displayApi _ _ _ _ served_sampleDisplayRound).1
    have hposted := (congrArg OcwState.posted hocw).trans hasked
    generalize hdisplayed : sampleDisplayRound.answered OcwGarble.shortApi OcwCircuits.displayApi
      (.launch (Chain.empty ℕ)) sampleDisplayReplies.callback = displayed at hlocked hposted
    have hlater : (Node.run OcwGarble.shortApi OcwCircuits.displayApi displayed
        [.call shortKeyCall]).ocw = displayed.ocw := by
      have hindexed : shortKeyCall.indexed displayed.chain = [] := by
        rw [SignedCall.indexed_eq]
        rfl
      show displayed.ocw.flush (shortKeyCall.indexed displayed.chain) = _
      rw [hindexed]
      rfl
    have hlength : (Node.run OcwGarble.shortApi OcwCircuits.displayApi displayed
        [.call shortKeyCall]).ocw.posted.length = 2 := by
      rw [hlater, hposted]
      rfl
    have hroom : (Node.run OcwGarble.shortApi OcwCircuits.displayApi displayed
        [.call shortKeyCall]).chain.pending 0 = (Chain.empty ℕ).pending 0 := by
      rw [← hdisplayed]
      rfl
    exact
      { txMsg := (by decide : (utf8Bytes ['t']).length < 2 ^ 32)
        unlocked := by
          rw [hlater]
          exact congrFun hlocked _
        root := rfl
        key := List.mem_singleton_self 0
        message := by
          rw [hlength]
          exact (wellFormedReply_unaryResponse _ (by decide) rfl).accepted
        pinpad := by
          rw [hlength]
          exact (wellFormedReply_unaryResponse _ (by decide) rfl).accepted
        messagePgarbledCid := by decide
        messagePackmsgCid := by decide
        pinpadPgarbledCid := by decide
        pinpadPackmsgCid := by decide
        room := by
          rw [show sampleGarbleRound.signer = 0 from rfl, hroom]
          exact Nat.two_pow_pos 4 }
  obtain ⟨-, -, -, ⟨call', hcall'⟩, hreaches⟩ := hrounds call hcall _ hbetween _ _ _ _ hserved
  exact ⟨call, call', hcall, hcall', hreaches call' hcall'⟩

end OffchainWorkerDemo
