/-
# From a request to its package

A request for the display circuits, the run of the garbling worker that takes its job
and the callback the run submits.  Each value keeps to its own circuit on the way
(`message_and_pinpad_apart`), and the result goes to the account that signs the
callback, which is the requester only if the two are one (`reaches_requester_iff`).
-/
import OffchainWorkerDemo.Node
import OffchainWorkerDemo.PendingCircuits
import OffchainWorkerDemo.PinpadCode

namespace OffchainWorkerDemo

open TxValidation

variable {A : Type} [DecidableEq A]

/-! ## A round -/

/-- Who asks for what, who signs the callback, and what the three steps are run with. -/
structure Round (A : Type) where
  requestEnv : Env
  requester : A
  txMsg : Str
  workerEnv : OcwEnv A
  callbackEnv : Env
  signer : A

namespace Round

/-- The request. -/
def request (r : Round A) : SignedCall A where
  env := r.requestEnv
  who := r.requester
  call := .garbleAndStripDisplayCircuitsPackageSigned (utf8Bytes r.txMsg)

/-- The digits the request draws: (message, pinpad). -/
def digits (r : Round A) (s : Node A) : Bytes × Bytes :=
  OcwGarble.drawnDigits r.requestEnv s.chain

/-- The job the request leaves. -/
def job (r : Round A) (s : Node A) (pkg : DisplaySkcdPackage) : OcwGarble.IndexingData :=
  OcwGarble.stripJob pkg (utf8Bytes r.txMsg) (r.digits s)

section

variable (garbleApi : OcwGarble.Api) (circuitsApi : OcwCircuits.Api)

/-- The node after the request and the run of the worker. -/
def asked (r : Round A) (s : Node A) : Node A :=
  Node.run garbleApi circuitsApi s [.call r.request, .garbleWorker r.workerEnv]

/-- The run submits this call for the signer. -/
def Submits (r : Round A) (s : Node A) (call : Call) : Prop :=
  (r.signer, call) ∈
    (r.asked garbleApi circuitsApi s).ocw.submitted.drop s.ocw.submitted.length

/-- The call, signed by the signer. -/
def signed (r : Round A) (call : Call) : SignedCall A := ⟨r.callbackEnv, r.signer, call⟩

/-- The node after the call of the signer. -/
def answered (r : Round A) (s : Node A) (call : Call) : Node A :=
  Node.step garbleApi circuitsApi (r.asked garbleApi circuitsApi s) (.call (r.signed call))

end

/-- The worker is free and configured, the signer's key is in its keystore, both exchanges
bring a reply with storable cids, and the signer's list has room. -/
structure Served (r : Round A) (garbleApi : OcwGarble.Api) (s : Node A) (root : String)
    (messageReply pinpadReply : OcwGarble.GarbleAndStripIpfsReply) : Prop where
  txMsg : (utf8Bytes r.txMsg).length < 2 ^ 32
  unlocked : s.ocw.locked OcwGarble.slot.lockKey = false
  root : r.workerEnv.root OcwGarble.uriRootVar = some root
  key : r.signer ∈ r.workerEnv.keystore
  message : AcceptedReply garbleApi.base64Decode garbleApi.garbleAndStripIpfsReply
    (r.workerEnv.http s.ocw.posted.length) messageReply
  pinpad : AcceptedReply garbleApi.base64Decode garbleApi.garbleAndStripIpfsReply
    (r.workerEnv.http (s.ocw.posted.length + 1)) pinpadReply
  messagePgarbledCid : (utf8Bytes messageReply.pgarbledCid).length ≤ 64
  messagePackmsgCid : (utf8Bytes messageReply.packmsgCid).length ≤ 64
  pinpadPgarbledCid : (utf8Bytes pinpadReply.pgarbledCid).length ≤ 64
  pinpadPackmsgCid : (utf8Bytes pinpadReply.packmsgCid).length ≤ 64
  room : (s.chain.pending r.signer).val.length < maxNumberPendingCircuitsPerAccount

/-- The display package is ready, and its cids are these strings. -/
structure Ready (s : Node A) (pkg : DisplaySkcdPackage) (messageCid pinpadCid : Str) : Prop where
  package : OcwCircuits.getDisplayCircuitsPackage s.chain = .ok pkg
  message : pkg.messageSkcdCid.val = utf8Bytes messageCid
  pinpad : pkg.pinpadSkcdCid.val = utf8Bytes pinpadCid

/-- The callback that publishes the replies with the digits of the round. -/
def callback (r : Round A) (s : Node A)
    (messageReply pinpadReply : OcwGarble.GarbleAndStripIpfsReply) : Call :=
  OcwGarble.callbackOf
    (.garbleAndStrip messageReply (r.digits s).1 pinpadReply (r.digits s).2)

/-! ## The request -/

variable {garbleApi : OcwGarble.Api} {circuitsApi : OcwCircuits.Api} {r : Round A} {s : Node A}
  {root : String} {messageReply pinpadReply : OcwGarble.GarbleAndStripIpfsReply}
  {pkg : DisplaySkcdPackage} {messageCid pinpadCid : Str}

omit [DecidableEq A] in
/-- The request is accepted, and leaves its job. -/
theorem effect_request (hready : Ready s pkg messageCid pinpadCid)
    (htxMsg : (utf8Bytes r.txMsg).length < 2 ^ 32) :
    effect r.request.env r.request.who s.chain r.request.call = some (.ok (),
      { nonce := some (s.chain.nonce + 1)
        index := [(OcwGarble.slot.key, OcwGarble.slot.codec.encode (r.job s pkg))] }) := by
  have hlogMsg : LogOk r.requestEnv [(utf8Bytes r.txMsg, "tx_msg utf8")] := by
    intro _ arg harg
    rw [List.mem_singleton.mp harg]
    exact isUtf8_utf8Bytes r.txMsg
  have hlog : LogOk r.requestEnv [(pkg.messageSkcdCid.val, "message_skcd_cid utf8"),
      (pkg.pinpadSkcdCid.val, "pinpad_skcd_cid utf8")] := by
    intro _ arg harg
    rcases List.mem_pair.mp harg with rfl | rfl
    · rw [hready.message]
      exact isUtf8_utf8Bytes messageCid
    · rw [hready.pinpad]
      exact isUtf8_utf8Bytes pinpadCid
  have hfits : OcwGarble.IndexingData.codec.Fits (r.job s pkg) :=
    OcwGarble.fits_stripJob_iff.mpr htxMsg
  show effect r.requestEnv r.requester s.chain
    (.garbleAndStripDisplayCircuitsPackageSigned (utf8Bytes r.txMsg)) = _
  rw [effect, if_pos hlogMsg, OcwCircuits.toOption_eq_some_iff.mpr hready.package, Option.bind_some]
  exact if_pos ⟨hlog, hfits⟩

/-- The node once the request is in. -/
theorem step_request (hready : Ready s pkg messageCid pinpadCid)
    (htxMsg : (utf8Bytes r.txMsg).length < 2 ^ 32) :
    (Node.step garbleApi circuitsApi s (.call r.request)).ocw =
      s.ocw.put OcwGarble.slot.key (OcwGarble.slot.codec.encode (r.job s pkg)) := by
  rw [Node.step, SignedCall.indexed_eq,
    SignedCall.writes_of_effect (effect_request hready htxMsg)]
  rfl

/-- The request leaves the lists and the entries of the chain alone. -/
theorem chain_step_request (hready : Ready s pkg messageCid pinpadCid)
    (htxMsg : (utf8Bytes r.txMsg).length < 2 ^ 32) :
    (r.request.apply s.chain).accountToPendingCircuitsMap = s.chain.accountToPendingCircuitsMap ∧
    (r.request.apply s.chain).circuitServerMetadataMap = s.chain.circuitServerMetadataMap := by
  have hwrites := SignedCall.writes_of_effect (effect_request hready htxMsg)
  rw [SignedCall.pending_apply, SignedCall.metadata_apply, hwrites]
  exact ⟨rfl, rfl⟩

/-! ## The worker -/

omit [DecidableEq A] in
/-- What the job asks of the server: each circuit with its own text and digits. -/
theorem requestsOf_job (hready : Ready s pkg messageCid pinpadCid) :
    OcwGarble.requestsOf (r.job s pkg) = some (.strip
      ⟨messageCid, r.txMsg, some ⟨(r.digits s).1⟩⟩ ⟨pinpadCid, [], some ⟨(r.digits s).2⟩⟩
      (r.digits s).1 (r.digits s).2) := by
  have hstrip : ∀ (cid txMsg : Str) (digits : Bytes),
      OcwGarble.stripRequest (utf8Bytes cid) (utf8Bytes txMsg) digits =
        some ⟨cid, txMsg, some ⟨digits⟩⟩ := by
    intro cid txMsg digits
    rw [OcwGarble.stripRequest, fromUtf8_utf8Bytes, fromUtf8_utf8Bytes]
    rfl
  have hnil : ([] : Bytes) = utf8Bytes [] := rfl
  simp only [OcwGarble.requestsOf, job, OcwGarble.stripJob, hready.message, hready.pinpad]
  rw [hnil]
  simp only [Option.bind_eq_bind, Option.bind_some, hstrip]

/-- **The run of the worker**: two exchanges, and the callback for every key. -/
theorem processIfNeeded_of_served (h : Served r garbleApi s root messageReply pinpadReply)
    (hready : Ready s pkg messageCid pinpadCid) :
    let ocw := (r.asked garbleApi circuitsApi s).ocw
    ocw.exchanges = s.ocw.exchanges ++
      [(OcwGarble.stripPost garbleApi root ⟨messageCid, r.txMsg, some ⟨(r.digits s).1⟩⟩,
          r.workerEnv.http s.ocw.posted.length),
        (OcwGarble.stripPost garbleApi root ⟨pinpadCid, [], some ⟨(r.digits s).2⟩⟩,
          r.workerEnv.http (s.ocw.posted.length + 1))] ∧
    ocw.submitted = s.ocw.submitted ++ r.workerEnv.keystore.map fun account =>
      (account, r.callback s messageReply pinpadReply) := by
  intro ocw
  have hfits : OcwGarble.slot.codec.Fits (r.job s pkg) :=
    OcwGarble.fits_stripJob_iff.mpr h.txMsg
  have hjob : OcwGarble.slot.blockNumber (r.job s pkg) ≠ 0 := by
    show (1 : UInt32) ≠ 0
    decide
  -- The worker finds the job and the lock free.
  generalize hs₁ : s.ocw.put OcwGarble.slot.key (OcwGarble.slot.codec.encode (r.job s pkg)) = s₁
  have hread : OcwGarble.slot.read s₁.storage = r.job s pkg := by
    rw [← hs₁]
    exact OcwGarble.slot.read_put hfits s.ocw
  have hidle : ¬ OcwGarble.slot.Idle s₁ := by
    rintro (hzero | hlocked)
    · rw [hread] at hzero
      exact hjob hzero
    · rw [← hs₁] at hlocked
      exact Bool.false_ne_true (h.unlocked.symm.trans hlocked)
  have hocw : ocw = (OcwGarble.processIfNeeded garbleApi r.workerEnv s₁).state := by
    rw [← hs₁, ← step_request hready h.txMsg]
    rfl
  have hrequests := @requestsOf_job A r s pkg messageCid pinpadCid hready
  rw [← hread] at hrequests
  have hexchanges : s₁.exchanges = s.ocw.exchanges := by rw [← hs₁]; rfl
  have hposted : s₁.posted = s.ocw.posted := congrArg (List.map Prod.fst) hexchanges
  have hsubmitted : s₁.submitted = s.ocw.submitted := by rw [← hs₁]; rfl
  have hmessage := h.message
  have hpinpad := h.pinpad
  rw [← hposted] at hmessage hpinpad
  have hrun := OcwGarble.processIfNeeded_strip hidle hrequests h.root hmessage hpinpad
  rw [hexchanges, hposted, hsubmitted, ← hocw] at hrun
  exact hrun

/-- **The two requests are sent**: each circuit's message in a data frame of its own. -/
theorem sent_of_served (h : Served r garbleApi s root messageReply pinpadReply)
    (hready : Ready s pkg messageCid pinpadCid) :
    (r.asked garbleApi circuitsApi s).ocw.sent = s.ocw.sent ++
      [OcwGarble.stripPost garbleApi root ⟨messageCid, r.txMsg, some ⟨(r.digits s).1⟩⟩,
        OcwGarble.stripPost garbleApi root ⟨pinpadCid, [], some ⟨(r.digits s).2⟩⟩] := by
  obtain ⟨hexchanges, -⟩ := @processIfNeeded_of_served A _ garbleApi circuitsApi _ _ _ _ _ _ _ _
    h hready
  exact OcwState.sent_eq_append_pair hexchanges h.message.ne_sendError h.pinpad.ne_sendError

/-- The run submits the callback of the round for the signer, and no other call. -/
theorem submits_iff (h : Served r garbleApi s root messageReply pinpadReply)
    (hready : Ready s pkg messageCid pinpadCid) {call : Call} :
    r.Submits garbleApi circuitsApi s call ↔ call = r.callback s messageReply pinpadReply := by
  obtain ⟨-, hsubmitted⟩ := @processIfNeeded_of_served A _ garbleApi circuitsApi _ _ _ _ _ _ _ _
    h hready
  rw [Submits, hsubmitted, List.drop_left, List.mem_map]
  constructor
  · rintro ⟨account, -, heq⟩
    exact (Prod.mk.inj heq).2.symm
  · rintro rfl
    exact ⟨r.signer, h.key, rfl⟩

/-! ## The callback -/

/-- The package names the replies, each cid in its own field. -/
structure Names (pkg : DisplayStrippedCircuitsPackage)
    (messageReply pinpadReply : OcwGarble.GarbleAndStripIpfsReply) (nbDigits : ℕ) : Prop where
  messagePgarbledCid : pkg.messagePgarbledCid.val = utf8Bytes messageReply.pgarbledCid
  messagePackmsgCid : pkg.messagePackmsgCid.val = utf8Bytes messageReply.packmsgCid
  pinpadPgarbledCid : pkg.pinpadPgarbledCid.val = utf8Bytes pinpadReply.pgarbledCid
  pinpadPackmsgCid : pkg.pinpadPackmsgCid.val = utf8Bytes pinpadReply.packmsgCid
  messageNbDigits : pkg.messageNbDigits.toNat = nbDigits

/-- What a round leaves with an account: one more package, which names the replies, and the
digits under the cid of the message, each in their own field. -/
structure Publishes (before after : Chain A) (who : A)
    (messageReply pinpadReply : OcwGarble.GarbleAndStripIpfsReply) (digits : Bytes × Bytes) :
    Prop where
  pending : ∃ pkg, Names pkg messageReply pinpadReply digits.1.length ∧
    (after.pending who).val = (before.pending who).val ++ [pkg]
  entry : ∃ entry, storedPackage after who (utf8Bytes messageReply.pgarbledCid) = some entry ∧
    entry.messageDigits.val = digits.1 ∧ entry.pinpadDigits.val = digits.2

theorem names_of_strippedPackage {q : DisplayStrippedCircuitsPackage} {n : ℕ} (hn : n < 2 ^ 32)
    (h : OcwGarble.strippedPackage (utf8Bytes messageReply.pgarbledCid)
      (utf8Bytes messageReply.packmsgCid) (utf8Bytes pinpadReply.pgarbledCid)
      (utf8Bytes pinpadReply.packmsgCid) n = some q) : Names q messageReply pinpadReply n := by
  obtain ⟨hmg, hmk, hpg, hpk, hnb⟩ := OcwGarble.strippedPackage_eq_some_iff.mp h
  refine ⟨hmg, hmk, hpg, hpk, ?_⟩
  rw [OcwGarble.u32TryFrom_of_lt hn] at hnb
  rw [← Option.some_inj.mp hnb]
  exact UInt32.toNat_ofNat_of_lt' hn

/-- **The callback publishes the replies for its signer.** -/
theorem publishes_answered (h : Served r garbleApi s root messageReply pinpadReply)
    (hready : Ready s pkg messageCid pinpadCid) :
    Publishes s.chain
      (r.answered garbleApi circuitsApi s (r.callback s messageReply pinpadReply)).chain r.signer
      messageReply pinpadReply (r.digits s) := by
  obtain ⟨hpending, -⟩ := chain_step_request hready h.txMsg
  have hlist : (r.request.apply s.chain).pending r.signer = s.chain.pending r.signer := by
    rw [Chain.pending, hpending]
    rfl
  have hmessage : (r.digits s).1.length = 2 := OcwGarble.length_drawDigits_message _ _
  have hpinpad : (r.digits s).2.length = 10 := OcwGarble.length_drawDigits_pinpad _ _
  have hlog : LogOk r.callbackEnv (OcwGarble.stripLogArgs (utf8Bytes messageReply.pgarbledCid)
      (utf8Bytes messageReply.packmsgCid) (utf8Bytes pinpadReply.pgarbledCid)
      (utf8Bytes pinpadReply.packmsgCid)) := by
    intro _ arg harg
    simp only [OcwGarble.stripLogArgs, List.mem_cons, List.not_mem_nil, or_false] at harg
    rcases harg with rfl | rfl | rfl | rfl
    all_goals exact isUtf8_utf8Bytes _
  have hstore : OcwGarble.StripStorable (utf8Bytes messageReply.pgarbledCid)
      (utf8Bytes messageReply.packmsgCid) (r.digits s).1 (utf8Bytes pinpadReply.pgarbledCid)
      (utf8Bytes pinpadReply.packmsgCid) (r.digits s).2 :=
    { messagePgarbledCid := h.messagePgarbledCid
      messagePackmsgCid := h.messagePackmsgCid
      messageDigits := by omega
      pinpadPgarbledCid := h.pinpadPgarbledCid
      pinpadPackmsgCid := h.pinpadPackmsgCid
      pinpadDigits := by omega }
  have hroom : ((r.request.apply s.chain).pending r.signer).val.length <
      maxNumberPendingCircuitsPerAccount := by
    rw [hlist]
    exact h.room
  obtain ⟨-, ⟨cid, entry, hcid, hm, hp, hentry⟩, q, hq, hpush⟩ :=
    @SignedCall.strip_apply A _ (r.signed (r.callback s messageReply pinpadReply))
      (r.request.apply s.chain) _ _ _ _ _ _ rfl hlog hstore hroom
  refine ⟨⟨q, names_of_strippedPackage (by omega) hq, ?_⟩, entry, ?_, hm, hp⟩
  · rw [← hlist]
    exact hpush
  · rw [storedPackage, BoundedVec.tryFrom_eq_some_iff.mpr hcid]
    exact hentry

/-! ## The display package -/

/-- What a successful display callback writes. -/
theorem writes_of_display {x : SignedCall A} {c : Chain A} {nm np : UInt32}
    (hx : x.call = .callbackNewDisplayCircuitsPackageSigned (utf8Bytes messageCid) nm
      (utf8Bytes pinpadCid) np) (hok : x.result c = some (.ok ())) :
    ∃ pkg, OcwCircuits.displayEntry (utf8Bytes messageCid) nm (utf8Bytes pinpadCid) np = some pkg ∧
      x.writes c = { display := some pkg, events := [.newDisplaySkcdPackageIpfsCid
        (utf8Bytes messageCid) (utf8Bytes pinpadCid)] } := by
  have hmakes := SignedCall.makes_of_result hok
  rw [hx] at hmakes
  generalize x.writes c = e at hmakes
  cases hmakes with
  | callbackNewDisplay hlog hpkg => exact ⟨_, hpkg, rfl⟩

/-- A successful display callback with both counts makes its package ready, and changes no
list and nothing of the off-chain side. -/
theorem ready_of_display {x : SignedCall A} {nm np : UInt32}
    (hx : x.call = .callbackNewDisplayCircuitsPackageSigned (utf8Bytes messageCid) nm
      (utf8Bytes pinpadCid) np) (hok : x.result s.chain = some (.ok ())) (hnm : nm ≠ 0)
    (hnp : np ≠ 0) :
    (∃ pkg, Ready (Node.step garbleApi circuitsApi s (.call x)) pkg messageCid pinpadCid) ∧
    (Node.step garbleApi circuitsApi s (.call x)).ocw = s.ocw ∧
    (x.apply s.chain).accountToPendingCircuitsMap = s.chain.accountToPendingCircuitsMap := by
  obtain ⟨pkg, hpkg, hwrites⟩ := writes_of_display hx hok
  obtain ⟨hmessage, hnbMessage, hpinpad, hnbPinpad⟩ := OcwCircuits.displayEntry_eq_some_iff.mp hpkg
  have hvalue : (x.apply s.chain).displaySkcdPackageValue = pkg := by
    rw [SignedCall.display_apply, hwrites]
    rfl
  refine ⟨⟨pkg, ?_, hmessage, hpinpad⟩, ?_, ?_⟩
  · show OcwCircuits.getDisplayCircuitsPackage (x.apply s.chain) = .ok pkg
    rw [OcwCircuits.getDisplayCircuitsPackage, hvalue, hnbMessage, hnbPinpad]
    exact if_neg (not_or.mpr ⟨hnm, hnp⟩)
  · rw [Node.step, SignedCall.indexed_eq, hwrites]
    rfl
  · rw [SignedCall.pending_apply, hwrites]

/-! ## What the account gets -/

/-- The input is a code for the digits: each shows a digit of the message on the pinpad. -/
def CodeFor (digits : Bytes × Bytes) (input : Bytes) : Prop :=
  List.Forall₂ (Shows digits.2) input digits.1

/-- The round reaches an account: the results are published for it, and it can pass
`check_input` with a code for the digits, of which there is one. -/
structure Reaches (before after : Chain A) (who : A)
    (messageReply pinpadReply : OcwGarble.GarbleAndStripIpfsReply) (digits : Bytes × Bytes) :
    Prop where
  publishes : Publishes before after who messageReply pinpadReply digits
  code : ∃ input, CodeFor digits input
  passes : ∀ env input, CodeFor digits input →
    Accepts env who (utf8Bytes messageReply.pgarbledCid) after input

/-- Drawn digits that are published can be used. -/
theorem Publishes.reaches {before after : Chain A} {who : A}
    (h : Publishes before after who messageReply pinpadReply (r.digits s)) :
    Reaches before after who messageReply pinpadReply (r.digits s) := by
  obtain ⟨entry, hstored, hmessage, hpinpad⟩ := h.entry
  have hp : entry.pinpadDigits.val.Perm OcwGarble.tenDigits := by
    rw [hpinpad]
    exact OcwGarble.drawDigits_pinpad_perm _ _
  have hm : ∀ m ∈ entry.messageDigits.val, m.toNat < 10 := by
    rw [hmessage]
    exact OcwGarble.drawDigits_message_lt _ _
  have hcode : ∀ input, CodeFor (r.digits s) input ↔ input ∈ encodings (positions entry) := by
    intro input
    rw [← rightCode_iff hp hm, CodeFor, RightCode, hmessage, hpinpad]
  refine ⟨h, ⟨_, (hcode _).mpr (raw_mem_encodings (digitList_positions hp hm))⟩, ?_⟩
  intro env input hinput
  exact (accepts_iff hp hm env hstored input).mpr ((hcode input).mp hinput)

/-- The call of the signer leaves the list of any other account as it is. -/
theorem pending_answered_of_ne (h : Served r garbleApi s root messageReply pinpadReply)
    (hready : Ready s pkg messageCid pinpadCid) {who : A} (hwho : r.signer ≠ who) (call : Call) :
    ((r.answered garbleApi circuitsApi s call).chain.pending who).val =
      (s.chain.pending who).val := by
  have hstep := (r.signed call).pending_apply_val (r.request.apply s.chain) who
  rw [SignedCall.appended, if_neg fun hand => hwho hand.1, List.append_nil] at hstep
  rw [Chain.pending, Chain.pending, (chain_step_request hready h.txMsg).1] at hstep
  exact hstep

end Round

/-! ## Message and pinpad -/

/-- **Message and pinpad are never mixed.**  After a display callback with both counts, the
run of the worker sends two requests to the garbling server, each of them one gRPC-web data frame:
the first carries the message cid with the text and the message digits, the second the pinpad cid
with the empty text and the pinpad digits; and the call it submits for the signer publishes the
replies and the digits, each in their own fields. -/
theorem message_and_pinpad_apart (garbleApi : OcwGarble.Api) (circuitsApi : OcwCircuits.Api)
    (s : Node A) (x : SignedCall A) {messageCid pinpadCid : Str} {nm np : UInt32}
    (hx : x.call = .callbackNewDisplayCircuitsPackageSigned (utf8Bytes messageCid) nm
      (utf8Bytes pinpadCid) np) (hok : x.result s.chain = some (.ok ())) (hnm : nm ≠ 0)
    (hnp : np ≠ 0) (r : Round A) {root : String}
    {messageReply pinpadReply : OcwGarble.GarbleAndStripIpfsReply}
    (h : r.Served garbleApi (Node.step garbleApi circuitsApi s (.call x)) root messageReply
      pinpadReply) :
    let displayed := Node.step garbleApi circuitsApi s (.call x)
    let digits := r.digits displayed
    let post (message : OcwGarble.GarbleAndStripIpfsRequest) : HttpRequest :=
      let payload := garbleApi.garbleAndStripIpfsRequest.encode message
      { url := root ++ "/interstellarpbapigarble.GarbleApi/GarbleAndStripIpfs"
        headers := [("Content-Type", "application/grpc-web"), ("X-Grpc-Web", "1")]
        body := 0 :: (beU32 payload.length ++ payload) }
    (r.asked garbleApi circuitsApi displayed).ocw.sent = s.ocw.sent ++
      [post ⟨messageCid, r.txMsg, some ⟨digits.1⟩⟩, post ⟨pinpadCid, [], some ⟨digits.2⟩⟩] ∧
    (∃ call, r.Submits garbleApi circuitsApi displayed call) ∧
    ∀ call, r.Submits garbleApi circuitsApi displayed call →
      Round.Publishes s.chain (r.answered garbleApi circuitsApi displayed call).chain r.signer
        messageReply pinpadReply digits := by
  intro displayed digits post
  have hpost : OcwGarble.stripPost garbleApi root = post :=
    funext fun message => OcwGarble.stripPost_eq garbleApi root message
  obtain ⟨⟨pkg, hready⟩, hocw, hlists⟩ := Round.ready_of_display hx hok hnm hnp
  have hsubmits := fun call => @Round.submits_iff A _ garbleApi circuitsApi _ _ _ _ _ _ _ _ h
    hready call
  refine ⟨?_, ⟨_, (hsubmits _).mpr rfl⟩, ?_⟩
  · rw [← hocw, ← hpost]
    exact Round.sent_of_served h hready
  · intro call hcall
    rw [(hsubmits call).mp hcall]
    obtain ⟨⟨q, hq, hpush⟩, hentry⟩ := Round.publishes_answered h hready
    refine ⟨⟨q, hq, ?_⟩, hentry⟩
    rw [hpush]
    show ((x.apply s.chain).pending r.signer).val ++ [q] = (s.chain.pending r.signer).val ++ [q]
    rw [Chain.pending, Chain.pending, hlists]

/-- A node on which a display callback was made. -/
def displayCallback : SignedCall ℕ :=
  ⟨default, 0, .callbackNewDisplayCircuitsPackageSigned (utf8Bytes ['m']) 2 (utf8Bytes ['p']) 10⟩

/-- The node after it. -/
def displayedNode : Node ℕ :=
  Node.step OcwGarble.shortApi OcwCircuits.shortApi (.launch (Chain.empty ℕ))
    (.call displayCallback)

/-- What the server answers for the two circuits. -/
def sampleReplies : OcwGarble.GarbleAndStripIpfsReply × OcwGarble.GarbleAndStripIpfsReply :=
  (⟨['a'], ['b']⟩, ⟨['c'], ['d']⟩)

/-- A round of two accounts with that server. -/
def sampleRound (requester signer : ℕ) : Round ℕ where
  requestEnv := default
  requester := requester
  txMsg := ['t']
  workerEnv :=
    { std := true
      var := fun _ => some "http://127.0.0.1:3000"
      keystore := [signer]
      http
        | 0 => unaryResponse (OcwGarble.shortApi.garbleAndStripIpfsReply.encode sampleReplies.1)
        | _ => unaryResponse (OcwGarble.shortApi.garbleAndStripIpfsReply.encode sampleReplies.2) }
  callbackEnv := default
  signer := signer

theorem served_sampleRound (requester signer : ℕ) :
    (sampleRound requester signer).Served OcwGarble.shortApi displayedNode
      "http://127.0.0.1:3000" sampleReplies.1 sampleReplies.2 where
  txMsg := (by decide : (utf8Bytes ['t']).length < 2 ^ 32)
  unlocked := rfl
  root := rfl
  key := List.mem_singleton_self signer
  message := (wellFormedReply_unaryResponse _ (by decide) rfl).accepted
  pinpad := (wellFormedReply_unaryResponse _ (by decide) rfl).accepted
  messagePgarbledCid := by decide
  messagePackmsgCid := by decide
  pinpadPgarbledCid := by decide
  pinpadPackmsgCid := by decide
  room := Nat.two_pow_pos 4

/-- The signer asks for itself. -/
theorem message_and_pinpad_apart_sampleRound :
    let digits := (sampleRound 0 0).digits displayedNode
    let asked := (sampleRound 0 0).asked OcwGarble.shortApi OcwCircuits.shortApi displayedNode
    (asked.ocw.sent.map fun request => request.body.drop 5) =
      [OcwGarble.shortApi.garbleAndStripIpfsRequest.encode ⟨['m'], ['t'], some ⟨digits.1⟩⟩,
        OcwGarble.shortApi.garbleAndStripIpfsRequest.encode ⟨['p'], [], some ⟨digits.2⟩⟩] ∧
    ∃ call, (sampleRound 0 0).Submits OcwGarble.shortApi OcwCircuits.shortApi displayedNode call ∧
      Round.Publishes (Chain.empty ℕ) ((sampleRound 0 0).answered OcwGarble.shortApi
        OcwCircuits.shortApi displayedNode call).chain 0 sampleReplies.1 sampleReplies.2 digits := by
  intro digits asked
  obtain ⟨hsent, ⟨call, hcall⟩, hpublishes⟩ := @message_and_pinpad_apart ℕ _ OcwGarble.shortApi
    OcwCircuits.shortApi (.launch (Chain.empty ℕ)) displayCallback ['m'] ['p'] _ _ rfl (by decide)
    (by decide) (by decide) (sampleRound 0 0) _ _ _ (served_sampleRound 0 0)
  have hsent : asked.ocw.sent = _ := hsent
  refine ⟨?_, call, hcall, hpublishes call hcall⟩
  rw [hsent]
  rfl

/-! ## The requester -/

/-- **The results reach the account that asked** exactly when it is the one that signs the
callback. -/
theorem reaches_requester_iff (garbleApi : OcwGarble.Api) (circuitsApi : OcwCircuits.Api)
    (s : Node A) (r : Round A) {pkg : DisplaySkcdPackage} {messageCid pinpadCid : Str}
    (hready : Round.Ready s pkg messageCid pinpadCid) {root : String}
    {messageReply pinpadReply : OcwGarble.GarbleAndStripIpfsReply}
    (h : r.Served garbleApi s root messageReply pinpadReply) :
    (∀ call, r.Submits garbleApi circuitsApi s call →
      Round.Reaches s.chain (r.answered garbleApi circuitsApi s call).chain r.requester
        messageReply pinpadReply (r.digits s)) ↔ r.requester = r.signer := by
  have hsubmits := fun call => @Round.submits_iff A _ garbleApi circuitsApi _ _ _ _ _ _ _ _ h
    hready call
  constructor
  · intro hreaches
    obtain ⟨q, -, hpush⟩ := (hreaches _ ((hsubmits _).mpr rfl)).publishes.pending
    by_contra hne
    rw [Round.pending_answered_of_ne h hready (Ne.symm hne)] at hpush
    simp at hpush
  · intro heq call hcall
    rw [(hsubmits call).mp hcall, heq]
    exact (Round.publishes_answered h hready).reaches

/-- The package of the sample node. -/
theorem ready_displayedNode :
    ∃ pkg, Round.Ready displayedNode pkg ['m'] ['p'] :=
  (Round.ready_of_display (x := displayCallback) rfl (by decide) (by decide) (by decide)).1

/-- A round whose requester signs the callback reaches it. -/
theorem reaches_requester_sampleRound :
    ∃ call, (sampleRound 0 0).Submits OcwGarble.shortApi OcwCircuits.shortApi displayedNode call ∧
      Round.Reaches displayedNode.chain ((sampleRound 0 0).answered OcwGarble.shortApi
        OcwCircuits.shortApi displayedNode call).chain 0 sampleReplies.1 sampleReplies.2
        ((sampleRound 0 0).digits displayedNode) := by
  obtain ⟨pkg, hready⟩ := ready_displayedNode
  have hserved := served_sampleRound 0 0
  have hcall := (@Round.submits_iff ℕ _ _ OcwCircuits.shortApi _ _ _ _ _ _ _ _ hserved hready
    _).mpr rfl
  refine ⟨_, hcall, ?_⟩
  exact (reaches_requester_iff OcwGarble.shortApi OcwCircuits.shortApi displayedNode
    (sampleRound 0 0) hready hserved).mpr rfl _ hcall

/-- Account 1 asks and account 0 signs: the results do not reach account 1. -/
theorem not_reaches_otherSigner :
    ∃ call, (sampleRound 1 0).Submits OcwGarble.shortApi OcwCircuits.shortApi displayedNode call ∧
      ¬ Round.Reaches displayedNode.chain ((sampleRound 1 0).answered OcwGarble.shortApi
        OcwCircuits.shortApi displayedNode call).chain 1 sampleReplies.1 sampleReplies.2
        ((sampleRound 1 0).digits displayedNode) := by
  obtain ⟨pkg, hready⟩ := ready_displayedNode
  have hserved := served_sampleRound 1 0
  refine ⟨_, (Round.submits_iff hserved hready).mpr rfl, ?_⟩
  intro hreaches
  obtain ⟨q, -, hpush⟩ := hreaches.publishes.pending
  rw [Round.pending_answered_of_ne hserved hready (by decide)] at hpush
  simp at hpush

end OffchainWorkerDemo
