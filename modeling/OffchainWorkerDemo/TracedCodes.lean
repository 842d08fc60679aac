/-
# Where the codes of a network come from

In a network whose users leave `store_metadata` and the callbacks to the workers, a
code that passes `check_input` has a history: the circuits server replied the cids of
the display circuits, an accepted request drew the digits, a worker had both circuits
garbled with them, and the input spells these digits (`passing_code_traced`).  So has
every pending package (`pending_package_traced`).
-/
import OffchainWorkerDemo.Network
import OffchainWorkerDemo.Provenance
import OffchainWorkerDemo.DisplayRound
import OffchainWorkerDemo.Lib.Runs

namespace OffchainWorkerDemo

open TxValidation

variable {ι A : Type} [DecidableEq A] {garbleApi : OcwGarble.Api} {circuitsApi : OcwCircuits.Api}

/-! ## A garbling -/

/-- How two garbled circuits come about: a request for them, the run of a worker that takes its
job, and the replies of the server. -/
structure Garbling (ι A : Type) where
  before : List (SignedCall A)
  request : SignedCall A
  txMsg : Str
  messageCid : Str
  pinpadCid : Str
  node : ι
  env : OcwEnv A
  root : String
  earlier : List HttpRequest
  messageReply : OcwGarble.GarbleAndStripIpfsReply
  pinpadReply : OcwGarble.GarbleAndStripIpfsReply

namespace Garbling

variable (g : Garbling ι A)

/-- The digits the request draws: (message, pinpad). -/
def digits : Bytes × Bytes := OcwGarble.drawnDigits g.request.env (run g.before)

/-- The callback that publishes the replies with these digits. -/
def callback : Call :=
  OcwGarble.callbackOf (.garbleAndStrip g.messageReply g.digits.1 g.pinpadReply g.digits.2)

/-- The two requests to the server, each circuit with its own text and digits. -/
def posts (garbleApi : OcwGarble.Api) : List HttpRequest :=
  [OcwGarble.stripPost garbleApi g.root ⟨g.messageCid, g.txMsg, some ⟨g.digits.1⟩⟩,
    OcwGarble.stripPost garbleApi g.root ⟨g.pinpadCid, [], some ⟨g.digits.2⟩⟩]

/-- The garbling happened: the request is among the calls, was accepted, and named the circuits
of the display package of that moment; a garbling worker ran on the node and posted both
requests, and the exchanges brought the replies. -/
structure Happened (garbleApi : OcwGarble.Api) (calls : List (SignedCall A))
    (es : List (NetworkEvent ι A)) (requests : List HttpRequest) : Prop where
  included : g.before ++ [g.request] <+: calls
  call : g.request.call = .garbleAndStripDisplayCircuitsPackageSigned (utf8Bytes g.txMsg)
  accepted : g.request.result (run g.before) = some (.ok ())
  package : ∃ pkg, OcwCircuits.getDisplayCircuitsPackage (run g.before) = .ok pkg ∧
    pkg.messageSkcdCid.val = utf8Bytes g.messageCid ∧
    pkg.pinpadSkcdCid.val = utf8Bytes g.pinpadCid
  ran : .garbleWorker g.node g.env ∈ es
  root : g.env.root OcwGarble.uriRootVar = some g.root
  posted : g.earlier ++ g.posts garbleApi <+: requests
  messageReplied : AcceptedReply garbleApi.base64Decode garbleApi.garbleAndStripIpfsReply
    (g.env.http g.earlier.length) g.messageReply
  pinpadReplied : AcceptedReply garbleApi.base64Decode garbleApi.garbleAndStripIpfsReply
    (g.env.http (g.earlier.length + 1)) g.pinpadReply

end Garbling

/-- The job of a request for the display circuits. -/
theorem OcwGarble.jobOf_strip {x : SignedCall A} {s : Chain A} {d : OcwGarble.IndexingData}
    (h : OcwGarble.jobOf x s = some d) (hkind : d.grpcKind = .garbleAndStrip) :
    ∃ txMsg pkg, x.call = .garbleAndStripDisplayCircuitsPackageSigned txMsg ∧
      x.result s = some (.ok ()) ∧ OcwCircuits.getDisplayCircuitsPackage s = .ok pkg ∧
      d = OcwGarble.stripJob pkg txMsg (OcwGarble.drawnDigits x.env s) := by
  unfold jobOf at h
  obtain ⟨hresult, h⟩ := Option.ite_none_right_eq_some.mp h
  revert h
  generalize x.call = call
  intro h
  cases call with
  | garbleStandardSigned cid =>
    obtain rfl := Option.some_inj.mp h
    cases hkind
  | garbleAndStripDisplayCircuitsPackageSigned txMsg =>
    obtain ⟨pkg, hpkg, rfl⟩ := Option.map_eq_some_iff.mp h
    exact ⟨txMsg, pkg, rfl, hresult, OcwCircuits.toOption_eq_some_iff.mp hpkg, rfl⟩
  | _ => cases h

/-- What the job of a request for the display circuits asks, when its strings are UTF-8. -/
theorem OcwGarble.requestsOf_stripJob {pkg : DisplaySkcdPackage} {txMsg : Bytes}
    {digits : Bytes × Bytes} {r : OcwGarble.Requests}
    (h : OcwGarble.requestsOf (OcwGarble.stripJob pkg txMsg digits) = some r) :
    ∃ messageCid pinpadCid txMsgStr, pkg.messageSkcdCid.val = utf8Bytes messageCid ∧
      pkg.pinpadSkcdCid.val = utf8Bytes pinpadCid ∧ txMsg = utf8Bytes txMsgStr ∧
      r = .strip ⟨messageCid, txMsgStr, some ⟨digits.1⟩⟩ ⟨pinpadCid, [], some ⟨digits.2⟩⟩ digits.1
        digits.2 := by
  simp only [requestsOf, stripJob, stripRequest, Option.bind_eq_bind, Option.bind_some,
    Option.bind_eq_some_iff, Option.some_inj] at h
  obtain ⟨message, ⟨messageCid, hm, txMsgStr, ht, rfl⟩, pinpad, ⟨pinpadCid, hp, empty, he, rfl⟩,
    rfl⟩ := h
  have hempty : empty = [] := (Option.some_inj.mp he).symm
  exact ⟨messageCid, pinpadCid, txMsgStr, (utf8Bytes_of_fromUtf8 hm).symm,
    (utf8Bytes_of_fromUtf8 hp).symm, (utf8Bytes_of_fromUtf8 ht).symm, by rw [hempty]⟩

/-- The event that ran a worker of this pallet. -/
theorem eq_garbleWorker {e : NetworkEvent ι A} {i : ι} {ne : NodeEvent A} {env : OcwEnv A}
    (hwork : e.worker = some (i, ne))
    (henv : (garbleService garbleApi circuitsApi).envOf ne = some env) : e = .garbleWorker i env := by
  cases e with
  | garbleWorker j env' =>
    obtain ⟨rfl, rfl⟩ := Prod.mk.inj (Option.some_inj.mp hwork)
    obtain rfl : env' = env := Option.some_inj.mp henv
    rfl
  | circuitsWorker j env' =>
    obtain ⟨rfl, rfl⟩ := Prod.mk.inj (Option.some_inj.mp hwork)
    exact absurd henv.symm (Option.some_ne_none env)
  | _ => cases hwork

theorem eq_circuitsWorker {e : NetworkEvent ι A} {i : ι} {ne : NodeEvent A} {env : OcwEnv A}
    (hwork : e.worker = some (i, ne))
    (henv : (circuitsService garbleApi circuitsApi).envOf ne = some env) :
    e = .circuitsWorker i env := by
  cases e with
  | garbleWorker j env' =>
    obtain ⟨rfl, rfl⟩ := Prod.mk.inj (Option.some_inj.mp hwork)
    exact absurd henv.symm (Option.some_ne_none env)
  | circuitsWorker j env' =>
    obtain ⟨rfl, rfl⟩ := Prod.mk.inj (Option.some_inj.mp hwork)
    obtain rfl : env' = env := Option.some_inj.mp henv
    rfl
  | _ => cases hwork

/-- What a run of the garbling worker on a node justifies. -/
theorem exists_of_garble_justifies {calls : List (SignedCall A)} {es : List (NetworkEvent ι A)}
    {i : ι} {requests : List HttpRequest} {tx : A × Call}
    (h : (garbleService garbleApi circuitsApi).Justifies calls es i requests tx) :
    ∃ pre y post d env before posts, calls = pre ++ y :: post ∧
      OcwGarble.jobOf y (run pre) = some d ∧ .garbleWorker i env ∈ es ∧ tx.1 ∈ env.keystore ∧
      OcwGarble.Answers garbleApi env before.length d posts tx.2 ∧
      before ++ posts <+: requests := by
  obtain ⟨d, env, before, posts, ⟨pre, y, post, hcalls, hjob⟩, ⟨e, he, ne, hwork, henv⟩, hkey,
    hanswers, hposted⟩ := h
  obtain rfl := eq_garbleWorker hwork henv
  exact ⟨pre, y, post, d, env, before, posts, hcalls, hjob, he, hkey, hanswers, hposted⟩

/-- The garbling worker stores digits only through the callback of a garbling. -/
theorem garbling_of_justifies {calls : List (SignedCall A)} {es : List (NetworkEvent ι A)} {i : ι}
    {requests : List HttpRequest} {x : SignedCall A} {c m p : Bytes}
    (hcarried : x.carried = some (c, m, p))
    (h : (garbleService garbleApi circuitsApi).Justifies calls es i requests (x.who, x.call)) :
    ∃ g : Garbling ι A, g.Happened garbleApi calls es requests ∧ g.node = i ∧
      x.who ∈ g.env.keystore ∧ g.callback = x.call := by
  obtain ⟨pre, y, post, d, env, before, posts, rfl, hjob, hran, hkey,
    ⟨r, root, reply, hr, hroot, hbrings, rfl, hcall⟩, hposted⟩ := exists_of_garble_justifies h
  have hcall : x.call = OcwGarble.callbackOf reply := hcall
  -- the call carries digits, so it is the strip callback, and the job a strip job
  rcases reply with reply | ⟨messageReply, md, pinpadReply, pd⟩
  · have hnone : x.carried = none := by
      rw [SignedCall.carried, hcall]
      rfl
    exact absurd (hcarried.symm.trans hnone) (Option.some_ne_none _)
  rcases r with message | ⟨message, pinpad, md', pd'⟩
  · exact hbrings.elim
  obtain ⟨hmessage, hpinpad, rfl, rfl⟩ := hbrings
  have hkind : d.grpcKind = .garbleAndStrip := OcwGarble.grpcKind_of_requests hr
  obtain ⟨txMsg, pkg, hrequest, haccepted, hpkg, rfl⟩ := OcwGarble.jobOf_strip hjob hkind
  obtain ⟨messageCid, pinpadCid, txMsgStr, hmc, hpc, rfl, hstrip⟩ :=
    OcwGarble.requestsOf_stripJob hr
  obtain ⟨rfl, rfl, hmd, hpd⟩ := OcwGarble.Requests.strip.inj hstrip
  obtain rfl := hmd.symm
  obtain rfl := hpd.symm
  refine ⟨⟨pre, y, txMsgStr, messageCid, pinpadCid, i, env, root, before, messageReply, pinpadReply⟩,
    ?_, rfl, hkey, hcall.symm⟩
  exact ⟨⟨post, by simp⟩, hrequest, haccepted, ⟨pkg, hpkg, hmc, hpc⟩, hran, hroot, hposted, hmessage,
    hpinpad⟩

theorem Garbling.Happened.mono {g : Garbling ι A} {calls calls' : List (SignedCall A)}
    {es : List (NetworkEvent ι A)} {requests : List HttpRequest}
    (h : g.Happened garbleApi calls es requests) (hcalls : calls <+: calls') :
    g.Happened garbleApi calls' es requests :=
  { h with included := h.included.trans hcalls }

/-! ## A display -/

/-- How the display circuits come about: a request for them, the run of a worker that takes its
job, and the replies of the server. -/
structure Displaying (ι A : Type) where
  before : List (SignedCall A)
  request : SignedCall A
  node : ι
  env : OcwEnv A
  root : String
  earlier : List HttpRequest
  replies : DisplayRound.Replies

namespace Displaying

variable (d : Displaying ι A)

/-- The two requests to the server. -/
def posts (circuitsApi : OcwCircuits.Api) : List HttpRequest :=
  [OcwCircuits.displayPost circuitsApi d.root OcwCircuits.messageDisplayRequest,
    OcwCircuits.displayPost circuitsApi d.root OcwCircuits.pinpadDisplayRequest]

/-- It happened: the request is among the calls and was accepted; a circuits worker ran on the
node and posted both requests, and the exchanges brought the replies. -/
structure Happened (circuitsApi : OcwCircuits.Api) (calls : List (SignedCall A))
    (es : List (NetworkEvent ι A)) (requests : List HttpRequest) : Prop where
  included : d.before ++ [d.request] <+: calls
  call : d.request.call = .submitConfigDisplayCircuitsPackageSigned
  accepted : d.request.result (run d.before) = some (.ok ())
  ran : .circuitsWorker d.node d.env ∈ es
  root : d.env.root OcwCircuits.uriRootVarDisplay = some d.root
  posted : d.earlier ++ d.posts circuitsApi <+: requests
  messageReplied : AcceptedReply circuitsApi.base64Decode circuitsApi.skcdDisplayReply
    (d.env.http d.earlier.length) d.replies.message
  pinpadReplied : AcceptedReply circuitsApi.base64Decode circuitsApi.skcdDisplayReply
    (d.env.http (d.earlier.length + 1)) d.replies.pinpad

end Displaying

/-- The job of a request of the display kind. -/
theorem OcwCircuits.jobOf_display {x : SignedCall A} {s : Chain A} {d : OcwCircuits.IndexingData}
    (h : OcwCircuits.jobOf x s = some d) (hkind : d.grpcKind = .display) :
    x.call = .submitConfigDisplayCircuitsPackageSigned ∧ x.result s = some (.ok ()) := by
  unfold jobOf at h
  obtain ⟨hresult, h⟩ := Option.ite_none_right_eq_some.mp h
  revert h
  generalize x.call = call
  intro h
  cases call with
  | submitConfigGenericSigned cid =>
    obtain rfl := Option.some_inj.mp h
    cases hkind
  | submitConfigDisplayCircuitsPackageSigned => exact ⟨rfl, hresult⟩
  | _ => cases h

/-- What is published: a new cid, or the display circuits when both replies have metadata. -/
theorem OcwCircuits.publishedBy_cases {reply : OcwCircuits.GrpcCallReplyKind} {call : Call}
    (h : OcwCircuits.publishedBy reply = some call) :
    (∃ cid, call = .callbackNewSkcdSigned cid) ∨
      ∃ replies : DisplayRound.Replies, reply = .display replies.message replies.pinpad ∧
        call = replies.callback := by
  rcases reply with reply | ⟨⟨mc, mm⟩, ⟨pc, pm⟩⟩
  · exact Or.inl ⟨_, (Option.some_inj.mp h).symm⟩
  · obtain ⟨⟨nm⟩, hm, h⟩ := Option.bind_eq_some_iff.mp h
    obtain ⟨⟨np⟩, hp, h⟩ := Option.bind_eq_some_iff.mp h
    have hm : mm = some ⟨nm⟩ := hm
    have hp : pm = some ⟨np⟩ := hp
    exact Or.inr ⟨⟨mc, nm, pc, np⟩, by rw [hm, hp]; rfl, (Option.some_inj.mp h).symm⟩

/-- What a run of the circuits worker on a node justifies. -/
theorem exists_of_circuits_justifies {calls : List (SignedCall A)} {es : List (NetworkEvent ι A)}
    {i : ι} {requests : List HttpRequest} {tx : A × Call}
    (h : (circuitsService garbleApi circuitsApi).Justifies calls es i requests tx) :
    ∃ pre y post d env before posts, calls = pre ++ y :: post ∧
      OcwCircuits.jobOf y (run pre) = some d ∧ .circuitsWorker i env ∈ es ∧ tx.1 ∈ env.keystore ∧
      OcwCircuits.Answers circuitsApi env before.length d posts tx.2 ∧
      before ++ posts <+: requests := by
  obtain ⟨d, env, before, posts, ⟨pre, y, post, hcalls, hjob⟩, ⟨e, he, ne, hwork, henv⟩, hkey,
    hanswers, hposted⟩ := h
  obtain rfl := eq_circuitsWorker hwork henv
  exact ⟨pre, y, post, d, env, before, posts, hcalls, hjob, he, hkey, hanswers, hposted⟩

/-- The circuits worker submits a callback with a cid, or the one of display circuits that came
about. -/
theorem displaying_of_justifies {calls : List (SignedCall A)} {es : List (NetworkEvent ι A)} {i : ι}
    {requests : List HttpRequest} {tx : A × Call}
    (h : (circuitsService garbleApi circuitsApi).Justifies calls es i requests tx) :
    (∃ cid, tx.2 = .callbackNewSkcdSigned cid) ∨
      ∃ d : Displaying ι A, d.Happened circuitsApi calls es requests ∧ d.node = i ∧
        tx.1 ∈ d.env.keystore ∧ tx.2 = d.replies.callback := by
  obtain ⟨pre, y, post, job, env, before, posts, rfl, hjob, hran, hkey,
    ⟨r, root, reply, hr, hroot, hbrings, rfl, hcall⟩, hposted⟩ := exists_of_circuits_justifies h
  refine (OcwCircuits.publishedBy_cases hcall).imp id ?_
  rintro ⟨replies, rfl, hcallback⟩
  rcases r with message | _
  · exact hbrings.elim
  obtain ⟨hmessage, hpinpad⟩ := hbrings
  obtain ⟨hrequest, haccepted⟩ := OcwCircuits.jobOf_display hjob
    (OcwCircuits.grpcKind_of_requests hr)
  refine ⟨⟨pre, y, i, env, root, before, replies⟩, ?_, rfl, hkey, hcallback⟩
  exact ⟨⟨post, by simp⟩, hrequest, haccepted, hran, hroot, hposted, hmessage, hpinpad⟩

theorem Displaying.Happened.mono {d : Displaying ι A} {calls calls' : List (SignedCall A)}
    {es : List (NetworkEvent ι A)} {requests : List HttpRequest}
    (h : d.Happened circuitsApi calls es requests) (hcalls : calls <+: calls') :
    d.Happened circuitsApi calls' es requests :=
  { h with included := h.included.trans hcalls }

/-! ## Where stored data comes from -/

/-- The call writes validation entries, pending packages or the display package: it is
`store_metadata` or a callback of the workers that does. -/
def Call.Stores : Call → Prop
  | .storeMetadata .. | .callbackNewDisplayCircuitsPackageSigned ..
  | .callbackNewGarbledAndStripSigned .. => True
  | _ => False

omit [DecidableEq A] in
theorem stores_of_carried {x : SignedCall A} {v : Bytes × Bytes × Bytes}
    (h : x.carried = some v) : x.call.Stores := by
  unfold SignedCall.carried at h
  revert h
  generalize x.call = call
  intro h
  cases call with
  | storeMetadata c m p => trivial
  | callbackNewGarbledAndStripSigned mg mk md pg pk pd => trivial
  | _ => cases h

/-- What holds of the chain after calls, and not of a fresh one, was brought about by a call. -/
theorem exists_call (P : Chain A → Prop) (hempty : ¬ P (Chain.empty A)) {xs : List (SignedCall A)}
    (h : P (run xs)) : ∃ pre z post, xs = pre ++ z :: post ∧ ¬ P (run pre) ∧ P (z.apply (run pre)) :=
  @Runs.exists_step _ _ (fun s x => SignedCall.apply x s) P _ hempty _ h

/-- An entry that is there was stored, with the digits it holds. -/
theorem exists_store {xs : List (SignedCall A)} {a : A} {c : Bytes} {pkg : DisplayValidationPackage}
    (h : storedPackage (run xs) a c = some pkg) :
    ∃ pre z post, xs = pre ++ z :: post ∧ z.who = a ∧
      z.carried = some (c, pkg.messageDigits.val, pkg.pinpadDigits.val) := by
  have hempty : ¬ storedPackage (Chain.empty A) a c = some pkg := by
    intro hstored
    obtain ⟨cid, -, hget⟩ := Option.bind_eq_some_iff.mp hstored
    cases hget
  obtain ⟨pre, z, post, rfl, hbefore, hafter⟩ := exists_call
    (fun s => storedPackage s a c = some pkg) hempty h
  by_cases hz : z.Stores (run pre) a c
  · obtain ⟨rfl, hres, m, p, hcarried⟩ := hz
    obtain ⟨pkg', hpkg', rfl, rfl⟩ := SignedCall.storedPackage_of_stores hcarried hres
    obtain rfl := Option.some_inj.mp (hafter.symm.trans hpkg')
    exact ⟨pre, z, post, rfl, rfl, hcarried⟩
  · rw [SignedCall.storedPackage_apply hz] at hafter
    exact absurd hafter hbefore

/-- A package an account appends is that of a strip callback it signed. -/
theorem SignedCall.mem_appended {x : SignedCall A} {s : Chain A} {a : A}
    {q : DisplayStrippedCircuitsPackage} (h : q ∈ x.appended s a) :
    x.who = a ∧ ∃ mg mk md pg pk pd, x.call = .callbackNewGarbledAndStripSigned mg mk md pg pk pd ∧
      OcwGarble.strippedPackage mg mk pg pk md.length = some q := by
  unfold appended at h
  split at h
  · rename_i hwho
    refine ⟨hwho.1, ?_⟩
    revert h
    generalize x.call = call
    intro h
    cases call with
    | callbackNewGarbledAndStripSigned mg mk md pg pk pd =>
      exact ⟨mg, mk, md, pg, pk, pd, rfl, Option.mem_toList.mp h⟩
    | _ => cases h
  · cases h

/-- A pending package was appended by some call. -/
theorem exists_appended {xs : List (SignedCall A)} {a : A} {q : DisplayStrippedCircuitsPackage}
    (h : q ∈ ((run xs).pending a).val) :
    ∃ pre z post, xs = pre ++ z :: post ∧ q ∈ z.appended (run pre) a := by
  have hempty : ¬ q ∈ ((Chain.empty A).pending a).val := fun hmem => by cases hmem
  obtain ⟨pre, z, post, rfl, hbefore, hafter⟩ := exists_call (fun s => q ∈ (s.pending a).val) hempty
    h
  rw [SignedCall.pending_apply_val] at hafter
  exact ⟨pre, z, post, rfl, (List.mem_append.mp hafter).resolve_left hbefore⟩

/-- A call that changes the display package is a display callback. -/
theorem SignedCall.display_of_writes {x : SignedCall A} {s : Chain A} {pkg : DisplaySkcdPackage}
    (h : (x.writes s).display = some pkg) : ∃ m nm p np,
      x.call = .callbackNewDisplayCircuitsPackageSigned m nm p np ∧
      OcwCircuits.displayEntry m nm p np = some pkg := by
  obtain ⟨-, hwrites⟩ | ⟨r, -, hmakes⟩ := x.writes_cases s
  · rw [hwrites] at h
    cases h
  · revert hmakes h
    generalize x.writes s = e, x.call = call
    intro h hmakes
    cases hmakes with
    | callbackNewDisplay hlog hpkg =>
      obtain rfl := Option.some_inj.mp h
      exact ⟨_, _, _, _, rfl, hpkg⟩
    | _ => cases h

/-- A package that is ready was set by a display callback. -/
theorem exists_display {xs : List (SignedCall A)} {pkg : DisplaySkcdPackage}
    (h : OcwCircuits.getDisplayCircuitsPackage (run xs) = .ok pkg) :
    ∃ pre z post m nm p np, xs = pre ++ z :: post ∧
      z.call = .callbackNewDisplayCircuitsPackageSigned m nm p np ∧ pkg.messageSkcdCid.val = m ∧
      pkg.pinpadSkcdCid.val = p := by
  have hempty : ¬ OcwCircuits.getDisplayCircuitsPackage (Chain.empty A) = .ok pkg := fun hok => by
    cases hok
  obtain ⟨pre, z, post, rfl, hbefore, hafter⟩ := exists_call
    (fun s => OcwCircuits.getDisplayCircuitsPackage s = .ok pkg) hempty h
  unfold OcwCircuits.getDisplayCircuitsPackage at hbefore hafter
  rw [SignedCall.display_apply] at hafter
  rcases hdisplay : (z.writes (run pre)).display with _ | pkg'
  · rw [hdisplay] at hafter
    exact absurd hafter hbefore
  · rw [hdisplay, Option.getD_some] at hafter
    obtain ⟨m, nm, p, np, hz, hentry⟩ := SignedCall.display_of_writes hdisplay
    simp only at hafter
    split at hafter
    · cases hafter
    · obtain rfl := Except.ok.inj hafter
      obtain ⟨hm, -, hp, -⟩ := OcwCircuits.displayEntry_eq_some_iff.mp hentry
      exact ⟨pre, z, post, m, nm, p, np, rfl, hz, hm, hp⟩

/-! ## Histories -/

/-- The users leave the calls that store to the workers. -/
def UsersStoreNothing (es : List (NetworkEvent ι A)) : Prop :=
  ∀ x, .call x ∈ es → ¬ x.call.Stores

namespace Network

/-- A history of two garbled circuits: the display circuits came about, and after that they were
garbled, by a request that is among the calls. -/
structure Traced (garbleApi : OcwGarble.Api) (circuitsApi : OcwCircuits.Api) (net : Network ι A)
    (es : List (NetworkEvent ι A)) (calls : List (SignedCall A)) (d : Displaying ι A)
    (g : Garbling ι A) : Prop where
  displayed : d.Happened circuitsApi g.before es (net.ocw d.node).posted
  garbled : g.Happened garbleApi calls es (net.ocw g.node).posted
  messageCid : g.messageCid = d.replies.messageCid
  pinpadCid : g.pinpadCid = d.replies.pinpadCid

section Sound

variable {net : Network ι A} {es : List (NetworkEvent ι A)}
  (h : Sound garbleApi circuitsApi net es) (husers : UsersStoreNothing es)

include h husers

/-- A call with digits that is in a block was submitted for a garbling that happened. -/
theorem Sound.garbling {pre post : List (SignedCall A)} {x : SignedCall A}
    (hcalls : net.calls = pre ++ x :: post) {c m p : Bytes} (hcarried : x.carried = some (c, m, p)) :
    ∃ g : Garbling ι A, g.Happened garbleApi pre es (net.ocw g.node).posted ∧
      x.who ∈ g.env.keystore ∧ g.callback = x.call := by
  rcases h.calls pre x post hcalls with hcall | ⟨i, hgarble | hcircuits⟩
  · exact absurd (stores_of_carried hcarried) (husers x hcall)
  · obtain ⟨g, hg, rfl, hkey, hcallback⟩ := garbling_of_justifies hcarried hgarble
    exact ⟨g, hg, hkey, hcallback⟩
  · have hnone : x.carried = none := by
      rcases displaying_of_justifies hcircuits with ⟨cid, hx⟩ | ⟨d, -, -, -, hx⟩
      · have hx : x.call = .callbackNewSkcdSigned cid := hx
        rw [SignedCall.carried, hx]
      · have hx : x.call = d.replies.callback := hx
        rw [SignedCall.carried, hx]
        rfl
    exact absurd (hcarried.symm.trans hnone) (Option.some_ne_none _)

/-- A display callback that is in a block was submitted for display circuits that came about. -/
theorem Sound.displaying {pre post : List (SignedCall A)} {x : SignedCall A}
    (hcalls : net.calls = pre ++ x :: post) {m p : Bytes} {nm np : UInt32}
    (hx : x.call = .callbackNewDisplayCircuitsPackageSigned m nm p np) :
    ∃ d : Displaying ι A, d.Happened circuitsApi pre es (net.ocw d.node).posted ∧
      m = utf8Bytes d.replies.messageCid ∧ p = utf8Bytes d.replies.pinpadCid := by
  rcases h.calls pre x post hcalls with hcall | ⟨i, hgarble | hcircuits⟩
  · refine absurd ?_ (husers x hcall)
    rw [hx]
    trivial
  · -- the garbling worker signs no display callback
    obtain ⟨-, -, -, -, -, -, -, -, -, -, -, ⟨r, root, reply, -, -, -, -, hcall⟩, -⟩ :=
      exists_of_garble_justifies hgarble
    have hcall : x.call = OcwGarble.callbackOf reply := hcall
    rw [hx] at hcall
    cases reply <;> cases hcall
  · rcases displaying_of_justifies hcircuits with ⟨cid, hcall⟩ | ⟨d, hd, rfl, -, hcall⟩
    · exact absurd (hx.symm.trans hcall) (by simp)
    · obtain ⟨hm, -, hp, -⟩ := Call.callbackNewDisplayCircuitsPackageSigned.inj (hx.symm.trans hcall)
      exact ⟨d, hd, hm, hp⟩

/-- **The circuits of a garbling** have a history. -/
theorem Sound.traced {calls : List (SignedCall A)} (hcalls : calls <+: net.calls)
    {g : Garbling ι A} (hg : g.Happened garbleApi calls es (net.ocw g.node).posted) :
    ∃ d : Displaying ι A, Traced garbleApi circuitsApi net es calls d g := by
  obtain ⟨pkg, hpkg, hmessage, hpinpad⟩ := hg.package
  obtain ⟨pre, z, post, m, nm, p, np, hbefore, hz, hm, hp⟩ := exists_display hpkg
  obtain ⟨rest, hrest⟩ := hg.included.trans hcalls
  have hsplit : net.calls = pre ++ z :: (post ++ [g.request] ++ rest) := by
    rw [← hrest, hbefore]
    simp
  obtain ⟨d, hd, hdm, hdp⟩ := h.displaying husers hsplit hz
  refine ⟨d, hd.mono ?_, hg, ?_, ?_⟩
  · rw [hbefore]
    exact List.prefix_append _ _
  · exact utf8Bytes_injective (hmessage.symm.trans (hm.trans hdm))
  · exact utf8Bytes_injective (hpinpad.symm.trans (hp.trans hdp))

end Sound

end Network

variable [DecidableEq ι]

/-- **A code that passes has a history.**  When the users store nothing, whatever the order of
events: a `check_input` that passes is signed with a key of the worker that had the circuits
garbled, it names the message circuit the garbling server replied, and its input spells the digits
that an earlier request drew, on the pinpad that request drew; and the circuits garbled are those
the circuits server replied before. -/
theorem passing_code_traced (garbleApi : OcwGarble.Api) (circuitsApi : OcwCircuits.Api)
    (es : List (NetworkEvent ι A)) (husers : UsersStoreNothing es) {pre post : List (SignedCall A)}
    {y : SignedCall A} {c input : Bytes}
    (hcalls : ((Network.launch ι A).run garbleApi circuitsApi es).calls = pre ++ y :: post)
    (hy : y.call = .checkInput c input) (hpass : .txPass y.who ∈ y.emitted (run pre)) :
    ∃ d g, ((Network.launch ι A).run garbleApi circuitsApi es).Traced garbleApi circuitsApi es pre d
        g ∧
      y.who ∈ g.env.keystore ∧ c = utf8Bytes g.messageReply.pgarbledCid ∧
      Round.CodeFor g.digits input := by
  obtain ⟨-, pkg, hpkg, -, hright⟩ := (SignedCall.emits_txPass_iff hy _ _).mp hpass
  obtain ⟨before, z, between, rfl, hwho, hcarried⟩ := exists_store hpkg
  have hsound := @Network.sound_run ι A _ garbleApi circuitsApi _ es
  have hsplit : ((Network.launch ι A).run garbleApi circuitsApi es).calls =
      before ++ z :: (between ++ y :: post) := by
    rw [hcalls]
    simp
  obtain ⟨g, hg, hkey, hcallback⟩ := hsound.garbling husers hsplit hcarried
  have hpre : before ++ z :: between <+:
      ((Network.launch ι A).run garbleApi circuitsApi es).calls := ⟨y :: post, hcalls.symm⟩
  obtain ⟨d, hd⟩ := hsound.traced husers hpre (hg.mono (List.prefix_append _ _))
  rw [SignedCall.carried, ← hcallback] at hcarried
  obtain ⟨hcid, hm, hp⟩ : utf8Bytes g.messageReply.pgarbledCid = c ∧
      g.digits.1 = pkg.messageDigits.val ∧ g.digits.2 = pkg.pinpadDigits.val := by
    simpa only [Garbling.callback, OcwGarble.callbackOf, Option.some_inj, Prod.mk.injEq]
      using hcarried
  refine ⟨d, g, hd, hwho ▸ hkey, hcid.symm, ?_⟩
  rw [Round.CodeFor, hm, hp]
  exact hright

/-- One node serves a request for the display circuits and one for the garbled circuits. -/
def servedRun : List (NetworkEvent Unit ℕ) :=
  [.call sampleDisplayRound.request, .importCall (),
    .circuitsWorker () sampleDisplayRound.workerEnv, .includeTx 0 default, .importCall (),
    .call sampleGarbleRound.request, .importCall (), .garbleWorker () sampleGarbleRound.workerEnv,
    .includeTx 0 default, .importCall ()]

/-- The network after it. -/
def servedNetwork : Network Unit ℕ :=
  (Network.launch Unit ℕ).run OcwGarble.shortApi OcwCircuits.displayApi servedRun

/-- Account 0 types the code that was drawn. -/
def servedCheck : SignedCall ℕ := ⟨default, 0, .checkInput (utf8Bytes ['a']) [9, 9]⟩

theorem usersStoreNothing_servedRun : UsersStoreNothing (servedRun ++ [.call servedCheck]) := by
  intro x hx hstores
  have hcases : x = sampleDisplayRound.request ∨ x = sampleGarbleRound.request ∨
      x = servedCheck := by
    simpa [servedRun] using hx
  rcases hcases with rfl | rfl | rfl
  · exact hstores
  · exact hstores
  · exact hstores

theorem calls_servedRun :
    ((Network.launch Unit ℕ).run OcwGarble.shortApi OcwCircuits.displayApi
      (servedRun ++ [.call servedCheck])).calls = servedNetwork.calls ++ [servedCheck] := by
  rw [servedNetwork, Network.run_concat, Network.step_call]

theorem txPass_servedCheck :
    .txPass servedCheck.who ∈ servedCheck.emitted (run servedNetwork.calls) := by
  decide +kernel

/-- The code of the served network passes, and has a history. -/
theorem passing_code_traced_servedRun :
    ∃ d g, ((Network.launch Unit ℕ).run OcwGarble.shortApi OcwCircuits.displayApi
        (servedRun ++ [.call servedCheck])).Traced OcwGarble.shortApi OcwCircuits.displayApi
        (servedRun ++ [.call servedCheck]) servedNetwork.calls d g ∧
      servedCheck.who ∈ g.env.keystore ∧
      utf8Bytes ['a'] = utf8Bytes g.messageReply.pgarbledCid ∧ Round.CodeFor g.digits [9, 9] := by
  have htraced := @passing_code_traced Unit ℕ _ _ OcwGarble.shortApi OcwCircuits.displayApi
    (servedRun ++ [.call servedCheck]) usersStoreNothing_servedRun servedNetwork.calls []
    servedCheck (utf8Bytes ['a']) [9, 9]
  exact htraced calls_servedRun rfl txPass_servedCheck

/-- **A pending package has a history.**  When the users store nothing, every package in the list
of an account, on every node, names the four cids that the garbling server replied for the circuits
of one request, to a worker with a key of that account. -/
theorem pending_package_traced (garbleApi : OcwGarble.Api) (circuitsApi : OcwCircuits.Api)
    (es : List (NetworkEvent ι A)) (husers : UsersStoreNothing es) (i : ι) (a : A)
    {q : DisplayStrippedCircuitsPackage}
    (hq : q ∈ ((((Network.launch ι A).run garbleApi circuitsApi es).peers i).node.chain.pending
      a).val) :
    ∃ d g, ((Network.launch ι A).run garbleApi circuitsApi es).Traced garbleApi circuitsApi es
        ((Network.launch ι A).run garbleApi circuitsApi es).calls d g ∧
      a ∈ g.env.keystore ∧ Round.Names q g.messageReply g.pinpadReply 2 := by
  have hsound := @Network.sound_run ι A _ garbleApi circuitsApi _ es
  revert hq hsound
  generalize (Network.launch ι A).run garbleApi circuitsApi es = net
  intro hq hsound
  rw [(hsound.peers i).chain] at hq
  obtain ⟨pre, z, post, htake, hz⟩ := exists_appended hq
  obtain ⟨hwho, mg, mk, md, pg, pk, pd, hcall, hpkg⟩ := SignedCall.mem_appended hz
  have hcarried : z.carried = some (mg, md, pd) := by rw [SignedCall.carried, hcall]
  have hsplit : net.calls = pre ++ z :: (post ++ net.calls.drop (net.peers i).imported) := by
    have hsplit := List.take_append_drop (net.peers i).imported net.calls
    rw [htake, List.append_assoc] at hsplit
    exact hsplit.symm
  obtain ⟨g, hg, hkey, hcallback⟩ := hsound.garbling husers hsplit hcarried
  obtain ⟨d, hd⟩ := hsound.traced husers List.prefix_rfl
    (hg.mono ⟨_, hsplit.symm⟩)
  rw [hcall] at hcallback
  obtain ⟨rfl, rfl, hmd, rfl, rfl, -⟩ := Call.callbackNewGarbledAndStripSigned.inj hcallback
  have hlen : md.length = 2 := by
    rw [← hmd]
    exact OcwGarble.length_drawDigits_message _ _
  refine ⟨d, g, hd, hwho ▸ hkey, Round.names_of_strippedPackage (by omega) ?_⟩
  rw [← hlen]
  exact hpkg

/-- The one package of the served network. -/
def servedPackage : DisplayStrippedCircuitsPackage where
  messagePgarbledCid := ⟨utf8Bytes ['a'], by decide⟩
  messagePackmsgCid := ⟨utf8Bytes ['b'], by decide⟩
  pinpadPgarbledCid := ⟨utf8Bytes ['c'], by decide⟩
  pinpadPackmsgCid := ⟨utf8Bytes ['d'], by decide⟩
  messageNbDigits := 2

theorem pending_servedRun : servedPackage ∈
    ((((Network.launch Unit ℕ).run OcwGarble.shortApi OcwCircuits.displayApi
      (servedRun ++ [.call servedCheck])).peers ()).node.chain.pending 0).val := by
  rw [Network.run_concat, Network.step_call]
  decide +kernel

/-- The package is in the list of account 0, and has a history. -/
theorem pending_package_traced_servedRun :
    ∃ d g, ((Network.launch Unit ℕ).run OcwGarble.shortApi OcwCircuits.displayApi
        (servedRun ++ [.call servedCheck])).Traced OcwGarble.shortApi OcwCircuits.displayApi
        (servedRun ++ [.call servedCheck])
        ((Network.launch Unit ℕ).run OcwGarble.shortApi OcwCircuits.displayApi
          (servedRun ++ [.call servedCheck])).calls d g ∧
      0 ∈ g.env.keystore ∧ Round.Names servedPackage g.messageReply g.pinpadReply 2 := by
  have htraced := @pending_package_traced Unit ℕ _ _ OcwGarble.shortApi OcwCircuits.displayApi
    (servedRun ++ [.call servedCheck]) usersStoreNothing_servedRun () 0 servedPackage
  exact htraced pending_servedRun

end OffchainWorkerDemo
