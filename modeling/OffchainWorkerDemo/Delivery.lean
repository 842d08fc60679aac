/-
# What becomes of the requests

A ledger beside a node numbers the accepted requests of a pallet and keeps which of
them the slot holds and which its worker dispatched, that is, had all their requests
sent.  Nothing is lost exactly in the runs in which every request finds an empty slot
and every job that is taken is sendable: `nothingLost_iff_orderly`.
-/
import OffchainWorkerDemo.Node
import OffchainWorkerDemo.Lib.Ledger

namespace OffchainWorkerDemo

variable {A J : Type} [DecidableEq A] {garbleApi : OcwGarble.Api} {circuitsApi : OcwCircuits.Api}

namespace OcwPallet

variable (p : OcwPallet A J garbleApi circuitsApi)

/-! ## The ledger -/

/-- The run sent all the requests of the job it took. -/
def dispatches (env : OcwEnv A) (s t : Node A) : Bool :=
  match p.posts env (p.slot.read s.ocw.storage) with
  | some posts => decide (t.ocw.sent = s.ocw.sent ++ posts)
  | none => false

/-- The ledger after an event: an accepted request is entered, a job that is taken is struck
out, and its number kept if it was dispatched. -/
def record (s : Node A) (l : Ledger J) (e : NodeEvent A) : Ledger J :=
  match p.envOf e with
  | some env =>
    if p.slot.Idle s.ocw then l
    else l.take (p.dispatches env s (Node.step garbleApi circuitsApi s e))
  | none =>
    match e with
    | .call x => match p.jobOf x s.chain with
      | some d => l.accept d
      | none => l
    | _ => l

/-- A node and its ledger after events, one after another. -/
def track (s : Node A) (l : Ledger J) : List (NodeEvent A) → Node A × Ledger J
  | [] => (s, l)
  | e :: es => track (Node.step garbleApi circuitsApi s e) (p.record s l e) es

/-! ## What is owed to a request, and when it is kept -/

/-- Every accepted request was dispatched to the endpoint of its kind, with all that it posts sent
one after the other, or is still held in the slot. -/
def NothingLost (r : Node A × Ledger J) : Prop :=
  ∀ k d, r.2.accepted[k]? = some d →
    (k ∈ r.2.delivered ∧
      ∃ env posts, p.posts env d = some posts ∧ posts <:+: r.1.ocw.sent) ∨
    (r.2.held = some k ∧ p.slot.job r.1.ocw.storage = some d)

/-- A request finds the slot without a job, and a run that takes a job finds it sendable: its
fields are there, its strings are UTF-8, the URI root is set, `send` does not fail, and the first of
two requests is not answered so that the worker stops. -/
structure StepOk (s : Node A) (e : NodeEvent A) : Prop where
  accepts : ∀ x, e = .call x → (p.jobOf x s.chain).isSome → p.slot.job s.ocw.storage = none
  sends : ∀ env, p.envOf e = some env → ¬ p.slot.Idle s.ocw →
    p.Sendable env s.ocw.posted.length (p.slot.read s.ocw.storage)

/-- Every step of the run is fine where it happens. -/
def Orderly (s : Node A) : List (NodeEvent A) → Prop
  | [] => True
  | e :: es => p.StepOk s e ∧ Orderly (Node.step garbleApi circuitsApi s e) es

/-! ## One step -/

/-- The slot holds what the ledger says, and what was delivered has been sent. -/
structure Tracks (s : Node A) (l : Ledger J) : Prop where
  held : p.slot.job s.ocw.storage = l.heldItem
  sent : ∀ k ∈ l.delivered, ∃ d env posts, l.accepted[k]? = some d ∧
    p.posts env d = some posts ∧ posts <:+: s.ocw.sent

theorem tracks_launch {chain : Chain A} (h : p.slot.job (fun _ => none) = none) :
    p.Tracks (Node.launch chain) (Ledger.empty J) := by
  refine ⟨h, ?_⟩
  intro k hk
  cases hk

theorem dispatches_eq_true_iff {env : OcwEnv A} {s t : Node A} : p.dispatches env s t = true ↔
    ∃ posts, p.posts env (p.slot.read s.ocw.storage) = some posts ∧
      t.ocw.sent = s.ocw.sent ++ posts := by
  unfold dispatches
  rcases p.posts env (p.slot.read s.ocw.storage) with _ | posts
  · simp
  · simp

/-- A run that takes a job dispatches it if it is sendable. -/
theorem dispatches_iff {s : Node A} {e : NodeEvent A} {env : OcwEnv A}
    (henv : p.envOf e = some env) (hidle : ¬ p.slot.Idle s.ocw) :
    p.dispatches env s (Node.step garbleApi circuitsApi s e) = true ↔
      p.Sendable env s.ocw.posted.length (p.slot.read s.ocw.storage) :=
  p.dispatches_eq_true_iff.trans (p.sent_iff s e env henv hidle)

/-- The job that is taken is the one the ledger holds. -/
theorem Tracks.read_eq {s : Node A} {l : Ledger J} (h : p.Tracks s l)
    (hidle : ¬ p.slot.Idle s.ocw) : ∃ k, l.held = some k ∧
      l.accepted[k]? = some (p.slot.read s.ocw.storage) := by
  have hjob : p.slot.job s.ocw.storage = some (p.slot.read s.ocw.storage) :=
    JobSlot.job_eq_some_iff.mpr ⟨rfl, fun h0 => hidle (Or.inl h0)⟩
  rw [h.held] at hjob
  exact Option.bind_eq_some_iff.mp hjob

/-- What was sent stays sent. -/
theorem Tracks.sent_step {s : Node A} {l : Ledger J} (h : p.Tracks s l) (e : NodeEvent A) :
    ∀ k ∈ l.delivered, ∃ d env posts, l.accepted[k]? = some d ∧ p.posts env d = some posts ∧
      posts <:+: (Node.step garbleApi circuitsApi s e).ocw.sent := by
  intro k hk
  obtain ⟨d, env, posts, hd, hposts, hsent⟩ := h.sent k hk
  have hprefix := OcwState.sent_prefix (Node.exchanges_step garbleApi circuitsApi s e)
  exact ⟨d, env, posts, hd, hposts, hsent.trans hprefix.isInfix⟩

/-- An accepted request is entered. -/
theorem record_call {s : Node A} {l : Ledger J} {x : SignedCall A} :
    p.record s l (.call x) = match p.jobOf x s.chain with
      | some d => l.accept d
      | none => l := by
  unfold record
  rw [p.envOf_call]

/-- A run without a job to take changes nothing. -/
theorem record_idle {s : Node A} {l : Ledger J} {e : NodeEvent A} {env : OcwEnv A}
    (henv : p.envOf e = some env) (hidle : p.slot.Idle s.ocw) : p.record s l e = l := by
  unfold record
  rw [henv]
  exact if_pos hidle

/-- A run with a job takes it. -/
theorem record_busy {s : Node A} {l : Ledger J} {e : NodeEvent A} {env : OcwEnv A}
    (henv : p.envOf e = some env) (hidle : ¬ p.slot.Idle s.ocw) :
    p.record s l e = l.take (p.dispatches env s (Node.step garbleApi circuitsApi s e)) := by
  unfold record
  rw [henv]
  exact if_neg hidle

/-- The other worker changes nothing. -/
theorem record_other {s : Node A} {l : Ledger J} {e : NodeEvent A} (hcall : ∀ x, e ≠ .call x)
    (henv : p.envOf e = none) : p.record s l e = l := by
  unfold record
  rw [henv]
  rcases e with x | env | env
  · exact absurd rfl (hcall x)
  · rfl
  · rfl

/-- **A step keeps the ledger true.** -/
theorem Tracks.step {s : Node A} {l : Ledger J} (h : p.Tracks s l) (e : NodeEvent A) :
    p.Tracks (Node.step garbleApi circuitsApi s e) (p.record s l e) := by
  rcases henv : p.envOf e with _ | env
  · by_cases hcall : ∃ x, e = .call x
    · obtain ⟨x, rfl⟩ := hcall
      have hjob := p.job_call s x
      rw [record_call]
      rcases hd : p.jobOf x s.chain with _ | d
      · rw [hd, Option.none_or] at hjob
        exact ⟨hjob.trans h.held, h.sent_step p _⟩
      · rw [hd, Option.some_or] at hjob
        refine ⟨by rw [hjob, Ledger.heldItem_accept], fun k hk => ?_⟩
        obtain ⟨d', env, posts, hd', hposts, hsent⟩ := h.sent_step p (.call x) k hk
        refine ⟨d', env, posts, ?_, hposts, hsent⟩
        exact (List.getElem?_append_left (l.delivered_lt k hk)).trans hd'
    · have hcall : ∀ x, e ≠ .call x := fun x hx => hcall ⟨x, hx⟩
      rw [p.record_other hcall henv]
      exact ⟨(p.job_other s e hcall henv).trans h.held, h.sent_step p e⟩
  · by_cases hidle : p.slot.Idle s.ocw
    · rw [p.record_idle henv hidle, p.step_idle s e env henv hidle]
      exact h
    · rw [p.record_busy henv hidle]
      refine ⟨p.job_taken s e env henv hidle, fun k hk => ?_⟩
      by_cases hold : k ∈ l.delivered
      · exact h.sent_step p e k hold
      -- The only new number is that of the job just taken, whose requests were sent.
      obtain ⟨n, hn, hread⟩ := h.read_eq p hidle
      rcases hdispatches : p.dispatches env s (Node.step garbleApi circuitsApi s e) with _ | _
      · rw [hdispatches] at hk
        exact absurd hk hold
      · rw [hdispatches] at hk
        have hkn : k = n := by
          rcases List.mem_append.mp hk with hk | hk
          · exact absurd hk hold
          · rw [hn] at hk
            exact List.mem_singleton.mp hk
        subst hkn
        obtain ⟨posts, hposts, hsent⟩ := p.dispatches_eq_true_iff.mp hdispatches
        refine ⟨_, env, posts, hread, hposts, ?_⟩
        rw [hsent]
        exact (List.suffix_append _ _).isInfix

/-- **A step loses nothing** exactly when it is fine. -/
theorem complete_record_iff {s : Node A} {l : Ledger J} (h : p.Tracks s l) (e : NodeEvent A) :
    (p.record s l e).Complete ↔ l.Complete ∧ p.StepOk s e := by
  rcases henv : p.envOf e with _ | env
  · have hsends : ∀ env, p.envOf e = some env → ¬ p.slot.Idle s.ocw →
        p.Sendable env s.ocw.posted.length (p.slot.read s.ocw.storage) := by
      intro env henv'
      rw [henv] at henv'
      cases henv'
    by_cases hcall : ∃ x, e = .call x
    · obtain ⟨x, rfl⟩ := hcall
      rw [record_call]
      rcases hd : p.jobOf x s.chain with _ | d
      · refine ⟨fun hl => ⟨hl, ?_, hsends⟩, And.left⟩
        rintro x' hx hsome
        cases hx
        rw [hd] at hsome
        cases hsome
      · rw [Ledger.complete_accept_iff, ← Ledger.heldItem_eq_none_iff, ← h.held]
        refine and_congr_right fun _ => ⟨fun hnone => ⟨fun _ _ _ => hnone, hsends⟩, fun hok => ?_⟩
        exact hok.accepts x rfl (by rw [hd]; rfl)
    · have hcall : ∀ x, e ≠ .call x := fun x hx => hcall ⟨x, hx⟩
      rw [p.record_other hcall henv]
      exact ⟨fun hl => ⟨hl, fun x hx => absurd hx (hcall x), hsends⟩, And.left⟩
  · have haccepts : ∀ x, e = .call x → (p.jobOf x s.chain).isSome →
        p.slot.job s.ocw.storage = none := by
      rintro x rfl
      rw [p.envOf_call] at henv
      cases henv
    by_cases hidle : p.slot.Idle s.ocw
    · rw [p.record_idle henv hidle]
      exact ⟨fun hl => ⟨hl, haccepts, fun _ _ hbusy => absurd hidle hbusy⟩, And.left⟩
    · obtain ⟨n, hn, -⟩ := h.read_eq p hidle
      have hdispatches := p.dispatches_iff henv hidle
      rw [p.record_busy henv hidle, Ledger.complete_take_iff, hn]
      refine and_congr_right fun _ => ⟨fun hsome => ⟨haccepts, ?_⟩, fun hok _ => ?_⟩
      · intro env' henv' _
        rw [henv] at henv'
        cases henv'
        exact hdispatches.mp (hsome rfl)
      · exact hdispatches.mpr (hok.sends env henv hidle)

/-! ## Runs -/

/-- What the ledger says is what was owed. -/
theorem nothingLost_iff_complete {s : Node A} {l : Ledger J} (h : p.Tracks s l) :
    p.NothingLost (s, l) ↔ l.Complete := by
  constructor
  · intro hlost k hk
    rcases hlost k _ (List.getElem?_eq_getElem hk) with ⟨hdelivered, -⟩ | ⟨hheld, -⟩
    · exact Or.inl hdelivered
    · exact Or.inr hheld
  · intro hcomplete k d hd
    obtain ⟨hk, -⟩ := List.getElem?_eq_some_iff.mp hd
    rcases hcomplete k hk with hdelivered | hheld
    · obtain ⟨d', env, posts, hd', hposts, hsent⟩ := h.sent k hdelivered
      obtain rfl := Option.some_inj.mp (hd.symm.trans hd')
      exact Or.inl ⟨hdelivered, env, posts, hposts, hsent⟩
    · refine Or.inr ⟨hheld, ?_⟩
      rw [h.held, Ledger.heldItem, hheld]
      exact hd

/-- **A run loses nothing** exactly when every step of it is fine. -/
theorem nothingLost_track_iff {s : Node A} {l : Ledger J} (h : p.Tracks s l)
    (es : List (NodeEvent A)) :
    p.NothingLost (p.track s l es) ↔ l.Complete ∧ p.Orderly s es := by
  induction es generalizing s l with
  | nil =>
    rw [track, p.nothingLost_iff_complete h, Orderly, and_true]
  | cons e es ih =>
    rw [track, ih (h.step p e), p.complete_record_iff h e, Orderly, and_assoc]

end OcwPallet

/-- **No request of either pallet is lost** exactly in the runs in which every request finds
the slot of its pallet empty and every job taken is sendable. -/
theorem nothingLost_iff_orderly (garbleApi : OcwGarble.Api) (circuitsApi : OcwCircuits.Api)
    (chain : Chain A) (es : List (NodeEvent A)) :
    ((garblePallet garbleApi circuitsApi).NothingLost
        ((garblePallet garbleApi circuitsApi).track (.launch chain) (.empty _) es) ↔
      (garblePallet garbleApi circuitsApi).Orderly (.launch chain) es) ∧
    ((circuitsPallet garbleApi circuitsApi).NothingLost
        ((circuitsPallet garbleApi circuitsApi).track (.launch chain) (.empty _) es) ↔
      (circuitsPallet garbleApi circuitsApi).Orderly (.launch chain) es) := by
  constructor
  · rw [OcwPallet.nothingLost_track_iff _ (OcwPallet.tracks_launch _ rfl)]
    exact and_iff_right Ledger.complete_empty
  · rw [OcwPallet.nothingLost_track_iff _ (OcwPallet.tracks_launch _ rfl)]
    exact and_iff_right Ledger.complete_empty

/-- Two requests in one block. -/
def twoRequests : List (NodeEvent ℕ) :=
  [.call ⟨default, 0, .garbleStandardSigned [97]⟩, .call ⟨default, 1, .garbleStandardSigned [98]⟩]

/-- The second request replaces the first before a worker has seen it. -/
theorem not_nothingLost_twoRequests :
    ¬ (garblePallet OcwGarble.shortApi OcwCircuits.shortApi).NothingLost
      ((garblePallet OcwGarble.shortApi OcwCircuits.shortApi).track
        (.launch (Chain.empty ℕ)) (.empty _) twoRequests) := by
  intro h
  rcases h 0 (OcwGarble.standardJob [97]) rfl with ⟨hdelivered, -⟩ | ⟨hheld, -⟩
  · cases hdelivered
  · cases hheld

end OffchainWorkerDemo
