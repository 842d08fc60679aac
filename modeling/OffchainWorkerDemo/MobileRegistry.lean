/-
# The mobile registry pallet

One dispatchable: an account registers the public key of its mobile device.
-/
import OffchainWorkerDemo.Chain

namespace OffchainWorkerDemo

namespace MobileRegistry

variable {A : Type}

/-- `ensure_pub_key_valid`: at least 32 bytes. -/
def ensurePubKeyValid (pubKey : Bytes) : Except DispatchError Unit :=
  if 32 ≤ pubKey.length then .ok () else .error .invalidKeySize

/-- `register_mobile` -/
def registerMobile [DecidableEq A] (origin : Origin A) (pubKey : Bytes) : Dispatch A Unit := do
  let who ← ensureSigned origin
  Exec.ofExcept (ensurePubKeyValid pubKey)
  depositEvent (.newMobileRegistered who)
  -- only the lower bound was checked above
  let pubKey ← unwrap (BoundedVec.tryFrom maxPubKeyLen pubKey)
  Exec.modify (·.insertMobile who ⟨pubKey⟩)

/-- **What `register_mobile` does**: a short key is refused, an over-long one traps. -/
theorem outcome_registerMobile [DecidableEq A] (who : A) (pubKey : Bytes) (s : Chain A) :
    (registerMobile (.signed who) pubKey s).outcome =
      if 32 ≤ pubKey.length then
        (BoundedVec.tryFrom maxPubKeyLen pubKey).map fun key =>
          (.ok (), (s.deposit (.newMobileRegistered who)).insertMobile who ⟨key⟩)
      else some (.error .invalidKeySize, s) := by
  unfold registerMobile ensurePubKeyValid
  rw [ensureSigned_signed_bind, Exec.bind_apply]
  by_cases h : 32 ≤ pubKey.length
  · rw [if_pos h, if_pos h, Exec.ofExcept_ok, Ended.andThen_ok]
    apply outcome_depositEvent_bind
    · rw [outcome_unwrap_bind, Option.map_eq_bind]
      rfl
    · intro _ _
      exact Event.encodable_of_vectors_eq_nil rfl
  · rw [if_neg h, if_neg h]
    rfl

end MobileRegistry

end OffchainWorkerDemo
