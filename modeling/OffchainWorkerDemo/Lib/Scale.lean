/-
# The SCALE codec

Little-endian integers, compact lengths, options and byte vectors, put together
from codecs that carry their own round-trip law.  An encoder that would panic
(a collection of more than `u32::MAX` elements) is recorded in `Codec.Fits`: the
law speaks of the values the encoder accepts.  The codecs are canonical: a decoder
accepts nothing but encodings.  They stand for the `parity-scale-codec` crate, whose
source is not at hand, and follow its published format; that compact lengths longer than
needed are refused is part of that format.
-/
import Mathlib.Data.List.Basic
import Mathlib.Tactic.Ring

namespace OffchainWorkerDemo

/-! ## Little-endian integers -/

/-- The `k` little-endian bytes of `n`. -/
def leBytes : ℕ → ℕ → List UInt8
  | 0, _ => []
  | k + 1, n => UInt8.ofNat n :: leBytes k (n / 256)

/-- The number a little-endian byte string stands for. -/
def leNat : List UInt8 → ℕ
  | [] => 0
  | b :: bs => b.toNat + 256 * leNat bs

@[simp] theorem length_leBytes (k n : ℕ) : (leBytes k n).length = k := by
  induction k generalizing n with
  | zero => rfl
  | succ k ih => simp [leBytes, ih]

theorem leNat_leBytes (k n : ℕ) (h : n < 256 ^ k) : leNat (leBytes k n) = n := by
  induction k generalizing n with
  | zero =>
    obtain rfl : n = 0 := by simpa using h
    rfl
  | succ k ih =>
    have hdiv : n / 256 < 256 ^ k := by
      rw [Nat.div_lt_iff_lt_mul (by omega), ← Nat.pow_succ]
      exact h
    simp only [leBytes, leNat, ih _ hdiv, UInt8.toNat_ofNat']
    omega

/-- A byte string of length `k` is the little-endian form of its number. -/
theorem leBytes_leNat {k : ℕ} {bs : List UInt8} (h : bs.length = k) :
    leBytes k (leNat bs) = bs := by
  induction k generalizing bs with
  | zero => rw [List.length_eq_zero_iff.mp h, leBytes]
  | succ k ih =>
    cases bs with
    | nil => cases h
    | cons b bs =>
      have hb := b.toNat_lt
      have hhead : UInt8.ofNat (b.toNat + 256 * leNat bs) = b := by
        rw [← UInt8.toNat_inj, UInt8.toNat_ofNat']
        omega
      have htail : (b.toNat + 256 * leNat bs) / 256 = leNat bs := by omega
      rw [leNat, leBytes, hhead, htail, ih (by simpa using h)]

theorem leNat_lt (bs : List UInt8) : leNat bs < 256 ^ bs.length := by
  induction bs with
  | nil => exact Nat.one_pos
  | cons b bs ih =>
    have hb := b.toNat_lt
    rw [leNat, List.length_cons, Nat.pow_succ]
    omega

/-- The little-endian bytes determine the number. -/
theorem leBytes_injective {k m n : ℕ} (hm : m < 256 ^ k) (hn : n < 256 ^ k)
    (h : leBytes k m = leBytes k n) : m = n := by
  rw [← leNat_leBytes k m hm, ← leNat_leBytes k n hn, h]

/-! ## Codecs -/

/-- An encoder, the decoder that reads a value off the front of a byte string,
and the round trip between them. -/
structure Codec (α : Type) where
  encode : α → List UInt8
  decode : List UInt8 → Option (α × List UInt8)
  /-- The values the encoder accepts; on the others it panics. -/
  Fits : α → Prop
  decFits : DecidablePred Fits
  decode_encode : ∀ a rest, Fits a → decode (encode a ++ rest) = some (a, rest)

instance {α : Type} (c : Codec α) : DecidablePred c.Fits := c.decFits

variable {α β : Type}

/-- Read `k` bytes off the front. -/
def readBytes (k : ℕ) (bs : List UInt8) : Option (List UInt8 × List UInt8) :=
  if k ≤ bs.length then some (bs.take k, bs.drop k) else none

theorem readBytes_append {k : ℕ} {xs : List UInt8} (h : xs.length = k) (rest : List UInt8) :
    readBytes k (xs ++ rest) = some (xs, rest) := by
  unfold readBytes
  rw [if_pos (by simp; omega), ← h, List.take_left, List.drop_left]

namespace Codec

/-- `u32`, four little-endian bytes. -/
def u32 : Codec UInt32 where
  encode n := leBytes 4 n.toNat
  decode bs := (readBytes 4 bs).map fun (x, rest) => (UInt32.ofNat (leNat x), rest)
  Fits _ := True
  decFits _ := inferInstanceAs (Decidable True)
  decode_encode := by
    intro n rest _
    rw [readBytes_append (length_leBytes 4 _)]
    simp only [Option.map_some, leNat_leBytes 4 n.toNat n.toNat_lt, UInt32.ofNat_toNat]

/-- Two variants fit in the byte of an enumeration. -/
theorem two_le_variants : 2 ≤ 256 := by decide

/-- A field-less enumeration of `k` variants, one byte. -/
def variant (k : ℕ) (hk : k ≤ 256) : Codec (Fin k) where
  encode i := [UInt8.ofNat i.val]
  decode
    | [] => none
    | b :: rest => if h : b.toNat < k then some (⟨b.toNat, h⟩, rest) else none
  Fits _ := True
  decFits _ := inferInstanceAs (Decidable True)
  decode_encode := by
    intro i rest _
    have hi : (UInt8.ofNat i.val).toNat = i.val := by
      have := i.isLt
      rw [UInt8.toNat_ofNat']
      omega
    simp only [List.cons_append, List.nil_append, hi]
    rw [dif_pos i.isLt]

/-- The compact form of a length: the two low bits tell how many bytes follow. -/
def compactBytes (n : ℕ) : List UInt8 :=
  if n < 2 ^ 6 then leBytes 1 (n * 4)
  else if n < 2 ^ 14 then leBytes 2 (n * 4 + 1)
  else if n < 2 ^ 30 then leBytes 4 (n * 4 + 2)
  else leBytes 5 (n * 256 + 3)

/-- Read a compact length; a form longer than the length needs is refused. -/
def readCompact : List UInt8 → Option (ℕ × List UInt8)
  | [] => none
  | b :: rest =>
    if b.toNat % 4 = 0 then some (b.toNat / 4, rest)
    else if b.toNat % 4 = 1 then do
      let (x, rest') ← readBytes 2 (b :: rest)
      if 2 ^ 6 ≤ leNat x / 4 then some (leNat x / 4, rest') else none
    else if b.toNat % 4 = 2 then do
      let (x, rest') ← readBytes 4 (b :: rest)
      if 2 ^ 14 ≤ leNat x / 4 then some (leNat x / 4, rest') else none
    -- the longer forms of this mode stand for numbers above 32 bits
    else if b.toNat / 4 = 0 then do
      let (x, rest') ← readBytes 4 rest
      if 2 ^ 30 ≤ leNat x then some (leNat x, rest') else none
    else none

theorem readCompact_compactBytes (n : ℕ) (hn : n < 2 ^ 32) (rest : List UInt8) :
    readCompact (compactBytes n ++ rest) = some (n, rest) := by
  unfold compactBytes
  -- the four lengths; the low bits of the first byte tell them apart
  split
  · have hb : (UInt8.ofNat (n * 4)).toNat = n * 4 := by rw [UInt8.toNat_ofNat']; omega
    simp only [leBytes, List.cons_append, List.nil_append, readCompact, hb]
    rw [if_pos (by omega), Nat.mul_div_cancel n (by omega)]
  split
  · have hx := leNat_leBytes 2 (n * 4 + 1) (by omega)
    have hb : (UInt8.ofNat (n * 4 + 1)).toNat % 4 = 1 := by rw [UInt8.toNat_ofNat']; omega
    have hr := readBytes_append (length_leBytes 2 (n * 4 + 1)) rest
    rw [leBytes, List.cons_append] at hr ⊢
    rw [leBytes] at hx
    simp only [readCompact, hb, hr, hx, Option.bind_eq_bind, Option.bind_some]
    rw [if_neg (by omega), if_pos trivial, if_pos (by omega)]
    congr 2
    omega
  split
  · have hx := leNat_leBytes 4 (n * 4 + 2) (by omega)
    have hb : (UInt8.ofNat (n * 4 + 2)).toNat % 4 = 2 := by rw [UInt8.toNat_ofNat']; omega
    have hr := readBytes_append (length_leBytes 4 (n * 4 + 2)) rest
    rw [leBytes, List.cons_append] at hr ⊢
    rw [leBytes] at hx
    simp only [readCompact, hb, hr, hx, Option.bind_eq_bind, Option.bind_some]
    rw [if_neg (by omega), if_neg (by omega), if_pos trivial, if_pos (by omega)]
    congr 2
    omega
  · -- the fourth form allows more bytes than four, a 32-bit length needs just these
    have hx := leNat_leBytes 4 n hn
    have hb : (UInt8.ofNat (n * 256 + 3)).toNat = 3 := by rw [UInt8.toNat_ofNat']; omega
    have hr := readBytes_append (length_leBytes 4 n) rest
    rw [leBytes, List.cons_append, show (n * 256 + 3) / 256 = n by omega]
    simp only [readCompact, hb, hr, Option.bind_eq_bind, Option.bind_some]
    rw [if_neg (by omega), if_neg (by omega), if_neg (by omega), if_pos trivial, hx,
      if_pos (by omega)]

/-- `Vec<u8>`: a compact length, then the bytes. -/
def bytes : Codec (List UInt8) where
  encode v := compactBytes v.length ++ v
  decode bs := do
    let (n, rest) ← readCompact bs
    readBytes n rest
  Fits v := v.length < 2 ^ 32
  decFits v := inferInstanceAs (Decidable (v.length < 2 ^ 32))
  decode_encode := by
    intro v rest hv
    rw [List.append_assoc, readCompact_compactBytes _ hv]
    exact readBytes_append rfl rest

/-- `Option<T>`: a tag byte, then the value if there is one. -/
def option (c : Codec α) : Codec (Option α) where
  encode
    | none => [0]
    | some a => 1 :: c.encode a
  decode
    | [] => none
    | b :: rest =>
      if b = 0 then some (none, rest)
      else if b = 1 then (c.decode rest).map fun (a, rest') => (some a, rest')
      else none
  Fits o := ∀ a ∈ o, c.Fits a
  decFits
    | none => isTrue (by simp)
    | some a => decidable_of_iff (c.Fits a) (by simp)
  decode_encode := by
    intro o rest ho
    cases o with
    | none => rfl
    | some a =>
      have h := c.decode_encode a rest (ho a rfl)
      simp [h]

/-- Two values in a row. -/
def prod (c : Codec α) (d : Codec β) : Codec (α × β) where
  encode p := c.encode p.1 ++ d.encode p.2
  decode bs := do
    let (a, rest) ← c.decode bs
    let (b, rest') ← d.decode rest
    some ((a, b), rest')
  Fits p := c.Fits p.1 ∧ d.Fits p.2
  decFits p := inferInstanceAs (Decidable (c.Fits p.1 ∧ d.Fits p.2))
  decode_encode := by
    intro p rest hp
    rw [List.append_assoc, c.decode_encode _ _ hp.1]
    simp only [Option.bind_eq_bind, Option.bind_some, d.decode_encode _ _ hp.2]

/-- A record, coded as the tuple of its fields. -/
def record (c : Codec α) (toFields : β → α) (ofFields : α → β)
    (h : ∀ b, ofFields (toFields b) = b) : Codec β where
  encode b := c.encode (toFields b)
  decode bs := (c.decode bs).map fun (a, rest) => (ofFields a, rest)
  Fits b := c.Fits (toFields b)
  decFits b := inferInstanceAs (Decidable (c.Fits (toFields b)))
  decode_encode := by
    intro b rest hb
    simp only [c.decode_encode _ _ hb, Option.map_some, h]

/-- `T::decode` on a whole stored value; what follows the value is not looked at. -/
def read (c : Codec α) (bs : List UInt8) : Option α := (c.decode bs).map Prod.fst

/-- **Round trip.** -/
theorem read_encode (c : Codec α) {a : α} (h : c.Fits a) : c.read (c.encode a) = some a := by
  have := c.decode_encode a [] h
  rw [List.append_nil] at this
  rw [read, this]
  rfl

/-- Values the encoder accepts have encodings of their own. -/
theorem encode_injective (c : Codec α) {a b : α} (ha : c.Fits a) (hb : c.Fits b)
    (h : c.encode a = c.encode b) : a = b := by
  have hread := c.read_encode ha
  rw [h, c.read_encode hb] at hread
  exact (Option.some_inj.mp hread).symm

end Codec

/-! ## What the decoders accept -/

theorem readBytes_eq_some {k : ℕ} {bs xs rest : List UInt8}
    (h : readBytes k bs = some (xs, rest)) : xs.length = k ∧ bs = xs ++ rest := by
  unfold readBytes at h
  split at h
  · rename_i hk
    obtain ⟨rfl, rfl⟩ := Prod.mk.inj (Option.some_inj.mp h)
    exact ⟨List.length_take_of_le hk, (List.take_append_drop k bs).symm⟩
  · cases h

/-- A form of `k + 1` bytes that starts with `b` stands for a number with the low bits of `b`. -/
theorem readBytes_form {b : UInt8} {k : ℕ} {bs xs rest : List UInt8}
    (h : readBytes (k + 1) (b :: bs) = some (xs, rest)) :
    leNat xs % 4 = b.toNat % 4 ∧ leNat xs < 256 ^ (k + 1) ∧
      b :: bs = leBytes (k + 1) (leNat xs) ++ rest := by
  obtain ⟨hlen, happend⟩ := readBytes_eq_some h
  rcases xs with _ | ⟨b', xs⟩
  · cases hlen
  obtain ⟨rfl, -⟩ := List.cons.inj happend
  have hlt := leNat_lt (b :: xs)
  rw [hlen] at hlt
  refine ⟨?_, hlt, ?_⟩
  · rw [leNat]
    omega
  · rw [leBytes_leNat hlen]
    exact happend

namespace Codec

/-- **Compact lengths are canonical**: what is read is the compact form of the length. -/
theorem readCompact_eq_some {bs rest : List UInt8} {n : ℕ} (h : readCompact bs = some (n, rest)) :
    n < 2 ^ 32 ∧ bs = compactBytes n ++ rest := by
  rcases bs with _ | ⟨b, bs⟩
  · cases h
  have hb := b.toNat_lt
  have hself : UInt8.ofNat b.toNat = b := UInt8.ofNat_toNat
  rw [readCompact] at h
  split_ifs at h with h0 h1 h2 h3
  · obtain ⟨rfl, rfl⟩ := Prod.mk.inj (Option.some_inj.mp h)
    have hform : b.toNat / 4 * 4 = b.toNat := by omega
    rw [compactBytes, if_pos (by omega), hform]
    refine ⟨by omega, ?_⟩
    rw [leBytes, leBytes, hself]
    rfl
  · obtain ⟨⟨xs, rest'⟩, hread, hmin⟩ := Option.bind_eq_some_iff.mp h
    obtain ⟨hle, heq⟩ := Option.ite_none_right_eq_some.mp hmin
    obtain ⟨rfl, rfl⟩ := Prod.mk.inj (Option.some_inj.mp heq)
    obtain ⟨hmode, hlt, hform⟩ := readBytes_form hread
    have hx : leNat xs / 4 * 4 + 1 = leNat xs := by omega
    rw [compactBytes, if_neg (by omega), if_pos (by omega), hx]
    exact ⟨by omega, hform⟩
  · obtain ⟨⟨xs, rest'⟩, hread, hmin⟩ := Option.bind_eq_some_iff.mp h
    obtain ⟨hle, heq⟩ := Option.ite_none_right_eq_some.mp hmin
    obtain ⟨rfl, rfl⟩ := Prod.mk.inj (Option.some_inj.mp heq)
    obtain ⟨hmode, hlt, hform⟩ := readBytes_form hread
    have hx : leNat xs / 4 * 4 + 2 = leNat xs := by omega
    rw [compactBytes, if_neg (by omega), if_neg (by omega), if_pos (by omega), hx]
    exact ⟨by omega, hform⟩
  · -- the first byte is 3, and the number follows it
    obtain ⟨⟨xs, rest'⟩, hread, hmin⟩ := Option.bind_eq_some_iff.mp h
    obtain ⟨hle, heq⟩ := Option.ite_none_right_eq_some.mp hmin
    obtain ⟨rfl, rfl⟩ := Prod.mk.inj (Option.some_inj.mp heq)
    obtain ⟨hlen, happend⟩ := readBytes_eq_some hread
    have hlt := leNat_lt xs
    rw [hlen] at hlt
    have hthree : UInt8.ofNat (leNat xs * 256 + 3) = b := by
      rw [← UInt8.toNat_inj, UInt8.toNat_ofNat']
      omega
    have hx : (leNat xs * 256 + 3) / 256 = leNat xs := by omega
    rw [compactBytes, if_neg (by omega), if_neg (by omega), if_neg (by omega), leBytes, hthree, hx,
      leBytes_leNat hlen, happend]
    exact ⟨by omega, rfl⟩

/-- The codec reads only what it writes: every byte string it accepts starts with the encoding of
the value it reads. -/
def Canonical (c : Codec α) : Prop :=
  ∀ bs a rest, c.decode bs = some (a, rest) → c.Fits a ∧ bs = c.encode a ++ rest

theorem canonical_u32 : u32.Canonical := by
  intro bs n rest h
  obtain ⟨⟨xs, rest'⟩, hread, heq⟩ := Option.map_eq_some_iff.mp h
  obtain ⟨rfl, rfl⟩ := Prod.mk.inj heq
  obtain ⟨hlen, rfl⟩ := readBytes_eq_some hread
  have hlt := leNat_lt xs
  rw [hlen] at hlt
  have hn : (UInt32.ofNat (leNat xs)).toNat = leNat xs := by
    rw [UInt32.toNat_ofNat']
    exact Nat.mod_eq_of_lt hlt
  refine ⟨trivial, ?_⟩
  show xs ++ rest' = leBytes 4 (UInt32.ofNat (leNat xs)).toNat ++ rest'
  rw [hn, leBytes_leNat hlen]

theorem canonical_variant {k : ℕ} (hk : k ≤ 256) : (variant k hk).Canonical := by
  intro bs i rest h
  rcases bs with _ | ⟨b, bs⟩
  · cases h
  obtain ⟨hb, heq⟩ := Option.dite_none_right_eq_some.mp h
  obtain ⟨rfl, rfl⟩ := Prod.mk.inj (Option.some_inj.mp heq)
  refine ⟨trivial, ?_⟩
  show b :: bs = UInt8.ofNat b.toNat :: bs
  rw [UInt8.ofNat_toNat]

theorem canonical_bytes : bytes.Canonical := by
  intro bs v rest h
  obtain ⟨⟨n, rest'⟩, hcompact, hread⟩ := Option.bind_eq_some_iff.mp h
  obtain ⟨hn, rfl⟩ := readCompact_eq_some hcompact
  obtain ⟨rfl, rfl⟩ := readBytes_eq_some hread
  exact ⟨hn, (List.append_assoc _ _ _).symm⟩

theorem Canonical.option {c : Codec α} (hc : c.Canonical) : (option c).Canonical := by
  intro bs o rest h
  rcases bs with _ | ⟨b, bs⟩
  · cases h
  unfold Codec.option at h
  dsimp only at h
  split_ifs at h with h0 h1
  · obtain ⟨rfl, rfl⟩ := Prod.mk.inj (Option.some_inj.mp h)
    exact ⟨fun a ha => (by cases ha), by rw [h0]; rfl⟩
  · obtain ⟨⟨a, rest'⟩, hread, heq⟩ := Option.map_eq_some_iff.mp h
    obtain ⟨rfl, rfl⟩ := Prod.mk.inj heq
    obtain ⟨hfits, rfl⟩ := hc bs a rest' hread
    refine ⟨fun a' ha' => ?_, by rw [h1]; rfl⟩
    obtain rfl := Option.some_inj.mp ha'
    exact hfits

theorem Canonical.prod {c : Codec α} {d : Codec β} (hc : c.Canonical) (hd : d.Canonical) :
    (prod c d).Canonical := by
  intro bs p rest h
  obtain ⟨⟨a, bs'⟩, hfirst, h⟩ := Option.bind_eq_some_iff.mp h
  obtain ⟨⟨b, bs''⟩, hsecond, heq⟩ := Option.bind_eq_some_iff.mp h
  obtain ⟨rfl, rfl⟩ := Prod.mk.inj (Option.some_inj.mp heq)
  obtain ⟨hfitsA, rfl⟩ := hc bs a bs' hfirst
  obtain ⟨hfitsB, rfl⟩ := hd bs' b bs'' hsecond
  exact ⟨⟨hfitsA, hfitsB⟩, (List.append_assoc _ _ _).symm⟩

/-- A record whose fields make up the tuple. -/
theorem Canonical.record {c : Codec α} (hc : c.Canonical) {toFields : β → α} {ofFields : α → β}
    (h : ∀ b, ofFields (toFields b) = b) (h' : ∀ a, toFields (ofFields a) = a) :
    (record c toFields ofFields h).Canonical := by
  intro bs b rest hread
  obtain ⟨⟨a, rest'⟩, hfields, heq⟩ := Option.map_eq_some_iff.mp hread
  obtain ⟨rfl, rfl⟩ := Prod.mk.inj heq
  obtain ⟨hfits, rfl⟩ := hc bs a rest' hfields
  show c.Fits (toFields (ofFields a)) ∧ _ = c.encode (toFields (ofFields a)) ++ rest'
  rw [h']
  exact ⟨hfits, rfl⟩

/-- **Reading a stored value** finds a value exactly if its encoding comes first. -/
theorem Canonical.read_eq_some_iff {c : Codec α} (hc : c.Canonical) {bs : List UInt8} {a : α} :
    c.read bs = some a ↔ c.Fits a ∧ c.encode a <+: bs := by
  constructor
  · intro h
    obtain ⟨⟨a', rest⟩, hread, rfl⟩ := Option.map_eq_some_iff.mp h
    obtain ⟨hfits, rfl⟩ := hc bs a' rest hread
    exact ⟨hfits, rest, rfl⟩
  · rintro ⟨hfits, rest, rfl⟩
    rw [read, c.decode_encode a rest hfits]
    rfl

end Codec

example : Codec.bytes.encode [7, 8] = [8, 7, 8] := by decide

end OffchainWorkerDemo
