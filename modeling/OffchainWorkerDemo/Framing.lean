/-
# The framing of `ocw-common`

`encode_body` writes one uncompressed data frame, whatever was in the bytes it
reserved, and `decode_body` reads such a frame back with everything after the five
bytes that follow it.  It reads other bodies as well: it is a reader of unary
gRPC-web bodies exactly where the bytes it skips are those of the grammar.
-/
import OffchainWorkerDemo.OcwGarbleWorker
import OffchainWorkerDemo.Lib.Base64

namespace OffchainWorkerDemo

variable {T : Type} {σ ε : Type}

/-! ## Round trips -/

/-- A message that is read back, framed and followed by five bytes, is a body of the accepted
shape. -/
theorem laxBody_encodeBody {message : ProstMessage T} {x : T}
    (hlen : (message.encode x).length < 2 ^ 32) (hprost : message.decode (message.encode x) = some x)
    {header : Bytes} (hheader : header.length = 5) (trailers : Bytes) :
    LaxBody message (encodeBody message x ++ header ++ trailers) (x, trailers) := by
  refine ⟨0, message.encode x, header, ?_, hlen, hheader, hprost⟩
  rw [encodeBody_eq]
  simp only [List.cons_append, List.append_assoc]

/-- **Framing round-trips.**  A message is encoded as one data frame, and decoded from it with
the trailers after any five header bytes, from the plain body as from its base64 text. -/
theorem decodeBody_encodeBody (message : ProstMessage T) {base64Encode : Bytes → Bytes}
    {base64Decode : Bytes → Option Bytes} (x : T) (hlen : (message.encode x).length < 2 ^ 32)
    (hprost : message.decode (message.encode x) = some x)
    (hbase64 : ∀ bs, base64Decode (base64Encode bs) = some bs) :
    (∀ reserved : Bytes, reserved.length = 5 → encodeBodyOver message reserved x =
      0 :: (beU32 (message.encode x).length ++ message.encode x)) ∧
    encodeBody message x = 0 :: (beU32 (message.encode x).length ++ message.encode x) ∧
    ∀ (header trailers : Bytes) (s : σ), header.length = 5 →
      (decodeBody base64Decode message (encodeBody message x ++ header ++ trailers) .grpcWeb :
        Exec σ ε (T × Bytes)) s = .ok (x, trailers) s ∧
      (decodeBody base64Decode message (encodeBody message x ++ header ++ trailers) .unknown :
        Exec σ ε (T × Bytes)) s = .ok (x, trailers) s ∧
      (decodeBody base64Decode message
          (base64Encode (encodeBody message x ++ header ++ trailers)) .grpcWebTextProto :
        Exec σ ε (T × Bytes)) s = .ok (x, trailers) s := by
  refine ⟨fun reserved h => encodeBodyOver_eq message h x, encodeBody_eq message x, ?_⟩
  intro header trailers s hheader
  have hbody := laxBody_encodeBody hlen hprost hheader trailers
  refine ⟨decodeBody_of_lax rfl hbody s, decodeBody_of_lax rfl hbody s, ?_⟩
  have htext : plainBody base64Decode (base64Encode (encodeBody message x ++ header ++ trailers))
      .grpcWebTextProto = some (encodeBody message x ++ header ++ trailers) := hbase64 _
  exact decodeBody_of_lax htext hbody s

/-- A reply that names the circuit `abc`, framed and read back. -/
theorem decodeBody_encodeBody_abc :
    encodeBody OcwGarble.shortApi.garbleIpfsReply ⟨['a', 'b', 'c']⟩ =
        [0, 0, 0, 0, 5, 10, 3, 97, 98, 99] ∧
      (decodeBody Base64.decode OcwGarble.shortApi.garbleIpfsReply
        (Base64.encode (encodeBody OcwGarble.shortApi.garbleIpfsReply ⟨['a', 'b', 'c']⟩ ++
          [128, 0, 0, 0, 1] ++ [7])) .grpcWebTextProto : Exec ℕ ℕ _) 0 =
        .ok (⟨['a', 'b', 'c']⟩, [7]) 0 := by
  have habc := @decodeBody_encodeBody OcwGarble.GarbleIpfsReply ℕ ℕ
    OcwGarble.shortApi.garbleIpfsReply Base64.encode Base64.decode ⟨['a', 'b', 'c']⟩
    (by decide) rfl Base64.decode_encode
  exact ⟨habc.2.1.trans (by decide), (habc.2.2 [128, 0, 0, 0, 1] [7] 0 rfl).2.2⟩

/-! ## Decoding -/

/-- **What is returned is what the accepted shape says.** -/
theorem decodeBody_eq_ok_iff (base64Decode : Bytes → Option Bytes) (message : ProstMessage T)
    (body : Bytes) (r : T × Bytes) (s : σ) :
    (decodeBody base64Decode message body .grpcWeb : Exec σ ε (T × Bytes)) s = .ok r s ↔
      LaxBody message body r := by
  constructor
  · intro h
    rcases decodeBody_cases (ε := ε) base64Decode message body .grpcWeb s with
      ⟨plain, r', hplain, hbody, hok⟩ | ⟨msg, htrap⟩
    · obtain rfl := Option.some_inj.mp hplain
      rw [hok] at h
      cases h
      exact hbody
    · rw [htrap] at h
      cases h
  · intro h
    exact decodeBody_of_lax rfl h s

/-- The bytes `decode_body` skips are those of the grammar: however the body splits into a flag
byte, the length of a payload that decodes, the payload, five bytes and a rest, the flag is that
of an uncompressed data frame, and the five bytes are the flag of a trailers frame and the length
of the rest. -/
def SkippedBytesRight (message : ProstMessage T) (body : Bytes) : Prop :=
  ∀ (flag : UInt8) (payload header trailers : Bytes),
    body = flag :: (beU32 payload.length ++ (payload ++ (header ++ trailers))) →
    payload.length < 2 ^ 32 → header.length = 5 → (message.decode payload).isSome →
      flag = 0 ∧ header = 0x80 :: beU32 trailers.length ∧ trailers.length < 2 ^ 32

/-- A body splits in one way only. -/
theorem split_unique {flag flag' : UInt8} {payload payload' header header' trailers trailers' : Bytes}
    (h : flag :: (beU32 payload.length ++ (payload ++ (header ++ trailers))) =
      flag' :: (beU32 payload'.length ++ (payload' ++ (header' ++ trailers'))))
    (hlen : payload.length < 2 ^ 32) (hlen' : payload'.length < 2 ^ 32)
    (hheader : header.length = header'.length) :
    flag = flag' ∧ payload = payload' ∧ header = header' ∧ trailers = trailers' := by
  obtain ⟨hflag, h⟩ := List.cons.inj h
  have hwidth : (beU32 payload.length).length = (beU32 payload'.length).length := by
    rw [length_beU32, length_beU32]
  obtain ⟨hlength, h⟩ := List.append_inj h hwidth
  have hpayload : payload.length = payload'.length := by
    rw [← beNat_beU32 hlen, hlength, beNat_beU32 hlen']
  obtain ⟨hpayload, h⟩ := List.append_inj h hpayload
  obtain ⟨hheader, htrailers⟩ := List.append_inj h hheader
  exact ⟨hflag, hpayload, hheader, htrailers⟩

/-- **`decode_body` accepts exactly the unary bodies** where the bytes it skips are right. -/
theorem decodesUnary_iff (base64Decode : Bytes → Option Bytes) (message : ProstMessage T)
    (body : Bytes) (s : σ) :
    (∀ r, (decodeBody base64Decode message body .grpcWeb : Exec σ ε (T × Bytes)) s = .ok r s ↔
      UnaryBody message body r) ↔ SkippedBytesRight message body := by
  simp only [decodeBody_eq_ok_iff]
  constructor
  · intro h flag payload header trailers hbody hlen hheader hdecode
    obtain ⟨reply, hreply⟩ := Option.isSome_iff_exists.mp hdecode
    obtain ⟨payload', hbody', hlen', htrailers, -⟩ :=
      (h (reply, trailers)).mp ⟨flag, payload, header, hbody, hlen, hheader, hreply⟩
    have hwidth : header.length = (0x80 :: beU32 trailers.length).length := by
      rw [hheader, List.length_cons, length_beU32]
    obtain ⟨hflag, -, hheader', -⟩ := split_unique (hbody.symm.trans hbody') hlen hlen' hwidth
    exact ⟨hflag, hheader', htrailers⟩
  · rintro h ⟨reply, trailers⟩
    refine ⟨?_, UnaryBody.lax⟩
    rintro ⟨flag, payload, header, hbody, hlen, hheader, hdecode⟩
    obtain ⟨rfl, rfl, htrailers⟩ :=
      h flag payload header trailers hbody hlen hheader (by rw [hdecode]; rfl)
    exact ⟨payload, hbody, hlen, htrailers, hdecode⟩

/-- A frame marked as compressed, and an empty trailers frame. -/
def compressedBody : Bytes := [1, 0, 0, 0, 0, 128, 0, 0, 0, 0]

/-- The compressed frame is read as if it were a reply. -/
theorem not_decodesUnary_compressedBody :
    ¬ ∀ r, (decodeBody (fun _ => none) OcwGarble.shortApi.garbleIpfsReply compressedBody .grpcWeb :
        Exec ℕ ℕ _) 0 = .ok r 0 ↔
      UnaryBody OcwGarble.shortApi.garbleIpfsReply compressedBody r := by
  intro h
  have hread : (decodeBody (fun _ => none) OcwGarble.shortApi.garbleIpfsReply compressedBody
      .grpcWeb : Exec ℕ ℕ _) 0 = .ok (⟨[]⟩, []) 0 := by rfl
  obtain ⟨payload, hbody, -⟩ := (h _).mp hread
  have hflag : (1 : UInt8) = 0 := (List.cons.inj hbody).1
  cases hflag

end OffchainWorkerDemo
