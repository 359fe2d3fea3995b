import Ergot.Core.Frame
import Ergot.Lib.Codec

/-!
# The wire format

`wire_frames.rs` and the encodings it relies on: a common header of two addresses and one
byte that packs the kind, the class and the hop count, an appendix if the destination port
is reserved, and the body or the error.

- `Address`, `ProtocolError` and the wire header are codecs over varints and raw bytes, as
  their `Serialize` and `Deserialize` make them.
- `encodeFrameHdr`, `encodeFrameErr`, `decodeFramePartial` and `deFrame` are the functions
  of the source. What `deFrame` accepts is well formed (`deFrame_wf`), so it returns a
  `BorrowedFrame`.
- `wire_round_trip` says that encoding and decoding are inverse on well-formed frames, and
  that a frame that was accepted in any encoding is encoded again in no more bytes.
-/

namespace Ergot

/-! ## Addresses -/

namespace Address

/-- `Address::as_u32`. -/
def asU32 (a : Address) : UInt32 :=
  (a.networkId.toUInt32 <<< 16) ||| (a.nodeId.toUInt32 <<< 8) ||| a.portId.toUInt32

/-- `Address::from_word`. -/
def fromWord (word : UInt32) : Address :=
  ⟨(word >>> 16).toUInt16, (word >>> 8).toUInt8, word.toUInt8⟩

theorem asU32_toNat (a : Address) :
    a.asU32.toNat = a.networkId.toNat * 65536 + a.nodeId.toNat * 256 + a.portId.toNat := by
  have hnet := a.networkId.toNat_lt
  have hnode := a.nodeId.toNat_lt
  have hport := a.portId.toNat_lt
  -- the three parts do not overlap, so that or is addition
  have hor : ∀ x y k : Nat, y < 2 ^ k → x * 2 ^ k ||| y = x * 2 ^ k + y := by
    intro x y k hy
    rw [← Nat.shiftLeft_eq, Nat.shiftLeft_add_eq_or_of_lt hy]
  have hsplit : a.networkId.toNat * 2 ^ 16 + a.nodeId.toNat * 2 ^ 8 =
      (a.networkId.toNat * 256 + a.nodeId.toNat) * 2 ^ 8 := by omega
  unfold asU32
  simp only [UInt32.toNat_or, UInt32.toNat_shiftLeft, UInt16.toNat_toUInt32,
    UInt8.toNat_toUInt32, Nat.shiftLeft_eq, UInt32.reduceToNat, Nat.reduceMod]
  rw [Nat.mod_eq_of_lt (by omega), Nat.mod_eq_of_lt (by omega), hor _ _ 16 (by omega), hsplit,
    hor _ _ 8 (by omega)]
  simp only [Nat.reducePow, Nat.add_mul, Nat.mul_assoc, Nat.reduceMul]

theorem fromWord_asU32 (a : Address) : fromWord a.asU32 = a := by
  have hword := a.asU32_toNat
  obtain ⟨net, node, port⟩ := a
  have hnet := net.toNat_lt
  have hnode := node.toNat_lt
  have hport := port.toNat_lt
  simp only [fromWord, Address.mk.injEq]
  refine ⟨UInt16.toNat_inj.mp ?_, UInt8.toNat_inj.mp ?_, UInt8.toNat_inj.mp ?_⟩
  · simp only [UInt32.toNat_toUInt16, UInt32.toNat_shiftRight, Nat.shiftRight_eq_div_pow, hword,
      UInt32.reduceToNat, Nat.reduceMod, Nat.reducePow]
    omega
  · simp only [UInt32.toNat_toUInt8, UInt32.toNat_shiftRight, Nat.shiftRight_eq_div_pow, hword,
      UInt32.reduceToNat, Nat.reduceMod, Nat.reducePow]
    omega
  · simp only [UInt32.toNat_toUInt8, hword, Nat.reducePow]
    omega

theorem asU32_fromWord (word : UInt32) : (fromWord word).asU32 = word := by
  apply UInt32.toNat_inj.mp
  have hlt := word.toNat_lt
  rw [asU32_toNat]
  simp only [fromWord, UInt32.toNat_toUInt16, UInt32.toNat_toUInt8, UInt32.toNat_shiftRight,
    Nat.shiftRight_eq_div_pow, UInt32.reduceToNat, Nat.reduceMod, Nat.reducePow]
  omega

/-- An address is one `u32`. -/
def codec : Codec Address :=
  Varint.u32.equiv ⟨fromWord, asU32, asU32_fromWord, fromWord_asU32⟩

end Address

/-! ## Errors -/

namespace ProtocolError

/-- The discriminant of an error. -/
def variant : ProtocolError → UInt32
  | .reserved => 0
  | .sseNoSpace => 1
  | .sseDeserFailed => 2
  | .sseTypeMismatch => 3
  | .sseWhatTheHell => 4
  | .iseDestinationLocal => 5
  | .iseNoRouteToDest => 6
  | .iseInterfaceFull => 7
  | .iseInternalError => 8
  | .iseAnyPortMissingKey => 9
  | .iseTtlExpired => 10
  | .iseRoutingLoop => 11
  | .isePacketTooBig _ => 12
  | .nsseNoRoute => 13
  | .nsseAnyPortMissingKey => 14
  | .nsseWrongPortKind => 15
  | .nsseAnyPortNotUnique => 16
  | .nsseAllPortMissingKey => 17
  | .nsseWouldDeadlock => 18

/-- The variants without fields. -/
def unitVariants : List ProtocolError :=
  [.reserved, .sseNoSpace, .sseDeserFailed, .sseTypeMismatch, .sseWhatTheHell,
    .iseDestinationLocal, .iseNoRouteToDest, .iseInterfaceFull, .iseInternalError,
    .iseAnyPortMissingKey, .iseTtlExpired, .iseRoutingLoop, .nsseNoRoute,
    .nsseAnyPortMissingKey, .nsseWrongPortKind, .nsseAnyPortNotUnique, .nsseAllPortMissingKey,
    .nsseWouldDeadlock]

/-- The variant without fields that has a discriminant. -/
def ofVariant (v : UInt32) : Option ProtocolError := unitVariants.find? fun e => e.variant = v

theorem ofVariant_some {v : UInt32} {e : ProtocolError} (h : ofVariant v = some e) :
    e.variant = v ∧ ∀ mtu, e ≠ .isePacketTooBig mtu := by
  have hmem : e ∈ unitVariants := List.mem_of_find?_eq_some h
  refine ⟨by simpa using List.find?_some h, ?_⟩
  rintro mtu rfl
  simp [unitVariants] at hmem

theorem ofVariant_variant {e : ProtocolError} (h : ∀ mtu, e ≠ .isePacketTooBig mtu) :
    ofVariant e.variant = some e := by
  cases e with
  | isePacketTooBig mtu => exact absurd rfl (h mtu)
  | _ => rfl

/-- The bytes of an error: its discriminant, and the MTU if it has one. -/
def encode (e : ProtocolError) : List UInt8 :=
  Varint.u32.encode e.variant ++
    match e with
    | .isePacketTooBig mtu => Varint.u16.encode mtu
    | _ => []

def decode (data : List UInt8) : Option (ProtocolError × List UInt8) :=
  match Varint.u32.decode data with
  | none => none
  | some (v, rest) =>
    if v = 12 then (Varint.u16.decode rest).map fun (mtu, rest) => (.isePacketTooBig mtu, rest)
    else (ofVariant v).map fun e => (e, rest)

theorem encode_unit {e : ProtocolError} (h : ∀ mtu, e ≠ .isePacketTooBig mtu) :
    encode e = Varint.u32.encode e.variant ∧ e.variant ≠ 12 := by
  cases e with
  | isePacketTooBig mtu => exact absurd rfl (h mtu)
  | _ => exact ⟨List.append_nil _, by decide⟩

def codec : Codec ProtocolError where
  encode := encode
  decode := decode
  roundtrip e rest := by
    by_cases htoo : ∃ mtu, e = .isePacketTooBig mtu
    · obtain ⟨mtu, rfl⟩ := htoo
      simp [encode, decode, List.append_assoc, Varint.u32.roundtrip, Varint.u16.roundtrip, variant]
    · have hunit : ∀ mtu, e ≠ .isePacketTooBig mtu := fun mtu h => htoo ⟨mtu, h⟩
      obtain ⟨hencode, hne⟩ := encode_unit hunit
      simp [hencode, decode, Varint.u32.roundtrip, hne, ofVariant_variant hunit]
  shrink {data e rest} h := by
    unfold decode at h
    split at h
    · cases h
    · rename_i v rest₁ hv
      obtain ⟨used₁, rfl, hlen₁⟩ := Varint.u32.shrink hv
      split at h
      · rename_i htoo
        obtain ⟨⟨mtu, rest₂⟩, hmtu, heq⟩ := Option.map_eq_some_iff.mp h
        cases heq
        obtain ⟨used₂, rfl, hlen₂⟩ := Varint.u16.shrink hmtu
        subst htoo
        refine ⟨used₁ ++ used₂, (List.append_assoc _ _ _).symm, ?_⟩
        simp only [encode, variant, List.length_append]
        omega
      · obtain ⟨e', he', heq⟩ := Option.map_eq_some_iff.mp h
        cases heq
        obtain ⟨rfl, hunit⟩ := ofVariant_some he'
        exact ⟨used₁, rfl, by rwa [(encode_unit hunit).1]⟩

end ProtocolError

/-! ## The common header -/

namespace TrafficClass

/-- `TrafficClass::to_bits`. -/
def toBits : TrafficClass → UInt8
  | .control => 0
  | .normal => 1
  | .bulk => 2
  | .background => 3

/-- `TrafficClass::from_bits`. -/
def fromBits (bits : UInt8) : TrafficClass :=
  if bits &&& 3 = 0 then .control
  else if bits &&& 3 = 1 then .normal
  else if bits &&& 3 = 2 then .bulk
  else .background

end TrafficClass

/-- `FrameKind::MAX_BITS`. -/
def FrameKind.maxBits : UInt8 := 3

def kindShift : UInt8 := 6
def classShift : UInt8 := 4
def ttlMask : UInt8 := 15

/-- `pack_meta`. -/
def packMeta (kind : FrameKind) (trafficClass : TrafficClass) (ttl : UInt8) : UInt8 :=
  let ttl := if ttl > maxTtl then maxTtl else ttl
  ((kind.val &&& FrameKind.maxBits) <<< kindShift) ||| (trafficClass.toBits <<< classShift) ||| ttl

/-- `unpack_meta`. -/
def unpackMeta (byte : UInt8) : FrameKind × TrafficClass × UInt8 :=
  (⟨(byte >>> kindShift) &&& FrameKind.maxBits⟩, .fromBits (byte >>> classShift), byte &&& ttlMask)

/-- Every byte is some header's. -/
theorem unpackMeta_valid (byte : UInt8) :
    (unpackMeta byte).1.isValid ∧ (unpackMeta byte).2.2 ≤ maxTtl := by
  have hmask : ∀ x y : UInt8, x &&& y ≤ y := by
    intro x y
    rw [UInt8.le_iff_toNat_le, UInt8.toNat_and]
    exact Nat.and_le_right
  exact ⟨decide_eq_true (hmask _ _), hmask _ _⟩

/-- The three fields do not overlap. -/
theorem unpackMeta_fields : ∀ (kind : Fin 4) (trafficClass : TrafficClass) (ttl : Fin 16),
    unpackMeta (((UInt8.ofNat kind &&& FrameKind.maxBits) <<< kindShift) |||
        (trafficClass.toBits <<< classShift) ||| UInt8.ofNat ttl) =
      (⟨UInt8.ofNat kind⟩, trafficClass, UInt8.ofNat ttl) := by
  intro kind trafficClass ttl
  cases trafficClass <;> revert kind ttl <;> decide

theorem unpackMeta_packMeta {kind : FrameKind} (trafficClass : TrafficClass) (ttl : UInt8)
    (hkind : kind.isValid) :
    unpackMeta (packMeta kind trafficClass ttl) =
      (kind, trafficClass, if ttl > maxTtl then maxTtl else ttl) := by
  have hk : kind.val.toNat < 4 := by
    have hle : kind.val ≤ 3 := of_decide_eq_true hkind
    exact Nat.lt_succ_of_le (UInt8.le_iff_toNat_le.mp hle)
  have ht : (if ttl > maxTtl then maxTtl else ttl).toNat < 16 := by
    split
    · decide
    · rename_i h
      exact Nat.lt_succ_of_le (UInt8.le_iff_toNat_le.mp (UInt8.not_lt.mp h))
  have h := unpackMeta_fields ⟨_, hk⟩ trafficClass ⟨_, ht⟩
  simp only [UInt8.ofNat_toNat] at h
  exact h

/-- The fixed part of a header, as decoded. -/
structure CommonHeader where
  src : Address
  dst : Address
  kind : FrameKind
  trafficClass : TrafficClass
  ttl : UInt8

/-- The fixed part of a header, as encoded. -/
structure WireCommonHeader where
  src : Address
  dst : Address
  packed : UInt8

def Header.common (hdr : Header) : CommonHeader :=
  ⟨hdr.src, hdr.dst, hdr.kind, hdr.trafficClass, hdr.ttl⟩

def CommonHeader.toWire (hdr : CommonHeader) : WireCommonHeader :=
  ⟨hdr.src, hdr.dst, packMeta hdr.kind hdr.trafficClass hdr.ttl⟩

def WireCommonHeader.toCommon (hdr : WireCommonHeader) : CommonHeader :=
  let (kind, trafficClass, ttl) := unpackMeta hdr.packed
  ⟨hdr.src, hdr.dst, kind, trafficClass, ttl⟩

/-- Two addresses and a raw byte. -/
def WireCommonHeader.codec : Codec WireCommonHeader :=
  (Address.codec.prod (Address.codec.prod Codec.byte)).equiv
    { toFun := fun (src, dst, packed) => ⟨src, dst, packed⟩
      invFun := fun hdr => (hdr.src, hdr.dst, hdr.packed)
      left_inv := fun _ => rfl
      right_inv := fun _ => rfl }

/-- `NameHash::from_u32`. -/
def NameHash.fromU32 (n : UInt32) : Option NameHash := if h : n ≠ 0 then some ⟨n, h⟩ else none

/-- A name hash or none, as the number 0. -/
def NameHash.toWord : Option NameHash → UInt32
  | none => 0
  | some nash => nash.hash

/-- The key as raw bytes, and the name hash as a number. -/
def AnyAllAppendix.codec : Codec AnyAllAppendix :=
  ((Codec.bytes 8).prod Varint.u32).equiv
    { toFun := fun (key, nash) => ⟨⟨key⟩, NameHash.fromU32 nash⟩
      invFun := fun apdx => (apdx.key.bytes, NameHash.toWord apdx.nash)
      left_inv := by
        rintro ⟨key, nash⟩
        by_cases h : nash = 0 <;> simp [NameHash.fromU32, NameHash.toWord, h]
      right_inv := by
        rintro ⟨⟨key⟩, _ | nash⟩
        · simp [NameHash.fromU32, NameHash.toWord]
        · simp [NameHash.fromU32, NameHash.toWord, nash.nonzero] }

/-! ## Encoding -/

/-- `encode_frame_hdr`: the appendix is written if there is one. -/
def encodeFrameHdr (hdr : Header) : List UInt8 :=
  WireCommonHeader.codec.encode hdr.common.toWire ++
    match hdr.anyAll with
    | none => []
    | some apdx => AnyAllAppendix.codec.encode apdx

/-- Two addresses, the packed byte, a key and a name hash are the most that is written. -/
theorem length_encodeFrameHdr_le (hdr : Header) :
    (encodeFrameHdr hdr).length ≤ maxHdrEncodedSize := by
  have haddr : ∀ a : Address, (Address.codec.encode a).length ≤ 5 :=
    fun a => Varint.length_encode_le 5 _
  have hcommon : (WireCommonHeader.codec.encode hdr.common.toWire).length ≤ 11 := by
    show (Address.codec.encode hdr.src ++ (Address.codec.encode hdr.dst ++ [_])).length ≤ 11
    have hsrc := haddr hdr.src
    have hdst := haddr hdr.dst
    simp only [List.length_append, List.length_singleton]
    omega
  unfold encodeFrameHdr maxHdrEncodedSize
  rw [List.length_append]
  cases hdr.anyAll with
  | none =>
    simp only [List.length_nil]
    omega
  | some apdx =>
    have hapdx : (AnyAllAppendix.codec.encode apdx).length ≤ 13 := by
      show (apdx.key.bytes.toList ++ Varint.encode 5 _).length ≤ 13
      rw [List.length_append]
      exact Nat.add_le_add (Nat.le_of_eq Vector.length_toList) (Varint.length_encode_le 5 _)
    exact Nat.le_trans (Nat.add_le_add hcommon hapdx) (Nat.le_refl 24)

/-- `encode_frame_ty`; `body` is what the message serializes to. -/
def encodeFrameTy (hdr : Header) (body : List UInt8) : List UInt8 := encodeFrameHdr hdr ++ body

/-- `encode_frame_err`: an error frame has no appendix. -/
def encodeFrameErr (hdr : Header) (err : ProtocolError) : List UInt8 :=
  WireCommonHeader.codec.encode hdr.common.toWire ++ ProtocolError.codec.encode err

/-! ## Decoding -/

inductive PartialDecodeTail
  | specific (body : List UInt8)
  | anyAll (apdx : AnyAllAppendix) (body : List UInt8)
  | err (e : ProtocolError)

structure PartialDecode where
  hdr : CommonHeader
  tail : PartialDecodeTail

/-- `decode_frame_partial`. -/
def decodeFramePartial (data : List UInt8) : Option PartialDecode :=
  match WireCommonHeader.codec.decode data with
  | none => none
  | some (common, remain) =>
    let common := common.toCommon
    let isErr : Bool := common.kind = .protocolError
    let anyAll : Bool := common.dst.portId = 0 ∨ common.dst.portId = 255
    match isErr, anyAll with
    | true, true => none
    | true, false =>
      match ProtocolError.codec.decode remain with
      | none => none
      | some (err, remain) =>
        -- excess data
        if remain.isEmpty then some ⟨common, .err err⟩ else none
    | false, true =>
      match AnyAllAppendix.codec.decode remain with
      | none => none
      | some (apdx, remain) => some ⟨common, .anyAll apdx remain⟩
    | false, false => some ⟨common, .specific remain⟩

/-- The header and the body of a decoded frame. -/
def PartialDecode.parts (res : PartialDecode) : Header × Except ProtocolError (List UInt8) :=
  let hdr (app : Option AnyAllAppendix) : Header :=
    ⟨res.hdr.src, res.hdr.dst, app, res.hdr.kind, res.hdr.trafficClass, res.hdr.ttl⟩
  match res.tail with
  | .specific body => (hdr none, .ok body)
  | .anyAll apdx body => (hdr (some apdx), .ok body)
  | .err e => (hdr none, .error e)

/-- Whatever is accepted is well formed. -/
theorem decodeFramePartial_wf {data : List UInt8} {res : PartialDecode}
    (h : decodeFramePartial data = some res) : FrameWf res.parts.1 res.parts.2 := by
  unfold decodeFramePartial at h
  split at h
  · cases h
  · rename_i common remain _
    obtain ⟨hkind, httl⟩ := unpackMeta_valid common.packed
    dsimp only at h
    split at h
    · cases h
    · -- an error
      rename_i herr hany
      have herr : common.toCommon.kind = .protocolError := of_decide_eq_true herr
      have hany := of_decide_eq_false hany
      split at h
      · cases h
      · rename_i e rest _
        split at h
        · cases h
          exact ⟨iff_of_true herr ⟨e, rfl⟩, fun _ => not_or.mp hany,
            iff_of_false Bool.false_ne_true fun h => h.1 herr, httl, hkind⟩
        · cases h
    · -- a message to a reserved port
      rename_i herr hany
      have herr : common.toCommon.kind ≠ .protocolError := of_decide_eq_false herr
      have hany := of_decide_eq_true hany
      split at h
      · cases h
      · cases h
        exact ⟨iff_of_false herr nofun, fun h => absurd h herr, iff_of_true rfl ⟨herr, hany⟩, httl,
          hkind⟩
    · -- any other message
      rename_i herr hany
      have herr : common.toCommon.kind ≠ .protocolError := of_decide_eq_false herr
      have hany := of_decide_eq_false hany
      cases h
      exact ⟨iff_of_false herr nofun, fun h => absurd h herr,
        iff_of_false Bool.false_ne_true fun h => hany h.2, httl, hkind⟩

/-- `de_frame`. -/
def deFrame (data : List UInt8) : Option BorrowedFrame :=
  match h : decodeFramePartial data with
  | none => none
  | some res => some ⟨res.parts.1, res.parts.2, decodeFramePartial_wf h⟩

theorem deFrame_eq_some_iff {data : List UInt8} {frame : BorrowedFrame} :
    deFrame data = some frame ↔
      ∃ res, decodeFramePartial data = some res ∧ res.parts = (frame.hdr, frame.body) := by
  unfold deFrame
  split
  · rename_i h
    simp [h]
  · rename_i res h
    obtain ⟨hdr, body, wf⟩ := frame
    simp only [h, Option.some.injEq, BorrowedFrame.mk.injEq, exists_eq_left', Prod.ext_iff]

/-! ## Round trips -/

/-- The bytes of a frame. -/
def encodeFrame (hdr : Header) : Except ProtocolError (List UInt8) → List UInt8
  | .ok body => encodeFrameTy hdr body
  | .error e => encodeFrameErr hdr e

/-- The header that the wire can carry. -/
def Header.clampTtl (hdr : Header) : Header :=
  { hdr with ttl := if hdr.ttl > maxTtl then maxTtl else hdr.ttl }

theorem Header.clampTtl_of_le {hdr : Header} (h : hdr.ttl ≤ maxTtl) : hdr.clampTtl = hdr := by
  unfold clampTtl
  rw [if_neg (UInt8.not_lt.mpr h)]

theorem toCommon_toWire {hdr : Header} (hkind : hdr.kind.isValid) :
    hdr.common.toWire.toCommon = hdr.clampTtl.common := by
  simp only [WireCommonHeader.toCommon, CommonHeader.toWire, Header.common,
    unpackMeta_packMeta _ _ hkind, Header.clampTtl]

/-- What was encoded is decoded, with the hop count that the wire can carry. -/
theorem deFrame_encodeFrame {hdr : Header} {body : Except ProtocolError (List UInt8)}
    (wf : FrameWf hdr.clampTtl body) :
    deFrame (encodeFrame hdr body) = some ⟨hdr.clampTtl, body, wf⟩ := by
  have hkind : hdr.kind.isValid := wf.kind
  have hcommon := toCommon_toWire hkind
  rw [deFrame_eq_some_iff]
  cases body with
  | error e =>
    have herr : hdr.kind = .protocolError := wf.err_kind.mpr ⟨e, rfl⟩
    have hport : ¬ (hdr.dst.portId = 0 ∨ hdr.dst.portId = 255) := not_or.mpr (wf.err_port herr)
    have hnone : hdr.anyAll = none := by
      have h := wf.appendix.not.mpr fun h => h.1 herr
      simpa [Header.clampTtl] using h
    refine ⟨⟨hdr.clampTtl.common, .err e⟩, ?_, ?_⟩
    · have hrest := ProtocolError.codec.roundtrip e []
      rw [List.append_nil] at hrest
      simp only [encodeFrame, encodeFrameErr, decodeFramePartial,
        WireCommonHeader.codec.roundtrip, hcommon]
      simp [Header.common, Header.clampTtl, herr, hport, hrest]
    · simp [PartialDecode.parts, Header.common, Header.clampTtl, hnone]
  | ok body =>
    have herr : hdr.kind ≠ .protocolError := fun h => nomatch wf.err_kind.mp h
    by_cases hport : hdr.dst.portId = 0 ∨ hdr.dst.portId = 255
    · obtain ⟨apdx, hapdx⟩ : ∃ apdx, hdr.anyAll = some apdx :=
        Option.isSome_iff_exists.mp (wf.appendix.mpr ⟨herr, hport⟩)
      refine ⟨⟨hdr.clampTtl.common, .anyAll apdx body⟩, ?_, ?_⟩
      · simp only [encodeFrame, encodeFrameTy, encodeFrameHdr, decodeFramePartial, hapdx,
          List.append_assoc, WireCommonHeader.codec.roundtrip, hcommon]
        simp [Header.common, Header.clampTtl, herr, hport, AnyAllAppendix.codec.roundtrip]
      · simp [PartialDecode.parts, Header.common, Header.clampTtl, hapdx]
    · have hnone : hdr.anyAll = none := by
        have h := wf.appendix.not.mpr fun h => hport h.2
        simpa [Header.clampTtl] using h
      refine ⟨⟨hdr.clampTtl.common, .specific body⟩, ?_, ?_⟩
      · simp only [encodeFrame, encodeFrameTy, encodeFrameHdr, decodeFramePartial, hnone,
          List.append_nil, WireCommonHeader.codec.roundtrip, hcommon]
        simp [Header.common, Header.clampTtl, herr, hport]
      · simp [PartialDecode.parts, Header.common, Header.clampTtl, hnone]

/-- The packed byte does not matter to the size. -/
theorem WireCommonHeader.length_encode (w : WireCommonHeader) :
    (codec.encode w).length =
      (Address.codec.encode w.src).length + (Address.codec.encode w.dst).length + 1 := by
  simp only [codec, Codec.equiv, Codec.prod, Codec.byte, Equiv.coe_fn_symm_mk, List.length_append,
    List.length_singleton]
  omega

/-- A frame that was accepted is encoded with no more bytes than it had. -/
theorem length_encodeFrame_le {data : List UInt8} {frame : BorrowedFrame}
    (h : deFrame data = some frame) :
    (encodeFrame frame.hdr frame.body).length ≤ data.length := by
  obtain ⟨res, hres, hparts⟩ := deFrame_eq_some_iff.mp h
  obtain ⟨hhdr, hbody⟩ : res.parts.1 = frame.hdr ∧ res.parts.2 = frame.body := by simp [hparts]
  rw [← hhdr, ← hbody]
  unfold decodeFramePartial at hres
  split at hres
  · cases hres
  · rename_i common remain hcommon
    obtain ⟨used, rfl, hused⟩ := WireCommonHeader.codec.shrink hcommon
    rw [WireCommonHeader.length_encode] at hused
    dsimp only at hres
    split at hres
    · cases hres
    · -- an error, which leaves no bytes behind
      split at hres
      · cases hres
      · rename_i e rest he
        split at hres
        · rename_i hempty
          cases hres
          obtain ⟨used', rfl, hused'⟩ := ProtocolError.codec.shrink he
          simp only [PartialDecode.parts, encodeFrame, encodeFrameErr, List.length_append,
            WireCommonHeader.length_encode]
          simp only [Header.common, CommonHeader.toWire, WireCommonHeader.toCommon]
          omega
        · cases hres
    · -- a message to a reserved port
      split at hres
      · cases hres
      · rename_i apdx rest hapdx
        cases hres
        obtain ⟨used', rfl, hused'⟩ := AnyAllAppendix.codec.shrink hapdx
        simp only [PartialDecode.parts, encodeFrame, encodeFrameTy, encodeFrameHdr,
          List.length_append, WireCommonHeader.length_encode]
        simp only [Header.common, CommonHeader.toWire, WireCommonHeader.toCommon]
        omega
    · -- any other message
      cases hres
      simp only [PartialDecode.parts, encodeFrame, encodeFrameTy, encodeFrameHdr,
        List.length_append, List.length_nil, WireCommonHeader.length_encode]
      simp only [Header.common, CommonHeader.toWire, WireCommonHeader.toCommon]
      omega

/-- Encoding and decoding on all well-formed frames, and on all accepted byte strings. -/
theorem wire_round_trip :
    (∀ (hdr : Header) (body : List UInt8) (wf : FrameWf hdr (.ok body)),
      deFrame (encodeFrameHdr hdr ++ body) = some ⟨hdr, .ok body, wf⟩) ∧
    (∀ (hdr : Header) (e : ProtocolError) (wf : FrameWf hdr (.error e)),
      deFrame (encodeFrameErr hdr e) = some ⟨hdr, .error e, wf⟩) ∧
    (∀ (data : List UInt8) (frame : BorrowedFrame), deFrame data = some frame →
      deFrame (encodeFrame frame.hdr frame.body) = some frame ∧
        (encodeFrame frame.hdr frame.body).length ≤ data.length) := by
  have hround : ∀ (hdr : Header) (body : Except ProtocolError (List UInt8))
      (wf : FrameWf hdr body), deFrame (encodeFrame hdr body) = some ⟨hdr, body, wf⟩ := by
    intro hdr body wf
    have hclamp := Header.clampTtl_of_le wf.ttl
    have h := deFrame_encodeFrame (show FrameWf hdr.clampTtl body by rwa [hclamp])
    simpa only [hclamp] using h
  exact ⟨fun hdr body wf => hround hdr (.ok body) wf, fun hdr e wf => hround hdr (.error e) wf,
    fun data frame h => ⟨hround frame.hdr frame.body frame.wf, length_encodeFrame_le h⟩⟩

/-- A request from port 5 to 0.1:9. -/
def demoWireFrame : BorrowedFrame where
  hdr := ⟨⟨0, 0, 5⟩, ⟨0, 1, 9⟩, none, .endpointReq, .normal, 15⟩
  body := .ok [7]
  wf := ⟨by simp [FrameKind.endpointReq, FrameKind.protocolError],
    by simp [FrameKind.endpointReq, FrameKind.protocolError], by simp,
    show (15 : UInt8) ≤ maxTtl by decide, rfl⟩

/-- It comes back from its own encoding, and one where the source takes two bytes is longer. -/
theorem wire_round_trip_demo :
    deFrame (encodeFrameHdr demoWireFrame.hdr ++ [7]) = some demoWireFrame ∧
      deFrame [0x85, 0x00, 0x89, 0x02, 0x5f, 7] = some demoWireFrame ∧
      (encodeFrame demoWireFrame.hdr demoWireFrame.body).length ≤ 6 :=
  have hdecoded : deFrame [0x85, 0x00, 0x89, 0x02, 0x5f, 7] = some demoWireFrame := rfl
  ⟨wire_round_trip.1 demoWireFrame.hdr [7] demoWireFrame.wf, hdecoded,
    (wire_round_trip.2.2 _ _ hdecoded).2⟩

end Ergot
