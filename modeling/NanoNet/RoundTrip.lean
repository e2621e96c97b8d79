/-
  NanoNet.RoundTrip

  The response builder against the parser.

  With no original frame, `nanonet_create_response_packet` writes an
  Ethernet header with zero addresses, a 20-byte IP header whose checksum
  it computes over the header with the field zeroed, a TCP or UDP header
  with a zero checksum, and the body (`responseFrame`). Read back by
  `ull_parse_packet`, every header is where the builder put it and the IP
  header is correctly checksummed (`parse_response_frame`). But the parser
  recomputes the checksum over the header, stored field included, which
  gives `0` for a correct header, and compares that with the stored field:
  it accepts the frame only when the checksum the builder wrote is zero.
-/
import NanoNet.ParseSpec
import NanoNet.Hook

namespace NanoNet

/-- The frame the builder writes when it has no original frame. -/
def responseFrame (cfg : UllConfig) (thl : Nat) (data : List Byte) : List Byte :=
  (responseEthHdr none).val ++ fillIpCheck (responseIpHdr none cfg thl data.length).val ++
    (if cfg.protocol = ipprotoTcp then (responseTcpHdr none cfg).val
      else (responseUdpHdr none cfg data.length).val) ++ data

theorem nanonetCreateResponsePacket_none {env : TxEnv} {data : List Byte} {cfg : UllConfig}
    {pool : ResponsePool} {t : TxSkb}
    (h : (nanonetCreateResponsePacket env none data cfg pool).val.1 = some t) :
    ∃ thl, transportHdrLen cfg.protocol = some thl ∧ t.data = responseFrame cfg thl data := by
  unfold nanonetCreateResponsePacket at h
  split at h
  · cases h
  split at h
  · cases h
  rename_i thl hthl
  dsimp only at h
  split at h
  · cases h
  refine ⟨thl, hthl, ?_⟩
  by_cases he : env.eth0 = true
  · by_cases hp : cfg.protocol = ipprotoTcp
    · simp only [Reads.val_bind, Reads.val_pure, if_pos hp, he, if_true, Option.some.injEq] at h
      rw [← h, responseFrame, if_pos hp]
    · simp only [Reads.val_bind, Reads.val_pure, if_neg hp, he, if_true, Option.some.injEq] at h
      rw [← h, responseFrame, if_neg hp]
  · split at h <;> simp [he] at h

theorem validateChecksum_eq_zero_iff {rd : Nat → Reads Byte} {off len : Nat} {check : BitVec 16} :
    (validateChecksum rd off len check).val = 0 ↔ (nanonetComputeChecksum rd off len).val = check := by
  simp only [validateChecksum, Reads.val_bind, Reads.val_pure]
  split <;> simp_all [einval]

section Fields

variable (cfg : UllConfig) (data : List Byte) (b : Nat → Byte) (d : Bool)

/-- The fields of the TCP response frame the parser reads. -/
theorem responseFrame_tcp_fields (hp : cfg.protocol = ipprotoTcp) :
    let skb : SkBuff := ⟨responseFrame cfg tcpHdrLen data, b, d⟩
    skb.len = 54 + data.length ∧ skb.etherType = ethPIp ∧ skb.byteAt ethHdrLen = 0x45 ∧
    skb.ipProtocol = ipprotoTcp ∧ skb.byteAt 46 = 0x50 ∧
    skb.ipTotLen = htons (BitVec.ofNat 16 (40 + data.length)) ∧
    skb.ipCheck = (nanonetComputeChecksum (pureRead (responseIpHdr none cfg tcpHdrLen data.length).val)
      0 ipHdrLen).val := by
  simp [responseFrame, hp, SkBuff.len, SkBuff.etherType, SkBuff.byteAt, SkBuff.ipProtocol,
    SkBuff.ipTotLen, SkBuff.ipCheck, SkBuff.load16, SkBuff.read, responseEthHdr, responseIpHdr,
    responseTcpHdr, fillIpCheck, le16, le32, ethHdrLen, tcpHdrLen, ipHdrLen, load_le16]
  omega

/-- The fields of the UDP response frame the parser reads. -/
theorem responseFrame_udp_fields (hp : cfg.protocol = ipprotoUdp) :
    let skb : SkBuff := ⟨responseFrame cfg udpHdrLen data, b, d⟩
    skb.len = 42 + data.length ∧ skb.etherType = ethPIp ∧ skb.byteAt ethHdrLen = 0x45 ∧
    skb.ipProtocol = ipprotoUdp ∧ (skb.load16 40).val = 0 ∧
    (skb.load16 38).val = htons (BitVec.ofNat 16 (8 + data.length)) ∧
    skb.ipTotLen = htons (BitVec.ofNat 16 (28 + data.length)) ∧
    skb.ipCheck = (nanonetComputeChecksum (pureRead (responseIpHdr none cfg udpHdrLen data.length).val)
      0 ipHdrLen).val := by
  have hut : ipprotoUdp ≠ ipprotoTcp := by decide
  simp [responseFrame, hp, hut, SkBuff.len, SkBuff.etherType, SkBuff.byteAt, SkBuff.ipProtocol,
    SkBuff.ipTotLen, SkBuff.ipCheck, SkBuff.load16, SkBuff.read, responseEthHdr, responseIpHdr,
    responseUdpHdr, fillIpCheck, le16, le32, ethHdrLen, udpHdrLen, ipHdrLen, load_le16]
  omega

end Fields

/-- The IP header the builder writes, checksum field zero: its first word is
    `0x0045`, and the field is zero. -/
theorem responseIpHdr_shape (cfg : UllConfig) (thl n : Nat) :
    let hdr := (responseIpHdr none cfg thl n).val
    hdr.length = 20 ∧ hdr = hdr.take 10 ++ le16 0 ++ hdr.drop 12 ∧ 0 < (leWords (hdr.take 10)).sum := by
  refine ⟨by simp [responseIpHdr], by simp [responseIpHdr, le16, le32], ?_⟩
  simp only [leWords, BitVec.ofNat_eq_ofNat, BitVec.toNat_ofNat, Nat.reducePow, Nat.zero_mod, zero_mul,
    Nat.reduceMod, zero_add, BitVec.extractLsb'_toNat, Nat.shiftRight_zero, BitVec.reduceExtracLsb',
    add_zero, List.sum_cons, List.sum_nil]
  omega

/-- A frame built with no original frame, read back by the parser: its
    headers are where the builder put them and its IP header is correctly
    checksummed, the payload is the body, and `tot_len` and (for UDP) the
    UDP `len` count the rest of the frame, modulo 2^16; yet the parser
    accepts it only when the IP checksum field is zero. -/
theorem parse_response_frame {env : TxEnv} {data : List Byte} {cfg : UllConfig}
    {pool : ResponsePool} {t : TxSkb}
    (h : (nanonetCreateResponsePacket env none data cfg pool).val.1 = some t)
    (skb : SkBuff) (hskb : skb.data = t.data) :
    skb.HeadersFit ∧ rfc1071Sum (skb.bytes ethHdrLen ipHdrLen) = 0xFFFF ∧
    ((ullParsePacket skb).val.1 = 0 ↔ skb.ipCheck = 0) ∧
    skb.payloadLen = cInt data.length ∧ skb.data.drop (skb.transportOff + skb.transportLen) = data ∧
    (ntohs skb.ipTotLen).toNat = (skb.len - ethHdrLen) % 2 ^ 16 ∧
    (cfg.protocol = ipprotoUdp → skb.udpLen = (skb.len - ethHdrLen - ipHdrLen) % 2 ^ 16) := by
  obtain ⟨thl, hthl, hd⟩ := nanonetCreateResponsePacket_none h
  obtain ⟨bs, b, d⟩ := skb
  simp only at hskb
  subst hskb
  rw [hd]
  obtain ⟨hI, hz, hpos⟩ := responseIpHdr_shape cfg thl data.length
  set skb : SkBuff := ⟨responseFrame cfg thl data, b, d⟩
  have hbytes : skb.bytes ethHdrLen ipHdrLen = fillIpCheck (responseIpHdr none cfg thl data.length).val := by
    have := @SkBuff.bytes_of_data skb (responseEthHdr none).val _ _
      (by simp only [skb, responseFrame, List.append_assoc]; rfl)
    simpa [responseEthHdr, fillIpCheck, hI] using this
  have hrfc : rfc1071Sum (skb.bytes ethHdrLen ipHdrLen) = 0xFFFF := by
    rw [hbytes]; exact fillIpCheck_rfc1071 _ hI hz hpos
  have hcomp : (nanonetComputeChecksum skb.read ethHdrLen ipHdrLen).val = 0 :=
    nanonetComputeChecksum_eq_zero (fun _ => rfl) (by decide) (by decide) hrfc
  have hacc : skb.HeadersFit → skb.ipHeaderLen = ipHdrLen → (skb.ipProtocol = ipprotoUdp → skb.UdpCheckOk) →
      ((ullParsePacket skb).val.1 = 0 ↔ skb.ipCheck = 0) := fun hfit hihl hudp => by
    rw [ullParsePacket_eq_zero_iff]
    simp only [SkBuff.Accepted, SkBuff.IpCheckOk, validateChecksum_eq_zero_iff, hihl, hcomp]
    exact ⟨fun h => h.2.1.symm, fun h => ⟨hfit, h.symm, hudp⟩⟩
  unfold transportHdrLen at hthl
  by_cases hp : cfg.protocol = ipprotoTcp
  · rw [if_pos hp, Option.some_inj] at hthl
    subst hthl
    obtain ⟨hlen, heth, h45, hproto, hdoff, htot, -⟩ := responseFrame_tcp_fields cfg data b d hp
    have hihl : skb.ipHeaderLen = ipHdrLen := by simp only [SkBuff.ipHeaderLen, h45]; rfl
    have hdl : skb.tcpDataOffLen = tcpHdrLen := by
      simp only [SkBuff.tcpDataOffLen, SkBuff.transportOff, hihl]
      exact congrArg (fun x : Byte => (x >>> 4).toNat * 4) hdoff
    have htl : skb.transportLen = tcpHdrLen := by simp only [SkBuff.transportLen, hproto, if_true, hdl]
    have hto : skb.transportOff = 34 := by simp only [SkBuff.transportOff, hihl]; rfl
    have hfit : skb.HeadersFit :=
      ⟨by simp only [hlen, ethHdrLen, ipHdrLen]; omega, heth, by simp only [SkBuff.ipVersion, h45]; rfl,
        hihl.ge, .inl ⟨hproto, by simp only [hto, hlen, tcpHdrLen]; omega, hdl.ge⟩⟩
    refine ⟨hfit, hrfc, hacc hfit hihl fun h => absurd (hproto.symm.trans h) (by decide), ?_, ?_, ?_,
      fun h => absurd (hp.symm.trans h) (by decide)⟩
    · simp only [SkBuff.payloadLen, hihl, htl, hlen, ethHdrLen, ipHdrLen, tcpHdrLen]
      exact congrArg cInt (by push_cast; omega)
    · rw [hto, htl]
      exact List.drop_left' (by simp [responseEthHdr, responseIpHdr, fillIpCheck, responseTcpHdr, hp, tcpHdrLen])
    · rw [htot, ntohs_htons, BitVec.toNat_ofNat, hlen]
      exact congrArg (· % 2 ^ 16) (by simp only [ethHdrLen]; omega)
  rw [if_neg hp] at hthl
  by_cases hu : cfg.protocol = ipprotoUdp
  · rw [if_pos hu, Option.some_inj] at hthl
    subst hthl
    obtain ⟨hlen, heth, h45, hproto, hchk, hulen, htot, -⟩ := responseFrame_udp_fields cfg data b d hu
    have hnt : skb.ipProtocol ≠ ipprotoTcp := by rw [hproto]; decide
    have hihl : skb.ipHeaderLen = ipHdrLen := by simp only [SkBuff.ipHeaderLen, h45]; rfl
    have htl : skb.transportLen = udpHdrLen := by simp only [SkBuff.transportLen, if_neg hnt]
    have hto : skb.transportOff = 34 := by simp only [SkBuff.transportOff, hihl]; rfl
    have hfit : skb.HeadersFit :=
      ⟨by simp only [hlen, ethHdrLen, ipHdrLen]; omega, heth, by simp only [SkBuff.ipVersion, h45]; rfl,
        hihl.ge, .inr ⟨hproto, by simp only [hto, hlen, udpHdrLen]; omega⟩⟩
    refine ⟨hfit, hrfc, hacc hfit hihl fun _ => .inl (by simp only [SkBuff.udpCheck, hto]; exact hchk),
      ?_, ?_, ?_, fun _ => ?_⟩
    · simp only [SkBuff.payloadLen, hihl, htl, hlen, ethHdrLen, ipHdrLen, udpHdrLen]
      exact congrArg cInt (by push_cast; omega)
    · rw [hto, htl]
      exact List.drop_left' (by simp [responseEthHdr, responseIpHdr, fillIpCheck, responseUdpHdr, hp,
        udpHdrLen])
    · rw [htot, ntohs_htons, BitVec.toNat_ofNat, hlen]
      exact congrArg (· % 2 ^ 16) (by simp only [ethHdrLen]; omega)
    · simp only [SkBuff.udpLen, hto]
      rw [hulen, ntohs_htons, BitVec.toNat_ofNat, hlen]
      exact congrArg (· % 2 ^ 16) (by simp only [ethHdrLen, ipHdrLen]; omega)
  · rw [if_neg hu] at hthl
    cases hthl

/-- The one-byte body `A` from the UDP endpoint's response address: the
    builder returns a frame, and the parser accepts it exactly when its IP
    checksum field is zero. -/
theorem parse_response_frame_sample :
    let built : Option TxSkb := (nanonetCreateResponsePacket ⟨true, true, true⟩ none [0x41] udpEndpoint
      ResponsePool.init).val.1
    ∃ hb : built.isSome,
      ((ullParsePacket ⟨(built.get hb).data, fun _ => 0, true⟩).val.1 = 0 ↔
        (⟨(built.get hb).data, fun _ => 0, true⟩ : SkBuff).ipCheck = 0) :=
  ⟨by decide, (parse_response_frame (Option.some_get _).symm ⟨_, fun _ => 0, true⟩ rfl).2.2.1⟩

/-- That frame's IP header is correctly checksummed, its checksum field is
    not zero, and the parser rejects the frame. -/
theorem built_response_rejected :
    let skb : Option SkBuff := (nanonetCreateResponsePacket ⟨true, true, true⟩ none [0x41] udpEndpoint
      ResponsePool.init).val.1.map fun t => (⟨t.data, fun _ => 0, true⟩ : SkBuff)
    skb.map (fun b => rfc1071Sum (b.bytes ethHdrLen ipHdrLen)) = some 0xFFFF ∧
    skb.map SkBuff.ipCheck ≠ some 0 ∧
    skb.map (fun b => (ullParsePacket b).val.1) = some (-einval) := by
  decide

end NanoNet
