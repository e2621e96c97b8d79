/-
  NanoNet.FastParse

  `nanonet_parse_packet_optimized` (optimizations.c), the prefetching
  variant of `ull_parse_packet`. Nothing calls it.

  It makes the same length and header tests with the length of the Ethernet
  and IP headers checked first, and it drops three of the reference
  parser's tests: the IP version, the IP header checksum and the UDP
  checksum. So it accepts every frame `ull_parse_packet` accepts, and the
  converse holds exactly for frames that pass those three tests
  (`nanonetParsePacketOptimized_refines`); where both accept, the IP header,
  the payload and `payload_len` agree. A frame whose IP header checksum is
  wrong is accepted by the variant and refused by the reference
  (`optimized_accepts_bad_ip_checksum`).

  The variant has no TCP and UDP header out-parameters, and writes none of
  its out-parameters before its first failing test; the model leaves those
  at the defaults of `ParsedPacket`.
-/
import NanoNet.ParseSpec

namespace NanoNet

/-- `nanonet_parse_packet_optimized(skb, &ip_hdr, &payload, &payload_len)`:
    the result code and `*ip_hdr`, `*payload`, `*payload_len`. The two
    `prefetch` hints read nothing. -/
def nanonetParsePacketOptimized (skb : SkBuff) : Reads (Int × ParsedPacket) :=
  if skb.len < ethHdrLen + ipHdrLen then pure (-einval, {}) else do
  let proto ← skb.load16 12
  if proto ≠ htons ethPIp then pure (-eprotonosupport, {}) else do
  let out : ParsedPacket := { ipHdr := some ethHdrLen }
  let vi ← skb.read ethHdrLen
  let ihl := (vi &&& 0x0F#8).toNat * 4
  if ihl < ipHdrLen then pure (-einval, out) else do
  let th := ethHdrLen + ihl
  let protocol ← skb.read (ethHdrLen + 9)
  if protocol = ipprotoTcp then
    if skb.len < ethHdrLen + ihl + tcpHdrLen then pure (-einval, out) else do
    let b ← skb.read (th + 12)
    let thl := (b >>> 4).toNat * 4
    if thl < tcpHdrLen then pure (-einval, out)
    else pure (0, out.withPayload skb.len th thl ihl)
  else if protocol = ipprotoUdp then
    if skb.len < ethHdrLen + ihl + udpHdrLen then pure (-einval, out)
    else pure (0, out.withPayload skb.len th udpHdrLen ihl)
  else pure (-eprotonosupport, out)

/-! ## What the variant accepts -/

namespace SkBuff

variable (skb : SkBuff)

/-- The variant's tests: the reference parser's header tests without the
    IP version. -/
def FastFit : Prop :=
  ethHdrLen + ipHdrLen ≤ skb.len ∧ skb.etherType = ethPIp ∧ ipHdrLen ≤ skb.ipHeaderLen ∧
  ((skb.ipProtocol = ipprotoTcp ∧ skb.transportOff + tcpHdrLen ≤ skb.len ∧
      tcpHdrLen ≤ skb.tcpDataOffLen) ∨
    (skb.ipProtocol = ipprotoUdp ∧ skb.transportOff + udpHdrLen ≤ skb.len))

instance : Decidable skb.FastFit := inferInstanceAs (Decidable (_ ∧ _))

/-- The reference parser's header tests are the variant's and the version. -/
theorem headersFit_iff : skb.HeadersFit ↔ skb.FastFit ∧ skb.ipVersion = 4 := by
  unfold HeadersFit FastFit
  constructor
  · rintro ⟨h1, h2, h3, h4, h5⟩
    exact ⟨⟨h1, h2, h4, h5⟩, h3⟩
  · rintro ⟨⟨h1, h2, h4, h5⟩, h3⟩
    exact ⟨h1, h2, h3, h4, h5⟩

/-- What the variant writes on success: the reference parser's layout
    without the transport header pointers. -/
def fastLayout : ParsedPacket := { skb.layout with tcpHdr := none, udpHdr := none }

end SkBuff

theorem ntohs_eq_iff {x y : BitVec 16} : ntohs x = y ↔ x = htons y := by
  constructor
  · rintro rfl; exact (bswap16_bswap16 x).symm
  · rintro rfl; exact ntohs_htons y

/-- The variant either fails with a negative code on a frame that fails its
    tests, or returns `0` and `SkBuff.fastLayout`. -/
theorem nanonetParsePacketOptimized_cases (skb : SkBuff) :
    ((nanonetParsePacketOptimized skb).val.1 < 0 ∧ ¬skb.FastFit) ∨
    ((nanonetParsePacketOptimized skb).val = (0, skb.fastLayout) ∧ skb.FastFit) := by
  have einval_neg : -einval < 0 := by decide
  have eproto_neg : -eprotonosupport < 0 := by decide
  unfold nanonetParsePacketOptimized
  by_cases h1 : skb.len < ethHdrLen + ipHdrLen
  · rw [if_pos h1]; exact .inl ⟨einval_neg, fun ⟨h, _⟩ => by omega⟩
  rw [if_neg h1]; dsimp only [Reads.val_bind]
  by_cases h2 : (skb.load16 12).val ≠ htons ethPIp
  · rw [if_pos h2]; exact .inl ⟨eproto_neg, fun ⟨_, h, _⟩ => h2 (ntohs_eq_iff.1 h)⟩
  rw [if_neg h2]; dsimp only [Reads.val_bind, SkBuff.read_val]
  rw [show (skb.byteAt ethHdrLen &&& 0x0F#8).toNat * 4 = skb.ipHeaderLen from rfl]
  by_cases h3 : skb.ipHeaderLen < ipHdrLen
  · rw [if_pos h3]; exact .inl ⟨einval_neg, fun ⟨_, _, h, _⟩ => by omega⟩
  rw [if_neg h3]; dsimp only [Reads.val_bind, SkBuff.read_val]
  rw [show skb.byteAt (ethHdrLen + 9) = skb.ipProtocol from rfl,
    show ethHdrLen + skb.ipHeaderLen = skb.transportOff from rfl]
  have hhead : ethHdrLen + ipHdrLen ≤ skb.len ∧ skb.etherType = ethPIp ∧ ipHdrLen ≤ skb.ipHeaderLen :=
    ⟨by omega, ntohs_eq_iff.2 (not_not.1 h2), by omega⟩
  by_cases h4 : skb.ipProtocol = ipprotoTcp
  · have hnu : skb.ipProtocol ≠ ipprotoUdp := by rw [h4]; decide
    rw [if_pos h4]
    by_cases h5 : skb.len < skb.transportOff + tcpHdrLen
    · rw [if_pos h5]
      exact .inl ⟨einval_neg, fun ⟨_, _, _, h⟩ => h.elim (fun h => by omega) (fun h => hnu h.1)⟩
    rw [if_neg h5]; dsimp only [Reads.val_bind, SkBuff.read_val]
    rw [show (skb.byteAt (skb.transportOff + 12) >>> 4).toNat * 4 = skb.tcpDataOffLen from rfl]
    by_cases h6 : skb.tcpDataOffLen < tcpHdrLen
    · rw [if_pos h6]
      exact .inl ⟨einval_neg, fun ⟨_, _, _, h⟩ => h.elim (fun h => by omega) (fun h => hnu h.1)⟩
    rw [if_neg h6]
    refine .inr ⟨?_, hhead.1, hhead.2.1, hhead.2.2, .inl ⟨h4, by omega, by omega⟩⟩
    simp only [SkBuff.fastLayout, skb.layout_of_tcp h4, ParsedPacket.withPayload]
    split <;> rfl
  rw [if_neg h4]
  by_cases h7 : skb.ipProtocol = ipprotoUdp
  · rw [if_pos h7]
    by_cases h8 : skb.len < skb.transportOff + udpHdrLen
    · rw [if_pos h8]
      exact .inl ⟨einval_neg, fun ⟨_, _, _, h⟩ => h.elim (fun h => h4 h.1) (fun h => by omega)⟩
    rw [if_neg h8]
    refine .inr ⟨?_, hhead.1, hhead.2.1, hhead.2.2, .inr ⟨h7, by omega⟩⟩
    simp only [SkBuff.fastLayout, skb.layout_of_not_tcp h4, ParsedPacket.withPayload]
    split <;> rfl
  rw [if_neg h7]
  exact .inl ⟨eproto_neg, fun ⟨_, _, _, h⟩ => h.elim (fun h => h4 h.1) (fun h => h7 h.1)⟩

theorem nanonetParsePacketOptimized_eq_zero_iff (skb : SkBuff) :
    (nanonetParsePacketOptimized skb).val.1 = 0 ↔ skb.FastFit := by
  rcases nanonetParsePacketOptimized_cases skb with ⟨hneg, hn⟩ | ⟨hval, hfit⟩
  · exact iff_of_false (by omega) hn
  · exact iff_of_true (by rw [hval]) hfit

/-! ## Against `ull_parse_packet` -/

/-- `ull_parse_packet` returns 0 exactly when the optimised variant does and
    the frame also passes the three tests the variant drops: IP version 4,
    the IP header checksum, and for UDP the datagram checksum. Where the
    reference parser succeeds, both return the same IP header pointer,
    payload pointer and `payload_len`. -/
theorem nanonetParsePacketOptimized_refines (skb : SkBuff) :
    ((ullParsePacket skb).val.1 = 0 ↔
      (nanonetParsePacketOptimized skb).val.1 = 0 ∧ skb.ipVersion = 4 ∧ skb.IpCheckOk ∧
        (skb.ipProtocol = ipprotoUdp → skb.UdpCheckOk)) ∧
    ((ullParsePacket skb).val.1 = 0 →
      (nanonetParsePacketOptimized skb).val.2.ipHdr = (ullParsePacket skb).val.2.ipHdr ∧
      (nanonetParsePacketOptimized skb).val.2.payload = (ullParsePacket skb).val.2.payload ∧
      (nanonetParsePacketOptimized skb).val.2.payloadLen = (ullParsePacket skb).val.2.payloadLen) := by
  rw [ullParsePacket_eq_zero_iff, nanonetParsePacketOptimized_eq_zero_iff]
  refine ⟨?_, fun hacc => ?_⟩
  · rw [SkBuff.Accepted, skb.headersFit_iff, and_assoc]
  · obtain ⟨hval, -⟩ := (ullParsePacket_cases skb).resolve_left fun h => h.2 hacc
    obtain ⟨hopt, -⟩ := (nanonetParsePacketOptimized_cases skb).resolve_left
      fun h => h.2 ((skb.headersFit_iff.1 hacc.1).1)
    rw [hval, hopt]
    exact ⟨rfl, rfl, rfl⟩

/-- The market frame with identification 0x26B8 in place of 0x26B7: its IP
    header's RFC 1071 sum is 0xFFFE, not 0xFFFF. -/
def badChecksumFrame : List Byte :=
  [0x02, 0x00, 0x00, 0x00, 0x00, 0x01, 0x02, 0x00, 0x00, 0x00, 0x00, 0x02, 0x08, 0x00,
   0x45, 0x00, 0x00, 0x34, 0x26, 0xB8, 0x40, 0x00, 0x40, 0x11, 0x00, 0x00,
   0x0A, 0x00, 0x00, 0x02, 0x0A, 0x00, 0x00, 0x01,
   0x13, 0x88, 0x1F, 0x90, 0x00, 0x20, 0x00, 0x00,
   0x41, 0x41, 0x50, 0x4C, 0x20, 0x20, 0x20, 0x20, 0x0F, 0x27, 0x00, 0x00, 0xE8, 0x03, 0x00, 0x00,
   0x00, 0x00, 0x00, 0x00, 0x00, 0x00, 0x00, 0x00]

/-- The variant accepts a frame with a wrong IP header checksum that
    `ull_parse_packet` refuses with `-EINVAL`; and on a 20-byte frame that is
    not IPv4 the two fail with different codes. -/
theorem optimized_accepts_bad_ip_checksum :
    let bad : SkBuff := ⟨badChecksumFrame, fun _ => 0, true⟩
    let arp : SkBuff := ⟨List.replicate 12 0 ++ [0x08, 0x06] ++ List.replicate 6 0, fun _ => 0, true⟩
    (nanonetParsePacketOptimized bad).val.1 = 0 ∧ (ullParsePacket bad).val.1 = -einval ∧
      (nanonetParsePacketOptimized arp).val.1 = -einval ∧
      (ullParsePacket arp).val.1 = -eprotonosupport := by
  decide

end NanoNet
