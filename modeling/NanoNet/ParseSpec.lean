/-
  NanoNet.ParseSpec

  What `ull_parse_packet` accepts, and where it says the headers are.

  The fields the parser tests are read off the frame as functions of the
  `SkBuff` (`SkBuff.etherType`, `SkBuff.ipHeaderLen`, ...), so that its
  acceptance is a predicate on frames: `ullParsePacket_cases` says that it
  returns `0` exactly when the headers fit (`SkBuff.HeadersFit`) and both
  checksum comparisons pass, and that it then returns `SkBuff.layout`.

  The parser is sound for the header conditions, and complete for frames
  whose IP header carries a zero checksum field and a correct RFC 1071 sum
  (`ullParsePacket_sound_complete`). It compares the recomputed checksum of a
  region that includes the stored field with that field, so a correctly
  checksummed header with a non-zero field is rejected; which other headers
  it takes is a property of `validate_checksum`, not of the header's sum.
  A TCP header whose data offset runs past the end of the frame is
  accepted, with no payload.
-/
import NanoNet.MicroStack

namespace NanoNet

/-! ## The fields the parser tests -/

namespace SkBuff

variable (skb : SkBuff)

/-- `ntohs(eth_hdr->h_proto)`. -/
def etherType : BitVec 16 := ntohs (skb.load16 12).val

/-- `ip->version_ihl >> 4`. -/
def ipVersion : Byte := skb.byteAt ethHdrLen >>> 4

/-- `ip_hdr_len`: `(ip->version_ihl & 0x0F) * 4`. -/
def ipHeaderLen : Nat := (skb.byteAt ethHdrLen &&& 0x0F#8).toNat * 4

/-- `ip->check`, as the host loads it. -/
def ipCheck : BitVec 16 := (skb.load16 (ethHdrLen + 10)).val

/-- `ip->protocol`. -/
def ipProtocol : Byte := skb.byteAt (ethHdrLen + 9)

/-- The offset of the transport header, `ip + ip_hdr_len`. -/
def transportOff : Nat := ethHdrLen + skb.ipHeaderLen

/-- `tcp_hdr->doff * 4`. -/
def tcpDataOffLen : Nat := (skb.byteAt (skb.transportOff + 12) >>> 4).toNat * 4

/-- `udp_hdr->check`. -/
def udpCheck : BitVec 16 := (skb.load16 (skb.transportOff + 6)).val

/-- `ntohs(udp_hdr->len)`. -/
def udpLen : Nat := (ntohs (skb.load16 (skb.transportOff + 4)).val).toNat

/-- `ip_hdr->saddr`. -/
def ipSaddr : BitVec 32 := (skb.load32 (ethHdrLen + 12)).val

/-- `ip_hdr->tot_len`, as the host loads it. -/
def ipTotLen : BitVec 16 := (skb.load16 (ethHdrLen + 2)).val

/-- `ip_hdr->daddr`. -/
def ipDaddr : BitVec 32 := (skb.load32 (ethHdrLen + 16)).val

/-- The transport header's `dest`. -/
def transportDest : BitVec 16 := (skb.load16 (skb.transportOff + 2)).val

/-- The `len` bytes from `off` of the linear buffer. -/
def bytes (off len : Nat) : List Byte := (List.range' off len).map skb.byteAt

/-- The length and header tests of `ull_parse_packet`, checksums aside. -/
def HeadersFit : Prop :=
  ethHdrLen + ipHdrLen ≤ skb.len ∧ skb.etherType = ethPIp ∧ skb.ipVersion = 4 ∧
  ipHdrLen ≤ skb.ipHeaderLen ∧
  ((skb.ipProtocol = ipprotoTcp ∧ skb.transportOff + tcpHdrLen ≤ skb.len ∧
      tcpHdrLen ≤ skb.tcpDataOffLen) ∨
    (skb.ipProtocol = ipprotoUdp ∧ skb.transportOff + udpHdrLen ≤ skb.len))

/-- `validate_checksum(ip, ip_hdr_len, ip->check)` succeeds. -/
def IpCheckOk : Prop :=
  (validateChecksum skb.read ethHdrLen skb.ipHeaderLen skb.ipCheck).val = 0

/-- The UDP test: a zero `check`, or `validate_checksum` over `ntohs(len)`
    bytes of the datagram succeeds. -/
def UdpCheckOk : Prop :=
  skb.udpCheck = 0 ∨ (validateChecksum skb.read skb.transportOff skb.udpLen skb.udpCheck).val = 0

/-- What the parser accepts. -/
def Accepted : Prop :=
  skb.HeadersFit ∧ skb.IpCheckOk ∧ (skb.ipProtocol = ipprotoUdp → skb.UdpCheckOk)

instance : Decidable skb.HeadersFit := inferInstanceAs (Decidable (_ ∧ _))
instance : Decidable skb.IpCheckOk := inferInstanceAs (Decidable (_ = _))
instance : Decidable skb.UdpCheckOk := inferInstanceAs (Decidable (_ ∨ _))
instance : Decidable skb.Accepted := inferInstanceAs (Decidable (_ ∧ _))

/-- `transport_hdr_len`: `doff * 4` for TCP, the UDP header's 8 otherwise. -/
def transportLen : Nat := if skb.ipProtocol = ipprotoTcp then skb.tcpDataOffLen else udpHdrLen

/-- `skb->len - sizeof(struct ull_ethhdr) - ip_hdr_len - transport_hdr_len`,
    stored into the `int` `*payload_len`. -/
def payloadLen : Int := cInt ((skb.len : Int) - ethHdrLen - skb.ipHeaderLen - skb.transportLen)

/-- The out-parameters of an accepted frame: the IP header at 14, the
    transport header after it, and the payload after that, or none when
    `payload_len` comes out negative. -/
def layout : ParsedPacket where
  ipHdr := some ethHdrLen
  tcpHdr := if skb.ipProtocol = ipprotoTcp then some skb.transportOff else none
  udpHdr := if skb.ipProtocol = ipprotoTcp then none else some skb.transportOff
  payload := if skb.payloadLen < 0 then none else some (skb.transportOff + skb.transportLen)
  payloadLen := if skb.payloadLen < 0 then 0 else skb.payloadLen

theorem ipHeaderLen_le : skb.ipHeaderLen ≤ 60 := by
  have : (skb.byteAt ethHdrLen &&& 0x0F#8).toNat ≤ 15 :=
    (BitVec.toNat_and _ _).trans_le Nat.and_le_right
  simp only [ipHeaderLen]; omega

theorem tcpDataOffLen_le : skb.tcpDataOffLen ≤ 60 := by
  have : (skb.byteAt (skb.transportOff + 12) >>> 4).toNat < 16 := by
    rw [BitVec.toNat_ushiftRight, Nat.shiftRight_eq_div_pow]
    have := (skb.byteAt (skb.transportOff + 12)).isLt
    omega
  simp only [tcpDataOffLen]; omega

theorem layout_of_tcp (h : skb.ipProtocol = ipprotoTcp) :
    skb.layout = ({ ipHdr := some ethHdrLen, tcpHdr := some skb.transportOff } : ParsedPacket).withPayload
      skb.len skb.transportOff skb.tcpDataOffLen skb.ipHeaderLen := by
  simp only [layout, payloadLen, transportLen, ParsedPacket.withPayload, if_pos h]
  split <;> rfl

theorem layout_of_not_tcp (h : skb.ipProtocol ≠ ipprotoTcp) :
    skb.layout = ({ ipHdr := some ethHdrLen, udpHdr := some skb.transportOff } : ParsedPacket).withPayload
      skb.len skb.transportOff udpHdrLen skb.ipHeaderLen := by
  simp only [layout, payloadLen, transportLen, ParsedPacket.withPayload, if_neg h]
  split <;> rfl

end SkBuff

/-- The bytes of a region the frame holds are that region. -/
theorem SkBuff.bytes_of_data {skb : SkBuff} {p l q : List Byte} (h : skb.data = p ++ l ++ q) :
    skb.bytes p.length l.length = l := by
  apply List.ext_getElem (by simp [SkBuff.bytes])
  intro i h1 h2
  have : p.length + i < (p ++ l ++ q).length := by simp; omega
  simp only [SkBuff.bytes, SkBuff.byteAt, h, List.getElem_map, List.getElem_range',
    List.getD_eq_getElem?_getD, List.append_assoc, List.getElem?_append_right (Nat.le_add_right _ _),
    Nat.add_sub_cancel_left, Nat.one_mul, List.getElem?_append_left h2, List.getElem?_eq_getElem h2,
    Option.getD_some]

theorem SkBuff.layout_ipHdr (skb : SkBuff) : skb.layout.ipHdr = some ethHdrLen := rfl

theorem SkBuff.HeadersFit.transport_le {skb : SkBuff} (h : skb.HeadersFit) :
    ipHdrLen ≤ skb.ipHeaderLen ∧ skb.transportOff + udpHdrLen ≤ skb.len := by
  obtain ⟨-, -, -, h1, ⟨-, h2, -⟩ | ⟨-, h2⟩⟩ := h
  · exact ⟨h1, by simp only [tcpHdrLen, udpHdrLen] at h2 ⊢; omega⟩
  · exact ⟨h1, h2⟩

theorem SkBuff.layout_transport (skb : SkBuff) :
    (skb.layout.tcpHdr <|> skb.layout.udpHdr).getD 0 = skb.transportOff := by
  simp only [SkBuff.layout]
  split <;> rfl

theorem SkBuff.layout_tcpHdr {skb : SkBuff} {th : Nat} (h : skb.layout.tcpHdr = some th) :
    th = skb.transportOff ∧ skb.ipProtocol = ipprotoTcp := by
  simp only [SkBuff.layout] at h
  split at h
  · exact ⟨(Option.some_inj.1 h).symm, ‹_›⟩
  · cases h

theorem SkBuff.layout_udpHdr {skb : SkBuff} {th : Nat} (h : skb.layout.udpHdr = some th) :
    th = skb.transportOff := by
  simp only [SkBuff.layout] at h
  split at h
  · cases h
  · exact (Option.some_inj.1 h).symm

/-! ## Acceptance -/

theorem validateChecksum_val_le {rd : Nat → Reads Byte} {off len : Nat} {check : BitVec 16} :
    (validateChecksum rd off len check).val = 0 ∨ (validateChecksum rd off len check).val = -einval := by
  simp only [validateChecksum, Reads.val_bind, Reads.val_pure]
  split <;> simp

/-- `ull_parse_packet` either fails with a negative code on a frame it does
    not accept, or returns `0` and the layout on one it does. -/
theorem ullParsePacket_cases (skb : SkBuff) :
    ((ullParsePacket skb).val.1 < 0 ∧ ¬skb.Accepted) ∨
    ((ullParsePacket skb).val = (0, skb.layout) ∧ skb.Accepted) := by
  have einval_neg : -einval < 0 := by decide
  have eproto_neg : -eprotonosupport < 0 := by decide
  unfold ullParsePacket
  by_cases h1 : skb.len < ethHdrLen
  · rw [if_pos h1]
    refine .inl ⟨einval_neg, fun ⟨⟨h, _⟩, _⟩ => ?_⟩
    simp only [ethHdrLen, ipHdrLen] at h h1; omega
  rw [if_neg h1]; dsimp only [Reads.val_bind]
  by_cases h2 : ntohs (skb.load16 12).val ≠ ethPIp
  · rw [if_pos h2]; exact .inl ⟨eproto_neg, fun ⟨⟨_, h, _⟩, _⟩ => h2 h⟩
  rw [if_neg h2]
  by_cases h3 : skb.len < ethHdrLen + ipHdrLen
  · rw [if_pos h3]; exact .inl ⟨einval_neg, fun ⟨⟨h, _⟩, _⟩ => by omega⟩
  rw [if_neg h3]; dsimp only [Reads.val_bind, SkBuff.read_val]
  by_cases h4 : skb.byteAt ethHdrLen >>> 4 ≠ 4#8
  · rw [if_pos h4]; exact .inl ⟨eproto_neg, fun ⟨⟨_, _, h, _⟩, _⟩ => h4 h⟩
  rw [if_neg h4, show (skb.byteAt ethHdrLen &&& 0x0F#8).toNat * 4 = skb.ipHeaderLen from rfl]
  by_cases h5 : skb.ipHeaderLen < ipHdrLen
  · rw [if_pos h5]; exact .inl ⟨einval_neg, fun ⟨⟨_, _, _, h, _⟩, _⟩ => by omega⟩
  rw [if_neg h5]; dsimp only [Reads.val_bind]
  rw [show (skb.load16 (ethHdrLen + 10)).val = skb.ipCheck from rfl]
  by_cases h6 : (validateChecksum skb.read ethHdrLen skb.ipHeaderLen skb.ipCheck).val < 0
  · rw [if_pos h6]
    exact .inl ⟨einval_neg, fun ⟨_, h, _⟩ => by simp only [SkBuff.IpCheckOk] at h; omega⟩
  rw [if_neg h6]; dsimp only [Reads.val_bind, SkBuff.read_val]
  have hip : skb.IpCheckOk :=
    (validateChecksum_val_le).resolve_right fun h => h6 (h ▸ einval_neg)
  rw [show skb.byteAt (ethHdrLen + 9) = skb.ipProtocol from rfl,
    show ethHdrLen + skb.ipHeaderLen = skb.transportOff from rfl]
  have hfit : ethHdrLen + ipHdrLen ≤ skb.len := by omega
  by_cases h7 : skb.ipProtocol = ipprotoTcp
  · have hnu : skb.ipProtocol ≠ ipprotoUdp := by rw [h7]; decide
    rw [if_pos h7]
    by_cases h8 : skb.len < skb.transportOff + tcpHdrLen
    · rw [if_pos h8]
      exact .inl ⟨einval_neg, fun ⟨⟨_, _, _, _, h⟩, _⟩ => by
        rcases h with ⟨-, h, -⟩ | ⟨h, -⟩
        · omega
        · exact hnu h⟩
    rw [if_neg h8]; dsimp only [Reads.val_bind, SkBuff.read_val]
    rw [show (skb.byteAt (skb.transportOff + 12) >>> 4).toNat * 4 = skb.tcpDataOffLen from rfl]
    by_cases h9 : skb.tcpDataOffLen < tcpHdrLen
    · rw [if_pos h9]
      exact .inl ⟨einval_neg, fun ⟨⟨_, _, _, _, h⟩, _⟩ => by
        rcases h with ⟨-, -, h⟩ | ⟨h, -⟩
        · omega
        · exact hnu h⟩
    rw [if_neg h9]
    refine .inr ⟨?_, ⟨hfit, not_not.1 h2, not_not.1 h4, by omega, .inl ⟨h7, by omega, by omega⟩⟩,
      hip, fun h => absurd h hnu⟩
    rw [skb.layout_of_tcp h7]; rfl
  rw [if_neg h7]
  by_cases h10 : skb.ipProtocol = ipprotoUdp
  · rw [if_pos h10]
    by_cases h11 : skb.len < skb.transportOff + udpHdrLen
    · rw [if_pos h11]
      exact .inl ⟨einval_neg, fun ⟨⟨_, _, _, _, h⟩, _⟩ => by
        rcases h with ⟨h, -⟩ | ⟨-, h⟩
        · exact h7 h
        · omega⟩
    rw [if_neg h11]; dsimp only [Reads.val_bind]
    rw [show (skb.load16 (skb.transportOff + 6)).val = skb.udpCheck from rfl]
    have hacc : skb.HeadersFit := ⟨hfit, not_not.1 h2, not_not.1 h4, by omega, .inr ⟨h10, by omega⟩⟩
    by_cases h12 : skb.udpCheck ≠ 0#16
    · rw [if_pos h12]; dsimp only [Reads.val_bind]
      rw [show (ntohs (skb.load16 (skb.transportOff + 4)).val).toNat = skb.udpLen from rfl]
      by_cases h13 : (validateChecksum skb.read skb.transportOff skb.udpLen skb.udpCheck).val < 0
      · rw [if_pos h13]
        exact .inl ⟨einval_neg, fun ⟨_, _, h⟩ => by
          rcases h h10 with h | h
          · exact h12 h
          · omega⟩
      rw [if_neg h13]
      refine .inr ⟨?_, hacc, hip, fun _ => .inr ?_⟩
      · rw [skb.layout_of_not_tcp h7]; rfl
      · exact (validateChecksum_val_le).resolve_right fun h => h13 (h ▸ einval_neg)
    rw [if_neg h12]; dsimp only [Reads.val_bind, Reads.val_pure]
    rw [if_neg (lt_irrefl _)]
    refine .inr ⟨?_, hacc, hip, fun _ => .inl (not_not.1 h12)⟩
    rw [skb.layout_of_not_tcp h7]; rfl
  rw [if_neg h10]
  exact .inl ⟨eproto_neg, fun ⟨⟨_, _, _, _, h⟩, _⟩ => by
    rcases h with ⟨h, -⟩ | ⟨h, -⟩
    · exact h7 h
    · exact h10 h⟩

theorem ullParsePacket_eq_zero_iff (skb : SkBuff) : (ullParsePacket skb).val.1 = 0 ↔ skb.Accepted := by
  rcases ullParsePacket_cases skb with ⟨hneg, hn⟩ | ⟨hval, hacc⟩
  · exact iff_of_false (by omega) hn
  · exact iff_of_true (by rw [hval]) hacc

/-- The parser is sound for the header conditions: a frame it accepts has
    them, and the out-parameters are the layout. It is complete for frames
    whose IP header has a zero checksum field and RFC 1071 sum `0xFFFF`,
    and whose UDP header, if any, has a zero checksum field. -/
theorem ullParsePacket_sound_complete (skb : SkBuff) :
    ((ullParsePacket skb).val.1 = 0 → skb.HeadersFit ∧ (ullParsePacket skb).val.2 = skb.layout) ∧
    (skb.HeadersFit → skb.ipCheck = 0 → rfc1071Sum (skb.bytes ethHdrLen skb.ipHeaderLen) = 0xFFFF →
      (skb.ipProtocol = ipprotoUdp → skb.udpCheck = 0) → (ullParsePacket skb).val.1 = 0) := by
  refine ⟨fun h0 => ?_, fun hfit hc hsum hudp => ?_⟩
  · rcases ullParsePacket_cases skb with ⟨hneg, -⟩ | ⟨hval, hacc, -⟩
    · omega
    · exact ⟨hacc, by rw [hval]⟩
  · have hlen := skb.ipHeaderLen_le
    have hcomp := nanonetComputeChecksum_eq_zero (f := skb.byteAt)
      (fun i => (rfl : (skb.read i).val = skb.byteAt i)) (by simp only [SkBuff.ipHeaderLen]; omega)
      (by omega) hsum
    have hip : skb.IpCheckOk := by
      simp only [SkBuff.IpCheckOk, validateChecksum, Reads.val_bind, hcomp, hc, Reads.val_pure, if_true]
    rcases ullParsePacket_cases skb with ⟨-, hn⟩ | ⟨hval, -⟩
    · exact absurd ⟨hfit, hip, fun h => .inl (hudp h)⟩ hn
    · rw [hval]

/-- A TCP segment whose data offset says 60 bytes of header in a 54-byte
    frame: 20 bytes of TCP header are all there is. Its IP header has
    checksum field 0 and RFC 1071 sum `0xFFFF`. -/
def overrunFrame : List Byte :=
  [0x02, 0x00, 0x00, 0x00, 0x00, 0x01, 0x02, 0x00, 0x00, 0x00, 0x00, 0x02, 0x08, 0x00,
   0x45, 0x00, 0x00, 0x28, 0x26, 0xCE, 0x40, 0x00, 0x40, 0x06, 0x00, 0x00,
   0x0A, 0x00, 0x00, 0x02, 0x0A, 0x00, 0x00, 0x01,
   0x13, 0x88, 0x1F, 0x90, 0x00, 0x00, 0x00, 0x01, 0x00, 0x00, 0x00, 0x00, 0xF0, 0x02, 0xFF, 0xFF,
   0x00, 0x00, 0x00, 0x00]

/-- The parser accepts the frame although its TCP header runs 40 bytes past
    the frame's end, and returns no payload. -/
theorem overrun_tcp_header_accepted :
    let skb : SkBuff := ⟨overrunFrame, fun _ => 0, true⟩
    skb.ipProtocol = ipprotoTcp ∧ skb.len < ethHdrLen + skb.ipHeaderLen + skb.tcpDataOffLen ∧
    rfc1071Sum (skb.bytes ethHdrLen skb.ipHeaderLen) = 0xFFFF ∧
    (ullParsePacket skb).val.1 = 0 ∧ (ullParsePacket skb).val.2.payload = none := by
  decide

/-! ## Footprint -/

/-- The payload the parser returns, with `payload_len` of its bytes, lies in
    the frame. -/
theorem SkBuff.layout_payload_le (skb : SkBuff) {q : Nat} (h : skb.layout.payload = some q) :
    (q : Int) + skb.layout.payloadLen ≤ skb.len := by
  have h1 := skb.ipHeaderLen_le
  have h2 := skb.tcpDataOffLen_le
  have h3 : skb.transportLen ≤ 60 := by
    unfold SkBuff.transportLen; split
    · exact h2
    · decide
  simp only [SkBuff.layout] at h ⊢
  split at h
  · simp at h
  · rename_i hn
    obtain rfl := (Option.some_inj.1 h).symm
    rw [if_neg hn]
    have := cInt_le (x := (skb.len : Int) - ethHdrLen - skb.ipHeaderLen - skb.transportLen)
      (by simp only [ethHdrLen]; omega) (by simpa [SkBuff.payloadLen] using hn)
    simp only [SkBuff.payloadLen, SkBuff.transportOff, ethHdrLen] at this ⊢
    omega

/-- An offset the fast path may read: inside the frame, or in one of the two
    regions `ull_parse_packet` checksums without checking them against
    `skb->len`: the `4 * IHL` bytes of IP header, and, for a UDP datagram
    only, the `ntohs(udp->len)` bytes from the transport header. -/
def SkBuff.MayRead (skb : SkBuff) (o : Nat) : Prop :=
  o < skb.len ∨ (ethHdrLen ≤ o ∧ o < skb.transportOff) ∨
    (skb.ipProtocol = ipprotoUdp ∧ skb.transportOff ≤ o ∧ o < skb.transportOff + skb.udpLen)

/-- Every byte the parser reads lies in the frame or in a region it checksums. -/
theorem ullParsePacket_offs (skb : SkBuff) : ∀ o ∈ (ullParsePacket skb).offs, skb.MayRead o := by
  unfold ullParsePacket
  by_cases h1 : skb.len < ethHdrLen
  · rw [if_pos h1]; simp
  rw [if_neg h1]
  simp only [Reads.offs_bind, List.forall_mem_append, SkBuff.load16_offs]
  refine ⟨by simp only [ethHdrLen] at h1; simp [SkBuff.MayRead]; omega, ?_⟩
  by_cases h2 : ntohs (skb.load16 12).val ≠ ethPIp
  · rw [if_pos h2]; simp
  rw [if_neg h2]
  by_cases h3 : skb.len < ethHdrLen + ipHdrLen
  · rw [if_pos h3]; simp
  rw [if_neg h3]
  have hin : ∀ o, o < ethHdrLen + ipHdrLen → skb.MayRead o := fun o h => .inl (by omega)
  simp only [Reads.offs_bind, List.forall_mem_append, SkBuff.read_offs, SkBuff.read_val]
  refine ⟨by simpa using hin _ (by decide), ?_⟩
  by_cases h4 : skb.byteAt ethHdrLen >>> 4 ≠ 4#8
  · rw [if_pos h4]; simp
  rw [if_neg h4, show (skb.byteAt ethHdrLen &&& 0x0F#8).toNat * 4 = skb.ipHeaderLen from rfl]
  by_cases h5 : skb.ipHeaderLen < ipHdrLen
  · rw [if_pos h5]; simp
  rw [if_neg h5]
  simp only [Reads.offs_bind, List.forall_mem_append, SkBuff.load16_offs, validateChecksum_offs]
  refine ⟨by simp; exact ⟨hin _ (by decide), hin _ (by decide)⟩, ?_, ?_⟩
  · intro o ho
    simp only [List.mem_range'_1] at ho
    exact .inr (.inl ⟨ho.1, by simp only [SkBuff.transportOff]; omega⟩)
  by_cases h6 : (validateChecksum skb.read ethHdrLen skb.ipHeaderLen
      (skb.load16 (ethHdrLen + 10)).val).val < 0
  · rw [if_pos h6]; simp
  rw [if_neg h6]
  simp only [Reads.offs_bind, List.forall_mem_append, SkBuff.read_offs, SkBuff.read_val,
    show ethHdrLen + skb.ipHeaderLen = skb.transportOff from rfl]
  refine ⟨by simpa using hin _ (by decide), ?_⟩
  by_cases h7 : skb.byteAt (ethHdrLen + 9) = ipprotoTcp
  · rw [if_pos h7]
    by_cases h8 : skb.len < skb.transportOff + tcpHdrLen
    · rw [if_pos h8]; simp
    rw [if_neg h8]
    simp only [Reads.offs_bind, List.forall_mem_append, SkBuff.read_offs]
    refine ⟨by simp only [tcpHdrLen] at h8; simp [SkBuff.MayRead]; omega, ?_⟩
    split <;> simp
  rw [if_neg h7]
  by_cases hu : skb.byteAt (ethHdrLen + 9) = ipprotoUdp
  · rw [if_pos hu]
    split
    · simp
    rename_i h11
    simp only [Reads.offs_bind, List.forall_mem_append, SkBuff.load16_offs]
    simp only [udpHdrLen] at h11
    refine ⟨by simp [SkBuff.MayRead]; omega, ?_⟩
    split
    · simp only [Reads.offs_bind, List.forall_mem_append, SkBuff.load16_offs, validateChecksum_offs]
      refine ⟨by simp [SkBuff.MayRead]; omega, fun o ho => ?_, by split <;> simp⟩
      simp only [List.mem_range'_1] at ho
      exact .inr (.inr ⟨hu, ho.1, ho.2⟩)
    · simp only [Reads.offs_bind]
      split <;> simp
  · rw [if_neg hu]; simp

end NanoNet
