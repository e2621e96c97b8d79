/-
  NanoNet.Footprint

  Which bytes of the ingress frame `nanonet_hook` reads.

  Every read of the fast path is logged (`Reads.offs`), so its footprint is
  a value of the model. The parser checks `skb->len` before each
  fixed-size header, and what the hook reads after it (the validator's
  fields, the ports, the TCP segment, the market-data record, the fields of
  the trace event) lies inside the frame. The two checksum calls of
  `ull_parse_packet` do not: they read `4 * IHL` bytes of IP header and,
  for a UDP datagram only, `ntohs(udp->len)` bytes of it, lengths taken
  from the frame and never compared with `skb->len` before the call.
  `SkBuff.MayRead` is this footprint; on a 34-byte frame whose IHL says 15
  the hook reads 40 bytes past the end.
-/
import NanoNet.ParseSpec
import NanoNet.Hook

namespace NanoNet

/-- Past the filters, the hook reads the market-data record and the
    addresses and ports for the trace event, all inside the frame. -/
theorem hookFinish_offs (s : NanoNetState) (env : HookEnv) (skb : SkBuff) (h : skb.HeadersFit) :
    ∀ o ∈ (hookFinish s env skb ethHdrLen skb.layout).offs, o < skb.len := by
  obtain ⟨h1, h2⟩ := h.transport_le
  have h3 : skb.transportOff = 14 + skb.ipHeaderLen := rfl
  simp only [ipHdrLen, udpHdrLen] at h1 h2
  simp only [hookFinish, Reads.offs_bind, Reads.offs_pure, List.forall_mem_append,
    SkBuff.load32_offs, SkBuff.load16_offs, SkBuff.layout_transport, List.append_nil, ethHdrLen]
  refine ⟨fun o ho => ?_, by simp; omega⟩
  obtain ⟨q, hq, hl, -, ho⟩ := nanonetProcessApplicationLogic_offs _ _ _ _ _ _ o ho
  have := skb.layout_payload_le hq
  simp only [marketDataLen] at hl
  omega

/-- Every byte `nanonet_hook` reads lies inside the frame, except the bytes
    the two checksum calls of `ull_parse_packet` read. -/
theorem nanonetHook_reads_in_frame (jhash : JHash) (s : NanoNetState) (env : HookEnv)
    (skb : SkBuff) : ∀ o ∈ (nanonetHook jhash s env skb).offs, skb.MayRead o := by
  unfold nanonetHook
  by_cases h0 : (!s.config.enabled || !skb.dev) = true
  · rw [if_pos h0]; simp
  rw [if_neg h0]
  simp only [Reads.offs_bind, List.forall_mem_append]
  refine ⟨ullParsePacket_offs skb, ?_⟩
  rcases ullParsePacket_cases skb with ⟨hneg, -⟩ | ⟨hval, hacc, -⟩
  · rw [if_pos hneg]; simp
  rw [hval]
  obtain ⟨h1, h2⟩ := hacc.transport_le
  have h3 : skb.transportOff = ethHdrLen + skb.ipHeaderLen := rfl
  have hin : ∀ o, o < 34 → skb.MayRead o := fun o h => .inl (by
    simp only [ipHdrLen, udpHdrLen, ethHdrLen] at h1 h2 h3; omega)
  dsimp only
  rw [if_neg (lt_irrefl 0), show skb.layout.ipHdr.getD ethHdrLen = ethHdrLen from rfl]
  simp only [Reads.offs_bind, List.forall_mem_append]
  refine ⟨fun o ho => hin o (by
    have := nanonetValidatePacket_offs _ _ _ o ho; simp only [ethHdrLen] at this; omega), ?_⟩
  split
  · simp
  simp only [Reads.offs_bind, List.forall_mem_append, SkBuff.load32_offs]
  refine ⟨by simp only [List.mem_cons, ethHdrLen]; rintro o (rfl | rfl | rfl | rfl | h) <;>
    first | exact hin _ (by decide) | simp at h, ?_⟩
  split
  · simp
  have hfin := fun st => hookFinish_offs st env skb hacc
  split
  · rename_i th _ ht
    split at ht
    · obtain ⟨rfl, htcp⟩ := SkBuff.layout_tcpHdr ht
      have h4 : skb.transportOff + tcpHdrLen ≤ skb.len := by
        obtain ⟨-, -, -, -, ⟨-, h, -⟩ | ⟨h, -⟩⟩ := hacc
        · exact h
        · exact absurd (htcp.symm.trans h) (by decide)
      simp only [tcpHdrLen] at h4
      simp only [Reads.offs_bind, List.forall_mem_append, SkBuff.load16_offs]
      refine ⟨fun o ho => .inl (by simp at ho; omega), ?_⟩
      split
      · simp
      simp only [Reads.offs_bind, List.forall_mem_append]
      refine ⟨fun o ho => .inl ?_, ?_⟩
      · have := readTcpSegment_offs _ _ _ o ho
        simp only [ethHdrLen] at this h3; omega
      split
      · simp
      · exact fun o ho => .inl (hfin _ o ho)
    · cases ht
  · rename_i uh ht
    split at ht
    · obtain rfl := SkBuff.layout_udpHdr ht
      simp only [Reads.offs_bind, List.forall_mem_append, SkBuff.load16_offs]
      refine ⟨fun o ho => .inl (by simp only [udpHdrLen] at h2; simp at ho; omega), ?_⟩
      split
      · simp
      · exact fun o ho => .inl (hfin _ o ho)
    · cases ht
  · exact fun o ho => .inl (hfin _ o ho)

/-- The market frame at the UDP endpoint: the hook reads the record's price
    at offset 50, inside the frame. -/
theorem market_frame_price_read_in_frame :
    let skb : SkBuff := ⟨marketFrame, fun _ => 0, true⟩
    50 ∈ (nanonetHook (fun _ _ _ _ => 0) { NanoNetState.init with config := udpEndpoint } okEnv skb).offs ∧
      skb.MayRead 50 :=
  ⟨by decide, nanonetHook_reads_in_frame (fun _ _ _ _ => 0)
    { NanoNetState.init with config := udpEndpoint } okEnv ⟨marketFrame, fun _ => 0, true⟩ 50 (by decide)⟩

/-- A 34-byte IPv4 frame whose version/IHL byte is `0x4F`: an IP header of
    60 bytes is announced, 20 are there. -/
def shortFrame : List Byte :=
  [0x02, 0x00, 0x00, 0x00, 0x00, 0x01, 0x02, 0x00, 0x00, 0x00, 0x00, 0x02, 0x08, 0x00,
   0x4F, 0x00, 0x00, 0x14, 0x00, 0x00, 0x40, 0x00, 0x40, 0x11, 0x00, 0x00,
   0x0A, 0x00, 0x00, 0x02, 0x0A, 0x00, 0x00, 0x01]

/-- At the UDP endpoint, the hook reads the 40 bytes at offsets 34 to 73 of
    the 34-byte frame: the IP header checksum runs past its end. -/
theorem hook_reads_past_short_frame :
    let skb : SkBuff := ⟨shortFrame, fun _ => 0, true⟩
    skb.len = 34 ∧
    (nanonetHook (fun _ _ _ _ => 0) { NanoNetState.init with config := udpEndpoint } okEnv
      skb).offs.filter (fun o => 34 ≤ o) = List.range' 34 40 := by
  decide

end NanoNet
