/-
  NanoNet.Filter

  The endpoint filter of `nanonet_hook`: which frames reach the
  application logic.

  `nanonetHook_processed_iff` states the filter as the code decides it
  (`Admitted`), for every state, kernel answer and frame. Two of its tests
  differ from a filter that matches the configured endpoint exactly. The
  validator compares `tot_len` as the host loads it, without `ntohs`. And
  the transport test is `if (protocol == TCP && tcp_hdr) ... else if
  (protocol == UDP && udp_hdr) ...` with no final `else`, so a frame of the
  other transport protocol skips the port test and the tracker and reaches
  the application logic.
-/
import NanoNet.ParseSpec
import NanoNet.Hook

namespace NanoNet

namespace SkBuff

variable (skb : SkBuff)

/-- The segment `nanonet_track_tcp_connection` reads. -/
def tcpSegment : TcpSegment := (readTcpSegment skb ethHdrLen skb.transportOff).val

theorem layout_tcpHdr_of_tcp (h : skb.ipProtocol = ipprotoTcp) :
    skb.layout.tcpHdr = some skb.transportOff := by simp [layout, h]

theorem layout_tcpHdr_of_not_tcp (h : skb.ipProtocol ≠ ipprotoTcp) : skb.layout.tcpHdr = none := by
  simp [layout, h]

theorem layout_udpHdr_of_tcp (h : skb.ipProtocol = ipprotoTcp) : skb.layout.udpHdr = none := by
  simp [layout, h]

theorem layout_udpHdr_of_not_tcp (h : skb.ipProtocol ≠ ipprotoTcp) :
    skb.layout.udpHdr = some skb.transportOff := by simp [layout, h]

theorem HeadersFit.udp_of_not_tcp {skb : SkBuff} (h : skb.HeadersFit)
    (hp : skb.ipProtocol ≠ ipprotoTcp) : skb.ipProtocol = ipprotoUdp := by
  obtain ⟨-, -, -, -, ⟨h, -⟩ | ⟨h, -⟩⟩ := h
  · exact absurd h hp
  · exact h

end SkBuff

/-- The frames whose payload `nanonet_hook` hands to the application logic,
    as the code decides it: the module is enabled and the frame has a
    device; the parser accepts it; the limiter admits it, its `saddr` is
    non-zero and its `tot_len`, as the host loads it, is at least 20; it is
    addressed to `target_ip` or to the enabled multicast group; a TCP
    segment at a TCP endpoint goes to `target_port` and is tracked; a UDP
    datagram at a UDP endpoint goes to `target_port`. A frame whose
    transport protocol is not the configured one passes. -/
def Admitted (jhash : JHash) (s : NanoNetState) (env : HookEnv) (skb : SkBuff) : Prop :=
  s.config.enabled ∧ skb.dev ∧ skb.Accepted ∧
  (env.ratelimitOk = true ∧ skb.ipSaddr ≠ 0 ∧ ipHdrLen ≤ skb.ipTotLen.toNat) ∧
  (skb.ipDaddr = s.config.targetIp ∨ s.config.multicast ∧ skb.ipDaddr = s.config.multicastGroup) ∧
  (s.config.protocol = ipprotoTcp → skb.ipProtocol = ipprotoTcp →
    skb.transportDest = s.config.targetPort ∧
    0 ≤ (nanonetTrackTcpConnection jhash env.connAllocOk env.jiffies skb.tcpSegment s.conns
      s.stats.connectionsActive).1) ∧
  (s.config.protocol = ipprotoUdp → skb.ipProtocol = ipprotoUdp →
    skb.transportDest = s.config.targetPort)

/-- `nanonet_hook` runs the application logic exactly on the admitted
    frames. -/
theorem nanonetHook_processed_iff (jhash : JHash) (s : NanoNetState) (env : HookEnv) (skb : SkBuff) :
    (∃ r, (nanonetHook jhash s env skb).val.exit = .processed r) ↔ Admitted jhash s env skb := by
  unfold nanonetHook Admitted
  by_cases h0 : (!s.config.enabled || !skb.dev) = true
  · rw [if_pos h0]
    exact iff_of_false (fun ⟨_, h⟩ => nomatch h) fun ⟨he, hd, _⟩ => by simp [he, hd] at h0
  rw [if_neg h0]
  simp only [Bool.or_eq_true, Bool.not_eq_true', not_or, Bool.not_eq_false] at h0
  dsimp only [Reads.val_bind]
  rcases ullParsePacket_cases skb with ⟨hneg, hna⟩ | ⟨hval, hacc⟩
  · rw [if_pos hneg]
    exact iff_of_false (fun ⟨_, h⟩ => nomatch h) fun ⟨_, _, ha, _⟩ => hna ha
  rw [hval]; dsimp only
  rw [if_neg (lt_irrefl 0), show skb.layout.ipHdr.getD ethHdrLen = ethHdrLen from rfl]
  dsimp only [Reads.val_bind]
  by_cases h2 : (nanonetValidatePacket env.ratelimitOk skb ethHdrLen).val < 0
  · rw [if_pos h2]
    exact iff_of_false (fun ⟨_, h⟩ => nomatch h) fun ⟨_, _, _, hv, _⟩ =>
      (nanonetValidatePacket_neg_iff _ _ _).1 h2 hv
  rw [if_neg h2]
  have hv : env.ratelimitOk = true ∧ skb.ipSaddr ≠ 0 ∧ ipHdrLen ≤ skb.ipTotLen.toNat :=
    not_not.1 fun h => h2 ((nanonetValidatePacket_neg_iff _ _ _).2 h)
  dsimp only [Reads.val_bind]
  rw [show (skb.load32 (ethHdrLen + 16)).val = skb.ipDaddr from rfl]
  by_cases h3 : skb.ipDaddr ≠ s.config.targetIp ∧
      (!s.config.multicast || decide (skb.ipDaddr ≠ s.config.multicastGroup)) = true
  · rw [if_pos h3]
    refine iff_of_false (fun ⟨_, h⟩ => nomatch h) fun ⟨_, _, _, _, hd, _⟩ => ?_
    obtain ⟨h3, h3'⟩ := h3
    rcases hd with hd | ⟨hm, hd⟩
    · exact h3 hd
    · simp [hm, hd] at h3'
  rw [if_neg h3]
  have hd : skb.ipDaddr = s.config.targetIp ∨ s.config.multicast ∧ skb.ipDaddr = s.config.multicastGroup := by
    by_cases ht : skb.ipDaddr = s.config.targetIp
    · exact .inl ht
    · refine .inr ?_
      simp only [ne_eq, ht, not_false_eq_true, true_and, Bool.or_eq_true, Bool.not_eq_true',
        decide_eq_true_eq, not_or, Bool.not_eq_false, not_not] at h3
      exact h3
  have hpre := fun h => (⟨h0.1, h0.2, hacc, hv, hd, h⟩ : Admitted jhash s env skb)
  have hfin := fun st ip p => (⟨_, hookFinish_exit st env skb ip p⟩ :
    ∃ r, (hookFinish st env skb ip p).val.exit = .processed r)
  by_cases hc : s.config.protocol = ipprotoTcp
  · have hnu : s.config.protocol ≠ ipprotoUdp := by rw [hc]; decide
    rw [if_pos hc, if_neg hnu]
    by_cases hp : skb.ipProtocol = ipprotoTcp
    · rw [skb.layout_tcpHdr_of_tcp hp]
      dsimp only [Reads.val_bind]
      rw [show (skb.load16 (skb.transportOff + 2)).val = skb.transportDest from rfl]
      by_cases h4 : skb.transportDest ≠ s.config.targetPort
      · rw [if_pos h4]
        exact iff_of_false (fun ⟨_, h⟩ => nomatch h) fun ⟨_, _, _, _, _, ht, _⟩ => h4 (ht hc hp).1
      rw [if_neg h4]; dsimp only [Reads.val_bind]
      rw [show (readTcpSegment skb ethHdrLen skb.transportOff).val = skb.tcpSegment from rfl]
      by_cases h5 : (nanonetTrackTcpConnection jhash env.connAllocOk env.jiffies skb.tcpSegment s.conns
          s.stats.connectionsActive).1 < 0
      · rw [if_pos h5]
        exact iff_of_false (fun ⟨_, h⟩ => nomatch h) fun ⟨_, _, _, _, _, ht, _⟩ => by
          have := (ht hc hp).2; omega
      · rw [if_neg h5]
        exact iff_of_true (hfin ..) (hpre ⟨fun _ _ => ⟨not_not.1 h4, by omega⟩, fun h => absurd h hnu⟩)
    · rw [skb.layout_tcpHdr_of_not_tcp hp]
      exact iff_of_true (hfin ..) (hpre ⟨fun _ h => absurd h hp, fun h => absurd h hnu⟩)
  · rw [if_neg hc]
    by_cases hu : s.config.protocol = ipprotoUdp
    · rw [if_pos hu]
      by_cases hp : skb.ipProtocol = ipprotoTcp
      · rw [skb.layout_udpHdr_of_tcp hp]
        exact iff_of_true (hfin ..)
          (hpre ⟨fun h => absurd h hc, fun _ h => absurd (hp.symm.trans h) (by decide)⟩)
      rw [skb.layout_udpHdr_of_not_tcp hp]
      dsimp only [Reads.val_bind]
      rw [show (skb.load16 (skb.transportOff + 2)).val = skb.transportDest from rfl]
      by_cases h4 : skb.transportDest ≠ s.config.targetPort
      · rw [if_pos h4]
        exact iff_of_false (fun ⟨_, h⟩ => nomatch h) fun ⟨_, _, _, _, _, _, hu'⟩ =>
          h4 (hu' hu (hacc.1.udp_of_not_tcp hp))
      · rw [if_neg h4]
        exact iff_of_true (hfin ..) (hpre ⟨fun h => absurd h hc, fun _ _ => not_not.1 h4⟩)
    · rw [if_neg hu]
      exact iff_of_true (hfin ..) (hpre ⟨fun h => absurd h hc, fun h => absurd h hu⟩)

/-- The TCP endpoint at the address of `udpEndpoint`. -/
def tcpEndpoint : UllConfig := { udpEndpoint with protocol := ipprotoTcp }

/-- Two frames outside the endpoint that are answered: the UDP market frame
    at the TCP endpoint, and, at the UDP endpoint, the market frame with
    `tot_len` 16 (its identification adjusted to keep the header's sum). -/
theorem filter_passes_other_protocol_and_short_tot_len :
    let run : UllConfig → List Byte → HookOut := fun cfg frame => (nanonetHook (fun _ _ _ _ => 0)
      { NanoNetState.init with config := cfg } okEnv ⟨frame, fun _ => 0, true⟩).val
    let short : List Byte := (marketFrame.set 17 0x10).set 19 0xDB
    (⟨marketFrame, fun _ => 0, true⟩ : SkBuff).ipProtocol ≠ tcpEndpoint.protocol ∧
    (run tcpEndpoint marketFrame).exit = .processed 0 ∧ (run tcpEndpoint marketFrame).xmit.isSome ∧
    (ntohs (⟨short, fun _ => 0, true⟩ : SkBuff).ipTotLen).toNat = 16 ∧
    (run udpEndpoint short).exit = .processed 0 ∧ (run udpEndpoint short).xmit.isSome := by
  decide

end NanoNet
