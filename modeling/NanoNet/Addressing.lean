/-
  NanoNet.Addressing

  Where the responses of the fast path are sent.

  `nanonet_create_response_packet` swaps the original frame's addresses
  into the response when it is given one, and otherwise addresses the
  response to `target_ip:target_port` with a zero Ethernet destination.
  `nanonet_process_application_logic` has no frame to give: it receives the
  payload only, and calls `nanonet_send_response(NULL, ...)`. So every
  response the hook transmits goes to the configured endpoint, whatever
  frame caused it (`nanonetHook_response_toTarget`).
-/
import NanoNet.Hook

namespace NanoNet

/-! ## Addressing fields

The bytes of a frame's addressing fields, for a 20-byte IP header: the
Ethernet destination, the IP source and destination, and the transport
source and destination ports. -/

def frameEthDst (f : List Byte) : List Byte := f.take 6
def frameIpSrc (f : List Byte) : List Byte := (f.drop 26).take 4
def frameIpDst (f : List Byte) : List Byte := (f.drop 30).take 4
def frameSrcPort (f : List Byte) : List Byte := (f.drop 34).take 2
def frameDstPort (f : List Byte) : List Byte := (f.drop 36).take 2

/-- A frame addressed from `response_ip:response_port` to `target_ip:target_port`
    with a zero Ethernet destination. -/
def ToTarget (cfg : UllConfig) (f : List Byte) : Prop :=
  frameEthDst f = List.replicate 6 0 ∧ frameIpSrc f = le32 cfg.responseIp ∧
  frameIpDst f = le32 cfg.targetIp ∧ frameSrcPort f = le16 cfg.responsePort ∧
  frameDstPort f = le16 cfg.targetPort

/-! ## Where responses go -/

/-- With no original frame the builder addresses the response to the
    configured endpoint. -/
theorem nanonetCreateResponsePacket_toTarget (env : TxEnv) (data : List Byte) (cfg : UllConfig)
    (pool : ResponsePool) (t : TxSkb)
    (h : (nanonetCreateResponsePacket env none data cfg pool).val.1 = some t) : ToTarget cfg t.data := by
  unfold nanonetCreateResponsePacket at h
  split at h
  · cases h
  split at h
  · cases h
  dsimp only at h
  split at h
  · cases h
  split at h <;>
  · simp only [Reads.val_bind, Reads.val_pure] at h
    split at h
    · obtain rfl := (Option.some_inj.1 h).symm
      simp [ToTarget, frameEthDst, frameIpSrc, frameIpDst, frameSrcPort, frameDstPort, responseEthHdr,
        responseIpHdr, fillIpCheck, responseTcpHdr, responseUdpHdr, le32, le16]
    · cases h

theorem nanonetSendResponse_toTarget (env : TxEnv) (data : List Byte) (cfg : UllConfig)
    (pool : ResponsePool) (x : Xmit)
    (h : (nanonetSendResponse env none data cfg pool).val.xmit = some x) : ToTarget cfg x.skb.data := by
  unfold nanonetSendResponse at h
  split at h
  · cases h
  simp only [Reads.val_bind] at h
  have hc := nanonetCreateResponsePacket_toTarget env data cfg pool
  generalize (nanonetCreateResponsePacket env none data cfg pool).val = c at h hc
  obtain ⟨_ | t, pool⟩ := c
  · cases h
  dsimp only at h
  split at h <;> exact (Option.some_inj.1 h) ▸ hc t rfl

theorem nanonetProcessApplicationLogic_toTarget (env : AppEnv) (skb : SkBuff) (payload : Option Nat)
    (payloadLen : Int) (cfg : UllConfig) (pool : ResponsePool) (x : Xmit)
    (h : (nanonetProcessApplicationLogic env skb payload payloadLen cfg pool).val.xmit = some x) :
    ToTarget cfg x.skb.data := by
  unfold nanonetProcessApplicationLogic at h
  split at h
  · cases h
  split at h
  · cases h
  simp only [Reads.val_bind] at h
  generalize (processMarketData env skb payload payloadLen).val = m at h
  obtain ⟨r, _ | order⟩ := m
  · cases h
  dsimp only at h
  split at h
  · exact nanonetSendResponse_toTarget _ _ _ _ x h
  · cases h

/-- Every response the hook hands to the device goes from
    `response_ip:response_port` to `target_ip:target_port` of the
    configuration it ran with, with a zero Ethernet destination: the
    application logic builds it with no original frame. -/
theorem nanonetHook_response_toTarget (jhash : JHash) (s : NanoNetState) (env : HookEnv) (skb : SkBuff)
    (x : Xmit) (h : (nanonetHook jhash s env skb).val.xmit = some x) : ToTarget s.config x.skb.data := by
  rcases nanonetHook_cases jhash s env skb with ⟨e, conns, active, -, he, -⟩ | ⟨conns, active, ip, p, he, -⟩
  · rw [he] at h; cases h
  · rw [he, hookFinish_xmit] at h
    exact nanonetProcessApplicationLogic_toTarget _ _ _ _ _ _ x h

/-- The market frame at the UDP endpoint: its order is addressed to the
    endpoint. -/
example :
    let o : HookOut := (nanonetHook (fun _ _ _ _ => 0) { NanoNetState.init with config := udpEndpoint } okEnv
      ⟨marketFrame, fun _ => 0, true⟩).val
    ∃ h : o.xmit.isSome, ToTarget udpEndpoint (o.xmit.get h).skb.data :=
  ⟨by decide, nanonetHook_response_toTarget (fun _ _ _ _ => 0)
    { NanoNetState.init with config := udpEndpoint } okEnv ⟨marketFrame, fun _ => 0, true⟩ _
    (Option.some_get _).symm⟩

/-- The market frame's order goes to 10.0.0.1:8080, the endpoint itself,
    with a zero Ethernet destination, and not back to the frame's source
    10.0.0.2:5000 at 02:00:00:00:00:02. -/
theorem market_order_not_sent_back :
    let o : HookOut := (nanonetHook (fun _ _ _ _ => 0) { NanoNetState.init with config := udpEndpoint } okEnv
      ⟨marketFrame, fun _ => 0, true⟩).val
    o.xmit.map (fun x => frameIpDst x.skb.data) = some [10, 0, 0, 1] ∧
    frameIpSrc marketFrame = [10, 0, 0, 2] ∧
    o.xmit.map (fun x => frameDstPort x.skb.data) = some [0x1F, 0x90] ∧
    frameSrcPort marketFrame = [0x13, 0x88] ∧
    o.xmit.map (fun x => frameEthDst x.skb.data) = some [0, 0, 0, 0, 0, 0] ∧
    (marketFrame.drop 6).take 6 = [0x02, 0, 0, 0, 0, 0x02] := by
  decide

end NanoNet
