/-
  NanoNet.ResponseSender

  The transmit path: the response pool of optimizations.c
  (`nanonet_get_response_skb`), and `nanonet_create_response_packet` and
  `nanonet_send_response` of response_sender.c.

  The builder writes every byte of the frame it returns, so the frame is a
  function of the configuration, the body and (when one is given) the
  original frame; the original's fields are read through `Reads`. The
  kernel calls on this path are answers in `TxEnv`: the fallback
  `alloc_skb`, `dev_get_by_name(&init_net, "eth0")` and `dev_queue_xmit`.
  `skb_put` past a buffer's tailroom is not modelled; every frame the fast
  path builds is at most 95 bytes.
-/
import NanoNet.Basic
import NanoNet.Checksum

namespace NanoNet

/-! ## The response pool -/

/-- `RESPONSE_POOL_SIZE`. -/
def responsePoolSize : Nat := 256

/-- `response_pool`: which slots still hold a pre-allocated skb, and the
    ring's `head` and `tail`. -/
structure ResponsePool where
  slots : List Bool
  head : Nat
  tail : Nat
  deriving DecidableEq, Repr

/-- The pool after `nanonet_init_response_pool` succeeds. -/
def ResponsePool.init : ResponsePool := ⟨List.replicate responsePoolSize true, 0, 0⟩

/-- `nanonet_get_response_skb()`: whether it returns a buffer, and the pool
    after the call. The taken slot is cleared and `head` advances. -/
def nanonetGetResponseSkb (p : ResponsePool) : Bool × ResponsePool :=
  if (p.head + 1) % responsePoolSize = p.tail then (false, p)
  else (p.slots.getD p.head false,
    { p with slots := p.slots.set p.head false, head := (p.head + 1) % responsePoolSize })

/-- The pool after its first `k` buffers were handed out: their slots
    cleared, `head` at `k`, and `tail` still 0, since nothing gives a buffer
    back. -/
def ResponsePool.taken (k : Nat) : ResponsePool :=
  ⟨List.replicate k false ++ List.replicate (responsePoolSize - k) true, k, 0⟩

theorem ResponsePool.init_eq_taken : ResponsePool.init = ResponsePool.taken 0 := rfl

/-- From `taken k` a call hands out slot `k`, unless `k` is the last slot:
    there `head + 1` meets `tail` and the pool reads as empty. -/
theorem nanonetGetResponseSkb_taken {k : Nat} (hk : k < responsePoolSize) :
    nanonetGetResponseSkb (ResponsePool.taken k) =
      if k + 1 = responsePoolSize then (false, ResponsePool.taken k)
      else (true, ResponsePool.taken (k + 1)) := by
  unfold nanonetGetResponseSkb
  simp only [ResponsePool.taken, responsePoolSize] at hk ⊢
  by_cases h : k + 1 = 256
  · rw [if_pos (by rw [h]), if_pos h]
  rw [if_neg (by rw [Nat.mod_eq_of_lt (by omega)]; omega), if_neg h]
  obtain ⟨m, hm⟩ : ∃ m, 256 - k = m + 1 := ⟨255 - k, by omega⟩
  rw [hm, show 256 - (k + 1) = m by omega, Nat.mod_eq_of_lt (show k + 1 < 256 by omega)]
  have hl : (List.replicate k false).length ≤ k := by simp
  rw [List.getD_eq_getElem?_getD, List.getElem?_append_right hl, List.set_append_right _ _ hl]
  have e : List.replicate (k + 1) false = List.replicate k false ++ [false] := List.replicate_succ' k false
  simp only [e, List.length_replicate, Nat.sub_self, List.replicate_succ, List.getElem?_cons_zero,
    Option.getD_some, List.set_cons_zero, List.append_assoc, List.singleton_append]

/-! ## Building the frame -/

/-- The kernel's answers on the transmit path. -/
structure TxEnv where
  /-- `alloc_skb(total_len + NET_IP_ALIGN, GFP_ATOMIC)` succeeds. -/
  skbAllocOk : Bool
  /-- `dev_get_by_name(&init_net, "eth0")` finds the device. -/
  eth0 : Bool
  /-- `dev_queue_xmit` returns `NET_XMIT_SUCCESS`. -/
  xmitOk : Bool

/-- The device a response frame is attached to. -/
inductive TxDev
  | orig
  | eth0
  deriving DecidableEq, Repr

/-- A response `sk_buff`: its frame and its device. -/
structure TxSkb where
  data : List Byte
  dev : TxDev
  deriving DecidableEq, Repr

/-- The transport header length for `config->protocol`, `none` for an
    unsupported protocol. -/
def transportHdrLen (protocol : Byte) : Option Nat :=
  if protocol = ipprotoTcp then some tcpHdrLen
  else if protocol = ipprotoUdp then some udpHdrLen
  else none

/-- The Ethernet header: the original's addresses swapped, or zeros. -/
def responseEthHdr : Option SkBuff → Reads (List Byte)
  | some o => do
    let src ← o.readBytes 6 6
    let dst ← o.readBytes 0 6
    pure (src ++ dst ++ le16 (htons ethPIp))
  | none => pure (List.replicate 12 0 ++ le16 (htons ethPIp))

/-- The IP header with its checksum field zero, as written before the
    checksum: `daddr` is the original's source or `target_ip`. -/
def responseIpHdr (orig : Option SkBuff) (cfg : UllConfig) (thl n : Nat) : Reads (List Byte) := do
  let daddr ← match orig with
    | some o => o.load32 (ethHdrLen + 12)
    | none => pure cfg.targetIp
  pure ([0x45, 0] ++ le16 (htons (BitVec.ofNat 16 (ipHdrLen + thl + n))) ++ le16 0 ++
    le16 (htons ipDf) ++ [64, cfg.protocol] ++ le16 0 ++ le32 cfg.responseIp ++ le32 daddr)

/-- `new_ip->check = nanonet_compute_checksum(new_ip, ip_hdr_len)`: the
    checksum of the zero-checksum header stored into bytes 10 and 11. -/
def fillIpCheck (hdr : List Byte) : List Byte :=
  hdr.take 10 ++ le16 (nanonetComputeChecksum (pureRead hdr) 0 ipHdrLen).val ++ hdr.drop 12

/-- The original's transport header, at `orig_ip + ihl * 4`. -/
def origTransport (o : SkBuff) : Reads Nat := do
  let vi ← o.read ethHdrLen
  pure (ethHdrLen + (vi &&& 0x0F#8).toNat * 4)

/-- The TCP header: ports, `seq = htonl(seq_num)`, `ack_seq` one past the
    original's `seq`, `doff = 5`, PSH, ACK when there is an original, window
    65535, checksum zero. -/
def responseTcpHdr (orig : Option SkBuff) (cfg : UllConfig) : Reads (List Byte) := do
  let (dest, ackSeq, ack) ← match orig with
    | some o => do
      let th ← origTransport o
      let source ← o.load16 th
      let seq ← o.load32 (th + 4)
      pure (source, htonl (ntohl seq + 1), (0x10 : Byte))
    | none => pure (cfg.targetPort, 0, 0)
  pure (le16 cfg.responsePort ++ le16 dest ++ le32 (htonl cfg.seqNum) ++ le32 ackSeq ++
    [0x50, 0x08 ||| ack] ++ le16 (htons 65535) ++ le16 0 ++ le16 0)

/-- The UDP header: ports, `len = htons(8 + response_len)`, checksum zero. -/
def responseUdpHdr (orig : Option SkBuff) (cfg : UllConfig) (n : Nat) : Reads (List Byte) := do
  let dest ← match orig with
    | some o => do
      let th ← origTransport o
      o.load16 th
    | none => pure cfg.targetPort
  pure (le16 cfg.responsePort ++ le16 dest ++ le16 (htons (BitVec.ofNat 16 (udpHdrLen + n))) ++
    le16 0)

/-- `nanonet_create_response_packet(orig_skb, response_data, response_len, config)`:
    the response skb or `NULL`, and the pool after the call. -/
def nanonetCreateResponsePacket (env : TxEnv) (orig : Option SkBuff) (data : List Byte)
    (cfg : UllConfig) (pool : ResponsePool) : Reads (Option TxSkb × ResponsePool) :=
  if cfg.responseIp = 0 ∨ cfg.responsePort = 0 then pure (none, pool) else
  match transportHdrLen cfg.protocol with
  | none => pure (none, pool)
  | some thl =>
    let (got, pool) := nanonetGetResponseSkb pool
    if !got && !env.skbAllocOk then pure (none, pool) else do
    let eth ← responseEthHdr orig
    let ip ← responseIpHdr orig cfg thl data.length
    let th ← if cfg.protocol = ipprotoTcp then responseTcpHdr orig cfg
      else responseUdpHdr orig cfg data.length
    let frame := eth ++ fillIpCheck ip ++ th ++ data
    match orig with
    | some o => pure (if o.dev then (some ⟨frame, .orig⟩, pool) else (none, pool))
    | none => pure (if env.eth0 then (some ⟨frame, .eth0⟩, pool) else (none, pool))

/-! ## The IP checksum the builder writes -/

section FillIpCheck

variable (hdr : List Byte) (hlen : hdr.length = 20)

include hlen in
theorem leWords_fillIpCheck :
    (leWords (fillIpCheck hdr)).sum = (leWords (hdr.take 10)).sum +
      (nanonetComputeChecksum (pureRead hdr) 0 ipHdrLen).val.toNat + (leWords (hdr.drop 12)).sum := by
  rw [fillIpCheck, leWords_append _ _ (by simp [hlen]), leWords_append _ _ (by simp [hlen])]
  simp [leWords_le16, Nat.add_assoc]

include hlen in
/-- The header with the checksum of its zero-checksum form written in: its
    host-order words sum to a multiple of `0xFFFF`. -/
theorem fillIpCheck_sum_mod (hz : hdr = hdr.take 10 ++ le16 0 ++ hdr.drop 12) :
    (leWords (fillIpCheck hdr)).sum % 65535 = 0 := by
  have hmap : (List.range' 0 ipHdrLen).map (fun i => hdr.getD i 0) = hdr := by
    rw [show ipHdrLen = hdr.length by rw [hlen]; rfl]; exact map_getD_range' hdr
  have hs := nanonetComputeChecksum_val (f := fun i => hdr.getD i 0)
    (fun i => (rfl : (pureRead hdr i).val = hdr.getD i 0)) 0 ipHdrLen
  rw [hmap] at hs
  have h1 : (leWords hdr).sum = (leWords (hdr.take 10)).sum + (leWords (hdr.drop 12)).sum := by
    conv => lhs; rw [hz]
    rw [leWords_append _ _ (by simp [hlen]), leWords_append _ _ (by simp [hlen])]
    simp [leWords_le16]
  have hle := leWords_sum_le hdr
  have := add_complement_fold (S := (leWords hdr).sum) (by rw [hlen] at hle; omega)
  rw [← hs] at this
  have := leWords_fillIpCheck hdr hlen
  omega

include hlen in
/-- The builder's IP header is correctly checksummed: its RFC 1071 sum,
    checksum field included, is `0xFFFF`. -/
theorem fillIpCheck_rfc1071 (hz : hdr = hdr.take 10 ++ le16 0 ++ hdr.drop 12)
    (hpos : 0 < (leWords (hdr.take 10)).sum) : rfc1071Sum (fillIpCheck hdr) = 0xFFFF := by
  have hl : (fillIpCheck hdr).length = 20 := by simp [fillIpCheck, hlen]
  have h1 := fillIpCheck_sum_mod hdr hlen hz
  have h2 := beWords_sum_mod (fillIpCheck hdr) (by rw [hl])
  have h3 := leWords_fillIpCheck hdr hlen
  have h4 := beWords_sum_eq_zero_iff (fillIpCheck hdr)
  exact (rfc1071Sum_eq_iff _).2 ⟨by omega, by omega⟩

end FillIpCheck

/-! ## Sending -/

/-- A frame handed to `dev_queue_xmit`, and whether it was queued. -/
structure Xmit where
  skb : TxSkb
  ok : Bool
  deriving DecidableEq, Repr

/-- What `nanonet_send_response` returns and changes: its result, the
    configuration (whose `seq_num` it advances), the pool, and the frame it
    hands to the device. -/
structure SendOut where
  result : Int
  config : UllConfig
  pool : ResponsePool
  xmit : Option Xmit

/-- `nanonet_send_response(orig_skb, response_data, response_len, config)`,
    with `nanonet_raw_send` inlined: a built skb always has a device, so the
    call reaches `dev_queue_xmit`. -/
def nanonetSendResponse (env : TxEnv) (orig : Option SkBuff) (data : List Byte)
    (cfg : UllConfig) (pool : ResponsePool) : Reads SendOut :=
  if data.length = 0 then pure ⟨-einval, cfg, pool, none⟩ else do
  let (skb, pool) ← nanonetCreateResponsePacket env orig data cfg pool
  match skb with
  | none => pure ⟨-enomem, cfg, pool, none⟩
  | some skb =>
    if env.xmitOk then
      pure ⟨0, { cfg with seqNum := cfg.seqNum + BitVec.ofNat 32 data.length }, pool,
        some ⟨skb, true⟩⟩
    else pure ⟨-eio, cfg, pool, some ⟨skb, false⟩⟩

/-! ## The pool along the transmit path -/

/-- Building a response asks the pool at most once: the pool is as it was,
    or as one `nanonet_get_response_skb` leaves it. -/
theorem nanonetCreateResponsePacket_pool (env : TxEnv) (orig : Option SkBuff) (data : List Byte)
    (cfg : UllConfig) (pool : ResponsePool) :
    (nanonetCreateResponsePacket env orig data cfg pool).val.2 = pool ∨
      (nanonetCreateResponsePacket env orig data cfg pool).val.2 = (nanonetGetResponseSkb pool).2 := by
  unfold nanonetCreateResponsePacket
  by_cases h : cfg.responseIp = 0 ∨ cfg.responsePort = 0
  · exact .inl (by rw [if_pos h]; rfl)
  rw [if_neg h]
  split
  · exact .inl rfl
  refine .inr ?_
  obtain ⟨got, p⟩ := nanonetGetResponseSkb pool
  dsimp only
  by_cases hg : (!got && !env.skbAllocOk) = true
  · rw [if_pos hg]; rfl
  rw [if_neg hg]
  cases orig <;> simp only [Reads.val_bind, Reads.val_pure] <;> split_ifs <;> rfl

theorem nanonetSendResponse_pool (env : TxEnv) (orig : Option SkBuff) (data : List Byte)
    (cfg : UllConfig) (pool : ResponsePool) :
    (nanonetSendResponse env orig data cfg pool).val.pool = pool ∨
      (nanonetSendResponse env orig data cfg pool).val.pool = (nanonetGetResponseSkb pool).2 := by
  unfold nanonetSendResponse
  by_cases hd : data.length = 0
  · exact .inl (by rw [if_pos hd]; rfl)
  rw [if_neg hd]
  simp only [Reads.val_bind]
  have h := nanonetCreateResponsePacket_pool env orig data cfg pool
  generalize (nanonetCreateResponsePacket env orig data cfg pool).val = c at h
  obtain ⟨_ | skb, p⟩ := c
  · exact h
  · dsimp only; split <;> exact h

/-! ## Footprint -/

/-- With no original frame the builder reads no ingress byte. -/
theorem nanonetCreateResponsePacket_offs (env : TxEnv) (data : List Byte) (cfg : UllConfig)
    (pool : ResponsePool) : (nanonetCreateResponsePacket env none data cfg pool).offs = [] := by
  unfold nanonetCreateResponsePacket
  split
  · rfl
  split
  · rfl
  dsimp only
  split
  · rfl
  simp only [Reads.offs_bind]
  split <;> rfl

theorem nanonetSendResponse_offs (env : TxEnv) (data : List Byte) (cfg : UllConfig)
    (pool : ResponsePool) : (nanonetSendResponse env none data cfg pool).offs = [] := by
  unfold nanonetSendResponse
  split
  · rfl
  simp only [Reads.offs_bind, nanonetCreateResponsePacket_offs, List.nil_append]
  split
  · rfl
  split <;> rfl

end NanoNet
