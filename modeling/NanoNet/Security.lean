/-
  NanoNet.Security

  security.c: the packet and configuration validators, the permission
  predicate, and the TCP connection tracker.

  The tracker is a table of `CONN_HASH_SIZE` chains (`connection_hash`).
  `nanonet_track_tcp_connection` hashes the segment's 4-tuple with
  `jhash_3words`, walks that chain for an exact match, refreshes it, and
  otherwise inserts a new record at the chain's head when the segment is a
  pure SYN. `jhash_3words` comes from `<linux/jhash.h>`, which is not part
  of the source: it is a parameter of every definition that hashes, and
  every result about the table holds for any hash function.

  The chain walk and the record update happen under `conn_hash_lock`, so a
  call is one atomic step of the table; `connections_active` is passed in
  and returned.
-/
import NanoNet.Basic

namespace NanoNet

/-! ## Validators -/

/-- `nanonet_validate_packet(skb, ip_hdr)`, with the answer of
    `__ratelimit(&nanonet_ratelimit)` as `allowed`. The `tot_len` field is
    compared as the host loads it, without `ntohs`. -/
def nanonetValidatePacket (allowed : Bool) (skb : SkBuff) (ip : Nat) : Reads Int :=
  if !allowed then pure (-ebusy) else do
  let saddr ← skb.load32 (ip + 12)
  if saddr = 0 then pure (-einval) else do
  let totLen ← skb.load16 (ip + 2)
  pure (if totLen.toNat < ipHdrLen then -einval else 0)

/-- `nanonet_check_permissions()`, with `capable(CAP_NET_ADMIN)` as `capable`. -/
def nanonetCheckPermissions (capable : Bool) : Int := if capable then 0 else -eperm

/-- `nanonet_validate_config(config)`. -/
def nanonetValidateConfig (c : UllConfig) : Int :=
  if c.targetIp = 0 ∨ c.responseIp = 0 ∨ c.targetPort = 0 ∨ c.responsePort = 0 then -einval
  else if c.protocol ≠ ipprotoTcp ∧ c.protocol ≠ ipprotoUdp then -einval
  else if c.multicast ∧ c.multicastGroup = 0 then -einval
  else 0

/-- The validator fails exactly when the limiter refuses, `saddr` is zero,
    or `tot_len`, as the host loads it, is under 20. -/
theorem nanonetValidatePacket_neg_iff (allowed : Bool) (skb : SkBuff) (ip : Nat) :
    (nanonetValidatePacket allowed skb ip).val < 0 ↔
      ¬(allowed = true ∧ (skb.load32 (ip + 12)).val ≠ 0 ∧ ipHdrLen ≤ (skb.load16 (ip + 2)).val.toNat) := by
  unfold nanonetValidatePacket
  by_cases h : (!allowed) = true
  · rw [if_pos h]; simp_all [ebusy]
  rw [if_neg h]
  simp only [Reads.val_bind, Bool.not_eq_true', Bool.not_eq_false] at h ⊢
  by_cases h1 : (skb.load32 (ip + 12)).val = 0
  · simp [h1, einval]
  · rw [if_neg h1]
    simp only [Reads.val_bind, Reads.val_pure]
    split <;> simp_all [einval]

/-- The validator reads `saddr` and `tot_len` of the IP header at `ip`. -/
theorem nanonetValidatePacket_offs (allowed : Bool) (skb : SkBuff) (ip : Nat) :
    ∀ o ∈ (nanonetValidatePacket allowed skb ip).offs, ip + 2 ≤ o ∧ o < ip + 16 := by
  unfold nanonetValidatePacket
  by_cases h : (!allowed) = true
  · simp [h]
  · rw [if_neg h]
    simp only [Reads.offs_bind, SkBuff.load32_offs, List.mem_append]
    split <;> simp; omega

/-! ## Flow records -/

/-- The 4-tuple a flow is keyed by, in network byte order. -/
structure FlowKey where
  srcIp : BitVec 32
  dstIp : BitVec 32
  srcPort : BitVec 16
  dstPort : BitVec 16
  deriving DecidableEq, Repr

/-- `struct ull_tcp_conn`; its `hash_node` is its position in `ConnTable`. -/
structure UllTcpConn where
  srcIp : BitVec 32
  dstIp : BitVec 32
  srcPort : BitVec 16
  dstPort : BitVec 16
  seqNum : BitVec 32
  ackNum : BitVec 32
  state : Byte
  lastSeen : BitVec 64
  deriving DecidableEq, Repr

def UllTcpConn.key (c : UllTcpConn) : FlowKey := ⟨c.srcIp, c.dstIp, c.srcPort, c.dstPort⟩

/-- The fields of `ip_hdr` and `tcp_hdr` that `nanonet_track_tcp_connection`
    reads. -/
structure TcpSegment where
  saddr : BitVec 32
  daddr : BitVec 32
  source : BitVec 16
  dest : BitVec 16
  seq : BitVec 32
  ackSeq : BitVec 32
  syn : Bool
  ack : Bool
  deriving DecidableEq, Repr

def TcpSegment.key (seg : TcpSegment) : FlowKey := ⟨seg.saddr, seg.daddr, seg.source, seg.dest⟩

/-- A pure SYN: `syn && !ack`. -/
def TcpSegment.pureSyn (seg : TcpSegment) : Bool := seg.syn && !seg.ack

/-- Read the segment's fields: addresses from the IP header at `ip`, ports,
    sequence numbers and the flag byte (`syn` is bit 1, `ack` bit 4 of the
    little-endian bit-field word) from the TCP header at `th`. -/
def readTcpSegment (skb : SkBuff) (ip th : Nat) : Reads TcpSegment := do
  let saddr ← skb.load32 (ip + 12)
  let daddr ← skb.load32 (ip + 16)
  let source ← skb.load16 th
  let dest ← skb.load16 (th + 2)
  let seq ← skb.load32 (th + 4)
  let ackSeq ← skb.load32 (th + 8)
  let flags ← skb.read (th + 13)
  pure ⟨saddr, daddr, source, dest, seq, ackSeq, flags.getLsbD 1, flags.getLsbD 4⟩

/-- The segment's fields lie in the IP header's addresses and the first 14
    bytes of the TCP header. -/
theorem readTcpSegment_offs (skb : SkBuff) (ip th : Nat) :
    ∀ o ∈ (readTcpSegment skb ip th).offs, (ip + 12 ≤ o ∧ o < ip + 20) ∨ (th ≤ o ∧ o < th + 14) := by
  intro o ho
  simp only [readTcpSegment, Reads.offs_bind, SkBuff.load32_offs, SkBuff.load16_offs,
    SkBuff.read_offs, Reads.offs_pure, List.mem_append, List.mem_cons, List.mem_singleton,
    List.not_mem_nil, or_false] at ho
  omega

/-! ## The connection table -/

/-- `jhash_3words(a, b, c, initval)`. -/
abbrev JHash := BitVec 32 → BitVec 32 → BitVec 32 → BitVec 32 → BitVec 32

/-- `CONN_HASH_SIZE`. -/
def connHashSize : Nat := 1024

/-- The bucket `nanonet_track_tcp_connection` hashes a 4-tuple to:
    `jhash_3words(saddr, daddr, (ntohs(source) << 16) | ntohs(dest), 0) % CONN_HASH_SIZE`. -/
def FlowKey.bucket (jhash : JHash) (k : FlowKey) : Nat :=
  (jhash k.srcIp k.dstIp ((ntohs k.srcPort).setWidth 32 <<< 16 ||| (ntohs k.dstPort).setWidth 32)
    0).toNat % connHashSize

/-- `nanonet_conn_hash(conn)`: the same hash computed from a record, with the
    ports as stored (network order). No function of the source calls it. -/
def nanonetConnHash (jhash : JHash) (c : UllTcpConn) : Nat :=
  (jhash c.srcIp c.dstIp (c.srcPort.setWidth 32 <<< 16 ||| c.dstPort.setWidth 32) 0).toNat
    % connHashSize

/-- The high half of the port word `(sp << 16) | dp` is `sp`. -/
theorem portWord_hi (sp dp : BitVec 16) : (sp.setWidth 32 <<< 16 ||| dp.setWidth 32).extractLsb' 16 16 = sp := by
  ext i
  have hi := i.isLt
  simp [BitVec.getLsbD_extractLsb', BitVec.getLsbD_or, BitVec.getLsbD_shiftLeft, BitVec.getLsbD_setWidth,
    show (i : Nat) < 32 by omega, show 16 + (i : Nat) < 32 by omega]

/-- The low half of the port word `(sp << 16) | dp` is `dp`. -/
theorem portWord_lo (sp dp : BitVec 16) : (sp.setWidth 32 <<< 16 ||| dp.setWidth 32).extractLsb' 0 16 = dp := by
  ext i
  simp [BitVec.getLsbD_extractLsb', BitVec.getLsbD_or, BitVec.getLsbD_shiftLeft, BitVec.getLsbD_setWidth]
  omega

/-- Two port words are equal exactly when their ports are. -/
theorem portWord_inj {sp dp sp' dp' : BitVec 16} :
    sp.setWidth 32 <<< 16 ||| dp.setWidth 32 = sp'.setWidth 32 <<< 16 ||| dp'.setWidth 32 ↔
      sp = sp' ∧ dp = dp' := by
  refine ⟨fun h => ⟨?_, ?_⟩, fun ⟨h1, h2⟩ => h1 ▸ h2 ▸ rfl⟩
  · rw [← portWord_hi sp dp, h, portWord_hi]
  · rw [← portWord_lo sp dp, h, portWord_lo]

/-- The record hash is the tracker's hash of the 4-tuple with both ports
    byte-swapped. -/
theorem nanonetConnHash_eq_bucket (jhash : JHash) (c : UllTcpConn) :
    nanonetConnHash jhash c = FlowKey.bucket jhash ⟨c.srcIp, c.dstIp, ntohs c.srcPort, ntohs c.dstPort⟩ := by
  simp only [nanonetConnHash, FlowKey.bucket, ntohs, bswap16_bswap16]

/-- `connection_hash`: `CONN_HASH_SIZE` chains, each listed from its head. -/
structure ConnTable where
  buckets : List (List UllTcpConn)
  length_buckets : buckets.length = connHashSize

namespace ConnTable

/-- Every chain empty. -/
def empty : ConnTable := ⟨List.replicate connHashSize [], by simp⟩

def bucket (t : ConnTable) (i : Nat) : List UllTcpConn := t.buckets.getD i []

def setBucket (t : ConnTable) (i : Nat) (b : List UllTcpConn) : ConnTable :=
  ⟨t.buckets.set i b, by simp [t.length_buckets]⟩

/-- All records, chain by chain. -/
def records (t : ConnTable) : List UllTcpConn := t.buckets.flatten

/-- The number of records in the table. -/
def size (t : ConnTable) : Nat := t.records.length

end ConnTable

/-! ## `nanonet_track_tcp_connection` -/

/-- What a matching record becomes: `last_seen` refreshed, then SynSent (1)
    after a pure SYN, or Established (2) with host-order `seq`/`ack_seq`
    after a SYN+ACK. -/
def UllTcpConn.refresh (c : UllTcpConn) (seg : TcpSegment) (jiffies : BitVec 64) : UllTcpConn :=
  let c := { c with lastSeen := jiffies }
  if seg.syn && !seg.ack then { c with state := 1 }
  else if seg.syn && seg.ack then
    { c with state := 2, seqNum := ntohl seg.seq, ackNum := ntohl seg.ackSeq }
  else c

/-- The `hlist_for_each_entry` walk of one chain: the chain with its first
    record matching the segment's 4-tuple refreshed, or `none` if no record
    matches. -/
def walkChain (seg : TcpSegment) (jiffies : BitVec 64) : List UllTcpConn → Option (List UllTcpConn)
  | [] => none
  | c :: cs =>
    if c.key = seg.key then some (c.refresh seg jiffies :: cs)
    else (walkChain seg jiffies cs).map (c :: ·)

/-- The record a pure SYN creates. -/
def newConn (seg : TcpSegment) (jiffies : BitVec 64) : UllTcpConn where
  srcIp := seg.saddr
  dstIp := seg.daddr
  srcPort := seg.source
  dstPort := seg.dest
  state := 1
  seqNum := ntohl seg.seq
  ackNum := 0
  lastSeen := jiffies

/-- `nanonet_track_tcp_connection(ip_hdr, tcp_hdr)`: the result code, the
    table and `connections_active` after the call. `allocOk` is whether
    `kmalloc` of a new record succeeds. -/
def nanonetTrackTcpConnection (jhash : JHash) (allocOk : Bool) (jiffies : BitVec 64)
    (seg : TcpSegment) (t : ConnTable) (active : Int) : Int × ConnTable × Int :=
  let h := seg.key.bucket jhash
  match walkChain seg jiffies (t.bucket h) with
  | some b => (0, t.setBucket h b, active)
  | none =>
    if seg.pureSyn then
      if allocOk then (0, t.setBucket h (newConn seg jiffies :: t.bucket h), active + 1)
      else (-enomem, t, active)
    else (-einval, t, active)

/-! ## `nanonet_clear_tcp_connections` -/

/-- The inner `hlist_for_each_entry_safe` loop over one chain: every record
    freed decrements `connections_active` and increments
    `connections_dropped`. -/
def drainChain : List UllTcpConn → Int × Int → Int × Int
  | [], acc => acc
  | _ :: cs, (active, dropped) => drainChain cs (active - 1, dropped + 1)

/-- `nanonet_clear_tcp_connections()`: the emptied table, and
    `connections_active` and `connections_dropped` after the loop over all
    chains. -/
def nanonetClearTcpConnections (t : ConnTable) (active dropped : Int) : ConnTable × Int × Int :=
  let counters := t.buckets.foldl (fun acc b => drainChain b acc) (active, dropped)
  (ConnTable.empty, counters.1, counters.2)

end NanoNet
