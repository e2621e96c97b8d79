/-
  NanoNet.Hook

  `nanonet_hook` (nanonet.c), the netfilter pre-routing hook: the fast
  path run for every ingress frame.

  The state it reads and writes is the module's globals (`NanoNetState`);
  what the kernel answers during one run (clock, rate limiter, `jiffies`,
  allocations, devices, transmit) is `HookEnv`. A run ends at one of the
  hook's return statements, named by `HookExit`; the netfilter verdict is a
  function of it. The exit, the state after the run, the frame handed to
  the device and the trace event are returned together, and every frame
  byte read on the way is logged in the `Reads` footprint.

  The transport filter is the source's `if (protocol == IPPROTO_TCP &&
  tcp_hdr) ... else if (protocol == IPPROTO_UDP && udp_hdr) ...`: a frame
  that passes neither test (its transport protocol is not the configured
  one) falls through to the application logic, as in the source.
-/
import NanoNet.MicroStack
import NanoNet.Security
import NanoNet.Processor

namespace NanoNet

/-- `global_config`, `global_stats`, `connection_hash` and `response_pool`. -/
structure NanoNetState where
  config : UllConfig
  stats : UllStats
  conns : ConnTable
  pool : ResponsePool

/-- The globals once `nanonet_init` has run. -/
def NanoNetState.init : NanoNetState :=
  ⟨globalConfigInit, globalStatsInit, ConnTable.empty, ResponsePool.init⟩

/-- The kernel's answers during one run of `nanonet_hook`. -/
structure HookEnv where
  /-- `get_timestamp_ns()` at `start_time` and at `end_time`. -/
  startTime : BitVec 64
  endTime : BitVec 64
  /-- `__ratelimit(&nanonet_ratelimit)`. -/
  ratelimitOk : Bool
  jiffies : BitVec 64
  /-- `kmalloc` of a flow record succeeds. -/
  connAllocOk : Bool
  app : AppEnv

/-- The return statement a run of `nanonet_hook` ends at. -/
inductive HookExit
  /-- `!global_config.enabled || !skb->dev`. -/
  | disabled
  | parseFailed (err : Int)
  | invalid (err : Int)
  /-- `ip_hdr->daddr` is neither `target_ip` nor the enabled multicast group. -/
  | addrMismatch
  | tcpPortMismatch
  | untracked (err : Int)
  | udpPortMismatch
  /-- The application logic ran and returned `result`. -/
  | processed (result : Int)
  deriving DecidableEq, Repr

/-- The netfilter verdict. -/
inductive Verdict
  | accept
  | stolen
  deriving DecidableEq, Repr

def HookExit.verdict : HookExit → Verdict
  | .processed _ => .stolen
  | _ => .accept

/-- The arguments of `trace_nanonet_packet_processed`. -/
structure TraceEvent where
  srcIp : BitVec 32
  srcPort : BitVec 16
  dstIp : BitVec 32
  dstPort : BitVec 16
  processTimeNs : BitVec 64
  result : Int
  deriving DecidableEq, Repr

/-- What a run of `nanonet_hook` ends with. -/
structure HookOut where
  exit : HookExit
  state : NanoNetState
  xmit : Option Xmit := none
  trace : Option TraceEvent := none

/-! ## Counter updates -/

def UllStats.bypass (st : UllStats) : UllStats := { st with packetsBypassed := st.packetsBypassed + 1 }
def UllStats.error (st : UllStats) : UllStats := { st with errors := st.errors + 1 }

/-- `(avg * (N - 1) + process_time) / N` in `u64`, with the two reads of
    `packets_processed` as `num` and `den`. -/
def avgUpdate (avg dt : BitVec 64) (num den : Int) : BitVec 64 :=
  (avg * BitVec.ofInt 64 (num - 1) + dt) / BitVec.ofInt 64 den

/-- The latency scalars after a processed frame: `last`, `min`, `max` and
    the running mean over `packets_processed` (already incremented). -/
def UllStats.recordTime (st : UllStats) (dt : BitVec 64) : UllStats :=
  { st with
    lastProcessTimeNs := dt
    minProcessTimeNs := if dt < st.minProcessTimeNs then dt else st.minProcessTimeNs
    maxProcessTimeNs := if dt > st.maxProcessTimeNs then dt else st.maxProcessTimeNs
    avgProcessTimeNs :=
      avgUpdate st.avgProcessTimeNs dt st.packetsProcessed st.packetsProcessed }

/-! ## The hook -/

/-- The hook past its filters: the application logic, the counters, the
    latency scalars and the trace event. -/
def hookFinish (s : NanoNetState) (env : HookEnv) (skb : SkBuff) (ip : Nat) (p : ParsedPacket) :
    Reads HookOut := do
  let a ← nanonetProcessApplicationLogic env.app skb p.payload p.payloadLen s.config s.pool
  let st := if a.result < 0 then s.stats.error
    else if a.result > 0 then { s.stats with responsesSent := s.stats.responsesSent + 1 }
    else s.stats
  let dt := env.endTime - env.startTime
  let st := ({ st with packetsProcessed := st.packetsProcessed + 1 } : UllStats).recordTime dt
  let saddr ← skb.load32 (ip + 12)
  let daddr ← skb.load32 (ip + 16)
  let th := (p.tcpHdr <|> p.udpHdr).getD 0
  let sport ← skb.load16 th
  let dport ← skb.load16 (th + 2)
  pure ⟨.processed a.result, { s with config := a.config, stats := st, pool := a.pool }, a.xmit,
    some ⟨saddr, ntohs sport, daddr, ntohs dport, dt, a.result⟩⟩

/-- `nanonet_hook(priv, skb, state)`. -/
def nanonetHook (jhash : JHash) (s : NanoNetState) (env : HookEnv) (skb : SkBuff) :
    Reads HookOut :=
  if !s.config.enabled || !skb.dev then pure ⟨.disabled, { s with stats := s.stats.bypass }, none, none⟩
  else do
  let (r, p) ← ullParsePacket skb
  if r < 0 then pure ⟨.parseFailed r, { s with stats := s.stats.error }, none, none⟩ else do
  let ip := p.ipHdr.getD ethHdrLen
  let v ← nanonetValidatePacket env.ratelimitOk skb ip
  if v < 0 then pure ⟨.invalid v, { s with stats := s.stats.error }, none, none⟩ else do
  let daddr ← skb.load32 (ip + 16)
  if daddr ≠ s.config.targetIp ∧ (!s.config.multicast || daddr ≠ s.config.multicastGroup) then
    pure ⟨.addrMismatch, { s with stats := s.stats.bypass }, none, none⟩
  else
  match (if s.config.protocol = ipprotoTcp then p.tcpHdr else none),
      (if s.config.protocol = ipprotoUdp then p.udpHdr else none) with
  | some th, _ => do
    let dest ← skb.load16 (th + 2)
    if dest ≠ s.config.targetPort then
      pure ⟨.tcpPortMismatch, { s with stats := s.stats.bypass }, none, none⟩
    else do
    let seg ← readTcpSegment skb ip th
    let (r, conns, active) := nanonetTrackTcpConnection jhash env.connAllocOk env.jiffies seg
      s.conns s.stats.connectionsActive
    let s := { s with conns, stats := { s.stats with connectionsActive := active } }
    if r < 0 then pure ⟨.untracked r, { s with stats := s.stats.error }, none, none⟩
    else hookFinish s env skb ip p
  | none, some uh => do
    let dest ← skb.load16 (uh + 2)
    if dest ≠ s.config.targetPort then
      pure ⟨.udpPortMismatch, { s with stats := s.stats.bypass }, none, none⟩
    else hookFinish s env skb ip p
  | none, none => hookFinish s env skb ip p

/-- `nanonet_hook` on a sequence of frames, each with the kernel's answers
    for its run: the exits taken, in order, and the final state. -/
def hookRun (jhash : JHash) : NanoNetState → List (SkBuff × HookEnv) → List HookExit × NanoNetState
  | s, [] => ([], s)
  | s, (skb, env) :: fs =>
    let o := (nanonetHook jhash s env skb).val
    let r := hookRun jhash o.state fs
    (o.exit :: r.1, r.2)

/-! ## The exits -/

/-- The exits before the application logic. -/
def HookExit.early : HookExit → Bool
  | .processed _ => false
  | _ => true

/-- The counter an exit before the application logic increments. -/
def HookExit.bump : HookExit → UllStats → UllStats
  | .parseFailed _, st | .invalid _, st | .untracked _, st => st.error
  | _, st => st.bypass

/-- The table and `connections_active` as the filters leave them: as they
    were, or after one call of the tracker. -/
def TrackedFrom (jhash : JHash) (env : HookEnv) (s : NanoNetState) (conns : ConnTable)
    (active : Int) : Prop :=
  (conns = s.conns ∧ active = s.stats.connectionsActive) ∨
    ∃ seg r, nanonetTrackTcpConnection jhash env.connAllocOk env.jiffies seg s.conns
      s.stats.connectionsActive = (r, conns, active)

/-- What a run of the hook can end with: an early exit that has bumped one
    counter, or the tail of the hook, on what the parser returned, from the
    state the filters left; in both, the tracker may have changed the
    table. -/
theorem nanonetHook_cases_parsed (jhash : JHash) (s : NanoNetState) (env : HookEnv) (skb : SkBuff) :
    (∃ e conns active, e.early ∧
      (nanonetHook jhash s env skb).val =
        ⟨e, { s with conns := conns, stats := e.bump { s.stats with connectionsActive := active } },
          none, none⟩ ∧ TrackedFrom jhash env s conns active) ∨
    (∃ conns active ip p, (nanonetHook jhash s env skb).val =
      (hookFinish { s with conns := conns, stats := { s.stats with connectionsActive := active } }
        env skb ip p).val ∧ TrackedFrom jhash env s conns active ∧
      ¬(ullParsePacket skb).val.1 < 0 ∧ (ullParsePacket skb).val.2 = p) := by
  have hsame : TrackedFrom jhash env s s.conns s.stats.connectionsActive := .inl ⟨rfl, rfl⟩
  unfold nanonetHook
  by_cases h0 : (!s.config.enabled || !skb.dev) = true
  · rw [if_pos h0]; exact .inl ⟨.disabled, s.conns, s.stats.connectionsActive, rfl, rfl, hsame⟩
  rw [if_neg h0]
  dsimp only [Reads.val_bind]
  by_cases h1 : (ullParsePacket skb).val.1 < 0
  · rw [if_pos h1]; exact .inl ⟨.parseFailed _, s.conns, s.stats.connectionsActive, rfl, rfl, hsame⟩
  rw [if_neg h1]
  dsimp only [Reads.val_bind]
  generalize (ullParsePacket skb).val.2 = p
  by_cases h2 : (nanonetValidatePacket env.ratelimitOk skb (p.ipHdr.getD ethHdrLen)).val < 0
  · rw [if_pos h2]; exact .inl ⟨.invalid _, s.conns, s.stats.connectionsActive, rfl, rfl, hsame⟩
  rw [if_neg h2]
  dsimp only [Reads.val_bind]
  generalize (skb.load32 (p.ipHdr.getD ethHdrLen + 16)).val = daddr
  by_cases h3 :
      daddr ≠ s.config.targetIp ∧ (!s.config.multicast || daddr ≠ s.config.multicastGroup) = true
  · rw [if_pos h3]; exact .inl ⟨.addrMismatch, s.conns, s.stats.connectionsActive, rfl, rfl, hsame⟩
  rw [if_neg h3]
  generalize (if s.config.protocol = ipprotoTcp then p.tcpHdr else none) = tsel
  generalize (if s.config.protocol = ipprotoUdp then p.udpHdr else none) = usel
  rcases tsel with _ | th
  · rcases usel with _ | uh
    · exact .inr ⟨s.conns, s.stats.connectionsActive, _, _, rfl, hsame, h1, rfl⟩
    dsimp only [Reads.val_bind]
    by_cases h4 : (skb.load16 (uh + 2)).val ≠ s.config.targetPort
    · rw [if_pos h4]; exact .inl ⟨.udpPortMismatch, s.conns, s.stats.connectionsActive, rfl, rfl, hsame⟩
    · rw [if_neg h4]; exact .inr ⟨s.conns, s.stats.connectionsActive, _, _, rfl, hsame, h1, rfl⟩
  dsimp only [Reads.val_bind]
  by_cases h4 : (skb.load16 (th + 2)).val ≠ s.config.targetPort
  · rw [if_pos h4]; exact .inl ⟨.tcpPortMismatch, s.conns, s.stats.connectionsActive, rfl, rfl, hsame⟩
  rw [if_neg h4]
  dsimp only [Reads.val_bind]
  generalize hres : nanonetTrackTcpConnection _ _ _ _ _ _ = res
  obtain ⟨r, conns, active⟩ := res
  have htr : TrackedFrom jhash env s conns active := .inr ⟨_, r, hres⟩
  by_cases h5 : r < 0
  · rw [if_pos h5]; exact .inl ⟨.untracked r, conns, active, rfl, rfl, htr⟩
  · rw [if_neg h5]; exact .inr ⟨conns, active, _, _, rfl, htr, h1, rfl⟩

/-- What a run of the hook can end with: an early exit that has bumped one
    counter, or the tail of the hook from the state the filters left; in
    both, the tracker may have changed the table. -/
theorem nanonetHook_cases (jhash : JHash) (s : NanoNetState) (env : HookEnv) (skb : SkBuff) :
    (∃ e conns active, e.early ∧
      (nanonetHook jhash s env skb).val =
        ⟨e, { s with conns := conns, stats := e.bump { s.stats with connectionsActive := active } },
          none, none⟩ ∧ TrackedFrom jhash env s conns active) ∨
    (∃ conns active ip p, (nanonetHook jhash s env skb).val =
      (hookFinish { s with conns := conns, stats := { s.stats with connectionsActive := active } }
        env skb ip p).val ∧ TrackedFrom jhash env s conns active) := by
  rcases nanonetHook_cases_parsed jhash s env skb with h | ⟨conns, active, ip, p, h, ht, -⟩
  exacts [.inl h, .inr ⟨conns, active, ip, p, h, ht⟩]

section Finish

variable (s : NanoNetState) (env : HookEnv) (skb : SkBuff) (ip : Nat) (p : ParsedPacket)

/-- The application logic's outcome in the hook's tail. -/
abbrev hookApp : AppOut :=
  (nanonetProcessApplicationLogic env.app skb p.payload p.payloadLen s.config s.pool).val

@[simp] theorem hookFinish_exit :
    (hookFinish s env skb ip p).val.exit = .processed (hookApp s env skb p).result := rfl

@[simp] theorem hookFinish_config :
    (hookFinish s env skb ip p).val.state.config = (hookApp s env skb p).config := rfl

@[simp] theorem hookFinish_xmit :
    (hookFinish s env skb ip p).val.xmit = (hookApp s env skb p).xmit := rfl

@[simp] theorem hookFinish_pool :
    (hookFinish s env skb ip p).val.state.pool = (hookApp s env skb p).pool := rfl

end Finish

/-! ## A market-data exchange -/

/-- A 66-byte UDP frame from 10.0.0.2:5000 to 10.0.0.1:8080 whose payload is
    a market-data record for `AAPL` at price 9999 (bytes `0F 27 00 00`, as
    the host loads them). Its IP header has checksum field 0 and the
    identification 0x26B7, which makes the header's one's-complement sum
    0xFFFF: such headers are the ones `ull_parse_packet` accepts. -/
def marketFrame : List Byte :=
  [0x02, 0x00, 0x00, 0x00, 0x00, 0x01, 0x02, 0x00, 0x00, 0x00, 0x00, 0x02, 0x08, 0x00,
   0x45, 0x00, 0x00, 0x34, 0x26, 0xB7, 0x40, 0x00, 0x40, 0x11, 0x00, 0x00,
   0x0A, 0x00, 0x00, 0x02, 0x0A, 0x00, 0x00, 0x01,
   0x13, 0x88, 0x1F, 0x90, 0x00, 0x20, 0x00, 0x00,
   0x41, 0x41, 0x50, 0x4C, 0x20, 0x20, 0x20, 0x20, 0x0F, 0x27, 0x00, 0x00, 0xE8, 0x03, 0x00, 0x00,
   0x00, 0x00, 0x00, 0x00, 0x00, 0x00, 0x00, 0x00]

/-- The UDP endpoint 10.0.0.1:8080, answering from 10.0.0.1:9999 with the
    market-data handler (addresses and ports as the host loads them). -/
def udpEndpoint : UllConfig where
  enabled := true
  targetIp := 0x0100000A
  targetPort := 0x901F
  protocol := ipprotoUdp
  responseIp := 0x0100000A
  responsePort := 0x0F27
  seqNum := 0
  applicationLogicType := 0
  multicast := false
  multicastGroup := 0

/-- Kernel answers under which every call of the fast path succeeds. -/
def okEnv : HookEnv where
  startTime := 100
  endTime := 150
  ratelimitOk := true
  jiffies := 0
  connAllocOk := true
  app := { orderAllocOk := true, orderTime := 1700000000000000000, heap := fun _ => 0,
           tx := ⟨true, true, true⟩ }

end NanoNet
