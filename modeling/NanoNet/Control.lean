/-
  NanoNet.Control

  control_interface.c: `nanonet_ioctl` on the control device, and the
  module's life as one sequence of control commands and frames.

  `NANONET_IOC_SET_CONFIG` copies the user's `struct ull_config` straight
  into `global_config` and validates it there. The copy is published
  whether or not `nanonet_validate_config` accepts it, and also when
  `copy_from_user` faults part-way (the uncopied tail is zero-filled): the
  return value reports the rejection, but the record stays live, `enabled`
  included. So "the configuration is valid whenever it is enabled" holds
  only over runs in which every `SET_CONFIG` returned 0
  (`sysRun_config_valid`), and the validator itself checks a multicast group
  only for being non-zero and never looks at `application_logic_type`.

  `SET_CONFIG` fails exactly when the copy faults or the validator rejects
  the record (`nanonetIoctl_setConfig_error`), and the record is live either
  way (`failed_set_config_replaces_config`). The fast path changes only
  `seq_num`, by `sizeof(struct trading_order)` per queued response
  (`nanonetHook_seqNum`). Without `RESET_STATS`, `connections_active` is the
  number of live flow records over every run (`sysRun_connectionsActive_eq_size`).
  `RESET_STATS` zeroes it but keeps the records, so a `CLEAR_CONNECTIONS`
  after it drives the gauge negative (`reset_then_clear_drives_active_negative`).

  The user buffer at `arg` is the list of bytes that can be accessed there
  before the first fault. A `bool` field is read as true for any non-zero
  byte; a byte other than 0 or 1 there is undefined behaviour in C, and the
  padding bytes of the record are not kept.
-/
import NanoNet.Filter
import NanoNet.Tracker

namespace NanoNet

/-! ## Command numbers -/

/-- `_IOC(dir, type, nr, size)` of `<asm-generic/ioctl.h>`. -/
def ioc (dir type nr size : Nat) : BitVec 32 :=
  BitVec.ofNat 32 (dir <<< 30 ||| size <<< 16 ||| type <<< 8 ||| nr)

/-- `_IOC_NONE`, `_IOC_WRITE` and `_IOC_READ`. -/
def iocNone : Nat := 0
def iocWrite : Nat := 1
def iocRead : Nat := 2

/-- `NANONET_IOC_MAGIC`, the character `'u'`. -/
def nanonetIocMagic : Nat := 0x75

/-- `sizeof(struct ull_config)` and `sizeof(struct ull_stats)` on x86-64. -/
def ullConfigSize : Nat := 32
def ullStatsSize : Nat := 80

def nanonetIocSetConfig : BitVec 32 := ioc iocWrite nanonetIocMagic 1 ullConfigSize
def nanonetIocGetConfig : BitVec 32 := ioc iocRead nanonetIocMagic 2 ullConfigSize
def nanonetIocGetStats : BitVec 32 := ioc iocRead nanonetIocMagic 3 ullStatsSize
def nanonetIocResetStats : BitVec 32 := ioc iocNone nanonetIocMagic 4 0
def nanonetIocClearConnections : BitVec 32 := ioc iocNone nanonetIocMagic 5 0

example : [nanonetIocSetConfig, nanonetIocGetConfig, nanonetIocGetStats, nanonetIocResetStats,
    nanonetIocClearConnections] = [0x40207501, 0x80207502, 0x80507503, 0x7504, 0x7505] := by
  decide

/-! ## The records as bytes -/

/-- A `bool` as stored. -/
def boolByte (b : Bool) : Byte := if b then 1 else 0

/-- The image of `struct ull_config`: every field at its natural alignment,
    the padding zero. -/
def UllConfig.toBytes (c : UllConfig) : List Byte :=
  [boolByte c.enabled, 0, 0, 0] ++ le32 c.targetIp ++ le16 c.targetPort ++ [c.protocol, 0] ++
    le32 c.responseIp ++ le16 c.responsePort ++ [0, 0] ++ le32 c.seqNum ++
    [c.applicationLogicType, boolByte c.multicast, 0, 0] ++ le32 c.multicastGroup

/-- The image of `struct ull_stats`: ten 64-bit fields. -/
def UllStats.toBytes (st : UllStats) : List Byte :=
  le64 (BitVec.ofInt 64 st.packetsProcessed) ++ le64 (BitVec.ofInt 64 st.packetsBypassed) ++
    le64 (BitVec.ofInt 64 st.responsesSent) ++ le64 (BitVec.ofInt 64 st.errors) ++
    le64 st.lastProcessTimeNs ++ le64 st.minProcessTimeNs ++ le64 st.maxProcessTimeNs ++
    le64 st.avgProcessTimeNs ++ le64 (BitVec.ofInt 64 st.connectionsActive) ++
    le64 (BitVec.ofInt 64 st.connectionsDropped)

@[simp] theorem UllConfig.length_toBytes (c : UllConfig) : c.toBytes.length = ullConfigSize := by
  simp [UllConfig.toBytes, ullConfigSize]
@[simp] theorem UllStats.length_toBytes (st : UllStats) : st.toBytes.length = ullStatsSize := by
  simp [UllStats.toBytes, ullStatsSize]

/-- A `u16` load at `off` of a byte buffer. -/
def getLe16 (bs : List Byte) (off : Nat) : BitVec 16 := bs.getD (off + 1) 0 ++ bs.getD off 0

/-- A `u32` load at `off` of a byte buffer. -/
def getLe32 (bs : List Byte) (off : Nat) : BitVec 32 := getLe16 bs (off + 2) ++ getLe16 bs off

/-- The record the fields of `global_config` read from its bytes. -/
def UllConfig.ofBytes (bs : List Byte) : UllConfig where
  enabled := bs.getD 0 0 != 0
  targetIp := getLe32 bs 4
  targetPort := getLe16 bs 8
  protocol := bs.getD 10 0
  responseIp := getLe32 bs 12
  responsePort := getLe16 bs 16
  seqNum := getLe32 bs 20
  applicationLogicType := bs.getD 24 0
  multicast := bs.getD 25 0 != 0
  multicastGroup := getLe32 bs 28

/-- A `u32` load of the two halves a `u32` store wrote gives the value back. -/
theorem load_le32 (x : BitVec 32) : x.extractLsb' 16 16 ++ x.extractLsb' 0 16 = x := by
  apply BitVec.eq_of_toNat_eq
  rw [BitVec.toNat_append, Nat.shiftLeft_eq, Nat.mul_comm, ← Nat.mul_add_lt_is_or (BitVec.isLt _)]
  simp only [BitVec.extractLsb'_toNat, Nat.shiftRight_eq_div_pow]
  have := x.isLt
  omega

theorem boolByte_ne_zero (b : Bool) : (boolByte b != 0#8) = b := by cases b <;> rfl

/-- Reading the fields back from a record's image gives the record. -/
theorem UllConfig.ofBytes_toBytes (c : UllConfig) : UllConfig.ofBytes c.toBytes = c := by
  cases c
  simp only [UllConfig.ofBytes, UllConfig.toBytes, BitVec.ofNat_eq_ofNat, le32, le16, getLe32,
    getLe16, List.cons_append, List.nil_append, List.getD_eq_getElem?_getD,
    List.getElem?_cons_succ, List.getElem?_cons_zero, Option.getD_some, boolByte_ne_zero,
    load_le16, load_le32]

/-! ## User copies -/

/-- `copy_from_user(to, from, n)` from a user buffer: the `n` bytes written
    to `to`, zero-filled past a fault, and the number of bytes not copied. -/
def copyFromUser (user : List Byte) (n : Nat) : List Byte × Nat :=
  (user.take n ++ List.replicate (n - user.length) 0, n - user.length)

/-- `copy_to_user(to, from, n)` of the bytes `src` into a user buffer: the
    buffer after the copy, and the number of bytes not copied. -/
def copyToUser (user : List Byte) (src : List Byte) : List Byte × Nat :=
  (src.take user.length ++ user.drop src.length, src.length - user.length)

/-! ## `nanonet_ioctl` -/

/-- What `nanonet_ioctl` returns and changes: its result, the module's
    globals, and the user buffer at `arg`. -/
structure IoctlOut where
  ret : Int
  state : NanoNetState
  user : List Byte

/-- `nanonet_ioctl(file, cmd, arg)`, with the user buffer at `arg`. -/
def nanonetIoctl (s : NanoNetState) (cmd : BitVec 32) (user : List Byte) : IoctlOut :=
  if cmd = nanonetIocSetConfig then
    let (bytes, left) := copyFromUser user ullConfigSize
    let s := { s with config := UllConfig.ofBytes bytes }
    if left ≠ 0 then ⟨-efault, s, user⟩
    else ⟨nanonetValidateConfig s.config, s, user⟩
  else if cmd = nanonetIocGetConfig then
    let (user, left) := copyToUser user s.config.toBytes
    ⟨if left ≠ 0 then -efault else 0, s, user⟩
  else if cmd = nanonetIocGetStats then
    let (user, left) := copyToUser user s.stats.toBytes
    ⟨if left ≠ 0 then -efault else 0, s, user⟩
  else if cmd = nanonetIocResetStats then ⟨0, { s with stats := resetStats }, user⟩
  else if cmd = nanonetIocClearConnections then
    let (conns, active, dropped) :=
      nanonetClearTcpConnections s.conns s.stats.connectionsActive s.stats.connectionsDropped
    ⟨0, { s with
      conns
      stats := { s.stats with connectionsActive := active, connectionsDropped := dropped } }, user⟩
  else ⟨-enotty, s, user⟩

/-- `SET_CONFIG` publishes the record it copied, whatever it returns: `-EFAULT`
    when the buffer is shorter than the record, and the validator's answer
    otherwise. -/
theorem nanonetIoctl_setConfig (s : NanoNetState) (user : List Byte) :
    nanonetIoctl s nanonetIocSetConfig user =
      ⟨if user.length < ullConfigSize then -efault
        else nanonetValidateConfig (UllConfig.ofBytes (copyFromUser user ullConfigSize).1),
       { s with config := UllConfig.ofBytes (copyFromUser user ullConfigSize).1 }, user⟩ := by
  simp only [nanonetIoctl, if_true, copyFromUser]
  by_cases h : user.length < ullConfigSize
  · rw [if_pos (by omega), if_pos h]
  · rw [if_neg (by omega), if_neg h]

/-- A `SET_CONFIG` with a record's image installs that record. -/
theorem nanonetIoctl_setConfig_toBytes (s : NanoNetState) (c : UllConfig) :
    nanonetIoctl s nanonetIocSetConfig c.toBytes = ⟨nanonetValidateConfig c, { s with config := c }, c.toBytes⟩ := by
  have hb : (copyFromUser c.toBytes ullConfigSize).1 = c.toBytes := by
    simp [copyFromUser]
  rw [nanonetIoctl_setConfig, hb, UllConfig.ofBytes_toBytes, if_neg (by simp)]

/-- Every other command leaves the configuration as it was. -/
theorem nanonetIoctl_config_of_ne {s : NanoNetState} {cmd : BitVec 32} (user : List Byte)
    (h : cmd ≠ nanonetIocSetConfig) : (nanonetIoctl s cmd user).state.config = s.config := by
  simp only [nanonetIoctl, if_neg h]
  repeat' split
  all_goals rfl

/-- No command touches the response pool. -/
theorem nanonetIoctl_pool (s : NanoNetState) (cmd : BitVec 32) (user : List Byte) :
    (nanonetIoctl s cmd user).state.pool = s.pool := by
  unfold nanonetIoctl
  repeat' split
  all_goals rfl

/-! ## What a failed `SET_CONFIG` leaves -/

/-- `SET_CONFIG` fails exactly when the copy faults or the validator rejects
    the copied record, and it publishes that record in every case. -/
theorem nanonetIoctl_setConfig_error (s : NanoNetState) (user : List Byte) :
    let o := nanonetIoctl s nanonetIocSetConfig user
    let c := UllConfig.ofBytes (copyFromUser user ullConfigSize).1
    (o.ret ≠ 0 ↔ user.length < ullConfigSize ∨ nanonetValidateConfig c ≠ 0) ∧
      o.state = { s with config := c } := by
  rw [nanonetIoctl_setConfig]
  refine ⟨?_, rfl⟩
  split_ifs with h
  · exact iff_of_true (by simp [efault]) (.inl h)
  · simp [h]

/-- From the UDP endpoint, a `SET_CONFIG` of the same record with target port
    0 returns `-EINVAL` and publishes that port; one whose buffer faults after
    12 bytes returns `-EFAULT` and publishes the endpoint's first four fields
    with the response address and port zeroed. -/
theorem failed_set_config_replaces_config :
    let s : NanoNetState := { NanoNetState.init with config := udpEndpoint }
    let bad : IoctlOut :=
      nanonetIoctl s nanonetIocSetConfig (UllConfig.toBytes { udpEndpoint with targetPort := 0 })
    let short : IoctlOut := nanonetIoctl s nanonetIocSetConfig (udpEndpoint.toBytes.take 12)
    (bad.ret = -einval ∧ bad.state.config = { udpEndpoint with targetPort := 0 }) ∧
      (short.ret = -efault ∧ short.state.config = { udpEndpoint with responseIp := 0, responsePort := 0 }) := by
  decide

/-! ## What the validator accepts -/

/-- The fields `nanonet_validate_config` checks: addresses and ports non-zero,
    protocol TCP or UDP, and a non-zero group when multicast is set. -/
def UllConfig.Valid (c : UllConfig) : Prop :=
  c.targetIp ≠ 0 ∧ c.responseIp ≠ 0 ∧ c.targetPort ≠ 0 ∧ c.responsePort ≠ 0 ∧
    (c.protocol = ipprotoTcp ∨ c.protocol = ipprotoUdp) ∧ (c.multicast = true → c.multicastGroup ≠ 0)

instance (c : UllConfig) : Decidable c.Valid := inferInstanceAs (Decidable (_ ∧ _))

theorem nanonetValidateConfig_eq_zero_iff (c : UllConfig) :
    nanonetValidateConfig c = 0 ↔ c.Valid := by
  have he : -einval ≠ 0 := by decide
  unfold nanonetValidateConfig UllConfig.Valid
  split_ifs with h1 h2 h3
  · refine iff_of_false he fun ⟨a, b, c, d, _⟩ => ?_
    rcases h1 with h | h | h | h <;> contradiction
  · exact iff_of_false he fun ⟨_, _, _, _, h, _⟩ => h.elim h2.1 h2.2
  · exact iff_of_false he fun ⟨_, _, _, _, _, h⟩ => h h3.1 h3.2
  · push_neg at h1 h2 h3
    exact iff_of_true rfl ⟨h1.1, h1.2.1, h1.2.2.1, h1.2.2.2, or_iff_not_imp_left.2 h2, h3⟩

/-- The configuration invariant: valid whenever enabled. -/
def UllConfig.ValidIfEnabled (c : UllConfig) : Prop := c.enabled = true → c.Valid

instance (c : UllConfig) : Decidable c.ValidIfEnabled := inferInstanceAs (Decidable (_ → _))

/-! ## The fast path and the configuration -/

/-- A run of `nanonet_hook` changes no field of the configuration but
    `seq_num`. -/
theorem nanonetHook_config (jhash : JHash) (s : NanoNetState) (env : HookEnv) (skb : SkBuff) :
    { (nanonetHook jhash s env skb).val.state.config with seqNum := s.config.seqNum } = s.config := by
  rcases nanonetHook_cases jhash s env skb with ⟨e, conns, active, -, h, -⟩ | ⟨conns, active, ip, p, h, -⟩
  · rw [h]
  · rw [h, hookFinish_config]
    exact nanonetProcessApplicationLogic_config ..

/-- A run of `nanonet_hook` changes only `seq_num` in the configuration, and
    advances it by `response_len`, which is `sizeof(struct trading_order)`,
    modulo 2^32, exactly when `dev_queue_xmit` queued its response. -/
theorem nanonetHook_seqNum (jhash : JHash) (s : NanoNetState) (env : HookEnv) (skb : SkBuff) :
    (nanonetHook jhash s env skb).val.state.config =
      { s.config with seqNum := s.config.seqNum +
        if (nanonetHook jhash s env skb).val.xmit.any Xmit.ok then
          BitVec.ofNat 32 tradingOrderLen else 0 } := by
  rcases nanonetHook_cases jhash s env skb with ⟨e, conns, active, -, h, -⟩ | ⟨conns, active, ip, p, h, -⟩
  · simp [h]
  · rw [h, hookFinish_config, hookFinish_xmit]
    exact nanonetProcessApplicationLogic_seqNum ..

theorem nanonetHook_validIfEnabled (jhash : JHash) (s : NanoNetState) (env : HookEnv)
    (skb : SkBuff) (hs : s.config.ValidIfEnabled) :
    (nanonetHook jhash s env skb).val.state.config.ValidIfEnabled := by
  have h := nanonetHook_config jhash s env skb
  rw [← h] at hs
  exact hs

/-! ## The module's life -/

/-- One event after `nanonet_init`: an `ioctl` on the control device with the
    user buffer at `arg`, or a frame through the hook with the kernel's
    answers for its run. -/
inductive SysEvent
  | ioctl (cmd : BitVec 32) (user : List Byte)
  | frame (skb : SkBuff) (env : HookEnv)

/-- What an event returned: the `ioctl`'s result, or the hook's exit. -/
inductive SysResult
  | ioctl (cmd : BitVec 32) (ret : Int)
  | frame (exit : HookExit)
  deriving DecidableEq, Repr

/-- A `SET_CONFIG` that returned an error. -/
def SysResult.failedSetConfig : SysResult → Bool
  | .ioctl cmd ret => cmd = nanonetIocSetConfig && ret ≠ 0
  | .frame _ => false

def sysStep (jhash : JHash) (s : NanoNetState) : SysEvent → SysResult × NanoNetState
  | .ioctl cmd user => let o := nanonetIoctl s cmd user; (.ioctl cmd o.ret, o.state)
  | .frame skb env => let o := (nanonetHook jhash s env skb).val; (.frame o.exit, o.state)

/-- The results of a sequence of events, in order, and the final globals. -/
def sysRun (jhash : JHash) : NanoNetState → List SysEvent → List SysResult × NanoNetState
  | s, [] => ([], s)
  | s, e :: es =>
    let r := sysStep jhash s e
    let rs := sysRun jhash r.2 es
    (r.1 :: rs.1, rs.2)

/-- One event keeps the invariant unless it is a `SET_CONFIG` that failed. -/
theorem sysStep_validIfEnabled (jhash : JHash) (s : NanoNetState) (e : SysEvent)
    (hs : s.config.ValidIfEnabled) (hr : (sysStep jhash s e).1.failedSetConfig = false) :
    (sysStep jhash s e).2.config.ValidIfEnabled := by
  cases e with
  | frame skb env => exact nanonetHook_validIfEnabled jhash s env skb hs
  | ioctl cmd user =>
    by_cases hc : cmd = nanonetIocSetConfig
    · subst hc
      have h0 : (nanonetIoctl s nanonetIocSetConfig user).ret = 0 := by
        simpa [sysStep, SysResult.failedSetConfig] using hr
      rw [nanonetIoctl_setConfig] at h0
      simp only [sysStep, nanonetIoctl_setConfig]
      split_ifs at h0 with hl
      · simp [efault] at h0
      · exact fun _ => (nanonetValidateConfig_eq_zero_iff _).1 h0
    · simp only [sysStep, nanonetIoctl_config_of_ne user hc]
      exact hs

/-- Over any run of commands and frames from a state whose configuration is
    valid when enabled, in which every `NANONET_IOC_SET_CONFIG` returned 0,
    the configuration stays valid when enabled: target and response
    addresses and ports non-zero, protocol TCP or UDP, and a non-zero group
    when multicast is set. -/
theorem sysRun_config_valid (jhash : JHash) (s : NanoNetState) (es : List SysEvent)
    (hs : s.config.ValidIfEnabled)
    (hr : ∀ r ∈ (sysRun jhash s es).1, r.failedSetConfig = false) :
    let c := (sysRun jhash s es).2.config
    c.enabled = true → c.targetIp ≠ 0 ∧ c.responseIp ≠ 0 ∧ c.targetPort ≠ 0 ∧
      c.responsePort ≠ 0 ∧ (c.protocol = ipprotoTcp ∨ c.protocol = ipprotoUdp) ∧
      (c.multicast = true → c.multicastGroup ≠ 0) := by
  induction es generalizing s with
  | nil => exact hs
  | cons e es ih =>
    simp only [sysRun, List.mem_cons, forall_eq_or_imp] at hr ⊢
    exact ih _ (sysStep_validIfEnabled jhash s e hs hr.1) hr.2

/-- The UDP endpoint configured, then the market frame. -/
theorem sysRun_config_valid_market :
    NanoNetState.init.config.ValidIfEnabled ∧
    (∀ r ∈ (sysRun (fun _ _ _ _ => 0) NanoNetState.init
      [.ioctl nanonetIocSetConfig udpEndpoint.toBytes, .frame ⟨marketFrame, fun _ => 0, true⟩ okEnv]).1,
        r.failedSetConfig = false) ∧
    let c := (sysRun (fun _ _ _ _ => 0) NanoNetState.init
      [.ioctl nanonetIocSetConfig udpEndpoint.toBytes, .frame ⟨marketFrame, fun _ => 0, true⟩ okEnv]).2.config
    c.enabled = true → c.targetIp ≠ 0 ∧ c.responseIp ≠ 0 ∧ c.targetPort ≠ 0 ∧
      c.responsePort ≠ 0 ∧ (c.protocol = ipprotoTcp ∨ c.protocol = ipprotoUdp) ∧
      (c.multicast = true → c.multicastGroup ≠ 0) :=
  ⟨by decide, by decide, sysRun_config_valid _ _ _ (by decide) (by decide)⟩

/-- The results and final globals of one run after another. -/
theorem sysRun_append (jhash : JHash) (s : NanoNetState) (es1 es2 : List SysEvent) :
    sysRun jhash s (es1 ++ es2) =
      ((sysRun jhash s es1).1 ++ (sysRun jhash (sysRun jhash s es1).2 es2).1,
        (sysRun jhash (sysRun jhash s es1).2 es2).2) := by
  induction es1 generalizing s with
  | nil => rfl
  | cons e es ih => simp [sysRun, ih]

/-! ## The flow gauge -/

/-- A TCP SYN from 10.0.0.2:1000 to 10.0.0.1:8080, sequence number 1, in a
    54-byte frame whose IP header sums to 0xFFFF (identification 0x26CE). -/
def synFrame : List Byte :=
  [0x02, 0x00, 0x00, 0x00, 0x00, 0x01, 0x02, 0x00, 0x00, 0x00, 0x00, 0x02, 0x08, 0x00,
   0x45, 0x00, 0x00, 0x28, 0x26, 0xCE, 0x40, 0x00, 0x40, 0x06, 0x00, 0x00,
   0x0A, 0x00, 0x00, 0x02, 0x0A, 0x00, 0x00, 0x01,
   0x03, 0xE8, 0x1F, 0x90, 0x00, 0x00, 0x00, 0x01, 0x00, 0x00, 0x00, 0x00,
   0x50, 0x02, 0xFF, 0xFF, 0x00, 0x00, 0x00, 0x00]

/-- The flow gauge agrees with the table: every record in its chain, no two
    records sharing a 4-tuple, and `connections_active` the number of
    records. -/
def NanoNetState.GaugeInv (jhash : JHash) (s : NanoNetState) : Prop :=
  s.conns.WF jhash ∧ s.stats.connectionsActive = s.conns.size

/-- What the filters leave of a state whose gauge agrees with its table
    agrees as well: the tracker keeps them in step. -/
theorem TrackedFrom.gaugeInv {jhash : JHash} {env : HookEnv} {s : NanoNetState} {conns : ConnTable}
    {active : Int} (h : TrackedFrom jhash env s conns active) (hs : s.GaugeInv jhash) :
    conns.WF jhash ∧ active = conns.size := by
  rcases h with ⟨rfl, rfl⟩ | ⟨seg, r, hr⟩
  · exact hs
  · have := connStep_inv jhash 0 ⟨s.conns, s.stats.connectionsActive, 0⟩
      (.track seg env.connAllocOk env.jiffies) ⟨hs.1, by simpa using hs.2⟩
    simp only [connStep, hr, ConnState.Inv, sub_zero] at this
    exact this

theorem hookFinish_conns (s : NanoNetState) (env : HookEnv) (skb : SkBuff) (ip : Nat)
    (p : ParsedPacket) :
    (hookFinish s env skb ip p).val.state.conns = s.conns ∧
      (hookFinish s env skb ip p).val.state.stats.connectionsActive = s.stats.connectionsActive := by
  refine ⟨rfl, ?_⟩
  dsimp only [hookFinish, Reads.val_bind, Reads.val_pure, UllStats.recordTime]
  split_ifs <;> rfl

theorem nanonetHook_gaugeInv (jhash : JHash) (s : NanoNetState) (env : HookEnv) (skb : SkBuff)
    (hs : s.GaugeInv jhash) : (nanonetHook jhash s env skb).val.state.GaugeInv jhash := by
  rcases nanonetHook_cases jhash s env skb with
    ⟨e, conns, active, -, hv, ht⟩ | ⟨conns, active, ip, p, hv, ht⟩ <;>
    obtain ⟨hwf, ha⟩ := ht.gaugeInv hs <;> rw [hv]
  · exact ⟨hwf, by rw [← ha]; cases e <;> rfl⟩
  · obtain ⟨h1, h2⟩ := hookFinish_conns
      { s with conns := conns, stats := { s.stats with connectionsActive := active } } env skb ip p
    exact ⟨h1 ▸ hwf, by rw [h1, h2]; exact ha⟩

/-- Every command but `RESET_STATS` keeps the gauge in step with the table:
    `CLEAR_CONNECTIONS` empties both. -/
theorem nanonetIoctl_gaugeInv {jhash : JHash} {s : NanoNetState} {cmd : BitVec 32} (user : List Byte)
    (hc : cmd ≠ nanonetIocResetStats) (hs : s.GaugeInv jhash) :
    (nanonetIoctl s cmd user).state.GaugeInv jhash := by
  by_cases h1 : cmd = nanonetIocSetConfig
  · subst h1
    rw [nanonetIoctl_setConfig]
    exact hs
  simp only [nanonetIoctl, if_neg h1]
  split_ifs <;> first
    | exact hs
    | exact absurd ‹cmd = nanonetIocResetStats› hc
    | simp only [nanonetClearTcpConnections_eq]
      exact ⟨ConnTable.wf_empty jhash, by simp [hs.2]⟩

/-- Over any run of commands and frames from `nanonet_init` with no
    `RESET_STATS`, every flow record sits in its chain, no two records share
    a 4-tuple, and `connections_active` is the number of live records, so it
    is never negative; the 64-bit value the `atomic64_t` holds is that
    number modulo 2^64. -/
theorem sysRun_connectionsActive_eq_size (jhash : JHash) (es : List SysEvent)
    (hr : ∀ cmd user, SysEvent.ioctl cmd user ∈ es → cmd ≠ nanonetIocResetStats) :
    let s := (sysRun jhash NanoNetState.init es).2
    s.conns.WF jhash ∧ s.stats.connectionsActive = s.conns.size ∧ 0 ≤ s.stats.connectionsActive ∧
      atomic64 s.stats.connectionsActive = BitVec.ofNat 64 s.conns.size := by
  suffices h : ∀ s : NanoNetState, s.GaugeInv jhash → (sysRun jhash s es).2.GaugeInv jhash by
    obtain ⟨hwf, ha⟩ := h NanoNetState.init
      ⟨ConnTable.wf_empty jhash, by simp [NanoNetState.init, globalStatsInit]⟩
    exact ⟨hwf, ha, by omega, by rw [ha, atomic64_natCast]⟩
  induction es with
  | nil => exact fun _ hs => hs
  | cons e es ih =>
    simp only [List.mem_cons] at hr
    intro s hs
    apply ih fun cmd user h => hr cmd user (.inr h)
    cases e with
    | frame skb env => exact nanonetHook_gaugeInv jhash s env skb hs
    | ioctl cmd user => exact nanonetIoctl_gaugeInv user (hr cmd user (.inl rfl)) hs

/-- The TCP endpoint configured, a SYN, and a clear of the connections. -/
theorem sysRun_connectionsActive_syn_clear :
    let es : List SysEvent := [.ioctl nanonetIocSetConfig tcpEndpoint.toBytes,
      .frame ⟨synFrame, fun _ => 0, true⟩ okEnv, .ioctl nanonetIocClearConnections []]
    (∀ cmd user, SysEvent.ioctl cmd user ∈ es → cmd ≠ nanonetIocResetStats) ∧
    let s := (sysRun (fun _ _ _ _ => 0) NanoNetState.init es).2
    s.conns.WF (fun _ _ _ _ => 0) ∧ s.stats.connectionsActive = s.conns.size ∧
      0 ≤ s.stats.connectionsActive ∧ atomic64 s.stats.connectionsActive = BitVec.ofNat 64 s.conns.size := by
  have hr : ∀ cmd user, SysEvent.ioctl cmd user ∈ [SysEvent.ioctl nanonetIocSetConfig tcpEndpoint.toBytes,
      .frame ⟨synFrame, fun _ => 0, true⟩ okEnv, .ioctl nanonetIocClearConnections []] →
      cmd ≠ nanonetIocResetStats := by
    intro cmd user h
    simp only [List.mem_cons, SysEvent.ioctl.injEq, List.mem_singleton, reduceCtorEq, false_or,
      List.not_mem_nil, or_false] at h
    rcases h with ⟨rfl, -⟩ | ⟨rfl, -⟩ <;> decide
  exact ⟨hr, sysRun_connectionsActive_eq_size _ _ hr⟩

/-! ## The flow gauge across a statistics reset -/

/-- `RESET_STATS` zeroes `connections_active` and keeps the table, so a
    `CLEAR_CONNECTIONS` right after it drives the gauge to minus the number
    of records. -/
theorem sysRun_reset_clear_active (jhash : JHash) (s : NanoNetState) (u1 u2 : List Byte) :
    (sysRun jhash s [.ioctl nanonetIocResetStats u1, .ioctl nanonetIocClearConnections u2]).2.stats.connectionsActive =
      -(s.conns.size : Int) := by
  have h1 : nanonetIocResetStats ≠ nanonetIocSetConfig ∧ nanonetIocResetStats ≠ nanonetIocGetConfig ∧
      nanonetIocResetStats ≠ nanonetIocGetStats := by decide
  have h2 : nanonetIocClearConnections ≠ nanonetIocSetConfig ∧
      nanonetIocClearConnections ≠ nanonetIocGetConfig ∧ nanonetIocClearConnections ≠ nanonetIocGetStats ∧
      nanonetIocClearConnections ≠ nanonetIocResetStats := by decide
  simp [sysRun, sysStep, nanonetIoctl, h1, h2, nanonetClearTcpConnections_eq, resetStats]

/-- After `nanonet_init`: configure the TCP endpoint, receive a SYN (one flow
    record, `connections_active` 1), reset the statistics, and clear the
    connections. Every call succeeds, and `connections_active` ends at -1. -/
theorem reset_then_clear_drives_active_negative :
    let run : List SysResult × NanoNetState := sysRun (fun _ _ _ _ => 0) NanoNetState.init
      [.ioctl nanonetIocSetConfig tcpEndpoint.toBytes, .frame ⟨synFrame, fun _ => 0, true⟩ okEnv,
       .ioctl nanonetIocResetStats [], .ioctl nanonetIocClearConnections []]
    run.1 = [.ioctl nanonetIocSetConfig 0, .frame (.processed 0), .ioctl nanonetIocResetStats 0,
      .ioctl nanonetIocClearConnections 0] ∧ run.2.stats.connectionsActive = -1 := by
  refine ⟨by decide, ?_⟩
  rw [show [SysEvent.ioctl nanonetIocSetConfig tcpEndpoint.toBytes, .frame ⟨synFrame, fun _ => 0, true⟩ okEnv,
      .ioctl nanonetIocResetStats [], .ioctl nanonetIocClearConnections []] =
      [SysEvent.ioctl nanonetIocSetConfig tcpEndpoint.toBytes, .frame ⟨synFrame, fun _ => 0, true⟩ okEnv] ++
      [.ioctl nanonetIocResetStats [], .ioctl nanonetIocClearConnections []] from rfl,
    sysRun_append, sysRun_reset_clear_active]
  have hconns : (sysRun (fun _ _ _ _ => 0) NanoNetState.init
      [.ioctl nanonetIocSetConfig tcpEndpoint.toBytes, .frame ⟨synFrame, fun _ => 0, true⟩ okEnv]).2.conns =
      ConnTable.empty.setBucket 0 [newConn ⟨0x0200000A, 0x0100000A, 0xE803, 0x901F, 0x01000000, 0, true, false⟩ 0] :=
    rfl
  rw [hconns, ConnTable.size, ConnTable.records_setBucket_of_records_eq (by decide) (by simp)]
  rfl

/-! ## A rejected configuration stays live -/

/-- After `nanonet_init`, a `SET_CONFIG` of the record with `enabled` set
    and every other field zero is rejected with `-EINVAL` and left live and
    enabled; and a `SET_CONFIG` of the UDP endpoint with multicast group
    4.3.2.1 (outside 224.0.0.0/4) and application-logic type 7 (no handler)
    is accepted. -/
theorem rejected_config_stays_live :
    let bad : List SysResult × NanoNetState := sysRun (fun _ _ _ _ => 0) NanoNetState.init
      [.ioctl nanonetIocSetConfig (UllConfig.toBytes { globalConfigInit with enabled := true })]
    let odd : List SysResult × NanoNetState := sysRun (fun _ _ _ _ => 0) NanoNetState.init
      [.ioctl nanonetIocSetConfig (UllConfig.toBytes
        { udpEndpoint with multicast := true, multicastGroup := 0x01020304, applicationLogicType := 7 })]
    (bad.1 = [.ioctl nanonetIocSetConfig (-einval)] ∧ bad.2.config.enabled = true ∧
      bad.2.config.targetIp = 0 ∧ bad.2.config.responsePort = 0) ∧
    (odd.1 = [.ioctl nanonetIocSetConfig 0] ∧ odd.2.config.enabled = true ∧
      odd.2.config.multicast = true ∧ odd.2.config.multicastGroup.extractLsb' 0 8 = 4 ∧
      odd.2.config.applicationLogicType = 7) := by
  decide

end NanoNet
