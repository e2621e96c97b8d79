/-
  NanoNet.ControlTool

  tools/nanonet_control.c: the user-space control program, run as one
  process against the module's control device.

  The tool declares its own `struct ull_config`: `enabled` and `multicast`
  are `int`, and there is no `seq_num`, so the record is 28 bytes where the
  module's is 32. `_IOW` and `_IOR` encode the record's size in the command
  number, so the tool's `SET_CONFIG` and `GET_CONFIG` are numbers the module
  does not know, and `nanonet_ioctl` answers both with `-ENOTTY`. Its
  `struct ull_stats` has the module's size and layout, and the three
  commands without a record are the module's own. Whatever the arguments
  and the module's state, the tool never changes the configuration, and it
  succeeds exactly on `stats`, `reset` and `clear-connections`
  (`nanonetControl_never_configures`). Its `stats` report is the module's
  statistics, each counter read as a signed 64-bit value
  (`nanonetControl_stats_report`).

  The tool's C library calls are inputs (`ToolEnv`): `inet_aton`, `atoi`,
  and `capable(CAP_NET_ADMIN)` for `nanonet_open`. The user buffer of each
  `ioctl` is the variable the tool passes, its bytes before the call being
  the stack's; memory past it is not modelled, since no command the module
  accepts from the tool copies more than the variable holds. The `config`
  command with exactly six arguments ending in `udp multicast` reads
  `argv[6]`, the terminating null pointer (`ToolOut.nullArg`).
-/
import NanoNet.Control

namespace NanoNet

/-! ## The tool's records -/

/-- `struct ull_config` as nanonet_control.c declares it. -/
structure ToolConfig where
  enabled : BitVec 32
  targetIp : BitVec 32
  targetPort : BitVec 16
  protocol : Byte
  responseIp : BitVec 32
  responsePort : BitVec 16
  applicationLogicType : Byte
  multicast : BitVec 32
  multicastGroup : BitVec 32
  deriving DecidableEq, Repr

/-- `struct ull_stats` as nanonet_control.c declares it: `long long`
    counters and `uint64_t` times. -/
structure ToolStats where
  packetsProcessed : Int
  packetsBypassed : Int
  responsesSent : Int
  errors : Int
  lastProcessTimeNs : BitVec 64
  minProcessTimeNs : BitVec 64
  maxProcessTimeNs : BitVec 64
  avgProcessTimeNs : BitVec 64
  connectionsActive : Int
  connectionsDropped : Int
  deriving DecidableEq, Repr

/-- `sizeof(struct ull_config)` and `sizeof(struct ull_stats)` in the tool
    on x86-64. -/
def toolConfigSize : Nat := 28
def toolStatsSize : Nat := 80

/-- The image of the tool's `struct ull_config` with zero padding, as the
    `config` command's `memset` leaves it. -/
def ToolConfig.toBytes (c : ToolConfig) : List Byte :=
  le32 c.enabled ++ le32 c.targetIp ++ le16 c.targetPort ++ [c.protocol, 0] ++ le32 c.responseIp ++
    le16 c.responsePort ++ [c.applicationLogicType, 0] ++ le32 c.multicast ++ le32 c.multicastGroup

/-- The tool's fields read from the bytes of its `config` variable. -/
def ToolConfig.ofBytes (bs : List Byte) : ToolConfig where
  enabled := getLe32 bs 0
  targetIp := getLe32 bs 4
  targetPort := getLe16 bs 8
  protocol := bs.getD 10 0
  responseIp := getLe32 bs 12
  responsePort := getLe16 bs 16
  applicationLogicType := bs.getD 18 0
  multicast := getLe32 bs 20
  multicastGroup := getLe32 bs 24

/-- A `u64` load at `off` of a byte buffer. -/
def getLe64 (bs : List Byte) (off : Nat) : BitVec 64 := getLe32 bs (off + 4) ++ getLe32 bs off

/-- The tool's fields read from the bytes of its `stats` variable. -/
def ToolStats.ofBytes (bs : List Byte) : ToolStats where
  packetsProcessed := (getLe64 bs 0).toInt
  packetsBypassed := (getLe64 bs 8).toInt
  responsesSent := (getLe64 bs 16).toInt
  errors := (getLe64 bs 24).toInt
  lastProcessTimeNs := getLe64 bs 32
  minProcessTimeNs := getLe64 bs 40
  maxProcessTimeNs := getLe64 bs 48
  avgProcessTimeNs := getLe64 bs 56
  connectionsActive := (getLe64 bs 64).toInt
  connectionsDropped := (getLe64 bs 72).toInt

/-! ## The tool's command numbers -/

def toolIocSetConfig : BitVec 32 := ioc iocWrite nanonetIocMagic 1 toolConfigSize
def toolIocGetConfig : BitVec 32 := ioc iocRead nanonetIocMagic 2 toolConfigSize
def toolIocGetStats : BitVec 32 := ioc iocRead nanonetIocMagic 3 toolStatsSize
def toolIocResetStats : BitVec 32 := ioc iocNone nanonetIocMagic 4 0
def toolIocClearConnections : BitVec 32 := ioc iocNone nanonetIocMagic 5 0

/-! ## The program -/

/-- The answers the tool gets from the C library and the kernel. -/
structure ToolEnv where
  /-- `capable(CAP_NET_ADMIN)` when `open` reaches `nanonet_open`. -/
  capable : Bool
  /-- `inet_aton(cp, &addr)`: the address in network byte order, or `none`
      when it returns 0. -/
  inetAton : String → Option (BitVec 32)
  /-- `atoi(nptr)`. -/
  atoi : String → Int
  /-- The bytes of the local variables `config` and `stats` before any call
      writes them. -/
  configInit : Nat → Byte
  statsInit : Nat → Byte

/-- How a run of `nanonet_control` ends: what it prints last, and so its
    exit status. -/
inductive ToolOut
  /-- `print_usage`, or the `config` command's usage line. -/
  | usage
  /-- `perror(msg)`, with the `errno` of the call that failed. -/
  | perror (msg : String) (errno : Int)
  /-- A rejected argument, with the line printed. -/
  | invalid (line : String)
  /-- `Unknown command: %s`, then the usage. -/
  | unknown (cmd : String)
  /-- The `status` report: the record and the statistics as the tool reads
      them. -/
  | status (cfg : ToolConfig) (st : ToolStats)
  /-- The `stats` report. -/
  | stats (st : ToolStats)
  /-- A one-line success message. -/
  | done (msg : String)
  /-- `inet_aton(argv[6], ...)` with `argv[6]` the null pointer that ends
      `argv`. -/
  | nullArg
  deriving DecidableEq, Repr

/-- The exit status: 0 after a report or a success message, 1 after an
    error, none when the process dies on the null argument. -/
def ToolOut.exitCode : ToolOut → Option Nat
  | .status .. | .stats _ | .done _ => some 0
  | .nullArg => none
  | _ => some 1

/-- An `ioctl` whose failure the tool reports with `perror(failMsg)`. -/
def toolIoctl (failMsg : String) (s : NanoNetState) (cmd : BitVec 32) (user : List Byte)
    (k : List Byte → NanoNetState → ToolOut × NanoNetState) : ToolOut × NanoNetState :=
  let o := nanonetIoctl s cmd user
  if o.ret < 0 then (.perror failMsg (-o.ret), o.state) else k o.user o.state

/-- The `enable` and `disable` commands: read the record, store `flag` in
    `enabled`, and write the record back. -/
def toolSetEnabled (flag : BitVec 32) (failMsg okMsg : String) (cfgBuf : List Byte)
    (s : NanoNetState) : ToolOut × NanoNetState :=
  toolIoctl "Failed to get configuration" s toolIocGetConfig cfgBuf fun cfgBuf s =>
  toolIoctl failMsg s toolIocSetConfig (le32 flag ++ cfgBuf.drop 4) fun _ s => (.done okMsg, s)

/-- The `config` command: `config <ip> <port> <proto> [multicast <group>]`. -/
def toolConfigure (env : ToolEnv) (argv : List String) (s : NanoNetState) : ToolOut × NanoNetState :=
  let argc := argv.length
  if argc < 5 ∨ (argv.getD 4 "" = "multicast" ∧ argc ≠ 6) then (.usage, s) else
  match env.inetAton (argv.getD 2 "") with
  | none => (.invalid ("Invalid IP address: " ++ argv.getD 2 ""), s)
  | some ip =>
    let port := htons (BitVec.ofInt 16 (env.atoi (argv.getD 3 "")))
    let proto : Option Byte :=
      if argv.getD 4 "" = "tcp" then some 6 else if argv.getD 4 "" = "udp" then some 17 else none
    match proto with
    | none => (.invalid ("Invalid protocol: " ++ argv.getD 4 "" ++ " (use \x27tcp\x27 or \x27udp\x27)"), s)
    | some proto =>
      let c : ToolConfig := ⟨0, ip, port, proto, ip, htons 9999, 0, 0, 0⟩
      let send (c : ToolConfig) : ToolOut × NanoNetState :=
        toolIoctl "Failed to set configuration" s toolIocSetConfig c.toBytes fun _ s =>
          (.done "Configuration updated", s)
      if argc = 6 ∧ argv.getD 4 "" = "udp" ∧ argv.getD 5 "" = "multicast" then
        match argv.get? 6 with
        | none => (.nullArg, s)
        | some g =>
          match env.inetAton g with
          | none => (.invalid ("Invalid multicast group: " ++ g), s)
          | some grp => send { c with multicast := 1, multicastGroup := grp }
      else send c

/-- `main(argc, argv)` of nanonet_control.c against the module in state `s`:
    how the run ends, and the module's globals after it. -/
def nanonetControl (env : ToolEnv) (argv : List String) (s : NanoNetState) : ToolOut × NanoNetState :=
  if argv.length < 2 then (.usage, s) else
  let perm := nanonetCheckPermissions env.capable
  if perm < 0 then (.perror "Failed to open device" (-perm), s) else
  let cfgBuf := (List.range toolConfigSize).map env.configInit
  let stBuf := (List.range toolStatsSize).map env.statsInit
  let cmd := argv.getD 1 ""
  if cmd = "status" then
    toolIoctl "Failed to get configuration" s toolIocGetConfig cfgBuf fun cfgBuf s =>
    toolIoctl "Failed to get statistics" s toolIocGetStats stBuf fun stBuf s =>
      (.status (ToolConfig.ofBytes cfgBuf) (ToolStats.ofBytes stBuf), s)
  else if cmd = "enable" then toolSetEnabled 1 "Failed to enable module" "Module enabled" cfgBuf s
  else if cmd = "disable" then toolSetEnabled 0 "Failed to disable module" "Module disabled" cfgBuf s
  else if cmd = "config" then toolConfigure env argv s
  else if cmd = "stats" then
    toolIoctl "Failed to get statistics" s toolIocGetStats stBuf fun stBuf s =>
      (.stats (ToolStats.ofBytes stBuf), s)
  else if cmd = "reset" then
    toolIoctl "Failed to reset statistics" s toolIocResetStats [] fun _ s => (.done "Statistics reset", s)
  else if cmd = "clear-connections" then
    toolIoctl "Failed to clear connections" s toolIocClearConnections [] fun _ s =>
      (.done "TCP connections cleared", s)
  else (.unknown cmd, s)

/-! ## Against the module -/

/-- A command number the module does not know is refused, with nothing changed. -/
theorem nanonetIoctl_unknown {s : NanoNetState} {cmd : BitVec 32} (user : List Byte)
    (h : cmd ∉ [nanonetIocSetConfig, nanonetIocGetConfig, nanonetIocGetStats, nanonetIocResetStats,
      nanonetIocClearConnections]) :
    nanonetIoctl s cmd user = ⟨-enotty, s, user⟩ := by
  simp only [List.mem_cons, List.mem_singleton, List.not_mem_nil, or_false, not_or] at h
  obtain ⟨h1, h2, h3, h4, h5⟩ := h
  simp only [nanonetIoctl, if_neg h1, if_neg h2, if_neg h3, if_neg h4, if_neg h5]

theorem toolIoctl_refused {msg : String} {s : NanoNetState} {cmd : BitVec 32} {user : List Byte}
    {k : List Byte → NanoNetState → ToolOut × NanoNetState}
    (h : cmd ∉ [nanonetIocSetConfig, nanonetIocGetConfig, nanonetIocGetStats, nanonetIocResetStats,
      nanonetIocClearConnections]) :
    toolIoctl msg s cmd user k = (.perror msg enotty, s) := by
  simp only [toolIoctl, nanonetIoctl_unknown user h, neg_neg, enotty]
  rfl

/-- The tool's record commands carry a 28-byte size; its others are the module's. -/
theorem toolIoc_numbers :
    toolIocSetConfig ∉ [nanonetIocSetConfig, nanonetIocGetConfig, nanonetIocGetStats, nanonetIocResetStats,
      nanonetIocClearConnections] ∧
    toolIocGetConfig ∉ [nanonetIocSetConfig, nanonetIocGetConfig, nanonetIocGetStats, nanonetIocResetStats,
      nanonetIocClearConnections] ∧
    toolIocGetStats = nanonetIocGetStats ∧ toolIocResetStats = nanonetIocResetStats ∧
    toolIocClearConnections = nanonetIocClearConnections := by
  decide

/-- The `config` command never succeeds and never changes the module: each
    path ends in a usage or argument error, on the null argument, or with
    the module refusing the tool's `SET_CONFIG`. -/
theorem toolConfigure_refused (env : ToolEnv) (argv : List String) (s : NanoNetState) :
    (toolConfigure env argv s).2 = s ∧ (toolConfigure env argv s).1.exitCode ≠ some 0 := by
  have hsend (c : ToolConfig) : toolIoctl "Failed to set configuration" s toolIocSetConfig c.toBytes
      (fun _ s => (.done "Configuration updated", s)) = (.perror "Failed to set configuration" enotty, s) :=
    toolIoctl_refused toolIoc_numbers.1
  unfold toolConfigure
  dsimp only
  split_ifs
  · exact ⟨rfl, nofun⟩
  repeat' split
  all_goals simp [hsend, ToolOut.exitCode]

/-- `GET_STATS` into a buffer of the record's size copies the record. -/
theorem nanonetIoctl_getStats_copy (s : NanoNetState) {user : List Byte} (h : user.length = ullStatsSize) :
    nanonetIoctl s nanonetIocGetStats user = ⟨0, s, s.stats.toBytes⟩ := by
  have h1 : nanonetIocGetStats ≠ nanonetIocSetConfig := by decide
  have h2 : nanonetIocGetStats ≠ nanonetIocGetConfig := by decide
  simp [nanonetIoctl, h1, h2, copyToUser, h, List.take_of_length_le, List.drop_of_length_le]

/-- Whatever its arguments and the module's state, `nanonet_control` leaves
    the configuration as it was, and it exits with 0 exactly when it can open
    the device and its command is `stats`, `reset` or `clear-connections`:
    `status`, `enable`, `disable` and `config` always fail. -/
theorem nanonetControl_never_configures (env : ToolEnv) (argv : List String) (s : NanoNetState) :
    let r := nanonetControl env argv s
    r.2.config = s.config ∧
      (r.1.exitCode = some 0 ↔
        2 ≤ argv.length ∧ env.capable = true ∧ argv.getD 1 "" ∈ ["stats", "reset", "clear-connections"]) := by
  have hget (msg : String) (buf : List Byte) (k : List Byte → NanoNetState → ToolOut × NanoNetState) :
      toolIoctl msg s toolIocGetConfig buf k = (.perror msg enotty, s) :=
    toolIoctl_refused toolIoc_numbers.2.1
  unfold nanonetControl
  by_cases hl : argv.length < 2
  · simp [hl, ToolOut.exitCode]
  rw [if_neg hl]
  cases hc : env.capable
  · simp [nanonetCheckPermissions, hc, eperm, ToolOut.exitCode]
  simp only [nanonetCheckPermissions, hc, if_true, lt_self_iff_false, if_false]
  generalize argv.getD 1 "" = cmd
  have hst : (List.map env.statsInit (List.range toolStatsSize)).length = ullStatsSize := by
    simp [toolStatsSize, ullStatsSize]
  by_cases h1 : cmd = "status"
  · rw [if_pos h1, hget]; simp [h1, ToolOut.exitCode]
  rw [if_neg h1]
  by_cases h2 : cmd = "enable"
  · rw [if_pos h2, toolSetEnabled, hget]; simp [h2, ToolOut.exitCode]
  rw [if_neg h2]
  by_cases h3 : cmd = "disable"
  · rw [if_pos h3, toolSetEnabled, hget]; simp [h3, ToolOut.exitCode]
  rw [if_neg h3]
  by_cases h4 : cmd = "config"
  · rw [if_pos h4]
    obtain ⟨hs, hx⟩ := toolConfigure_refused env argv s
    rw [hs]; simp [h4, hx]
  rw [if_neg h4]
  by_cases h5 : cmd = "stats"
  · rw [if_pos h5, toolIoc_numbers.2.2.1]
    simp [toolIoctl, nanonetIoctl_getStats_copy s hst, h5, ToolOut.exitCode, hc]
    omega
  rw [if_neg h5]
  have hne : nanonetIocResetStats ≠ nanonetIocSetConfig ∧ nanonetIocResetStats ≠ nanonetIocGetConfig ∧
      nanonetIocResetStats ≠ nanonetIocGetStats ∧ nanonetIocClearConnections ≠ nanonetIocSetConfig ∧
      nanonetIocClearConnections ≠ nanonetIocGetConfig ∧ nanonetIocClearConnections ≠ nanonetIocGetStats ∧
      nanonetIocClearConnections ≠ nanonetIocResetStats := by decide
  by_cases h6 : cmd = "reset"
  · rw [if_pos h6, toolIoc_numbers.2.2.2.1]
    simp [toolIoctl, nanonetIoctl, hne, h6, ToolOut.exitCode, hc]
    omega
  rw [if_neg h6]
  by_cases h7 : cmd = "clear-connections"
  · rw [if_pos h7, toolIoc_numbers.2.2.2.2]
    simp [toolIoctl, nanonetIoctl, hne, h7, ToolOut.exitCode, hc]
    omega
  rw [if_neg h7]
  simp [h5, h6, h7, ToolOut.exitCode]

/-- A `u64` load of the two halves a `u64` store wrote gives the value back. -/
theorem load_le64 (x : BitVec 64) : x.extractLsb' 32 32 ++ x.extractLsb' 0 32 = x := by
  apply BitVec.eq_of_toNat_eq
  rw [BitVec.toNat_append, Nat.shiftLeft_eq, Nat.mul_comm, ← Nat.mul_add_lt_is_or (BitVec.isLt _)]
  simp only [BitVec.extractLsb'_toNat, Nat.shiftRight_eq_div_pow]
  have := x.isLt
  omega

/-- The tool's layout reads the module's statistics image field by field:
    each counter as its signed 64-bit value, each time as it is. -/
theorem ToolStats.ofBytes_toBytes (st : UllStats) :
    ToolStats.ofBytes st.toBytes =
      ⟨(BitVec.ofInt 64 st.packetsProcessed).toInt, (BitVec.ofInt 64 st.packetsBypassed).toInt,
        (BitVec.ofInt 64 st.responsesSent).toInt, (BitVec.ofInt 64 st.errors).toInt,
        st.lastProcessTimeNs, st.minProcessTimeNs, st.maxProcessTimeNs, st.avgProcessTimeNs,
        (BitVec.ofInt 64 st.connectionsActive).toInt, (BitVec.ofInt 64 st.connectionsDropped).toInt⟩ := by
  simp only [ToolStats.ofBytes, UllStats.toBytes, getLe64, getLe32, getLe16, le64, le32, le16,
    List.cons_append, List.nil_append, List.getD_cons_succ, List.getD_cons_zero, load_le16, load_le32,
    load_le64]

/-- `nanonet_control stats`, with any further arguments, reports the
    module's statistics, each counter as its signed 64-bit value, and changes
    nothing; without `CAP_NET_ADMIN` it cannot open the device. -/
theorem nanonetControl_stats_report (env : ToolEnv) (prog : String) (rest : List String) (s : NanoNetState) :
    nanonetControl env (prog :: "stats" :: rest) s =
      (if env.capable then
        .stats ⟨(BitVec.ofInt 64 s.stats.packetsProcessed).toInt, (BitVec.ofInt 64 s.stats.packetsBypassed).toInt,
          (BitVec.ofInt 64 s.stats.responsesSent).toInt, (BitVec.ofInt 64 s.stats.errors).toInt,
          s.stats.lastProcessTimeNs, s.stats.minProcessTimeNs, s.stats.maxProcessTimeNs,
          s.stats.avgProcessTimeNs, (BitVec.ofInt 64 s.stats.connectionsActive).toInt,
          (BitVec.ofInt 64 s.stats.connectionsDropped).toInt⟩
      else .perror "Failed to open device" eperm, s) := by
  have hst : (List.map env.statsInit (List.range toolStatsSize)).length = ullStatsSize := by
    simp [toolStatsSize, ullStatsSize]
  cases hc : env.capable
  · simp [nanonetControl, nanonetCheckPermissions, hc, eperm]
  · simp [nanonetControl, nanonetCheckPermissions, hc, toolIoctl, toolIoc_numbers.2.2.1,
      nanonetIoctl_getStats_copy s hst, ToolStats.ofBytes_toBytes]
end NanoNet
