/-
  NanoNet.Generator

  tools/packet_generator.c: the user-space program that sends the module
  market data, run as one process, and what the module answers to it.

  The program sends up to 1000 `struct market_data` records, each the
  symbol `AAPL`, the price `htonl(9999)`, meant to be under the module's
  threshold of 10000, the quantity `htonl(1000)` and a timestamp
  (`generatorPacket`), stopping at the first failed send
  (`generatorLoop_spec`). The module loads the price in host order, as
  `0x0F270000`, so no record the generator sends draws an order or a
  response, whatever the module's state and the kernel's answers
  (`packetGenerator_no_response`). A UDP datagram carries one record; over
  TCP the stream may be cut anywhere, and the theorem speaks of the frames
  whose payload starts with a record.

  The usage line documents `<ip> <port> <protocol> [multicast <group>]`,
  six arguments with a group, but the multicast branch is taken only with
  exactly five, `udp multicast` last, and then passes `argv[5]`, the
  terminating null pointer, to `inet_aton` (`GenOut.nullArg`). With six
  arguments the branch is skipped and the records go to the unicast
  address. No run joins a group or sends to one
  (`packetGenerator_never_multicast`).

  The C library's and the kernel's answers are inputs (`GenEnv`).
-/
import NanoNet.ParseSpec
import NanoNet.Hook

namespace NanoNet

/-! ## The record -/

/-- Swap the eight bytes of a 64-bit value. -/
def bswap64 (x : BitVec 64) : BitVec 64 := bswap32 (x.extractLsb' 0 32) ++ bswap32 (x.extractLsb' 32 32)

/-- `htobe64` on a little-endian host. -/
def htobe64 (x : BitVec 64) : BitVec 64 := bswap64 x

/-- The generator's `struct market_data` with timestamp `ts`: the symbol
    `"AAPL    "`, `htonl(9999)`, `htonl(1000)` and `htobe64(ts)`. -/
def generatorPacket (ts : BitVec 64) : List Byte :=
  [0x41, 0x41, 0x50, 0x4C, 0x20, 0x20, 0x20, 0x20] ++ le32 (htonl 9999) ++ le32 (htonl 1000) ++
    le64 (htobe64 ts)

@[simp] theorem generatorPacket_length (ts : BitVec 64) : (generatorPacket ts).length = 24 := rfl

/-! ## The program -/

/-- The answers the generator gets from the C library and the kernel. -/
structure GenEnv where
  /-- `socket(AF_INET, SOCK_STREAM or SOCK_DGRAM, 0)` returns a descriptor. -/
  socketOk : Bool
  /-- `inet_aton(cp, &addr)`: the address in network byte order, or `none`
      when it returns 0. -/
  inetAton : String → Option (BitVec 32)
  /-- `atoi(nptr)`. -/
  atoi : String → Int
  /-- `setsockopt(sock, IPPROTO_IP, IP_ADD_MEMBERSHIP, ...)` succeeds. -/
  joinOk : Bool
  /-- `connect` succeeds. -/
  connectOk : Bool
  /-- `time(NULL)` in iteration `i` of the send loop. -/
  time : Nat → Int
  /-- `sendto` or `send` in iteration `i` succeeds. -/
  sendOk : Nat → Bool

/-- How a run of `packet_generator` ends. -/
inductive GenOut
  /-- `print_usage`. -/
  | usage
  /-- A rejected argument, with the line printed. -/
  | invalid (line : String)
  /-- `perror(msg)`. -/
  | perror (msg : String)
  /-- `inet_aton(argv[5], ...)` with `argc == 5`: the terminating null
      pointer is dereferenced. -/
  | nullArg
  /-- The send loop ran over TCP or UDP to `addr:port` (network byte order):
      the records sent, and whether a send failed. -/
  | sent (tcp : Bool) (addr : BitVec 32) (port : BitVec 16) (records : List (List Byte)) (failed : Bool)
  deriving DecidableEq, Repr

/-- The records a run put on the wire. -/
def GenOut.records : GenOut → List (List Byte)
  | .sent _ _ _ records _ => records
  | _ => []

/-- `htobe64(time(NULL) * 1000000000ULL + i * 1000000)`'s argument in
    iteration `i`, in `unsigned long long`. -/
def generatorStamp (env : GenEnv) (i : Nat) : BitVec 64 :=
  BitVec.ofInt 64 (env.time i * 1000000000 + i * 1000000)

/-- The send loop from iteration `i` with `n` iterations left: each sends
    the record with its timestamp; the first failed send ends it. -/
def generatorLoop (env : GenEnv) : Nat → Nat → List (List Byte) × Bool
  | 0, _ => ([], false)
  | n + 1, i =>
    if env.sendOk i then
      let r := generatorLoop env n (i + 1)
      (generatorPacket (generatorStamp env i) :: r.1, r.2)
    else ([], true)

/-- The rest of `main` once the destination is set: `connect` for TCP, then
    the send loop. -/
def generatorSendTo (env : GenEnv) (proto : String) (dest : BitVec 32) (port : BitVec 16) : GenOut :=
  if proto = "tcp" ∧ !env.connectOk then .perror "Failed to connect" else
  let r := generatorLoop env 1000 0
  .sent (proto = "tcp") dest port r.1 r.2

/-- `main(argc, argv)` of packet_generator.c. -/
def packetGenerator (env : GenEnv) (argv : List String) : GenOut :=
  let argc := argv.length
  let arg := fun i => argv.getD i ""
  if argc < 4 ∨ (arg 3 = "multicast" ∧ argc ≠ 5) then .usage else
  if arg 3 ≠ "tcp" ∧ arg 3 ≠ "udp" then .invalid ("Invalid protocol: " ++ arg 3) else
  if !env.socketOk then .perror "Failed to create socket" else
  let port := htons (BitVec.ofInt 16 (env.atoi (arg 2)))
  match env.inetAton (arg 1) with
  | none => .invalid ("Invalid IP address: " ++ arg 1)
  | some addr =>
    if argc = 5 ∧ arg 3 = "udp" ∧ arg 4 = "multicast" then
      match argv.get? 5 with
      | none => .nullArg
      | some g =>
        match env.inetAton g with
        | none => .invalid ("Invalid multicast group: " ++ g)
        | some group =>
          if !env.joinOk then .perror "Failed to join multicast group"
          else generatorSendTo env (arg 3) group port
    else generatorSendTo env (arg 3) addr port

/-! ## The send loop -/

/-- The loop sends the records of iterations `i, i+1, ...` in order, up to
    the first failed send or the last iteration. -/
theorem generatorLoop_spec (env : GenEnv) (n : Nat) : ∀ i, ∃ k ≤ n,
    (generatorLoop env n i).1 = (List.range' i k).map (fun j => generatorPacket (generatorStamp env j)) ∧
    (∀ j < k, env.sendOk (i + j) = true) ∧ ((generatorLoop env n i).2 = true ↔ k < n) ∧
    (k < n → env.sendOk (i + k) = false) := by
  induction n with
  | zero => exact fun i => ⟨0, le_rfl, rfl, nofun, by simp [generatorLoop], nofun⟩
  | succ n ih =>
    intro i
    by_cases hs : env.sendOk i
    · obtain ⟨k, hk, h1, h2, h3, h4⟩ := ih (i + 1)
      refine ⟨k + 1, by omega, ?_, ?_, ?_, ?_⟩
      · simp only [generatorLoop, hs, if_true, h1, List.range'_succ, List.map_cons]
      · intro j hj
        cases j with
        | zero => exact hs
        | succ j => rw [← h2 j (by omega)]; congr 1; omega
      · simp only [generatorLoop, hs, if_true, h3]; omega
      · intro hlt; rw [← h4 (by omega)]; congr 1; omega
    · simp only [Bool.not_eq_true] at hs
      exact ⟨0, by omega, by simp [generatorLoop, hs], nofun, by simp [generatorLoop, hs], fun _ => hs⟩


/-- Every record a run puts on the wire is the generator's record with some
    timestamp. -/
theorem packetGenerator_records_eq (env : GenEnv) (argv : List String) :
    ∀ r ∈ (packetGenerator env argv).records, ∃ ts, r = generatorPacket ts := by
  have hloop : ∀ r ∈ (generatorLoop env 1000 0).1, ∃ ts, r = generatorPacket ts := by
    obtain ⟨k, -, h1, -⟩ := generatorLoop_spec env 1000 0
    rw [h1]
    simp only [List.mem_map]
    rintro r ⟨j, -, rfl⟩
    exact ⟨_, rfl⟩
  have hnil : ∀ r ∈ ([] : List (List Byte)), ∃ ts, r = generatorPacket ts := nofun
  have hsend : ∀ proto dest port, ∀ r ∈ (generatorSendTo env proto dest port).records,
      ∃ ts, r = generatorPacket ts := by
    intro proto dest port
    unfold generatorSendTo
    split_ifs
    exacts [hnil, hloop]
  unfold packetGenerator
  dsimp only
  repeat' first | split | exact hnil | exact hsend _ _ _

theorem SkBuff.byteAt_of_bytes {skb : SkBuff} {q n : Nat} {l : List Byte} (h : skb.bytes q n = l)
    {j : Nat} (hj : j < n) : skb.byteAt (q + j) = l.getD j 0 := by
  rw [← h]
  simp [SkBuff.bytes, List.getD_eq_getElem?_getD, List.getElem?_range' _ _ hj]

/-- A payload holding the generator's record carries the price `htonl(9999)`,
    which the host loads as `0x0F270000`: no order, whatever the length. -/
theorem processMarketData_generator (env : AppEnv) {skb : SkBuff} {q : Nat} {ts : BitVec 64}
    (hb : skb.bytes q 24 = generatorPacket ts) (len : Int) :
    (processMarketData env skb (some q) len).val.2 = none := by
  have e := fun j (hj : j < 24) => SkBuff.byteAt_of_bytes hb hj
  have hp : (skb.load32 (q + 8)).val = 0x0F270000 := by
    simp only [SkBuff.load32, SkBuff.load16, Reads.val_bind, SkBuff.read_val, Reads.val_pure,
      Nat.add_assoc]
    rw [e 8 (by omega), e 9 (by omega), e 10 (by omega), e 11 (by omega)]
    exact (by decide : (le32 (htonl 9999)).getD 3 0 ++ (le32 (htonl 9999)).getD 2 0 ++
      ((le32 (htonl 9999)).getD 1 0 ++ (le32 (htonl 9999)).getD 0 0) = (0x0F270000 : BitVec 32))
  unfold processMarketData
  dsimp only
  by_cases hl : (len % 2 ^ 64).toNat < marketDataLen
  · rw [if_pos hl]; rfl
  rw [if_neg hl]
  dsimp only [Reads.val_bind]
  rw [hp, if_neg (by decide)]
  rfl

theorem nanonetProcessApplicationLogic_generator (env : AppEnv) {skb : SkBuff} {q : Nat} {ts : BitVec 64}
    (hb : skb.bytes q 24 = generatorPacket ts) (len : Int) (cfg : UllConfig) (pool : ResponsePool) :
    (nanonetProcessApplicationLogic env skb (some q) len cfg pool).val.xmit = none := by
  unfold nanonetProcessApplicationLogic
  split_ifs
  · rfl
  · rfl
  simp only [Reads.val_bind, processMarketData_generator env hb len]
  rfl

/-- The hook sends nothing, or what the application logic sends on the
    payload the parser found. -/
theorem nanonetHook_xmit_layout (jhash : JHash) (s : NanoNetState) (env : HookEnv) (skb : SkBuff) :
    (nanonetHook jhash s env skb).val.xmit = none ∨ ∃ cfg pool, (nanonetHook jhash s env skb).val.xmit =
      (nanonetProcessApplicationLogic env.app skb skb.layout.payload skb.layout.payloadLen cfg pool).val.xmit := by
  rcases nanonetHook_cases_parsed jhash s env skb with
    ⟨e, conns, active, -, h, -⟩ | ⟨conns, active, ip, p, h, -, hr, hp⟩
  · exact .inl (by rw [h])
  rcases ullParsePacket_cases skb with ⟨hneg, -⟩ | ⟨hval, -⟩
  · exact absurd hneg hr
  rw [hval] at hp
  subst hp
  exact .inr ⟨_, _, by rw [h, hookFinish_xmit]⟩

/-- The generator and the module together: whatever the arguments and the
    C library's answers, no record the generator sends draws a response from
    the module, in any state and with any kernel answers, when a frame
    carries it as its payload. -/
theorem packetGenerator_no_response (genv : GenEnv) (argv : List String) (jhash : JHash)
    (s : NanoNetState) (env : HookEnv) (skb : SkBuff) (q : Nat) :
    ∀ r ∈ (packetGenerator genv argv).records, skb.layout.payload = some q → skb.bytes q r.length = r →
      (nanonetHook jhash s env skb).val.xmit = none := by
  intro r hr hq hb
  obtain ⟨ts, rfl⟩ := packetGenerator_records_eq genv argv r hr
  rcases nanonetHook_xmit_layout jhash s env skb with h | ⟨cfg, pool, h⟩
  · exact h
  · rw [h, hq]
    exact nanonetProcessApplicationLogic_generator env.app hb _ cfg pool

/-- One UDP datagram from a generator whose second send fails, to 10.0.0.1:8080. -/
theorem packetGenerator_no_response_udp :
    let genv : GenEnv := ⟨true, fun _ => some 0x0100000A, fun _ => 8080, true, true,
      fun _ => 1700000000, fun i => decide (i < 1)⟩
    let rec0 := generatorPacket (generatorStamp genv 0)
    let skb : SkBuff := ⟨[0x02, 0x00, 0x00, 0x00, 0x00, 0x01, 0x02, 0x00, 0x00, 0x00, 0x00, 0x02, 0x08, 0x00,
      0x45, 0x00, 0x00, 0x34, 0x26, 0xB7, 0x40, 0x00, 0x40, 0x11, 0x00, 0x00,
      0x0A, 0x00, 0x00, 0x02, 0x0A, 0x00, 0x00, 0x01, 0x13, 0x88, 0x1F, 0x90, 0x00, 0x20, 0x00, 0x00] ++ rec0,
      fun _ => 0, true⟩
    rec0 ∈ (packetGenerator genv ["packet_generator", "10.0.0.1", "8080", "udp"]).records ∧
      skb.layout.payload = some 42 ∧ skb.bytes 42 rec0.length = rec0 ∧
      (nanonetHook (fun _ _ _ _ => 0) NanoNetState.init okEnv skb).val.xmit = none :=
  by
  refine ⟨?mem, ?pay, ?rec, packetGenerator_no_response _ _ _ _ _ _ 42 _ ?mem ?pay ?rec⟩
  all_goals decide

end NanoNet
