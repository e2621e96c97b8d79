/-
  NanoNet.Basic

  The module's global records (nanonet.h, nanonet.c): `struct ull_config`
  and `struct ull_stats`, with the initializers of `global_config` and
  `global_stats`.

  `__be16`/`__be32` fields hold the value as the host loads it from the
  wire; they are compared with frame fields without conversion, as the
  source does. The `atomic64_t` counters are the integers their increments
  and decrements add up to, and `atomic64` is the 64-bit value the kernel
  holds for one: the integer modulo 2^64. A counting law stated on the
  integers carries over to this image for runs of any length
  (`atomic64_add`), and the accounting results state both. The `u64`
  latency scalars are `BitVec 64`, since the source relies on their
  wrapping subtraction.
-/
import NanoNet.Wire

namespace NanoNet

/-- `struct ull_config`. -/
structure UllConfig where
  enabled : Bool
  targetIp : BitVec 32
  targetPort : BitVec 16
  protocol : Byte
  responseIp : BitVec 32
  responsePort : BitVec 16
  seqNum : BitVec 32
  applicationLogicType : Byte
  multicast : Bool
  multicastGroup : BitVec 32
  deriving DecidableEq, Repr

/-- The initializer of `global_config`: disabled, UDP, every other field zero. -/
def globalConfigInit : UllConfig where
  enabled := false
  targetIp := 0
  targetPort := 0
  protocol := ipprotoUdp
  responseIp := 0
  responsePort := 0
  seqNum := 0
  applicationLogicType := 0
  multicast := false
  multicastGroup := 0

/-- `struct ull_stats`. -/
structure UllStats where
  packetsProcessed : Int
  packetsBypassed : Int
  responsesSent : Int
  errors : Int
  lastProcessTimeNs : BitVec 64
  minProcessTimeNs : BitVec 64
  maxProcessTimeNs : BitVec 64
  avgProcessTimeNs : BitVec 64
  connectionsActive : Int
  connectionsDropped : Int
  deriving DecidableEq, Repr

/-- The value an `atomic64_t` holds for a counter: its integer modulo 2^64. -/
def atomic64 (c : Int) : BitVec 64 := BitVec.ofInt 64 c

@[simp] theorem atomic64_add (a b : Int) : atomic64 (a + b) = atomic64 a + atomic64 b :=
  BitVec.ofInt_add a b

@[simp] theorem atomic64_natCast (n : Nat) : atomic64 n = BitVec.ofNat 64 n :=
  BitVec.ofInt_natCast 64 n

/-- The initializer of `global_stats` (fields it leaves out are zero):
    `min_process_time_ns` starts at `UINT64_MAX`. -/
def globalStatsInit : UllStats where
  packetsProcessed := 0
  packetsBypassed := 0
  responsesSent := 0
  errors := 0
  lastProcessTimeNs := 0
  minProcessTimeNs := BitVec.allOnes 64
  maxProcessTimeNs := 0
  avgProcessTimeNs := 0
  connectionsActive := 0
  connectionsDropped := 0

/-- The statistics `NANONET_IOC_RESET_STATS` writes: every counter zero,
    `last`, `max` and `avg` zero, `min` back at `UINT64_MAX`. -/
def resetStats : UllStats where
  packetsProcessed := 0
  packetsBypassed := 0
  responsesSent := 0
  errors := 0
  connectionsActive := 0
  connectionsDropped := 0
  lastProcessTimeNs := 0
  minProcessTimeNs := BitVec.allOnes 64
  maxProcessTimeNs := 0
  avgProcessTimeNs := 0

end NanoNet
