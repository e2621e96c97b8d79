/-
  NanoNet.Latency

  The latency scalars of `global_stats` over runs of `nanonet_hook`.

  After every frame that reaches the application logic, `min ≤ last ≤ max`
  holds whatever the statistics were before (`nanonetHook_min_last_max`):
  `min` and `max` are updated by comparison with the frame's duration. The
  running mean `(avg * (N - 1) + dt) / N` is computed in `u64`. From the
  reset statistics it stays between `min` and `max` as long as nothing
  wraps (`hookRun_avg_between`): over frames whose durations are at most
  `D`, when the number of frames times `D + 1` is below 2^64. The duration
  is a difference of wall-clock readings (`ktime_get_real_ts64`), which
  wraps to nearly 2^64 when the clock steps back; after such a frame the
  next one puts the mean below the minimum
  (`wrapped_duration_puts_avg_below_min`).
-/
import NanoNet.Interleaving

namespace NanoNet

/-! ## The hook's update -/

/-- The latency scalars after the hook's tail. -/
theorem hookFinish_latency (s : NanoNetState) (env : HookEnv) (skb : SkBuff) (ip : Nat)
    (p : ParsedPacket) :
    let st := (hookFinish s env skb ip p).val.state.stats
    let dt := env.endTime - env.startTime
    st.lastProcessTimeNs = dt ∧
    st.minProcessTimeNs = (if dt < s.stats.minProcessTimeNs then dt else s.stats.minProcessTimeNs) ∧
    st.maxProcessTimeNs = (if dt > s.stats.maxProcessTimeNs then dt else s.stats.maxProcessTimeNs) := by
  dsimp only [hookFinish, Reads.val_bind, Reads.val_pure, UllStats.recordTime]
  simp [apply_ite UllStats.minProcessTimeNs, apply_ite UllStats.maxProcessTimeNs, UllStats.error]

/-- An exit before the application logic leaves the counter of processed
    frames and the latency scalars as they were. -/
theorem HookExit.bump_latency (e : HookExit) (st : UllStats) :
    (e.bump st).packetsProcessed = st.packetsProcessed ∧
    (e.bump st).minProcessTimeNs = st.minProcessTimeNs ∧
    (e.bump st).maxProcessTimeNs = st.maxProcessTimeNs ∧
    (e.bump st).avgProcessTimeNs = st.avgProcessTimeNs := by
  cases e <;> exact ⟨rfl, rfl, rfl, rfl⟩

/-- After every frame that reaches the application logic, the minimum is at
    most the last duration, and the last duration at most the maximum. -/
theorem nanonetHook_min_last_max (jhash : JHash) (s : NanoNetState) (env : HookEnv) (skb : SkBuff)
    (h : (nanonetHook jhash s env skb).val.exit.early = false) :
    let st := (nanonetHook jhash s env skb).val.state.stats
    st.minProcessTimeNs ≤ st.lastProcessTimeNs ∧ st.lastProcessTimeNs ≤ st.maxProcessTimeNs := by
  rcases nanonetHook_cases jhash s env skb with ⟨e, conns, active, he, hv, -⟩ | ⟨conns, active, ip, p, hv, -⟩
  · rw [hv] at h
    exact absurd he (by simp [h])
  · obtain ⟨hl, hmin, hmax⟩ := hookFinish_latency
      { s with conns := conns, stats := { s.stats with connectionsActive := active } } env skb ip p
    simp only [hv, hl, hmin, hmax]
    constructor <;> split_ifs with h1 <;> first | exact BitVec.le_refl _ | exact BitVec.not_lt.1 h1

/-- The market frame at the UDP endpoint reaches the application logic. -/
theorem market_frame_min_last_max :
    (nanonetHook (fun _ _ _ _ => 0) { NanoNetState.init with config := udpEndpoint } okEnv
      ⟨marketFrame, fun _ => 0, true⟩).val.exit.early = false ∧
    let st := (nanonetHook (fun _ _ _ _ => 0) { NanoNetState.init with config := udpEndpoint } okEnv
      ⟨marketFrame, fun _ => 0, true⟩).val.state.stats
    st.minProcessTimeNs ≤ st.lastProcessTimeNs ∧ st.lastProcessTimeNs ≤ st.maxProcessTimeNs :=
  ⟨by decide, nanonetHook_min_last_max _ _ _ _ (by decide)⟩

/-! ## The running mean without overflow -/

/-- While `avg * N + dt` fits in 64 bits, the `u64` update after the `N+1`-th
    frame is the natural-number mean. -/
theorem avgUpdate_toNat {avg dt : BitVec 64} {N : Nat} (hN : N + 1 < 2 ^ 64)
    (h : avg.toNat * N + dt.toNat < 2 ^ 64) :
    (avgUpdate avg dt ((N : Int) + 1) ((N : Int) + 1)).toNat = (avg.toNat * N + dt.toNat) / (N + 1) := by
  have hN' : N < 2 ^ 64 := by omega
  have hmul : avg.toNat * N < 2 ^ 64 := by omega
  rw [avgUpdate, add_sub_cancel_right, show ((N : Int) + 1) = ((N + 1 : Nat) : Int) by push_cast; rfl,
    BitVec.ofInt_natCast, BitVec.ofInt_natCast, BitVec.toNat_udiv, BitVec.toNat_add, BitVec.toNat_mul,
    BitVec.toNat_ofNat, BitVec.toNat_ofNat, Nat.mod_eq_of_lt hN', Nat.mod_eq_of_lt hN,
    Nat.mod_eq_of_lt hmul, Nat.mod_eq_of_lt h]

/-- A mean of a value in `[m, M]` taken `N` times and one more value `d`
    lies between the smaller and the larger bound with `d`. -/
theorem mean_step_between {a m M d N : Nat} (ha : m ≤ a ∧ a ≤ M) :
    min m d ≤ (a * N + d) / (N + 1) ∧ (a * N + d) / (N + 1) ≤ max M d := by
  constructor
  · rw [Nat.le_div_iff_mul_le (Nat.succ_pos N)]
    calc min m d * (N + 1) = min m d * N + min m d := Nat.mul_succ _ _
      _ ≤ a * N + d := Nat.add_le_add (Nat.mul_le_mul_right N ((min_le_left m d).trans ha.1))
          (min_le_right m d)
  · apply Nat.div_le_of_le_mul
    calc a * N + d ≤ max M d * N + max M d :=
          Nat.add_le_add (Nat.mul_le_mul_right N (ha.2.trans (le_max_left M d))) (le_max_right M d)
      _ = (N + 1) * max M d := by rw [Nat.succ_mul, Nat.mul_comm]

/-- The latency invariant below `D`: a counter that is not negative, a
    maximum of at most `D`, and once a frame was processed, a mean between
    the minimum and the maximum. -/
def UllStats.LatencyInv (D : Nat) (st : UllStats) : Prop :=
  0 ≤ st.packetsProcessed ∧ st.maxProcessTimeNs.toNat ≤ D ∧
    (st.packetsProcessed = 0 ∨
      (st.minProcessTimeNs ≤ st.avgProcessTimeNs ∧ st.avgProcessTimeNs ≤ st.maxProcessTimeNs))

/-- One processed frame of duration at most `D` keeps the invariant while the
    incremented counter times `D + 1` stays below 2^64. -/
theorem UllStats.LatencyInv.record {D : Nat} {st st' : UllStats} (hi : st.LatencyInv D)
    {dt : BitVec 64} (hdt : dt.toNat ≤ D) (hn : (st.packetsProcessed.toNat + 1) * (D + 1) < 2 ^ 64)
    (h1 : st'.packetsProcessed = st.packetsProcessed + 1)
    (h2 : st'.minProcessTimeNs = if dt < st.minProcessTimeNs then dt else st.minProcessTimeNs)
    (h3 : st'.maxProcessTimeNs = if dt > st.maxProcessTimeNs then dt else st.maxProcessTimeNs)
    (h4 : st'.avgProcessTimeNs =
      avgUpdate st.avgProcessTimeNs dt (st.packetsProcessed + 1) (st.packetsProcessed + 1)) :
    st'.LatencyInv D := by
  obtain ⟨h0, hmax, hmean⟩ := hi
  obtain ⟨N, hN⟩ := Int.eq_ofNat_of_zero_le h0
  rw [hN, Int.toNat_ofNat] at hn
  rw [hN] at h1 h4 hmean
  have hN1 : N + 1 < 2 ^ 64 := lt_of_le_of_lt (Nat.le_mul_of_pos_right _ (Nat.succ_pos D)) hn
  -- the new maximum and minimum, as natural numbers
  have hM : st'.maxProcessTimeNs.toNat = max st.maxProcessTimeNs.toNat dt.toNat := by
    rw [h3]; split_ifs with h <;> simp only [gt_iff_lt, BitVec.lt_def] at h <;> omega
  have hm : st'.minProcessTimeNs.toNat = min st.minProcessTimeNs.toNat dt.toNat := by
    rw [h2]; split_ifs with h <;> simp only [BitVec.lt_def] at h <;> omega
  refine ⟨by omega, by omega, .inr ?_⟩
  simp only [BitVec.le_def, hM, hm, h4]
  rcases hmean with h | ⟨hlo, hhi⟩
  · -- the first frame: the mean is the duration
    obtain rfl : N = 0 := by omega
    rw [avgUpdate_toNat hN1 (by simp; omega)]
    simp only [Nat.mul_zero, Nat.zero_add, Nat.div_one]
    omega
  · rw [BitVec.le_def] at hlo hhi
    have hsum : st.avgProcessTimeNs.toNat * N + dt.toNat < 2 ^ 64 := by
      have : st.avgProcessTimeNs.toNat * N ≤ D * N := Nat.mul_le_mul_right N (by omega)
      have : D * N + D < (N + 1) * (D + 1) := by
        rw [Nat.add_mul, Nat.mul_add, Nat.mul_comm N D]; omega
      omega
    rw [avgUpdate_toNat hN1 hsum]
    exact mean_step_between ⟨hlo, hhi⟩

/-- A run of the hook keeps the invariant: frames that exit early leave the
    counter and the scalars alone, and a processed frame is one `record`. -/
theorem hookRun_latencyInv (jhash : JHash) (D : Nat) :
    ∀ (s : NanoNetState) (fs : List (SkBuff × HookEnv)), s.stats.LatencyInv D →
      (∀ f ∈ fs, (f.2.endTime - f.2.startTime).toNat ≤ D) →
      (s.stats.packetsProcessed.toNat + fs.length) * (D + 1) < 2 ^ 64 →
      (hookRun jhash s fs).2.stats.LatencyInv D
  | s, [], hi, _, _ => hi
  | s, (skb, env) :: fs, hi, hD, hn => by
    simp only [List.mem_cons, forall_eq_or_imp, List.length_cons] at hD hn
    rcases nanonetHook_cases jhash s env skb with ⟨e, conns, active, -, hv, -⟩ | ⟨conns, active, ip, p, hv, -⟩
    · obtain ⟨h1, h2, h3, h4⟩ := e.bump_latency { s.stats with connectionsActive := active }
      apply hookRun_latencyInv jhash D _ fs _ hD.2
      · simp only [hv, h1]
        exact lt_of_le_of_lt (Nat.mul_le_mul_right _ (by omega)) hn
      · simp only [hv, UllStats.LatencyInv, h1, h2, h3, h4]
        exact hi
    · let s' : NanoNetState := { s with conns := conns, stats := { s.stats with connectionsActive := active } }
      obtain ⟨h1, h4⟩ := hookFinish_avg s' env skb ip p
      obtain ⟨-, h2, h3⟩ := hookFinish_latency s' env skb ip p
      have h0 : 0 ≤ s.stats.packetsProcessed := hi.1
      apply hookRun_latencyInv jhash D _ fs _ hD.2
      · simp only [hookRun, hv, h1]
        exact lt_of_le_of_lt (Nat.mul_le_mul_right _ (by omega)) hn
      · simp only [hookRun, hv]
        exact hi.record hD.1 (lt_of_le_of_lt (Nat.mul_le_mul_right _ (by omega)) hn) h1 h2 h3 h4

/-- From the reset statistics, over any frames whose durations are at most
    `D`, while the number of frames times `D + 1` is below 2^64: once a frame
    was processed, the mean lies between the minimum and the maximum. -/
theorem hookRun_avg_between (jhash : JHash) (s : NanoNetState) (fs : List (SkBuff × HookEnv))
    (D : Nat) (hs : s.stats = resetStats) (hD : ∀ f ∈ fs, (f.2.endTime - f.2.startTime).toNat ≤ D)
    (hn : fs.length * (D + 1) < 2 ^ 64) :
    let st := (hookRun jhash s fs).2.stats
    st.packetsProcessed = 0 ∨
      (st.minProcessTimeNs ≤ st.avgProcessTimeNs ∧ st.avgProcessTimeNs ≤ st.maxProcessTimeNs) :=
  (hookRun_latencyInv jhash D s fs (by simp [hs, UllStats.LatencyInv, resetStats]) hD
    (by simpa [hs, resetStats] using hn)).2.2

/-- The market frame at the UDP endpoint, 50 ns. -/
theorem market_frame_avg_between :
    let s : NanoNetState := { NanoNetState.init with config := udpEndpoint }
    let fs : List (SkBuff × HookEnv) := [(⟨marketFrame, fun _ => 0, true⟩, okEnv)]
    s.stats = resetStats ∧ (∀ f ∈ fs, (f.2.endTime - f.2.startTime).toNat ≤ 50) ∧
      fs.length * (50 + 1) < 2 ^ 64 ∧
      let st := (hookRun (fun _ _ _ _ => 0) s fs).2.stats
      (st.packetsProcessed = 0 ∨
        (st.minProcessTimeNs ≤ st.avgProcessTimeNs ∧ st.avgProcessTimeNs ≤ st.maxProcessTimeNs)) :=
  ⟨by decide, by decide, by decide,
    hookRun_avg_between (fun _ _ _ _ => 0) { NanoNetState.init with config := udpEndpoint }
      [(⟨marketFrame, fun _ => 0, true⟩, okEnv)] 50 (by decide) (by decide) (by decide)⟩

/-- A frame timed across a backward step of the clock (`start_time` 1,
    `end_time` 0: a duration of 2^64 - 1) and then one of 1 ns, from the
    initial statistics: the sum `avg * 1 + 1` wraps to 0, and the mean ends
    at 0, below the minimum 1. -/
theorem wrapped_duration_puts_avg_below_min :
    let st : UllStats := (hookRun (fun _ _ _ _ => 0) { NanoNetState.init with config := udpEndpoint }
      [(⟨marketFrame, fun _ => 0, true⟩, { okEnv with startTime := 1, endTime := 0 }),
       (⟨marketFrame, fun _ => 0, true⟩, { okEnv with startTime := 0, endTime := 1 })]).2.stats
    st.packetsProcessed = 2 ∧ st.lastProcessTimeNs = 1 ∧ st.minProcessTimeNs = 1 ∧
      st.maxProcessTimeNs = BitVec.allOnes 64 ∧ st.avgProcessTimeNs = 0 := by
  decide

end NanoNet
