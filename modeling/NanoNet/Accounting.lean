/-
  NanoNet.Accounting

  The packet counters over runs of `nanonet_hook`.

  Each run ends at one exit and moves the counters by that exit alone
  (`nanonetHook_counters`): a bypass exit increments `packets_bypassed`, a
  rejection by the parser, the validator or the tracker increments only
  `errors`, and a run through the application logic increments
  `packets_processed`, and `errors` too when the logic failed. So a rejected
  frame is counted in neither `packets_processed` nor `packets_bypassed`,
  and the parser's `-EPROTONOSUPPORT` (Unsupported) is a rejection like any
  other. `responses_sent` never moves: the application logic reports a sent
  response as `0`, and the hook counts a response only on a positive result.
-/
import NanoNet.Hook

namespace NanoNet

/-! ## Exit classes -/

/-- The exits that count as bypassed. -/
def HookExit.bypassed : HookExit → Bool
  | .disabled | .addrMismatch | .tcpPortMismatch | .udpPortMismatch => true
  | _ => false

/-- The rejections before the application logic: parser, validator, tracker. -/
def HookExit.rejected : HookExit → Bool
  | .parseFailed _ | .invalid _ | .untracked _ => true
  | _ => false

/-- A run of the application logic that failed. -/
def HookExit.appFailed : HookExit → Bool
  | .processed r => decide (r < 0)
  | _ => false

/-! ## One run -/

section Step

variable (s : NanoNetState) (env : HookEnv) (skb : SkBuff) (ip : Nat) (p : ParsedPacket)

theorem hookFinish_counters :
    let o := (hookFinish s env skb ip p).val
    let r := (hookApp s env skb p).result
    o.state.stats.packetsProcessed = s.stats.packetsProcessed + 1 ∧
    o.state.stats.packetsBypassed = s.stats.packetsBypassed ∧
    o.state.stats.errors = s.stats.errors + (if r < 0 then 1 else 0) ∧
    o.state.stats.responsesSent = s.stats.responsesSent := by
  have hr := nanonetProcessApplicationLogic_result_nonpos env.app skb p.payload p.payloadLen
    s.config s.pool
  dsimp only [hookFinish, Reads.val_bind, Reads.val_pure, UllStats.recordTime]
  by_cases h1 : (hookApp s env skb p).result < 0
  · simp only [hookApp] at h1
    simp [h1, UllStats.error]
  · have h2 : ¬(hookApp s env skb p).result > 0 := by simp only [hookApp]; omega
    simp only [hookApp] at h1 h2
    simp [h1, h2]

variable (jhash : JHash)

/-- How one run of the hook moves the counters: `packets_processed` plus
    `packets_bypassed` grows by one unless the frame was rejected; `errors`
    grows for a rejection and for a failed application logic; and
    `responses_sent` stays put. -/
theorem nanonetHook_counters :
    let o := (nanonetHook jhash s env skb).val
    o.state.stats.packetsProcessed + o.state.stats.packetsBypassed =
      s.stats.packetsProcessed + s.stats.packetsBypassed + (if o.exit.rejected then 0 else 1) ∧
    o.state.stats.errors =
      s.stats.errors + (if o.exit.rejected then 1 else 0) + (if o.exit.appFailed then 1 else 0) ∧
    o.state.stats.responsesSent = s.stats.responsesSent := by
  rcases nanonetHook_cases jhash s env skb with ⟨e, conns, active, he, h, -⟩ | ⟨conns, active, ip, p, h, -⟩
  · simp only [h]
    cases e <;> simp_all [HookExit.early, HookExit.bump, HookExit.rejected, HookExit.appFailed,
      UllStats.bypass, UllStats.error, add_assoc]
  · obtain ⟨h1, h2, h3, h4⟩ := hookFinish_counters
      { s with conns := conns, stats := { s.stats with connectionsActive := active } } env skb ip p
    simp only [h, h1, h2, h3, h4, hookFinish_exit, HookExit.rejected, HookExit.appFailed]
    refine ⟨by simp; omega, ?_, trivial⟩
    split <;> simp_all

end Step

/-! ## Runs -/

section Run

variable (jhash : JHash)

/-- Over any run: `packets_processed + packets_bypassed` plus the rejected
    frames is what it was plus the number of frames, `errors` grows by the
    rejections and the failed application-logic runs, and `responses_sent`
    does not move. -/
theorem hookRun_counters (s : NanoNetState) (fs : List (SkBuff × HookEnv)) :
    let r := hookRun jhash s fs
    r.2.stats.packetsProcessed + r.2.stats.packetsBypassed + r.1.countP HookExit.rejected =
      s.stats.packetsProcessed + s.stats.packetsBypassed + fs.length ∧
    r.2.stats.errors =
      s.stats.errors + r.1.countP HookExit.rejected + r.1.countP HookExit.appFailed ∧
    r.2.stats.responsesSent = s.stats.responsesSent := by
  induction fs generalizing s with
  | nil => simp [hookRun]
  | cons f fs ih =>
    obtain ⟨skb, env⟩ := f
    obtain ⟨h1, h2, h3⟩ := nanonetHook_counters s env skb jhash
    obtain ⟨i1, i2, i3⟩ := ih (nanonetHook jhash s env skb).val.state
    simp only [hookRun, List.countP_cons, List.length_cons]
    refine ⟨?_, ?_, i3.trans h3⟩ <;>
      by_cases hrej : (nanonetHook jhash s env skb).val.exit.rejected = true <;>
      by_cases happ : (nanonetHook jhash s env skb).val.exit.appFailed = true <;>
      simp only [hrej, happ, if_true, if_false, Bool.false_eq_true] at h1 h2 i1 i2 ⊢ <;>
      push_cast <;> omega

/-- The accounting law of `nanonet_hook` after `NANONET_IOC_RESET_STATS`:
    after any sequence of frames, `packets_processed + packets_bypassed`
    plus the number of frames rejected by the parser, the validator or the
    tracker equals the number of frames, and `errors` equals those
    rejections plus the frames whose application logic or response failed;
    both also on the 64-bit values the `atomic64_t` counters hold, however
    long the run. A frame the parser rejects as Unsupported
    (`-EPROTONOSUPPORT`) is such a rejection: it adds one to `errors` and
    nothing to `packets_bypassed`. -/
theorem hookRun_accounting_after_reset (s : NanoNetState) (fs : List (SkBuff × HookEnv)) :
    let r := hookRun jhash { s with stats := resetStats } fs
    (r.2.stats.packetsProcessed + r.2.stats.packetsBypassed + r.1.countP HookExit.rejected =
      fs.length ∧
    r.2.stats.errors = r.1.countP HookExit.rejected + r.1.countP HookExit.appFailed ∧
    atomic64 r.2.stats.packetsProcessed + atomic64 r.2.stats.packetsBypassed +
      BitVec.ofNat 64 (r.1.countP HookExit.rejected) = BitVec.ofNat 64 fs.length ∧
    atomic64 r.2.stats.errors =
      BitVec.ofNat 64 (r.1.countP HookExit.rejected) + BitVec.ofNat 64 (r.1.countP HookExit.appFailed)) ∧
    ∀ s' env skb, s'.config.enabled = true → skb.dev = true →
      (ullParsePacket skb).val.1 = -eprotonosupport →
      let o := (nanonetHook jhash s' env skb).val
      o.exit = .parseFailed (-eprotonosupport) ∧ o.exit.rejected ∧
      o.state.stats.errors = s'.stats.errors + 1 ∧
      o.state.stats.packetsBypassed = s'.stats.packetsBypassed := by
  obtain ⟨h1, h2, -⟩ := hookRun_counters jhash { s with stats := resetStats } fs
  simp only [resetStats, zero_add] at h1 h2
  refine ⟨⟨h1, h2, ?_, ?_⟩, ?_⟩
  · simpa only [atomic64_add, atomic64_natCast] using congrArg atomic64 h1
  · simpa only [atomic64_add, atomic64_natCast] using congrArg atomic64 h2
  intro s' env skb hen hdev hp
  have hne : ¬(!s'.config.enabled || !skb.dev) = true := by simp [hen, hdev]
  have hneg : (ullParsePacket skb).val.1 < 0 := by rw [hp]; decide
  simp only [nanonetHook, if_neg hne, Reads.val_bind, if_pos hneg, Reads.val_pure, hp]
  exact ⟨rfl, rfl, rfl, rfl⟩

/-- An ARP request (EtherType 0x0806) from 10.0.0.2 for 10.0.0.1. -/
def arpFrame : List Byte :=
  [0xFF, 0xFF, 0xFF, 0xFF, 0xFF, 0xFF, 0x02, 0x00, 0x00, 0x00, 0x00, 0x02, 0x08, 0x06,
   0x00, 0x01, 0x08, 0x00, 0x06, 0x04, 0x00, 0x01, 0x02, 0x00, 0x00, 0x00, 0x00, 0x02,
   0x0A, 0x00, 0x00, 0x02, 0x00, 0x00, 0x00, 0x00, 0x00, 0x00, 0x0A, 0x00, 0x00, 0x01]

/-- After a reset, one ARP frame at an enabled endpoint: the parser answers
    `-EPROTONOSUPPORT`, the frame counts as an error, and
    `packets_processed + packets_bypassed` stays 0 after one frame. -/
theorem unsupported_frame_is_an_error_not_a_bypass :
    let r : List HookExit × NanoNetState := hookRun (fun _ _ _ _ => 0)
      { NanoNetState.init with config := udpEndpoint, stats := resetStats }
      [(⟨arpFrame, fun _ => 0, true⟩, okEnv)]
    r.1 = [.parseFailed (-eprotonosupport)] ∧
    r.2.stats.packetsProcessed + r.2.stats.packetsBypassed = 0 ∧ r.2.stats.errors = 1 := by
  decide

/-- `nanonet_hook` never changes `responses_sent`, for any frame,
    configuration and kernel answers, a transmitted response included. -/
theorem nanonetHook_responsesSent (s : NanoNetState) (env : HookEnv) (skb : SkBuff) :
    (nanonetHook jhash s env skb).val.state.stats.responsesSent = s.stats.responsesSent :=
  (nanonetHook_counters s env skb jhash).2.2

end Run

/-! ## A transmitted order that is not counted -/

/-- The market frame, at the UDP endpoint after `nanonet_init`: the hook
    hands the order to the device, which queues it, and `responses_sent`
    stays 0. -/
theorem sent_order_leaves_responsesSent_zero :
    let o : HookOut := (nanonetHook (fun _ _ _ _ => 0) { NanoNetState.init with config := udpEndpoint }
      okEnv ⟨marketFrame, fun _ => 0, true⟩).val
    o.exit = .processed 0 ∧ o.xmit.map Xmit.ok = some true ∧ o.state.stats.responsesSent = 0 := by
  decide

end NanoNet
