/-
  NanoNet.Interleaving

  The statements of `nanonet_hook` that update `packets_processed` and
  `avg_process_time_ns` (nanonet.c:123-137), run by any number of
  invocations at once, interleaved with `NANONET_IOC_RESET_STATS`.

  Each invocation increments the counter atomically, then reads it twice,
  once in the numerator and once as the divisor of

    avg = (avg * (atomic64_read(&packets_processed) - 1) + process_time)
            / atomic64_read(&packets_processed)

  in either order (C leaves the order of the two reads open), and divides.
  A reset stores 0 into the counter. Every step of an invocation is atomic
  and a reset is one step; an event that names an invocation not at that
  point does nothing. The divisors the divisions used are kept as a ghost
  history.

  A reset between an invocation's increment and its read of the divisor
  makes that divisor 0 (`reset_between_increment_and_read_divides_by_zero`);
  a `u64` division by zero is a divide error, fatal in the kernel. With no
  reset, every divisor is at least 1 (`avgRun_divisors_pos`). One invocation
  run alone updates the counter and the mean as `hookFinish` does
  (`avgRun_alone_eq_hookFinish`).
-/
import NanoNet.Hook

namespace NanoNet

/-! ## Invocations and events -/

/-- Where one invocation is in the update; `dt` is its `process_time`. -/
inductive Phase
  /-- Before `atomic64_inc(&global_stats.packets_processed)`. -/
  | start (dt : BitVec 64)
  /-- Incremented; neither read done. -/
  | counted (dt : BitVec 64)
  /-- The read in the numerator done. -/
  | numRead (dt : BitVec 64) (num : Int)
  /-- The read of the divisor done. -/
  | denRead (dt : BitVec 64) (den : Int)
  | bothRead (dt : BitVec 64) (num den : Int)
  /-- Divided and stored. -/
  | done
  deriving DecidableEq, Repr

/-- The shared counter and mean, the invocations, and the divisors used so
    far (oldest first). -/
structure AvgState where
  packetsProcessed : Int
  avgProcessTimeNs : BitVec 64
  threads : List Phase
  divisors : List Int
  deriving DecidableEq, Repr

/-- One atomic step: of invocation `t`, or a reset. -/
inductive AvgEvent
  | inc (t : Nat)
  | readNum (t : Nat)
  | readDen (t : Nat)
  | divide (t : Nat)
  | reset
  deriving DecidableEq, Repr

namespace AvgState

def phase (s : AvgState) (t : Nat) : Phase := s.threads.getD t .done

def setPhase (s : AvgState) (t : Nat) (p : Phase) : AvgState := { s with threads := s.threads.set t p }

end AvgState

def avgStep (s : AvgState) : AvgEvent → AvgState
  | .inc t =>
    match s.phase t with
    | .start dt => { s.setPhase t (.counted dt) with packetsProcessed := s.packetsProcessed + 1 }
    | _ => s
  | .readNum t =>
    match s.phase t with
    | .counted dt => s.setPhase t (.numRead dt s.packetsProcessed)
    | .denRead dt d => s.setPhase t (.bothRead dt s.packetsProcessed d)
    | _ => s
  | .readDen t =>
    match s.phase t with
    | .counted dt => s.setPhase t (.denRead dt s.packetsProcessed)
    | .numRead dt n => s.setPhase t (.bothRead dt n s.packetsProcessed)
    | _ => s
  | .divide t =>
    match s.phase t with
    | .bothRead dt n d =>
      { s.setPhase t .done with
        avgProcessTimeNs := avgUpdate s.avgProcessTimeNs dt n d
        divisors := s.divisors ++ [d] }
    | _ => s
  | .reset => { s with packetsProcessed := 0, avgProcessTimeNs := 0 }

def avgRun (s : AvgState) (es : List AvgEvent) : AvgState := es.foldl avgStep s

@[simp] theorem avgRun_nil (s : AvgState) : avgRun s [] = s := rfl
@[simp] theorem avgRun_cons (s : AvgState) (e : AvgEvent) (es : List AvgEvent) :
    avgRun s (e :: es) = avgRun (avgStep s e) es := rfl

/-! ## A reset inside the window -/

/-- Whatever the counter and the mean were: invocation 0 increments, a
    reset lands, and the invocation reads 0 in the numerator and as the
    divisor, and divides by 0. -/
theorem reset_between_increment_and_read_divides_by_zero (n : Int) (avg dt : BitVec 64) :
    (avgRun ⟨n, avg, [.start dt], []⟩
      [.inc 0, .reset, .readNum 0, .readDen 0, .divide 0]).divisors = [0] := rfl

/-! ## No reset, no zero divisor -/

/-- The reads of the counter an invocation has made. -/
def Phase.reads : Phase → List Int
  | .numRead _ n => [n]
  | .denRead _ d => [d]
  | .bothRead _ n d => [n, d]
  | _ => []

/-- An invocation past its increment. -/
def Phase.counts : Phase → Bool
  | .start _ | .done => false
  | _ => true

/-- The invariant of reset-free runs: the counter is not negative, and at
    least 1 once an invocation has incremented it; every read and every
    divisor used is at least 1. -/
structure AvgState.Inv (s : AvgState) : Prop where
  nonneg : 0 ≤ s.packetsProcessed
  counted : ∀ p ∈ s.threads, p.counts = true → 1 ≤ s.packetsProcessed
  reads : ∀ p ∈ s.threads, ∀ v ∈ p.reads, 1 ≤ v
  divisors : ∀ d ∈ s.divisors, 1 ≤ d

theorem AvgState.phase_mem {s : AvgState} {t : Nat} (h : s.phase t ≠ .done) :
    s.phase t ∈ s.threads := by
  unfold phase at *
  rw [List.getD_eq_getElem?_getD] at *
  cases ht : s.threads[t]? with
  | none => simp [ht] at h
  | some p => simpa [ht] using List.getElem?_mem ht

/-- What the invariant says of the phase of one invocation. -/
theorem AvgState.Inv.phase {s : AvgState} (hs : s.Inv) {t : Nat} {p : Phase} (hp : s.phase t = p)
    (hd : p ≠ .done) : (p.counts = true → 1 ≤ s.packetsProcessed) ∧ ∀ v ∈ p.reads, 1 ≤ v := by
  subst hp
  exact ⟨hs.counted _ (AvgState.phase_mem hd), hs.reads _ (AvgState.phase_mem hd)⟩

/-- A state that differs by one invocation's phase, a counter no smaller, and
    divisors of at least 1 keeps the invariant if the new phase keeps it. -/
theorem AvgState.Inv.of_set {s s' : AvgState} (hs : s.Inv) {t : Nat} {p : Phase}
    (ht : s'.threads = s.threads.set t p) (hn : s.packetsProcessed ≤ s'.packetsProcessed)
    (hc : p.counts = true → 1 ≤ s'.packetsProcessed) (hr : ∀ v ∈ p.reads, 1 ≤ v)
    (hd : ∀ d ∈ s'.divisors, d ∈ s.divisors ∨ 1 ≤ d) : s'.Inv := by
  refine ⟨by have := hs.nonneg; omega, fun q hq hqc => ?_, fun q hq => ?_, fun d h => ?_⟩
  · rcases List.mem_or_eq_of_mem_set (ht ▸ hq) with hq | rfl
    · have := hs.counted q hq hqc; omega
    · exact hc hqc
  · rcases List.mem_or_eq_of_mem_set (ht ▸ hq) with hq | rfl
    · exact hs.reads q hq
    · exact hr
  · exact (hd d h).elim (hs.divisors d) id

/-- One step other than a reset keeps the invariant. -/
theorem AvgState.Inv.step {s : AvgState} (hs : s.Inv) (e : AvgEvent) (he : e ≠ .reset) :
    (avgStep s e).Inv := by
  cases e with
  | reset => exact absurd rfl he
  | inc t =>
    cases hp : s.phase t <;> simp only [avgStep, hp]
    case start dt =>
      have h0 := hs.nonneg
      exact hs.of_set rfl (Int.le_add_one le_rfl) (fun _ => by show 1 ≤ s.packetsProcessed + 1; omega)
        (by simp [Phase.reads]) (fun d h => .inl h)
    all_goals exact hs
  | readNum t =>
    cases hp : s.phase t <;> simp only [avgStep, hp]
    case counted dt =>
      have h := (hs.phase hp (by simp)).1 rfl
      exact hs.of_set rfl le_rfl (fun _ => h) (by simpa [Phase.reads] using h) (fun d h => .inl h)
    case denRead dt d =>
      have ⟨h1, h2⟩ := hs.phase hp (by simp)
      have hd := h2 d (by simp [Phase.reads])
      exact hs.of_set rfl le_rfl (fun _ => h1 rfl) (by simpa [Phase.reads] using ⟨h1 rfl, hd⟩)
        (fun d h => .inl h)
    all_goals exact hs
  | readDen t =>
    cases hp : s.phase t <;> simp only [avgStep, hp]
    case counted dt =>
      have h := (hs.phase hp (by simp)).1 rfl
      exact hs.of_set rfl le_rfl (fun _ => h) (by simpa [Phase.reads] using h) (fun d h => .inl h)
    case numRead dt n =>
      have ⟨h1, h2⟩ := hs.phase hp (by simp)
      have hn := h2 n (by simp [Phase.reads])
      exact hs.of_set rfl le_rfl (fun _ => h1 rfl) (by simpa [Phase.reads] using ⟨hn, h1 rfl⟩)
        (fun d h => .inl h)
    all_goals exact hs
  | divide t =>
    cases hp : s.phase t <;> simp only [avgStep, hp]
    case bothRead dt n d =>
      have h := (hs.phase hp (by simp)).2 d (by simp [Phase.reads])
      refine hs.of_set rfl le_rfl (fun h => absurd h Bool.false_ne_true)
        (fun v hv => absurd hv (List.not_mem_nil v)) fun e he => ?_
      rcases List.mem_append.1 he with he | he
      · exact .inl he
      · exact .inr (List.mem_singleton.1 he ▸ h)
    all_goals exact hs

/-- Over a run without resets the invariant holds throughout. -/
theorem AvgState.Inv.run {s : AvgState} (hs : s.Inv) (es : List AvgEvent)
    (hr : AvgEvent.reset ∉ es) : (avgRun s es).Inv := by
  induction es generalizing s with
  | nil => exact hs
  | cons e es ih =>
    rw [List.mem_cons, not_or] at hr
    exact ih (hs.step e (Ne.symm hr.1)) hr.2

/-- With no reset, from invocations all at their start and a counter that is
    not negative, every division of the average update, in any interleaving,
    divides by at least 1. -/
theorem avgRun_divisors_pos (s : AvgState) (es : List AvgEvent) (h0 : 0 ≤ s.packetsProcessed)
    (hs : ∀ p ∈ s.threads, ∃ dt, p = .start dt) (hd : s.divisors = [])
    (hr : AvgEvent.reset ∉ es) : ∀ d ∈ (avgRun s es).divisors, 1 ≤ d := by
  have hi : s.Inv := by
    refine ⟨h0, fun p hp hc => ?_, fun p hp => ?_, by simp [hd]⟩ <;>
      obtain ⟨dt, rfl⟩ := hs p hp
    · exact absurd hc Bool.false_ne_true
    · exact fun v hv => absurd hv (List.not_mem_nil v)
  exact (hi.run es hr).divisors

/-- Two invocations from a counter of 0, interleaved: both increment, then
    each reads and divides. -/
theorem avgRun_divisors_pos_two :
    (0 : Int) ≤ 0 ∧ (∀ p ∈ [Phase.start 30, .start 40], ∃ dt, p = .start dt) ∧
    ([] : List Int) = [] ∧
    AvgEvent.reset ∉ [.inc 0, .inc 1, .readDen 1, .readNum 0, .readDen 0, .divide 0, .readNum 1,
      .divide 1] ∧
    ∀ d ∈ (avgRun ⟨0, 0, [.start 30, .start 40], []⟩ [.inc 0, .inc 1, .readDen 1, .readNum 0,
      .readDen 0, .divide 0, .readNum 1, .divide 1]).divisors, 1 ≤ d :=
  ⟨le_rfl, by simp, rfl, by simp,
    avgRun_divisors_pos ⟨0, 0, [.start 30, .start 40], []⟩ _ le_rfl (by simp) rfl (by simp)⟩

/-! ## One invocation alone is the hook's update -/

@[simp] theorem AvgState.phase_append (n : Int) (a : BitVec 64) (pre post : List Phase)
    (x : Phase) (ds : List Int) : (AvgState.mk n a (pre ++ x :: post) ds).phase pre.length = x := by
  simp only [AvgState.phase, List.getD_eq_getElem?_getD, List.getElem?_append_right (le_refl _),
    Nat.sub_self, List.getElem?_cons_zero, Option.getD_some]

@[simp] theorem AvgState.setPhase_append (n : Int) (a : BitVec 64) (pre post : List Phase)
    (x y : Phase) (ds : List Int) :
    (AvgState.mk n a (pre ++ x :: post) ds).setPhase pre.length y = ⟨n, a, pre ++ y :: post, ds⟩ := by
  simp [AvgState.setPhase, List.set_append_right]

/-- The counter and the mean after the hook's tail. -/
theorem hookFinish_avg (s : NanoNetState) (env : HookEnv) (skb : SkBuff) (ip : Nat)
    (p : ParsedPacket) :
    let st := (hookFinish s env skb ip p).val.state.stats
    st.packetsProcessed = s.stats.packetsProcessed + 1 ∧
    st.avgProcessTimeNs = avgUpdate s.stats.avgProcessTimeNs (env.endTime - env.startTime)
      (s.stats.packetsProcessed + 1) (s.stats.packetsProcessed + 1) := by
  dsimp only [hookFinish, Reads.val_bind, Reads.val_pure, UllStats.recordTime]
  split_ifs <;> exact ⟨rfl, rfl⟩

/-- An invocation whose four steps run with no other step between them, from
    the counter and mean of the globals `s`, leaves the counter and the mean
    that `nanonet_hook`'s tail computes from `s`, and divides by the
    incremented counter. -/
theorem avgRun_alone_eq_hookFinish (s : NanoNetState) (env : HookEnv) (skb : SkBuff) (ip : Nat)
    (p : ParsedPacket) (pre post : List Phase) (ds : List Int) :
    let a : AvgState := ⟨s.stats.packetsProcessed, s.stats.avgProcessTimeNs,
      pre ++ .start (env.endTime - env.startTime) :: post, ds⟩
    let r := avgRun a [.inc pre.length, .readNum pre.length, .readDen pre.length, .divide pre.length]
    let st := (hookFinish s env skb ip p).val.state.stats
    r.packetsProcessed = st.packetsProcessed ∧ r.avgProcessTimeNs = st.avgProcessTimeNs ∧
      r.divisors = ds ++ [st.packetsProcessed] := by
  obtain ⟨h1, h2⟩ := hookFinish_avg s env skb ip p
  simp only [avgRun_cons, avgRun_nil, avgStep, AvgState.phase_append, AvgState.setPhase_append]
  exact ⟨h1.symm, h2.symm, by rw [h1]⟩

end NanoNet
