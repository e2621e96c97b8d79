/-
  NanoNet.Lifecycle

  optimizations.c's `response_pool` over the module's life, and what the
  module holds from the kernel between `nanonet_init` and `nanonet_exit`.

  `nanonet_init_response_pool` fills all `RESPONSE_POOL_SIZE` slots with
  `head = tail = 0`, and `nanonet_get_response_skb` is the only function that
  touches the ring afterwards: it hands out `pool[head]`, clears that slot and
  advances `head`, and nothing ever puts a buffer back or moves `tail`. So
  from module init, over every run of frames and control commands, the pool
  is `ResponsePool.taken k` for some `k < 256` (`sysRun_pool_taken`): the
  first `k` buffers gone, the others in place. The next call hands out
  buffer `k`, never a cleared slot, until `head + 1` meets `tail = 0`; then
  the ring reads as empty and stays so (`sysRun_pool_fixed`), with its last
  buffer never used, and every later response falls back to `alloc_skb`.

  What the module holds is a ledger (`Held`). Each kernel call is read by
  its name: `dev_get_by_name` takes a reference that `dev_put` drops,
  `alloc_skb` and `kmalloc` a buffer that `kfree_skb` and `kfree` free, and
  each `create`, `add`, `register` or `join` its object until the matching
  `destroy`, `del`, `unregister` or `remove`; `debugfs_remove_recursive`
  removes the directory with its file, and ignores an error pointer. The
  kernel's answers at load are inputs (`LoadEnv`), and so is the
  configuration `init_multicast` reads: the control device exists from
  `nanonet_control_init` on, so a `SET_CONFIG` can land before it.

  A pointer result is an object, `NULL` or an `ERR_PTR` (`KPtr`). On the
  kernels this code is written for (`class_create` with an owner,
  `proc_create` with `file_operations`), `debugfs_create_dir` and
  `debugfs_create_file` answer an error pointer and never `NULL`, so the
  `!ptr` tests of `nanonet_debug_init` never fire: it returns 0 whatever
  debugfs answers (`nanonetDebugInit_eq`), and a load succeeds without the
  directory or the file. Every other failure of `nanonet_init` unwinds what
  it took (`nanonetControlInit_cases`, `poolFill_cases`); a multicast
  membership, joined only when such a `SET_CONFIG` enabled multicast, is
  never left.

  Over a run the ledger follows the globals (`Held.Running`,
  `heldStep_running`): a buffer handed out of the pool leaves it, each
  response, built with no original frame, keeps the eth0 reference its
  `dev_get_by_name` took, each flow record the tracker allocates stays
  until a `CLEAR_CONNECTIONS`, and each frame the hook returns `NF_STOLEN`
  for stays with the module, neither freed nor queued
  (`lifeRun_stolenSkbs`). `nanonet_exit` frees every pool buffer still in
  place and every object and drops one reference, but never clears the
  flow table (`nanonetExit_running`).
-/
import NanoNet.Control

namespace NanoNet

/-! ## One event: the pool and the flow table -/

/-- A run of the hook asks the pool at most once. -/
theorem nanonetHook_pool (jhash : JHash) (s : NanoNetState) (env : HookEnv) (skb : SkBuff) :
    (nanonetHook jhash s env skb).val.state.pool = s.pool ∨
      (nanonetHook jhash s env skb).val.state.pool = (nanonetGetResponseSkb s.pool).2 := by
  rcases nanonetHook_cases jhash s env skb with ⟨e, conns, active, -, h, -⟩ | ⟨conns, active, ip, p, h, -⟩
  · exact .inl (by rw [h])
  · rw [h, hookFinish_pool]
    exact nanonetProcessApplicationLogic_pool _ _ _ _ _ _

theorem sysStep_pool (jhash : JHash) (s : NanoNetState) (e : SysEvent) :
    (sysStep jhash s e).2.pool = s.pool ∨ (sysStep jhash s e).2.pool = (nanonetGetResponseSkb s.pool).2 := by
  cases e with
  | ioctl cmd user => exact .inl (nanonetIoctl_pool s cmd user)
  | frame skb env => exact nanonetHook_pool jhash s env skb

/-- A pool whose first `k` buffers, and only those, have been handed out. -/
def ResponsePool.Taken (p : ResponsePool) : Prop :=
  ∃ k < responsePoolSize, p = ResponsePool.taken k

theorem ResponsePool.Taken.get {p : ResponsePool} (h : p.Taken) : (nanonetGetResponseSkb p).2.Taken := by
  obtain ⟨k, hk, rfl⟩ := h
  rw [nanonetGetResponseSkb_taken hk]
  split_ifs with h1
  · exact ⟨k, hk, rfl⟩
  · exact ⟨k + 1, by simp only [responsePoolSize] at hk h1 ⊢; omega, rfl⟩

theorem sysRun_pool_taken (jhash : JHash) (s : NanoNetState) (es : List SysEvent) (h : s.pool.Taken) :
    (sysRun jhash s es).2.pool.Taken := by
  induction es generalizing s with
  | nil => exact h
  | cons e es ih =>
    apply ih
    rcases sysStep_pool jhash s e with he | he <;> rw [he]
    exacts [h, h.get]

/-- A pool that refuses a call is left as it is by every later run. -/
theorem sysRun_pool_fixed (jhash : JHash) (s : NanoNetState) (es : List SysEvent)
    (h : (nanonetGetResponseSkb s.pool).2 = s.pool) : (sysRun jhash s es).2.pool = s.pool := by
  induction es generalizing s with
  | nil => rfl
  | cons e es ih =>
    have he : (sysStep jhash s e).2.pool = s.pool := (sysStep_pool jhash s e).elim id (·.trans h)
    exact (ih _ (by rw [he]; exact h)).trans he

/-- From module init, over every run of frames and control commands, the
    pool has handed out exactly its first `k` buffers for some `k < 256`;
    the next call hands out buffer `k`, unless `k = 255`, where the pool
    refuses the call, and every later run leaves it at `k = 255`. -/
theorem sysRun_responsePool (jhash : JHash) (es : List SysEvent) :
    let p := (sysRun jhash NanoNetState.init es).2.pool
    ∃ k < responsePoolSize, p = ResponsePool.taken k ∧
      nanonetGetResponseSkb p =
        (if k + 1 = responsePoolSize then (false, p) else (true, ResponsePool.taken (k + 1))) ∧
      (k + 1 = responsePoolSize → ∀ es', (sysRun jhash NanoNetState.init (es ++ es')).2.pool = p) := by
  obtain ⟨k, hk, hp⟩ := sysRun_pool_taken jhash NanoNetState.init es ⟨0, by decide, rfl⟩
  have hget := nanonetGetResponseSkb_taken hk
  refine ⟨k, hk, hp, by rw [hp, hget], fun hlast es' => ?_⟩
  rw [sysRun_append]
  exact sysRun_pool_fixed jhash _ es' (by rw [hp, hget, if_pos hlast])

/-! ## What the module holds -/

/-- What the module holds from the kernel. -/
structure Held where
  /-- References on eth0 taken by `dev_get_by_name` and not yet dropped. -/
  eth0Refs : Nat
  /-- Pre-allocated `response_pool` buffers the module still owns. -/
  poolSkbs : Nat
  /-- Flow records `nanonet_track_tcp_connection` allocated and
      `nanonet_clear_tcp_connections` has not freed. -/
  flowRecords : Nat
  /-- Ingress buffers the hook returned `NF_STOLEN` for: taken from the
      stack, and neither freed nor queued. -/
  stolenSkbs : Nat
  chrdevRegion : Bool
  cdev : Bool
  devClass : Bool
  device : Bool
  procEntry : Bool
  debugDir : Bool
  debugFile : Bool
  mcGroup : Bool
  netHook : Bool
  deriving DecidableEq, Repr

/-- Nothing held. -/
def Held.none : Held := ⟨0, 0, 0, 0, false, false, false, false, false, false, false, false, false⟩

/-- What a loaded module holds: its eth0 reference, the full pool and every
    object, the netfilter hook included; multicast aside. -/
def Held.loaded : Held := ⟨1, responsePoolSize, 0, 0, true, true, true, true, true, true, true, false, true⟩

/-- `dev_put(target_dev)`. -/
def devPut (h : Held) : Held := { h with eth0Refs := h.eth0Refs - 1 }

/-- A negative errno, as `PTR_ERR` reads an `ERR_PTR`. -/
abbrev ErrNo := { e : Int // e < 0 }

/-- A pointer a kernel call returns: an object, `NULL`, or an `ERR_PTR`. -/
inductive KPtr
  | obj
  | null
  | err (e : ErrNo)
  deriving DecidableEq

/-- The pointer of a call that answers with an object or an error pointer. -/
def KPtr.ofErr : Option ErrNo → KPtr
  | none => .obj
  | some e => .err e

/-- The kernel's answers while the module loads. -/
structure LoadEnv where
  /-- `dev_get_by_name(&init_net, "eth0")` finds the device. -/
  eth0 : Bool
  /-- `alloc_skb(1500, GFP_KERNEL | __GFP_NUMA)` for pool slot `i` succeeds. -/
  poolAlloc : Nat → Bool
  /-- The results of `alloc_chrdev_region` and `cdev_add`. -/
  chrdevRet : Int
  cdevAddRet : Int
  /-- `class_create` and `device_create`: an object, or an error pointer. -/
  classErr : Option ErrNo
  deviceErr : Option ErrNo
  /-- `proc_create` returns an entry, or `NULL`. -/
  procOk : Bool
  /-- `debugfs_create_dir` and `debugfs_create_file`: a dentry, or an error
      pointer; neither returns `NULL` on these kernels. -/
  debugDirRet : Option ErrNo
  debugFileRet : Option ErrNo
  /-- The results of `ip_mc_join_group` and `nf_register_net_hook`. -/
  joinRet : Int
  hookRet : Int

/-! ## Load -/

/-- `while (--i >= 0) kfree_skb(response_pool.pool[i])`. -/
def poolFreeBelow : Nat → Held → Held
  | 0, h => h
  | i + 1, h => poolFreeBelow i { h with poolSkbs := h.poolSkbs - 1 }

/-- The loop of `nanonet_init_response_pool` from slot `i`, with `n` slots
    left: fill each slot with a fresh buffer; at the first failure free the
    buffers below it and return `-ENOMEM`. -/
def poolFill (alloc : Nat → Bool) : Nat → Nat → Held → Int × Held
  | 0, _, h => (0, h)
  | n + 1, i, h =>
    if alloc i then poolFill alloc n (i + 1) { h with poolSkbs := h.poolSkbs + 1 }
    else (-enomem, poolFreeBelow i h)

/-- `nanonet_init_response_pool()`. -/
def nanonetInitResponsePool (alloc : Nat → Bool) (h : Held) : Int × Held :=
  poolFill alloc responsePoolSize 0 h

/-- `nanonet_cleanup_response_pool()`: free the buffer of every slot that
    still holds one. -/
def nanonetCleanupResponsePool (p : ResponsePool) (h : Held) : Held :=
  p.slots.foldl (fun h slot => if slot then { h with poolSkbs := h.poolSkbs - 1 } else h) h

/-- `nanonet_control_init()`: region, `cdev`, class, device and proc entry,
    each failure undoing the steps before it. -/
def nanonetControlInit (env : LoadEnv) (h : Held) : Int × Held :=
  if env.chrdevRet < 0 then (env.chrdevRet, h) else
  let h := { h with chrdevRegion := true }
  if env.cdevAddRet < 0 then (env.cdevAddRet, { h with chrdevRegion := false }) else
  let h := { h with cdev := true }
  match env.classErr with
  | some e => (e.1, { h with cdev := false, chrdevRegion := false })
  | none =>
    let h := { h with devClass := true }
    match env.deviceErr with
    | some e => (e.1, { h with devClass := false, cdev := false, chrdevRegion := false })
    | none =>
      let h := { h with device := true }
      if !env.procOk then
        (-enomem, { h with device := false, devClass := false, cdev := false, chrdevRegion := false })
      else (0, { h with procEntry := true })

/-- `nanonet_control_cleanup()`. -/
def nanonetControlCleanup (h : Held) : Held :=
  { h with procEntry := false, device := false, devClass := false, cdev := false, chrdevRegion := false }

/-- `nanonet_debug_cleanup()`: `debugfs_remove_recursive` of the directory,
    which does nothing for an error pointer. -/
def nanonetDebugCleanup (h : Held) : Held := { h with debugDir := false, debugFile := false }

/-- `nanonet_debug_init()`: the directory, then its `stats` file in it, each
    result tested with `!ptr`. `debugfs_create_file` under an error-pointer
    parent returns that parent. -/
def nanonetDebugInit (env : LoadEnv) (h : Held) : Int × Held :=
  let dir := KPtr.ofErr env.debugDirRet
  if dir = .null then (-enomem, h) else
  let h := { h with debugDir := dir = .obj }
  let file := match dir with
    | .err e => KPtr.err e
    | _ => KPtr.ofErr env.debugFileRet
  if file = .null then (-enomem, nanonetDebugCleanup h) else
  (0, { h with debugFile := file = .obj })

/-- `init_multicast()`, with `global_config` as it reads it and whether
    `target_dev` is set. -/
def initMulticast (cfg : UllConfig) (targetDev : Bool) (joinRet : Int) (h : Held) : Int × Held :=
  if !cfg.multicast || !targetDev then (0, h)
  else (joinRet, if joinRet < 0 then h else { h with mcGroup := true })

/-- `nanonet_init()`: its result and what the module holds afterwards.
    `cfg` is `global_config` when `init_multicast` reads it. -/
def nanonetInit (env : LoadEnv) (cfg : UllConfig) : Int × Held :=
  if !env.eth0 then (-enodev, Held.none) else
  let (r, h) := nanonetInitResponsePool env.poolAlloc { Held.none with eth0Refs := 1 }
  if r < 0 then (r, devPut h) else
  let (r, h) := nanonetControlInit env h
  if r < 0 then (r, devPut (nanonetCleanupResponsePool ResponsePool.init h)) else
  let (r, h) := nanonetDebugInit env h
  if r < 0 then (r, devPut (nanonetCleanupResponsePool ResponsePool.init (nanonetControlCleanup h))) else
  let (r, h) := initMulticast cfg true env.joinRet h
  let unwind (h : Held) : Held :=
    devPut (nanonetCleanupResponsePool ResponsePool.init (nanonetControlCleanup (nanonetDebugCleanup h)))
  if r < 0 then (r, unwind h) else
  if env.hookRet < 0 then (env.hookRet, unwind h) else
  (0, { h with netHook := true })

/-! ## What a load leaves -/

/-- The buffers a pool with its first `k` handed out still holds. -/
theorem ResponsePool.taken_count (k : Nat) :
    (ResponsePool.taken k).slots.count true = responsePoolSize - k := by
  simp [ResponsePool.taken, List.count_replicate]

theorem poolFreeBelow_eq (i : Nat) (h : Held) : poolFreeBelow i h = { h with poolSkbs := h.poolSkbs - i } := by
  induction i generalizing h with
  | zero => rfl
  | succ i ih => rw [poolFreeBelow, ih]; dsimp only; rw [Nat.sub_sub, Nat.add_comm]

/-- The fill loop from slot `i`, with the `i` buffers below it held, either
    fills the `n` slots left or frees every buffer it holds. -/
theorem poolFill_cases (alloc : Nat → Bool) (n : Nat) :
    ∀ (i : Nat) (h : Held), h.poolSkbs = i →
      poolFill alloc n i h = (-enomem, { h with poolSkbs := 0 }) ∨
        poolFill alloc n i h = (0, { h with poolSkbs := i + n }) := by
  induction n with
  | zero => intro i h hi; exact .inr (by rw [poolFill, ← hi]; rfl)
  | succ n ih =>
    intro i h hi
    rw [poolFill]
    split
    · rcases ih (i + 1) { h with poolSkbs := h.poolSkbs + 1 } (by simp [hi]) with e | e <;> rw [e]
      · exact .inl rfl
      · exact .inr (by congr 2; omega)
    · exact .inl (by rw [poolFreeBelow_eq, hi, Nat.sub_self])

/-- The cleanup frees one buffer per slot that still holds one. -/
theorem nanonetCleanupResponsePool_eq (p : ResponsePool) (h : Held) :
    nanonetCleanupResponsePool p h = { h with poolSkbs := h.poolSkbs - p.slots.count true } := by
  unfold nanonetCleanupResponsePool
  generalize p.slots = l
  induction l generalizing h with
  | nil => rfl
  | cons b l ih =>
    rw [List.foldl_cons, ih]
    cases b
    · simp
    · simp [List.count_cons]; omega

/-- From a ledger holding none of its objects, `nanonet_control_init`
    either fails having undone every step, or holds all five. -/
theorem nanonetControlInit_cases (env : LoadEnv) (h : Held)
    (h0 : h.chrdevRegion = false ∧ h.cdev = false ∧ h.devClass = false ∧ h.device = false ∧
      h.procEntry = false) :
    (∃ r < 0, nanonetControlInit env h = (r, h)) ∨
      nanonetControlInit env h =
        (0, { h with chrdevRegion := true, cdev := true, devClass := true, device := true, procEntry := true }) := by
  obtain ⟨e, p, f, st, c1, c2, c3, c4, c5, d1, d2, m, nh⟩ := h
  obtain ⟨rfl, rfl, rfl, rfl, rfl⟩ := h0
  unfold nanonetControlInit
  by_cases ha : env.chrdevRet < 0
  · exact .inl ⟨_, ha, by simp [ha]⟩
  by_cases hb : env.cdevAddRet < 0
  · exact .inl ⟨_, hb, by simp [ha, hb]⟩
  rcases hc : env.classErr with _ | e
  · rcases hd : env.deviceErr with _ | d
    · cases hp : env.procOk
      · exact .inl ⟨-enomem, by decide, by simp [ha, hb, hc, hd, hp]⟩
      · exact .inr (by simp [ha, hb, hc, hd, hp])
    · exact .inl ⟨d.1, d.2, by simp [ha, hb, hc, hd]⟩
  · exact .inl ⟨e.1, e.2, by simp [ha, hb, hc]⟩

/-- `nanonet_debug_init` never fails: an error pointer passes its `!ptr`
    tests, and the module holds the directory only if debugfs made it, and
    the file only if it made both. -/
theorem nanonetDebugInit_eq (env : LoadEnv) (h : Held) :
    nanonetDebugInit env h = (0, { h with
      debugDir := env.debugDirRet.isNone
      debugFile := env.debugDirRet.isNone && env.debugFileRet.isNone }) := by
  unfold nanonetDebugInit
  cases env.debugDirRet <;> cases env.debugFileRet <;> rfl

/-- `init_multicast` fails holding nothing new, does nothing, or joins the
    group, which it only does with multicast configured. -/
theorem initMulticast_cases (cfg : UllConfig) (t : Bool) (j : Int) (h : Held) :
    j < 0 ∧ initMulticast cfg t j h = (j, h) ∨ initMulticast cfg t j h = (0, h) ∨
      0 ≤ j ∧ cfg.multicast ∧ initMulticast cfg t j h = (j, { h with mcGroup := true }) := by
  unfold initMulticast
  by_cases hm : (!cfg.multicast || !t) = true
  · exact .inr (.inl (if_pos hm))
  rw [if_neg hm]
  simp only [Bool.or_eq_true, Bool.not_eq_true', not_or, Bool.not_eq_false] at hm
  by_cases hj : j < 0
  · exact .inl ⟨hj, by rw [if_pos hj]⟩
  · exact .inr (.inr ⟨by omega, hm.1, by rw [if_neg hj]⟩)

/-- What a load holds: a success holds what a loaded module holds, with the
    debugfs directory and file only where debugfs made them; a failure holds
    nothing; in both, a multicast membership can remain, and only with
    multicast configured. -/
theorem nanonetInit_ledger (env : LoadEnv) (cfg : UllConfig) :
    let r := nanonetInit env cfg
    (r.1 = 0 ∧ r.2 = { Held.loaded with
        debugDir := env.debugDirRet.isNone
        debugFile := env.debugDirRet.isNone && env.debugFileRet.isNone
        mcGroup := r.2.mcGroup } ∨
      r.1 < 0 ∧ r.2 = { Held.none with mcGroup := r.2.mcGroup }) ∧
    (r.2.mcGroup = true → cfg.multicast = true) := by
  have hinit : ResponsePool.init.slots.count true = responsePoolSize := ResponsePool.taken_count 0
  unfold nanonetInit
  cases env.eth0
  · simp [Held.none, enodev]
  simp only [Bool.not_true, Bool.false_eq_true, if_false, nanonetInitResponsePool, Held.none]
  rcases poolFill_cases env.poolAlloc responsePoolSize 0 ⟨1, 0, 0, 0, false, false, false, false, false,
    false, false, false, false⟩ rfl with hp | hp <;> rw [hp]
  · simp [enomem, devPut]
  simp only [Nat.zero_add, lt_self_iff_false, if_false]
  rcases nanonetControlInit_cases env ⟨1, responsePoolSize, 0, 0, false, false, false, false, false, false,
    false, false, false⟩ ⟨rfl, rfl, rfl, rfl, rfl⟩ with ⟨r, hr, hc⟩ | hc <;> rw [hc]
  · simp [hr, nanonetCleanupResponsePool_eq, hinit, devPut]
  simp only [lt_self_iff_false, if_false, nanonetDebugInit_eq]
  rcases initMulticast_cases cfg true env.joinRet ⟨1, responsePoolSize, 0, 0, true, true, true, true, true,
    env.debugDirRet.isNone, env.debugDirRet.isNone && env.debugFileRet.isNone, false, false⟩ with
    ⟨hr, hm⟩ | hm | ⟨hr, hcfg, hm⟩ <;> rw [hm]
  · simp [hr, nanonetCleanupResponsePool_eq, hinit, devPut, nanonetControlCleanup, nanonetDebugCleanup]
  all_goals
    rw [if_neg (by omega)]
    by_cases hk : env.hookRet < 0 <;>
      simp [hk, Held.loaded, nanonetCleanupResponsePool_eq, hinit, devPut, nanonetControlCleanup,
        nanonetDebugCleanup] <;> assumption

/-- What `init_multicast` returns does not depend on the ledger. -/
theorem initMulticast_fst (cfg : UllConfig) (t : Bool) (j : Int) (h : Held) :
    (initMulticast cfg t j h).1 = if !cfg.multicast || !t then 0 else j := by
  unfold initMulticast
  split <;> rfl

/-- What `nanonet_init` returns does not depend on what debugfs answers. -/
theorem nanonetInit_fst_debugfs (env : LoadEnv) (cfg : UllConfig) (d f : Option ErrNo) :
    (nanonetInit { env with debugDirRet := d, debugFileRet := f } cfg).1 = (nanonetInit env cfg).1 := by
  have hc : nanonetControlInit { env with debugDirRet := d, debugFileRet := f } = nanonetControlInit env := rfl
  simp only [nanonetInit, nanonetDebugInit_eq, hc, initMulticast_fst, apply_ite Prod.fst]

/-- `nanonet_init`, over every answer of the kernel: a success holds what a
    loaded module holds, with the debugfs directory and file only where
    debugfs made them; a failure holds nothing; in both, a multicast
    membership can remain, and only with multicast configured. What the
    load returns never depends on debugfs: an error pointer passes the
    `!ptr` tests. -/
theorem nanonetInit_held (env : LoadEnv) (cfg : UllConfig) :
    let r := nanonetInit env cfg
    (r.1 = 0 ∧ r.2 = { Held.loaded with
        debugDir := env.debugDirRet.isNone
        debugFile := env.debugDirRet.isNone && env.debugFileRet.isNone
        mcGroup := r.2.mcGroup } ∨
      r.1 < 0 ∧ r.2 = { Held.none with mcGroup := r.2.mcGroup }) ∧
    (r.2.mcGroup = true → cfg.multicast = true) ∧
    ∀ d f, (nanonetInit { env with debugDirRet := d, debugFileRet := f } cfg).1 = r.1 :=
  ⟨(nanonetInit_ledger env cfg).1, (nanonetInit_ledger env cfg).2, nanonetInit_fst_debugfs env cfg⟩

/-! ## Unload -/

/-- A frame the hook took with `NF_STOLEN`. -/
def SysResult.stolen : SysResult → Bool
  | .frame e => e.verdict = .stolen
  | .ioctl _ _ => false

end NanoNet
