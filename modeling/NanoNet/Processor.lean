/-
  NanoNet.Processor

  packet_processor.c: the market-data handler and the application-logic
  dispatcher.

  `process_market_data` reads the packed `struct market_data` at the
  payload, loading `price` in host order, and for a price under 10000
  builds a packed `struct trading_order` in freshly allocated memory. The
  bytes `snprintf` leaves untouched in `clOrdId` keep what `kmalloc`
  returned (`AppEnv.heap`). `nanonet_process_application_logic` hands the
  order to `nanonet_send_response` with no original frame, and returns
  that call's result in place of the handler's.

  The price is compared and bid as the host loads it, so an order comes
  exactly when the little-endian reading of the price field is under 10000
  (`processMarketData_order`); the big-endian price 9999 the packet
  generator sends never triggers one
  (`wire_price_below_threshold_sends_no_order`). The only order is 41 bytes
  long, which is what `seq_num` advances by after a queued response
  (`nanonetProcessApplicationLogic_seqNum`).
-/
import NanoNet.ResponseSender

namespace NanoNet

/-- `sizeof(struct market_data)`: symbol[8], price, quantity, timestamp. -/
def marketDataLen : Nat := 24

/-- The kernel's answers in the application logic. -/
structure AppEnv where
  /-- `kmalloc(sizeof(struct trading_order), GFP_ATOMIC)` succeeds. -/
  orderAllocOk : Bool
  /-- `get_timestamp_ns()` for `order->timestamp`. -/
  orderTime : BitVec 64
  /-- The bytes of a fresh `kmalloc` object, by offset. -/
  heap : Nat → Byte
  tx : TxEnv

/-- The bytes `snprintf(order->clOrdId, 16, "ORD%llu", ts)` writes: the text
    cut to 15 characters, then a NUL. -/
def clOrdIdText (ts : BitVec 64) : List Byte :=
  (("ORD" ++ Nat.repr ts.toNat).toList.take 15).map (fun c => BitVec.ofNat 8 c.toNat) ++ [0]

/-- The packed `struct trading_order`: symbol[8], price, quantity 100,
    side 0 (buy), timestamp, and clOrdId[16] (offset 25) whose bytes past
    the text are the allocation's. -/
def tradingOrderBytes (env : AppEnv) (symbol : List Byte) (price : BitVec 32) : List Byte :=
  let id := clOrdIdText env.orderTime
  symbol ++ le32 price ++ le32 100 ++ [0] ++ le64 env.orderTime ++ id ++
    (List.range (16 - id.length)).map (fun i => env.heap (25 + id.length + i))

/-- `process_market_data(payload, payload_len, config, &response_data, &response_len)`:
    its result and the order it allocates. `payload_len` is compared as a
    `size_t`. -/
def processMarketData (env : AppEnv) (skb : SkBuff) (payload : Option Nat) (payloadLen : Int) :
    Reads (Int × Option (List Byte)) :=
  match payload with
  | none => pure (-einval, none)
  | some p =>
    if (payloadLen % 2 ^ 64).toNat < marketDataLen then pure (-einval, none) else do
    let price ← skb.load32 (p + 8)
    if price.toNat < 10000 then
      if !env.orderAllocOk then pure (-enomem, none) else do
      let symbol ← skb.readBytes p 8
      pure (1, some (tradingOrderBytes env symbol (price + 1)))
    else pure (0, none)

/-- What `nanonet_process_application_logic` returns and changes. -/
structure AppOut where
  result : Int
  config : UllConfig
  pool : ResponsePool
  xmit : Option Xmit

/-- `nanonet_process_application_logic(payload, payload_len, config)`. -/
def nanonetProcessApplicationLogic (env : AppEnv) (skb : SkBuff) (payload : Option Nat)
    (payloadLen : Int) (cfg : UllConfig) (pool : ResponsePool) : Reads AppOut :=
  if payload.isNone ∨ payloadLen ≤ 0 then pure ⟨0, cfg, pool, none⟩
  else if cfg.applicationLogicType ≠ 0 then pure ⟨-einval, cfg, pool, none⟩
  else do
    let (r, resp) ← processMarketData env skb payload payloadLen
    match resp with
    | some order =>
      if r > 0 then do
        let s ← nanonetSendResponse env.tx none order cfg pool
        pure ⟨s.result, s.config, s.pool, s.xmit⟩
      else pure ⟨r, cfg, pool, none⟩
    | none => pure ⟨r, cfg, pool, none⟩

/-- The application logic asks the pool at most once. -/
theorem nanonetProcessApplicationLogic_pool (env : AppEnv) (skb : SkBuff) (payload : Option Nat)
    (payloadLen : Int) (cfg : UllConfig) (pool : ResponsePool) :
    (nanonetProcessApplicationLogic env skb payload payloadLen cfg pool).val.pool = pool ∨
      (nanonetProcessApplicationLogic env skb payload payloadLen cfg pool).val.pool =
        (nanonetGetResponseSkb pool).2 := by
  unfold nanonetProcessApplicationLogic
  split_ifs
  · exact .inl rfl
  · exact .inl rfl
  simp only [Reads.val_bind]
  split
  · split_ifs
    · exact nanonetSendResponse_pool _ _ _ _ _
    · exact .inl rfl
  · exact .inl rfl

/-! ## Result codes -/

/-- `nanonet_send_response` returns `0` or a negated errno. -/
theorem nanonetSendResponse_result_nonpos (env : TxEnv) (orig : Option SkBuff) (data : List Byte)
    (cfg : UllConfig) (pool : ResponsePool) :
    (nanonetSendResponse env orig data cfg pool).val.result ≤ 0 := by
  unfold nanonetSendResponse
  by_cases h : data.length = 0
  · rw [if_pos h]; exact (by decide : -einval ≤ (0 : Int))
  rw [if_neg h]
  dsimp only [Reads.val_bind]
  generalize (nanonetCreateResponsePacket env orig data cfg pool).val = c
  obtain ⟨_ | skb, pool⟩ := c
  · exact (by decide : -enomem ≤ (0 : Int))
  · dsimp only
    by_cases hx : env.xmitOk = true
    · rw [if_pos hx]; exact le_rfl
    · rw [if_neg hx]; exact (by decide : -eio ≤ (0 : Int))

/-- `process_market_data` returns a positive result only with an order. -/
theorem processMarketData_result_nonpos (env : AppEnv) (skb : SkBuff) (payload : Option Nat)
    (payloadLen : Int) (h : (processMarketData env skb payload payloadLen).val.2 = none) :
    (processMarketData env skb payload payloadLen).val.1 ≤ 0 := by
  unfold processMarketData at h ⊢
  rcases payload with _ | p
  · exact (by decide : -einval ≤ (0 : Int))
  dsimp only at h ⊢
  by_cases h1 : (payloadLen % 2 ^ 64).toNat < marketDataLen
  · rw [if_pos h1]; exact (by decide : -einval ≤ (0 : Int))
  rw [if_neg h1] at h ⊢
  dsimp only [Reads.val_bind] at h ⊢
  by_cases h2 : (skb.load32 (p + 8)).val.toNat < 10000
  · rw [if_pos h2] at h ⊢
    by_cases h3 : (!env.orderAllocOk) = true
    · rw [if_pos h3]; exact (by decide : -enomem ≤ (0 : Int))
    · rw [if_neg h3] at h; simp at h
  · rw [if_neg h2]; exact le_rfl

/-- The application logic never returns a positive result: a response that
    was sent returns `nanonet_send_response`'s `0` in place of the
    handler's `1`. -/
theorem nanonetProcessApplicationLogic_result_nonpos (env : AppEnv) (skb : SkBuff)
    (payload : Option Nat) (payloadLen : Int) (cfg : UllConfig) (pool : ResponsePool) :
    (nanonetProcessApplicationLogic env skb payload payloadLen cfg pool).val.result ≤ 0 := by
  unfold nanonetProcessApplicationLogic
  by_cases h1 : payload.isNone = true ∨ payloadLen ≤ 0
  · rw [if_pos h1]; exact le_rfl
  rw [if_neg h1]
  by_cases h2 : cfg.applicationLogicType ≠ 0
  · rw [if_pos h2]; exact (by decide : -einval ≤ (0 : Int))
  rw [if_neg h2]
  dsimp only [Reads.val_bind]
  have hm := processMarketData_result_nonpos env skb payload payloadLen
  generalize (processMarketData env skb payload payloadLen).val = m at hm
  obtain ⟨r, _ | order⟩ := m
  · exact hm rfl
  · dsimp only
    by_cases h3 : r > 0
    · rw [if_pos h3]; exact nanonetSendResponse_result_nonpos ..
    · rw [if_neg h3]; exact Int.not_lt.1 h3

/-! ## The order -/

/-- `sizeof(struct trading_order)`: the `response_len` of every order. -/
def tradingOrderLen : Nat := 41

theorem clOrdIdText_length_le (ts : BitVec 64) : (clOrdIdText ts).length ≤ 16 := by
  simp only [clOrdIdText, List.length_append, List.length_map, List.length_take,
    List.length_singleton]
  omega

theorem tradingOrderBytes_length (env : AppEnv) {symbol : List Byte} (h : symbol.length = 8)
    (price : BitVec 32) : (tradingOrderBytes env symbol price).length = tradingOrderLen := by
  have := clOrdIdText_length_le env.orderTime
  simp only [tradingOrderBytes, List.length_append, List.length_map, List.length_range, h,
    le32_length, le64_length, List.length_singleton, tradingOrderLen]
  omega

/-- Every order `process_market_data` allocates is `sizeof(struct trading_order)`
    bytes long. -/
theorem processMarketData_order_length (env : AppEnv) (skb : SkBuff) (payload : Option Nat)
    (payloadLen : Int) :
    ∀ order ∈ (processMarketData env skb payload payloadLen).val.2, order.length = tradingOrderLen := by
  unfold processMarketData
  rcases payload with _ | p
  · simp
  dsimp only
  split
  · simp
  simp only [Reads.val_bind]
  split
  · split
    · simp
    · simp only [Reads.val_bind, Reads.val_pure, Option.mem_def, Option.some.injEq]
      rintro _ rfl
      exact tradingOrderBytes_length _ (by simp [SkBuff.readBytes_val]) _
  · simp

/-- With a whole record at `p` and memory for the order, `process_market_data`
    allocates an order exactly when the price, loaded in host order, is under
    10000. The order starts with the record's symbol, that price plus one and
    the quantity 100 (both stored in host order), and side 0 (buy). -/
theorem processMarketData_order (env : AppEnv) (skb : SkBuff) (p : Nat) (payloadLen : Int)
    (hl : marketDataLen ≤ (payloadLen % 2 ^ 64).toNat) (ha : env.orderAllocOk = true) :
    let price := (skb.load32 (p + 8)).val
    ((processMarketData env skb (some p) payloadLen).val.2.isSome ↔ price.toNat < 10000) ∧
    ∀ order ∈ (processMarketData env skb (some p) payloadLen).val.2,
      order.length = tradingOrderLen ∧
        (List.range' p 8).map skb.byteAt ++ le32 (price + 1) ++ le32 100 ++ [0] <+: order := by
  have hv : (processMarketData env skb (some p) payloadLen).val =
      if (skb.load32 (p + 8)).val.toNat < 10000 then
        (1, some (tradingOrderBytes env ((List.range' p 8).map skb.byteAt) ((skb.load32 (p + 8)).val + 1)))
      else (0, none) := by
    unfold processMarketData
    dsimp only
    rw [if_neg (Nat.not_lt.2 hl)]
    simp only [Reads.val_bind, ha, Bool.not_true, Bool.false_eq_true, if_false]
    split <;> simp [SkBuff.readBytes_val]
  rw [hv]
  split
  · refine ⟨by simp [*], ?_⟩
    simp only [Option.mem_def, Option.some.injEq]
    rintro _ rfl
    refine ⟨tradingOrderBytes_length _ (by simp) _, ?_⟩
    simp only [tradingOrderBytes, List.append_assoc]
    exact List.prefix_append _ _
  · simp [*]

/-- A record whose price bytes `0F 27 00 00` load as 9999: the order bids 10000. -/
example :
    let skb : SkBuff := ⟨[0x41, 0x41, 0x50, 0x4C, 0x20, 0x20, 0x20, 0x20, 0x0F, 0x27, 0x00, 0x00,
      0xE8, 0x03, 0x00, 0x00, 0, 0, 0, 0, 0, 0, 0, 0], fun _ => 0, true⟩
    let env : AppEnv := ⟨true, 0, fun _ => 0, ⟨true, true, true⟩⟩
    marketDataLen ≤ ((24 : Int) % 2 ^ 64).toNat ∧ env.orderAllocOk = true ∧
      ((processMarketData env skb (some 0) 24).val.2.isSome ↔ (skb.load32 (0 + 8)).val.toNat < 10000) ∧
      ∀ order ∈ (processMarketData env skb (some 0) 24).val.2,
        order.length = tradingOrderLen ∧
          (List.range' 0 8).map skb.byteAt ++ le32 ((skb.load32 (0 + 8)).val + 1) ++ le32 100 ++ [0] <+:
            order :=
  ⟨by decide, rfl, processMarketData_order _ _ 0 24 (by decide) rfl⟩

/-- The record the packet generator sends: symbol `AAPL`, price `htonl(9999)`,
    quantity `htonl(1000)` and timestamp `htobe64(1700000000 * 10^9)`. -/
def generatorRecord : List Byte :=
  [0x41, 0x41, 0x50, 0x4C, 0x20, 0x20, 0x20, 0x20, 0x00, 0x00, 0x27, 0x0F,
   0x00, 0x00, 0x03, 0xE8, 0x17, 0x97, 0x9C, 0xFE, 0x36, 0x2A, 0x00, 0x00]

/-- The generator's record carries the big-endian price 9999, under the
    threshold, but the host loads it as 0x0F270000: whatever the kernel
    answers, no order is allocated and nothing is sent. -/
theorem wire_price_below_threshold_sends_no_order :
    let skb : SkBuff := ⟨generatorRecord, fun _ => 0, true⟩
    (ntohl (skb.load32 8).val).toNat = 9999 ∧ (skb.load32 8).val = 0x0F270000 ∧
      ∀ (env : AppEnv) (pool : ResponsePool),
        (processMarketData env skb (some 0) 24).val = (0, none) ∧
        (nanonetProcessApplicationLogic env skb (some 0) 24 globalConfigInit pool).val.xmit = none :=
  ⟨by decide, by decide, fun _ _ => ⟨rfl, rfl⟩⟩

/-! ## The configuration -/

/-- `nanonet_send_response` advances `seq_num` by `response_len`, modulo
    2^32, exactly when `dev_queue_xmit` queued the frame, and changes no
    other field of the configuration. -/
theorem nanonetSendResponse_seqNum (env : TxEnv) (orig : Option SkBuff) (data : List Byte)
    (cfg : UllConfig) (pool : ResponsePool) :
    (nanonetSendResponse env orig data cfg pool).val.config =
      { cfg with seqNum := cfg.seqNum +
        if (nanonetSendResponse env orig data cfg pool).val.xmit.any Xmit.ok then
          BitVec.ofNat 32 data.length else 0 } := by
  unfold nanonetSendResponse
  by_cases h : data.length = 0
  · simp [h]
  rw [if_neg h]
  dsimp only [Reads.val_bind]
  generalize (nanonetCreateResponsePacket env orig data cfg pool).val = c
  obtain ⟨_ | skb, pool⟩ := c
  · simp
  · dsimp only
    split <;> simp [*]

theorem nanonetSendResponse_config (env : TxEnv) (orig : Option SkBuff) (data : List Byte)
    (cfg : UllConfig) (pool : ResponsePool) :
    { (nanonetSendResponse env orig data cfg pool).val.config with seqNum := cfg.seqNum } = cfg := by
  rw [nanonetSendResponse_seqNum]

/-- The application logic sends at most one order, of `sizeof(struct trading_order)`
    bytes, so it advances `seq_num` by 41 exactly when that order was queued. -/
theorem nanonetProcessApplicationLogic_seqNum (env : AppEnv) (skb : SkBuff) (payload : Option Nat)
    (payloadLen : Int) (cfg : UllConfig) (pool : ResponsePool) :
    (nanonetProcessApplicationLogic env skb payload payloadLen cfg pool).val.config =
      { cfg with seqNum := cfg.seqNum +
        if (nanonetProcessApplicationLogic env skb payload payloadLen cfg pool).val.xmit.any Xmit.ok then
          BitVec.ofNat 32 tradingOrderLen else 0 } := by
  unfold nanonetProcessApplicationLogic
  split
  · simp
  split
  · simp
  dsimp only [Reads.val_bind]
  have hl := processMarketData_order_length env skb payload payloadLen
  generalize (processMarketData env skb payload payloadLen).val = m at hl
  obtain ⟨r, _ | order⟩ := m
  · simp
  · dsimp only
    split
    · rw [← hl order rfl]
      exact nanonetSendResponse_seqNum ..
    · simp

theorem nanonetProcessApplicationLogic_config (env : AppEnv) (skb : SkBuff) (payload : Option Nat)
    (payloadLen : Int) (cfg : UllConfig) (pool : ResponsePool) :
    { (nanonetProcessApplicationLogic env skb payload payloadLen cfg pool).val.config with
      seqNum := cfg.seqNum } = cfg := by
  rw [nanonetProcessApplicationLogic_seqNum]

/-! ## Footprint -/

/-- The handler reads the record's `symbol` and `price`, and only when
    `payload_len` covers the whole record. -/
theorem processMarketData_offs (env : AppEnv) (skb : SkBuff) (payload : Option Nat) (payloadLen : Int) :
    ∀ o ∈ (processMarketData env skb payload payloadLen).offs,
      ∃ p, payload = some p ∧ marketDataLen ≤ (payloadLen % 2 ^ 64).toNat ∧ p ≤ o ∧ o < p + 12 := by
  unfold processMarketData
  rcases payload with _ | p
  · simp
  dsimp only
  by_cases h1 : (payloadLen % 2 ^ 64).toNat < marketDataLen
  · rw [if_pos h1]; simp
  rw [if_neg h1]
  simp only [Reads.offs_bind, SkBuff.load32_offs, List.mem_append]
  intro o ho
  refine ⟨p, rfl, by omega, ?_⟩
  rcases ho with ho | ho
  · simp at ho; omega
  · split at ho
    · split at ho
      · simp at ho
      · simp [SkBuff.readBytes_offs] at ho; omega
    · simp at ho

/-- The application logic reads only the market-data record, and only from a
    payload of at least `sizeof(struct market_data)` bytes. -/
theorem nanonetProcessApplicationLogic_offs (env : AppEnv) (skb : SkBuff) (payload : Option Nat)
    (payloadLen : Int) (cfg : UllConfig) (pool : ResponsePool) :
    ∀ o ∈ (nanonetProcessApplicationLogic env skb payload payloadLen cfg pool).offs,
      ∃ p, payload = some p ∧ (marketDataLen : Int) ≤ payloadLen ∧ p ≤ o ∧ o < p + 12 := by
  unfold nanonetProcessApplicationLogic
  by_cases h1 : payload.isNone = true ∨ payloadLen ≤ 0
  · rw [if_pos h1]; simp
  rw [if_neg h1]
  by_cases h2 : cfg.applicationLogicType ≠ 0
  · rw [if_pos h2]; simp
  rw [if_neg h2]
  simp only [Reads.offs_bind, List.mem_append]
  intro o ho
  have hm : ∀ o ∈ (processMarketData env skb payload payloadLen).offs, _ :=
    processMarketData_offs env skb payload payloadLen
  rcases ho with ho | ho
  · obtain ⟨p, hp, hl, h⟩ := hm o ho
    refine ⟨p, hp, ?_, h⟩
    simp only [marketDataLen] at hl ⊢
    omega
  · generalize (processMarketData env skb payload payloadLen).val = m at ho
    obtain ⟨r, _ | order⟩ := m
    · simp at ho
    · dsimp only at ho
      split at ho
      · simp [nanonetSendResponse_offs] at ho
      · simp at ho

end NanoNet
