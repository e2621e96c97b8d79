/-
  NanoNet.Tracker

  The connection tracker as a state machine: the table with the two gauges
  `connections_active` and `connections_dropped`, stepped by
  `nanonet_track_tcp_connection` (with any allocation outcome) and
  `nanonet_clear_tcp_connections`.

  The invariant `ConnTable.WF` is that every record sits in the chain its
  4-tuple hashes to and that no two records share a 4-tuple. Uniqueness
  rests on lookup and insertion using the same chain: a 4-tuple that the
  walk of its own chain does not find is nowhere in the table
  (`key_not_mem_of_walk_none`). `nanonetTrackTcpConnection_cases` says once
  what a call can do; each preservation lemma is a case analysis on it, and
  `connRun_invariants` carries them along any run from the empty table.

  On a well-formed table one call is specified completely
  (`nanonetTrackTcpConnection_wf_spec`): the records carrying the segment's
  4-tuple and the others are described separately. Distinct 4-tuples alone
  are not enough: a record outside its chain is never found
  (`misplaced_record_untracked`). The key is the segment's own
  `(saddr, daddr, source, dest)`, so the reply of a handshake, which carries
  the swapped 4-tuple, never finds the record its SYN created unless client
  and server are one endpoint (`syn_ack_reply_matched_iff_self_connection`).

  `nanonet_conn_hash`, which nothing calls, hashes a record's ports as
  stored, without the `ntohs` the tracker applies: for every hash function it
  names the chain a record was inserted into only when both ports are byte
  palindromes (`connHash_newConn_eq_bucket_iff`).
-/
import NanoNet.Security
import Mathlib.Data.List.Nodup

namespace NanoNet

/-! ## Chains and records -/

namespace ConnTable

theorem bucket_eq_getElem (t : ConnTable) {i : Nat} (hi : i < t.buckets.length) :
    t.bucket i = t.buckets[i] := by
  simp [bucket, List.getD_eq_getElem?_getD, List.getElem?_eq_getElem hi]

theorem bucket_setBucket (t : ConnTable) {i : Nat} (hi : i < connHashSize)
    (b : List UllTcpConn) (j : Nat) :
    (t.setBucket i b).bucket j = if i = j then b else t.bucket j := by
  simp only [bucket, setBucket, List.getD_eq_getElem?_getD, List.getElem?_set, t.length_buckets, hi]
  split <;> simp

@[simp] theorem bucket_empty (i : Nat) : empty.bucket i = [] := by
  simp only [empty, bucket, List.getD_eq_getElem?_getD, List.getElem?_replicate]
  split <;> rfl

@[simp] theorem size_empty : empty.size = 0 := by
  simp [size, records, empty]

/-- The records before chain `i`, in it, and after it; replacing chain `i`
    replaces only the middle part. -/
theorem records_split (t : ConnTable) {i : Nat} (hi : i < connHashSize) :
    ∃ X Y, t.records = X ++ t.bucket i ++ Y ∧
      ∀ b, (t.setBucket i b).records = X ++ b ++ Y := by
  have hi' : i < t.buckets.length := by rw [t.length_buckets]; exact hi
  refine ⟨(t.buckets.take i).flatten, (t.buckets.drop (i + 1)).flatten, ?_, fun b => ?_⟩
  · have h := congrArg List.flatten (List.take_append_drop i t.buckets)
    rw [List.drop_eq_getElem_cons hi', List.flatten_append, List.flatten_cons] at h
    rw [records, ← h, bucket_eq_getElem t hi', List.append_assoc]
  · simp [records, setBucket, List.set_eq_take_append_cons_drop, hi']

/-- Replacing the one chain that holds every record of a table leaves just
    the new chain's records. -/
theorem records_setBucket_of_records_eq {t : ConnTable} {i : Nat} (hi : i < connHashSize)
    (h : t.records = t.bucket i) (b : List UllTcpConn) : (t.setBucket i b).records = b := by
  obtain ⟨X, Y, hold, hnew⟩ := t.records_split hi
  have hl := congrArg List.length (hold.symm.trans h)
  simp only [List.length_append] at hl
  rw [hnew, show X = [] from List.eq_nil_of_length_eq_zero (by omega),
    show Y = [] from List.eq_nil_of_length_eq_zero (by omega), List.nil_append, List.append_nil]

@[simp] theorem records_empty : empty.records = [] := by
  simp [ConnTable.records, ConnTable.empty]

theorem mem_records {t : ConnTable} {c : UllTcpConn} :
    c ∈ t.records ↔ ∃ i, c ∈ t.bucket i := by
  simp only [records, List.mem_flatten, bucket, List.getD_eq_getElem?_getD]
  constructor
  · rintro ⟨l, hl, hc⟩
    obtain ⟨i, hi, rfl⟩ := List.mem_iff_getElem.1 hl
    exact ⟨i, by simpa [List.getElem?_eq_getElem hi] using hc⟩
  · rintro ⟨i, hc⟩
    cases h : t.buckets[i]? with
    | none => simp [h] at hc
    | some l => exact ⟨l, List.getElem?_mem h, by simpa [h] using hc⟩

end ConnTable

/-! ## The invariant -/

section Invariant

variable (jhash : JHash)

/-- Every record sits in the chain its 4-tuple hashes to. -/
def ConnTable.Placed (t : ConnTable) : Prop :=
  ∀ i, ∀ c ∈ t.bucket i, c.key.bucket jhash = i

/-- No two records of the table share a 4-tuple. -/
def ConnTable.KeysUnique (t : ConnTable) : Prop :=
  (t.records.map UllTcpConn.key).Nodup

structure ConnTable.WF (t : ConnTable) : Prop where
  placed : t.Placed jhash
  unique : t.KeysUnique

theorem ConnTable.wf_empty : ConnTable.empty.WF jhash where
  placed := by simp [ConnTable.Placed]
  unique := by simp [ConnTable.KeysUnique, ConnTable.records, ConnTable.empty]

end Invariant

/-! ## The chain walk -/

@[simp] theorem UllTcpConn.key_refresh (c : UllTcpConn) (seg : TcpSegment) (j : BitVec 64) :
    (c.refresh seg j).key = c.key := by
  simp only [refresh]
  split
  · rfl
  · split <;> rfl

@[simp] theorem newConn_key (seg : TcpSegment) (j : BitVec 64) : (newConn seg j).key = seg.key :=
  rfl

theorem walkChain_keys {seg : TcpSegment} {j : BitVec 64} :
    ∀ {b b' : List UllTcpConn}, walkChain seg j b = some b' →
      b'.map UllTcpConn.key = b.map UllTcpConn.key
  | [], _, h => by simp [walkChain] at h
  | c :: cs, b', h => by
    simp only [walkChain] at h
    split at h
    · cases h; simp
    · obtain ⟨cs', hcs, rfl⟩ := Option.map_eq_some'.1 h
      simp [walkChain_keys hcs]

theorem walkChain_eq_none {seg : TcpSegment} {j : BitVec 64} :
    ∀ {b : List UllTcpConn}, walkChain seg j b = none ↔ ∀ c ∈ b, c.key ≠ seg.key
  | [] => by simp [walkChain]
  | c :: cs => by
    simp only [walkChain]
    split
    · simp_all
    · simp [walkChain_eq_none, *]

/-! ## What one call of `nanonet_track_tcp_connection` does -/

section Track

variable (jhash : JHash) (ok : Bool) (j : BitVec 64) (seg : TcpSegment) (t : ConnTable) (a : Int)

/-- The four outcomes of a call: a matching record refreshed in its chain,
    a new record at the chain's head, `-ENOMEM`, or `-EINVAL` for an
    untracked segment, the last two with nothing changed. -/
theorem nanonetTrackTcpConnection_cases :
    (∃ b, walkChain seg j (t.bucket (seg.key.bucket jhash)) = some b ∧
      nanonetTrackTcpConnection jhash ok j seg t a =
        (0, t.setBucket (seg.key.bucket jhash) b, a)) ∨
    (walkChain seg j (t.bucket (seg.key.bucket jhash)) = none ∧ seg.pureSyn ∧ ok ∧
      nanonetTrackTcpConnection jhash ok j seg t a =
        (0, t.setBucket (seg.key.bucket jhash)
          (newConn seg j :: t.bucket (seg.key.bucket jhash)), a + 1)) ∨
    (walkChain seg j (t.bucket (seg.key.bucket jhash)) = none ∧ seg.pureSyn ∧ ¬ok ∧
      nanonetTrackTcpConnection jhash ok j seg t a = (-enomem, t, a)) ∨
    (walkChain seg j (t.bucket (seg.key.bucket jhash)) = none ∧ ¬seg.pureSyn ∧
      nanonetTrackTcpConnection jhash ok j seg t a = (-einval, t, a)) := by
  rcases hw : walkChain seg j (t.bucket (seg.key.bucket jhash)) with _ | b
  · cases hs : seg.pureSyn <;> cases ok <;> simp [nanonetTrackTcpConnection, hw, hs]
  · exact .inl ⟨b, rfl, by simp [nanonetTrackTcpConnection, hw]⟩

theorem bucket_lt (k : FlowKey) : k.bucket jhash < connHashSize :=
  Nat.mod_lt _ (by decide)

variable {jhash t}

/-- A 4-tuple that the walk of its own chain does not find is nowhere in a
    well-placed table. -/
theorem key_not_mem_of_walk_none (hp : t.Placed jhash)
    (hw : walkChain seg j (t.bucket (seg.key.bucket jhash)) = none) :
    seg.key ∉ t.records.map UllTcpConn.key := by
  simp only [List.mem_map, not_exists, not_and]
  intro c hc hk
  obtain ⟨i, hci⟩ := ConnTable.mem_records.1 hc
  have hi : i = seg.key.bucket jhash := by rw [← hk, hp i c hci]
  exact walkChain_eq_none.1 hw c (hi ▸ hci) hk

theorem wf_refresh {b : List UllTcpConn} (hwf : t.WF jhash)
    (hw : walkChain seg j (t.bucket (seg.key.bucket jhash)) = some b) :
    (t.setBucket (seg.key.bucket jhash) b).WF jhash ∧
      (t.setBucket (seg.key.bucket jhash) b).size = t.size := by
  have hk := walkChain_keys hw
  obtain ⟨X, Y, hold, hnew⟩ := t.records_split (bucket_lt jhash seg.key)
  have hkeys : (t.setBucket (seg.key.bucket jhash) b).records.map UllTcpConn.key =
      t.records.map UllTcpConn.key := by
    simp [hnew, hold, hk]
  refine ⟨⟨fun i c hc => ?_, ?_⟩, ?_⟩
  · rw [ConnTable.bucket_setBucket _ (bucket_lt jhash seg.key)] at hc
    split at hc
    · have hm : c.key ∈ (t.bucket (seg.key.bucket jhash)).map UllTcpConn.key :=
        hk ▸ List.mem_map_of_mem UllTcpConn.key hc
      obtain ⟨c0, hc0, hkey⟩ := List.mem_map.1 hm
      rw [← hkey, hwf.placed _ c0 hc0]
      assumption
    · exact hwf.placed i c hc
  · unfold ConnTable.KeysUnique
    rw [hkeys]
    exact hwf.unique
  · simpa using congrArg List.length hkeys

theorem wf_insert (hwf : t.WF jhash)
    (hw : walkChain seg j (t.bucket (seg.key.bucket jhash)) = none) :
    (t.setBucket (seg.key.bucket jhash) (newConn seg j :: t.bucket (seg.key.bucket jhash))).WF
        jhash ∧
      (t.setBucket (seg.key.bucket jhash)
        (newConn seg j :: t.bucket (seg.key.bucket jhash))).size = t.size + 1 := by
  obtain ⟨X, Y, hold, hnew⟩ := t.records_split (bucket_lt jhash seg.key)
  have hperm : (t.setBucket (seg.key.bucket jhash)
      (newConn seg j :: t.bucket (seg.key.bucket jhash))).records.Perm
        (newConn seg j :: t.records) := by
    rw [hnew, hold, List.append_assoc, List.cons_append, List.append_assoc]
    exact List.perm_middle
  refine ⟨⟨fun i c hc => ?_, ?_⟩, ?_⟩
  · rw [ConnTable.bucket_setBucket _ (bucket_lt jhash seg.key)] at hc
    split at hc
    · rcases List.mem_cons.1 hc with rfl | hc
      · simpa
      · rw [hwf.placed _ c hc]
        assumption
    · exact hwf.placed i c hc
  · unfold ConnTable.KeysUnique
    refine ((hperm.map _).nodup_iff).2 ?_
    rw [List.map_cons, List.nodup_cons, newConn_key]
    exact ⟨key_not_mem_of_walk_none j seg hwf.placed hw, hwf.unique⟩
  · simp [ConnTable.size, hperm.length_eq]

/-- Every call keeps a table well formed. -/
theorem nanonetTrackTcpConnection_wf (hwf : t.WF jhash) :
    (nanonetTrackTcpConnection jhash ok j seg t a).2.1.WF jhash := by
  rcases nanonetTrackTcpConnection_cases jhash ok j seg t a with
    ⟨b, hw, hr⟩ | ⟨hw, -, -, hr⟩ | ⟨-, -, -, hr⟩ | ⟨-, -, hr⟩ <;> simp only [hr]
  exacts [(wf_refresh j seg hwf hw).1, (wf_insert j seg hwf hw).1, hwf, hwf]

/-! ## The postcondition of one call -/

/-- A walk that finds the 4-tuple refreshes one record that carries it and
    keeps the records around it. -/
theorem walkChain_eq_some :
    ∀ {b b' : List UllTcpConn}, walkChain seg j b = some b' →
      ∃ pre c post, b = pre ++ c :: post ∧ b' = pre ++ c.refresh seg j :: post ∧ c.key = seg.key
  | [], _, h => by simp [walkChain] at h
  | c :: cs, b', h => by
    simp only [walkChain] at h
    split at h
    · cases h; exact ⟨[], c, cs, rfl, rfl, ‹_›⟩
    · obtain ⟨cs', hcs, rfl⟩ := Option.map_eq_some'.1 h
      obtain ⟨pre, c', post, rfl, rfl, hk⟩ := walkChain_eq_some hcs
      exact ⟨c :: pre, c', post, rfl, rfl, hk⟩

/-- Records around one that carries the 4-tuple `k`, in a list whose
    4-tuples are distinct, do not carry `k`. -/
theorem key_ne_of_nodup {A B : List UllTcpConn} {c : UllTcpConn}
    (h : ((A ++ c :: B).map UllTcpConn.key).Nodup) :
    ∀ x ∈ A ++ B, x.key ≠ c.key := by
  rw [List.map_append, List.map_cons, List.nodup_append, List.nodup_cons] at h
  obtain ⟨-, ⟨hB, -⟩, hd⟩ := h
  intro x hx hk
  rcases List.mem_append.1 hx with hx | hx
  · exact hd (List.mem_map_of_mem _ hx) (by rw [hk]; exact List.mem_cons_self _ _)
  · exact hB (hk ▸ List.mem_map_of_mem _ hx)

/-- With every other record free of the 4-tuple `k`, the records carrying
    `k` are the middle one, and the others are the rest. -/
theorem filter_key_middle {A B : List UllTcpConn} {c : UllTcpConn} {k : FlowKey} (hc : c.key = k)
    (hk : ∀ x ∈ A ++ B, x.key ≠ k) :
    (A ++ c :: B).filter (fun x => x.key = k) = [c] ∧
      (A ++ c :: B).filter (fun x => x.key ≠ k) = (A ++ B).filter (fun x => x.key ≠ k) := by
  have hA : A.filter (fun x => x.key = k) = [] :=
    List.filter_eq_nil_iff.2 fun x hx => by simpa using hk x (List.mem_append_left _ hx)
  have hB : B.filter (fun x => x.key = k) = [] :=
    List.filter_eq_nil_iff.2 fun x hx => by simpa using hk x (List.mem_append_right _ hx)
  simp [List.filter_append, List.filter_cons, hc, hA, hB]

/-- On a well-formed table, `nanonet_track_tcp_connection` returns 0 exactly
    when a record carries the segment's 4-tuple or the segment is a pure SYN
    whose record is allocated. On success exactly one record carries the
    4-tuple: the one found, refreshed (SynSent after a pure SYN, Established
    with the host-order `seq` and `ack_seq` after a SYN+ACK, its state and
    numbers kept otherwise), or else the new record; every other record is
    kept, in order. On an error the table is unchanged. -/
theorem nanonetTrackTcpConnection_wf_spec (hwf : t.WF jhash) :
    let r := nanonetTrackTcpConnection jhash ok j seg t a
    (r.1 = 0 ↔ seg.key ∈ t.records.map UllTcpConn.key ∨ (seg.pureSyn = true ∧ ok = true)) ∧
    (r.1 = 0 →
      r.2.1.records.filter (fun c => c.key = seg.key) =
        [((t.records.find? (fun c => c.key = seg.key)).map (·.refresh seg j)).getD (newConn seg j)] ∧
      r.2.1.records.filter (fun c => c.key ≠ seg.key) = t.records.filter (fun c => c.key ≠ seg.key)) ∧
    (r.1 ≠ 0 → r.2.1 = t) := by
  obtain ⟨X, Y, hold, hnew⟩ := t.records_split (bucket_lt jhash seg.key)
  rcases nanonetTrackTcpConnection_cases jhash ok j seg t a with
    ⟨b, hw, hr⟩ | ⟨hw, hs, hok, hr⟩ | ⟨hw, hs, hok, hr⟩ | ⟨hw, hs, hr⟩ <;> simp only [hr]
  · -- a record carries the 4-tuple: it is refreshed in place
    obtain ⟨pre, c, post, hb, rfl, hk⟩ := walkChain_eq_some j seg hw
    have hold' : t.records = (X ++ pre) ++ c :: (post ++ Y) := by simp [hold, hb]
    have hu := hwf.unique
    unfold ConnTable.KeysUnique at hu
    rw [hold'] at hu
    have hne := key_ne_of_nodup hu
    rw [hk] at hne
    have hfind : t.records.find? (fun c => c.key = seg.key) = some c := by
      rw [hold', List.find?_append, List.find?_eq_none.2 fun x hx => by
        simpa using hne x (List.mem_append_left _ hx)]
      simp [hk]
    have e : X ++ (pre ++ c.refresh seg j :: post) ++ Y = (X ++ pre) ++ c.refresh seg j :: (post ++ Y) := by
      simp
    refine ⟨iff_of_true (by simp) (.inl (List.mem_map.2 ⟨c, by simp [hold'], hk⟩)), fun _ => ?_,
      by simp⟩
    rw [hnew, hfind, hold', e, (filter_key_middle (by simpa using hk) hne).1,
      (filter_key_middle (by simpa using hk) hne).2, (filter_key_middle hk hne).2]
    exact ⟨rfl, rfl⟩
  · -- a pure SYN with no record: the new record goes to the chain's head
    have hnot := key_not_mem_of_walk_none j seg hwf.placed hw
    have hfind : t.records.find? (fun c => c.key = seg.key) = none :=
      List.find?_eq_none.2 fun x hx hk => hnot (List.mem_map.2 ⟨x, hx, by simpa using hk⟩)
    have hne : ∀ x ∈ X ++ (t.bucket (seg.key.bucket jhash) ++ Y), x.key ≠ seg.key := fun x hx hk =>
      hnot (List.mem_map.2 ⟨x, by rw [hold, List.append_assoc]; exact hx, hk⟩)
    have e : X ++ (newConn seg j :: t.bucket (seg.key.bucket jhash)) ++ Y =
        X ++ newConn seg j :: (t.bucket (seg.key.bucket jhash) ++ Y) := by
      simp
    refine ⟨iff_of_true (by simp) (.inr ⟨hs, hok⟩), fun _ => ?_, by simp⟩
    rw [hnew, hfind, hold, e, (filter_key_middle (newConn_key seg j) hne).1,
      (filter_key_middle (newConn_key seg j) hne).2, List.append_assoc]
    exact ⟨rfl, rfl⟩
  all_goals
    have hnot := key_not_mem_of_walk_none j seg hwf.placed hw
    refine ⟨iff_of_false (by simp [enomem, einval]) ?_, fun h => by simp [enomem, einval] at h,
      fun _ => trivial⟩
    simp_all

/-- A pure SYN on the empty table, then a SYN+ACK of that flow on the table
    it leaves, every 4-tuple hashed to chain 0: the first call allocates the
    record, the second finds it and refreshes it. -/
theorem track_syn_then_syn_ack :
    let jhash : JHash := fun _ _ _ _ => 0
    let syn : TcpSegment := ⟨1, 2, 3, 4, 0, 0, true, false⟩
    let synAck : TcpSegment := ⟨1, 2, 3, 4, 5, 6, true, true⟩
    let r0 := nanonetTrackTcpConnection jhash true 0 syn ConnTable.empty 0
    let t1 := r0.2.1
    let r1 := nanonetTrackTcpConnection jhash true 7 synAck t1 1
    (ConnTable.empty.WF jhash ∧
      (r0.1 = 0 ↔ syn.key ∈ ConnTable.empty.records.map UllTcpConn.key ∨
        (syn.pureSyn = true ∧ true = true)) ∧
      (r0.1 = 0 →
        r0.2.1.records.filter (fun c => c.key = syn.key) =
          [((ConnTable.empty.records.find? (fun c => c.key = syn.key)).map (·.refresh syn 0)).getD
            (newConn syn 0)] ∧
        r0.2.1.records.filter (fun c => c.key ≠ syn.key) =
          ConnTable.empty.records.filter (fun c => c.key ≠ syn.key)) ∧
      (r0.1 ≠ 0 → r0.2.1 = ConnTable.empty)) ∧
    (t1.WF jhash ∧
      (r1.1 = 0 ↔ synAck.key ∈ t1.records.map UllTcpConn.key ∨ (synAck.pureSyn = true ∧ true = true)) ∧
      (r1.1 = 0 →
        r1.2.1.records.filter (fun c => c.key = synAck.key) =
          [((t1.records.find? (fun c => c.key = synAck.key)).map (·.refresh synAck 7)).getD
            (newConn synAck 7)] ∧
        r1.2.1.records.filter (fun c => c.key ≠ synAck.key) =
          t1.records.filter (fun c => c.key ≠ synAck.key)) ∧
      (r1.1 ≠ 0 → r1.2.1 = t1)) :=
  have hwf1 := nanonetTrackTcpConnection_wf true 0 ⟨1, 2, 3, 4, 0, 0, true, false⟩ 0
    (ConnTable.wf_empty (fun _ _ _ _ => 0))
  ⟨⟨ConnTable.wf_empty _,
      nanonetTrackTcpConnection_wf_spec true 0 ⟨1, 2, 3, 4, 0, 0, true, false⟩ 0 (ConnTable.wf_empty _)⟩,
    ⟨hwf1, nanonetTrackTcpConnection_wf_spec true 7 ⟨1, 2, 3, 4, 5, 6, true, true⟩ 1 hwf1⟩⟩

/-- A table whose one record sits in chain 1 while every 4-tuple hashes to
    chain 0. Its 4-tuples are distinct, yet a segment of that flow without
    SYN is refused, and a pure SYN of it is accepted and adds a second record
    with the same 4-tuple. -/
theorem misplaced_record_untracked :
    let c : UllTcpConn := ⟨1, 2, 3, 4, 0, 0, 2, 0⟩
    let t : ConnTable := ConnTable.empty.setBucket 1 [c]
    let ack : TcpSegment := ⟨1, 2, 3, 4, 0, 0, false, true⟩
    let syn : TcpSegment := ⟨1, 2, 3, 4, 0, 0, true, false⟩
    let t' : ConnTable := (nanonetTrackTcpConnection (fun _ _ _ _ => 0) true 0 syn t 0).2.1
    t.KeysUnique ∧ c ∈ t.records ∧ c.key = ack.key ∧
      (nanonetTrackTcpConnection (fun _ _ _ _ => 0) true 0 ack t 0).1 = -einval ∧
      (nanonetTrackTcpConnection (fun _ _ _ _ => 0) true 0 syn t 0).1 = 0 ∧
      newConn syn 0 ∈ t'.records ∧ c ∈ t'.records ∧ newConn syn 0 ≠ c ∧
      (newConn syn 0).key = c.key := by
  intro c t ack syn t'
  have h1 : (1 : Nat) < connHashSize := by decide
  have hb0 : t.bucket 0 = [] := by simp [t, ConnTable.bucket_setBucket _ h1]
  have hk : ∀ k : FlowKey, k.bucket (fun _ _ _ _ => 0) = 0 := fun _ => rfl
  have hrec : t.records = [c] := ConnTable.records_setBucket_of_records_eq h1 (by simp) _
  have ht' : t' = t.setBucket 0 [newConn syn 0] := by
    show (nanonetTrackTcpConnection (fun _ _ _ _ => 0) true 0 syn t 0).2.1 = _
    simp only [nanonetTrackTcpConnection, hk, hb0, walkChain]
    rfl
  refine ⟨by unfold ConnTable.KeysUnique; rw [hrec]; simp, by rw [hrec]; simp, rfl,
    by simp [nanonetTrackTcpConnection, hk, hb0, walkChain, TcpSegment.pureSyn, ack],
    by simp [nanonetTrackTcpConnection, hk, hb0, walkChain, TcpSegment.pureSyn, syn], ?_, ?_,
    by decide, rfl⟩
  · rw [ht']
    exact ConnTable.mem_records.2 ⟨0, by simp [ConnTable.bucket_setBucket _ (by decide : 0 < connHashSize)]⟩
  · rw [ht']
    exact ConnTable.mem_records.2 ⟨1, by
      simp [ConnTable.bucket_setBucket _ (by decide : 0 < connHashSize), t, ConnTable.bucket_setBucket _ h1]⟩

end Track

/-! ## `nanonet_clear_tcp_connections` in closed form -/

theorem drainChain_eq (b : List UllTcpConn) (a d : Int) :
    drainChain b (a, d) = (a - b.length, d + b.length) := by
  induction b generalizing a d with
  | nil => simp [drainChain]
  | cons c cs ih =>
    simp only [drainChain, ih, List.length_cons, Nat.cast_succ, Prod.mk.injEq]
    constructor <;> omega

theorem foldl_drainChain (bs : List (List UllTcpConn)) (a d : Int) :
    bs.foldl (fun acc b => drainChain b acc) (a, d) =
      (a - bs.flatten.length, d + bs.flatten.length) := by
  induction bs generalizing a d with
  | nil => simp
  | cons b bs ih =>
    simp only [List.foldl_cons, drainChain_eq, ih, List.flatten_cons, List.length_append,
      Nat.cast_add, Prod.mk.injEq]
    constructor <;> omega

/-- The clear empties every chain and moves every record from
    `connections_active` to `connections_dropped`. -/
theorem nanonetClearTcpConnections_eq (t : ConnTable) (a d : Int) :
    nanonetClearTcpConnections t a d = (ConnTable.empty, a - t.size, d + t.size) := by
  simp [nanonetClearTcpConnections, foldl_drainChain, ConnTable.size, ConnTable.records]

/-! ## Runs -/

/-- The tracker's state: the table and the two gauges of `global_stats` it
    updates. -/
structure ConnState where
  table : ConnTable
  active : Int
  dropped : Int

/-- A call into the tracker. -/
inductive ConnOp
  | track (seg : TcpSegment) (allocOk : Bool) (jiffies : BitVec 64)
  | clear

/-- One call: its result code and the state after it. -/
def connStep (jhash : JHash) (s : ConnState) : ConnOp → Int × ConnState
  | .track seg ok j =>
    let r := nanonetTrackTcpConnection jhash ok j seg s.table s.active
    (r.1, ⟨r.2.1, r.2.2, s.dropped⟩)
  | .clear =>
    let r := nanonetClearTcpConnections s.table s.active s.dropped
    (0, ⟨r.1, r.2.1, r.2.2⟩)

/-- The state after a sequence of calls. -/
def connRun (jhash : JHash) : ConnState → List ConnOp → ConnState
  | s, [] => s
  | s, op :: ops => connRun jhash (connStep jhash s op).2 ops

section Run

variable (jhash : JHash) (a0 : Int)

/-- The run invariant: a well-formed table whose record count is what
    `connections_active` has gained since `a0`. -/
def ConnState.Inv (s : ConnState) : Prop :=
  s.table.WF jhash ∧ s.active - a0 = s.table.size

theorem connStep_inv (s : ConnState) (op : ConnOp) (h : s.Inv jhash a0) :
    (connStep jhash s op).2.Inv jhash a0 := by
  obtain ⟨hwf, hcount⟩ := h
  cases op with
  | track seg ok j =>
    rcases nanonetTrackTcpConnection_cases jhash ok j seg s.table s.active with
      ⟨b, hw, hr⟩ | ⟨hw, -, -, hr⟩ | ⟨-, -, -, hr⟩ | ⟨-, -, hr⟩ <;>
      simp only [connStep, hr, ConnState.Inv]
    · obtain ⟨hwf', hsize⟩ := wf_refresh j seg hwf hw
      exact ⟨hwf', by rw [hsize]; exact hcount⟩
    · obtain ⟨hwf', hsize⟩ := wf_insert j seg hwf hw
      exact ⟨hwf', by rw [hsize]; push_cast; omega⟩
    · exact ⟨hwf, hcount⟩
    · exact ⟨hwf, hcount⟩
  | clear =>
    simp only [connStep, nanonetClearTcpConnections_eq, ConnState.Inv, ConnTable.size_empty]
    exact ⟨ConnTable.wf_empty jhash, by push_cast; omega⟩

theorem connRun_inv (s : ConnState) (ops : List ConnOp) (h : s.Inv jhash a0) :
    (connRun jhash s ops).Inv jhash a0 := by
  induction ops generalizing s with
  | nil => exact h
  | cons op ops ih => exact ih _ (connStep_inv jhash a0 s op h)

/-- From the empty table, after any sequence of tracks (with any allocation
    outcomes) and clears: no two records share a 4-tuple, every record sits
    in the chain its 4-tuple hashes to, and `connections_active` has gained
    exactly the number of records; the next clear empties every chain and
    adds the number of records it removes to `connections_dropped`; and the
    next track, if it returns `-ENOMEM`, changes neither the table nor the
    gauges. -/
theorem connRun_invariants (d0 : Int) (ops : List ConnOp) :
    let s := connRun jhash ⟨ConnTable.empty, a0, d0⟩ ops
    s.table.WF jhash ∧ s.active - a0 = s.table.size ∧
    (∀ i, (connStep jhash s .clear).2.table.bucket i = [] ∧
      (connStep jhash s .clear).2.dropped = s.dropped + s.table.size) ∧
    ∀ seg ok j, (connStep jhash s (.track seg ok j)).1 = -enomem →
      (connStep jhash s (.track seg ok j)).2 = s := by
  intro s
  have hinv : s.Inv jhash a0 :=
    connRun_inv jhash a0 _ ops ⟨ConnTable.wf_empty jhash, by simp⟩
  refine ⟨hinv.1, hinv.2, fun i => ?_, fun seg ok j h => ?_⟩
  · simp [connStep, nanonetClearTcpConnections_eq]
  · rcases nanonetTrackTcpConnection_cases jhash ok j seg s.table s.active with
      ⟨b, -, hr⟩ | ⟨-, -, -, hr⟩ | ⟨-, -, -, hr⟩ | ⟨-, -, hr⟩ <;>
      simp only [connStep, hr] at h ⊢
    all_goals first | rfl | (exfalso; revert h; decide)

end Run

/-! ## A handshake -/

/-- A pure SYN on the empty table creates its record alone in its chain. -/
theorem nanonetTrackTcpConnection_pureSyn_empty (jhash : JHash) (j : BitVec 64) (seg : TcpSegment)
    (hs : seg.pureSyn = true) :
    nanonetTrackTcpConnection jhash true j seg ConnTable.empty 0 =
      (0, ConnTable.empty.setBucket (seg.key.bucket jhash) [newConn seg j], 1) := by
  simp [nanonetTrackTcpConnection, walkChain, hs]

/-- After the pure SYN `A:p → T:q` creates its record, the SYN+ACK
    `T:q → A:p` carries the swapped 4-tuple, which the record matches only
    when client and server are one endpoint. Otherwise the reply is refused
    with `-EINVAL` and the record stays SynSent. -/
theorem syn_ack_reply_matched_iff_self_connection (jhash : JHash) (A T : BitVec 32) (p q : BitVec 16)
    (seq1 ack1 seq2 ack2 : BitVec 32) (j1 j2 : BitVec 64) :
    let syn : TcpSegment := ⟨A, T, p, q, seq1, ack1, true, false⟩
    let reply : TcpSegment := ⟨T, A, q, p, seq2, ack2, true, true⟩
    let r1 : Int × ConnTable × Int := nanonetTrackTcpConnection jhash true j1 syn ConnTable.empty 0
    let r2 : Int × ConnTable × Int := nanonetTrackTcpConnection jhash true j2 reply r1.2.1 r1.2.2
    r1.1 = 0 ∧ r1.2.1.records = [newConn syn j1] ∧ (newConn syn j1).state = 1 ∧
      (r2.1 = 0 ↔ A = T ∧ p = q) ∧
      r2.2.1.records = if A = T ∧ p = q then [(newConn syn j1).refresh reply j2] else [newConn syn j1] := by
  intro syn reply r1 r2
  have hh := bucket_lt jhash syn.key
  have hr1 : r1 = (0, ConnTable.empty.setBucket (syn.key.bucket jhash) [newConn syn j1], 1) :=
    nanonetTrackTcpConnection_pureSyn_empty jhash j1 syn rfl
  set t1 := ConnTable.empty.setBucket (syn.key.bucket jhash) [newConn syn j1]
  have hrec : t1.records = [newConn syn j1] :=
    ConnTable.records_setBucket_of_records_eq hh (by simp) _
  have hb : t1.bucket (syn.key.bucket jhash) = [newConn syn j1] := by
    simp [t1, ConnTable.bucket_setBucket _ hh]
  have hr2 : r2 = nanonetTrackTcpConnection jhash true j2 reply t1 1 := by
    show nanonetTrackTcpConnection jhash true j2 reply r1.2.1 r1.2.2 = _
    rw [hr1]
  -- the record's 4-tuple is the reply's exactly for a self-connection
  have hkey : syn.key = reply.key ↔ A = T ∧ p = q := by
    show (⟨A, T, p, q⟩ : FlowKey) = ⟨T, A, q, p⟩ ↔ _
    simp only [FlowKey.mk.injEq]
    exact ⟨fun h => ⟨h.1, h.2.2.1⟩, fun h => ⟨h.1, h.1.symm, h.2, h.2.symm⟩⟩
  refine ⟨by rw [hr1], by rw [hr1]; exact hrec, rfl, ?_⟩
  by_cases hs : A = T ∧ p = q
  · have hk := hkey.2 hs
    have hw : walkChain reply j2 (t1.bucket (reply.key.bucket jhash)) =
        some [(newConn syn j1).refresh reply j2] := by
      rw [← hk, hb]
      simp [walkChain, hk]
    rw [hr2, if_pos hs]
    simp only [nanonetTrackTcpConnection, hw]
    rw [← hk, ConnTable.records_setBucket_of_records_eq hh (hrec.trans hb.symm)]
    simp [hs]
  · have hw : walkChain reply j2 (t1.bucket (reply.key.bucket jhash)) = none :=
      walkChain_eq_none.2 fun c hc => by
        have hc' : c ∈ t1.records := ConnTable.mem_records.2 ⟨_, hc⟩
        rw [hrec, List.mem_singleton] at hc'
        rw [hc', newConn_key]
        exact fun h => hs (hkey.1 h)
    rw [hr2, if_neg hs]
    simp only [nanonetTrackTcpConnection, hw]
    simp [hs, hrec, einval, reply, TcpSegment.pureSyn]

/-! ## The record hash

`nanonet_conn_hash` packs a record's ports as stored, in network order, while
the tracker packs the segment's ports after `ntohs`. So the chain a record is
inserted into and the chain the record hash names are hashes of two
different words, one the byte swap of the other's ports.
-/

/-- The record a pure SYN inserts is hashed by `nanonet_conn_hash` to the
    chain it is inserted into, whatever the hash function, exactly when both
    of its ports are byte palindromes. -/
theorem connHash_newConn_eq_bucket_iff (seg : TcpSegment) (j : BitVec 64) :
    (∀ jhash : JHash, nanonetConnHash jhash (newConn seg j) = seg.key.bucket jhash) ↔
      ntohs seg.source = seg.source ∧ ntohs seg.dest = seg.dest := by
  refine ⟨fun h => ?_, fun ⟨hs, hd⟩ jhash => ?_⟩
  · -- a hash that tells the tracker's port word from every other word
    have := h fun _ _ w _ =>
      if w = (ntohs seg.source).setWidth 32 <<< 16 ||| (ntohs seg.dest).setWidth 32 then 0 else 1
    simp only [nanonetConnHash, FlowKey.bucket, newConn, TcpSegment.key] at this
    split_ifs at this with hw
    · exact (portWord_inj.1 hw).imp Eq.symm Eq.symm
    · simp [connHashSize] at this
  · rw [nanonetConnHash_eq_bucket]
    simp only [newConn, TcpSegment.key, hs, hd]

/-- The pure SYN 10.0.0.2:1000 → 10.0.0.1:8080, its fields as the host loads
    them, on the empty table. For every hash function the record goes into
    the chain of the word `0x03E81F90` (ports 1000 and 8080), while
    `nanonet_conn_hash` hashes `0xE803901F`; with the hash that returns the
    port word, those are chains 912 and 31. -/
theorem conn_hash_misses_insert_chain :
    let seg : TcpSegment := ⟨0x0200000A, 0x0100000A, 0xE803, 0x901F, 0x01000000, 0, true, false⟩
    (∀ jhash : JHash,
      let r : Int × ConnTable × Int := nanonetTrackTcpConnection jhash true 0 seg ConnTable.empty 0
      r.1 = 0 ∧
        r.2.1.bucket ((jhash 0x0200000A 0x0100000A 0x03E81F90 0).toNat % 1024) = [newConn seg 0] ∧
        nanonetConnHash jhash (newConn seg 0) = (jhash 0x0200000A 0x0100000A 0xE803901F 0).toNat % 1024) ∧
    (nanonetTrackTcpConnection (fun _ _ w _ => w) true 0 seg ConnTable.empty 0).2.1.bucket 912 =
      [newConn seg 0] ∧
    nanonetConnHash (fun _ _ w _ => w) (newConn seg 0) = 31 := by
  intro seg
  have hins (jhash : JHash) : (nanonetTrackTcpConnection jhash true 0 seg ConnTable.empty 0).2.1.bucket
      (seg.key.bucket jhash) = [newConn seg 0] := by
    rw [nanonetTrackTcpConnection_pureSyn_empty jhash 0 seg rfl,
      ConnTable.bucket_setBucket _ (bucket_lt jhash seg.key), if_pos rfl]
  -- the tracker hashes the ports after ntohs, the record hash before
  have hw : (ntohs 0xE803).setWidth 32 <<< 16 ||| (ntohs (0x901F : BitVec 16)).setWidth 32 = 0x03E81F90 := by
    decide
  have hb (jhash : JHash) :
      seg.key.bucket jhash = (jhash 0x0200000A 0x0100000A 0x03E81F90 0).toNat % 1024 := by
    simp only [FlowKey.bucket, TcpSegment.key, seg, hw, connHashSize]
  have hc (jhash : JHash) :
      nanonetConnHash jhash (newConn seg 0) = (jhash 0x0200000A 0x0100000A 0xE803901F 0).toNat % 1024 := by
    simp only [nanonetConnHash, newConn, seg, connHashSize]
    rfl
  refine ⟨fun jhash => ⟨by rw [nanonetTrackTcpConnection_pureSyn_empty jhash 0 seg rfl], hb jhash ▸ hins jhash,
    hc jhash⟩, (hb (fun _ _ w _ => w) ▸ hins (fun _ _ w _ => w) :), hc _⟩

end NanoNet
