/-
  NanoNet.Checksum

  `nanonet_compute_checksum` and `validate_checksum` (micro_stack.c).

  The function sums the buffer as host-order (here little-endian) 16-bit
  words into a `u32`, adds a trailing odd byte shifted left by 8, folds the
  carries back in with a `while` loop and returns the complement. The
  buffer is read through a reader `rd`, so the same definition covers the
  ingress frame (reads logged) and the header the response builder has
  just written (`pureRead`). The folding loop is given two rounds of fuel:
  `foldCarries_two_lt` shows the loop condition is false after them, and
  `foldCarries_add_two` that further rounds change nothing, so this is the
  loop's result.

  `rfc1071Sum` is the spec's checksum (§4.2), over big-endian words; it is
  what the parser's acceptance is compared against.

  A checksum written back at an even offset makes the buffer verify, odd
  lengths included (`checksum_written_verifies`). Stored in host order, the
  result is the RFC 1071 checksum in network order for every even length
  (`nanonetComputeChecksum_even_rfc1071`); a trailing odd byte is added as
  the low byte of a big-endian word, so on odd lengths the two differ
  (`odd_checksum_bytes_swapped`).
-/
import NanoNet.Wire
import Mathlib.Algebra.Order.Ring.Nat

namespace NanoNet

/-! ## The summing loops -/

/-- `while (len > 1) { sum += *ptr++; len -= 2; } if (len == 1) sum += *(u8 *)ptr << 8;`
    from byte `off` with `len` bytes left and accumulator `sum`. -/
def checksumSum (rd : Nat → Reads Byte) : (off len : Nat) → BitVec 32 → Reads (BitVec 32)
  | _, 0, sum => pure sum
  | off, 1, sum => do
    let b ← rd off
    pure (sum + (b.setWidth 32 <<< 8))
  | off, len + 2, sum => do
    let b0 ← rd off
    let b1 ← rd (off + 1)
    checksumSum rd (off + 2) len (sum + (b1 ++ b0).setWidth 32)

/-- `while (sum >> 16) sum = (sum & 0xFFFF) + (sum >> 16);`, for at most
    `fuel` rounds. -/
def foldCarries : Nat → BitVec 32 → BitVec 32
  | 0, sum => sum
  | fuel + 1, sum =>
    if sum >>> 16 = 0#32 then sum else foldCarries fuel ((sum &&& 0xFFFF#32) + (sum >>> 16))

/-- `nanonet_compute_checksum(data, len)` over the bytes `rd` returns from `off`. -/
def nanonetComputeChecksum (rd : Nat → Reads Byte) (off len : Nat) : Reads (BitVec 16) := do
  let sum ← checksumSum rd off len 0
  pure ((~~~(foldCarries 2 sum)).setWidth 16)

/-- `validate_checksum(data, len, check)`: `0` when the recomputed checksum
    equals `check`, `-EINVAL` otherwise. -/
def validateChecksum (rd : Nat → Reads Byte) (off len : Nat) (check : BitVec 16) : Reads Int := do
  let c ← nanonetComputeChecksum rd off len
  pure (if c = check then 0 else -einval)

/-- A buffer read without logging: the bytes the response builder has written. -/
def pureRead (bs : List Byte) (off : Nat) : Reads Byte := pure (bs.getD off 0)

/-! ## The carry loop exits after two rounds -/

theorem foldRound_toNat (s : BitVec 32) :
    ((s &&& 0xFFFF#32) + (s >>> 16)).toNat = s.toNat % 65536 + s.toNat / 65536 := by
  have h1 : (s &&& 0xFFFF#32).toNat = s.toNat % 65536 :=
    (BitVec.toNat_and _ _).trans (Nat.and_pow_two_sub_one_eq_mod s.toNat 16)
  have h2 : (s >>> 16).toNat = s.toNat / 65536 := by
    simp [BitVec.toNat_ushiftRight, Nat.shiftRight_eq_div_pow]
  have := s.isLt
  rw [BitVec.toNat_add, h1, h2, Nat.mod_eq_of_lt (by omega)]

theorem high_zero_iff (s : BitVec 32) : s >>> 16 = 0#32 ↔ s.toNat < 65536 := by
  rw [BitVec.toNat_eq]
  simp [BitVec.toNat_ushiftRight, Nat.shiftRight_eq_div_pow]
  omega

theorem foldCarries_of_lt {s : BitVec 32} (h : s.toNat < 65536) (n : Nat) :
    foldCarries n s = s := by
  cases n <;> simp [foldCarries, (high_zero_iff s).2 h]

/-- Two rounds leave no carry: the `while` condition is false after them. -/
theorem foldCarries_two_lt (s : BitVec 32) : (foldCarries 2 s).toNat < 65536 := by
  simp only [foldCarries]
  split
  · exact (high_zero_iff s).1 ‹_›
  · split
    · exact (high_zero_iff _).1 ‹_›
    · rename_i h1 h2
      rw [high_zero_iff] at h1 h2
      rw [foldRound_toNat] at h2
      rw [foldRound_toNat, foldRound_toNat]
      have := s.isLt
      omega

/-- More rounds of fuel do not change the result: two rounds are the loop. -/
theorem foldCarries_add_two (n : Nat) (s : BitVec 32) :
    foldCarries (n + 2) s = foldCarries 2 s := by
  have h := foldCarries_two_lt s
  simp only [foldCarries] at h ⊢
  split
  · rfl
  · split
    · rfl
    · rename_i h1 h2
      simp only [h1, h2, ite_false] at h
      exact foldCarries_of_lt h n

/-! ## Footprint -/

/-- Over the ingress frame, the checksum reads exactly the bytes
    `[off, off + len)`. -/
theorem checksumSum_offs (skb : SkBuff) (off len : Nat) (sum : BitVec 32) :
    (checksumSum skb.read off len sum).offs = List.range' off len := by
  induction len using Nat.twoStepInduction generalizing off sum with
  | zero => rfl
  | one => rfl
  | more len ih _ =>
    simp [checksumSum, ih, List.range'_succ, Nat.add_assoc]

theorem nanonetComputeChecksum_offs (skb : SkBuff) (off len : Nat) :
    (nanonetComputeChecksum skb.read off len).offs = List.range' off len := by
  simp [nanonetComputeChecksum, checksumSum_offs]

theorem validateChecksum_offs (skb : SkBuff) (off len : Nat) (check : BitVec 16) :
    (validateChecksum skb.read off len check).offs = List.range' off len := by
  simp [validateChecksum, nanonetComputeChecksum_offs]

/-! ## RFC 1071 -/

/-- The big-endian 16-bit words of `bs`, a trailing odd byte taken as the
    high byte of a zero-padded word. -/
def beWords : List Byte → List Nat
  | [] => []
  | [b] => [b.toNat * 256]
  | b0 :: b1 :: bs => (b0.toNat * 256 + b1.toNat) :: beWords bs

/-- One's-complement addition of 16-bit values: the carry is added back in. -/
def onesAdd (a b : Nat) : Nat := if a + b < 65536 then a + b else a + b - 65535

/-- The RFC 1071 one's-complement sum of `bs`; a header is correctly
    checksummed when the sum over all of it, checksum field included, is
    `0xFFFF`. -/
def rfc1071Sum (bs : List Byte) : Nat := (beWords bs).foldl onesAdd 0

/-! ## Agreement with RFC 1071 -/

/-- The words the summing loop adds, as the host loads them: little-endian
    pairs, and a trailing odd byte shifted left by 8. -/
def leWords : List Byte → List Nat
  | [] => []
  | [b] => [b.toNat * 256]
  | b0 :: b1 :: bs => (b1.toNat * 256 + b0.toNat) :: leWords bs

/-- The summing loop adds the host-order words of the bytes it reads, in
    `u32` arithmetic. -/
theorem checksumSum_val {rd : Nat → Reads Byte} {f : Nat → Byte} (hf : ∀ i, (rd i).val = f i)
    (off len : Nat) (sum : BitVec 32) :
    (checksumSum rd off len sum).val.toNat =
      (sum.toNat + (leWords ((List.range' off len).map f)).sum) % 2 ^ 32 := by
  induction len using Nat.twoStepInduction generalizing off sum with
  | zero => simp [checksumSum, leWords, Nat.mod_eq_of_lt sum.isLt]
  | one =>
    have := (f off).isLt
    simp [checksumSum, leWords, hf, BitVec.toNat_add, Nat.shiftLeft_eq]
  | more len ih _ =>
    have := (f off).isLt
    have := (f (off + 1)).isLt
    simp only [checksumSum, Reads.val_bind, hf, ih, List.range'_succ, List.map_cons, leWords,
      show off + 1 + 1 = off + 2 from rfl,
      List.sum_cons, BitVec.toNat_add, BitVec.toNat_setWidth, toNat_byte_append]
    omega

/-- The carry loop keeps the sum's residue modulo `0xFFFF`, and keeps a
    non-zero sum non-zero. -/
theorem foldCarries_two_mod (s : BitVec 32) :
    (foldCarries 2 s).toNat % 65535 = s.toNat % 65535 ∧ ((foldCarries 2 s).toNat = 0 ↔ s.toNat = 0) := by
  simp only [foldCarries]
  split
  · exact ⟨rfl, Iff.rfl⟩
  · split
    · rw [foldRound_toNat]; omega
    · simp only [foldRound_toNat]; omega

theorem beWords_lt : ∀ bs : List Byte, ∀ w ∈ beWords bs, w < 65536
  | [] => by simp [beWords]
  | [b] => by have := b.isLt; simp [beWords]; omega
  | b0 :: b1 :: bs => by
    have := b0.isLt; have := b1.isLt
    simp only [beWords, List.mem_cons]
    rintro w (rfl | hw)
    · omega
    · exact beWords_lt bs w hw

/-- Folding with `onesAdd` keeps the running value in `[0, 0xFFFF]`, keeps its
    residue modulo `0xFFFF`, and is zero only when every word is. -/
theorem foldl_onesAdd (ws : List Nat) (hw : ∀ w ∈ ws, w < 65536) (acc : Nat) (hacc : acc ≤ 65535) :
    ws.foldl onesAdd acc ≤ 65535 ∧ ws.foldl onesAdd acc % 65535 = (acc + ws.sum) % 65535 ∧
    (ws.foldl onesAdd acc = 0 ↔ acc + ws.sum = 0) := by
  induction ws generalizing acc with
  | nil => simp; omega
  | cons w ws ih =>
    have hw0 := hw w (.head _)
    have hs : onesAdd acc w ≤ 65535 ∧ onesAdd acc w % 65535 = (acc + w) % 65535 ∧
        (onesAdd acc w = 0 ↔ acc + w = 0) := by
      unfold onesAdd; split <;> omega
    obtain ⟨h1, h2, h3⟩ := ih (fun v hv => hw v (.tail _ hv)) _ hs.1
    simp only [List.foldl_cons, List.sum_cons]
    refine ⟨h1, by rw [h2, Nat.add_mod, hs.2.1, ← Nat.add_mod, Nat.add_assoc], ?_⟩
    rw [h3]
    simp only [Nat.add_eq_zero, hs.2.2, and_assoc]

/-- The RFC 1071 sum is `0xFFFF` exactly when the big-endian words sum to a
    non-zero multiple of `0xFFFF`. -/
theorem rfc1071Sum_eq_iff (bs : List Byte) :
    rfc1071Sum bs = 0xFFFF ↔ (beWords bs).sum % 65535 = 0 ∧ (beWords bs).sum ≠ 0 := by
  obtain ⟨h1, h2, h3⟩ := foldl_onesAdd (beWords bs) (beWords_lt bs) 0 (by omega)
  unfold rfc1071Sum
  omega

/-- Summing host-order words is summing network-order words times 256, modulo
    `0xFFFF`, when there is no odd trailing byte: the one's-complement sum
    does not depend on byte order. -/
theorem beWords_sum_mod : ∀ bs : List Byte, bs.length % 2 = 0 →
    (beWords bs).sum % 65535 = 256 * (leWords bs).sum % 65535
  | [] => by simp [beWords, leWords]
  | [_] => by simp
  | b0 :: b1 :: bs => by
    intro h
    have ih := beWords_sum_mod bs (by simp only [List.length_cons] at h; omega)
    simp only [beWords, leWords, List.sum_cons]
    omega

theorem leWords_sum_le : ∀ bs : List Byte, (leWords bs).sum ≤ 65535 * bs.length
  | [] => by simp [leWords]
  | [b] => by have := b.isLt; simp [leWords]; omega
  | b0 :: b1 :: bs => by
    have := b0.isLt; have := b1.isLt; have := leWords_sum_le bs
    simp only [leWords, List.sum_cons, List.length_cons]
    omega

theorem beWords_sum_eq_zero_iff : ∀ bs : List Byte, (beWords bs).sum = 0 ↔ (leWords bs).sum = 0
  | [] => by simp [beWords, leWords]
  | [b] => by simp [beWords, leWords]
  | b0 :: b1 :: bs => by
    have := beWords_sum_eq_zero_iff bs
    simp only [leWords, beWords, List.sum_cons]
    omega

theorem leWords_append : ∀ (l1 l2 : List Byte), l1.length % 2 = 0 →
    leWords (l1 ++ l2) = leWords l1 ++ leWords l2
  | [], _, _ => rfl
  | [_], _, h => by simp at h
  | a :: b :: l1, l2, h => by
    simp only [List.cons_append, leWords, List.cons.injEq, true_and]
    exact leWords_append l1 l2 (by simp only [List.length_cons] at h; omega)

/-- The word a `u16` store writes is the stored value. -/
theorem leWords_le16 (x : BitVec 16) : leWords (le16 x) = [x.toNat] := by
  simp only [le16, leWords]
  rw [le16_word]

/-- Reading a buffer back through `pureRead` gives the buffer. -/
theorem map_getD_range' (l : List Byte) : (List.range' 0 l.length).map (fun i => l.getD i 0) = l := by
  apply List.ext_getElem (by simp)
  intro i h1 h2
  simp [List.getElem_range', List.getD_eq_getElem?_getD, List.getElem?_eq_getElem h2]

/-- `nanonet_compute_checksum` is the complement of the folded sum of the
    host-order words it reads. -/
theorem nanonetComputeChecksum_val {rd : Nat → Reads Byte} {f : Nat → Byte}
    (hf : ∀ i, (rd i).val = f i) (off len : Nat) :
    (nanonetComputeChecksum rd off len).val =
      (~~~(foldCarries 2 (BitVec.ofNat 32 (leWords ((List.range' off len).map f)).sum))).setWidth 16 := by
  have h := checksumSum_val hf off len 0
  rw [show (0 : BitVec 32).toNat = 0 from rfl, Nat.zero_add] at h
  simp only [nanonetComputeChecksum, Reads.val_bind, Reads.val_pure]
  rw [show (checksumSum rd off len 0).val = _ from BitVec.eq_of_toNat_eq (h.trans (BitVec.toNat_ofNat _ _).symm)]

theorem complement_fold_toNat (s : BitVec 32) :
    ((~~~(foldCarries 2 s)).setWidth 16).toNat = 65535 - (foldCarries 2 s).toNat := by
  have := foldCarries_two_lt s
  simp only [BitVec.toNat_setWidth, BitVec.toNat_not]
  omega

/-- The checksum of a sum that is a non-zero multiple of `0xFFFF` is `0`. -/
theorem complement_fold_eq_zero {S : Nat} (h1 : S % 65535 = 0) (h2 : 0 < S) (h3 : S < 2 ^ 32) :
    (~~~(foldCarries 2 (BitVec.ofNat 32 S))).setWidth 16 = 0 := by
  obtain ⟨hf1, hf2⟩ := foldCarries_two_mod (BitVec.ofNat 32 S)
  have hlt := foldCarries_two_lt (BitVec.ofNat 32 S)
  rw [BitVec.toNat_ofNat, Nat.mod_eq_of_lt h3] at hf1 hf2
  apply BitVec.eq_of_toNat_eq
  rw [complement_fold_toNat, show (0 : BitVec 16).toNat = 0 from rfl]
  omega

/-- A region that holds its own checksum: adding the checksum of a sum `S`
    to `S` gives a multiple of `0xFFFF`. -/
theorem add_complement_fold {S : Nat} (h3 : S < 2 ^ 32) :
    (S + ((~~~(foldCarries 2 (BitVec.ofNat 32 S))).setWidth 16).toNat) % 65535 = 0 := by
  obtain ⟨hf1, -⟩ := foldCarries_two_mod (BitVec.ofNat 32 S)
  have hlt := foldCarries_two_lt (BitVec.ofNat 32 S)
  rw [BitVec.toNat_ofNat, Nat.mod_eq_of_lt h3] at hf1
  rw [complement_fold_toNat]
  omega

/-- Over an even number of bytes whose RFC 1071 sum is `0xFFFF` (a correctly
    checksummed header, its checksum field included), `nanonet_compute_checksum`
    returns `0`. -/
theorem nanonetComputeChecksum_eq_zero {rd : Nat → Reads Byte} {f : Nat → Byte}
    (hf : ∀ i, (rd i).val = f i) {off len : Nat} (heven : len % 2 = 0) (hlen : len < 65536)
    (h : rfc1071Sum ((List.range' off len).map f) = 0xFFFF) :
    (nanonetComputeChecksum rd off len).val = 0 := by
  rw [nanonetComputeChecksum_val hf]
  set bs := (List.range' off len).map f
  have hle := leWords_sum_le bs
  have hbl : bs.length = len := by simp [bs]
  have hmod := beWords_sum_mod bs (by omega)
  obtain ⟨hbe, hne⟩ := (rfc1071Sum_eq_iff bs).1 h
  have hz : (leWords bs).sum ≠ 0 := fun h0 => hne ((beWords_sum_eq_zero_iff bs).2 h0)
  exact complement_fold_eq_zero (by omega) (Nat.pos_of_ne_zero hz) (by omega)

/-- The IPv4 header of a 52-byte UDP datagram from 10.0.0.2 to 10.0.0.1,
    with checksum field zero and identification 0x26B7. -/
theorem nanonetComputeChecksum_eq_zero_sample :
    let hdr : List Byte := [0x45, 0x00, 0x00, 0x34, 0x26, 0xB7, 0x40, 0x00, 0x40, 0x11, 0x00, 0x00,
      0x0A, 0x00, 0x00, 0x02, 0x0A, 0x00, 0x00, 0x01]
    rfc1071Sum ((List.range' 0 20).map fun i => hdr.getD i 0) = 0xFFFF ∧
    (nanonetComputeChecksum (pureRead hdr) 0 20).val = 0 :=
  ⟨by decide, nanonetComputeChecksum_eq_zero (fun _ => rfl) (by decide) (by decide) (by decide)⟩

/-! ## The checksum an emitter writes -/

theorem leWords_sum_append {l1 : List Byte} (l2 : List Byte) (h : l1.length % 2 = 0) :
    (leWords (l1 ++ l2)).sum = (leWords l1).sum + (leWords l2).sum := by
  rw [leWords_append l1 l2 h, List.sum_append]

/-- Overwriting the two bytes at an even offset `k` changes the word sum by
    the difference of the two words. -/
theorem leWords_sum_write (h m : List Byte) {k : Nat} (hk : k % 2 = 0) (hk2 : k + 2 ≤ h.length)
    (hm : m.length = 2) :
    (leWords (h.take k ++ m ++ h.drop (k + 2))).sum + (leWords ((h.drop k).take 2)).sum =
      (leWords h).sum + (leWords m).sum := by
  have htk : (h.take k).length % 2 = 0 := by simp [List.length_take]; omega
  have hw2 : ((h.drop k).take 2).length % 2 = 0 := by simp; omega
  have hsplit : h = h.take k ++ (h.drop k).take 2 ++ h.drop (k + 2) := by
    rw [List.append_assoc, ← List.drop_drop, List.take_append_drop, List.take_append_drop]
  have e1 : (leWords (h.take k ++ m ++ h.drop (k + 2))).sum =
      (leWords (h.take k)).sum + (leWords m).sum + (leWords (h.drop (k + 2))).sum := by
    rw [List.append_assoc, leWords_sum_append _ htk, leWords_sum_append _ (by omega), Nat.add_assoc]
  have e2 : (leWords h).sum = (leWords (h.take k)).sum + (leWords ((h.drop k).take 2)).sum +
      (leWords (h.drop (k + 2))).sum := by
    conv_lhs => rw [hsplit]
    rw [List.append_assoc, leWords_sum_append _ htk, leWords_sum_append _ hw2, Nat.add_assoc]
  omega

/-- The checksum an emitter writes makes the buffer verify: in a buffer of at
    most 65535 bytes, of any parity, holding two zero bytes at an even offset
    `k`, storing `nanonet_compute_checksum` of the buffer at `k` in host byte
    order gives a buffer whose checksum is `0`. -/
theorem checksum_written_verifies (h : List Byte) (k : Nat) (hn : h.length ≤ 65535)
    (hk : k % 2 = 0) (hk2 : k + 2 ≤ h.length) (h0 : h.getD k 0 = 0) (h1 : h.getD (k + 1) 0 = 0) :
    let c := (nanonetComputeChecksum (pureRead h) 0 h.length).val
    (nanonetComputeChecksum (pureRead (h.take k ++ le16 c ++ h.drop (k + 2))) 0 h.length).val = 0 := by
  intro c
  have hrd : ∀ l : List Byte, ∀ i, (pureRead l i).val = l.getD i 0 := fun _ _ => rfl
  have hlen : (h.take k ++ le16 c ++ h.drop (k + 2)).length = h.length := by simp; omega
  have hc : c = (~~~(foldCarries 2 (BitVec.ofNat 32 (leWords h).sum))).setWidth 16 := by
    simp only [c, nanonetComputeChecksum_val (hrd h), map_getD_range']
  -- the two bytes at `k` form the word 0, so the written buffer sums to `S + c`
  have hw : (h.drop k).take 2 = [0, 0] := by
    simp only [List.getD_eq_getElem?_getD, List.getElem?_eq_getElem (show k < h.length by omega),
      List.getElem?_eq_getElem (show k + 1 < h.length by omega), Option.getD_some] at h0 h1
    rw [List.drop_eq_getElem_cons (show k < h.length by omega),
      List.drop_eq_getElem_cons (show k + 1 < h.length by omega), h0, h1]
    rfl
  have hsum := leWords_sum_write h (le16 c) hk hk2 rfl
  rw [hw, leWords_le16, show leWords [(0 : Byte), 0] = [0] from rfl] at hsum
  simp only [List.sum_cons, List.sum_nil, Nat.add_zero] at hsum
  rw [nanonetComputeChecksum_val (hrd _), ← hlen, map_getD_range']
  -- `c` is the complement of the folded sum `S`, so `S + c` is a non-zero multiple of `0xFFFF`
  have hle := leWords_sum_le h
  have hmod := add_complement_fold (S := (leWords h).sum) (by omega)
  have hct := complement_fold_toNat (BitVec.ofNat 32 (leWords h).sum)
  obtain ⟨-, hz⟩ := foldCarries_two_mod (BitVec.ofNat 32 (leWords h).sum)
  have hflt := foldCarries_two_lt (BitVec.ofNat 32 (leWords h).sum)
  rw [BitVec.toNat_ofNat, Nat.mod_eq_of_lt (by omega)] at hz
  rw [← hc] at hmod hct
  have hcl := c.isLt
  exact complement_fold_eq_zero (by omega) (by omega) (by omega)

/-- A five-byte buffer, odd length, with its zero word at offset 2. -/
theorem checksum_written_verifies_odd :
    let h : List Byte := [0x45, 0x00, 0x00, 0x00, 0x11]
    h.length ≤ 65535 ∧ 2 % 2 = 0 ∧ 2 + 2 ≤ h.length ∧ h.getD 2 0 = 0 ∧ h.getD (2 + 1) 0 = 0 ∧
      (nanonetComputeChecksum (pureRead (h.take 2 ++
        le16 (nanonetComputeChecksum (pureRead h) 0 h.length).val ++ h.drop (2 + 2))) 0 h.length).val = 0 :=
  ⟨by decide, rfl, by decide, rfl, rfl,
    checksum_written_verifies [0x45, 0x00, 0x00, 0x00, 0x11] 2 (by decide) rfl (by decide) rfl rfl⟩

/-! ## Byte order of the stored checksum -/

/-- The RFC 1071 Internet checksum of `bs`: the complement of its
    one's-complement sum. -/
def rfc1071Checksum (bs : List Byte) : BitVec 16 := BitVec.ofNat 16 (0xFFFF - rfc1071Sum bs)

/-- The bytes of a 16-bit value in network byte order. -/
def be16 (x : BitVec 16) : List Byte := [x.extractLsb' 8 8, x.extractLsb' 0 8]

/-- The complement of a 16-bit value, read low byte first, is the complement of
    its byte swap read high byte first. -/
theorem complement_byte_swap {F : Nat} (hF : F < 65536) :
    (65535 - F) % 256 = (65535 - (F % 256 * 256 + F / 256)) / 256 % 256 ∧
      (65535 - F) / 256 % 256 = (65535 - (F % 256 * 256 + F / 256)) % 256 := by
  obtain ⟨q, r, hr, rfl⟩ : ∃ q r, r < 256 ∧ F = 256 * q + r :=
    ⟨F / 256, F % 256, Nat.mod_lt _ (by decide), (Nat.div_add_mod F 256).symm⟩
  have hq : q < 256 := by omega
  rw [Nat.mul_add_mod, Nat.mul_add_div (by decide), Nat.mod_eq_of_lt hr, Nat.div_eq_of_lt hr,
    Nat.add_zero, show 65535 - (256 * q + r) = 256 * (255 - q) + (255 - r) by omega,
    show 65535 - (r * 256 + q) = 256 * (255 - r) + (255 - q) by omega]
  simp only [Nat.mul_add_mod, Nat.mul_add_div (show 0 < 256 by decide)]
  omega

/-- A one's-complement value congruent to `256 * F` modulo `0xFFFF`, and zero
    exactly when `F` is, is the byte swap of `F`. -/
theorem eq_byte_swap_of_mod {F R : Nat} (hFlt : F < 65536) (hR : R ≤ 65535)
    (hmod : R % 65535 = 256 * F % 65535) (hz : R = 0 ↔ F = 0) : R = F % 256 * 256 + F / 256 := by
  have hsw : (F % 256 * 256 + F / 256) % 65535 = 256 * F % 65535 := by omega
  omega

/-- The checksum of a sum `S`, stored low byte first, is the complement of `R`
    stored high byte first, for every `R` that is a one's-complement sum
    congruent to `256 * S` modulo `0xFFFF` and zero exactly when `S` is. -/
theorem le16_complement_fold {S R : Nat} (hS : S < 2 ^ 32) (hR : R ≤ 65535)
    (hmod : R % 65535 = 256 * S % 65535) (hz : R = 0 ↔ S = 0) :
    le16 ((~~~(foldCarries 2 (BitVec.ofNat 32 S))).setWidth 16) =
      be16 (BitVec.ofNat 16 (0xFFFF - R)) := by
  obtain ⟨hF, hF0⟩ := foldCarries_two_mod (BitVec.ofNat 32 S)
  have hFlt := foldCarries_two_lt (BitVec.ofNat 32 S)
  have hct := complement_fold_toNat (BitVec.ofNat 32 S)
  rw [BitVec.toNat_ofNat, Nat.mod_eq_of_lt hS] at hF hF0
  generalize (foldCarries 2 (BitVec.ofNat 32 S)).toNat = F at hF hF0 hFlt hct
  -- `R` is the byte swap of the folded sum
  have hRF := eq_byte_swap_of_mod hFlt hR (by rw [hmod, Nat.mul_mod, ← hF, ← Nat.mul_mod])
    (hz.trans hF0.symm)
  have hRc : (BitVec.ofNat 16 (0xFFFF - R)).toNat = 65535 - (F % 256 * 256 + F / 256) := by
    rw [BitVec.toNat_ofNat, ← hRF]; omega
  obtain ⟨h1, h2⟩ := complement_byte_swap hFlt
  simp only [le16, be16, List.cons.injEq, and_true]
  constructor <;> apply BitVec.eq_of_toNat_eq <;>
    simp only [BitVec.extractLsb'_toNat, Nat.shiftRight_eq_div_pow, hct, hRc, Nat.reducePow,
      Nat.div_one, Nat.shiftRight_zero]
  exacts [h1, h2]

/-- Over an even number of bytes, at most 65535, the checksum stored in host
    byte order is the RFC 1071 checksum in network byte order: the folded
    host-order sum is the byte swap of the one's-complement sum of the
    big-endian words. -/
theorem nanonetComputeChecksum_even_rfc1071 (b : List Byte) (heven : b.length % 2 = 0)
    (hn : b.length ≤ 65535) :
    le16 (nanonetComputeChecksum (pureRead b) 0 b.length).val = be16 (rfc1071Checksum b) := by
  rw [nanonetComputeChecksum_val (f := fun i => b.getD i 0) (fun _ => rfl), map_getD_range']
  have hle := leWords_sum_le b
  obtain ⟨hR, hRmod, hR0⟩ := foldl_onesAdd (beWords b) (beWords_lt b) 0 (by omega)
  rw [Nat.zero_add] at hRmod hR0
  exact le16_complement_fold (by omega) hR (hRmod.trans (beWords_sum_mod b heven))
    (hR0.trans (beWords_sum_eq_zero_iff b))

/-- The first four bytes of the market frame's IP header. -/
theorem nanonetComputeChecksum_even_rfc1071_sample :
    let b : List Byte := [0x45, 0x00, 0x00, 0x34]
    b.length % 2 = 0 ∧ b.length ≤ 65535 ∧
      le16 (nanonetComputeChecksum (pureRead b) 0 b.length).val = be16 (rfc1071Checksum b) :=
  ⟨rfl, by decide, nanonetComputeChecksum_even_rfc1071 [0x45, 0x00, 0x00, 0x34] rfl (by decide)⟩

/-- On a one-byte buffer the stored checksum has its bytes swapped: the loop
    adds the trailing byte shifted left by 8 to a sum of little-endian words,
    where RFC 1071 takes it as the high byte of a big-endian word. -/
theorem odd_checksum_bytes_swapped :
    let b : List Byte := [0x01]
    le16 (nanonetComputeChecksum (pureRead b) 0 b.length).val = [0xFF, 0xFE] ∧
      be16 (rfc1071Checksum b) = [0xFE, 0xFF] := by
  decide

end NanoNet
