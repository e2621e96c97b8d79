/-
  NanoNet.Wire

  Bytes, the ingress `sk_buff`, and the fast path's reads of it.

  The module is built for x86, the only target its headers compile for
  (the `ull_tcphdr` bit-fields are laid out little-endian): a load of a
  multi-byte field is a little-endian load, a store writes the value's
  little-endian image, and `ntohs`/`htons`/`ntohl`/`htonl` swap bytes.

  Every read of the ingress frame goes through `Reads`, which returns the
  byte and records the offset read. The footprint of a whole run of
  `nanonet_hook` is then a value of the model (`Reads.offs`), and the
  bounds results are statements about it: `ullParsePacket_offs` for the
  parser, and NanoNet.Footprint for the whole hook. Memory past the end of
  the frame is part of the `SkBuff` (`beyond`), so an out-of-bounds read returns
  whatever lies there instead of stopping the model.
-/
import Mathlib.Data.BitVec

namespace NanoNet

abbrev Byte := BitVec 8

/-! ## The read-logging monad -/

/-- A computation over the ingress frame: its value, and the offsets of
    every frame byte it read, in order. -/
structure Reads (α : Type) where
  val : α
  offs : List Nat

instance : Monad Reads where
  pure a := ⟨a, []⟩
  bind x f := ⟨(f x.val).val, x.offs ++ (f x.val).offs⟩

section Reads

variable {α β : Type}

@[simp] theorem Reads.val_pure (a : α) : (pure a : Reads α).val = a := rfl
@[simp] theorem Reads.offs_pure (a : α) : (pure a : Reads α).offs = [] := rfl
@[simp] theorem Reads.val_bind (x : Reads α) (f : α → Reads β) :
    (x >>= f).val = (f x.val).val := rfl
@[simp] theorem Reads.offs_bind (x : Reads α) (f : α → Reads β) :
    (x >>= f).offs = x.offs ++ (f x.val).offs := rfl
@[simp] theorem Reads.val_map (f : α → β) (x : Reads α) : (f <$> x).val = f x.val := rfl
@[simp] theorem Reads.offs_map (f : α → β) (x : Reads α) : (f <$> x).offs = x.offs := by
  show x.offs ++ [] = x.offs
  simp

end Reads

/-! ## The ingress `sk_buff` -/

/-- An ingress `sk_buff` as `nanonet_hook` sees it: the `skb->len` bytes of
    the frame, the memory that follows them in the linear buffer, and
    whether `skb->dev` is set. -/
structure SkBuff where
  data : List Byte
  beyond : Nat → Byte
  dev : Bool

namespace SkBuff

/-- `skb->len`. -/
def len (skb : SkBuff) : Nat := skb.data.length

/-- The byte at `off` of the linear buffer: a frame byte below `len`, and
    whatever lies past the frame otherwise. -/
def byteAt (skb : SkBuff) (off : Nat) : Byte :=
  skb.data.getD off (skb.beyond (off - skb.len))

/-- One byte read of the frame, logged. -/
def read (skb : SkBuff) (off : Nat) : Reads Byte := ⟨skb.byteAt off, [off]⟩

/-- A `__u16`/`__be16` field load at `off` (little-endian on x86). -/
def load16 (skb : SkBuff) (off : Nat) : Reads (BitVec 16) := do
  let b0 ← skb.read off
  let b1 ← skb.read (off + 1)
  pure (b1 ++ b0)

/-- A `__u32`/`__be32` field load at `off`. -/
def load32 (skb : SkBuff) (off : Nat) : Reads (BitVec 32) := do
  let lo ← skb.load16 off
  let hi ← skb.load16 (off + 2)
  pure (hi ++ lo)

/-- `n` bytes from `off`, as `memcpy` reads them. -/
def readBytes (skb : SkBuff) (off : Nat) : Nat → Reads (List Byte)
  | 0 => pure []
  | n + 1 => do
    let b ← skb.read off
    let bs ← skb.readBytes (off + 1) n
    pure (b :: bs)

@[simp] theorem read_val (skb : SkBuff) (off : Nat) : (skb.read off).val = skb.byteAt off := rfl
@[simp] theorem read_offs (skb : SkBuff) (off : Nat) : (skb.read off).offs = [off] := rfl

@[simp] theorem load16_offs (skb : SkBuff) (off : Nat) :
    (skb.load16 off).offs = [off, off + 1] := rfl

@[simp] theorem load32_offs (skb : SkBuff) (off : Nat) :
    (skb.load32 off).offs = [off, off + 1, off + 2, off + 2 + 1] := rfl

theorem readBytes_offs (skb : SkBuff) (off n : Nat) :
    (skb.readBytes off n).offs = List.range' off n := by
  induction n generalizing off with
  | zero => rfl
  | succ n ih => simp [readBytes, ih, List.range'_succ]

theorem readBytes_val (skb : SkBuff) (off n : Nat) :
    (skb.readBytes off n).val = (List.range' off n).map skb.byteAt := by
  induction n generalizing off with
  | zero => rfl
  | succ n ih => simp [readBytes, ih, List.range'_succ]

theorem byteAt_of_lt {skb : SkBuff} {off : Nat} (h : off < skb.len) :
    skb.byteAt off = skb.data.get ⟨off, h⟩ := by
  simp [byteAt, List.getD_eq_getElem?_getD, List.getElem?_eq_getElem h]

end SkBuff

/-! ## Byte order -/

/-- Swap the two bytes of a 16-bit value. -/
def bswap16 (x : BitVec 16) : BitVec 16 := x.extractLsb' 0 8 ++ x.extractLsb' 8 8

/-- Swap the four bytes of a 32-bit value. -/
def bswap32 (x : BitVec 32) : BitVec 32 :=
  x.extractLsb' 0 8 ++ x.extractLsb' 8 8 ++ x.extractLsb' 16 8 ++ x.extractLsb' 24 8

def ntohs (x : BitVec 16) : BitVec 16 := bswap16 x
def htons (x : BitVec 16) : BitVec 16 := bswap16 x
def ntohl (x : BitVec 32) : BitVec 32 := bswap32 x
def htonl (x : BitVec 32) : BitVec 32 := bswap32 x

/-- The bytes a `u16` store writes, lowest address first. -/
def le16 (x : BitVec 16) : List Byte := [x.extractLsb' 0 8, x.extractLsb' 8 8]

/-- The bytes a `u32` store writes. -/
def le32 (x : BitVec 32) : List Byte := le16 (x.extractLsb' 0 16) ++ le16 (x.extractLsb' 16 16)

/-- The bytes a `u64` store writes. -/
def le64 (x : BitVec 64) : List Byte := le32 (x.extractLsb' 0 32) ++ le32 (x.extractLsb' 32 32)

@[simp] theorem le16_length (x : BitVec 16) : (le16 x).length = 2 := rfl
@[simp] theorem le32_length (x : BitVec 32) : (le32 x).length = 4 := rfl
@[simp] theorem le64_length (x : BitVec 64) : (le64 x).length = 8 := rfl

/-- A 16-bit load's value: the second byte is the high one. -/
theorem toNat_byte_append (b1 b0 : Byte) : (b1 ++ b0).toNat = b1.toNat * 256 + b0.toNat := by
  rw [BitVec.toNat_append, Nat.shiftLeft_eq, Nat.mul_comm, ← Nat.mul_add_lt_is_or b0.isLt]

/-- The value of the two bytes a `u16` store writes, read back as a word. -/
theorem le16_word (x : BitVec 16) :
    (x.extractLsb' 8 8).toNat * 256 + (x.extractLsb' 0 8).toNat = x.toNat := by
  simp only [BitVec.extractLsb'_toNat, Nat.shiftRight_eq_div_pow]
  have := x.isLt
  omega

/-- A 16-bit load of the bytes a `u16` store wrote gives the value back. -/
theorem load_le16 (x : BitVec 16) : x.extractLsb' 8 8 ++ x.extractLsb' 0 8 = x := by
  apply BitVec.eq_of_toNat_eq
  rw [toNat_byte_append, le16_word]

theorem bswap16_toNat (x : BitVec 16) : (bswap16 x).toNat = x.toNat % 256 * 256 + x.toNat / 256 := by
  simp only [bswap16, toNat_byte_append, BitVec.extractLsb'_toNat, Nat.shiftRight_eq_div_pow,
    Nat.reducePow, Nat.div_one]
  have := x.isLt
  omega

@[simp] theorem bswap16_bswap16 (x : BitVec 16) : bswap16 (bswap16 x) = x := by
  apply BitVec.eq_of_toNat_eq
  have := x.isLt
  rw [bswap16_toNat, bswap16_toNat]
  omega

@[simp] theorem ntohs_htons (x : BitVec 16) : ntohs (htons x) = x := bswap16_bswap16 x

/-! ## Constants of the kernel headers -/

/-- `ETH_P_IP`. -/
def ethPIp : BitVec 16 := 0x0800
/-- `IPPROTO_TCP`. -/
def ipprotoTcp : Byte := 6
/-- `IPPROTO_UDP`. -/
def ipprotoUdp : Byte := 17
/-- `IP_DF`. -/
def ipDf : BitVec 16 := 0x4000

/-- `sizeof(struct ull_ethhdr)`. -/
def ethHdrLen : Nat := 14
/-- `sizeof(struct ull_iphdr)`. -/
def ipHdrLen : Nat := 20
/-- `sizeof(struct ull_tcphdr)`. -/
def tcpHdrLen : Nat := 20
/-- `sizeof(struct ull_udphdr)`. -/
def udpHdrLen : Nat := 8

/-! Linux errno values, returned negated. -/

def eperm : Int := 1
def eio : Int := 5
def enomem : Int := 12
def efault : Int := 14
def ebusy : Int := 16
def enodev : Int := 19
def einval : Int := 22
def enotty : Int := 25
def eprotonosupport : Int := 93

/-- An `int` computed from an exact integer: the low 32 bits, read as two's
    complement (the conversion the compiler applies when an `unsigned long`
    difference is stored into an `int`). -/
def cInt (x : Int) : Int := (BitVec.ofInt 32 x).toInt

/-- A non-negative `int` result of the conversion is at most the exact value. -/
theorem cInt_le {x : Int} (hx : -2 ^ 31 ≤ x) (h : 0 ≤ cInt x) : cInt x ≤ x := by
  simp only [cInt, BitVec.toInt_ofInt, Int.bmod] at h ⊢
  split <;> simp_all <;> omega

end NanoNet
