/-
  NanoNet.MicroStack

  `ull_parse_packet` (micro_stack.c): the zero-copy decoder of an ingress
  Ethernet/IPv4/TCP-or-UDP frame.

  The out-parameters are pointers into the frame; the model returns them as
  offsets (`none` for `NULL`) next to the result code. The parser checks the
  frame length before each fixed-size header, but the two checksum calls it
  makes run over lengths taken from the frame (`4 * IHL` bytes of IP header,
  `ntohs(udp->len)` bytes of UDP datagram) with no check against `skb->len`;
  their reads are exactly those ranges (`validateChecksum_offs`).

  `validate_checksum` recomputes the checksum over a region that contains
  the stored checksum field and compares the result with that field. Line 85
  of the source writes `udp_hdr->check` on the `struct ull_udphdr **`
  out-parameter; it is read as the parsed header's field, `(*udp_hdr)->check`.
-/
import NanoNet.Checksum

namespace NanoNet

/-- Where `ull_parse_packet` leaves its out-parameters: header and payload
    pointers as offsets into the frame (`none` is `NULL`), and
    `*payload_len`. -/
structure ParsedPacket where
  ipHdr : Option Nat := none
  tcpHdr : Option Nat := none
  udpHdr : Option Nat := none
  payload : Option Nat := none
  payloadLen : Int := 0
  deriving DecidableEq, Repr

/-- `*payload = transport_hdr + transport_hdr_len;` and
    `*payload_len = skb->len - 14 - ip_hdr_len - transport_hdr_len;`, both
    reset when the length is negative. The difference is computed in
    `unsigned long` and stored into an `int`. -/
def ParsedPacket.withPayload (out : ParsedPacket) (len th thl ihl : Nat) : ParsedPacket :=
  let n := cInt ((len : Int) - ethHdrLen - ihl - thl)
  if n < 0 then { out with payload := none, payloadLen := 0 }
  else { out with payload := some (th + thl), payloadLen := n }

/-- `ull_parse_packet(skb, &ip_hdr, &tcp_hdr, &udp_hdr, &payload, &payload_len)`. -/
def ullParsePacket (skb : SkBuff) : Reads (Int × ParsedPacket) :=
  if skb.len < ethHdrLen then pure (-einval, {}) else do
  let proto ← skb.load16 12
  if ntohs proto ≠ ethPIp then pure (-eprotonosupport, {}) else
  if skb.len < ethHdrLen + ipHdrLen then pure (-einval, {}) else do
  let out : ParsedPacket := { ipHdr := some ethHdrLen }
  let vi ← skb.read ethHdrLen
  if vi >>> 4 ≠ 4#8 then pure (-eprotonosupport, out) else
  let ihl := (vi &&& 0x0F#8).toNat * 4
  if ihl < ipHdrLen then pure (-einval, out) else do
  let check ← skb.load16 (ethHdrLen + 10)
  let r ← validateChecksum skb.read ethHdrLen ihl check
  if r < 0 then pure (-einval, out) else do
  let th := ethHdrLen + ihl
  let protocol ← skb.read (ethHdrLen + 9)
  if protocol = ipprotoTcp then
    if skb.len < ethHdrLen + ihl + tcpHdrLen then pure (-einval, out) else do
    let out := { out with tcpHdr := some th }
    let b ← skb.read (th + 12)
    let thl := (b >>> 4).toNat * 4
    if thl < tcpHdrLen then pure (-einval, out)
    else pure (0, out.withPayload skb.len th thl ihl)
  else if protocol = ipprotoUdp then
    if skb.len < ethHdrLen + ihl + udpHdrLen then pure (-einval, out) else do
    let out := { out with udpHdr := some th }
    let check ← skb.load16 (th + 6)
    let r ← if check ≠ 0#16 then do
        let len ← skb.load16 (th + 4)
        validateChecksum skb.read th (ntohs len).toNat check
      else pure 0
    if r < 0 then pure (-einval, out)
    else pure (0, out.withPayload skb.len th udpHdrLen ihl)
  else pure (-eprotonosupport, out)

end NanoNet
