import DoomSat.Model.Protocol

/-!
# `DoomSat.Model.Downlink`: the video sender of `satellite/downlink.c`

`downlinkSendNals` packs the NAL units of one frame into RTP datagrams. A NAL of at most
`MAX_PAYLOAD_SIZE` bytes goes into one datagram (`sendSingleNal`). A longer one is cut into
FU-A fragments (`sendFragments`, the inner `while` loop).

The module state of the source is `State`. Two fields of it belong to the environment:
`sendCalls` counts the calls of `sendto`, and `wire` lists the datagrams that left the
socket. The parameter `net` is the network stack: `net k` tells whether the `k`-th call of
`sendto` succeeds. A successful call sends the whole datagram and returns its length.

A NAL unit is the list of its `nal_size` bytes, and the three arguments `nals`,
`nal_sizes` and `num_nals` are one list of NAL units. The list is `none` when `nals` or
`nal_sizes` is a null pointer, and empty when `num_nals <= 0`.
-/

set_option autoImplicit false

namespace DoomSat.Downlink

open Support

/-- The bytes of one NAL unit. -/
abbrev Nal := List UInt8

def MAX_PAYLOAD_SIZE : Nat := 1464
def RTP_HEADER_SIZE : Nat := 8
def RTP_VERSION : UInt8 := 2
def RTP_PAYLOAD_TYPE : UInt8 := 96

/-- The static state of `downlink.c`, with the environment's record of the socket. -/
structure State where
  /-- The socket descriptor, negative before `downlink_init`. -/
  udpSocket : Int
  rtpSeqNumber : UInt16
  gBytesSent : UInt64
  /-- The number of `sendto` calls so far. -/
  sendCalls : Nat
  /-- The datagrams sent so far, oldest first. -/
  wire : List Datagram

/-- The state after a `downlink_init` that opened the socket. -/
def downlinkInit (udpSocket : Int) : State where
  udpSocket := udpSocket
  rtpSeqNumber := 0
  gBytesSent := 0
  sendCalls := 0
  wire := []

/-- `pack_rtp_header`: the 8 header bytes. -/
def packRtpHeader (seq : UInt16) (timestamp : UInt32) (marker : UInt8) : List UInt8 :=
  [(RTP_VERSION <<< 6) ||| 0x00,
    ((marker &&& 0x01) <<< 7) ||| (RTP_PAYLOAD_TYPE &&& 0x7F)]
    ++ bytes16 seq ++ bytes32 timestamp

/-- `sendto` on the video socket: the bytes sent, or `none` for a negative return. -/
def sendto (net : Nat → Bool) (st : State) (packet : Datagram) : Option Nat × State :=
  let st' := { st with sendCalls := st.sendCalls + 1 }
  if net st.sendCalls then (some packet.length, { st' with wire := st.wire ++ [packet] })
  else (none, st')

/-- The counters after a datagram of `sent` bytes left. -/
def countSent (st : State) (sent : Nat) : State :=
  { st with
    gBytesSent := st.gBytesSent + UInt64.ofNat sent
    rtpSeqNumber := st.rtpSeqNumber + 1 }

/-- The single-datagram branch of the loop body: RTP header and the whole NAL. Returns
`true` when the datagram was sent. -/
def sendSingleNal (net : Nat → Bool) (timestamp : UInt32) (isLastNal : Bool) (nal : Nal)
    (st : State) : Bool × State :=
  let marker := if isLastNal then 1 else 0
  let packet := packRtpHeader st.rtpSeqNumber timestamp marker ++ nal
  match sendto net st packet with
  | (some sent, st') => (true, countSent st' sent)
  | (none, st') => (false, st')

/-- One FU-A datagram: RTP header, FU indicator, FU header, fragment. -/
def fragmentPacket (seq : UInt16) (timestamp : UInt32) (marker fuIndicator nalType : UInt8)
    (isFirst isLastFrag : Bool) (fragment : List UInt8) : Datagram :=
  let fuHeader := nalType
  let fuHeader := if isFirst then fuHeader ||| 0x80 else fuHeader
  let fuHeader := if isLastFrag then fuHeader ||| 0x40 else fuHeader
  packRtpHeader seq timestamp marker ++ [fuIndicator, fuHeader] ++ fragment

/-- `max_frag_payload`: a full fragment leaves room for the FU indicator and the FU header. -/
def maxFragPayload : Nat := MAX_PAYLOAD_SIZE - 2

/-- `frag_size`: what the next fragment takes of the `remaining` bytes. -/
def fragSize (remaining : Nat) : Nat :=
  if remaining > maxFragPayload then maxFragPayload else remaining

/-- A fragment takes at least one byte. -/
theorem fragSize_pos {remaining : Nat} (h : 0 < remaining) : 0 < fragSize remaining := by
  unfold fragSize maxFragPayload MAX_PAYLOAD_SIZE
  split <;> omega

/-- A fragment leaves less of the payload. The loop terminates by this. -/
theorem length_drop_fragSize {payload : List UInt8} (h : 0 < payload.length) :
    (payload.drop (fragSize payload.length)).length < payload.length := by
  have hpos := fragSize_pos h
  rw [List.length_drop]
  omega

/-- The FU-A loop: `payload` is what `nal_payload` and `remaining` still describe. Returns
the number of datagrams sent, or `none` when a `sendto` failed. The `int` `frag_index` is at
most the number of bytes (`length_fragmentPackets_le`), so it is a natural number here. -/
def sendFragments (net : Nat → Bool) (timestamp : UInt32) (isLastNal : Bool)
    (fuIndicator nalType : UInt8) (payload : List UInt8) (fragIndex : Nat) (st : State) :
    Option Nat × State :=
  if _h : payload.length > 0 then
    let remaining := payload.length
    let isFirst := fragIndex == 0
    let isLastFrag := fragSize remaining == remaining
    -- The marker bit belongs to the last fragment of the last NAL unit.
    let marker := if isLastNal && isLastFrag then 1 else 0
    let packet := fragmentPacket st.rtpSeqNumber timestamp marker fuIndicator nalType
      isFirst isLastFrag (payload.take (fragSize remaining))
    match sendto net st packet with
    | (none, st') => (none, st')
    | (some sent, st') =>
      match sendFragments net timestamp isLastNal fuIndicator nalType
          (payload.drop (fragSize remaining)) (fragIndex + 1) (countSent st' sent) with
      | (some packets, st'') => (some (packets + 1), st'')
      | (none, st'') => (none, st'')
  else (some 0, st)
termination_by payload.length
decreasing_by exact length_drop_fragSize _h

/-- The body of the loop over the NAL units. Returns the number of datagrams sent for
this one, or `none` when a `sendto` failed. -/
def sendNal (net : Nat → Bool) (timestamp : UInt32) (isLastNal : Bool) (nal : Nal)
    (st : State) : Option Nat × State :=
  -- `continue`: an empty NAL unit sends nothing, also when it is the last one.
  if nal.length = 0 then (some 0, st)
  else if nal.length ≤ MAX_PAYLOAD_SIZE then
    match sendSingleNal net timestamp isLastNal nal st with
    | (true, st') => (some 1, st')
    | (false, st') => (none, st')
  else
    -- The header byte travels in the two FU bytes, and the fragments carry the rest.
    let nalHeader := nal.headD 0
    let fuIndicator := (nalHeader &&& 0xE0) ||| 28
    let nalType := nalHeader &&& 0x1F
    sendFragments net timestamp isLastNal fuIndicator nalType (nal.drop 1) 0 st

/-- The loop over the NAL units from index `i` on. The `int` `total_packets` is at most the
number of bytes of the NAL units (`CallSpec.room`), so it is a natural number here. -/
def sendNals (net : Nat → Bool) (timestamp : UInt32) (numNals : Nat) :
    Nat → List Nal → State → Option Nat × State
  | _, [], st => (some 0, st)
  | i, nal :: nals, st =>
    let isLastNal := i == numNals - 1
    -- A failed `sendto` leaves both loops. What was sent before it stays sent.
    match sendNal net timestamp isLastNal nal st with
    | (none, st') => (none, st')
    | (some packets, st') =>
      match sendNals net timestamp numNals (i + 1) nals st' with
      | (some rest, st'') => (some (packets + rest), st'')
      | (none, st'') => (none, st'')

/-- `downlink_send_nals`: the number of datagrams sent, or -1. -/
def downlinkSendNals (net : Nat → Bool) (st : State) (nals : Option (List Nal))
    (timestamp : UInt32) : Int × State :=
  match nals with
  | none => (-1, st)
  | some nals =>
    if st.udpSocket < 0 ∨ nals.length ≤ 0 then (-1, st)
    else
      match sendNals net timestamp nals.length 0 nals st with
      | (some totalPackets, st') => (totalPackets, st')
      | (none, st') => (-1, st')

/-- One call of `downlink_send_nals` by the encoder thread. -/
structure Call where
  nals : List Nal
  timestamp : UInt32

/-- The module state after a call. -/
def runCall (net : Nat → Bool) (st : State) (call : Call) : State :=
  (downlinkSendNals net st (some call.nals) call.timestamp).2

/-- The module state after a sequence of calls. -/
def runCalls (net : Nat → Bool) (st : State) (calls : List Call) : State :=
  calls.foldl (runCall net) st

/-- The datagrams that one call puts on the wire. -/
def callWire (net : Nat → Bool) (st : State) (call : Call) : List Datagram :=
  (runCall net st call).wire.drop st.wire.length

/-- The datagrams of each call of a sequence of calls. -/
def callWires (net : Nat → Bool) : State → List Call → List (List Datagram)
  | _, [] => []
  | st, call :: calls => callWire net st call :: callWires net (runCall net st call) calls

end DoomSat.Downlink
