import DoomSat.Support.BigEndian

/-!
# `DoomSat.Model.Protocol`: the constants and the input packet of `protocol.h`

`common/include/protocol.h` fixes the frame size, the key bits and the 8-byte input packet
that the ground station sends to the satellite. `packInput` and `unpackInput` are the two
directions of its codec, and `unpackInput_packInput` is the round trip.
-/

set_option autoImplicit false

namespace DoomSat

open Support

/-- The bytes of one UDP datagram. -/
abbrev Datagram := List UInt8

def FRAME_WIDTH : Nat := 176
def FRAME_HEIGHT : Nat := 144

/-! ### The key bits -/

def INPUT_BIT_FORWARD : UInt16 := (1 : UInt16) <<< 0
def INPUT_BIT_BACKWARD : UInt16 := (1 : UInt16) <<< 1
def INPUT_BIT_LEFT : UInt16 := (1 : UInt16) <<< 2
def INPUT_BIT_RIGHT : UInt16 := (1 : UInt16) <<< 3
def INPUT_BIT_FIRE : UInt16 := (1 : UInt16) <<< 4
def INPUT_BIT_USE : UInt16 := (1 : UInt16) <<< 5
def INPUT_BIT_SLEFT : UInt16 := (1 : UInt16) <<< 6
def INPUT_BIT_SRIGHT : UInt16 := (1 : UInt16) <<< 7
def INPUT_BIT_RUN : UInt16 := (1 : UInt16) <<< 8
def INPUT_BIT_STRAFE : UInt16 := (1 : UInt16) <<< 9
/-- Bits 10 to 12 hold the weapon number. -/
def INPUT_WEAPON_SHIFT : UInt16 := 10
def INPUT_BIT_ENTER : UInt16 := (1 : UInt16) <<< 13
def INPUT_BIT_ESCAPE : UInt16 := (1 : UInt16) <<< 14
def INPUT_BIT_Y : UInt16 := (1 : UInt16) <<< 15

/-! ### The input packet -/

/-- `input_packet_t`. -/
structure InputPacket where
  bitfield : UInt16
  timestamp : UInt32
  seqNumber : UInt16
  deriving DecidableEq, Repr

/-- `unpack_input`: reads a packet from 8 big-endian bytes. -/
def unpackInput (buf : Vector UInt8 8) : InputPacket where
  bitfield := word16 buf[0] buf[1]
  timestamp := word32 buf[2] buf[3] buf[4] buf[5]
  seqNumber := word16 buf[6] buf[7]

/-- `pack_input`: writes a packet as 8 big-endian bytes. -/
def packInput (pkt : InputPacket) : Vector UInt8 8 :=
  #v[((pkt.bitfield >>> 8) &&& 0xFF).toUInt8, (pkt.bitfield &&& 0xFF).toUInt8,
    ((pkt.timestamp >>> 24) &&& 0xFF).toUInt8, ((pkt.timestamp >>> 16) &&& 0xFF).toUInt8,
    ((pkt.timestamp >>> 8) &&& 0xFF).toUInt8, (pkt.timestamp &&& 0xFF).toUInt8,
    ((pkt.seqNumber >>> 8) &&& 0xFF).toUInt8, (pkt.seqNumber &&& 0xFF).toUInt8]

/-- A packed input packet unpacks to itself. -/
theorem unpackInput_packInput (pkt : InputPacket) : unpackInput (packInput pkt) = pkt := by
  obtain ⟨bitfield, timestamp, seqNumber⟩ := pkt
  unfold unpackInput packInput
  congr 1
  · exact word16_bytes bitfield
  · exact word32_bytes timestamp
  · exact word16_bytes seqNumber

end DoomSat
