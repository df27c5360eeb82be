import DoomSat.Support.Binary32
import DoomSat.Support.Machine

/-!
# `DoomSat.Model.Monitor`: the traffic monitor of `monitoring/monitor.py`

One thread captures packets and counts them in `TrafficStats`, another one exports the
counters to InfluxDB in a loop. Every method of `TrafficStats` holds its lock from beginning to
end. `packet_callback` calls at most one of them and a round of the export loop exactly one, so
a run is an interleaving of packets and rounds.

The rates of an exported point are quotients of the counts of the interval and the length of
the interval. The model keeps these counts in the point and leaves the quotients out, with the
time and the measurement name. Writes to InfluxDB succeed.
-/

set_option autoImplicit false

namespace DoomSat.Monitor

open Support

/-! ### Packets -/

/-- Input commands: ground to satellite. -/
def UPLINK_PORT : UInt16 := 5000

/-- Video stream: satellite to ground. -/
def DOWNLINK_PORT : UInt16 := 5001

/-- The UDP layer of a packet. -/
structure UdpLayer where
  dport : UInt16
  payload : List UInt8

/-- A captured packet. -/
structure Packet where
  /-- The layer `packet[UDP]`, or `none` when `haslayer(UDP)` is false. -/
  udp : Option UdpLayer
  /-- `haslayer(IP)`, which is false for IPv6. -/
  ip : Bool

/-! ### The counters -/

/-- The attributes of `TrafficStats`. -/
structure TrafficStats where
  uplinkBytes : Nat
  uplinkPackets : Nat
  downlinkBytes : Nat
  downlinkPackets : Nat
  uplinkTotalBytes : Nat
  uplinkTotalPackets : Nat
  downlinkTotalBytes : Nat
  downlinkTotalPackets : Nat

/-- `reset`, which `__init__` calls. -/
def TrafficStats.reset : TrafficStats where
  uplinkBytes := 0
  uplinkPackets := 0
  downlinkBytes := 0
  downlinkPackets := 0
  uplinkTotalBytes := 0
  uplinkTotalPackets := 0
  downlinkTotalBytes := 0
  downlinkTotalPackets := 0

/-- `add_uplink`. -/
def TrafficStats.addUplink (stats : TrafficStats) (bytesCount : Nat) : TrafficStats :=
  { stats with
    uplinkBytes := stats.uplinkBytes + bytesCount
    uplinkPackets := stats.uplinkPackets + 1
    uplinkTotalBytes := stats.uplinkTotalBytes + bytesCount
    uplinkTotalPackets := stats.uplinkTotalPackets + 1 }

/-- `add_downlink`. -/
def TrafficStats.addDownlink (stats : TrafficStats) (bytesCount : Nat) : TrafficStats :=
  { stats with
    downlinkBytes := stats.downlinkBytes + bytesCount
    downlinkPackets := stats.downlinkPackets + 1
    downlinkTotalBytes := stats.downlinkTotalBytes + bytesCount
    downlinkTotalPackets := stats.downlinkTotalPackets + 1 }

/-- `get_and_reset_interval`. The dictionary has a key for each attribute, so it is given by
the attributes. -/
def TrafficStats.getAndResetInterval (stats : TrafficStats) : TrafficStats × TrafficStats :=
  let data := stats
  -- The totals stay.
  (data, { stats with
    uplinkBytes := 0
    uplinkPackets := 0
    downlinkBytes := 0
    downlinkPackets := 0 })

/-- `packet_callback`. -/
def packetCallback (stats : TrafficStats) (packet : Packet) : TrafficStats :=
  match packet.udp with
  | none => stats
  | some udpLayer =>
    if !packet.ip then stats
    else
      let packetSize := udpLayer.payload.length
      -- The source calls this inverted.
      if udpLayer.dport = UPLINK_PORT then stats.addDownlink packetSize
      else if udpLayer.dport = DOWNLINK_PORT then stats.addUplink packetSize
      else stats

/-! ### The export -/

/-- The values of the tag `direction`. -/
inductive Direction where
  | uplink
  | downlink
  deriving DecidableEq, Repr

/-- The tags of a point. -/
structure Tags where
  direction : Direction
  port : UInt16
  deriving DecidableEq, Repr

/-- A point of the measurement `bandwidth`. -/
structure Point where
  tags : Tags
  /-- The bytes of the interval, which `bytes_per_sec` and `kbps` are made of. -/
  intervalBytes : Nat
  /-- The packets of the interval, which `packets_per_sec` is made of. -/
  intervalPackets : Nat
  /-- `total_bytes`, a float with an integer value. -/
  totalBytes : Nat
  totalPackets : Nat
  deriving DecidableEq, Repr

/-- `float(n)`, as an integer: the nearest one with 53 significant bits. A tie goes to the one
with an even significand, and a result of 2^1024 or more is an `OverflowError`. -/
def float (n : Nat) : Option Nat :=
  -- The bits that the significand has no room for.
  let excess := Nat.log2 n + 1 - 53
  let rounded := roundHalfEven n (2 ^ excess) * 2 ^ excess
  if rounded < 2 ^ 1024 then some rounded else none

/-- 2^53 + 1 has 54 significant bits. -/
example : float 9007199254740993 = some 9007199254740992 := by decide +kernel

/-- The points that a round makes of the data, or `none` for an `OverflowError`. -/
def jsonBody (data : TrafficStats) : Option (List Point) := do
  let uplinkTotalBytes ← float data.uplinkTotalBytes
  let downlinkTotalBytes ← float data.downlinkTotalBytes
  return [
    { tags := ⟨.uplink, UPLINK_PORT⟩
      intervalBytes := data.uplinkBytes
      intervalPackets := data.uplinkPackets
      totalBytes := uplinkTotalBytes
      totalPackets := data.uplinkTotalPackets },
    { tags := ⟨.downlink, DOWNLINK_PORT⟩
      intervalBytes := data.downlinkBytes
      intervalPackets := data.downlinkPackets
      totalBytes := downlinkTotalBytes
      totalPackets := data.downlinkTotalPackets }]

/-! ### Runs -/

/-- The counters, and whether the export thread is in its loop. -/
structure State where
  stats : TrafficStats
  exporting : Bool

/-- The state when both threads have started. -/
def initialState : State := ⟨TrafficStats.reset, true⟩

/-- A step of one of the threads. -/
inductive Action where
  /-- The capture thread handles a packet. -/
  | capture (packet : Packet)
  /-- The export thread wakes up and goes through its loop once. -/
  | exportTick

/-- A round of the loop of `export_to_influxdb`, with the points that it writes. -/
def exportToInfluxdb (st : State) : State × List Point :=
  if !st.exporting then (st, [])
  else
    let (data, stats) := st.stats.getAndResetInterval
    match jsonBody data with
    | some points => (⟨stats, true⟩, points)
    -- Nothing catches the error, and the thread ends.
    | none => (⟨stats, false⟩, [])

/-- A step of the monitor, with the points that it writes. -/
def step (st : State) : Action → State × List Point
  | .capture packet => ({ st with stats := packetCallback st.stats packet }, [])
  | .exportTick => exportToInfluxdb st

end DoomSat.Monitor
