import DoomSat.Model.Monitor
import DoomSat.Support.Meter
import Mathlib.Algebra.Group.Prod
import Mathlib.Algebra.Ring.Nat

/-!
# `DoomSat.Proofs.Monitor.Attribution`: which traffic is in which point

`packet_callback` counts the packets to port 5000 as downlink, and the export tags the uplink
counters with port 5000. So the point of a port has the totals of the other port.

For each direction the counters are a `Meter`, and `conserves_run` is the invariant of every
interleaving: the totals and the intervals that were exported account for every IPv4 packet to
the port that is counted there. `Attributed` is what the tags promise. `attributed_iff` states
that the promise is kept exactly when at every export the traffic to both ports has been the
same. `not_attributed_oneCommand` is a run with one packet.
-/

set_option autoImplicit false

namespace DoomSat.Monitor

open Support

/-! ### Traffic -/

/-- Bytes of UDP payload, and packets. -/
abbrev Traffic := Nat × Nat

/-- The traffic of one packet. -/
def Packet.traffic (packet : Packet) : Traffic :=
  ((packet.udp.map fun udpLayer => udpLayer.payload.length).getD 0, 1)

/-- Whether this is a UDP packet to the port. -/
def Packet.isUdpTo (port : UInt16) (packet : Packet) : Bool :=
  packet.udp.any fun udpLayer => udpLayer.dport = port

/-- The traffic of the UDP packets to the port. -/
def trafficTo (port : UInt16) (packets : List Packet) : Traffic :=
  ((packets.filter (Packet.isUdpTo port)).map Packet.traffic).sum

/-- The traffic of the IPv4 packets to the port. -/
def ipTrafficTo (port : UInt16) (packets : List Packet) : Traffic :=
  trafficTo port (packets.filter Packet.ip)

/-! ### What the tags promise -/

/-- The packet of a capture. -/
def Action.packet? : Action → Option Packet
  | .capture packet => some packet
  | .exportTick => none

/-- The packets that were captured, in order. -/
def captured (actions : List Action) : List Packet := actions.filterMap Action.packet?

/-- The state after a run. -/
def stateAfter (actions : List Action) : State := (run step initialState actions).1

/-- The points that a run exports, in order. -/
def exports (actions : List Action) : List Point := (run step initialState actions).2

/-- The points with these tags. -/
def tagged (tags : Tags) (points : List Point) : List Point :=
  points.filter fun point => point.tags = tags

/-- The interval of a point as traffic. -/
def Point.interval (point : Point) : Traffic := (point.intervalBytes, point.intervalPackets)

/-- The totals of a point as traffic. -/
def Point.total (point : Point) : Traffic := (point.totalBytes, point.totalPackets)

/-- What an export behind a run must write with these tags: one point, with the traffic of all
packets captured so far to the port of the tags as total, and the intervals of all points with
these tags add up to it. -/
def AttributedAt (tags : Tags) (before : List Action) : Prop :=
  ∃ point, tagged tags (step (stateAfter before) .exportTick).2 = [point] ∧
    point.total = trafficTo tags.port (captured before) ∧
    ((tagged tags (exports (before ++ [.exportTick]))).map Point.interval).sum = point.total

/-- The tags of each direction. -/
def tagsOf : Direction → Tags
  | .uplink => ⟨.uplink, UPLINK_PORT⟩
  | .downlink => ⟨.downlink, DOWNLINK_PORT⟩

/-- Every export of a run writes what the tags promise. -/
def Attributed (actions : List Action) : Prop :=
  ∀ before after, actions = before ++ .exportTick :: after →
    ∀ direction, AttributedAt (tagsOf direction) before

/-- The condition: all packets to the two ports are IPv4, both ports have had the same traffic,
and a float has room for its bytes. -/
def Balanced (packets : List Packet) : Prop :=
  (∀ packet ∈ packets, packet.isUdpTo UPLINK_PORT ∨ packet.isUdpTo DOWNLINK_PORT → packet.ip) ∧
    trafficTo UPLINK_PORT packets = trafficTo DOWNLINK_PORT packets ∧
    float (trafficTo UPLINK_PORT packets).1
      = some (trafficTo UPLINK_PORT packets).1

/-! ### The meters -/

/-- The counters of a direction. -/
def meterOf (stats : TrafficStats) : Direction → Meter Traffic
  | .uplink => ⟨(stats.uplinkBytes, stats.uplinkPackets),
      (stats.uplinkTotalBytes, stats.uplinkTotalPackets)⟩
  | .downlink => ⟨(stats.downlinkBytes, stats.downlinkPackets),
      (stats.downlinkTotalBytes, stats.downlinkTotalPackets)⟩

/-- The port whose packets `packet_callback` counts in a direction. -/
def countedPort : Direction → UInt16
  | .uplink => DOWNLINK_PORT
  | .downlink => UPLINK_PORT

/-- The packets that are counted in a direction. -/
def isCounted (direction : Direction) (packet : Packet) : Bool :=
  packet.ip && packet.isUdpTo (countedPort direction)

/-- `packet_callback` adds the packet to the direction that counts it. The comparison with the
two ports is exclusive, and a packet without an IPv4 or a UDP layer is not counted. -/
theorem meterOf_packetCallback (stats : TrafficStats) (packet : Packet)
    (direction : Direction) :
    meterOf (packetCallback stats packet) direction
      = if isCounted direction packet then (meterOf stats direction).add packet.traffic
        else meterOf stats direction := by
  obtain ⟨udp, ip⟩ := packet
  cases udp with
  | none => simp [packetCallback, isCounted, Packet.isUdpTo]
  | some udpLayer =>
    cases ip with
    | false => rfl
    | true =>
      have hcounted : isCounted direction ⟨some udpLayer, true⟩
          = decide (udpLayer.dport = countedPort direction) := rfl
      rw [hcounted]
      unfold packetCallback
      simp only [Bool.not_true, Bool.false_eq_true, if_false, decide_eq_true_eq]
      -- The two branches of the callback, and a packet to neither port.
      by_cases hup : udpLayer.dport = UPLINK_PORT
      · rw [if_pos hup, hup]
        cases direction <;> rfl
      · rw [if_neg hup]
        by_cases hdown : udpLayer.dport = DOWNLINK_PORT
        · rw [if_pos hdown, hdown]
          cases direction <;> rfl
        · rw [if_neg hdown]
          cases direction
          · exact (if_neg hdown).symm
          · exact (if_neg hup).symm

/-- `get_and_reset_interval` reads both meters. -/
theorem meterOf_getAndResetInterval (stats : TrafficStats) (direction : Direction) :
    meterOf stats.getAndResetInterval.2 direction = (meterOf stats direction).read := by
  cases direction <;> rfl

/-- The points are made when a float has room for both totals. Otherwise `float` raises an
`OverflowError`, and the thread ends. -/
theorem jsonBody_eq_some_iff {data : TrafficStats} {points : List Point} :
    jsonBody data = some points ↔
      ∃ up down, float data.uplinkTotalBytes = some up ∧
        float data.downlinkTotalBytes = some down ∧
        points = [⟨tagsOf .uplink, data.uplinkBytes, data.uplinkPackets, up,
            data.uplinkTotalPackets⟩,
          ⟨tagsOf .downlink, data.downlinkBytes, data.downlinkPackets, down,
            data.downlinkTotalPackets⟩] := by
  unfold jsonBody
  cases float data.uplinkTotalBytes with
  | none => simp
  | some up =>
    cases float data.downlinkTotalBytes with
    | none => simp
    | some down => simp [eq_comm, tagsOf]

/-- Each direction has one point, with the interval of its meter, and with its total less what
the float rounds. -/
theorem tagged_jsonBody {data : TrafficStats} {points : List Point}
    (h : jsonBody data = some points) (direction : Direction) :
    ∃ point, tagged (tagsOf direction) points = [point] ∧
      point.interval = (meterOf data direction).interval ∧
      float (meterOf data direction).total.1 = some point.totalBytes ∧
      point.totalPackets = (meterOf data direction).total.2 := by
  obtain ⟨up, down, hup, hdown, rfl⟩ := jsonBody_eq_some_iff.mp h
  cases direction with
  | uplink => exact ⟨_, rfl, rfl, hup, rfl⟩
  | downlink => exact ⟨_, rfl, rfl, hdown, rfl⟩

/-! ### Rounds of the export loop -/

/-- The cases of a round. -/
inductive TickSpec (st : State) : State → List Point → Prop where
  /-- The points are written. -/
  | writes (hexporting : st.exporting = true) (points : List Point)
      (hpoints : jsonBody st.stats = some points) :
      TickSpec st ⟨st.stats.getAndResetInterval.2, true⟩ points
  /-- The thread has ended, or it ends in this round. -/
  | ends (st' : State) (hcause : st.exporting = false ∨ jsonBody st.stats = none)
      (hexporting : st'.exporting = false) : TickSpec st st' []

/-- Every round is one of the two cases. Once the thread has ended, its rounds write nothing. -/
theorem exportTick_spec (st : State) :
    TickSpec st (step st .exportTick).1 (step st .exportTick).2 := by
  show TickSpec st (exportToInfluxdb st).1 (exportToInfluxdb st).2
  unfold exportToInfluxdb
  cases hexporting : st.exporting with
  | false => exact .ends st (Or.inl hexporting) hexporting
  | true =>
    simp only [Bool.not_true, Bool.false_eq_true, if_false]
    split
    next points hpoints => exact .writes hexporting points hpoints
    next hpoints => exact .ends _ (Or.inr hpoints) rfl

/-- A round of a running thread whose data fit writes the points. -/
theorem exportTick_writes {st : State} (hexporting : st.exporting = true) {points : List Point}
    (hpoints : jsonBody st.stats = some points) :
    step st .exportTick = (⟨st.stats.getAndResetInterval.2, true⟩, points) := by
  have hspec := exportTick_spec st
  generalize step st .exportTick = next at hspec
  obtain ⟨st', written⟩ := next
  cases hspec with
  | writes _ _ hwritten =>
    rw [hpoints] at hwritten
    cases hwritten
    rfl
  | ends _ hcause _ =>
    rw [hexporting, hpoints] at hcause
    rcases hcause with hc | hc <;> cases hc

/-! ### One more step -/

/-- One more action captures its packet, if it has one. -/
theorem captured_concat (actions : List Action) (action : Action) :
    captured (actions ++ [action]) = captured actions ++ action.packet?.toList := by
  unfold captured
  rw [List.filterMap_append]
  cases action <;> rfl

/-- The state after one more action. -/
theorem stateAfter_concat (actions : List Action) (action : Action) :
    stateAfter (actions ++ [action]) = (step (stateAfter actions) action).1 := by
  show (run step initialState (actions ++ [action])).1 = _
  rw [run_concat]
  rfl

/-- One more action adds the points that it writes. -/
theorem exports_concat (actions : List Action) (action : Action) :
    exports (actions ++ [action])
      = exports actions ++ (step (stateAfter actions) action).2 := by
  show (run step initialState (actions ++ [action])).2 = _
  rw [run_concat]
  rfl

/-- The points with a tag in two lists. -/
theorem tagged_append (tags : Tags) (points points' : List Point) :
    tagged tags (points ++ points') = tagged tags points ++ tagged tags points' :=
  List.filter_append ..

/-! ### The invariant of a run -/

/-- The traffic of each packet that is counted in a direction. -/
def countedTraffic (direction : Direction) (packets : List Packet) : List Traffic :=
  (packets.filter (isCounted direction)).map Packet.traffic

/-- The intervals that were exported for a direction. -/
def exportedIntervals (direction : Direction) (points : List Point) : List Traffic :=
  (tagged (tagsOf direction) points).map Point.interval

/-- A packet that is counted adds its traffic. -/
theorem countedTraffic_concat (direction : Direction) (packets : List Packet)
    (packet : Packet) :
    countedTraffic direction (packets ++ [packet])
      = countedTraffic direction packets
        ++ if isCounted direction packet then [packet.traffic] else [] := by
  unfold countedTraffic
  rw [List.filter_append, List.map_append]
  by_cases hcounted : isCounted direction packet = true
  · rw [if_pos hcounted, List.filter_cons_of_pos hcounted]
    rfl
  · rw [if_neg hcounted, List.filter_cons_of_neg hcounted]
    rfl

/-- The points of a round add an interval for each direction. -/
theorem exportedIntervals_append {data : TrafficStats} {written : List Point}
    (hpoints : jsonBody data = some written) (direction : Direction) (points : List Point) :
    exportedIntervals direction (points ++ written)
      = exportedIntervals direction points ++ [(meterOf data direction).interval] := by
  obtain ⟨point, htagged, hinterval, -⟩ := tagged_jsonBody hpoints direction
  unfold exportedIntervals
  rw [tagged_append, List.map_append, htagged, ← hinterval]
  rfl

/-- While the export thread runs, the meter of each direction accounts for every packet that is
counted there, and for every interval that was exported. The induction adds one action at the
end: a packet adds to the meter, and a round reads it. -/
theorem conserves_run (actions : List Action) (direction : Direction)
    (hexporting : (stateAfter actions).exporting = true) :
    Meter.Conserves (meterOf (stateAfter actions).stats direction)
      (countedTraffic direction (captured actions))
      (exportedIntervals direction (exports actions)) := by
  induction actions using List.reverseRecOn with
  | nil => cases direction <;> exact Meter.Conserves.zero
  | append_singleton actions action ih =>
    rw [stateAfter_concat] at hexporting ⊢
    rw [captured_concat, exports_concat]
    cases action with
    | capture packet =>
      have hinv := ih hexporting
      show Meter.Conserves
        (meterOf (packetCallback (stateAfter actions).stats packet) direction)
        (countedTraffic direction (captured actions ++ [packet]))
        (exportedIntervals direction (exports actions ++ []))
      rw [meterOf_packetCallback, List.append_nil, countedTraffic_concat]
      -- A packet to another port leaves the meter.
      by_cases hcounted : isCounted direction packet = true
      · rw [if_pos hcounted, if_pos hcounted]
        exact hinv.add packet.traffic
      · rw [if_neg hcounted, if_neg hcounted, List.append_nil]
        exact hinv
    | exportTick =>
      have hspec := exportTick_spec (stateAfter actions)
      generalize step (stateAfter actions) .exportTick = next at hexporting hspec
      obtain ⟨st', written⟩ := next
      cases hspec with
      | ends _ _ hended =>
        rw [hended] at hexporting
        cases hexporting
      | writes hbefore _ hpoints =>
        show Meter.Conserves
          (meterOf (stateAfter actions).stats.getAndResetInterval.2 direction)
          (countedTraffic direction (captured actions ++ [])) _
        rw [exportedIntervals_append hpoints, meterOf_getAndResetInterval, List.append_nil]
        exact (ih hbefore).read

/-! ### The two ports -/

/-- The packets are counted one by one, so their number is the second part of the traffic. -/
theorem packets_sum_traffic (packets : List Packet) :
    (packets.map Packet.traffic).sum.2 = packets.length := by
  induction packets with
  | nil => rfl
  | cons packet packets ih =>
    rw [List.map_cons, List.sum_cons, List.length_cons, ← ih]
    exact Nat.add_comm 1 _

/-- The IPv4 traffic to a port is the traffic of the IPv4 ones among the packets to it. -/
theorem ipTrafficTo_eq (port : UInt16) (packets : List Packet) :
    ipTrafficTo port packets
      = (((packets.filter (Packet.isUdpTo port)).filter Packet.ip).map
        Packet.traffic).sum := by
  unfold ipTrafficTo trafficTo
  rw [List.filter_comm]

/-- No more IPv4 packets go to a port than packets. -/
theorem ipTrafficTo_packets_le (port : UInt16) (packets : List Packet) :
    (ipTrafficTo port packets).2 ≤ (trafficTo port packets).2 := by
  rw [ipTrafficTo_eq, trafficTo, packets_sum_traffic, packets_sum_traffic]
  exact List.length_filter_le _ _

/-- When as many IPv4 packets as packets go to a port, all of these are IPv4. -/
theorem ip_of_packets_eq {port : UInt16} {packets : List Packet}
    (h : (ipTrafficTo port packets).2 = (trafficTo port packets).2) :
    ∀ packet ∈ packets, packet.isUdpTo port → packet.ip := by
  rw [ipTrafficTo_eq, trafficTo, packets_sum_traffic, packets_sum_traffic] at h
  intro packet hmem hport
  have hself := List.filter_sublist.eq_of_length h
  exact List.filter_eq_self.mp hself packet (List.mem_filter.mpr ⟨hmem, hport⟩)

/-- When all packets to a port are IPv4, their traffic is the IPv4 traffic. -/
theorem ipTrafficTo_eq_trafficTo {port : UInt16} {packets : List Packet}
    (h : ∀ packet ∈ packets, packet.isUdpTo port → packet.ip) :
    ipTrafficTo port packets = trafficTo port packets := by
  rw [ipTrafficTo_eq, trafficTo, List.filter_eq_self.mpr]
  intro packet hmem
  obtain ⟨hmem, hport⟩ := List.mem_filter.mp hmem
  exact h packet hmem hport

/-- What a direction needs at an export: the traffic that it counts is the traffic of its tags,
and a float has room for the bytes. -/
def DirectionFits (packets : List Packet) (direction : Direction) : Prop :=
  ipTrafficTo (countedPort direction) packets = trafficTo (tagsOf direction).port packets ∧
    float (trafficTo (tagsOf direction).port packets).1
      = some (trafficTo (tagsOf direction).port packets).1

/-- Both directions fit exactly when the traffic is balanced. Each direction counts the IPv4
packets of the other port, so the two conditions close a circle: no port has more IPv4 packets
than packets. -/
theorem balanced_iff (packets : List Packet) :
    Balanced packets ↔ ∀ direction, DirectionFits packets direction := by
  constructor
  · rintro ⟨hip, hsame, hfloat⟩ direction
    cases direction with
    | uplink =>
      refine ⟨?_, hfloat⟩
      show ipTrafficTo DOWNLINK_PORT packets = trafficTo UPLINK_PORT packets
      rw [hsame]
      exact ipTrafficTo_eq_trafficTo fun packet hmem hport => hip packet hmem (Or.inr hport)
    | downlink =>
      constructor
      · show ipTrafficTo UPLINK_PORT packets = trafficTo DOWNLINK_PORT packets
        rw [← hsame]
        exact ipTrafficTo_eq_trafficTo fun packet hmem hport => hip packet hmem (Or.inl hport)
      · show float (trafficTo DOWNLINK_PORT packets).1
          = some (trafficTo DOWNLINK_PORT packets).1
        rw [← hsame]
        exact hfloat
  · intro h
    obtain ⟨hup : ipTrafficTo DOWNLINK_PORT packets = trafficTo UPLINK_PORT packets, hfloat⟩ :=
      h .uplink
    obtain ⟨hdown : ipTrafficTo UPLINK_PORT packets = trafficTo DOWNLINK_PORT packets, -⟩ :=
      h .downlink
    -- Going round over both ports, no packet can have got lost.
    have hpackets : (trafficTo UPLINK_PORT packets).2
        = (trafficTo DOWNLINK_PORT packets).2 := by
      have hleUp := ipTrafficTo_packets_le UPLINK_PORT packets
      have hleDown := ipTrafficTo_packets_le DOWNLINK_PORT packets
      rw [hdown] at hleUp
      rw [hup] at hleDown
      exact Nat.le_antisymm hleDown hleUp
    have hipUp := @ip_of_packets_eq UPLINK_PORT packets (by rw [hdown, hpackets])
    have hipDown := @ip_of_packets_eq DOWNLINK_PORT packets (by rw [hup, hpackets])
    refine ⟨?_, ?_, hfloat⟩
    · -- Every packet to one of the ports is an IPv4 one.
      rintro packet hmem (hport | hport)
      · exact hipUp packet hmem hport
      · exact hipDown packet hmem hport
    · rw [← hup]
      exact ipTrafficTo_eq_trafficTo hipDown

/-! ### When the promise is kept -/

/-- The traffic that a direction counts. -/
theorem sum_countedTraffic (direction : Direction) (packets : List Packet) :
    (countedTraffic direction packets).sum = ipTrafficTo (countedPort direction) packets := by
  unfold countedTraffic
  rw [ipTrafficTo_eq, List.filter_filter]
  rfl

/-- What a round writes for a direction: the totals of the traffic that it counts, to which the
intervals add up. Both come from `conserves_run`, before and behind the round. -/
theorem exportTick_accounts {before : List Action}
    (hexporting : (stateAfter before).exporting = true) {points : List Point}
    (hpoints : jsonBody (stateAfter before).stats = some points) (direction : Direction) :
    ∃ point, tagged (tagsOf direction) (step (stateAfter before) .exportTick).2 = [point] ∧
      float (ipTrafficTo (countedPort direction) (captured before)).1
        = some point.totalBytes ∧
      point.totalPackets = (ipTrafficTo (countedPort direction) (captured before)).2 ∧
      (exportedIntervals direction (exports (before ++ [.exportTick]))).sum
        = ipTrafficTo (countedPort direction) (captured before) := by
  have hstep := exportTick_writes hexporting hpoints
  have hafter : (stateAfter (before ++ [.exportTick])).exporting = true := by
    rw [stateAfter_concat, hstep]
  obtain ⟨point, htagged, -, hbytes, hpackets⟩ := tagged_jsonBody hpoints direction
  have htotal := (conserves_run before direction hexporting).total
  rw [sum_countedTraffic] at htotal
  rw [htotal] at hbytes hpackets
  refine ⟨point, by rw [hstep]; exact htagged, hbytes, hpackets, ?_⟩
  -- Behind the round the open interval is empty.
  have hinv := conserves_run (before ++ [.exportTick]) direction hafter
  have hinterval := hinv.interval
  rw [hinv.total, sum_countedTraffic, captured_concat, stateAfter_concat, hstep,
    meterOf_getAndResetInterval] at hinterval
  exact (add_zero _).symm.trans (hinterval.trans (congrArg _ (List.append_nil _)))

/-- An export that writes what the tags promise finds the traffic that fits. It has written a
point, so the thread ran. -/
theorem directionFits_of_attributedAt {before : List Action} {direction : Direction}
    (h : AttributedAt (tagsOf direction) before) :
    (stateAfter before).exporting = true ∧ DirectionFits (captured before) direction := by
  obtain ⟨point, htagged, htotal, hintervals⟩ := h
  obtain ⟨hexporting, points, hpoints⟩ : (stateAfter before).exporting = true ∧
      ∃ points, jsonBody (stateAfter before).stats = some points := by
    have hspec := exportTick_spec (stateAfter before)
    generalize step (stateAfter before) .exportTick = next at hspec htagged
    obtain ⟨st', written⟩ := next
    cases hspec with
    | writes hexporting _ hpoints => exact ⟨hexporting, written, hpoints⟩
    | ends _ _ _ => cases htagged
  obtain ⟨point', htagged', hbytes, -, hsum⟩ :=
    exportTick_accounts hexporting hpoints direction
  obtain rfl : point = point' := by
    rw [htagged] at htagged'
    exact List.head_eq_of_cons_eq htagged'
  -- The intervals add up to the traffic that is counted, and to the one that is promised.
  have hfits : ipTrafficTo (countedPort direction) (captured before)
      = trafficTo (tagsOf direction).port (captured before) :=
    hsum.symm.trans (hintervals.trans htotal)
  refine ⟨hexporting, hfits, ?_⟩
  rw [hfits] at hbytes
  rw [hbytes, ← htotal]
  rfl

/-- An export that finds the traffic that fits writes what the tags promise. -/
theorem attributedAt_of_directionFits {before : List Action}
    (hexporting : (stateAfter before).exporting = true) {points : List Point}
    (hpoints : jsonBody (stateAfter before).stats = some points) {direction : Direction}
    (hfits : DirectionFits (captured before) direction) :
    AttributedAt (tagsOf direction) before := by
  obtain ⟨hsame, hfloat⟩ := hfits
  obtain ⟨point, htagged, hbytes, hpackets, hsum⟩ :=
    exportTick_accounts hexporting hpoints direction
  rw [hsame] at hbytes hpackets hsum
  have htotal : point.total = trafficTo (tagsOf direction).port (captured before) := by
    rw [hfloat] at hbytes
    exact Prod.ext (Option.some.inj hbytes).symm hpackets
  exact ⟨point, htagged, htotal, hsum.trans htotal.symm⟩

/-- The points are made while the traffic that is counted fits. -/
theorem jsonBody_of_balanced {before : List Action}
    (hexporting : (stateAfter before).exporting = true) (h : Balanced (captured before)) :
    ∃ points, jsonBody (stateAfter before).stats = some points := by
  have hfloat : ∀ direction, float (meterOf (stateAfter before).stats direction).total.1
      = some (trafficTo (tagsOf direction).port (captured before)).1 := by
    intro direction
    obtain ⟨hsame, hfloat⟩ := (balanced_iff _).mp h direction
    rw [(conserves_run before direction hexporting).total, sum_countedTraffic, hsame]
    exact hfloat
  exact ⟨_, jsonBody_eq_some_iff.mpr ⟨_, _, hfloat .uplink, hfloat .downlink, rfl⟩⟩

/-- The export thread runs as long as the traffic was balanced at every export. Otherwise it may
have ended with an overflow of a float, and nothing is promised. -/
theorem exporting_of_balanced {actions : List Action}
    (h : ∀ before after, actions = before ++ .exportTick :: after →
      Balanced (captured before)) :
    (stateAfter actions).exporting = true := by
  induction actions using List.reverseRecOn with
  | nil => rfl
  | append_singleton actions action ih =>
    have hbefore : (stateAfter actions).exporting = true := by
      apply ih
      intro before after hsplit
      apply h before (after ++ [action])
      rw [hsplit, List.append_assoc]
      rfl
    rw [stateAfter_concat]
    cases action with
    | capture packet => exact hbefore
    | exportTick =>
      obtain ⟨points, hpoints⟩ := jsonBody_of_balanced hbefore (h actions [] rfl)
      rw [exportTick_writes hbefore hpoints]

/-- For every interleaving of captured packets and rounds of the export loop: every export
writes what the tags promise exactly when at every export all packets captured so far to the
two ports are IPv4, both ports have had the same bytes and packets, and a float has room for
the bytes. -/
theorem attributed_iff (actions : List Action) :
    Attributed actions ↔
      ∀ before after, actions = before ++ .exportTick :: after →
        Balanced (captured before) := by
  constructor
  · intro h before after hsplit
    exact (balanced_iff _).mpr fun direction =>
      (directionFits_of_attributedAt (h before after hsplit direction)).2
  · intro h before after hsplit direction
    have hexporting : (stateAfter before).exporting = true := by
      apply exporting_of_balanced
      intro before' after' hsplit'
      apply h before' (after' ++ .exportTick :: after)
      rw [hsplit, hsplit', List.append_assoc]
      rfl
    have hbalanced := h before after hsplit
    obtain ⟨points, hpoints⟩ := jsonBody_of_balanced hexporting hbalanced
    have hfits := (balanced_iff _).mp hbalanced direction
    exact attributedAt_of_directionFits hexporting hpoints hfits

/-- An input command of 8 bytes to port 5000. -/
def commandPacket : Packet where
  udp := some ⟨UPLINK_PORT, [1, 0, 0, 0, 0, 0, 0, 0]⟩
  ip := true

/-- One input command, then an export: the point of port 5000 has no packet. The packet is in
the point of port 5001. -/
theorem not_attributed_oneCommand : ¬ Attributed [.capture commandPacket, .exportTick] := by
  intro h
  obtain ⟨point, htagged, htotal, -⟩ := h [.capture commandPacket] [] rfl .uplink
  have hpoint : tagged (tagsOf .uplink) (step (stateAfter [.capture commandPacket])
      .exportTick).2 = [⟨tagsOf .uplink, 0, 0, 0, 0⟩] := by decide +kernel
  rw [hpoint] at htagged
  cases htagged
  cases htotal

end DoomSat.Monitor
