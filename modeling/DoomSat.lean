import DoomSat.Support.BigEndian
import DoomSat.Support.Block
import DoomSat.Model.Protocol
import DoomSat.Model.Downlink
import DoomSat.Model.Receiver
import DoomSat.Proofs.Receiver.Classify
import DoomSat.Proofs.Downlink.Packets
import DoomSat.Proofs.Downlink.Marker
import DoomSat.Proofs.Receiver.Reassembly
import DoomSat.Proofs.Receiver.BufferSafety
import DoomSat.Proofs.Video.NalPieces
import DoomSat.Proofs.Video.FuARoundTrip
import DoomSat.Proofs.Video.Transport
import DoomSat.Proofs.Video.Loss
import DoomSat.Model.RingBuffer
import DoomSat.Support.Fifo
import DoomSat.Support.Machine
import DoomSat.Proofs.RingBuffer.Simulation
import DoomSat.Proofs.RingBuffer.Steps
import DoomSat.Proofs.RingBuffer.Calls
import DoomSat.Proofs.RingBuffer.Runs
import DoomSat.Model.Engine
import DoomSat.Support.Edges
import DoomSat.Proofs.Uplink.Requests
import DoomSat.Proofs.Uplink.Runs
import DoomSat.Proofs.Uplink.EventStream
import DoomSat.Proofs.Uplink.Overflow
import DoomSat.Proofs.Uplink.Weapons
import DoomSat.Proofs.Downlink.Accounting
import DoomSat.Proofs.Downlink.Fragments
import DoomSat.Proofs.Receiver.HeaderBounds
import DoomSat.Proofs.Receiver.Scaler
import DoomSat.Model.EventQueue
import DoomSat.Proofs.Uplink.HandOver
import DoomSat.Proofs.Uplink.WellFormed
import DoomSat.Model.Input
import DoomSat.Proofs.Input.Polls
import DoomSat.Support.Spacing
import DoomSat.Proofs.Input.Rate
import DoomSat.Proofs.Input.Changes
import DoomSat.Model.Monitor
import DoomSat.Support.Meter
import DoomSat.Proofs.Monitor.Attribution
import DoomSat.Model.Encoder
import DoomSat.Proofs.Encoder.Colour
import DoomSat.Proofs.Encoder.Convert
import DoomSat.Model.KeyQueue
import DoomSat.Proofs.Uplink.KeyQueue
import DoomSat.Model.GameLoop
import DoomSat.Support.Outcome
import DoomSat.Support.SequenceWindow
import DoomSat.Proofs.GameLoop.Order
import DoomSat.Proofs.GameLoop.Clock
import DoomSat.Proofs.GameLoop.Progress
import DoomSat.Model.Controls
import DoomSat.Proofs.Controls.Resolution
import DoomSat.Model.EncoderThread
import DoomSat.Proofs.Satellite.Pictures
import DoomSat.Proofs.Satellite.Steps
import DoomSat.Proofs.Satellite.Delivery
import DoomSat.Proofs.Satellite.Runs
import DoomSat.Proofs.Satellite.Ground
import DoomSat.Proofs.Satellite.Shutdown
import DoomSat.Model.Demo
import DoomSat.Proofs.Demo.Recording
import DoomSat.Proofs.Demo.Playback
import DoomSat.Proofs.Controls.Movement
import DoomSat.Model.ControlLink
import DoomSat.Proofs.Uplink.Room
import DoomSat.Proofs.Controls.Keyboard
import DoomSat.Proofs.GameLoop.Callbacks
import DoomSat.Model.Renderer
import DoomSat.Model.Tables
import DoomSat.Support.Stored
import DoomSat.Proofs.Renderer.Angles
import DoomSat.Proofs.Renderer.ClipList
import DoomSat.Proofs.Renderer.Frame
import DoomSat.Proofs.Renderer.Culling
