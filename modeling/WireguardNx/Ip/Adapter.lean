import WireguardNx.Tunnel.FlowPlane

/-!
# The userspace IP adapter

`UserspaceIpAdapter` holds one lwIP control block for each connected flow and collects what lwIP
puts out and delivers (`ip/userspace_ip_adapter.cpp`).  lwIP itself is not modelled: what it does in
a call is an argument (`Lwip`).  It is built without ICMP, so only a datagram that is sent makes it
put packets out, and its timers drop fragments only.  A flow slot has a control block exactly while
it is active, and `g_lwip_owner` is set exactly while the interface is added.
-/

namespace WireguardNx.Ip

open Wireguard Tunnel

inductive UserspaceIpResult where
  | success
  | notInitialized
  | invalidArgument
  | flowQuotaExhausted
  | queueFull
  | stale
  | transportError
  deriving DecidableEq, Repr

structure UserspaceIpFlow where
  token : UInt64
  localEndpoint : Ipv4Endpoint
  remote : Ipv4Endpoint
  deriving DecidableEq

/-- `UserspaceIpFlow{}`. -/
def UserspaceIpFlow.zero : UserspaceIpFlow := ⟨0, .zero, .zero⟩

structure UserspaceIpDatagram where
  token : UInt64
  remote : Ipv4Endpoint
  payload : List UInt8
  deriving DecidableEq

/-- `UserspaceIpAdapter::MaximumFlows`. -/
abbrev maximumAdapterFlows : Nat := 16

def outboundPacketCapacity : Nat := 4

def inboundDatagramCapacity : Nat := 4

def maxInnerIpv4PacketSize : Nat := 1500

/-- `UserspaceIpAdapter::FlowSlot`. -/
structure AdapterFlow where
  token : UInt64
  active : Bool
  deriving DecidableEq

/-- The errors of lwIP that the adapter tells apart: none, `ERR_MEM` or `ERR_BUF`, any other. -/
inductive LwipError where
  | ok
  | memory
  | other
  deriving DecidableEq

/-- What lwIP does in a call: whether it has an interface, a control block, a connection and a
buffer, which error it returns, which packets it puts out, which datagrams it delivers to which flow
slot, and whether it rejected a packet or kept it as a fragment. -/
structure Lwip where
  netif : Bool
  pcb : Bool
  connected : Bool
  pbuf : Bool
  error : LwipError
  output : List (List UInt8)
  received : List (Fin maximumAdapterFlows × Ipv4Endpoint × List UInt8)
  rejected : Bool
  fragment : Bool

structure UserspaceIpAdapter where
  flows : Fin maximumAdapterFlows → AdapterFlow
  outboundPackets : List (List UInt8)
  inboundDatagrams : List UserspaceIpDatagram
  localAddress : Ipv4Address
  mtu : UInt16
  epoch : UInt32
  inboundDatagramRejected : Bool
  inputRejected : Bool
  pendingInboundFragment : Bool
  netifAdded : Bool

namespace UserspaceIpAdapter

/-- A value-initialised adapter. -/
def initial : UserspaceIpAdapter :=
  ⟨fun _ => ⟨0, false⟩, [], [], Bytes.zero 4, 0, 0, false, false, false, false⟩

variable (adapter : UserspaceIpAdapter)

def clearOutboundPackets : UserspaceIpAdapter :=
  { adapter with outboundPackets := [] }

def clearInboundDatagrams : UserspaceIpAdapter :=
  { adapter with
    inboundDatagrams := []
    inboundDatagramRejected := false
    inputRejected := false
    pendingInboundFragment := false }

/-- `Initialize`. -/
def initializeWith (localAddress : Ipv4Address) (mtu : UInt16) (lwip : Lwip) :
    Bool × UserspaceIpAdapter :=
  if adapter.netifAdded = true ∨ mtu < minimumEffectiveInnerMtu ∨
    maximumEffectiveInnerMtu < mtu then
    (false, adapter)
  else if lwip.netif = false then (false, { adapter with localAddress, mtu })
  else (true, { adapter with localAddress, mtu, netifAdded := true, epoch := adapter.epoch + 1 })

def reset : UserspaceIpAdapter :=
  { adapter.clearOutboundPackets.clearInboundDatagrams with
    flows := fun _ => ⟨0, false⟩
    netifAdded := false
    epoch := adapter.epoch + 1 }

def findFlow (token : UInt64) : Option (Fin maximumAdapterFlows) :=
  (List.finRange maximumAdapterFlows).find? fun i =>
    (adapter.flows i).active && decide ((adapter.flows i).token = token)

def openFlow (flow : UserspaceIpFlow) (lwip : Lwip) : UserspaceIpResult × UserspaceIpAdapter :=
  if adapter.netifAdded = false then (.notInitialized, adapter)
  else if flow.token = 0 ∨ flow.localEndpoint.port = 0 ∨ flow.remote.port = 0 ∨
      flow.localEndpoint.address ≠ adapter.localAddress then (.invalidArgument, adapter)
  else if (adapter.findFlow flow.token).isSome then (.invalidArgument, adapter)
  else
    match (List.finRange maximumAdapterFlows).find? fun i => !(adapter.flows i).active with
    | none => (.flowQuotaExhausted, adapter)
    | some i =>
      if lwip.pcb = false then (.flowQuotaExhausted, adapter)
      else if lwip.connected = false then (.transportError, adapter)
      else (.success, { adapter with flows := Function.update adapter.flows i ⟨flow.token, true⟩ })

def closeFlow (token : UInt64) : UserspaceIpAdapter :=
  match adapter.findFlow token with
  | none => adapter
  | some i => { adapter with flows := Function.update adapter.flows i ⟨0, false⟩ }

/-- `Output`, the callback for a packet that lwIP puts out. -/
def output (packet : List UInt8) : UserspaceIpAdapter :=
  if maxInnerIpv4PacketSize < packet.length ∨
      adapter.outboundPackets.length = outboundPacketCapacity then adapter
  else { adapter with outboundPackets := adapter.outboundPackets ++ [packet] }

/-- What an error of lwIP makes of a call. -/
def resultOf : LwipError → UserspaceIpResult
  | .ok => .success
  | .memory => .queueFull
  | .other => .transportError

def send (token : UInt64) (payload : List UInt8) (lwip : Lwip) :
    UserspaceIpResult × UserspaceIpAdapter :=
  if adapter.findFlow token = none then
    (if adapter.netifAdded then .invalidArgument else .notInitialized, adapter)
  else if maximumUdpPayloadStorageBytes < payload.length then (.invalidArgument, adapter)
  else if lwip.pbuf = false then (.queueFull, adapter)
  else (resultOf lwip.error, lwip.output.foldl output adapter)

/-- `Receive`, the callback for a datagram that lwIP delivers. -/
def receive (delivery : Fin maximumAdapterFlows × Ipv4Endpoint × List UInt8) : UserspaceIpAdapter :=
  let (slot, remote, payload) := delivery
  if (adapter.flows slot).active = false then adapter
  else if maximumUdpPayloadStorageBytes < payload.length ∨
      adapter.inboundDatagrams.length = inboundDatagramCapacity then
    { adapter with inboundDatagramRejected := true }
  else { adapter with
    inboundDatagrams := adapter.inboundDatagrams ++
      [⟨(adapter.flows slot).token, { remote with reserved := 0 }, payload⟩] }

def input (packet : List UInt8) (lwip : Lwip) : UserspaceIpResult × UserspaceIpAdapter :=
  if adapter.netifAdded = false then (.notInitialized, adapter)
  else if packet = [] ∨ maxInnerIpv4PacketSize < packet.length then (.invalidArgument, adapter)
  else if lwip.pbuf = false then (.queueFull, adapter)
  else
    let adapter := lwip.received.foldl receive adapter
    (resultOf lwip.error, { adapter with
      inputRejected := lwip.rejected
      pendingInboundFragment := !lwip.rejected && lwip.fragment &&
        decide (adapter.inboundDatagrams = []) })

end UserspaceIpAdapter

end WireguardNx.Ip
