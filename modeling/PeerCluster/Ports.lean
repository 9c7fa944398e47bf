import PeerCluster.Address
import PeerCluster.Error

/-! Blocks of ports for nodes, handed out one after the other from a base port. -/

namespace PeerCluster

/-- How many ports the block of a node holds. -/
def portsPerNode : Nat := 5

/-- Where the first block starts and how far apart blocks are. -/
structure PortLayout where
  basePort : UInt16
  stride : UInt16
deriving DecidableEq, Repr

/-- The layout in use when nothing else is asked for. -/
def PortLayout.standard : PortLayout :=
  ⟨13000, 10⟩

/-- The ports of one node, which follow each other in this order. -/
structure NodePorts where
  registration : UInt16
  discovery : UInt16
  replication : UInt16
  shutdown : UInt16
  admin : UInt16
deriving DecidableEq, Repr

namespace NodePorts

/-- The block that starts at a port. -/
def startingAt (first : Nat) : NodePorts :=
  ⟨.ofNat first, .ofNat (first + 1), .ofNat (first + 2), .ofNat (first + 3), .ofNat (first + 4)⟩

/-- The ports of a block in order. -/
def toList (ports : NodePorts) : List UInt16 :=
  [ports.registration, ports.discovery, ports.replication, ports.shutdown, ports.admin]

/-- The address of the node that owns a block on a host. -/
def peerAddress (ports : NodePorts) (hostName : String) : PeerAddress :=
  ⟨hostName, ports.registration, ports.discovery, ports.replication⟩

end NodePorts

/-- Hands out blocks in order; a block is used up only when it is committed. -/
structure PortAllocator where
  layout : PortLayout
  /-- The first port of the next block, which may lie past the last port. -/
  next : Nat
deriving DecidableEq, Repr

namespace PortAllocator

/-- The allocator that has handed out nothing yet. -/
def ofLayout (layout : PortLayout) : PortAllocator :=
  ⟨layout, layout.basePort.toNat⟩

/-- The next block, unless it would go past the last port. -/
def peek (allocator : PortAllocator) : Except ClusterError NodePorts :=
  if allocator.next + portsPerNode ≤ UInt16.size then
    .ok (.startingAt allocator.next)
  else
    .error (.portSpaceExhausted allocator.next allocator.layout.stride)

/-- Uses the next block up. -/
def commit (allocator : PortAllocator) : PortAllocator :=
  { allocator with next := allocator.next + allocator.layout.stride.toNat }

end PortAllocator

end PeerCluster
