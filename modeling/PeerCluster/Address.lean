import PeerCluster.Text.Outline

/-! Addresses of cluster peers, the endpoints they expose, and the roles their ports play. -/

namespace PeerCluster

/-- The three services that every peer listens for. -/
inductive NetworkRole where
  /-- Clients register themselves here. -/
  | registration
  /-- Clients look peers up here. -/
  | discovery
  /-- Peers copy their state to each other here. -/
  | replication
deriving DecidableEq, Repr

/-- The word for a role in logs and errors. -/
def NetworkRole.name : NetworkRole → String
  | .registration => "registration"
  | .discovery => "discovery"
  | .replication => "replication"

/-- Where a peer can be reached: one host and a port for each role. -/
structure PeerAddress where
  hostName : String
  registrationPort : UInt16
  discoveryPort : UInt16
  replicationPort : UInt16
deriving DecidableEq, Repr, Inhabited

/-- One host and one port. -/
structure Endpoint where
  hostName : String
  port : UInt16
deriving DecidableEq, Repr, Inhabited

namespace PeerAddress

/-- The port a peer listens on in a role. -/
def portFor (peer : PeerAddress) : NetworkRole → UInt16
  | .registration => peer.registrationPort
  | .discovery => peer.discoveryPort
  | .replication => peer.replicationPort

/-- The endpoint of a peer in a role. -/
def endpoint (peer : PeerAddress) (role : NetworkRole) : Endpoint :=
  ⟨peer.hostName, peer.portFor role⟩

/-- The text of a peer in messages: its host, then the ports by role in brackets. -/
def text (peer : PeerAddress) : String :=
  peer.hostName ++ "[registration=" ++ toString peer.registrationPort ++ ", discovery="
    ++ toString peer.discoveryPort ++ ", replication=" ++ toString peer.replicationPort ++ "]"

end PeerAddress

instance : ToString PeerAddress where
  toString := PeerAddress.text

instance : Outline PeerAddress where
  outline peer := Text.recordOutline "PeerAddress" [
    ("host_name", outline peer.hostName),
    ("registration_port", outline peer.registrationPort),
    ("discovery_port", outline peer.discoveryPort),
    ("replication_port", outline peer.replicationPort)]

/-- The text of an endpoint in messages: host and port with a colon between them. -/
def Endpoint.text (target : Endpoint) : String :=
  target.hostName ++ ":" ++ toString target.port

instance : ToString Endpoint where
  toString := Endpoint.text

instance : Outline Endpoint where
  outline target := Text.recordOutline "Endpoint" [
    ("host_name", outline target.hostName), ("port", outline target.port)]

end PeerCluster
