import PeerCluster.Main
import PeerCluster.Proofs.Cluster.Accounting
import PeerCluster.Proofs.Cluster.Alignment
import PeerCluster.Proofs.Cluster.Asking
import PeerCluster.Proofs.Cluster.Batching
import PeerCluster.Proofs.Cluster.Blocks
import PeerCluster.Proofs.Cluster.Following
import PeerCluster.Proofs.Cluster.Joining
import PeerCluster.Proofs.Cluster.Leaving
import PeerCluster.Proofs.Cluster.Orders
import PeerCluster.Proofs.Cluster.Resuming
import PeerCluster.Proofs.Cluster.Retaining
import PeerCluster.Proofs.Cluster.StreamHolders
import PeerCluster.Proofs.Cluster.Unfolding
import PeerCluster.Proofs.Config.Accepting
import PeerCluster.Proofs.Fabric.Convergence
import PeerCluster.Proofs.Fabric.Holding
import PeerCluster.Proofs.Identity
import PeerCluster.Proofs.Registry.Bookkeeping
import PeerCluster.Proofs.Registry.Counting
import PeerCluster.Proofs.Registry.Evolving
import PeerCluster.Proofs.Registry.Standing
import PeerCluster.Proofs.RoundRobin.Rotation
import PeerCluster.Proofs.RoundRobin.Waiting
import PeerCluster.Proofs.Session.Bookkeeping
import PeerCluster.Proofs.Session.Commands
import PeerCluster.Proofs.Session.Holding
import PeerCluster.Proofs.Session.Keeping
import PeerCluster.Proofs.Session.Services
import PeerCluster.Proofs.Session.Violations
import PeerCluster.Proofs.Venue.Failing
import PeerCluster.Proofs.Venue.Hinting
import PeerCluster.Proofs.Venue.Projecting
import PeerCluster.Proofs.Venue.Rotating
import PeerCluster.Proofs.Venue.Through
import PeerCluster.Proofs.Venue.Wakeups
import PeerCluster.Proofs.Walkthrough.Course
import PeerCluster.Proofs.Worker.Interleaving
import PeerCluster.Proofs.Worker.Rotating
import PeerCluster.Session
import PeerCluster.Telemetry
