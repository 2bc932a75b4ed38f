import TapCfg.Daemon.Rounds
import TapCfg.Daemon.Link
import TapCfg.Daemon.Closing
import TapCfg.Daemon.Confinement
import TapCfg.Daemon.Descriptors
import TapCfg.Daemon.Exits
import TapCfg.Daemon.Fanout
import TapCfg.Daemon.Lifecycle
import TapCfg.Daemon.Stopping
import TapCfg.Unix.Types
import TapCfg.Unix.Linux
import TapCfg.Unix.Bsd
import TapCfg.Unix.Solaris
import TapCfg.Unix.Device
import TapCfg.Unix.Reading
import TapCfg.Unix.Writing
import TapCfg.Unix.Sessions
import TapCfg.Unix.Iface
import TapCfg.Unix.Kernel
import TapCfg.Unix.Hwaddr
import TapCfg.Unix.Fallback
import TapCfg.Unix.Naming
import TapCfg.Unix.Address
import TapCfg.Unix.Fields
import TapCfg.Unix.Status
import TapCfg.Unix.Operations
import TapCfg.Unix.Plumbing
import TapCfg.Unix.Units
import TapCfg.Unix.Dlpi
import TapCfg.Windows.Holding
import TapCfg.Windows.Sessions
import TapCfg.Windows.Choice
import TapCfg.Windows.Writing
import TapCfg.Windows.Iface
import TapCfg.Windows.Lease
import TapCfg.Windows.Operations
import TapCfg.Api.Sessions
import TapCfg.Api.Operation
import TapCfg.Api.Refusals
import TapCfg.Bindings.Headers
import TapCfg.Bindings.VirtualDevice
import TapCfg.Foundation.Ring
import TapCfg.Foundation.Layout
import TapCfg.Foundation.Checksum
import TapCfg.Foundation.Options
import TapCfg.TapWin32.Queue
import TapCfg.TapWin32.Types
import TapCfg.TapWin32.Dhcp
import TapCfg.TapWin32.Replies
import TapCfg.TapWin32.Ioctl
import TapCfg.TapWin32.Neighbours
import TapCfg.TapWin32.Transmit
import TapCfg.TapWin32.Leases
import TapCfg.TapWin32.Offered
import TapCfg.Foundation.Interleaving
import TapCfg.TapWin32.Machine
import TapCfg.TapWin32.Exchange
import TapCfg.TapWin32.Requests
import TapCfg.TapWin32.Stalls
import TapCfg.TapWin32.Draining
import TapCfg.TapWin32.Isolation
import TapCfg.TapWin32.Overruns
import TapCfg.TapWin32.Tunnel
import TapCfg.TapWin32.Masquerade
import TapCfg.Foundation.Buckets
import TapCfg.TapWin32.Instances
import TapCfg.TapWin32.Macinfo
import TapCfg.TapWin32.Mutex
import TapCfg.Foundation.Chains
import TapCfg.SolarisTun.Types
import TapCfg.SolarisTun.Driver
import TapCfg.SolarisTun.Roles
import TapCfg.SolarisTun.Linked
import TapCfg.SolarisTun.Routing
import TapCfg.SolarisTun.Careful
import TapCfg.SolarisTun.Crossing
import TapCfg.SolarisTun.Units
