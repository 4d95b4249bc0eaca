import Aether.Account
import Aether.AddrDisplay
import Aether.AddrParser
import Aether.Aethernoize
import Aether.Candidates
import Aether.Checksum
import Aether.Cli
import Aether.Config
import Aether.Confirmations
import Aether.Cps
import Aether.Decoys
import Aether.Dns
import Aether.Ech
import Aether.Error
import Aether.Fragment
import Aether.FragmentConfig
import Aether.Gui.Banner
import Aether.Gui.Chunks
import Aether.Gui.Listener
import Aether.Gui.Manager
import Aether.Gui.Meaning
import Aether.Gui.SystemProxy
import Aether.Gui.Tracking
import Aether.Gui.Unsettled
import Aether.Lib.Dialog
import Aether.Lib.DnsWire
import Aether.Lib.Execution
import Aether.Lib.Framing
import Aether.Lib.Machine
import Aether.Lib.Mailbox
import Aether.Lib.Octets
import Aether.Lib.OctetsMut
import Aether.Lib.OnesComplement
import Aether.Lib.Records
import Aether.Lib.Scan
import Aether.Lib.Tally
import Aether.Lib.Utf8
import Aether.Lib.Window
import Aether.Masque.Capsule
import Aether.Masque.CapsuleStream
import Aether.Masque.Datagram
import Aether.Masque.Encode
import Aether.Masque.Probe
import Aether.Masque.Records
import Aether.Net
import Aether.Netstack.Addrs
import Aether.Netstack.Conn
import Aether.Netstack.Datagrams
import Aether.Netstack.Ends
import Aether.Netstack.HalfClose
import Aether.Netstack.Lookups
import Aether.Netstack.Opens
import Aether.Netstack.Ports
import Aether.Netstack.Queue
import Aether.Netstack.Stack
import Aether.Netstack.Stall
import Aether.Netstack.Streams
import Aether.Netstack.Tables
import Aether.Netstack.Watch
import Aether.Noize
import Aether.Options
import Aether.Prober
import Aether.ProfileRetry
import Aether.Provenance.Origins
import Aether.Provenance.Requests
import Aether.Provenance.Sessions
import Aether.Reconnect
import Aether.Restarts
import Aether.Restarts.Candidate
import Aether.Scanning
import Aether.Signatures
import Aether.Socks.Answer
import Aether.Socks.Associate
import Aether.Socks.Client
import Aether.Socks.Datagrams
import Aether.Socks.Downloads
import Aether.Socks.Effects
import Aether.Socks.Leaks
import Aether.Socks.Moves
import Aether.Socks.Query
import Aether.Socks.Resolve
import Aether.Socks.Server
import Aether.Socks.Udp
import Aether.Socks.Uploads
import Aether.Tunnel.Deadlock
import Aether.Tunnel.Drain
import Aether.Tunnel.Edge
import Aether.Tunnel.H2
import Aether.Tunnel.Link
import Aether.Tunnel.Outcome
import Aether.Tunnel.Outgoing
import Aether.Tunnel.Passing
import Aether.Tunnel.Quic
import Aether.Tunnel.Readiness
import Aether.Tunnel.Response
import Aether.Tunnel.Select
import Aether.Tunnel.Shutdown
import Aether.Tunnel.Supervision
import Aether.Tunnel.Validation
import Aether.Tunnel.VerifyH2
import Aether.Tunnel.VerifyMasque
import Aether.Tunnel.Watch
import Aether.Tunnelping
import Aether.WarpInWarp.Forwarder
import Aether.WarpInWarp.Nested
import Aether.Wireguard.Handshake
import Aether.Wireguard.Ledger
import Aether.Wireguard.Moves
import Aether.Wireguard.Silence
import Aether.Wireguard.Speakers
import Aether.Wireguard.Tunnel
import Aether.Wireguard.Wire
