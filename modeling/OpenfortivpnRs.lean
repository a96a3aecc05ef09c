import OpenfortivpnRs.Net.Atomicity
import OpenfortivpnRs.Ipv4Addr
import OpenfortivpnRs.Hdlc.RoundTrip
import OpenfortivpnRs.Lib.Incremental
import OpenfortivpnRs.Tunnel.Packet
import OpenfortivpnRs.Tunnel.TlsStream
import OpenfortivpnRs.Hdlc.Search
import OpenfortivpnRs.Tunnel.PtyStream
import OpenfortivpnRs.Tunnel.PppEngine
import OpenfortivpnRs.Tunnel.PppNegotiation
import OpenfortivpnRs.Tunnel.PppClosed
import OpenfortivpnRs.Proxy.Relay
import OpenfortivpnRs.Proxy.Dead
import OpenfortivpnRs.Tunnel.Fortinet
import OpenfortivpnRs.Proxy.DirectBytes
import OpenfortivpnRs.Proxy.RouteTable
import OpenfortivpnRs.Net.DefaultRoute
import OpenfortivpnRs.Auth.LoginSafety
import OpenfortivpnRs.Http.Segmentation
import OpenfortivpnRs.Proxy.SessionBytes
import OpenfortivpnRs.Proxy.Reply
import OpenfortivpnRs.Proxy.Answered
import OpenfortivpnRs.Proxy.Serving
import OpenfortivpnRs.Tunnel.Delivery
import OpenfortivpnRs.Tunnel.PppObeys
import OpenfortivpnRs.Proxy.Uplink
import OpenfortivpnRs.Tunnel.Forward
import OpenfortivpnRs.Proxy.Refinement
import OpenfortivpnRs.Tls
import OpenfortivpnRs.Proxy.FailedWrites
import OpenfortivpnRs.Hdlc.Corruption
import OpenfortivpnRs.Hdlc.Escaping
import OpenfortivpnRs.Tunnel.IpcpAddress
import OpenfortivpnRs.Tunnel.WriteQueueRun
import OpenfortivpnRs.Tunnel.PtyPackets
import OpenfortivpnRs.Tunnel.NetworkSetup
import OpenfortivpnRs.Net.ResolvConf
import OpenfortivpnRs.Proxy.RemoteEnd
import OpenfortivpnRs.Proxy.PortReuse
import OpenfortivpnRs.Net.DnsEdits
import OpenfortivpnRs.Net.Injection
import OpenfortivpnRs.Proxy.MaskOverflow
import OpenfortivpnRs.Proxy.DnsSafety
import OpenfortivpnRs.Proxy.DnsRoundTrip
import OpenfortivpnRs.Proxy.SocksCodec
import OpenfortivpnRs.Http.Chunked
import OpenfortivpnRs.Auth.Recovery
import OpenfortivpnRs.Auth.Entities
import OpenfortivpnRs.Auth.ScrapeSafety
import OpenfortivpnRs.Auth.ResponseFields
import OpenfortivpnRs.Auth.LoginForms
import OpenfortivpnRs.Auth.SessionCookie
import OpenfortivpnRs.Auth.ChallengePage
import OpenfortivpnRs.Http.RequestLog
import OpenfortivpnRs.Pinentry
import OpenfortivpnRs.Hdlc.Transparency
import OpenfortivpnRs.Hdlc.FirstFrame
import OpenfortivpnRs.Tunnel.PtyLoop
import OpenfortivpnRs.Config.Precedence
import OpenfortivpnRs.Tunnel.Pppd
import OpenfortivpnRs.Tunnel.Interface
import OpenfortivpnRs.Pinentry.Dialogue
import OpenfortivpnRs.Auth.Saml
import OpenfortivpnRs.Main.Lifecycle
import OpenfortivpnRs.Main.Persistence
import OpenfortivpnRs.Main.Trail
import OpenfortivpnRs.Main.Credentials
import OpenfortivpnRs.Main.Establish
import OpenfortivpnRs.Tunnel.EndToEnd
import OpenfortivpnRs.Tls.Connect
import OpenfortivpnRs.Proxy.Link
import OpenfortivpnRs.Auth.Exchange
