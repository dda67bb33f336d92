import Mcps.Core.GrammarValues
import Mcps.Core.MissingPrincipal
import Mcps.Core.ReplaySafety
import Mcps.Proxy.ResponseAcceptance
import Mcps.ClientCore.Downgrade
import Mcps.ClientCore.NonceWindow
import Mcps.ClientProxy.NonceMemory
import Mcps.ClientProxy.Forwarding
import Mcps.Sdk.HttpTransport
import Mcps.Sdk.Delivery
import Mcps.Proxy.EtcdDecision
import Mcps.Proxy.ClockSkew
import Mcps.Proxy.DurableCapacity
import Mcps.Proxy.DurableSafety
import Mcps.Policy.Minting
import Mcps.Proxy.PushTrust
import Mcps.Proxy.Connections
import Mcps.Host.SignedTimes
import Mcps.Proxy.SubjectName
import Mcps.Proxy.LbAssertion
import Mcps.Proxy.SoleWriter
import Mcps.Proxy.ResponderUrl
import Mcps.Proxy.OcspTrust
import Mcps.Proxy.Sha1
import Mcps.Proxy.HeaderView
import Mcps.Transport.Client
import Mcps.Proxy.CliOrder
import Mcps.Proxy.CertLifetime
import Mcps.Proxy.TrustAnchors
import Mcps.Sdk.Driver
import Mcps.Proxy.BoundedStderr
import Mcps.Proxy.LoginAmortization
import Mcps.Demo.FileServer
