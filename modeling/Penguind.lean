import Penguind.Daemon.ParkedModule
import Penguind.Daemon.EnabledSet
import Penguind.Daemon.RunDaemon
import Penguind.Daemon.Announced
import Penguind.Daemon.Dropped
import Penguind.Extplugin.Verdict
import Penguind.Daemon.LogRing
import Penguind.Daemon.ModuleConfig
import Penguind.Daemon.AtomicFiles
import Penguind.Daemon.Boots
import Penguind.Waddlebot.AdminPath
import Penguind.Waddlebot.Refresh
import Penguind.Goplugin.Launch
import Penguind.Goplugin.Broker
import Penguind.Squawk.Restores
import Penguind.Desktop.Approval
import Penguind.Desktop.Batch
import Penguind.Desktop.ScriptEnvironment
import Penguind.Desktop.Logout
import Penguind.Desktop.OAuthState
import Penguind.Desktop.PollLoop
import Penguind.Waddlebot.ObsAllowlist
import Penguind.Waddlebot.ObsLoop
import Penguind.Waddlebot.BridgeTokens
import Penguind.Waddlebot.BridgeLifecycle
import Penguind.Tobogganing.Disconnect
import Penguind.Tobogganing.Leftover
import Penguind.Tobogganing.Backends
import Penguind.Tobogganing.Revocation
import Penguind.Forwarder.Eviction
import Penguind.Forwarder.Responses
import Penguind.Squawk.Hosted
import Penguind.Squawk.DnsName
import Penguind.Squawk.Nameservers
import Penguind.Squawk.Ntp
import Penguind.Squawk.Pem
import Penguind.Secrets.Store
import Penguind.Update.Upgrades
import Penguind.Waddlebot.Community
import Penguind.Licensing.CacheOrder
import Penguind.Waddleai.HookInstall
import Penguind.Cli.Socket
import Penguind.Cli.Tree
import Penguind.Squawk.License
import Penguind.Tray.Menu
import Penguind.Tray.Snapshot
