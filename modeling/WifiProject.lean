import WifiProject.Net.DefaultNetworkListener
import WifiProject.Net.StaleNetwork
import WifiProject.Net.SubnetMatching
import WifiProject.Bg.VpnListener
import WifiProject.Bg.GuardedProcessPool
import WifiProject.Bg.BaseService
import WifiProject.Bg.ServiceProgress
import WifiProject.Aidl.StateMirror
import WifiProject.Bg.BypassLan
import WifiProject.Net.ListenerShutdown
import WifiProject.Bg.DirectBootTraffic
import WifiProject.Bg.CallbackIsolation
import WifiProject.Bg.ServiceNotification
import WifiProject.Subscription.SyncFrame
import WifiProject.Subscription.SyncInterleaving
import WifiProject.Subscription.ResyncRun
import WifiProject.Database.CurrentProfile
import WifiProject.Database.JsonImport
import WifiProject.Database.JsonRoundTrip
import WifiProject.Database.ReplacingImport
import WifiProject.Plugin.PluginManager
import WifiProject.Plugin.PluginConfiguration
import WifiProject.Plugin.PluginList
import WifiProject.Acl.AclImports
import WifiProject.Acl.AclText
import WifiProject.Acl.AclLayout
import WifiProject.Acl.AclLoading
import WifiProject.Preference.StringSets
import WifiProject.Preference.LocalPorts
import WifiProject.Database.UsableAddress
import WifiProject.Database.UrlRoundTrip
import WifiProject.App.Servers
import WifiProject.App.ConnectCountdown
import WifiProject.App.SavedCredentials
import WifiProject.App.SettingKeys
import WifiProject.Utils.CommandlineGrammar
import WifiProject.Database.EditingRoundTrip
import WifiProject.Bg.LocalDnsWorker
import WifiProject.Bg.StatHistory
import WifiProject.Subscription.Downloads
import WifiProject.Subscription.SubscriptionList
import WifiProject.App.NetworkList
import WifiProject.App.SplashTimer
import WifiProject.App.NetworkTestLoading
import WifiProject.App.GameRating
import WifiProject.Subscription.ServerIdentity
import WifiProject.Net.SubnetOrder
import WifiProject.App.LinkSpeed
import WifiProject.Utils.LookAlikes
import WifiProject.Utils.GbkReencoding
import WifiProject.Plugin.PathProvider
import WifiProject.Plugin.SlowMode
import WifiProject.Utils.BroadcastAddress
import WifiProject.Acl.GfwList
import WifiProject.Acl.GfwListRules
import WifiProject.Acl.GfwListRules
