import ClusterChat.Jdbc
import ClusterChat.Json
import ClusterChat.Library.Effect
import ClusterChat.Library.Runs
import ClusterChat.Models
import ClusterChat.PoolConservation
import ClusterChat.Redis
import ClusterChat.Library.MapValues
import ClusterChat.Library.OrderedSet
import ClusterChat.Service
import ClusterChat.ServiceRuns
import ClusterChat.Authentication
import ClusterChat.Friendship
import ClusterChat.Framing
import ClusterChat.OfflineDelivery
import ClusterChat.NodeMaps
import ClusterChat.GroupCache
import ClusterChat.Cluster
import ClusterChat.Presence
import ClusterChat.Sessions
import ClusterChat.GroupDelivery
import ClusterChat.Requests
import ClusterChat.Rejection
import ClusterChat.RetryBuffer
import ClusterChat.NodeRuns
import ClusterChat.Binding
import ClusterChat.Disconnect
import ClusterChat.Library.Interleaving
import ClusterChat.OfflineList
import ClusterChat.Registration
import ClusterChat.Client
import ClusterChat.ClientDecoding
import ClusterChat.ClientFraming
import ClusterChat.PrivateChat
import ClusterChat.ActingUser
import ClusterChat.SessionEnd
import ClusterChat.GroupScope
import ClusterChat.FriendCache
import ClusterChat.Library.Custody
import ClusterChat.RedisPool
import ClusterChat.Library.Locking
import ClusterChat.LockOrder
import ClusterChat.RetryBound
import ClusterChat.OfflineOrder
import ClusterChat.GroupRows
import ClusterChat.TableMoves
import ClusterChat.GroupResidue
import ClusterChat.GroupCreator
import ClusterChat.PresenceRecord
import ClusterChat.LoginReply
import ClusterChat.GroupMembers
import ClusterChat.ClientLists
import ClusterChat.RedisOperations
import ClusterChat.GroupIds
import ClusterChat.PoolRace
import ClusterChat.FriendRows
import ClusterChat.SubscriberQueue
import ClusterChat.Library.Decimal
import ClusterChat.Library.InputStream
import ClusterChat.CommandLine
import ClusterChat.MenuProgress
import ClusterChat.JsonFraming
import ClusterChat.Answers
import ClusterChat.ChatPath
import ClusterChat.ClientSession
import ClusterChat.Library.Waiters
import ClusterChat.PoolWakeups
import ClusterChat.Library.Sections
import ClusterChat.LockedService
import ClusterChat.SectionHandlers
