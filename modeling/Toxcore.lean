import Toxcore.Spec.PacketsWindow
import Toxcore.Spec.TransportSafety
import Toxcore.Spec.DeliveryLoop
import Toxcore.Spec.HandshakeAuth
import Toxcore.Spec.BSListSortedMap
import Toxcore.Spec.CookieKeysPresent
import Toxcore.Spec.ReplaceRuns
import Toxcore.Spec.AddressTable
import Toxcore.Spec.FriendLocks
import Toxcore.Spec.AddressProvenance
import Toxcore.Spec.ConferenceSave
import Toxcore.Spec.NgcChannelSafety
import Toxcore.Spec.NgcHandshakes
import Toxcore.Spec.NgcInvites
import Toxcore.Spec.NgcTopicSync
import Toxcore.Spec.TCPAttribution
import Toxcore.Spec.TCPStream
import Toxcore.Spec.CallSignalling
import Toxcore.Spec.ForwardChain
import Toxcore.Spec.DataFraming
import Toxcore.Spec.SendCreditCorrect
import Toxcore.Spec.RtpFrames
import Toxcore.Spec.MessageInfos
import Toxcore.Spec.LossyWindow
import Toxcore.Spec.ClosestPeers
import Toxcore.Spec.PendingPings
import Toxcore.Spec.CryptoRequestCorrect
import Toxcore.Spec.FriendRoutingCorrect
import Toxcore.Spec.PeerListTransfer
import Toxcore.Spec.ConferenceTitles
import Toxcore.Spec.FreezeTimedout
import Toxcore.Spec.NgcSendRuns
import Toxcore.Spec.NgcAcks
import Toxcore.Spec.ObserverBroadcasts
import Toxcore.Spec.FounderModerators
import Toxcore.Spec.NgcLoadSafe
import Toxcore.Spec.FriendRelaysRing
import Toxcore.Spec.NgcWrapCorrect
import Toxcore.Spec.FileRequests
import Toxcore.Spec.SenderPositions
import Toxcore.Spec.NgcMessagesDelivered
import Toxcore.Spec.SavedPeersCodec
import Toxcore.Spec.RelayWindow
import Toxcore.Spec.PathNumbers
import Toxcore.Spec.AnnounceCodec
import Toxcore.Spec.AnnounceReading
import Toxcore.Spec.OnionDataDelivered
import Toxcore.Spec.PingArrayExpiry
import Toxcore.Spec.StateSections
