import Bwctl.TimeConversions
import Bwctl.Policy.FixedLimits
import Bwctl.Policy.Accounting
import Bwctl.Broker.Search
import Bwctl.Broker.Exclusive
import Bwctl.Broker.StaleTypes
import Bwctl.Broker.DeniedCounts
import Bwctl.Broker.Deadline
import Bwctl.Broker.EarliestFit
import Bwctl.Broker.SlotCounts
import Bwctl.Broker.SoundTimes
import Bwctl.Broker.MainLoopRefines
import Bwctl.Control.OfferedModes
import Bwctl.Control.Handshake
import Bwctl.Cipher.Ends
import Bwctl.Lib.ByteField
import Bwctl.Lib.RoundCiphers
import Bwctl.Children.Pending
import Bwctl.Policy.UserClass
import Bwctl.Policy.ClassInvariants
import Bwctl.Policy.LimitGrammar
import Bwctl.Policy.LongestPrefix
import Bwctl.Protocol.LegacyServers
import Bwctl.Protocol.ServerSafety
import Bwctl.Protocol.TestEnd
import Bwctl.Protocol.Lockstep
import Bwctl.Children.TestLength
import Bwctl.Children.ClockError
import Bwctl.Client.ToolChoice
import Bwctl.Client.AgreedTime
import Bwctl.Client.CleanUp
import Bwctl.Children.PipeMessages
import Bwctl.Endpoint.ExitStatus
import Bwctl.Tools.CPUAffinity
import Bwctl.Tools.PeerPorts
import Bwctl.Tools.OwampPorts
import Bwctl.Tools.DaemonOptions
