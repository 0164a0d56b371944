import Ika.FrameStream.SlotOwnership
import Ika.FrameStream.HoldLedger
import Ika.FrameStream.LastFrame
import Ika.FrameStream.Integrity
import Ika.Wayland.Releases
import Ika.Gamepad.Timer
import Ika.Display.FlexHolds
import Ika.Display.Confirmations
import Ika.Interop.Imports
import Ika.Control.Receiver
import Ika.Control.Delivery
import Ika.Cvd.Serialisable
import Ika.Cvd.FileFaults
import Ika.Cvd.StopInstanceGroup
import Ika.Cvd.LockExclusion
import Ika.Cvdalloc.SharedResources
import Ika.InputConnector.Sharing
import Ika.VhuMedia.Notifications
import Ika.Confui.Consent
import Ika.V4l2Stream.LossFree
import Ika.EmulatedCamera.Dequeue
import Ika.VhuInput.Delivery
import Ika.ProcessMonitor.Runs
import Ika.UrlDownload.Steps
import Ika.LazyFile.LazilyLoadedFile
import Ika.BufferedZip.Transparent
import Ika.Concurrency.Multiplexer
import Ika.ConfuiPackets.RoundTrip
import Ika.DznFix.Crowded
import Ika.Operator.Ownership
import Ika.Operator.Lifecycle
import Ika.SecureEnv.SuspendResume
import Ika.SecureEnv.InsecureJsonStorage
import Ika.SecureEnv.SoftGateKeeper
import Ika.Io.FdCopy
import Ika.Casimir.RfPackets
import Ika.Io.Lz4RoundTrip
import Ika.Cpio.RoundTrip
import Ika.ImageAggregator.Histories
import Ika.UserArtifacts.Interleavings
import Ika.UserArtifacts.Alone
import Ika.Operator.Polling
import Ika.ConfuiPackets.Totality
import Ika.Cvdalloc.Names
import Ika.ImageAggregator.SuperBuilder
import Ika.VhuMedia.HostMemoryMapper
import Ika.EmulatedCamera.CaptureClock
import Ika.EmulatedCamera.Controls
import Ika.ScreenConnector.RingBuffers
import Ika.AudioConnector.Server
import Ika.Modem.CallService
import Ika.Modem.ChannelMonitor
import Ika.Fetch.FetcherConfig
import Ika.FlagParser.Scan
import Ika.FlagParser.NumInstancesParser
import Ika.Web.AndroidBuildApi
import Ika.Web.DirectoryBuild
import Ika.Web.CredentialSource
import Ika.SecureEnv.SecretFiles
import Ika.Gamepad.Focus
import Ika.Gamepad.SpecScanner
import Ika.DznFix.LiveHandles
import Ika.FrameStream.Bounds
