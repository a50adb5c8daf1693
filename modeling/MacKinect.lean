import MacKinect.Frame
import MacKinect.Mailbox
import MacKinect.CInt
import MacKinect.FreenectV1.Device
import MacKinect.FreenectV1.Streams
import MacKinect.FreenectV1.Frames
import MacKinect.FreenectV1.Backend
import MacKinect.FreenectV1.Candidates
import MacKinect.FreenectV2.Device
import MacKinect.FreenectV2.Frames
import MacKinect.FrameContract
import MacKinect.CameraDal.Lifecycle
import MacKinect.CameraDal.SampleQueue
import MacKinect.CameraDal.Fill
import MacKinect.CameraDal.Properties
import MacKinect.ControlCenter.Buffers
import MacKinect.ControlCenter.Frames
import MacKinect.ControlCenter.PointCloud
import MacKinect.ControlCenter.Audio
import MacKinect.ControlCenter.Controls
import MacKinect.AudioHal.Driver
import MacKinect.ControlCenter.Images
import MacKinect.Main
import MacKinect.Previews
import MacKinect.Gui.App
import MacKinect.FreenectV1.Settings
import MacKinect.CameraDal.Source
import MacKinect.ControlCenter.Formats
