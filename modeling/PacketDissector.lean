import PacketDissector.Library.Runs
import PacketDissector.Library.Stateful
import PacketDissector.Library.Delivery
import PacketDissector.Epan.Exceptions
import PacketDissector.Epan.HeaderField
import PacketDissector.Epan.Registry
import PacketDissector.Epan.Registration
import PacketDissector.Epan.Register
import PacketDissector.Epan.RegisterContract
import PacketDissector.Epan.Tap
import PacketDissector.Epan.TapDelivery
import PacketDissector.Epan.TapHistory
import PacketDissector.Epan.TapAgreement
import PacketDissector.Epan.TapTracking
import PacketDissector.Epan.TapRuns
import PacketDissector.Epan.Init
import PacketDissector.Epan.InitContract
import PacketDissector.Epan.Tvbuff
import PacketDissector.Epan.Dissection
import PacketDissector.Epan.ProtoTree
import PacketDissector.Epan.Expert
import PacketDissector.Epan.ExpertContract
import PacketDissector.Epan.ProtoItem
import PacketDissector.Host.PacketFoo
import PacketDissector.Host.Main
import PacketDissector.Host.FooRegistration
import PacketDissector.Host.HostPhases
import PacketDissector.Host.HostCalls
import PacketDissector.Host.DissectFoo
import PacketDissector.Host.DissectFooContract
import PacketDissector.Library.JsonText
import PacketDissector.Library.Base64
import PacketDissector.Wsutil.JsonDumper
import PacketDissector.Wsutil.JsonDumperContract
import PacketDissector.Wsutil.Base64Contract
import PacketDissector.Wsutil.Strtoi
import PacketDissector.Sharkd.Columns
import PacketDissector.Sharkd.Session
import PacketDissector.Sharkd.JsonHelpers
import PacketDissector.Sharkd.Frames
import PacketDissector.Sharkd.FrameSlices
import PacketDissector.Sharkd.RowText
import PacketDissector.Sharkd.FrameRows
import PacketDissector.Sharkd.RequestedFrames
import PacketDissector.Sharkd.FramesContract
import PacketDissector.Sharkd.FramesOfPort
import PacketDissector.Library.Heap
import PacketDissector.Epan.ProtocolNames
import PacketDissector.Sharkd.TapRequests
import PacketDissector.Sharkd.TapListening
import PacketDissector.Sharkd.TapRequestsContract
import PacketDissector.Sharkd.ListenersRestored
import PacketDissector.Library.Radix
import PacketDissector.Epan.FrameDataSequence
import PacketDissector.Epan.FrameSequenceContract
import PacketDissector.Epan.FrameSequenceRelease
import PacketDissector.Sharkd.FrameStorage
import PacketDissector.Wsutil.Jsmn
import PacketDissector.Wsutil.WsJson
import PacketDissector.Wsutil.JsonStrings
import PacketDissector.Wsutil.JsmnSteps
import PacketDissector.Wsutil.JsmnPlaces
import PacketDissector.Wsutil.JsmnPasses
import PacketDissector.Sharkd.SessionLines
import PacketDissector.Sharkd.SessionLinesContract
import PacketDissector.Wsutil.JsmnObjects
import PacketDissector.Sharkd.RequestLines
import PacketDissector.Sharkd.RequestRoundTrip
