import EcatMiddleware.Lib.LittleEndian
import EcatMiddleware.Core.PluginShutdown
import EcatMiddleware.Core.RobotConfig
import EcatMiddleware.Core.LoadRobotConfig
import EcatMiddleware.Core.RuntimeConfig
import EcatMiddleware.Core.Startup
import EcatMiddleware.Core.ParseFrame
import EcatMiddleware.Core.ComponentName
import EcatMiddleware.Core.RobotConfigBuilder
import EcatMiddleware.Dds.CommandRuns
import EcatMiddleware.Dds.ReplReading
import EcatMiddleware.Dds.RosGraph
import EcatMiddleware.Dds.Startup
import EcatMiddleware.Dds.ServiceCalls
import EcatMiddleware.Dds.ServiceOrder
import EcatMiddleware.Dds.JointStates
import EcatMiddleware.Dds.NodeNamespace
import EcatMiddleware.Dds.ReplReuse
import EcatMiddleware.Dds.PublisherRuns
import EcatMiddleware.Dds.AdapterSubscribers
import EcatMiddleware.Dds.HeaderStamp
import EcatMiddleware.Zenoh.BridgePublisher
import EcatMiddleware.Zenoh.CdrSubscribers
import EcatMiddleware.Zenoh.Ros2Cycle
import EcatMiddleware.Zenoh.TopicKeys
import EcatMiddleware.Zenoh.SubscriberRuns
import EcatMiddleware.Zenoh.Plugin
import EcatMiddleware.Paths.MotorCommand
import EcatMiddleware.Paths.MotorMessage
import EcatMiddleware.Paths.MessageRows
import EcatMiddleware.Paths.StateMessage
import EcatMiddleware.Paths.TopicTable
import EcatMiddleware.Tools.InspectorApp
import EcatMiddleware.Tools.InspectorRuns
import EcatMiddleware.Tools.ShmInspector
