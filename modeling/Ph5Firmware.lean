import Ph5Firmware.Dispatch.Symmetry
import Ph5Firmware.Dispatch.Combined
import Ph5Firmware.Json.Motion
import Ph5Firmware.Wire.Layout
import Ph5Firmware.Wire.Udp
import Ph5Firmware.Wire.WebSocket
import Ph5Firmware.Cli
import Ph5Firmware.Mqtt
import Ph5Firmware.Timer.Uptime
import Ph5Firmware.Loop
import Ph5Firmware.Loop.Display
import Ph5Firmware.Loop.Report
import Ph5Firmware.WiFi
import Ph5Firmware.WiFi.Credentials
import Ph5Firmware.WiFi.Portal
import Ph5Firmware.Wire.Acknowledge
import Ph5Firmware.FrontEnds
import Ph5Firmware.Wire.Network
import Ph5Firmware.Dispatch.Frame
import Ph5Firmware.Timer.Interleaving
import Ph5Firmware.Json.Stated
import Ph5Firmware.Json.Decode
import Ph5Firmware.Mqtt.Reconnect
import Ph5Firmware.Loop.Redraw
import Ph5Firmware.Loop.Pace
import Ph5Firmware.Dispatch.Velocity
import Ph5Firmware.Loop.Notice
import Ph5Firmware.Json.Reuse
import Ph5Firmware.Timer.Window
import Ph5Firmware.Timer.Grid
import Ph5Firmware.Cli.Buffer
import Ph5Firmware.Wire.Delivery
import Ph5Firmware.Loop.Feed
import Ph5Firmware.Wire.Pings
import Ph5Firmware.Wire.Clients
import Ph5Firmware.WiFi.PortalPage
import Ph5Firmware.WiFi.Scan
import Ph5Firmware.Loop.Axes
import Ph5Firmware.Web.NameServer
import Ph5Firmware.Tcp.EventRuns
