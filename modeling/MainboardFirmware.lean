import MainboardFirmware.Library.Machine
import MainboardFirmware.Library.Bits
import MainboardFirmware.Esp.I2cMaster
import MainboardFirmware.Bus.I2cBus
import MainboardFirmware.Bus.Recover
import MainboardFirmware.Bus.Registry
import MainboardFirmware.Bus.Guarded
import MainboardFirmware.Bus.Handles
import MainboardFirmware.Bus.Restored
import MainboardFirmware.Bus.Shared
import MainboardFirmware.Bus.I2cBusApi
import MainboardFirmware.Bus.DriverBus
import MainboardFirmware.Ssd1306.Panel
import MainboardFirmware.Mcp23017.Chip
import MainboardFirmware.Mcp23017.Driver
import MainboardFirmware.Mcp23017.Operations
import MainboardFirmware.Mcp23017.Init
import MainboardFirmware.Mcp23017.Shadow
import MainboardFirmware.Mcp23017.Pins
import MainboardFirmware.Mcp23017.Prior
import MainboardFirmware.Ads1115.Driver
import MainboardFirmware.Library.Ticks
import MainboardFirmware.Ads1115.Timing
import MainboardFirmware.Esp.CString
import MainboardFirmware.Ssd1306.Driver
import MainboardFirmware.Bus.Lifecycle
import MainboardFirmware.Network.Connected
import MainboardFirmware.App.Command
import MainboardFirmware.Esp.Nvs
import MainboardFirmware.System.Config
import MainboardFirmware.System.Credentials
import MainboardFirmware.Tasks.Sensor
import MainboardFirmware.Tasks.Transitions
import MainboardFirmware.App.Boot
import MainboardFirmware.System.Supervisor
import MainboardFirmware.App.Rollback
import MainboardFirmware.System.Settings
import MainboardFirmware.System.Log
import MainboardFirmware.System.LogOrder
import MainboardFirmware.System.LogGuard
import MainboardFirmware.Bus.Transfer
import MainboardFirmware.Bus.ErrorCount
import MainboardFirmware.Bus.Release
import MainboardFirmware.System.Update
import MainboardFirmware.Ads1115.Adapter
import MainboardFirmware.Ssd1306.Traffic
import MainboardFirmware.Ssd1306.Stream
import MainboardFirmware.Library.Accumulator
import MainboardFirmware.System.Cadence
import MainboardFirmware.System.Snapshot
import MainboardFirmware.Network.Topics
import MainboardFirmware.Library.TwoWire
import MainboardFirmware.Bus.Waveform
import MainboardFirmware.Tasks.Readings
import MainboardFirmware.Library.Json
import MainboardFirmware.System.Heartbeat
import MainboardFirmware.Library.Loop
import MainboardFirmware.Oled.Translate
import MainboardFirmware.Oled.Bitmap
import MainboardFirmware.Oled.Circle
import MainboardFirmware.Oled.Scroll
import MainboardFirmware.Oled.InStep
import MainboardFirmware.Output.Driver
import MainboardFirmware.Tasks.Actuator
import MainboardFirmware.Tasks.Display
import MainboardFirmware.Network.Telemetry
import MainboardFirmware.Network.Provision
import MainboardFirmware.Oled.Whole
import MainboardFirmware.Oled.Legacy
import MainboardFirmware.Network.RemoteLog
import MainboardFirmware.Library.Broker
import MainboardFirmware.Network.Health
