import SpaceEcho.Address
import SpaceEcho.Lib.Acceptance
import SpaceEcho.Lib.FirstFault
import SpaceEcho.Lib.FirstMatch
import SpaceEcho.Lib.FlatMemory
import SpaceEcho.Lib.Footprint
import SpaceEcho.Lib.PrefixCode
import SpaceEcho.Lib.Window
import SpaceEcho.SysEx
import SpaceEcho.Checksum
import SpaceEcho.Corruption
import SpaceEcho.System
import SpaceEcho.Memory
import SpaceEcho.Offsets
import SpaceEcho.Windows
import SpaceEcho.Inbound
import SpaceEcho.Stream
import SpaceEcho.Document
import SpaceEcho.Fields
import SpaceEcho.Json
import SpaceEcho.Kit
import SpaceEcho.Device
import SpaceEcho.Kinds
import SpaceEcho.Refusal
import SpaceEcho.Schema
import SpaceEcho.Destination
import SpaceEcho.Emission
import SpaceEcho.Sync
import SpaceEcho.Store
import SpaceEcho.Resync
import SpaceEcho.Wasm
import SpaceEcho.Echoes
import SpaceEcho.Routing
import SpaceEcho.Pedal
import SpaceEcho.Bank
import SpaceEcho.Session
import SpaceEcho.Editing
import SpaceEcho.Clients
