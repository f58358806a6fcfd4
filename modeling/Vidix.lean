import Vidix.Util.DescendingSearch
import Vidix.Util.Word
import Vidix.Util.Worklist
import Vidix.Radeon.Equiv.Config
import Vidix.Libdha.Pci
import Vidix.Libdha.PciX86
import Vidix.Libdha.Equiv.PciVisit
import Vidix.Libdha.Equiv.PciScan
import Vidix.Libdha.Equiv.PciComplete
import Vidix.Libdha.Equiv.PciLinux
import Vidix.Dhahelper.Equiv.PciFind
import Vidix.Dhahelper.PciConfig
import Vidix.Dhahelper.Equiv.PciConfig
import Vidix.Dhahelper.Equiv.Memory
import Vidix.Dhahelper.Irq
import Vidix.Util.GuardedRun
import Vidix.Dhahelper.Equiv.Irq
import Vidix.Util.Ledger
import Vidix.Vidixlib.Equiv.Open
import Vidix.Vidixlib.Equiv.Search
import Vidix.Libdha.PhysMem
import Vidix.Libdha.Equiv.PhysMem
import Vidix.Dhahelper.Port
import Vidix.Libdha.Ports
import Vidix.Libdha.Equiv.AppIo
import Vidix.Libdha.Equiv.Ports
import Vidix.Dhahelper.Equiv.PciList
import Vidix.Mach64.Equiv.Config
import Vidix.BusMaster.Descriptor
import Vidix.BusMaster.Equiv.Descriptor
import Vidix.Libdha.Mmi
import Vidix.Mga.Equiv.Config
import Vidix.Util.ScatterList
import Vidix.Libdha.Equiv.Mmi
import Vidix.Radeon.Dma
import Vidix.Mach64.Dma
import Vidix.BusMaster.Equiv.Copy
import Vidix.Radeon.Equiv.Dma
import Vidix.Mach64.Equiv.Dma
import Vidix.BusMaster.Equiv.SetupFrame
import Vidix.Mach64.Equiv.DmaCache
import Vidix.Pm3.Dma
import Vidix.Pm3.Equiv.Dma
import Vidix.Mga.ColKey
import Vidix.Mga.Equiv.ColKey
import Vidix.Nvidia.Basic
import Vidix.Nvidia.Equiv.Config
import Vidix.Nvidia.Overlay
import Vidix.Nvidia.Equiv.Overlay
import Vidix.Savage.Frame
import Vidix.Savage.Config
import Vidix.S3.Config
import Vidix.Savage.Equiv.Frame
import Vidix.Savage.Equiv.Config
import Vidix.S3.Equiv.Config
import Vidix.S3.Equiv.Mapping
import Vidix.Util.Signed
import Vidix.Equiv.Negotiation
import Vidix.Cyberblade.Equiv.Config
import Vidix.Unichrome.Equiv.Config
import Vidix.Pm2.Equiv.Config
import Vidix.Sis.Equiv.Stride
import Vidix.Mga.Equiv.Stride
import Vidix.Savage.Equiv.Stride
import Vidix.Util.FreshName
import Vidix.Util.JoinedName
import Vidix.Libdha.PciDb2c
import Vidix.Libdha.PciIds
import Vidix.Libdha.Equiv.PciDb2c
import Vidix.Libdha.PciNames
import Vidix.Libdha.Equiv.PciIds
import Vidix.Libdha.Equiv.PciNames
import Vidix.Util.Table
import Vidix.Util.CLiteral
import Vidix.Util.CToken
import Vidix.Libdha.Equiv.PciLiteral
import Vidix.Vidixlib.Equiv.Reopen
import Vidix.Dhahelper.Ioctl
import Vidix.Libdha.Mtrr
import Vidix.Libdha.Equiv.Mtrr
import Vidix.Planes
import Vidix.Radeon.Equiv.Planes
import Vidix.Radeon.Equiv.Addresses
import Vidix.Radeon.Equiv.FrameSelect
import Vidix.Mach64.Equiv.Planes
import Vidix.Util.Halves
import Vidix.Mach64.Equiv.Scale
import Vidix.Mga.Registers
import Vidix.Mga.Equiv.FrameSelect
import Vidix.Mga.Equiv.Clip
import Vidix.Nvidia.Equiv.Clip
import Vidix.Savage.Playback
import Vidix.S3.Equiv.Prescale
import Vidix.Sis.Equiv.Probe
import Vidix.Sis.Equiv.Frames
import Vidix.Sis.Scale
import Vidix.Sis.Equiv.Scale
import Vidix.Sis.Equiv.Overlay
import Vidix.Sis.Equiv.LineBuffer
import Vidix.Sis.Equiv.Addresses
import Vidix.Cyberblade.Overlay
import Vidix.Cyberblade.Equiv.Addresses
import Vidix.Unichrome.Overlay
import Vidix.Unichrome.Equiv.Geometry
import Vidix.Dhahelper.Equiv.AckAddress
import Vidix.Libdha.Equiv.BaseAddr
import Vidix.Unichrome.Equiv.Zoom
import Vidix.Unichrome.Equiv.Rejects
import Vidix.Pm3.Config
import Vidix.Pm3.Equiv.Config
import Vidix.Pm3.Equiv.Scale
import Vidix.Util.Blocks
import Vidix.Util.CountedLoop
import Vidix.Ivtv.Config
import Vidix.Ivtv.Equiv.Blocks
import Vidix.Ivtv.Equiv.Tiling
import Vidix.Ivtv.Equiv.Bounds
import Vidix.Util.Account
import Vidix.Dhahelper.Wait
import Vidix.Dhahelper.Equiv.Wait
import Vidix.Util.Compact
import Vidix.Dhahelperwin.Mapping
import Vidix.Dhahelperwin.Equiv.Mapping
import Vidix.Util.Simulation
import Vidix.Util.FlatFile
import Vidix.Dhahelper.DeviceFile
import Vidix.Dhahelper.Equiv.DeviceFile
import Vidix.Util.Display
import Vidix.Util.LinedPlane
import Vidix.Radeon.Overlay
import Vidix.Radeon.Equiv.Overlay
import Vidix.Radeon.Equiv.Display
import Vidix.Util.Flags
import Vidix.Sis.Bridge
import Vidix.Sis.Equiv.Bridge
import Vidix.Sis.Equiv.Sense
import Vidix.Mach64.Overlay
import Vidix.Mach64.Equiv.Overlay
import Vidix.Mach64.Equiv.Display
import Vidix.Util.Interleaving
import Vidix.Libdha.Descriptor
import Vidix.Libdha.Equiv.Descriptor
import Vidix.Util.Engine
import Vidix.Mach64.Transfer
import Vidix.Mach64.Equiv.Transfer
