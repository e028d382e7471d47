import Gramado.Net.RequestReply
import Gramado.Fs.StoredFiles
import Gramado.Mm.KernelHeap
import Gramado.Ke.SwitchEvents
import Gramado.Ke.BoundedBypass
import Gramado.Net.Gprot
import Gramado.Ke.Coalescing
import Gramado.Ke.ReferenceCount
import Gramado.Ke.CloneAtomicity
import Gramado.Ke.ProcessMemory
import Gramado.Tty.Chunking
import Gramado.Tty.Cells
import Gramado.Ds.WindowRuns
import Gramado.Ds.HitAgreement
import Gramado.Ds.Dangling
import Gramado.Ds.Confinement
import Gramado.Rtl.Output
import Gramado.Net.RingDelivery
import Gramado.Gramcnf.Configuration
import Gramado.Fs.LoadTermination
import Gramado.Fs.SaveCompleteness
import Gramado.Ke.PipeCreation
import Gramado.Fs.FatName
import Gramado.Fs.WorkingDirectory
import Gramado.Fs.PathWalk
import Gramado.Net.TransmitRing
import Gramado.Cmds.ArgumentPassing
import Gramado.Apps.EscapeText
import Gramado.Io.PromptInput
import Gramado.Net.ArpResponder
import Gramado.Net.Checksum
import Gramado.Input.Modifiers
import Gramado.Ke.IndexedGet
import Gramado.Io.QueueDiscipline
import Gramado.Io.Seek
import Gramado.Fs.OpenFile
import Gramado.Ke.Sleep
import Gramado.Gdi.ProxyHits
import Gramado.Gdi.Rectangles
import Gramado.Ds.Tiling
import Gramado.Ds.FocusCycle
import Gramado.Gws.WindowText
import Gramado.Ds.OverlappedGeometry
import Gramado.Rtl.Prompt
import Gramado.Apps.CommandName
import Gramado.Rtl.Vsprintf
import Gramado.Apps.LineBuffer
import Gramado.Mm.SlotMapping
import Gramado.Ds.EditboxCaret
import Gramado.Gramcnf.Totality
import Gramado.Gramcnf.Expressions
import Gramado.Boot.LoadPath
import Gramado.Ds.PointerTrail
import Gramado.Libk.Spans
import Gramado.Mm.FreeRun
import Gramado.Ds.Line3d
import Gramado.Rtl.FileName
import Gramado.Boot.BlockHeap
import Gramado.Hal.AcpiProbe
import Gramado.Bus.PciScan
import Gramado.Ds.BmpImages
