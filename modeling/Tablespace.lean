import Tablespace.Main
import Tablespace.Value.DateTime
import Tablespace.Proofs.Concatenation
import Tablespace.Proofs.CompactHeader
import Tablespace.Proofs.RedundantHeader
import Tablespace.Proofs.StoredRecord
import Tablespace.Proofs.NodeRecord
import Tablespace.Proofs.RecordChain
import Tablespace.Proofs.LeftEdge
import Tablespace.Proofs.LeafLevel
import Tablespace.Proofs.TreeScan
import Tablespace.Proofs.Descent
import Tablespace.Proofs.LeafWalk
import Tablespace.Proofs.ScanModes
import Tablespace.Proofs.LeafContents
import Tablespace.Proofs.CatalogContents
import Tablespace.Proofs.TableLayout
import Tablespace.Proofs.IndexLookup
import Tablespace.Proofs.DeleteMarks
import Tablespace.Proofs.RecordWalk
import Tablespace.Proofs.PageDump
import Tablespace.Proofs.CursorCalls
import Tablespace.Proofs.CursorLayouts
import Tablespace.Proofs.CursorEnd
import Tablespace.Proofs.CursorDirections
import Tablespace.Proofs.FirstRecord
import Tablespace.Proofs.RecordDistance
import Tablespace.Proofs.FieldPlaces
import Tablespace.Proofs.HeaderWindow
import Tablespace.Proofs.FixedWidth
import Tablespace.Proofs.PackedTime
import Tablespace.Proofs.Calendar
import Tablespace.Proofs.Timestamp
import Tablespace.Proofs.ChecksumBursts
import Tablespace.Proofs.WrittenTypes
import Tablespace.Proofs.DumpReader
