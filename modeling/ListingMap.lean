import ListingMap.Symbol
import ListingMap.Diagnostic
import ListingMap.Segment
import ListingMap.Filename
import ListingMap.Word
import ListingMap.Parser
import ListingMap.Options
import ListingMap.FileMap
import ListingMap.Sections
import ListingMap.Include.Basic
import ListingMap.Include.Layout
import ListingMap.Include.Section
import ListingMap.DebugTables
import ListingMap.Path
import ListingMap.Json.Value
import ListingMap.Unicode.Escaped
import ListingMap.Decimal.Shortest
import ListingMap.Json.Error
import ListingMap.Json.Scan.Basic
import ListingMap.Json.Scan.Text
import ListingMap.Json.Scan.Number
import ListingMap.Json.Scan.Skip
import ListingMap.Json.Reader
import ListingMap.SourceMap.Item
import ListingMap.SourceMap.Basic
import ListingMap.SourceMap.Query
import ListingMap.SourceMap.Position
import ListingMap.SourceMap.Assemble
import ListingMap.SourceMap.RecordLoop
import ListingMap.SourceMap.Json
import ListingMap.SourceMap.Reader
import ListingMap.Config
import ListingMap.Report
import ListingMap.Main
import ListingMap.Artifact
import ListingMap.Proofs.Split
import ListingMap.Proofs.SectionDecode
import ListingMap.Proofs.FieldLayout
import ListingMap.Proofs.ArtifactRoundTrip
import ListingMap.Proofs.AssemblyFold
import ListingMap.Proofs.ItemOrder
import ListingMap.Proofs.Lookup
import ListingMap.Proofs.PositionRoundTrip
import ListingMap.Proofs.DuplicateDebugLines
import ListingMap.Proofs.BuildInvariance
import ListingMap.Proofs.PathCoverage
import ListingMap.Proofs.ScanAgreement
import ListingMap.Proofs.SplitPoints
import ListingMap.Proofs.SplitRun
import ListingMap.Proofs.HeaderRead
import ListingMap.Proofs.SectionBoundary
import ListingMap.Proofs.ChunkRecords
import ListingMap.Proofs.FileMapStrides
import ListingMap.Proofs.RecordLoopBudget
