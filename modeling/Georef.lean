import Georef.GridFile.Writing
import Georef.Main
import Georef.Proofs.Cache.Refinement
import Georef.Service.Routes
import Georef.Shift.Pipeline
import Georef.Tiff.Writing
import Georef.Proofs.Crs.Consistency
import Georef.Proofs.Crs.Reachability
import Georef.Proofs.Source.LawfulReader
import Georef.Proofs.Source.CursorRuns
import Georef.Proofs.Tiff.StoredDirectory
import Georef.Proofs.Doubles.Words
import Georef.Proofs.Doubles.Rounding
import Georef.Proofs.Doubles.Whole
import Georef.Proofs.Doubles.Counting
import Georef.Proofs.Doubles.Signs
import Georef.Proofs.Source.WrittenBytes
import Georef.Proofs.GridFile.Records
import Georef.Proofs.GridFile.Headers
import Georef.Proofs.Fractions
import Georef.Proofs.GridFile.Dimensions
import Georef.Proofs.GridFile.SubGrids
import Georef.Proofs.GridFile.Linking
import Georef.Proofs.GridFile.Loading
import Georef.Proofs.Tiff.WrittenValues
import Georef.Proofs.Tiff.WrittenDirectory
import Georef.Proofs.Source.BufferedAnswers
import Georef.Proofs.Source.CursorScripts
import Georef.Proofs.Source.Settling
import Georef.Proofs.Source.Opening
import Georef.Proofs.Tiff.DirectoryChain
import Georef.Proofs.Crs.SynthesizedCodes
import Georef.Proofs.Cache.FailedLoads
import Georef.Proofs.GridFile.Ancestry
import Georef.Proofs.Shift.Inverse
import Georef.Proofs.Crs.Stability
import Georef.Proofs.Crs.Order
import Georef.Proofs.SameBytes
import Georef.Proofs.GridFile.Lattices
import Georef.Proofs.Doubles.TotalOrder
import Georef.Proofs.GridFile.Corners
import Georef.Proofs.GridFile.Precedence
import Georef.Proofs.GridFile.Blending
import Georef.Proofs.GridFile.Cells
import Georef.Proofs.GridFile.Overhang
import Georef.Proofs.GridFile.WellFormed
import Georef.Proofs.Cache.Marks
import Georef.Proofs.Crs.WholeCatalogs
import Georef.Proofs.GridFile.Truncation
import Georef.Proofs.Shift.Pipelines
import Georef.Proofs.Tiff.ChangedDirectories
import Georef.Proofs.Service.OpenedGrids
import Georef.Proofs.Shift.Slopes
import Georef.Proofs.Shift.RoundTrip
import Georef.Proofs.Tiff.TrimmedTexts
import Georef.Proofs.Tiff.KeyTexts
import Georef.Proofs.Shift.Convergence
import Georef.Proofs.Shift.Failures
import Georef.Proofs.Tiff.BoundingBoxes
import Georef.Proofs.Tiff.StoredKeys
import Georef.Proofs.Tiff.ImageSystems
import Georef.Proofs.Source.OvershotMoves
import Georef.Proofs.Source.BehindTheEnd
import Georef.Proofs.Tiff.StoredNumbers
import Georef.Proofs.Tiff.LoadedValues
import Georef.Proofs.Tiff.RepeatedReading
import Georef.Proofs.Csv.WrittenTables
import Georef.Proofs.Doubles.Quotients
import Georef.Proofs.Doubles.Decimals
import Georef.Proofs.Doubles.Values
import Georef.Proofs.Decimal.ShortestDigits
import Georef.Proofs.Decimal.WrittenDigits
import Georef.Proofs.Decimal.RoundTrip
import Georef.Proofs.Shift.Batches
