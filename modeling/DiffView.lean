import DiffView.Anchor
import DiffView.Block
import DiffView.Cluster
import DiffView.Decimal.Layout
import DiffView.Edits
import DiffView.Hunk
import DiffView.Item.Lines
import DiffView.Item.Moves
import DiffView.Item.Others
import DiffView.Json.Draft
import DiffView.Json.Printer
import DiffView.Json.Shape
import DiffView.Op.Json
import DiffView.Op.Traits
import DiffView.Options.Json
import DiffView.Payload.Json
import DiffView.Proofs.AddressTexts
import DiffView.Proofs.Addresses
import DiffView.Proofs.AnchorsInGrid
import DiffView.Proofs.Appearances
import DiffView.Proofs.BoxSteps
import DiffView.Proofs.CellLabels
import DiffView.Proofs.CellRegions
import DiffView.Proofs.CellsShown
import DiffView.Proofs.CoveredLines
import DiffView.Proofs.CutBoxes
import DiffView.Proofs.EditsByPlace
import DiffView.Proofs.EntryPlaces
import DiffView.Proofs.InterestKeys
import DiffView.Proofs.ItemIds
import DiffView.Proofs.KeptOnly
import DiffView.Proofs.LineLabels
import DiffView.Proofs.LineRuns
import DiffView.Proofs.LinksClosed
import DiffView.Proofs.MovesListed
import DiffView.Proofs.OpsKept
import DiffView.Proofs.OpsListed
import DiffView.Proofs.OtherIds
import DiffView.Proofs.PayloadReadBack
import DiffView.Proofs.Previews
import DiffView.Proofs.Ranking
import DiffView.Proofs.RawCells
import DiffView.Proofs.RawEdits
import DiffView.Proofs.RawHunks
import DiffView.Proofs.RegionIds
import DiffView.Proofs.RenamedSheets
import DiffView.Proofs.Reordering
import DiffView.Proofs.RepeatedMoves
import DiffView.Proofs.Respelling
import DiffView.Proofs.SameMoves
import DiffView.Proofs.SharedSnapshots
import DiffView.Proofs.Totals
import DiffView.Proofs.ViewsOfLines
import DiffView.Proofs.Walk
import DiffView.Proofs.WholeRuns
import DiffView.Region
import DiffView.Sheet.Json
import DiffView.Sorting
import DiffView.Span
import DiffView.Tally
import DiffView.Text.Blank
import DiffView.Text.Lower
import DiffView.Text.Quoted
import DiffView.Workbook.Json
