import MarkdownOutline.Main
import MarkdownOutline.Proofs.FormatTwice
import MarkdownOutline.Proofs.ReadDepths
import MarkdownOutline.Proofs.StructureKept
import MarkdownOutline.Proofs.FileTree
import MarkdownOutline.Proofs.PathNames
import MarkdownOutline.Proofs.NoteRuns
import MarkdownOutline.Proofs.ExportRuns
import MarkdownOutline.Proofs.NotesKept
import MarkdownOutline.Proofs.NotesPlace
import MarkdownOutline.Proofs.NotesAgain
import MarkdownOutline.Proofs.LiftedSections
import MarkdownOutline.Proofs.CodeKept
import MarkdownOutline.Proofs.ConvertedSections
import MarkdownOutline.Proofs.PeerHeadings
import MarkdownOutline.Proofs.PeerSections
import MarkdownOutline.Proofs.RenumberedTitles
import MarkdownOutline.Proofs.OrderedSpans
import MarkdownOutline.Proofs.ReportedNumbers
import MarkdownOutline.Proofs.FirstExport
import MarkdownOutline.Proofs.CommandLines
import MarkdownOutline.Proofs.Machines
import MarkdownOutline.Proofs.CommandEffects
import MarkdownOutline.Proofs.SectionEntries
import MarkdownOutline.Proofs.ShiftedSections
import MarkdownOutline.Proofs.NestedLifts
import MarkdownOutline.Proofs.VisibleTitles
import MarkdownOutline.Proofs.NestedItems
import MarkdownOutline.Proofs.LineLifts
import MarkdownOutline.Proofs.LiftedDepths
import MarkdownOutline.Proofs.RepeatedShifts
import MarkdownOutline.Proofs.AppendedLines
import MarkdownOutline.Proofs.RepeatedAppends
import MarkdownOutline.Proofs.TitledNotes
import MarkdownOutline.Proofs.ListPlaces
import MarkdownOutline.Proofs.CountedHeadings
import MarkdownOutline.Proofs.FreeNumbers
import MarkdownOutline.Proofs.NeighbouringLists
import MarkdownOutline.Proofs.LongestNumbers
