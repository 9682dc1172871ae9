import ScrollPane.Scene
import ScrollPane.Layout.Run
import ScrollPane.Proofs.ScrollBounds
import ScrollPane.Proofs.SceneDepth
import ScrollPane.Proofs.Twins
import ScrollPane.Proofs.Histories
import ScrollPane.Proofs.SelectionLifetime
import ScrollPane.Proofs.TranscriptRuns
import ScrollPane.Proofs.Contents
import ScrollPane.Proofs.ScrolledBack
import ScrollPane.Proofs.Following
import ScrollPane.Proofs.Columns
import ScrollPane.Proofs.StackBounds
import ScrollPane.Proofs.SceneBounds
import ScrollPane.Proofs.ShownFrames
import ScrollPane.Proofs.Redrawing
import ScrollPane.Proofs.Unscrolled
import ScrollPane.Proofs.StartingOver
import ScrollPane.Proofs.InputRouting
import ScrollPane.Proofs.KeptItems
import ScrollPane.Proofs.Rescanning
import ScrollPane.Proofs.Clipping
import ScrollPane.Proofs.StyledCuts
import ScrollPane.Proofs.HighlightedText
import ScrollPane.Proofs.SelectionGeometry
import ScrollPane.Proofs.ReportMeaning
import ScrollPane.Proofs.OneWayScrolling
import ScrollPane.Proofs.Paging
import ScrollPane.Proofs.PinnedHeaders
import ScrollPane.Proofs.EscapeGrammar
import ScrollPane.Proofs.InsertedEscapes
import ScrollPane.Proofs.PrintableLines
import ScrollPane.Proofs.WindowRequests
import ScrollPane.Proofs.MouseModes
import ScrollPane.Proofs.WheelLines
import ScrollPane.Proofs.LinePieces
