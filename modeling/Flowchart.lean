import Flowchart.Main
import Flowchart.Slot
import Flowchart.Proofs.Handles
import Flowchart.Proofs.Hiding
import Flowchart.Proofs.RoundTrip
import Flowchart.Proofs.Enclosure
import Flowchart.Proofs.Appending
import Flowchart.Proofs.Chains
import Flowchart.Proofs.Spacing
import Flowchart.Proofs.Apart
import Flowchart.Proofs.Shown
import Flowchart.Proofs.DashedLabels
import Flowchart.Proofs.Placement
import Flowchart.Proofs.Cell
import Flowchart.Proofs.EdgeLines
import Flowchart.Proofs.Emptiness
import Flowchart.Proofs.Table
import Flowchart.Proofs.Report
import Flowchart.Proofs.Truncation
import Flowchart.Proofs.Log
import Flowchart.Proofs.Decomposition
import Flowchart.Proofs.DetectedShapes
import Flowchart.Proofs.Hue
