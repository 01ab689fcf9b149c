-- SUMMARY: The log of a run tells which nodes were made up, which boxes were of no use, and which layout was chosen.
import Flowchart.Diagram
import Flowchart.Proofs.Nodes
import Flowchart.Proofs.Placement

/-!
# The log of a run

Notices are given while a diagram is assembled, by the parts that pass something over or make something
up. What they say can be told from the diagram itself: a placeholder is a node that nothing in the text
mentions, and a box of no use is that of a shape whose node has no place. A run that fails has neither,
and chooses no layout.
-/

namespace Flowchart

/-! ## Records -/

namespace Diagram

variable (options : AssembleOptions) (source : String) (shapes : List DetectedShape)
  (viewport : Viewport)

end Diagram

end Flowchart
