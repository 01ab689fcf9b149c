-- SUMMARY: Choosing between detected positions and automatic layout.

/-!
# Layout

Detected positions are used when enough of the nodes have one.
-/

namespace Flowchart

inductive Layout where
  /-- Draw the nodes where they were detected. -/
  | preset
  /-- Let the renderer arrange the nodes. -/
  | automatic
  deriving DecidableEq, Repr

/-- The name of a layout in all output. -/
def Layout.name : Layout → String
  | preset => "preset"
  | automatic => "automatic"

namespace Layout

/-- The part of the nodes that must have a position, unless said otherwise. -/
def standardThreshold : Float := 0.8

/-- Detected positions are used from the threshold on, if there are nodes at all. -/
def choose (threshold matchRatio : Float) (totalNodes : Nat) : Layout :=
  if totalNodes > 0 && matchRatio ≥ threshold then .preset else .automatic

end Layout

end Flowchart
