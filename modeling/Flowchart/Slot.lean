-- SUMMARY: A place that shows at most one diagram at a time.
import Flowchart.Diagram

/-!
# Render slots

A renderer mounts a diagram and gives a handle for it, which has to be disposed of in the end. A
slot keeps the handle of the diagram it shows, and disposes of it before another one is mounted, when
the slot is cleared and when the slot itself goes.
-/

namespace Flowchart

/-- A renderer, its state being of type `σ` and its handles of type `η`. -/
structure Host (σ η : Type) where
  mount : σ → Diagram → η × σ
  dispose : σ → η → σ

/-- A slot: the state of its renderer and the handle of the diagram it shows. -/
structure Slot (σ η : Type) where
  host : σ
  current : Option η := none

namespace Slot

variable {σ η : Type}

/-- Dispose of the diagram shown, if there is one. -/
def clear (host : Host σ η) (slot : Slot σ η) : Slot σ η :=
  match slot.current with
  | some handle => ⟨host.dispose slot.host handle, none⟩
  | none => slot

/-- Dispose of the diagram shown, if there is one, and then show another. -/
def replace (host : Host σ η) (slot : Slot σ η) (diagram : Diagram) : Slot σ η :=
  let cleared := slot.clear host
  let (handle, state) := host.mount cleared.host diagram
  ⟨state, some handle⟩

/-- The state of the renderer after the slot is gone. -/
def drop (host : Host σ η) (slot : Slot σ η) : σ :=
  (slot.clear host).host

/-! ## Runs -/

/-- What can be done with a slot. -/
inductive Operation where
  /-- Show a diagram, unless it could not be assembled. -/
  | replace (diagram : Except DiagramError Diagram)
  | clear
  /-- Only look at what is shown. -/
  | current

/-- The slot after an operation. A diagram that could not be assembled leaves it as it was. -/
def perform (host : Host σ η) (slot : Slot σ η) : Operation → Slot σ η
  | .replace (.ok diagram) => slot.replace host diagram
  | .replace (.error _) => slot
  | .clear => slot.clear host
  | .current => slot

/-- The slots after each of several operations. -/
def trace (host : Host σ η) (slot : Slot σ η) : List Operation → List (Slot σ η)
  | [] => []
  | operation :: operations =>
    let next := slot.perform host operation
    next :: trace host next operations

end Slot

/-! ## Recording -/

/-- What a renderer was asked to do. -/
inductive HostEvent where
  | mounted (handle nodes edges : Nat)
  | disposed (handle : Nat)
  deriving DecidableEq, Repr

def HostEvent.text : HostEvent → String
  | mounted handle nodes edges =>
    "mount " ++ toString handle ++ " nodes=" ++ toString nodes ++ " edges=" ++ toString edges
  | disposed handle => "dispose " ++ toString handle

/-- A renderer that draws nothing: it numbers the diagrams and keeps a record of its calls. -/
structure Recorder where
  mounted : Nat := 0
  events : List HostEvent := []
  deriving DecidableEq, Repr

/-- Handles count up from 1. -/
def Recorder.host : Host Recorder Nat where
  mount recorder diagram :=
    let handle := recorder.mounted + 1
    (handle, ⟨handle, recorder.events ++
      [.mounted handle diagram.nodes.length diagram.edges.length]⟩)
  dispose recorder handle := { recorder with events := recorder.events ++ [.disposed handle] }

end Flowchart
