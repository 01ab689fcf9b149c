-- SUMMARY: What is reported of a run besides its result.
import Flowchart.Extract
import Flowchart.Layout

/-!
# Notices

Whatever is passed over or made up on the way from a text to a drawing is reported by a notice. The
record that a logger gets of it has a level, the name of the part that reports it, a message and
fields.
-/

namespace Flowchart

inductive Notice where
  /-- A member of a statement that mentions no node. -/
  | unreadableMember (text : String)
  /-- A member at an end of an edge that has no identifier. -/
  | unreadableEnd (text : String)
  /-- An identifier that only edges refer to. -/
  | placeholder (id : String)
  | extracted (nodes edges : Nat)
  /-- A node whose shape has no usable box. -/
  | unusableBox (id : String)
  | layoutSelected (matchRatio : Float) (totalNodes : Nat) (layout : Layout)

/-! ## Records -/

inductive Level where
  | debug
  | info
  | warn
  deriving DecidableEq, Repr

/-- The value of a field of a record. -/
inductive FieldValue where
  | text (value : String)
  | count (value : Nat)
  | real (value : Float)

namespace Notice

def level : Notice → Level
  | unusableBox _ => .warn
  | layoutSelected .. => .info
  | _ => .debug

/-- The part of the program that reports the notice. -/
def target : Notice → String
  | unreadableMember _ | unreadableEnd _ | placeholder _ => "flowfit::graph_parser"
  | extracted .. => "flowfit"
  | unusableBox _ => "flowfit::position"
  | layoutSelected .. => "flowfit::layout"

def message : Notice → String
  | unreadableMember _ => "Skipping unrecognised node statement"
  | unreadableEnd _ => "Skipping edge endpoint without an id"
  | placeholder _ => "Synthesizing node for undefined edge endpoint"
  | extracted .. => "Extracted graph"
  | unusableBox _ => "Detected shape has no usable bounding box"
  | layoutSelected .. => "Layout selected"

/-- The name of a layout in a record. -/
def layoutName : Layout → String
  | .preset => "Preset"
  | .automatic => "Automatic"

def fields : Notice → List (String × FieldValue)
  | unreadableMember text => [("statement", .text text)]
  | unreadableEnd text => [("endpoint", .text text)]
  | placeholder id | unusableBox id => [("id", .text id)]
  | extracted nodes edges => [("nodes_len", .count nodes), ("edges_len", .count edges)]
  | layoutSelected matchRatio totalNodes layout =>
    [("match_ratio", .real matchRatio), ("total_nodes", .count totalNodes),
     ("decision", .text (layoutName layout))]

end Notice

/-! ## Notices of extraction -/

/-- The members that are not empty and that a reader makes nothing of. -/
def Group.unread {α : Type} (group : Group) (read? : List Char → Option α) : List String :=
  (group.filter fun member => !member.isEmpty && (read? member).isNone).map String.ofList

/-- The members that mention no node, in order. -/
def Chain.memberNotices (chain : Chain) : List Notice :=
  (Group.unread chain.members Mention.read?).map .unreadableMember

/-- The ends without an identifier, connector by connector; the targets come before the sources. -/
def Chain.endNotices (chain : Chain) : List Notice :=
  chain.joints.flatMap fun (left, _, right) =>
    (right.unread leadingId? ++ left.unread leadingId?).map .unreadableEnd

/-- What is passed over and made up between an outline and its graph. -/
def Outline.notices (outline : Outline) : List Notice :=
  outline.statements.flatMap (·.chain.memberNotices) ++
    outline.statements.flatMap (·.chain.endNotices) ++
      outline.openGraph.undefinedEnds.map .placeholder

end Flowchart
