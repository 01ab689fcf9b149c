-- SUMMARY: Which labels hide what is written in them: those at whose end the count of brackets comes back to the top level, and not before.
import Flowchart.Proofs.Brackets
import Flowchart.Proofs.Members
import Flowchart.Proofs.Grammar
import Flowchart.Proofs.Subgraphs

/-!
# Hidden labels

A shape is told by its delimiters, but the scanners count brackets of every kind. So a label is not
always left alone: with a closing bracket too many its text comes to the top level and is cut there,
and with an opening bracket too many the arrow behind the label does not come to the top level. A
node with a label and the arrow from it are read as they are written exactly if neither happens.
-/

namespace Flowchart

/-! ## Lines with a label -/

/-- A line with an arrow from a node with a label, which does not start like its shape, to another
    node. -/
structure LabelledLine where
  source : Identifier
  shape : Shape
  label : List Char
  target : Identifier
  ne : source.name ≠ target.name
  oneLine : '\n' ∉ label
  starts : ∀ c ∈ label.head?, c ∉ shape.opening

namespace LabelledLine

variable (line : LabelledLine)

/-- The member that mentions the first node. -/
def mention : List Char :=
  line.source.chars ++ (line.shape.opening ++ (line.label ++ line.shape.closing))

/-- What follows the first node. -/
def arrow : List Char :=
  [' ', '-', '-', '>', ' '] ++ line.target.chars

def chars : List Char :=
  line.mention ++ line.arrow

def text : String :=
  String.ofList line.chars

/-- The label is not cut, and at its end the shape is closed and nothing else is open. -/
def isHidden : Bool :=
  line.shape.nesting.hides (line.shape.closing ++ line.arrow) line.label &&
    (line.shape.nesting.walk line.label).walk line.shape.closing == .outside

/-- The first node. It shows its label, or its identifier if nothing is left of the label. -/
def node : Node :=
  let label := String.ofList (Label.decode line.label)
  ⟨line.source.name, if label = "" then line.source.name else label, line.shape.category⟩

/-- The graph that the line describes. -/
def graph : Graph where
  direction := .topDown
  nodes :=
    ⟨[(line.source.name, line.node), (line.target.name, .placeholder line.target.name)],
      by simp [line.ne]⟩
  edges := [⟨line.source.name, line.target.name, "", .arrow, .solid⟩]
  subgraphs := []

/-- The arrow with the blank behind it. -/
def connector : Connector :=
  ⟨.arrow, .solid, none, ['-', '-', '>', ' ']⟩

theorem chars_eq : line.chars = (line.mention ++ [' ']) ++ (connector.text ++ line.target.chars) := by
  simp [chars, arrow, connector]

theorem read?_connector :
    Connector.read? (connector.text ++ line.target.chars) = some connector := by
  have hblank : ∀ c ∈ [' '], Text.isBlank c := by simp [Text.isBlank]
  have hspelled : connector.Spelled := .bare (.solidArrow (Nat.le_refl 2)) hblank
  exact Connector.read?_eq_some_iff.2 ⟨hspelled, _, rfl, line.target.stops _⟩

theorem trim_chars : Text.trim line.chars = line.chars := by
  have htrim := line.source.trim_between line.target
    (line.shape.opening ++ (line.label ++ line.shape.closing) ++ [' ', '-', '-', '>', ' '])
  rwa [List.append_assoc, ← List.append_assoc] at htrim

theorem mention_ne_nil : line.mention ≠ [] := by
  simp [mention, line.source.chars_ne_nil]

theorem chars_ne_nil : line.chars ≠ [] := by
  simp [chars, line.mention_ne_nil]

/-- The text is one line of statements. -/
theorem map_read_lines : (Text.lines line.text.toList).map SourceLine.read = [.body line.chars] := by
  have hfeed : '\n' ∉ line.chars := by
    have hshape : '\n' ∉ line.shape.opening ∧ '\n' ∉ line.shape.closing := by
      cases line.shape <;> decide
    simp [chars, mention, arrow, Identifier.feed_notMem, hshape, line.oneLine]
  have hread : SourceLine.read line.chars = .body line.chars := by
    have hchars : line.chars = line.source.chars ++
        (line.shape.opening ++ (line.label ++ line.shape.closing ++ line.arrow)) := by
      simp [chars, mention]
    rw [hchars]
    refine SourceLine.read_identifier line.source (by simp [line.shape.opening_ne_nil])
      (line.shape.isWord_head?_opening _) ?_
    rw [← hchars, line.trim_chars]
  rw [text, String.toList_ofList, Text.lines_of_feed_notMem line.chars_ne_nil hfeed, List.map_cons,
    hread]
  rfl

theorem outline_text :
    Outline.read line.text.toList =
      ⟨.topDown, [], (splitStatements line.chars).map (⟨Chain.read ·, none⟩)⟩ := by
  simp only [Outline.read, line.map_read_lines, placedStatements, List.append_nil]
  rfl

/-! ## Hidden labels -/

theorem isHidden_iff :
    line.isHidden ↔ line.shape.nesting.hides (line.shape.closing ++ line.arrow) line.label ∧
      (line.shape.nesting.walk line.label).walk line.shape.closing = .outside := by
  simp [isHidden]

theorem walk_mention :
    Nesting.outside.walk line.mention =
      (line.shape.nesting.walk line.label).walk line.shape.closing := by
  simp [mention, Nesting.walk_append]

/-- A label that is not cut hides its connectors. -/
theorem quiet_mention
    (h : line.shape.nesting.hides (line.shape.closing ++ line.arrow) line.label) :
    Nesting.outside.Quiet line.arrow line.mention := by
  simp only [mention, Nesting.quiet_append, Identifier.walk_chars, Shape.walk_opening]
  exact ⟨line.source.quiet _ _, line.shape.quiet_opening _ _, Nesting.quiet_of_hides h,
    line.shape.quiet_closing _ _⟩

/-- A label that is not cut hides its separators. -/
theorem notMem_levels_mention
    (h : line.shape.nesting.hides (line.shape.closing ++ line.arrow) line.label) :
    (';', true) ∉ levels .outside line.mention ∧ ('&', true) ∉ levels .outside line.mention := by
  obtain ⟨hsemicolon, hampersand⟩ := Nesting.notMem_levels_of_hides h
  obtain ⟨⟨hsopening, hsclosing⟩, haopening, haclosing⟩ := line.shape.separator_notMem
  have hword {c : Char} (hc : Text.isWord c = false) : (c, true) ∉ levels .outside line.source.chars :=
    line.source.not_mem_levels_chars hc
  simp only [mention, levels_append, Identifier.walk_chars, Shape.walk_opening, List.mem_append, not_or]
  exact ⟨⟨hword (by decide), not_mem_levels hsopening _, hsemicolon, not_mem_levels hsclosing _⟩,
    hword (by decide), not_mem_levels haopening _, hampersand, not_mem_levels haclosing _⟩

/-- Up to the arrow nothing is cut and in the end nothing is open, if the label is hidden. -/
theorem quiet_source_arrow
    (h : line.shape.nesting.hides (line.shape.closing ++ line.arrow) line.label)
    (hwalk : (line.shape.nesting.walk line.label).walk line.shape.closing = .outside) :
    Nesting.outside.Quiet (connector.text ++ line.target.chars) (line.mention ++ [' ']) ∧
      Nesting.outside.walk (line.mention ++ [' ']) = .outside ∧
      levels .outside (line.mention ++ [' ']) = levels .outside line.mention ++ [(' ', true)] := by
  have houtside : Nesting.outside.walk line.mention = .outside := line.walk_mention.trans hwalk
  refine ⟨Nesting.quiet_append.2 ⟨line.quiet_mention h, ?_⟩, ?_, ?_⟩
  · exact Nesting.quiet_of_forall (by simp)
  · rw [Nesting.walk_append, houtside]
    rfl
  · rw [levels_append, houtside]
    rfl

section Hidden

variable (h : line.isHidden)

include h

/-- The mention and the arrow are one statement. -/
theorem splitStatements_chars : splitStatements line.chars = [line.chars] := by
  obtain ⟨hhides, hwalk⟩ := line.isHidden_iff.1 h
  obtain ⟨hquiet, houtside, hlevels⟩ := line.quiet_source_arrow hhides hwalk
  have hne : Text.trim line.chars ≠ [] := by
    rw [trim_chars]
    exact line.chars_ne_nil
  have hsplit := splitStatements_link hquiet houtside line.read?_connector (line.target.quiet _ _) (by
    rw [hlevels, List.mem_append, List.mem_append, not_or, not_or]
    exact ⟨⟨(line.notMem_levels_mention hhides).1, by simp⟩,
      line.target.not_mem_levels_chars (by decide)⟩) (by rwa [← chars_eq])
  rwa [← chars_eq, trim_chars] at hsplit

/-- The mention is one member, without the blank behind it. -/
theorem splitMembers_mention : splitMembers (line.mention ++ [' ']) = [line.mention] := by
  obtain ⟨hhides, hwalk⟩ := line.isHidden_iff.1 h
  obtain ⟨-, -, hlevels⟩ := line.quiet_source_arrow hhides hwalk
  have htrim : Text.trim (line.mention ++ [' ']) = line.mention :=
    (Text.trim_append_white _ (List.all_eq_true.1 (by decide))).trans
      (line.source.trim_shape line.shape line.label)
  have hampersand : ('&', true) ∉ levels .outside (line.mention ++ [' ']) := by
    rw [hlevels, List.mem_append, not_or]
    exact ⟨(line.notMem_levels_mention hhides).2, by simp⟩
  rw [splitMembers_eq_singleton hampersand, htrim]
  rw [htrim]
  exact line.mention_ne_nil

theorem chain_read_chars :
    Chain.read line.chars = ⟨[line.mention], [(connector, [line.target.chars])]⟩ := by
  obtain ⟨hhides, hwalk⟩ := line.isHidden_iff.1 h
  obtain ⟨hquiet, houtside, -⟩ := line.quiet_source_arrow hhides hwalk
  rw [chars_eq, Chain.read_link hquiet houtside line.read?_connector (line.target.quiet _ _),
    line.splitMembers_mention h, Identifier.splitMembers_chars]

theorem mentionsOf_text :
    mentionsOf line.text.toList =
      [⟨line.source.name, some (String.ofList (Label.decode line.label)), line.shape.category⟩,
        ⟨line.target.name, none, .process⟩] := by
  have hsource := Mention.read?_shape line.source line.shape line.starts
  have htarget := Mention.read?_identifier line.target
  rw [← Outline.map_fst_mentions, outline_text, line.splitStatements_chars h]
  rw [← mention] at hsource
  simp [Outline.mentions, line.chain_read_chars h, Chain.members, Chain.groups, hsource, htarget]

theorem edges_text : (Graph.extract line.text).edges = line.graph.edges := by
  have hsource := leadingId?_shape line.source line.shape line.label
  rw [← mention] at hsource
  rw [Graph.extract, Outline.edges_graph, outline_text, line.splitStatements_chars h]
  simp [Outline.edges, line.chain_read_chars h, Chain.edges, Chain.joints, Chain.joints.go, edgesBetween,
    Group.endpoints, hsource, leadingId?_identifier, connector, Connector.edgeLabel, graph]

/-- A hidden label is read as it is written. -/
theorem entries_text : (Graph.extract line.text).nodes.entries = line.graph.nodes.entries := by
  have hends : ((Graph.extract line.text).edges.flatMap Edge.ends).filter
      (· ∉ (mentionsOf line.text.toList).map Mention.id) = [] := by
    rw [line.edges_text h, line.mentionsOf_text h]
    simp [graph, Edge.ends]
  rw [Graph.entries_extract, hends, line.mentionsOf_text h, firsts_eq_self]
  · rfl
  · simp [line.ne]

theorem extract_text_of_isHidden : Graph.extract line.text = line.graph := by
  refine Graph.eq_of_fields ?_ (line.entries_text h) (line.edges_text h) ?_
  · rw [Graph.extract, Outline.direction_graph, outline_text]
    rfl
  · rw [Graph.extract, Outline.subgraphs_graph, outline_text]
    rfl

end Hidden

end LabelledLine

/-! ## Brackets of delimiters -/

namespace Shape

variable (shape : Shape)

theorem isBracket_of_mem_opening : ∀ c ∈ shape.opening, isBracket c := by
  cases shape <;> simp [opening, isBracket, isOpening]

theorem isBracket_of_mem_closing : ∀ c ∈ shape.closing, isBracket c := by
  cases shape <;> simp [closing, isBracket, isClosing]

theorem length_closing : shape.closing.length = shape.opening.length := by
  cases shape <;> rfl

theorem length_opening_pos : 0 < shape.opening.length :=
  List.length_pos_iff.2 shape.opening_ne_nil

/-- Shapes of the same category have delimiters of the same length. -/
theorem length_opening_of_category {other : Shape} (h : shape.category = other.category) :
    shape.opening.length = other.opening.length := by
  cases shape <;> cases other <;> first | rfl | cases h

theorem shownBrackets_opening_append (s : List Char) :
    shownBrackets (shape.opening ++ s) = shape.opening.length + shownBrackets s :=
  shownBrackets_append_of_isBracket shape.isBracket_of_mem_opening s

theorem shownBrackets_append_closing (s t : List Char) :
    shownBrackets (s ++ (shape.closing ++ t)) =
      shownBrackets s + (shape.opening.length + shownBrackets t) := by
  obtain ⟨c, more, hclosing⟩ := List.exists_cons_of_ne_nil shape.closing_ne_nil
  have hc : isBracket c := shape.isBracket_of_mem_closing c (by simp [hclosing])
  have happend := shownBrackets_append_of_isBracket shape.isBracket_of_mem_closing t
  rw [length_closing] at happend
  rw [← happend, hclosing]
  exact shownBrackets_append_cons s hc (more ++ t)

end Shape

theorem Identifier.isBracket_of_mem (id : Identifier) {c : Char} (h : c ∈ id.chars) :
    isBracket c = false :=
  isBracket_of_not_isDelimiter (id.isDelimiter_of_mem h)

theorem Identifier.shownBrackets_chars_append (id : Identifier) (s : List Char) :
    shownBrackets (id.chars ++ s) = shownBrackets s :=
  shownBrackets_append_of_forall
    (fun _ hc => ⟨id.ne_of_mem hc (by decide), id.isBracket_of_mem hc⟩) s

/-! ## Labels that are cut -/

namespace LabelledLine

variable (line : LabelledLine)

theorem shownBrackets_arrow : shownBrackets line.arrow = 0 := by
  have htarget := line.target.shownBrackets_chars_append []
  rw [List.append_nil] at htarget
  rw [arrow, shownBrackets_append_of_forall (by simp [isBracket, isOpening, isClosing]), htarget]
  rfl

theorem mem_membersOf_text {member : List Char} (h : member ∈ membersOf line.text.toList) :
    ∃ statement ∈ splitStatements line.chars, member ∈ (Chain.read statement).groups.flatten := by
  have hstatements : statementsOf line.text.toList = splitStatements line.chars := by
    have hlines := congrArg (List.flatMap (splitStatements ·.statements)) line.map_read_lines
    rw [List.flatMap_map] at hlines
    rw [statementsOf, hlines]
    simp [SourceLine.statements]
  rw [membersOf, hstatements] at h
  exact List.mem_flatMap.1 h

section Cut

variable (cut : line.shape.nesting.Cut (line.shape.closing ++ line.arrow) line.label)

include cut

/-- The cut of a label is a cut of the line. -/
theorem scan_chars :
    scan line.chars =
      ((levels .outside (line.source.chars ++ line.shape.opening)).map Mark.ofLevel ++ cut.front) ++
        cut.mark :: cut.back := by
  have hquiet : Nesting.outside.Quiet (line.label ++ (line.shape.closing ++ line.arrow))
      (line.source.chars ++ line.shape.opening) :=
    Nesting.quiet_append.2 ⟨line.source.quiet _ _, line.shape.quiet_opening _ _⟩
  have hchars : line.chars = (line.source.chars ++ line.shape.opening) ++
      (line.label ++ (line.shape.closing ++ line.arrow)) := by
    simp [chars, mention]
  rw [scan, hchars, scanAfter_append_of_quiet hquiet, Nesting.walk_append, Identifier.walk_chars,
    Shape.walk_opening, cut.scan_eq, List.append_assoc]

/-- The members on one side of a cut show no more brackets than the label and one delimiter. -/
theorem shownBrackets_member_le {member : List Char} (h : member ∈ membersOf line.text.toList) :
    shownBrackets member ≤ shownBrackets line.label + line.shape.opening.length := by
  obtain ⟨statement, hstatement, hmember⟩ := line.mem_membersOf_text h
  have hbefore := shownBrackets_le_of_isInfix cut.before_isInfix
  have hafter := shownBrackets_le_of_isInfix cut.after_isInfix
  rcases infix_of_mem_members hstatement hmember (line.scan_chars cut) cut.isCut with hfront | hback
  · rw [List.flatMap_append, flatMap_text_ofLevel, map_fst_levels, cut.text_front, List.append_assoc]
      at hfront
    have := shownBrackets_le_of_isInfix hfront
    rw [Identifier.shownBrackets_chars_append, Shape.shownBrackets_opening_append] at this
    omega
  · have := shownBrackets_le_of_isInfix (hback.trans cut.text_back.isInfix)
    rw [Shape.shownBrackets_append_closing, shownBrackets_arrow] at this
    omega

/-- A label that is cut holds a closing bracket. -/
theorem shownBrackets_label_pos : 0 < shownBrackets line.label := by
  have hdepth := line.shape.nesting.depth_le_walk cut.before
  rw [Nesting.eq_outside cut.isTop] at hdepth
  have hclosing : cut.before.countP isClosing ≤ cut.before.countP isBracket :=
    List.countP_mono_left fun c _ hc => by simp [isBracket, hc]
  have hshown := countP_isBracket_le cut.before
  have hbefore := shownBrackets_le_of_isInfix cut.before_isInfix
  have hpos := line.shape.length_opening_pos
  have hnesting : line.shape.nesting.depth = line.shape.opening.length := rfl
  have houtside : Nesting.outside.depth = 0 := rfl
  omega

/-- The label still has brackets when it is decoded. -/
theorem decode_label_ne {name : String} (hname : ∀ c ∈ name.toList, isBracket c = false) :
    String.ofList (Label.decode line.label) ≠ name := by
  rintro rfl
  have hcount := line.shownBrackets_label_pos cut
  rw [← countP_decode] at hcount
  obtain ⟨c, hc, hbracket⟩ := List.countP_pos_iff.1 hcount
  rw [String.toList_ofList] at hname
  rw [hname c hc] at hbracket
  cases hbracket

theorem decode_label_ne_source : String.ofList (Label.decode line.label) ≠ line.source.name :=
  line.decode_label_ne cut fun _ => line.source.isBracket_of_mem

theorem node_eq :
    line.node =
      ⟨line.source.name, String.ofList (Label.decode line.label), line.shape.category⟩ := by
  rw [node, if_neg (line.decode_label_ne cut (by simp))]

/-- Only a mention with the label gives a node that shows it. -/
theorem label_of_ofMention_eq {mention : Mention} (h : Node.ofMention mention = line.node) :
    mention.label = some (String.ofList (Label.decode line.label)) ∧
      mention.category = line.shape.category := by
  have hne := line.decode_label_ne_source cut
  rw [line.node_eq cut, Node.ofMention, Node.mk.injEq] at h
  obtain ⟨hid, hshown, hcategory⟩ := h
  refine ⟨?_, hcategory⟩
  unfold Mention.shownLabel at hshown
  split at hshown
  · next label hlabel =>
    split at hshown
    · exact absurd (hshown.symm.trans hid) hne
    · rw [hlabel, hshown]
  · exact absurd (hshown.symm.trans hid) hne

/-- A label that is cut is not read as it is written: no member has enough brackets. -/
theorem notMem_entries_text :
    (line.source.name, line.node) ∉ (Graph.extract line.text).nodes.entries := by
  intro h
  rw [Graph.entries_extract, List.mem_append, List.mem_map, List.mem_map] at h
  rcases h with ⟨mention, hmention, hnode⟩ | ⟨id, -, hnode⟩
  · obtain ⟨hlabel, hcategory⟩ := line.label_of_ofMention_eq cut (Prod.mk.inj hnode).2
    have hmem : mention ∈ mentionsOf line.text.toList := (firsts_sublist Mention.id _).subset hmention
    obtain ⟨member, hmember, hread⟩ := List.mem_filterMap.1 hmem
    obtain ⟨shape, inner, hshape, hinner, hinside⟩ := Mention.exists_of_label hread hlabel
    have hlength := shape.length_opening_of_category (hshape.trans hcategory)
    have hcount : shownBrackets inner = shownBrackets line.label := by
      rw [← countP_decode, ← countP_decode, String.ofList_injective hinner]
    have henclosed := shape.shownBrackets_append_closing inner []
    have hle := (shownBrackets_le_of_isInfix hinside).trans (line.shownBrackets_member_le cut hmember)
    have hpos := line.shape.length_opening_pos
    rw [List.append_nil] at henclosed
    rw [Shape.shownBrackets_opening_append, henclosed] at hle
    omega
  · obtain ⟨rfl, hplaceholder⟩ := Prod.mk.inj hnode
    rw [line.node_eq cut, Node.placeholder, Node.mk.injEq] at hplaceholder
    exact line.decode_label_ne_source cut hplaceholder.2.1.symm

end Cut

/-! ## Labels that leave something open -/

/-- Chains without connectors have no edges. -/
theorem edges_of_linksOf_eq_nil {statement : List Char} (h : linksOf statement = []) :
    (Chain.read statement).edges = [] := by
  rw [← Chain.map_sense_rest_read, List.map_eq_nil_iff] at h
  rw [Chain.edges, Chain.joints, h]
  rfl

/-- If the shape is still open behind the label, no connector is found. -/
theorem linksOf_chars
    (h : line.shape.nesting.hides (line.shape.closing ++ line.arrow) line.label)
    (hopen : (line.shape.nesting.walk line.label).walk line.shape.closing ≠ .outside) :
    linksOf line.chars = [] := by
  have htop : (Nesting.outside.walk line.mention).isTop = false := by
    rw [walk_mention, ← Bool.not_eq_true]
    exact fun htop => hopen (Nesting.eq_outside htop)
  have hstep : ∀ c ∈ line.arrow,
      (Nesting.outside.walk line.mention).step c = Nesting.outside.walk line.mention := by
    intro c hc
    apply Nesting.step_of_not_isDelimiter
    rcases List.mem_append.1 hc with hc | hc
    · simp only [List.mem_cons, List.not_mem_nil, or_false] at hc
      rcases hc with rfl | rfl | rfl | rfl | rfl <;> rfl
    · exact line.target.isDelimiter_of_mem hc
  have hquiet : Nesting.outside.Quiet [] line.chars := by
    rw [chars, Nesting.quiet_append, List.append_nil]
    exact ⟨line.quiet_mention h, Nesting.quiet_of_not_isTop htop hstep []⟩
  rw [linksOf, scan, scanAfter_of_quiet hquiet, List.filterMap_eq_nil_iff]
  intro mark hmark
  obtain ⟨⟨c, top⟩, -, rfl⟩ := List.mem_map.1 hmark
  rfl

theorem edges_text_of_open
    (h : line.shape.nesting.hides (line.shape.closing ++ line.arrow) line.label)
    (hopen : (line.shape.nesting.walk line.label).walk line.shape.closing ≠ .outside) :
    (Graph.extract line.text).edges = [] := by
  have hlinks := line.linksOf_chars h hopen
  rw [← flatMap_linksOf_splitStatements, List.flatMap_eq_nil_iff] at hlinks
  rw [Graph.extract, Outline.edges_graph, outline_text, Outline.edges, List.flatMap_map,
    List.flatMap_eq_nil_iff]
  intro statement hstatement
  exact edges_of_linksOf_eq_nil (hlinks statement hstatement)

/-! ## Balanced labels -/

/-- Labels with balanced brackets and without quotes are hidden. -/
theorem isHidden_of_balanced (h : Balanced line.label) (hquote : '"' ∉ line.label) :
    line.isHidden := by
  have hpos := line.shape.length_opening_pos
  have hwalk (p : List Char) (hp : p <+: line.label) :
      line.shape.nesting.walk p =
        { depth := line.shape.opening.length + p.countP isOpening - p.countP isClosing } := by
    refine Nesting.walk_of_countP_lt (fun hmem => hquote (hp.subset hmem)) fun q hq => ?_
    have := h.closed_le q (hq.trans hp)
    omega
  rw [isHidden_iff, hwalk _ (List.prefix_refl _), h.closed_eq, Nat.add_sub_cancel]
  refine ⟨Nesting.hides_of_isTop_eq_false ?_, line.shape.walk_closing⟩
  intro p c t hlabel
  have hp : p <+: line.label := ⟨c :: t, hlabel.symm⟩
  have hdepth : line.shape.opening.length + p.countP isOpening - p.countP isClosing ≠ 0 := by
    have := h.closed_le p hp
    omega
  rw [hwalk p hp]
  simp [Nesting.isTop, hdepth]

/-! ## Reading lines with a label -/

/-- The nodes and the arrow of the line are read as they are written exactly if the label is hidden,
    and then nothing else is read. Balanced labels are hidden, whatever else is written in them. -/
theorem extract_text_iff :
    ((Graph.extract line.text).nodes = line.graph.nodes ∧
        (Graph.extract line.text).edges.map (fun edge => (edge.source, edge.target)) =
          [(line.source.name, line.target.name)] ↔ line.isHidden) ∧
      (line.isHidden → Graph.extract line.text = line.graph) ∧
      (Balanced line.label → '"' ∉ line.label → line.isHidden) := by
  refine ⟨⟨?_, fun h => ?_⟩, line.extract_text_of_isHidden, line.isHidden_of_balanced⟩
  · rintro ⟨hnodes, hedges⟩
    have hhides : line.shape.nesting.hides (line.shape.closing ++ line.arrow) line.label := by
      by_contra hcut
      obtain ⟨cut⟩ := Nesting.Cut.nonempty (Bool.eq_false_iff.2 hcut)
      refine line.notMem_entries_text cut ?_
      rw [hnodes]
      exact List.mem_cons_self
    refine line.isHidden_iff.2 ⟨hhides, ?_⟩
    by_contra hopen
    rw [line.edges_text_of_open hhides hopen] at hedges
    cases hedges
  · rw [line.extract_text_of_isHidden h]
    exact ⟨rfl, rfl⟩

/-- A list marker closes the bracket of its shape. -/
def listMarker : LabelledLine where
  source := ⟨"A", by decide, List.all_eq_true.1 (by decide)⟩
  shape := .square
  label := "1) x; y".toList
  target := ⟨"b", by decide, List.all_eq_true.1 (by decide)⟩
  ne := by decide
  oneLine := by decide
  starts := by simp [Shape.opening]

/-- Everything that could be cut stands in balanced brackets of another shape or between them. -/
def crowded : LabelledLine :=
  { listMarker with
    label := "x; (y) & z --> \x7bw\x7d".toList
    oneLine := by decide
    starts := by simp [listMarker, Shape.opening] }

theorem extract_listMarker :
    Graph.extract "A[1) x; y] --> b" ≠ listMarker.graph ∧
      Graph.extract "A[x; (y) & z --> \x7bw\x7d] --> b" = crowded.graph := by
  constructor
  · intro h
    have hshown := listMarker.extract_text_iff.1.1
    have htext : listMarker.text = "A[1) x; y] --> b" := by decide +kernel
    rw [htext, h] at hshown
    exact absurd (hshown ⟨rfl, rfl⟩) (by decide +kernel)
  · have hbalanced : Balanced crowded.label := by
      refine ⟨fun p hp => ?_, by decide +kernel⟩
      have hall : ∀ p ∈ crowded.label.inits, p.countP isClosing ≤ p.countP isOpening := by
        decide +kernel
      exact hall p ((List.mem_inits p _).2 hp)
    have hquote : '"' ∉ crowded.label := by decide +kernel
    obtain ⟨-, hextract, hhidden⟩ := crowded.extract_text_iff
    have htext : crowded.text = "A[x; (y) & z --> \x7bw\x7d] --> b" := by decide +kernel
    rw [htext] at hextract
    exact hextract (hhidden hbalanced hquote)

end LabelledLine

end Flowchart
