-- SUMMARY: Reading the text of a document gives the graph that the document describes.
import Flowchart.Proofs.Document
import Flowchart.Proofs.Quotes

/-!
# Reading documents back

Line by line, the text of a document is read as what was written: a caption is quoted, so that no
scanner looks inside it, and an identifier is never taken for a keyword, since it goes on without a
blank. Items are followed by induction, with the subgraphs open around them.
-/

namespace Flowchart

/-! ## Captions -/

theorem Caption.chars_ne_nil (caption : Caption) : caption.chars ≠ [] := by
  rintro h
  exact caption.ne_empty (String.toList_eq_nil_iff.1 h)

@[simp] theorem Caption.ofList_decode_quoted (caption : Caption) :
    String.ofList (Label.decode (Label.quoted caption.chars)) = caption.text := by
  rw [Label.decode_quoted caption.chars_ne_nil caption.decode_eq]
  exact String.ofList_toList

section Captioned

variable (id : Identifier) (shape : Shape) (caption : Caption)

theorem selfContained_captioned : SelfContained (captioned id shape caption) :=
  selfContained_quoted id shape caption.chars

theorem trim_captioned : Text.trim (captioned id shape caption) = captioned id shape caption :=
  id.trim_shape shape _

theorem captioned_ne_nil : captioned id shape caption ≠ [] := by
  simp [captioned, id.chars_ne_nil]

/-- A caption is one statement and one member. -/
theorem splitStatements_captioned :
    splitStatements (captioned id shape caption) = [captioned id shape caption] := by
  have hne := captioned_ne_nil id shape caption
  rw [← trim_captioned] at hne
  rw [(selfContained_captioned id shape caption).splitStatements_eq hne, trim_captioned]

theorem Chain.read_captioned :
    Chain.read (captioned id shape caption) = ⟨[captioned id shape caption], []⟩ := by
  have hne := captioned_ne_nil id shape caption
  rw [← trim_captioned] at hne
  have hampersand : ('&', true) ∉ levels .outside (captioned id shape caption) :=
    not_mem_levels_quoted_ampersand id shape caption.chars
  rw [Chain.read_of_quiet ((selfContained_captioned id shape caption).quiet []),
    splitMembers_eq_singleton hampersand hne, trim_captioned]

theorem Mention.read?_captioned :
    Mention.read? (captioned id shape caption) =
      some ⟨id.name, some caption.text, shape.category⟩ := by
  have hinner : ∀ c ∈ (Label.quoted caption.chars).head?, c ∉ shape.opening := by
    rintro c ⟨⟩
    cases shape <;> decide
  rw [captioned, Mention.read?_shape id shape hinner, caption.ofList_decode_quoted]

theorem SourceLine.read_captioned :
    SourceLine.read (captioned id shape caption) = .body (captioned id shape caption) :=
  SourceLine.read_identifier id (by simp [shape.opening_ne_nil]) (shape.isWord_head?_opening _)
    (trim_captioned id shape caption)

end Captioned

/-! ## Arrows -/

namespace Arrow

variable (arrow : Arrow)

theorem spelled_connector : arrow.connector.Spelled := by
  unfold connector
  split
  · have := Connector.Spelled.bare arrow.spelled (List.forall_mem_nil _)
    rwa [List.append_nil] at this
  · exact .piped arrow.spelled (List.forall_mem_nil _) arrow.label.noPipe

/-- The target of an arrow does not make its connector longer. -/
theorem read?_connector :
    Connector.read? (arrow.connector.text ++ arrow.target.chars) = some arrow.connector :=
  Connector.read?_eq_some_iff.2 ⟨arrow.spelled_connector, _, rfl, arrow.target.stops _⟩

theorem text_connector_ne_nil : arrow.connector.text ≠ [] :=
  Connector.text_ne_nil arrow.read?_connector

theorem trim_chars : Text.trim arrow.chars = arrow.chars :=
  arrow.source.trim_between arrow.target _

theorem read_chars : SourceLine.read arrow.chars = .body arrow.chars := by
  refine SourceLine.read_identifier arrow.source (by simp [text_connector_ne_nil]) ?_ arrow.trim_chars
  intro c hc
  obtain ⟨rest, hrest⟩ := List.head?_eq_some_iff.1 hc
  have hread := arrow.read?_connector
  rw [hrest] at hread
  rcases Connector.head_of_read? hread with rfl | rfl <;> decide

theorem splitStatements_chars : splitStatements arrow.chars = [arrow.chars] := by
  have hne : Text.trim arrow.chars ≠ [] := by
    rw [trim_chars]
    simp [chars, arrow.source.chars_ne_nil]
  have hsplit := splitStatements_link (arrow.source.quiet _ _) (arrow.source.walk_chars _)
    arrow.read?_connector (arrow.target.quiet _ _) (by
      rw [List.mem_append, not_or]
      exact ⟨arrow.source.not_mem_levels_chars (by decide),
        arrow.target.not_mem_levels_chars (by decide)⟩) hne
  rw [← chars, trim_chars] at hsplit
  exact hsplit

theorem chain_read_chars :
    Chain.read arrow.chars = ⟨[arrow.source.chars], [(arrow.connector, [arrow.target.chars])]⟩ := by
  rw [chars, Chain.read_link (arrow.source.quiet _ _) (arrow.source.walk_chars _)
    arrow.read?_connector (arrow.target.quiet _ _), Identifier.splitMembers_chars,
    Identifier.splitMembers_chars]

theorem edgeLabel_connector : arrow.connector.edgeLabel = arrow.label.text := by
  unfold connector
  split
  · next h => exact h.symm
  · simp [Connector.edgeLabel, EdgeLabel.chars, arrow.label.decode_eq]

theorem kind_connector : arrow.connector.kind = arrow.kind := by
  unfold connector
  split <;> rfl

theorem stroke_connector : arrow.connector.stroke = arrow.stroke := by
  unfold connector
  split <;> rfl

/-- The statement of an arrow is its edge. -/
theorem edges_chain : (Chain.read arrow.chars).edges = [arrow.edge] := by
  rw [chain_read_chars]
  simp [Chain.edges, Chain.joints, Chain.joints.go, edgesBetween, Group.endpoints,
    leadingId?_identifier, edgeLabel_connector, kind_connector, stroke_connector, edge]

/-- An arrow mentions its ends. -/
theorem mentions_chain :
    (Chain.read arrow.chars).members.filterMap Mention.read? =
      [⟨arrow.source.name, none, .process⟩, ⟨arrow.target.name, none, .process⟩] := by
  rw [chain_read_chars]
  simp [Chain.members, Chain.groups, Mention.read?_identifier]

end Arrow

/-! ## Items -/

theorem SourceLine.read_subgraph (id : Identifier) (title : Caption) :
    SourceLine.read ("subgraph ".toList ++ captioned id .square title) =
      .subgraph (captioned id .square title) := by
  have hskip : Text.skipBlanks (captioned id .square title) = captioned id .square title :=
    Text.skipBlanks_of_trim (trim_captioned id .square title)
  generalize captioned id .square title = header at hskip
  have hdeclaration : afterAnyKeyword? declarationKeywords ("subgraph ".toList ++ header) = none :=
    rfl
  have hsubgraph : afterKeyword? "subgraph" ("subgraph ".toList ++ header) =
      some (Text.skipBlanks header) := rfl
  have hstart : Text.skipBlanks ("subgraph ".toList ++ header) = "subgraph ".toList ++ header := rfl
  have hcomment : isComment ("subgraph ".toList ++ header) = false := rfl
  have hempty : ("subgraph ".toList ++ header).isEmpty = false := rfl
  rw [SourceLine.read, hstart, hcomment, hempty, hdeclaration, hsubgraph, hskip]
  rfl

theorem SourceLine.read_end : SourceLine.read "end".toList = .subgraphEnd := by
  decide +kernel

/-- The header of a subgraph gives its identifier and title, whatever its number. -/
theorem Subgraph.ofHeader_captioned (number : Nat) (id : Identifier) (title : Caption) :
    Subgraph.ofHeader number (captioned id .square title) = ⟨id.name, title.text, []⟩ := by
  simp [Subgraph.ofHeader, trim_captioned, Mention.read?_captioned, Mention.shownLabel,
    title.ne_empty]

namespace Items

/-- The identifiers and titles of the subgraphs, in the order they are opened. -/
def headers : Items → List (Identifier × Caption)
  | done => []
  | node _ _ _ more => more.headers
  | subgraph id title children more => (id, title) :: (children.headers ++ more.headers)

/-- The statements of items, with the subgraphs around them. -/
def statements (opened : OpenSubgraphs) : Items → List PlacedStatement
  | done => []
  | node id category label more =>
    ⟨⟨[captioned id category.shape label], []⟩, opened.stack.head?⟩ :: more.statements opened
  | subgraph _ _ children more =>
    children.statements ⟨opened.count + 1, opened.count :: opened.stack⟩ ++
      more.statements ⟨opened.count + 1 + children.headers.length, opened.stack⟩

/-- The mentions of items, `count` subgraphs being opened before them, in the subgraph `current`. -/
def mentions (count : Nat) (current : Option Nat) : Items → List (Mention × Option Nat)
  | done => []
  | node id category label more =>
    (⟨id.name, some label.text, category⟩, current) :: more.mentions count current
  | subgraph _ _ children more =>
    children.mentions (count + 1) (some count) ++
      more.mentions (count + 1 + children.headers.length) current

theorem map_headers (items : Items) :
    (items.headers.map fun (id, title) => (⟨id.name, title.text, []⟩ : Subgraph)) =
      items.subgraphs.map ({ · with nodeIds := [] }) := by
  induction items with
  | done => rfl
  | node id category label more ih => exact ih
  | subgraph id title children more ihChildren ihMore =>
    simp only [headers, subgraphs, List.map_cons, List.map_append, ihChildren, ihMore]

/-- The lines of items as they are read. -/
def sourceLines : Items → List SourceLine
  | done => []
  | node id category label more => .body (captioned id category.shape label) :: more.sourceLines
  | subgraph id title children more =>
    .subgraph (captioned id .square title) ::
      (children.sourceLines ++ .subgraphEnd :: more.sourceLines)

theorem map_read_lines (items : Items) : items.lines.map SourceLine.read = items.sourceLines := by
  induction items with
  | done => rfl
  | node id category label more ih =>
    rw [lines, List.map_cons, SourceLine.read_captioned, ih, sourceLines]
  | subgraph id title children more ihChildren ihMore =>
    rw [lines, List.map_cons, SourceLine.read_subgraph, List.map_append, ihChildren, List.map_cons,
      SourceLine.read_end, ihMore, sourceLines]

theorem filterMap_direction?_sourceLines (items : Items) :
    items.sourceLines.filterMap SourceLine.direction? = [] := by
  induction items with
  | done => rfl
  | node id category label more ih => exact ih
  | subgraph id title children more ihChildren ihMore =>
    rw [sourceLines, List.filterMap_cons, List.filterMap_append, ihChildren]
    exact ihMore

theorem filterMap_header?_sourceLines (items : Items) :
    items.sourceLines.filterMap SourceLine.header? =
      items.headers.map fun (id, title) => captioned id .square title := by
  induction items with
  | done => rfl
  | node id category label more ih => exact ih
  | subgraph id title children more ihChildren ihMore =>
    rw [sourceLines, List.filterMap_cons, List.filterMap_append, ihChildren, headers, List.map_cons,
      List.map_append, ← ihMore]
    rfl

/-- Items leave the subgraphs open that were open before them. -/
theorem placedStatements_sourceLines (items : Items) (opened : OpenSubgraphs)
    (back : List SourceLine) :
    placedStatements opened (items.sourceLines ++ back) =
      items.statements opened ++
        placedStatements ⟨opened.count + items.headers.length, opened.stack⟩ back := by
  induction items generalizing opened back with
  | done => rfl
  | node id category label more ih =>
    have hafter : opened.after (.body (captioned id category.shape label)) = opened := rfl
    rw [sourceLines, List.cons_append, placedStatements, SourceLine.statements,
      splitStatements_captioned, hafter, ih, List.map_singleton, Chain.read_captioned]
    rfl
  | subgraph id title children more ihChildren ihMore =>
    have hcount : opened.count + 1 + children.headers.length + more.headers.length =
        opened.count + (subgraph id title children more).headers.length := by
      rw [headers, List.length_cons, List.length_append]
      omega
    rw [sourceLines, List.cons_append, placedStatements, OpenSubgraphs.after, List.append_assoc,
      ihChildren, List.cons_append, placedStatements, OpenSubgraphs.after, List.tail_cons, ihMore,
      hcount, statements, List.append_assoc]
    rfl

theorem edges_statements (items : Items) (opened : OpenSubgraphs) :
    (items.statements opened).flatMap (·.chain.edges) = [] := by
  induction items generalizing opened with
  | done => rfl
  | node id category label more ih =>
    rw [statements, List.flatMap_cons, ih]
    rfl
  | subgraph id title children more ihChildren ihMore =>
    rw [statements, List.flatMap_append, ihChildren, ihMore]
    rfl

/-- The nodes that items mention, in order. -/
theorem map_ofMention_mentions (items : Items) (count : Nat) (current : Option Nat) :
    (items.mentions count current).map (Node.ofMention ·.1) = items.nodes := by
  induction items generalizing count current with
  | done => rfl
  | node id category label more ih =>
    rw [mentions, List.map_cons, ih, nodes]
    simp [Node.ofMention, Mention.shownLabel, label.ne_empty]
  | subgraph id title children more ihChildren ihMore =>
    rw [mentions, List.map_append, ihChildren, ihMore, nodes]

theorem map_id_mentions (items : Items) (count : Nat) (current : Option Nat) :
    (items.mentions count current).map (·.1.id) = items.nodes.map Node.id := by
  rw [← map_ofMention_mentions items count current, List.map_map]
  rfl

theorem mentions_statements (items : Items) (opened : OpenSubgraphs) :
    ((items.statements opened).flatMap fun statement =>
        (statement.chain.members.filterMap Mention.read?).map (·, statement.subgraph)) =
      items.mentions opened.count opened.stack.head? := by
  induction items generalizing opened with
  | done => rfl
  | node id category label more ih =>
    rw [statements, List.flatMap_cons, ih]
    simp [mentions, Chain.members, Chain.groups, Mention.read?_captioned]
  | subgraph id title children more ihChildren ihMore =>
    rw [statements, List.flatMap_append, ihChildren, ihMore]
    rfl

/-- Nodes are placed in the subgraph around the items or in one that the items open. -/
theorem idsPlacedIn_of_ne (items : Items) {count number : Nat} {current : Option Nat}
    (hcurrent : current ≠ some number)
    (hnumber : number < count ∨ count + items.headers.length ≤ number) :
    idsPlacedIn number (items.mentions count current) = [] := by
  induction items generalizing count current with
  | done => rfl
  | node id category label more ih =>
    rw [mentions, idsPlacedIn_cons, if_neg hcurrent]
    exact ih hcurrent hnumber
  | subgraph id title children more ihChildren ihMore =>
    rw [headers, List.length_cons, List.length_append] at hnumber
    have hcount : some count ≠ some number := by
      rw [ne_eq, Option.some.injEq]
      omega
    rw [mentions, idsPlacedIn_append, ihChildren hcount (by omega), ihMore hcurrent (by omega)]
    rfl

/-- The nodes that stand in no further subgraph are placed in the one around the items. -/
theorem idsPlacedIn_current (items : Items) {count current : Nat} (h : current < count) :
    idsPlacedIn current (items.mentions count (some current)) = items.memberIds := by
  induction items generalizing count with
  | done => rfl
  | node id category label more ih =>
    rw [mentions, idsPlacedIn_cons, if_pos rfl, ih h, memberIds]
  | subgraph id title children more ihChildren ihMore =>
    rw [mentions, idsPlacedIn_append, children.idsPlacedIn_of_ne _ (by omega), ihMore (by omega),
      List.nil_append, memberIds]
    rw [ne_eq, Option.some.injEq]
    omega

/-- The nodes placed in the subgraphs that items open are the members of these. -/
theorem map_idsPlacedIn_mentions (items : Items) {count : Nat} {current : Option Nat}
    (hcurrent : ∀ number ∈ current, number < count) :
    (List.range' count items.headers.length).map
        (fun number => idsPlacedIn number (items.mentions count current)) =
      items.subgraphs.map Subgraph.nodeIds := by
  induction items generalizing count current with
  | done => rfl
  | node id category label more ih =>
    rw [subgraphs, ← ih hcurrent]
    refine List.map_congr_left fun number hnumber => ?_
    rw [mentions, idsPlacedIn_cons, if_neg]
    rintro rfl
    have := hcurrent number rfl
    have := (List.mem_range'_1.1 hnumber).1
    omega
  | subgraph id title children more ihChildren ihMore =>
    have hlt : ∀ number ∈ current, number < count + 1 + children.headers.length := by
      intro number hnumber
      have := hcurrent number hnumber
      omega
    rw [headers, List.length_cons, List.length_append, List.range'_succ, ← List.range'_append_1,
      List.map_cons, List.map_append, subgraphs, List.map_cons, List.map_append]
    congr 1
    · rw [mentions, idsPlacedIn_append, children.idsPlacedIn_current (Nat.lt_succ_self count),
        more.idsPlacedIn_of_ne (fun h => absurd (hcurrent count h) (Nat.lt_irrefl count))
          (by omega), List.append_nil]
    congr 1
    · rw [← ihChildren (show ∀ number ∈ some count, number < count + 1 by simp)]
      refine List.map_congr_left fun number hnumber => ?_
      have hrange := List.mem_range'_1.1 hnumber
      rw [mentions, idsPlacedIn_append, more.idsPlacedIn_of_ne _ (by omega), List.append_nil]
      rintro rfl
      have := hcurrent number rfl
      omega
    · rw [← ihMore hlt]
      refine List.map_congr_left fun number hnumber => ?_
      have hrange := List.mem_range'_1.1 hnumber
      rw [mentions, idsPlacedIn_append, children.idsPlacedIn_of_ne _ (by omega), List.nil_append]
      rw [ne_eq, Option.some.injEq]
      omega

end Items

/-! ## Lines -/

/-- A text that is kept whole as a line: no line feed in it and no white space at its end. -/
def IsWholeLine (line : List Char) : Prop :=
  line ≠ [] ∧ '\n' ∉ line ∧ ∀ c ∈ line.getLast?, Text.isWhite c = false

instance : DecidablePred IsWholeLine :=
  fun line => decidable_of_iff
    (line ≠ [] ∧ '\n' ∉ line ∧ line.getLast?.all (!Text.isWhite ·)) (by
      simp only [IsWholeLine, Option.all_eq_true, Bool.not_eq_true', Option.mem_def])

theorem Text.lines_of_isWholeLine {lines : List (List Char)} (h : ∀ line ∈ lines, IsWholeLine line) :
    Text.lines (lines.flatMap (· ++ ['\n'])) = lines := by
  refine Text.lines_flatMap fun line hline => ?_
  obtain ⟨hne, hfeed, hlast⟩ := h line hline
  exact ⟨hne, hfeed, fun hreturn => absurd (hlast _ hreturn) (by decide)⟩

theorem isWholeLine_captioned (id : Identifier) (shape : Shape) (caption : Caption) :
    IsWholeLine (captioned id shape caption) := by
  refine ⟨captioned_ne_nil id shape caption, ?_, ?_⟩
  · have hquoted : '\n' ∉ Label.quoted caption.chars := by
      intro h
      rw [Label.quoted, List.mem_cons, List.mem_append] at h
      rcases h with h | h | h
      · exact absurd h (by decide)
      · rcases Label.mem_of_mem_escapeQuotes h with h | ⟨h, -⟩
        · exact absurd h (by decide)
        · exact caption.oneLine h
      · exact absurd h (by decide)
    have hshape : '\n' ∉ shape.opening ∧ '\n' ∉ shape.closing := by cases shape <;> decide
    simp [captioned, id.feed_notMem, hquoted, hshape]
  · have hlast := Text.isWhite_getLast?_trimEnd (Text.trimStart (captioned id shape caption))
    rwa [← Text.trim, trim_captioned] at hlast

theorem isWholeLine_append {front line : List Char} (hfront : '\n' ∉ front)
    (h : IsWholeLine line) : IsWholeLine (front ++ line) := by
  obtain ⟨hne, hfeed, hlast⟩ := h
  refine ⟨by simp [hne], by simp [hfront, hfeed], ?_⟩
  rwa [List.getLast?_append_of_ne_nil _ hne]

theorem Items.isWholeLine_of_mem_lines {items : Items} :
    ∀ line ∈ items.lines, IsWholeLine line := by
  induction items with
  | done => simp [lines]
  | node id category label more ih =>
    exact List.forall_mem_cons.2 ⟨isWholeLine_captioned id _ label, ih⟩
  | subgraph id title children more ihChildren ihMore =>
    have hend : IsWholeLine "end".toList := by decide
    have hheader : IsWholeLine ("subgraph ".toList ++ captioned id .square title) :=
      isWholeLine_append (by decide) (isWholeLine_captioned id _ title)
    rw [lines, List.forall_mem_cons, List.forall_mem_append, List.forall_mem_cons]
    exact ⟨hheader, ihChildren, hend, ihMore⟩

/-- The tokens of connectors are on one line. -/
theorem Arrow.isWholeLine_chars (arrow : Arrow) : IsWholeLine arrow.chars := by
  have htarget : IsWholeLine arrow.target.chars :=
    ⟨arrow.target.chars_ne_nil, arrow.target.feed_notMem,
      fun c hc => arrow.target.isWhite_of_mem (List.mem_of_mem_getLast? hc)⟩
  have htoken : '\n' ∉ arrow.token := fun h =>
    absurd (Connector.isWhite_of_mem_token arrow.spelled _ h) (by decide)
  have hconnector : '\n' ∉ arrow.connector.text := by
    unfold connector
    split
    · exact htoken
    · simp [htoken, EdgeLabel.chars, arrow.label.oneLine]
  exact isWholeLine_append arrow.source.feed_notMem (isWholeLine_append hconnector htarget)

/-- All ways to write a direction are read as that direction. -/
theorem Direction.read_code (direction : Direction) :
    ∀ code ∈ direction.codes, IsWholeLine ("flowchart ".toList ++ code) ∧
      SourceLine.read ("flowchart ".toList ++ code) = .declaration (some direction) [] := by
  cases direction <;> decide +kernel

/-! ## Documents -/

namespace Document

variable (doc : Document)

theorem lines_text : Text.lines doc.text.toList = doc.lines := by
  rw [text, String.toList_ofList, Text.lines_of_isWholeLine]
  rw [lines, List.forall_mem_cons, List.forall_mem_append]
  refine ⟨?_, ?_, ?_⟩
  · exact (doc.direction.read_code doc.code doc.code_mem).1
  · exact Items.isWholeLine_of_mem_lines
  · intro line hline
    obtain ⟨arrow, -, rfl⟩ := List.mem_map.1 hline
    exact arrow.isWholeLine_chars

/-- Every line is read as what it was written for. -/
theorem map_read_lines :
    doc.lines.map SourceLine.read =
      .declaration (some doc.direction) [] ::
        (doc.items.sourceLines ++ doc.arrows.map (.body ·.chars)) := by
  rw [lines, List.map_cons, (doc.direction.read_code doc.code doc.code_mem).2, List.map_append,
    Items.map_read_lines, List.map_map]
  congr 2
  exact List.map_congr_left fun arrow _ => arrow.read_chars

/-- Arrows stand in no subgraph. -/
theorem placedStatements_arrows {opened : OpenSubgraphs} (hopened : opened.stack = [])
    (arrows : List Arrow) :
    placedStatements opened (arrows.map (.body ·.chars)) =
      arrows.map fun arrow => ⟨Chain.read arrow.chars, none⟩ := by
  induction arrows with
  | nil => rfl
  | cons arrow arrows ih =>
    have hafter : opened.after (.body arrow.chars) = opened := rfl
    rw [List.map_cons, placedStatements, SourceLine.statements, arrow.splitStatements_chars, hafter,
      ih, hopened]
    rfl

/-- The outline of the text of a document. -/
theorem outline_text :
    Outline.read doc.text.toList =
      ⟨doc.direction, doc.items.headers.map fun (id, title) => ⟨id.name, title.text, []⟩,
        doc.items.statements {} ++ doc.arrows.map fun arrow => ⟨Chain.read arrow.chars, none⟩⟩ := by
  have hbodies {β : Type} (f : SourceLine → Option β) (hf : ∀ s, f (.body s) = none) :
      (doc.arrows.map (SourceLine.body ·.chars)).filterMap f = [] := by
    simp [List.filterMap_map, hf]
  have hdirection : (doc.lines.map SourceLine.read).filterMap SourceLine.direction? =
      [doc.direction] := by
    rw [doc.map_read_lines, List.filterMap_cons, List.filterMap_append, hbodies _ fun _ => rfl,
      Items.filterMap_direction?_sourceLines]
    rfl
  have hheaders : ((doc.lines.map SourceLine.read).filterMap SourceLine.header?).mapIdx
      Subgraph.ofHeader = doc.items.headers.map fun (id, title) => ⟨id.name, title.text, []⟩ := by
    rw [doc.map_read_lines, List.filterMap_cons, List.filterMap_append, hbodies _ fun _ => rfl,
      Items.filterMap_header?_sourceLines, List.append_nil]
    refine List.ext_getElem? fun number => ?_
    simp [SourceLine.header?, Function.comp_def, Subgraph.ofHeader_captioned]
  have hstatements : placedStatements {} (doc.lines.map SourceLine.read) =
      doc.items.statements {} ++
        doc.arrows.map fun arrow => ⟨Chain.read arrow.chars, none⟩ := by
    rw [doc.map_read_lines, placedStatements, Items.placedStatements_sourceLines,
      placedStatements_arrows rfl]
    rfl
  simp only [Outline.read, doc.lines_text, hdirection, hheaders, hstatements]
  rfl

/-- The mentions of a document: those of the items and the ends of the arrows. -/
theorem mentions_text :
    (Outline.read doc.text.toList).mentions =
      doc.items.mentions 0 none ++
        (doc.arrows.flatMap fun arrow => [arrow.source.name, arrow.target.name]).map
          fun id => (⟨id, none, .process⟩, none) := by
  rw [outline_text, Outline.mentions, List.flatMap_append, Items.mentions_statements,
    List.flatMap_map, List.map_flatMap]
  simp only [Arrow.mentions_chain]
  rfl

theorem edges_text :
    (Graph.extract doc.text).edges = doc.arrows.map Arrow.edge := by
  rw [Graph.extract, Outline.edges_graph, outline_text, Outline.edges, List.flatMap_append,
    Items.edges_statements, List.flatMap_map]
  simp only [Arrow.edges_chain, List.nil_append]
  exact List.map_eq_flatMap.symm

/-- No identifier is mentioned twice in the items, so that only further ends of arrows come first
    behind them. -/
theorem firsts_mentions :
    firsts (fun placed : Mention × Option Nat => placed.1.id) (Outline.read doc.text.toList).mentions =
      doc.items.mentions 0 none ++ doc.looseEnds.map fun id => (⟨id, none, .process⟩, none) := by
  have hnodup := doc.nodup_ids
  rw [← Items.map_id_mentions doc.items 0 none] at hnodup
  rw [mentions_text, firsts_append, firsts_eq_self _ hnodup, List.filter_map, firsts_map,
    Items.map_id_mentions]
  rfl

/-- The nodes of the text of a document. -/
theorem entries_text :
    (Graph.extract doc.text).nodes.entries = doc.nodes.map fun node => (node.id, node) := by
  have hmentions := Outline.map_fst_mentions doc.text.toList
  have hfirsts : firsts Mention.id (mentionsOf doc.text.toList) =
      (doc.items.mentions 0 none).map Prod.fst ++
        doc.looseEnds.map fun id => ⟨id, none, .process⟩ := by
    have hplaced : firsts Mention.id (mentionsOf doc.text.toList) =
        (firsts (fun placed : Mention × Option Nat => placed.1.id)
          (Outline.read doc.text.toList).mentions).map Prod.fst := by
      rw [← hmentions, firsts_map]
      rfl
    rw [hplaced, firsts_mentions, List.map_append, List.map_map]
    rfl
  have hends : ((Graph.extract doc.text).edges.flatMap Edge.ends).filter
      (· ∉ (mentionsOf doc.text.toList).map Mention.id) = [] := by
    rw [List.filter_eq_nil_iff, edges_text, ← hmentions, mentions_text, List.flatMap_map,
      List.map_append, List.map_append]
    intro id hid
    rw [decide_eq_true_eq, not_not, List.mem_append]
    refine .inr ?_
    simpa [Function.comp_def, Edge.ends, Arrow.edge] using hid
  rw [Graph.entries_extract, hfirsts, hends, nodes, ← doc.items.map_ofMention_mentions 0 none]
  simp [Node.ofMention, Mention.shownLabel, Function.comp_def]

/-- The subgraphs of the text of a document. -/
theorem subgraphs_text : (Graph.extract doc.text).subgraphs = doc.items.subgraphs := by
  have hloose (number : Nat) (ids : List String) :
      idsPlacedIn number (ids.map fun id => (⟨id, none, .process⟩, none)) = [] := by
    simp [idsPlacedIn]
  have hmembers := doc.items.map_idsPlacedIn_mentions
    (show ∀ number ∈ (none : Option Nat), number < 0 by simp)
  have hlength : doc.items.headers.length = doc.items.subgraphs.length := by
    simpa using congrArg List.length doc.items.map_headers
  rw [Graph.extract, Outline.subgraphs_graph, firsts_mentions, outline_text, Items.map_headers]
  refine List.ext_getElem (by simp) fun number hleft hright => ?_
  have hids : idsPlacedIn number (doc.items.mentions 0 none) =
      (doc.items.subgraphs[number]).nodeIds := by
    have := List.getElem_of_eq hmembers (i := number) (by simpa [hlength] using hright)
    simpa using this
  simp [idsPlacedIn_append, hloose, hids, Subgraph.list]

/-- Reading the text of a document gives the graph that the document describes. -/
theorem extract_text : Graph.extract doc.text = doc.graph := by
  refine Graph.eq_of_fields ?_ doc.entries_text doc.edges_text doc.subgraphs_text
  rw [Graph.extract, Outline.direction_graph, outline_text]
  rfl

/-- A document whose identifiers are keywords and whose labels hold separators. -/
def keywords : Document where
  direction := .topDown
  code := ['T', 'B']
  code_mem := by decide
  items :=
    .subgraph ⟨"end", by decide, List.all_eq_true.1 (by decide)⟩
      ⟨"a; b --> c", by decide, by decide +kernel, by decide⟩
      (.node ⟨"graph", by decide, List.all_eq_true.1 (by decide)⟩ .decision
        ⟨"x \"&\" (y:::z|", by decide, by decide +kernel, by decide⟩ .done)
      .done
  nodup_ids := by decide
  arrows :=
    [⟨⟨"end", by decide, List.all_eq_true.1 (by decide)⟩,
      ⟨"class", by decide, List.all_eq_true.1 (by decide)⟩, .arrow, .thick, ['=', '=', '>'],
      .thickArrow (Nat.le_refl 2), ⟨"]p;", by decide +kernel, by decide, by decide⟩⟩]

example : keywords.text =
    "flowchart TB\nsubgraph end[\"a; b --> c\"]\ngraph\x7b\"x #quot;&#quot; (y:::z|\"\x7d\nend\nend==>|]p;|class\n" := by
  decide +kernel

end Document

end Flowchart
