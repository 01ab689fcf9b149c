-- SUMMARY: Subgraphs and what they enclose: each lists the nodes that are mentioned first where it is the innermost one open.
import Mathlib.Data.List.Induction
import Flowchart.Proofs.Subgraphs

/-!
# Enclosing subgraphs

The lines of a text open and close subgraphs. Which subgraph is open innermost before a line is told
by the lines between: it is the last one whose header is followed only by subgraphs that are closed
again. The first mention of an identifier decides which subgraph lists it, if any.
-/

namespace Flowchart

/-! ## Lines with what they say -/

/-- The lines of a text as they are read. -/
def sourceLines (source : List Char) : List SourceLine :=
  (Text.lines source).map SourceLine.read

/-- The nodes that the statements of a line mention, in order. -/
def SourceLine.mentions (line : SourceLine) : List Mention :=
  (splitStatements line.statements).flatMap fun statement =>
    (Chain.read statement).members.filterMap Mention.read?

/-- The mentions of lines, each with the innermost subgraph, `opened` being open before the first
    line. -/
def placedMentions (opened : OpenSubgraphs) : List SourceLine → List (Mention × Option Nat)
  | [] => []
  | line :: lines =>
    line.mentions.map (·, opened.stack.head?) ++ placedMentions (opened.after line) lines

theorem placedMentions_append (opened : OpenSubgraphs) (front back : List SourceLine) :
    placedMentions opened (front ++ back) =
      placedMentions opened front ++
        placedMentions (front.foldl OpenSubgraphs.after opened) back := by
  induction front generalizing opened with
  | nil => rfl
  | cons line front ih => simp [placedMentions, ih]

theorem map_fst_placedMentions (opened : OpenSubgraphs) (lines : List SourceLine) :
    (placedMentions opened lines).map Prod.fst = lines.flatMap SourceLine.mentions := by
  induction lines generalizing opened with
  | nil => rfl
  | cons line lines ih => simp [placedMentions, ih, Function.comp_def]

/-- The mentions of an outline are those of the lines of its text. -/
theorem Outline.mentions_read (source : List Char) :
    (Outline.read source).mentions =
      placedMentions {} (sourceLines source) := by
  have hplaced (opened : OpenSubgraphs) (lines : List SourceLine) :
      ((placedStatements opened lines).flatMap fun statement =>
          (statement.chain.members.filterMap Mention.read?).map (·, statement.subgraph)) =
        placedMentions opened lines := by
    induction lines generalizing opened with
    | nil => rfl
    | cons line lines ih =>
      rw [placedStatements, List.flatMap_append, ih, placedMentions, SourceLine.mentions,
        List.flatMap_map, List.map_flatMap]
  exact hplaced _ _

theorem mentionsOf_eq_flatMap (source : List Char) :
    mentionsOf source = (sourceLines source).flatMap SourceLine.mentions := by
  rw [← Outline.map_fst_mentions, Outline.mentions_read, map_fst_placedMentions]

/-- The edges of the statements of a line. -/
def SourceLine.edges (line : SourceLine) : List Edge :=
  (splitStatements line.statements).flatMap fun statement => (Chain.read statement).edges

/-- The edges of a graph stand on the lines of its text. -/
theorem Graph.edges_extract (source : String) :
    (Graph.extract source).edges = (sourceLines source.toList).flatMap SourceLine.edges := by
  have hchains := map_chain_placedStatements {} (sourceLines source.toList)
  have hedges := congrArg (List.flatMap Chain.edges) hchains
  rw [List.flatMap_map, List.flatMap_map, List.flatMap_assoc] at hedges
  exact hedges

/-- The edges of a text that is one statement. -/
theorem Graph.edges_of_sourceLines {source : String} {statement : List Char}
    (hlines : sourceLines source.toList = [.body statement])
    (hsplit : splitStatements statement = [statement]) :
    (Graph.extract source).edges = (Chain.read statement).edges := by
  rw [Graph.edges_extract, hlines, List.flatMap_singleton, SourceLine.edges, SourceLine.statements,
    hsplit, List.flatMap_singleton]

/-- A mention is looked for on a line, and then on the lines after it. -/
theorem find?_placedMentions_cons (opened : OpenSubgraphs) (line : SourceLine) (lines : List SourceLine)
    (id : String) :
    (placedMentions opened (line :: lines)).find? (·.1.id == id) =
      ((line.mentions.find? (·.id == id)).map (·, opened.stack.head?)).or
        ((placedMentions (opened.after line) lines).find? (·.1.id == id)) := by
  rw [placedMentions, List.find?_append, List.find?_map]
  rfl

/-- The first mention of an identifier stands on the first line that mentions it. -/
theorem exists_find?_placedMentions {opened : OpenSubgraphs} {lines : List SourceLine} {id : String}
    {place : Option Nat} :
    (∃ mention, (placedMentions opened lines).find? (·.1.id == id) = some (mention, place)) ↔
      ∃ before line after, lines = before ++ line :: after ∧
        id ∉ (before.flatMap SourceLine.mentions).map Mention.id ∧
        id ∈ line.mentions.map Mention.id ∧
        (before.foldl OpenSubgraphs.after opened).stack.head? = place := by
  induction lines generalizing opened with
  | nil => simp [placedMentions]
  | cons line lines ih =>
    by_cases hline : id ∈ line.mentions.map Mention.id
    · obtain ⟨mention, hmention, hid⟩ := List.mem_map.1 hline
      obtain ⟨first, hfirst⟩ := Option.isSome_iff_exists.1
        (List.find?_isSome (p := (Mention.id · == id)).2 ⟨mention, hmention, by simpa using hid⟩)
      have hfind : (placedMentions opened (line :: lines)).find? (·.1.id == id) =
          some (first, opened.stack.head?) := by
        rw [find?_placedMentions_cons, hfirst]
        rfl
      rw [hfind]
      constructor
      · rintro ⟨mention, hsame⟩
        obtain ⟨rfl, rfl⟩ := Prod.mk.inj (Option.some.inj hsame)
        exact ⟨[], line, lines, rfl, by simp, hline, rfl⟩
      · rintro ⟨before, other, after, hlines, hbefore, hother, rfl⟩
        cases before with
        | nil => exact ⟨first, rfl⟩
        | cons _ before =>
          obtain ⟨rfl, -⟩ := List.cons.inj hlines
          exact absurd (by simpa using Or.inl (List.mem_map.1 hline)) hbefore
    · have hnone := (find?_name_eq_none_iff Mention.id).2 hline
      have hfind : (placedMentions opened (line :: lines)).find? (·.1.id == id) =
          (placedMentions (opened.after line) lines).find? (·.1.id == id) := by
        rw [find?_placedMentions_cons, hnone]
        rfl
      rw [hfind, ih]
      constructor
      · rintro ⟨before, other, after, rfl, hbefore, hother, rfl⟩
        refine ⟨line :: before, other, after, rfl, ?_, hother, rfl⟩
        rw [List.flatMap_cons, List.map_append, List.mem_append, not_or]
        exact ⟨hline, hbefore⟩
      · rintro ⟨before, other, after, hlines, hbefore, hother, rfl⟩
        cases before with
        | nil =>
          obtain ⟨rfl, -⟩ := List.cons.inj hlines
          exact absurd hother hline
        | cons _ before =>
          obtain ⟨rfl, rfl⟩ := List.cons.inj hlines
          rw [List.flatMap_cons, List.map_append, List.mem_append, not_or] at hbefore
          exact ⟨before, other, after, rfl, hbefore.2, hother, rfl⟩

/-! ## The innermost subgraph -/

/-- The line opens a subgraph. -/
@[simp] def SourceLine.isHeader : SourceLine → Bool
  | .subgraph _ => true
  | _ => false

/-- The line closes a subgraph. -/
@[simp] def SourceLine.isEnd : SourceLine → Bool
  | .subgraphEnd => true
  | _ => false

/-- Every header has a line. -/
theorem SourceLine.length_filterMap_header? (lines : List SourceLine) :
    (lines.filterMap SourceLine.header?).length = lines.countP SourceLine.isHeader := by
  rw [List.length_filterMap_eq_countP]
  refine List.countP_congr fun line _ => ?_
  cases line <;> simp [SourceLine.header?]

/-- The number of the subgraph that is open innermost after some lines. -/
def innermost? (lines : List SourceLine) : Option Nat :=
  (lines.foldl OpenSubgraphs.after {}).stack.head?

/-- These lines close only what they open, and leave so many subgraphs open. -/
structure LeavesOpen (number : Nat) (lines : List SourceLine) : Prop where
  ends_le : ∀ front, front <+: lines →
    front.countP SourceLine.isEnd ≤ front.countP SourceLine.isHeader
  headers_eq : lines.countP SourceLine.isHeader = lines.countP SourceLine.isEnd + number

theorem leavesOpen_nil : LeavesOpen 0 [] :=
  ⟨fun front hfront => by rw [List.prefix_nil.1 hfront]; exact Nat.le_refl 0, rfl⟩

theorem leavesOpen_concat {number : Nat} {lines : List SourceLine} {line : SourceLine} :
    LeavesOpen number (lines ++ [line]) ↔
      ∃ before, LeavesOpen before lines ∧
        before + line.isHeader.toNat = number + line.isEnd.toNat := by
  have hcount (p : SourceLine → Bool) :
      (lines ++ [line]).countP p = lines.countP p + (p line).toNat := by
    rw [List.countP_append, List.countP_singleton]
    cases p line <;> rfl
  constructor
  · rintro ⟨hle, heq⟩
    have hlines := hle lines (List.prefix_append _ _)
    rw [hcount, hcount] at heq
    refine ⟨lines.countP SourceLine.isHeader - lines.countP SourceLine.isEnd,
      ⟨?_, by omega⟩, by omega⟩
    exact fun front hfront => hle front (hfront.trans (List.prefix_append _ _))
  · rintro ⟨before, ⟨hle, heq⟩, hnumber⟩
    have hnot : line.isHeader.toNat + line.isEnd.toNat ≤ 1 := by
      cases line <;> exact Nat.le_of_ble_eq_true rfl
    refine ⟨fun front hfront => ?_, by rw [hcount, hcount]; omega⟩
    rcases List.prefix_concat_iff.1 hfront with rfl | hfront
    · rw [hcount, hcount]
      omega
    · exact hle front hfront

/-- Every subgraph that is opened is counted. -/
theorem count_foldl_after (opened : OpenSubgraphs) (lines : List SourceLine) :
    (lines.foldl OpenSubgraphs.after opened).count =
      opened.count + lines.countP SourceLine.isHeader := by
  induction lines generalizing opened with
  | nil => rfl
  | cons line lines ih =>
    rw [List.foldl_cons, ih, List.countP_cons]
    cases line <;> simp [OpenSubgraphs.after]
    omega

/-- A subgraph is open after these lines with so many others inside it: the lines behind its header
    close only what they open, and leave those others open. -/
def IsOpen (lines : List SourceLine) (depth number : Nat) : Prop :=
  ∃ front header inside, lines = front ++ .subgraph header :: inside ∧
    front.countP SourceLine.isHeader = number ∧ LeavesOpen depth inside

theorem isOpen_concat {lines : List SourceLine} {line : SourceLine} {depth number : Nat} :
    IsOpen (lines ++ [line]) depth number ↔
      (line.isHeader ∧ depth = 0 ∧ lines.countP SourceLine.isHeader = number) ∨
        ∃ before, IsOpen lines before number ∧
          before + line.isHeader.toNat = depth + line.isEnd.toNat := by
  constructor
  · rintro ⟨front, header, inside, hlines, hnumber, hinside⟩
    rcases List.eq_nil_or_concat inside with rfl | ⟨inside, last, rfl⟩
    · obtain ⟨rfl, hline⟩ := List.append_inj' hlines rfl
      obtain rfl : line = .subgraph header := by simpa using hline
      exact .inl ⟨rfl, by have := hinside.headers_eq; simp_all, hnumber⟩
    · rw [List.concat_eq_append] at hlines hinside
      rw [← List.cons_append, ← List.append_assoc] at hlines
      obtain ⟨rfl, hline⟩ := List.append_inj' hlines rfl
      obtain rfl : line = last := by simpa using hline
      obtain ⟨before, hbefore, hdepth⟩ := leavesOpen_concat.1 hinside
      exact .inr ⟨before, ⟨front, header, inside, rfl, hnumber, hbefore⟩, hdepth⟩
  · rintro (⟨hheader, rfl, hnumber⟩ | ⟨before, hopen, hdepth⟩)
    · obtain ⟨header, rfl⟩ : ∃ header, line = .subgraph header := by
        cases line <;> first | exact ⟨_, rfl⟩ | cases hheader
      exact ⟨lines, header, [], rfl, hnumber, leavesOpen_nil⟩
    · obtain ⟨front, header, inside, rfl, hnumber, hbefore⟩ := hopen
      refine ⟨front, header, inside ++ [line], by simp, hnumber, ?_⟩
      exact leavesOpen_concat.2 ⟨before, hbefore, hdepth⟩

/-- The stack holds the subgraphs that are open, innermost first. -/
theorem getElem?_stack_eq_some_iff {lines : List SourceLine} {depth number : Nat} :
    (lines.foldl OpenSubgraphs.after {}).stack[depth]? = some number ↔ IsOpen lines depth number := by
  induction lines using List.reverseRecOn generalizing depth with
  | nil => simp [IsOpen]
  | append_singleton lines line ih =>
    have hcount := count_foldl_after {} lines
    rw [List.foldl_concat, isOpen_concat]
    cases line with
    | subgraph header =>
      cases depth with
      | zero => simp [OpenSubgraphs.after, hcount]
      | succ depth => simp [OpenSubgraphs.after, ih]
    | subgraphEnd | skip | declaration _ _ | body _ => simp [OpenSubgraphs.after, ih]

/-- The innermost subgraph is the last one whose header is followed only by subgraphs that are closed
    again. -/
theorem innermost?_eq_some_iff {lines : List SourceLine} {number : Nat} :
    innermost? lines = some number ↔ IsOpen lines 0 number := by
  rw [innermost?, List.head?_eq_getElem?]
  exact getElem?_stack_eq_some_iff

/-! ## The nodes of the extracted subgraphs -/

/-- The subgraphs of a text before any node is put into them. -/
def headersOf (source : List Char) : List Subgraph :=
  ((sourceLines source).filterMap SourceLine.header?).mapIdx Subgraph.ofHeader

/-- A header lists no nodes yet. -/
theorem Subgraph.nodeIds_ofHeader (number : Nat) (header : List Char) :
    (Subgraph.ofHeader number header).nodeIds = [] := by
  unfold Subgraph.ofHeader
  simp only
  split <;> rfl

theorem nodeIds_of_mem_headersOf {source : List Char} :
    ∀ subgraph ∈ headersOf source, subgraph.nodeIds = [] := by
  intro subgraph hmem
  obtain ⟨number, hnumber, rfl⟩ := List.mem_mapIdx.1 hmem
  exact Subgraph.nodeIds_ofHeader _ _

/-- The first mentions in a text, with the subgraphs around them. -/
def firstPlacesOf (source : List Char) : List (Mention × Option Nat) :=
  firsts (·.1.id) (placedMentions {} (sourceLines source))

theorem Graph.subgraphs_extract_eq (source : String) :
    (Graph.extract source).subgraphs = (headersOf source.toList).mapIdx fun number subgraph =>
      subgraph.list (idsPlacedIn number (firstPlacesOf source.toList)) := by
  rw [Graph.extract, Outline.subgraphs_graph, Outline.mentions_read]
  rfl

/-- The first mentions are those of the defined nodes. -/
theorem map_id_firstPlacesOf (source : List Char) :
    (firstPlacesOf source).map (·.1.id) = (firsts Mention.id (mentionsOf source)).map Mention.id := by
  rw [firstPlacesOf, ← Outline.map_fst_mentions, Outline.mentions_read, firsts_map, List.map_map]
  rfl

theorem nodup_map_id_firstPlacesOf (source : List Char) :
    ((firstPlacesOf source).map (·.1.id)).Nodup := by
  rw [map_id_firstPlacesOf]
  exact nodup_map_firsts Mention.id _

theorem idsPlacedIn_sublist (number : Nat) (mentions : List (Mention × Option Nat)) :
    (idsPlacedIn number mentions).Sublist (mentions.map (·.1.id)) :=
  List.filter_sublist.map _

/-- No identifier is placed in two subgraphs. -/
theorem eq_of_mem_idsPlacedIn {source : List Char} {id : String} {number other : Nat}
    (h : id ∈ idsPlacedIn number (firstPlacesOf source))
    (hother : id ∈ idsPlacedIn other (firstPlacesOf source)) : number = other := by
  simp only [idsPlacedIn, List.mem_map, List.mem_filter, beq_iff_eq] at h hother
  obtain ⟨placed, ⟨hplaced, hnumber⟩, hid⟩ := h
  obtain ⟨placed', ⟨hplaced', hother⟩, hid'⟩ := hother
  have hsame := List.inj_on_of_nodup_map (nodup_map_id_firstPlacesOf source) hplaced hplaced'
    (hid.trans hid'.symm)
  rw [hsame, hother] at hnumber
  exact (Option.some.inj hnumber).symm

/-- An identifier is placed in the subgraph that is innermost where it is mentioned first. -/
theorem mem_idsPlacedIn_iff {source : List Char} {id : String} {number : Nat} :
    id ∈ idsPlacedIn number (firstPlacesOf source) ↔
      ∃ before line after, sourceLines source = before ++ line :: after ∧
        id ∉ (before.flatMap SourceLine.mentions).map Mention.id ∧
        id ∈ line.mentions.map Mention.id ∧ innermost? before = some number := by
  unfold innermost?
  rw [← exists_find?_placedMentions]
  simp only [idsPlacedIn, firstPlacesOf, List.mem_map, List.mem_filter, beq_iff_eq]
  constructor
  · rintro ⟨⟨mention, place⟩, ⟨hfirst, rfl⟩, rfl⟩
    exact ⟨mention, (mem_firsts_iff_find? _).1 hfirst⟩
  · rintro ⟨mention, hfind⟩
    have hid : mention.id = id := by simpa using List.find?_some hfind
    exact ⟨(mention, some number), ⟨mem_firsts_of_find? _ hfind, rfl⟩, hid⟩

/-- Statements are placed in the subgraph that is innermost before their line. -/
theorem exists_of_mem_placedStatements {opened : OpenSubgraphs} {lines : List SourceLine}
    {statement : PlacedStatement} (h : statement ∈ placedStatements opened lines) :
    ∃ before, before <+: lines ∧
      statement.subgraph = (before.foldl OpenSubgraphs.after opened).stack.head? := by
  induction lines generalizing opened with
  | nil => cases h
  | cons line lines ih =>
    rw [placedStatements, List.mem_append, List.mem_map] at h
    rcases h with ⟨text, -, rfl⟩ | h
    · exact ⟨[], List.nil_prefix, rfl⟩
    · obtain ⟨before, hbefore, hplace⟩ := ih h
      exact ⟨line :: before, List.cons_prefix_cons.2 ⟨rfl, hbefore⟩, hplace⟩

/-- The number of an open subgraph is that of one of the headers. -/
theorem IsOpen.lt_countP {before lines : List SourceLine} {depth number : Nat}
    (h : IsOpen before depth number) (hbefore : before <+: lines) :
    number < lines.countP SourceLine.isHeader := by
  obtain ⟨front, header, inside, rfl, rfl, -⟩ := h
  refine Nat.lt_of_lt_of_le ?_ (hbefore.sublist.countP_le)
  rw [List.countP_append, List.countP_cons_of_pos rfl]
  omega

namespace Graph

variable {source : String}

/-- A subgraph lists the first mentions that are placed in it. -/
theorem nodeIds_of_getElem?_subgraphs {number : Nat} {subgraph : Subgraph}
    (h : (extract source).subgraphs[number]? = some subgraph) :
    subgraph.nodeIds = idsPlacedIn number (firstPlacesOf source.toList) := by
  rw [subgraphs_extract_eq, List.getElem?_mapIdx, Option.map_eq_some_iff] at h
  obtain ⟨header, hheader, rfl⟩ := h
  have hempty := nodeIds_of_mem_headersOf header (List.mem_of_getElem? hheader)
  rw [Subgraph.list, hempty, List.nil_append]

/-- Apart from their nodes the subgraphs are as their headers name them. -/
theorem map_subgraphs_extract (source : String) :
    (extract source).subgraphs.map ({ · with nodeIds := [] }) = headersOf source.toList := by
  rw [subgraphs_extract_eq]
  apply List.ext_getElem?
  intro number
  rw [List.getElem?_map, List.getElem?_mapIdx, Option.map_map]
  cases hheader : (headersOf source.toList)[number]? with
  | none => rfl
  | some header =>
    have hempty := nodeIds_of_mem_headersOf header (List.mem_of_getElem? hheader)
    simp [Subgraph.list, ← hempty]

/-- Statements are placed in subgraphs that there are. -/
theorem lt_length_subgraphs {statement : PlacedStatement}
    (h : statement ∈ (Outline.read source.toList).statements) {number : Nat}
    (hnumber : number ∈ statement.subgraph) : number < (extract source).subgraphs.length := by
  obtain ⟨before, hbefore, hplace⟩ := exists_of_mem_placedStatements h
  rw [hplace, Option.mem_def] at hnumber
  have hlt := (innermost?_eq_some_iff.1 hnumber).lt_countP hbefore
  rw [subgraphs_extract_eq, List.length_mapIdx, headersOf, List.length_mapIdx,
    SourceLine.length_filterMap_header?]
  exact hlt

/-- A subgraph lists nodes that are mentioned, in their order. -/
theorem nodeIds_sublist {subgraph : Subgraph} (h : subgraph ∈ (extract source).subgraphs) :
    subgraph.nodeIds.Sublist ((firsts Mention.id (mentionsOf source.toList)).map Mention.id) := by
  obtain ⟨number, hnumber⟩ := List.getElem?_of_mem h
  rw [nodeIds_of_getElem?_subgraphs hnumber, ← map_id_firstPlacesOf]
  exact idsPlacedIn_sublist _ _

/-- The identifiers that are mentioned are the first names of the graph. -/
theorem map_id_firsts_sublist_names (source : String) :
    ((firsts Mention.id (mentionsOf source.toList)).map Mention.id).Sublist
      (extract source).nodes.names := by
  rw [OrderedMap.names, entries_extract, List.map_append, List.map_map]
  exact List.sublist_append_left _ _

/-- No two subgraphs list the same identifier, and none lists one twice. -/
theorem nodup_flatMap_nodeIds (source : String) :
    ((extract source).subgraphs.flatMap Subgraph.nodeIds).Nodup := by
  rw [List.nodup_flatMap]
  constructor
  · intro subgraph hmem
    exact (nodup_map_firsts Mention.id _).sublist (nodeIds_sublist hmem)
  · rw [List.pairwise_iff_getElem]
    intro i j hi hj hij id hleft hright
    rw [nodeIds_of_getElem?_subgraphs (List.getElem?_eq_getElem hi)] at hleft
    rw [nodeIds_of_getElem?_subgraphs (List.getElem?_eq_getElem hj)] at hright
    exact Nat.ne_of_lt hij (eq_of_mem_idsPlacedIn hleft hright)

end Graph

/-- The subgraphs of the extracted graph are those of the headers, in order. Each lists, in the order
    of the nodes, the identifiers that are mentioned first where it is the innermost subgraph open:
    behind its header and with all subgraphs closed that are opened in between. So every statement is
    placed in a subgraph that there is, only nodes that are mentioned are listed, and none twice. -/
theorem Graph.subgraphs_extract (source : String) :
    let graph := Graph.extract source
    let lines := (Text.lines source.toList).map SourceLine.read
    graph.subgraphs.map ({ · with nodeIds := [] }) =
        (lines.filterMap SourceLine.header?).mapIdx Subgraph.ofHeader ∧
      (∀ number subgraph, graph.subgraphs[number]? = some subgraph → ∀ id,
        (id ∈ subgraph.nodeIds ↔ ∃ before line after, lines = before ++ line :: after ∧
          id ∉ (before.flatMap SourceLine.mentions).map Mention.id ∧
          id ∈ line.mentions.map Mention.id ∧ innermost? before = some number)) ∧
      (∀ before number, innermost? before = some number ↔
        ∃ front header inside, before = front ++ .subgraph header :: inside ∧
          front.countP SourceLine.isHeader = number ∧ LeavesOpen 0 inside) ∧
      (∀ statement ∈ (Outline.read source.toList).statements, ∀ number ∈ statement.subgraph,
        number < graph.subgraphs.length) ∧
      (∀ subgraph ∈ graph.subgraphs, subgraph.nodeIds.Sublist graph.nodes.names ∧
        ∀ id ∈ subgraph.nodeIds, id ∈ (mentionsOf source.toList).map Mention.id) ∧
      (graph.subgraphs.flatMap Subgraph.nodeIds).Nodup := by
  intro graph lines
  refine ⟨Graph.map_subgraphs_extract source, ?_, fun _ _ => innermost?_eq_some_iff, ?_, ?_,
    Graph.nodup_flatMap_nodeIds source⟩
  · intro number subgraph h id
    rw [Graph.nodeIds_of_getElem?_subgraphs h]
    exact mem_idsPlacedIn_iff
  · intro statement hstatement number hnumber
    exact Graph.lt_length_subgraphs hstatement hnumber
  · intro subgraph hmem
    have hsub := Graph.nodeIds_sublist hmem
    refine ⟨hsub.trans (Graph.map_id_firsts_sublist_names source), fun id hid => ?_⟩
    exact (mem_map_firsts Mention.id).1 (hsub.subset hid)

end Flowchart
