-- SUMMARY: Text written under a diagram adds to its graph and takes nothing back.
import Flowchart.Proofs.Enclosure
import Flowchart.Proofs.Lines

/-!
# Appending text

The lines of a text stay what they are when more lines are written under them: nothing that is left
open in a line reaches into the next one. So the edges and the definitions of the first text are
kept, in front of those of the second. What may change of the graph of the first text are its
placeholders, which can be defined by the second, and the subgraphs it leaves open, which go on
listing nodes.
-/

namespace Flowchart

/-! ## Lines -/

/-- A line feed at the end of a text ends its last line, or leaves an empty line. -/
theorem Text.lines_concat_feed {s : List Char} (h : s.getLast? ≠ some '\r') :
    lines (s ++ ['\n']) = lines s ∨ lines (s ++ ['\n']) = lines s ++ [[]] := by
  fun_induction lines s with
  | case1 => exact .inr rfl
  | case2 rest ih =>
    rw [List.cons_append, lines]
    exact (ih (getLast?_ne_of_cons h)).imp (congrArg _) (congrArg _)
  | case3 rest ih =>
    rw [List.cons_append, List.cons_append, lines]
    exact (ih (getLast?_ne_of_cons (getLast?_ne_of_cons h))).imp (congrArg _) (congrArg _)
  | case4 c rest hfeed hreturn hnil ih =>
    obtain rfl := lines_eq_nil_iff.1 hnil
    refine .inl ?_
    rw [List.cons_append, List.nil_append, lines_cons hfeed fun hc => absurd (by rw [hc]; rfl) h]
    rfl
  | case5 c rest hfeed hreturn line more hlines ih =>
    have hne : rest ≠ [] := by
      rintro rfl
      cases hlines
    have hhead : c = '\r' → (rest ++ ['\n']).head? ≠ some '\n' := by
      rintro rfl hd
      rw [List.head?_append_of_ne_nil _ hne] at hd
      obtain ⟨rest, rfl⟩ := List.head?_eq_some_iff.1 hd
      exact hreturn rest rfl rfl
    rw [List.cons_append, lines_cons hfeed hhead]
    rcases ih (getLast?_ne_of_cons h) with h' | h'
    · exact .inl (by simp [h', hlines])
    · exact .inr (by simp [h', hlines])

/-- The lines of two texts under each other, with at most empty lines between them. -/
theorem sourceLines_append {first : List Char} (h : first.getLast? ≠ some '\r')
    (second : List Char) :
    ∃ blank, (∀ line ∈ blank, line = .skip) ∧
      sourceLines (first ++ '\n' :: second) =
        sourceLines first ++ (blank ++ sourceLines second) := by
  have hend : ∀ c ∈ (first ++ ['\n']).getLast?, c = '\n' := by simp
  have hlines := Text.lines_append hend second
  rw [List.append_assoc, List.singleton_append] at hlines
  rcases Text.lines_concat_feed h with hfirst | hfirst
  · refine ⟨[], by simp, ?_⟩
    rw [sourceLines, hlines, hfirst, List.map_append]
    rfl
  · refine ⟨[.skip], by simp, ?_⟩
    rw [sourceLines, hlines, hfirst, List.map_append, List.map_append, List.append_assoc]
    rfl

/-! ## What both texts say -/

section Append

variable {first : List Char} (h : first.getLast? ≠ some '\r') (second : List Char)

include h

/-- What is said line by line is said by the first text and then by the second. -/
theorem flatMap_sourceLines_append {α : Type} (f : SourceLine → List α) (hskip : f .skip = []) :
    (sourceLines (first ++ '\n' :: second)).flatMap f =
      (sourceLines first).flatMap f ++ (sourceLines second).flatMap f := by
  obtain ⟨blank, hblank, hlines⟩ := sourceLines_append h second
  have hnothing : blank.flatMap f = [] := by
    rw [List.flatMap_eq_nil_iff]
    intro line hline
    rw [hblank line hline, hskip]
  rw [hlines, List.flatMap_append, List.flatMap_append, hnothing, List.nil_append]

theorem mentionsOf_append :
    mentionsOf (first ++ '\n' :: second) = mentionsOf first ++ mentionsOf second := by
  simp only [mentionsOf_eq_flatMap]
  exact flatMap_sourceLines_append h second _ rfl

/-- The first mentions of the first text stay the first. -/
theorem firstPlacesOf_prefix : firstPlacesOf first <+: firstPlacesOf (first ++ '\n' :: second) := by
  obtain ⟨blank, -, hlines⟩ := sourceLines_append h second
  rw [firstPlacesOf, firstPlacesOf, hlines, placedMentions_append, firsts_append]
  exact List.prefix_append _ _

/-- The headers of the first text stay the first, with their numbers. -/
theorem headersOf_prefix : headersOf first <+: headersOf (first ++ '\n' :: second) := by
  obtain ⟨blank, -, hlines⟩ := sourceLines_append h second
  rw [headersOf, headersOf, hlines, List.filterMap_append, List.mapIdx_append]
  exact List.prefix_append _ _

end Append

/-! ## The graph of both texts -/

namespace Graph

/-- An end of an edge that nothing mentions has a placeholder. -/
theorem node?_of_notMem_mentions {source : String} {edge : Edge} {id : String}
    (hedge : edge ∈ (extract source).edges) (hid : id ∈ edge.ends)
    (h : id ∉ (mentionsOf source.toList).map Mention.id) :
    (extract source).node? id = some (.placeholder id) := by
  apply OrderedMap.get?_of_mem
  rw [entries_extract, List.mem_append, List.mem_map, List.mem_map]
  refine .inr ⟨id, ?_, rfl⟩
  rw [List.mem_eraseDups, List.mem_filter]
  exact ⟨List.mem_flatMap.2 ⟨edge, hedge, hid⟩, by simpa using h⟩

/-- A node that nothing mentions is an end of an edge. -/
theorem exists_edge_of_notMem_mentions {source : String} {id : String}
    (hid : id ∈ (extract source).nodes.names) (h : id ∉ (mentionsOf source.toList).map Mention.id) :
    ∃ edge ∈ (extract source).edges, id ∈ edge.ends := by
  rw [OrderedMap.names, entries_extract, List.map_append, List.map_map, List.map_map,
    List.mem_append] at hid
  rcases hid with hid | hid
  · exact absurd ((mem_map_firsts Mention.id).1 hid) h
  · obtain ⟨end_, hend, rfl⟩ := List.mem_map.1 hid
    rw [List.mem_eraseDups, List.mem_filter] at hend
    exact List.mem_flatMap.1 hend.1

/-- The nodes that a text mentions are the first of its nodes. -/
theorem filter_entries_extract (source : String) :
    (extract source).nodes.entries.filter (·.1 ∈ (mentionsOf source.toList).map Mention.id) =
      (firsts Mention.id (mentionsOf source.toList)).map fun mention =>
        (mention.id, Node.ofMention mention) := by
  rw [entries_extract, List.filter_append, List.filter_eq_self.2, List.filter_eq_nil_iff.2,
    List.append_nil]
  · intro entry hentry
    obtain ⟨id, hid, rfl⟩ := List.mem_map.1 hentry
    rw [List.mem_eraseDups, List.mem_filter] at hid
    simpa using hid.2
  · intro entry hentry
    obtain ⟨mention, hmention, rfl⟩ := List.mem_map.1 hentry
    have hmem := (firsts_sublist Mention.id _).subset hmention
    simpa using ⟨mention, hmem, rfl⟩

/-- Appending lines to a text, which does not end within a line break, keeps what was extracted from
    it. The edges of the second text come behind those of the first. The nodes that the first text
    mentions stay the first nodes. A placeholder stays a node, and is one with a definition only if
    the second text gives it. The subgraphs stay the first subgraphs, and what they list is listed
    before anything that the second text adds. -/
theorem extract_append (first second : String) (h : first.toList.getLast? ≠ some '\r') :
    (extract (first ++ "\n" ++ second)).edges = (extract first).edges ++ (extract second).edges ∧
      (extract first).nodes.entries.filter (·.1 ∈ (mentionsOf first.toList).map Mention.id) <+:
        (extract (first ++ "\n" ++ second)).nodes.entries ∧
      (∀ id ∈ (extract first).nodes.names, id ∉ (mentionsOf first.toList).map Mention.id →
        (id ∉ (mentionsOf second.toList).map Mention.id ∧
          (extract (first ++ "\n" ++ second)).node? id = some (.placeholder id)) ∨
        ∃ mention, (mentionsOf second.toList).find? (·.id == id) = some mention ∧
          (extract (first ++ "\n" ++ second)).node? id = some (Node.ofMention mention)) ∧
      ∀ (number : Nat) (subgraph : Subgraph), (extract first).subgraphs[number]? = some subgraph →
        ∃ grown : Subgraph, (extract (first ++ "\n" ++ second)).subgraphs[number]? = some grown ∧
          grown.id = subgraph.id ∧ grown.label = subgraph.label ∧
            subgraph.nodeIds <+: grown.nodeIds := by
  have htext : (first ++ "\n" ++ second).toList = first.toList ++ '\n' :: second.toList := by simp
  have hmentions := mentionsOf_append h second.toList
  rw [← htext] at hmentions
  have hedges : (extract (first ++ "\n" ++ second)).edges =
      (extract first).edges ++ (extract second).edges := by
    rw [edges_extract, edges_extract, edges_extract, htext]
    exact flatMap_sourceLines_append h _ _ rfl
  refine ⟨hedges, ?_, ?_, ?_⟩
  · rw [filter_entries_extract, entries_extract, hmentions, firsts_append, List.map_append,
      List.append_assoc]
    exact List.prefix_append _ _
  · intro id hid hmentioned
    obtain ⟨edge, hedge, hend⟩ := exists_edge_of_notMem_mentions hid hmentioned
    cases hfind : (mentionsOf second.toList).find? (·.id == id) with
    | none =>
      have hsecond := (find?_name_eq_none_iff Mention.id).1 hfind
      have hkept : edge ∈ (extract (first ++ "\n" ++ second)).edges := by
        rw [hedges]
        exact List.mem_append_left _ hedge
      refine .inl ⟨hsecond, node?_of_notMem_mentions hkept hend ?_⟩
      rw [hmentions, List.map_append, List.mem_append, not_or]
      exact ⟨hmentioned, hsecond⟩
    | some mention =>
      have hfirst := (find?_name_eq_none_iff Mention.id).2 hmentioned
      refine .inr ⟨mention, rfl, node?_of_find? ?_⟩
      rw [hmentions, List.find?_append, hfirst, hfind]
      rfl
  · intro number subgraph hsubgraph
    obtain ⟨more, hheaders⟩ := headersOf_prefix h second.toList
    obtain ⟨later, hplaces⟩ := firstPlacesOf_prefix h second.toList
    rw [subgraphs_extract_eq, List.getElem?_mapIdx, Option.map_eq_some_iff] at hsubgraph
    obtain ⟨header, hheader, rfl⟩ := hsubgraph
    have hlt := (List.getElem?_eq_some_iff.1 hheader).1
    refine ⟨header.list (idsPlacedIn number (firstPlacesOf (first ++ "\n" ++ second).toList)),
      ?_, rfl, rfl, ?_⟩
    · rw [subgraphs_extract_eq, List.getElem?_mapIdx, htext, ← hheaders,
        List.getElem?_append_left hlt, hheader]
      rfl
    · rw [htext, ← hplaces, idsPlacedIn_append, Subgraph.list_append]
      exact List.prefix_append _ _

/-- A bracket that is left open ends with its line, and a subgraph that is left open lists what is
    written under it. A placeholder is defined later. -/
theorem extract_append_unterminated :
    "subgraph S\nA --> D(z".toList.getLast? ≠ some '\r' ∧
      (extract ("subgraph S\nA --> D(z" ++ "\n" ++ "D[y] --> B")).edges =
        (extract "subgraph S\nA --> D(z").edges ++ (extract "D[y] --> B").edges ∧
      (extract ("subgraph S\nA --> D(z" ++ "\n" ++ "D[y] --> B")).node? "D" =
        some ⟨"D", "y", .process⟩ ∧
      ∃ grown : Subgraph,
        (extract ("subgraph S\nA --> D(z" ++ "\n" ++ "D[y] --> B")).subgraphs[0]? = some grown ∧
          ["A"] <+: grown.nodeIds := by
  have h : "subgraph S\nA --> D(z".toList.getLast? ≠ some '\r' := by decide +kernel
  obtain ⟨hedges, -, hplaceholders, hsubgraphs⟩ :=
    extract_append "subgraph S\nA --> D(z" "D[y] --> B" h
  have hfind : (mentionsOf "D[y] --> B".toList).find? (·.id == "D") =
      some ⟨"D", some "y", .process⟩ := by decide +kernel
  have hstart : (extract "subgraph S\nA --> D(z").subgraphs[0]? = some ⟨"S", "S", ["A"]⟩ := by
    decide +kernel
  refine ⟨h, hedges, ?_, ?_⟩
  · have hdefined := hplaceholders "D" (by decide +kernel) (by decide +kernel)
    rcases hdefined with ⟨hnone, -⟩ | ⟨mention, hsome, hnode⟩
    · exact absurd (by decide +kernel) hnone
    · rw [hfind] at hsome
      rw [hnode, ← Option.some.inj hsome]
      rfl
  · obtain ⟨grown, hgrown, -, -, hids⟩ := hsubgraphs 0 _ hstart
    exact ⟨grown, hgrown, hids⟩

end Graph

end Flowchart
