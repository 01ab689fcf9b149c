-- SUMMARY: Where the names and the labels of a graph come from, and that edges refer to the nodes their members mention.
import Flowchart.Proofs.Enclosure
import Flowchart.Proofs.Members
import Flowchart.Proofs.Grammar

/-!
# Where names and labels come from

Every node and every end of an edge is named by a member of a statement. The name is the word that the
member starts with, whether the member is read as a mention or as an end of edges, so that a member
which mentions a node is an end of edges for that node. The label of an edge is that of a connector of
the statement.
-/

namespace Flowchart

/-! ## Names -/

/-- A member names an identifier, as the mention of a node or as an end of edges. -/
def NamedIn (member : List Char) (id : String) : Prop :=
  (∃ mention, Mention.read? member = some mention ∧ mention.id = id) ∨ leadingId? member = some id

/-- A name is what edges refer to. -/
theorem NamedIn.leadingId? {member : List Char} {id : String} (h : NamedIn member id) :
    Flowchart.leadingId? member = some id := by
  rcases h with ⟨mention, hread, rfl⟩ | hread
  · exact (Mention.spelled_of_read? hread).leadingId?
  · exact hread

theorem id_of_leadingId? {member : List Char} {id : String} (h : leadingId? member = some id) :
    id = String.ofList (identifier (Text.trim member)) ∧ identifier (Text.trim member) ≠ [] := by
  unfold leadingId? at h
  simp only at h
  split at h
  · cases h
  · next hne =>
    rw [Bool.or_eq_true, not_or] at hne
    exact ⟨(Option.some.inj h).symm, by simpa using hne.1⟩

/-- A name is the word at the start of the trimmed member. -/
theorem NamedIn.toList_eq_identifier {member : List Char} {id : String} (h : NamedIn member id) :
    id.toList = identifier (Text.trim member) ∧ id.toList ≠ [] := by
  obtain ⟨hid, hne⟩ := id_of_leadingId? h.leadingId?
  rw [hid, String.toList_ofList]
  exact ⟨rfl, hne⟩

/-- A name is a word. -/
theorem NamedIn.isWord {member : List Char} {id : String} (h : NamedIn member id) :
    id ≠ "" ∧ ∀ c ∈ id.toList, Text.isWord c := by
  obtain ⟨hid, hne⟩ := h.toList_eq_identifier
  refine ⟨fun hempty => hne (String.toList_eq_nil_iff.2 hempty), ?_⟩
  rw [hid]
  exact fun _ => List.mem_takeWhile_imp

/-! ## Edges -/

/-- The groups on both sides of a connector are groups of the chain. -/
theorem Chain.mem_of_mem_joints {chain : Chain} {left right : Group} {link : Connector}
    (h : (left, link, right) ∈ chain.joints) :
    left ∈ chain.groups ∧ link ∈ chain.rest.map Prod.fst ∧ right ∈ chain.groups := by
  have hgo (first : Group) (rest : List (Connector × Group)) :
      (left, link, right) ∈ joints.go first rest →
        left ∈ first :: rest.map Prod.snd ∧ link ∈ rest.map Prod.fst ∧
          right ∈ first :: rest.map Prod.snd := by
    induction rest generalizing first with
    | nil => exact fun hmem => absurd hmem (by simp [joints.go])
    | cons joint rest ih =>
      intro hmem
      rcases List.mem_cons.1 hmem with heq | hmem
      · rw [Prod.mk.injEq, Prod.mk.injEq] at heq
        simp [heq]
      · obtain ⟨hleft, hlink, hright⟩ := ih _ hmem
        exact ⟨List.mem_cons_of_mem _ hleft, List.mem_cons_of_mem _ hlink,
          List.mem_cons_of_mem _ hright⟩
  exact hgo chain.first chain.rest h

/-- An edge stands in a statement, where members name its ends and a connector has its label. -/
theorem Graph.exists_of_mem_edges {source : String} {edge : Edge}
    (h : edge ∈ (Graph.extract source).edges) :
    ∃ statement ∈ statementsOf source.toList,
      (∀ id ∈ edge.ends, ∃ member ∈ (Chain.read statement).groups.flatten, NamedIn member id) ∧
        ∃ link ∈ (Chain.read statement).rest.map Prod.fst, edge.label = link.edgeLabel := by
  rw [Graph.edges_extract, sourceLines, List.flatMap_map, List.mem_flatMap] at h
  obtain ⟨line, hline, h⟩ := h
  obtain ⟨statement, hstatement, h⟩ := List.mem_flatMap.1 h
  obtain ⟨⟨left, link, right⟩, hjoint, h⟩ := List.mem_flatMap.1 h
  obtain ⟨source, hsource, h⟩ := List.mem_flatMap.1 h
  obtain ⟨target, htarget, rfl⟩ := List.mem_map.1 h
  obtain ⟨hleft, hlink, hright⟩ := Chain.mem_of_mem_joints hjoint
  have hnamed {group : Group} {id : String} (hgroup : group ∈ (Chain.read statement).groups)
      (hid : id ∈ group.endpoints) :
      ∃ member ∈ (Chain.read statement).groups.flatten, NamedIn member id := by
    obtain ⟨member, hmember, hread⟩ := List.mem_filterMap.1 hid
    exact ⟨member, List.mem_flatten.2 ⟨group, hgroup, hmember⟩, .inr hread⟩
  refine ⟨statement, List.mem_flatMap.2 ⟨line, hline, hstatement⟩, ?_, link, hlink, rfl⟩
  intro id hid
  rcases List.mem_pair.1 hid with rfl | rfl
  · exact hnamed hleft hsource
  · exact hnamed hright htarget

/-- Every node is named by a member. -/
theorem Graph.exists_of_mem_names {source id : String} (h : id ∈ (Graph.extract source).nodes.names) :
    ∃ statement ∈ statementsOf source.toList,
      ∃ member ∈ (Chain.read statement).groups.flatten, NamedIn member id := by
  rw [OrderedMap.names, Graph.entries_extract, List.map_append, List.map_map, List.map_map,
    List.mem_append, List.mem_map, List.mem_map] at h
  rcases h with ⟨mention, hmention, rfl⟩ | ⟨id, hid, rfl⟩
  · obtain ⟨member, hmember, hread⟩ :=
      List.mem_filterMap.1 ((firsts_sublist Mention.id _).subset hmention)
    obtain ⟨statement, hstatement, hmember⟩ := List.mem_flatMap.1 hmember
    exact ⟨statement, hstatement, member, hmember, .inl ⟨mention, hread, rfl⟩⟩
  · obtain ⟨edge, hedge, hid⟩ := List.mem_flatMap.1 (List.mem_filter.1 (List.mem_eraseDups.1 hid)).1
    obtain ⟨statement, hstatement, hends, -⟩ := Graph.exists_of_mem_edges hedge
    exact ⟨statement, hstatement, hends id hid⟩

/-! ## Mentions as ends of edges -/

section Ends

variable {source : String} {statement : List Char}

/-- A connector joins every end before it to every end after it. -/
theorem Graph.mem_edges_of_joint {left right : Group} {link : Connector} {origin target : String}
    (hstatement : statement ∈ statementsOf source.toList)
    (hjoint : (left, link, right) ∈ (Chain.read statement).joints)
    (horigin : origin ∈ left.endpoints) (htarget : target ∈ right.endpoints) :
    ⟨origin, target, link.edgeLabel, link.kind, link.stroke⟩ ∈ (Graph.extract source).edges := by
  obtain ⟨line, hline, hstatement⟩ := List.mem_flatMap.1 hstatement
  have hbetween : ⟨origin, target, link.edgeLabel, link.kind, link.stroke⟩ ∈
      edgesBetween left link right :=
    List.mem_flatMap.2 ⟨origin, horigin, List.mem_map_of_mem htarget⟩
  have hchain : ⟨origin, target, link.edgeLabel, link.kind, link.stroke⟩ ∈
      (Chain.read statement).edges :=
    List.mem_flatMap.2 ⟨_, hjoint, hbetween⟩
  rw [Graph.edges_extract, sourceLines, List.flatMap_map]
  exact List.mem_flatMap.2 ⟨line, hline, List.mem_flatMap.2 ⟨statement, hstatement, hchain⟩⟩

variable {group : Group} {mention : Mention}

theorem Group.mem_endpoints (h : mention ∈ group.filterMap Mention.read?) :
    mention.id ∈ group.endpoints := by
  obtain ⟨member, hmember, hread⟩ := List.mem_filterMap.1 h
  exact List.mem_filterMap.2 ⟨member, hmember, (Mention.spelled_of_read? hread).leadingId?⟩

theorem mem_mentionsOf (hstatement : statement ∈ statementsOf source.toList)
    (hgroup : group ∈ (Chain.read statement).groups) (h : mention ∈ group.filterMap Mention.read?) :
    mention ∈ mentionsOf source.toList := by
  obtain ⟨member, hmember, hread⟩ := List.mem_filterMap.1 h
  have hmembers : member ∈ membersOf source.toList :=
    List.mem_flatMap.2 ⟨statement, hstatement, List.mem_flatten.2 ⟨group, hgroup, hmember⟩⟩
  exact List.mem_filterMap.2 ⟨member, hmembers, hread⟩

end Ends

/-- A member that mentions a node is an end of edges for the identifier it mentions, whatever is
    written around the identifier and behind it. The graph has the node of the first mention for this
    end, and an edge for every connector between it and an end on the other side. -/
theorem Graph.ends_of_mentions :
    (∀ (member : List Char) (mention : Mention), Mention.read? member = some mention →
      leadingId? member = some mention.id) ∧
    ∀ source : String, ∀ statement ∈ statementsOf source.toList,
      (∀ group ∈ (Chain.read statement).groups, ∀ mention ∈ group.filterMap Mention.read?,
        mention.id ∈ group.endpoints ∧
          ∃ first, (mentionsOf source.toList).find? (·.id == mention.id) = some first ∧
            (Graph.extract source).node? mention.id = some (Node.ofMention first)) ∧
      ∀ left link right, (left, link, right) ∈ (Chain.read statement).joints →
        ∀ origin ∈ left.endpoints, ∀ target ∈ right.endpoints,
          ⟨origin, target, link.edgeLabel, link.kind, link.stroke⟩ ∈ (Graph.extract source).edges := by
  refine ⟨fun member mention h => (Mention.spelled_of_read? h).leadingId?, ?_⟩
  intro source statement hstatement
  constructor
  · intro group hgroup mention hmention
    have hmem := mem_mentionsOf hstatement hgroup hmention
    exact ⟨Group.mem_endpoints hmention, Graph.exists_node?_of_mem_mentionsOf hmem⟩
  · intro left link right hjoint origin horigin target htarget
    exact Graph.mem_edges_of_joint hstatement hjoint horigin htarget

theorem Graph.ends_of_mentions_suffixed :
    Mention.read? "A[x:::y] :::hot".toList = some ⟨"A", some "x:::y", .process⟩ ∧
      leadingId? "A[x:::y] :::hot".toList = some "A" ∧
      (∃ first, (mentionsOf "b & A[x:::y] :::hot --> C".toList).find? (·.id == "A") = some first ∧
        (Graph.extract "b & A[x:::y] :::hot --> C").node? "A" = some (Node.ofMention first)) ∧
      ⟨"A", "C", "", .arrow, .solid⟩ ∈ (Graph.extract "b & A[x:::y] :::hot --> C").edges := by
  let statement := "b & A[x:::y] :::hot --> C".toList
  let left : Group := ["b".toList, "A[x:::y] :::hot".toList]
  let mention : Mention := ⟨"A", some "x:::y", .process⟩
  have hstatement : statement ∈ statementsOf "b & A[x:::y] :::hot --> C".toList := by decide +kernel
  have hread : Mention.read? "A[x:::y] :::hot".toList = some mention := by decide +kernel
  have hgroup : left ∈ (Chain.read statement).groups := by decide +kernel
  have hmention : mention ∈ left.filterMap Mention.read? := by decide +kernel
  have hjoint : (left, ⟨.arrow, .solid, none, "--> ".toList⟩, ["C".toList]) ∈
      (Chain.read statement).joints := by decide +kernel
  obtain ⟨hends, hgraph⟩ := Graph.ends_of_mentions
  obtain ⟨hnodes, hedges⟩ := hgraph _ statement hstatement
  obtain ⟨horigin, hnode⟩ := hnodes left hgroup mention hmention
  exact ⟨hread, hends _ mention hread, hnode, hedges _ _ _ hjoint "A" horigin "C" (by decide +kernel)⟩

end Flowchart
