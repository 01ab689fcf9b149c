-- SUMMARY: Splitting a text at semicolons, connectors and ampersands takes it apart without losing anything.
import Mathlib.Data.List.Forall2
import Flowchart.Extract
import Flowchart.Proofs.Separation

/-!
# Taking texts apart

A scan goes through a text from place to place: past a character, or past a whole connector where one
starts at the top level. Every place is a boundary between characters, behind the one before. Statements
are what is between the semicolons at top-level places, segments are what is between the connectors, and
members are what is between top-level ampersands. Put together again with what is between them, the parts
are the text.
-/

namespace Flowchart

/-! ## Places -/

/-- The places of a text that a scan comes to: what has been read there, what is open, and what is left
    to read. -/
inductive Reached (s : List Char) : List Char → Nesting → List Char → Prop
  | start : Reached s [] .outside s
  | char {before after : List Char} {nesting : Nesting} {c : Char}
      (hreached : Reached s before nesting (c :: after))
      (hno : nesting.isTop → Connector.read? (c :: after) = none) :
      Reached s (before ++ [c]) (nesting.step c) after
  | link {before after : List Char} {nesting : Nesting} {connector : Connector}
      (hreached : Reached s before nesting (connector.text ++ after)) (htop : nesting.isTop)
      (hread : Connector.read? (connector.text ++ after) = some connector) :
      Reached s (before ++ connector.text) nesting after

/-- What has been read and what is left are the text. -/
theorem Reached.append_eq {s before after : List Char} {nesting : Nesting}
    (h : Reached s before nesting after) : before ++ after = s := by
  induction h with
  | start => rfl
  | char hreached hno ih => rw [List.append_assoc]; exact ih
  | link hreached htop hread ih => rw [List.append_assoc]; exact ih

/-- A place stands between two marks. -/
theorem Reached.exists_scan {s before after : List Char} {nesting : Nesting}
    (h : Reached s before nesting after) :
    ∃ front, scan s = front ++ scanAfter nesting 0 after ∧ front.flatMap Mark.text = before := by
  induction h with
  | start => exact ⟨[], rfl, rfl⟩
  | @char before after nesting c hreached hno ih =>
    obtain ⟨front, hscan, rfl⟩ := ih
    rw [scanAfter_char hno] at hscan
    exact ⟨front ++ [.char c nesting.isTop], by simpa using hscan, by simp [Mark.text]⟩
  | @link before after nesting connector hreached htop hread ih =>
    obtain ⟨front, hscan, rfl⟩ := ih
    rw [scanAfter_link htop hread] at hscan
    exact ⟨front ++ [.link connector], by simpa using hscan, by simp [Mark.text]⟩

/-- A character is marked at the top level only where no connector starts. -/
theorem of_scanAfter_eq_char {nesting : Nesting} {c : Char} {rest : List Char} {top : Bool}
    {back : List Mark} (h : scanAfter nesting 0 (c :: rest) = .char c top :: back) :
    (nesting.isTop → Connector.read? (c :: rest) = none) ∧ top = nesting.isTop ∧
      scanAfter (nesting.step c) 0 rest = back := by
  rw [scanAfter] at h
  split at h
  · cases (List.cons.inj h).1
  · next hread =>
    obtain ⟨hmark, hback⟩ := List.cons.inj h
    refine ⟨fun htop => ?_, (Mark.char.inj hmark).2.symm, hback⟩
    rwa [if_pos htop] at hread

/-- A connector is marked only where it can be read at the top level. -/
theorem of_scanAfter_eq_link {nesting : Nesting} {connector : Connector} {rest : List Char}
    {back : List Mark}
    (h : scanAfter nesting 0 (connector.text ++ rest) = .link connector :: back) :
    nesting.isTop ∧ Connector.read? (connector.text ++ rest) = some connector ∧
      scanAfter nesting 0 rest = back := by
  cases hs : connector.text ++ rest with
  | nil => rw [hs] at h; cases h
  | cons c s =>
    rw [hs, scanAfter] at h
    split at h
    · next found hread =>
      obtain ⟨hmark, hback⟩ := List.cons.inj h
      obtain rfl := Mark.link.inj hmark
      split at hread
      · next htop =>
        have hlink := scanAfter_link htop (hs ▸ hread)
        rw [hs, scanAfter, if_pos htop, hread] at hlink
        exact ⟨htop, hread, (List.cons.inj hlink).2.symm.trans hback⟩
      · cases hread
    · cases (List.cons.inj h).1

/-- Between any two marks a scan comes to a place. -/
theorem reached_of_scan {s : List Char} {front back : List Mark} (h : scan s = front ++ back) :
    ∃ nesting, Reached s (front.flatMap Mark.text) nesting (back.flatMap Mark.text) ∧
      scanAfter nesting 0 (back.flatMap Mark.text) = back := by
  induction front using List.reverseRecOn generalizing back with
  | nil =>
    have hback : back.flatMap Mark.text = s := by
      rw [← flatMap_text_scan s, h]
      rfl
    rw [hback]
    exact ⟨.outside, .start, h⟩
  | append_singleton front mark ih =>
    rw [List.append_assoc, List.singleton_append] at h
    obtain ⟨nesting, hreached, hscan⟩ := ih h
    rw [List.flatMap_append, List.flatMap_singleton]
    rw [List.flatMap_cons] at hreached hscan
    cases mark with
    | char c top =>
      obtain ⟨hno, -, hback⟩ := of_scanAfter_eq_char hscan
      exact ⟨nesting.step c, .char hreached hno, hback⟩
    | link connector =>
      obtain ⟨htop, hread, hback⟩ := of_scanAfter_eq_link hscan
      exact ⟨nesting, .link hreached htop hread, hback⟩

/-! ## Offsets -/

/-- The number of bytes of a text. -/
def byteSize (s : List Char) : Nat :=
  (String.ofList s).utf8ByteSize

/-- The offsets in bytes between marks, the first of them starting at `offset`. -/
def offsetsFrom (offset : Nat) : List Mark → List Nat
  | [] => [offset]
  | mark :: marks => offset :: offsetsFrom (offset + byteSize mark.text) marks

/-- The offsets in bytes of the places of a text, in order. -/
def scanOffsets (s : List Char) : List Nat :=
  offsetsFrom 0 (scan s)

theorem byteSize_append (s t : List Char) : byteSize (s ++ t) = byteSize s + byteSize t := by
  simp [byteSize]

theorem byteSize_pos {s : List Char} (h : s ≠ []) : 0 < byteSize s := by
  obtain ⟨c, s, rfl⟩ := List.exists_cons_of_ne_nil h
  have hc := c.utf8Size_pos
  rw [byteSize, String.ofList_cons, String.utf8ByteSize_append, String.utf8ByteSize_singleton]
  omega

/-- No mark is empty. -/
theorem text_ne_nil_of_mem_scan {s : List Char} {mark : Mark} (h : mark ∈ scan s) : mark.text ≠ [] := by
  obtain ⟨front, back, hscan⟩ := List.append_of_mem h
  obtain ⟨nesting, -, hmark⟩ := reached_of_scan hscan
  cases mark with
  | char c top => exact List.cons_ne_nil c []
  | link connector =>
    rw [List.flatMap_cons] at hmark
    exact Connector.text_ne_nil (of_scanAfter_eq_link hmark).2.1

theorem le_of_mem_offsetsFrom {offset : Nat} {marks : List Mark} {place : Nat}
    (h : place ∈ offsetsFrom offset marks) : offset ≤ place := by
  induction marks generalizing offset with
  | nil => exact (List.mem_singleton.1 h).ge
  | cons mark marks ih =>
    rcases List.mem_cons.1 h with rfl | h
    · exact Nat.le_refl _
    · exact Nat.le_of_add_right_le (ih h)

/-- If no mark is empty, every offset is beyond the one before. -/
theorem pairwise_offsetsFrom {marks : List Mark} (h : ∀ mark ∈ marks, mark.text ≠ []) (offset : Nat) :
    (offsetsFrom offset marks).Pairwise (· < ·) := by
  induction marks generalizing offset with
  | nil => exact List.pairwise_singleton _ _
  | cons mark marks ih =>
    obtain ⟨hmark, hmarks⟩ := List.forall_mem_cons.1 h
    refine List.pairwise_cons.2 ⟨fun place hplace => ?_, ih hmarks _⟩
    have hpositive := byteSize_pos hmark
    have hle := le_of_mem_offsetsFrom hplace
    omega

theorem mem_offsetsFrom {offset : Nat} {marks : List Mark} {place : Nat} :
    place ∈ offsetsFrom offset marks ↔
      ∃ front back, marks = front ++ back ∧ place = offset + byteSize (front.flatMap Mark.text) := by
  induction marks generalizing offset with
  | nil =>
    constructor
    · intro h
      exact ⟨[], [], rfl, List.mem_singleton.1 h⟩
    · rintro ⟨front, back, h, rfl⟩
      obtain ⟨rfl, rfl⟩ := List.append_eq_nil_iff.1 h.symm
      exact List.mem_singleton.2 rfl
  | cons mark marks ih =>
    rw [offsetsFrom, List.mem_cons, ih]
    constructor
    · rintro (rfl | ⟨front, back, rfl, rfl⟩)
      · exact ⟨[], mark :: marks, rfl, rfl⟩
      · refine ⟨mark :: front, back, rfl, ?_⟩
        rw [List.flatMap_cons, byteSize_append, Nat.add_assoc]
    · rintro ⟨front, back, h, rfl⟩
      cases front with
      | nil => exact .inl rfl
      | cons first front =>
        obtain ⟨rfl, rfl⟩ := List.cons.inj h
        refine .inr ⟨front, back, rfl, ?_⟩
        rw [List.flatMap_cons, byteSize_append, Nat.add_assoc]

/-- The offsets are those of the places that the scan comes to. -/
theorem mem_scanOffsets_iff {s : List Char} {offset : Nat} :
    offset ∈ scanOffsets s ↔
      ∃ before nesting after, Reached s before nesting after ∧ offset = byteSize before := by
  rw [scanOffsets, mem_offsetsFrom]
  constructor
  · rintro ⟨front, back, hscan, rfl⟩
    obtain ⟨nesting, hreached, -⟩ := reached_of_scan hscan
    exact ⟨_, nesting, _, hreached, Nat.zero_add _⟩
  · rintro ⟨before, nesting, after, hreached, rfl⟩
    obtain ⟨front, hscan, rfl⟩ := hreached.exists_scan
    exact ⟨front, _, hscan, (Nat.zero_add _).symm⟩

/-- A place is a boundary between characters. -/
theorem Reached.isValid {s before after : List Char} {nesting : Nesting}
    (h : Reached s before nesting after) :
    String.Pos.Raw.IsValid (String.ofList s) ⟨byteSize before⟩ := by
  rw [String.Pos.Raw.isValid_iff_exists_append]
  refine ⟨String.ofList before, String.ofList after, ?_, rfl⟩
  rw [← String.ofList_append, h.append_eq]

/-! ## Parts between separators -/

theorem intercalate_append {α : Type} (separator : α) {front back : List (List α)} (hfront : front ≠ [])
    (hback : back ≠ []) :
    [separator].intercalate (front ++ back) =
      [separator].intercalate front ++ separator :: [separator].intercalate back := by
  induction front with
  | nil => exact absurd rfl hfront
  | cons part front ih =>
    cases front with
    | nil => simp [List.intercalate_cons_of_ne_nil hback]
    | cons next front =>
      rw [List.cons_append, List.cons_append, List.intercalate_cons_cons, List.intercalate_cons_cons,
        ← List.cons_append, ih (List.cons_ne_nil _ _)]
      simp

theorem flatMap_intercalate {α β : Type} {text : α → List β} {mark : α} {separator : β}
    (hmark : text mark = [separator]) (parts : List (List α)) :
    ([mark].intercalate parts).flatMap text = [separator].intercalate (parts.map (·.flatMap text)) := by
  induction parts with
  | nil => rfl
  | cons part parts ih =>
    cases parts with
    | nil => simp
    | cons next parts =>
      rw [List.intercalate_cons_cons, List.map_cons, List.map_cons, List.intercalate_cons_cons,
        ← List.map_cons, ← ih]
      simp [hmark]

/-- A text taken apart at a character: with the separators between them the parts are the text, and
    the separators between them are the ones that count, by what is before them and after them. -/
structure IsPartedAt (separator : Char) (counts : List Char → List Char → Prop) (s : List Char)
    (parts : List (List Char)) : Prop where
  whole : [separator].intercalate parts = s
  counts_iff (before after : List Char) (h : before ++ separator :: after = s) :
    counts before after ↔
      ∃ front back, front ≠ [] ∧ back ≠ [] ∧ parts = front ++ back ∧
        before = [separator].intercalate front ∧ after = [separator].intercalate back

/-- Splitting a list at an element takes the text of the list apart at that element, if the separators
    that count are those it stands for. -/
theorem isPartedAt_splitOn {α : Type} [BEq α] [LawfulBEq α] (text : α → List Char) (mark : α)
    {separator : Char} (hmark : text mark = [separator]) {counts : List Char → List Char → Prop}
    {l : List α}
    (hcounts : ∀ before after, before ++ separator :: after = l.flatMap text →
      (counts before after ↔
        ∃ front back, l = front ++ mark :: back ∧ before = front.flatMap text ∧
          after = back.flatMap text)) :
    IsPartedAt separator counts (l.flatMap text) ((l.splitOn mark).map (·.flatMap text)) where
  whole := by rw [← flatMap_intercalate hmark, List.intercalate_splitOn]
  counts_iff before after h := by
    rw [hcounts before after h]
    constructor
    · rintro ⟨front, back, rfl, rfl, rfl⟩
      refine ⟨(front.splitOn mark).map (·.flatMap text), (back.splitOn mark).map (·.flatMap text),
        ?_, ?_, ?_, ?_, ?_⟩
      · simp
      · simp
      · rw [List.splitOn_append_cons_self, List.map_append]
      · rw [← flatMap_intercalate hmark, List.intercalate_splitOn]
      · rw [← flatMap_intercalate hmark, List.intercalate_splitOn]
    · rintro ⟨front, back, hfront, hback, heq, rfl, rfl⟩
      obtain ⟨left, right, hsplit, rfl, rfl⟩ := List.map_eq_append_iff.1 heq
      refine ⟨[mark].intercalate left, [mark].intercalate right, ?_, ?_, ?_⟩
      · rw [← intercalate_append mark (by simpa using hfront) (by simpa using hback), ← hsplit,
          List.intercalate_splitOn]
      · rw [flatMap_intercalate hmark]
      · rw [flatMap_intercalate hmark]

/-- A `;` separates two statements if it stands at a place of the text where nothing is open. -/
def Separates (s before after : List Char) : Prop :=
  Reached s before .outside (';' :: after)

/-- A `&` separates two members if nothing is open before it in its segment. -/
def Joins (before _after : List Char) : Prop :=
  Nesting.outside.walk before = .outside

theorem separates_iff {s before after : List Char} :
    Separates s before after ↔
      ∃ front back, scan s = front ++ .char ';' true :: back ∧ before = front.flatMap Mark.text ∧
        after = back.flatMap Mark.text := by
  constructor
  · intro h
    obtain ⟨front, hscan, rfl⟩ := h.exists_scan
    have hno : Connector.read? (';' :: after) = none :=
      Connector.read?_eq_none_of_ne _ (by decide) (by decide)
    rw [scanAfter_char fun _ => hno] at hscan
    exact ⟨front, _, hscan, rfl, (flatMap_text_scanAfter _ 0 after).symm⟩
  · rintro ⟨front, back, hscan, rfl, rfl⟩
    obtain ⟨nesting, hreached, hback⟩ := reached_of_scan hscan
    obtain ⟨-, htop, -⟩ := of_scanAfter_eq_char hback
    rwa [Nesting.eq_outside htop.symm] at hreached

theorem joins_iff {segment before after : List Char} (h : before ++ '&' :: after = segment) :
    Joins before after ↔
      ∃ front back, levels .outside segment = front ++ ('&', true) :: back ∧
        before = front.map Prod.fst ∧ after = back.map Prod.fst := by
  have hlevels : levels .outside segment = levels .outside before ++
      ('&', (Nesting.outside.walk before).isTop) ::
        levels ((Nesting.outside.walk before).step '&') after := by
    rw [← h, levels_append]
    rfl
  constructor
  · intro hjoins
    rw [Joins] at hjoins
    rw [hjoins] at hlevels
    exact ⟨_, _, hlevels, (map_fst_levels _ _).symm, (map_fst_levels _ _).symm⟩
  · rintro ⟨front, back, heq, hbefore, -⟩
    have hlength : front.length = (levels .outside before).length := by
      rw [← List.length_map Prod.fst, ← hbefore, ← map_fst_levels .outside before, List.length_map,
        map_fst_levels]
    obtain ⟨-, hcons⟩ := List.append_inj (hlevels.symm.trans heq) hlength.symm
    have htop := congrArg Prod.snd (List.cons.inj hcons).1
    exact Nesting.eq_outside htop

theorem trimmedPieces_eq (pieces : List (List Char)) :
    trimmedPieces pieces = (pieces.map Text.trim).filter (· ≠ []) :=
  List.filter_congr fun piece _ => by cases piece <;> rfl

/-- The statements of a line are what is between the semicolons that separate them, trimmed and not
    empty. -/
theorem exists_isPartedAt_splitStatements (s : List Char) :
    ∃ parts, IsPartedAt ';' (Separates s) s parts ∧
      splitStatements s = (parts.map Text.trim).filter (· ≠ []) := by
  have hparts : IsPartedAt ';' (Separates s) ((scan s).flatMap Mark.text)
      (((scan s).splitOn (.char ';' true)).map (·.flatMap Mark.text)) :=
    isPartedAt_splitOn Mark.text (.char ';' true) rfl fun before after _ => separates_iff
  rw [flatMap_text_scan] at hparts
  exact ⟨_, hparts, trimmedPieces_eq _⟩

/-- The members of a group are what is between the ampersands that join them, trimmed and not empty. If
    nothing is left there is one empty member. -/
def IsGroupOf (segment : List Char) (group : Group) : Prop :=
  ∃ parts, IsPartedAt '&' Joins segment parts ∧
    let pieces := (parts.map Text.trim).filter (· ≠ [])
    group = if pieces = [] then [[]] else pieces

theorem isGroupOf_splitMembers (segment : List Char) : IsGroupOf segment (splitMembers segment) := by
  have htext (l : List (Char × Bool)) : l.flatMap (fun level => [level.1]) = l.map Prod.fst :=
    List.flatMap_pure_eq_map Prod.fst l
  have hparts : IsPartedAt '&' Joins ((levels .outside segment).flatMap fun level => [level.1])
      (((levels .outside segment).splitOn ('&', true)).map (·.flatMap fun level => [level.1])) := by
    refine isPartedAt_splitOn (fun level : Char × Bool => [level.1]) ('&', true) rfl fun before after h => ?_
    simp only [htext, map_fst_levels] at h ⊢
    exact joins_iff h
  simp only [htext, map_fst_levels] at hparts
  refine ⟨_, hparts, ?_⟩
  simp only
  rw [← trimmedPieces_eq, splitMembers]
  split
  · next h => exact (if_pos h).symm
  · next members hne => exact (if_neg hne).symm

theorem IsGroupOf.ne_nil {segment : List Char} {group : Group} (h : IsGroupOf segment group) :
    group ≠ [] := by
  obtain ⟨parts, -, rfl⟩ := h
  split
  · exact List.cons_ne_nil [] []
  · next hne => exact hne

/-! ## Segments -/

namespace Segments

/-- The segments with the connectors between them are the marked text. -/
theorem chars_ofMarks (marks : List Mark) : (ofMarks marks).chars = marks.flatMap Mark.text := by
  induction marks with
  | nil => rfl
  | cons mark marks ih =>
    rw [List.flatMap_cons, ← ih]
    cases mark with
    | char c top => rfl
    | link connector =>
      rw [ofMarks, chars, List.flatMap_cons, List.nil_append, List.append_assoc]
      rfl

/-- A connector stands between two of the segments, with `before` in front of it and `after` behind. -/
def CutAt (segments : Segments) (before : List Char) (link : Connector) (after : List Char) : Prop :=
  ∃ front segment back, segments.rest = front ++ (link, segment) :: back ∧
    before = (Segments.mk segments.first front).chars ∧ after = (Segments.mk segment back).chars

theorem ofMarks_append_link (front : List Mark) (link : Connector) (back : List Mark) :
    ofMarks (front ++ .link link :: back) =
      ⟨(ofMarks front).first,
        (ofMarks front).rest ++ (link, (ofMarks back).first) :: (ofMarks back).rest⟩ := by
  induction front with
  | nil => rfl
  | cons mark front ih =>
    cases mark with
    | char c top => rw [List.cons_append, ofMarks, ih]; rfl
    | link connector => rw [List.cons_append, ofMarks, ih]; rfl

/-- The connectors between segments are the ones that are marked. -/
theorem cutAt_ofMarks_iff {marks : List Mark} {before after : List Char} {link : Connector} :
    (ofMarks marks).CutAt before link after ↔
      ∃ front back, marks = front ++ .link link :: back ∧ before = front.flatMap Mark.text ∧
        after = back.flatMap Mark.text := by
  constructor
  · rintro ⟨front, segment, back, hrest, rfl, rfl⟩
    induction marks generalizing front with
    | nil => exact absurd hrest (by simp [ofMarks])
    | cons mark marks ih =>
      cases mark with
      | char c top =>
        obtain ⟨left, right, rfl, hbefore, hafter⟩ := ih front hrest
        exact ⟨.char c top :: left, right, rfl, congrArg (c :: ·) hbefore, hafter⟩
      | link connector =>
        cases front with
        | nil =>
          obtain ⟨hjoint, rfl⟩ := List.cons.inj hrest
          obtain ⟨rfl, rfl⟩ := Prod.mk.inj hjoint
          exact ⟨[], marks, rfl, rfl, chars_ofMarks marks⟩
        | cons joint front =>
          obtain ⟨rfl, hmore⟩ := List.cons.inj hrest
          obtain ⟨left, right, rfl, hbefore, hafter⟩ := ih front hmore
          refine ⟨.link connector :: left, right, rfl, ?_, hafter⟩
          rw [List.flatMap_cons, ← hbefore]
          simp [chars, ofMarks, Mark.text]
  · rintro ⟨front, back, rfl, rfl, rfl⟩
    rw [← chars_ofMarks, ← chars_ofMarks, CutAt, ofMarks_append_link]
    exact ⟨_, _, _, rfl, rfl, rfl⟩

end Segments

/-- A connector is marked where it can be read at a place where nothing is open. -/
theorem reached_link_iff {s before after : List Char} {link : Connector} :
    (Reached s before .outside (link.text ++ after) ∧
        Connector.read? (link.text ++ after) = some link) ↔
      ∃ front back, scan s = front ++ .link link :: back ∧ before = front.flatMap Mark.text ∧
        after = back.flatMap Mark.text := by
  constructor
  · rintro ⟨hreached, hread⟩
    obtain ⟨front, hscan, rfl⟩ := hreached.exists_scan
    rw [scanAfter_link rfl hread] at hscan
    exact ⟨front, _, hscan, rfl, (flatMap_text_scanAfter _ 0 after).symm⟩
  · rintro ⟨front, back, hscan, rfl, rfl⟩
    obtain ⟨nesting, hreached, hback⟩ := reached_of_scan hscan
    rw [List.flatMap_cons, Mark.text] at hreached hback
    obtain ⟨htop, hread, -⟩ := of_scanAfter_eq_link hback
    rw [Nesting.eq_outside htop] at hreached
    exact ⟨hreached, hread⟩

/-- How a chain comes from the segments of a statement: the segments with the connectors between them
    are the statement, these connectors are the ones that can be read where nothing is open, and every
    group comes from its segment. -/
structure Chain.IsOf (chain : Chain) (statement : List Char) (segments : Segments) : Prop where
  whole : segments.chars = statement
  cutAt_iff (before : List Char) (link : Connector) (after : List Char) :
    segments.CutAt before link after ↔
      Reached statement before .outside (link.text ++ after) ∧
        Connector.read? (link.text ++ after) = some link
  links : chain.rest.map Prod.fst = segments.rest.map Prod.fst
  groups : List.Forall₂ IsGroupOf (segments.first :: segments.rest.map Prod.snd) chain.groups

/-- The groups of a statement are the members of its segments. -/
theorem Chain.groups_read (statement : List Char) :
    (Chain.read statement).groups =
      ((Segments.ofMarks (scan statement)).first ::
        (Segments.ofMarks (scan statement)).rest.map Prod.snd).map splitMembers := by
  simp [Chain.read, Chain.groups]

theorem Chain.read_isOf (statement : List Char) :
    (Chain.read statement).IsOf statement (Segments.ofMarks (scan statement)) where
  whole := by rw [Segments.chars_ofMarks, flatMap_text_scan]
  cutAt_iff before link after := by rw [Segments.cutAt_ofMarks_iff, reached_link_iff]
  links := by simp [Chain.read]
  groups := by
    rw [groups_read, List.forall₂_map_right_iff]
    exact List.forall₂_same.2 fun segment _ => isGroupOf_splitMembers segment

/-! ## Joints -/

theorem Chain.getElem?_joints_go (left : Group) (rest : List (Connector × Group)) (i : Nat)
    {link : Connector} {right : Group} (h : rest[i]? = some (link, right)) :
    ∃ before, (left :: rest.map Prod.snd)[i]? = some before ∧
      (joints.go left rest)[i]? = some (before, link, right) := by
  induction rest generalizing left i with
  | nil => cases h
  | cons joint rest ih =>
    cases i with
    | zero =>
      obtain rfl := Option.some.inj h
      exact ⟨left, rfl, rfl⟩
    | succ i => exact ih joint.2 i h

theorem Chain.length_joints_go (left : Group) (rest : List (Connector × Group)) :
    (joints.go left rest).length = rest.length := by
  induction rest generalizing left with
  | nil => rfl
  | cons joint rest ih => exact congrArg (· + 1) (ih joint.2)

/-- Every connector has a group on either side. -/
theorem Chain.getElem?_joints (chain : Chain) {i : Nat} {link : Connector}
    (h : (chain.rest.map Prod.fst)[i]? = some link) :
    ∃ left right, chain.groups[i]? = some left ∧ chain.groups[i + 1]? = some right ∧
      chain.joints[i]? = some (left, link, right) := by
  rw [List.getElem?_map, Option.map_eq_some_iff] at h
  obtain ⟨⟨_, right⟩, hjoint, rfl⟩ := h
  obtain ⟨left, hleft, hjoints⟩ := getElem?_joints_go chain.first chain.rest i hjoint
  refine ⟨left, right, hleft, ?_, hjoints⟩
  rw [groups, List.getElem?_cons_succ, List.getElem?_map, hjoint]
  rfl

/-! ## Nothing is lost -/

/-- Taking a text apart loses nothing and repeats nothing. Its statements are what is between the
    semicolons outside of everything, trimmed and not empty. As a statement, it is segments with the connectors between them
    that can be read outside of everything; there is one group more than there are connectors, none
    of them empty, so that every connector finds a group on either side. The offsets at which the scan
    looks at the text are boundaries between characters, each beyond the one before. -/
theorem scan_decomposes (s : List Char) :
    (∃ parts, IsPartedAt ';' (Separates s) s parts ∧
      splitStatements s = (parts.map Text.trim).filter (· ≠ [])) ∧
    (∃ segments, (Chain.read s).IsOf s segments) ∧
    (Chain.read s).groups.length = (Chain.read s).rest.length + 1 ∧
    (∀ group ∈ (Chain.read s).groups, group ≠ []) ∧
    (Chain.read s).joints.length = (Chain.read s).rest.length ∧
    (∀ i link, ((Chain.read s).rest.map Prod.fst)[i]? = some link →
      ∃ left right, (Chain.read s).groups[i]? = some left ∧
        (Chain.read s).groups[i + 1]? = some right ∧
        (Chain.read s).joints[i]? = some (left, link, right)) ∧
    (scanOffsets s).Pairwise (· < ·) ∧
    ∀ offset, offset ∈ scanOffsets s ↔
      ∃ before nesting after, Reached s before nesting after ∧ offset = byteSize before ∧
        String.Pos.Raw.IsValid (String.ofList s) ⟨offset⟩ := by
  refine ⟨exists_isPartedAt_splitStatements s, ⟨_, Chain.read_isOf s⟩, ?_, fun group hgroup => ?_,
    Chain.length_joints_go _ _, fun i link hlink => Chain.getElem?_joints _ hlink,
    pairwise_offsetsFrom (fun mark hmark => text_ne_nil_of_mem_scan hmark) 0, fun offset => ?_⟩
  · simp [Chain.groups]
  · rw [Chain.groups_read] at hgroup
    obtain ⟨segment, -, rfl⟩ := List.mem_map.1 hgroup
    exact (isGroupOf_splitMembers segment).ne_nil
  · rw [mem_scanOffsets_iff]
    constructor
    · rintro ⟨before, nesting, after, hreached, rfl⟩
      exact ⟨before, nesting, after, hreached, rfl, hreached.isValid⟩
    · rintro ⟨before, nesting, after, hreached, rfl, -⟩
      exact ⟨before, nesting, after, hreached, rfl⟩

end Flowchart
