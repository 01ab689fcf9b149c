-- SUMMARY: The calls that a slot makes to its renderer: every handle is disposed of once, before the next diagram is mounted.
import Flowchart.Slot

/-!
# Handles

A slot calls its renderer to mount a diagram and to dispose of a handle. A record of the calls shows
what was mounted and is not disposed of yet, whatever the renderer itself does. Over any run of
operations the record is a list of turns, in each of which a diagram is mounted and its handle is
disposed of, and the last turn is open exactly as long as the slot holds the handle.
-/

namespace Flowchart

variable {σ η : Type}

/-! ## Calls -/

/-- What a renderer is asked to do, with the handle that it gives or gets back. -/
inductive Call (η : Type) where
  | mount (diagram : Diagram) (handle : η)
  | dispose (handle : η)

/-- A renderer with a record of its calls, the last call at the end. -/
def Host.recorded (host : Host σ η) : Host (σ × List (Call η)) η where
  mount state diagram :=
    let (handle, next) := host.mount state.1 diagram
    (handle, next, state.2 ++ [.mount diagram handle])
  dispose state handle := (host.dispose state.1 handle, state.2 ++ [.dispose handle])

/-- A handle was given and has not been given back since. -/
def IsLive (calls : List (Call η)) (handle : η) : Prop :=
  ∃ front diagram back, calls = front ++ .mount diagram handle :: back ∧ .dispose handle ∉ back

/-- The calls for diagrams that are mounted one after another, each disposed of before the next. -/
def turns (shown : List (Diagram × η)) : List (Call η) :=
  shown.flatMap fun (diagram, handle) => [.mount diagram handle, .dispose handle]

theorem turns_append (shown more : List (Diagram × η)) :
    turns (shown ++ more) = turns shown ++ turns more :=
  List.flatMap_append

/-- After complete turns no handle is live. -/
theorem not_isLive_turns (shown : List (Diagram × η)) (handle : η) :
    ¬ IsLive (turns shown) handle := by
  induction shown with
  | nil =>
    rintro ⟨front, diagram, back, h, -⟩
    simp [turns] at h
  | cons turn shown ih =>
    obtain ⟨mounted, given⟩ := turn
    rintro ⟨front, diagram, back, h, hback⟩
    rw [turns, List.flatMap_cons, ← turns] at h
    match front, h with
    | [], h =>
      obtain ⟨hmount, hrest⟩ := List.cons.inj h
      cases hmount
      exact hback (by simp [← hrest])
    | [_], h => simp at h
    | _ :: _ :: front, h =>
      obtain ⟨-, hrest⟩ := List.cons.inj h
      obtain ⟨-, hrest⟩ := List.cons.inj hrest
      exact ih ⟨front, diagram, back, hrest, hback⟩

/-- In a turn that is not complete the handle is live that was given last. -/
theorem isLive_turns_append (shown : List (Diagram × η)) (diagram : Diagram) (given handle : η) :
    IsLive (turns shown ++ [.mount diagram given]) handle ↔ given = handle := by
  constructor
  · rintro ⟨front, mounted, back, h, hback⟩
    rcases List.append_eq_append_iff.1 h with ⟨more, hfront, hlast⟩ | ⟨more, hturns, hlast⟩
    · cases more with
      | nil => simp_all
      | cons call more => simp at hlast
    · cases more with
      | nil => simp_all
      | cons call more =>
        obtain ⟨rfl, rfl⟩ := List.cons.inj hlast
        refine absurd ⟨front, mounted, more, hturns, ?_⟩ (not_isLive_turns shown handle)
        exact fun hmem => hback (List.mem_append_left _ hmem)
  · rintro rfl
    exact ⟨turns shown, diagram, [], rfl, by simp⟩

namespace Slot

/-! ## Runs -/

/-- The slot after all of several operations. -/
def run (host : Host σ η) (slot : Slot σ η) (operations : List Operation) : Slot σ η :=
  operations.foldl (perform host) slot

@[simp] theorem run_nil (host : Host σ η) (slot : Slot σ η) : slot.run host [] = slot := rfl

@[simp] theorem run_cons (host : Host σ η) (slot : Slot σ η) (operation : Operation)
    (operations : List Operation) :
    slot.run host (operation :: operations) = (slot.perform host operation).run host operations := rfl

/-- The slots after each operation are those after the operations up to it. -/
theorem mem_trace {host : Host σ η} {slot after : Slot σ η} {operations : List Operation} :
    after ∈ slot.trace host operations ↔
      ∃ first done, first :: done <+: operations ∧ slot.run host (first :: done) = after := by
  induction operations generalizing slot with
  | nil => simp [trace]
  | cons operation operations ih =>
    rw [trace, List.mem_cons, ih]
    constructor
    · rintro (rfl | ⟨first, done, hdone, rfl⟩)
      · exact ⟨operation, [], by simp, rfl⟩
      · exact ⟨operation, first :: done, List.cons_prefix_cons.2 ⟨rfl, hdone⟩, rfl⟩
    · rintro ⟨first, done, hdone, rfl⟩
      obtain ⟨rfl, hmore⟩ := List.cons_prefix_cons.1 hdone
      cases done with
      | nil => exact .inl rfl
      | cons next done => exact .inr ⟨next, done, hmore, rfl⟩

/-- The diagram that an operation shows. -/
def Operation.diagram? : Operation → Option Diagram
  | .replace (.ok diagram) => some diagram
  | .replace (.error _) | .clear | .current => none

/-- There is nothing to do: no diagram was assembled, or none is shown that could be cleared. -/
def Operation.IsIdle (slot : Slot σ η) : Operation → Prop
  | .replace (.ok _) => False
  | .replace (.error _) | .current => True
  | .clear => slot.current = none

/-! ## Recording -/

/-- A slot without the record of its calls. -/
def unrecorded (slot : Slot (σ × List (Call η)) η) : Slot σ η :=
  ⟨slot.host.1, slot.current⟩

section Recorded

variable (host : Host σ η) (slot : Slot (σ × List (Call η)) η)

theorem unrecorded_clear : (slot.clear host.recorded).unrecorded = slot.unrecorded.clear host := by
  obtain ⟨state, current⟩ := slot
  cases current <;> rfl

theorem unrecorded_replace (diagram : Diagram) :
    (slot.replace host.recorded diagram).unrecorded = slot.unrecorded.replace host diagram := by
  rw [replace, replace, ← unrecorded_clear]
  rfl

/-- Recording the calls changes nothing else. -/
theorem unrecorded_perform (operation : Operation) :
    (slot.perform host.recorded operation).unrecorded = slot.unrecorded.perform host operation := by
  match operation with
  | .replace (.ok diagram) => exact unrecorded_replace host slot diagram
  | .replace (.error _) => rfl
  | .clear => exact unrecorded_clear host slot
  | .current => rfl

theorem unrecorded_run (operations : List Operation) :
    (slot.run host.recorded operations).unrecorded = slot.unrecorded.run host operations := by
  induction operations generalizing slot with
  | nil => rfl
  | cons operation operations ih =>
    rw [run_cons, run_cons, ← unrecorded_perform]
    exact ih _

/-- The calls of an operation: the diagram shown is disposed of, if it is replaced or cleared, and then
    another one is mounted, if there is one. -/
theorem calls_perform (operation : Operation) :
    ∃ calls, (slot.perform host.recorded operation).host.2 = slot.host.2 ++ calls ∧
      (calls = [] ↔ operation.IsIdle slot) := by
  obtain ⟨⟨state, calls⟩, current⟩ := slot
  match operation, current with
  | .replace (.ok _), none => exact ⟨[_], rfl, by simp [Operation.IsIdle]⟩
  | .replace (.ok _), some _ =>
    exact ⟨[_, _], List.append_assoc .., by simp [Operation.IsIdle]⟩
  | .clear, some _ => exact ⟨[_], rfl, by simp [Operation.IsIdle]⟩
  | .clear, none | .replace (.error _), _ | .current, _ =>
    exact ⟨[], (List.append_nil _).symm, by simp [Operation.IsIdle]⟩

/-- Exactly the idle operations leave the slot as it was and call for nothing. -/
theorem perform_eq_self_iff (operation : Operation) :
    slot.perform host.recorded operation = slot ↔ operation.IsIdle slot := by
  obtain ⟨calls, hcalls, hidle⟩ := calls_perform host slot operation
  constructor
  · intro h
    rw [h] at hcalls
    exact hidle.1 (List.self_eq_append_right.1 hcalls)
  · intro h
    match operation, h with
    | .replace (.error _), _ | .current, _ => rfl
    | .clear, h =>
      rw [perform, clear, show slot.current = none from h]

end Recorded

/-! ## Turns -/

/-- The calls so far are turns for these diagrams, the last of which is open if the slot holds a
    handle. -/
inductive InTurn : Slot (σ × List (Call η)) η → List Diagram → Prop
  | closed (state : σ) (shown : List (Diagram × η)) :
      InTurn ⟨(state, turns shown), none⟩ (shown.map Prod.fst)
  | opened (state : σ) (shown : List (Diagram × η)) (diagram : Diagram) (handle : η) :
      InTurn ⟨(state, turns shown ++ [.mount diagram handle]), some handle⟩
        (shown.map Prod.fst ++ [diagram])

namespace InTurn

variable {slot : Slot (σ × List (Call η)) η} {diagrams : List Diagram}

section Operations

variable (host : Host σ η)

/-- Clearing a slot completes the turn. -/
theorem clear (h : InTurn slot diagrams) :
    ∃ state shown, slot.clear host.recorded = ⟨(state, turns shown), none⟩ ∧
      shown.map Prod.fst = diagrams := by
  cases h with
  | closed state shown => exact ⟨state, shown, rfl, rfl⟩
  | opened state shown diagram handle =>
    refine ⟨host.dispose state handle, shown ++ [(diagram, handle)], ?_, by simp⟩
    rw [turns_append]
    simp [Slot.clear, Host.recorded, turns]

/-- Every operation leaves the slot in turn. -/
theorem perform (h : InTurn slot diagrams) (operation : Operation) :
    InTurn (slot.perform host.recorded operation) (diagrams ++ operation.diagram?.toList) := by
  obtain ⟨state, shown, hclear, hshown⟩ := h.clear host
  match operation with
  | .replace (.ok diagram) =>
    rw [Slot.perform, replace, hclear, ← hshown]
    exact .opened _ shown diagram _
  | .clear =>
    rw [Slot.perform, hclear, ← hshown]
    simpa [Operation.diagram?] using InTurn.closed state shown
  | .replace (.error _) | .current =>
    rw [Operation.diagram?, Option.toList_none, List.append_nil]
    exact h

theorem run (h : InTurn slot diagrams) (operations : List Operation) :
    InTurn (slot.run host.recorded operations)
      (diagrams ++ operations.filterMap Operation.diagram?) := by
  induction operations generalizing slot diagrams with
  | nil => simpa using h
  | cons operation operations ih =>
    have hmore := ih (h.perform host operation)
    rw [List.append_assoc] at hmore
    rw [List.filterMap_cons]
    cases hshown : operation.diagram? with
    | none => simpa [hshown] using hmore
    | some diagram => simpa [hshown] using hmore

end Operations

/-- The handle that the slot holds is the one that is live. -/
theorem current_eq_some_iff (h : InTurn slot diagrams) (handle : η) :
    slot.current = some handle ↔ IsLive slot.host.2 handle := by
  cases h with
  | closed state shown => simpa using not_isLive_turns shown handle
  | opened state shown diagram given => rw [isLive_turns_append, Option.some.injEq]

end InTurn

/-- Over any run of operations, the calls of a slot mount the assembled diagrams in order, and each
    handle is disposed of right before the next diagram is mounted or in the end when the slot goes.
    After every operation the slot holds the handle that is live, if there is one. An operation that
    has nothing to do makes no call. The record of the calls does not interfere with the renderer. -/
theorem calls_run (host : Host σ η) (state : σ) (operations : List Operation) :
    let start : Slot (σ × List (Call η)) η := ⟨(state, []), none⟩
    let slot := start.run host.recorded operations
    let calls := (slot.drop host.recorded).2
    (∃ shown : List (Diagram × η),
      shown.map Prod.fst = operations.filterMap Operation.diagram? ∧
        calls = shown.flatMap fun (diagram, handle) => [.mount diagram handle, .dispose handle]) ∧
    (∀ after ∈ start.trace host.recorded operations, ∀ handle,
      after.current = some handle ↔ IsLive after.host.2 handle) ∧
    (∀ operation, slot.perform host.recorded operation = slot ↔ operation.IsIdle slot) ∧
    (∀ handle, ¬ IsLive calls handle) ∧
    slot.unrecorded = (⟨state, none⟩ : Slot σ η).run host operations ∧
    (slot.drop host.recorded).1 = ((⟨state, none⟩ : Slot σ η).run host operations).drop host := by
  intro start slot calls
  have hstart : InTurn start [] := .closed state []
  have hrun (operations : List Operation) :
      InTurn (start.run host.recorded operations) (operations.filterMap Operation.diagram?) :=
    hstart.run host operations
  obtain ⟨left, shown, hclear, hshown⟩ := (hrun operations).clear host
  have hcalls : calls = turns shown := congrArg (·.host.2) hclear
  have hunrecorded := unrecorded_run host start operations
  refine ⟨⟨shown, hshown, hcalls⟩, ?_, perform_eq_self_iff host slot, ?_, hunrecorded, ?_⟩
  · intro after hafter
    obtain ⟨first, done, -, rfl⟩ := mem_trace.1 hafter
    exact (hrun (first :: done)).current_eq_some_iff
  · rw [hcalls]
    exact not_isLive_turns shown
  · have hdrop := congrArg Slot.host (unrecorded_clear host slot)
    rw [hunrecorded] at hdrop
    exact hdrop

end Slot

end Flowchart
