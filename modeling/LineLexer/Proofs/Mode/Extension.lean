import LineLexer.Mode.Extension
import LineLexer.Proofs.Table

/-!
# Extended modes

A mode put together from its operations shadows nothing. An extension lays its values over such a
mode, slot by slot, and what it covers is shadowed. Properties assigned later cover without
shadowing.
-/

namespace LineLexer

/-! ## Modes put together -/

/-- A mode put together from its operations and properties. -/
inductive Built : Mode → Prop where
  | ofToken (token : TokenOp) : Built (.ofToken token)
  | withStartState {mode : Mode} (hmode : Built mode) (op : Nat → State) :
      Built (mode.withStartState op)
  | withCopyState {mode : Mode} (hmode : Built mode) (op : State → State) :
      Built (mode.withCopyState op)
  | withInner {mode : Mode} (hmode : Built mode) (op : State → Option (Delegate Mode)) :
      Built (mode.withInner op)
  | withIndent {mode : Mode} (hmode : Built mode) (op : IndentOp) : Built (mode.withIndent op)
  | withBlankLine {mode : Mode} (hmode : Built mode) (op : State → State) :
      Built (mode.withBlankLine op)
  | withProp {mode : Mode} (hmode : Built mode) (key : String) (value : Property) :
      Built (mode.withProp key value)

/-- The mode shadows nothing. -/
structure Mode.Unshadowed (mode : Mode) : Prop where
  token : mode.token.shadowed = none
  startState : mode.startState.bind Overridable.shadowed = none
  copyState : mode.copyState.bind Overridable.shadowed = none
  inner : mode.inner.bind Overridable.shadowed = none
  indent : mode.indent.bind Overridable.shadowed = none
  blankLine : mode.blankLine.bind Overridable.shadowed = none
  props : ∀ key, (mode.props.find? key).bind Overridable.shadowed = none

/-- A mode as a grammar builds it has nothing overridden. -/
theorem Built.unshadowed {mode : Mode} (h : Built mode) : mode.Unshadowed := by
  induction h with
  | ofToken => exact ⟨rfl, rfl, rfl, rfl, rfl, rfl, fun _ ↦ rfl⟩
  | withStartState _ _ ih => exact { ih with startState := rfl }
  | withCopyState _ _ ih => exact { ih with copyState := rfl }
  | withInner _ _ ih => exact { ih with inner := rfl }
  | withIndent _ _ ih => exact { ih with indent := rfl }
  | withBlankLine _ _ ih => exact { ih with blankLine := rfl }
  | withProp _ key value ih =>
    refine { ih with props := fun other ↦ ?_ }
    rw [Mode.withProp, Table.find?_insert]
    split
    · rfl
    · exact ih.props other

/-! ## Slots -/

/-- A slot that holds the value laid over it, if there is one, or else what was built into it. What
was built in is shadowed if it is covered. -/
structure Layered {α : Type} (slot built : Option (Overridable α)) (top : Option α) : Prop where
  current : slot.map Overridable.current = top.or (built.map Overridable.current)
  shadowed : slot.bind Overridable.shadowed =
    if top.isSome then built.map Overridable.current else none

/-- An override on top of such a slot keeps what the slot had before. -/
theorem layered_overrideSlot {α : Type} {slot : Option (Overridable α)}
    (h : slot.bind Overridable.shadowed = none) (top : Option α) :
    Layered (Extension.overrideSlot slot top) slot top := by
  cases top with
  | none => exact ⟨by simp [Extension.overrideSlot], h⟩
  | some value => cases slot <;> exact ⟨rfl, rfl⟩

/-- Covered or not, what was built in stays reachable. -/
theorem Layered.getD_shadowed {α : Type} {slot built : Overridable α} {top : Option α}
    (h : Layered (some slot) (some built) top) :
    slot.shadowed.getD slot.current = built.current := by
  have hcurrent := h.current
  have hshadowed := h.shadowed
  simp only [Option.map_some, Option.bind_some] at hcurrent hshadowed
  cases top with
  | none =>
    rw [hshadowed]
    exact Option.some.inj hcurrent
  | some _ =>
    rw [hshadowed]
    rfl

namespace Mode

/-- To change the properties one by one leaves the operations as they are. -/
theorem foldl_props (update : Option (Overridable Property) → Property → Overridable Property)
    (entries : List (String × Property)) (mode : Mode) :
    entries.foldl (fun mode entry ↦ { mode with
        props := mode.props.insert entry.1 (update (mode.props.find? entry.1) entry.2) }) mode =
      { mode with props := entries.foldl (fun table entry ↦
          table.insert entry.1 (update (table.find? entry.1) entry.2)) mode.props } := by
  induction entries generalizing mode with
  | nil =>
    cases mode
    rfl
  | cons entry entries ih => rw [List.foldl_cons, ih, List.foldl_cons]

theorem extend_eq (mode : Mode) (extension : Extension) :
    mode.extend extension =
      { mode with
        token := match extension.token with
          | some op => .replace (some mode.token) (op mode.token.current)
          | none => mode.token
        startState := Extension.overrideSlot mode.startState extension.startState
        copyState := Extension.overrideSlot mode.copyState extension.copyState
        inner := Extension.overrideSlot mode.inner extension.inner
        indent := Extension.overrideSlot mode.indent
          (extension.indent.map fun op ↦ op mode.suggestIndent)
        blankLine := Extension.overrideSlot mode.blankLine extension.blankLine
        props := extension.props.entries.foldl (fun table entry ↦
          table.insert entry.1 (.replace (table.find? entry.1) entry.2)) mode.props } :=
  foldl_props Overridable.replace extension.props.entries _

theorem extend_empty (mode : Mode) : mode.extend {} = mode := by
  cases mode
  rfl

/-- The token operation of an extension is made from the one it overrides. -/
theorem token_extend (mode : Mode) (extension : Extension) :
    some (mode.extend extension).token =
      Extension.overrideSlot (some mode.token)
        (extension.token.map fun op ↦ op mode.readToken) := by
  rw [extend_eq]
  cases extension.token <;> rfl

/-- Properties are overridden one by one. -/
theorem find?_props_extend (mode : Mode) (extension : Extension) (key : String) :
    (mode.extend extension).props.find? key =
      Extension.overrideSlot (mode.props.find? key) (extension.props.find? key) := by
  rw [extend_eq]
  change Table.find? (List.foldl _ mode.props extension.props.entries) key = _
  rw [Table.find?_foldl_update]
  cases extension.props.find? key <;> rfl

/-! ## Assigned properties -/

theorem foldl_assignProp (props : Table Property) (mode : Mode) :
    props.entries.foldl (fun mode entry ↦ mode.assignProp entry.1 entry.2) mode =
      { mode with props := props.entries.foldl (fun table entry ↦
          table.insert entry.1 (.assign (table.find? entry.1) entry.2)) mode.props } :=
  foldl_props Overridable.assign props.entries mode

/-- Properties that are assigned in turn stand as assigned, and the others as they stood. -/
theorem find?_props_foldl_assignProp (props : Table Property) (mode : Mode) (key : String) :
    (props.entries.foldl (fun mode entry ↦ mode.assignProp entry.1 entry.2) mode).props.find? key =
      ((props.find? key).map (Overridable.assign (mode.props.find? key))).or
        (mode.props.find? key) := by
  rw [foldl_assignProp]
  exact Table.find?_foldl_update props mode.props Overridable.assign key

/-- Assigned properties come first. -/
theorem prop?_foldl_assignProp (props : Table Property) (mode : Mode) (key : String) :
    (props.entries.foldl (fun mode entry ↦ mode.assignProp entry.1 entry.2) mode).prop? key =
      (props.find? key).or (mode.prop? key) := by
  rw [prop?, find?_props_foldl_assignProp, prop?]
  cases props.find? key <;> rfl

/-- Assigned properties shadow nothing and leave what is shadowed as it is. -/
theorem shadowedProp?_foldl_assignProp (props : Table Property) (mode : Mode) (key : String) :
    (props.entries.foldl (fun mode entry ↦ mode.assignProp entry.1 entry.2)
      mode).shadowedProp? key = mode.shadowedProp? key := by
  rw [shadowedProp?, find?_props_foldl_assignProp, shadowedProp?]
  cases props.find? key <;> rfl

end Mode

end LineLexer
