import Elementwise.Layout
import Elementwise.Proofs.Text.Class

/-!
# Defined layouts

A layout is defined when the check of its completed draft finds no fault. Its struct and its field
then have names and its elements are vectors, which is what the text of a kernel needs of it.
-/

namespace Elementwise

open Text

/-- The struct and the field of a layout have names, and its elements are vectors. -/
structure Layout.WellNamed (layout : Layout) : Prop where
  structName : isName layout.structName.toList = true
  fieldName : isName layout.fieldName.toList = true
  elementType : ∃ lanes ∈ [2, 3, 4], ∃ scalar ∈ scalarTypes,
    layout.elementType = vectorType lanes scalar

/-- Some draft defines the layout. -/
def Layout.Defined (layout : Layout) : Prop :=
  ∃ draft : LayoutDraft, draft.define = .ok layout.propose

/-- A mark outside of vector types does not occur in the element type. -/
lemma Layout.WellNamed.not_mem_elementType {layout : Layout} (h : layout.WellNamed) {mark : Char}
    (hmark : mark ∉ "vec234<fiu>".toList) : mark ∉ layout.elementType.toList := by
  have hall : ∀ lanes ∈ [2, 3, 4], ∀ scalar ∈ scalarTypes,
      ∀ c ∈ (vectorType lanes scalar).toList, c ∈ "vec234<fiu>".toList := by decide
  obtain ⟨lanes, hlanes, scalar, hscalar, heq⟩ := h.elementType
  rw [heq]
  exact fun hmem => hmark (hall lanes hlanes scalar hscalar mark hmem)

/-! ### Members -/

lemma isName_of_isIdentifier {name : String} (h : isIdentifier name = true) :
    isName name.toList = true := by
  simp only [isIdentifier, hasIdentifierForm, Bool.and_eq_true] at h
  obtain ⟨hform, -⟩ := h
  cases hname : name.toList with
  | nil => simp [hname] at hform
  | cons c rest =>
    simp only [hname, Bool.or_eq_true, Bool.and_eq_true] at hform
    rcases hform with ⟨hc, hrest⟩ | ⟨⟨hc, _⟩, hrest⟩
    · simp [isName, isNameStart, hc, hrest]
    · simp [isName, isNameStart, hc, hrest]

lemma vectorLanes?_isSome_iff {elementType : String} :
    (vectorLanes? elementType).isSome = true ↔ ∃ lanes ∈ [2, 3, 4], ∃ scalar ∈ scalarTypes,
      elementType = vectorType lanes scalar := by
  rw [vectorLanes?, List.find?_isSome]
  simp only [List.any_eq_true, beq_iff_eq]

/-! ### Checks -/

/-- A sequence of checks succeeds when each of them does. -/
lemma check_bind_eq_ok_iff {ε β : Type} {check : Except ε Unit} {next : Except ε β} {b : β} :
    (check >>= fun _ => next) = .ok b ↔ check = .ok () ∧ next = .ok b := by
  cases check <;> simp [bind, Except.bind]

lemma ite_eq_ok_iff {ε : Type} {valid : Bool} {e : ε} :
    (if valid then .ok () else .error e : Except ε Unit) = .ok () ↔ valid = true := by
  cases valid <;> simp

namespace LayoutProposal

lemma checkVersion_number (a : Number) : checkVersion (.number a) =
    if a.isPositiveInteger then .ok () else .error (.layout (.version a.text)) := by
  cases h : a.isPositiveInteger <;>
    simp [checkVersion, h, memberText, Value.toText?, bind, Except.bind, throw, throwThe,
      MonadExceptOf.throw, pure, Except.pure]

lemma checkName_text (fault : String → LayoutFault) (name : String) :
    checkName fault (.text name) =
      if isIdentifier name then .ok () else .error (.layout (fault name)) := by
  cases h : isIdentifier name <;>
    simp [checkName, h, memberText, Value.toText?, bind, Except.bind, throw, throwThe,
      MonadExceptOf.throw, pure, Except.pure]

lemma checkElementType_text (elementType : String) :
    checkElementType (.text elementType) =
      if (vectorLanes? elementType).isSome then .ok ()
      else .error (.layout (.elementType elementType)) := by
  cases h : (vectorLanes? elementType).isSome <;>
    simp [checkElementType, h, memberText, Value.toText?, bind, Except.bind, throw, throwThe,
      MonadExceptOf.throw, pure, Except.pure]

/-- A layout has no fault when its version is an integer from 1 up, its names are identifiers and
its elements are vectors. -/
lemma check_propose_iff {layout : Layout} :
    layout.propose.check = .ok () ↔ layout.version.isPositiveInteger = true ∧
      isIdentifier layout.structName = true ∧ isIdentifier layout.fieldName = true ∧
      (vectorLanes? layout.elementType).isSome = true := by
  simp only [check, check_bind_eq_ok_iff, Layout.propose, checkVersion_number, checkName_text,
    checkElementType_text, ite_eq_ok_iff]

end LayoutProposal

lemma LayoutDraft.define_eq_ok_iff {draft : LayoutDraft} {proposal : LayoutProposal} :
    draft.define = .ok proposal ↔ draft.complete.check = .ok () ∧ draft.complete = proposal := by
  rw [define, check_bind_eq_ok_iff]
  simp [pure, Except.pure]

lemma Layout.Defined.wellNamed {layout : Layout} (h : layout.Defined) : layout.WellNamed := by
  obtain ⟨draft, hdefine⟩ := h
  obtain ⟨hcheck, hcomplete⟩ := LayoutDraft.define_eq_ok_iff.mp hdefine
  rw [hcomplete, LayoutProposal.check_propose_iff] at hcheck
  obtain ⟨_, hstruct, hfield, helement⟩ := hcheck
  exact ⟨isName_of_isIdentifier hstruct, isName_of_isIdentifier hfield,
    vectorLanes?_isSome_iff.mp helement⟩

end Elementwise
