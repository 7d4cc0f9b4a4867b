import Elementwise.Proofs.Kernel.RoundTrip
import Elementwise.Proofs.Layout
import Elementwise.Proofs.Number.Order

/-!
# Which layouts are defined

A partial layout gives some members of a layout, each of its own kind. Its completion has to meet
four conditions, which are stated here apart from the checks: on the version, on the two names,
which have to be spelled by the grammar `Declarable`, and on the element type. Defining the partial
layout gives the completion when it meets all of them and otherwise the fault of the first one that
it violates. What has been defined can be defined again, has a number of lanes and declares its
struct.
-/

namespace Elementwise

open Text Scan Inspection

/-! ### The grammar of names -/

def IsLetter (c : Char) : Prop := 'A' ≤ c ∧ c ≤ 'Z' ∨ 'a' ≤ c ∧ c ≤ 'z'

/-- An ASCII letter, an ASCII digit or an underscore. -/
def IsWordLetter (c : Char) : Prop := IsLetter c ∨ '0' ≤ c ∧ c ≤ '9' ∨ c = '_'

instance decidableIsLetter : DecidablePred IsLetter :=
  fun _ => inferInstanceAs (Decidable (_ ∨ _))

instance decidableIsWordLetter : DecidablePred IsWordLetter :=
  fun _ => inferInstanceAs (Decidable (_ ∨ _))

/-- The spellings of names that a program may declare. An underscore in front is followed by
something else than another underscore. -/
inductive Declarable : List Char → Prop where
  | letter {c : Char} {rest : List Char} (hc : IsLetter c) (hrest : ∀ d ∈ rest, IsWordLetter d) :
      Declarable (c :: rest)
  | underscore {c : Char} {rest : List Char} (hc : IsWordLetter c) (hne : c ≠ '_')
      (hrest : ∀ d ∈ rest, IsWordLetter d) : Declarable ('_' :: c :: rest)

lemma isAlpha_iff (c : Char) : c.isAlpha = true ↔ IsLetter c := by
  have hranges : c.isAlpha = (decide (c.val ≥ 'A'.val ∧ c.val ≤ 'Z'.val) ||
      (decide (c.val ≥ 'a'.val) && decide (c.val ≤ 'z'.val))) := rfl
  simp only [hranges, IsLetter, Char.le_def, Bool.or_eq_true, Bool.and_eq_true,
    decide_eq_true_eq, ge_iff_le]

lemma isWordChar_iff_isWordLetter (c : Char) : isWordChar c = true ↔ IsWordLetter c := by
  have hdigit : c.isDigit = (decide (c.val ≥ '0'.val) && decide (c.val ≤ '9'.val)) := rfl
  simp only [isWordChar, Char.isAlphanum, IsWordLetter, ← isAlpha_iff, hdigit, Char.le_def,
    Bool.or_eq_true, Bool.and_eq_true, decide_eq_true_eq, beq_iff_eq, ge_iff_le, or_assoc]

/-- Identifiers are the declarable names: the form without the reserved ones. -/
lemma isIdentifier_iff_declarable {name : String} :
    isIdentifier name = true ↔ Declarable name.toList := by
  simp only [isIdentifier, hasIdentifierForm, isReserved, Bool.and_eq_true, Bool.not_eq_true']
  generalize name.toList = text
  constructor
  · rintro ⟨hform, hreserved⟩
    cases text with
    | nil => cases hform
    | cons c rest =>
      simp only [Bool.or_eq_true, Bool.and_eq_true, beq_iff_eq, List.all_eq_true,
        isAlpha_iff, isWordChar_iff_isWordLetter] at hform
      rcases hform with ⟨hc, hrest⟩ | ⟨⟨rfl, hne⟩, hrest⟩
      · exact .letter hc hrest
      · cases rest with
        | nil => cases hne
        | cons d rest =>
          rw [List.forall_mem_cons] at hrest
          -- two underscores would be reserved
          have hd : d ≠ '_' := by
            rintro rfl
            cases hreserved
          exact .underscore hrest.1 hd hrest.2
  · intro h
    cases h with
    | @letter c rest hc hrest =>
      have hne : c ≠ '_' := by
        rintro rfl
        exact absurd hc (by decide)
      simp only [← isAlpha_iff, ← isWordChar_iff_isWordLetter] at hc hrest
      simpa [hc, hne] using hrest
    | @underscore c rest hc hne hrest =>
      simp only [← isWordChar_iff_isWordLetter] at hc hrest
      simpa [hc, hne] using hrest

/-! ### Vector types -/

/-- The name of a vector type with the given number of lanes. -/
def IsVector (lanes : ℕ) (elementType : String) : Prop :=
  lanes ∈ [2, 3, 4] ∧ ∃ scalar ∈ ["f32", "i32", "u32"], elementType = s!"vec{lanes}<{scalar}>"

lemma isVector_iff {lanes : ℕ} {elementType : String} :
    IsVector lanes elementType ↔ lanes ∈ [2, 3, 4] ∧ ∃ scalar ∈ scalarTypes,
      elementType = vectorType lanes scalar :=
  Iff.rfl

lemma isSome_vectorLanes?_iff_isVector {elementType : String} :
    (vectorLanes? elementType).isSome = true ↔ ∃ lanes, IsVector lanes elementType := by
  simp only [vectorLanes?_isSome_iff, isVector_iff]

/-- No vector type has two numbers of lanes. -/
lemma vectorLanes_of_isVector {lanes : ℕ} {elementType : String} (h : IsVector lanes elementType) :
    vectorLanes elementType = .ok (Number.ofInt lanes) := by
  have hlanes : ∀ lanes ∈ [2, 3, 4], ∀ scalar ∈ scalarTypes,
      vectorLanes? (vectorType lanes scalar) = some lanes := by decide
  obtain ⟨hmem, scalar, hscalar, rfl⟩ := isVector_iff.mp h
  rw [vectorLanes, hlanes lanes hmem scalar hscalar]

/-! ### Conditions in order -/

/-- A condition on a layout, and the fault of a layout that violates it. -/
structure Condition where
  holds : Prop
  fault : LayoutFault

/-- The first of the conditions that does not hold has the fault. -/
inductive FirstViolated : List Condition → LayoutFault → Prop where
  | here {condition : Condition} {rest : List Condition} (h : ¬ condition.holds) :
      FirstViolated (condition :: rest) condition.fault
  | later {condition : Condition} {rest : List Condition} {fault : LayoutFault}
      (h : condition.holds) (hrest : FirstViolated rest fault) :
      FirstViolated (condition :: rest) fault

/-- The conditions on a layout, in the order in which they are looked at. -/
def Layout.conditions (layout : Layout) : List Condition :=
  [⟨∃ n : ℕ, 1 ≤ n ∧ layout.version = Number.ofInt n, .version layout.version.text⟩,
   ⟨Declarable layout.structName.toList, .structName layout.structName⟩,
   ⟨Declarable layout.fieldName.toList, .fieldName layout.fieldName⟩,
   ⟨∃ lanes, IsVector lanes layout.elementType, .elementType layout.elementType⟩]

section

variable {holds : Prop} {fault found : LayoutFault} {rest : List Condition}

lemma firstViolated_cons_of_holds (h : holds) :
    FirstViolated (⟨holds, fault⟩ :: rest) found ↔ FirstViolated rest found := by
  constructor
  · intro hfirst
    cases hfirst with
    | here hnot => exact absurd h hnot
    | later _ hrest => exact hrest
  · exact .later h

lemma firstViolated_cons_of_not_holds (h : ¬ holds) :
    FirstViolated (⟨holds, fault⟩ :: rest) found ↔ found = fault := by
  constructor
  · intro hfirst
    cases hfirst with
    | here _ => rfl
    | later hholds _ => exact absurd hholds h
  · rintro rfl
    exact .here h

end

/-- The check succeeds when all conditions hold, and fails with the first fault otherwise. -/
structure Checks (check : Except Failure Unit) (conditions : List Condition) : Prop where
  ok_iff : check = .ok () ↔ ∀ condition ∈ conditions, condition.holds
  error_iff (failure : Failure) : check = .error failure ↔
    ∃ fault, FirstViolated conditions fault ∧ failure = .layout fault

lemma Checks.nil : Checks (pure ()) [] where
  ok_iff := by simp [pure, Except.pure]
  error_iff failure := by
    simp only [pure, Except.pure, reduceCtorEq, false_iff]
    rintro ⟨fault, hfirst, -⟩
    cases hfirst

/-- A check in front of others looks at its condition before theirs. -/
lemma Checks.cons {holds : Prop} {fault : LayoutFault} {conditions : List Condition}
    {valid : Bool} {next : Except Failure Unit} (hvalid : valid = true ↔ holds)
    (hnext : Checks next conditions) :
    Checks ((if valid then .ok () else .error (.layout fault)) >>= fun _ => next)
      (⟨holds, fault⟩ :: conditions) := by
  by_cases h : holds
  -- the step is passed, and what is left is the outcome of the checks behind it
  · rw [if_pos (hvalid.mpr h)]
    constructor
    · rw [List.forall_mem_cons]
      exact hnext.ok_iff.trans (and_iff_right h).symm
    · intro failure
      simp only [firstViolated_cons_of_holds h]
      exact hnext.error_iff failure
  -- the step ends the sequence, whatever the other conditions are
  · rw [if_neg (hvalid.not.mpr h)]
    constructor
    · simp [bind, Except.bind, h]
    · intro failure
      simp [bind, Except.bind, firstViolated_cons_of_not_holds h, eq_comm]

lemma Checks.singleton {holds : Prop} {fault : LayoutFault} {valid : Bool}
    (hvalid : valid = true ↔ holds) :
    Checks (if valid then .ok () else .error (.layout fault)) [⟨holds, fault⟩] := by
  have h : Checks ((if valid then .ok () else .error (.layout fault)) >>= fun _ => pure ())
      [⟨holds, fault⟩] := Checks.cons hvalid Checks.nil
  rwa [bind_pure_unit] at h

namespace LayoutProposal

/-- The checks of a layout look at its conditions in order. -/
lemma checks_check_propose (layout : Layout) :
    Checks layout.propose.check layout.conditions := by
  simp only [check, Layout.propose, checkVersion_number, checkName_text,
    checkElementType_text]
  exact Checks.cons Number.isPositiveInteger_iff
    (Checks.cons isIdentifier_iff_declarable
      (Checks.cons isIdentifier_iff_declarable (Checks.singleton isSome_vectorLanes?_iff_isVector)))

/-- A proposal leaves nothing to be completed. -/
lemma complete_draft (proposal : LayoutProposal) : proposal.draft.complete = proposal := rfl

end LayoutProposal

/-! ### Partial layouts -/

/-- Some members of a layout, with any annotations. -/
structure PartialLayout where
  version : Option Number := none
  structName : Option String := none
  fieldName : Option String := none
  elementType : Option String := none
  annotations : List (String × Value) := []

namespace PartialLayout

def draft (written : PartialLayout) : LayoutDraft where
  version := written.version.map .number
  structName := written.structName.map .text
  fieldName := written.fieldName.map .text
  elementType := written.elementType.map .text
  annotations := written.annotations

/-- The layout with the written members, the others being those of the default layout. -/
def complete (written : PartialLayout) : Layout :=
  let standard : Layout := {}
  { version := written.version.getD standard.version
    structName := written.structName.getD standard.structName
    fieldName := written.fieldName.getD standard.fieldName
    elementType := written.elementType.getD standard.elementType
    annotations := written.annotations }

lemma complete_draft (written : PartialLayout) :
    written.draft.complete = written.complete.propose := by
  simp only [LayoutDraft.complete, draft, complete, Layout.propose, Option.getD_map]

end PartialLayout

lemma LayoutDraft.define_eq_error_iff {draft : LayoutDraft} {failure : Failure} :
    draft.define = .error failure ↔ draft.complete.check = .error failure := by
  cases h : draft.complete.check <;> simp [define, h, bind, Except.bind, pure, Except.pure]

/-- What a definition gives is defined by itself. -/
lemma LayoutDraft.define_draft_of_define {draft : LayoutDraft} {proposal : LayoutProposal}
    (h : draft.define = .ok proposal) : proposal.draft.define = .ok proposal := by
  obtain ⟨hcheck, rfl⟩ := define_eq_ok_iff.mp h
  rw [define_eq_ok_iff, LayoutProposal.complete_draft]
  exact ⟨hcheck, rfl⟩

/-- The last line of the struct has no line break behind it, and nothing is read in it. -/
lemma structs_inspect_structLines {layout : Layout} (h : layout.WellNamed) :
    (inspect ("\n".intercalate layout.structLines)).structs = [layout.structName] := by
  have hopening := findsLines_struct?_opening h [] rfl
  have hclose : ∀ before, Finds struct? before "\x7d;".toList [] :=
    fun before => Finds.of_marks struct?_closesWith (by decide)
  simpa [inspect, Layout.structLines] using (hopening.append (hclose _)).all

/-! ### Definition -/

lemma Layout.wellNamed_of_conditions {layout : Layout}
    (h : ∀ condition ∈ layout.conditions, condition.holds) : layout.WellNamed := by
  simp only [conditions, List.forall_mem_cons] at h
  obtain ⟨_, hstruct, hfield, helement, _⟩ := h
  exact ⟨isName_of_isIdentifier (isIdentifier_iff_declarable.mpr hstruct),
    isName_of_isIdentifier (isIdentifier_iff_declarable.mpr hfield),
    vectorLanes?_isSome_iff.mp (isSome_vectorLanes?_iff_isVector.mpr helement)⟩

/-- A partial layout is defined exactly when its completion meets the conditions. Otherwise the
failure is the fault of the first condition that it violates. The completion then is what is
defined: it can be defined again, it has the lanes of its vector type, and its struct is found in
the text that declares it. -/
theorem PartialLayout.define_exact (written : PartialLayout) :
    (∀ result, written.draft.define = .ok result ↔
      (∀ condition ∈ written.complete.conditions, condition.holds) ∧
        result = written.complete.propose) ∧
    (∀ failure, written.draft.define = .error failure ↔
      ∃ fault, FirstViolated written.complete.conditions fault ∧ failure = .layout fault) ∧
    (∀ result, written.draft.define = .ok result →
      result.draft.define = .ok result ∧
      (∃ lanes, IsVector lanes written.complete.elementType ∧
        vectorLanes written.complete.elementType = .ok (Number.ofInt lanes)) ∧
      (inspect ("\n".intercalate written.complete.structLines)).structs =
        [written.complete.structName]) := by
  have hchecks := LayoutProposal.checks_check_propose written.complete
  have hok : ∀ result, written.draft.define = .ok result ↔
      (∀ condition ∈ written.complete.conditions, condition.holds) ∧
        result = written.complete.propose := by
    intro result
    rw [LayoutDraft.define_eq_ok_iff, written.complete_draft, hchecks.ok_iff, eq_comm]
  refine ⟨hok, ?_, ?_⟩
  · intro failure
    rw [LayoutDraft.define_eq_error_iff, written.complete_draft, hchecks.error_iff]
  · intro result hdefine
    have hconditions := ((hok result).mp hdefine).1
    have hvector : ∃ lanes, IsVector lanes written.complete.elementType :=
      hconditions ⟨_, .elementType written.complete.elementType⟩ (by simp [Layout.conditions])
    obtain ⟨lanes, hlanes⟩ := hvector
    exact ⟨LayoutDraft.define_draft_of_define hdefine,
      ⟨lanes, hlanes, vectorLanes_of_isVector hlanes⟩,
      structs_inspect_structLines (Layout.wellNamed_of_conditions hconditions)⟩

def underscored : PartialLayout := { structName := some "_a1", elementType := some "vec3<u32>" }

/-- A struct name that starts with two underscores, and five lanes. -/
def misnamed : PartialLayout := { structName := some "__a", elementType := some "vec5<f32>" }

/-- One underscore may start a name. Of a reserved name and an unknown element type, the name is
the first fault. -/
theorem PartialLayout.define_exact_underscores :
    underscored.draft.define = .ok underscored.complete.propose ∧
      (inspect ("\n".intercalate underscored.complete.structLines)).structs = ["_a1"] ∧
      misnamed.draft.define = .error (.layout (.structName "__a")) := by
  have hone : ∃ n : ℕ, 1 ≤ n ∧ (1 : Number) = Number.ofInt n := ⟨1, le_rfl, rfl⟩
  have hdata : Declarable "data".toList := .letter (by decide) (by decide)
  have hname : Declarable "_a1".toList := .underscore (by decide) (by decide) (by decide)
  have hreserved : ¬ Declarable "__a".toList := by
    rw [← isIdentifier_iff_declarable]
    decide
  have hconditions : ∀ condition ∈ underscored.complete.conditions, condition.holds := by
    simp only [Layout.conditions, List.forall_mem_cons]
    exact ⟨hone, hname, hdata, ⟨3, by decide, "u32", by decide, rfl⟩, by simp⟩
  have hdefine := ((define_exact underscored).1 _).mpr ⟨hconditions, rfl⟩
  have hfirst : FirstViolated misnamed.complete.conditions (.structName "__a") :=
    .later hone (.here hreserved)
  exact ⟨hdefine, ((define_exact underscored).2.2 _ hdefine).2.2,
    ((define_exact misnamed).2.1 _).mpr ⟨_, hfirst, rfl⟩⟩

end Elementwise
