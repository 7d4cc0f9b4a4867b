import Elementwise.Proofs.Inspection.Declarations
import Elementwise.Proofs.Settings

/-!
# Written workgroup sizes

The settings and the inspector read workgroup sizes by rules of their own. The settings refuse a
text with too many commas or with a part that is no positive integer, and otherwise give a size. On
one to three positive integers in decimal, with any zeros before them and any blanks around them,
both readers give the same size.
-/

namespace Elementwise

open Text

/-! ### Parts of a text -/

/-- There is one part more than there are separators. -/
lemma length_splitOn (separator : Char) (text : List Char) :
    (text.splitOn separator).length = text.count separator + 1 := by
  induction text with
  | nil => rfl
  | cons c text ih =>
    rw [List.splitOn_cons_eq_if_modifyHead, List.count_cons]
    split
    · rw [List.length_cons, ih]
    · rw [List.length_modifyHead, ih]

namespace Settings

variable {written : String}

/-- A text is refused for its number of parts, for one of its parts, or not at all. -/
lemma workgroupSizeOf_cases (hne : written ≠ "") :
    (3 ≤ written.toList.count ',' ∧
        workgroupSizeOf written = .error (.tooManyDimensions written)) ∨
      (written.toList.count ',' < 3 ∧
        (workgroupSizeOf written = .error (.invalidDimension written) ∨
          ∃ size, workgroupSizeOf written = .ok (some size))) := by
  have hempty : written.isEmpty = false := by simpa using hne
  simp only [workgroupSizeOf, hempty, List.length_map, length_splitOn, Bool.false_eq_true,
    if_false]
  split_ifs with hcount hany
  · exact Or.inl ⟨by omega, rfl⟩
  · exact Or.inr ⟨by omega, Or.inl rfl⟩
  · exact Or.inr ⟨by omega, Or.inr ⟨_, rfl⟩⟩

lemma exists_nat_of_workgroupSizeOf {size : Extent}
    (h : workgroupSizeOf written = .ok (some size)) :
    ∃ x y z : ℕ, (1 ≤ x ∧ 1 ≤ y ∧ 1 ≤ z) ∧
      size = ⟨Number.ofInt x, Number.ofInt y, Number.ofInt z⟩ := by
  have hdimensions := isDimensions_of_workgroupSizeOf h
  simp only [Extent.IsDimensions, Extent.toList, List.forall_mem_cons] at hdimensions
  obtain ⟨⟨x, hx, _, hxEq⟩, ⟨y, hy, _, hyEq⟩, ⟨z, hz, _, hzEq⟩, _⟩ := hdimensions
  exact ⟨x, y, z, ⟨hx, hy, hz⟩, by rw [← hxEq, ← hyEq, ← hzEq]⟩

end Settings

/-! ### Written integers -/

/-- The extent of up to three sizes, missing ones being 1. -/
def Extent.padded (sizes : List Number) : Extent :=
  ⟨sizes[0]?.getD 1, sizes[1]?.getD 1, sizes[2]?.getD 1⟩

namespace Form

/-- A positive safe integer in decimal, with zeros before it and blanks around it. -/
structure Dimension where
  before : Blanks
  zeros : ℕ
  value : ℕ
  pos : 1 ≤ value
  le : value ≤ 2 ^ 53 - 1
  after : Blanks

namespace Dimension

def digits (dimension : Dimension) : List Char :=
  List.replicate dimension.zeros '0' ++ Nat.toDigits 10 dimension.value

def text (dimension : Dimension) : List Char :=
  dimension.before.chars ++ (dimension.digits ++ dimension.after.chars)

lemma isDigit_of_mem_digits {dimension : Dimension} {c : Char} (h : c ∈ dimension.digits) :
    c.isDigit = true := by
  rcases List.mem_append.mp h with h | h
  · rw [(List.mem_replicate.mp h).2]
    decide
  · exact Nat.isDigit_of_mem_toDigits (by norm_num) le_rfl h

lemma digitsValue_digits (dimension : Dimension) :
    Number.digitsValue dimension.digits = dimension.value := by
  rw [digits, Number.digitsValue, Nat.ofDigitChars_append, Nat.ofDigitChars_replicate_zero,
    mul_zero, Nat.ofDigitChars_ten_toDigits]

/-- The dimension as an argument of a workgroup size. -/
def argument (dimension : Dimension) : Argument where
  before := dimension.before
  number :=
    { digits := dimension.digits
      ne_nil := by simp [digits, Nat.toDigits_ne_nil]
      isDigit := fun _ => isDigit_of_mem_digits
      le := by rw [digitsValue_digits]; exact dimension.le }
  after := dimension.after

end Dimension

def sizeText (dimensions : List Dimension) : List Char :=
  [','].intercalate (dimensions.map Dimension.text)

def sizesOf (dimensions : List Dimension) : List Number :=
  dimensions.map fun dimension => Number.ofInt dimension.value

variable {dimensions : List Dimension}

lemma sizeText_eq (dimensions : List Dimension) :
    sizeText dimensions = argumentsText (dimensions.map Dimension.argument) := by
  rw [argumentsText, List.map_map]
  rfl

lemma map_value_argument (dimensions : List Dimension) :
    ((dimensions.map Dimension.argument).map fun argument => argument.number.value) =
      sizesOf dimensions := by
  have hvalue : ∀ dimension : Dimension,
      dimension.argument.number.value = Number.ofInt dimension.value := by
    intro dimension
    rw [Decimal.value]
    exact congrArg (fun n : ℕ => Number.ofInt n) dimension.digitsValue_digits
  simp [sizesOf, hvalue]

/-- The inspector reads the written sizes. -/
lemma workgroupSize_sizeText (dimensions : List Dimension) :
    Inspection.workgroupSize (sizeText dimensions) = Extent.padded (sizesOf dimensions) := by
  rw [sizeText_eq, workgroupSize_argumentsText, map_value_argument, Extent.padded]

/-- The settings read the written sizes, if there are one to three of them. -/
lemma workgroupSizeOf_sizeText (hne : dimensions ≠ []) (hlength : dimensions.length ≤ 3) :
    Settings.workgroupSizeOf (String.ofList (sizeText dimensions)) =
      .ok (some (Extent.padded (sizesOf dimensions))) := by
  have hpositive : ∀ a ∈ sizesOf dimensions, a.isPositiveInteger = true := by
    intro a ha
    obtain ⟨dimension, _, rfl⟩ := List.mem_map.mp ha
    exact Number.isPositiveInteger_iff.mpr ⟨dimension.value, dimension.pos, rfl⟩
  have hsizes : ((String.ofList (sizeText dimensions)).toList.splitOn ',').map
      (fun part => Number.ofNumeral (trim part)) = sizesOf dimensions := by
    calc ((String.ofList (sizeText dimensions)).toList.splitOn ',').map
          (fun part => Number.ofNumeral (trim part))
      _ = (((sizeText dimensions).splitOn ',').map trim).map Number.ofNumeral := by
        rw [String.toList_ofList, List.map_map]
        rfl
      _ = ((dimensions.map Dimension.argument).map fun argument => argument.number.digits).map
          Number.ofNumeral := by
        rw [sizeText_eq, map_trim_splitOn (by simpa using hne)]
      _ = (dimensions.map Dimension.argument).map fun argument => argument.number.value := by
        rw [List.map_map]
        exact List.map_congr_left fun argument _ => argument.number.ofNumeral_digits
      _ = sizesOf dimensions := map_value_argument dimensions
  have hwritten : String.ofList (sizeText dimensions) ≠ "" := by
    -- the empty text would be read as zero
    intro hempty
    rw [hempty] at hsizes
    have hzero : (0 : Number) ∈ sizesOf dimensions := by
      rw [← hsizes]
      decide
    exact absurd (hpositive 0 hzero) (by decide)
  exact Settings.workgroupSizeOf_eq_ok hwritten hsizes (by simpa [sizesOf] using hlength) hpositive

end Form

open Settings in
/-- Workgroup sizes are read exactly, and alike by the settings and the inspector. A text that is
not empty is refused for too many dimensions exactly when it has three commas or more. Otherwise it
is refused for a dimension that is no positive integer, or it gives three positive integers. One to
three positive safe integers in decimal, with zeros before them and blanks around them, are read by
both readers, and missing ones are 1. -/
theorem workgroupSizeOf_exact :
    (∀ written : String, written ≠ "" →
      (workgroupSizeOf written = .error (.tooManyDimensions written) ↔
        3 ≤ written.toList.count ',') ∧
      (written.toList.count ',' < 3 →
        workgroupSizeOf written = .error (.invalidDimension written) ∨
        ∃ x y z : ℕ, (1 ≤ x ∧ 1 ≤ y ∧ 1 ≤ z) ∧ workgroupSizeOf written =
          .ok (some ⟨Number.ofInt x, Number.ofInt y, Number.ofInt z⟩))) ∧
    ∀ dimensions : List Form.Dimension, 1 ≤ dimensions.length → dimensions.length ≤ 3 →
      let size := Extent.padded (dimensions.map fun dimension => Number.ofInt dimension.value)
      workgroupSizeOf (String.ofList (Form.sizeText dimensions)) = .ok (some size) ∧
        Inspection.workgroupSize (Form.sizeText dimensions) = size := by
  constructor
  · intro written hne
    rcases workgroupSizeOf_cases hne with ⟨hcount, hrefused⟩ | ⟨hcount, hread⟩
    · exact ⟨iff_of_true hrefused hcount, fun hfew => absurd hcount (by omega)⟩
    · -- with fewer commas the text is refused for a dimension, or it is read
      refine ⟨iff_of_false ?_ (by omega), fun _ => ?_⟩
      · rcases hread with hread | ⟨size, hread⟩
        · rw [hread]
          simp
        · rw [hread]
          simp
      · rcases hread with hread | ⟨size, hread⟩
        · exact Or.inl hread
        · obtain ⟨x, y, z, hpos, rfl⟩ := exists_nat_of_workgroupSizeOf hread
          exact Or.inr ⟨x, y, z, hpos, hread⟩
  · intro dimensions hone hthree size
    have hne : dimensions ≠ [] := List.length_pos_iff.mp hone
    exact ⟨Form.workgroupSizeOf_sizeText hne hthree, Form.workgroupSize_sizeText dimensions⟩

/-- Two dimensions with blanks around them, the first also with zeros before it. -/
def writtenPair : List Form.Dimension :=
  [⟨⟨"\t ".toList, by decide⟩, 2, 64, by decide, by decide, ⟨" \u3000".toList, by decide⟩⟩,
   ⟨⟨"\u00a0".toList, by decide⟩, 0, 9007199254740991, by decide, by decide,
    ⟨"\r\n".toList, by decide⟩⟩]

theorem workgroupSizeOf_exact_pair :
    let written := "\t 0064 \u3000,\u00a09007199254740991\r\n"
    (3 ≤ "1,2,,x".toList.count ',' ∧ 1 ≤ writtenPair.length ∧ writtenPair.length ≤ 3 ∧
        Form.sizeText writtenPair = written.toList) ∧
      Settings.workgroupSizeOf "1,2,,x" = .error (.tooManyDimensions "1,2,,x") ∧
      Settings.workgroupSizeOf written = .ok (some ⟨64, 9007199254740991, 1⟩) ∧
      Inspection.workgroupSize written.toList = ⟨64, 9007199254740991, 1⟩ := by
  intro written
  have hcommas : 3 ≤ "1,2,,x".toList.count ',' := by decide
  have hone : 1 ≤ writtenPair.length := by decide
  have hthree : writtenPair.length ≤ 3 := by decide
  have htext : Form.sizeText writtenPair = written.toList := by decide
  obtain ⟨hrefuses, hreads⟩ := workgroupSizeOf_exact
  have hpair := hreads writtenPair hone hthree
  rw [htext, String.ofList_toList] at hpair
  exact ⟨⟨hcommas, hone, hthree, htext⟩, (hrefuses "1,2,,x" (by decide)).1.mpr hcommas, hpair⟩

end Elementwise
