import Elementwise.Proofs.Inspection.Reader
import Elementwise.Proofs.Number.Printer

/-!
# The declarations of a text

A text in declared form is made of storage bindings, entry points and fillers, in any order and with
any layout. Every declaration is read wherever it stands, and it is passed over by the reader of the
other kind. Hence the inspector finds the declarations that were written, as long as the fillers
between two declarations do not spell the opening of another one together.
-/

namespace Elementwise

open Scan Text Inspection

namespace Form

/-! ### Words of declarations -/

/-- Blanks, possibly none. -/
structure Blanks where
  chars : List Char
  isBlank : ∀ c ∈ chars, Text.isBlank c = true

structure Space extends Blanks where
  ne_nil : chars ≠ []

structure Name where
  text : String
  isName : Text.isName text.toList = true

/-- The decimal digits of a safe integer, whatever zeros they start with. -/
structure Decimal where
  digits : List Char
  ne_nil : digits ≠ []
  isDigit : ∀ c ∈ digits, c.isDigit = true
  le : Number.digitsValue digits ≤ 2 ^ 53 - 1

def Decimal.value (number : Decimal) : Number := Number.ofInt (Number.digitsValue number.digits)

/-- A type without the marks that end a declaration or open an attribute, trimmed. -/
structure TypeName where
  chars : List Char
  ne_nil : chars ≠ []
  semicolon : ';' ∉ chars
  mark : '@' ∉ chars
  head : ∀ c ∈ chars.head?, Text.isBlank c = false
  last : ∀ c ∈ chars.getLast?, Text.isBlank c = false

lemma Blanks.not_mem (blanks : Blanks) {mark : Char} (hmark : Text.isBlank mark = false) :
    mark ∉ blanks.chars :=
  not_mem_of_forall blanks.isBlank hmark

lemma Decimal.not_mem (number : Decimal) {mark : Char} (hmark : mark.isDigit = false) :
    mark ∉ number.digits :=
  not_mem_of_forall number.isDigit hmark

/-! No attribute opens in a word of a declaration. -/

@[simp] lemma Blanks.at_not_mem (blanks : Blanks) : '@' ∉ blanks.chars :=
  blanks.not_mem (by decide)

@[simp] lemma Decimal.at_not_mem (number : Decimal) : '@' ∉ number.digits :=
  number.not_mem (by decide)

@[simp] lemma Name.at_not_mem (name : Name) : '@' ∉ name.text.toList :=
  not_mem_of_isName name.isName (by decide)

lemma Decimal.lt (number : Decimal) : Number.digitsValue number.digits < 2 ^ 53 := by
  have := number.le
  omega

lemma Decimal.ofNumeral_digits (number : Decimal) :
    Number.ofNumeral number.digits = number.value :=
  Number.ofNumeral_of_forall_isDigit number.ne_nil number.isDigit number.lt

lemma Decimal.ofIntegerStart_digits (number : Decimal) :
    Number.ofIntegerStart number.digits = number.value :=
  Number.ofIntegerStart_of_forall_isDigit number.ne_nil number.isDigit number.lt

/-! ### Storage bindings -/

/-- A written access mode, with the blanks around the comma before it. -/
structure Mode where
  beforeComma : Blanks
  afterComma : Blanks
  mode : StorageMode

/-- What stands between `var<storage` and the bracket. -/
def modeText : Option Mode → List Char
  | none => []
  | some written =>
    written.beforeComma.chars ++ ',' :: (written.afterComma.chars ++ written.mode.keyword.toList)

/-- A storage binding as it is written. -/
structure Binding where
  group : Decimal
  afterGroup : Blanks
  slot : Decimal
  afterSlot : Blanks
  mode : Option Mode
  beforeName : Space
  name : Name
  afterName : Blanks
  beforeType : Blanks
  type : TypeName
  afterType : Blanks

namespace Binding

def text (form : Binding) : List Char :=
  "@group(".toList ++ form.group.digits ++ ")".toList ++ form.afterGroup.chars ++
    "@binding(".toList ++ form.slot.digits ++ ")".toList ++ form.afterSlot.chars ++
    "var<storage".toList ++ modeText form.mode ++ ">".toList ++ form.beforeName.chars ++
    form.name.text.toList ++ form.afterName.chars ++ ":".toList ++ form.beforeType.chars ++
    form.type.chars ++ form.afterType.chars ++ [';']

/-- The binding that is declared. Without a mode it is read-only. -/
def declared (form : Binding) : StorageBinding where
  group := form.group.value
  slot := form.slot.value
  mode := (form.mode.map Mode.mode).getD .read
  name := form.name.text
  type := String.ofList form.type.chars

end Binding

lemma at_not_mem_modeText (written : Option Mode) : '@' ∉ modeText written := by
  have hkeyword : ∀ mode : StorageMode, '@' ∉ mode.keyword.toList := by
    intro mode
    cases mode <;> decide
  cases written with
  | none => simp [modeText]
  | some written => simp [modeText, hkeyword]

lemma mode?_modeText (written : Option Mode) (rest : List Char) :
    mode? (modeText written ++ ">".toList ++ rest) =
      some ((written.map Mode.mode).getD .read, rest) := by
  apply mode?_eq_some_iff.mpr
  cases written with
  | none => exact Or.inl ⟨rfl, rfl⟩
  | some written =>
    exact Or.inr ⟨written.beforeComma.chars, written.afterComma.chars,
      written.beforeComma.isBlank, written.afterComma.isBlank, by simp [modeText]⟩

lemma typeText?_type (front back : Blanks) (type : TypeName) :
    typeText? (front.chars ++ (type.chars ++ back.chars)) = some type.chars :=
  typeText?_of_trim type.ne_nil
    (trim_append_of_boundary type.ne_nil front.isBlank back.isBlank type.head type.last)

lemma binding?_text (form : Binding) (before rest : List Char) :
    binding? before (form.text ++ rest) = some (form.declared, rest) := by
  have hblanks : ∀ blanks : Blanks, ';' ∉ blanks.chars := fun blanks => blanks.not_mem (by decide)
  have hsemicolon : ';' ∉ form.beforeType.chars ++ (form.type.chars ++ form.afterType.chars) := by
    simp [hblanks, form.type.semicolon]
  have hform := @binding?_of_form before rest form.group.digits form.slot.digits
    (modeText form.mode ++ ">".toList) form.afterGroup.chars form.afterSlot.chars
    form.beforeName.chars form.afterName.chars _ _ _ form.name.text
    ⟨form.group.ne_nil, form.group.isDigit⟩ form.afterGroup.isBlank
    ⟨form.slot.ne_nil, form.slot.isDigit⟩ form.afterSlot.isBlank (mode?_modeText form.mode)
    ⟨form.beforeName.ne_nil, form.beforeName.isBlank⟩ form.name.isName form.afterName.isBlank
    hsemicolon (typeText?_type form.beforeType form.afterType form.type)
  rw [Decimal.ofNumeral_digits, Decimal.ofNumeral_digits] at hform
  unfold Binding.text
  simp only [List.append_assoc, List.singleton_append] at hform ⊢
  exact hform

/-- A binding has two attributes, and neither opens an entry point. -/
lemma quiet_binding (form : Binding) : Quiet "@compute".toList form.text := by
  have hgroup : Quiet "@compute".toList
      (form.group.digits ++ (")".toList ++ form.afterGroup.chars)) :=
    Quiet.of_not_mem '@' (by decide) (by simp)
  have hslot : Quiet "@compute".toList
      (form.slot.digits ++ (")".toList ++ (form.afterSlot.chars ++ ("var<storage".toList ++
        (modeText form.mode ++ (">".toList ++ (form.beforeName.chars ++ (form.name.text.toList ++
        (form.afterName.chars ++ (":".toList ++ (form.beforeType.chars ++ (form.type.chars ++
        (form.afterType.chars ++ [';']))))))))))))) := by
    apply Quiet.of_not_mem '@' (by decide)
    simp [at_not_mem_modeText, form.type.mark]
  have hquiet := (show Quiet "@compute".toList "@group(".toList by decide).append (hgroup.append
    ((show Quiet "@compute".toList "@binding(".toList by decide).append hslot))
  unfold Binding.text
  simp only [List.append_assoc] at hquiet ⊢
  exact hquiet

/-! ### Entry points -/

/-- An argument of the workgroup size, with the blanks around it. -/
structure Argument where
  before : Blanks
  number : Decimal
  after : Blanks

def Argument.text (argument : Argument) : List Char :=
  argument.before.chars ++ (argument.number.digits ++ argument.after.chars)

def argumentsText (arguments : List Argument) : List Char :=
  [','].intercalate (arguments.map Argument.text)

structure EntryHead where
  afterCompute : Space
  arguments : List Argument
  afterArguments : Blanks
  beforeName : Space
  name : Name
  afterName : Blanks

namespace EntryHead

def text (form : EntryHead) : List Char :=
  "@compute".toList ++ form.afterCompute.chars ++ "@workgroup_size(".toList ++
    argumentsText form.arguments ++ [')'] ++ form.afterArguments.chars ++ "fn".toList ++
    form.beforeName.chars ++ form.name.text.toList ++ form.afterName.chars ++ "(".toList

/-- The number at a position of the workgroup size, 1 where none is written. -/
def size (form : EntryHead) (position : Nat) : Number :=
  (form.arguments[position]?.map fun argument => argument.number.value).getD 1

/-- The entry point that is declared. -/
def declared (form : EntryHead) : EntryPoint where
  name := form.name.text
  workgroupSize := ⟨form.size 0, form.size 1, form.size 2⟩

end EntryHead

lemma Argument.not_mem (argument : Argument) {mark : Char} (hblank : Text.isBlank mark = false)
    (hdigit : mark.isDigit = false) : mark ∉ argument.text := by
  simp [Argument.text, Blanks.not_mem, Decimal.not_mem, hblank, hdigit]

lemma not_mem_argumentsText (arguments : List Argument) {mark : Char}
    (hblank : Text.isBlank mark = false) (hdigit : mark.isDigit = false) (hcomma : mark ≠ ',') :
    mark ∉ argumentsText arguments := by
  unfold argumentsText
  induction arguments with
  | nil => simp
  | cons argument arguments ih =>
    have hargument := argument.not_mem hblank hdigit
    cases arguments with
    | nil => simpa using hargument
    | cons next arguments =>
      rw [List.map_cons, List.map_cons, List.intercalate_cons_cons, List.append_assoc,
        List.mem_append, List.mem_append, not_or, not_or]
      exact ⟨hargument, by simpa using hcomma, ih⟩

lemma Argument.trim_text (argument : Argument) : trim argument.text = argument.number.digits := by
  have hdigits : ∀ c ∈ argument.number.digits, Text.isBlank c = false := fun c hc =>
    isBlank_eq_false_of_isNumeralChar (isNumeralChar_of_isDigit (argument.number.isDigit c hc))
  exact trim_append_of_not_isBlank argument.number.ne_nil argument.before.isBlank
    argument.after.isBlank hdigits

/-- The digits of the arguments are found between the commas. -/
lemma map_trim_splitOn {arguments : List Argument} (hne : arguments ≠ []) :
    ((argumentsText arguments).splitOn ',').map trim =
      arguments.map fun argument => argument.number.digits := by
  have hcomma : ∀ text ∈ arguments.map Argument.text, ',' ∉ text := by
    intro text htext
    obtain ⟨argument, _, rfl⟩ := List.mem_map.mp htext
    exact argument.not_mem (by decide) (by decide)
  have hsplit : (argumentsText arguments).splitOn ',' = arguments.map Argument.text :=
    List.splitOn_intercalate ',' hcomma (by simpa using hne)
  have htrim : trim ∘ Argument.text = fun argument => argument.number.digits :=
    funext Argument.trim_text
  rw [hsplit, List.map_map, htrim]

/-- Without arguments there is one empty text, which is passed over. -/
lemma filter_map_trim_splitOn (arguments : List Argument) :
    (((argumentsText arguments).splitOn ',').map trim).filter (fun a => !a.isEmpty) =
      arguments.map fun argument => argument.number.digits := by
  rcases eq_or_ne arguments [] with rfl | hne
  · rfl
  · rw [map_trim_splitOn hne, List.filter_eq_self]
    intro digits hdigits
    obtain ⟨argument, _, rfl⟩ := List.mem_map.mp hdigits
    simp [argument.number.ne_nil]

lemma workgroupSize_argumentsText (arguments : List Argument) :
    let sizes := arguments.map fun argument => argument.number.value
    workgroupSize (argumentsText arguments) =
      ⟨sizes[0]?.getD 1, sizes[1]?.getD 1, sizes[2]?.getD 1⟩ := by
  have hvalue : Number.ofIntegerStart ∘ (fun argument : Argument => argument.number.digits) =
      fun argument => argument.number.value :=
    funext fun argument => argument.number.ofIntegerStart_digits
  simp only [workgroupSize, filter_map_trim_splitOn, List.map_map, hvalue]

lemma entryPoint?_text (form : EntryHead) (before rest : List Char) :
    entryPoint? before (form.text ++ rest) = some (form.declared, rest) := by
  have hparen : ')' ∉ argumentsText form.arguments :=
    not_mem_argumentsText form.arguments (by decide) (by decide) (by decide)
  have hform := @entryPoint?_of_form before rest form.afterCompute.chars _
    form.afterArguments.chars form.beforeName.chars form.afterName.chars form.name.text
    ⟨form.afterCompute.ne_nil, form.afterCompute.isBlank⟩ hparen form.afterArguments.isBlank
    ⟨form.beforeName.ne_nil, form.beforeName.isBlank⟩ form.name.isName form.afterName.isBlank
  simp only [workgroupSize_argumentsText, List.getElem?_map] at hform
  unfold EntryHead.text
  simp only [List.append_assoc, List.singleton_append] at hform ⊢
  exact hform

/-- The head of an entry point has two attributes, and neither opens a binding. -/
lemma quiet_entryHead (form : EntryHead) : Quiet "@group(".toList form.text := by
  have harguments : '@' ∉ argumentsText form.arguments :=
    not_mem_argumentsText form.arguments (by decide) (by decide) (by decide)
  have hspace : Quiet "@group(".toList form.afterCompute.chars :=
    Quiet.of_not_mem '@' (by decide) form.afterCompute.at_not_mem
  have hrest : Quiet "@group(".toList
      (argumentsText form.arguments ++ ([')'] ++ (form.afterArguments.chars ++ ("fn".toList ++
        (form.beforeName.chars ++ (form.name.text.toList ++ (form.afterName.chars ++
        "(".toList))))))) := by
    apply Quiet.of_not_mem '@' (by decide)
    simp [harguments]
  have hquiet := (show Quiet "@group(".toList "@compute".toList by decide).append (hspace.append
    ((show Quiet "@group(".toList "@workgroup_size(".toList by decide).append hrest))
  unfold EntryHead.text
  simp only [List.append_assoc] at hquiet ⊢
  exact hquiet

/-! ### Texts -/

/-- A declaration as it is written. -/
inductive Declaration where
  | binding (form : Binding)
  | entryPoint (form : EntryHead)

namespace Declaration

def text : Declaration → List Char
  | .binding form => form.text
  | .entryPoint form => form.text

def binding? : Declaration → Option StorageBinding
  | .binding form => some form.declared
  | .entryPoint _ => none

def entryPoint? : Declaration → Option EntryPoint
  | .binding _ => none
  | .entryPoint form => some form.declared

end Declaration

/-- No declaration opens in the text. -/
def Free (text : List Char) : Prop :=
  ¬ "@group(".toList <:+: text ∧ ¬ "@compute".toList <:+: text

instance decidableFree (text : List Char) : Decidable (Free text) :=
  inferInstanceAs (Decidable (_ ∧ _))

/-- A part of a text in declared form. -/
inductive Segment where
  | filler (text : List Char) (free : Free text)
  | declaration (form : Declaration)

def Segment.text : Segment → List Char
  | .filler text _ => text
  | .declaration form => form.text

def Segment.declaration? : Segment → Option Declaration
  | .filler _ _ => none
  | .declaration form => some form

def textOf (segments : List Segment) : List Char := segments.flatMap Segment.text

def declarations (segments : List Segment) : List Declaration :=
  segments.filterMap Segment.declaration?

/-- What stands before, between and behind the declarations, when `lead` has been read already. -/
def gapsFrom (lead : List Char) : List Segment → List (List Char)
  | [] => [lead]
  | .filler text _ :: segments => gapsFrom (lead ++ text) segments
  | .declaration _ :: segments => lead :: gapsFrom [] segments

/-- What stands before, between and behind the declarations: fillers side by side are one text. -/
def gaps (segments : List Segment) : List (List Char) := gapsFrom [] segments

lemma textOf_cons (segment : Segment) (segments : List Segment) :
    textOf (segment :: segments) = segment.text ++ textOf segments :=
  List.flatMap_cons

/-- Every declaration opens with an attribute. -/
lemma Declaration.exists_text_eq (form : Declaration) : ∃ rest, form.text = '@' :: rest := by
  cases form with
  | binding form =>
    obtain ⟨rest, hrest⟩ : "@group(".toList <+: form.text := by
      unfold Binding.text
      simp only [List.append_assoc]
      exact List.prefix_append _ _
    exact ⟨"group(".toList ++ rest, hrest.symm⟩
  | entryPoint form =>
    obtain ⟨rest, hrest⟩ : "@compute".toList <+: form.text := by
      unfold EntryHead.text
      simp only [List.append_assoc]
      exact List.prefix_append _ _
    exact ⟨"compute".toList ++ rest, hrest.symm⟩

lemma Declaration.text_ne_nil (form : Declaration) : form.text ≠ [] := by
  obtain ⟨rest, hrest⟩ := form.exists_text_eq
  simp [hrest]

lemma finds_binding? (form : Declaration) (before : List Char) :
    Finds Inspection.binding? before form.text form.binding?.toList := by
  cases form with
  | binding form =>
    exact Finds.of_read (Declaration.text_ne_nil (.binding form)) (binding?_text form before)
  | entryPoint form => exact Finds.of_quiet binding?_opensWith (quiet_entryHead form)

lemma finds_entryPoint? (form : Declaration) (before : List Char) :
    Finds Inspection.entryPoint? before form.text form.entryPoint?.toList := by
  cases form with
  | binding form => exact Finds.of_quiet entryPoint?_opensWith (quiet_binding form)
  | entryPoint form =>
    exact Finds.of_read (Declaration.text_ne_nil (.entryPoint form)) (entryPoint?_text form before)

section

variable {α : Type} {read : Reader α} {piece : List Char} {declared? : Declaration → Option α}

/-- A reader that finds what each declaration says finds the same in a text of declarations and
fillers, if its opening occurs in no gap. -/
lemma allFrom_textOf (hread : OpensWith read piece) (hhead : '@' ∈ piece.head?)
    (htail : '@' ∉ piece.tail)
    (hfinds : ∀ form before, Finds read before form.text (declared? form).toList)
    {lead before : List Char} {segments : List Segment}
    (hgaps : ∀ gap ∈ gapsFrom lead segments, ¬ piece <:+: gap) :
    allFrom read before 0 (lead ++ textOf segments) =
      (declarations segments).filterMap declared? := by
  -- the fillers read since the last declaration are carried along in `lead`
  induction segments generalizing lead before with
  | nil =>
    have hlead : ¬ piece <:+: lead := hgaps lead List.mem_cons_self
    exact allFrom_filler_append hread hhead htail hlead (by simp [textOf])
  | cons segment segments ih =>
    rw [textOf_cons]
    cases segment with
    | filler text free =>
      have hfound := @ih (lead ++ text) before hgaps
      rw [List.append_assoc] at hfound
      exact hfound
    | declaration form =>
      have hlead : ¬ piece <:+: lead := hgaps lead List.mem_cons_self
      have hrest : ∀ gap ∈ gapsFrom [] segments, ¬ piece <:+: gap :=
        fun gap hgap => hgaps gap (List.mem_cons_of_mem lead hgap)
      have hmark : ∀ c ∈ (form.text ++ textOf segments).head?, c = '@' := by
        obtain ⟨rest, hform⟩ := form.exists_text_eq
        simp [hform]
      calc allFrom read before 0 (lead ++ (form.text ++ textOf segments))
        _ = allFrom read (lead.reverse ++ before) 0 (form.text ++ textOf segments) :=
          allFrom_filler_append hread hhead htail hlead hmark
        _ = (declared? form).toList ++
            allFrom read (form.text.reverse ++ (lead.reverse ++ before)) 0 (textOf segments) :=
          hfinds form (lead.reverse ++ before) (textOf segments)
        _ = (declared? form).toList ++ (declarations segments).filterMap declared? := by
          rw [← List.nil_append (textOf segments), ih hrest]
        _ = (declarations (.declaration form :: segments)).filterMap declared? := by
          cases hdeclared : declared? form <;>
            simp [declarations, Segment.declaration?, hdeclared]

end

end Form

/-- The inspector reads the bindings and entry points of a text in declared form, each once and in
order, if what stands between the declarations holds no opening of another one. -/
theorem inspect_declared (segments : List Form.Segment)
    (hgaps : ∀ gap ∈ Form.gaps segments, Form.Free gap) :
    (inspect (String.ofList (Form.textOf segments))).bindings =
        (Form.declarations segments).filterMap Form.Declaration.binding? ∧
      (inspect (String.ofList (Form.textOf segments))).entryPoints =
        (Form.declarations segments).filterMap Form.Declaration.entryPoint? := by
  simp only [inspect, String.toList_ofList]
  exact ⟨Form.allFrom_textOf binding?_opensWith (by decide) (by decide) Form.finds_binding?
      fun gap hgap => (hgaps gap hgap).1,
    Form.allFrom_textOf entryPoint?_opensWith (by decide) (by decide) Form.finds_entryPoint?
      fun gap hgap => (hgaps gap hgap).2⟩

/-- A binding without a mode, over two lines. -/
def plainBinding : Form.Binding where
  group := ⟨"0".toList, by decide, by decide, by decide⟩
  afterGroup := ⟨[], by decide⟩
  slot := ⟨"007".toList, by decide, by decide, by decide⟩
  afterSlot := ⟨"\r\n\t".toList, by decide⟩
  mode := none
  beforeName := ⟨⟨" ".toList, by decide⟩, by decide⟩
  name := ⟨"read", by decide⟩
  afterName := ⟨[], by decide⟩
  beforeType := ⟨" ".toList, by decide⟩
  type := ⟨"array<f32, 4>".toList, by decide, by decide, by decide, by decide, by decide⟩
  afterType := ⟨"\n".toList, by decide⟩

/-- A binding with blanks wherever they may stand. -/
def spacedBinding : Form.Binding where
  group := ⟨"9007199254740991".toList, by decide, by decide, by decide⟩
  afterGroup := ⟨"\n".toList, by decide⟩
  slot := ⟨"1".toList, by decide, by decide, by decide⟩
  afterSlot := ⟨" ".toList, by decide⟩
  mode := some ⟨⟨" ".toList, by decide⟩, ⟨"\n".toList, by decide⟩, .readWrite⟩
  beforeName := ⟨⟨"  ".toList, by decide⟩, by decide⟩
  name := ⟨"_b", by decide⟩
  afterName := ⟨" ".toList, by decide⟩
  beforeType := ⟨[], by decide⟩
  type := ⟨"T".toList, by decide, by decide, by decide, by decide, by decide⟩
  afterType := ⟨[], by decide⟩

/-- A head over two lines, whose function is named like the keyword before it. -/
def headOf (arguments : List Form.Argument) : Form.EntryHead where
  afterCompute := ⟨⟨"\n".toList, by decide⟩, by decide⟩
  arguments := arguments
  afterArguments := ⟨[], by decide⟩
  beforeName := ⟨⟨" ".toList, by decide⟩, by decide⟩
  name := ⟨"fn", by decide⟩
  afterName := ⟨" ".toList, by decide⟩

/-- More arguments than a workgroup size has components. -/
def fourArguments : List Form.Argument :=
  let four : Form.Argument :=
    ⟨⟨[], by decide⟩, ⟨"4".toList, by decide, by decide, by decide⟩, ⟨" ".toList, by decide⟩⟩
  let eight : Form.Argument :=
    ⟨⟨"\t".toList, by decide⟩, ⟨"08".toList, by decide, by decide, by decide⟩, ⟨[], by decide⟩⟩
  [eight, four, eight, four]

/-- Declarations between fillers. The second and third filler stand side by side. -/
def mixedSegments : List Form.Segment :=
  [.filler "// @".toList (by decide),
   .declaration (.binding plainBinding),
   .filler "@gro".toList (by decide),
   .filler "ping ".toList (by decide),
   .declaration (.entryPoint (headOf fourArguments)),
   .declaration (.binding spacedBinding),
   .filler ")".toList (by decide),
   .declaration (.entryPoint (headOf []))]

theorem inspect_declared_mixed :
    (∀ gap ∈ Form.gaps mixedSegments, Form.Free gap) ∧
      (inspect (String.ofList (Form.textOf mixedSegments))).bindings =
        [⟨0, 7, .read, "read", "array<f32, 4>"⟩,
         ⟨9007199254740991, 1, .readWrite, "_b", "T"⟩] ∧
      (inspect (String.ofList (Form.textOf mixedSegments))).entryPoints =
        [⟨"fn", ⟨8, 4, 8⟩⟩, ⟨"fn", ⟨1, 1, 1⟩⟩] := by
  have hgaps : ∀ gap ∈ Form.gaps mixedSegments, Form.Free gap := by decide
  exact ⟨hgaps, inspect_declared mixedSegments hgaps⟩

/-- Two fillers that spell the opening of a binding together. -/
def splitOpening : List Form.Segment :=
  [.filler "@gro".toList (by decide),
   .filler "up(0) @binding(0) var<storage> x: @T;".toList (by decide)]

theorem inspect_splitOpening :
    Form.declarations splitOpening = [] ∧
      (inspect (String.ofList (Form.textOf splitOpening))).bindings =
        [⟨0, 0, .read, "x", "@T"⟩] :=
  ⟨rfl, by decide +kernel⟩

end Elementwise
