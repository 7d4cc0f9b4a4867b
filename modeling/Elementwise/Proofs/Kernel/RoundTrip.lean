import Elementwise.Kernel
import Elementwise.Proofs.Inspection.Lines
import Elementwise.Proofs.Inspection.Reader
import Elementwise.Proofs.Layout
import Elementwise.Proofs.Number.Written

/-!
# Inspecting generated kernels

A kernel made from names is inspected line by line. Each of the four scans finds the declarations
that were written and nothing beside them, whatever the names are: a keyword of the shader language
may serve as a name, and names may coincide.
-/

namespace Elementwise

open Scan Text Inspection

/-! ### Names and sizes -/

/-- All that is substituted into the text of a kernel, the workgroup size apart, has its form. -/
structure Kernel.WellNamed (input output function : String) (options : KernelOptions) : Prop where
  input : isName input.toList = true
  output : isName output.toList = true
  function : isName function.toList = true
  entryPoint : isName options.entryPoint.toList = true
  layout : options.layout.WellNamed

/-- A mark that is no word character occurs in none of the names. -/
lemma Kernel.WellNamed.not_mem {input output function : String} {options : KernelOptions}
    (h : Kernel.WellNamed input output function options) {mark : Char}
    (hmark : isWordChar mark = false) :
    (mark ∉ input.toList ∧ mark ∉ output.toList ∧ mark ∉ function.toList) ∧
      mark ∉ options.layout.structName.toList ∧ mark ∉ options.layout.fieldName.toList :=
  ⟨⟨not_mem_of_isName h.input hmark, not_mem_of_isName h.output hmark,
    not_mem_of_isName h.function hmark⟩,
    not_mem_of_isName h.layout.structName hmark, not_mem_of_isName h.layout.fieldName hmark⟩

lemma Kernel.code_generate (input output function : String) (options : KernelOptions) :
    (Kernel.generate input output function options).code.toList =
      textOf (options.layout.structLines ++
        ["",
         Kernel.bufferLine "0" "read" input options.layout.structName,
         Kernel.bufferLine "1" "read_write" output options.layout.structName,
         "",
         Kernel.attributeLine options.workgroupSize,
         Kernel.headLine options.entryPoint,
         "    let gidx = global_id.x;",
         Kernel.assignmentLine input output function options.layout.fieldName,
         "\x7d"]) := by
  simp [Kernel.generate, Kernel.lines, Layout.structLines]

lemma Extent.toList_joinNumbers (separator : String) (size : Extent) :
    (joinNumbers separator size.toList).toList =
      size.x.text.toList ++ (separator.toList ++ (size.y.text.toList ++
        (separator.toList ++ size.z.text.toList))) := by
  simp [joinNumbers, Extent.toList]

lemma Extent.not_mem_joinNumbers {mark : Char} (hmark : isNumeralChar mark = false)
    (hseparator : mark ∉ ", ".toList) (size : Extent) :
    mark ∉ (joinNumbers ", " size.toList).toList := by
  rw [Extent.toList_joinNumbers]
  simp only [List.mem_append, not_or]
  exact ⟨Number.not_mem_text hmark _, hseparator, Number.not_mem_text hmark _, hseparator,
    Number.not_mem_text hmark _⟩

lemma Layout.toList_fieldLine (layout : Layout) :
    ("    " ++ layout.fieldName ++ ": array<" ++ layout.elementType ++ ">,").toList =
      "    ".toList ++ layout.fieldName.toList ++ ": array<".toList ++ layout.elementType.toList ++
        ">,".toList := by
  simp only [String.toList_append]

lemma Kernel.toList_bufferLine (slot mode name structName : String) :
    (Kernel.bufferLine slot mode name structName).toList =
      "@group(0) @binding(".toList ++ slot.toList ++ ") var<storage, ".toList ++ mode.toList ++
        "> ".toList ++ name.toList ++ ": ".toList ++ structName.toList ++ ";".toList := by
  unfold Kernel.bufferLine
  simp only [String.toList_append]

lemma Kernel.toList_attributeLine (size : Extent) :
    (Kernel.attributeLine size).toList =
      "@compute @workgroup_size(".toList ++ (joinNumbers ", " size.toList).toList ++
        ")".toList := by
  unfold Kernel.attributeLine
  simp only [String.toList_append]

lemma Kernel.toList_headLine (entryPoint : String) :
    (Kernel.headLine entryPoint).toList =
      "fn ".toList ++ entryPoint.toList ++
        "(@builtin(global_invocation_id) global_id: vec3<u32>) \x7b".toList := by
  unfold Kernel.headLine
  simp only [String.toList_append]

lemma Kernel.toList_assignmentLine (input output function field : String) :
    (Kernel.assignmentLine input output function field).toList =
      "    ".toList ++ output.toList ++ ".".toList ++ field.toList ++ "[gidx] = ".toList ++
        function.toList ++ "(".toList ++ input.toList ++ ".".toList ++ field.toList ++
        "[gidx]);".toList := by
  unfold Kernel.assignmentLine
  simp only [String.toList_append]

/-! ### Structs -/

/-- The struct is found in the lines before the closing one. -/
lemma findsLines_struct?_opening {layout : Layout} (h : layout.WellNamed) :
    FindsLines struct?
      ["struct " ++ layout.structName ++ " \x7b",
       "    " ++ layout.fieldName ++ ": array<" ++ layout.elementType ++ ">,"]
      [layout.structName] := by
  have hhead : FindsLines struct? ["struct " ++ layout.structName ++ " \x7b"]
      [layout.structName] := by
    apply FindsLines.of_line struct?_closesWith
    intro before hbefore
    apply Finds.of_read (by simp)
    intro rest
    apply struct?_eq_some_iff.mpr
    exact ⟨hbefore, [' '], [' '], by decide, by decide, by decide, h.structName, by simp⟩
  have hbody : FindsLines struct?
      ["    " ++ layout.fieldName ++ ": array<" ++ layout.elementType ++ ">,"] [] := by
    apply FindsLines.of_ended struct?_closesWith
    have hfield := not_mem_of_isName h.fieldName (show isWordChar '\x7b' = false by decide)
    have helement := h.not_mem_elementType (show '\x7b' ∉ "vec234<fiu>".toList by decide)
    rw [List.forall_mem_singleton, layout.toList_fieldLine]
    exact Ended.append (by simp [hfield, helement]) (by decide) (by decide)
  exact hhead.append hbody

lemma findsLines_struct?_structLines {layout : Layout} (h : layout.WellNamed) :
    FindsLines struct? layout.structLines [layout.structName] := by
  have hclose : FindsLines struct? ["\x7d;"] [] :=
    FindsLines.of_ended struct?_closesWith (by decide)
  exact (findsLines_struct?_opening h).append hclose

/-- The only other brace of a kernel follows a parenthesis. -/
lemma findsLines_struct?_headLine {entryPoint : String} (h : isName entryPoint.toList = true) :
    FindsLines struct? [Kernel.headLine entryPoint] [] := by
  apply FindsLines.of_line struct?_closesWith
  intro before _
  have hname := not_mem_of_isName h (show isWordChar '\x7b' = false by decide)
  have hfront : Finds struct? before
      (("fn ".toList ++ (entryPoint.toList ++
        "(@builtin(global_invocation_id) global_id: vec3<u32>".toList)) ++ [')']) [] :=
    Finds.of_closed struct?_closesWith (by simp [hname]) (by decide)
  have hback : ∀ front, Finds struct? front " \x7b".toList [] :=
    fun front => Finds.of_marks struct?_closesWith (by decide)
  simpa [Kernel.toList_headLine] using hfront.append (hback _)

variable {input output function : String} {options : KernelOptions}

lemma structs_generate (h : Kernel.WellNamed input output function options) :
    all struct? (Kernel.generate input output function options).code.toList =
      [options.layout.structName] := by
  obtain ⟨⟨hinput, houtput, hfunction⟩, hstruct, hfield⟩ :=
    h.not_mem (show isWordChar '\x7b' = false by decide)
  have hsize := options.workgroupSize.not_mem_joinNumbers
    (show isNumeralChar '\x7b' = false by decide) (by decide)
  have hmiddle : FindsLines struct?
      ["",
       Kernel.bufferLine "0" "read" input options.layout.structName,
       Kernel.bufferLine "1" "read_write" output options.layout.structName,
       "",
       Kernel.attributeLine options.workgroupSize] [] := by
    apply FindsLines.of_ended struct?_closesWith
    simp only [List.forall_mem_cons, Kernel.toList_bufferLine, Kernel.toList_attributeLine]
    refine ⟨by decide, ?_, ?_, by decide, ?_, by simp⟩
    · exact Ended.append (by simp [hinput, hstruct]) (by decide) (by decide)
    · exact Ended.append (by simp [houtput, hstruct]) (by decide) (by decide)
    · exact Ended.append (by simp [hsize]) (by decide) (by decide)
  have hbody : FindsLines struct?
      ["    let gidx = global_id.x;",
       Kernel.assignmentLine input output function options.layout.fieldName,
       "\x7d"] [] := by
    apply FindsLines.of_ended struct?_closesWith
    simp only [List.forall_mem_cons, Kernel.toList_assignmentLine]
    refine ⟨by decide, ?_, by decide, by simp⟩
    exact Ended.append (by simp [hinput, houtput, hfunction, hfield]) (by decide) (by decide)
  rw [Kernel.code_generate]
  exact ((findsLines_struct?_structLines h.layout).append
    (hmiddle.append ((findsLines_struct?_headLine h.entryPoint).append hbody))).all

/-! ### Storage bindings -/

/-- The lines outside of bindings and of the head hold no attribute. -/
lemma not_mem_structLines {layout : Layout} (h : layout.WellNamed) :
    ∀ line ∈ layout.structLines, '@' ∉ line.toList := by
  have hat : isWordChar '@' = false := by decide
  have hstruct := not_mem_of_isName h.structName hat
  have hfield := not_mem_of_isName h.fieldName hat
  have helement := h.not_mem_elementType (show '@' ∉ "vec234<fiu>".toList by decide)
  simp [Layout.structLines, hstruct, hfield, helement]

lemma not_mem_assignmentLine (h : Kernel.WellNamed input output function options) :
    '@' ∉ (Kernel.assignmentLine input output function options.layout.fieldName).toList := by
  obtain ⟨⟨hinput, houtput, hfunction⟩, _, hfield⟩ :=
    h.not_mem (show isWordChar '@' = false by decide)
  simp [Kernel.toList_assignmentLine, hinput, houtput, hfunction, hfield]

/-- A name between a blank and a semicolon is the type of a declaration. -/
lemma typeText?_name {name : String} (h : isName name.toList = true) :
    typeText? (' ' :: name.toList) = some name.toList := by
  have hne : name.toList ≠ [] := by
    intro hnil
    rw [hnil] at h
    cases h
  have hblank : ∀ c ∈ name.toList, isBlank c = false :=
    fun c hc => isBlank_eq_false_of_isWordChar (isWordChar_of_mem_isName h c hc)
  have htrim : trim ([' '] ++ (name.toList ++ [])) = name.toList :=
    trim_append_of_not_isBlank hne (by decide) (by simp) hblank
  rw [List.append_nil, List.singleton_append] at htrim
  exact typeText?_of_trim hne htrim

lemma findsLines_binding?_bufferLine {slot : Char} {name structName : String} (mode : StorageMode)
    (hslot : slot.isDigit = true) (hname : isName name.toList = true)
    (hstruct : isName structName.toList = true) :
    FindsLines binding? [Kernel.bufferLine (String.ofList [slot]) mode.keyword name structName]
      [⟨0, Number.ofNumeral [slot], mode, name, structName⟩] := by
  have hmode : ∀ t, mode? ((", ".toList ++ mode.keyword.toList ++ ['>']) ++ t) =
      some (mode, t) := by
    intro t
    exact mode?_eq_some_iff.mpr (Or.inr ⟨[], [' '], by simp, by decide, by simp⟩)
  have hsemicolon : ';' ∉ ' ' :: structName.toList := by
    simp [not_mem_of_isName hstruct (show isWordChar ';' = false by decide)]
  have hzero : Number.ofNumeral ['0'] = 0 := by decide
  apply FindsLines.singleton
  intro before _
  have hread : Finds binding? before
      (Kernel.bufferLine (String.ofList [slot]) mode.keyword name structName).toList
      [⟨0, Number.ofNumeral [slot], mode, name, structName⟩] := by
    apply Finds.of_read (by simp [Kernel.toList_bufferLine])
    intro rest
    have hform := @binding?_of_form before rest ['0'] [slot] _ [' '] [' '] [' '] [] _ _ mode name
      (by decide) (by decide) ⟨by simp, by simpa using hslot⟩ (by decide) hmode (by decide) hname
      (by simp) hsemicolon (typeText?_name hstruct)
    rw [hzero, String.ofList_toList] at hform
    simpa [Kernel.toList_bufferLine] using hform
  have hbreak : ∀ front, Finds binding? front ['\n'] [] :=
    fun front => Finds.of_quiet binding?_opensWith (by decide)
  exact hread.append (hbreak _)

lemma bindings_generate (h : Kernel.WellNamed input output function options) :
    all binding? (Kernel.generate input output function options).code.toList =
      [⟨0, 0, .read, input, options.layout.structName⟩,
       ⟨0, 1, .readWrite, output, options.layout.structName⟩] := by
  -- no line but the two buffer lines can open a binding, since a mark stands in no name
  have hbreak : Quiet "@group(".toList ['\n'] := by decide
  have hstruct : FindsLines binding? (options.layout.structLines ++ [""]) [] := by
    apply FindsLines.of_quiet binding?_opensWith hbreak
    intro line hline
    apply Quiet.of_not_mem '@' (by decide)
    rcases List.mem_append.mp hline with hline | hline
    · exact not_mem_structLines h.layout line hline
    · simp only [List.mem_singleton] at hline
      simp [hline]
  have hfirst : FindsLines binding?
      [Kernel.bufferLine "0" "read" input options.layout.structName]
      [⟨0, 0, .read, input, options.layout.structName⟩] :=
    findsLines_binding?_bufferLine .read (by decide) h.input h.layout.structName
  have hone : Number.ofNumeral ['1'] = 1 := by decide +kernel
  have hsecond : FindsLines binding?
      [Kernel.bufferLine "1" "read_write" output options.layout.structName]
      [⟨0, 1, .readWrite, output, options.layout.structName⟩] :=
    hone ▸ findsLines_binding?_bufferLine .readWrite (by decide) h.output h.layout.structName
  have hrest : FindsLines binding?
      ["",
       Kernel.attributeLine options.workgroupSize,
       Kernel.headLine options.entryPoint,
       "    let gidx = global_id.x;",
       Kernel.assignmentLine input output function options.layout.fieldName,
       "\x7d"] [] := by
    apply FindsLines.of_quiet binding?_opensWith hbreak
    have hsize := options.workgroupSize.not_mem_joinNumbers
      (show isNumeralChar '@' = false by decide) (by decide)
    have hentry := not_mem_of_isName h.entryPoint (show isWordChar '@' = false by decide)
    simp only [List.forall_mem_cons]
    refine ⟨by decide, ?_, ?_, by decide, ?_, by decide, by simp⟩
    · -- the attribute line has marks of its own, which open something else
      rw [Kernel.toList_attributeLine]
      have hquiet : Quiet "@group(".toList _ := Quiet.of_not_mem '@' (by decide) hsize
      exact (Quiet.append (by decide) hquiet).append (by decide)
    · rw [Kernel.toList_headLine]
      have hquiet : Quiet "@group(".toList _ := Quiet.of_not_mem '@' (by decide) hentry
      exact (Quiet.append (by decide) hquiet).append (by decide)
    · exact Quiet.of_not_mem '@' (by decide) (not_mem_assignmentLine h)
  rw [Kernel.code_generate]
  have hall := (hstruct.append (hfirst.append (hsecond.append hrest))).all
  rw [List.append_assoc] at hall
  exact hall

/-! ### Entry points -/

/-- The attributes and the head of the entry point make one declaration. -/
lemma findsLines_entryPoint?_head {entryPoint : String} (h : isName entryPoint.toList = true)
    (size : Extent) :
    FindsLines entryPoint? [Kernel.attributeLine size, Kernel.headLine entryPoint]
      [⟨entryPoint, workgroupSize (joinNumbers ", " size.toList).toList⟩] := by
  intro before _
  have hsize := size.not_mem_joinNumbers (show isNumeralChar ')' = false by decide) (by decide)
  have hread : Finds entryPoint? before
      ("@compute @workgroup_size(".toList ++ ((joinNumbers ", " size.toList).toList ++
        (")\nfn ".toList ++ (entryPoint.toList ++ "(".toList))))
      [⟨entryPoint, workgroupSize (joinNumbers ", " size.toList).toList⟩] := by
    apply Finds.of_read (by simp)
    intro rest
    have hform := @entryPoint?_of_form before rest [' '] _ ['\n'] [' '] [] entryPoint (by decide)
      hsize (by decide) (by decide) h (by simp)
    simpa using hform
  have hback : ∀ front, Finds entryPoint? front
      "@builtin(global_invocation_id) global_id: vec3<u32>) \x7b\n".toList [] :=
    fun front => Finds.of_quiet entryPoint?_opensWith (by decide)
  simpa [Kernel.toList_attributeLine, Kernel.toList_headLine] using hread.append (hback _)

lemma entryPoints_generate (h : Kernel.WellNamed input output function options) :
    all entryPoint? (Kernel.generate input output function options).code.toList =
      [⟨options.entryPoint,
        workgroupSize (joinNumbers ", " options.workgroupSize.toList).toList⟩] := by
  have hbreak : Quiet "@compute".toList ['\n'] := by decide
  have hstruct : FindsLines entryPoint? options.layout.structLines [] :=
    FindsLines.of_quiet entryPoint?_opensWith hbreak fun line hline =>
      Quiet.of_not_mem '@' (by decide) (not_mem_structLines h.layout line hline)
  have hbuffers : FindsLines entryPoint?
      ["",
       Kernel.bufferLine "0" "read" input options.layout.structName,
       Kernel.bufferLine "1" "read_write" output options.layout.structName,
       ""] [] := by
    apply FindsLines.of_quiet entryPoint?_opensWith hbreak
    obtain ⟨⟨hinput, houtput, _⟩, hname, _⟩ := h.not_mem (show isWordChar '@' = false by decide)
    simp only [List.forall_mem_cons, Kernel.toList_bufferLine, List.append_assoc]
    refine ⟨by decide, ?_, ?_, by decide, by simp⟩
    · exact Quiet.append (by decide) (Quiet.of_not_mem '@' (by decide) (by simp [hinput, hname]))
    · exact Quiet.append (by decide) (Quiet.of_not_mem '@' (by decide) (by simp [houtput, hname]))
  have hbody : FindsLines entryPoint?
      ["    let gidx = global_id.x;",
       Kernel.assignmentLine input output function options.layout.fieldName,
       "\x7d"] [] := by
    apply FindsLines.of_quiet entryPoint?_opensWith hbreak
    simp only [List.forall_mem_cons]
    refine ⟨by decide, ?_, by decide, by simp⟩
    exact Quiet.of_not_mem '@' (by decide) (not_mem_assignmentLine h)
  rw [Kernel.code_generate]
  exact (hstruct.append (hbuffers.append
    ((findsLines_entryPoint?_head h.entryPoint options.workgroupSize).append hbody))).all

/-! ### Calls -/

/-- An attribute is not called. -/
lemma finds_call?_attribute {before word : List Char} (h : ∀ c ∈ word, isWordChar c = true) :
    Finds call? before ('@' :: (word ++ ['('])) [] := by
  have hmark : Finds call? before ['@'] [] := Finds.of_marks call?_closesWith (by decide)
  exact hmark.append (finds_call?_of_refused h (Or.inl rfl))

lemma findsLines_call?_bufferLine {slot mode name structName : String} (hslot : '(' ∉ slot.toList)
    (hmode : '(' ∉ mode.toList) (hname : '(' ∉ name.toList) (hstruct : '(' ∉ structName.toList) :
    FindsLines call? [Kernel.bufferLine slot mode name structName] [] := by
  apply FindsLines.of_line call?_closesWith
  intro before _
  have hgroup : Finds call? before ('@' :: ("group".toList ++ ['('])) [] :=
    finds_call?_attribute (by decide)
  have hzero : ∀ front, Finds call? front ("0".toList ++ [')']) [] := fun front =>
    Finds.of_closed call?_closesWith (by decide) (by decide)
  have hspace : ∀ front, Finds call? front [' '] [] := fun front =>
    Finds.of_marks call?_closesWith (by decide)
  have hbinding : ∀ front, Finds call? front ('@' :: ("binding".toList ++ ['('])) [] :=
    fun front => finds_call?_attribute (by decide)
  have hrest : ∀ front, Finds call? front
      (slot.toList ++ ") var<storage, ".toList ++ mode.toList ++ "> ".toList ++ name.toList ++
        ": ".toList ++ structName.toList ++ [';']) [] := fun front =>
    Finds.of_closed call?_closesWith (by simp [hslot, hmode, hname, hstruct]) (by decide)
  have hline := hgroup.append ((hzero _).append ((hspace _).append ((hbinding _).append
    (hrest _))))
  simpa [Kernel.toList_bufferLine] using hline

lemma findsLines_call?_attributeLine (size : Extent) :
    FindsLines call? [Kernel.attributeLine size] [] := by
  apply FindsLines.of_line call?_closesWith
  intro before _
  have hcompute : Finds call? before ("@compute ".toList ++ ['@']) [] :=
    Finds.of_closed call?_closesWith (by decide) (by decide)
  have hsize : ∀ front, Finds call? ('@' :: front) ("workgroup_size".toList ++ ['(']) [] :=
    fun front => finds_call?_of_refused (by decide) (Or.inl rfl)
  have hnumbers : ∀ front, Finds call? front
      ((joinNumbers ", " size.toList).toList ++ [')']) [] := fun front =>
    Finds.of_closed call?_closesWith (size.not_mem_joinNumbers (by decide) (by decide)) (by decide)
  have hline := hcompute.append ((hsize _).append (hnumbers _))
  simpa [Kernel.toList_attributeLine] using hline

/-- A declared function is not called, and neither is the keyword of its declaration. -/
lemma finds_call?_declared {before : List Char} {name : String} (h : isName name.toList = true)
    (hbefore : insideWord before = false) :
    Finds call? before ("fn ".toList ++ (name.toList ++ ['('])) [] := by
  -- the keyword is a name, but what follows it is another name and no parenthesis
  have hkeyword : ∀ t, call? before ('f' :: 'n' :: ' ' :: (name.toList ++ t)) = none := by
    intro t
    have hread : name? ('f' :: 'n' :: ' ' :: (name.toList ++ t)) =
        some ("fn", ' ' :: (name.toList ++ t)) := rfl
    have hskip : skipBlanks ([' '] ++ (name.toList ++ t)) = name.toList ++ t :=
      skipBlanks_append_of_boundary (by decide) (isBlank_head?_name_append h)
    have hparen : piece? "(" (name.toList ++ t) = none := by
      obtain ⟨c, more, hmore, hc, _⟩ := isName_iff.mp h
      have hne : '(' ≠ c := by
        rintro rfl
        exact absurd hc (by decide)
      simp [piece?, List.isPrefixOf?, hmore, hne]
    rw [List.singleton_append] at hskip
    simp [call?, hread, hskip, hparen]
  -- the declared name is followed by one, and is refused for the keyword before it
  have hrefused : afterFunctionKeyword (' ' :: 'n' :: 'f' :: before) = true := by
    have hopen : afterFunctionKeyword (' ' :: 'n' :: 'f' :: before) = !insideWord before := rfl
    rw [hopen, hbefore]
    rfl
  have hname : Finds call? (' ' :: 'n' :: 'f' :: before) (name.toList ++ ['(']) [] :=
    finds_call?_of_refused (isWordChar_of_mem_isName h) (Or.inr hrefused)
  have hblank : Finds call? ('n' :: 'f' :: before) [' '] [] :=
    Finds.of_marks call?_closesWith (by decide)
  have hspace : Finds call? ('n' :: 'f' :: before) (' ' :: (name.toList ++ ['('])) [] :=
    hblank.append hname
  show Finds call? before ('f' :: 'n' :: ' ' :: (name.toList ++ ['('])) []
  apply Finds.cons
  · intro rest
    simpa using hkeyword ('(' :: rest)
  · exact Finds.cons (fun rest => call?_eq_none_of_refused (Or.inl rfl)) hspace

lemma findsLines_call?_headLine {entryPoint : String} (h : isName entryPoint.toList = true) :
    FindsLines call? [Kernel.headLine entryPoint] [] := by
  apply FindsLines.of_line call?_closesWith
  intro before hbefore
  have hbuiltin : ∀ front, Finds call? front ('@' :: ("builtin".toList ++ ['('])) [] :=
    fun front => finds_call?_attribute (by decide)
  have hrest : ∀ front, Finds call? front
      ("global_invocation_id) global_id: vec3<u32>) ".toList ++ ['\x7b']) [] := fun front =>
    Finds.of_closed call?_closesWith (by decide) (by decide)
  have hline := (finds_call?_declared h hbefore).append
    ((hbuiltin _).append (hrest _))
  simpa [Kernel.toList_headLine] using hline

/-- The assignment holds the one call of a kernel. -/
lemma findsLines_call?_assignmentLine (h : Kernel.WellNamed input output function options) :
    FindsLines call? [Kernel.assignmentLine input output function options.layout.fieldName]
      [function] := by
  apply FindsLines.of_line call?_closesWith
  intro before _
  obtain ⟨⟨hinput, houtput, _⟩, _, hfield⟩ := h.not_mem (show isWordChar '(' = false by decide)
  have hleft : Finds call? before
      ("    ".toList ++ output.toList ++ ".".toList ++ options.layout.fieldName.toList ++
        "[gidx] ".toList ++ ['=']) [] :=
    Finds.of_closed call?_closesWith (by simp [houtput, hfield]) (by decide)
  have hspace : ∀ front, Finds call? front [' '] [] := fun front =>
    Finds.of_marks call?_closesWith (by decide)
  have hcall : ∀ left front, Finds call? ([' '].reverse ++ ((left ++ ['=']).reverse ++ front))
      (function.toList ++ ['(']) [function] := by
    intro left front
    rw [List.reverse_append]
    apply Finds.of_read (by simp)
    intro rest
    exact call?_eq_some_iff.mpr ⟨⟨rfl, rfl, rfl⟩, [], by simp, h.function, by simp⟩
  have hright : ∀ front, Finds call? front
      (input.toList ++ ".".toList ++ options.layout.fieldName.toList ++ "[gidx])".toList ++ [';'])
      [] := fun front =>
    Finds.of_closed call?_closesWith (by simp [hinput, hfield]) (by decide)
  have hline := hleft.append ((hspace _).append ((hcall _ _).append (hright _)))
  simpa [Kernel.toList_assignmentLine] using hline

lemma calls_generate (h : Kernel.WellNamed input output function options) :
    all call? (Kernel.generate input output function options).code.toList = [function] := by
  -- a parenthesis stands in no name, so that a line without one of its own holds no call
  obtain ⟨⟨hinput, houtput, _⟩, hname, hfield⟩ := h.not_mem (show isWordChar '(' = false by decide)
  have helement := h.layout.not_mem_elementType (show '(' ∉ "vec234<fiu>".toList by decide)
  have hstruct : FindsLines call? options.layout.structLines [] := by
    apply FindsLines.of_ended call?_closesWith
    simp only [Layout.structLines, List.forall_mem_cons, Layout.toList_fieldLine]
    refine ⟨?_, ?_, by decide, by simp⟩
    · rw [String.toList_append]
      exact Ended.append (by simp [hname]) (by decide) (by decide)
    · exact Ended.append (by simp [hfield, helement]) (by decide) (by decide)
  have hempty : FindsLines call? [""] [] :=
    FindsLines.of_ended call?_closesWith (by decide)
  have hfirst : FindsLines call?
      [Kernel.bufferLine "0" "read" input options.layout.structName] [] :=
    findsLines_call?_bufferLine (by decide) (by decide) hinput hname
  have hsecond : FindsLines call?
      [Kernel.bufferLine "1" "read_write" output options.layout.structName] [] :=
    findsLines_call?_bufferLine (by decide) (by decide) houtput hname
  have hlet : FindsLines call? ["    let gidx = global_id.x;"] [] :=
    FindsLines.of_ended call?_closesWith (by decide)
  have hclose : FindsLines call? ["\x7d"] [] :=
    FindsLines.of_ended call?_closesWith (by decide)
  rw [Kernel.code_generate]
  exact (hstruct.append (hempty.append (hfirst.append (hsecond.append (hempty.append
    ((findsLines_call?_attributeLine options.workgroupSize).append
      ((findsLines_call?_headLine h.entryPoint).append (hlet.append
        ((findsLines_call?_assignmentLine h).append hclose))))))))).all

/-! ### The workgroup size and the whole text -/

/-- A written number is trimmed out of the blanks before it. -/
lemma Number.trim_chars (a : Number) {blanks : List Char}
    (hblanks : ∀ c ∈ blanks, isBlank c = true) : trim (blanks ++ a.chars) = a.chars := by
  have htrim : trim (blanks ++ (a.chars ++ [])) = a.chars :=
    trim_append_of_not_isBlank a.chars_ne_nil hblanks (by simp)
      fun c hc => isBlank_eq_false_of_isNumeralChar (Number.isNumeralChar_of_mem_chars hc)
  rwa [List.append_nil] at htrim

/-- The arguments of the attribute are read one by one. -/
lemma workgroupSize_joinNumbers (size : Extent) :
    workgroupSize (joinNumbers ", " size.toList).toList =
      ⟨Number.ofIntegerStart size.x.chars, Number.ofIntegerStart size.y.chars,
        Number.ofIntegerStart size.z.chars⟩ := by
  have hcomma : ∀ a : Number, ',' ∉ a.chars := by
    intro a hmem
    exact absurd (Number.isNumeralChar_of_mem_chars hmem) (by decide)
  have hsplit : (joinNumbers ", " size.toList).toList.splitOn ',' =
      [size.x.chars, ' ' :: size.y.chars, ' ' :: size.z.chars] := by
    have hjoin : (joinNumbers ", " size.toList).toList =
        [','].intercalate [size.x.chars, ' ' :: size.y.chars, ' ' :: size.z.chars] := by
      simp [size.toList_joinNumbers, Number.text]
    rw [hjoin, List.splitOn_intercalate]
    · simp [hcomma]
    · simp
  have htrim : [size.x.chars, ' ' :: size.y.chars, ' ' :: size.z.chars].map trim =
      [size.x.chars, size.y.chars, size.z.chars] := by
    have hspace : ∀ c ∈ [' '], isBlank c = true := by decide
    have hfirst : trim ([] ++ size.x.chars) = size.x.chars := size.x.trim_chars (by simp)
    have hsecond : trim ([' '] ++ size.y.chars) = size.y.chars := size.y.trim_chars hspace
    have hthird : trim ([' '] ++ size.z.chars) = size.z.chars := size.z.trim_chars hspace
    rw [List.nil_append] at hfirst
    rw [List.singleton_append] at hsecond hthird
    simp only [List.map_cons, List.map_nil, hfirst, hsecond, hthird]
  simp [workgroupSize, hsplit, htrim, Number.chars_ne_nil]

/-- A safe workgroup size is read back from the arguments of the attribute. -/
lemma workgroupSize_of_isSafe {size : Extent} (h : size.IsSafe) :
    workgroupSize (joinNumbers ", " size.toList).toList = size := by
  obtain ⟨hx, hy, hz⟩ := Extent.isSafe_iff.mp h
  rw [workgroupSize_joinNumbers, Number.ofIntegerStart_chars hx, Number.ofIntegerStart_chars hy,
    Number.ofIntegerStart_chars hz]

/-- What is read in a kernel made from names. The workgroup size may be any numbers here. -/
lemma inspect_code (names : Kernel.WellNamed input output function options) :
    inspect (Kernel.generate input output function options).code =
      { structs := [options.layout.structName]
        bindings :=
          [⟨0, 0, .read, input, options.layout.structName⟩,
           ⟨0, 1, .readWrite, output, options.layout.structName⟩]
        entryPoints :=
          [⟨options.entryPoint,
            workgroupSize (joinNumbers ", " options.workgroupSize.toList).toList⟩]
        calls := [function] } := by
  rw [inspect, structs_generate names, bindings_generate names, entryPoints_generate names,
    calls_generate names]

/-- The declarations of a kernel that is made from names and a safe workgroup size are read back
from its text, and nothing else is read in it. -/
theorem inspect_generate {input output function : String} {options : KernelOptions}
    (names : Kernel.WellNamed input output function options)
    (size : options.workgroupSize.IsSafe) :
    inspect (Kernel.generate input output function options).code =
      { structs := [options.layout.structName]
        bindings :=
          [⟨0, 0, .read, input, options.layout.structName⟩,
           ⟨0, 1, .readWrite, output, options.layout.structName⟩]
        entryPoints := [⟨options.entryPoint, options.workgroupSize⟩]
        calls := [function] } := by
  rw [inspect_code names, workgroupSize_of_isSafe size]

/-- Options in which keywords and coinciding words serve as names. -/
def keywordOptions : KernelOptions where
  workgroupSize := ⟨Number.ofInt (-1), 0, 9007199254740991⟩
  layout :=
    { version := 7
      structName := "struct"
      fieldName := "fn"
      elementType := "vec3<i32>" }
  entryPoint := "fn"

lemma keywordOptions_isSafe : keywordOptions.workgroupSize.IsSafe := by
  intro a ha
  simp only [Extent.toList, keywordOptions, List.mem_cons, List.not_mem_nil, or_false] at ha
  rcases ha with rfl | rfl | rfl
  · exact ⟨-1, by decide, rfl⟩
  · exact ⟨0, by decide, rfl⟩
  · exact ⟨9007199254740991, by decide, rfl⟩

theorem inspect_generate_keywords :
    (Kernel.WellNamed "fn" "fn" "struct" keywordOptions ∧ keywordOptions.workgroupSize.IsSafe) ∧
      inspect (Kernel.generate "fn" "fn" "struct" keywordOptions).code =
        { structs := ["struct"]
          bindings := [⟨0, 0, .read, "fn", "struct"⟩, ⟨0, 1, .readWrite, "fn", "struct"⟩]
          entryPoints := [⟨"fn", ⟨Number.ofInt (-1), 0, 9007199254740991⟩⟩]
          calls := ["struct"] } := by
  have hnames : Kernel.WellNamed "fn" "fn" "struct" keywordOptions :=
    ⟨by decide, by decide, by decide, by decide, by decide, by decide,
      ⟨3, by decide, "i32", by decide, by decide⟩⟩
  exact ⟨⟨hnames, keywordOptions_isSafe⟩, inspect_generate hnames keywordOptions_isSafe⟩

end Elementwise
