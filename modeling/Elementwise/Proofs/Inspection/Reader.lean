import Elementwise.Inspection
import Elementwise.Proofs.Inspection.Scan

/-!
# What the readers recognise

One lemma for each reader says which texts it recognises. Structs and calls are runs of word
characters and blanks up to a mark, bindings and entry points open with an attribute.
-/

namespace Elementwise

def StorageMode.keyword : StorageMode → String
  | .read => "read"
  | .readWrite => "read_write"

namespace Inspection

open Scan Text

variable {before text rest : List Char}

/-- Optional blanks are skipped up to a piece that starts with none. -/
lemma skipBlanks_append_piece {blanks : List Char} {piece : String}
    (hblanks : ∀ c ∈ blanks, isBlank c = true)
    (hpiece : ∃ c ∈ piece.toList.head?, isBlank c = false) :
    skipBlanks (blanks ++ (piece.toList ++ rest)) = piece.toList ++ rest := by
  obtain ⟨c, hc, hblank⟩ := hpiece
  apply skipBlanks_append_of_boundary hblanks
  intro d hd
  rw [List.head?_append, Option.mem_def.mp hc, Option.some_or, Option.mem_some_iff] at hd
  exact hd ▸ hblank

lemma piece?_skipBlanks_eq_some_iff {piece : String}
    (hpiece : ∃ c ∈ piece.toList.head?, isBlank c = false) :
    piece? piece (skipBlanks text) = some rest ↔
      ∃ blanks, (∀ c ∈ blanks, isBlank c = true) ∧ text = blanks ++ (piece.toList ++ rest) := by
  rw [piece?_eq_some_iff]
  constructor
  · intro h
    obtain ⟨blanks, hblanks, htext⟩ := exists_blanks_append_skipBlanks text
    exact ⟨blanks, hblanks, by rw [← h]; exact htext⟩
  · rintro ⟨blanks, hblanks, rfl⟩
    exact skipBlanks_append_piece hblanks hpiece

/-- Blanks and then a mark end a word. -/
lemma isWordChar_head?_blanks_append {blanks : List Char} {mark : Char}
    (hblanks : ∀ c ∈ blanks, isBlank c = true) (hmark : isWordChar mark = false) :
    ∀ c ∈ (blanks ++ mark :: rest).head?, isWordChar c = false := by
  intro c hc
  cases blanks with
  | nil =>
    have : mark = c := by simpa using hc
    exact this ▸ hmark
  | cons d blanks =>
    have : d = c := by simpa using hc
    exact this ▸ isWordChar_eq_false_of_isBlank (hblanks d List.mem_cons_self)

lemma isBlank_head?_name_append {name : List Char} (h : isName name = true) :
    ∀ c ∈ (name ++ rest).head?, isBlank c = false := by
  obtain ⟨c, more, rfl, hc, _⟩ := isName_iff.mp h
  intro d hd
  have : c = d := by simpa using hd
  exact this ▸ isBlank_eq_false_of_isWordChar (isWordChar_of_isNameStart hc)

/-! ### Structs -/

/-- A struct has the keyword outside of a word, a name and the brace, with blanks between them. -/
lemma struct?_eq_some_iff {name : String} :
    struct? before text = some (name, rest) ↔ insideWord before = false ∧
      ∃ blanks more, blanks ≠ [] ∧ (∀ c ∈ blanks, isBlank c = true) ∧
        (∀ c ∈ more, isBlank c = true) ∧ isName name.toList = true ∧
        text = "struct".toList ++ (blanks ++ (name.toList ++ (more ++ '\x7b' :: rest))) := by
  have hbrace : ∀ t₃, piece? "\x7b" (skipBlanks t₃) = some rest ↔
      ∃ more, (∀ c ∈ more, isBlank c = true) ∧ t₃ = more ++ '\x7b' :: rest :=
    fun _ => piece?_skipBlanks_eq_some_iff (by decide)
  simp only [struct?, Option.bind_eq_bind, Option.bind_eq_some_iff, Option.guard_eq_some',
    Option.pure_def, Option.some.injEq, Prod.mk.injEq, Bool.not_eq_true']
  constructor
  · rintro ⟨_, hbefore, t₁, h₁, t₂, h₂, ⟨name', t₃⟩, h₃, t₄, h₄, rfl, rfl⟩
    obtain ⟨blanks, hne, hblanks, _, rfl⟩ := blanks?_eq_some_iff.mp h₂
    obtain ⟨hname, _, rfl⟩ := name?_eq_some_iff.mp h₃
    obtain ⟨more, hmore, rfl⟩ := (hbrace _).mp h₄
    exact ⟨hbefore, blanks, more, hne, hblanks, hmore, hname, piece?_eq_some_iff.mp h₁⟩
  · rintro ⟨hbefore, blanks, more, hne, hblanks, hmore, hname, rfl⟩
    have h₂ : blanks? (blanks ++ (name.toList ++ (more ++ '\x7b' :: rest))) =
        some (name.toList ++ (more ++ '\x7b' :: rest)) :=
      blanks?_eq_some_iff.mpr ⟨blanks, hne, hblanks, isBlank_head?_name_append hname, rfl⟩
    have h₃ : name? (name.toList ++ (more ++ '\x7b' :: rest)) =
        some (name, more ++ '\x7b' :: rest) :=
      name?_append hname (isWordChar_head?_blanks_append hmore (by decide))
    exact ⟨(), hbefore, _, piece?_append _ _, _, h₂, _, h₃, _, (hbrace _).mpr ⟨more, hmore, rfl⟩,
      rfl, rfl⟩

lemma struct?_closesWith : ClosesWith struct? '\x7b' := by
  intro before text name rest h
  obtain ⟨_, blanks, more, _, hblanks, hmore, hname, rfl⟩ := struct?_eq_some_iff.mp h
  refine ⟨'s', "truct".toList ++ (blanks ++ (name.toList ++ more)), by decide, ?_, by simp⟩
  intro c hc
  simp only [List.mem_append] at hc
  rcases hc with hc | hc | hc | hc
  · have hkeyword : ∀ d ∈ "truct".toList, isWordChar d = true := by decide
    exact Or.inl (hkeyword c hc)
  · exact Or.inr (hblanks c hc)
  · exact Or.inl (isWordChar_of_mem_isName hname c hc)
  · exact Or.inr (hmore c hc)

/-! ### Calls -/

/-- A call has a name and the parenthesis, with blanks between them, at a place that neither goes on
with a word nor follows the mark of an attribute or the keyword of a declaration. -/
lemma call?_eq_some_iff {name : String} :
    call? before text = some (name, rest) ↔
      (insideWord before = false ∧ afterAttributeMark before = false ∧
        afterFunctionKeyword before = false) ∧
      ∃ blanks, (∀ c ∈ blanks, isBlank c = true) ∧ isName name.toList = true ∧
        text = name.toList ++ (blanks ++ '(' :: rest) := by
  have hparen : ∀ t₁, piece? "(" (skipBlanks t₁) = some rest ↔
      ∃ blanks, (∀ c ∈ blanks, isBlank c = true) ∧ t₁ = blanks ++ '(' :: rest :=
    fun _ => piece?_skipBlanks_eq_some_iff (by decide)
  simp only [call?, Option.bind_eq_bind, Option.bind_eq_some_iff, Option.guard_eq_some',
    Option.pure_def, Option.some.injEq, Prod.mk.injEq, Bool.and_eq_true, Bool.not_eq_true',
    and_assoc]
  constructor
  · rintro ⟨_, hword, hmark, hkeyword, ⟨name', t₁⟩, h₁, t₂, h₂, rfl, rfl⟩
    obtain ⟨hname, _, rfl⟩ := name?_eq_some_iff.mp h₁
    obtain ⟨blanks, hblanks, rfl⟩ := (hparen _).mp h₂
    exact ⟨hword, hmark, hkeyword, blanks, hblanks, hname, rfl⟩
  · rintro ⟨hword, hmark, hkeyword, blanks, hblanks, hname, rfl⟩
    have h₁ : name? (name.toList ++ (blanks ++ '(' :: rest)) = some (name, blanks ++ '(' :: rest) :=
      name?_append hname (isWordChar_head?_blanks_append hblanks (by decide))
    exact ⟨(), hword, hmark, hkeyword, _, h₁, _, (hparen _).mpr ⟨blanks, hblanks, rfl⟩, rfl, rfl⟩

lemma call?_closesWith : ClosesWith call? '(' := by
  intro before text name rest h
  obtain ⟨_, blanks, hblanks, hname, rfl⟩ := call?_eq_some_iff.mp h
  obtain ⟨c, word, hword, hc, hrest⟩ := isName_iff.mp hname
  refine ⟨c, word ++ blanks, isWordChar_of_isNameStart hc, ?_, by simp [hword]⟩
  intro d hd
  rcases List.mem_append.mp hd with hd | hd
  · exact Or.inl (hrest d hd)
  · exact Or.inr (hblanks d hd)

/-- No call starts where the text before forbids it. -/
lemma call?_eq_none_of_refused (h : insideWord before = true ∨ afterAttributeMark before = true ∨
    afterFunctionKeyword before = true) : call? before text = none := by
  rcases h with h | h | h <;> simp [call?, h]

lemma finds_call?_of_insideWord {word : List Char} (hword : ∀ c ∈ word, isWordChar c = true)
    (h : insideWord before = true) : Finds call? before (word ++ ['(']) [] := by
  induction word generalizing before with
  | nil => exact Finds.of_marks call?_closesWith (by simp [isWordChar])
  | cons c word ih =>
    have hc : insideWord (c :: before) = true := hword c List.mem_cons_self
    exact Finds.cons (fun rest => call?_eq_none_of_refused (Or.inl h))
      (ih (fun d hd => hword d (List.mem_cons_of_mem c hd)) hc)

/-- A word is not called where the text before it says that it is an attribute or declared. -/
lemma finds_call?_of_refused {word : List Char} (hword : ∀ c ∈ word, isWordChar c = true)
    (h : afterAttributeMark before = true ∨ afterFunctionKeyword before = true) :
    Finds call? before (word ++ ['(']) [] := by
  cases word with
  | nil => exact Finds.of_marks call?_closesWith (by simp [isWordChar])
  | cons c word =>
    have hc : insideWord (c :: before) = true := hword c List.mem_cons_self
    exact Finds.cons (fun rest => call?_eq_none_of_refused (Or.inr h))
      (finds_call?_of_insideWord (fun d hd => hword d (List.mem_cons_of_mem c hd)) hc)

/-! ### Storage bindings -/

/-- A mode stands between a comma and the bracket; left out it is `read`. -/
lemma mode?_eq_some_iff {mode : StorageMode} :
    mode? text = some (mode, rest) ↔ (mode = .read ∧ text = '>' :: rest) ∨
      ∃ blanks more, (∀ c ∈ blanks, isBlank c = true) ∧ (∀ c ∈ more, isBlank c = true) ∧
        text = blanks ++ ',' :: (more ++ (mode.keyword.toList ++ '>' :: rest)) := by
  have hcomma : ∀ t₁, piece? "," (skipBlanks text) = some t₁ ↔
      ∃ blanks, (∀ c ∈ blanks, isBlank c = true) ∧ text = blanks ++ ',' :: t₁ :=
    fun _ => piece?_skipBlanks_eq_some_iff (by decide)
  cases hbracket : piece? ">" text with
  | some t =>
    have htext : text = '>' :: t := piece?_eq_some_iff.mp hbracket
    simp only [mode?, hbracket, Option.some.injEq, Prod.mk.injEq]
    constructor
    · rintro ⟨rfl, rfl⟩
      exact Or.inl ⟨rfl, htext⟩
    · rintro (⟨rfl, h⟩ | ⟨blanks, more, hblanks, _, h⟩)
      · rw [htext] at h
        exact ⟨rfl, List.tail_eq_of_cons_eq h⟩
      · -- the bracket is neither a blank nor the comma
        rw [htext] at h
        cases blanks with
        | nil => simp at h
        | cons c blanks =>
          have hc : '>' = c := List.head_eq_of_cons_eq h
          exact absurd (hblanks c List.mem_cons_self) (by rw [← hc]; decide)
  | none =>
    have hnot : text ≠ '>' :: rest := by
      rintro rfl
      have hsome : piece? ">" ('>' :: rest) = some rest := rfl
      rw [hsome] at hbracket
      cases hbracket
    simp only [mode?, hbracket, hnot, and_false, false_or, Option.bind_eq_bind,
      Option.bind_eq_some_iff, hcomma]
    constructor
    · rintro ⟨t₁, ⟨blanks, hblanks, rfl⟩, h⟩
      obtain ⟨more, hmore, hskip⟩ := exists_blanks_append_skipBlanks t₁
      refine ⟨blanks, more, hblanks, hmore, ?_⟩
      rw [hskip]
      cases hread : piece? "read>" (skipBlanks t₁) with
      | some t₂ =>
        simp only [hread, Option.pure_def, Option.some.injEq, Prod.mk.injEq] at h
        obtain ⟨rfl, rfl⟩ := h
        rw [piece?_eq_some_iff.mp hread]
        simp [StorageMode.keyword]
      | none =>
        simp only [hread, Option.pure_def, Option.bind_eq_some_iff, Option.some.injEq,
          Prod.mk.injEq] at h
        obtain ⟨t₂, hwrite, rfl, rfl⟩ := h
        rw [piece?_eq_some_iff.mp hwrite]
        simp [StorageMode.keyword]
    · rintro ⟨blanks, more, hblanks, hmore, rfl⟩
      refine ⟨_, ⟨blanks, hblanks, rfl⟩, ?_⟩
      have hskip : skipBlanks (more ++ (mode.keyword.toList ++ '>' :: rest)) =
          mode.keyword.toList ++ '>' :: rest := by
        apply skipBlanks_append_of_boundary hmore
        cases mode <;> simp [StorageMode.keyword, isBlank]
      rw [hskip]
      cases mode <;> rfl

lemma typeText?_of_trim {type : List Char} (hne : type ≠ []) (h : trim text = type) :
    typeText? text = some type := by
  rw [typeText?, h]
  cases type with
  | nil => exact absurd rfl hne
  | cons c type => rfl

/-- A binding in its declared form is read up to its semicolon. -/
lemma binding?_of_form
    {group slot written blanks₁ blanks₂ blanks₃ blanks₄ declared type : List Char}
    {mode : StorageMode} {name : String}
    (hgroup : group ≠ [] ∧ ∀ c ∈ group, c.isDigit = true) (h₁ : ∀ c ∈ blanks₁, isBlank c = true)
    (hslot : slot ≠ [] ∧ ∀ c ∈ slot, c.isDigit = true) (h₂ : ∀ c ∈ blanks₂, isBlank c = true)
    (hmode : ∀ t, mode? (written ++ t) = some (mode, t))
    (h₃ : blanks₃ ≠ [] ∧ ∀ c ∈ blanks₃, isBlank c = true) (hname : isName name.toList = true)
    (h₄ : ∀ c ∈ blanks₄, isBlank c = true) (hdeclared : ';' ∉ declared)
    (htype : typeText? declared = some type) :
    binding? before ("@group(".toList ++ (group ++ (")".toList ++ (blanks₁ ++ ("@binding(".toList ++
      (slot ++ (")".toList ++ (blanks₂ ++ ("var<storage".toList ++ (written ++ (blanks₃ ++
      (name.toList ++ (blanks₄ ++ (":".toList ++ (declared ++ ';' :: rest))))))))))))))) =
    some (⟨Number.ofNumeral group, Number.ofNumeral slot, mode, name, String.ofList type⟩,
      rest) := by
  have hdigits : ∀ digits t, (digits ≠ [] ∧ ∀ c ∈ digits, c.isDigit = true) →
      digits? (digits ++ (")".toList ++ t)) = some (digits, ")".toList ++ t) :=
    fun digits t h => digits?_eq_some_iff.mpr ⟨h.1, h.2, by simp, rfl⟩
  have hbinding : ∀ t, skipBlanks (blanks₁ ++ ("@binding(".toList ++ t)) =
      "@binding(".toList ++ t :=
    fun t => skipBlanks_append_piece h₁ (by decide)
  have hvar : ∀ t, skipBlanks (blanks₂ ++ ("var<storage".toList ++ t)) =
      "var<storage".toList ++ t :=
    fun t => skipBlanks_append_piece h₂ (by decide)
  have hcolon : ∀ t, skipBlanks (blanks₄ ++ (":".toList ++ t)) = ":".toList ++ t :=
    fun t => skipBlanks_append_piece h₄ (by decide)
  have hspace : ∀ t, blanks? (blanks₃ ++ (name.toList ++ t)) = some (name.toList ++ t) :=
    fun t => blanks?_eq_some_iff.mpr ⟨blanks₃, h₃.1, h₃.2, isBlank_head?_name_append hname, rfl⟩
  have hend : ∀ t, name? (name.toList ++ (blanks₄ ++ (":".toList ++ t))) =
      some (name, blanks₄ ++ (":".toList ++ t)) :=
    fun t => name?_append hname (isWordChar_head?_blanks_append h₄ (by decide))
  have hstop : upTo? ';' (declared ++ ';' :: rest) = some (declared, rest) :=
    upTo?_eq_some_iff.mpr ⟨hdeclared, rfl⟩
  simp only [binding?, Option.bind_eq_bind, Option.bind_some, piece?_append, hdigits _ _ hgroup,
    hbinding, hdigits _ _ hslot, hvar, hmode, hspace, hend, hcolon, hstop, htype]
  rfl

lemma isName_of_binding? {found : StorageBinding} (h : binding? before text = some (found, rest)) :
    isName found.name.toList = true := by
  simp only [binding?, Option.bind_eq_bind, Option.bind_eq_some_iff, Option.pure_def,
    Option.some.injEq, Prod.mk.injEq] at h
  obtain ⟨_, _, _, _, _, _, _, _, _, _, _, _, _, _, _, _, _, _, ⟨name, _⟩, hname, _, _, _, _, _, _,
    rfl, _⟩ := h
  exact (name?_eq_some_iff.mp hname).1

lemma binding?_opensWith : OpensWith binding? "@group(".toList := by
  intro before text found rest h
  simp only [binding?, Option.bind_eq_bind, Option.bind_eq_some_iff] at h
  obtain ⟨t₁, h₁, _⟩ := h
  rw [piece?_eq_some_iff.mp h₁]
  exact List.prefix_append _ _

/-! ### Entry points -/

/-- An entry point in its declared form is read up to its parenthesis. -/
lemma entryPoint?_of_form {blanks₁ arguments blanks₂ blanks₃ blanks₄ : List Char} {name : String}
    (h₁ : blanks₁ ≠ [] ∧ ∀ c ∈ blanks₁, isBlank c = true) (harguments : ')' ∉ arguments)
    (h₂ : ∀ c ∈ blanks₂, isBlank c = true) (h₃ : blanks₃ ≠ [] ∧ ∀ c ∈ blanks₃, isBlank c = true)
    (hname : isName name.toList = true) (h₄ : ∀ c ∈ blanks₄, isBlank c = true) :
    entryPoint? before ("@compute".toList ++ (blanks₁ ++ ("@workgroup_size(".toList ++ (arguments ++
      ')' :: (blanks₂ ++ ("fn".toList ++ (blanks₃ ++ (name.toList ++ (blanks₄ ++
      ("(".toList ++ rest)))))))))) =
    some (⟨name, workgroupSize arguments⟩, rest) := by
  have hattribute : ∀ t, blanks? (blanks₁ ++ ("@workgroup_size(".toList ++ t)) =
      some ("@workgroup_size(".toList ++ t) :=
    fun t => blanks?_eq_some_iff.mpr ⟨blanks₁, h₁.1, h₁.2, by simp [isBlank], rfl⟩
  have hstop : ∀ t, upTo? ')' (arguments ++ ')' :: t) = some (arguments, t) :=
    fun t => upTo?_eq_some_iff.mpr ⟨harguments, rfl⟩
  have hkeyword : ∀ t, skipBlanks (blanks₂ ++ ("fn".toList ++ t)) = "fn".toList ++ t :=
    fun t => skipBlanks_append_piece h₂ (by decide)
  have hparen : ∀ t, skipBlanks (blanks₄ ++ ("(".toList ++ t)) = "(".toList ++ t :=
    fun t => skipBlanks_append_piece h₄ (by decide)
  have hspace : ∀ t, blanks? (blanks₃ ++ (name.toList ++ t)) = some (name.toList ++ t) :=
    fun t => blanks?_eq_some_iff.mpr ⟨blanks₃, h₃.1, h₃.2, isBlank_head?_name_append hname, rfl⟩
  have hend : ∀ t, name? (name.toList ++ (blanks₄ ++ ("(".toList ++ t))) =
      some (name, blanks₄ ++ ("(".toList ++ t)) :=
    fun t => name?_append hname (isWordChar_head?_blanks_append h₄ (by decide))
  simp only [entryPoint?, Option.bind_eq_bind, Option.bind_some, piece?_append, hattribute, hstop,
    hkeyword, hspace, hend, hparen]
  rfl

lemma isName_of_entryPoint? {found : EntryPoint}
    (h : entryPoint? before text = some (found, rest)) : isName found.name.toList = true := by
  simp only [entryPoint?, Option.bind_eq_bind, Option.bind_eq_some_iff, Option.pure_def,
    Option.some.injEq, Prod.mk.injEq] at h
  obtain ⟨_, _, _, _, _, _, _, _, _, _, _, _, ⟨name, _⟩, hname, _, _, rfl, _⟩ := h
  exact (name?_eq_some_iff.mp hname).1

lemma entryPoint?_opensWith : OpensWith entryPoint? "@compute".toList := by
  intro before text found rest h
  simp only [entryPoint?, Option.bind_eq_bind, Option.bind_eq_some_iff] at h
  obtain ⟨t₁, h₁, _⟩ := h
  rw [piece?_eq_some_iff.mp h₁]
  exact List.prefix_append _ _

end Inspection

end Elementwise
