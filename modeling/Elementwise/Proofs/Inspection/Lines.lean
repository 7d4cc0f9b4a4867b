import Elementwise.Proofs.Inspection.Scan

/-!
# Scanning line by line

`FindsLines read lines found` says that a scan finds `found` in some lines, wherever outside a word
it enters them. A line break is no word character, so the judgement composes without looking at
what was read before.
-/

namespace Elementwise.Scan

open Text

variable {α : Type} {read : Reader α}

/-- The text of some lines, each with the line break behind it. -/
def textOf (lines : List String) : List Char := lines.flatMap fun line => line.toList ++ ['\n']

@[simp] lemma textOf_nil : textOf [] = [] := rfl

@[simp] lemma textOf_cons (line : String) (lines : List String) :
    textOf (line :: lines) = line.toList ++ '\n' :: textOf lines := by
  simp [textOf]

@[simp] lemma textOf_append (first second : List String) :
    textOf (first ++ second) = textOf first ++ textOf second := by
  simp [textOf]

lemma isInfix_textOf {line : String} {lines : List String} (h : line ∈ lines) :
    line.toList <:+: textOf lines := by
  obtain ⟨before, after, rfl⟩ := List.append_of_mem h
  rw [textOf_append, textOf_cons]
  exact ⟨textOf before, '\n' :: textOf after, by simp⟩

/-- The scan of some lines finds `found`. -/
def FindsLines (read : Reader α) (lines : List String) (found : List α) : Prop :=
  ∀ before, insideWord before = false → Finds read before (textOf lines) found

/-- Behind whole lines a scan stands outside of words again. -/
lemma insideWord_reverse_textOf {before : List Char} (h : insideWord before = false)
    (lines : List String) : insideWord ((textOf lines).reverse ++ before) = false := by
  rcases List.eq_nil_or_concat lines with rfl | ⟨front, last, rfl⟩
  · simpa using h
  · simp [insideWord, isWordChar]

lemma FindsLines.append {first second : List String} {xs ys : List α}
    (hfirst : FindsLines read first xs) (hsecond : FindsLines read second ys) :
    FindsLines read (first ++ second) (xs ++ ys) := by
  intro before hbefore
  rw [textOf_append]
  exact (hfirst before hbefore).append (hsecond _ (insideWord_reverse_textOf hbefore first))

lemma FindsLines.all {lines : List String} {found : List α} (h : FindsLines read lines found) :
    all read (textOf lines) = found :=
  (h [] rfl).all

/-- A single line. -/
lemma FindsLines.singleton {line : String} {found : List α}
    (h : ∀ before, insideWord before = false →
      Finds read before (line.toList ++ ['\n']) found) : FindsLines read [line] found := by
  intro before hbefore
  simpa using h before hbefore

/-- A single line of a reader that closes with a mark: the line break adds nothing. -/
lemma FindsLines.of_line {mark : Char} {line : String} {found : List α}
    (hread : ClosesWith read mark)
    (h : ∀ before, insideWord before = false → Finds read before line.toList found) :
    FindsLines read [line] found := by
  apply FindsLines.singleton
  intro before hbefore
  have hbreak : Finds read (line.toList.reverse ++ before) ['\n'] [] :=
    Finds.of_marks hread (by decide)
  simpa using (h before hbefore).append hbreak

/-! ### Lines without declarations -/

lemma FindsLines.of_quiet {piece : List Char} {lines : List String} (hread : OpensWith read piece)
    (hbreak : Quiet piece ['\n']) (h : ∀ line ∈ lines, Quiet piece line.toList) :
    FindsLines read lines [] := by
  intro before _
  apply Finds.of_quiet hread
  induction lines with
  | nil => exact fun back hback => Or.inl (by simpa using hback)
  | cons line lines ih =>
    have hline := (h line List.mem_cons_self).append hbreak
    have hmore := ih fun other hother => h other (List.mem_cons_of_mem line hother)
    simpa using hline.append hmore

/-- A line without `mark` that is empty or ends in another mark. -/
def Ended (mark : Char) (line : List Char) : Prop :=
  mark ∉ line ∧ ∀ stop ∈ line.getLast?, isWordChar stop = false ∧ isBlank stop = false

instance (mark : Char) (line : List Char) : Decidable (Ended mark line) :=
  inferInstanceAs (Decidable (_ ∧ _))

/-- The end of a line decides, if only the mark does not occur before it. -/
lemma Ended.append {mark : Char} {front back : List Char} (hfront : mark ∉ front)
    (hback : Ended mark back) (hne : back ≠ []) : Ended mark (front ++ back) := by
  obtain ⟨hmark, hstop⟩ := hback
  rw [Ended, List.getLast?_append_of_ne_nil _ hne]
  refine ⟨fun hmem => ?_, hstop⟩
  rcases List.mem_append.mp hmem with h | h
  · exact hfront h
  · exact hmark h

lemma FindsLines.of_ended {mark : Char} {lines : List String} (hread : ClosesWith read mark)
    (h : ∀ line ∈ lines, Ended mark line.toList) : FindsLines read lines [] := by
  induction lines with
  | nil => exact fun before _ => Finds.nil
  | cons line lines ih =>
    have hline : FindsLines read [line] [] := by
      apply FindsLines.of_line hread
      intro before _
      obtain ⟨hmark, hstop⟩ := h line List.mem_cons_self
      rcases List.eq_nil_or_concat line.toList with hnil | ⟨front, stop, hfront⟩
      · rw [hnil]
        exact Finds.nil
      · rw [List.concat_eq_append] at hfront
        rw [hfront] at hmark hstop ⊢
        have hne : stop ≠ mark := fun eq => hmark (by simp [eq])
        have hmem : mark ∉ front := fun hm => hmark (List.mem_append_left _ hm)
        exact Finds.of_closed hread hmem ⟨hne, hstop stop (by simp)⟩
    exact hline.append (ih fun other hother => h other (List.mem_cons_of_mem line hother))

end Elementwise.Scan
