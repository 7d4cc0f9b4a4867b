import Elementwise.Inspection
import Elementwise.Proofs.Text.Class
import Mathlib.Data.List.Infix

/-!
# Scanning segment by segment

`Finds read before text found` says that a scan which enters `text` behind `before` leaves it at
its end with `found`, whatever follows. The judgement composes along a text, so a scan of a long
text is settled segment by segment: a segment either is one declaration (`Finds.of_read`) or holds
none (`Finds.of_quiet`, `Finds.of_closed`).
-/

namespace Elementwise.Scan

open Text

variable {α : Type} {read : Reader α} {before : List Char}

/-! ### Pieces of declarations -/

lemma piece?_eq_some_iff {piece : String} {text rest : List Char} :
    piece? piece text = some rest ↔ text = piece.toList ++ rest := by
  rw [piece?, List.isPrefixOf?_eq_some_iff_append_eq, eq_comm]

@[simp] lemma piece?_append (piece : String) (rest : List Char) :
    piece? piece (piece.toList ++ rest) = some rest :=
  piece?_eq_some_iff.mpr rfl

lemma blanks?_eq_some_iff {text rest : List Char} :
    blanks? text = some rest ↔ ∃ blanks, blanks ≠ [] ∧ (∀ c ∈ blanks, isBlank c = true) ∧
      (∀ c ∈ rest.head?, isBlank c = false) ∧ text = blanks ++ rest := by
  constructor
  · intro h
    cases text with
    | nil => cases h
    | cons c text =>
      simp only [blanks?, Option.ite_none_right_eq_some, Option.some.injEq] at h
      obtain ⟨hc, rfl⟩ := h
      obtain ⟨blanks, hblanks, htext⟩ := exists_blanks_append_skipBlanks text
      refine ⟨c :: blanks, by simp, ?_, head?_dropWhile_eq_false isBlank text, ?_⟩
      · simpa [hc] using hblanks
      · rw [List.cons_append, ← htext]
  · rintro ⟨blanks, hne, hblanks, hrest, rfl⟩
    cases blanks with
    | nil => exact absurd rfl hne
    | cons c blanks =>
      have hmore := skipBlanks_append_of_boundary
        (fun d hd => hblanks d (List.mem_cons_of_mem c hd)) hrest
      simp [blanks?, hblanks c List.mem_cons_self, hmore]

lemma name?_eq_some_iff {name : String} {text rest : List Char} :
    name? text = some (name, rest) ↔ isName name.toList = true ∧
      (∀ c ∈ rest.head?, isWordChar c = false) ∧ text = name.toList ++ rest := by
  constructor
  · intro h
    cases text with
    | nil => cases h
    | cons c text =>
      simp only [name?, Option.ite_none_right_eq_some, Option.some.injEq, Prod.mk.injEq] at h
      obtain ⟨hc, rfl, rfl⟩ := h
      refine ⟨?_, head?_dropWhile_eq_false isWordChar text, by simp⟩
      rw [String.toList_ofList, isName_iff]
      exact ⟨c, _, rfl, hc, fun d hd => List.mem_takeWhile_imp hd⟩
  · rintro ⟨hname, hrest, rfl⟩
    obtain ⟨c, more, hmore, hc, hword⟩ := isName_iff.mp hname
    rw [hmore, List.cons_append, name?, if_pos hc, takeWhile_append_of_boundary hword hrest,
      dropWhile_append_of_boundary hword hrest, ← hmore, String.ofList_toList]

lemma name?_append {name : String} {rest : List Char} (hname : isName name.toList = true)
    (hrest : ∀ c ∈ rest.head?, isWordChar c = false) :
    name? (name.toList ++ rest) = some (name, rest) :=
  name?_eq_some_iff.mpr ⟨hname, hrest, rfl⟩

lemma digits?_eq_some_iff {text digits rest : List Char} :
    digits? text = some (digits, rest) ↔ digits ≠ [] ∧ (∀ c ∈ digits, c.isDigit = true) ∧
      (∀ c ∈ rest.head?, c.isDigit = false) ∧ text = digits ++ rest := by
  constructor
  · intro h
    simp only [digits?] at h
    split at h
    · cases h
    · rename_i run hrun
      simp only [Option.some.injEq, Prod.mk.injEq] at h
      obtain ⟨rfl, rfl⟩ := h
      exact ⟨hrun, fun c hc => List.mem_takeWhile_imp hc, head?_dropWhile_eq_false _ text,
        List.takeWhile_append_dropWhile.symm⟩
  · rintro ⟨hne, hdigits, hrest, rfl⟩
    simp only [digits?, takeWhile_append_of_boundary hdigits hrest,
      dropWhile_append_of_boundary hdigits hrest]

lemma upTo?_eq_some_iff {stop : Char} {text front rest : List Char} :
    upTo? stop text = some (front, rest) ↔ stop ∉ front ∧ text = front ++ stop :: rest := by
  constructor
  · intro h
    simp only [upTo?] at h
    split at h
    · cases h
    · rename_i c more hmore
      simp only [Option.some.injEq, Prod.mk.injEq] at h
      obtain ⟨rfl, rfl⟩ := h
      -- what is left starts with the character that ended the front
      have hc : c = stop := by
        have := head?_dropWhile_eq_false (· != stop) text c (by rw [hmore]; rfl)
        simpa using this
      refine ⟨fun hmem => ?_, ?_⟩
      · have := List.mem_takeWhile_imp hmem
        simp at this
      · subst hc
        rw [← hmore, List.takeWhile_append_dropWhile]
  · rintro ⟨hfront, rfl⟩
    have hne : ∀ c ∈ front, (c != stop) = true := by
      intro c hc
      exact bne_iff_ne.mpr fun eq => hfront (eq ▸ hc)
    have hstop : ∀ c ∈ (stop :: rest).head?, (c != stop) = false := by simp
    simp only [upTo?, takeWhile_append_of_boundary hne hstop,
      dropWhile_append_of_boundary hne hstop]

/-! ### Places -/

/-- Everything found was recognised at some place. -/
lemma exists_read_of_mem_allFrom {skip : Nat} {text : List Char} {a : α}
    (h : a ∈ allFrom read before skip text) :
    ∃ front back rest, read front back = some (a, rest) := by
  induction text generalizing before skip with
  | nil => cases skip <;> cases h
  | cons c text ih =>
    cases skip with
    | succ skip => exact ih h
    | zero =>
      rw [allFrom] at h
      split at h
      · rename_i found after hread
        rcases List.mem_cons.mp h with rfl | h
        · exact ⟨before, c :: text, after, hread⟩
        · exact ih h
      · exact ih h

/-! ### The judgement -/

/-- A scan that enters `text` behind `before` recognises `found` and goes on at the end of `text`,
whatever follows. -/
def Finds (read : Reader α) (before text : List Char) (found : List α) : Prop :=
  ∀ rest, allFrom read before 0 (text ++ rest) =
    found ++ allFrom read (text.reverse ++ before) 0 rest

lemma Finds.all {text : List Char} {found : List α} (h : Finds read [] text found) :
    all read text = found := by
  have := h []
  simpa [Scan.all, allFrom] using this

lemma Finds.nil : Finds read before [] [] := fun _ => rfl

lemma Finds.append {first second : List Char} {xs ys : List α}
    (hfirst : Finds read before first xs)
    (hsecond : Finds read (first.reverse ++ before) second ys) :
    Finds read before (first ++ second) (xs ++ ys) := by
  intro rest
  rw [List.append_assoc, hfirst, hsecond, List.reverse_append, List.append_assoc,
    List.append_assoc]

/-- Passing over a segment only moves it to the text before. -/
lemma allFrom_length (segment rest : List Char) :
    allFrom read before segment.length (segment ++ rest) =
      allFrom read (segment.reverse ++ before) 0 rest := by
  induction segment generalizing before with
  | nil => rfl
  | cons c segment ih =>
    rw [List.length_cons, List.cons_append, allFrom, ih, List.reverse_cons, List.append_assoc]
    rfl

/-- A segment that is one declaration. -/
lemma Finds.of_read {text : List Char} {a : α} (hne : text ≠ [])
    (h : ∀ rest, read before (text ++ rest) = some (a, rest)) : Finds read before text [a] := by
  intro rest
  cases text with
  | nil => exact absurd rfl hne
  | cons c text =>
    have hread := h rest
    rw [List.cons_append] at hread
    have hlen : (text ++ rest).length - rest.length = text.length := by simp
    rw [List.cons_append, allFrom, hread]
    simp only [hlen, allFrom_length, List.reverse_cons, List.append_assoc, List.cons_append,
      List.nil_append]

/-- A segment whose first place fails. -/
lemma Finds.cons {c : Char} {text : List Char} {found : List α}
    (hread : ∀ rest, read before (c :: (text ++ rest)) = none)
    (h : Finds read (c :: before) text found) : Finds read before (c :: text) found := by
  intro rest
  rw [List.cons_append, allFrom, hread]
  simpa using h rest

/-- A segment in which the reader fails everywhere. -/
lemma Finds.of_fails {text : List Char}
    (h : ∀ front c back rest, text = front ++ c :: back →
      read (front.reverse ++ before) (c :: (back ++ rest)) = none) :
    Finds read before text [] := by
  induction text generalizing before with
  | nil => exact Finds.nil
  | cons c text ih =>
    apply Finds.cons
    · intro rest
      exact h [] c text rest rfl
    · apply ih
      intro front d back rest htext
      have := h (c :: front) d back rest (by rw [htext, List.cons_append])
      simpa using this

/-! ### Segments without declarations -/

/-- The reader recognises only what starts with `piece`. -/
def OpensWith (read : Reader α) (piece : List Char) : Prop :=
  ∀ before text a rest, read before text = some (a, rest) → piece <+: text

lemma OpensWith.eq_none {piece text : List Char} (hread : OpensWith read piece)
    (h : ¬ piece <+: text) : read before text = none := by
  by_contra hsome
  obtain ⟨⟨a, rest⟩, hsome⟩ := Option.ne_none_iff_exists'.mp hsome
  exact h (hread before text a rest hsome)

/-- No place of the text can be the start of `piece`, whatever follows the text. -/
def Quiet (piece text : List Char) : Prop :=
  ∀ back ∈ text.tails, back = [] ∨ ¬ (back <+: piece ∨ piece <+: back)

instance (piece text : List Char) : Decidable (Quiet piece text) :=
  inferInstanceAs (Decidable (∀ back ∈ text.tails, _))

lemma Quiet.append {piece first second : List Char} (hfirst : Quiet piece first)
    (hsecond : Quiet piece second) : Quiet piece (first ++ second) := by
  intro back hback
  obtain ⟨front, hfront⟩ := (List.mem_tails _ _).mp hback
  rcases List.append_eq_append_iff.mp hfront with ⟨more, rfl, rfl⟩ | ⟨more, rfl, rfl⟩
  · -- the place lies in the first text, where a mismatch has happened already
    rcases hfirst more ((List.mem_tails _ _).mpr ⟨front, rfl⟩) with rfl | hmore
    · exact hsecond second ((List.mem_tails _ _).mpr ⟨[], rfl⟩)
    · refine Or.inr fun hcomp => hmore ?_
      rcases hcomp with h | h
      · exact Or.inl ((List.prefix_append more second).trans h)
      · exact List.prefix_or_prefix_of_prefix (List.prefix_append more second) h
  · exact hsecond back ((List.mem_tails _ _).mpr ⟨more, rfl⟩)

/-- A text without the first character of `piece` is quiet. -/
lemma Quiet.of_not_mem {piece text : List Char} (c : Char) (hc : c ∈ piece.head?) (h : c ∉ text) :
    Quiet piece text := by
  obtain ⟨piece, rfl⟩ := List.head?_eq_some_iff.mp (Option.mem_def.mp hc)
  intro back hback
  cases back with
  | nil => exact Or.inl rfl
  | cons d back =>
    have hd : d ∈ text := ((List.mem_tails _ _).mp hback).subset List.mem_cons_self
    refine Or.inr fun hcomp => h ?_
    rcases hcomp with hp | hp
    · exact (List.cons_prefix_cons.mp hp).1 ▸ hd
    · exact (List.cons_prefix_cons.mp hp).1 ▸ hd

lemma Finds.of_quiet {piece text : List Char} (hread : OpensWith read piece)
    (h : Quiet piece text) : Finds read before text [] := by
  apply Finds.of_fails
  intro front c back rest htext
  apply hread.eq_none
  intro hpiece
  have hpiece : piece <+: (c :: back) ++ rest := hpiece
  have hquiet := h (c :: back) ((List.mem_tails _ _).mpr ⟨front, htext.symm⟩)
  rcases hquiet with hnil | hquiet
  · cases hnil
  · exact hquiet (List.prefix_or_prefix_of_prefix (List.prefix_append _ rest) hpiece)

/-- Nothing is recognised in a filler without `piece` that ends with the text or before the first
character of `piece`. -/
lemma allFrom_filler_append {mark : Char} {piece filler rest : List Char}
    (hread : OpensWith read piece) (hhead : mark ∈ piece.head?) (htail : mark ∉ piece.tail)
    (hfiller : ¬ piece <:+: filler) (hrest : ∀ c ∈ rest.head?, c = mark) :
    allFrom read before 0 (filler ++ rest) = allFrom read (filler.reverse ++ before) 0 rest := by
  obtain ⟨piece, rfl⟩ := List.head?_eq_some_iff.mp (Option.mem_def.mp hhead)
  induction filler generalizing before with
  | nil => rfl
  | cons c filler ih =>
    have hnone : read before (c :: (filler ++ rest)) = none := by
      apply hread.eq_none
      rintro ⟨tail, hpiece⟩
      have hpiece : (mark :: piece) ++ tail = (c :: filler) ++ rest := hpiece
      rcases List.append_eq_append_iff.mp hpiece with ⟨more, hmore, _⟩ | ⟨more, hmore, hback⟩
      · exact hfiller (hmore ▸ (List.prefix_append _ more).isInfix)
      · cases more with
        | nil => exact hfiller (by rw [hmore, List.append_nil])
        | cons d more =>
          -- `piece` would go on behind the filler, where the next character is the mark
          have hd : d = mark := hrest d (by rw [hback]; rfl)
          have hpiece : piece = filler ++ d :: more := List.tail_eq_of_cons_eq hmore
          exact htail (by rw [List.tail_cons, hpiece, hd]; simp)
    rw [List.cons_append, allFrom, hnone]
    simpa using ih fun h => hfiller (h.trans (List.suffix_cons c filler).isInfix)

/-- The reader recognises only a word character, then word characters and blanks, then `mark`. -/
def ClosesWith (read : Reader α) (mark : Char) : Prop :=
  ∀ before text a rest, read before text = some (a, rest) →
    ∃ c front, isWordChar c = true ∧ (∀ d ∈ front, isWordChar d = true ∨ isBlank d = true) ∧
      text = c :: (front ++ mark :: rest)

/-- Nothing is recognised where there are no words. -/
lemma Finds.of_marks {mark : Char} {text : List Char} (hread : ClosesWith read mark)
    (h : ∀ c ∈ text, isWordChar c = false) : Finds read before text [] := by
  apply Finds.of_fails
  intro front c back rest htext
  by_contra hsome
  obtain ⟨⟨a, after⟩, hsome⟩ := Option.ne_none_iff_exists'.mp hsome
  obtain ⟨d, run, hd, _, heq⟩ := hread _ _ a after hsome
  injection heq with hcd _
  have := h c (by rw [htext]; simp)
  rw [hcd, hd] at this
  cases this

/-- Nothing is recognised in a segment without the closing mark that ends in another mark. -/
lemma Finds.of_closed {mark stop : Char} {text : List Char} (hread : ClosesWith read mark)
    (hmark : mark ∉ text)
    (hstop : stop ≠ mark ∧ isWordChar stop = false ∧ isBlank stop = false) :
    Finds read before (text ++ [stop]) [] := by
  obtain ⟨hne, hword, hblank⟩ := hstop
  apply Finds.of_fails
  intro front c back rest htext
  by_contra hsome
  obtain ⟨⟨a, after⟩, hsome⟩ := Option.ne_none_iff_exists'.mp hsome
  obtain ⟨d, run, hd, hrun, heq⟩ := hread _ _ a after hsome
  have hrun : ∀ e ∈ d :: run, e ≠ stop := by
    rintro e he rfl
    rcases List.mem_cons.mp he with rfl | he
    · rw [hd] at hword
      cases hword
    · rcases hrun _ he with h | h
      · rw [h] at hword
        cases hword
      · rw [h] at hblank
        cases hblank
  have hback : mark ∉ c :: back := by
    intro hmem
    have : mark ∈ text ++ [stop] := by rw [htext]; exact List.mem_append_right front hmem
    rcases List.mem_append.mp this with h | h
    · exact hmark h
    · exact hne (List.mem_singleton.mp h).symm
  have hmem : stop ∈ c :: back := by
    have hlast := congrArg List.getLast? htext
    rw [List.getLast?_append_of_ne_nil _ (by simp),
      List.getLast?_append_of_ne_nil _ (by simp)] at hlast
    exact List.mem_of_getLast? hlast.symm
  -- the mark would have to come before `stop`, among the characters that lack it
  have heq : (c :: back) ++ rest = (d :: run) ++ mark :: after := heq
  rcases List.append_eq_append_iff.mp heq with ⟨more, hmore, _⟩ | ⟨more, hmore, htail⟩
  · exact hrun stop (by rw [hmore]; exact List.mem_append_left more hmem) rfl
  · cases more with
    | nil => exact hrun stop (by simpa [hmore] using hmem) rfl
    | cons e more =>
      rw [List.cons_append] at htail
      injection htail with he _
      exact hback (by rw [hmore, ← he]; simp)

end Elementwise.Scan
