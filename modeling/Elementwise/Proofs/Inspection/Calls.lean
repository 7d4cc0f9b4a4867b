import Elementwise.Proofs.Inspection.Reader

/-!
# The calls of a text

Scanning for calls passes over nothing: no place inside of a call starts another one. So the calls
of any text are the called words of the text, from left to right. Which words are called is said
here without a reader, by what stands around them.
-/

namespace Elementwise

open Text

namespace Scan

variable {α : Type} {read : Reader α} {before : List Char}

/-! ### Places -/

/-- The places of a text: the reversed text before each character, and the text from there on. -/
def places (before : List Char) : (text : List Char) → List (List Char × List Char)
  | [] => []
  | c :: rest => (before, c :: rest) :: places (c :: before) rest

lemma mem_places_iff {text : List Char} {place : List Char × List Char} :
    place ∈ places before text ↔ ∃ front c back, text = front ++ c :: back ∧
      place = (front.reverse ++ before, c :: back) := by
  induction text generalizing before with
  | nil => simp [places]
  | cons d text ih =>
    rw [places, List.mem_cons, ih]
    constructor
    · rintro (rfl | ⟨front, c, back, rfl, rfl⟩)
      · exact ⟨[], d, text, rfl, rfl⟩
      · exact ⟨d :: front, c, back, rfl, by simp⟩
    · rintro ⟨front, c, back, htext, rfl⟩
      cases front with
      | nil =>
        rw [List.nil_append, List.cons.injEq] at htext
        obtain ⟨rfl, rfl⟩ := htext
        exact Or.inl rfl
      | cons e front =>
        rw [List.cons_append, List.cons.injEq] at htext
        obtain ⟨rfl, rfl⟩ := htext
        exact Or.inr ⟨front, c, back, rfl, by simp⟩

/-- The places of a text are in order of position. -/
lemma pairwise_places (before text : List Char) :
    (places before text).Pairwise fun first second => first.1.length < second.1.length := by
  induction text generalizing before with
  | nil => exact List.Pairwise.nil
  | cons c text ih =>
    rw [places]
    refine List.Pairwise.cons ?_ (ih (c :: before))
    intro place hplace
    obtain ⟨front, d, back, _, rfl⟩ := mem_places_iff.mp hplace
    simp
    omega

/-- The first places of a text are those of its first part. -/
lemma exists_of_mem_take_places {front back : List Char} {place : List Char × List Char}
    (h : place ∈ (places before (front ++ back)).take front.length) :
    ∃ lead c rest, front = lead ++ c :: rest ∧
      place = (lead.reverse ++ before, c :: (rest ++ back)) := by
  induction front generalizing before with
  | nil => cases h
  | cons d front ih =>
    rw [List.cons_append, places, List.length_cons, List.take_succ_cons, List.mem_cons] at h
    rcases h with rfl | h
    · exact ⟨[], d, front, rfl, rfl⟩
    · obtain ⟨lead, c, rest, rfl, rfl⟩ := ih h
      exact ⟨d :: lead, c, rest, rfl, by simp⟩

/-! ### Readers that pass over nothing -/

/-- No place inside of what the reader recognises starts something else that it recognises. -/
def Solitary (read : Reader α) : Prop :=
  ∀ before c rest a after, read before (c :: rest) = some (a, after) →
    ∀ place ∈ (places (c :: before) rest).take (rest.length - after.length),
      read place.1 place.2 = none

/-- What is recognised at the places of a text is found in a scan, unless the scan has to pass over
a place where something is recognised. -/
lemma Solitary.allFrom_eq (hread : Solitary read) {skip : Nat} {text : List Char}
    (hskip : ∀ place ∈ (places before text).take skip, read place.1 place.2 = none) :
    allFrom read before skip text =
      (places before text).filterMap fun place => (read place.1 place.2).map Prod.fst := by
  induction text generalizing before skip with
  | nil => cases skip <;> rfl
  | cons c text ih =>
    rw [places, List.filterMap_cons]
    cases skip with
    | succ skip =>
      rw [places, List.take_succ_cons, List.forall_mem_cons] at hskip
      rw [allFrom, ih hskip.2, hskip.1]
      rfl
    | zero =>
      -- what is recognised here is passed over next, and nothing starts inside of it
      rw [allFrom]
      cases hfound : read before (c :: text) with
      | none => exact ih (by simp)
      | some found =>
        obtain ⟨a, after⟩ := found
        simp only [Option.map_some]
        rw [ih (hread before c text a after hfound)]

lemma Solitary.all_eq (hread : Solitary read) (text : List Char) :
    all read text = (places [] text).filterMap fun place => (read place.1 place.2).map Prod.fst :=
  hread.allFrom_eq (by simp)

lemma insideWord_eq_false_iff :
    insideWord before = false ↔ ∀ c ∈ before.head?, isWordChar c = false := by
  cases before with
  | nil => simp [insideWord]
  | cons c rest => simp [insideWord]

/-- Behind word characters a scan stands inside of a word. -/
lemma insideWord_reverse_append {word : List Char} (hword : ∀ c ∈ word, isWordChar c = true)
    (hbefore : insideWord before = true) : insideWord (word.reverse ++ before) = true := by
  rcases List.eq_nil_or_concat word with rfl | ⟨front, last, rfl⟩
  · exact hbefore
  · simpa [insideWord] using hword last (by simp)

end Scan

namespace Inspection

open Scan

variable {before text : List Char}

/-! ### Where calls start -/

lemma afterAttributeMark_eq_false_iff :
    afterAttributeMark before = false ↔ before.head? ≠ some '@' := by
  unfold afterAttributeMark
  split
  · simp
  · rename_i hother
    simp only [true_iff]
    intro hhead
    obtain ⟨rest, hrest⟩ := List.head?_eq_some_iff.mp hhead
    exact hother rest hrest

/-- The keyword of a declaration stands before a place when blanks lead back to it and it does not
end a longer word. -/
lemma afterFunctionKeyword_iff :
    afterFunctionKeyword before = true ↔ ∃ blanks lead, blanks ≠ [] ∧
      (∀ c ∈ blanks, isBlank c = true) ∧ before = blanks ++ 'n' :: 'f' :: lead ∧
      insideWord lead = false := by
  constructor
  · intro h
    cases before with
    | nil => cases h
    | cons c rest =>
      obtain ⟨blanks, hblanks, hskip⟩ := exists_blanks_append_skipBlanks (c :: rest)
      simp only [afterFunctionKeyword, Bool.and_eq_true] at h
      obtain ⟨hc, h⟩ := h
      split at h
      · rename_i lead hlead
        rw [hlead] at hskip
        refine ⟨blanks, lead, ?_, hblanks, hskip, by simpa using h⟩
        -- the character just before the place is a blank, and not the end of the keyword
        rintro rfl
        rw [List.nil_append, List.cons.injEq] at hskip
        rw [hskip.1] at hc
        cases hc
      · cases h
  · rintro ⟨blanks, lead, hne, hblanks, rfl, hlead⟩
    have hskip : skipBlanks (blanks ++ 'n' :: 'f' :: lead) = 'n' :: 'f' :: lead :=
      skipBlanks_append_of_boundary hblanks (by simp [isBlank])
    cases blanks with
    | nil => exact absurd rfl hne
    | cons c blanks =>
      rw [List.cons_append] at hskip ⊢
      simp [afterFunctionKeyword, hskip, hlead, hblanks c List.mem_cons_self]

/-- The same in the order of the text. -/
lemma afterFunctionKeyword_reverse_iff {front : List Char} :
    afterFunctionKeyword front.reverse = true ↔ ∃ lead blanks, blanks ≠ [] ∧
      (∀ c ∈ blanks, isBlank c = true) ∧ front = lead ++ ("fn".toList ++ blanks) ∧
      ∀ c ∈ lead.getLast?, isWordChar c = false := by
  rw [afterFunctionKeyword_iff]
  constructor
  · rintro ⟨blanks, lead, hne, hblanks, hfront, hlead⟩
    refine ⟨lead.reverse, blanks.reverse, by simpa using hne, by simpa using hblanks, ?_, ?_⟩
    · rw [List.reverse_eq_iff] at hfront
      simp [hfront]
    · rw [List.getLast?_reverse]
      exact insideWord_eq_false_iff.mp hlead
  · rintro ⟨lead, blanks, hne, hblanks, rfl, hlead⟩
    refine ⟨blanks.reverse, lead.reverse, by simpa using hne, by simpa using hblanks, by simp, ?_⟩
    rw [insideWord_eq_false_iff, List.head?_reverse]
    exact hlead

/-- No call starts at a mark. -/
lemma call?_eq_none_of_mark {c : Char} (h : isWordChar c = false) :
    call? before (c :: text) = none := by
  have hstart : isNameStart c = false := by
    by_contra hname
    rw [isWordChar_of_isNameStart (by simpa using hname)] at h
    cases h
  simp [call?, name?, hstart]

/-- Inside of a call there is no place where another one starts: its name goes on with a word, and
what follows the name holds no words. -/
lemma call?_solitary : Solitary call? := by
  intro before c rest name after h place hplace
  obtain ⟨_, blanks, hblanks, hname, htext⟩ := call?_eq_some_iff.mp h
  obtain ⟨d, word, hword, hd, hrest⟩ := isName_iff.mp hname
  rw [hword, List.cons_append, List.cons.injEq] at htext
  obtain ⟨rfl, rfl⟩ := htext
  have hlength : (word ++ (blanks ++ '(' :: after)).length - after.length =
      (word ++ (blanks ++ ['('])).length := by
    simp
    omega
  have htext : word ++ (blanks ++ '(' :: after) = (word ++ (blanks ++ ['('])) ++ after := by simp
  rw [hlength, htext] at hplace
  obtain ⟨lead, e, back, hsplit, rfl⟩ := exists_of_mem_take_places hplace
  rcases List.append_eq_append_iff.mp hsplit with ⟨more, rfl, hmarks⟩ | ⟨more, rfl, hmore⟩
  · -- the place lies behind the name, where there are no word characters
    have hmark : e ∈ blanks ++ ['('] := by
      rw [hmarks]
      simp
    apply call?_eq_none_of_mark
    rcases List.mem_append.mp hmark with he | he
    · exact isWordChar_eq_false_of_isBlank (hblanks e he)
    · rw [List.mem_singleton.mp he]
      decide
  · -- the place lies in the name or right behind it
    have hinside : insideWord (c :: before) = true := isWordChar_of_isNameStart hd
    apply call?_eq_none_of_refused
    left
    apply insideWord_reverse_append _ hinside
    exact fun x hx => hrest x (List.mem_append_left more hx)

/-! ### Called words -/

/-- Some characters of a text with what stands before and after them. -/
structure Occurrence where
  front : List Char
  word : List Char
  back : List Char

/-- Whether a word is called in a text. It is a whole word and does not start with a digit, it is
followed by a parenthesis, and it is neither an attribute nor declared as a function. -/
structure Occurrence.IsCall (o : Occurrence) (text : List Char) : Prop where
  text_eq : text = o.front ++ (o.word ++ o.back)
  ne_nil : o.word ≠ []
  chars : ∀ c ∈ o.word, isWordChar c = true
  starts : ∀ c ∈ o.front.getLast?, isWordChar c = false
  stops : ∀ c ∈ o.back.head?, isWordChar c = false
  not_digit : ∀ c ∈ o.word.head?, c.isDigit = false
  not_attribute : o.front.getLast? ≠ some '@'
  opened : ∃ blanks rest, (∀ c ∈ blanks, isBlank c = true) ∧ o.back = blanks ++ '(' :: rest
  not_declared : ¬ ∃ lead blanks, blanks ≠ [] ∧ (∀ c ∈ blanks, isBlank c = true) ∧
    o.front = lead ++ ("fn".toList ++ blanks) ∧ ∀ c ∈ lead.getLast?, isWordChar c = false

namespace Occurrence

/-- The words that are called are those that the reader of calls recognises. -/
lemma isCall_iff {o : Occurrence} :
    o.IsCall text ↔ text = o.front ++ (o.word ++ o.back) ∧
      ∃ rest, call? o.front.reverse (o.word ++ o.back) = some (String.ofList o.word, rest) := by
  simp only [call?_eq_some_iff, insideWord_eq_false_iff, afterAttributeMark_eq_false_iff,
    List.head?_reverse, ← Bool.not_eq_true (afterFunctionKeyword _),
    afterFunctionKeyword_reverse_iff, String.toList_ofList, isName_iff_not_isDigit,
    List.append_cancel_left_eq]
  constructor
  · intro h
    obtain ⟨blanks, rest, hblanks, hback⟩ := h.opened
    exact ⟨h.text_eq, rest, ⟨h.starts, h.not_attribute, h.not_declared⟩, blanks, hblanks,
      ⟨h.ne_nil, h.chars, h.not_digit⟩, hback⟩
  · rintro ⟨htext, rest, ⟨hstarts, hattribute, hdeclared⟩, blanks, hblanks,
      ⟨hne, hchars, hdigit⟩, hback⟩
    have hstops : ∀ c ∈ o.back.head?, isWordChar c = false := by
      rw [hback]
      exact isWordChar_head?_blanks_append hblanks (by decide)
    exact ⟨htext, hne, hchars, hstarts, hstops, hdigit, hattribute, ⟨blanks, rest, hblanks, hback⟩,
      hdeclared⟩

/-- The word that is called at a place. -/
def calledAt? (place : List Char × List Char) : Option Occurrence :=
  (call? place.1 place.2).map fun found =>
    ⟨place.1.reverse, found.1.toList, place.2.drop found.1.toList.length⟩

lemma calledAt?_eq_some_iff {front back : List Char} {o : Occurrence} :
    calledAt? (front.reverse, back) = some o ↔ o.front = front ∧ o.word ++ o.back = back ∧
      o.IsCall (front ++ back) := by
  rw [calledAt?, Option.map_eq_some_iff]
  constructor
  · rintro ⟨⟨name, rest⟩, hread, rfl⟩
    obtain ⟨_, blanks, _, _, rfl⟩ := call?_eq_some_iff.mp hread
    rw [isCall_iff]
    simp [hread]
  · rintro ⟨rfl, rfl, h⟩
    obtain ⟨_, rest, hread⟩ := isCall_iff.mp h
    refine ⟨_, hread, ?_⟩
    simp

lemma front_of_calledAt? {place : List Char × List Char} {o : Occurrence}
    (h : calledAt? place = some o) : o.front = place.1.reverse := by
  obtain ⟨found, _, rfl⟩ := Option.map_eq_some_iff.mp h
  rfl

end Occurrence

end Inspection

open Inspection

/-- The calls of a text are its called words, all of them, each once and in the order of their
positions. -/
theorem calls_eq_calledWords (code : String) :
    ∃ occurrences : List Occurrence,
      (∀ o, o ∈ occurrences ↔ o.IsCall code.toList) ∧
      occurrences.Pairwise (fun o p => o.front.length < p.front.length) ∧
      (inspect code).calls = occurrences.map fun o => String.ofList o.word := by
  refine ⟨(Scan.places [] code.toList).filterMap Occurrence.calledAt?, ?_, ?_, ?_⟩
  · -- a called word is recognised at the place where it starts
    intro o
    rw [List.mem_filterMap]
    constructor
    · rintro ⟨place, hplace, ho⟩
      obtain ⟨front, c, back, htext, rfl⟩ := Scan.mem_places_iff.mp hplace
      rw [List.append_nil] at ho
      rw [htext]
      exact (Occurrence.calledAt?_eq_some_iff.mp ho).2.2
    · intro h
      refine ⟨(o.front.reverse, o.word ++ o.back), ?_, ?_⟩
      · obtain ⟨c, word, hword⟩ := List.exists_cons_of_ne_nil h.ne_nil
        exact Scan.mem_places_iff.mpr ⟨o.front, c, word ++ o.back, by simp [h.text_eq, hword],
          by simp [hword]⟩
      · rw [Occurrence.calledAt?_eq_some_iff]
        exact ⟨rfl, rfl, h.text_eq ▸ h⟩
  · rw [List.pairwise_filterMap]
    refine (Scan.pairwise_places [] code.toList).imp ?_
    intro first second hlt o ho p hp
    rw [Occurrence.front_of_calledAt? ho, Occurrence.front_of_calledAt? hp, List.length_reverse,
      List.length_reverse]
    exact hlt
  · -- the scan loses no place, since no call starts inside of another
    have hnames : ∀ place, (Occurrence.calledAt? place).map (fun o => String.ofList o.word) =
        (call? place.1 place.2).map Prod.fst := by
      intro place
      simp [Occurrence.calledAt?, Function.comp_def]
    simp only [List.map_filterMap, hnames]
    exact call?_solitary.all_eq code.toList

end Elementwise
