import SequenceCalculator.Proofs.Grammar.Alteration

namespace SequenceCalculator

/-!
# Statements with other blanks

Where no literal stands, a statement may be written with any other blanks between the same
words: neither their number nor their kind matters, as long as what was apart stays apart.
Blanks at the end may be left out in any case.
-/

namespace Text

/-- Whether a character belongs to a word, in the sense of whatever stands between
blanks. -/
def inWord (character : Char) : Bool := !isBlank character

/-- What stands between the blanks of a text. -/
def words (text : Text) : List Text :=
  (text.splitOnP isBlank).filter (· ≠ [])

theorem words_append_cons (front rest : Text) {blank : Char} (areBlank : isBlank blank = true) :
    words (front ++ blank :: rest) = words front ++ words rest := by
  rw [words, List.splitOnP_append_cons _ _ areBlank, List.filter_append, words, words]

theorem words_nil : words [] = [] := rfl

theorem words_cons {blank : Char} (areBlank : isBlank blank = true) (rest : Text) :
    words (blank :: rest) = words rest :=
  words_append_cons [] rest areBlank

@[simp] theorem words_dropBlanks (text : Text) : words (text.dropWhile isBlank) = words text := by
  induction text with
  | nil => rfl
  | cons first rest inductionHypothesis =>
      cases blank : isBlank first with
      | true => rw [List.dropWhile_cons_of_pos blank, inductionHypothesis, words_cons blank]
      | false => rw [List.dropWhile_cons_of_neg (by rw [blank]; decide)]

theorem words_of_blanks {blanks : Text} (empty : blanks.dropWhile isBlank = []) :
    words blanks = [] := by
  rw [← words_dropBlanks, empty, words_nil]

theorem words_blanks_append {blanks : Text} (areBlank : Grammar.AllBlank blanks) (rest : Text) :
    words (blanks ++ rest) = words rest := by
  induction blanks with
  | nil => rw [List.nil_append]
  | cons first others inductionHypothesis =>
      rw [List.cons_append, words_cons (areBlank first List.mem_cons_self)]
      exact inductionHypothesis fun character member =>
        areBlank character (List.mem_cons_of_mem _ member)

/-- Blanks between words belong to neither. -/
theorem words_append (front : Text) {gap : Text} (areBlank : Grammar.AllBlank gap)
    (nonempty : gap ≠ []) (rest : Text) :
    words (front ++ (gap ++ rest)) = words front ++ words rest := by
  cases gap with
  | nil => exact absurd rfl nonempty
  | cons first others =>
      have same := words_blanks_append areBlank rest
      rw [List.cons_append, words_cons (areBlank first List.mem_cons_self)] at same
      rw [List.cons_append, words_append_cons _ _ (areBlank first List.mem_cons_self), same]

theorem words_append_blanks (front : Text) {blanks : Text} (areBlank : Grammar.AllBlank blanks) :
    words (front ++ blanks) = words front := by
  by_cases empty : blanks = []
  · rw [empty, List.append_nil]
  · have split := words_append front areBlank empty []
    rwa [List.append_nil, words_nil, List.append_nil] at split

/-- The words of a text are the text without its blanks. -/
theorem flatten_words (text : Text) : (words text).flatten = text.filter inWord := by
  rw [words, List.flatten_filter_ne_nil]
  induction text with
  | nil => rfl
  | cons first rest inductionHypothesis =>
      rw [List.splitOnP_cons_eq_if_modifyHead]
      split
      · next blank =>
        rw [List.filter_cons_of_neg (by rw [inWord, blank]; decide), List.flatten_cons,
          List.nil_append, inductionHypothesis]
      · next notBlank =>
        rcases List.exists_cons_of_ne_nil (List.splitOnP_ne_nil isBlank rest) with
          ⟨word, others, split⟩
        rw [split, List.flatten_cons] at inductionHypothesis
        rw [List.filter_cons_of_pos (by simpa [inWord] using notBlank), split,
          List.modifyHead_cons, List.flatten_cons, List.cons_append, inductionHypothesis]

theorem flatten_flatMap_words (texts : List Text) :
    (texts.flatMap words).flatten = texts.flatten.filter inWord := by
  induction texts with
  | nil => rfl
  | cons text texts inductionHypothesis =>
      rw [List.flatMap_cons, List.flatten_append, flatten_words, inductionHypothesis,
        List.flatten_cons, List.filter_append]

/-- A text starts with a word and goes on behind it, unless it starts with a blank. -/
theorem words_eq (text : Text) :
    words text = (if text.takeWhile inWord = [] then [] else [text.takeWhile inWord]) ++
      words (text.dropWhile inWord) := by
  have split := List.takeWhile_append_dropWhile (p := inWord) (l := text)
  have plain : forall character, character ∈ text.takeWhile inWord ->
      isBlank character = false := by
    intro character member
    simpa [inWord] using List.mem_takeWhile_imp member
  split
  · next empty =>
    rw [empty, List.nil_append] at split
    rw [split, List.nil_append]
  · next nonempty =>
    have single : words (text.takeWhile inWord) = [text.takeWhile inWord] := by
      rw [words, List.splitOnP_eq_singleton plain]
      simp [nonempty]
    conv_lhs => rw [← split]
    cases dropped : text.dropWhile inWord with
    | nil => rw [List.append_nil, single, words_nil, List.append_nil]
    | cons first others =>
        have blank : isBlank first = true := by
          have stops := List.head?_dropWhile_not inWord text
          rw [dropped] at stops
          simpa [inWord] using stops
        rw [words_append_cons _ _ blank, single, words_cons blank]

end Text

namespace Grammar

open SequenceCalculator.Parser

/-- The same words stand in the same order, and either both texts start with a blank or
neither does. -/
structure SameWords (text other : Text) : Prop where
  starts : text.takeWhile Text.inWord = other.takeWhile Text.inWord
  goesOn : Text.words (text.dropWhile Text.inWord) = Text.words (other.dropWhile Text.inWord)

namespace SameWords

theorem words {text other : Text} (same : SameWords text other) :
    Text.words text = Text.words other := by
  rw [Text.words_eq text, Text.words_eq other, same.starts, same.goesOn]

theorem symm {text other : Text} (same : SameWords text other) : SameWords other text :=
  ⟨same.starts.symm, same.goesOn.symm⟩

theorem cons {character : Char} (notBlank : Text.isBlank character = false) {rest other : Text}
    (same : SameWords (character :: rest) other) :
    ∃ left, other = character :: left ∧ SameWords rest left := by
  have passes : Text.inWord character = true := by rw [Text.inWord, notBlank]; rfl
  rcases same with ⟨starts, goesOn⟩
  rw [List.takeWhile_cons_of_pos passes] at starts
  rw [List.dropWhile_cons_of_pos passes] at goesOn
  cases other with
  | nil => cases starts
  | cons first left =>
      by_cases alsoPasses : Text.inWord first = true
      · rw [List.takeWhile_cons_of_pos alsoPasses] at starts
        rw [List.dropWhile_cons_of_pos alsoPasses] at goesOn
        rcases List.cons.inj starts with ⟨rfl, startsRest⟩
        exact ⟨left, rfl, startsRest, goesOn⟩
      · rw [List.takeWhile_cons_of_neg alsoPasses] at starts
        cases starts

theorem dropBlanks_eq_nil {text : Text}
    (noWord : (text.dropWhile Text.isBlank).takeWhile Text.inWord = []) :
    text.dropWhile Text.isBlank = [] := by
  cases dropped : text.dropWhile Text.isBlank with
  | nil => rfl
  | cons first others =>
      have stops := List.head?_dropWhile_not Text.isBlank text
      rw [dropped] at noWord stops
      have passes : Text.inWord first = true := by simpa [Text.inWord] using stops
      rw [List.takeWhile_cons_of_pos passes] at noWord
      cases noWord

/-- Without blanks in front the words decide. -/
theorem of_words {text other : Text} (same : Text.words text = Text.words other) :
    SameWords (text.dropWhile Text.isBlank) (other.dropWhile Text.isBlank) := by
  rw [← Text.words_dropBlanks text, ← Text.words_dropBlanks other, Text.words_eq,
    Text.words_eq (other.dropWhile Text.isBlank)] at same
  split at same
  · next noWord =>
    split at same
    · next alsoNoWord =>
      rw [dropBlanks_eq_nil noWord, dropBlanks_eq_nil alsoNoWord]
      exact ⟨rfl, rfl⟩
    · rw [dropBlanks_eq_nil noWord] at same
      cases same
  · split at same
    · next alsoNoWord =>
      rw [dropBlanks_eq_nil alsoNoWord] at same
      cases same
    · rcases List.cons.inj same with ⟨starts, goesOn⟩
      exact ⟨starts, goesOn⟩

end SameWords

/-- A text without literals is written with other blanks. -/
def respaced : Alteration where
  relates text other := '"' ∉ text ∧ SameWords text other
  covers _ := True
  covers_of_suffix _ _ := trivial
  keeps := by
    rintro character rest other ⟨noQuote, same⟩ kept _
    rcases kept with notBlank | quote
    · rcases same.cons notBlank with ⟨left, rfl, sameRest⟩
      exact ⟨left, rfl, fun member => noQuote (List.mem_cons_of_mem _ member), sameRest⟩
    · exact absurd (List.mem_cons_of_mem _ quote) noQuote
  traces := by
    rintro character rest left notBlank ⟨noQuote, same⟩
    rcases same.symm.cons notBlank with ⟨behind, rfl, sameRest⟩
    exact ⟨behind, rfl, fun member => noQuote (List.mem_cons_of_mem _ member), sameRest.symm⟩
  dropsBlanks := by
    rintro text other ⟨noQuote, same⟩ _
    exact ⟨fun member => noQuote ((List.dropWhile_sublist _).subset member),
      .of_words same.words⟩

/-- Blanks at the end are left out. -/
def shortened {blanks : Text} (areBlank : AllBlank blanks) : Alteration :=
  .withoutEnd blanks (fun _ => True) (fun _ _ => trivial)
    (by
      rintro character rest rfl (notBlank | quote) _
      · rw [areBlank character List.mem_cons_self] at notBlank
        cases notBlank
      · exact absurd (areBlank _ (List.mem_cons_of_mem _ quote)) (by decide))
    fun nonempty => absurd (List.dropWhile_eq_nil_iff.mpr areBlank) nonempty

/-- A statement that is a whole text is the same one on an altered text, if nothing is
altered to nothing but blanks. -/
theorem parseStatement_of_altered {alteration : Alteration} {depth : Nat} {text other : Text}
    {node : Node} (loosely : alteration.Loosely text other) (covers : alteration.covers [])
    (ends : forall left, alteration.Loosely [] left -> left.dropWhile Text.isBlank = [])
    (reads : parseStatement depth text = .success node) :
    parseStatement depth other = .success node := by
  rcases (carries_statement depth).carries loosely (read_to_end reads) covers with
    ⟨left, looselyEnd, same⟩
  have empty := ends left looselyEnd
  have clear : Clear goingOn left := by
    intro character leads
    rw [Text.start?, empty] at leads
    cases leads
  have whole := same clear
  have atEnd : left = [] := by
    rw [← empty]
    exact (tidy_statement depth other node left whole).symm
  rw [atEnd] at whole
  have isEnd : endOfText [] = .success () [] := rfl
  simp only [parseStatement, Grammar.read, singleStatement, Parser.skipRight,
    bind_of_success whole, mapTo, map_of_success _ isEnd]

theorem parseStatement_of_words {depth : Nat} {text other : Text} {node : Node}
    (noQuote : '"' ∉ text) (same : Text.words text = Text.words other)
    (reads : parseStatement depth text = .success node) :
    parseStatement depth other = .success node := by
  have loosely : respaced.Loosely text other :=
    ⟨text.dropWhile Text.isBlank, other.dropWhile Text.isBlank,
      ⟨fun member => noQuote ((List.dropWhile_sublist _).subset member), .of_words same⟩,
      Text.dropBlanks_idempotent text, Text.dropBlanks_idempotent other⟩
  refine parseStatement_of_altered loosely trivial ?_ reads
  rintro left ⟨first, second, ⟨_, sameWords⟩, empty, sameEnd⟩
  have none : Text.words left = [] := by
    rw [← Text.words_dropBlanks, ← sameEnd, Text.words_dropBlanks, ← sameWords.words,
      Text.words_of_blanks empty]
  have both := SameWords.of_words (none.trans Text.words_nil.symm)
  exact SameWords.dropBlanks_eq_nil both.starts

/-- A text is made of its trimmed text and of blanks behind it. -/
theorem exists_trimEnd (text : Text) :
    ∃ blanks, text = text.trimEnd ++ blanks ∧ AllBlank blanks := by
  refine ⟨(text.reverse.takeWhile Text.isBlank).reverse, ?_, ?_⟩
  · rw [Text.trimEnd, ← List.reverse_append, List.takeWhile_append_dropWhile, List.reverse_reverse]
  · intro character member
    exact List.mem_takeWhile_imp (List.mem_reverse.mp member)

theorem words_trimEnd (text : Text) : Text.words text.trimEnd = Text.words text := by
  rcases exists_trimEnd text with ⟨blanks, split, areBlank⟩
  conv_rhs => rw [split]
  exact (Text.words_append_blanks _ areBlank).symm

theorem parseStatement_trimEnd {depth : Nat} {text : Text} {node : Node}
    (reads : parseStatement depth text = .success node) :
    parseStatement depth text.trimEnd = .success node := by
  rcases exists_trimEnd text with ⟨blanks, split, areBlank⟩
  have loosely : (shortened areBlank).Loosely text text.trimEnd :=
    Alteration.loosely_of_relates split
  refine parseStatement_of_altered loosely trivial ?_ reads
  rintro left ⟨_, second, rfl, empty, sameEnd⟩
  rw [← sameEnd]
  rw [List.dropWhile_append] at empty
  split at empty
  · next isEmpty => exact List.isEmpty_iff.mp isEmpty
  · exact (List.append_eq_nil_iff.mp empty).1

end Grammar
end SequenceCalculator
