import SequenceCalculator.Proofs.Grammar.Alteration

namespace SequenceCalculator
namespace Grammar

/-!
# What a syntax error points at

A syntax error reports what could not be read and where it starts.  It is an end of the
text that starts with no blank, and what was read in front of it is a program by itself:
cutting the text off there makes no difference to the statements in front.  That is not
obvious, because an expression that ends at the cut may only have ended there for what
stands behind it, as a name does that is the name of a function.
-/

open SequenceCalculator.Parser

/-- The text is cut off in front of a remainder, which has to stay unread. -/
def cutOff {remainder : Text} (trimmed : remainder.dropWhile Text.isBlank = remainder) :
    Alteration :=
  .withoutEnd remainder (remainder <:+ ·) (fun isEnd covers => covers.trans isEnd)
    (by
      rintro character rest rfl _ covers
      have shorter := covers.length_le
      rw [List.length_cons] at shorter
      omega)
    fun _ => trimmed

/-- In front of the cut nothing but blanks is left. -/
theorem dropBlanks_of_cutOff {remainder left : Text}
    (trimmed : remainder.dropWhile Text.isBlank = remainder)
    (loosely : (cutOff trimmed).Loosely remainder left) : left.dropWhile Text.isBlank = [] := by
  rcases loosely with ⟨_, second, rfl, same, alsoSame⟩
  rw [← alsoSame]
  rw [trimmed, List.dropWhile_append] at same
  split at same
  · next empty => exact List.isEmpty_iff.mp empty
  · exact List.append_left_eq_self.mp same

/-- In front of a statement there are no line ends left to skip. -/
theorem skipLineEnds_eq (depth : Nat) {text : Text}
    (trimmed : text.dropWhile Text.isBlank = text) :
    (char '\n').many.skipLeft (statement depth) text = statement depth text := by
  have none := lineEnds_dropBlanks text
  rw [trimmed] at none
  rw [Parser.skipLeft, bind_of_success none]

/-- Statements that are read one behind the other, and what is left over. -/
inductive InARow (depth : Nat) : Text -> List Node -> Text -> Prop where
  | none (text : Text) : InARow depth text [] text
  | next {text between rest : Text} {node : Node} {nodes : List Node}
      (succeeds : statement depth text = .success node between)
      (others : InARow depth between nodes rest) : InARow depth text (node :: nodes) rest

namespace InARow

variable {depth : Nat}

theorem forward {text rest : Text} {nodes : List Node} (row : InARow depth text nodes rest) :
    rest <:+ text := by
  induction row with
  | none text => exact List.suffix_refl text
  | next succeeds _ inductionHypothesis =>
      exact inductionHypothesis.trans ((forward_statement depth).of_success succeeds)

theorem trimmed {text rest : Text} {nodes : List Node} (row : InARow depth text nodes rest)
    (trimmed : text.dropWhile Text.isBlank = text) : rest.dropWhile Text.isBlank = rest := by
  induction row with
  | none text => exact trimmed
  | next succeeds _ inductionHypothesis =>
      exact inductionHypothesis (tidy_statement depth _ _ _ succeeds)

theorem trimmed_of_ne_nil {text rest : Text} {nodes : List Node}
    (row : InARow depth text nodes rest) (nonempty : nodes ≠ []) :
    rest.dropWhile Text.isBlank = rest := by
  cases row with
  | none => exact absurd rfl nonempty
  | next succeeds others => exact others.trimmed (tidy_statement depth _ _ _ succeeds)

/-- Cutting the remainder off does not change the statements in front of it.  The
induction is on the statements: each ends where nothing is left or where the next one
starts, with a letter. -/
theorem cutOff {text other remainder : Text} {nodes : List Node}
    (trimmed : remainder.dropWhile Text.isBlank = remainder)
    (row : InARow depth text nodes remainder)
    (loosely : (Grammar.cutOff trimmed).Loosely text other) :
    ∃ left, left.dropWhile Text.isBlank = [] ∧ InARow depth other nodes left := by
  induction row generalizing other with
  | none text => exact ⟨other, dropBlanks_of_cutOff trimmed loosely, .none other⟩
  | @next text between rest node nodes succeeds others inductionHypothesis =>
      rcases (carries_statement depth).carries loosely succeeds others.forward with
        ⟨behind, looselyBehind, same⟩
      rcases inductionHypothesis trimmed looselyBehind with ⟨left, empty, row⟩
      refine ⟨left, empty, .next (same ?_) row⟩
      cases row with
      | none =>
          intro character leads
          rw [Text.start?, empty] at leads
          cases leads
      | next succeedsNext _ => exact clear_of_statement succeedsNext

/-- Statements in a row are a repetition, with all line ends between them taken by the
statements. -/
theorem repeats {text rest : Text} {nodes : List Node} (row : InARow depth text nodes rest)
    (trimmed : text.dropWhile Text.isBlank = text) (fails : (statement depth).Fails rest) :
    Repeats ((char '\n').many.skipLeft (statement depth)) text nodes rest := by
  induction row with
  | none text =>
      rcases fails with ⟨last, gaveUp⟩
      exact .stop ((skipLineEnds_eq depth trimmed).trans gaveUp)
  | @next text between rest node nodes succeeds others inductionHypothesis =>
      refine .step ((skipLineEnds_eq depth trimmed).trans succeeds) (statement_shortens succeeds) ?_
      exact inductionHypothesis (tidy_statement depth text node between succeeds) fails

theorem of_repeats {text rest : Text} {nodes : List Node}
    (repeats : Repeats ((char '\n').many.skipLeft (statement depth)) text nodes rest)
    (trimmed : text.dropWhile Text.isBlank = text) :
    InARow depth text nodes rest ∧ rest.dropWhile Text.isBlank = rest ∧
      (statement depth).Fails rest := by
  induction repeats with
  | @stop text last fails =>
      exact ⟨.none text, trimmed, last, (skipLineEnds_eq depth trimmed).symm.trans fails⟩
  | @step text between rest node nodes found reads goesOn inductionHypothesis =>
      have succeeds := (skipLineEnds_eq depth trimmed).symm.trans found
      rcases inductionHypothesis (tidy_statement depth text node between succeeds) with
        ⟨row, trimmedRest, fails⟩
      exact ⟨.next succeeds row, trimmedRest, fails⟩

/-- Statements in a row up to the end are a program. -/
theorem parseProgram {text left : Text} {nodes : List Node} (row : InARow depth text nodes left)
    (nonempty : nodes ≠ []) (empty : left.dropWhile Text.isBlank = []) :
    parseProgram depth text = .success nodes := by
  cases row with
  | none => exact absurd rfl nonempty
  | @next _ between _ node others succeeds row =>
      have trimmed := tidy_statement depth text node between succeeds
      have atEnd : left = [] := by
        rw [← empty]
        exact (row.trimmed trimmed).symm
      rw [atEnd] at row
      exact parseProgram_of_repeats succeeds (row.repeats trimmed (statement_nil depth))

end InARow

/-- Statements in front of a remainder are the program that is left when it is cut
off. -/
theorem parseProgram_take {depth : Nat} {text fragment : Text} {nodes : List Node}
    (row : InARow depth text nodes fragment) (nonempty : nodes ≠ [])
    (trimmed : fragment.dropWhile Text.isBlank = fragment) :
    parseProgram depth (text.take (text.length - fragment.length)) = .success nodes := by
  rcases row.forward with ⟨front, rfl⟩
  have isFront :
      (front ++ fragment).take ((front ++ fragment).length - fragment.length) = front := by
    rw [List.length_append, Nat.add_sub_cancel, List.take_left]
  rw [isFront]
  rcases row.cutOff trimmed (Alteration.loosely_of_relates rfl) with ⟨left, empty, cut⟩
  exact cut.parseProgram nonempty empty

/-!
## Where reading gives up
-/

/-- Inside a literal blanks are read, so a literal that is not closed gives up in front of
something else. -/
theorem trimmed_of_printing_fails {text rest : Text} (fails : printing text = .failure rest) :
    rest.dropWhile Text.isBlank = rest := by
  rcases bind_eq_failure fails with noKeyword | ⟨_, between, _, noString⟩
  · rw [symbol_eq_failure (token_eq_failure noKeyword), Text.dropBlanks_idempotent]
  · have noLiteral := token_eq_failure (map_eq_failure (map_eq_failure noString))
    rcases bind_eq_failure noLiteral with notOpened | ⟨_, content, _, notClosed⟩
    · rw [satisfy_eq_failure notOpened, Text.dropBlanks_idempotent]
    · rcases bind_eq_failure notClosed with unread | ⟨written, behind, isMany, noQuote⟩
      · exact absurd unread (many_ne_failure _ _ _)
      · rw [stringCharacter_eq, many_satisfy] at isMany
        cases isMany
        rw [satisfy_eq_failure (map_eq_failure noQuote)]
        have stops := List.head?_dropWhile_not (fun character => Text.isLetter character ||
          Text.isDigit character || Text.isBlank character) content
        split at stops
        · next first leads =>
          rcases List.head?_eq_some_iff.mp leads with ⟨others, split⟩
          rw [Bool.or_eq_false_iff] at stops
          rw [split, List.dropWhile_cons_of_neg (by rw [stops.2]; decide)]
        · next none => rw [List.head?_eq_none_iff.mp none, List.dropWhile_nil]

theorem trimmed_of_statement_fails {depth : Nat} {text rest : Text}
    (fails : statement depth text = .failure rest) : rest.dropWhile Text.isBlank = rest := by
  rcases bind_eq_failure fails with gaveUp | ⟨node, between, _, converted⟩
  · exact trimmed_of_printing_fails (orElse_eq_failure gaveUp)
  · exact absurd ⟨rest, converted⟩ (ofExcept_not_fails _ _)

/-- A program is given up at its first statement, or behind statements where no other
one follows. -/
theorem wholeProgram_eq_failure {depth : Nat} {text fragment : Text}
    (fails : wholeProgram depth text = .failure fragment) :
    statement depth text = .failure fragment ∨ ∃ nodes, nodes ≠ [] ∧
      InARow depth text nodes fragment ∧ (statement depth).Fails fragment := by
  rcases bind_eq_failure fails with gaveUp | ⟨nodes, rest, found, more⟩
  · rcases bind_eq_failure gaveUp with first | ⟨_, behind, _, unread⟩
    · exact .inl first
    · exact absurd (map_eq_failure unread) (many_ne_failure _ _ _)
  · obtain rfl := endOfText_eq_failure (map_eq_failure more)
    rcases bind_eq_success found with ⟨first, behind, succeeds, foundOthers⟩
    rcases map_eq_success foundOthers with ⟨others, isMany, rfl⟩
    have trimmed := tidy_statement depth text first behind succeeds
    have shortens (text : Text) (node : Node) (rest : Text)
        (reads : (char '\n').many.skipLeft (statement depth) text = .success node rest) :
        rest.length < text.length := by
      rcases bind_eq_success reads with ⟨_, between, lineEnds, succeeds⟩
      have fewer := ((Forward.satisfy _).many.of_success lineEnds).length_le
      exact (statement_shortens succeeds).trans_le fewer
    rcases InARow.of_repeats (repeats_of_many shortens isMany) trimmed with ⟨row, _, noOther⟩
    exact .inr ⟨first :: others, List.cons_ne_nil _ _, .next succeeds row, noOther⟩

theorem singleStatement_eq_failure {depth : Nat} {text fragment : Text}
    (fails : singleStatement depth text = .failure fragment) :
    statement depth text = .failure fragment ∨
      ∃ node, statement depth text = .success node fragment := by
  rcases bind_eq_failure fails with gaveUp | ⟨node, rest, found, more⟩
  · exact .inl gaveUp
  · obtain rfl := endOfText_eq_failure (map_eq_failure more)
    exact .inr ⟨node, found⟩

theorem read_eq_failure {α : Type} {parser : Parser α} {text : Text} {error : SyntaxError}
    (fails : read parser text = .failure error) :
    ∃ fragment, parser text = .failure fragment ∧
      error = ⟨fragment, text.length - fragment.length⟩ := by
  unfold read at fails
  split at fails
  · cases fails
  · next fragment found =>
    cases fails
    exact ⟨fragment, found, rfl⟩
  · cases fails

/-- What a syntax error reports: the end of a text behind a number of characters, which
starts with no blank. -/
structure IsRemainder (text : Text) (error : SyntaxError) : Prop where
  within : error.offset ≤ text.length
  fragment_eq : error.fragment = text.drop error.offset
  noBlank : forall character, error.fragment.head? = some character ->
    Text.isBlank character = false

theorem isRemainder_of_suffix {text fragment : Text} (isEnd : fragment <:+ text)
    (trimmed : fragment.dropWhile Text.isBlank = fragment) :
    IsRemainder text ⟨fragment, text.length - fragment.length⟩ := by
  refine ⟨Nat.sub_le _ _, List.suffix_iff_eq_drop.mp isEnd, ?_⟩
  intro character leads
  have stops := List.head?_dropWhile_not Text.isBlank fragment
  rw [trimmed, leads] at stops
  simpa using stops

theorem isRemainder_of_parseProgram {depth : Nat} {text : Text} {error : SyntaxError}
    (fails : parseProgram depth text = .failure error) : IsRemainder text error := by
  rcases read_eq_failure fails with ⟨fragment, gaveUp, rfl⟩
  have isEnd := (hinges_wholeProgram depth depth).forward.of_failure gaveUp
  rcases wholeProgram_eq_failure gaveUp with atOnce | ⟨nodes, nonempty, row, _⟩
  · exact isRemainder_of_suffix isEnd (trimmed_of_statement_fails atOnce)
  · exact isRemainder_of_suffix isEnd (row.trimmed_of_ne_nil nonempty)

theorem isRemainder_of_parseStatement {depth : Nat} {text : Text} {error : SyntaxError}
    (fails : parseStatement depth text = .failure error) : IsRemainder text error := by
  rcases read_eq_failure fails with ⟨fragment, gaveUp, rfl⟩
  have isEnd := (hinges_singleStatement depth depth).forward.of_failure gaveUp
  rcases singleStatement_eq_failure gaveUp with atOnce | ⟨node, found⟩
  · exact isRemainder_of_suffix isEnd (trimmed_of_statement_fails atOnce)
  · exact isRemainder_of_suffix isEnd (tidy_statement depth text node fragment found)

/-- What a syntax error reports is true, for programs and for single statements alike: it
is the rest of the text from the reported offset on, which starts with no blank.  If the
text starts with a statement, what lies in front of the offset is a program, and its
statements are those that were read before the failure: for a single statement that one,
for a program all up to a place where no statement follows. -/
theorem remainder_behind_program (depth : Nat) (text : Text) (error : SyntaxError) :
    (parseProgram depth text = .failure error -> IsRemainder text error ∧
      ((∃ node rest, statement depth text = .success node rest) ->
        ∃ nodes, nodes ≠ [] ∧ InARow depth text nodes error.fragment ∧
          (statement depth).Fails error.fragment ∧
          parseProgram depth (text.take error.offset) = .success nodes)) ∧
    (parseStatement depth text = .failure error -> IsRemainder text error ∧
      ((∃ node rest, statement depth text = .success node rest) ->
        ∃ node, statement depth text = .success node error.fragment ∧
          parseProgram depth (text.take error.offset) = .success [node])) := by
  refine ⟨fun fails => ⟨isRemainder_of_parseProgram fails, ?_⟩,
    fun fails => ⟨isRemainder_of_parseStatement fails, ?_⟩⟩
  · rintro ⟨first, behind, succeeds⟩
    rcases read_eq_failure fails with ⟨fragment, gaveUp, rfl⟩
    rcases wholeProgram_eq_failure gaveUp with atOnce | ⟨nodes, nonempty, row, noOther⟩
    · cases succeeds.symm.trans atOnce
    · exact ⟨nodes, nonempty, row, noOther,
        parseProgram_take row nonempty (row.trimmed_of_ne_nil nonempty)⟩
  · rintro ⟨first, behind, succeeds⟩
    rcases read_eq_failure fails with ⟨fragment, gaveUp, rfl⟩
    rcases singleStatement_eq_failure gaveUp with atOnce | ⟨node, found⟩
    · cases succeeds.symm.trans atOnce
    · have row : InARow depth text [node] fragment := .next found (.none fragment)
      exact ⟨node, found, parseProgram_take row (List.cons_ne_nil _ _)
        (tidy_statement depth text node fragment found)⟩

/-- In front of a bracket that cannot be read the name of a function is a name like any
other. -/
example : (parseProgram 3 "out map (".toList).isSuccess = false ∧
    (parseProgram 3 "out map ".toList).isSuccess = true := by
  decide +kernel

end Grammar
end SequenceCalculator
