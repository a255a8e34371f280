import SequenceCalculator.Proofs.Evaluation.Kinds
import SequenceCalculator.Proofs.Grammar.Writing
import SequenceCalculator.Proofs.Number.Digits

namespace SequenceCalculator

/-!
# What is displayed is read back

The text of a value is a text of the language: a number is written as a numeral, and a
sequence as its numerals between braces, with a comma and a blank between neighbours.
Behind the keyword it is therefore an output statement, and the expression that is read
evaluates to the value again.

This is shown for integers of at most sixteen digits.  They are written in digits, with
nothing behind a point, and single precision gives them back.  The sign of zero is the
only thing that is lost, since zero is written without a sign.
-/

open Number

namespace Value

/-- The numbers in a value. -/
def numbers : Value -> List Single
  | .number value => [value]
  | .sequence elements => elements

/-- The value with positive zero in place of every negative zero. -/
def withoutNegativeZeros : Value -> Value
  | .number value => .number value.withoutNegativeZero
  | .sequence elements => .sequence (elements.map Floating.withoutNegativeZero)

/-- Whether every number in a value is an integer of at most sixteen digits. -/
def HasShortIntegers (value : Value) : Prop :=
  forall number, number ∈ value.numbers -> number.IsShortInteger

end Value

namespace Grammar

theorem decimal_of_mem_nil (character : Char) (member : character ∈ ([] : Text)) :
    (Text.decimalValue? character).isSome = true := by
  cases member

/-- The numeral of an integer, as a token. -/
def Numeral.ofInteger (integer : Int) : Numeral where
  negative := integer < 0
  whole := digitsOf integer.natAbs
  fraction := []
  nonempty := digitsOf_ne_nil integer.natAbs
  wholeDecimal := fun character member => by
    rw [decimalValue?_of_isDigit (isDigit_of_mem_digitsOf member)]
    rfl
  fractionDecimal := decimal_of_mem_nil

theorem text_ofInteger (integer : Int) :
    (Token.numeral (.ofInteger integer)).text = integerNumeral integer := by
  rw [integerNumeral, Token.text, Numeral.sign, Numeral.tail, Numeral.ofInteger]
  by_cases negative : integer < 0
  · simp [negative]
  · simp [negative]

theorem value_of_readDecimal? (numeral : Numeral) {value : Double}
    (reading : readDecimal? .double numeral.negative numeral.whole numeral.fraction =
      some value) : numeral.value = value.convert .single := by
  simp only [Numeral.value, reading, Option.get_some]

theorem value_ofInteger (integer : Int) :
    (Numeral.ofInteger integer).value = (Floating.ofInt integer : Double).convert .single := by
  have reading := readDecimal?_digitsOf .double (integer < 0) integer.natAbs
  exact value_of_readDecimal? (.ofInteger integer) reading

/-- The token that a short integer is written as. -/
theorem exists_numeral_of_short {number : Single} (short : number.IsShortInteger) :
    ∃ numeral : Numeral, (Token.numeral numeral).text = number.numeral ∧
      numeral.value = number.withoutNegativeZero := by
  rcases short with ⟨integer, amount, few⟩
  refine ⟨.ofInteger integer, ?_, ?_⟩
  · rw [text_ofInteger, Floating.numeral_of_amount? amount few]
  · rw [value_ofInteger, Floating.convert_ofInt Format.single_within_double amount]

/-- The tokens that several short integers are written as. -/
theorem exists_numerals_of_short (elements : List Single)
    (short : forall number, number ∈ elements -> number.IsShortInteger) :
    ∃ numerals : List Numeral,
      numerals.map (fun numeral => (Token.numeral numeral).text) =
        elements.map Floating.numeral ∧
      numerals.map Numeral.value = elements.map Floating.withoutNegativeZero := by
  induction elements with
  | nil => exact ⟨[], rfl, rfl⟩
  | cons element others inductionHypothesis =>
      rcases exists_numeral_of_short (short element List.mem_cons_self) with
        ⟨numeral, text, value⟩
      rcases inductionHypothesis fun number member =>
        short number (List.mem_cons_of_mem element member) with ⟨numerals, texts, values⟩
      refine ⟨numeral :: numerals, ?_, ?_⟩
      · rw [List.map_cons, List.map_cons, text, texts]
      · rw [List.map_cons, List.map_cons, value, values]

theorem allBlank_space : AllBlank [' '] := by
  intro character member
  cases List.mem_singleton.mp member
  decide

/-- No blank is needed behind a mark or a numeral. -/
theorem Laid.close (token : Token) {tokens : List Token} {rest : Text}
    (notWord : token.isWord = false) (laid : Laid tokens rest) :
    Laid (token :: tokens) (token.text ++ rest) := by
  have placed : Laid (token :: tokens) (token.text ++ [] ++ rest) :=
    .cons allBlank_nil (fun _ isWord => by rw [notWord] at isWord; cases isWord) laid
  rwa [List.append_nil] at placed

/-- One blank may stand behind every token. -/
theorem Laid.spaced (token : Token) {tokens : List Token} {rest : Text}
    (laid : Laid tokens rest) : Laid (token :: tokens) (token.text ++ ' ' :: rest) := by
  have placed : Laid (token :: tokens) (token.text ++ [' '] ++ rest) :=
    .cons allBlank_space (fun none => by cases none) laid
  rwa [List.append_assoc] at placed

/-- Numerals in a row are laid out with a comma and a blank between neighbours. -/
theorem laid_numerals (numerals : List Numeral) {tokens : List Token} {rest : Text}
    (laid : Laid tokens rest) :
    Laid (joined .comma (numerals.map fun numeral => [.numeral numeral]) ++ tokens)
      (Text.join ", ".toList (numerals.map fun numeral => (Token.numeral numeral).text) ++
        rest) := by
  match numerals with
  | [] => exact laid
  | [numeral] => exact laid.close (.numeral numeral) rfl
  | numeral :: next :: others =>
      have behind := laid_numerals (next :: others) laid
      have placed := (Laid.spaced (.mark .comma) behind).close (.numeral numeral) rfl
      have comma : ", ".toList = (Token.mark .comma).text ++ [' '] := rfl
      simpa only [List.map_cons, joined, Text.join, comma, List.append_assoc, List.cons_append,
        List.nil_append] using placed

/-- Every value of short integers is written the way the language writes the value
without negative zeros. -/
theorem writes_value {value : Value} (short : value.HasShortIntegers) :
    ∃ tokens, Writes 1 0 value.withoutNegativeZeros.toNode tokens ∧ Laid tokens value.text := by
  cases value with
  | number number =>
      rcases exists_numeral_of_short (short number (List.mem_singleton.mpr rfl)) with
        ⟨numeral, text, denoted⟩
      have laid := Laid.nil.close (.numeral numeral) rfl
      rw [List.append_nil, text] at laid
      refine ⟨_, ?_, laid⟩
      rw [Value.withoutNegativeZeros, Value.toNode, ← denoted]
      exact .number numeral
  | sequence elements =>
      rcases exists_numerals_of_short elements short with ⟨numerals, texts, values⟩
      have opened := ((laid_numerals numerals
        (Laid.nil.close (.mark .closeBrace) rfl)).close (.mark .openBrace) rfl)
      rw [texts] at opened
      have isText : (Token.mark .openBrace).text ++
          (Text.join ", ".toList (elements.map Floating.numeral) ++
            ((Token.mark .closeBrace).text ++ [])) =
          (Value.sequence elements).text := rfl
      rw [isText] at opened
      refine ⟨_, ?_, opened⟩
      rw [Value.withoutNegativeZeros, Value.toNode, ← values]
      cases numerals with
      | nil => exact .empty
      | cons numeral others =>
          have written := @Writes.sequence 0 0
            ((numeral :: others).map fun each => (.number each.value, [.numeral each]))
            (List.cons_ne_nil _ _) (fun element member => by
              rcases List.mem_map.mp member with ⟨each, _, rfl⟩
              exact .number each)
          simpa only [List.map_map, Function.comp_def, List.cons_append, Nat.zero_add] using written

/-- A statement on a line of its own is read to the end of the line. -/
theorem parseStatement_of_writes {depth limit : Nat} {node : Node} {tokens : List Token}
    {text : Text} (writes : WritesStatement depth node tokens) (laid : Laid tokens text)
    (room : depth + 2 ≤ limit) : parseStatement limit text = .success node := by
  obtain ⟨deeper, rfl⟩ : ∃ deeper, limit = deeper + 1 + 1 := ⟨limit - 2, by omega⟩
  have smaller : depth ≤ deeper := by omega
  rcases accepts_statement (deeper + 1) tokens node [] text (writes.mono smaller).normalized
    trivial (by rwa [List.append_nil]) with ⟨consumed, rest, _, atEnd, succeeds⟩
  cases atEnd
  have ends : Parser.endOfText [] = .success () [] := rfl
  simp only [parseStatement, read, singleStatement, Parser.skipRight,
    Parser.bind_of_success succeeds, Parser.mapTo, Parser.map_of_success _ ends]

end Grammar

namespace Evaluation

/-- A value of short integers is displayed, whatever names are bound to.  Put behind
`out`, the text is read as the output of an expression, and that evaluates to the value
without negative zeros, whatever names are bound to then.  Normal forms need two levels
of evaluation and three of nesting. -/
theorem displayed_reads_back {shown : Value} (short : shown.HasShortIntegers)
    {depth limit : Nat} (enough : 2 ≤ depth) (room : 3 ≤ limit) (environment : Environment) :
    ∃ text expression,
      (display depth environment shown.toNode).value = .success text ∧
      Grammar.parseStatement limit ("out ".toList ++ text) = .success (.out expression) ∧
      forall other, (evaluate depth other .anything expression).value =
        .success shown.withoutNegativeZeros := by
  obtain ⟨deeper, rfl⟩ : ∃ deeper, depth = deeper + 2 := ⟨depth - 2, by omega⟩
  rcases Grammar.writes_value short with ⟨tokens, writes, laid⟩
  refine ⟨shown.text, shown.withoutNegativeZeros.toNode, display_toNode deeper environment shown,
    ?_, fun other => ?_⟩
  · exact Grammar.parseStatement_of_writes (.output writes)
      (Grammar.Laid.spaced (.word .out) laid) room
  · rw [evaluate_anything, value_toNode, value_normalRun]

/-- A negative number, negative zero and a number of sixteen digits. -/
def mixedIntegers : Value :=
  .sequence [.ofInt (-3), Floating.zero.negate, .ofInt (9007199254740992)]

theorem mixedIntegers_short : mixedIntegers.HasShortIntegers := by
  refine List.forall_mem_cons.mpr ⟨?_, List.forall_mem_cons.mpr ⟨?_,
    List.forall_mem_singleton.mpr ?_⟩⟩
  · exact ⟨-3, by decide +kernel, by decide⟩
  · exact ⟨0, by decide +kernel, by decide⟩
  · exact ⟨9007199254740992, by decide +kernel, by decide⟩

/-- Only negative zero does not come back. -/
theorem displayed_reads_back_mixed :
    mixedIntegers.HasShortIntegers ∧ 2 ≤ 2 ∧ 3 ≤ Grammar.nestingLimit ∧
    ∃ text expression, (display 2 [] mixedIntegers.toNode).value = .success text ∧
      Grammar.parseStatement Grammar.nestingLimit ("out ".toList ++ text) =
        .success (.out expression) ∧
      forall other, (evaluate 2 other .anything expression).value =
        .success (.sequence [.ofInt (-3), .zero, .ofInt (9007199254740992)]) := by
  have lost : mixedIntegers.withoutNegativeZeros =
      .sequence [.ofInt (-3), .zero, .ofInt (9007199254740992)] := by decide +kernel
  have back := displayed_reads_back mixedIntegers_short (Nat.le_refl 2)
    (by decide : 3 ≤ Grammar.nestingLimit) []
  rw [lost] at back
  exact ⟨mixedIntegers_short, Nat.le_refl 2, by decide, back⟩

end Evaluation
end SequenceCalculator
