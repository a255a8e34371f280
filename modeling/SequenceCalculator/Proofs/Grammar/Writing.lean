import SequenceCalculator.Proofs.Grammar.Completeness

namespace SequenceCalculator
namespace Grammar

/-!
# Every way of writing a tree down is read back as the tree

Trees in normal form are written down here without the levels of the grammar.  An
operand may stand bare if its operator binds tighter than the one it is an operand
of, and any expression may be put in parentheses, also where they are not needed.
There are infinitely many ways of writing a tree for this reason, and more of them
because blanks are free.

A way of writing is first brought to the levels of the grammar, where each level
that does not occur holds a single operand.  Normalization takes these levels out
again.
-/

open SequenceCalculator.Parser

/-- Phrases with a mark between neighbours. -/
def joined (separator : Mark) : List (List Token) -> List Token
  | [] => []
  | [tokens] => tokens
  | tokens :: next :: others => tokens ++ .mark separator :: joined separator (next :: others)

/-- The ways of writing an expression as an operand of an operator of the given
strength, with brackets at most `depth` deep.  Operands and elements come with
their own ways of writing. -/
inductive Writes : (depth bound : Nat) -> Node -> List Token -> Prop where
  | number {depth bound : Nat} (numeral : Numeral) :
      Writes depth bound (.number numeral.value) [.numeral numeral]
  | name {depth bound : Nat} (spelled : Word) :
      Writes depth bound (.name spelled.letters) [.word spelled]
  | operation {depth bound : Nat} {operator : Operator} {operands : List (Node × List Token)}
      (several : 2 ≤ operands.length) (tighter : bound < strength operator)
      (each : forall operand, operand ∈ operands ->
        Writes depth (strength operator) operand.1 operand.2) :
      Writes depth bound (.operation operator (operands.map Prod.fst))
        (joined (.operator operator) (operands.map Prod.snd))
  | parenthesized {depth bound : Nat} {node : Node} {tokens : List Token}
      (inside : Writes depth 0 node tokens) :
      Writes (depth + 1) bound node (.mark .openRound :: tokens ++ [.mark .closeRound])
  | range {depth bound : Nat} {start stop : Node} {starts stops : List Token}
      (first : Writes depth 0 start starts) (last : Writes depth 0 stop stops) :
      Writes (depth + 1) bound (.range start stop)
        (.mark .openBrace :: starts ++ .mark .dots :: stops ++ [.mark .closeBrace])
  | sequence {depth bound : Nat} {elements : List (Node × List Token)} (nonempty : elements ≠ [])
      (each : forall element, element ∈ elements -> Writes depth 0 element.1 element.2) :
      Writes (depth + 1) bound (.sequence (elements.map Prod.fst))
        (.mark .openBrace :: joined .comma (elements.map Prod.snd) ++ [.mark .closeBrace])
  | empty {depth bound : Nat} :
      Writes depth bound (.sequence []) [.mark .openBrace, .mark .closeBrace]
  | map {depth bound : Nat} {source body : Node} {sources bodies : List Token} (parameter : Word)
      (takes : Writes depth 0 source sources) (gives : Writes depth 0 body bodies) :
      Writes (depth + 1) bound (.map source (.mapper (.name parameter.letters) body))
        (.word .map :: .mark .openRound :: sources ++ .mark .comma :: .word parameter ::
          .mark .arrow :: bodies ++ [.mark .closeRound])
  | reduce {depth bound : Nat} {source primer body : Node} {sources primers bodies : List Token}
      (first second : Word) (takes : Writes depth 0 source sources)
      (starts : Writes depth 0 primer primers) (gives : Writes depth 0 body bodies) :
      Writes (depth + 1) bound
        (.reduce source primer (.reducer (.name first.letters) (.name second.letters) body))
        (.word .reduce :: .mark .openRound :: sources ++ .mark .comma :: primers ++
          .mark .comma :: .word first :: .word second :: .mark .arrow :: bodies ++
          [.mark .closeRound])

/-- The ways of writing a statement. -/
inductive WritesStatement (depth : Nat) : Node -> List Token -> Prop where
  | declaration {node : Node} {tokens : List Token} (declared : Word)
      (bound : Writes depth 0 node tokens) :
      WritesStatement depth (.declare (.name declared.letters) node)
        (.word .var :: .word declared :: .mark .equals :: tokens)
  | output {node : Node} {tokens : List Token} (shown : Writes depth 0 node tokens) :
      WritesStatement depth (.out node) (.word .out :: tokens)
  | printing (literal : Quoted) :
      WritesStatement depth (.print (.string literal.content)) [.word .print, .quoted literal]

/-- The texts in which statements are written one after the other.  Blanks may
stand in front of the first token and behind every token; two words have at least
one between them. -/
inductive WritesProgram (depth : Nat) : List Node -> Text -> Prop where
  | statements {statements : List (Node × List Token)} {blanks text : Text}
      (nonempty : statements ≠ [])
      (each : forall statement, statement ∈ statements ->
        WritesStatement depth statement.1 statement.2)
      (areBlank : AllBlank blanks) (laid : Laid (statements.flatMap Prod.snd) text) :
      WritesProgram depth (statements.map Prod.fst) (blanks ++ text)

/-!
## From ways of writing to the levels of the grammar
-/

/-- Tokens that a rule gives a tree with a given normal form. -/
def Denotes (rule : Rule Node) (node : Node) (tokens : List Token) : Prop :=
  ∃ raw, rule tokens raw ∧ raw.normalize = .ok node

/-- The rule for the operands of an operator of the given strength. -/
def Operand (inner : Rule Node) : (bound : Nat) -> Rule Node
  | 0 => Sums inner
  | 1 => Chain .minus (Chain .times (Chain .over (Chain .power (Atom inner))))
  | 2 => Chain .times (Chain .over (Chain .power (Atom inner)))
  | 3 => Chain .over (Chain .power (Atom inner))
  | 4 => Chain .power (Atom inner)
  | _ + 5 => Atom inner

/-- A level above an operator has its operations among its operands. -/
theorem operand_pred (inner : Rule Node) (operator : Operator) :
    Operand inner (strength operator - 1) =
      Chain operator (Operand inner (strength operator)) := by
  cases operator <;> rfl

theorem Denotes.wrap {rule : Rule Node} {node : Node} {tokens : List Token}
    (denotes : Denotes rule node tokens) (operator : Operator) :
    Denotes (Chain operator rule) node tokens := by
  rcases denotes with ⟨raw, phrase, normal⟩
  refine ⟨.operation operator [raw], .operands (.one phrase), ?_⟩
  rw [Node.normalize, normal]

/-- What may stand as an operand of a tight operator may stand as one of a looser
operator. -/
theorem Denotes.loosen {inner : Rule Node} {node : Node} {tokens : List Token}
    {bound greater : Nat} (smaller : bound ≤ greater)
    (denotes : Denotes (Operand inner greater) node tokens) :
    Denotes (Operand inner bound) node tokens := by
  induction smaller with
  | refl => exact denotes
  | @step greater smaller inductionHypothesis =>
      refine inductionHypothesis ?_
      match greater, denotes with
      | 0, denotes => exact denotes.wrap .plus
      | 1, denotes => exact denotes.wrap .minus
      | 2, denotes => exact denotes.wrap .times
      | 3, denotes => exact denotes.wrap .over
      | 4, denotes => exact denotes.wrap .power
      | _ + 5, denotes => exact denotes

/-- Atoms may stand everywhere. -/
theorem Denotes.ofAtom {inner : Rule Node} {node raw : Node} {tokens : List Token} {bound : Nat}
    (phrase : Atom inner tokens raw) (normal : raw.normalize = .ok node) :
    Denotes (Operand inner bound) node tokens := by
  have atom : Denotes (Operand inner (bound + 5)) node tokens := ⟨raw, phrase, normal⟩
  exact atom.loosen (Nat.le_add_right bound 5)

/-- The trees of several phrases, in order. -/
theorem exists_listed {rule : Rule Node} (separator : Mark) {parts : List (Node × List Token)}
    (nonempty : parts ≠ [])
    (each : forall part, part ∈ parts -> Denotes rule part.1 part.2) :
    ∃ raws, Listed rule separator (joined separator (parts.map Prod.snd)) raws ∧
      Node.normalizeAll raws = .ok (parts.map Prod.fst) ∧ raws.length = parts.length := by
  induction parts with
  | nil => exact absurd rfl nonempty
  | cons part parts inductionHypothesis =>
      rcases each part List.mem_cons_self with ⟨raw, phrase, normal⟩
      cases parts with
      | nil => exact ⟨[raw], .one phrase, Node.normalizeAll_cons normal rfl, rfl⟩
      | cons next others =>
          rcases inductionHypothesis (List.cons_ne_nil next others)
            (fun other member => each other (List.mem_cons_of_mem part member)) with
            ⟨raws, listed, normals, lengths⟩
          refine ⟨raw :: raws, .more phrase listed, Node.normalizeAll_cons normal normals, ?_⟩
          rw [List.length_cons, lengths]
          rfl

/-- Every way of writing an expression is a phrase of the grammar, whose tree has
the expression as its normal form. -/
theorem Writes.denotes {depth bound : Nat} {node : Node} {tokens : List Token}
    (writes : Writes depth bound node tokens) :
    Denotes (Operand (Expression depth) bound) node tokens := by
  induction writes with
  | number numeral => exact .ofAtom (.number numeral) (by rw [Node.normalize])
  | name spelled => exact .ofAtom (.name spelled) (by rw [Node.normalize])
  | @operation depth bound operator operands several tighter each inductionHypothesis =>
      have nonempty : operands ≠ [] := by
        rintro rfl
        exact absurd several (by decide)
      rcases exists_listed (.operator operator) nonempty inductionHypothesis with
        ⟨raws, listed, normals, lengths⟩
      have chained : Denotes (Operand (Expression depth) (strength operator - 1))
          (.operation operator (operands.map Prod.fst))
          (joined (.operator operator) (operands.map Prod.snd)) := by
        rw [operand_pred]
        exact ⟨.operation operator raws, .operands listed,
          Node.normalize_operation (by rw [lengths]; exact several) normals⟩
      exact chained.loosen (by omega)
  | parenthesized inside inductionHypothesis =>
      rcases inductionHypothesis with ⟨raw, phrase, normal⟩
      exact .ofAtom (.parenthesized phrase) normal
  | range first last firstHypothesis lastHypothesis =>
      rcases firstHypothesis with ⟨start, isStart, startNormal⟩
      rcases lastHypothesis with ⟨stop, isStop, stopNormal⟩
      refine .ofAtom (.range isStart isStop) ?_
      rw [Node.normalize, startNormal, stopNormal]
      rfl
  | sequence nonempty each inductionHypothesis =>
      rcases exists_listed .comma nonempty inductionHypothesis with ⟨raws, listed, normals, _⟩
      refine .ofAtom (.sequence listed) ?_
      rw [Node.normalize, normals]
      rfl
  | empty => exact .ofAtom .empty (by rw [Node.normalize, Node.normalizeAll]; rfl)
  | map parameter takes gives takesHypothesis givesHypothesis =>
      rcases takesHypothesis with ⟨source, isSource, sourceNormal⟩
      rcases givesHypothesis with ⟨body, isBody, bodyNormal⟩
      refine .ofAtom (.map parameter isSource isBody) ?_
      simp only [Node.normalize, sourceNormal, bodyNormal]
      rfl
  | reduce first second takes starts gives takesHypothesis startsHypothesis givesHypothesis =>
      rcases takesHypothesis with ⟨source, isSource, sourceNormal⟩
      rcases startsHypothesis with ⟨primer, isPrimer, primerNormal⟩
      rcases givesHypothesis with ⟨body, isBody, bodyNormal⟩
      refine .ofAtom (.reduce first second isSource isPrimer isBody) ?_
      simp only [Node.normalize, sourceNormal, primerNormal, bodyNormal]
      rfl

theorem WritesStatement.normalized {depth : Nat} {node : Node} {tokens : List Token}
    (writes : WritesStatement depth node tokens) : Normalized (depth + 1) tokens node := by
  cases writes with
  | declaration declared bound =>
      rcases bound.denotes with ⟨raw, phrase, normal⟩
      refine ⟨_, .declaration declared phrase, ?_⟩
      simp only [Node.normalize, normal]
      rfl
  | output shown =>
      rcases shown.denotes with ⟨raw, phrase, normal⟩
      refine ⟨_, .output phrase, ?_⟩
      rw [Node.normalize, normal]
      rfl
  | printing literal =>
      refine ⟨_, .printing literal, ?_⟩
      simp only [Node.normalize]
      rfl

theorem exists_program {depth : Nat} {statements : List (Node × List Token)}
    (nonempty : statements ≠ [])
    (each : forall statement, statement ∈ statements ->
      WritesStatement depth statement.1 statement.2) :
    ∃ raws, Program (depth + 1) (statements.flatMap Prod.snd) raws ∧
      Node.normalizeAll raws = .ok (statements.map Prod.fst) := by
  induction statements with
  | nil => exact absurd rfl nonempty
  | cons statement statements inductionHypothesis =>
      rcases (each statement List.mem_cons_self).normalized with ⟨raw, phrase, normal⟩
      cases statements with
      | nil =>
          refine ⟨[raw], ?_, Node.normalizeAll_cons normal rfl⟩
          rw [List.flatMap_cons, List.flatMap_nil, List.append_nil]
          exact .one phrase
      | cons next others =>
          rcases inductionHypothesis (List.cons_ne_nil next others)
            (fun other member => each other (List.mem_cons_of_mem statement member)) with
            ⟨raws, phrases, normals⟩
          exact ⟨raw :: raws, .more phrase phrases, Node.normalizeAll_cons normal normals⟩

/-- The number of brackets inside one another is only bounded from above. -/
theorem Writes.mono {depth bound : Nat} {node : Node} {tokens : List Token}
    (writes : Writes depth bound node tokens) {greater : Nat} (smaller : depth ≤ greater) :
    Writes greater bound node tokens := by
  have succ {depth : Nat} {greater : Nat} (smaller : depth + 1 ≤ greater) :
      ∃ deeper, greater = deeper + 1 ∧ depth ≤ deeper := ⟨greater - 1, by omega, by omega⟩
  induction writes generalizing greater with
  | number numeral => exact .number numeral
  | name spelled => exact .name spelled
  | operation several tighter each inductionHypothesis =>
      exact .operation several tighter fun operand member =>
        inductionHypothesis operand member smaller
  | parenthesized inside inductionHypothesis =>
      rcases succ smaller with ⟨deeper, rfl, within⟩
      exact .parenthesized (inductionHypothesis within)
  | range first last firstHypothesis lastHypothesis =>
      rcases succ smaller with ⟨deeper, rfl, within⟩
      exact .range (firstHypothesis within) (lastHypothesis within)
  | sequence nonempty each inductionHypothesis =>
      rcases succ smaller with ⟨deeper, rfl, within⟩
      exact .sequence nonempty fun element member => inductionHypothesis element member within
  | empty => exact .empty
  | map parameter takes gives takesHypothesis givesHypothesis =>
      rcases succ smaller with ⟨deeper, rfl, within⟩
      exact .map parameter (takesHypothesis within) (givesHypothesis within)
  | reduce first second takes starts gives takesHypothesis startsHypothesis givesHypothesis =>
      rcases succ smaller with ⟨deeper, rfl, within⟩
      exact .reduce first second (takesHypothesis within) (startsHypothesis within)
        (givesHypothesis within)

theorem WritesStatement.mono {depth greater : Nat} {node : Node} {tokens : List Token}
    (writes : WritesStatement depth node tokens) (smaller : depth ≤ greater) :
    WritesStatement greater node tokens := by
  cases writes with
  | declaration declared bound => exact .declaration declared (bound.mono smaller)
  | output shown => exact .output (shown.mono smaller)
  | printing literal => exact .printing literal

/-- Whatever statements are written in a text, with parentheses where they are
needed and wherever else, and with any blanks, the text is read as exactly these
statements.  There only has to be room for the brackets: `limit` is the number of
expressions inside one another for which there is room. -/
theorem parse_complete {depth limit : Nat} {nodes : List Node} {text : Text}
    (writes : WritesProgram depth nodes text) (room : depth + 2 ≤ limit) :
    parseProgram limit text = .success nodes := by
  rcases writes with ⟨nonempty, each, areBlank, laid⟩
  obtain ⟨deeper, rfl⟩ : ∃ deeper, limit = deeper + 1 + 1 := ⟨limit - 2, by omega⟩
  have smaller : depth ≤ deeper := by omega
  rcases exists_program nonempty fun statement member => (each statement member).mono smaller with
    ⟨raws, phrase, normals⟩
  exact parseProgram_of_program phrase normals areBlank laid

/-- The name `x`. -/
def unknown : Word := .spelled ['x'] (by decide) (by decide)

/-- The numeral `2`. -/
def two : Numeral :=
  ⟨false, ['2'], [], by decide, List.all_eq_true.mp (by decide), List.all_eq_true.mp (by decide)⟩

/-- The tokens of `(x)-2`. -/
def differenceTokens : List Token :=
  [.mark .openRound, .word unknown, .mark .closeRound, .mark (.operator .minus), .numeral two]

theorem writes_difference :
    Writes 1 0 (.operation .minus [.name ['x'], .number two.value]) differenceTokens := by
  have first : Writes 1 (strength .minus) (.name ['x'])
      [.mark .openRound, .word unknown, .mark .closeRound] := .parenthesized (.name unknown)
  have second : Writes 1 (strength .minus) (.number two.value) [.numeral two] := .number two
  refine @Writes.operation 1 0 .minus
    [(.name ['x'], [.mark .openRound, .word unknown, .mark .closeRound]),
      (.number two.value, [.numeral two])] (Nat.le_refl 2) (by decide) fun operand member => ?_
  rcases List.mem_cons.mp member with rfl | last
  · exact first
  · cases List.mem_singleton.mp last
    exact second

theorem laid_difference : Laid (.word .out :: differenceTokens) "out (x)-2".toList := by
  have spelled : "out (x)-2".toList = Token.text (.word .out) ++ [' '] ++
      (Token.text (.mark .openRound) ++ [] ++ (Token.text (.word unknown) ++ [] ++
        (Token.text (.mark .closeRound) ++ [] ++ (Token.text (.mark (.operator .minus)) ++ [] ++
          (Token.text (.numeral two) ++ [] ++ []))))) := by decide +kernel
  rw [spelled]
  refine .cons (fun character member => ?_) (fun none => by cases none) ?_
  · cases List.mem_singleton.mp member
    decide
  refine .cons allBlank_nil (fun _ isWord => by cases isWord) ?_
  refine .cons allBlank_nil (fun _ _ next isNext => by cases isNext; rfl) ?_
  refine .cons allBlank_nil (fun _ isWord => by cases isWord) ?_
  refine .cons allBlank_nil (fun _ isWord => by cases isWord) ?_
  exact .cons allBlank_nil (fun _ isWord => by cases isWord) .nil

/-- In `out (x)-2` the parentheses are redundant. -/
theorem parse_complete_redundant :
    parseProgram 3 "out (x)-2".toList =
      .success [.out (.operation .minus [.name ['x'], .number two.value])] := by
  refine parse_complete (@WritesProgram.statements 1
    [(.out (.operation .minus [.name ['x'], .number two.value]), .word .out :: differenceTokens)]
    [] "out (x)-2".toList (List.cons_ne_nil _ _) (fun statement member => ?_) allBlank_nil
    laid_difference) (Nat.le_refl 3)
  cases List.mem_singleton.mp member
  exact .output writes_difference

end Grammar
end SequenceCalculator
