import SequenceCalculator.Proofs.Grammar.Writing

namespace SequenceCalculator
namespace Grammar

/-!
# The trees of phrases

What the grammar derives can always be normalized, and the normal form is a tree
of a narrow shape.  Operations have several operands, functions stand only where
they are applied, names are words and numbers are defined.  The shape is stated
without the grammar, so that evaluation can be followed along it.

The raw tree of a phrase has operations with one operand at every level.  They
vanish together in normalization: a level with one operand takes the shape of
that operand.
-/

open Number

/-- The shape of normalized expressions. -/
inductive Formed : Node -> Prop where
  | number {value : Single} (defined : value ≠ .nan) : Formed (.number value)
  | name (spelled : Word) : Formed (.name spelled.letters)
  | operation (operator : Operator) {operands : List Node} (several : 2 ≤ operands.length)
      (each : forall operand, operand ∈ operands -> Formed operand) :
      Formed (.operation operator operands)
  | range {start stop : Node} (first : Formed start) (last : Formed stop) :
      Formed (.range start stop)
  | sequence {elements : List Node} (each : forall element, element ∈ elements -> Formed element) :
      Formed (.sequence elements)
  | map {source body : Node} (takes : Formed source) (parameter : Word) (gives : Formed body) :
      Formed (.map source (.mapper (.name parameter.letters) body))
  | reduce {source primer body : Node} (takes : Formed source) (starts : Formed primer)
      (first second : Word) (gives : Formed body) :
      Formed (.reduce source primer (.reducer (.name first.letters) (.name second.letters) body))

/-- The shape of normalized statements. -/
inductive FormedStatement : Node -> Prop where
  | declare (declared : Word) {expression : Node} (bound : Formed expression) :
      FormedStatement (.declare (.name declared.letters) expression)
  | out {expression : Node} (shown : Formed expression) : FormedStatement (.out expression)
  | print (literal : Quoted) : FormedStatement (.print (.string literal.content))

theorem ofSteps_ne_nan {format : Format} (negative : Bool) (numerator denominator : Nat) :
    (Floating.ofSteps negative numerator denominator : Floating format) ≠ .nan := by
  unfold Floating.ofSteps
  split
  · intro impossible
    cases impossible
  · intro impossible
    cases impossible

theorem convert_ne_nan {format target : Format} {value : Floating format} (defined : value ≠ .nan) :
    value.convert target ≠ .nan := by
  cases value with
  | nan => exact absurd rfl defined
  | infinite negative => intro impossible; cases impossible
  | finite negative magnitude => exact ofSteps_ne_nan _ _ _

theorem readDecimal?_ne_nan {format : Format} {negative : Bool} {whole fraction : Text}
    {value : Floating format} (reads : readDecimal? format negative whole fraction = some value) :
    value ≠ .nan := by
  rw [readDecimal?] at reads
  cases wholeValues : placeValues? whole with
  | none => rw [wholeValues] at reads; cases reads
  | some _ =>
      cases fractionValues : placeValues? fraction with
      | none => rw [wholeValues, fractionValues] at reads; cases reads
      | some _ =>
          rw [wholeValues, fractionValues] at reads
          cases reads
          exact ofSteps_ne_nan _ _ _

/-- A numeral denotes a number, though it may be too great to be finite. -/
theorem Numeral.value_ne_nan (numeral : Numeral) : numeral.value ≠ .nan := by
  apply convert_ne_nan
  exact readDecimal?_ne_nan (Option.some_get numeral.readDecimal?_isSome).symm

/-- Phrases of a rule have trees that normalize to the shape of expressions. -/
def Forms (rule : Rule Node) : Prop :=
  forall tokens raw, rule tokens raw -> ∃ node, raw.normalize = .ok node ∧ Formed node

section Rules

variable {rule : Rule Node}

theorem Forms.listed (forms : Forms rule) {separator : Mark} {tokens : List Token}
    {raws : List Node} (listed : Listed rule separator tokens raws) :
    ∃ nodes, Node.normalizeAll raws = .ok nodes ∧
      forall node, node ∈ nodes -> Formed node := by
  induction listed with
  | one first =>
      rcases forms _ _ first with ⟨node, normal, formed⟩
      refine ⟨[node], Node.normalizeAll_cons normal rfl, ?_⟩
      intro other member
      rw [List.mem_singleton.mp member]
      exact formed
  | more first others inductionHypothesis =>
      rcases forms _ _ first with ⟨node, normal, formed⟩
      rcases inductionHypothesis with ⟨nodes, normals, areFormed⟩
      refine ⟨node :: nodes, Node.normalizeAll_cons normal normals, ?_⟩
      intro other member
      rcases List.mem_cons.mp member with rfl | later
      · exact formed
      · exact areFormed other later

/-- One level: a lone operand gives its own shape, several give an operation. -/
theorem Forms.chain (forms : Forms rule) (operator : Operator) : Forms (Chain operator rule) := by
  rintro tokens raw ⟨listed⟩
  rcases forms.listed listed with ⟨nodes, normals, areFormed⟩
  cases listed with
  | one first =>
      rcases Node.normalizeAll_eq_ok normals with ⟨node, others, rfl, normal, _⟩
      refine ⟨node, ?_, areFormed node List.mem_cons_self⟩
      rw [Node.normalize, normal]
  | @more _ _ raw raws first others =>
      have several : 2 ≤ (raw :: raws).length := by
        cases others with
        | one => exact Nat.le_refl 2
        | more => simp only [List.length_cons]; omega
      refine ⟨.operation operator nodes, Node.normalize_operation several normals, ?_⟩
      apply Formed.operation operator _ areFormed
      rw [Node.length_of_normalizeAll normals]
      exact several

theorem Forms.atom (forms : Forms rule) : Forms (Atom rule) := by
  intro tokens raw phrase
  cases phrase with
  | parenthesized inside => exact forms _ _ inside
  | range first last =>
      rcases forms _ _ first with ⟨start, startNormal, startFormed⟩
      rcases forms _ _ last with ⟨stop, stopNormal, stopFormed⟩
      refine ⟨.range start stop, ?_, .range startFormed stopFormed⟩
      rw [Node.normalize, startNormal, stopNormal]
      rfl
  | sequence listed =>
      rcases forms.listed listed with ⟨nodes, normals, areFormed⟩
      refine ⟨.sequence nodes, ?_, .sequence areFormed⟩
      rw [Node.normalize, normals]
      rfl
  | empty => exact ⟨.sequence [], rfl, .sequence fun _ member => by cases member⟩
  | number numeral => exact ⟨.number numeral.value, rfl, .number numeral.value_ne_nan⟩
  | map parameter takes gives =>
      rcases forms _ _ takes with ⟨source, sourceNormal, sourceFormed⟩
      rcases forms _ _ gives with ⟨body, bodyNormal, bodyFormed⟩
      refine ⟨_, ?_, .map sourceFormed parameter bodyFormed⟩
      simp only [Node.normalize, sourceNormal, bodyNormal]
      rfl
  | reduce first second takes starts gives =>
      rcases forms _ _ takes with ⟨source, sourceNormal, sourceFormed⟩
      rcases forms _ _ starts with ⟨primer, primerNormal, primerFormed⟩
      rcases forms _ _ gives with ⟨body, bodyNormal, bodyFormed⟩
      refine ⟨_, ?_, .reduce sourceFormed primerFormed first second bodyFormed⟩
      simp only [Node.normalize, sourceNormal, primerNormal, bodyNormal]
      rfl
  | name spelled => exact ⟨.name spelled.letters, rfl, .name spelled⟩

end Rules

theorem forms_expression (depth : Nat) : Forms (Expression depth) := by
  induction depth with
  | zero => intro tokens raw phrase; cases phrase
  | succ depth inductionHypothesis =>
      exact (((((inductionHypothesis.atom.chain .power).chain .over).chain .times).chain
        .minus).chain .plus)

/-- Statements can be normalized, and their normal form has the shape of
statements. -/
theorem formed_of_statement {depth : Nat} {tokens : List Token} {raw : Node}
    (phrase : Statement depth tokens raw) :
    ∃ node, raw.normalize = .ok node ∧ FormedStatement node := by
  cases phrase with
  | declaration declared bound =>
      rcases forms_expression depth _ _ bound with ⟨expression, normal, formed⟩
      refine ⟨_, ?_, .declare declared formed⟩
      simp only [Node.normalize, normal]
      rfl
  | output shown =>
      rcases forms_expression depth _ _ shown with ⟨expression, normal, formed⟩
      refine ⟨_, ?_, .out formed⟩
      rw [Node.normalize, normal]
      rfl
  | printing literal => exact ⟨_, rfl, .print literal⟩

theorem formed_of_program {depth : Nat} {tokens : List Token} {raws nodes : List Node}
    (phrase : Program depth tokens raws) (normals : Node.normalizeAll raws = .ok nodes) :
    forall node, node ∈ nodes -> FormedStatement node := by
  have formed : forall {tokens : List Token} {raw node : Node}, Statement depth tokens raw ->
      raw.normalize = .ok node -> FormedStatement node := by
    intro tokens raw node statement normal
    rcases formed_of_statement statement with ⟨other, isNormal, isFormed⟩
    rw [normal] at isNormal
    cases isNormal
    exact isFormed
  induction phrase generalizing nodes with
  | one statement =>
      rcases Node.normalizeAll_eq_ok normals with ⟨node, others, rfl, normal, none⟩
      cases none
      intro other member
      rw [List.mem_singleton.mp member]
      exact formed statement normal
  | more statement others inductionHypothesis =>
      rcases Node.normalizeAll_eq_ok normals with ⟨node, rest, rfl, normal, areNormal⟩
      intro other member
      rcases List.mem_cons.mp member with rfl | later
      · exact formed statement normal
      · exact inductionHypothesis areNormal other later

theorem formed_of_parseProgram {depth : Nat} {text : Text} {nodes : List Node}
    (reads : parseProgram depth text = .success nodes) :
    forall node, node ∈ nodes -> FormedStatement node := by
  rcases phrase_of_read (reads_program depth) reads with ⟨tokens, _, raws, phrase, normals⟩
  exact formed_of_program phrase normals

theorem formed_of_parseStatement {depth : Nat} {text : Text} {node : Node}
    (reads : parseStatement depth text = .success node) : FormedStatement node := by
  rcases phrase_of_read (reads_statement depth) reads with ⟨tokens, _, raw, phrase, normal⟩
  rcases formed_of_statement phrase with ⟨other, isNormal, formed⟩
  rw [normal] at isNormal
  cases isNormal
  exact formed

end Grammar
end SequenceCalculator
