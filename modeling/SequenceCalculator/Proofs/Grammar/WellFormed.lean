import SequenceCalculator.Proofs.Evaluation.ProgramFaults
import SequenceCalculator.Proofs.Grammar.Breaking

namespace SequenceCalculator

/-!
# What is read can be evaluated

Trees can be written down that are no programs: an operation without operands, a
function in the place of an expression, a name that is no word.  Normalization and
evaluation stop at them with faults of their own.  No text is read as such a tree.
The statements of a text have a narrow shape, normalization has nothing left to do
with them, and each of these faults is out of reach: while a text is read, and while
what was read from it is run in any bindings of normal forms.
-/

namespace Fault

/-- Whether a fault is about the shape of a tree. -/
def isAboutShape : Fault -> Bool
  | .missingOperand => true
  | .notEvaluable _ => true
  | .notStatement _ => true
  | .notNormalizable _ => true
  | .noField _ _ => true
  | _ => false

end Fault

namespace Grammar

open Evaluation

/-- The shape of expressions is that of normal forms of normalization. -/
theorem Formed.normalize_eq {node : Node} (formed : Formed node) : node.normalize = .ok node := by
  induction formed with
  | number defined => rfl
  | name spelled => rfl
  | operation operator several each inductionHypothesis =>
      exact Node.normalize_operation several (Node.normalizeAll_eq_self inductionHypothesis)
  | range first last firstHypothesis lastHypothesis =>
      rw [Node.normalize, firstHypothesis, lastHypothesis]
      rfl
  | sequence each inductionHypothesis =>
      rw [Node.normalize, Node.normalizeAll_eq_self inductionHypothesis]
      rfl
  | map takes parameter gives takesHypothesis givesHypothesis =>
      simp only [Node.normalize, takesHypothesis, givesHypothesis]
      rfl
  | reduce takes starts first second gives takesHypothesis startsHypothesis givesHypothesis =>
      simp only [Node.normalize, takesHypothesis, startsHypothesis, givesHypothesis]
      rfl

theorem FormedStatement.normalize_eq {node : Node} (formed : FormedStatement node) :
    node.normalize = .ok node := by
  cases formed with
  | declare declared bound =>
      simp only [Node.normalize, bound.normalize_eq]
      rfl
  | out shown =>
      rw [Node.normalize, shown.normalize_eq]
      rfl
  | print literal => rfl

/-- Reading breaks off for want of room or at an illegible numeral only. -/
theorem Broken.not_isAboutShape {room : Nat} {ahead : List Token -> Prop} {text : Text}
    {cause : Fault} (broken : Broken room ahead text cause) : cause.isAboutShape = false := by
  rcases broken with ⟨rfl, _⟩ | ⟨numeral, _, rfl⟩
  · rfl
  · rfl

/-- Some reading of a text has found these statements. -/
inductive ReadFrom (nesting : Nat) (text : Text) : List Node -> Prop where
  | program {nodes : List Node} (reads : parseProgram nesting text = .success nodes) :
      ReadFrom nesting text nodes
  | statement {node : Node} (reads : parseStatement nesting text = .success node) :
      ReadFrom nesting text [node]

theorem ReadFrom.formed {nesting : Nat} {text : Text} {nodes : List Node}
    (found : ReadFrom nesting text nodes) : forall node, node ∈ nodes -> FormedStatement node := by
  cases found with
  | program reads => exact formed_of_parseProgram reads
  | statement reads =>
      intro other member
      rw [List.mem_singleton.mp member]
      exact formed_of_parseStatement reads

/-- Every statement that is read from a text, as part of a program or on its own, has
the shape of statements and is a fixed point of normalization.  Reading a text never
ends with a fault about the shape of a tree, and neither does running the statements
that were read, whatever normal forms are bound and however little room there is. -/
theorem well_formed_when_read (nesting : Nat) (text : Text) :
    (forall nodes, ReadFrom nesting text nodes -> forall node, node ∈ nodes ->
      FormedStatement node ∧ node.normalize = .ok node) ∧
    (forall cause, parseProgram nesting text = .fault cause ∨
      parseStatement nesting text = .fault cause -> cause.isAboutShape = false) ∧
    forall nodes, ReadFrom nesting text nodes -> forall (depth : Nat) (environment : Environment),
      environment.IsNormal -> forall cause,
        (program depth [] nodes environment).complete.2 = .fault cause ->
        cause.isAboutShape = false := by
  refine ⟨?_, ?_, ?_⟩
  · intro nodes found node member
    have formed := found.formed node member
    exact ⟨formed, formed.normalize_eq⟩
  · rintro cause (breaks | breaks)
    · exact (parseProgram_eq_fault breaks).not_isAboutShape
    · exact (parseStatement_eq_fault breaks).not_isAboutShape
  · intro nodes found depth environment normal cause stops
    rcases program_fault_cases normal found.formed stops with rfl | rfl | rfl
    · rfl
    · rfl
    · rfl

end Grammar

end SequenceCalculator
