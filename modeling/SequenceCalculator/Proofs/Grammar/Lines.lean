import Mathlib.Data.List.Forall2
import SequenceCalculator.Proofs.Grammar.Alteration

namespace SequenceCalculator
namespace Grammar

/-!
# Statements on lines of their own

A line end is a blank like any other, and nothing has to stand between the
statements of a program.  Still no statement runs on into the next line when it can
be read on its own: an expression goes on only with an operator or, behind a name,
with a round bracket, and the next statement starts with a letter.  So the program
on several lines is the list of the statements on them, with the same bound on the
nesting.
-/

open SequenceCalculator.Parser

/-- The text goes on behind its end, and a blank comes first. -/
def goesOn {blank : Char} (isBlank : Text.isBlank blank = true) (more : Text) : Alteration where
  relates text other := other = text ++ blank :: more
  covers _ := True
  covers_of_suffix _ _ := trivial
  keeps := by
    rintro character rest other rfl _ _
    exact ⟨_, rfl, rfl⟩
  traces := by
    intro character rest left notBlank same
    cases rest with
    | nil =>
        cases same
        rw [isBlank] at notBlank
        cases notBlank
    | cons first behind =>
        cases same
        exact ⟨behind, rfl, rfl⟩
  dropsBlanks := by
    rintro text other rfl nonempty
    rw [List.dropWhile_append, if_neg (by simpa using nonempty)]

/-- A statement that is a whole text, and more lines behind it. -/
theorem statement_line {depth : Nat} {text lines behind : Text} {node next : Node}
    (reads : statement depth text = .success node [])
    (readsNext : statement depth lines = .success next behind) :
    statement depth (text ++ '\n' :: lines) = .success node (lines.dropWhile Text.isBlank) := by
  have isBlank : Text.isBlank '\n' = true := by decide
  have loosely : (goesOn isBlank lines).Loosely text (text ++ '\n' :: lines) :=
    Alteration.loosely_of_relates rfl
  rcases (carries_statement depth).carries loosely reads trivial with
    ⟨left, ⟨first, _, rfl, empty, same⟩, reached⟩
  have behindAll : left.dropWhile Text.isBlank = lines.dropWhile Text.isBlank := by
    rw [← same, List.dropWhile_append, if_pos (by rw [empty]; rfl),
      List.dropWhile_cons_of_pos isBlank]
  have clear : Clear goingOn left := by
    intro character leads
    rw [← Text.start?_dropBlanks, behindAll, Text.start?_dropBlanks] at leads
    exact clear_of_statement readsNext character leads
  have whole := reached clear
  rw [whole, ← behindAll, tidy_statement depth _ _ _ whole]

/-- The induction is on the lines.  Each is read as it is on its own, and none of the
text behind it is lost. -/
theorem lines_repeat {depth : Nat} {text : Text} {texts : List Text} {node : Node}
    {nodes : List Node} (reads : statement depth text = .success node [])
    (readAll : List.Forall₂
      (fun text node => statement depth text = .success node []) texts nodes) :
    ∃ behind, statement depth (Text.join ['\n'] (text :: texts)) = .success node behind ∧
      Repeats ((char '\n').many.skipLeft (statement depth)) behind nodes [] := by
  induction readAll generalizing text node with
  | nil =>
      have ended : ((char '\n').many.skipLeft (statement depth)).Fails [] :=
        fails_bind_of_success (lineEnds_dropBlanks []) (statement_nil depth)
      rcases ended with ⟨last, fails⟩
      exact ⟨[], reads, .stop fails⟩
  | @cons next nextNode texts nodes readsNext readAll inductionHypothesis =>
      rcases inductionHypothesis readsNext with ⟨behind, succeeds, repeats⟩
      have trimmed := (statement_congr depth (Text.dropBlanks_idempotent _)).trans succeeds
      refine ⟨(Text.join ['\n'] (next :: texts)).dropWhile Text.isBlank, ?_, ?_⟩
      · rw [Text.join, List.append_assoc]
        exact statement_line reads succeeds
      · refine .step ?_ (statement_shortens trimmed) repeats
        rw [Parser.skipLeft, bind_of_success (lineEnds_dropBlanks _), trimmed]

/-- Statements that are read one by one are read as the program on that many
lines. -/
theorem parseProgram_join {depth : Nat} {texts : List Text} {nodes : List Node}
    (nonempty : texts ≠ []) (readAll : List.Forall₂
      (fun text node => parseStatement depth text = .success node) texts nodes) :
    parseProgram depth (Text.join ['\n'] texts) = .success nodes := by
  cases readAll with
  | nil => exact absurd rfl nonempty
  | cons reads readAll =>
      have readOthers := readAll.imp fun _ _ => read_to_end
      rcases lines_repeat (read_to_end reads) readOthers with
        ⟨behind, started, repeats⟩
      exact parseProgram_of_repeats started repeats

end Grammar
end SequenceCalculator
