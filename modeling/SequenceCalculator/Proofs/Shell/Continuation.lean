import SequenceCalculator.Proofs.Grammar.Brackets
import SequenceCalculator.Proofs.Grammar.Lines
import SequenceCalculator.Proofs.Grammar.Respacing
import SequenceCalculator.Proofs.Shell.Survival
import SequenceCalculator.Shell.Conversation

namespace SequenceCalculator

/-!
# A statement on several lines

Counting brackets is all that the shell does to tell whether a statement is complete.  It
is enough: a statement that can be read closes its brackets, so it is never held back, and
while a bracket is open nothing is run.  The lines that were kept are joined by single
blanks and lose the blanks at their ends, which changes no word, so the statement that is
run in the end is the one that was divided.
-/

open Grammar

/-- More brackets of a kind are opened than closed. -/
def Text.Unfinished (text : Text) : Prop :=
  text.count ')' < text.count '(' ∨ text.count '\x7d' < text.count '\x7b'

instance (text : Text) : Decidable text.Unfinished :=
  inferInstanceAs (Decidable (_ ∨ _))

theorem Text.Unfinished.exists_bracket {text : Text} (unfinished : text.Unfinished) :
    '(' ∈ text ∨ '\x7b' ∈ text := by
  rcases unfinished with rounds | braces
  · exact .inl (List.count_pos_iff.mp (Nat.zero_lt_of_lt rounds))
  · exact .inr (List.count_pos_iff.mp (Nat.zero_lt_of_lt braces))

/-- Blanks count for nothing. -/
theorem Text.unfinished_congr {text other : Text}
    (same : text.filter Text.inWord = other.filter Text.inWord) :
    text.Unfinished ↔ other.Unfinished := by
  have counts (character : Char) (isIn : Text.inWord character = true) :
      text.count character = other.count character := by
    rw [← List.count_filter isIn, same, List.count_filter isIn]
  rw [Unfinished, Unfinished, counts '(' (by decide), counts ')' (by decide),
    counts '\x7b' (by decide), counts '\x7d' (by decide)]

/-- A text is divided into pieces where it has blanks.  Of the blanks between two pieces
some may be left to the piece in front, some to the piece behind, and the others are left
out. -/
inductive Divides : Text -> List Text -> Prop where
  | whole (text : Text) : Divides text [text]
  | cut {front left between right behind : Text} {pieces : List Text}
      (areBlank : AllBlank (left ++ between ++ right)) (apart : left ++ between ++ right ≠ [])
      (others : Divides (right ++ behind) pieces) :
      Divides (front ++ (left ++ between ++ right ++ behind)) ((front ++ left) :: pieces)

namespace Divides

theorem ne_nil {text : Text} {pieces : List Text} (divides : Divides text pieces) :
    pieces ≠ [] := by
  cases divides with
  | whole => exact List.cons_ne_nil _ _
  | cut => exact List.cons_ne_nil _ _

theorem eq_of_single {text piece : Text} (divides : Divides text [piece]) : piece = text := by
  cases divides with
  | whole => rfl
  | cut areBlank apart others => exact absurd rfl others.ne_nil

/-- No word is cut. -/
theorem words_eq {text : Text} {pieces : List Text} (divides : Divides text pieces) :
    Text.words text = pieces.flatMap Text.words := by
  induction divides with
  | whole text => rw [List.flatMap_singleton]
  | @cut front left between right behind pieces areBlank apart others inductionHypothesis =>
      have leftBlank : AllBlank left := fun character member =>
        areBlank character (List.mem_append_left _ (List.mem_append_left _ member))
      have rightBlank : AllBlank right := fun character member =>
        areBlank character (List.mem_append_right _ member)
      rw [Text.words_append front areBlank apart, List.flatMap_cons, ← inductionHypothesis,
        Text.words_append_blanks front leftBlank, Text.words_blanks_append rightBlank]

/-- All but blanks is taken from the text. -/
theorem mem_of_front {text : Text} {pieces others : List Text} {character : Char}
    (divides : Divides text (pieces ++ others)) (isIn : Text.inWord character = true)
    (member : character ∈ pieces.flatten) : character ∈ text := by
  have same := congrArg List.flatten divides.words_eq
  rw [Text.flatten_words, Text.flatten_flatMap_words, List.flatten_append, List.filter_append]
    at same
  have inFront : character ∈ pieces.flatten.filter Text.inWord := List.mem_filter.mpr ⟨member, isIn⟩
  have inText : character ∈ text.filter Text.inWord := by
    rw [same]
    exact List.mem_append_left _ inFront
  exact (List.mem_filter.mp inText).1

end Divides

theorem preprocessLine_eq (text : Text) :
    preprocessLine text = (text.trimEnd, decide text.trimEnd.Unfinished) := by
  refine Prod.ext rfl (Bool.eq_iff_iff.mpr ?_)
  rw [decide_eq_true_iff]
  simp [preprocessLine, Text.Unfinished]

/-- A statement is complete as soon as it can be read. -/
theorem preprocessLine_of_reads {depth : Nat} {text : Text} {node : Node}
    (reads : parseStatement depth text.trimEnd = .success node) :
    preprocessLine text = (text.trimEnd, false) := by
  rcases brackets_of_parseStatement reads with ⟨rounds, braces, _⟩
  rw [preprocessLine_eq]
  simp [Text.Unfinished, rounds, braces]

/-- Reading the text of a statement gives that statement, whatever the session takes. -/
theorem Session.reading_of_statement {session : Session} {text : Text} {node : Node}
    (reads : parseStatement session.limits.nesting text = .success node) :
    session.reading text = .success [node] := by
  unfold Session.reading
  split
  · rw [reads]
    rfl
  · have program : parseProgram session.limits.nesting (Text.join ['\n'] [text]) =
        .success [node] :=
      parseProgram_join (List.cons_ne_nil _ _) (.cons reads .nil)
    exact program

namespace Shell

variable {shell : Shell}

/-!
## Prompts
-/

/-- What the shell says before a line tells whether the last one is still to be continued. -/
def Prompts (shell : Shell) : Prop :=
  shell.prompt = if shell.pending.isEmpty then primaryPrompt else secondaryPrompt

theorem Prompts.eq_secondary (prompts : shell.Prompts) (waits : shell.pending ≠ []) :
    shell.prompt = secondaryPrompt := by
  rwa [Prompts, if_neg (by simpa using waits)] at prompts

theorem prompts_new (session : Session) : (new session).Prompts :=
  rfl

/-- Whatever the shell has said before, it is settled by the line that is entered. -/
theorem prompts_enter (shell : Shell) (line : Text) : (shell.enter line).1.Prompts := by
  rcases split : preprocessLine (shell.pending ++ line) with ⟨text, unfinished⟩
  cases unfinished with
  | true =>
      rw [enter_of_unfinished split, Prompts, if_neg (by simp)]
  | false =>
      by_cases isBlank : text = []
      · subst isBlank
        rw [enter_of_blank split]
        rfl
      · rw [enter_of_statement split isBlank]
        rfl

theorem Prompts.obey (prompts : shell.Prompts) (line : Text) : (shell.obey line).1.Prompts := by
  unfold Shell.obey
  cases Command.ofLine line with
  | statement line => exact prompts_enter shell line
  | _ => exact prompts

/-- In a conversation the prompt always fits to the lines that are kept. -/
theorem Prompts.converse (prompts : shell.Prompts) (lines : List Text) :
    (shell.converse lines).1.Prompts := by
  induction lines generalizing shell with
  | nil => exact prompts.obey lastLine
  | cons line lines inductionHypothesis =>
      have next := prompts.obey line
      unfold Shell.converse
      rcases obeyed : shell.obey line with ⟨other, printed, result⟩
      rw [obeyed] at next
      rcases result with raised | goesOn
      · exact next
      · cases goesOn with
        | false => exact next
        | true => exact inductionHypothesis next

/-!
## Lines that are kept
-/

/-- What is printed and passed on line by line. -/
def answers (shell : Shell) : List Text -> List (Text × Except Raised Unit)
  | [] => []
  | line :: lines => (shell.enter line).2 :: (shell.enter line).1.answers lines

theorem answers_append (shell : Shell) (lines : List Text) (line : Text) :
    shell.answers (lines ++ [line]) =
      shell.answers lines ++ [((shell.after lines).enter line).2] := by
  induction lines generalizing shell with
  | nil => rfl
  | cons first lines inductionHypothesis =>
      rw [List.cons_append, answers, inductionHypothesis, answers, List.cons_append]
      rfl

theorem after_append (shell : Shell) (lines : List Text) (line : Text) :
    shell.after (lines ++ [line]) = ((shell.after lines).enter line).1 := by
  rw [after, List.foldl_append, List.foldl_cons, List.foldl_nil, after]

/-- All lines so far are kept: nothing was run or printed, and whatever comes next stands
behind their words. -/
structure Keeps (shell : Shell) (lines : List Text) : Prop where
  session : (shell.after lines).session = shell.session
  number : (shell.after lines).number = shell.number + lines.length
  silent : shell.answers lines = List.replicate lines.length ([], .ok ())
  words : forall next, Text.words ((shell.after lines).pending ++ next) =
    lines.flatMap Text.words ++ Text.words next

namespace Keeps

theorem nil (idle : shell.pending = []) : shell.Keeps [] where
  session := rfl
  number := (Int.add_zero _).symm
  silent := rfl
  words next := by rw [after, List.foldl_nil, idle]; rfl

theorem words_append {lines : List Text} (keeps : shell.Keeps lines) (line : Text) :
    Text.words ((shell.after lines).pending ++ line).trimEnd =
      (lines ++ [line]).flatMap Text.words := by
  rw [words_trimEnd, keeps.words, List.flatMap_append, List.flatMap_singleton]

/-- The one step: a line that leaves a bracket open is kept as well. -/
theorem append {lines : List Text} {line : Text} (keeps : shell.Keeps lines)
    (unfinished : Text.Unfinished (lines ++ [line]).flatten) : shell.Keeps (lines ++ [line]) := by
  have isUnfinished : ((shell.after lines).pending ++ line).trimEnd.Unfinished := by
    refine (Text.unfinished_congr ?_).mpr unfinished
    rw [← Text.flatten_words, keeps.words_append, Text.flatten_flatMap_words]
  have kept : (shell.after lines).enter line = _ :=
    enter_of_unfinished (by rw [preprocessLine_eq, decide_eq_true isUnfinished])
  have isNext := after_append shell lines line
  rw [kept] at isNext
  constructor
  · rw [isNext, keeps.session]
  · rw [isNext, List.length_append, List.length_singleton, Nat.cast_add, Nat.cast_one,
      ← Int.add_assoc, ← keeps.number]
  · rw [answers_append, keeps.silent, kept, List.length_append, List.length_singleton,
      List.replicate_succ']
  · intro next
    have isBlank : Text.isBlank ' ' = true := by decide
    rw [isNext, List.append_assoc, List.singleton_append, Text.words_append_cons _ _ isBlank,
      keeps.words_append]

/-- The induction is on the lines, from the last one on. -/
theorem of_unfinished (idle : shell.pending = []) {lines : List Text}
    (unfinished : forall front, front ≠ [] -> front <+: lines -> Text.Unfinished front.flatten) :
    shell.Keeps lines := by
  induction lines using List.reverseRecOn with
  | nil => exact .nil idle
  | append_singleton lines line inductionHypothesis =>
      refine (inductionHypothesis fun front nonempty isFront => ?_).append ?_
      · exact unfinished front nonempty (isFront.trans (List.prefix_append _ _))
      · exact unfinished _ (by simp) (List.prefix_refl _)

/-- While a line is kept, the shell asks for the rest of it. -/
theorem prompt_eq {lines : List Text} (keeps : shell.Keeps lines)
    (unfinished : Text.Unfinished lines.flatten) : (shell.after lines).prompt = ". ".toList := by
  have isOpen : (shell.after lines).pending.Unfinished := by
    refine (Text.unfinished_congr ?_).mpr unfinished
    have same := keeps.words []
    rw [List.append_nil, Text.words_nil, List.append_nil] at same
    rw [← Text.flatten_words, same, Text.flatten_flatMap_words]
  have prompts : (shell.after lines).Prompts := by
    rcases List.eq_nil_or_concat' lines with rfl | ⟨front, line, rfl⟩
    · exact absurd unfinished (by decide)
    · rw [after_append]
      exact prompts_enter _ line
  rcases isOpen.exists_bracket with round | brace
  · exact prompts.eq_secondary (List.ne_nil_of_mem round)
  · exact prompts.eq_secondary (List.ne_nil_of_mem brace)

/-- What stands together with the last piece is read as the statement that was divided. -/
theorem reads_of_divides {depth : Nat} {text last : Text} {pieces : List Text} {node : Node}
    (keeps : shell.Keeps pieces) (idle : shell.pending = [])
    (unfinished : pieces ≠ [] -> Text.Unfinished pieces.flatten)
    (divides : Divides text (pieces ++ [last]))
    (reads : parseStatement depth text = .success node) :
    parseStatement depth ((shell.after pieces).pending ++ last).trimEnd = .success node := by
  by_cases single : pieces = []
  · subst single
    rw [after, List.foldl_nil, idle, List.nil_append, divides.eq_of_single]
    exact parseStatement_trimEnd reads
  · -- A text with a literal has no bracket that could have been left open.
    have noQuote : '"' ∉ text := by
      intro quote
      rcases (brackets_of_parseStatement reads).2.2 quote with ⟨noRound, noBrace⟩
      rcases (unfinished single).exists_bracket with round | brace
      · exact noRound (divides.mem_of_front (by decide) round)
      · exact noBrace (divides.mem_of_front (by decide) brace)
    exact parseStatement_of_words noQuote (divides.words_eq.trans (keeps.words_append last).symm)
      reads

end Keeps

/-- Line after line nothing is done until the last one, and then a statement is run, as the
line with the number of the last one.  The shell is left as it is behind every statement:
no line is to be continued. -/
structure RunsAtLast (shell : Shell) (pieces : List Text) (last statement : Text) : Prop where
  waits : forall front, front <+: pieces -> (shell.after front).session = shell.session
  asks : forall front, front ≠ [] -> front <+: pieces -> (shell.after front).prompt = ". ".toList
  answers : shell.answers (pieces ++ [last]) = List.replicate pieces.length ([], .ok ()) ++
    [answer (Session.guard (perform shell.session statement
      (shell.number + (pieces.length + 1))))]
  leaves : shell.after (pieces ++ [last]) =
    ⟨(Session.guard (perform shell.session statement (shell.number + (pieces.length + 1)))).1, [],
      shell.number + (pieces.length + 1), primaryPrompt⟩

/-- What is kept is run with the first line that completes it. -/
theorem runsAtLast {depth : Nat} {lines : List Text} {last : Text} {node : Node}
    (idle : shell.pending = [])
    (unfinished : forall front, front ≠ [] -> front <+: lines -> Text.Unfinished front.flatten)
    (reads : parseStatement depth ((shell.after lines).pending ++ last).trimEnd =
      .success node) :
    shell.RunsAtLast lines last ((shell.after lines).pending ++ last).trimEnd := by
  have keeps : forall front, front <+: lines -> shell.Keeps front := fun front isFront =>
    .of_unfinished idle fun shorter nonempty isShorter =>
      unfinished shorter nonempty (isShorter.trans isFront)
  have all := keeps lines (List.prefix_refl _)
  have nonempty : ((shell.after lines).pending ++ last).trimEnd ≠ [] := by
    intro empty
    rw [empty] at reads
    rcases statement_nil depth with ⟨rest, fails⟩
    cases (read_to_end reads).symm.trans fails
  have runs := enter_of_statement (preprocessLine_of_reads reads) nonempty
  rw [all.session, all.number, Int.add_assoc] at runs
  constructor
  · exact fun front isFront => (keeps front isFront).session
  · exact fun front nonempty isFront =>
      (keeps front isFront).prompt_eq (unfinished front nonempty isFront)
  · rw [answers_append, all.silent, runs]
  · rw [after_append, runs]

/-- Continued lines neither hold a statement back nor change it.  A text that can be read
as a statement is never taken to be continued.  If it is divided at blanks so that more
brackets are opened than closed up to the end of each piece but the last, all pieces are
kept without a word until the last one.  With that exactly one statement is run, which is
read as the text was, and the shell has counted all pieces and prompts for a new statement. -/
theorem divided_statement_runs_once {depth : Nat} {text : Text} {node : Node}
    (idle : shell.pending = []) (reads : parseStatement depth text = .success node) :
    (preprocessLine text).2 = false ∧
    forall pieces last, Divides text (pieces ++ [last]) ->
      (forall front, front ≠ [] -> front <+: pieces -> Text.Unfinished front.flatten) ->
      ∃ statement, parseStatement depth statement = .success node ∧
        (forall (session : Session) number, session.limits.nesting = depth ->
          (session.parse statement number).2 = .ok [node]) ∧
        shell.RunsAtLast pieces last statement ∧
        (shell.after (pieces ++ [last])).prompt = "> ".toList := by
  refine ⟨?_, fun pieces last divides unfinished => ?_⟩
  · rw [preprocessLine_of_reads (parseStatement_trimEnd reads)]
  · have readsAll := (Keeps.of_unfinished idle unfinished).reads_of_divides idle
      (fun nonempty => unfinished pieces nonempty (List.prefix_refl _)) divides reads
    have runs := runsAtLast idle unfinished readsAll
    refine ⟨_, readsAll, fun session number within => ?_, runs, ?_⟩
    · subst within
      rw [Session.parse_of_success number (Session.reading_of_statement readsAll)]
    · rw [runs.leaves]
      rfl

theorem divided_statement_runs_once_sum :
    let shell := fresh true false .standard
    shell.answers ["out (1 +".toList, "2)".toList] = [([], .ok ()), ("3\n".toList, .ok ())] ∧
    ∃ node statement, parseStatement nestingLimit "out (1 +\n2)".toList = .success node ∧
      parseStatement nestingLimit statement = .success node ∧
      (preprocessLine "out (1 +\n2)".toList).2 = false ∧
      shell.RunsAtLast ["out (1 +".toList] "2)".toList statement ∧
      (shell.after ["out (1 +".toList, "2)".toList]).prompt = "> ".toList := by
  have readable : (parseStatement nestingLimit "out (1 +\n2)".toList).isSuccess = true := by
    decide +kernel
  have isOpen : Text.Unfinished "out (1 +".toList := by decide
  have divides : Divides "out (1 +\n2)".toList (["out (1 +".toList] ++ ["2)".toList]) := by
    have split : "out (1 +\n2)".toList =
        "out (1 +".toList ++ ([] ++ ['\n'] ++ [] ++ "2)".toList) := by decide +kernel
    have isBlank : AllBlank ['\n'] := by
      intro character member
      rw [List.mem_singleton.mp member]
      decide
    rw [split]
    exact .cut isBlank (List.cons_ne_nil _ _) (.whole _)
  have unfinished : forall front, front ≠ [] -> front <+: ["out (1 +".toList] ->
      Text.Unfinished front.flatten := by
    rintro front nonempty ⟨behind, split⟩
    rcases List.append_eq_singleton_iff.mp split with ⟨none, _⟩ | ⟨rfl, _⟩
    · exact absurd none nonempty
    · exact isOpen
  rcases Outcome.exists_of_isSuccess readable with ⟨node, reads⟩
  have idle : (fresh true false .standard).pending = [] := rfl
  rcases divided_statement_runs_once idle reads with ⟨complete, runs⟩
  rcases runs _ _ divides unfinished with ⟨statement, alsoReads, _, atLast, prompts⟩
  exact ⟨by decide +kernel, node, statement, reads, alsoReads, complete, atLast, prompts⟩

end Shell

end SequenceCalculator
