import SequenceCalculator.Proofs.Grammar.Remainder
import SequenceCalculator.Proofs.Report.Notices
import SequenceCalculator.Proofs.Session.Attribution
import SequenceCalculator.Proofs.Session.Modes

namespace SequenceCalculator

/-!
# Where a syntax error is reported

A text that cannot be read is reported with a line of it, with the number of that line
and with a part of the line that an arrow points at.  The line is the one that the
remainder of the text starts on, and the part starts where the remainder does.  The
remainder starts with no blank, so it never starts with the end of a line: unless
nothing is left at all, there is a character to point at.
-/

namespace Text

/-!
## Lines and columns

The line is cut out between two indexes, and each of them is found by a search for a line
end.  What is between them is what stands in front of the position since the last line end
and what stands behind it up to the next one.
-/

theorem position_of_within {length index : Nat} (within : index ≤ length) :
    position length index = index := by
  rw [position, if_neg (by omega), Int.toNat_natCast, Nat.min_eq_left within]

theorem position_of_beyond {length : Nat} {index : Int} (beyond : length ≤ index) :
    position length index = length := by
  rw [position, if_neg (by omega), Nat.min_eq_right (by omega)]

/-- The characters since the last line end in front of a position. -/
def lineFront (text : Text) (offset : Nat) : Text :=
  ((text.take offset).reverse.takeWhile (· != '\n')).reverse

/-- The characters behind a position up to the next line end. -/
def lineBack (text : Text) (offset : Nat) : Text :=
  (text.drop offset).takeWhile (· != '\n')

theorem length_takeWhile_bne (character : Char) (text : Text) :
    (text.takeWhile (· != character)).length = text.idxOf character := by
  rw [List.takeWhile_eq_take_findIdx_not, List.length_take]
  simp only [bne, Bool.not_not]
  exact Nat.min_eq_left List.findIdx_le_length

theorem find_of_mem {character : Char} {start : Nat} {text : Text}
    (member : character ∈ text.drop start) :
    text.find character start =
      start + ((text.drop start).takeWhile (· != character)).length := by
  rw [find, if_pos member, length_takeWhile_bne]

theorem find_eq_neg_one {character : Char} {start : Nat} {text : Text} :
    text.find character start = -1 ↔ character ∉ text.drop start := by
  constructor
  · intro nowhere member
    rw [find_of_mem member] at nowhere
    omega
  · intro absent
    rw [find, if_neg absent]

/-- Behind the last place of a character in front of a position stand only others. -/
theorem findLast_add_one (character : Char) {stop : Nat} {text : Text}
    (within : stop ≤ text.length) :
    text.findLast character stop + 1 =
      stop - ((text.take stop).reverse.takeWhile (· != character)).length := by
  have front : (text.take stop).length = stop := List.length_take_of_le within
  rw [length_takeWhile_bne, findLast, front]
  split
  · omega
  · next absent =>
      have nowhere : (text.take stop).reverse.idxOf character = stop := by
        rw [List.idxOf_of_notMem (by simpa using absent), List.length_reverse, front]
      rw [nowhere]
      omega

/-- Nothing stands in front, or whole lines do. -/
def EndsLine (front : Text) : Prop :=
  front = [] ∨ ∃ earlier, front = earlier ++ ['\n']

theorem not_mem_lineFront (text : Text) (offset : Nat) : '\n' ∉ text.lineFront offset := by
  intro member
  have passes := List.mem_takeWhile_imp (List.mem_reverse.mp member)
  simp at passes

/-- In front of a position stand whole lines and the front of its line, which has no line
end. -/
theorem exists_endsLine (text : Text) (offset : Nat) :
    ∃ front, EndsLine front ∧ text.take offset = front ++ text.lineFront offset ∧
      (text.take offset).count '\n' = front.count '\n' := by
  generalize isFront : ((text.take offset).reverse.dropWhile (· != '\n')).reverse = front
  have split : text.take offset = front ++ text.lineFront offset := by
    rw [← isFront, lineFront, ← List.reverse_append, List.takeWhile_append_dropWhile,
      List.reverse_reverse]
  refine ⟨front, ?_, split, ?_⟩
  · cases dropped : (text.take offset).reverse.dropWhile (· != '\n') with
    | nil =>
        rw [dropped] at isFront
        exact .inl isFront.symm
    | cons first others =>
        have stops := List.head?_dropWhile_not (· != '\n') (text.take offset).reverse
        rw [dropped] at stops isFront
        obtain rfl : first = '\n' := by simpa using stops
        exact .inr ⟨others.reverse, isFront.symm.trans List.reverse_cons⟩
  · rw [split, List.count_append, List.count_eq_zero.mpr (not_mem_lineFront text offset),
      Nat.add_zero]

theorem splitOn_getElem?_zero (text : Text) :
    (text.splitOn '\n')[0]? = some (text.takeWhile (· != '\n')) := by
  induction text with
  | nil => rfl
  | cons first text inductionHypothesis =>
      rw [List.splitOn_cons_eq_if_modifyHead]
      by_cases lineEnd : first = '\n'
      · simp [lineEnd]
      · cases split : text.splitOn '\n' with
        | nil => exact absurd split (List.splitOn_ne_nil _ _)
        | cons line lines =>
            rw [split] at inductionHypothesis
            cases inductionHypothesis
            simp [lineEnd]

theorem length_splitOn (text : Text) : (text.splitOn '\n').length = text.count '\n' + 1 := by
  induction text with
  | nil => rfl
  | cons first text inductionHypothesis =>
      rw [List.splitOn_cons_eq_if_modifyHead]
      by_cases lineEnd : first = '\n'
      · simp [lineEnd, inductionHypothesis]
      · simp [lineEnd, inductionHypothesis]

/-- Behind whole lines stands the line with the number of line ends in front. -/
theorem splitOn_getElem?_of_endsLine {front : Text} (ends : EndsLine front) (rest : Text) :
    ((front ++ rest).splitOn '\n')[front.count '\n']? = some (rest.takeWhile (· != '\n')) := by
  rcases ends with rfl | ⟨earlier, rfl⟩
  · exact splitOn_getElem?_zero rest
  · have before : (earlier ++ ['\n']).count '\n' = (earlier.splitOn '\n').length := by
      rw [length_splitOn, List.count_append, List.count_singleton_self]
    rw [List.append_assoc, List.singleton_append, List.splitOn_append_cons_self, before,
      List.getElem?_append_right (Nat.le_refl _), Nat.sub_self, splitOn_getElem?_zero]

end Text

namespace Location

/-- What a location says about a position in a text. -/
structure Marks (location : Location) (text : Text) (offset : Nat) : Prop where
  /-- The number of the line counts the line ends in front. -/
  index_eq : location.index = (text.take offset).count '\n'
  line_eq : (text.splitOn '\n')[location.index]? = some location.line
  column_le : location.column ≤ location.line.length
  /-- The column counts from the line end in front. -/
  starts : ∃ front, Text.EndsLine front ∧
    text.take offset = front ++ location.line.take location.column
  /-- Behind the column the line goes on as the text does. -/
  goesOn : location.line.drop location.column = (text.drop offset).takeWhile (· != '\n')

theorem lineStart_eq {text : Text} {offset : Nat} (within : offset ≤ text.length) :
    lineStart text offset = offset - (text.lineFront offset).length := by
  rw [lineStart, Text.findLast_add_one '\n' within, Text.lineFront, List.length_reverse]

theorem lineEnd_eq {text : Text} {offset : Nat} (within : offset ≤ text.length) :
    lineEnd text offset = offset + (text.lineBack offset).length := by
  unfold lineEnd Text.lineBack
  split
  · next nowhere =>
      have plain : forall character, character ∈ text.drop offset ->
          (character != '\n') = true := by
        intro character member
        rw [bne_iff_ne]
        rintro rfl
        exact Text.find_eq_neg_one.mp nowhere member
      rw [List.takeWhile_eq_self_iff.mpr plain, List.length_drop]
      omega
  · next somewhere => exact Text.find_of_mem (not_not.mp (mt Text.find_eq_neg_one.mpr somewhere))

/-- The line of a position is what stands around it, its number counts the line ends in
front of the position, and the column counts what stands of the line in front of it. -/
theorem ofOffset_eq {text : Text} {offset : Nat} (within : offset ≤ text.length) :
    ofOffset text offset =
      { line := text.lineFront offset ++ text.lineBack offset
        index := (text.take offset).count '\n'
        column := (text.lineFront offset).length } := by
  rcases Text.exists_endsLine text offset with ⟨front, -, split, counted⟩
  have lengths : offset = front.length + (text.lineFront offset).length := by
    rw [← List.length_append, ← split, List.length_take_of_le within]
  have starts : lineStart text offset = front.length := by
    rw [lineStart_eq within]
    omega
  have atStart : Text.position text.length front.length = front.length :=
    Text.position_of_within (by omega)
  have taken : text.take front.length = front := by
    rw [← Nat.min_eq_left (by omega : front.length ≤ offset), ← List.take_take, split,
      List.take_left]
  have atEnd : Text.position text.length (lineEnd text offset) =
      offset + (text.lineBack offset).length := by
    have inside := (List.takeWhile_prefix (· != '\n') (l := text.drop offset)).length_le
    rw [List.length_drop] at inside
    rw [lineEnd_eq within]
    exact Text.position_of_within (by unfold Text.lineBack; omega)
  have ends : text.take (offset + (text.lineBack offset).length) =
      front ++ (text.lineFront offset ++ text.lineBack offset) := by
    rw [List.take_add, split, List.append_assoc, Text.lineBack,
      ← List.prefix_iff_eq_take.mp (List.takeWhile_prefix _)]
  unfold ofOffset Text.between Text.takeTo
  rw [starts, atStart, atEnd, taken, ends, List.drop_left, counted]
  congr 1
  omega

/-- What is cut out of the text is as long as the two indexes say. -/
theorem length_line_ofOffset {text : Text} {offset : Nat} (within : offset ≤ text.length) :
    ((ofOffset text offset).line.length : Int) = lineEnd text offset - lineStart text offset := by
  rw [ofOffset_eq within, lineStart_eq within, lineEnd_eq within, List.length_append]
  omega

theorem ofOffset_marks {text : Text} {offset : Nat} (within : offset ≤ text.length) :
    (ofOffset text offset).Marks text offset := by
  rcases Text.exists_endsLine text offset with ⟨front, ends, split, counted⟩
  have plain : forall character, character ∈ text.lineFront offset ->
      (character != '\n') = true := by
    intro character member
    rw [bne_iff_ne]
    rintro rfl
    exact text.not_mem_lineFront offset member
  rw [ofOffset_eq within]
  refine ⟨rfl, ?_, ?_, ⟨front, ends, ?_⟩, ?_⟩
  · have whole : text = front ++ (text.lineFront offset ++ text.drop offset) := by
      rw [← List.append_assoc, ← split, List.take_append_drop]
    have found := Text.splitOn_getElem?_of_endsLine ends (text.lineFront offset ++ text.drop offset)
    rw [← whole, ← counted, List.takeWhile_append_of_pos plain] at found
    exact found
  · simp
  · simpa using split
  · simp [Text.lineBack]

end Location

namespace Notice

/-- Without colours the line is shown as it is, and below it an arrow from the column to
the end of the line.  There is an arrow also where nothing is left of the line. -/
theorem diagnose_ofLocation {location : Location} (inside : location.column ≤ location.line.length)
    (colored : Bool) (fragment : Text) (hue : Hue) :
    (ofLocation colored location fragment).diagnose false hue =
      "  ".toList ++ location.line ++ ['\n'] ++ "  ".toList ++
        List.replicate location.column ' ' ++
        '^' :: List.replicate (location.line.length - location.column - 1) '~' := by
  have beyond : (location.line.length : Int) ≤
      max (location.line.length : Int) ((location.column : Int) + 1) := Int.le_max_left _ _
  have tildes : (max (location.line.length : Int) ((location.column : Int) + 1) -
      location.column - 1).toNat = location.line.length - location.column - 1 := by
    omega
  -- An equation for `diagnose` takes long to be made, because of the literals in it.
  delta diagnose ofLocation
  simp only [Paint.strong, Text.takeTo, Text.between, Text.dropTo, Text.spaces,
    Text.position_of_within inside, Text.position_of_beyond beyond, tildes, List.take_length,
    List.drop_length, Int.toNat_natCast, Bool.false_eq_true, if_false]
  rw [List.append_nil, List.append_assoc "  ".toList, List.take_append_drop]

end Notice

namespace Session

open Grammar

theorem isRemainder_of_reading {session : Session} {text : Text} {error : SyntaxError}
    (fails : session.reading text = .failure error) : IsRemainder text error := by
  unfold reading at fails
  split at fails
  · exact isRemainder_of_parseStatement (Outcome.map_eq_failure fails)
  · exact isRemainder_of_parseProgram fails

/-- What a notice about a syntax error says: which line of the text it is about, how many
lines stand in front of it, and where in that line the arrow starts. -/
structure Locates (notice : Notice) (text : Text) (error : SyntaxError) (line : Text)
    (index start : Nat) : Prop where
  /-- The line is the one with as many line ends in front as the offset has. -/
  index_eq : index = (text.take error.offset).count '\n'
  line_eq : (text.splitOn '\n')[index]? = some line
  /-- The notice is about that line from the start to its end. -/
  subject_eq : notice.subject = line
  start_eq : notice.start = start
  stop_eq : notice.stop = line.length
  start_le : start ≤ line.length
  /-- What lies in front of the offset ends with the line up to the start. -/
  front : ∃ front, Text.EndsLine front ∧ text.take error.offset = front ++ line.take start
  /-- Unless nothing is left there is a character to point at, and the line goes on with
  the fragment up to its first line end. -/
  points : error.fragment ≠ [] ->
    start < line.length ∧ line.drop start = error.fragment.takeWhile (· != '\n')
  /-- Without colours the line is shown as it is, and below it an arrow. -/
  shown (hue : Hue) : notice.diagnose false hue =
    "  ".toList ++ line ++ ['\n'] ++ "  ".toList ++ List.replicate start ' ' ++
      '^' :: List.replicate (line.length - start - 1) '~'

theorem locates_ofLocation {text : Text} {error : SyntaxError} (remainder : IsRemainder text error)
    {location : Location} (marks : location.Marks text error.offset) (colored : Bool) :
    Locates (Notice.ofLocation colored location error.fragment) text error location.line
      location.index location.column := by
  refine ⟨marks.index_eq, marks.line_eq, rfl, rfl, rfl, marks.column_le, marks.starts, ?_,
    Notice.diagnose_ofLocation marks.column_le _ _⟩
  intro something
  have goesOn := marks.goesOn
  rw [← remainder.fragment_eq] at goesOn
  refine ⟨?_, goesOn⟩
  -- The fragment starts with no blank, and a line end is one.
  rcases List.exists_cons_of_ne_nil something with ⟨first, others, split⟩
  have notBlank := remainder.noBlank first (by rw [split, List.head?_cons])
  have noLineEnd : (first != '\n') = true := by
    rw [bne_iff_ne]
    rintro rfl
    exact absurd notBlank (by decide)
  have shown := congrArg List.length goesOn
  rw [split, List.takeWhile_cons, if_pos noLineEnd, List.length_drop, List.length_cons] at shown
  omega

/-- A text that cannot be read raises a notice, in both modes, and nothing else happens but
that a line of the text is registered under its number.  The notice locates the offset in
that line. -/
theorem syntaxError_located (session : Session) (number : Int) {text : Text}
    {error : SyntaxError} (fails : session.reading text = .failure error) :
    ∃ (notice : Notice) (line : Text) (index start : Nat),
      Locates notice text error line index start ∧
      session.parse text number =
        ({ session with
           handler := session.handler.registerLine session.path line (number + index) },
          .error (.notice notice)) ∧
      (session.parse text number).1.place? = some ⟨some line, some (number + index)⟩ := by
  have located := locates_ofLocation (isRemainder_of_reading fails)
    (Location.ofOffset_marks (isRemainder_of_reading fails).within) session.handler.colored
  have raises : session.parse text number = (session.misread text number error,
      .error (.notice (Notice.ofLocation session.handler.colored
        (Location.ofOffset text error.offset) error.fragment))) := by
    rw [parse_of_failure number fails]
    exact congrArg (Prod.mk _) (raising_of_ofDraft (Notice.ofDraft_location _ _ _))
  refine ⟨_, _, _, _, located, raises, ?_⟩
  rw [raises]
  exact Handler.place?_registerLine _ _ _ _

/-- The second line of a program, and a literal at a terminal that is not closed before
the text ends. -/
theorem syntaxError_located_secondLine :
    (ofFile.reading "out 1\nout )".toList = .failure ⟨"out )".toList, 6⟩ ∧
      (ofFile.parse "out 1\nout )".toList 1).1.place? = some ⟨some "out )".toList, some 2⟩ ∧
      ∃ notice, (ofFile.parse "out 1\nout )".toList 1).2 = .error (.notice notice) ∧
        notice.diagnose false .red = "  out )\n  ^~~~~".toList) ∧
    ofTerminal.reading "print \"a".toList = .failure ⟨[], 8⟩ ∧
      (ofTerminal.parse "print \"a".toList 7).1.place? =
        some ⟨some "print \"a".toList, some 7⟩ ∧
      ∃ notice, (ofTerminal.parse "print \"a".toList 7).2 = .error (.notice notice) ∧
        notice.stop = 8 := by
  have second : ofFile.reading "out 1\nout )".toList = .failure ⟨"out )".toList, 6⟩ := by
    have shape : (ofFile.reading "out 1\nout )".toList).map (fun _ => ()) =
        .failure ⟨"out )".toList, 6⟩ := by decide +kernel
    exact Outcome.map_eq_failure shape
  have unclosed : ofTerminal.reading "print \"a".toList = .failure ⟨[], 8⟩ := by
    have shape : (ofTerminal.reading "print \"a".toList).map (fun _ => ()) =
        .failure ⟨[], 8⟩ := by decide +kernel
    exact Outcome.map_eq_failure shape
  refine ⟨⟨second, ?_⟩, unclosed, ?_⟩
  · rcases syntaxError_located ofFile 1 second with
      ⟨notice, line, index, start, located, raises, place⟩
    obtain rfl : index = 1 := located.index_eq.trans (by decide)
    obtain rfl : line = "out )".toList := Option.some.inj (located.line_eq.symm.trans (by decide))
    obtain rfl : start = 0 := by
      have goesOn := congrArg List.length (located.points (by decide)).2
      have five : ("out )".toList.takeWhile (· != '\n')).length = 5 := by decide
      rw [five, List.length_drop] at goesOn
      have atMost : start ≤ 5 := located.start_le
      have all : 5 - start = 5 := goesOn
      omega
    exact ⟨place, notice, congrArg Prod.snd raises, located.shown .red⟩
  · rcases syntaxError_located ofTerminal 7 unclosed with
      ⟨notice, line, index, start, located, raises, place⟩
    obtain rfl : index = 0 := located.index_eq.trans (by decide)
    obtain rfl : line = "print \"a".toList :=
      Option.some.inj (located.line_eq.symm.trans (by decide))
    exact ⟨place, notice, congrArg Prod.snd raises, located.stop_eq⟩

end Session
end SequenceCalculator
