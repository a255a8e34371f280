import SequenceCalculator.Proofs.Report.Braces

namespace SequenceCalculator
namespace Template

/-!
# A text that is a template of itself

Filling a template takes every pair of braces to one brace and every field to a text
without braces.  A field opens and closes as many braces, so what is left of the braces
of a template after filling it is at most half of them, of either kind.  A template that
is filled to itself has none.
-/

/-- What filling does to the number of braces: besides pairs there are fields, with as
many opening as closing braces. -/
def Halves (template filled : Text) : Prop :=
  ∃ inFields : Nat, template.count '\x7b' = 2 * filled.count '\x7b' + inFields ∧
    template.count '\x7d' = 2 * filled.count '\x7d' + inFields

theorem Halves.balanced {template filled : Text} (halves : Halves template filled)
    (balanced : Balanced template) : Balanced filled := by
  rcases halves with ⟨inFields, openings, closings⟩
  unfold Balanced at balanced ⊢
  omega

theorem Halves.braceless {text : Text} (halves : Halves text text) : Braceless text := by
  rcases halves with ⟨inFields, openings, closings⟩
  exact braceless_iff_count.mpr ⟨by omega, by omega⟩

section Steps

variable {template filled : Text} (halves : Halves template filled)
include halves

theorem Halves.opening : Halves ('\x7b' :: '\x7b' :: template) ('\x7b' :: filled) := by
  rcases halves with ⟨inFields, openings, closings⟩
  refine ⟨inFields, ?_, ?_⟩
  · rw [List.count_cons_self, List.count_cons_self, List.count_cons_self]
    omega
  · rw [List.count_cons_of_ne (by decide), List.count_cons_of_ne (by decide),
      List.count_cons_of_ne (by decide), closings]

theorem Halves.closing : Halves ('\x7d' :: '\x7d' :: template) ('\x7d' :: filled) := by
  rcases halves with ⟨inFields, openings, closings⟩
  refine ⟨inFields, ?_, ?_⟩
  · rw [List.count_cons_of_ne (by decide), List.count_cons_of_ne (by decide),
      List.count_cons_of_ne (by decide), openings]
  · rw [List.count_cons_self, List.count_cons_self, List.count_cons_self]
    omega

theorem Halves.character {character : Char} (noBrace : NoBrace character) :
    Halves (character :: template) (character :: filled) := by
  rcases halves with ⟨inFields, openings, closings⟩
  refine ⟨inFields, ?_, ?_⟩
  · rw [List.count_cons_of_ne noBrace.1, List.count_cons_of_ne noBrace.1, openings]
  · rw [List.count_cons_of_ne noBrace.2, List.count_cons_of_ne noBrace.2, closings]

/-- A field counts for the braces of its layout and its own. -/
theorem Halves.field {front layout text : Text} (frontBraceless : Braceless front)
    (balanced : Balanced layout) (textBraceless : Braceless text) :
    Halves ('\x7b' :: (front ++ layout ++ '\x7d' :: template)) (text ++ filled) := by
  rcases halves with ⟨inFields, openings, closings⟩
  rcases braceless_iff_count.mp frontBraceless with ⟨frontOpening, frontClosing⟩
  rcases braceless_iff_count.mp textBraceless with ⟨textOpening, textClosing⟩
  refine ⟨layout.count '\x7b' + 1 + inFields, ?_, ?_⟩
  · rw [List.count_cons_self, List.count_append, List.count_append, List.count_append,
      List.count_cons_of_ne (by decide), frontOpening, textOpening]
    omega
  · rw [List.count_cons_of_ne (by decide), List.count_append, List.count_append,
      List.count_append, List.count_cons_self, frontClosing, textClosing, ← balanced]
    omega

end Steps

/-- A way of filling templates that halves the braces. -/
def Filler.Halving (filler : Filler) : Prop :=
  forall (numbering next : Numbering) (template filled : Text),
    filler numbering template = .ok (filled, next) -> Halves template filled

/-- A step that succeeds, and what is done with its value. -/
theorem exists_of_bind {α β : Type} {first : Except Fault α} {next : α -> Except Fault β}
    {result : β} (succeeds : (first >>= next) = .ok result) :
    ∃ value, first = .ok value ∧ next value = .ok result := by
  cases first with
  | error cause => cases succeeds
  | ok value => exact ⟨value, rfl, succeeds⟩

/-!
## How a field is cut out
-/

/-- The name of a field ends at a mark, or with the template. -/
theorem fieldName_append {bracketed : Bool} {text name rest : Text} {mark : Option Char}
    (reads : fieldName bracketed text = .ok (name, mark, rest)) :
    text = name ++ mark.toList ++ rest := by
  fun_induction fieldName bracketed text generalizing name mark rest with
  | case1 => cases reads; rfl
  | case2 character others inductionHypothesis =>
      rcases exists_of_bind reads with ⟨⟨inside, ends, behind⟩, found, same⟩
      cases same
      rw [inductionHypothesis found]
      rfl
  | case3 => cases reads
  | case4 => cases reads; rfl
  | case5 character others _ _ inductionHypothesis =>
      rcases exists_of_bind reads with ⟨⟨inside, ends, behind⟩, found, same⟩
      cases same
      rw [inductionHypothesis found]
      rfl

/-- A layout ends in front of the brace that closes its field, so it has as many closing
braces as it opens and as are open already. -/
theorem fieldLayout_append {opened : Nat} {text layout rest : Text}
    (reads : fieldLayout opened text = .ok (layout, rest)) :
    text = layout ++ '\x7d' :: rest ∧
      layout.count '\x7b' + opened = layout.count '\x7d' := by
  induction text generalizing opened layout rest with
  | nil => cases reads
  | cons character others inductionHypothesis =>
      simp only [fieldLayout] at reads
      split at reads
      · next ends =>
        simp only [Bool.and_eq_true, decide_eq_true_eq] at ends
        rcases ends with ⟨rfl, rfl⟩
        cases reads
        exact ⟨rfl, rfl⟩
      · next goesOn =>
        simp only [Bool.and_eq_true, decide_eq_true_eq, not_and] at goesOn
        rcases exists_of_bind reads with ⟨⟨inside, behind⟩, found, same⟩
        cases same
        rcases inductionHypothesis found with ⟨split, counts⟩
        refine ⟨by rw [split]; rfl, ?_⟩
        dsimp only
        by_cases opens : character = '\x7b'
        · subst character
          simp only [if_true] at counts
          rw [List.count_cons_self, List.count_cons_of_ne (by decide)]
          omega
        · by_cases closes : character = '\x7d'
          · subst character
            have isOpen := goesOn rfl
            simp only [if_neg opens, if_true] at counts
            rw [List.count_cons_self, List.count_cons_of_ne (by decide)]
            omega
          · simp only [if_neg opens, if_neg closes] at counts
            rw [List.count_cons_of_ne opens, List.count_cons_of_ne closes]
            exact counts

/-- A field behind its opening brace: its layout and the closing brace stand behind
characters that are no braces, unless its name or its conversion has some. -/
theorem field_append {text rest : Text} {written : Field}
    (reads : field text = .ok (written, rest)) :
    Balanced written.layout ∧ ∃ front, text = front ++ written.layout ++ '\x7d' :: rest ∧
      (Braceless written.name -> Braceless written.conversion.toList -> Braceless front) := by
  rcases exists_of_bind reads with ⟨⟨name, mark, behind⟩, isName, cut⟩
  have whole := fieldName_append isName
  dsimp only at cut
  split at cut
  · cases cut
    exact ⟨rfl, name, by simpa using whole, fun named _ => named⟩
  · rcases exists_of_bind cut with ⟨⟨layout, last⟩, isLayout, same⟩
    cases same
    rcases fieldLayout_append isLayout with ⟨ends, balanced⟩
    refine ⟨balanced, name ++ [':'], ?_, fun named _ => named.append (by decide)⟩
    rw [whole, ends]
    simp
  · split at cut
    · cases cut
    · next conversion last =>
      cases cut
      refine ⟨rfl, name ++ ['!', conversion], ?_, fun named converts =>
        named.append (.cons ⟨by decide, by decide⟩ converts)⟩
      rw [whole]
      simp
    · cases cut
    · next conversion last =>
      rcases exists_of_bind cut with ⟨⟨layout, last⟩, isLayout, same⟩
      cases same
      rcases fieldLayout_append isLayout with ⟨ends, balanced⟩
      refine ⟨balanced, name ++ ['!', conversion, ':'], ?_, fun named converts =>
        named.append (.cons ⟨by decide, by decide⟩ (converts.append (by decide)))⟩
      rw [whole, ends]
      simp
    · cases cut
  · cases cut

/-!
## What a field is filled with
-/

/-- Only decimal digits name a position. -/
theorem position?_braceless {name : Text} {named : Option Nat}
    (reads : position? name = .ok named) (isPosition : named ≠ none) : Braceless name := by
  rcases exists_of_bind reads with ⟨⟨value, rest⟩, isDigits, same⟩
  cases same
  split at isPosition
  · next isEnd =>
    rw [List.isEmpty_iff.mp isEnd] at isDigits
    exact Layout.digits_braceless isDigits (by decide)
  · exact absurd rfl isPosition

/-- A point is followed by a name, and that by other accessors. -/
theorem access_point {bound : Nat} {facet found : Facet} {rest : Text}
    (gets : access facet (bound + 1) ('.' :: rest) = .ok found) :
    ∃ wanted behind reached, rest = wanted ++ behind ∧
      facet.get (String.ofList wanted) = .ok reached ∧ access reached bound behind = .ok found := by
  simp only [access] at gets
  split at gets
  · cases gets
  rcases exists_of_bind gets with ⟨reached, isReached, goesOn⟩
  refine ⟨_, _, reached, ?_, isReached, goesOn⟩
  have taken := List.prefix_iff_eq_take.mp
    (List.takeWhile_prefix (l := rest) fun character => character != '.' && character != '[')
  have whole := List.take_append_drop
    (rest.takeWhile fun character => character != '.' && character != '[').length rest
  rw [← taken] at whole
  exact whole.symm

/-- An opening bracket is followed by a key and a closing bracket, and that by other
accessors. -/
theorem access_bracket {bound : Nat} {facet found : Facet} {rest : Text}
    (gets : access facet (bound + 1) ('[' :: rest) = .ok found) :
    ∃ key behind named reached, rest = key ++ ']' :: behind ∧ position? key = .ok named ∧
      facet.item named = .ok reached ∧ access reached bound behind = .ok found := by
  simp only [access] at gets
  split at gets
  · cases gets
  next closing behind closes =>
  split at gets
  · cases gets
  rcases exists_of_bind gets with ⟨named, isPosition, afterPosition⟩
  rcases exists_of_bind afterPosition with ⟨reached, isReached, goesOn⟩
  refine ⟨_, behind, named, reached, ?_, isPosition, isReached, goesOn⟩
  have whole := List.takeWhile_append_dropWhile (p := (· != ']')) (l := rest)
  have isClosing : (closing != ']') = false := by
    have head := List.head?_dropWhile_not (· != ']') rest
    rwa [closes] at head
  rw [closes, bne_eq_false_iff_eq.mp isClosing] at whole
  exact whole.symm

/-- Accessors lead from what is plain to what is plain, and no name and no key among them
has a brace.  The induction is on the bound, of which every accessor takes its part. -/
theorem access_plain {bound : Nat} {facet found : Facet} {accessors : Text}
    (enough : accessors.length ≤ bound) (plain : facet.Plain)
    (gets : access facet bound accessors = .ok found) : found.Plain ∧ Braceless accessors := by
  induction bound generalizing facet accessors with
  | zero =>
      rw [List.length_eq_zero_iff.mp (Nat.le_zero.mp enough)] at gets ⊢
      cases gets
      exact ⟨plain, by decide⟩
  | succ bound inductionHypothesis =>
      match accessors with
      | [] =>
          cases gets
          exact ⟨plain, by decide⟩
      | character :: rest =>
          rw [List.length_cons, Nat.add_le_add_iff_right] at enough
          by_cases isPoint : character = '.'
          · subst character
            rcases access_point gets with ⟨wanted, behind, reached, rfl, isReached, goesOn⟩
            rcases Facet.get_plain isReached with ⟨reachedPlain, wantedBraceless⟩
            rw [String.toList_ofList] at wantedBraceless
            rw [List.length_append] at enough
            rcases inductionHypothesis (by omega) reachedPlain goesOn with
              ⟨foundPlain, behindBraceless⟩
            exact ⟨foundPlain,
              .cons ⟨by decide, by decide⟩ (wantedBraceless.append behindBraceless)⟩
          by_cases isBracket : character = '['
          · subst character
            rcases access_bracket gets with
              ⟨key, behind, named, reached, rfl, isPosition, isReached, goesOn⟩
            rcases Facet.item_plain plain isReached with ⟨reachedPlain, isNamed⟩
            rw [List.length_append, List.length_cons] at enough
            rcases inductionHypothesis (by omega) reachedPlain goesOn with
              ⟨foundPlain, behindBraceless⟩
            exact ⟨foundPlain, .cons ⟨by decide, by decide⟩
              ((position?_braceless isPosition isNamed).append
                (.cons ⟨by decide, by decide⟩ behindBraceless))⟩
          · unfold access at gets
            split at gets
            · next impossible => cases impossible
            · next impossible _ => cases impossible
            · next isFirst => exact absurd (List.cons.inj isFirst).1 isPoint
            · next isFirst => exact absurd (List.cons.inj isFirst).1 isBracket
            · cases gets

section Arguments

variable {arguments : List Text}
  (plainArguments : forall argument, argument ∈ arguments -> Braceless argument)
include plainArguments

/-- What a field takes from arguments without braces is plain. -/
theorem resolve_plain {numbering next : Numbering} {name : Text} {facet : Facet}
    (resolves : resolve arguments numbering name = .ok (facet, next)) :
    facet.Plain ∧ Braceless name := by
  rcases exists_of_bind resolves with ⟨named, isPosition, afterPosition⟩
  dsimp only at afterPosition
  split at afterPosition
  · cases afterPosition
  next isFirst =>
  rcases exists_of_bind afterPosition with ⟨⟨index, taken⟩, _, afterTaking⟩
  dsimp only at afterTaking
  split at afterTaking
  · cases afterTaking
  next argument isArgument =>
  rcases exists_of_bind afterTaking with ⟨found, accessed, same⟩
  cases same
  rcases access_plain (Nat.le_refl _)
    (show (Facet.text argument).Plain from
      plainArguments argument (List.mem_of_getElem? isArgument)) accessed with
    ⟨plain, accessors⟩
  refine ⟨plain, ?_⟩
  have first : Braceless (name.takeWhile fun character =>
      character != '.' && character != '[') := by
    cases named with
    | some position => exact position?_braceless isPosition (fun none => by cases none)
    | none =>
        simp only [Option.isNone_none, Bool.true_and, Bool.not_eq_true', Bool.not_eq_false]
          at isFirst
        rw [List.isEmpty_iff.mp isFirst]
        decide
  have whole := first.append accessors
  rwa [List.takeWhile_append_dropWhile] at whole

end Arguments

theorem convert_plain {conversion : Option Char} {facet converted : Facet} (plain : facet.Plain)
    (converts : convert conversion facet = .ok converted) :
    converted.Plain ∧ Braceless conversion.toList := by
  unfold convert at converts
  split at converts
  · cases converts
    exact ⟨plain, by decide⟩
  · cases converts
    exact ⟨plain, by decide⟩
  · cases converts
    exact ⟨plain.shown_braceless, by decide⟩
  · cases converts
    exact ⟨plain.quoted_braceless, by decide⟩
  · cases converts
    refine ⟨?_, by decide⟩
    intro character member
    rcases List.mem_flatMap.mp member with ⟨source, isSource, written⟩
    split at written
    · rw [List.mem_singleton.mp written]
      exact plain.quoted_braceless source isSource
    · exact Text.braceless_codeEscape _ character written
  · split at converts <;> cases converts

theorem arrange_braceless {layout arranged : Text} {facet : Facet} (plain : facet.Plain)
    (balanced : Balanced layout) (arranges : arrange layout facet = .ok arranged) :
    Braceless arranged := by
  unfold arrange at arranges
  split at arranges
  · exact Layout.apply_braceless balanced plain arranges
  · split at arranges
    · cases arranges
      exact plain.shown_braceless
    · cases arranges

/-!
## Filling
-/

section Filling

variable {arguments : List Text}
  (plainArguments : forall argument, argument ∈ arguments -> Braceless argument)
  {inner : Filler} (halving : inner.Halving)
include plainArguments halving

/-- The text of a field has no braces, however its layout is made. -/
theorem fieldText_braceless {numbering next : Numbering} {written : Field} {text : Text}
    (balanced : Balanced written.layout)
    (fills : fieldText arguments inner numbering written = .ok (text, next)) :
    Braceless text ∧ Braceless written.name ∧ Braceless written.conversion.toList := by
  rcases exists_of_bind fills with ⟨⟨facet, resolved⟩, resolves, afterResolving⟩
  rcases exists_of_bind afterResolving with ⟨converted, converts, afterConverting⟩
  rcases resolve_plain plainArguments resolves with ⟨plain, named⟩
  rcases convert_plain plain converts with ⟨convertedPlain, conversion⟩
  have laidOut {layout : Text} {filled : Numbering} (layoutBalanced : Balanced layout)
      (arranging : (do return (← arrange layout converted, filled)) =
        (.ok (text, next) : Except Fault (Text × Numbering))) : Braceless text := by
    rcases exists_of_bind arranging with ⟨arranged, arranges, same⟩
    cases same
    exact arrange_braceless convertedPlain layoutBalanced arranges
  refine ⟨?_, named, conversion⟩
  dsimp only at afterConverting
  split at afterConverting
  · rcases exists_of_bind afterConverting with ⟨⟨layout, filled⟩, isLayout, afterFilling⟩
    exact laidOut ((halving _ _ _ _ isLayout).balanced balanced) afterFilling
  · exact laidOut balanced afterConverting

omit plainArguments halving in
theorem exists_of_before {text filled : Text} {behind : Except Fault (Text × Numbering)}
    {next : Numbering} (fills : before text behind = .ok (filled, next)) :
    ∃ rest, behind = .ok (rest, next) ∧ filled = text ++ rest := by
  rcases exists_of_bind fills with ⟨⟨rest, last⟩, isRest, same⟩
  cases same
  exact ⟨rest, isRest, rfl⟩

/-- Filling halves the braces.  The induction is on the bound for the length: every step
takes a character, a pair of braces or a field from the front of the template. -/
theorem fillUpTo_halves {bound : Nat} {numbering next : Numbering} {template filled : Text}
    (enough : template.length ≤ bound)
    (fills : fillUpTo arguments inner bound numbering template = .ok (filled, next)) :
    Halves template filled := by
  induction bound generalizing numbering template filled with
  | zero =>
      rw [List.length_eq_zero_iff.mp (Nat.le_zero.mp enough)] at fills ⊢
      cases fills
      exact ⟨0, rfl, rfl⟩
  | succ bound inductionHypothesis =>
      match template with
      | [] => cases fills; exact ⟨0, rfl, rfl⟩
      | character :: rest =>
          rw [List.length_cons, Nat.add_le_add_iff_right] at enough
          simp only [fillUpTo] at fills
          by_cases opens : character = '\x7b'
          · subst character
            simp only [if_true] at fills
            split at fills
            · cases fills
            next second behind =>
            split at fills
            · next isSecond =>
              subst second
              rcases exists_of_before fills with ⟨others, goesOn, rfl⟩
              rw [List.length_cons] at enough
              exact (inductionHypothesis (by omega) goesOn).opening
            · rcases exists_of_bind fills with ⟨⟨written, after⟩, isField, afterField⟩
              rcases exists_of_bind afterField with ⟨⟨text, filledTo⟩, isText, afterText⟩
              rcases exists_of_before afterText with ⟨others, goesOn, rfl⟩
              rcases field_append isField with ⟨balanced, front, split, frontBraceless⟩
              rcases fieldText_braceless plainArguments halving balanced isText with
                ⟨textBraceless, named, conversion⟩
              have shorter : after.length ≤ bound := by
                rw [split, List.length_append, List.length_cons] at enough
                omega
              rw [split]
              exact (inductionHypothesis shorter goesOn).field (frontBraceless named conversion)
                balanced textBraceless
          by_cases closes : character = '\x7d'
          · subst character
            simp only [if_neg opens, if_true] at fills
            split at fills
            · cases fills
            next second behind =>
            split at fills
            · next isSecond =>
              subst second
              rcases exists_of_before fills with ⟨others, goesOn, rfl⟩
              rw [List.length_cons] at enough
              exact (inductionHypothesis (by omega) goesOn).closing
            · cases fills
          · simp only [if_neg opens, if_neg closes] at fills
            rcases exists_of_before fills with ⟨others, goesOn, rfl⟩
            exact (inductionHypothesis enough goesOn).character ⟨opens, closes⟩

omit halving in
/-- So does filling with templates inside layouts, however deep. -/
theorem fillNested_halving (depth : Nat) : (fillNested arguments depth).Halving := by
  induction depth with
  | zero => intro numbering next template filled fills; cases fills
  | succ depth inductionHypothesis =>
      intro numbering next template filled fills
      exact fillUpTo_halves plainArguments inductionHypothesis (Nat.le_refl _) fills

omit halving in
/-- Exactly the texts without braces are templates of themselves. -/
theorem fill_eq_self_iff {text : Text} : fill text arguments = .ok text ↔ Braceless text := by
  constructor
  · intro fills
    rcases exists_of_bind fills with ⟨⟨filled, last⟩, isFilled, same⟩
    cases same
    exact (fillNested_halving plainArguments 2 _ _ _ _ isFilled).braceless
  · intro braceless
    have escaped := fill_escape text arguments
    rwa [braceless.escape_eq] at escaped

end Filling

end Template
end SequenceCalculator
