import SequenceCalculator.Proofs.Report.Notices

namespace SequenceCalculator

/-!
# What a field puts in has no braces

A field takes something from an argument and lays it out.  What is known about a text
and about its kind is described without braces, and quoting adds none, so braces could
only come from the argument itself or from the layout.  A layout uses one character as
it is, the one it fills up with.  If that is a brace, the layout has one brace more of
this kind than of the other, and this is impossible for a layout that was cut out of a
template at matching braces.
-/

namespace Template

/-- A text with as many opening as closing braces. -/
def Balanced (text : Text) : Prop := text.count '\x7b' = text.count '\x7d'

/-- Whether a character is no brace. -/
def NoBrace (character : Char) : Prop := character ≠ '\x7b' ∧ character ≠ '\x7d'

theorem Braceless.of_append {first second : Text} (braceless : Braceless (first ++ second)) :
    Braceless first ∧ Braceless second :=
  ⟨fun character member => braceless character (List.mem_append_left second member),
    fun character member => braceless character (List.mem_append_right first member)⟩

theorem Braceless.take {text : Text} (braceless : Braceless text) (length : Nat) :
    Braceless (text.take length) :=
  fun character member => braceless character (List.mem_of_mem_take member)

theorem braceless_iff_count {text : Text} :
    Braceless text ↔ text.count '\x7b' = 0 ∧ text.count '\x7d' = 0 := by
  rw [List.count_eq_zero, List.count_eq_zero]
  constructor
  · intro braceless
    exact ⟨fun member => (braceless _ member).1 rfl, fun member => (braceless _ member).2 rfl⟩
  · rintro ⟨noOpening, noClosing⟩ character member
    exact ⟨fun same => noOpening (same ▸ member), fun same => noClosing (same ▸ member)⟩

theorem braceless_replicate {character : Char} (noBrace : NoBrace character) (length : Nat) :
    Braceless (List.replicate length character) := by
  intro other member
  rw [(List.mem_replicate.mp member).2]
  exact noBrace

/-- One brace alone is not balanced. -/
theorem noBrace_of_balanced {character : Char} {text : Text} (braceless : Braceless text)
    (balanced : Balanced (character :: text)) : NoBrace character := by
  rcases braceless_iff_count.mp braceless with ⟨noOpening, noClosing⟩
  rw [Balanced, List.count_cons, List.count_cons, noOpening, noClosing] at balanced
  constructor
  · rintro rfl
    revert balanced
    decide
  · rintro rfl
    revert balanced
    decide

end Template

open Template

/-!
## Layouts
-/

namespace Layout

theorem side?_brace {mark : Char} {side : Side} (isSide : side? mark = some side) :
    NoBrace mark := by
  constructor
  · rintro rfl
    cases isSide
  · rintro rfl
    cases isSide

theorem oneOf_braceless {choices text rest : Text} {found : Option Char}
    (reads : oneOf choices text = (found, rest)) (noBrace : Braceless choices)
    (braceless : Braceless rest) : Braceless text := by
  cases text with
  | nil => cases reads; exact braceless
  | cons character others =>
      simp only [oneOf] at reads
      split at reads
      · next isChoice =>
        cases reads
        exact .cons (noBrace character (List.contains_iff_mem.mp isChoice)) braceless
      · cases reads
        exact braceless

theorem oneOf_noBrace {choices text rest : Text} {found : Char}
    (reads : oneOf choices text = (some found, rest)) (noBrace : Braceless choices) :
    NoBrace found := by
  cases text with
  | nil => cases reads
  | cons character others =>
      simp only [oneOf] at reads
      split at reads
      · next isChoice =>
        cases reads
        exact noBrace found (List.contains_iff_mem.mp isChoice)
      · cases reads

/-- Decimal digits in front of a text, whatever number they denote. -/
theorem digits_braceless {text rest : Text} {value : Option Nat}
    (reads : digits text = .ok (value, rest)) (braceless : Braceless rest) : Braceless text := by
  have isRest : rest = text.dropWhile fun character =>
      (Text.decimalValue? character).isSome := by
    simp only [digits] at reads
    split at reads
    · cases reads
      rfl
    · split at reads
      · cases reads
      · cases reads
        rfl
  have front : Braceless (text.takeWhile fun character =>
      (Text.decimalValue? character).isSome) :=
    @braceless_of_test (fun character => (Text.decimalValue? character).isSome) _ (by decide)
      (by decide) fun character member => List.all_eq_true.mp List.all_takeWhile character member
  rw [isRest] at braceless
  have whole := front.append braceless
  rwa [List.takeWhile_append_dropWhile] at whole

/-- Only the fill character of an alignment can be a brace. -/
theorem alignment_braces {text rest : Text} {fill : Option Char} {side : Option Side}
    (reads : alignment text = (fill, side, rest)) (braceless : Braceless rest) :
    match fill with
    | none => Braceless text
    | some character => ∃ others, text = character :: others ∧ Braceless others := by
  match text with
  | [] => cases reads; exact braceless
  | [mark] =>
      simp only [alignment] at reads
      split at reads
      · next isSide =>
        cases reads
        exact .cons (side?_brace isSide) braceless
      · cases reads
        exact braceless
  | character :: mark :: others =>
      simp only [alignment] at reads
      split at reads
      · next isSide =>
        cases reads
        exact ⟨_, rfl, .cons (side?_brace isSide) braceless⟩
      · split at reads
        · next isSide =>
          cases reads
          exact .cons (side?_brace isSide) braceless
        · cases reads
          exact braceless

/-- A layout for texts has a brace at most as its fill character, and then in front. -/
theorem parse_braces {written : Text} {layout : Layout} (parsed : parse written = .ok layout)
    (plain : NoBrace layout.type) :
    NoBrace layout.fill ∨ ∃ others, written = layout.fill :: others ∧ Braceless others := by
  rcases aligned : alignment written with ⟨fill, side, first⟩
  rcases signed : oneOf ['+', '-', ' '] first with ⟨sign, second⟩
  rcases marked : oneOf ['z'] second with ⟨zeroMark, third⟩
  rcases altered : oneOf ['#'] third with ⟨alternate, fourth⟩
  rcases padded : (if fill.isNone then oneOf ['0'] fourth else (none, fourth)) with ⟨zero, fifth⟩
  rcases sized : digits fifth with cause | ⟨width, sixth⟩
  · simp only [parse, aligned, signed, marked, altered, padded, sized, bind, Except.bind] at parsed
    cases parsed
  rcases separated : oneOf [',', '_'] sixth with ⟨separator, seventh⟩
  rcases pointed : oneOf ['.'] seventh with ⟨point, eighth⟩
  -- Behind the length there is at most the type.
  have ends : layout.fill = (fill.or zero).getD ' ' ∧ ∃ length last,
      (digits eighth = .ok (length, last) ∨ eighth = last) ∧
        (last = [] ∨ last = [layout.type]) := by
    simp only [parse, aligned, signed, marked, altered, padded, sized, separated, pointed, bind,
      Except.bind, pure, Except.pure, throw, throwThe, MonadExceptOf.throw] at parsed
    cases point with
    | none =>
        simp only [Option.isSome_none, Bool.false_eq_true, if_false, Bool.false_and] at parsed
        repeat' split at parsed
        all_goals cases parsed
        all_goals refine ⟨rfl, none, _, .inr rfl, ?_⟩
        all_goals first | exact .inl rfl | exact .inr rfl
    | some mark =>
        rcases lengths : digits eighth with cause | ⟨length, last⟩
        · simp only [lengths, Option.isSome_some, if_true] at parsed
          repeat' split at parsed
          all_goals cases parsed
        · simp only [lengths, Option.isSome_some, if_true] at parsed
          repeat' split at parsed
          all_goals cases parsed
          all_goals refine ⟨rfl, length, _, .inl rfl, ?_⟩
          all_goals first | exact .inl rfl | exact .inr rfl
  rcases ends with ⟨isFill, length, last, behind, atEnd⟩
  have lastBraceless : Braceless last := by
    rcases atEnd with rfl | rfl
    · intro character member
      cases member
    · exact .cons plain (by decide)
  have eighthBraceless : Braceless eighth := by
    rcases behind with reads | rfl
    · exact digits_braceless reads lastBraceless
    · exact lastBraceless
  have fifthBraceless : Braceless fifth :=
    digits_braceless sized (oneOf_braceless separated (by decide)
      (oneOf_braceless pointed (by decide) eighthBraceless))
  have fourthBraceless : Braceless fourth := by
    split at padded
    · exact oneOf_braceless padded (by decide) fifthBraceless
    · cases padded
      exact fifthBraceless
  have firstBraceless : Braceless first :=
    oneOf_braceless signed (by decide) (oneOf_braceless marked (by decide)
      (oneOf_braceless altered (by decide) fourthBraceless))
  have front := alignment_braces aligned firstBraceless
  cases fill with
  | some character =>
      rw [Option.some_or, Option.getD_some] at isFill
      rw [isFill]
      exact .inr front
  | none =>
      refine .inl ?_
      rw [Option.none_or] at isFill
      rw [isFill]
      cases zero with
      | none => exact ⟨by decide, by decide⟩
      | some found => exact oneOf_noBrace padded (by decide)

/-- A layout with as many opening as closing braces puts none in. -/
theorem apply_braceless {written content arranged : Text} (balanced : Balanced written)
    (braceless : Braceless content) (applied : apply written content = .ok arranged) :
    Braceless arranged := by
  simp only [apply, bind, Except.bind, pure, Except.pure, throw, throwThe,
    MonadExceptOf.throw] at applied
  split at applied
  · cases applied
    exact braceless
  split at applied
  · cases applied
  next layout parsed =>
  split at applied
  · cases applied
  next accepted =>
  cases applied
  have isText : layout.type = 's' := by
    have noRefusal : layout.refusal = none := by
      cases defect : layout.defect with
      | none => rwa [defect, Option.none_or] at accepted
      | some message => rw [defect] at accepted; cases accepted
    by_cases plain : layout.type = 's'
    · exact plain
    · simp [refusal, plain] at noRefusal
  have fills : NoBrace layout.fill := by
    rcases parse_braces parsed (by rw [isText]; exact ⟨by decide, by decide⟩) with
      noBrace | ⟨others, rfl, othersBraceless⟩
    · exact noBrace
    · exact noBrace_of_balanced othersBraceless balanced
  rw [arrange]
  refine ((braceless_replicate fills _).append ?_).append (braceless_replicate fills _)
  split
  · exact braceless.take _
  · exact braceless

end Layout

/-!
## What is taken from a text
-/

namespace FacetKind

theorem name_braceless (known : FacetKind) : Braceless known.name.toList := by
  cases known <;> decide

theorem shown_braceless (known : FacetKind) : Braceless known.shown := by
  have front : Braceless "<class '".toList := by decide
  have back : Braceless "'>".toList := by decide
  rw [shown, String.toList_append, String.toList_append]
  exact (front.append known.name_braceless).append back

theorem join_braceless (several : List FacetKind) :
    Braceless (Text.join ", ".toList (several.map shown)) := by
  match several with
  | [] => decide
  | [only] => exact only.shown_braceless
  | first :: second :: others =>
      exact (first.shown_braceless.append (by decide)).append (join_braceless (second :: others))

end FacetKind

namespace Facet

/-- Whether the text that a facet is has no braces.  Other facets have none anyway. -/
def Plain : Facet -> Prop
  | text content => Braceless content
  | _ => True

theorem Plain.shown_braceless {facet : Facet} (plain : facet.Plain) : Braceless facet.shown := by
  match facet with
  | text content => exact plain
  | kind known => exact known.shown_braceless
  | nothing => decide
  | kinds [] => decide
  | kinds [only] =>
      exact .cons ⟨by decide, by decide⟩ (only.shown_braceless.append (by decide))
  | kinds (first :: second :: others) =>
      exact .cons ⟨by decide, by decide⟩ ((FacetKind.join_braceless _).append (by decide))

theorem Plain.quoted_braceless {facet : Facet} (plain : facet.Plain) :
    Braceless facet.quoted := by
  cases facet with
  | text content => exact Text.braceless_quoted plain
  | kind known => exact plain.shown_braceless
  | kinds several => exact plain.shown_braceless
  | nothing => exact plain.shown_braceless

theorem plain_ofText? (known : FacetKind) : (ofText? known.description?).Plain := by
  cases known with
  | nothing => trivial
  | _ =>
      simp only [FacetKind.description?, ofText?, Plain, String.toList_append]
      -- Decoding the literals would take longer than looking at their characters.
      repeat rw [String.toList_ofList]
      decide +kernel

/-- What a facet has under a name is plain, and the name is one of a few. -/
theorem get_plain {facet found : Facet} {wanted : String} (gets : facet.get wanted = .ok found) :
    found.Plain ∧ Braceless wanted.toList := by
  have isFound : facet.get? wanted = some found := by
    unfold get at gets
    split at gets
    · next isFound => cases gets; exact isFound
    · split at gets <;> cases gets
  rcases Option.or_eq_some_iff.mp isFound with common | ⟨_, ofKind⟩
  · unfold common? at common
    split at common
    · cases common
      exact ⟨trivial, by decide⟩
    · split at common
      · cases common
        exact ⟨plain_ofText? _, by decide⟩
      · cases common
        exact ⟨plain_ofText? _, by decide⟩
    · cases common
  · split at ofKind
    · unfold ofKind? at ofKind
      split at ofKind
      · cases ofKind
        exact ⟨FacetKind.name_braceless _, by decide⟩
      · cases ofKind
        exact ⟨FacetKind.name_braceless _, by decide⟩
      · cases ofKind
        exact ⟨by unfold Plain; decide, by decide⟩
      · split at ofKind
        · cases ofKind
          exact ⟨trivial, by decide⟩
        · cases ofKind
          exact ⟨trivial, by decide⟩
      · cases ofKind
        exact ⟨trivial, by decide⟩
      · cases ofKind
        exact ⟨trivial, by decide⟩
      · cases ofKind
    · cases ofKind

/-- What a facet has at a position is plain if the facet is, and there has to be one. -/
theorem item_plain {facet found : Facet} {index? : Option Nat} (plain : facet.Plain)
    (gets : facet.item index? = .ok found) : found.Plain ∧ index? ≠ none := by
  match facet, index? with
  | text content, some index =>
      simp only [item] at gets
      split at gets
      · next character isCharacter =>
        cases gets
        exact ⟨.cons (plain character (List.mem_of_getElem? isCharacter)) (by decide),
          fun none => by cases none⟩
      · cases gets
  | kinds several, some index =>
      simp only [item] at gets
      split at gets
      · cases gets
        exact ⟨trivial, fun none => by cases none⟩
      · cases gets
  | text content, none => cases gets
  | kinds several, none => cases gets
  | kind known, index? => cases gets
  | nothing, index? => cases gets

end Facet

end SequenceCalculator
