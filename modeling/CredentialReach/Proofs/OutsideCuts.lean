import CredentialReach.Proofs.TextPieces

/-! Where a text is split at a separator. The reader goes by a mode and a depth; the places are
described here by the text in front of them alone: it consists of plain characters and of quoted
stretches that are closed, and what stands outside these leaves no parenthesis open. -/

namespace CredentialReach.Text

variable {separator : Char} {place : Place} {text before after outside : List Char}

/-- What stands outside the quoted stretches of a text in which all of these are closed. A stretch goes
from a quote to the next one of its kind; quotes of another kind in it are plain text. -/
inductive Unquoted : List Char → List Char → Prop
  | nil : Unquoted [] []
  | bare {c : Char} {rest outside : List Char} (noQuote : c ∉ quoteMarks)
      (later : Unquoted rest outside) : Unquoted (c :: rest) (c :: outside)
  | stretch {mark : Char} {inner rest outside : List Char} (isQuote : mark ∈ quoteMarks)
      (first : mark ∉ inner) (later : Unquoted rest outside) :
      Unquoted (mark :: (inner ++ mark :: rest)) outside

/-- From wherever on the text is read, no more parentheses are opened in it than closed. So a surplus
closing one makes up for none that is opened behind it. -/
def AllClosed (outside : List Char) : Prop :=
  ∀ behind, behind <:+ outside → behind.count '(' ≤ behind.count ')'

/-- What follows the text stands outside its quoted stretches and its parentheses. -/
def EndsOutside (before : List Char) : Prop := ∃ outside, Unquoted before outside ∧ AllClosed outside

private theorem allClosed_cons {c : Char} {rest : List Char} :
    AllClosed (c :: rest) ↔
      (c :: rest).count '(' ≤ (c :: rest).count ')' ∧ AllClosed rest := by
  constructor
  · intro closed
    exact ⟨closed _ List.suffix_rfl, fun behind ends => closed behind (ends.trans (List.suffix_cons ..))⟩
  · rintro ⟨whole, closed⟩ behind ends
    rcases List.suffix_cons_iff.mp ends with rfl | later
    · exact whole
    · exact closed behind later

theorem Unquoted.noQuote (unquoted : Unquoted text outside) : ∀ c ∈ outside, c ∉ quoteMarks := by
  induction unquoted with
  | nil => simp
  | bare noQuote _ ih => exact List.forall_mem_cons.mpr ⟨noQuote, ih⟩
  | stretch _ _ _ ih => exact ih

namespace Place

theorem next_noQuote {c : Char} (noQuote : c ∉ quoteMarks) (depth : Nat) :
    next ⟨none, depth⟩ c =
      ⟨none, if c = '(' then depth + 1 else if c = ')' then depth - 1 else depth⟩ := by
  simp only [next, if_neg noQuote]
  split
  · rfl
  · split <;> rfl

private theorem after_inner {mark : Char} {inner : List Char} (absent : mark ∉ inner) (depth : Nat) :
    (⟨some mark, depth⟩ : Place).after inner = ⟨some mark, depth⟩ := by
  induction inner with
  | nil => rfl
  | cons c rest ih =>
    rw [after_cons, next_quoted (List.ne_of_not_mem_cons absent).symm,
      ih (List.not_mem_of_not_mem_cons absent)]

/-- Closed stretches leave no trace. -/
theorem after_of_unquoted (unquoted : Unquoted text outside) (depth : Nat) :
    (⟨none, depth⟩ : Place).after text = (⟨none, depth⟩ : Place).after outside := by
  induction unquoted generalizing depth with
  | nil => rfl
  | bare noQuote _ ih => rw [after_cons, after_cons, next_noQuote noQuote, ih]
  | stretch isQuote absent _ ih =>
    rw [after_cons, next_opens isQuote rfl, after_append, after_inner absent, after_cons, next_closes, ih]

/-- A reader that ends outside quotes has passed over closed stretches. Where it starts inside one, the
text begins with the end of that one. -/
theorem exists_unquoted (text : List Char) :
    (∀ depth, ((⟨none, depth⟩ : Place).after text).quote = none → ∃ outside, Unquoted text outside) ∧
      ∀ mark depth, ((⟨some mark, depth⟩ : Place).after text).quote = none →
        ∃ inner rest outside, text = inner ++ mark :: rest ∧ mark ∉ inner ∧ Unquoted rest outside := by
  induction text with
  | nil => exact ⟨fun _ _ => ⟨[], .nil⟩, fun _ _ open_ => by cases open_⟩
  | cons c rest ih =>
    obtain ⟨ihBare, ihInside⟩ := ih
    constructor
    · intro depth ends
      rw [after_cons] at ends
      by_cases isQuote : c ∈ quoteMarks
      · rw [next_opens isQuote rfl] at ends
        obtain ⟨inner, behind, outside, rfl, first, later⟩ := ihInside c depth ends
        exact ⟨outside, .stretch isQuote first later⟩
      · rw [next_noQuote isQuote] at ends
        obtain ⟨outside, later⟩ := ihBare _ ends
        exact ⟨c :: outside, .bare isQuote later⟩
    · intro mark depth ends
      rw [after_cons] at ends
      by_cases same : c = mark
      · subst same
        rw [next_closes] at ends
        obtain ⟨outside, later⟩ := ihBare depth ends
        exact ⟨[], rest, outside, rfl, List.not_mem_nil, later⟩
      · rw [next_quoted same] at ends
        obtain ⟨inner, behind, outside, rfl, first, later⟩ := ihInside mark depth ends
        exact ⟨c :: inner, behind, outside, rfl,
          List.not_mem_cons_of_ne_of_not_mem (Ne.symm same) first, later⟩

/-! The depth of the reader. It never falls below zero, so what it is in the end is decided by the
stretch behind the last surplus parenthesis. -/

private theorem after_noQuote (noQuote : ∀ c ∈ outside, c ∉ quoteMarks) (depth : Nat) :
    ∃ reached, (⟨none, depth⟩ : Place).after outside = ⟨none, reached⟩ ∧
      (reached = 0 ↔ depth + outside.count '(' ≤ outside.count ')' ∧ AllClosed outside) := by
  induction outside generalizing depth with
  | nil =>
    refine ⟨depth, rfl, ?_⟩
    simp [AllClosed]
  | cons c rest ih =>
    obtain ⟨noQuote, later⟩ := List.forall_mem_cons.mp noQuote
    obtain ⟨reached, same, zero⟩ :=
      ih later (if c = '(' then depth + 1 else if c = ')' then depth - 1 else depth)
    refine ⟨reached, by rw [after_cons, next_noQuote noQuote, same], ?_⟩
    rw [zero, allClosed_cons]
    by_cases opens : c = '('
    · subst opens
      simp only [if_true, List.count_cons_self, List.count_cons_of_ne (show '(' ≠ ')' by decide)]
      constructor
      · rintro ⟨enough, closed⟩
        exact ⟨by omega, by omega, closed⟩
      · rintro ⟨enough, -, closed⟩
        exact ⟨by omega, closed⟩
    · rw [if_neg opens, List.count_cons_of_ne opens]
      by_cases closes : c = ')'
      · subst closes
        -- The rest alone decides if the parenthesis closes nothing.
        rw [if_pos rfl, List.count_cons_self]
        constructor
        · rintro ⟨enough, closed⟩
          exact ⟨by omega, by omega, closed⟩
        · rintro ⟨enough, -, closed⟩
          have whole : rest.count '(' ≤ rest.count ')' := closed rest List.suffix_rfl
          exact ⟨by omega, closed⟩
      · rw [if_neg closes, List.count_cons_of_ne closes]
        constructor
        · rintro ⟨enough, closed⟩
          exact ⟨enough, by omega, closed⟩
        · rintro ⟨enough, -, closed⟩
          exact ⟨enough, closed⟩

theorem isOutside_after_iff : (start.after before).isOutside = true ↔ EndsOutside before := by
  simp only [isOutside, Bool.and_eq_true, Option.isNone_iff_eq_none, beq_iff_eq]
  constructor
  · rintro ⟨unquoted, level⟩
    obtain ⟨outside, unquoted⟩ := (exists_unquoted before).1 0 unquoted
    obtain ⟨reached, same, zero⟩ := after_noQuote unquoted.noQuote 0
    rw [start, after_of_unquoted unquoted, same] at level
    exact ⟨outside, unquoted, (zero.mp level).2⟩
  · rintro ⟨outside, unquoted, closed⟩
    obtain ⟨reached, same, zero⟩ := after_noQuote unquoted.noQuote 0
    rw [start, after_of_unquoted unquoted, same]
    refine ⟨rfl, zero.mpr ⟨?_, closed⟩⟩
    rw [Nat.zero_add]
    exact closed _ List.suffix_rfl

private theorem cuts_of_isPlain (plain : IsPlain separator) (c : Char) :
    place.cuts separator c = (place.isOutside && c == separator) := by
  by_cases same : c = separator
  · subst same
    simp [cuts, plain.1, plain.2.1, plain.2.2]
  · simp [cuts, same]

end Place

/-- Between two of the pieces there is a cut, with `before` in front of it and `after` behind. -/
def CutBetween (separator : Char) (pieces : List (List Char)) (before after : List Char) : Prop :=
  ∃ first later, first ≠ [] ∧ later ≠ [] ∧ pieces = first ++ later ∧
    joinWith [separator] first = before ∧ joinWith [separator] later = after

variable {piece : List Char} {pieces : List (List Char)}

private theorem not_cutBetween_single : ¬ CutBetween separator [piece] before after := by
  rintro ⟨first, later, some, more, whole, -⟩
  cases first with
  | nil => exact some rfl
  | cons head tail =>
    obtain ⟨-, none⟩ := List.cons.inj whole
    exact more (List.append_eq_nil_iff.mp none.symm).2

private theorem cutBetween_cons (more : pieces ≠ []) :
    CutBetween separator (piece :: pieces) before after ↔
      before = piece ∧ after = joinWith [separator] pieces ∨
        ∃ middle, before = piece ++ separator :: middle ∧ CutBetween separator pieces middle after := by
  constructor
  · rintro ⟨first, later, some, others, whole, rfl, rfl⟩
    cases first with
    | nil => exact absurd rfl some
    | cons head tail =>
      obtain ⟨rfl, rfl⟩ := List.cons.inj whole
      by_cases alone : tail = []
      · subst alone
        exact .inl ⟨rfl, rfl⟩
      · refine .inr ⟨joinWith [separator] tail, ?_, tail, later, alone, others, rfl, rfl, rfl⟩
        rw [joinWith_cons alone, List.append_assoc]
        rfl
  · rintro (⟨rfl, rfl⟩ | ⟨_, rfl, first, later, some, others, rfl, rfl, rfl⟩)
    · exact ⟨[before], pieces, List.cons_ne_nil _ _, more, rfl, rfl, rfl⟩
    · refine ⟨piece :: first, later, List.cons_ne_nil _ _, others, rfl, ?_, rfl⟩
      rw [joinWith_cons some, List.append_assoc]
      rfl

/-- A character more in front of the first piece. -/
theorem cutBetween_cons_cons {c : Char} :
    CutBetween separator ((c :: piece) :: pieces) before after ↔
      ∃ middle, before = c :: middle ∧ CutBetween separator (piece :: pieces) middle after := by
  by_cases more : pieces = []
  · subst more
    simp [not_cutBetween_single]
  · simp only [cutBetween_cons more]
    constructor
    · rintro (⟨rfl, rfl⟩ | ⟨middle, rfl, later⟩)
      · exact ⟨piece, rfl, .inl ⟨rfl, rfl⟩⟩
      · exact ⟨_, rfl, .inr ⟨middle, rfl, later⟩⟩
    · rintro ⟨_, rfl, ⟨rfl, rfl⟩ | ⟨middle, rfl, later⟩⟩
      · exact .inl ⟨rfl, rfl⟩
      · exact .inr ⟨middle, rfl, later⟩

private theorem joinWith_splitFrom (separator : Char) (place : Place) (text : List Char) :
    joinWith [separator] (splitFrom separator place text) = text := by
  induction text generalizing place with
  | nil => rfl
  | cons c rest ih =>
    rw [splitFrom]
    split
    next cuts =>
      have same : c = separator := by
        by_contra other
        simp [Place.cuts_of_ne other] at cuts
      rw [joinWith_cons (splitFrom_ne_nil _ _ _), ih, same]
      rfl
    next =>
      split
      next none => exact absurd none (splitFrom_ne_nil _ _ _)
      next piece pieces split => rw [joinWith_cons_cons, ← split, ih]

private theorem cutBetween_splitFrom (plain : Place.IsPlain separator) :
    CutBetween separator (splitFrom separator place text) before after ↔
      text = before ++ separator :: after ∧ (place.after before).isOutside = true := by
  induction text generalizing place before with
  | nil => simp [splitFrom, not_cutBetween_single]
  | cons c rest ih =>
    have cuts : place.cuts separator c = (place.isOutside && c == separator) := Place.cuts_of_isPlain plain c
    by_cases here : place.cuts separator c = true
    · obtain ⟨outside, same⟩ : place.isOutside = true ∧ c = separator := by simpa [cuts] using here
      subst same
      have unquoted : place.quote = none := by
        simpa using (Bool.and_eq_true_iff.mp outside).1
      have stays := Place.next_of_isPlain plain unquoted
      rw [splitFrom, if_pos here, cutBetween_cons (splitFrom_ne_nil _ _ _), joinWith_splitFrom]
      cases before with
      | nil =>
        constructor
        · rintro (⟨-, rfl⟩ | ⟨_, none, -⟩)
          · exact ⟨rfl, outside⟩
          · cases none
        · rintro ⟨same, -⟩
          exact .inl ⟨rfl, (List.cons.inj same).2.symm⟩
      | cons d middle =>
        constructor
        · rintro (⟨none, -⟩ | ⟨_, same, later⟩)
          · cases none
          · cases same
            obtain ⟨rfl, ends⟩ := ih.mp later
            exact ⟨rfl, by rwa [Place.after_cons, stays]⟩
        · rintro ⟨same, ends⟩
          obtain ⟨rfl, rfl⟩ := List.cons.inj same
          rw [Place.after_cons, stays] at ends
          exact .inr ⟨middle, rfl, ih.mpr ⟨rfl, ends⟩⟩
    · have later : CutBetween separator (splitFrom separator place (c :: rest)) before after ↔
          ∃ middle, before = c :: middle ∧
            CutBetween separator (splitFrom separator (place.next c) rest) middle after := by
        rw [splitFrom, if_neg here]
        cases split : splitFrom separator (place.next c) rest with
        | nil => exact absurd split (splitFrom_ne_nil _ _ _)
        | cons piece pieces => exact cutBetween_cons_cons
      rw [later]
      constructor
      · rintro ⟨middle, rfl, behind⟩
        obtain ⟨rfl, ends⟩ := ih.mp behind
        exact ⟨rfl, ends⟩
      · rintro ⟨same, ends⟩
        cases before with
        | nil =>
          -- A separator that stands outside is cut at.
          obtain ⟨rfl, rfl⟩ := List.cons.inj same
          have outside : place.isOutside = true := ends
          exact absurd (by simp [cuts, outside]) here
        | cons d middle =>
          obtain ⟨rfl, rfl⟩ := List.cons.inj same
          exact ⟨middle, rfl, ih.mpr ⟨rfl, ends⟩⟩

/-- Nothing is lost when a text is split: the pieces, joined with the separator, are the text. It is
cut exactly at the separators in front of which all quoted stretches and all parentheses are closed. -/
theorem splitOutside_cuts (plain : Place.IsPlain separator) (text : List Char) :
    joinWith [separator] (splitOutside separator text) = text ∧
      ∀ before after, CutBetween separator (splitOutside separator text) before after ↔
        text = before ++ separator :: after ∧ EndsOutside before := by
  refine ⟨joinWith_splitFrom separator .start text, fun before after => ?_⟩
  rw [← Place.isOutside_after_iff]
  exact cutBetween_splitFrom plain

theorem splitOutside_cuts_of_unbalanced :
    let text := "a),(b,c),'d,\"e',\"f,g".toList
    let pieces := ["a)", "(b,c)", "'d,\"e'", "\"f,g"].map String.toList
    Place.IsPlain ',' ∧ splitOutside ',' text = pieces ∧ joinWith [','] pieces = text ∧
      EndsOutside "a),(b,c)".toList ∧ ¬ EndsOutside "a),(b".toList ∧ ¬ EndsOutside "a),(b,c),'d".toList := by
  intro text pieces
  have plain : Place.IsPlain ',' := by decide
  have split : splitOutside ',' text = pieces := by decide
  obtain ⟨joined, cuts⟩ := splitOutside_cuts plain text
  rw [split] at joined cuts
  have cut : CutBetween ',' pieces "a),(b,c)".toList "'d,\"e',\"f,g".toList :=
    ⟨pieces.take 2, pieces.drop 2, by decide, by decide, by decide, by decide, by decide⟩
  refine ⟨plain, split, joined, ((cuts _ _).mp cut).2, ?_, ?_⟩ <;>
    rw [← Place.isOutside_after_iff] <;> decide

end CredentialReach.Text
