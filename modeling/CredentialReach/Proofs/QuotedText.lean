import CredentialReach.Proofs.TextMarks
import CredentialReach.Text.Quoted

/-! Names in quotes. A name is quoted by doubling the quotes in it; the reader gets it
back. A stretch that has no separator and leaves the reader where it stood is sealed: a
split takes it for a part of one piece. Quoted names are sealed, whatever is in them. -/

namespace CredentialReach.Text

def doubled (mark : Char) : List Char → List Char
  | [] => []
  | c :: rest => if c = mark then mark :: mark :: doubled mark rest else c :: doubled mark rest

def quoted (mark : Char) (name : List Char) : List Char := mark :: (doubled mark name ++ [mark])

variable {mark separator : Char} {place : Place} {text rest first second inner keyword name : List Char}

theorem doubled_self (mark : Char) (rest : List Char) :
    doubled mark (mark :: rest) = mark :: mark :: doubled mark rest := if_pos rfl

theorem doubled_other {c : Char} (other : c ≠ mark) (rest : List Char) :
    doubled mark (c :: rest) = c :: doubled mark rest := if_neg other

theorem doubled_append (mark : Char) (first second : List Char) :
    doubled mark (first ++ second) = doubled mark first ++ doubled mark second := by
  induction first with
  | nil => rfl
  | cons c tail ih =>
    by_cases same : c = mark
    · subst same
      rw [List.cons_append, doubled_self, doubled_self, ih, List.cons_append, List.cons_append]
    · rw [List.cons_append, doubled_other same, doubled_other same, ih, List.cons_append]

theorem doubled_of_not_mem (absent : mark ∉ text) : doubled mark text = text := by
  induction text with
  | nil => rfl
  | cons c tail ih =>
    rw [doubled_other (List.ne_of_not_mem_cons absent).symm, ih (List.not_mem_of_not_mem_cons absent)]

theorem undouble_eq_nil_iff : undouble mark text = [] ↔ text = [] := by
  cases text with
  | nil => exact iff_of_true rfl rfl
  | cons c rest =>
    refine iff_of_false ?_ (List.cons_ne_nil c rest)
    cases rest with
    | nil => exact List.cons_ne_nil c []
    | cons d rest =>
      rw [undouble]
      split <;> exact List.cons_ne_nil _ _

theorem between?_eq_some_iff : between? mark text = some inner ↔ text = mark :: (inner ++ [mark]) := by
  simp only [between?, Option.bind_eq_some_iff, after?_eq_some_iff, before?_eq_some_iff]
  constructor
  · rintro ⟨_, rfl, rfl⟩
    rfl
  · rintro rfl
    exact ⟨_, rfl, rfl⟩

private theorem undouble_cons {c : Char} (other : c ≠ mark) (text : List Char) :
    undouble mark (c :: text) = c :: undouble mark text := by
  cases text with
  | nil => rfl
  | cons d rest => rw [undouble, if_neg fun both => other both.1]

private theorem undouble_doubled (mark : Char) (name : List Char) : undouble mark (doubled mark name) = name := by
  induction name with
  | nil => rfl
  | cons c rest ih =>
    by_cases same : c = mark
    · subst same
      rw [doubled_self, undouble, if_pos ⟨rfl, rfl⟩, ih]
    · rw [doubled_other same, undouble_cons same, ih]

theorem forall_quoteMarks {holds : Char → Prop} (tick : holds backtick) (double : holds '"')
    (single : holds '\'') : ∀ mark ∈ quoteMarks, holds mark := by
  simpa [quoteMarks] using ⟨tick, double, single⟩

private theorem isBlank_of_mem_quoteMarks (isQuote : mark ∈ quoteMarks) : isBlank mark = false :=
  (forall_quoteMarks (by decide) (by decide) (by decide) :
    ∀ mark ∈ quoteMarks, isBlank mark = false) mark isQuote

private theorem trim_quoted (isQuote : mark ∈ quoteMarks) (name : List Char) :
    trim (quoted mark name) = quoted mark name := by
  have bare := isBlank_of_mem_quoteMarks isQuote
  refine trim_of_ends (by simpa [quoted] using bare) ?_
  rw [quoted, ← List.cons_append, List.getLast?_concat]
  simpa using bare

private theorem between?_quoted (mark : Char) (name : List Char) :
    between? mark (quoted mark name) = some (doubled mark name) := between?_eq_some_iff.mpr rfl

theorem unquote_quoted (name : List Char) : unquote (quoted backtick name) = name := by
  unfold unquote
  rw [trim_quoted (by decide)]
  simp [quoteMarks, between?_quoted, undouble_doubled]

theorem unquote_blank_append (blank : ∀ c ∈ text, isBlank c = true) (rest : List Char) :
    unquote (text ++ rest) = unquote rest := by
  unfold unquote
  rw [trim_blank_append blank]

private theorem prefix_of_prefix_doubled (outside : mark ∉ keyword)
    (starts : keyword <+: doubled mark text) : keyword <+: text := by
  induction text generalizing keyword with
  | nil => exact starts
  | cons c tail ih =>
    cases keyword with
    | nil => exact List.nil_prefix
    | cons k others =>
      by_cases same : c = mark
      · subst same
        rw [doubled_self] at starts
        cases eq_nil_of_prefix_cons outside starts
      · rw [doubled_other same] at starts
        obtain ⟨rfl, later⟩ := List.cons_prefix_cons.mp starts
        exact List.cons_prefix_cons.mpr ⟨rfl, ih (List.not_mem_of_not_mem_cons outside) later⟩

theorem Clear.doubled (clear : Clear keyword text rest) (outside : mark ∉ keyword) :
    Clear keyword (doubled mark text) (Text.doubled mark rest) := by
  induction text with
  | nil => trivial
  | cons c tail ih =>
    have atQuote (more : List Char) : ¬ keyword <+: mark :: more := fun starts => clear.1 <| by
      rw [eq_nil_of_prefix_cons outside starts]
      exact List.nil_prefix
    by_cases same : c = mark
    · subst same
      rw [doubled_self]
      exact ⟨atQuote _, atQuote _, ih clear.2⟩
    · rw [doubled_other same]
      refine ⟨fun starts => clear.1 ?_, ih clear.2⟩
      rw [← doubled_append, ← doubled_other same] at starts
      exact prefix_of_prefix_doubled outside starts

theorem clear_quoted (outside : mark ∉ keyword) (some : keyword ≠ []) (absent : ¬ keyword <:+: name)
    (rest : List Char) : Clear keyword (quoted mark name) rest := by
  refine ⟨fun starts => some (eq_nil_of_prefix_cons outside starts), ?_⟩
  exact ((clear_of_absent absent).doubled outside).closed outside some rest

theorem infix_doubled (outside : mark ∉ keyword) (inside : keyword <:+: name) :
    keyword <:+: doubled mark name := by
  obtain ⟨before, after, rfl⟩ := inside
  rw [doubled_append, doubled_append, doubled_of_not_mem outside]
  exact ⟨_, _, rfl⟩

/-- Doubling keeps how a text ends, white space apart. -/
theorem getLast?_trimEnd_doubled (bare : isBlank mark = false) (text : List Char) :
    (trimEnd (doubled mark text)).getLast? = (trimEnd text).getLast? := by
  induction text using List.reverseRecOn with
  | nil => rfl
  | append_singleton text c ih =>
    simp only [trimEnd_eq] at ih ⊢
    rw [doubled_append]
    by_cases blank : isBlank c = true
    · have other : c ≠ mark := fun same => by simp [same, bare] at blank
      rw [doubled_other other, doubled, List.rdropWhile_concat_pos _ _ _ blank,
        List.rdropWhile_concat_pos _ _ _ blank, ih]
    · have last : (doubled mark text ++ doubled mark [c]).getLast? = some c := by
        by_cases same : c = mark
        · subst same; simp [doubled]
        · simp [doubled, same]
      rw [List.rdropWhile_concat_neg _ _ _ blank, List.getLast?_concat, rdropWhile_of_getLast, last]
      simpa [last] using blank

namespace Place

def after (place : Place) (text : List Char) : Place := text.foldl next place

@[simp] theorem after_nil (place : Place) : place.after [] = place := rfl

@[simp] theorem after_cons (place : Place) (c : Char) (rest : List Char) :
    place.after (c :: rest) = (place.next c).after rest := rfl

theorem after_append (place : Place) (first second : List Char) :
    place.after (first ++ second) = (place.after first).after second := List.foldl_append ..

theorem cuts_of_mem_quoteMarks {c : Char} (isQuote : c ∈ quoteMarks) (place : Place) (separator : Char) :
    place.cuts separator c = false := by simp [cuts, isQuote]

theorem cuts_of_ne {c : Char} (other : c ≠ separator) (place : Place) : place.cuts separator c = false := by
  simp [cuts, other]

theorem cuts_of_not_isOutside (inside : place.isOutside = false) (separator c : Char) :
    place.cuts separator c = false := by simp [cuts, inside]

theorem next_opens {c : Char} (isQuote : c ∈ quoteMarks) (unquoted : place.quote = none) :
    place.next c = ⟨some c, place.depth⟩ := by simp [next, unquoted, isQuote]

theorem next_closes (mark : Char) (depth : Nat) : next ⟨some mark, depth⟩ mark = ⟨none, depth⟩ := by
  simp [next]

theorem next_quoted {c : Char} (other : c ≠ mark) (depth : Nat) :
    next ⟨some mark, depth⟩ c = ⟨some mark, depth⟩ := by simp [next, other]

def IsPlain (c : Char) : Prop := c ∉ quoteMarks ∧ c ≠ '(' ∧ c ≠ ')'

instance (c : Char) : Decidable (IsPlain c) :=
  inferInstanceAs (Decidable (c ∉ quoteMarks ∧ c ≠ '(' ∧ c ≠ ')'))

theorem isPlain_of_isBlank {c : Char} (blank : isBlank c = true) : IsPlain c := by
  refine ⟨fun isQuote => ?_, ?_, ?_⟩
  · exact absurd (isBlank_of_mem_quoteMarks isQuote) (by simp [blank])
  all_goals
    rintro rfl
    revert blank
    decide

theorem next_of_isPlain {c : Char} (plain : IsPlain c) (unquoted : place.quote = none) :
    place.next c = place := by simp [next, unquoted, plain.1, plain.2.1, plain.2.2]

end Place

/-- Nothing in the text separates, read from `place` on. -/
def Whole (separator : Char) : Place → List Char → Prop
  | _, [] => True
  | place, c :: rest => place.cuts separator c = false ∧ Whole separator (place.next c) rest

theorem whole_append :
    Whole separator place (first ++ second) ↔
      Whole separator place first ∧ Whole separator (place.after first) second := by
  induction first generalizing place with
  | nil => exact iff_of_eq (true_and _).symm
  | cons c tail ih =>
    rw [List.cons_append, Whole, Whole, ih, Place.after_cons, and_assoc]

theorem Whole.shorter (whole : Whole separator place text) (starts : first <+: text) :
    Whole separator place first := by
  obtain ⟨second, rfl⟩ := starts
  exact (whole_append.mp whole).1

theorem splitFrom_ne_nil (separator : Char) (place : Place) (text : List Char) :
    splitFrom separator place text ≠ [] := by
  cases text with
  | nil => exact List.cons_ne_nil _ _
  | cons c rest =>
    rw [splitFrom]
    split
    next => exact List.cons_ne_nil _ _
    next => split <;> exact List.cons_ne_nil _ _

theorem splitFrom_append_of_whole {piece : List Char} {pieces : List (List Char)}
    (whole : Whole separator place text)
    (later : splitFrom separator (place.after text) rest = piece :: pieces) :
    splitFrom separator place (text ++ rest) = (text ++ piece) :: pieces := by
  induction text generalizing place with
  | nil => exact later
  | cons c tail ih =>
    rw [List.cons_append, splitFrom, whole.1, if_neg (by decide), ih whole.2 later]
    rfl

theorem splitOutside_of_whole (whole : Whole separator .start text) :
    splitOutside separator text = [text] := by
  have split : splitFrom separator .start (text ++ []) = [text ++ []] := splitFrom_append_of_whole whole rfl
  rwa [List.append_nil] at split

/-- Read from `place`, the text has no separator and ends where it began. -/
structure Sealed (separator : Char) (place : Place) (text : List Char) : Prop where
  whole : Whole separator place text
  returns : place.after text = place

theorem Sealed.nil : Sealed separator place [] := ⟨trivial, rfl⟩

theorem Sealed.append (before : Sealed separator place first) (behind : Sealed separator place second) :
    Sealed separator place (first ++ second) where
  whole := whole_append.mpr ⟨before.whole, before.returns.symm ▸ behind.whole⟩
  returns := by rw [Place.after_append, before.returns, behind.returns]

theorem Sealed.append_whole (before : Sealed separator place first)
    (behind : Whole separator place second) : Whole separator place (first ++ second) :=
  whole_append.mpr ⟨before.whole, before.returns.symm ▸ behind⟩

theorem sealed_of_isPlain (unquoted : place.quote = none) (plain : ∀ c ∈ text, Place.IsPlain c)
    (uncut : ∀ c ∈ text, place.cuts separator c = false) : Sealed separator place text := by
  induction text with
  | nil => exact .nil
  | cons c tail ih =>
    have stays := Place.next_of_isPlain (plain c List.mem_cons_self) unquoted
    have later := ih (fun d member => plain d (List.mem_cons_of_mem c member))
      (fun d member => uncut d (List.mem_cons_of_mem c member))
    exact ⟨⟨uncut c List.mem_cons_self, stays.symm ▸ later.whole⟩, by
      rw [Place.after_cons, stays, later.returns]⟩

/-- Inside quotes, doubled quotes close and open again at once. -/
theorem sealed_doubled (isQuote : mark ∈ quoteMarks) (separator : Char) (depth : Nat) (name : List Char) :
    Sealed separator ⟨some mark, depth⟩ (doubled mark name) := by
  induction name with
  | nil => exact .nil
  | cons c rest ih =>
    by_cases same : c = mark
    · subst same
      have closes := Place.next_closes c depth
      have opens : Place.next ⟨none, depth⟩ c = ⟨some c, depth⟩ := Place.next_opens isQuote rfl
      rw [doubled_self]
      refine ⟨⟨Place.cuts_of_mem_quoteMarks isQuote _ _, ?_⟩, ?_⟩
      · rw [closes]
        exact ⟨Place.cuts_of_mem_quoteMarks isQuote _ _, opens.symm ▸ ih.whole⟩
      · rw [Place.after_cons, closes, Place.after_cons, opens, ih.returns]
    · have stays := Place.next_quoted same depth
      rw [doubled_other same]
      refine ⟨⟨Place.cuts_of_not_isOutside rfl _ _, stays.symm ▸ ih.whole⟩, ?_⟩
      rw [Place.after_cons, stays, ih.returns]

/-- An opened quotation, closed or not. -/
theorem whole_opened (isQuote : mark ∈ quoteMarks) (unquoted : place.quote = none) (separator : Char)
    (name : List Char) : Whole separator place (mark :: doubled mark name) := by
  refine ⟨Place.cuts_of_mem_quoteMarks isQuote _ _, ?_⟩
  rw [Place.next_opens isQuote unquoted]
  exact (sealed_doubled isQuote separator place.depth name).whole

theorem sealed_quoted (isQuote : mark ∈ quoteMarks) (unquoted : place.quote = none) (separator : Char)
    (name : List Char) : Sealed separator place (quoted mark name) := by
  have inside := sealed_doubled isQuote separator place.depth name
  have place_eq : (⟨none, place.depth⟩ : Place) = place := by rw [← unquoted]
  refine ⟨⟨Place.cuts_of_mem_quoteMarks isQuote _ _, ?_⟩, ?_⟩
  · rw [Place.next_opens isQuote unquoted]
    exact inside.append_whole ⟨Place.cuts_of_mem_quoteMarks isQuote _ _, trivial⟩
  · rw [quoted, Place.after_cons, Place.next_opens isQuote unquoted, Place.after_append,
      inside.returns, Place.after_cons, Place.next_closes, Place.after_nil, place_eq]

theorem sealed_parenthesized (inside : Sealed separator ⟨none, 1⟩ text) :
    Sealed separator .start ('(' :: (text ++ [')'])) := by
  have opens : Place.next .start '(' = ⟨none, 1⟩ := by decide
  have closes : Place.next ⟨none, 1⟩ ')' = .start := by decide
  refine ⟨⟨by simp [Place.cuts], ?_⟩, ?_⟩
  · rw [opens]
    exact inside.append_whole ⟨by simp [Place.cuts], trivial⟩
  · rw [Place.after_cons, opens, Place.after_append, inside.returns, Place.after_cons, closes,
      Place.after_nil]

/-- A sealed stretch before a separator is one piece. -/
theorem splitOutside_sealed (before : Sealed separator .start text)
    (cuts : Place.start.cuts separator separator = true) (rest : List Char) :
    splitOutside separator (text ++ separator :: rest) = text :: splitOutside separator rest := by
  have later : splitFrom separator (Place.start.after text) (separator :: rest) =
      [] :: splitOutside separator rest := by
    rw [before.returns, splitFrom, if_pos cuts]
    rfl
  have split := splitFrom_append_of_whole before.whole later
  rwa [List.append_nil] at split

theorem joinWith_cons {piece : List Char} {pieces : List (List Char)} (more : pieces ≠ [])
    (between : List Char) :
    joinWith between (piece :: pieces) = piece ++ between ++ joinWith between pieces := by
  cases pieces with
  | nil => exact absurd rfl more
  | cons next others => rfl

theorem head?_joinWith {piece : List Char} (some : piece ≠ []) (between : List Char)
    (pieces : List (List Char)) : (joinWith between (piece :: pieces)).head? = piece.head? := by
  by_cases more : pieces = []
  · subst more; rfl
  · rw [joinWith_cons more, List.append_assoc, List.head?_append_of_ne_nil _ some]

theorem mem_joinWith {between : List Char} {pieces : List (List Char)} {c : Char}
    (member : c ∈ joinWith between pieces) : c ∈ between ∨ ∃ piece ∈ pieces, c ∈ piece := by
  induction pieces with
  | nil => cases member
  | cons piece others ih =>
    by_cases more : others = []
    · subst more
      exact .inr ⟨piece, List.mem_cons_self, member⟩
    · rw [joinWith_cons more, List.append_assoc] at member
      rcases List.mem_append.mp member with inside | later
      · exact .inr ⟨piece, List.mem_cons_self, inside⟩
      · rcases List.mem_append.mp later with inside | later
        · exact .inl inside
        · rcases ih later with inside | ⟨other, listed, inside⟩
          · exact .inl inside
          · exact .inr ⟨other, List.mem_cons_of_mem piece listed, inside⟩

theorem Sealed.joinWith {between : List Char} {pieces : List (List Char)}
    (apart : Sealed separator place between) (closed : ∀ piece ∈ pieces, Sealed separator place piece) :
    Sealed separator place (joinWith between pieces) := by
  induction pieces with
  | nil => exact .nil
  | cons piece others ih =>
    by_cases more : others = []
    · subst more
      exact closed piece List.mem_cons_self
    · rw [joinWith_cons more]
      have later := ih fun other member => closed other (List.mem_cons_of_mem piece member)
      exact ((closed piece List.mem_cons_self).append apart).append later

/-- What stands before the last piece does not depend on that piece. -/
theorem exists_joinWith_concat (between : List Char) (pieces : List (List Char)) :
    ∃ lead, ∀ last, joinWith between (pieces ++ [last]) = lead ++ last := by
  induction pieces with
  | nil => exact ⟨[], fun _ => rfl⟩
  | cons piece others ih =>
    obtain ⟨lead, same⟩ := ih
    refine ⟨piece ++ between ++ lead, fun last => ?_⟩
    rw [List.cons_append, joinWith_cons (by simp), same, List.append_assoc _ lead]

theorem joinWith_cut (between : List Char) (before : List (List Char)) (first second : List Char)
    (after : List (List Char)) :
    ∃ more, joinWith between (before ++ (first ++ second) :: after) =
      joinWith between (before ++ [first]) ++ (second ++ more) := by
  induction before with
  | nil =>
    by_cases later : after = []
    · subst later
      exact ⟨[], by simp [joinWith]⟩
    · exact ⟨between ++ joinWith between after, by simp [joinWith_cons later, joinWith]⟩
  | cons piece others ih =>
    obtain ⟨more, same⟩ := ih
    refine ⟨more, ?_⟩
    rw [List.cons_append, List.cons_append, joinWith_cons (by simp), joinWith_cons (by simp), same]
    simp

theorem Whole.joinWith {between last : List Char} {pieces : List (List Char)}
    (apart : Sealed separator place between) (closed : ∀ piece ∈ pieces, Sealed separator place piece)
    (whole : Whole separator place last) : Whole separator place (joinWith between (pieces ++ [last])) := by
  induction pieces with
  | nil => exact whole
  | cons piece others ih =>
    rw [List.cons_append, joinWith_cons (by simp)]
    exact ((closed piece List.mem_cons_self).append apart).append_whole
      (ih fun other member => closed other (List.mem_cons_of_mem piece member))

/-- A reading that passes over what a sealed stretch puts before a text passes over it in
the first piece. -/
theorem map_splitOutside_append {α : Type} {read : List Char → α} {gap : List Char}
    (skips : ∀ piece, read (gap ++ piece) = read piece) (before : Sealed separator .start gap)
    (text : List Char) :
    (splitOutside separator (gap ++ text)).map read = (splitOutside separator text).map read := by
  unfold splitOutside
  cases split : splitFrom separator .start text with
  | nil => exact absurd split (splitFrom_ne_nil _ _ _)
  | cons piece others =>
    rw [splitFrom_append_of_whole before.whole (before.returns.symm ▸ split), List.map_cons,
      List.map_cons, skips]

/-- The pieces of a list that is written with a separator and a gap between them, to a
reading that passes over the gap. The last piece may be left open. -/
theorem map_splitOutside_joinWith {α : Type} {read : List Char → α} {gap last : List Char}
    {pieces : List (List Char)} (skips : ∀ piece, read (gap ++ piece) = read piece)
    (between : Sealed separator .start gap) (cuts : Place.start.cuts separator separator = true)
    (closed : ∀ piece ∈ pieces, Sealed separator .start piece) (whole : Whole separator .start last) :
    (splitOutside separator (joinWith (separator :: gap) (pieces ++ [last]))).map read =
      (pieces ++ [last]).map read := by
  induction pieces with
  | nil => rw [List.nil_append, joinWith, splitOutside_of_whole whole]
  | cons piece others ih =>
    have more : others ++ [last] ≠ [] := by simp
    have joined : joinWith (separator :: gap) (piece :: (others ++ [last])) =
        piece ++ separator :: (gap ++ joinWith (separator :: gap) (others ++ [last])) := by
      rw [joinWith_cons more]; simp
    rw [List.cons_append, joined, splitOutside_sealed (closed piece List.mem_cons_self) cuts,
      List.map_cons, map_splitOutside_append skips between,
      ih fun other member => closed other (List.mem_cons_of_mem piece member), List.map_cons]

end CredentialReach.Text
