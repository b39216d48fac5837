import Mathlib.Data.List.DropRight
import Mathlib.Data.List.Infix
import CredentialReach.Text.Blank

/-! Where a mark is found in a text. A stretch of text is clear of a mark if the mark
begins nowhere in it; what stands behind the stretch counts, since an occurrence may
reach into it. A search passes over a clear stretch. -/

namespace CredentialReach.Text

/-- No occurrence of the mark begins in the text where `rest` follows. -/
def Clear (mark : List Char) : (text rest : List Char) → Prop
  | [], _ => True
  | c :: text, rest => ¬ mark <+: c :: (text ++ rest) ∧ Clear mark text rest

variable {mark text rest more : List Char}

theorem Clear.append {first second : List Char} (clear : Clear mark first (second ++ rest))
    (later : Clear mark second rest) : Clear mark (first ++ second) rest := by
  induction first with
  | nil => exact later
  | cons c tail ih =>
    refine ⟨?_, ih clear.2⟩
    have same : (tail ++ second) ++ rest = tail ++ (second ++ rest) := List.append_assoc ..
    exact same ▸ clear.1

/-- What follows the next occurrence is too far away to count. -/
theorem Clear.change (clear : Clear mark text (mark ++ rest)) (more : List Char) :
    Clear mark text (mark ++ more) := by
  induction text with
  | nil => trivial
  | cons c tail ih =>
    refine ⟨fun starts => clear.1 ?_, ih clear.2⟩
    have reach : mark <+: c :: (tail ++ mark) :=
      List.prefix_of_prefix_length_le starts ⟨more, by simp⟩ (by simp; omega)
    exact reach.trans ⟨rest, by simp⟩

/-- The mark is found no sooner than behind the text. -/
theorem Clear.length_le {before after : List Char} (clear : Clear mark text rest)
    (found : text ++ rest = before ++ (mark ++ after)) : text.length ≤ before.length := by
  induction text generalizing before with
  | nil => exact Nat.zero_le _
  | cons c tail ih =>
    cases before with
    | nil => exact absurd ⟨after, found.symm⟩ clear.1
    | cons d before =>
      have shorter := ih clear.2 (List.cons.inj found).2
      exact Nat.succ_le_succ shorter

theorem clear_of_absent (absent : ¬ mark <:+: text) : Clear mark text [] := by
  induction text with
  | nil => trivial
  | cons c tail ih =>
    rw [List.infix_cons_iff, not_or] at absent
    exact ⟨by simpa using absent.1, ih absent.2⟩

/-- Only an empty mark begins at a character that it does not have. -/
theorem eq_nil_of_prefix_cons {c : Char} (outside : c ∉ mark) (starts : mark <+: c :: text) :
    mark = [] := by
  cases mark with
  | nil => rfl
  | cons d tail =>
    exact absurd (List.cons_prefix_cons.mp starts).1 (List.ne_of_not_mem_cons outside).symm

/-- A mark that begins before a character that it does not have ends before it. -/
theorem prefix_of_prefix_closed {c : Char} (outside : c ∉ mark)
    (starts : mark <+: text ++ c :: rest) : mark <+: text := by
  induction text generalizing mark with
  | nil => exact List.prefix_nil.mpr (eq_nil_of_prefix_cons outside starts)
  | cons d tail ih =>
    cases mark with
    | nil => exact List.nil_prefix
    | cons e others =>
      obtain ⟨rfl, later⟩ := List.cons_prefix_cons.mp starts
      exact List.cons_prefix_cons.mpr ⟨rfl, ih (List.not_mem_of_not_mem_cons outside) later⟩

/-- A character that the mark does not have shields a stretch from what follows. -/
theorem Clear.closed {c : Char} (clear : Clear mark text []) (outside : c ∉ mark) (some : mark ≠ [])
    (rest : List Char) : Clear mark (text ++ [c]) rest := by
  induction text with
  | nil => exact ⟨fun starts => some (eq_nil_of_prefix_cons outside starts), trivial⟩
  | cons d tail ih =>
    refine ⟨fun starts => clear.1 ?_, ih clear.2⟩
    have starts : mark <+: (d :: tail) ++ c :: rest := by simpa using starts
    simpa using prefix_of_prefix_closed outside starts

/-- If no end of a mark is a beginning of it, no occurrence reaches from a clear stretch into the next
occurrence. -/
theorem Clear.before_mark (clear : Clear mark text [])
    (alone : ∀ k < mark.length, 0 < k → ¬ mark.drop k <+: mark) (rest : List Char) :
    Clear mark text (mark ++ rest) := by
  induction text with
  | nil => trivial
  | cons c tail ih =>
    refine ⟨?_, ih clear.2⟩
    rintro ⟨behind, whole⟩
    rw [← List.cons_append, List.append_eq_append_iff] at whole
    rcases whole with ⟨between, longer, -⟩ | ⟨reached, cut, more⟩
    · refine clear.1 ⟨between, ?_⟩
      rw [List.append_nil, longer]
    · -- What reaches into the next occurrence is an end of the mark.
      have ends : mark.drop (c :: tail).length = reached := by rw [cut, List.drop_left]
      have starts : reached <+: mark := by
        refine List.prefix_of_prefix_length_le ⟨behind, more.symm⟩ (List.prefix_append mark rest) ?_
        rw [cut, List.length_append]
        omega
      by_cases nothing : reached = []
      · subst nothing
        rw [List.append_nil] at cut
        exact clear.1 ⟨[], by simp [cut]⟩
      · refine alone (c :: tail).length ?_ (by simp) (ends ▸ starts)
        have longer := congrArg List.length cut
        have some := List.length_pos_iff.mpr nothing
        rw [List.length_append] at longer
        omega

/-- A stretch without the first character of a mark is clear of it. -/
theorem clear_of_not_mem {c : Char} {tail : List Char} (absent : c ∉ text) (rest : List Char) :
    Clear (c :: tail) text rest := by
  induction text with
  | nil => trivial
  | cons d others ih =>
    refine ⟨fun starts => ?_, ih (List.not_mem_of_not_mem_cons absent)⟩
    exact List.ne_of_not_mem_cons absent (List.cons_prefix_cons.mp starts).1

theorem Clear.not_mem {c : Char} {rest : List Char} (clear : Clear [c] text rest) : c ∉ text := by
  induction text with
  | nil => exact List.not_mem_nil
  | cons d tail ih =>
    refine List.not_mem_cons_of_ne_of_not_mem ?_ (ih clear.2)
    rintro rfl
    exact clear.1 (List.cons_prefix_cons.mpr ⟨rfl, List.nil_prefix⟩)

/-- A text is cut in one way only at the first separator. -/
theorem append_inj_of_separator {separator : Char} {first other rest more : List Char}
    (free : separator ∉ first) (otherFree : separator ∉ other)
    (continues : ∀ c ∈ rest.head?, c = separator) (otherContinues : ∀ c ∈ more.head?, c = separator)
    (same : first ++ rest = other ++ more) : first = other ∧ rest = more := by
  induction first generalizing other with
  | nil =>
    cases other with
    | nil => exact ⟨rfl, same⟩
    | cons c _ =>
      rw [List.nil_append] at same
      subst same
      exact absurd (continues c rfl) (List.ne_of_not_mem_cons otherFree).symm
  | cons c tail ih =>
    cases other with
    | nil =>
      rw [List.nil_append] at same
      subst same
      exact absurd (otherContinues c rfl) (List.ne_of_not_mem_cons free).symm
    | cons _ _ =>
      obtain ⟨rfl, tails⟩ := List.cons.inj same
      obtain ⟨rfl, rests⟩ := ih (List.not_mem_of_not_mem_cons free)
        (List.not_mem_of_not_mem_cons otherFree) tails
      exact ⟨rfl, rests⟩

/-- So it is at the last one. -/
theorem append_inj_of_last_separator {separator : Char} {first other rest more : List Char}
    (free : separator ∉ rest) (otherFree : separator ∉ more)
    (same : first ++ separator :: rest = other ++ separator :: more) : first = other ∧ rest = more := by
  have back : rest.reverse ++ separator :: first.reverse = more.reverse ++ separator :: other.reverse := by
    simpa using congrArg List.reverse same
  obtain ⟨rests, firsts⟩ := append_inj_of_separator (by simpa using free) (by simpa using otherFree)
    (by simp) (by simp) back
  exact ⟨List.reverse_injective (List.cons.inj firsts).2, List.reverse_injective rests⟩

theorem after?_eq_some_iff : after? mark text = some rest ↔ text = mark ++ rest :=
  List.isPrefixOf?_eq_some_iff_append_eq.trans eq_comm

theorem before?_eq_some_iff : before? mark text = some rest ↔ text = rest ++ mark :=
  List.isSuffixOf?_eq_some_iff_append_eq.trans eq_comm

theorem cutAt?_mark (mark rest : List Char) : cutAt? mark (mark ++ rest) = some ([], rest) := by
  have found : after? mark (mark ++ rest) = some rest := after?_eq_some_iff.mpr rfl
  cases whole : mark ++ rest with
  | nil => rw [whole] at found; rw [cutAt?, found, Option.map_some]
  | cons c tail => rw [whole] at found; rw [cutAt?, found]

theorem cutAt?_cons_of_absent {c : Char} (starts : ¬ mark <+: c :: text) :
    cutAt? mark (c :: text) = (cutAt? mark text).map fun cut => (c :: cut.1, cut.2) := by
  cases found : after? mark (c :: text) with
  | none => rw [cutAt?, found]
  | some tail =>
    exact absurd ⟨tail, (after?_eq_some_iff.mp found).symm⟩ starts

private theorem cutAt?_clear_append (clear : Clear mark text rest) :
    cutAt? mark (text ++ rest) = (cutAt? mark rest).map fun cut => (text ++ cut.1, cut.2) := by
  induction text with
  | nil => cases found : cutAt? mark rest <;> simp [found]
  | cons c tail ih =>
    rw [List.cons_append, cutAt?_cons_of_absent clear.1, ih clear.2, Option.map_map]
    rfl

/-- The cut is made at a mark behind a clear stretch. -/
theorem cutAt?_clear (clear : Clear mark text (mark ++ rest)) :
    cutAt? mark (text ++ (mark ++ rest)) = some (text, rest) := by
  rw [cutAt?_clear_append clear, cutAt?_mark, Option.map_some, List.append_nil]

theorem cutAt?_eq_none (absent : Clear mark text []) (some : mark ≠ []) :
    cutAt? mark text = none := by
  have cut := cutAt?_clear_append absent
  rw [List.append_nil] at cut
  rw [cut]
  cases mark with
  | nil => exact absurd rfl some
  | cons c tail => rfl

/-- A cut leaves a clear stretch before the mark. -/
theorem clear_of_cutAt? {cut : List Char × List Char} (found : cutAt? mark text = some cut) :
    text = cut.1 ++ (mark ++ cut.2) ∧ Clear mark cut.1 (mark ++ cut.2) := by
  induction text generalizing cut with
  | nil =>
    obtain ⟨tail, starts, rfl⟩ := Option.map_eq_some_iff.mp found
    have whole : [] = mark ++ tail := after?_eq_some_iff.mp starts
    exact ⟨whole, trivial⟩
  | cons c tail ih =>
    by_cases starts : mark <+: c :: tail
    · obtain ⟨rest, whole⟩ := starts
      rw [← whole, cutAt?_mark] at found
      cases found
      exact ⟨whole.symm, trivial⟩
    · rw [cutAt?_cons_of_absent starts] at found
      obtain ⟨later, cutLater, rfl⟩ := Option.map_eq_some_iff.mp found
      obtain ⟨rfl, clear⟩ := ih cutLater
      exact ⟨rfl, starts, clear⟩

theorem exists_cutAt? (inside : mark <:+: text) : ∃ cut, cutAt? mark text = some cut := by
  induction text with
  | nil =>
    obtain rfl := List.infix_nil.mp inside
    exact ⟨_, rfl⟩
  | cons c tail ih =>
    by_cases starts : mark <+: c :: tail
    · obtain ⟨rest, whole⟩ := starts
      exact ⟨_, whole ▸ cutAt?_mark mark rest⟩
    · obtain ⟨cut, found⟩ := ih ((List.infix_cons_iff.mp inside).resolve_left starts)
      exact ⟨_, by rw [cutAt?_cons_of_absent starts, found, Option.map_some]⟩

variable {marks : List (List Char)}

theorem beforeAny_clear_append (clear : ∀ mark ∈ marks, Clear mark text rest) :
    beforeAny marks (text ++ rest) = text ++ beforeAny marks rest := by
  induction text with
  | nil => rfl
  | cons c tail ih =>
    have none : ¬ (marks.any fun mark => mark.isPrefixOf (c :: (tail ++ rest))) = true := by
      rw [List.any_eq_true]
      rintro ⟨mark, member, starts⟩
      exact (clear mark member).1 (List.isPrefixOf_iff_prefix.mp starts)
    rw [List.cons_append, beforeAny, if_neg none, ih fun mark member => (clear mark member).2]
    rfl

theorem beforeAny_mark (member : mark ∈ marks) (some : mark ≠ []) (rest : List Char) :
    beforeAny marks (mark ++ rest) = [] := by
  cases mark with
  | nil => exact absurd rfl some
  | cons c tail =>
    have found : (marks.any fun mark => mark.isPrefixOf (c :: (tail ++ rest))) = true :=
      List.any_eq_true.mpr ⟨_, member, List.isPrefixOf_iff_prefix.mpr (List.prefix_append ..)⟩
    rw [List.cons_append, beforeAny, if_pos found]

/-- Where a mark occurs in the text, the search stops there or before. -/
theorem beforeAny_stops (member : mark ∈ marks) (inside : mark <:+: text) (rest : List Char) :
    beforeAny marks (text ++ rest) <+: text := by
  induction text with
  | nil =>
    cases rest with
    | nil => exact List.prefix_rfl
    | cons c tail =>
      have found : (marks.any fun mark => mark.isPrefixOf (c :: tail)) = true := by
        refine List.any_eq_true.mpr ⟨mark, member, ?_⟩
        rw [List.infix_nil.mp inside]
        rfl
      rw [List.nil_append, beforeAny, if_pos found]
  | cons c tail ih =>
    rw [List.cons_append, beforeAny]
    split
    next => exact List.nil_prefix
    next none =>
      refine List.cons_prefix_cons.mpr ⟨rfl, ih ?_⟩
      refine (List.infix_cons_iff.mp inside).resolve_left fun starts => none ?_
      refine List.any_eq_true.mpr ⟨mark, member, List.isPrefixOf_iff_prefix.mpr ?_⟩
      exact starts.trans (List.prefix_append (c :: tail) rest)

theorem trimStart_blank_append (blank : ∀ c ∈ text, isBlank c = true) (rest : List Char) :
    trimStart (text ++ rest) = trimStart rest := List.dropWhile_append_of_pos blank

theorem trimStart_cons {c : Char} (blank : isBlank c = true) : trimStart (c :: rest) = trimStart rest :=
  List.dropWhile_cons_of_pos blank

theorem trimStart_of_head (bare : ∀ c ∈ text.head?, isBlank c = false) : trimStart text = text := by
  cases text with
  | nil => rfl
  | cons c tail => exact List.dropWhile_cons_of_neg (by simp [bare c rfl])

theorem trimEnd_eq (text : List Char) : trimEnd text = text.rdropWhile isBlank := rfl

theorem dropLast_eq (c : Char) (text : List Char) : dropLast c text = text.rdropWhile (· == c) := rfl

theorem rdropWhile_append {p : Char → Bool} (all : ∀ c ∈ rest, p c = true) (text : List Char) :
    (text ++ rest).rdropWhile p = text.rdropWhile p := by
  unfold List.rdropWhile
  rw [List.reverse_append, List.dropWhile_append_of_pos (by simpa using all)]

/-- What stands before a character that is kept is kept. -/
theorem rdropWhile_append_cons {p : Char → Bool} {c : Char} (kept : p c = false) (text rest : List Char) :
    (text ++ c :: rest).rdropWhile p = text ++ c :: rest.rdropWhile p := by
  induction rest using List.reverseRecOn with
  | nil => simpa using List.rdropWhile_concat_neg p text c (by simp [kept])
  | append_singleton rest d ih =>
    have same : text ++ c :: (rest ++ [d]) = (text ++ c :: rest) ++ [d] := by simp
    rw [same]
    by_cases dropped : p d
    · rw [List.rdropWhile_concat_pos p _ d dropped, List.rdropWhile_concat_pos p rest d dropped, ih]
    · rw [List.rdropWhile_concat_neg p _ d dropped, List.rdropWhile_concat_neg p rest d dropped, same]

theorem rdropWhile_of_getLast {p : Char → Bool} (kept : ∀ c ∈ text.getLast?, p c = false) :
    text.rdropWhile p = text := by
  refine List.rdropWhile_eq_self_iff.mpr fun some => ?_
  simp [kept _ (List.getLast_mem_getLast? some)]

/-- A text that neither begins nor ends with white space has none to trim. -/
theorem trim_of_ends (first : ∀ c ∈ text.head?, isBlank c = false)
    (last : ∀ c ∈ text.getLast?, isBlank c = false) : trim text = text := by
  unfold trim
  rw [trimStart_of_head first, trimEnd_eq, rdropWhile_of_getLast last]

theorem trim_blank_append (blank : ∀ c ∈ text, isBlank c = true) (rest : List Char) :
    trim (text ++ rest) = trim rest := congrArg trimEnd (trimStart_blank_append blank rest)

theorem head?_trim {c : Char} (first : c ∈ (trim text).head?) : isBlank c = false := by
  obtain ⟨dropped, whole⟩ : trim text <+: trimStart text := List.rdropWhile_prefix isBlank _
  have start := List.head?_dropWhile_not isBlank text
  have same : (trimStart text).head? = some c := by
    rw [← whole, List.head?_append, Option.mem_def.mp first, Option.some_or]
  rw [trimStart] at same
  simpa [same] using start

theorem splitWhere_append {cut : Char → Bool} {piece : List Char} {pieces : List (List Char)}
    (uncut : ∀ c ∈ text, cut c = false) (later : splitWhere cut rest = piece :: pieces) :
    splitWhere cut (text ++ rest) = (text ++ piece) :: pieces := by
  induction text with
  | nil => exact later
  | cons c tail ih =>
    have uncutTail : ∀ d ∈ tail, cut d = false := fun d member => uncut d (List.mem_cons_of_mem c member)
    rw [List.cons_append, splitWhere, uncut c List.mem_cons_self, if_neg (by decide), ih uncutTail]
    rfl

theorem words_blank_cons {c : Char} (blank : isBlank c = true) (rest : List Char) :
    words (c :: rest) = words rest := by
  unfold words
  rw [splitWhere, if_pos blank]
  rfl

theorem words_of_blank (blank : ∀ c ∈ text, isBlank c = true) : words text = [] := by
  induction text with
  | nil => rfl
  | cons c tail ih =>
    rw [words_blank_cons (blank c List.mem_cons_self)]
    exact ih fun d member => blank d (List.mem_cons_of_mem c member)

theorem flatten_splitWhere (cut : Char → Bool) (text : List Char) :
    (splitWhere cut text).flatten = text.filter fun c => !cut c := by
  induction text with
  | nil => rfl
  | cons c rest ih =>
    rw [splitWhere]
    by_cases separates : cut c
    · simp [separates, ih]
    · rw [if_neg separates]
      cases pieces : splitWhere cut rest <;> simp_all

theorem words_eq_nil_iff : words text = [] ↔ ∀ c ∈ text, isBlank c = true := by
  refine ⟨fun none => ?_, words_of_blank⟩
  have letters : (words text).flatten = text.filter fun c => !isBlank c := by
    rw [words, List.flatten_filter_not_isEmpty, flatten_splitWhere]
  rw [none, List.flatten_nil] at letters
  simpa using List.filter_eq_nil_iff.mp letters.symm

/-- A stretch without white space is a word where white space or nothing follows. -/
theorem words_append {word : List Char} (some : word ≠ []) (bare : ∀ c ∈ word, isBlank c = false)
    (ends : ∀ c ∈ rest.head?, isBlank c = true) : words (word ++ rest) = word :: words rest := by
  unfold words
  cases rest with
  | nil =>
    rw [splitWhere_append bare rfl]
    simp [splitWhere, some]
  | cons c tail =>
    have cut : splitWhere isBlank (c :: tail) = [] :: splitWhere isBlank tail := by
      rw [splitWhere, if_pos (ends c rfl)]
    rw [splitWhere_append bare cut, cut]
    simp [some]

end CredentialReach.Text
