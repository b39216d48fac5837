import CredentialReach.Proofs.StatementReading
import CredentialReach.Proofs.StatementText

/-! Reading a written list of privileges. The search for the clause behind the list heeds
no quotes: it passes over words and separators, and over a column's name if the mark of
the clause is not in it. Otherwise the list is cut short in the middle of a column list,
and reading what is left of it fails unless it happens to end in a parenthesis. -/

namespace CredentialReach.Mysql

open Text

variable {layout : Layout} {text rest first second between last : List Char}

private theorem joinWith_words_ne_nil {words : List (List Char)} (some : words ≠ [])
    (areWords : ∀ word ∈ words, IsWord word) (between : List Char) : joinWith between words ≠ [] := by
  cases words with
  | nil => exact absurd rfl some
  | cons word others =>
    have first := (areWords word List.mem_cons_self).some
    by_cases more : others = []
    · subst more; exact first
    · rw [joinWith_cons more]; simp [first]

namespace IsPhrase

variable {privilege : String}

theorem ne_nil (phrase : IsPhrase privilege) : privilege.toList ≠ [] := by
  obtain ⟨words, some, areWords, same⟩ := phrase
  exact same ▸ joinWith_words_ne_nil some areWords [' ']

theorem letters (phrase : IsPhrase privilege) {c : Char} (member : c ∈ privilege.toList) :
    c = ' ' ∨ isLetter c = true := by
  obtain ⟨words, _, areWords, same⟩ := phrase
  rw [same] at member
  rcases mem_joinWith member with space | ⟨word, listed, inside⟩
  · exact .inl (List.mem_singleton.mp space)
  · exact .inr ((areWords word listed).letters c inside)

private theorem isPlain (phrase : IsPhrase privilege) {c : Char} (member : c ∈ privilege.toList) :
    Place.IsPlain c := by
  rcases phrase.letters member with rfl | letter
  · exact Place.isPlain_of_isBlank (by decide)
  · exact isPlain_of_isLetter letter

theorem not_mem (phrase : IsPhrase privilege) {c : Char} (space : c ≠ ' ') (other : isLetter c = false) :
    c ∉ privilege.toList := fun member =>
  (phrase.letters member).elim space fun letter => ne_of_isLetter letter other rfl

theorem head (phrase : IsPhrase privilege) {c : Char} (first : c ∈ privilege.toList.head?) :
    isLetter c = true := by
  obtain ⟨words, some, areWords, same⟩ := phrase
  rw [same] at first
  cases words with
  | nil => exact absurd rfl some
  | cons word others =>
    have isWord := areWords word List.mem_cons_self
    rw [head?_joinWith isWord.some] at first
    exact isWord.letters c (List.mem_of_mem_head? first)

private theorem getLast (phrase : IsPhrase privilege) {c : Char} (last : c ∈ privilege.toList.getLast?) :
    isLetter c = true := by
  obtain ⟨words, some, areWords, same⟩ := phrase
  rw [same] at last
  clear same
  induction words with
  | nil => exact absurd rfl some
  | cons word others ih =>
    by_cases more : others = []
    · subst more
      exact (areWords word List.mem_cons_self).letters c (List.mem_of_mem_getLast? last)
    · have areOthers := fun other member => areWords other (List.mem_cons_of_mem word member)
      rw [joinWith_cons more,
        List.getLast?_append_of_ne_nil _ (joinWith_words_ne_nil more areOthers _)] at last
      exact ih last more areOthers

theorem words_append (phrase : IsPhrase privilege) (gap : Gap) :
    joinWith [' '] (words (privilege.toList ++ gap.val)) = privilege.toList := by
  obtain ⟨listed, some, areWords, same⟩ := phrase
  rw [same]
  congr 1
  clear same
  induction listed with
  | nil => exact absurd rfl some
  | cons word others ih =>
    have isWord := areWords word List.mem_cons_self
    have bare : ∀ c ∈ word, isBlank c = false := fun c member => isBlank_of_isLetter (isWord.letters c member)
    by_cases more : others = []
    · subst more
      have ends : ∀ c ∈ gap.val.head?, isBlank c = true := fun c first =>
        gap.property c (List.mem_of_mem_head? first)
      rw [joinWith, Text.words_append isWord.some bare ends, words_of_blank gap.property]
    · have later := ih more fun other member => areWords other (List.mem_cons_of_mem word member)
      have split : joinWith [' '] (word :: others) ++ gap.val =
          word ++ ' ' :: (joinWith [' '] others ++ gap.val) := by rw [joinWith_cons more]; simp
      rw [split, Text.words_append isWord.some bare (by simp; decide), words_blank_cons (by decide), later]

private theorem privilegeName_append (phrase : IsPhrase privilege) (gap : Gap) :
    Statement.privilegeName (privilege.toList ++ gap.val) = privilege := by
  have capital : ∀ c ∈ privilege.toList, c.toUpper = id c := fun c member => by
    rcases phrase.letters member with rfl | letter
    · decide
    · exact toUpper_of_isLetter letter
  unfold Statement.privilegeName
  rw [phrase.words_append, upper, List.map_congr_left capital, List.map_id, String.ofList_toList]

end IsPhrase

def Detached (rest : List Char) : Prop := ∀ c ∈ rest.head?, isLetter c = false

/-- A stretch between two words: not empty, and without letters. -/
structure IsBreak (between : List Char) : Prop where
  some : between ≠ []
  letterless : ∀ c ∈ between, isLetter c = false

theorem IsBreak.detached (separates : IsBreak between) (rest : List Char) : Detached (between ++ rest) := by
  intro c first
  rw [List.head?_append_of_ne_nil _ separates.some] at first
  exact separates.letterless c (List.mem_of_mem_head? first)

/-- The mark of the clause does not begin in the text, nor at the blank before it. -/
structure Passes (text rest : List Char) : Prop where
  clear : Clear " ON ".toList text rest
  start : ¬ ['O', 'N', ' '] <+: text ++ rest

theorem Passes.nil (detached : Detached rest) : Passes [] rest := by
  refine ⟨trivial, fun starts => ?_⟩
  obtain ⟨after, rfl⟩ := starts
  exact absurd (detached 'O' rfl) (by decide)

private theorem clear_break (separates : ∀ c ∈ between, isLetter c = false)
    (start : ¬ ['O', 'N', ' '] <+: rest) :
    Clear " ON ".toList between rest := by
  induction between with
  | nil => trivial
  | cons c tail ih =>
    have later := ih fun d member => separates d (List.mem_cons_of_mem c member)
    refine ⟨fun starts => ?_, later⟩
    have begins : ['O', 'N', ' '] <+: tail ++ rest := (List.cons_prefix_cons.mp starts).2
    cases tail with
    | nil => exact start begins
    | cons d others =>
      have same : 'O' = d := (List.cons_prefix_cons.mp begins).1
      exact absurd (separates d (List.mem_cons_of_mem c List.mem_cons_self)) (by rw [← same]; decide)

theorem Passes.append (before : Passes first (between ++ (second ++ rest))) (separates : IsBreak between)
    (behind : Passes second rest) : Passes (first ++ (between ++ second)) rest where
  clear := by
    refine .append (by simpa using before.clear) (.append ?_ behind.clear)
    exact clear_break separates.letterless behind.start
  start := by simpa using before.start

theorem Passes.joinWith {pieces : List (List Char)} (separates : IsBreak between)
    (passes : ∀ piece ∈ pieces, ∀ rest, Detached rest → Passes piece rest) (behind : Passes last rest) :
    Passes (joinWith between (pieces ++ [last])) rest := by
  induction pieces with
  | nil => exact behind
  | cons piece others ih =>
    rw [List.cons_append, joinWith_cons (by simp), List.append_assoc]
    exact (passes piece List.mem_cons_self _ (separates.detached _)).append separates
      (ih fun other member => passes other (List.mem_cons_of_mem piece member))

theorem IsWord.passes {word : List Char} (isWord : IsWord word) (detached : Detached rest) :
    Passes word rest where
  clear := clear_of_not_mem (fun space => absurd (isWord.letters ' ' space) (by decide)) rest
  start := by
    intro starts
    obtain ⟨some, letters, other⟩ := isWord
    -- The blank of the mark can stand neither in the word nor, by its letters, behind it.
    rcases word with _ | ⟨c, _ | ⟨d, _ | ⟨e, tail⟩⟩⟩
    · exact some rfl
    · obtain ⟨after, same⟩ := (List.cons_prefix_cons.mp starts).2
      have letter := detached 'N' (by rw [show rest = _ from same.symm]; rfl)
      exact absurd letter (by decide)
    · obtain ⟨first, starts⟩ := List.cons_prefix_cons.mp starts
      obtain ⟨second, starts⟩ := List.cons_prefix_cons.mp starts
      exact other (by rw [← first, ← second]; rfl)
    · have starts := (List.cons_prefix_cons.mp (List.cons_prefix_cons.mp starts).2).2
      have third := (List.cons_prefix_cons.mp starts).1
      exact absurd (letters e (by simp)) (by rw [← third]; decide)

theorem IsPhrase.passes {privilege : String} (phrase : IsPhrase privilege) (detached : Detached rest) :
    Passes privilege.toList rest := by
  obtain ⟨words, some, areWords, same⟩ := phrase
  have last := areWords _ (List.getLast_mem some)
  rw [same, ← List.dropLast_append_getLast some]
  refine .joinWith ⟨by simp, List.forall_mem_singleton.mpr (by decide)⟩
    (fun word member rest detached => ?_) (last.passes detached)
  exact (areWords word (List.dropLast_subset words member)).passes detached

theorem passes_quotedName {name : String} (absent : ¬ " ON ".toList <:+: name.toList) (rest : List Char) :
    Passes (quotedName name) rest where
  clear := clear_quoted (by decide) (by decide) absent rest
  start starts := absurd (List.cons_prefix_cons.mp starts).1 (by decide)

theorem Gap.not_mem (gap : Gap) {c : Char} (bare : isBlank c = false) : c ∉ gap.val := fun member =>
  absurd (gap.property c member) (by simp [bare])

theorem Gap.letterless (gap : Gap) : ∀ c ∈ gap.val, isLetter c = false := by
  intro c member
  by_contra letter
  have bare := isBlank_of_isLetter (by simpa using letter)
  simp [gap.property c member] at bare

theorem isBreak_comma (gap : Gap) : IsBreak (',' :: gap.val) :=
  ⟨List.cons_ne_nil _ _, List.forall_mem_cons.mpr ⟨by decide, gap.letterless⟩⟩

private theorem isBreak_opening (gap : Gap) : IsBreak (gap.val ++ ['(']) where
  some := by simp
  letterless := List.forall_mem_append.mpr ⟨gap.letterless, List.forall_mem_singleton.mpr (by decide)⟩

private theorem columnList_concat (layout : Layout) (columns : List String) (last : String) :
    layout.columnList (columns ++ [last]) = layout.beforeColumns.val ++
      '(' :: (joinWith (',' :: layout.afterComma.val)
        (columns.map quotedName ++ [quotedName last]) ++ [')']) := by
  cases columns <;> simp [Layout.columnList]

theorem sealed_gap (gap : Gap) : Sealed ',' .start gap.val :=
  sealed_of_isPlain rfl (fun c member => Place.isPlain_of_isBlank (gap.property c member)) fun c member =>
    Place.cuts_of_ne (ne_of_mem_of_not_mem member (gap.not_mem (by decide))) _

private theorem sealed_comma (gap : Gap) : Sealed ',' ⟨none, 1⟩ (',' :: gap.val) := by
  refine sealed_of_isPlain rfl ?_ fun c _ => Place.cuts_of_not_isOutside rfl ',' c
  exact List.forall_mem_cons.mpr ⟨by decide, fun c member => Place.isPlain_of_isBlank (gap.property c member)⟩

private theorem IsPhrase.sealed {privilege : String} (phrase : IsPhrase privilege) :
    Sealed ',' .start privilege.toList :=
  sealed_of_isPlain rfl (fun _ => phrase.isPlain) fun _ member =>
    Place.cuts_of_ne (ne_of_mem_of_not_mem member (phrase.not_mem (by decide) (by decide))) _

private theorem IsPhrase.opening_not_mem {privilege : String} (phrase : IsPhrase privilege) (gap : Gap) :
    '(' ∉ privilege.toList ++ gap.val := by
  rw [List.mem_append, not_or]
  exact ⟨phrase.not_mem (by decide) (by decide), gap.not_mem (by decide)⟩

private theorem IsPhrase.cutAt?_opening {privilege : String} (phrase : IsPhrase privilege) (gap : Gap)
    (rest : List Char) :
    cutAt? ['('] (privilege.toList ++ (gap.val ++ '(' :: rest)) = some (privilege.toList ++ gap.val, rest) := by
  rw [← List.append_assoc]
  exact cutAt?_clear (clear_of_not_mem (phrase.opening_not_mem gap) _)

namespace Item

variable {item : Item}

theorem passes (phrase : IsPhrase item.privilege)
    (absent : ∀ column ∈ item.columns, ¬ " ON ".toList <:+: column.toList) (detached : Detached rest) :
    Passes (item.text layout) rest := by
  unfold text
  rcases List.eq_nil_or_concat item.columns with none | ⟨columns, last, same⟩
  · rw [none, Layout.columnList, List.append_nil]
    exact phrase.passes detached
  · rw [List.concat_eq_append] at same
    rw [same] at absent ⊢
    have list : Passes (joinWith (',' :: layout.afterComma.val) (columns.map quotedName ++ [quotedName last]))
        ([')'] ++ rest) := by
      refine .joinWith (isBreak_comma _) (fun piece member rest _ => ?_) ?_
      · obtain ⟨column, listed, rfl⟩ := List.mem_map.mp member
        exact passes_quotedName (absent column (by simp [listed])) rest
      · exact passes_quotedName (absent last (by simp)) _
    have closing : IsBreak [')'] := ⟨by simp, List.forall_mem_singleton.mpr (by decide)⟩
    have closed := list.append closing (.nil detached)
    have opening := isBreak_opening layout.beforeColumns
    have whole := (phrase.passes (opening.detached _)).append opening closed
    rw [columnList_concat]
    simpa using whole

private theorem sealed_text (phrase : IsPhrase item.privilege) (layout : Layout) :
    Sealed ',' .start (item.text layout) := by
  refine phrase.sealed.append ?_
  unfold Layout.columnList
  split
  next => exact .nil
  next =>
    refine (sealed_gap _).append (sealed_parenthesized (.joinWith (sealed_comma _) ?_))
    rintro piece member
    obtain ⟨column, _, rfl⟩ := List.mem_map.mp member
    exact sealed_quotedName rfl ',' column

theorem text_ne_nil (phrase : IsPhrase item.privilege) (layout : Layout) : item.text layout ≠ [] :=
  List.append_ne_nil_of_left_ne_nil phrase.ne_nil _

private theorem isBlank_of_head? (phrase : IsPhrase item.privilege) {c : Char}
    (first : c ∈ (item.text layout).head?) : isBlank c = false := by
  rw [text, List.head?_append_of_ne_nil _ phrase.ne_nil] at first
  exact isBlank_of_isLetter (phrase.head first)

theorem trim_text (phrase : IsPhrase item.privilege) (layout : Layout) :
    trim (item.text layout) = item.text layout := by
  refine trim_of_ends (fun c => isBlank_of_head? phrase) fun c last => ?_
  unfold text Layout.columnList at last
  split at last
  next =>
    rw [List.append_nil] at last
    exact isBlank_of_isLetter (phrase.getLast last)
  next =>
    rw [← List.cons_append, ← List.append_assoc, ← List.append_assoc, List.getLast?_concat] at last
    cases last
    decide

private theorem readColumns_joinWith (layout : Layout) {columns : List String} {last : String}
    (named : ∀ column ∈ columns ++ [last], column ≠ "") :
    Statement.readColumns (joinWith (',' :: layout.afterComma.val)
      (columns.map quotedName ++ [quotedName last])) = columns ++ [last] := by
  unfold Statement.readColumns
  rw [map_splitOutside_joinWith (unquote_blank_append layout.afterComma.property) (sealed_gap _) (by decide)
    (fun piece member => ?_) (sealed_quotedName rfl ',' last).whole]
  · have kept : (columns ++ [last]).filter (fun name => !name.toList.isEmpty) = columns ++ [last] :=
      List.filter_eq_self.mpr fun column member => by simpa using named column member
    have names : (columns.map quotedName ++ [quotedName last]).map unquote =
        (columns ++ [last]).map String.toList := by
      simp [unquote_quotedName, Function.comp_def]
    rw [names, List.filter_map, List.map_map]
    simp only [Function.comp_def, String.ofList_toList, List.map_id', kept]
  · obtain ⟨column, _, rfl⟩ := List.mem_map.mp member
    exact sealed_quotedName rfl ',' column

private theorem readItem_text (phrase : IsPhrase item.privilege) (named : ∀ column ∈ item.columns, column ≠ "")
    (layout : Layout) : Statement.readItem (item.text layout) = .ok item := by
  obtain ⟨privilege, listed⟩ := item
  unfold text
  rcases List.eq_nil_or_concat listed with rfl | ⟨columns, last, same⟩
  · have name := phrase.privilegeName_append ⟨[], by simp⟩
    rw [List.append_nil] at name
    rw [Layout.columnList, List.append_nil, Statement.readItem_eq_ok_iff]
    exact ⟨_, none, .whole (phrase.not_mem (by decide) (by decide)), congrArg₂ Item.mk name.symm rfl⟩
  · rw [List.concat_eq_append] at same
    subst same
    rw [columnList_concat, ← List.append_assoc, Statement.readItem_eq_ok_iff]
    refine ⟨_, some _, .limited (phrase.opening_not_mem layout.beforeColumns), ?_⟩
    rw [phrase.privilegeName_append, Option.elim_some, readColumns_joinWith layout named]

end Item

/-- The first mark of the clause in the column's name stands behind a closing parenthesis. -/
def ClosesBeforeMark (column : String) : Prop :=
  ∃ cut ∈ cutAt? " ON ".toList column.toList, (trimEnd cut.1).getLast? = some ')'

instance (column : String) : Decidable (ClosesBeforeMark column) :=
  inferInstanceAs (Decidable (∃ cut ∈ cutAt? " ON ".toList column.toList, (trimEnd cut.1).getLast? = some ')'))

/-- What a mark inside an item leaves of it, if that is no item. -/
structure Broken (text : List Char) : Prop where
  passes : ∀ more, Passes text (" ON ".toList ++ more)
  whole : Whole ',' .start text
  some : trim text ≠ []
  fails : ∃ fault, Statement.readItem (trim text) = .error fault

private theorem exists_first {α : Type} {holds : α → Prop} {list : List α} (some : ∃ x ∈ list, holds x) :
    ∃ before x after, list = before ++ x :: after ∧ holds x ∧ ∀ y ∈ before, ¬ holds y := by
  induction list with
  | nil => simp at some
  | cons y others ih =>
    by_cases here : holds y
    · exact ⟨[], y, others, rfl, here, by simp⟩
    · have later : ∃ x ∈ others, holds x := by simpa [here] using some
      obtain ⟨before, x, after, rfl, found, none⟩ := ih later
      exact ⟨y :: before, x, after, rfl, found, List.forall_mem_cons.mpr ⟨here, none⟩⟩

/-- The inside of a quoted name up to the first mark. -/
theorem quotedName_cut {name : String} {cut : List Char × List Char}
    (found : cutAt? " ON ".toList name.toList = some cut) :
    ∃ more, quotedName name = (backtick :: doubled backtick cut.1) ++ (" ON ".toList ++ more) ∧
      ∀ more, Passes (backtick :: doubled backtick cut.1) (" ON ".toList ++ more) := by
  obtain ⟨same, clear⟩ := clear_of_cutAt? found
  have outside : backtick ∉ " ON ".toList := by decide
  refine ⟨doubled backtick cut.2 ++ [backtick], ?_, fun more => ⟨⟨?_, ?_⟩, ?_⟩⟩
  · rw [quotedName, quoted, same, doubled_append, doubled_append, doubled_of_not_mem outside]
    simp
  · exact fun starts => absurd (List.cons_prefix_cons.mp starts).1 (by decide)
  · have behind := clear.doubled outside
    rw [doubled_append, doubled_of_not_mem outside] at behind
    exact behind.change more
  · exact fun starts => absurd (List.cons_prefix_cons.mp starts).1 (by decide)

/-- A column list that is left open has no parenthesis at its end. -/
theorem before?_opened {cut : List Char} (unclosed : (trimEnd cut).getLast? ≠ some ')') (lead : List Char) :
    before? [')'] (lead ++ backtick :: trimEnd (doubled backtick cut)) = none := by
  rw [Option.eq_none_iff_forall_ne_some]
  intro list closes
  have same := (before?_eq_some_iff.mp closes).symm
  have last := congrArg List.getLast? same
  rw [List.getLast?_concat, List.getLast?_append_of_ne_nil _ (List.cons_ne_nil _ _), List.getLast?_cons,
    getLast?_trimEnd_doubled (by decide)] at last
  cases end_eq : (trimEnd cut).getLast? with
  | none => simp [end_eq, backtick] at last
  | some c => simp [end_eq] at last; exact unclosed (by rw [end_eq, last])

private theorem trim_opened {privilege : String} (phrase : IsPhrase privilege) (before : List String)
    (cut : List Char) (layout : Layout) :
    ∃ lead, trim (privilege.toList ++ (layout.beforeColumns.val ++ '(' :: joinWith
        (',' :: layout.afterComma.val) (before.map quotedName ++ [backtick :: doubled backtick cut]))) =
      privilege.toList ++ (layout.beforeColumns.val ++ '(' ::
        (lead ++ backtick :: trimEnd (doubled backtick cut))) := by
  obtain ⟨lead, lead_eq⟩ := exists_joinWith_concat (',' :: layout.afterComma.val) (before.map quotedName)
  have head (rest : List Char) : trimStart (privilege.toList ++ rest) = privilege.toList ++ rest :=
    trimStart_of_head fun c first => isBlank_of_isLetter
      (phrase.head (by rwa [List.head?_append_of_ne_nil _ phrase.ne_nil] at first))
  have cuts := rdropWhile_append_cons (p := isBlank) (c := backtick) (by decide)
    (privilege.toList ++ (layout.beforeColumns.val ++ '(' :: lead)) (doubled backtick cut)
  refine ⟨lead, ?_⟩
  rw [lead_eq, trim, head, trimEnd_eq]
  simpa [trimEnd_eq] using cuts

/-- A privilege with a column list that is left open inside a name. -/
theorem broken_opened {privilege : String} {before : List String} {cut : List Char}
    (phrase : IsPhrase privilege) (absent : ∀ column ∈ before, ¬ " ON ".toList <:+: column.toList)
    (passes : ∀ more, Passes (backtick :: doubled backtick cut) (" ON ".toList ++ more))
    (unclosed : (trimEnd cut).getLast? ≠ some ')') (layout : Layout) :
    Broken (privilege.toList ++ (layout.beforeColumns.val ++ '(' ::
      joinWith (',' :: layout.afterComma.val) (before.map quotedName ++ [backtick :: doubled backtick cut]))) := by
  have opens : Place.next .start '(' = ⟨none, 1⟩ := by decide
  obtain ⟨lead, trimmed⟩ := trim_opened phrase before cut layout
  refine ⟨fun more => ?_, ?_, ?_, ?_⟩
  · have opening := isBreak_opening layout.beforeColumns
    have list : Passes (joinWith (',' :: layout.afterComma.val)
        (before.map quotedName ++ [backtick :: doubled backtick cut])) (" ON ".toList ++ more) := by
      refine .joinWith (isBreak_comma _) (fun piece member rest _ => ?_) (passes more)
      obtain ⟨column, listed, rfl⟩ := List.mem_map.mp member
      exact passes_quotedName (absent column listed) rest
    simpa using (phrase.passes (opening.detached _)).append opening list
  · refine phrase.sealed.append_whole ((sealed_gap _).append_whole ⟨by decide, ?_⟩)
    rw [opens]
    refine .joinWith (sealed_comma _) (fun piece member => ?_) (whole_opened (by decide) rfl ',' cut)
    obtain ⟨column, _, rfl⟩ := List.mem_map.mp member
    exact sealed_quotedName rfl ',' column
  · rw [trimmed]
    exact List.append_ne_nil_of_left_ne_nil phrase.ne_nil _
  · rw [trimmed, Statement.readItem, phrase.cutAt?_opening]
    simp only [before?_opened unclosed]
    exact ⟨_, rfl⟩

private theorem Item.exists_broken {item : Item} (phrase : IsPhrase item.privilege)
    (inside : ∃ column ∈ item.columns, " ON ".toList <:+: column.toList)
    (unclosed : ∀ column ∈ item.columns, ¬ ClosesBeforeMark column) (layout : Layout) :
    ∃ broken more, item.text layout = broken ++ (" ON ".toList ++ more) ∧ Broken broken := by
  obtain ⟨before, column, after, columns, inside, absent⟩ := exists_first inside
  obtain ⟨cut, found⟩ := exists_cutAt? inside
  obtain ⟨behind, quoted_eq, passes⟩ := quotedName_cut found
  obtain ⟨more, list_eq⟩ := joinWith_cut (',' :: layout.afterComma.val) (before.map quotedName)
    (backtick :: doubled backtick cut.1) (" ON ".toList ++ behind) (after.map quotedName)
  have unclosed : (trimEnd cut.1).getLast? ≠ some ')' := fun closes =>
    unclosed column (by simp [columns]) ⟨cut, found, closes⟩
  refine ⟨_, behind ++ (more ++ [')']), ?_, broken_opened phrase absent passes unclosed layout⟩
  have listed : item.columns.map quotedName = before.map quotedName ++
      ((backtick :: doubled backtick cut.1) ++ (" ON ".toList ++ behind)) :: after.map quotedName := by
    rw [columns, ← quoted_eq, List.map_append, List.map_cons]
  unfold text Layout.columnList
  split
  next none => simp [none] at columns
  next => rw [listed, list_eq]; simp

namespace Statement

private theorem readItems_joinWith {items : List Item} (phrases : ∀ item ∈ items, IsPhrase item.privilege)
    (whole : Whole ',' .start last) (some : trim last ≠ []) (layout : Layout) :
    readItems (joinWith (',' :: layout.afterComma.val) (items.map (Item.text layout) ++ [last])) =
      (items.map (Item.text layout) ++ [trim last]).mapM readItem := by
  unfold readItems
  rw [map_splitOutside_joinWith (trim_blank_append layout.afterComma.property) (sealed_gap _) (by decide)
    (fun piece member => ?_) whole]
  · have kept : ((items.map (Item.text layout) ++ [last]).map trim).filter (fun item => !item.isEmpty) =
        items.map (Item.text layout) ++ [trim last] := by
      have trimmed : (items.map (Item.text layout)).map trim = items.map (Item.text layout) := by
        rw [List.map_map]
        exact List.map_congr_left fun item member => Item.trim_text (phrases item member) layout
      rw [List.map_append, trimmed]
      refine List.filter_eq_self.mpr fun piece member => ?_
      rcases List.mem_append.mp member with inside | final
      · obtain ⟨item, listed, rfl⟩ := List.mem_map.mp inside
        simpa using Item.text_ne_nil (phrases item listed) layout
      · simpa [List.mem_singleton.mp final] using some
    rw [kept]
  · obtain ⟨item, listed, rfl⟩ := List.mem_map.mp member
    exact Item.sealed_text (phrases item listed) layout

theorem readItems_itemsText {items : List Item} (some : items ≠ [])
    (phrases : ∀ item ∈ items, IsPhrase item.privilege)
    (named : ∀ item ∈ items, ∀ column ∈ item.columns, column ≠ "") (layout : Layout) :
    readItems (itemsText layout items) = .ok items := by
  have texts := (congrArg (List.map (Item.text layout)) (List.dropLast_append_getLast some)).symm
  have last := phrases _ (List.getLast_mem some)
  have trimmed := Item.trim_text last layout
  rw [List.map_append, List.map_singleton] at texts
  rw [itemsText, texts, readItems_joinWith (fun item member => phrases item (List.dropLast_subset items member))
    (Item.sealed_text last layout).whole (trimmed.symm ▸ Item.text_ne_nil last layout) layout, trimmed, ← texts]
  exact mapM_map_ok fun item member => Item.readItem_text (phrases item member) (named item member) layout

theorem isBlank_of_head?_itemsText {items : List Item} (some : items ≠ [])
    (phrases : ∀ item ∈ items, IsPhrase item.privilege) {c : Char}
    (first : c ∈ (itemsText layout items ++ rest).head?) : isBlank c = false := by
  obtain ⟨item, others, rfl⟩ := List.exists_cons_of_ne_nil some
  have phrase := phrases item List.mem_cons_self
  have starts : (itemsText layout (item :: others)).head? = (item.text layout).head? :=
    head?_joinWith (Item.text_ne_nil phrase layout) _ _
  have present : itemsText layout (item :: others) ≠ [] := by
    rw [Ne, ← List.head?_eq_none_iff, starts, List.head?_eq_none_iff]
    exact Item.text_ne_nil phrase layout
  rw [List.head?_append_of_ne_nil _ present, starts] at first
  exact Item.isBlank_of_head? phrase first

/-- Without the mark in a column's name, the list is read over. -/
theorem passes_itemsText {items : List Item} (some : items ≠ [])
    (phrases : ∀ item ∈ items, IsPhrase item.privilege)
    (absent : ∀ item ∈ items, ∀ column ∈ item.columns, ¬ " ON ".toList <:+: column.toList)
    (detached : Detached rest) (layout : Layout) : Passes (itemsText layout items) rest := by
  have passes : ∀ item ∈ items, ∀ rest, Detached rest → Passes (item.text layout) rest :=
    fun item member _ => Item.passes (phrases item member) (absent item member)
  rw [itemsText, ← List.dropLast_append_getLast some, List.map_append, List.map_singleton]
  refine .joinWith (isBreak_comma _) (fun piece member rest => ?_)
    (passes _ (List.getLast_mem some) rest detached)
  obtain ⟨item, listed, rfl⟩ := List.mem_map.mp member
  exact passes item (List.dropLast_subset items listed) rest

/-- With the mark in a column's name, the list is cut there and cannot be read. -/
theorem exists_cut_broken {items : List Item} (phrases : ∀ item ∈ items, IsPhrase item.privilege)
    (inside : ∃ item ∈ items, ∃ column ∈ item.columns, " ON ".toList <:+: column.toList)
    (unclosed : ∀ item ∈ items, ∀ column ∈ item.columns, ¬ ClosesBeforeMark column)
    (layout : Layout) (rest : List Char) :
    ∃ list after fault, cutAt? " ON ".toList (itemsText layout items ++ rest) = some (list, after) ∧
      readItems list = .error fault := by
  obtain ⟨before, item, after, rfl, inside, absent⟩ := exists_first inside
  have earlier : ∀ item ∈ before, IsPhrase item.privilege := fun item member => phrases item (by simp [member])
  obtain ⟨broken, behind, item_eq, isBroken⟩ :=
    item.exists_broken (phrases item (by simp)) inside (unclosed item (by simp)) layout
  obtain ⟨more, list_eq⟩ := joinWith_cut (',' :: layout.afterComma.val) (before.map (Item.text layout))
    broken (" ON ".toList ++ behind) (after.map (Item.text layout))
  have whole_eq : itemsText layout (before ++ item :: after) ++ rest =
      joinWith (',' :: layout.afterComma.val) (before.map (Item.text layout) ++ [broken]) ++
        (" ON ".toList ++ (behind ++ (more ++ rest))) := by
    rw [itemsText, List.map_append, List.map_cons, item_eq, list_eq]
    simp only [List.append_assoc]
  have passes : Passes (joinWith (',' :: layout.afterComma.val) (before.map (Item.text layout) ++ [broken]))
      (" ON ".toList ++ (behind ++ (more ++ rest))) := by
    refine .joinWith (isBreak_comma _) (fun piece member rest detached => ?_) (isBroken.passes _)
    obtain ⟨earlierItem, listed, rfl⟩ := List.mem_map.mp member
    have absent : ∀ column ∈ earlierItem.columns, ¬ " ON ".toList <:+: column.toList := by
      simpa using absent earlierItem listed
    exact Item.passes (earlier earlierItem listed) absent detached
  obtain ⟨fault, failed⟩ := isBroken.fails
  obtain ⟨first, unread⟩ := exists_mapM_error
    (List.mem_append_right (before.map (Item.text layout)) (List.mem_singleton.mpr rfl)) failed
  refine ⟨_, _, first, by rw [whole_eq]; exact cutAt?_clear passes.clear, ?_⟩
  rw [readItems_joinWith earlier isBroken.whole isBroken.some layout, unread]

end Statement

end CredentialReach.Mysql
