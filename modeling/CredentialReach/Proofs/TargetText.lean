import CredentialReach.Proofs.StatementText

/-! Reading a written target. The search for the account heeds no quotes: the word before
an account, inside the name of a database, leaves an open quotation, which is no path. A
quoted star is a star to the reader. -/

namespace CredentialReach.Mysql

open Text Statement

variable {rest : List Char}

def announcement : Option RoutineKind → List Char
  | none => []
  | some kind => kind.keyword.toList ++ [' ']

private theorem readObjectType_path {c : Char} (isMark : c ∈ [backtick, '*']) (rest : List Char) :
    readObjectType (c :: rest) = (none, c :: rest) := by
  have others : ∀ mark ∈ [backtick, '*'], mark.toLower ≠ 'P'.toLower ∧ mark.toLower ≠ 'F'.toLower ∧
      mark.toLower ≠ 'T'.toLower :=
    List.forall_mem_cons.mpr ⟨by decide, List.forall_mem_singleton.mpr (by decide)⟩
  obtain ⟨procedure, function, table⟩ := others c isMark
  have noProcedure : afterKeyword? "PROCEDURE".toList (c :: rest) = none := afterKeyword?_of_head procedure _ _
  have noFunction : afterKeyword? "FUNCTION".toList (c :: rest) = none := afterKeyword?_of_head function _ _
  have noTable : afterKeyword? "TABLE".toList (c :: rest) = none := afterKeyword?_of_head table _ _
  rw [readObjectType, noProcedure, noFunction, noTable]
  rfl

private theorem readObjectType_announced (kind : Option RoutineKind) (rest : List Char) :
    readObjectType (announcement kind ++ backtick :: rest) = (kind, backtick :: rest) := by
  have bare : ∀ c ∈ (backtick :: rest).head?, isBlank c = false := by simp; decide
  rcases kind with _ | _ | _
  · exact readObjectType_path (by decide) rest
  · have read := afterKeyword?_append "PROCEDURE".toList bare
    rw [announcement, List.append_assoc]
    unfold readObjectType
    rw [show RoutineKind.procedure.keyword.toList ++ ([' '] ++ backtick :: rest) =
      "PROCEDURE".toList ++ ' ' :: backtick :: rest from rfl, read]
  · have read := afterKeyword?_append "FUNCTION".toList bare
    have noProcedure : afterKeyword? "PROCEDURE".toList ("FUNCTION".toList ++ ' ' :: backtick :: rest) = none :=
      afterKeyword?_of_head (by decide) _ _
    rw [announcement, List.append_assoc]
    unfold readObjectType
    rw [show RoutineKind.function.keyword.toList ++ ([' '] ++ backtick :: rest) =
      "FUNCTION".toList ++ ' ' :: backtick :: rest from rfl, noProcedure, read]

/-- With its backticks left out, the text of the target is that of a wider one. -/
def Target.LooksWider : Target → Prop
  | database name | table _ name => name = "*"
  | everything | routine .. => False

instance (target : Target) : Decidable target.LooksWider := by
  unfold Target.LooksWider
  split <;> infer_instance

def Target.object? : Target → Option String
  | table _ name | routine _ _ name => some name
  | everything | database _ => none

theorem Target.mem_names {target : Target} {name : String} :
    name ∈ target.names ↔ target.database? = some name ∨ target.object? = some name := by
  cases target <;> simp [names, database?, object?, eq_comm]

theorem Target.star_mem_names {target : Target} (wider : target.LooksWider) : "*" ∈ target.names := by
  cases target with
  | everything | routine => cases wider
  | database name => exact List.mem_singleton.mpr (Eq.symm wider)
  | table holder name => exact List.mem_cons_of_mem _ (List.mem_singleton.mpr (Eq.symm wider))

/-- A target below the server announces itself and names its database first. -/
theorem Target.exists_path {target : Target} {holder : String} (below : target.database? = some holder) :
    ∃ kind tail, target.text = announcement kind ++ (quotedName holder ++ tail) := by
  cases target with
  | everything => cases below
  | database name => cases below; exact ⟨none, _, rfl⟩
  | table _ name => cases below; exact ⟨none, _, rfl⟩
  | routine kind _ name =>
    cases below
    exact ⟨some kind, '.' :: quotedName name, by simp [text, announcement]⟩

private theorem splitOutside_path (holder : String) {object : List Char} (whole : Whole '.' .start object) :
    splitOutside '.' (quotedName holder ++ '.' :: object) = [quotedName holder, object] := by
  rw [splitOutside_sealed (sealed_quotedName rfl '.' holder) (by decide), splitOutside_of_whole whole]

/-- What two names stand for, of which either may be a star. -/
def Target.ofNames? (kind : Option RoutineKind) (holder name : String) : Option Target :=
  match kind with
  | some kind => if holder = "*" ∨ name = "*" then none else some (.routine kind holder name)
  | none =>
    if name = "*" then some (if holder = "*" then .everything else .database holder)
    else if holder = "*" then none
    else some (.table holder name)

theorem readTarget_path (kind : Option RoutineKind) {holder name : String} {object : List Char}
    (whole : Whole '.' .start object) (reads : unquote object = name.toList) (held : holder ≠ "")
    (named : name ≠ "") :
    (readTarget (announcement kind ++ (quotedName holder ++ '.' :: object))).toOption =
      Target.ofNames? kind holder name := by
  have path : readObjectType (announcement kind ++ (quotedName holder ++ '.' :: object)) =
      (kind, quotedName holder ++ '.' :: object) := readObjectType_announced kind _
  unfold readTarget
  simp only [path, splitOutside_path holder whole, unquote_quotedName, reads, String.ofList_toList]
  by_cases star : holder = "*" <;> by_cases object : name = "*" <;> cases kind <;>
    simp [Target.ofNames?, star, object, held, named, Except.toOption]

private theorem whole_star : Whole '.' .start ['*'] := ⟨by decide, trivial⟩

/-- Only a quoted star keeps a target from being read as it was written. -/
theorem readTarget_text {target : Target} (named : ∀ name ∈ target.names, name ≠ "")
    (narrow : ¬ target.LooksWider) :
    (readTarget target.text).toOption = some target ∨
      ((readTarget target.text).toOption = none ∧ "*" ∈ target.names) := by
  cases target with
  | everything => exact .inl rfl
  | database name =>
    have read : (readTarget (announcement none ++ (quotedName name ++ '.' :: ['*']))).toOption =
        Target.ofNames? none name "*" :=
      readTarget_path none whole_star (by decide) (named name (by simp [Target.names])) (by decide)
    have unstarred : name ≠ "*" := narrow
    refine .inl (Eq.trans read ?_)
    simp [Target.ofNames?, unstarred]
  | table holder name =>
    have read := readTarget_path none (sealed_quotedName rfl '.' name).whole (unquote_quotedName name)
      (named holder (by simp [Target.names])) (named name (by simp [Target.names]))
    have unstarred : name ≠ "*" := narrow
    by_cases star : holder = "*"
    · exact .inr ⟨Eq.trans read (by simp [Target.ofNames?, unstarred, star]), by simp [Target.names, star]⟩
    · exact .inl (Eq.trans read (by simp [Target.ofNames?, unstarred, star]))
  | routine kind holder name =>
    have read := readTarget_path (some kind) (sealed_quotedName rfl '.' name).whole (unquote_quotedName name)
      (named holder (by simp [Target.names])) (named name (by simp [Target.names]))
    have same : (Target.routine kind holder name).text =
        announcement (some kind) ++ (quotedName holder ++ '.' :: quotedName name) := by
      simp [Target.text, announcement]
    rw [same, read]
    by_cases star : holder = "*" ∨ name = "*"
    · exact .inr ⟨by simp [Target.ofNames?, star], by simpa [Target.names, eq_comm] using star⟩
    · exact .inl (by simp [Target.ofNames?, star])

theorem clear_clauseEnds {mark : List Char} (isEnd : mark ∈ clauseEnds) {text : List Char}
    (spaceless : ' ' ∉ text) (rest : List Char) : Clear mark text rest := by
  simp only [clauseEnds, List.mem_cons, List.not_mem_nil, or_false] at isEnd
  rcases isEnd with rfl | rfl <;> exact clear_of_not_mem spaceless rest

private theorem clear_announcement {mark : List Char} (isEnd : mark ∈ clauseEnds) (kind : Option RoutineKind)
    (rest : List Char) : Clear mark (announcement kind) (backtick :: rest) := by
  cases kind with
  | none => trivial
  | some kind =>
    refine .append (clear_clauseEnds isEnd (by cases kind <;> decide) _) ⟨fun starts => ?_, trivial⟩
    simp only [clauseEnds, List.mem_cons, List.not_mem_nil, or_false] at isEnd
    rcases isEnd with rfl | rfl
    all_goals exact absurd (List.cons_prefix_cons.mp (List.cons_prefix_cons.mp starts).2).1 (by decide)

private theorem backtick_not_mem_clauseEnds {mark : List Char} (isEnd : mark ∈ clauseEnds) : backtick ∉ mark :=
  (by decide : ∀ mark ∈ clauseEnds, backtick ∉ mark) mark isEnd

private theorem clauseEnds_ne_nil {mark : List Char} (isEnd : mark ∈ clauseEnds) : mark ≠ [] :=
  (by decide : ∀ mark ∈ clauseEnds, mark ≠ []) mark isEnd

def Unmarked (name : String) : Prop := ∀ mark ∈ clauseEnds, ¬ mark <:+: name.toList

instance (name : String) : Decidable (Unmarked name) :=
  inferInstanceAs (Decidable (∀ mark ∈ clauseEnds, ¬ mark <:+: name.toList))

theorem Unmarked.clear {name : String} (unmarked : Unmarked name) {mark : List Char}
    (isEnd : mark ∈ clauseEnds) (rest : List Char) : Clear mark (quotedName name) rest :=
  clear_quoted (backtick_not_mem_clauseEnds isEnd) (clauseEnds_ne_nil isEnd) (unmarked mark isEnd) rest

private theorem Target.clear_text {target : Target} (unmarked : ∀ name ∈ target.names, Unmarked name)
    {mark : List Char} (isEnd : mark ∈ clauseEnds) (rest : List Char) : Clear mark target.text rest := by
  have clearDot {rest : List Char} : Clear mark ['.'] rest := clear_clauseEnds isEnd (by decide) rest
  cases target with
  | everything => exact clear_clauseEnds isEnd (by decide) rest
  | database name =>
    exact .append ((unmarked name (by simp [names])).clear isEnd _) (clear_clauseEnds isEnd (by decide) rest)
  | table holder name =>
    exact .append ((unmarked holder (by simp [names])).clear isEnd _)
      (.append clearDot ((unmarked name (by simp [names])).clear isEnd rest))
  | routine kind holder name =>
    have whole : Clear mark
        (announcement (some kind) ++ (quotedName holder ++ (['.'] ++ quotedName name))) rest :=
      .append (clear_announcement isEnd _ _) (.append ((unmarked holder (by simp [names])).clear isEnd _)
        (.append clearDot ((unmarked name (by simp [names])).clear isEnd rest)))
    simpa [text, announcement] using whole

private theorem getLast?_quotedName (lead : List Char) (name : String) :
    (lead ++ quotedName name).getLast? = some backtick := by
  rw [quotedName, quoted, ← List.cons_append, ← List.append_assoc, List.getLast?_concat]

theorem isBlank_of_head?_announced (kind : Option RoutineKind) (rest : List Char) {c : Char}
    (first : c ∈ (announcement kind ++ backtick :: rest).head?) : isBlank c = false := by
  rcases kind with _ | _ | _ <;> cases first <;> decide

theorem Target.trim_text (target : Target) : trim target.text = target.text := by
  cases target with
  | everything => decide
  | database name =>
    refine trim_of_ends (fun c first => isBlank_of_head?_announced none _ first) fun c last => ?_
    have last : c ∈ ((quotedName name ++ ['.']) ++ ['*']).getLast? := by simpa [text] using last
    rw [List.getLast?_concat] at last
    cases last
    decide
  | table holder name =>
    refine trim_of_ends (fun c first => isBlank_of_head?_announced none _ first) fun c last => ?_
    have last : c ∈ ((quotedName holder ++ ['.']) ++ quotedName name).getLast? := by simpa [text] using last
    rw [getLast?_quotedName] at last
    cases last
    decide
  | routine kind holder name =>
    have same : (routine kind holder name).text =
        (announcement (some kind) ++ (quotedName holder ++ ['.'])) ++ quotedName name := by
      simp [text, announcement]
    refine trim_of_ends (fun c first => isBlank_of_head?_announced (some kind)
      (doubled backtick holder.toList ++ [backtick] ++ '.' :: quotedName name) ?_) fun c last => ?_
    · simpa [same, quotedName, quoted] using first
    · rw [same, getLast?_quotedName] at last
      cases last
      decide

/-- An open quotation has no path in it. -/
theorem readTarget_opened (kind : Option RoutineKind) {name : String} {opened : List Char}
    (starts : opened <+: doubled backtick name.toList) :
    (readTarget (trim (announcement kind ++ backtick :: opened))).toOption = none := by
  have trimmed : trim (announcement kind ++ backtick :: opened) =
      announcement kind ++ backtick :: trimEnd opened := by
    rw [trim, trimStart_of_head fun c first => isBlank_of_head?_announced kind opened first, trimEnd_eq,
      rdropWhile_append_cons (by decide), trimEnd_eq]
  have shorter : trimEnd opened <+: doubled backtick name.toList :=
    (List.rdropWhile_prefix isBlank opened).trans starts
  have whole : Whole '.' .start (backtick :: trimEnd opened) :=
    (whole_opened (by decide) rfl '.' name.toList).shorter (List.cons_prefix_cons.mpr ⟨rfl, shorter⟩)
  have path := readObjectType_announced kind (trimEnd opened)
  unfold readTarget
  simp only [trimmed, path, splitOutside_of_whole whole]
  rfl

/-- The target is read as it was written, or not at all. -/
theorem readTarget_beforeAny {target : Target} {clause : List Char} (isClause : clause ∈ clauseEnds)
    (named : ∀ name ∈ target.names, name ≠ "") (narrow : ¬ target.LooksWider)
    (unmarked : ∀ name ∈ target.object?, Unmarked name) (rest : List Char) :
    (readTarget (trim (beforeAny clauseEnds (target.text ++ (clause ++ rest))))).toOption = some target ∨
      ((readTarget (trim (beforeAny clauseEnds (target.text ++ (clause ++ rest))))).toOption = none ∧
        ∃ name ∈ target.names, name = "*" ∨ ¬ Unmarked name) := by
  by_cases all : ∀ name ∈ target.names, Unmarked name
  · have before : beforeAny clauseEnds (target.text ++ (clause ++ rest)) = target.text := by
      rw [beforeAny_clear_append fun mark isEnd => target.clear_text all isEnd _,
        beforeAny_mark isClause (clauseEnds_ne_nil isClause), List.append_nil]
    rw [before, target.trim_text]
    exact (readTarget_text named narrow).imp id fun unread => ⟨unread.1, "*", unread.2, .inl rfl⟩
  · obtain ⟨holder, member, marked⟩ : ∃ name ∈ target.names, ¬ Unmarked name := by simpa using all
    have below : target.database? = some holder :=
      (Target.mem_names.mp member).resolve_right fun object => marked (unmarked holder object)
    obtain ⟨kind, tail, same⟩ := Target.exists_path below
    obtain ⟨mark, isEnd, inside⟩ : ∃ mark ∈ clauseEnds, mark <:+: holder.toList := by
      simpa [Unmarked] using marked
    have search : beforeAny clauseEnds (target.text ++ (clause ++ rest)) = announcement kind ++
        backtick :: beforeAny clauseEnds
          (doubled backtick holder.toList ++ (backtick :: (tail ++ (clause ++ rest)))) := by
      have shown : target.text ++ (clause ++ rest) = (announcement kind ++ [backtick]) ++
          (doubled backtick holder.toList ++ (backtick :: (tail ++ (clause ++ rest)))) := by
        rw [same, quotedName, quoted]
        simp
      have lead : ∀ mark ∈ clauseEnds, Clear mark (announcement kind ++ [backtick])
          (doubled backtick holder.toList ++ (backtick :: (tail ++ (clause ++ rest)))) := fun mark isEnd =>
        .append (clear_announcement isEnd kind _) (clear_clauseEnds isEnd (by decide) _)
      rw [shown, beforeAny_clear_append lead, List.append_assoc]
      rfl
    have starts := beforeAny_stops isEnd (infix_doubled (backtick_not_mem_clauseEnds isEnd) inside)
      (backtick :: (tail ++ (clause ++ rest)))
    exact .inr ⟨by rw [search, readTarget_opened kind starts], holder, member, .inr marked⟩

end CredentialReach.Mysql
