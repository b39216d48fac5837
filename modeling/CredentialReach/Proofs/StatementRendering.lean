import CredentialReach.Proofs.PrivilegeLists
import CredentialReach.Proofs.TargetText

/-! Reading back what was written. -/

namespace CredentialReach.Mysql

namespace Statement

open Text

variable {body : List Char} {layout : Layout} {statement : Statement}

private theorem dropLast_semicolons (text : List Char) (count : Nat) :
    dropLast ';' (text ++ List.replicate count ';') = dropLast ';' text := by
  rw [dropLast_eq, dropLast_eq]
  exact rdropWhile_append (by simp +contextual [List.mem_replicate]) text

/-- Blanks and semicolons around a statement are taken off. -/
theorem trimEnd_dropLast_trim (some : body ≠ []) (first : ∀ c ∈ body.head?, isBlank c = false)
    (last : ∀ c ∈ body.getLast?, isBlank c = false ∧ c ≠ ';') (before between after : Gap) (count : Nat) :
    trimEnd (dropLast ';' (trim (before.val ++
      (body ++ (between.val ++ (List.replicate count ';' ++ after.val)))))) =
      body := by
  have ends : trimEnd body = body := rdropWhile_of_getLast fun c member => (last c member).1
  have start (rest : List Char) : trimStart (before.val ++ (body ++ rest)) = body ++ rest := by
    rw [trimStart_blank_append before.property]
    exact trimStart_of_head (by rwa [List.head?_append_of_ne_nil _ some])
  rw [trim, start]
  cases count with
  | zero =>
    have kept : dropLast ';' body = body :=
      rdropWhile_of_getLast fun c member => by simpa using (last c member).2
    have blank : ∀ c ∈ between.val ++ (List.replicate 0 ';' ++ after.val), isBlank c = true :=
      List.forall_mem_append.mpr ⟨between.property, after.property⟩
    rw [trimEnd_eq (body ++ _), rdropWhile_append blank, ← trimEnd_eq, ends, kept, ends]
  | succ count =>
    have shown : body ++ (between.val ++ (List.replicate (count + 1) ';' ++ after.val)) =
        (body ++ between.val ++ List.replicate count ';') ++ ';' :: after.val := by
      simp [List.replicate_succ']
    have none : after.val.rdropWhile isBlank = [] := List.rdropWhile_eq_nil_iff.mpr after.property
    have closed : (body ++ between.val ++ List.replicate count ';') ++ [';'] =
        (body ++ between.val) ++ List.replicate (count + 1) ';' := by simp [List.replicate_succ']
    have kept : dropLast ';' (body ++ between.val) = body ++ between.val := by
      refine rdropWhile_of_getLast fun c member => ?_
      have other : c ≠ ';' := by
        rw [List.getLast?_append] at member
        cases final : between.val.getLast? with
        | none =>
          rw [final] at member
          exact (last c member).2
        | some d =>
          rw [final] at member
          cases member
          exact ne_of_mem_of_not_mem (List.mem_of_mem_getLast? final) (between.not_mem (by decide))
      simpa using other
    rw [shown, trimEnd_eq (_ ++ ';' :: _), rdropWhile_append_cons (by decide), none, closed,
      dropLast_semicolons, kept, trimEnd_eq,
      rdropWhile_append between.property, ← trimEnd_eq, ends]

private theorem readAction?_keyword (action : Action) {rest : List Char}
    (bare : ∀ c ∈ rest.head?, isBlank c = false) :
    readAction? (action.keyword.toList ++ ' ' :: rest) = some (action, rest) := by
  unfold readAction?
  cases action with
  | grant =>
    have read : afterKeyword? "GRANT".toList (Action.grant.keyword.toList ++ ' ' :: rest) = some rest :=
      afterKeyword?_append _ bare
    rw [read]
  | revoke =>
    have other : afterKeyword? "GRANT".toList (Action.revoke.keyword.toList ++ ' ' :: rest) = none :=
      afterKeyword?_of_head (by decide) _ _
    have read : afterKeyword? "REVOKE".toList (Action.revoke.keyword.toList ++ ' ' :: rest) = some rest :=
      afterKeyword?_append _ bare
    rw [other, read, Option.map_some]

private theorem grantOptionClause_suffix (granted : statement.withGrantOption = true) (layout : Layout) :
    grantOptionClause <:+ statement.text layout := by
  refine ⟨statement.action.keyword.toList ++ ' ' :: (itemsText layout statement.items ++ (" ON ".toList ++
    (statement.target.text ++ (layout.clause ++ (layout.user.text ++ '@' :: (layout.host.text ++ [' '])))))), ?_⟩
  simp [text, clauses, accountText, granted]

private theorem text_eq_concat (plain : statement.withGrantOption = false) (layout : Layout) :
    ∃ lead, statement.text layout = lead ++ [layout.host.mark] := by
  refine ⟨statement.action.keyword.toList ++ ' ' :: (itemsText layout statement.items ++ (" ON ".toList ++
    (statement.target.text ++ (layout.clause ++ (layout.user.text ++
      '@' :: layout.host.mark :: doubled layout.host.mark layout.host.name))))), ?_⟩
  simp [text, clauses, accountText, plain, Quotation.text, quoted]

private theorem isSuffixOf_upper_text (layout : Layout) (statement : Statement) :
    grantOptionClause.isSuffixOf (upper (statement.text layout)) = statement.withGrantOption := by
  cases granted : statement.withGrantOption with
  | true =>
    obtain ⟨lead, same⟩ := grantOptionClause_suffix granted layout
    have capital : upper grantOptionClause = grantOptionClause := by decide
    rw [List.isSuffixOf_iff_suffix, ← same, upper, List.map_append]
    exact ⟨_, congrArg _ capital.symm⟩
  | false =>
    obtain ⟨lead, same⟩ := text_eq_concat granted layout
    have other : ∀ mark ∈ quoteMarks, mark.toUpper ≠ 'N' :=
      forall_quoteMarks (by decide) (by decide) (by decide)
    rw [Bool.eq_false_iff, Ne, List.isSuffixOf_iff_suffix, same]
    rintro ⟨before, ends⟩
    have last := congrArg List.getLast? ends
    have final : grantOptionClause.getLast? = some 'N' := by decide
    rw [List.getLast?_append_of_ne_nil _ (by decide), final, upper, List.map_append, List.map_singleton,
      List.getLast?_concat] at last
    exact other _ layout.host.isQuote (Option.some.inj last).symm

private theorem bare_of_getLast?_text {c : Char} (last : c ∈ (statement.text layout).getLast?) :
    isBlank c = false ∧ c ≠ ';' := by
  cases granted : statement.withGrantOption with
  | true =>
    obtain ⟨lead, same⟩ := grantOptionClause_suffix granted layout
    rw [← same, List.getLast?_append_of_ne_nil _ (by decide)] at last
    have final : grantOptionClause.getLast? = some 'N' := by decide
    rw [final] at last
    cases last
    decide
  | false =>
    obtain ⟨lead, same⟩ := text_eq_concat granted layout
    have bare : ∀ mark ∈ quoteMarks, isBlank mark = false ∧ mark ≠ ';' :=
      forall_quoteMarks (by decide) (by decide) (by decide)
    rw [same, List.getLast?_concat] at last
    cases last
    exact bare _ layout.host.isQuote

/-- Where the list is cut from the rest decides the statement. -/
theorem parse_render (writable : statement.Writable) {list targetAndAccount : List Char}
    (cut : cutAt? " ON ".toList (statement.clauses layout) = some (list, targetAndAccount)) :
    parse (statement.render layout) = do
      let target ← readTarget (trim (beforeAny clauseEnds targetAndAccount))
      let items ← readItems list
      if items.isEmpty then throw .noPrivileges
      return ⟨statement.action, items, target, statement.withGrantOption⟩ := by
  have bare : ∀ c ∈ (statement.clauses layout).head?, isBlank c = false :=
    fun c => isBlank_of_head?_itemsText writable.some writable.phrases
  have some : statement.text layout ≠ [] := by simp [text]
  have first : ∀ c ∈ (statement.text layout).head?, isBlank c = false := by
    unfold text
    cases statement.action <;> rintro c ⟨⟩ <;> decide
  have trimmed := trimEnd_dropLast_trim some first (fun c => bare_of_getLast?_text)
    layout.before layout.beforeEnd layout.after layout.semicolons
  have action : readAction? (statement.text layout) = _ := readAction?_keyword statement.action bare
  unfold parse ofChars render
  simp only [String.toList_ofList, trimmed, action, cut, isSuffixOf_upper_text]

/-- Where no column's name holds the mark, reading the target decides. -/
theorem toOption_parse_render (writable : statement.Writable)
    (absent : ∀ item ∈ statement.items, ∀ column ∈ item.columns, ¬ " ON ".toList <:+: column.toList)
    (layout : Layout) :
    (parse (statement.render layout)).toOption =
      (readTarget (trim (beforeAny clauseEnds
        (statement.target.text ++ (layout.clause ++ statement.accountText layout))))).toOption.map
          fun target => ⟨statement.action, statement.items, target, statement.withGrantOption⟩ := by
  have detached : Detached (" ON ".toList ++ (statement.target.text ++
      (layout.clause ++ statement.accountText layout))) := by
    rintro c ⟨⟩
    decide
  have passes := passes_itemsText writable.some writable.phrases absent detached layout
  have cut : cutAt? " ON ".toList (statement.clauses layout) = some (itemsText layout statement.items,
      statement.target.text ++ (layout.clause ++ statement.accountText layout)) := cutAt?_clear passes.clear
  have items : readItems (itemsText layout statement.items) = .ok statement.items := by
    refine readItems_itemsText writable.some writable.phrases (fun item member column listed => ?_) layout
    exact writable.named column (List.mem_append_right _ (List.mem_flatMap.mpr ⟨item, member, listed⟩))
  have more : statement.items.isEmpty = false := by simpa using writable.some
  rw [parse_render writable cut]
  simp only [items]
  cases readTarget (trim (beforeAny clauseEnds
    (statement.target.text ++ (layout.clause ++ statement.accountText layout)))) with
  | error fault => rfl
  | ok target => simp [more, bind, Except.bind, Except.toOption, pure, Except.pure]

private theorem toOption_parse_render_broken (writable : statement.Writable)
    (inside : ∃ item ∈ statement.items, ∃ column ∈ item.columns, " ON ".toList <:+: column.toList)
    (unclosed : ∀ item ∈ statement.items, ∀ column ∈ item.columns, ¬ ClosesBeforeMark column)
    (layout : Layout) : (parse (statement.render layout)).toOption = none := by
  obtain ⟨list, after, fault, cut, unread⟩ :=
    exists_cut_broken writable.phrases inside unclosed layout (" ON ".toList ++ (statement.target.text ++
      (layout.clause ++ statement.accountText layout)))
  rw [parse_render writable cut]
  simp only [unread]
  cases readTarget (trim (beforeAny clauseEnds after)) <;> rfl

private theorem parse_eq_ok {text : String} (read : (parse text).toOption = some statement) :
    parse text = .ok statement := by
  cases outcome : parse text with
  | error fault => rw [outcome] at read; cases read
  | ok other => rw [outcome] at read; cases read; rfl

private theorem exists_parse_eq_error {text : String} (unread : (parse text).toOption = none) :
    ∃ fault, parse text = .error fault := by
  cases outcome : parse text with
  | error fault => exact ⟨fault, rfl⟩
  | ok other => rw [outcome] at unread; cases unread

theorem parse_inverts_render (writable : statement.Writable)
    (plain : ∀ name ∈ statement.quotedNames, name ≠ "*" ∧
      ∀ mark ∈ [" ON ", " TO ", " FROM "], ¬ mark.toList <:+: name.toList)
    (layout : Layout) : parse (statement.render layout) = .ok statement := by
  have targets : ∀ name ∈ statement.target.names, name ≠ "*" ∧ Unmarked name := fun name member => by
    obtain ⟨unstarred, unmarked⟩ := plain name (List.mem_append_left _ member)
    refine ⟨unstarred, fun mark isEnd => ?_⟩
    simp only [clauseEnds, List.mem_cons, List.not_mem_nil, or_false] at isEnd
    rcases isEnd with rfl | rfl
    · exact unmarked " TO " (by simp)
    · exact unmarked " FROM " (by simp)
  have narrow : ¬ statement.target.LooksWider := fun wider => (targets "*" (Target.star_mem_names wider)).1 rfl
  have absent : ∀ item ∈ statement.items, ∀ column ∈ item.columns, ¬ " ON ".toList <:+: column.toList :=
    fun item member column listed => (plain column
      (List.mem_append_right _ (List.mem_flatMap.mpr ⟨item, member, listed⟩))).2 " ON " (by simp)
  have target := readTarget_beforeAny layout.isClause
    (fun name member => writable.named name (List.mem_append_left _ member)) narrow
    (fun name member => (targets name (Target.mem_names.mpr (.inr member))).2) (statement.accountText layout)
  apply parse_eq_ok
  rw [toOption_parse_render writable absent layout]
  rcases target with read | ⟨_, name, member, odd⟩
  · rw [read, Option.map_some]
  · exact absurd odd (not_or.mpr ⟨(targets name member).1, not_not.mpr (targets name member).2⟩)

theorem parse_inverts_render_of_awkward_names :
    let statement : Statement :=
      ⟨.grant, [⟨"SELECT", ["id", "a), `b"]⟩, ⟨"CREATE VIEW", []⟩], .table "my.db" "'t", true⟩
    statement.render Layout.listed =
        "GRANT SELECT (`id`, `a), ``b`), CREATE VIEW ON `my.db`.`'t` TO `app`@`%` WITH GRANT OPTION" ∧
      parse (statement.render Layout.listed) = .ok statement := by
  intro statement
  have phrases : ∀ item ∈ statement.items, IsPhrase item.privilege :=
    List.forall_mem_cons.mpr ⟨⟨["SELECT".toList], by decide⟩,
      List.forall_mem_singleton.mpr ⟨["CREATE".toList, "VIEW".toList], by decide⟩⟩
  exact ⟨by decide, parse_inverts_render ⟨by decide, phrases, by decide⟩ (by decide) _⟩

/-- A statement is read as it was written or refused, unless a column's name closes its
list early, the name of the object has the mark of the account in it, or a star is quoted
where a bare one would widen the target. -/
theorem parse_render_or_refuses (writable : statement.Writable)
    (unclosed : ∀ item ∈ statement.items, ∀ column ∈ item.columns, ¬ ClosesBeforeMark column)
    (unmarked : ∀ name ∈ statement.target.object?, Unmarked name)
    (narrow : ¬ statement.target.LooksWider) (layout : Layout) :
    parse (statement.render layout) = .ok statement ∨
      ∃ fault, parse (statement.render layout) = .error fault := by
  by_cases inside : ∃ item ∈ statement.items, ∃ column ∈ item.columns, " ON ".toList <:+: column.toList
  · exact .inr (exists_parse_eq_error (toOption_parse_render_broken writable inside unclosed layout))
  · have absent : ∀ item ∈ statement.items, ∀ column ∈ item.columns, ¬ " ON ".toList <:+: column.toList := by
      simpa using inside
    have whole := toOption_parse_render writable absent layout
    have target := readTarget_beforeAny layout.isClause
      (fun name member => writable.named name (List.mem_append_left _ member)) narrow unmarked
      (statement.accountText layout)
    rcases target with read | ⟨unread, _⟩
    · rw [read] at whole
      exact .inl (parse_eq_ok whole)
    · rw [unread] at whole
      exact .inr (exists_parse_eq_error whole)

def select (columns : List String) (target : Target) : Statement :=
  ⟨.grant, [⟨"SELECT", columns⟩], target, false⟩

private theorem isPhrase_select : IsPhrase "SELECT" := ⟨["SELECT".toList], by decide⟩

theorem writable_select {columns : List String} {target : Target}
    (named : ∀ name ∈ (select columns target).quotedNames, name ≠ "") : (select columns target).Writable :=
  ⟨List.cons_ne_nil _ _, List.forall_mem_singleton.mpr isPhrase_select, named⟩

theorem parse_render_refuses_marked_database :
    let statement := select ["let ON hire"] (.table "sold TO order" "orders")
    statement.render Layout.listed = "GRANT SELECT (`let ON hire`) ON `sold TO order`.`orders` TO `app`@`%`" ∧
      ∃ fault, parse (statement.render Layout.listed) = .error fault := by
  intro statement
  have outcome := parse_render_or_refuses (writable_select (by decide) : statement.Writable) (by decide) (by decide)
    (by decide) Layout.listed
  exact ⟨by decide, outcome.resolve_left (by decide)⟩

/-- The text of a statement with all its names is read as another statement. -/
structure Misread (written : Statement) (text : String) (read : Statement) : Prop where
  writable : written.Writable
  shown : written.render Layout.listed = text
  taken : parse text = .ok read
  other : read ≠ written

/-- Each of the three exceptions, the last one on two levels. -/
theorem render_misread :
    Misread (select ["a) ON x.y TO z"] (.table "shop" "orders"))
      "GRANT SELECT (`a) ON x.y TO z`) ON `shop`.`orders` TO `app`@`%`" (select ["`a"] (.table "x" "y")) ∧
    Misread (select [] (.table "shop" "orders TO archive"))
      "GRANT SELECT ON `shop`.`orders TO archive` TO `app`@`%`" (select [] (.table "shop" "`orders")) ∧
    Misread (select [] (.table "shop" "*")) "GRANT SELECT ON `shop`.`*` TO `app`@`%`"
      (select [] (.database "shop")) ∧
    Misread (select [] (.table "*" "*")) "GRANT SELECT ON `*`.`*` TO `app`@`%`" (select [] .everything) := by
  refine ⟨⟨writable_select ?_, ?_, ?_, ?_⟩, ⟨writable_select ?_, ?_, ?_, ?_⟩,
    ⟨writable_select ?_, ?_, ?_, ?_⟩, writable_select ?_, ?_, ?_, ?_⟩ <;> decide

end Statement

end CredentialReach.Mysql
