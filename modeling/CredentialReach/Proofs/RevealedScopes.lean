import Mathlib.Data.Bool.AllAny
import CredentialReach.Probe.Scopes
import CredentialReach.Proofs.QuotedText

/-! Scope lists in refusals. A list is read as it was written, in whatever letter case the text around
it is and wherever marks of quoting stand. The names in it may hold full stops: a name has no white
space, and the words that end a list do, so that no full stop of a name is taken for its end. -/

namespace CredentialReach.Probe

open Text

variable {text rest lead list introduction finish written : List Char} {names : List String}

def marks : List Char := ['\\', '"', '[', ']']

/-- The text is written with marks put in anywhere. -/
inductive Marked : (text written : List Char) → Prop
  | done : Marked [] []
  | keep {text written : List Char} (c : Char) (later : Marked text written) :
      Marked (c :: text) (c :: written)
  | mark {text written : List Char} {c : Char} (isMark : c ∈ marks) (later : Marked text written) :
      Marked text (c :: written)

structure IsScope (name : String) : Prop where
  some : name.toList ≠ []
  bare : ∀ c ∈ name.toList, isBlank c = false
  single : ',' ∉ name.toList
  unmarked : ∀ c ∈ name.toList, c ∉ marks

def listText (names : List String) : List Char := joinWith ", ".toList (names.map String.toList)

/-- The words that a list is introduced with, in small letters. -/
def announcement : List Char := "invalid scope".toList

private theorem isBlank_of_between {c : Char} (above : 33 ≤ c.toNat) (below : c.toNat ≤ 122) :
    isBlank c = false := by
  simp [isBlank, inRanges, blankRanges]
  omega

private theorem isBlank_toLower (c : Char) : isBlank c.toLower = isBlank c := by
  unfold Char.toLower
  split
  next capital =>
    have low : 65 ≤ c.toNat := capital.1
    have high : c.toNat ≤ 90 := capital.2
    have small : (c.val + ('a'.val - 'A'.val)).toNat = c.toNat + 32 := by
      rw [UInt32.toNat_add]
      exact Nat.mod_eq_of_lt (show c.toNat + 32 < 2 ^ 32 by omega)
    have first : isBlank c = false := isBlank_of_between (by omega) (by omega)
    rw [first]
    apply isBlank_of_between
    · exact (by omega : 33 ≤ c.toNat + 32).trans_eq small.symm
    · exact small.trans_le (by omega)
  next => rfl

private theorem isBlank_fold (c : Char) : isBlank (fold c) = isBlank c := by
  unfold fold
  split
  next same =>
    subst same
    decide
  next => exact isBlank_toLower c

/-- The long s apart, letters are folded as their small forms. -/
theorem map_fold_eq (absent : 'ſ' ∉ text) : text.map fold = lower text := by
  refine List.map_congr_left fun c member => if_neg ?_
  rintro rfl
  exact absent member

theorem map_fold_of_lower {small : List Char} (lowered : lower text = small) (absent : 'ſ' ∉ small) :
    text.map fold = small := by
  rw [← lowered]
  refine map_fold_eq fun member => absent ?_
  rw [← lowered]
  exact List.mem_map_of_mem (f := Char.toLower) member

private theorem afterFolded?_append (folded : text.map fold = introduction) (rest : List Char) :
    afterFolded? introduction (text ++ rest) = some rest := by
  subst folded
  induction text with
  | nil => rw [List.nil_append, List.map_nil, afterFolded?]
  | cons c tail ih => rw [List.cons_append, List.map_cons, afterFolded?, if_pos rfl, ih]

theorem prefix_of_afterFolded? (found : afterFolded? introduction text = some rest) :
    introduction <+: text.map fold := by
  induction introduction generalizing text with
  | nil => exact List.nil_prefix
  | cons s others ih =>
    cases text with
    | nil => cases found
    | cons c tail =>
      rw [afterFolded?] at found
      split at found
      next same => exact List.cons_prefix_cons.mpr ⟨same.symm, ih found⟩
      next => cases found

private theorem announced_of_listHere? (found : listHere? text = some list) :
    announcement <+: text.map fold := by
  obtain ⟨rest, introduced, -⟩ := Option.bind_eq_some_iff.mp found
  obtain ⟨introduction, listed, starts⟩ := List.exists_of_findSome?_eq_some introduced
  have first : ∀ introduction ∈ introductions, announcement <+: introduction := by decide
  exact (first introduction listed).trans (prefix_of_afterFolded? starts)

/-- The search passes over a stretch where nothing is announced. -/
theorem list?_of_clear (clear : Clear announcement (lead.map fold) (rest.map fold)) :
    list? (lead ++ rest) = list? rest := by
  induction lead with
  | nil => rfl
  | cons c tail ih =>
    have nothing : listHere? (c :: (tail ++ rest)) = none := by
      refine Option.eq_none_iff_forall_ne_some.mpr fun list found => clear.1 ?_
      simpa using announced_of_listHere? found
    rw [List.cons_append, list?, nothing]
    exact ih clear.2

/-- Each introduction is told from the others by the characters behind the announcement. -/
theorem findSome?_introduced (known : lower introduction ∈ introductions) (rest : List Char) :
    introductions.findSome? (afterFolded? · (introduction ++ rest)) = some rest := by
  have long : ∀ small ∈ introductions, 'ſ' ∉ small := by decide
  have folded : introduction.map fold = lower introduction := map_fold_of_lower rfl (long _ known)
  have found := afterFolded?_append folded rest
  have other {first : List Char} (differs : ¬ first <+: lower introduction ++ rest.map fold) :
      afterFolded? first (introduction ++ rest) = none := by
    refine Option.eq_none_iff_forall_ne_some.mpr fun tail starts => differs ?_
    rw [← folded, ← List.map_append]
    exact prefix_of_afterFolded? starts
  generalize lower introduction = small at known found other
  simp only [introductions, List.mem_cons, List.not_mem_nil, or_false] at known
  rcases known with rfl | rfl | rfl
  · simp only [introductions, List.findSome?_cons, found]
  · have first := @other "invalid scope(s):".toList (by simp)
    simp only [introductions, List.findSome?_cons, first, found]
  · have first := @other "invalid scope(s):".toList (by simp)
    have second := @other "invalid scopes:".toList (by simp)
    simp only [introductions, List.findSome?_cons, first, second, found]

/-- The list goes on all through the text where `rest` follows. -/
def GoesOn : (text rest : List Char) → Prop
  | [], _ => True
  | c :: text, rest => (c ≠ '\n' ∧ concludes (c :: (text ++ rest)) = false) ∧ GoesOn text rest

theorem GoesOn.append {first second : List Char} (before : GoesOn first (second ++ rest))
    (later : GoesOn second rest) : GoesOn (first ++ second) rest := by
  induction first with
  | nil => exact later
  | cons c tail ih =>
    refine ⟨⟨before.1.1, ?_⟩, ih before.2⟩
    have same : (tail ++ second) ++ rest = tail ++ (second ++ rest) := List.append_assoc ..
    exact same ▸ before.1.2

private theorem beforeConclusion?_of_goesOn (goesOn : GoesOn text rest) :
    beforeConclusion? (text ++ rest) = (beforeConclusion? rest).map (text ++ ·) := by
  induction text with
  | nil => cases found : beforeConclusion? rest <;> simp [found]
  | cons c tail ih =>
    rw [List.cons_append, beforeConclusion?, if_neg (by simp [goesOn.1.2]), if_neg goesOn.1.1,
      ih goesOn.2, Option.map_map]
    rfl

theorem concludes_of_ne {c : Char} (other : c ≠ '.') (text : List Char) :
    concludes (c :: text) = false := by
  unfold concludes
  split
  next same => exact absurd (List.cons.inj same).1 other
  next => rfl

/-- The conclusion has white space behind its first word, where a name is followed by a comma or a
full stop. -/
theorem not_concluded {name : List Char} (bare : ∀ c ∈ name, isBlank c = false) {stop : Char}
    (stops : stop = ',' ∨ stop = '.') (rest : List Char) :
    ¬ conclusion <+: (name ++ stop :: ' ' :: rest).map fold := by
  rintro ⟨behind, whole⟩
  have words := congrArg (List.takeWhile fun c => !isBlank c) whole
  have plain : ∀ c ∈ (name ++ [stop]).map fold, (!isBlank c) = true := by
    intro c member
    obtain ⟨d, inside, rfl⟩ := List.mem_map.mp member
    rw [isBlank_fold]
    rcases List.mem_append.mp inside with named | last
    · rw [bare d named]
      rfl
    · obtain rfl := List.mem_singleton.mp last
      rcases stops with rfl | rfl <;> decide
  have split : (name ++ stop :: ' ' :: rest).map fold =
      (name ++ [stop]).map fold ++ ' ' :: rest.map fold := by
    simp [fold]
  have first : conclusion ++ behind = "this".toList ++ ' ' :: ("endpoint requires".toList ++ behind) := rfl
  rw [split, List.takeWhile_append_of_pos plain, first, List.takeWhile_append_of_pos (List.all_eq_true.mp rfl),
    List.takeWhile_cons_of_neg (by decide), List.takeWhile_cons_of_neg (by decide), List.append_nil,
    List.append_nil, List.map_append] at words
  have ends := congrArg List.getLast? words
  rw [List.map_singleton, List.getLast?_concat] at ends
  rcases stops with rfl | rfl <;> revert ends <;> decide

private theorem goesOn_name {name : List Char} (bare : ∀ c ∈ name, isBlank c = false) {stop : Char}
    (stops : stop = ',' ∨ stop = '.') (rest : List Char) : GoesOn name (stop :: ' ' :: rest) := by
  induction name with
  | nil => trivial
  | cons c tail ih =>
    have bareTail : ∀ d ∈ tail, isBlank d = false := fun d member => bare d (List.mem_cons_of_mem c member)
    refine ⟨⟨?_, ?_⟩, ih bareTail⟩
    · rintro rfl
      exact absurd (bare '\n' List.mem_cons_self) (by decide)
    · by_cases same : c = '.'
      · subst same
        have here : trimStart (tail ++ stop :: ' ' :: rest) = tail ++ stop :: ' ' :: rest := by
          refine trimStart_of_head fun d first => ?_
          cases tail with
          | nil =>
            obtain rfl := Option.some.inj first
            rcases stops with rfl | rfl <;> decide
          | cons e others =>
            obtain rfl := Option.some.inj first
            exact bareTail e List.mem_cons_self
        rw [concludes, here, Option.isSome_eq_false_iff, Option.isNone_iff_eq_none]
        refine Option.eq_none_iff_forall_ne_some.mpr fun _ found => ?_
        exact not_concluded bareTail stops rest (prefix_of_afterFolded? found)
      · exact concludes_of_ne same _

private theorem listText_cons {name : String} (more : names ≠ []) :
    listText (name :: names) = name.toList ++ (',' :: ' ' :: listText names) := by
  unfold listText
  rw [List.map_cons, joinWith_cons (by simpa using more), List.append_assoc]
  rfl

/-- No name of a list ends it. -/
theorem goesOn_listText (scopes : ∀ name ∈ names, IsScope name) (rest : List Char) :
    GoesOn (listText names) ('.' :: ' ' :: rest) := by
  induction names with
  | nil => trivial
  | cons name others ih =>
    have bare := (scopes name List.mem_cons_self).bare
    have later := ih fun other member => scopes other (List.mem_cons_of_mem name member)
    by_cases more : others = []
    · subst more
      exact goesOn_name bare (.inr rfl) rest
    · rw [listText_cons more]
      have gap : GoesOn [',', ' '] (listText others ++ ('.' :: ' ' :: rest)) :=
        ⟨⟨by decide, concludes_of_ne (by decide) _⟩, ⟨by decide, concludes_of_ne (by decide) _⟩, trivial⟩
      exact (goesOn_name bare (.inl rfl) _).append (gap.append later)

private theorem beforeConclusion?_listText (scopes : ∀ name ∈ names, IsScope name)
    (finished : lower finish = conclusion) (rest : List Char) :
    beforeConclusion? (listText names ++ ('.' :: ' ' :: (finish ++ rest))) = some (listText names) := by
  have folded : finish.map fold = conclusion := map_fold_of_lower finished (by decide)
  have here : trimStart (' ' :: (finish ++ rest)) = finish ++ rest := by
    rw [trimStart_cons (by decide)]
    refine trimStart_of_head fun c first => ?_
    cases finish with
    | nil => cases folded
    | cons d others =>
      obtain rfl := Option.some.inj first
      rw [← isBlank_fold, (List.cons.inj folded).1]
      decide
  have concluded : concludes ('.' :: ' ' :: (finish ++ rest)) = true := by
    rw [concludes, here, afterFolded?_append folded]
    rfl
  rw [beforeConclusion?_of_goesOn (goesOn_listText scopes _), beforeConclusion?, if_pos concluded,
    Option.map_some, List.append_nil]

theorem IsScope.uncut {name : String} (scope : IsScope name) : ∀ c ∈ name.toList, (c == ',') = false := by
  intro c member
  exact beq_false_of_ne fun same => scope.single (same ▸ member)

private theorem IsScope.trim_eq {name : String} (scope : IsScope name) : trim name.toList = name.toList :=
  trim_of_ends (fun c first => scope.bare c (List.mem_of_mem_head? first))
    (fun c last => scope.bare c (List.mem_of_mem_getLast? last))

/-- The first name is cut off, and the gap behind its comma goes to the next one. -/
theorem splitAt_listText_cons {name : String} {piece : List Char} {pieces : List (List Char)}
    (scope : IsScope name) (more : names ≠ []) (split : splitAt ',' (listText names) = piece :: pieces) :
    splitAt ',' (listText (name :: names)) = name.toList :: (' ' :: piece) :: pieces := by
  have gap : splitAt ',' ([' '] ++ listText names) = ([' '] ++ piece) :: pieces :=
    splitWhere_append (by simp) split
  have comma : splitAt ',' (',' :: ' ' :: listText names) = [] :: (' ' :: piece) :: pieces :=
    congrArg ([] :: ·) gap
  have whole := splitWhere_append scope.uncut comma
  rwa [List.append_nil, ← listText_cons more] at whole

private theorem map_trim_splitAt_listText (some : names ≠ []) (scopes : ∀ name ∈ names, IsScope name) :
    (splitAt ',' (listText names)).map trim = names.map String.toList := by
  induction names with
  | nil => exact absurd rfl some
  | cons name others ih =>
    have scope := scopes name List.mem_cons_self
    by_cases more : others = []
    · subst more
      have split : splitWhere (· == ',') (name.toList ++ []) = [name.toList ++ []] :=
        splitWhere_append scope.uncut rfl
      rw [List.append_nil] at split
      simp [listText, joinWith, splitAt, split, scope.trim_eq]
    · have later := ih more fun other member => scopes other (List.mem_cons_of_mem name member)
      obtain ⟨piece, pieces, split⟩ : ∃ piece pieces,
          splitAt ',' (listText others) = piece :: pieces := by
        refine List.exists_cons_of_ne_nil fun nothing => more ?_
        simpa [nothing] using later
      have blank : trim (' ' :: piece) = trim piece := congrArg trimEnd (trimStart_cons (by decide))
      rw [split, List.map_cons] at later
      rw [splitAt_listText_cons scope more split, List.map_cons, List.map_cons, scope.trim_eq, blank,
        later, List.map_cons]

/-- The names are read from a list, and none from an empty one. -/
theorem scopes_listText (scopes : ∀ name ∈ names, IsScope name) :
    (((splitAt ',' (listText names)).map trim).filter fun scope => !scope.isEmpty).map String.ofList =
      names := by
  by_cases some : names = []
  · subst some
    rfl
  · rw [map_trim_splitAt_listText some scopes, List.filter_eq_self.mpr, List.map_map]
    · simp [Function.comp_def]
    · intro text listed
      obtain ⟨name, member, rfl⟩ := List.mem_map.mp listed
      simpa [← String.toList_eq_nil_iff] using (scopes name member).some

theorem plain_cons (c : Char) (text : List Char) :
    plain (c :: text) = if c ∈ marks then plain text else c :: plain text := by
  unfold plain
  rw [List.filter_cons]
  by_cases isMark : c ∈ marks
  · rw [if_pos isMark, if_neg]
    simp [marks] at isMark
    grind
  · rw [if_neg isMark, if_pos]
    simp [marks] at isMark
    simp [isMark]

private theorem plain_of_marked (unmarked : ∀ c ∈ text, c ∉ marks) (marked : Marked text written)
    (rest : List Char) : plain (written ++ rest) = text ++ plain rest := by
  induction marked with
  | done => rfl
  | keep c _ ih =>
    rw [List.cons_append, plain_cons, if_neg (unmarked c List.mem_cons_self),
      ih fun d member => unmarked d (List.mem_cons_of_mem c member)]
    rfl
  | mark isMark _ ih => rw [List.cons_append, plain_cons, if_pos isMark, ih unmarked]

/-- Every text is what is left of it with its marks put in. -/
theorem marked_plain (written : List Char) : Marked (plain written) written := by
  induction written with
  | nil => exact .done
  | cons c tail ih =>
    rw [plain_cons]
    split
    next isMark => exact .mark isMark ih
    next => exact .keep c ih

/-- A list of names with the words around it, in any letter case. -/
inductive Lists (names : List String) : (text : List Char) → Prop
  | of {introduction finish : List Char}
      (introduces : lower introduction ∈
        ["invalid scope(s):".toList, "invalid scopes:".toList, "invalid scope:".toList])
      (finishes : lower finish = "this endpoint requires".toList) :
      Lists names (introduction ++ (' ' :: (listText names ++ ('.' :: ' ' :: finish))))

private theorem unmarked_of_lower {small : List Char} (lowered : lower text = small)
    (unmarked : ∀ c ∈ small, c ∉ marks) : ∀ c ∈ text, c ∉ marks := by
  intro c member isMark
  have same : ∀ c ∈ marks, c.toLower = c := List.all_iff_forall_prop.mp (by decide)
  have kept : c.toLower ∈ lower text := List.mem_map_of_mem member
  rw [same c isMark, lowered] at kept
  exact unmarked c kept isMark

private theorem unmarked_listText (scopes : ∀ name ∈ names, IsScope name) :
    ∀ c ∈ listText names, c ∉ marks := by
  intro c member
  rcases mem_joinWith member with between | ⟨_, listed, inside⟩
  · have gap : ∀ c ∈ ", ".toList, c ∉ marks := List.all_iff_forall_prop.mp (by decide)
    exact gap c between
  · obtain ⟨name, named, rfl⟩ := List.mem_map.mp listed
    exact (scopes name named).unmarked c inside

theorem Lists.unmarked (lists : Lists names text) (scopes : ∀ name ∈ names, IsScope name) :
    ∀ c ∈ text, c ∉ marks := by
  obtain @⟨introduction, finish, introduces, finishes⟩ := lists
  have known : ∀ small ∈ introductions, ∀ c ∈ small, c ∉ marks := by
    simp [introductions, marks]
  intro c member
  simp only [List.mem_append, List.mem_cons] at member
  rcases member with first | rfl | listed | rfl | rfl | last
  · exact unmarked_of_lower rfl (known _ introduces) c first
  · decide
  · exact unmarked_listText scopes c listed
  · decide
  · decide
  · exact unmarked_of_lower finishes (List.all_iff_forall_prop.mp (by decide)) c last

theorem Lists.announced (lists : Lists names text) :
    ∃ more, text.map fold = announcement ++ more := by
  obtain @⟨introduction, _, introduces, _⟩ := lists
  have long : ∀ small ∈ introductions, 'ſ' ∉ small := by decide
  have first : ∀ small ∈ introductions, announcement <+: small := by decide
  have folded : introduction.map fold = lower introduction := map_fold_of_lower rfl (long _ introduces)
  obtain ⟨more, same⟩ := first _ introduces
  rw [List.map_append, folded, ← same, List.append_assoc]
  exact ⟨_, rfl⟩

theorem Lists.listHere? (lists : Lists names text) (scopes : ∀ name ∈ names, IsScope name)
    (rest : List Char) : Probe.listHere? (text ++ rest) = some (listText names) := by
  obtain @⟨introduction, finish, introduces, finishes⟩ := lists
  have opened : introductions.findSome? (afterFolded? · (introduction ++
      (' ' :: (listText names ++ ('.' :: ' ' :: finish))) ++ rest)) =
      some (' ' :: (listText names ++ ('.' :: ' ' :: (finish ++ rest)))) := by
    rw [List.append_assoc, findSome?_introduced introduces]
    simp
  have listed : trimStart (' ' :: (listText names ++ ('.' :: ' ' :: (finish ++ rest)))) =
      listText names ++ ('.' :: ' ' :: (finish ++ rest)) := by
    rw [trimStart_cons (by decide)]
    refine trimStart_of_head fun c first => ?_
    cases names with
    | nil =>
      obtain rfl := Option.some.inj first
      decide
    | cons name others =>
      have scope := scopes name List.mem_cons_self
      have some : listText (name :: others) ≠ [] := by
        intro nothing
        have head := head?_joinWith scope.some ", ".toList (others.map String.toList)
        rw [← List.map_cons, show joinWith ", ".toList ((name :: others).map String.toList) = [] from nothing,
          List.head?_nil, eq_comm, List.head?_eq_none_iff] at head
        exact scope.some head
      rw [List.head?_append_of_ne_nil _ some] at first
      rw [listText, List.map_cons, head?_joinWith scope.some] at first
      exact scope.bare c (List.mem_of_mem_head? first)
  rw [Probe.listHere?, opened, Option.bind_some, listed, beforeConclusion?_listText scopes finishes]

private theorem list?_of_here (here : listHere? text = some list) : list? text = some list := by
  cases text with
  | nil => cases here
  | cons c tail => rw [list?, here]

/-- A list is read from a refusal as it was written, the empty one too: in any letter case, with
marks anywhere, behind ASCII text that announces no other list, and before any text. -/
theorem revealedScopes?_of_lists (scopes : ∀ name ∈ names, IsScope name) (lists : Lists names text)
    (ascii : ∀ c ∈ lead, c.toNat < 128) (unmarked : ∀ c ∈ lead, c ∉ marks)
    (silent : ¬ "invalid scope".toList <:+: lower lead) (marked : Marked (lead ++ text) written)
    (rest : List Char) : revealedScopes? (String.ofList (written ++ rest)) = some names := by
  have long : 'ſ' ∉ lead := fun member => absurd (ascii _ member) (by decide)
  obtain ⟨more, announced⟩ := lists.announced
  have clear : Clear announcement (lead.map fold) ((text ++ plain rest).map fold) := by
    rw [map_fold_eq long, List.map_append, announced, List.append_assoc]
    exact (clear_of_absent silent).before_mark (by decide) _
  have whole : ∀ c ∈ lead ++ text, c ∉ marks := by
    intro c member
    exact (List.mem_append.mp member).elim (unmarked c) (lists.unmarked scopes c)
  rw [revealedScopes?, String.toList_ofList, plain_of_marked whole marked, List.append_assoc,
    list?_of_clear clear, list?_of_here (lists.listHere? scopes _), Option.map_some,
    scopes_listText scopes]

/-- Names may end in full stops, and marks may stand around and inside of them. -/
theorem revealedScopes?_of_dotted :
    revealedScopes? "\x7b\"err\":\"INVALID Scope(s): [\\\"api.read\\\", \\\"a[..\\\"]. this endpoint requires" =
      some ["api.read", "a.."] := by
  have named : IsScope "api.read" :=
    ⟨by simp, List.all_iff_forall_prop.mp (by decide), by simp, by simp [marks]⟩
  have dotted : IsScope "a.." :=
    ⟨by simp, List.all_iff_forall_prop.mp (by decide), by simp, by simp [marks]⟩
  have scopes : ∀ name ∈ ["api.read", "a.."], IsScope name :=
    List.forall_mem_cons.mpr ⟨named, List.forall_mem_singleton.mpr dotted⟩
  have lists : Lists ["api.read", "a.."] ("INVALID Scope(s):".toList ++
      (' ' :: (listText ["api.read", "a.."] ++ ('.' :: ' ' :: "this endpoint requires".toList)))) :=
    .of (by decide) (by decide)
  have marked : Marked ("\x7berr:".toList ++ _) _ := marked_plain
    "\x7b\"err\":\"INVALID Scope(s): [\\\"api.read\\\", \\\"a[..\\\"]. this endpoint requires".toList
  exact revealedScopes?_of_lists scopes lists (by simp) (by simp [marks]) (by decide) marked []

end CredentialReach.Probe
