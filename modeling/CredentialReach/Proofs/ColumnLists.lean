import CredentialReach.Proofs.QuotedText
import CredentialReach.Proofs.StatementEffect
import CredentialReach.Proofs.StatementReading

/-! Privileges that are limited to columns. A list in which a column is named keeps a
privilege on columns. A list in which no column is named is read like no list at all, so
that its privilege is one on the whole object. -/

namespace CredentialReach

namespace Text

variable {piece : List Char}

/-- White space, or nothing between two quotes. -/
def Nameless (piece : List Char) : Prop := trim piece = [] ∨ ∃ mark ∈ quoteMarks, trim piece = [mark, mark]

theorem unquote_eq_nil_iff : unquote piece = [] ↔ Nameless piece := by
  unfold unquote Nameless
  dsimp only
  cases quoted : quoteMarks.findSome? fun mark => (between? mark (trim piece)).map (undouble mark) with
  | none =>
    refine ⟨.inl, ?_⟩
    rintro (nothing | ⟨mark, isQuote, pair⟩)
    · exact nothing
    · have closed : between? mark (trim piece) = some [] := between?_eq_some_iff.mpr pair
      have unread := List.findSome?_eq_none_iff.mp quoted mark isQuote
      rw [closed] at unread
      cases unread
  | some name =>
    obtain ⟨mark, isQuote, read⟩ := List.exists_of_findSome?_eq_some quoted
    obtain ⟨inner, closed, rfl⟩ := Option.map_eq_some_iff.mp read
    have same := between?_eq_some_iff.mp closed
    rw [undouble_eq_nil_iff]
    constructor
    · rintro rfl
      exact .inr ⟨mark, isQuote, same⟩
    · rintro (nothing | ⟨other, _, pair⟩)
      · rw [nothing] at same
        cases same
      · rw [pair] at same
        have length := congrArg List.length same
        exact List.length_eq_zero_iff.mp (by simpa using length)

end Text

namespace Mysql

open Text

namespace Statement

variable {place name list : List Char} {item : Item} {level : Level} {privilege : String}

private theorem privilegeName_eq_empty_iff : privilegeName name = "" ↔ ∀ c ∈ name, isBlank c = true := by
  rw [← words_eq_nil_iff, ← String.toList_inj, privilegeName, String.toList_ofList]
  simp only [upper, String.toList_empty, List.map_eq_nil_iff]
  refine ⟨fun nothing => ?_, fun none => none ▸ rfl⟩
  cases listed : words name with
  | nil => rfl
  | cons word others =>
    have some : word ≠ [] := by
      have member : word ∈ words name := listed ▸ List.mem_cons_self
      simpa using (List.mem_filter.mp member).2
    have same := head?_joinWith some [' '] others
    rw [← listed, nothing] at same
    exact absurd (List.head?_eq_none_iff.mp same.symm) some

def NamesColumn (list : List Char) : Prop := ∃ piece ∈ splitOutside ',' list, ¬ Nameless piece

private theorem readColumns_ne_nil_iff : readColumns list ≠ [] ↔ NamesColumn list := by
  simp [readColumns, NamesColumn, ← unquote_eq_nil_iff, List.filter_eq_nil_iff]

/-- The item has a list behind its name, and in it the name of a column. -/
def Limited (place : List Char) : Prop := ∃ name list, Written place name (some list) ∧ NamesColumn list

/-- The name of the item is the privilege, or stands for it. -/
def Gives (level : Level) (place : List Char) (privilege : String) : Prop :=
  ∃ name list, Written place name list ∧
    (privilegeName name = privilege ∨ IsAll (privilegeName name) ∧ privilege ∈ allAt level)

/-- What is read of an item: its privilege has the name that is written, unless nothing is written in
front of the list, and it is limited if a column is named. -/
structure Reads (place : List Char) (item : Item) : Prop where
  written : ∃ name list, Written place name list ∧ item = ⟨privilegeName name, list.elim [] readColumns⟩
  nameless : item.privilege = "" ↔ place.head? = some '('
  limited : item.columns ≠ [] ↔ Limited place

private theorem blank_name_iff {list : Option (List Char)} (bare : ∀ c ∈ place.head?, isBlank c = false)
    (filled : place ≠ []) (written : Written place name list) :
    (∀ c ∈ name, isBlank c = true) ↔ place.head? = some '(' := by
  have blank {c : Char} {rest : List Char} (dark : isBlank c = false) : ¬ ∀ d ∈ c :: rest, isBlank d = true :=
    fun all => by simp [all c List.mem_cons_self] at dark
  cases written with
  | whole unopened =>
    cases place with
    | nil => exact absurd rfl filled
    | cons c rest =>
      refine iff_of_false (blank (bare c rfl)) fun opens => unopened ?_
      cases opens
      exact List.mem_cons_self
  | limited unopened =>
    cases name with
    | nil => exact iff_of_true nofun rfl
    | cons c rest =>
      refine iff_of_false (blank (bare c rfl)) fun opens => unopened ?_
      cases opens
      exact List.mem_cons_self

private theorem reads_of_readItem (bare : ∀ c ∈ place.head?, isBlank c = false) (filled : place ≠ [])
    (read : readItem place = .ok item) : Reads place item := by
  obtain ⟨name, list, written, rfl⟩ := readItem_eq_ok_iff.mp read
  refine ⟨⟨name, list, written, rfl⟩, ?_, ?_⟩
  · exact privilegeName_eq_empty_iff.trans (blank_name_iff bare filled written)
  · cases list with
    | none =>
      refine iff_of_false (absurd rfl) ?_
      rintro ⟨other, list, again, _⟩
      cases (written.unique again).2
    | some list =>
      refine readColumns_ne_nil_iff.trans ⟨fun named => ⟨name, list, written, named⟩, ?_⟩
      rintro ⟨other, _, again, named⟩
      cases (written.unique again).2
      exact named

/-- The places of a list of privileges in which something is written. -/
def places (list : List Char) : List (List Char) :=
  ((splitOutside ',' list).map trim).filter fun place => !place.isEmpty

private theorem forall₂_reads {items : List Item} (read : readItems list = .ok items) :
    List.Forall₂ Reads (places list) items := by
  have each : List.Forall₂ (fun place item => readItem place = .ok item) (places list) items :=
    mapM_eq_ok_iff.mp read
  have written : ∀ place ∈ places list, (∀ c ∈ place.head?, isBlank c = false) ∧ place ≠ [] := by
    intro place member
    obtain ⟨trimmed, filled⟩ := List.mem_filter.mp member
    obtain ⟨piece, _, rfl⟩ := List.mem_map.mp trimmed
    exact ⟨fun c => head?_trim, by simpa using filled⟩
  refine ((List.forall₂_and_left _ _).mpr ⟨written, each⟩).imp ?_
  rintro place item ⟨⟨bare, filled⟩, read⟩
  exact reads_of_readItem bare filled read

private theorem exists_place {items : List Item} (reads : List.Forall₂ Reads (places list) items)
    (member : item ∈ items) (whole : item.columns = []) :
    ∃ place ∈ places list, ¬ Limited place ∧
      ∀ level privilege, item.privilege = privilege ∨ IsAll item.privilege ∧ privilege ∈ allAt level →
        Gives level place privilege := by
  obtain ⟨place, listed, read⟩ := exists_related reads.flip member
  obtain ⟨name, columns, written, rfl⟩ := read.written
  refine ⟨place, listed, mt read.limited.mpr (not_not.mpr whole), fun level privilege given => ?_⟩
  exact ⟨name, columns, written, given⟩

variable {statement : Statement} {node : Node}

/-- Nothing is said of an object that is given with lists of columns only. -/
theorem not_concerns_of_limited (reads : List.Forall₂ Reads (places list) statement.items)
    (object : node.isColumn = false)
    (limited : ∀ place ∈ places list, Gives node.level place privilege → Limited place)
    (unmentioned : ¬ (statement.withGrantOption = true ∧ privilege = grantOption)) :
    ¬ statement.Concerns node privilege := by
  have unnamed (given : String) (stands : given = privilege ∨ IsAll given ∧ privilege ∈ allAt node.level) :
      ¬ statement.NamesWhole given := by
    rintro ⟨item, member, whole, rfl⟩
    obtain ⟨place, listed, unlimited, gives⟩ := exists_place reads member whole
    exact unlimited (limited place listed (gives _ _ stands))
  rintro (⟨_, named, _⟩ | ⟨_, collective, named, everything, member⟩ | ⟨_, given, same⟩ | ⟨_, _, named, _⟩ |
    ⟨_, _, _, rfl, _⟩)
  · exact unnamed _ (.inl rfl) named
  · exact unnamed _ (.inr ⟨everything, member⟩) named
  · exact unmentioned ⟨given, same⟩
  · exact unnamed _ (.inl rfl) named
  · cases object

end Statement

namespace PrivilegeTree

private theorem mem_held_perform_of_unconcerned {tree : PrivilegeTree} {statement : Statement} {node : Node}
    {privilege : String} (unconcerned : ¬ statement.Concerns node privilege) :
    privilege ∈ (tree.perform statement).held node ↔ privilege ∈ tree.held node := by
  rw [held_perform]
  split
  next covered =>
    rw [Action.mem_change, if_neg (mt (Statement.mem_delta_iff statement covered).mp unconcerned)]
  next => exact Iff.rfl

open Statement

/-- Each item is read from its place in the list. An object keeps what it has of a privilege if every
place that gives the privilege names a column of it. -/
theorem limited_privileges_stay_limited {text : String} {statement : Statement}
    (read : Statement.parse text = .ok statement) :
    ∃ list, privilegeList? text = some list ∧ List.Forall₂ Reads (places list) statement.items ∧
      ∀ (tree : PrivilegeTree) (node : Node) (privilege : String), node.isColumn = false →
        (∀ place ∈ places list, Gives node.level place privilege → Limited place) →
        ¬ (statement.withGrantOption = true ∧ privilege = grantOption) →
        (privilege ∈ (tree.process [text]).tree.held node ↔ privilege ∈ tree.held node) := by
  obtain ⟨list, listed, items⟩ := privilegeList?_of_parse read
  have reads := forall₂_reads items
  refine ⟨list, listed, reads, fun tree node privilege object limited unmentioned => ?_⟩
  rw [process_singleton_eq tree read]
  exact mem_held_perform_of_unconcerned (not_concerns_of_limited reads object limited unmentioned)

theorem limited_privileges_stay_limited_on_orders :
    let tree := ofSnapshot { databases := [⟨"shop", [⟨"orders", none⟩], []⟩] }
    let text := "GRANT SELECT (`id`) ON `shop`.`orders` TO `app`@`%`"
    Statement.parse text = .ok ⟨.grant, [⟨"SELECT", ["id"]⟩], .table "shop" "orders", false⟩ ∧
      "SELECT" ∉ (tree.process [text]).tree.held (.within "shop" (.table "orders")) ∧
      "SELECT" ∈ (tree.process [text]).tree.held (.within "shop" (.column "orders" "id")) := by
  intro tree text
  have read : Statement.parse text = .ok ⟨.grant, [⟨"SELECT", ["id"]⟩], .table "shop" "orders", false⟩ := by decide
  have written : privilegeList? text = some "SELECT (`id`)".toList := by decide
  have listed : places "SELECT (`id`)".toList = ["SELECT (`id`)".toList] := by decide
  obtain ⟨list, same, _, stays⟩ := limited_privileges_stay_limited read
  obtain rfl := Option.some.inj (written.symm.trans same)
  refine ⟨read, mt (stays tree _ "SELECT" rfl (fun place member _ => ?_) (by decide)).mp (by decide), by decide⟩
  rw [listed, List.mem_singleton] at member
  subst member
  have item := @Written.limited "SELECT ".toList "`id`".toList (by decide)
  exact ⟨_, _, item, "`id`".toList, by decide, mt unquote_eq_nil_iff.mpr (by decide)⟩

/-- A list that names no column is no limit, and a place without a name is a privilege without one. -/
theorem empty_lists_widen :
    let tree := ofSnapshot { databases := [⟨"shop", [⟨"orders", none⟩], []⟩] }
    let limited := "GRANT SELECT () ON `shop`.`orders` TO `app`@`%`"
    let nameless := "GRANT () ON `shop`.`orders` TO `app`@`%`"
    Statement.parse limited = .ok ⟨.grant, [⟨"SELECT", []⟩], .table "shop" "orders", false⟩ ∧
      "SELECT" ∉ tree.held (.within "shop" (.table "orders")) ∧
      "SELECT" ∈ (tree.process [limited]).tree.held (.within "shop" (.table "orders")) ∧
      Statement.parse nameless = .ok ⟨.grant, [⟨"", []⟩], .table "shop" "orders", false⟩ ∧
      "" ∈ (tree.process [nameless]).tree.held (.within "shop" (.table "orders")) := by
  decide

end PrivilegeTree

end Mysql

end CredentialReach
