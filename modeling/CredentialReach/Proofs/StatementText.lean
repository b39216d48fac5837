import CredentialReach.Mysql.Statement
import CredentialReach.Proofs.QuotedText

/-! How a statement is written out: privileges in capital letters, names in backticks,
the account in quotes. What a statement does not say about its text is a layout. -/

namespace CredentialReach.Mysql

open Text

abbrev Gap := {text : List Char // ∀ c ∈ text, isBlank c = true}

/-- One half of an account. -/
structure Quotation where
  mark : Char
  isQuote : mark ∈ quoteMarks
  name : List Char

def Quotation.text (quotation : Quotation) : List Char := quoted quotation.mark quotation.name

/-- What the text of a statement leaves open: its account, the word before it, where
white space stands and how many semicolons end it. -/
structure Layout where
  before : Gap
  afterComma : Gap
  beforeColumns : Gap
  clause : List Char
  isClause : clause ∈ Statement.clauseEnds
  user : Quotation
  host : Quotation
  beforeEnd : Gap
  semicolons : Nat
  after : Gap

/-- As servers list their grants. -/
def Layout.listed : Layout where
  before := ⟨[], by simp⟩
  afterComma := ⟨[' '], List.forall_mem_singleton.mpr (by decide)⟩
  beforeColumns := ⟨[' '], List.forall_mem_singleton.mpr (by decide)⟩
  clause := " TO ".toList
  isClause := by decide
  user := ⟨backtick, by decide, "app".toList⟩
  host := ⟨backtick, by decide, ['%']⟩
  beforeEnd := ⟨[], by simp⟩
  semicolons := 0
  after := ⟨[], by simp⟩

def Action.keyword : Action → String
  | grant => "GRANT"
  | revoke => "REVOKE"

def RoutineKind.keyword : RoutineKind → String
  | procedure => "PROCEDURE"
  | function => "FUNCTION"

def quotedName (name : String) : List Char := quoted backtick name.toList

/-- An empty column list is not written. -/
def Layout.columnList (layout : Layout) : List String → List Char
  | [] => []
  | columns =>
    layout.beforeColumns.val ++
      '(' :: (joinWith (',' :: layout.afterComma.val) (columns.map quotedName) ++ [')'])

def Item.text (layout : Layout) (item : Item) : List Char :=
  item.privilege.toList ++ layout.columnList item.columns

def Target.text : Target → List Char
  | everything => "*.*".toList
  | database name => quotedName name ++ ".*".toList
  | table holder name => quotedName holder ++ '.' :: quotedName name
  | routine kind holder name =>
    kind.keyword.toList ++ ' ' :: (quotedName holder ++ '.' :: quotedName name)

namespace Statement

def itemsText (layout : Layout) (items : List Item) : List Char :=
  joinWith (',' :: layout.afterComma.val) (items.map (Item.text layout))

def accountText (layout : Layout) (statement : Statement) : List Char :=
  layout.user.text ++ '@' :: layout.host.text ++
    if statement.withGrantOption then ' ' :: grantOptionClause else []

def clauses (layout : Layout) (statement : Statement) : List Char :=
  itemsText layout statement.items ++ (" ON ".toList ++ (statement.target.text ++
    (layout.clause ++ statement.accountText layout)))

def text (layout : Layout) (statement : Statement) : List Char :=
  statement.action.keyword.toList ++ ' ' :: statement.clauses layout

def render (layout : Layout) (statement : Statement) : String :=
  String.ofList (layout.before.val ++ (statement.text layout ++
    (layout.beforeEnd.val ++ (List.replicate layout.semicolons ';' ++ layout.after.val))))

end Statement

def isLetter (c : Char) : Bool := (65 ≤ c.toNat && c.toNat ≤ 90) || c == '_'

structure IsWord (word : List Char) : Prop where
  some : word ≠ []
  letters : ∀ c ∈ word, isLetter c = true
  other : word ≠ "ON".toList

instance (word : List Char) : Decidable (IsWord word) :=
  decidable_of_iff (word ≠ [] ∧ word.all isLetter = true ∧ word ≠ "ON".toList)
    ⟨fun all => ⟨all.1, List.all_eq_true.mp all.2.1, all.2.2⟩,
      fun isWord => ⟨isWord.some, List.all_eq_true.mpr isWord.letters, isWord.other⟩⟩

/-- Words of capital letters with single spaces between them, none of which is `ON`. -/
def IsPhrase (privilege : String) : Prop :=
  ∃ words : List (List Char), words ≠ [] ∧ (∀ word ∈ words, IsWord word) ∧
    privilege.toList = joinWith [' '] words

def Target.names : Target → List String
  | everything => []
  | database name => [name]
  | table holder name | routine _ holder name => [holder, name]

def Statement.quotedNames (statement : Statement) : List String :=
  statement.target.names ++ statement.items.flatMap Item.columns

structure Statement.Writable (statement : Statement) : Prop where
  some : statement.items ≠ []
  phrases : ∀ item ∈ statement.items, IsPhrase item.privilege
  named : ∀ name ∈ statement.quotedNames, name ≠ ""

namespace Statement

variable {rest : List Char}

theorem afterKeyword?_append (keyword : List Char) (bare : ∀ c ∈ rest.head?, isBlank c = false) :
    afterKeyword? keyword (keyword ++ ' ' :: rest) = some rest := by
  have blank : isBlank ' ' = true := by decide
  have trimmed : trimStart (' ' :: rest) = rest := by
    rw [trimStart_cons blank, trimStart_of_head bare]
  simp [afterKeyword?, sameIgnoringCase, blank, trimmed]

theorem afterKeyword?_of_head {c k : Char} (other : c.toLower ≠ k.toLower) (keyword rest : List Char) :
    afterKeyword? (k :: keyword) (c :: rest) = none := by
  simp [afterKeyword?, sameIgnoringCase, lower, other]

end Statement

theorem sealed_quotedName {place : Place} (unquoted : place.quote = none) (separator : Char) (name : String) :
    Sealed separator place (quotedName name) := sealed_quoted (by decide) unquoted separator name.toList

theorem unquote_quotedName (name : String) : unquote (quotedName name) = name.toList :=
  unquote_quoted name.toList

theorem isLetter_iff {c : Char} : isLetter c = true ↔ (65 ≤ c.toNat ∧ c.toNat ≤ 90) ∨ c = '_' := by
  simp [isLetter]

theorem isBlank_of_isLetter {c : Char} (letter : isLetter c = true) : isBlank c = false := by
  rcases isLetter_iff.mp letter with ⟨low, high⟩ | rfl
  · simp [isBlank, inRanges, blankRanges]
    omega
  · decide

theorem ne_of_isLetter {c d : Char} (letter : isLetter c = true) (other : isLetter d = false) : c ≠ d := by
  rintro rfl
  simp [letter] at other

theorem isPlain_of_isLetter {c : Char} (letter : isLetter c = true) : Place.IsPlain c := by
  refine ⟨?_, ne_of_isLetter letter (by decide), ne_of_isLetter letter (by decide)⟩
  intro isQuote
  have other : ∀ mark ∈ quoteMarks, isLetter mark = false :=
    forall_quoteMarks (by decide) (by decide) (by decide)
  exact absurd letter (by simp [other c isQuote])

theorem toUpper_of_isLetter {c : Char} (letter : isLetter c = true) : c.toUpper = c := by
  rcases isLetter_iff.mp letter with ⟨low, high⟩ | rfl
  · refine dif_neg fun lower => ?_
    have least : 97 ≤ c.toNat := UInt32.le_iff_toNat_le.mp lower.1
    omega
  · decide

end CredentialReach.Mysql
