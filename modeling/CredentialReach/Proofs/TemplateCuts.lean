import CredentialReach.Collection.Listing
import CredentialReach.Proofs.TextMarks
import CredentialReach.Proofs.Traversals

/-! What a template comes to. It is cut at its placeholders, each time at the first one, and
that in one way only. Its plain stretches stay as they are, whatever braces they hold, and a
value is put in as it is: a placeholder that stands in a value is none. -/

namespace CredentialReach

open Text

namespace Template

def KeyChar (c : Char) : Prop :=
  'A' ≤ c ∧ c ≤ 'Z' ∨ 'a' ≤ c ∧ c ≤ 'z' ∨ '0' ≤ c ∧ c ≤ '9' ∨ c = '_' ∨ c = '.'

structure IsKey (key : List Char) : Prop where
  some : key ≠ []
  chars : ∀ c ∈ key, KeyChar c

def braced (key : List Char) : List Char := '\x7b' :: (key ++ ['\x7d'])

/-- No placeholder begins in the text where `rest` follows. -/
def Plain (text rest : List Char) : Prop := ∀ key, IsKey key → Clear (braced key) text rest

/-- A part of a template: plain text, and the key of the placeholder behind it. -/
structure Stretch where
  plain : List Char
  key : List Char

inductive Cut : (template : List Char) → List Stretch → (last : List Char) → Prop
  | last {text : List Char} (clear : Plain text []) : Cut text [] text
  | next {plain key rest last : List Char} {stretches : List Stretch} (isKey : IsKey key)
      (clear : Plain plain (braced key ++ rest)) (cut : Cut rest stretches last) :
      Cut (plain ++ (braced key ++ rest)) (⟨plain, key⟩ :: stretches) last

variable {template text rest last key : List Char} {c : Char} {stretches : List Stretch}

theorem isKeyChar_iff : isKeyChar c = true ↔ KeyChar c := by
  have tested : isKeyChar c = ((decide ('A' ≤ c ∧ c ≤ 'Z') || decide ('a' ≤ c) && decide (c ≤ 'z') ||
      decide ('0' ≤ c) && decide (c ≤ '9')) || c == '_' || c == '.') := rfl
  simp only [tested, KeyChar, Bool.or_eq_true, Bool.and_eq_true, decide_eq_true_eq, beq_iff_eq, or_assoc]

private theorem IsKey.not_mem_brace (isKey : IsKey key) : '\x7d' ∉ key := by
  intro member
  have brace := isKeyChar_iff.mpr (isKey.chars _ member)
  exact absurd brace (by decide)

theorem closing?_eq_some_iff :
    closing? text = some (key, rest) ↔ IsKey key ∧ text = key ++ '\x7d' :: rest := by
  constructor
  · intro found
    have whole : text.takeWhile isKeyChar ++ text.dropWhile isKeyChar = text :=
      List.takeWhile_append_dropWhile
    unfold closing? at found
    dsimp only at found
    split at found
    next shape =>
      split at found
      next => cases found
      next some =>
        cases found
        rw [shape] at whole
        have chars : ∀ c ∈ text.takeWhile isKeyChar, KeyChar c := by
          intro c member
          exact isKeyChar_iff.mp (List.mem_takeWhile_imp member)
        exact ⟨⟨by simpa using some, chars⟩, whole.symm⟩
    next => cases found
  · rintro ⟨⟨some, chars⟩, rfl⟩
    have chars : ∀ c ∈ key, isKeyChar c = true := fun c member => isKeyChar_iff.mpr (chars c member)
    have brace : isKeyChar '\x7d' = false := by decide
    have key_eq : (key ++ '\x7d' :: rest).takeWhile isKeyChar = key := by
      simp [List.takeWhile_append_of_pos chars, brace]
    have rest_eq : (key ++ '\x7d' :: rest).dropWhile isKeyChar = '\x7d' :: rest := by
      simp [List.dropWhile_append_of_pos chars, brace]
    unfold closing?
    simp only [key_eq, rest_eq]
    simp [some]

theorem braced_append (key rest : List Char) : braced key ++ rest = '\x7b' :: (key ++ '\x7d' :: rest) := by
  simp [braced]

theorem pieces_braced (isKey : IsKey key) (rest : List Char) :
    pieces (braced key ++ rest) = .placeholder key :: pieces rest := by
  have found : closing? (key ++ '\x7d' :: rest) = some (key, rest) := closing?_eq_some_iff.mpr ⟨isKey, rfl⟩
  rw [braced_append, pieces, if_pos rfl]
  split
  next other =>
    rw [found] at other
    cases other
    rfl
  next other =>
    rw [found] at other
    cases other

/-- A character at which no placeholder begins stands for itself. -/
theorem pieces_cons_of_absent (absent : ∀ key, IsKey key → ¬ braced key <+: c :: text) :
    pieces (c :: text) = .literal c :: pieces text := by
  rw [pieces]
  split
  next opened =>
    subst opened
    split
    next found =>
      obtain ⟨isKey, rfl⟩ := closing?_eq_some_iff.mp found
      exact absurd ⟨_, braced_append ..⟩ (absent _ isKey)
    next => rfl
  next => rfl

private theorem plain_nil (rest : List Char) : Plain [] rest := fun _ _ => trivial

theorem pieces_plain_append (clear : Plain text rest) :
    pieces (text ++ rest) = text.map Piece.literal ++ pieces rest := by
  induction text with
  | nil => rfl
  | cons c text ih =>
    rw [List.cons_append, pieces_cons_of_absent fun key isKey => (clear key isKey).1,
      ih fun key isKey => (clear key isKey).2]
    rfl

/-- Every template can be cut. -/
theorem exists_cut (template : List Char) : ∃ stretches last, Cut template stretches last := by
  induction length : template.length using Nat.strong_induction_on generalizing template with
  | h size ih =>
    subst length
    by_cases starts : ∃ key, IsKey key ∧ braced key <+: template
    · obtain ⟨key, isKey, rest, rfl⟩ := starts
      obtain ⟨stretches, last, cut⟩ := ih rest.length (by simp [braced]; omega) rest rfl
      exact ⟨_, _, .next isKey (plain_nil _) cut⟩
    · cases template with
      | nil => exact ⟨[], [], .last (plain_nil _)⟩
      | cons c text =>
        obtain ⟨stretches, last, cut⟩ := ih text.length (by simp) text rfl
        have absent : ∀ key, IsKey key → ¬ braced key <+: c :: text := fun key isKey begins =>
          starts ⟨key, isKey, begins⟩
        cases cut with
        | last clear =>
          refine ⟨[], c :: text, .last fun key isKey => ⟨?_, clear key isKey⟩⟩
          simpa using absent key isKey
        | next isKey clear cut =>
          rw [← List.cons_append]
          exact ⟨_, _, .next isKey (fun key isKey => ⟨absent key isKey, clear key isKey⟩) cut⟩

private theorem Plain.not_braced {plain : List Char} (clear : Plain (plain ++ (braced key ++ rest)) []) :
    ¬ IsKey key := by
  intro isKey
  have longer := (clear key isKey).length_le (List.append_nil _)
  rw [braced, List.length_append, List.length_append, List.length_cons] at longer
  omega

/-- A template is cut in one way only. -/
theorem Cut.unique {other otherLast : List Char} {others : List Stretch} (cut : Cut template stretches last)
    (again : Cut other others otherLast) (same : template = other) :
    stretches = others ∧ last = otherLast := by
  -- Both cuts begin with the first placeholder, so they agree in the stretch before it.
  induction cut generalizing other others with
  | last clear =>
    cases again with
    | last => exact ⟨rfl, same⟩
    | next isKey =>
      subst same
      exact absurd isKey clear.not_braced
  | @next plain key rest _ _ isKey clear _ ih =>
    cases again with
    | last otherClear =>
      subst same
      exact absurd isKey otherClear.not_braced
    | @next otherPlain otherKey otherRest _ _ otherIsKey otherClear otherCut =>
      have before := (clear otherKey otherIsKey).length_le same
      have behind := (otherClear key isKey).length_le same.symm
      obtain ⟨rfl, placeholders⟩ := List.append_inj same (Nat.le_antisymm before behind)
      rw [braced_append, braced_append, List.cons_inj_right] at placeholders
      obtain ⟨rfl, closed⟩ := append_inj_of_separator isKey.not_mem_brace otherIsKey.not_mem_brace
        (by simp) (by simp) placeholders
      obtain ⟨rfl, rfl⟩ := ih otherCut (List.cons.inj closed).2
      exact ⟨rfl, rfl⟩

private theorem Cut.pieces_eq (cut : Cut template stretches last) :
    pieces template = stretches.flatMap (fun stretch =>
      stretch.plain.map Piece.literal ++ [.placeholder stretch.key]) ++ last.map Piece.literal := by
  induction cut with
  | @last text clear =>
    have whole := pieces_plain_append clear
    rw [List.append_nil] at whole
    rw [whole, pieces, List.append_nil]
    rfl
  | next isKey clear _ ih =>
    rw [pieces_plain_append clear, pieces_braced isKey, ih]
    simp

/-- The plain stretches, each with a value behind it. -/
def joined (stretches : List Stretch) (values : List String) (last : List Char) : List Char :=
  (List.zipWith (fun stretch value => stretch.plain ++ value.toList) stretches values).flatten ++ last

variable {value? : List Char → Option String}

def assemble (value? : List Char → Option String) (pieces : List Piece) : Except (List Char) (List Char) :=
  List.flatten <$> pieces.mapM (Piece.fill value?)

theorem assemble_literals (plain : List Char) (pieces : List Piece) :
    assemble value? (plain.map Piece.literal ++ pieces) = (plain ++ ·) <$> assemble value? pieces := by
  have parts : (plain.map Piece.literal).mapM (Piece.fill value?) = .ok (plain.map ([·])) := by
    rw [mapM_eq_ok_iff, List.forall₂_map_left_iff, List.forall₂_map_right_iff, List.forall₂_same]
    exact fun _ _ => rfl
  unfold assemble
  rw [List.mapM_append, parts]
  cases pieces.mapM (Piece.fill value?) with
  | error key => rfl
  | ok others => simp [bind, Except.bind, pure, Except.pure, ← List.flatMap_def]

private theorem assemble_known {value : String} (known : value? key = some value) (pieces : List Piece) :
    assemble value? (.placeholder key :: pieces) = (value.toList ++ ·) <$> assemble value? pieces := by
  unfold assemble
  rw [List.mapM_cons, Piece.fill, known]
  cases pieces.mapM (Piece.fill value?) <;> rfl

private theorem assemble_unknown (unknown : value? key = none) (pieces : List Piece) :
    assemble value? (.placeholder key :: pieces) = .error key := by
  unfold assemble
  rw [List.mapM_cons, Piece.fill, unknown]
  rfl

private theorem assemble_last (last : List Char) : assemble value? (last.map Piece.literal) = .ok last := by
  rw [← List.append_nil (last.map Piece.literal), assemble_literals]
  exact congrArg Except.ok (List.append_nil last)

private theorem Cut.assemble_eq_ok_iff (cut : Cut template stretches last) {text : List Char} :
    assemble value? (pieces template) = .ok text ↔
      ∃ values, List.Forall₂ (fun stretch value => value? stretch.key = some value) stretches values ∧
        text = joined stretches values last := by
  induction cut generalizing text with
  | @last plain clear =>
    rw [(Cut.last clear).pieces_eq, List.flatMap_nil, List.nil_append, assemble_last, Except.ok.injEq]
    simp [joined, eq_comm]
  | @next plain key rest last stretches isKey clear cut ih =>
    rw [pieces_plain_append clear, pieces_braced isKey, assemble_literals, map_eq_ok_iff]
    cases known : value? key with
    | none =>
      rw [assemble_unknown known]
      simp [known, List.forall₂_cons_left_iff]
    | some value =>
      rw [assemble_known known]
      simp only [map_eq_ok_iff, ih]
      constructor
      · rintro ⟨_, ⟨_, ⟨values, valued, rfl⟩, rfl⟩, rfl⟩
        exact ⟨value :: values, .cons known valued, by simp [joined]⟩
      · rintro ⟨_, whole, rfl⟩
        obtain ⟨first, values, same, valued, rfl⟩ := List.forall₂_cons_left_iff.mp whole
        obtain rfl : first = value := Option.some.inj (same.symm.trans known)
        exact ⟨_, ⟨_, ⟨values, valued, rfl⟩, rfl⟩, by simp [joined]⟩

/-- The first stretch whose key has no value. -/
structure Lacks (value? : List Char → Option String) (stretches : List Stretch) (missing : List Char) :
    Prop where
  first : ∃ before plain after, stretches = before ++ ⟨plain, missing⟩ :: after ∧
    ∀ stretch ∈ before, (value? stretch.key).isSome
  unknown : value? missing = none

private theorem lacks_cons_iff {stretch : Stretch} {missing : List Char} :
    Lacks value? (stretch :: stretches) missing ↔
      value? stretch.key = none ∧ stretch.key = missing ∨
        (value? stretch.key).isSome ∧ Lacks value? stretches missing := by
  constructor
  · rintro ⟨⟨before, plain, after, whole, known⟩, unknown⟩
    cases before with
    | nil =>
      cases whole
      exact .inl ⟨unknown, rfl⟩
    | cons head before =>
      cases whole
      obtain ⟨first, known⟩ := List.forall_mem_cons.mp known
      exact .inr ⟨first, ⟨before, plain, after, rfl, known⟩, unknown⟩
  · rintro (⟨unknown, rfl⟩ | ⟨first, ⟨before, plain, after, rfl, known⟩, unknown⟩)
    · exact ⟨⟨[], stretch.plain, stretches, rfl, nofun⟩, unknown⟩
    · exact ⟨⟨stretch :: before, plain, after, rfl, List.forall_mem_cons.mpr ⟨first, known⟩⟩, unknown⟩

private theorem Cut.assemble_eq_error_iff (cut : Cut template stretches last) {missing : List Char} :
    assemble value? (pieces template) = .error missing ↔ Lacks value? stretches missing := by
  induction cut with
  | @last plain clear =>
    rw [(Cut.last clear).pieces_eq, List.flatMap_nil, List.nil_append, assemble_last]
    refine ⟨nofun, fun ⟨⟨before, _, _, whole, _⟩, _⟩ => ?_⟩
    simp at whole
  | @next plain key rest last stretches isKey clear cut ih =>
    rw [pieces_plain_append clear, pieces_braced isKey, assemble_literals, map_eq_error_iff, lacks_cons_iff]
    cases known : value? key with
    | none =>
      rw [assemble_unknown known, Except.error.injEq]
      simp
    | some value =>
      rw [assemble_known known, map_eq_error_iff, ih]
      simp

private theorem render_eq (template : String) (value? : List Char → Option String) :
    render template value? = String.ofList <$> assemble value? (pieces template.toList) := by
  unfold render assemble
  cases (pieces template.toList).mapM (Piece.fill value?) <;> rfl

end Template

namespace Listing

open Template

variable {template : String} {stretches : List Stretch} {last : List Char}
  {value? : List Char → Option String}

theorem fill_eq_ok_iff (cut : Cut template.toList stretches last) {text : String} :
    fill template value? = .ok text ↔
      ∃ values, List.Forall₂ (fun stretch value => value? stretch.key = some value) stretches values ∧
        text.toList = joined stretches values last := by
  have filled : fill template value? = .ok text ↔ render template value? = .ok text := by
    unfold fill
    cases render template value? <;> simp [Except.mapError]
  rw [filled, render_eq, map_eq_ok_iff]
  simp only [cut.assemble_eq_ok_iff]
  constructor
  · rintro ⟨_, ⟨values, valued, rfl⟩, rfl⟩
    exact ⟨values, valued, String.toList_ofList⟩
  · rintro ⟨values, valued, same⟩
    exact ⟨_, ⟨values, valued, rfl⟩, same ▸ String.ofList_toList⟩

theorem fill_eq_error_iff (cut : Cut template.toList stretches last) {fault : CollectionFault} :
    fill template value? = .error fault ↔
      ∃ key, Lacks value? stretches key ∧ fault = .noValue (String.ofList key) template := by
  have failed : fill template value? = .error fault ↔ ∃ key, render template value? = .error key ∧
      fault = .noValue (String.ofList key) template := by
    unfold fill
    cases render template value? <;> simp [Except.mapError, eq_comm]
  rw [failed]
  simp only [render_eq, map_eq_error_iff, cut.assemble_eq_error_iff]

/-- A template can be filled in if each of its keys has a value. -/
theorem exists_fill_iff (cut : Cut template.toList stretches last) :
    (∃ text, fill template value? = .ok text) ↔ ∀ stretch ∈ stretches, (value? stretch.key).isSome := by
  constructor
  · rintro ⟨text, filled⟩ stretch member
    obtain ⟨values, valued, _⟩ := (fill_eq_ok_iff cut).mp filled
    obtain ⟨value, _, known⟩ := exists_related valued member
    exact Option.isSome_of_eq_some known
  · intro known
    cases filled : fill template value? with
    | ok text => exact ⟨text, rfl⟩
    | error fault =>
      obtain ⟨key, ⟨⟨before, plain, after, rfl, _⟩, unknown⟩, _⟩ := (fill_eq_error_iff cut).mp filled
      have some := known ⟨plain, key⟩ (by simp)
      rw [unknown] at some
      cases some

/-- What a template comes to in one pass over its stretches. -/
structure OnePass (template : String) (stretches : List Stretch) (last : List Char) : Prop where
  cut : Cut template.toList stretches last
  only : ∀ others otherLast, Cut template.toList others otherLast → others = stretches ∧ otherLast = last
  filled : ∀ value? text, fill template value? = .ok text ↔
    ∃ values, List.Forall₂ (fun stretch value => value? stretch.key = some value) stretches values ∧
      text.toList = joined stretches values last
  complete : ∀ value?, (∃ text, fill template value? = .ok text) ↔
    ∀ stretch ∈ stretches, (value? stretch.key).isSome
  lacking : ∀ value? fault, fill template value? = .error fault ↔
    ∃ key, Lacks value? stretches key ∧ fault = .noValue (String.ofList key) template
  /-- Of the containing resources, a path holds the fields that its template names, and no others. -/
  path : ∀ (listing : Listing) (parent : Option Resource) (request : Request), listing.path = template →
    (listing.request parent = .ok request ↔ ∃ values,
      List.Forall₂ (fun stretch value => ownerValue? (lineage parent) stretch.key = some value) stretches values ∧
        request = .get (String.ofList (joined stretches values last)))
  /-- So does a full name, which can name the item as well. -/
  fullName : ∀ (listing : Listing) (id name : String) (parent : Option Resource) (text : String),
    listing.fullName = some template →
    (listing.fullNameOf id name parent = .ok text ↔ ∃ values,
      List.Forall₂ (fun stretch value => itemValue? id name parent stretch.key = some value) stretches values ∧
        text.toList = joined stretches values last)

/-- Every template is cut in one way, whatever it is filled in with. Its plain text is kept and the
values are put in as they are; where keys have no value, the fault tells of the first one. -/
theorem fill_in_one_pass (template : String) : ∃ stretches last, OnePass template stretches last := by
  obtain ⟨stretches, last, cut⟩ := exists_cut template.toList
  refine ⟨stretches, last, cut, ?_, fun _ _ => fill_eq_ok_iff cut, fun _ => exists_fill_iff cut,
    fun _ _ => fill_eq_error_iff cut, ?_, ?_⟩
  · exact fun others otherLast other => other.unique cut rfl
  · rintro listing parent request rfl
    unfold Listing.request
    rw [map_eq_ok_iff]
    simp only [fill_eq_ok_iff cut]
    constructor
    · rintro ⟨path, ⟨values, valued, same⟩, rfl⟩
      exact ⟨values, valued, by rw [← same, String.ofList_toList]⟩
    · rintro ⟨values, valued, rfl⟩
      exact ⟨_, ⟨values, valued, String.toList_ofList⟩, rfl⟩
  · intro listing id name parent text named
    unfold fullNameOf
    rw [named]
    exact fill_eq_ok_iff cut

/-- Braces that enclose no key stand for themselves, and so do those of a value. -/
example : fill "\x7b\x7bid\x7d/\x7b\x7d\x7b-" (itemValue? "\x7bname\x7d" "web" none) =
    .ok "\x7b\x7bname\x7d/\x7b\x7d\x7b-" := by
  decide +kernel

end Listing

end CredentialReach
