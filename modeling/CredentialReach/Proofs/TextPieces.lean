import CredentialReach.Proofs.QuotedText
import CredentialReach.Text.Percent

/-! Texts in pieces. The pieces between separators make up the text again, and pieces that have no
separator in them are found again where they were joined. What has been percent-encoded has nothing
left to encode, so that a second encoding changes nothing. -/

namespace CredentialReach.Text

variable {separator : Char} {text rest : List Char}

theorem splitAt_separator (separator : Char) (rest : List Char) :
    splitAt separator (separator :: rest) = [] :: splitAt separator rest := by
  rw [splitAt, splitWhere, if_pos (beq_self_eq_true separator)]
  rfl

private theorem splitAt_append {piece : List Char} {pieces : List (List Char)} (free : separator ∉ text)
    (later : splitAt separator rest = piece :: pieces) :
    splitAt separator (text ++ rest) = (text ++ piece) :: pieces :=
  splitWhere_append (fun _ member => beq_false_of_ne fun same => free (same ▸ member)) later

private theorem splitAt_free (free : separator ∉ text) : splitAt separator text = [text] := by
  have whole : splitAt separator (text ++ []) = [text ++ []] := splitAt_append free rfl
  rwa [List.append_nil] at whole

theorem splitAt_cons {c : Char} {piece : List Char} {pieces : List (List Char)} (other : c ≠ separator)
    (later : splitAt separator rest = piece :: pieces) :
    splitAt separator (c :: rest) = (c :: piece) :: pieces :=
  splitAt_append (fun member => other (List.mem_singleton.mp member).symm) later

private theorem exists_splitAt (separator : Char) (text : List Char) :
    ∃ piece pieces, splitAt separator text = piece :: pieces := by
  induction text with
  | nil => exact ⟨[], [], rfl⟩
  | cons c rest ih =>
    by_cases same : c = separator
    · subst same
      exact ⟨_, _, splitAt_separator c rest⟩
    · obtain ⟨piece, pieces, split⟩ := ih
      exact ⟨_, _, splitAt_cons same split⟩

theorem splitAt_append_separator (separator : Char) (text rest : List Char) :
    splitAt separator (text ++ separator :: rest) = splitAt separator text ++ splitAt separator rest := by
  induction text with
  | nil => exact splitAt_separator separator rest
  | cons c text ih =>
    by_cases same : c = separator
    · subst same
      rw [List.cons_append, splitAt_separator, splitAt_separator, ih, List.cons_append]
    · obtain ⟨piece, pieces, split⟩ := exists_splitAt separator text
      rw [split, List.cons_append] at ih
      rw [List.cons_append, splitAt_cons same split, splitAt_cons same ih, List.cons_append]

theorem splitAt_joinWith {pieces : List (List Char)} (some : pieces ≠ [])
    (free : ∀ piece ∈ pieces, separator ∉ piece) :
    splitAt separator (joinWith [separator] pieces) = pieces := by
  induction pieces with
  | nil => exact absurd rfl some
  | cons piece others ih =>
    have first := splitAt_free (free piece List.mem_cons_self)
    by_cases more : others = []
    · subst more
      exact first
    · have later := ih more fun other member => free other (List.mem_cons_of_mem piece member)
      rw [joinWith_cons more, List.append_assoc, List.singleton_append, splitAt_append_separator,
        first, later]
      rfl

theorem joinWith_cons_cons (c : Char) (between piece : List Char) (pieces : List (List Char)) :
    joinWith between ((c :: piece) :: pieces) = c :: joinWith between (piece :: pieces) := by
  cases pieces <;> rfl

theorem joinWith_splitAt (separator : Char) (text : List Char) :
    joinWith [separator] (splitAt separator text) = text := by
  induction text with
  | nil => rfl
  | cons c rest ih =>
    obtain ⟨piece, pieces, split⟩ := exists_splitAt separator rest
    by_cases same : c = separator
    · subst same
      rw [splitAt_separator, joinWith_cons (split ▸ List.cons_ne_nil _ _), ih]
      rfl
    · rw [splitAt_cons same split, joinWith_cons_cons, ← split, ih]

theorem mem_piece {piece : List Char} (member : piece ∈ splitAt separator text) {c : Char}
    (inside : c ∈ piece) : c ∈ text ∧ c ≠ separator := by
  have letter : c ∈ (splitAt separator text).flatten := List.mem_flatten.mpr ⟨piece, member, inside⟩
  rw [splitAt, flatten_splitWhere] at letter
  simpa using letter

variable {escapes : Char → Bool} {c : Char}

def encodingChars : List Char := "%0123456789ABCDEF".toList

private theorem upperHexDigit_mem : ∀ n < 16, upperHexDigit n ∈ encodingChars := by decide

private theorem percentByte_mem (byte : UInt8) (member : c ∈ percentByte byte) : c ∈ encodingChars := by
  have small : byte.toNat < 256 := byte.toNat_lt
  have high := upperHexDigit_mem (byte.toNat / 16) (by omega)
  have low := upperHexDigit_mem (byte.toNat % 16) (by omega)
  simp only [percentByte, List.mem_cons, List.not_mem_nil, or_false] at member
  rcases member with rfl | rfl | rfl
  · decide
  · exact high
  · exact low

theorem mem_percentEncode (member : c ∈ percentEncode escapes text) :
    c ∈ encodingChars ∨ c ∈ text ∧ escapes c = false := by
  obtain ⟨d, written, inside⟩ := List.mem_flatMap.mp member
  by_cases escaped : escapes d
  · rw [if_pos escaped] at inside
    obtain ⟨byte, -, digit⟩ := List.mem_flatMap.mp inside
    exact .inl (percentByte_mem byte digit)
  · rw [if_neg escaped, List.mem_singleton] at inside
    subst inside
    exact .inr ⟨written, by simpa using escaped⟩

theorem percentEncode_of_unescaped (unescaped : ∀ c ∈ text, escapes c = false) :
    percentEncode escapes text = text := by
  induction text with
  | nil => rfl
  | cons c rest ih =>
    have later := ih fun d member => unescaped d (List.mem_cons_of_mem c member)
    rw [percentEncode] at later ⊢
    rw [List.flatMap_cons, later, unescaped c List.mem_cons_self]
    rfl

theorem utf8EncodeChar_ne_nil (c : Char) : String.utf8EncodeChar c ≠ [] := by
  rw [← List.length_pos_iff, String.length_utf8EncodeChar]
  exact c.utf8Size_pos

theorem percentEncode_ne_nil (some : text ≠ []) : percentEncode escapes text ≠ [] := by
  obtain ⟨c, rest, rfl⟩ := List.exists_cons_of_ne_nil some
  obtain ⟨byte, bytes, encoded⟩ := List.exists_cons_of_ne_nil (utf8EncodeChar_ne_nil c)
  rw [percentEncode, List.flatMap_cons]
  refine List.append_ne_nil_of_left_ne_nil ?_ _
  split
  · rw [encoded, List.flatMap_cons]
    exact List.cons_ne_nil _ _
  · exact List.cons_ne_nil _ _

/-- What is not encoded is not a character that is. -/
theorem ne_of_unescaped {mark : Char} (unescaped : escapes c = false) (escaped : escapes mark = true) :
    c ≠ mark := by
  rintro rfl
  rw [unescaped] at escaped
  cases escaped

theorem unescaped_of_mem (marks : encodingChars.any escapes = false)
    (member : c ∈ percentEncode escapes text) : escapes c = false := by
  rcases mem_percentEncode member with mark | ⟨-, unescaped⟩
  · simpa using List.any_eq_false.mp marks c mark
  · exact unescaped

/-- Whether a character is ASCII, and neither white space nor a control character. -/
def isVisible (c : Char) : Bool := !isControl c && c != ' '

theorem toNat_of_isVisible (visible : isVisible c = true) : 0x20 < c.toNat ∧ c.toNat ≤ 0x7E := by
  simp only [isVisible, isControl, Bool.and_eq_true, Bool.not_eq_true', Bool.or_eq_false_iff,
    decide_eq_false_iff_not, bne_iff_ne] at visible
  have other : c.toNat ≠ ' '.toNat := fun same => visible.2 (Char.toNat_inj.mp same)
  have space : ' '.toNat = 0x20 := rfl
  omega

private theorem isBlank_of_isVisible (visible : isVisible c = true) : isBlank c = false := by
  have code := toNat_of_isVisible visible
  have outside : ∀ range ∈ blankRanges, range.2 ≤ 0x20 ∨ 0x7E < range.1 := by decide
  refine List.any_eq_false.mpr fun range member => ?_
  rw [Bool.and_eq_true, decide_eq_true_eq, decide_eq_true_eq]
  rcases outside range member with low | high <;> omega

/-- What is left as it is by an encoding of control characters and spaces can be seen. -/
theorem isVisible_of_unescaped (controls : ∀ c, isControl c = true → escapes c = true)
    (spaces : escapes ' ' = true) (unescaped : escapes c = false) : isVisible c = true := by
  have printed : isControl c = false := by
    by_contra control
    rw [controls c (by simpa using control)] at unescaped
    cases unescaped
  simp [isVisible, printed, ne_of_unescaped unescaped spaces]

theorem trim_of_isVisible (visible : ∀ c ∈ text, isVisible c = true) : trim text = text :=
  trim_of_ends (fun c first => isBlank_of_isVisible (visible c (List.mem_of_mem_head? first)))
    fun c last => isBlank_of_isVisible (visible c (List.mem_of_mem_getLast? last))

/-- What a list of characters says is decided one by one, not for every character there is. -/
theorem forall_mem_of_all {holds : Char → Prop} [DecidablePred holds] {chars : List Char}
    (all : chars.all (holds ·) = true) : ∀ c ∈ chars, holds c := by
  simpa using all

end CredentialReach.Text
