import Mathlib.Data.String.Basic
import Mathlib.Tactic.SplitIfs

/-! The order of texts. Texts are compared character by character; comparing the bytes of their
UTF-8 encodings comes to the same. -/

namespace CredentialReach

namespace Text

def bytes (text : String) : List UInt8 := text.toUTF8.data.toList

private theorem bytes_eq (text : String) : bytes text = text.toList.flatMap String.utf8EncodeChar := by
  unfold bytes String.toUTF8
  rw [← String.utf8Encode_toList, List.utf8Encode, List.toList_data_toByteArray]

/-- A smaller code point has the smaller encoding, whatever comes after it. -/
theorem encoded_lt {c d : Char} (below : c < d) (s t : List UInt8) :
    String.utf8EncodeChar c ++ s < String.utf8EncodeChar d ++ t := by
  have codes : c.val.toNat < d.val.toNat := below
  have last : d.val.toNat < 0x110000 := d.valid.elim (by omega) (by omega)
  unfold String.utf8EncodeChar
  generalize c.val.toNat = low at codes
  generalize d.val.toNat = high at codes last
  -- The first byte is the smaller one in the shorter encoding. In two that are as long as each
  -- other the bytes are the digits of the code points.
  simp only
  split_ifs <;>
    (simp only [List.cons_append, List.nil_append, List.cons_lt_cons_iff, UInt8.lt_iff_toNat_lt,
      ← UInt8.toNat_inj, UInt8.toNat_ofNat']
     simp (disch := omega) only [Nat.mod_eq_of_lt]
     omega)

private theorem flatMap_encoded_lt {first second : List Char} (below : first < second) :
    first.flatMap String.utf8EncodeChar < second.flatMap String.utf8EncodeChar := by
  induction first generalizing second with
  | nil =>
    cases second with
    | nil => exact absurd below (List.lt_irrefl [])
    | cons d t =>
      obtain ⟨byte, bytes, encoded⟩ := List.exists_cons_of_ne_nil (@String.utf8EncodeChar_ne_nil d)
      rw [List.flatMap_cons, encoded]
      exact List.nil_lt_cons ..
  | cons c s ih =>
    cases second with
    | nil => exact absurd below (List.not_lt_nil _)
    | cons d t =>
      rw [List.flatMap_cons, List.flatMap_cons]
      rcases List.cons_lt_cons_iff.mp below with smaller | ⟨rfl, rest⟩
      · exact encoded_lt smaller _ _
      · exact List.append_left_lt (ih rest)

theorem bytes_lt {first second : String} (below : first < second) : bytes first < bytes second := by
  rw [bytes_eq, bytes_eq]
  exact flatMap_encoded_lt below

private theorem bytes_lt_iff {first second : String} : bytes first < bytes second ↔ first < second := by
  constructor
  · intro below
    rcases lt_trichotomy first second with smaller | same | greater
    · exact smaller
    · exact absurd (same ▸ below) (List.lt_irrefl _)
    · exact absurd (bytes_lt greater) (List.lt_asymm below)
  · exact bytes_lt

theorem bytes_le_iff {first second : String} : bytes first ≤ bytes second ↔ first ≤ second := by
  rw [← List.not_lt, ← String.not_lt, bytes_lt_iff]

end Text

end CredentialReach
