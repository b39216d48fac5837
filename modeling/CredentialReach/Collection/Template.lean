import CredentialReach.Text.Search

/-! Templates: text with names in braces, each of which stands for a value. -/

namespace CredentialReach.Template

inductive Piece where
  | literal (c : Char)
  | placeholder (key : List Char)
deriving DecidableEq, Repr

def isKeyChar (c : Char) : Bool := c.isAlphanum || c == '_' || c == '.'

/-- The placeholder whose opening brace has just been read, and the rest. -/
def closing? (text : List Char) : Option (List Char × List Char) :=
  let key := text.takeWhile isKeyChar
  match text.dropWhile isKeyChar with
  | '\x7d' :: rest => if key.isEmpty then none else some (key, rest)
  | _ => none

theorem length_of_closing? {text key rest : List Char} (found : closing? text = some (key, rest)) :
    rest.length < text.length := by
  simp only [closing?] at found
  have kept := congrArg List.length (List.takeWhile_append_dropWhile (p := isKeyChar) (l := text))
  split at found
  · rename_i tail shape
    split at found
    · simp at found
    · simp only [Option.some.injEq, Prod.mk.injEq] at found
      rw [shape] at kept
      simp only [List.length_append, List.length_cons] at kept
      rw [← found.2]
      omega
  · simp at found

/-- The placeholders of a template and the characters between them. A brace
that is part of no placeholder stands for itself. -/
def pieces : List Char → List Piece
  | [] => []
  | c :: rest =>
    if c = '\x7b' then
      match _found : closing? rest with
      | some (key, tail) => .placeholder key :: pieces tail
      | none => .literal c :: pieces rest
    else .literal c :: pieces rest
termination_by text => text.length
decreasing_by
  · have := length_of_closing? _found
    simp only [List.length_cons]
    omega
  · simp
  · simp

def Piece.fill (value? : List Char → Option String) : Piece → Except (List Char) (List Char)
  | literal c => .ok [c]
  | placeholder key =>
    match value? key with
    | some value => .ok value.toList
    | none => .error key

/-- The template with every placeholder filled in; the fault is the first key
without a value. -/
def render (template : String) (value? : List Char → Option String) :
    Except (List Char) String := do
  let filled ← (pieces template.toList).mapM (Piece.fill value?)
  return String.ofList filled.flatten

end CredentialReach.Template
