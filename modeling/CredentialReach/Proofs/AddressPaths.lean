import CredentialReach.Proofs.HiddenPasswords
import CredentialReach.Proofs.TextPieces

/-! Paths as they are written. No dotted step is left in a path that was read, and nothing in it is
left to encode. So it is read again as it is, and so is any stretch of it between slashes. -/

namespace CredentialReach.Url

open Text

structure IsStep (step : List Char) : Prop where
  notDot : isDot step = false
  notDoubleDot : isDoubleDot step = false
  unescaped : ∀ c ∈ step, escapedInPath c = false

def IsWalked (path : List Char) : Prop := ∀ step ∈ splitAt '/' path, IsStep step

variable {path rest : List Char} {steps walked : List (List Char)}

private theorem isStep_nil : IsStep [] where
  notDot := by decide
  notDoubleDot := by decide
  unescaped _ member := absurd member List.not_mem_nil

theorem isWalked_nil : IsWalked [] := fun _ member => List.mem_singleton.mp member ▸ isStep_nil

private theorem isWalked_append : IsWalked (path ++ '/' :: rest) ↔ IsWalked path ∧ IsWalked rest := by
  unfold IsWalked
  rw [splitAt_append_separator, List.forall_mem_append]

theorem isWalked_slash : IsWalked ('/' :: path) ↔ IsWalked path := by
  have whole : IsWalked ([] ++ '/' :: path) ↔ IsWalked [] ∧ IsWalked path := isWalked_append
  exact whole.trans (and_iff_right isWalked_nil)

theorem IsWalked.unescaped (walked : IsWalked path) : ∀ c ∈ path, escapedInPath c = false := by
  intro c member
  by_cases slash : c = '/'
  · subst slash
    decide
  · have inside : c ∈ (splitAt '/' path).flatten := by
      rw [splitAt, flatten_splitWhere]
      simpa [slash] using member
    obtain ⟨step, listed, inside⟩ := List.mem_flatten.mp inside
    exact (walked step listed).unescaped c inside

theorem IsWalked.dropWhile (walked : IsWalked path) : IsWalked (path.dropWhile (· == '/')) := by
  induction path with
  | nil => exact walked
  | cons c rest ih =>
    rw [List.dropWhile_cons]
    split
    next slash =>
      obtain rfl := eq_of_beq slash
      exact ih (isWalked_slash.mp walked)
    next => exact walked

theorem IsWalked.rdropWhile (walked : IsWalked path) : IsWalked (path.rdropWhile (· == '/')) := by
  induction path using List.reverseRecOn with
  | nil => exact walked
  | append_singleton rest c ih =>
    by_cases slash : c = '/'
    · subst slash
      rw [List.rdropWhile_concat_pos _ _ _ (by decide)]
      exact ih (isWalked_append.mp walked).1
    · rwa [List.rdropWhile_concat_neg _ _ _ (by simpa using slash)]

private theorem mem_of_mem_goBack {step : List Char} (member : step ∈ goBack walked) : step ∈ walked := by
  unfold goBack at member
  split at member
  next => exact member
  next =>
    split at member
    next => exact member
    next => exact List.mem_cons_of_mem _ member

/-- What remains of steps are those without dots, and an empty one behind the last slash. -/
theorem forall_walk {keeps : List Char → Prop} (empty : keeps [])
    (kept : ∀ step ∈ steps, isDot step = false → isDoubleDot step = false → keeps step)
    (before : ∀ step ∈ walked, keeps step) : ∀ step ∈ walk walked steps, keeps step := by
  induction steps generalizing walked with
  | nil => exact before
  | cons step rest ih =>
    have next : ∀ other ∈ (if isDoubleDot step then goBack walked
        else if isDot step then walked else step :: walked), keeps other := by
      split
      next => exact fun other member => before other (mem_of_mem_goBack member)
      next several =>
        split
        next => exact before
        next single =>
          exact List.forall_mem_cons.mpr ⟨kept step List.mem_cons_self (by simpa using single)
            (by simpa using several), before⟩
    rw [walk]
    split
    next => exact List.forall_mem_cons.mpr ⟨empty, next⟩
    next => exact ih (fun other member => kept other (List.mem_cons_of_mem step member)) next

private theorem walk_of_undotted (undotted : ∀ step ∈ steps, isDot step = false ∧ isDoubleDot step = false) :
    walk walked steps = steps.reverse ++ walked := by
  induction steps generalizing walked with
  | nil => rfl
  | cons step rest ih =>
    obtain ⟨single, several⟩ := undotted step List.mem_cons_self
    have later : walk (step :: walked) rest = rest.reverse ++ step :: walked :=
      ih fun other member => undotted other (List.mem_cons_of_mem step member)
    simp [walk, single, several, later]

private theorem isWalked_pathOf (free : ∀ step ∈ steps, '/' ∉ step) : IsWalked (pathOf steps) := by
  let pieces := (walk [] (steps.map (percentEncode escapedInPath))).reverse
  have stays : ∀ step ∈ pieces, IsStep step ∧ '/' ∉ step := by
    have kept : ∀ step ∈ steps.map (percentEncode escapedInPath), isDot step = false →
        isDoubleDot step = false → IsStep step ∧ '/' ∉ step := by
      intro step member single several
      obtain ⟨plain, listed, rfl⟩ := List.mem_map.mp member
      refine ⟨⟨single, several, fun c => unescaped_of_mem (by decide)⟩, fun slash => ?_⟩
      rcases mem_percentEncode slash with mark | ⟨inside, -⟩
      · exact absurd mark (by decide)
      · exact free plain listed inside
    intro step member
    have none : ∀ step ∈ ([] : List (List Char)), IsStep step ∧ '/' ∉ step :=
      fun _ none => absurd none List.not_mem_nil
    exact forall_walk ⟨isStep_nil, List.not_mem_nil⟩ kept none step (List.mem_reverse.mp member)
  have text : pathOf steps = '/' :: joinWith ['/'] pieces := rfl
  rw [text, isWalked_slash]
  by_cases some : pieces = []
  · rw [some]
    exact isWalked_nil
  · unfold IsWalked
    rw [splitAt_joinWith some fun step member => (stays step member).2]
    exact fun step member => (stays step member).1

private theorem isSlash_general : SchemeStyle.general.isSlash = (· == '/') := by
  funext c
  simp [SchemeStyle.isSlash, SchemeStyle.backslashes]

theorem isWalked_readPath (text : List Char) : IsWalked (readPath .general text) := by
  rw [readPath]
  split
  next => exact isWalked_nil
  next =>
    rw [isSlash_general]
    exact isWalked_pathOf fun step member slash => (mem_piece member slash).2 rfl

/-- A path of steps that stay is read as it is. -/
theorem readPath_of_isWalked (walked : IsWalked path) :
    readPath .general ('/' :: path) = '/' :: path := by
  have whole : ('/' :: path).takeWhile (fun c => c != '?' && c != '#') = '/' :: path := by
    refine List.takeWhile_eq_self_iff.mpr (List.forall_mem_cons.mpr ⟨by decide, fun c member => ?_⟩)
    have question : c ≠ '?' := ne_of_unescaped (walked.unescaped c member) (by decide)
    have fragment : c ≠ '#' := ne_of_unescaped (walked.unescaped c member) (by decide)
    simp [question, fragment]
  have encoded : (splitAt '/' path).map (percentEncode escapedInPath) = splitAt '/' path := by
    have same : ∀ step ∈ splitAt '/' path, percentEncode escapedInPath step = id step :=
      fun step member => percentEncode_of_unescaped (walked step member).unescaped
    rw [List.map_congr_left same, List.map_id]
  have steps : walk [] (splitAt '/' path) = (splitAt '/' path).reverse := by
    rw [walk_of_undotted fun step member => ⟨(walked step member).notDot, (walked step member).notDoubleDot⟩,
      List.append_nil]
  have pieces : splitWhere (· == '/') path = splitAt '/' path := rfl
  rw [readPath, whole]
  simp only [isSlash_general, beq_self_eq_true, if_true]
  rw [pieces, pathOf, encoded, steps, List.reverse_reverse, joinWith_splitAt]

end CredentialReach.Url
