import ApiSchema.Text.Basic
import Mathlib

set_option autoImplicit false

namespace ApiSchema.Text

variable {separates : Char → Bool}

theorem splitChars_ne_nil (cs : List Char) : splitChars separates cs ≠ [] := by
  cases cs with
  | nil => simp [splitChars]
  | cons c rest =>
      rw [splitChars]
      split
      · simp
      · split <;> simp

/-- A separator ends the pieces before it and begins the pieces behind it. -/
theorem splitChars_append_cons {c : Char} (isSeparator : separates c = true)
    (before behind : List Char) :
    splitChars separates (before ++ c :: behind) =
      splitChars separates before ++ splitChars separates behind := by
  induction before with
  | nil =>
      rw [List.nil_append, splitChars, splitChars]
      split
      · rename_i empty
        exact absurd empty (splitChars_ne_nil behind)
      · rename_i piece pieces pieced
        rw [if_pos isSeparator, pieced]
        rfl
  | cons first rest ih =>
      rw [List.cons_append, splitChars, ih, splitChars]
      cases pieced : splitChars separates rest with
      | nil => exact absurd pieced (splitChars_ne_nil rest)
      | cons piece pieces =>
          simp only [List.cons_append]
          split <;> rfl

theorem splitChars_of_forall {cs : List Char} (none : ∀ c ∈ cs, separates c = false) :
    splitChars separates cs = [cs] := by
  induction cs with
  | nil => rfl
  | cons c rest ih =>
      rw [splitChars, ih fun other member => none other (List.mem_cons_of_mem _ member)]
      simp [none c List.mem_cons_self]

/-- No piece holds a separator. -/
theorem separates_of_mem_splitChars {cs piece : List Char} (member : piece ∈ splitChars separates cs) :
    ∀ c ∈ piece, separates c = false := by
  induction cs generalizing piece with
  | nil =>
      rw [splitChars, List.mem_singleton] at member
      simp [member]
  | cons c rest ih =>
      rw [splitChars] at member
      split at member
      · rename_i empty
        exact absurd empty (splitChars_ne_nil rest)
      · rename_i first pieces pieced
        rw [pieced] at ih
        split at member
        · rcases List.mem_cons.mp member with rfl | later
          · simp
          · exact ih later
        · rename_i plain
          rcases List.mem_cons.mp member with rfl | later
          · rw [List.forall_mem_cons]
            exact ⟨by simpa using plain, ih List.mem_cons_self⟩
          · exact ih (List.mem_cons_of_mem _ later)

/-- The pieces have all characters but the separators. -/
theorem flatten_splitChars (cs : List Char) :
    (splitChars separates cs).flatten = cs.filter fun c => !separates c := by
  induction cs with
  | nil => rfl
  | cons c rest ih =>
      rw [splitChars]
      cases pieced : splitChars separates rest with
      | nil => exact absurd pieced (splitChars_ne_nil rest)
      | cons piece pieces =>
          rw [pieced, List.flatten_cons] at ih
          dsimp only
          cases isSeparator : separates c <;> simp [isSeparator, ← ih]

theorem flatten_segments (cs : List Char) :
    (segments separates cs).flatten = cs.filter fun c => !separates c := by
  rw [segments, List.flatten_filter_not_isEmpty, flatten_splitChars]

section

variable {α : Type} {mark : α} {first second behind rest : List α}

/-- The first mark tells what stands before it and behind it. -/
theorem append_cons_inj (unmarked : mark ∉ first) (unmarkedToo : mark ∉ second)
    (same : first ++ mark :: behind = second ++ mark :: rest) :
    first = second ∧ behind = rest := by
  induction first generalizing second with
  | nil =>
      cases second with
      | nil => exact ⟨rfl, (List.cons.inj same).2⟩
      | cons c second =>
          obtain ⟨rfl, _⟩ := List.cons.inj same
          exact absurd List.mem_cons_self unmarkedToo
  | cons d first ih =>
      cases second with
      | nil =>
          obtain ⟨rfl, _⟩ := List.cons.inj same
          exact absurd List.mem_cons_self unmarked
      | cons c second =>
          obtain ⟨rfl, tails⟩ := List.cons.inj same
          rw [List.mem_cons, not_or] at unmarked unmarkedToo
          obtain ⟨rfl, behind⟩ := ih unmarked.2 unmarkedToo.2 tails
          exact ⟨rfl, behind⟩

/-- The last mark tells what stands before it and behind it. -/
theorem append_cons_inj_right (unmarked : mark ∉ behind) (unmarkedToo : mark ∉ rest)
    (same : first ++ mark :: behind = second ++ mark :: rest) :
    first = second ∧ behind = rest := by
  have reversed := congrArg List.reverse same
  simp only [List.reverse_append, List.reverse_cons, List.append_assoc,
    List.singleton_append] at reversed
  obtain ⟨ends, starts⟩ := append_cons_inj (by simpa using unmarked) (by simpa using unmarkedToo)
    reversed
  exact ⟨List.reverse_injective starts, List.reverse_injective ends⟩

end

/-- Joined texts are the first one and the others, each behind a mark. -/
theorem intercalate_cons {α : Type} (mark : α) (first : List α) (rest : List (List α)) :
    List.intercalate [mark] (first :: rest) = first ++ rest.flatMap (mark :: ·) := by
  induction rest generalizing first with
  | nil => simp
  | cons second rest ih => simp [List.intercalate_cons_cons, ih]

/-- Joined texts are the last one and the others, each before a mark. -/
theorem intercalate_snoc {α : Type} (mark : α) (texts : List (List α)) (last : List α) :
    List.intercalate [mark] (texts ++ [last]) = texts.flatMap (· ++ [mark]) ++ last := by
  induction texts with
  | nil => simp
  | cons first rest ih =>
      rw [List.cons_append, List.intercalate_cons_of_ne_nil (by simp), ih]
      simp

/-- A mark is found where it stands first. -/
theorem cutAt_append_cons {mark : Char} {before : List Char} (unmarked : mark ∉ before)
    (behind : List Char) : cutAt [mark] (before ++ mark :: behind) = some (before, behind) := by
  induction before with
  | nil => simp [cutAt]
  | cons c rest ih =>
      rw [List.mem_cons, not_or] at unmarked
      rw [List.cons_append, cutAt, if_neg (by simpa using unmarked.1), ih unmarked.2]
      rfl

theorem after?_append (start rest : String) : after? (start ++ rest) start = some rest := by
  simp [after?, startsWith]

/-- What is left after a start stands behind it. -/
theorem after?_eq_some_iff {text start rest : String} :
    after? text start = some rest ↔ text = start ++ rest := by
  refine ⟨fun found => ?_, fun spelled => spelled ▸ after?_append start rest⟩
  unfold after? startsWith at found
  split at found
  · rename_i starts
    obtain ⟨behind, spelled⟩ := List.isPrefixOf_iff_prefix.mp starts
    rw [← spelled, List.drop_left, Option.some.injEq] at found
    rw [← String.toList_inj, String.toList_append, ← found, String.toList_ofList, spelled]
  · cases found

theorem dropTrailing_eq_nil_iff {drops : Char → Bool} {cs : List Char} :
    dropTrailing drops cs = [] ↔ ∀ c ∈ cs, drops c = true := by
  induction cs with
  | nil => simp [dropTrailing]
  | cons first rest ih =>
      rw [dropTrailing, List.forall_mem_cons, ← ih]
      cases kept : dropTrailing drops rest with
      | nil => by_cases dropped : drops first = true <;> simp [dropped]
      | cons c others => simp

theorem trimChars_eq_nil_iff {cs : List Char} :
    trimChars cs = [] ↔ ∀ c ∈ cs, isBlank c = true := by
  rw [trimChars, dropTrailing_eq_nil_iff]
  constructor
  · intro blank c member
    rw [← List.takeWhile_append_dropWhile (p := isBlank) (l := cs), List.mem_append] at member
    rcases member with leading | behind
    · exact List.mem_takeWhile_imp leading
    · exact blank c behind
  · intro blank c member
    exact blank c ((List.dropWhile_sublist isBlank).mem member)

theorem dropTrailing_of_forall {drops : Char → Bool} {cs : List Char}
    (kept : ∀ c ∈ cs, drops c = false) : dropTrailing drops cs = cs := by
  induction cs with
  | nil => rfl
  | cons first rest ih =>
      rw [List.forall_mem_cons] at kept
      rw [dropTrailing, ih kept.2]
      cases rest with
      | nil => simp [kept.1]
      | cons second rest => rfl

/-- A text without white space is trimmed. -/
theorem trimChars_of_forall {cs : List Char} (plain : ∀ c ∈ cs, isBlank c = false) :
    trimChars cs = cs := by
  have started : cs.dropWhile isBlank = cs := by
    cases cs with
    | nil => rfl
    | cons first rest => rw [List.dropWhile_cons_of_neg (by simp [plain])]
  rw [trimChars, started, dropTrailing_of_forall plain]

/-- Nothing is left of a text without white space at its ends if it is blank. -/
theorem isEmpty_trim (text : String) : (trim text).isEmpty = isBlankText text := by
  rw [Bool.eq_iff_iff, String.isEmpty_iff, isBlankText, List.all_eq_true, ← trimChars_eq_nil_iff,
    trim, ← String.toList_inj, String.toList_ofList]
  rfl

end ApiSchema.Text
