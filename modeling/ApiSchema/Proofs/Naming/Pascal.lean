import ApiSchema.Naming
import ApiSchema.Proofs.Naming.FreeName
import ApiSchema.Proofs.Text.CaseMapping
import ApiSchema.Proofs.Text.Pieces

/-!
Names in Pascal case. A separator parts a name into names whose words are joined. What is joined
has no separator and begins with a character that is its own upper case, so it is not changed
again. That character is never a small letter of ASCII, so a name in Pascal case is no tag.
-/

set_option autoImplicit false

namespace ApiSchema.Naming

open Text

theorem pascalChars_append_cons {c : Char} (isSeparator : isWordSeparator c = true)
    (before behind : List Char) :
    pascalChars (before ++ c :: behind) = pascalChars before ++ pascalChars behind := by
  simp only [pascalChars, segments, splitChars_append_cons isSeparator, List.filter_append,
    List.flatMap_append]

/-- A name without separators is one word. -/
theorem pascalChars_of_forall {word : List Char} (whole : ∀ c ∈ word, isWordSeparator c = false) :
    pascalChars word = capitalize word := by
  rw [pascalChars, segments, splitChars_of_forall whole]
  cases word with
  | nil => rfl
  | cons c rest => simp

/-- Words are joined to what begins like a word. -/
theorem pascalChars_eq_nil_or_cons (cs : List Char) :
    pascalChars cs = [] ∨
      ∃ first rest, pascalChars cs = first :: rest ∧ upperChar first = [first] := by
  unfold pascalChars
  cases pieced : segments isWordSeparator cs with
  | nil => exact Or.inl rfl
  | cons piece pieces =>
      have member : piece ∈ segments isWordSeparator cs := by
        rw [pieced]
        exact List.mem_cons_self
      cases piece with
      | nil =>
          have filled := (List.mem_filter.mp member).2
          cases filled
      | cons c rest =>
          obtain ⟨first, others, upper, fixed⟩ := upperChar_eq_cons c
          refine Or.inr ⟨first, others ++ rest ++ pieces.flatMap capitalize, ?_, fixed⟩
          rw [List.flatMap_cons, capitalize, upper]
          rfl

/-- A name in Pascal case has the characters of the name, but for separators, and raised ones. -/
theorem mem_pascalChars {cs : List Char} {d : Char} (member : d ∈ pascalChars cs) :
    (d ∈ cs ∧ isWordSeparator d = false) ∨ isRaised d = true := by
  obtain ⟨piece, among, inside⟩ := List.mem_flatMap.mp member
  cases piece with
  | nil => cases inside
  | cons c rest =>
      rw [capitalize, List.mem_append] at inside
      have kept : ∀ e ∈ c :: rest, e ∈ cs ∧ isWordSeparator e = false := by
        intro e within
        have joined := List.mem_flatten_of_mem among within
        rw [flatten_segments] at joined
        simpa using joined
      rcases inside with upper | later
      · rcases mem_upperChar upper with rfl | raised
        · exact .inl (kept d List.mem_cons_self)
        · exact .inr raised
      · exact .inl (kept d (List.mem_cons_of_mem _ later))

/-- A character that is its own upper case is kept, unless it is a separator. -/
theorem mem_pascalChars_of_mem {cs : List Char} {d : Char} (member : d ∈ cs)
    (whole : isWordSeparator d = false) (fixed : upperChar d = [d]) : d ∈ pascalChars cs := by
  have joined : d ∈ (segments isWordSeparator cs).flatten := by
    rw [flatten_segments]
    simp [member, whole]
  obtain ⟨piece, among, inside⟩ := List.mem_flatten.mp joined
  refine List.mem_flatMap.mpr ⟨piece, among, ?_⟩
  cases piece with
  | nil => cases inside
  | cons c rest =>
      rw [capitalize, List.mem_append]
      rcases List.mem_cons.mp inside with rfl | later
      · exact .inl (fixed ▸ List.mem_singleton_self d)
      · exact .inr later

/-- Words are joined without separators. -/
theorem isWordSeparator_of_mem_pascalChars {cs : List Char} {d : Char}
    (member : d ∈ pascalChars cs) : isWordSeparator d = false := by
  rcases mem_pascalChars member with ⟨_, other⟩ | raised
  · exact other
  · by_contra separator
    simp only [isWordSeparator, Bool.not_eq_false, Bool.or_eq_true, beq_iff_eq] at separator
    rcases separator with (rfl | rfl) | rfl <;> revert raised <;> decide

theorem pascalChars_pascalChars (cs : List Char) :
    pascalChars (pascalChars cs) = pascalChars cs := by
  rw [pascalChars_of_forall fun d member => isWordSeparator_of_mem_pascalChars member]
  rcases pascalChars_eq_nil_or_cons cs with empty | ⟨first, rest, spelled, fixed⟩
  · rw [empty]
    rfl
  · rw [spelled, capitalize, fixed]
    rfl

theorem isTag_pascalChars (cs : List Char) :
    Primitive.isTag (String.ofList (pascalChars cs)) = false := by
  rcases pascalChars_eq_nil_or_cons cs with empty | ⟨first, rest, spelled, fixed⟩
  · rw [empty]
    decide
  · rw [spelled]
    exact Primitive.not_isTag_of_mem (by simp) (isLower_of_upperChar_eq fixed)

theorem isTag_pascalCase (name : String) : Primitive.isTag (pascalCase name) = false :=
  isTag_pascalChars name.toList

theorem isTag_className (dotted : String) : Primitive.isTag (className dotted) = false :=
  isTag_pascalChars _

end ApiSchema.Naming
