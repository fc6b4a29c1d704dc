import ApiSchema.Method.Unify
import Mathlib

set_option autoImplicit false

namespace ApiSchema

namespace Primitive

theorem isTag_iff {text : String} :
    isTag text = true ↔ ∃ primitive : Primitive, primitive.tag = text := by
  unfold isTag ofTag?
  rw [List.find?_isSome]
  constructor
  · rintro ⟨primitive, _, same⟩
    exact ⟨primitive, by simpa using same⟩
  · rintro ⟨primitive, same⟩
    refine ⟨primitive, ?_, by simpa using same⟩
    cases primitive <;> decide

theorem all_isLower_tag (primitive : Primitive) : primitive.tag.toList.all Char.isLower = true := by
  cases primitive <;> rfl

/-- Tags are words of small letters, so any other character shows that a text is none. -/
theorem not_isTag_of_mem {text : String} {c : Char} (member : c ∈ text.toList)
    (other : c.isLower = false) : isTag text = false := by
  by_contra tagged
  rw [Bool.not_eq_false, isTag_iff] at tagged
  obtain ⟨primitive, rfl⟩ := tagged
  rw [List.all_eq_true.mp (all_isLower_tag primitive) c member] at other
  cases other

end Primitive

theorem Field.isReference_iff {type : String} :
    Field.isReference type = true ↔ type ≠ "" ∧ Primitive.isTag type = false := by
  simp [Field.isReference]

theorem candidate_succ (localPart : String) (number : Nat) :
    candidate localPart (number + 1) = localPart ++ toString (number + 1) := rfl

theorem toString_succ_ne_empty (number : Nat) : toString (number + 1) ≠ "" :=
  Nat.repr_ne_empty

theorem candidate_succ_ne (localPart : String) (number : Nat) :
    candidate localPart (number + 1) ≠ localPart := by
  intro same
  rw [candidate_succ] at same
  have nothing : localPart ++ toString (number + 1) = localPart ++ "" := by
    rw [same, String.append_empty]
  exact toString_succ_ne_empty number ((String.append_right_inj localPart).mp nothing)

theorem candidate_injective (localPart : String) : Function.Injective (candidate localPart) := by
  intro first second same
  cases first with
  | zero =>
      cases second with
      | zero => rfl
      | succ second => exact absurd same.symm (candidate_succ_ne localPart second)
  | succ first =>
      cases second with
      | zero => exact absurd same (candidate_succ_ne localPart first)
      | succ second =>
          rw [candidate_succ, candidate_succ, String.append_right_inj] at same
          exact Nat.repr_injective same

theorem isLower_of_isDigit {c : Char} (digit : c.isDigit = true) : c.isLower = false := by
  by_contra lower
  rw [Bool.not_eq_false] at lower
  simp only [Char.isDigit, Char.isLower, Bool.and_eq_true, decide_eq_true_eq, ge_iff_le,
    UInt32.le_iff_toNat_le] at digit lower
  have low : 97 ≤ c.val.toNat := lower.1
  have high : c.val.toNat ≤ 57 := digit.2
  omega

/-- A candidate is the local name with digits behind it. -/
theorem toList_candidate (localPart : String) (number : Nat) :
    ∃ digits : List Char, (∀ c ∈ digits, c.isDigit = true) ∧
      (candidate localPart number).toList = localPart.toList ++ digits := by
  cases number with
  | zero => exact ⟨[], by simp, (List.append_nil _).symm⟩
  | succ number =>
      refine ⟨(toString (number + 1)).toList, ?_, by rw [candidate_succ, String.toList_append]⟩
      intro c member
      exact Nat.isDigit_of_mem_toDigits (b := 10) (n := number + 1) (by decide) (by decide)
        (by simpa [toString, Nat.repr] using member)

/-- Among more candidates than there are names in use, one is free. -/
theorem exists_free_candidate (taken : List String) (localPart : String) (first : Nat) :
    ∃ number ∈ List.range' first (taken.length + 1), candidate localPart number ∉ taken := by
  by_contra allTaken
  push Not at allTaken
  have numbers : (List.range' first (taken.length + 1)).Nodup := List.nodup_range'
  have distinct := numbers.map (candidate_injective localPart)
  have within : (List.range' first (taken.length + 1)).map (candidate localPart) ⊆ taken := by
    intro name member
    obtain ⟨number, inside, rfl⟩ := List.mem_map.mp member
    exact allTaken number inside
  have short := (distinct.subperm within).length_le
  rw [List.length_map, List.length_range'] at short
  omega

/-- The search for a number ends at the first one whose candidate is not in use. -/
theorem freeNumber_spec (taken : List String) (localPart : String) (first : Nat) :
    first ≤ freeNumber taken localPart first ∧
      candidate localPart (freeNumber taken localPart first) ∉ taken ∧
      ∀ number, first ≤ number → number < freeNumber taken localPart first →
        candidate localPart number ∈ taken := by
  obtain ⟨free, inside, unused⟩ := exists_free_candidate taken localPart first
  unfold freeNumber
  cases found : (List.range' first (taken.length + 1)).find? fun number =>
      !taken.contains (candidate localPart number) with
  | none =>
      have used := List.find?_eq_none.mp found free inside
      simp [unused] at used
  | some number =>
      obtain ⟨unused, member, passed⟩ := List.find?_range'_eq_some.mp found
      refine ⟨(List.mem_range'_1.mp member).1, by simpa using unused, ?_⟩
      intro smaller atLeast less
      simpa using passed smaller atLeast less

/-- A number is found from its two properties: its candidate is free, and no candidate before. -/
theorem eq_freeNumber {taken : List String} {localPart : String} {first number : Nat}
    (atLeast : first ≤ number) (unused : candidate localPart number ∉ taken)
    (smaller : ∀ other, first ≤ other → other < number → candidate localPart other ∈ taken) :
    number = freeNumber taken localPart first := by
  obtain ⟨later, free, passed⟩ := freeNumber_spec taken localPart first
  rcases Nat.lt_trichotomy number (freeNumber taken localPart first) with less | same | more
  · exact absurd (passed number atLeast less) unused
  · exact same
  · exact absurd (smaller _ later more) free

/-- The first candidate that is not taken. -/
def freeName (taken : List String) (localPart : String) : String :=
  candidate localPart (freeNumber taken localPart 0)

/-- The free name is the first candidate that is not in use. -/
theorem freeName_spec (taken : List String) (localPart : String) :
    ∃ number, freeName taken localPart = candidate localPart number ∧
      candidate localPart number ∉ taken ∧
      ∀ smaller < number, candidate localPart smaller ∈ taken := by
  obtain ⟨_, unused, passed⟩ := freeNumber_spec taken localPart 0
  exact ⟨_, rfl, unused, fun smaller less => passed smaller (Nat.zero_le smaller) less⟩

/-- The search may begin at any number before which all candidates are in use. -/
theorem candidate_freeNumber {taken : List String} {localPart : String} {first : Nat}
    (tried : ∀ number < first, candidate localPart number ∈ taken) :
    candidate localPart (freeNumber taken localPart first) = freeName taken localPart := by
  obtain ⟨_, unused, passed⟩ := freeNumber_spec taken localPart first
  have same : freeNumber taken localPart first = freeNumber taken localPart 0 := by
    apply eq_freeNumber (Nat.zero_le _) unused
    intro number _ less
    rcases Nat.lt_or_ge number first with before | behind
    · exact tried number before
    · exact passed number behind less
  rw [freeName, same]

theorem freeName_not_mem (taken : List String) (localPart : String) :
    freeName taken localPart ∉ taken := by
  obtain ⟨number, chosen, unused, _⟩ := freeName_spec taken localPart
  rw [chosen]
  exact unused

/-- A candidate for a local name of a model is no tag: either it is the local name, or it ends in a
digit. -/
theorem isReference_freeName (taken : List String) {localPart : String}
    (named : Field.isReference localPart = true) :
    Field.isReference (freeName taken localPart) = true := by
  obtain ⟨number, chosen, _, _⟩ := freeName_spec taken localPart
  rw [chosen]
  cases number with
  | zero => exact named
  | succ number =>
      obtain ⟨digits, areDigits, spelled⟩ := toList_candidate localPart (number + 1)
      have some : digits ≠ [] := by
        rintro rfl
        rw [List.append_nil] at spelled
        exact candidate_succ_ne localPart number (String.toList_inj.mp spelled)
      obtain ⟨digit, member⟩ := List.exists_mem_of_ne_nil digits some
      have inside : digit ∈ (candidate localPart (number + 1)).toList := by
        rw [spelled]
        exact List.mem_append_right _ member
      rw [Field.isReference_iff]
      constructor
      · intro empty
        rw [empty] at inside
        simp at inside
      · apply Primitive.not_isTag_of_mem inside
        exact isLower_of_isDigit (areDigits digit member)

end ApiSchema
