import ApiSchema.Naming
import ApiSchema.Proofs.Text.Pieces

set_option autoImplicit false

namespace ApiSchema.Naming

open Text

variable {separates : Char → Bool}

theorem lastPiece_append_cons {c : Char} (isSeparator : separates c = true)
    (before behind : List Char) :
    lastPiece separates (before ++ c :: behind) = lastPiece separates behind := by
  unfold lastPiece
  rw [splitChars_append_cons isSeparator, List.getLast?_append]
  cases last : (splitChars separates behind).getLast? with
  | none =>
      rw [List.getLast?_eq_none_iff] at last
      exact absurd last (splitChars_ne_nil behind)
  | some piece => rfl

theorem lastPiece_of_forall {cs : List Char} (none : ∀ c ∈ cs, separates c = false) :
    lastPiece separates cs = cs := by
  rw [lastPiece, splitChars_of_forall none]
  rfl

theorem separates_of_mem_lastPiece {cs : List Char} :
    ∀ c ∈ lastPiece separates cs, separates c = false := by
  unfold lastPiece
  cases last : (splitChars separates cs).getLast? with
  | none =>
      rw [List.getLast?_eq_none_iff] at last
      exact absurd last (splitChars_ne_nil cs)
  | some piece => exact separates_of_mem_splitChars (List.mem_of_getLast? last)

/-- A local name has no mark. -/
theorem unmarked_localName (name : String) : '@' ∉ (localName name).toList := by
  intro marked
  rw [localName, String.toList_ofList] at marked
  have isMark := separates_of_mem_lastPiece '@' marked
  simp at isMark

/-- A name without a mark is its own local name. -/
theorem localName_of_unmarked {name : String} (unmarked : '@' ∉ name.toList) :
    localName name = name := by
  rw [localName, lastPiece_of_forall, String.ofList_toList]
  intro mark member
  exact beq_false_of_ne fun same => unmarked (same ▸ member)

/-- Where a field stands: its name behind that of the model around it. -/
def place (path name : String) : String := if path = "" then name else path ++ "#" ++ name

theorem nestedName_eq (localPart path : String) {name : String} (named : name ≠ "") :
    nestedName localPart [path, name] = place path name ++ "@" ++ localPart := by
  unfold nestedName place
  by_cases outermost : path = ""
  · have ancestors : [path, name].filter (fun ancestor => !ancestor.isEmpty) = [name] := by
      simp [outermost, named]
    rw [ancestors, if_pos outermost]
    rfl
  · have ancestors : [path, name].filter (fun ancestor => !ancestor.isEmpty) = [path, name] := by
      simp [outermost, named]
    rw [ancestors, if_neg outermost]
    rfl

/-- What stands before a mark does not count. -/
theorem localName_behind (before behind : String) :
    localName (before ++ "@" ++ behind) = localName behind := by
  have spelled : (before ++ "@" ++ behind).toList = before.toList ++ '@' :: behind.toList := by
    simp
  rw [localName, spelled, lastPiece_append_cons (by simp)]
  rfl

theorem localName_append (before : String) {localPart : String}
    (unmarked : '@' ∉ localPart.toList) : localName (before ++ "@" ++ localPart) = localPart :=
  (localName_behind before localPart).trans (localName_of_unmarked unmarked)

theorem localName_nestedName (localPart : String) (ancestors : List String) :
    localName (nestedName localPart ancestors) = localName localPart := by
  unfold nestedName
  split
  · rfl
  · exact localName_behind _ _

/-- Two fields of one model, below which models have one name, have one name. -/
theorem name_eq_of_place_eq {path first second tail other : String}
    (unmarked : '@' ∉ first.toList) (unmarkedToo : '@' ∉ second.toList)
    (same : place path first ++ "@" ++ tail = place path second ++ "@" ++ other) :
    first = second := by
  have spelled := congrArg String.toList same
  unfold place at spelled
  split at spelled
  · simp only [String.toList_append, List.append_assoc] at spelled
    exact String.toList_inj.mp (append_cons_inj unmarked unmarkedToo spelled).1
  · simp only [String.toList_append, List.append_assoc, List.append_cancel_left_eq] at spelled
    exact String.toList_inj.mp (append_cons_inj unmarked unmarkedToo spelled).1

end ApiSchema.Naming
