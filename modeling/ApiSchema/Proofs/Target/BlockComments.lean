import ApiSchema.Target.TypeScript
import Mathlib

set_option autoImplicit false

namespace ApiSchema

namespace Text

/-- A replacement that begins as its pattern does leaves the first character as it is. -/
theorem head?_replaceFrom (mark : Char) (pattern replacement cs : List Char) :
    (replaceFrom (mark :: pattern) (mark :: replacement) 0 cs).head? = cs.head? := by
  cases cs with
  | nil => rfl
  | cons c rest =>
      rw [replaceFrom]
      split
      · rename_i occurs
        obtain ⟨behind, spelled⟩ := List.isPrefixOf_iff_prefix.mp occurs
        exact congrArg some (List.cons.inj spelled).1
      · rfl

/-- Two different marks that are parted wherever they meet do not meet any more. -/
theorem isChain_replaceFrom {first second between : Char} (differ : first ≠ second)
    (parts : between ≠ first) (partsToo : between ≠ second) (skip : Nat) (cs : List Char) :
    (replaceFrom [first, second] [first, between, second] skip cs).IsChain
      fun c d => ¬ (c = first ∧ d = second) := by
  induction cs generalizing skip with
  | nil => exact .nil
  | cons c rest ih =>
      cases skip with
      | succ skip =>
          rw [replaceFrom]
          exact ih skip
      | zero =>
          rw [replaceFrom]
          split
          · have parted : [first, between, second].IsChain fun c d => ¬ (c = first ∧ d = second) := by
              simp [partsToo, parts]
            refine List.isChain_append.mpr ⟨parted, ih _, ?_⟩
            simp [differ.symm]
          · rename_i apart
            refine List.isChain_cons.mpr ⟨?_, ih 0⟩
            -- A kept mark is followed by what followed it in the text.
            rw [head?_replaceFrom]
            rintro d next ⟨rfl, rfl⟩
            obtain ⟨later, rfl⟩ := List.head?_eq_some_iff.mp next
            simp at apart

end Text

namespace TypeScript

/-- Characters among which no comment ends. -/
def Unclosed (cs : List Char) : Prop := cs.IsChain fun c d => ¬ (c = '*' ∧ d = '/')

instance : DecidablePred Unclosed := fun cs => inferInstanceAs (Decidable (cs.IsChain _))

/-- A comment of documentation. Its terminator stands at its end and nowhere else; where the first
terminator is looked for, just what follows the comment is left. -/
structure BlockComment (text : String) : Prop where
  opens : ['/', '*', '*'] <+: text.toList
  closes (place : Nat) : ['*', '/'] <+: text.toList.drop place ↔ place + 2 = text.toList.length
  ends (rest : List Char) :
    (Text.cutAt ['*', '/'] (text.toList ++ rest)).map Prod.snd = some rest

section

variable {body : List Char}

/-- A terminator is the only one if there is none before its last character. -/
theorem Unclosed.prefix_drop_iff (unclosed : Unclosed (body ++ ['*'])) (place : Nat) :
    ['*', '/'] <+: (body ++ ['*', '/']).drop place ↔ place = body.length := by
  constructor
  · rintro ⟨behind, found⟩
    have whole := List.take_append_drop place (body ++ ['*', '/'])
    rw [← found] at whole
    rcases List.eq_nil_or_concat' behind with rfl | ⟨between, last, rfl⟩
    · have reached := congrArg List.length (List.append_inj_left' whole rfl)
      rw [List.length_take, List.length_append, List.length_cons, List.length_singleton] at reached
      omega
    · have ends : (body ++ ['*']) ++ ['/'] =
          ((body ++ ['*', '/']).take place ++ '*' :: '/' :: between) ++ [last] := by
        rw [List.append_assoc, List.append_assoc]
        exact whole.symm
      have before := List.append_inj_left' ends rfl
      exact absurd ⟨rfl, rfl⟩
        (List.isChain_iff_forall_rel_of_append_cons_cons.mp unclosed before)
  · rintro rfl
    rw [List.drop_left]

theorem Unclosed.cutAt_append (unclosed : Unclosed (body ++ ['*'])) (rest : List Char) :
    Text.cutAt ['*', '/'] (body ++ '*' :: '/' :: rest) = some (body, rest) := by
  induction body with
  | nil => rfl
  | cons c body ih =>
      obtain ⟨first, later⟩ := List.isChain_cons.mp unclosed
      have next : (body ++ '*' :: '/' :: rest).head? = (body ++ ['*']).head? := by
        cases body <;> rfl
      have passed : ¬ ['*', '/'].isPrefixOf (c :: (body ++ '*' :: '/' :: rest)) = true := by
        intro occurs
        obtain ⟨behind, spelled⟩ := List.isPrefixOf_iff_prefix.mp occurs
        obtain ⟨begins, continues⟩ := List.cons.inj spelled
        rw [← continues] at next
        exact first '/' next.symm ⟨begins.symm, rfl⟩
      rw [List.cons_append, Text.cutAt, if_neg passed, ih later]
      rfl

end

def commentBody (text : String) : List Char :=
  "/** ".toList ++ Text.replaceFrom ['*', '/'] ['*', ' ', '/'] 0 text.toList ++ [' ']

theorem toList_comment (text : String) :
    (comment text).toList = commentBody text ++ ['*', '/'] := by
  simp [comment, commentBody, Text.replace]

theorem unclosed_commentBody (text : String) : Unclosed (commentBody text ++ ['*']) := by
  have inside : Unclosed (Text.replaceFrom ['*', '/'] ['*', ' ', '/'] 0 text.toList) :=
    Text.isChain_replaceFrom (by decide) (by decide) (by decide) 0 text.toList
  have opening : Unclosed "/** ".toList := by decide
  have closing : Unclosed [' ', '*'] := by decide
  unfold Unclosed at *
  rw [commentBody, List.append_assoc, List.append_assoc, List.isChain_append, List.isChain_append]
  -- A space stands on either side of the text, so no terminator begins or ends there.
  refine ⟨opening, ⟨inside, closing, ?_⟩, ?_⟩
  · rintro c _ d next ⟨_, rfl⟩
    cases next
  · rintro c last d _ ⟨rfl, _⟩
    exact absurd last (by decide)

theorem blockComment_comment (text : String) : BlockComment (comment text) := by
  have unclosed := unclosed_commentBody text
  constructor
  · rw [toList_comment]
    exact ⟨_, rfl⟩
  · intro place
    rw [toList_comment, unclosed.prefix_drop_iff, List.length_append, List.length_cons,
      List.length_singleton, Nat.add_right_cancel_iff]
  · intro rest
    rw [toList_comment, List.append_assoc]
    exact congrArg (Option.map Prod.snd) (unclosed.cutAt_append rest)

/-- A comment on a method and one on a field, if anything is said of it, end where they are meant to
end, whatever they say. -/
theorem comments_closed_once :
    (∀ text, BlockComment (comment text)) ∧
      ∀ field options text, fieldComment? field options = some text → BlockComment text := by
  refine ⟨blockComment_comment, fun field options text said => ?_⟩
  simp only [fieldComment?] at said
  split at said
  · cases said
  · rw [← Option.some.inj said]
    exact blockComment_comment _

/-- A description that ends with a piece of the terminator, and a sample that begins with one. -/
theorem comments_closed_once_pieces :
    let field := { Field.of "id" "int" with description := "**/*", sample := some "/*/" }
    let options := EmitOptions.mk false false true true (.ofFamily "Top")
    fieldComment? field options = some "/** description: ** /*, example: /* / */" ∧
      BlockComment "/** description: ** /*, example: /* / */" ∧ BlockComment (comment "*//") := by
  intro field options
  have said : fieldComment? field options = some "/** description: ** /*, example: /* / */" := by
    decide +kernel
  exact ⟨said, comments_closed_once.2 field options _ said, comments_closed_once.1 "*//"⟩

end TypeScript

end ApiSchema
