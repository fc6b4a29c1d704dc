import ApiSchema.Proofs.Text.Pieces
import ApiSchema.Text.Basic

set_option autoImplicit false

namespace ApiSchema

def breaksLine (c : Char) : Bool := c == '\n' || c == '\r'

def OneLine (text : String) : Prop := ∀ c ∈ text.toList, breaksLine c = false

instance : DecidablePred OneLine := fun text =>
  List.decidableBAll (fun c => breaksLine c = false) text.toList

@[simp] theorem oneLine_append {first second : String} :
    OneLine (first ++ second) ↔ OneLine first ∧ OneLine second := by
  unfold OneLine
  rw [String.toList_append, List.forall_mem_append]

theorem oneLine_ofList {cs : List Char} :
    OneLine (String.ofList cs) ↔ ∀ c ∈ cs, breaksLine c = false := by
  unfold OneLine
  rw [String.toList_ofList]

def OneLines (texts : List String) : Prop := ∀ text ∈ texts, OneLine text

@[simp] theorem oneLines_nil : OneLines [] := by
  intro text member
  cases member

@[simp] theorem oneLines_cons {first : String} {rest : List String} :
    OneLines (first :: rest) ↔ OneLine first ∧ OneLines rest := List.forall_mem_cons

@[simp] theorem oneLines_append {first second : List String} :
    OneLines (first ++ second) ↔ OneLines first ∧ OneLines second := List.forall_mem_append

@[simp] theorem oneLines_flatMap {α : Type} {texts : α → List String} {items : List α} :
    OneLines (items.flatMap texts) ↔ ∀ item ∈ items, OneLines (texts item) :=
  List.forall_mem_flatMap

@[simp] theorem oneLines_map {α : Type} {text : α → String} {items : List α} :
    OneLines (items.map text) ↔ ∀ item ∈ items, OneLine (text item) := List.forall_mem_map

/-- Joined texts have line breaks where one of them does. -/
theorem oneLine_intercalate {separator : String} (plain : OneLine separator)
    {texts : List String} :
    OneLine (separator.intercalate texts) ↔ OneLines texts := by
  induction texts with
  | nil => simp [OneLine]
  | cons first rest ih =>
      cases rest with
      | nil => simp
      | cons second rest =>
          rw [String.intercalate_cons_cons, oneLine_append, oneLine_append, ih, and_iff_left plain]
          exact oneLines_cons.symm

/-- A character of a class breaks no line, if neither of the two that do is in the class. -/
theorem breaksLine_of_class {P : Char → Bool} (noFeed : P '\n' = false)
    (noReturn : P '\r' = false) {c : Char} (member : P c = true) :
    breaksLine c = false := by
  by_contra breaks
  rw [Bool.not_eq_false, breaksLine, Bool.or_eq_true, beq_iff_eq, beq_iff_eq] at breaks
  rcases breaks with rfl | rfl
  · rw [noFeed] at member
    cases member
  · rw [noReturn] at member
    cases member

theorem oneLine_repr (number : Nat) : OneLine number.repr := by
  intro c member
  rw [Nat.toList_repr] at member
  have digit := Nat.isDigit_of_mem_toDigits (by decide) (by decide) member
  exact breaksLine_of_class rfl rfl digit

namespace Text

theorem mem_of_mem_dropTrailing {drops : Char → Bool} {cs : List Char} {c : Char}
    (member : c ∈ dropTrailing drops cs) : c ∈ cs := by
  induction cs with
  | nil => cases member
  | cons first rest ih =>
      rw [dropTrailing] at member
      split at member
      · split at member
        · cases member
        · rw [List.mem_singleton] at member
          rw [member]
          exact List.mem_cons_self
      · rename_i kept
        rcases List.mem_cons.mp member with rfl | inside
        · exact List.mem_cons_self
        · exact List.mem_cons_of_mem _ (ih inside)

theorem mem_of_mem_trimChars {cs : List Char} {c : Char} (member : c ∈ trimChars cs) : c ∈ cs :=
  List.dropWhile_sublist isBlank |>.mem (mem_of_mem_dropTrailing member)

theorem breaksLine_of_plainChar? {c kept : Char} (plain : plainChar? c = some kept) :
    breaksLine kept = false := by
  unfold plainChar? at plain
  split at plain
  · cases plain
    rfl
  · rename_i inside
    split at plain
    · cases plain
    · split at plain
      · cases plain
      · split at plain
        · cases plain
        · cases plain
          simp only [Bool.or_eq_true, not_or, Bool.not_eq_true] at inside
          rw [breaksLine, inside.1.1, inside.1.2]
          rfl

/-- Plain text is on one line, whatever it was made of. -/
theorem oneLine_plain (text : String) : OneLine (plain text) := by
  rw [plain, oneLine_ofList]
  intro c member
  obtain ⟨original, _, kept⟩ := List.mem_filterMap.mp (mem_of_mem_trimChars member)
  exact breaksLine_of_plainChar? kept

/-- Only the characters of a pattern are lost where it is replaced. -/
theorem mem_replaceFrom {pattern replacement : List Char} (filled : pattern ≠ []) {c : Char}
    {cs : List Char} {skip : Nat} (member : c ∈ cs.drop skip) :
    c ∈ pattern ∨ c ∈ replaceFrom pattern replacement skip cs := by
  induction cs generalizing skip with
  | nil => simp at member
  | cons first rest ih =>
      cases skip with
      | succ skip =>
          rw [replaceFrom]
          exact ih (by simpa using member)
      | zero =>
          rw [List.drop_zero] at member
          rw [replaceFrom]
          split
          · rename_i occurs
            obtain ⟨behind, spelled⟩ := List.isPrefixOf_iff_prefix.mp occurs
            rw [← spelled] at member
            rcases List.mem_append.mp member with inside | later
            · exact .inl inside
            · obtain ⟨mark, others, rfl⟩ := List.exists_cons_of_ne_nil filled
              obtain ⟨rfl, rfl⟩ := List.cons.inj spelled
              have dropped : c ∈ (others ++ behind).drop others.length := by simpa using later
              exact (ih dropped).imp_right fun kept => List.mem_append_right _ kept
          · rcases List.mem_cons.mp member with rfl | inside
            · exact .inr List.mem_cons_self
            · have kept : c ∈ rest.drop 0 := inside
              exact (ih kept).imp_right (List.mem_cons_of_mem _)

theorem of_mem_replaceFrom {pattern replacement : List Char} {c : Char} {cs : List Char}
    {skip : Nat} (member : c ∈ replaceFrom pattern replacement skip cs) :
    c ∈ cs ∨ c ∈ replacement := by
  induction cs generalizing skip with
  | nil => simp [replaceFrom] at member
  | cons first rest ih =>
      cases skip with
      | succ skip =>
          rw [replaceFrom] at member
          exact (ih member).imp_left (List.mem_cons_of_mem _)
      | zero =>
          rw [replaceFrom] at member
          split at member
          · rcases List.mem_append.mp member with added | kept
            · exact .inr added
            · exact (ih kept).imp_left (List.mem_cons_of_mem _)
          · rcases List.mem_cons.mp member with rfl | kept
            · exact .inl List.mem_cons_self
            · exact (ih kept).imp_left (List.mem_cons_of_mem _)

/-- Replacing a pattern keeps line breaks as they are. -/
theorem oneLine_replace {text pattern replacement : String} (filled : pattern ≠ "")
    (plain : OneLine pattern) (plainToo : OneLine replacement) :
    OneLine (replace text pattern replacement) ↔ OneLine text := by
  have marks : pattern.toList ≠ [] := fun empty => filled (String.toList_eq_nil_iff.mp empty)
  rw [replace, oneLine_ofList]
  constructor
  · intro holds c member
    have whole : c ∈ text.toList.drop 0 := member
    rcases mem_replaceFrom marks whole with inPattern | kept
    · exact plain c inPattern
    · exact holds c kept
  · intro holds c member
    rcases of_mem_replaceFrom member with inText | added
    · exact holds c inText
    · exact plainToo c added

theorem breaksLine_digitChar {digit : Nat} (small : digit < 16) :
    breaksLine digit.digitChar = false := by
  have all : ∀ digit : Fin 16, breaksLine (Nat.digitChar digit) = false := by decide
  exact all ⟨digit, small⟩

theorem breaksLine_hexDigits (number : Nat) : ∀ c ∈ hexDigits number, breaksLine c = false := by
  unfold hexDigits
  induction number using Nat.strong_induction_on with
  | _ number ih =>
      rw [Nat.toDigits_eq_if (by decide)]
      split
      · rename_i small
        rw [List.forall_mem_singleton]
        exact breaksLine_digitChar small
      · rw [List.forall_mem_append, List.forall_mem_singleton]
        exact ⟨ih (number / 16) (by omega), breaksLine_digitChar (Nat.mod_lt number (by decide))⟩

theorem breaksLine_quoteChar (c : Char) : ∀ d ∈ quoteChar c, breaksLine d = false := by
  have escaped (mark : Char) (plain : breaksLine mark = false) :
      ∀ d ∈ ['\\', mark], breaksLine d = false := by
    rw [List.forall_mem_cons, List.forall_mem_singleton]
    exact ⟨rfl, plain⟩
  unfold quoteChar
  split
  · exact escaped '0' rfl
  · split
    · exact escaped 't' rfl
    · split
      · exact escaped 'r' rfl
      · rename_i noReturn
        split
        · exact escaped 'n' rfl
        · rename_i noFeed
          split
          · exact escaped '\\' rfl
          · split
            · exact escaped '"' rfl
            · split
              · rw [List.forall_mem_singleton, breaksLine, Bool.eq_false_of_not_eq_true noReturn,
                  Bool.eq_false_of_not_eq_true noFeed]
                rfl
              · rw [List.forall_mem_append, List.forall_mem_append]
                exact ⟨⟨by simp [breaksLine], breaksLine_hexDigits _⟩, by simp [breaksLine]⟩

/-- A quoted text is on one line, whatever it quotes. -/
theorem oneLine_quoted (text : String) : OneLine (quoted text) := by
  have inside : ∀ c ∈ text.toList.flatMap quoteChar, breaksLine c = false := by
    intro c member
    obtain ⟨original, _, written⟩ := List.mem_flatMap.mp member
    exact breaksLine_quoteChar original c written
  rw [quoted, oneLine_ofList, List.forall_mem_append, List.forall_mem_cons]
  exact ⟨⟨rfl, inside⟩, by simp [breaksLine]⟩

end Text

end ApiSchema
