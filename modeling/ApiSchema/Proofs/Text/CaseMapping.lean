import ApiSchema.OrderedMap
import ApiSchema.Text.Character
import Mathlib

set_option autoImplicit false

namespace ApiSchema.Text

theorem isLower_eq_false_iff {c : Char} : c.isLower = false ↔ c.toNat < 0x61 ∨ 0x7A < c.toNat := by
  simp only [Char.isLower, Bool.and_eq_false_iff, decide_eq_false_iff_not, ge_iff_le,
    UInt32.le_iff_toNat_le, not_le]
  exact Iff.rfl

theorem contains_iff {run : Run} {code : Nat} : run.contains code = true ↔
    run.first ≤ code ∧ code ≤ run.last ∧ (code - run.first) % run.stride = 0 := by
  simp [Run.contains, and_assoc]

/-- What a search in ascending runs finds is one of the runs and holds the code point. -/
theorem findRun_eq_some {α : Type} {run : α → Run} {entries : List α} {code : Nat} {entry : α}
    (found : findRun run entries code = some entry) :
    entry ∈ entries ∧ (run entry).contains code = true := by
  induction entries with
  | nil => cases found
  | cons first rest ih =>
      rw [findRun] at found
      split at found
      · cases found
      · split at found
        · rename_i held
          obtain rfl := Option.some.inj found
          exact ⟨List.mem_cons_self, held⟩
        · obtain ⟨member, held⟩ := ih found
          exact ⟨List.mem_cons_of_mem _ member, held⟩

/-- Whether the run is the one code point, or every other one between its ends. -/
def Run.isSparse (run : Run) : Bool := run.stride == 2 || run.first == run.last

/-- Whether the run begins behind another one, or has every other code point where the other one
has those between. -/
def Run.isApart (run other : Run) : Bool :=
  other.last < run.first || (run.isSparse && other.isSparse && run.first % 2 != other.first % 2)

/-- Whether the run is apart from ascending ones, as far as these do not begin behind it. -/
def Run.isApartFromAll {α : Type} (run : Run) (other : α → Run) : List α → Bool
  | [] => true
  | entry :: rest =>
      run.last < (other entry).first || (run.isApart (other entry) && run.isApartFromAll other rest)

theorem Run.mod_two {run : Run} (sparse : run.isSparse = true) {code : Nat}
    (held : run.contains code = true) : code % 2 = run.first % 2 := by
  obtain ⟨low, high, steps⟩ := contains_iff.mp held
  simp only [Run.isSparse, Bool.or_eq_true, beq_iff_eq] at sparse
  rcases sparse with double | single
  · rw [double] at steps
    omega
  · have same : code = run.first := by omega
    rw [same]

theorem Run.contains_of_isApart {run other : Run} (apart : run.isApart other = true) {code : Nat}
    (held : run.contains code = true) : other.contains code = false := by
  by_contra heldToo
  rw [Bool.not_eq_false] at heldToo
  simp only [Run.isApart, Bool.or_eq_true, Bool.and_eq_true, decide_eq_true_eq, bne_iff_ne] at apart
  rcases apart with behind | ⟨⟨sparse, sparseToo⟩, differ⟩
  · have low := (contains_iff.mp held).1
    have high := (contains_iff.mp heldToo).2.1
    omega
  · have parity := mod_two sparse held
    have parityToo := mod_two sparseToo heldToo
    omega

theorem findRun_eq_none {α : Type} {other : α → Run} {entries : List α} {run : Run} {code : Nat}
    (apart : run.isApartFromAll other entries = true) (held : run.contains code = true) :
    findRun other entries code = none := by
  induction entries with
  | nil => rfl
  | cons entry rest ih =>
      rw [Run.isApartFromAll, Bool.or_eq_true, Bool.and_eq_true, decide_eq_true_eq] at apart
      rw [findRun]
      rcases apart with before | ⟨apartFromFirst, apartFromRest⟩
      · have high := (contains_iff.mp held).2.1
        rw [if_pos (by omega)]
      · rw [Run.contains_of_isApart apartFromFirst held, ih apartFromRest]
        split <;> rfl

structure Unmapped (shifts : List Shift) (expansions : List (Nat × List Nat)) (code : Nat) :
    Prop where
  unexpanded : expansions.lookup code = none
  unshifted : findRun Shift.run shifts code = none

variable {shifts : List Shift} {expansions : List (Nat × List Nat)} {c d : Char}

theorem Unmapped.mapCase_eq (unmapped : Unmapped shifts expansions c.toNat) :
    mapCase shifts expansions c = [c] := by
  rw [mapCase, unmapped.unexpanded, unmapped.unshifted]

/-- A character is expanded, shifted or left as it is. -/
theorem mapCase_cases (shifts : List Shift) (expansions : List (Nat × List Nat)) (c : Char) :
    (∃ codes, (c.toNat, codes) ∈ expansions ∧
      mapCase shifts expansions c = codes.map Char.ofNat) ∨
    (∃ shift ∈ shifts, shift.run.contains c.toNat = true ∧
      mapCase shifts expansions c = [shift.image c.toNat]) ∨
    Unmapped shifts expansions c.toNat := by
  unfold mapCase
  cases expanded : expansions.lookup c.toNat with
  | some codes => exact .inl ⟨codes, mem_of_lookup expanded, rfl⟩
  | none =>
      cases shifted : findRun Shift.run shifts c.toNat with
      | some shift =>
          obtain ⟨member, held⟩ := findRun_eq_some shifted
          exact .inr (.inl ⟨shift, member, held, rfl⟩)
      | none => exact .inr (.inr ⟨expanded, shifted⟩)

/-- The run of the images of a shift. -/
def Shift.images (shift : Shift) : Run :=
  ⟨shift.target, shift.target + (shift.run.last - shift.run.first), shift.run.stride⟩

theorem Shift.contains_images {shift : Shift} {code : Nat} (held : shift.run.contains code = true) :
    shift.images.contains (shift.target + (code - shift.run.first)) = true := by
  obtain ⟨low, high, steps⟩ := contains_iff.mp held
  refine contains_iff.mpr ⟨?_, ?_, ?_⟩ <;> dsimp only [Shift.images]
  · omega
  · omega
  · rwa [Nat.add_sub_cancel_left]

/-- Whether the run has capitals of ASCII only, or characters behind ASCII only. -/
def Run.isRaised (run : Run) : Bool :=
  (0x41 ≤ run.first && run.last ≤ 0x5A) ||
    (0x80 ≤ run.first && (run.last < 0xD800 || (0xDFFF < run.first && run.last < 0x110000)))

/-- A capital of ASCII or a character behind ASCII. -/
def isRaised (c : Char) : Bool := c.isUpper || 0x80 ≤ c.toNat

theorem isUpper_iff : c.isUpper = true ↔ 0x41 ≤ c.toNat ∧ c.toNat ≤ 0x5A := by
  simp only [Char.isUpper, decide_eq_true_eq, ge_iff_le, UInt32.le_iff_toNat_le]
  exact Iff.rfl

theorem toNat_ofNat_of_isRaised {run : Run} (raised : run.isRaised = true) {code : Nat}
    (held : run.contains code = true) : (Char.ofNat code).toNat = code := by
  obtain ⟨low, high, _⟩ := contains_iff.mp held
  simp only [Run.isRaised, Bool.or_eq_true, Bool.and_eq_true, decide_eq_true_eq] at raised
  have valid : code.isValidChar := by
    unfold Nat.isValidChar
    omega
  rw [Char.ofNat, dif_pos valid]
  rfl

theorem isRaised_ofNat {run : Run} (raised : run.isRaised = true) {code : Nat}
    (held : run.contains code = true) : isRaised (Char.ofNat code) = true := by
  obtain ⟨low, high, _⟩ := contains_iff.mp held
  have kept := toNat_ofNat_of_isRaised raised held
  rw [isRaised, Bool.or_eq_true, isUpper_iff, decide_eq_true_eq, kept]
  simp only [Run.isRaised, Bool.or_eq_true, Bool.and_eq_true, decide_eq_true_eq] at raised
  omega

theorem isRaised_upperShifts : ∀ shift ∈ upperShifts, shift.images.isRaised = true := by
  decide +kernel

theorem isRaised_upperExpansions :
    ∀ entry ∈ upperExpansions, ∀ code ∈ entry.2, isRaised (Char.ofNat code) = true := by
  decide +kernel

theorem isApart_upperShifts :
    ∀ shift ∈ upperShifts, shift.images.isApartFromAll Shift.run upperShifts = true := by
  decide +kernel

theorem contains_upperExpansions :
    ∀ shift ∈ upperShifts, ∀ entry ∈ upperExpansions, shift.images.contains entry.1 = false := by
  decide +kernel

theorem head?_upperExpansions : ∀ entry ∈ upperExpansions,
    (entry.2.head?.any fun code => upperChar (Char.ofNat code) == [Char.ofNat code]) = true := by
  decide +kernel

/-- The upper case of a character has no other characters of ASCII than capitals and itself. -/
theorem mem_upperChar (member : d ∈ upperChar c) : d = c ∨ isRaised d = true := by
  rcases mapCase_cases upperShifts upperExpansions c with
    ⟨codes, expanded, spelled⟩ | ⟨shift, shifts, held, spelled⟩ | unmapped
  · rw [upperChar, spelled] at member
    obtain ⟨code, inside, rfl⟩ := List.mem_map.mp member
    exact .inr (isRaised_upperExpansions _ expanded code inside)
  · rw [upperChar, spelled, List.mem_singleton] at member
    rw [member]
    exact .inr (isRaised_ofNat (isRaised_upperShifts shift shifts) (Shift.contains_images held))
  · rw [upperChar, unmapped.mapCase_eq, List.mem_singleton] at member
    exact .inl member

/-- The upper case of a character begins with a character that is its own upper case. -/
theorem upperChar_eq_cons (c : Char) :
    ∃ first rest, upperChar c = first :: rest ∧ upperChar first = [first] := by
  rcases mapCase_cases upperShifts upperExpansions c with
    ⟨codes, expanded, spelled⟩ | ⟨shift, shifts, held, spelled⟩ | unmapped
  · have fixed := head?_upperExpansions _ expanded
    cases codes with
    | nil => cases fixed
    | cons code codes =>
        exact ⟨Char.ofNat code, codes.map Char.ofNat, spelled, eq_of_beq fixed⟩
  · have image := Shift.contains_images held
    have kept := toNat_ofNat_of_isRaised (isRaised_upperShifts shift shifts) image
    have unmapped : Unmapped upperShifts upperExpansions (shift.image c.toNat).toNat := by
      rw [Shift.image, kept]
      refine ⟨?_, findRun_eq_none (isApart_upperShifts shift shifts) image⟩
      rw [List.lookup_eq_none_iff]
      intro entry member
      rw [bne_iff_ne]
      intro same
      have outside := contains_upperExpansions shift shifts entry member
      rw [← same, image] at outside
      cases outside
    exact ⟨_, [], spelled, unmapped.mapCase_eq⟩
  · exact ⟨c, [], unmapped.mapCase_eq, unmapped.mapCase_eq⟩

/-- What holds for each code point of ASCII holds for each character of ASCII. -/
theorem forall_ascii (holds : Char → Prop) (all : ∀ code : Fin 0x80, holds (Char.ofNat code))
    (small : c.toNat < 0x80) : holds c := by
  simpa using all ⟨c.toNat, small⟩

/-- A small letter of ASCII is not its own upper case. -/
theorem isLower_of_upperChar_eq (fixed : upperChar c = [c]) : c.isLower = false := by
  by_contra lower
  rw [Bool.not_eq_false] at lower
  have small : c.toNat < 0x80 := by
    by_contra large
    rw [isLower_eq_false_iff.mpr (by omega)] at lower
    cases lower
  have changed : c.isLower = true → upperChar c ≠ [c] :=
    forall_ascii (fun c => c.isLower = true → upperChar c ≠ [c]) (by decide +kernel) small
  exact changed lower fixed

end ApiSchema.Text
