import ApiSchema.Naming
import ApiSchema.Proofs.Naming.Pascal

set_option autoImplicit false

namespace ApiSchema.Naming

open Text

/-- A text that stands between the points of a dotted name or the slashes of a path. -/
structure IsSegment (text : String) : Prop where
  filled : text ≠ ""
  plain : ∀ c ∈ text.toList, c ≠ '.' ∧ c ≠ '/' ∧ isBlank c = false

theorem isSegment_iff {text : String} : IsSegment text ↔
    text ≠ "" ∧ (text.toList.all fun c => c != '.' && c != '/' && !isBlank c) = true := by
  simp only [List.all_eq_true, Bool.and_eq_true, bne_iff_ne, Bool.not_eq_true', and_assoc]
  exact ⟨fun isSegment => ⟨isSegment.filled, isSegment.plain⟩,
    fun ⟨filled, plain⟩ => ⟨filled, plain⟩⟩

instance : DecidablePred IsSegment := fun _ => decidable_of_iff' _ isSegment_iff

def joined (mark : Char) (first : String) (rest : List String) : List Char :=
  first.toList ++ rest.flatMap fun segment => mark :: segment.toList

theorem toList_joinWith (mark : Char) (first : String) (rest : List String) :
    (joinWith (String.singleton mark) (first :: rest)).toList = joined mark first rest := by
  rw [joinWith, String.toList_intercalate, String.toList_singleton, List.map_cons,
    intercalate_cons, List.flatMap_map]
  rfl

theorem isBlank_joined {mark : Char} (visible : isBlank mark = false) {first : String}
    {rest : List String} (segments : ∀ segment ∈ first :: rest, IsSegment segment) :
    ∀ c ∈ joined mark first rest, isBlank c = false := by
  rw [List.forall_mem_cons] at segments
  rw [joined, List.forall_mem_append, List.forall_mem_flatMap]
  refine ⟨fun c member => (segments.1.plain c member).2.2, fun segment among => ?_⟩
  rw [List.forall_mem_cons]
  exact ⟨visible, fun c member => ((segments.2 segment among).plain c member).2.2⟩

theorem pascalChars_joined {mark : Char} (isSeparator : isWordSeparator mark = true)
    (before : List Char) (rest : List String) :
    pascalChars (before ++ rest.flatMap fun segment => mark :: segment.toList) =
      pascalChars before ++ rest.flatMap fun segment => pascalChars segment.toList := by
  induction rest generalizing before with
  | nil => simp
  | cons segment rest ih =>
      rw [List.flatMap_cons, List.cons_append, pascalChars_append_cons isSeparator, ih,
        List.flatMap_cons]

theorem map_swapSeparator {segment : String} (isSegment : IsSegment segment) :
    segment.toList.map swapSeparator = segment.toList := by
  conv_rhs => rw [← List.map_id segment.toList]
  refine List.map_congr_left fun c member => ?_
  obtain ⟨noPoint, noSlash, _⟩ := isSegment.plain c member
  rw [swapSeparator, if_neg (by simpa using noSlash), if_neg (by simpa using noPoint), id]

/-- Slashes between segments become points. -/
theorem map_swapSeparator_joined {first : String} {rest : List String}
    (segments : ∀ segment ∈ first :: rest, IsSegment segment) :
    (joined '/' first rest).map swapSeparator = joined '.' first rest := by
  rw [List.forall_mem_cons] at segments
  rw [joined, joined, List.map_append, map_swapSeparator segments.1, List.map_flatMap]
  congr 1
  refine List.flatMap_congr fun segment among => ?_
  rw [List.map_cons, map_swapSeparator (segments.2 segment among)]
  rfl

theorem not_slash_joined {first : String} {rest : List String}
    (segments : ∀ segment ∈ first :: rest, IsSegment segment) : '/' ∉ joined '.' first rest := by
  rw [List.forall_mem_cons] at segments
  intro slash
  rw [joined, List.mem_append, List.mem_flatMap] at slash
  rcases slash with inside | ⟨segment, among, inside⟩
  · exact (segments.1.plain '/' inside).2.1 rfl
  · rw [List.mem_cons] at inside
    rcases inside with isPoint | inside
    · exact absurd isPoint (by decide)
    · exact ((segments.2 segment among).plain '/' inside).2.1 rfl

/-- Segments begin with no mark. -/
theorem joined_eq_cons (mark : Char) {first : String} (isSegment : IsSegment first)
    (rest : List String) : ∃ c behind, joined mark first rest = c :: behind ∧ c ≠ '/' := by
  obtain ⟨c, others, spelled⟩ :=
    List.exists_cons_of_ne_nil fun empty => isSegment.filled (String.toList_eq_nil_iff.mp empty)
  refine ⟨c, others ++ rest.flatMap fun segment => mark :: segment.toList, ?_, ?_⟩
  · rw [joined, spelled]
    rfl
  · exact (isSegment.plain c (spelled ▸ List.mem_cons_self)).2.1

/-- The names that segments give: their words, and the segments with points between them. -/
def namesOf (segments : List String) : ApiName where
  method := String.join (segments.map pascalCase)
  request := joinWith "." segments

theorem namesOf_eq (first : String) (rest : List String) :
    namesOf (first :: rest) = ⟨String.ofList (pascalChars (joined '.' first rest)),
      String.ofList (joined '.' first rest)⟩ := by
  rw [namesOf, ApiName.mk.injEq]
  constructor
  · rw [joined, pascalChars_joined (by decide), ← String.toList_inj, String.toList_join,
      String.toList_ofList, List.flatMap_map]
    simp [pascalCase]
  · rw [← toList_joinWith, String.ofList_toList]
    rfl

/-- Nothing but slashes stands before what is read. -/
theorem trimmed_joined (slashes : Nat) {mark : Char} (visible : isBlank mark = false)
    {first : String} {rest : List String}
    (segments : ∀ segment ∈ first :: rest, IsSegment segment) :
    (trimChars (List.replicate slashes '/' ++ joined mark first rest)).dropWhile (· == '/') =
      joined mark first rest := by
  have plain : ∀ c ∈ List.replicate slashes '/' ++ joined mark first rest, isBlank c = false := by
    rw [List.forall_mem_append]
    refine ⟨fun c member => ?_, isBlank_joined visible segments⟩
    rw [List.eq_of_mem_replicate member]
    decide
  obtain ⟨c, behind, spelled, noSlash⟩ :=
    joined_eq_cons mark (segments first List.mem_cons_self) rest
  rw [trimChars_of_forall plain,
    List.dropWhile_append_of_pos fun c member => by simp [List.eq_of_mem_replicate member],
    spelled, List.dropWhile_cons_of_neg (by simpa using noSlash)]

theorem apiName?_eq_namesOf {raw : String} (mark : Char) {first : String} {rest : List String}
    (segments : ∀ segment ∈ first :: rest, IsSegment segment)
    (trimmed : (trimChars raw.toList).dropWhile (· == '/') = joined mark first rest)
    (dotted : (if (joined mark first rest).contains '/' then
      (joined mark first rest).map swapSeparator else joined mark first rest) =
        joined '.' first rest) :
    apiName? raw = some (namesOf (first :: rest)) := by
  obtain ⟨c, behind, spelled, _⟩ := joined_eq_cons mark (segments first List.mem_cons_self) rest
  have filled : (joined mark first rest).isEmpty = false := by
    rw [spelled]
    rfl
  unfold apiName?
  dsimp only
  rw [trimmed, filled, if_neg Bool.false_ne_true, dotted, namesOf_eq]

theorem apiName?_dotted {first : String} {rest : List String}
    (segments : ∀ segment ∈ first :: rest, IsSegment segment) :
    apiName? (joinWith "." (first :: rest)) = some (namesOf (first :: rest)) := by
  have spelled : (joinWith "." (first :: rest)).toList = joined '.' first rest :=
    toList_joinWith '.' first rest
  apply apiName?_eq_namesOf '.' segments
  · rw [spelled]
    exact trimmed_joined 0 (by decide) segments
  · rw [if_neg (by simpa using not_slash_joined segments)]

theorem apiName?_path (slashes : Nat) {first : String} {rest : List String}
    (segments : ∀ segment ∈ first :: rest, IsSegment segment) :
    apiName? (String.ofList (List.replicate slashes '/') ++ joinWith "/" (first :: rest)) =
      some (namesOf (first :: rest)) := by
  have spelled : (joinWith "/" (first :: rest)).toList = joined '/' first rest :=
    toList_joinWith '/' first rest
  apply apiName?_eq_namesOf '/' segments
  · rw [String.toList_append, String.toList_ofList, spelled]
    exact trimmed_joined slashes (by decide) segments
  · split
    · exact map_swapSeparator_joined segments
    · rename_i noSlash
      -- Two segments would have a slash between them.
      cases rest with
      | nil => rfl
      | cons second rest => simp [joined] at noSlash

/-- A path, with any number of slashes before it, and a dotted name of the same segments give the
same names. This is so because Pascal case goes through separators, leaves none and is idempotent; of a
word it only changes the first character. -/
theorem apiName?_joined :
    (∀ segments : List String, segments ≠ [] → (∀ segment ∈ segments, IsSegment segment) →
      ∀ slashes : Nat,
        apiName? (String.ofList (List.replicate slashes '/') ++ joinWith "/" segments) =
            some (namesOf segments) ∧
          apiName? (joinWith "." segments) = some (namesOf segments)) ∧
      (∀ before behind separator, separator ∈ ['.', '/', '_'] →
        pascalCase (before ++ String.singleton separator ++ behind) =
          pascalCase before ++ pascalCase behind) ∧
      (∀ name, ∀ c ∈ (pascalCase name).toList, c ∉ ['.', '/', '_']) ∧
      (∀ name, pascalCase (pascalCase name) = pascalCase name) ∧
      ∀ first rest, (∀ c ∈ first :: rest, c ∉ ['.', '/', '_']) →
        pascalCase (String.ofList (first :: rest)) = String.ofList (upperChar first ++ rest) := by
  have separators (c : Char) : isWordSeparator c = true ↔ c ∈ ['.', '/', '_'] := by
    simp [isWordSeparator, or_assoc]
  refine ⟨fun segments some isSegment slashes => ?_, fun before behind separator isSeparator => ?_,
    fun name c member isSeparator => ?_, fun name => ?_, fun first rest whole => ?_⟩
  · obtain ⟨first, rest, rfl⟩ := List.exists_cons_of_ne_nil some
    exact ⟨apiName?_path slashes isSegment, apiName?_dotted isSegment⟩
  · have parts := pascalChars_append_cons ((separators separator).mpr isSeparator)
      before.toList behind.toList
    simp [pascalCase, parts]
  · rw [pascalCase, String.toList_ofList] at member
    rw [← separators, isWordSeparator_of_mem_pascalChars member] at isSeparator
    cases isSeparator
  · rw [pascalCase, pascalCase, String.toList_ofList, pascalChars_pascalChars]
  · have word : ∀ c ∈ first :: rest, isWordSeparator c = false := fun c member =>
      Bool.eq_false_of_not_eq_true fun isSeparator =>
        whole c member ((separators c).mp isSeparator)
    rw [pascalCase, String.toList_ofList, pascalChars_of_forall word, capitalize]

/-- Segments of which one begins with a letter that has two capitals. -/
def parcelSegments : List String := ["ßorder", "search_list"]

theorem apiName?_joined_parcel :
    (∀ segment ∈ parcelSegments, IsSegment segment) ∧
      apiName? "//ßorder/search_list" = some ⟨"SSorderSearchList", "ßorder.search_list"⟩ ∧
      apiName? "ßorder.search_list" = some ⟨"SSorderSearchList", "ßorder.search_list"⟩ ∧
      pascalCase "search_list" = pascalCase "search" ++ pascalCase "list" ∧
      pascalCase "ßorder" = "SSorder" := by
  obtain ⟨agree, parts, _, _, word⟩ := apiName?_joined
  have segments : ∀ segment ∈ parcelSegments, IsSegment segment := by decide +kernel
  obtain ⟨path, dotted⟩ := agree parcelSegments (by decide) segments 2
  have names : namesOf parcelSegments = ⟨"SSorderSearchList", "ßorder.search_list"⟩ := by
    rw [namesOf, ApiName.mk.injEq]
    decide +kernel
  rw [names] at path dotted
  exact ⟨segments, path, dotted, parts "search" "list" '_' (by decide),
    word 'ß' ['o', 'r', 'd', 'e', 'r'] (by simp)⟩

end ApiSchema.Naming
