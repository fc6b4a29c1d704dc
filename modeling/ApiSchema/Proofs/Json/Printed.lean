import ApiSchema.Proofs.Json.Carrying
import ApiSchema.Proofs.Json.Scanning

/-!
The reader on what the printer writes. From where a value may stand, the text of a value takes the
reader to where the value has been read, whatever is open around it; so a document that was printed
is read as the value that it was printed for.
-/

set_option autoImplicit false

namespace ApiSchema.Json

def gap (depth : Nat) : List Char := '\n' :: List.replicate (2 * depth) ' '

theorem isSpace_of_mem_gap (depth : Nat) : ∀ c ∈ gap depth, isSpace c = true := by
  unfold gap
  rw [List.forall_mem_cons]
  refine ⟨rfl, fun c member => ?_⟩
  rw [List.eq_of_mem_replicate member]
  rfl

theorem toList_lineBreak (depth : Nat) : (lineBreak depth).toList = gap depth := by
  rw [lineBreak, String.toList_append]
  simp [gap]

def laterEntry (depth : Nat) (text : String) : List Char := ',' :: gap depth ++ text.toList

theorem toList_intercalate (depth : Nat) (first : String) (texts : List String) :
    (String.intercalate ("," ++ lineBreak depth) (first :: texts)).toList =
      first.toList ++ texts.flatMap (laterEntry depth) := by
  induction texts generalizing first with
  | nil => simp
  | cons second texts ih =>
      rw [String.intercalate_cons_cons, String.toList_append, String.toList_append, ih,
        String.toList_append, toList_lineBreak, List.flatMap_cons, laterEntry]
      simp

theorem toList_bracketed (start stop : String) (depth : Nat) (first : String)
    (texts : List String) :
    (bracketed start stop depth (first :: texts)).toList =
      start.toList ++ (gap (depth + 1) ++ (first.toList ++
        (texts.flatMap (laterEntry (depth + 1)) ++ (gap depth ++ stop.toList)))) := by
  simp only [bracketed, String.toList_append, toList_intercalate, toList_lineBreak,
    List.append_assoc]

theorem endsNumber_gap (depth : Nat) (rest : List Char) : EndsNumber (gap depth ++ rest) := by
  rintro c ⟨⟩
  decide

theorem endsNumber_laterEntries (depth : Nat) (texts : List String) {rest : List Char}
    (ends : EndsNumber rest) : EndsNumber (texts.flatMap (laterEntry depth) ++ rest) := by
  cases texts with
  | nil => exact ends
  | cons text texts =>
      rintro c ⟨⟩
      decide

inductive Expectation.WantsValue : Expectation → Prop
  | value : WantsValue .value
  | firstItem : WantsValue .firstItem
  | nextItem : WantsValue .nextItem

theorem step_of_wantsValue {expected : Expectation} (wants : expected.WantsValue)
    (frames : List Frame) (place : Nat) {token : Token} (opens : token ≠ .mark .closeArray) :
    (ReaderState.reading frames expected).step (place, token) = readValue frames place token := by
  cases wants with
  | value => rfl
  | firstItem | nextItem =>
      rcases token with ⟨_ | _ | _ | _ | _ | _⟩ | _ | _ | _
      all_goals first | rfl | exact absurd rfl opens

/-- So many containers can be entered within the frames. -/
structure HasRoom (levels : Nat) (frames : List Frame) : Prop where
  entered : ∀ found start, frames.head? ≠ some (.tooDeep found start)
  within : frames.length + levels ≤ depthLimit

theorem HasRoom.isFull {levels : Nat} {frames : List Frame} (room : HasRoom (levels + 1) frames) :
    isFull frames = false := by
  have within := room.within
  unfold Json.isFull
  split
  · exact absurd rfl (room.entered _ _)
  · simpa using by omega

/-- Wherever a value may stand within frames with room for so many levels, the text takes the reader
to behind the value. -/
def ReadsAs (levels : Nat) (text : String) (value : Value) : Prop :=
  ∀ frames expected rest place, HasRoom levels frames → expected.WantsValue → EndsNumber rest →
    ∃ node behind, Carries node value ∧
      readFrom (.reading frames expected) (text.toList ++ rest) place =
        readFrom (deliver frames place node) rest behind

section

variable {levels : Nat}

theorem readsAs_scalar {text : String} {scalar : Scalar} {value : Value}
    (carries : ∀ stop, Carries (.scalar scalar stop) value)
    (read : ∀ state rest place, EndsNumber rest → ∃ stop,
      readFrom state (text.toList ++ rest) place =
        readFrom (state.step (place, .plain (.sound scalar stop))) rest stop) :
    ReadsAs levels text value := by
  intro frames expected rest place _ wants ends
  obtain ⟨stop, taken⟩ := read (.reading frames expected) rest place ends
  have opens : Token.plain (.sound scalar stop) ≠ .mark .closeArray := nofun
  rw [step_of_wantsValue wants frames place opens] at taken
  exact ⟨_, stop, carries (some stop), taken⟩

theorem readsAs_null : ReadsAs levels "null" .null :=
  readsAs_scalar .null fun state rest place _ =>
    readFrom_word state rest place (by decide) fun _ _ => rfl

theorem readsAs_bool (value : Bool) :
    ReadsAs levels (if value then "true" else "false") (.bool value) :=
  readsAs_scalar (.bool value) fun state rest place _ => readFrom_bool state rest place value

theorem readsAs_natural {number : Nat} (small : number < 2 ^ 64) :
    ReadsAs levels (toString number) (.ofNat number) :=
  readsAs_scalar (.number _) fun state rest place ends =>
    readFrom_natural state rest place small ends

theorem readsAs_string (text : String) : ReadsAs levels (stringText text) (.string text) := by
  intro frames expected rest place _ wants _
  obtain ⟨stop, taken⟩ := readFrom_stringText (.reading frames expected) rest place text
  have opens : Token.quoted (.sound text stop) ≠ .mark .closeArray := nofun
  rw [step_of_wantsValue wants frames place opens] at taken
  exact ⟨_, stop, .string text (some stop), taken⟩

end

section

variable {ε υ : Type} {may between : List ε → ReaderState → Prop} {is : ε → υ → Prop}
  {rest : List Char} {place : Nat}

/-- Wherever an entry may stand behind others, the text takes the reader to behind one more entry,
which is the value. -/
def EntersAs (may between : List ε → ReaderState → Prop) (is : ε → υ → Prop) (text : String)
    (value : υ) : Prop :=
  ∀ held state rest place, may held state → EndsNumber rest →
    ∃ entry next behind, is entry value ∧ between (entry :: held) next ∧
      readFrom state (text.toList ++ rest) place = readFrom next rest behind

/-- Entries behind commas, one after another. -/
theorem readFrom_laterEntries (depth : Nat)
    (comma : ∀ held state place, between held state →
      may held (state.step (place, .mark .comma)))
    {texts : List String} {values : List υ}
    (enters : List.Forall₂ (EntersAs may between is) texts values) {held : List ε}
    {state : ReaderState} (reached : between held state) (ends : EndsNumber rest) :
    ∃ entries next behind, List.Forall₂ is entries values ∧ between (entries.reverse ++ held) next ∧
      readFrom state (texts.flatMap (laterEntry depth) ++ rest) place =
        readFrom next rest behind := by
  induction enters generalizing held state place with
  | nil => exact ⟨[], state, place, .nil, reached, rfl⟩
  | @cons text value texts values here _ ih =>
      obtain ⟨entry, next, between', isValue, follows, read⟩ :=
        here held (state.step (place, .mark .comma)) (texts.flatMap (laterEntry depth) ++ rest)
          (place + ','.utf8Size + (gap depth).length) (comma held state place reached)
          (endsNumber_laterEntries depth texts ends)
      obtain ⟨entries, last, behind, areValues, ended, readToo⟩ := ih follows
      refine ⟨entry :: entries, last, behind, .cons isValue areValues, by simpa using ended, ?_⟩
      have spelled : (text :: texts).flatMap (laterEntry depth) ++ rest =
          ',' :: (gap depth ++ (text.toList ++ (texts.flatMap (laterEntry depth) ++ rest))) := by
        simp [laterEntry]
      rw [spelled, readFrom_mark state _ place rfl rfl,
        readFrom_blanks _ _ _ (isSpace_of_mem_gap depth), read, readToo]

/-- Entries between brackets, up to the gap before the closing one. -/
theorem readFrom_entries (depth : Nat)
    (comma : ∀ held state place, between held state →
      may held (state.step (place, .mark .comma)))
    {first : String} {texts : List String} {values : List υ}
    (enters : List.Forall₂ (EntersAs may between is) (first :: texts) values)
    {state : ReaderState} (opened : may [] state) (ends : EndsNumber rest) :
    ∃ entries next behind, List.Forall₂ is entries values ∧ between entries.reverse next ∧
      readFrom state (gap depth ++ (first.toList ++ (texts.flatMap (laterEntry depth) ++ rest)))
        place = readFrom next rest behind := by
  cases enters with
  | cons here later =>
      obtain ⟨entry, next, between', isValue, follows, read⟩ :=
        here [] state (texts.flatMap (laterEntry depth) ++ rest) (place + (gap depth).length) opened
          (endsNumber_laterEntries depth texts ends)
      obtain ⟨entries, last, behind, areValues, ended, readToo⟩ :=
        readFrom_laterEntries depth comma later follows ends
      refine ⟨entry :: entries, last, behind, .cons isValue areValues, by simpa using ended, ?_⟩
      rw [readFrom_blanks _ _ _ (isSpace_of_mem_gap depth), read, readToo]

end

section

variable {levels : Nat} {frames : List Frame} {start : Nat}

inductive MayItem (frames : List Frame) (start : Nat) : List (Nat × Node) → ReaderState → Prop
  | first (held : List (Nat × Node)) :
      MayItem frames start held (.reading (.array start held :: frames) .firstItem)
  | next (held : List (Nat × Node)) :
      MayItem frames start held (.reading (.array start held :: frames) .nextItem)

/-- The items of the array have been read so far. -/
def AfterItems (frames : List Frame) (start : Nat) (held : List (Nat × Node))
    (state : ReaderState) : Prop :=
  state = .reading (.array start held :: frames) .afterItem

theorem HasRoom.array (room : HasRoom (levels + 1) frames) (start : Nat)
    (held : List (Nat × Node)) : HasRoom levels (.array start held :: frames) where
  entered := by simp
  within := by
    have within := room.within
    rw [List.length_cons]
    omega

theorem entersAs_item (room : HasRoom (levels + 1) frames) (start : Nat) {text : String}
    {value : Value} (reads : ReadsAs levels text value) :
    EntersAs (MayItem frames start) (AfterItems frames start) (fun entry => Carries entry.2)
      text value := by
  intro held state rest place may ends
  have inside := room.array start held
  have entered (node : Node) : AfterItems frames start ((place, node) :: held)
      (deliver (.array start held :: frames) place node) := rfl
  cases may with
  | first =>
      obtain ⟨node, behind, carries, read⟩ :=
        reads _ _ rest place inside .firstItem ends
      exact ⟨(place, node), _, behind, carries, entered node, read⟩
  | next =>
      obtain ⟨node, behind, carries, read⟩ :=
        reads _ _ rest place inside .nextItem ends
      exact ⟨(place, node), _, behind, carries, entered node, read⟩

theorem mayItem_comma (held : List (Nat × Node)) (state : ReaderState) (place : Nat)
    (after : AfterItems frames start held state) :
    MayItem frames start held (state.step (place, .mark .comma)) := by
  rw [after]
  exact .next held

theorem readFrom_closeArray (depth : Nat) {held : List (Nat × Node)} {state : ReaderState}
    (after : AfterItems frames start held state) (rest : List Char) (place : Nat) :
    ∃ stop, readFrom state (gap depth ++ ']' :: rest) place =
      readFrom (deliver frames start (.array (some start) (itemsOf held (.closed (some stop)))))
        rest stop := by
  refine ⟨place + (gap depth).length + 1, ?_⟩
  rw [after, readFrom_blanks _ _ _ (isSpace_of_mem_gap depth), readFrom_mark _ _ _ rfl rfl]
  rfl

theorem carriesItems_itemsOf {entries : List (Nat × Node)} {values : List Value}
    (carries : List.Forall₂ (fun entry => Carries entry.2) entries values) (stop : Nat) :
    CarriesItems (itemsOf entries.reverse (.closed (some stop))) values := by
  unfold itemsOf
  rw [List.foldl_reverse]
  induction carries with
  | nil => exact .closed (some stop)
  | cons first _ ih => exact .item _ first ih

/-- Items between brackets are read as an array. -/
theorem readsAs_array (depth : Nat) {texts : List String} {values : List Value}
    (reads : List.Forall₂ (ReadsAs levels) texts values) :
    ReadsAs (levels + 1) (bracketed "[" "]" depth texts) (.array values) := by
  intro frames expected rest place room wants ends
  have opens : Token.mark .openArray ≠ .mark .closeArray := nofun
  have opened (inner : List Char) : readFrom (.reading frames expected) ('[' :: inner) place =
      readFrom (.reading (.array place [] :: frames) .firstItem) inner (place + 1) := by
    rw [readFrom_mark _ _ _ rfl rfl, step_of_wantsValue wants frames place opens]
    simp only [readValue, openFrame, room.isFull, Bool.false_eq_true, ↓reduceIte]
    rfl
  cases reads with
  | nil =>
      refine ⟨.array (some place) (.closed (some (place + 1 + 1))), place + 1 + 1,
        .array _ (.closed _), ?_⟩
      have spelled : (bracketed "[" "]" depth []).toList ++ rest = '[' :: ']' :: rest := by
        simp [bracketed]
      rw [spelled, opened, readFrom_mark _ _ _ rfl rfl]
      rfl
  | @cons first value texts values here later =>
      have enters := (List.Forall₂.cons here later).imp fun _ _ reads =>
        entersAs_item room place reads
      obtain ⟨entries, next, behind, carries, after, read⟩ :=
        readFrom_entries (depth + 1) mayItem_comma enters (.first [])
          (endsNumber_gap depth (']' :: rest))
      have spelled : (bracketed "[" "]" depth (first :: texts)).toList ++ rest =
          '[' :: (gap (depth + 1) ++ (first.toList ++ (texts.flatMap (laterEntry (depth + 1)) ++
            (gap depth ++ ']' :: rest)))) := by
        simp [toList_bracketed]
      obtain ⟨stop, closed⟩ := readFrom_closeArray depth after rest behind
      refine ⟨_, stop, .array (some place) (carriesItems_itemsOf carries stop), ?_⟩
      rw [spelled, opened, read, closed]

end

section

variable {levels : Nat} {frames : List Frame} {start : Nat}

inductive MayMember (frames : List Frame) (start : Nat) :
    List (String × Nat × Node) → ReaderState → Prop
  | first (held : List (String × Nat × Node)) (key : String) (keyStop : Nat) :
      MayMember frames start held
        (.reading (.object start held key keyStop none :: frames) .firstKey)
  | next (held : List (String × Nat × Node)) (key : String) (keyStop : Nat) :
      MayMember frames start held
        (.reading (.object start held key keyStop none :: frames) .nextKey)

/-- The members of the object have been read so far. -/
inductive AfterMembers (frames : List Frame) (start : Nat) :
    List (String × Nat × Node) → ReaderState → Prop
  | intro (held : List (String × Nat × Node)) (key : String) (keyStop : Nat) :
      AfterMembers frames start held
        (.reading (.object start held key keyStop none :: frames) .afterMember)

theorem HasRoom.object (room : HasRoom (levels + 1) frames) (start : Nat)
    (held : List (String × Nat × Node)) (key : String) (keyStop : Nat) :
    HasRoom levels (.object start held key keyStop none :: frames) where
  entered := by simp
  within := by
    have within := room.within
    rw [List.length_cons]
    omega

def IsMember (entry : String × Nat × Node) (member : String × Value) : Prop :=
  entry.1 = member.1 ∧ Carries entry.2.2 member.2

/-- The text is the key of the member, and its value behind a colon. -/
def MemberReadsAs (levels : Nat) (text : String) (member : String × Value) : Prop :=
  ∃ inner, text = stringText member.1 ++ ": " ++ inner ∧ ReadsAs levels inner member.2

theorem entersAs_member (room : HasRoom (levels + 1) frames) (start : Nat) {text : String}
    {member : String × Value} (reads : MemberReadsAs levels text member) :
    EntersAs (MayMember frames start) (AfterMembers frames start) IsMember text member := by
  intro held state rest place may ends
  obtain ⟨key, value⟩ := member
  obtain ⟨text, rfl, reads⟩ := reads
  obtain ⟨stop, keyed⟩ := readFrom_stringText state (':' :: ' ' :: (text.toList ++ rest)) place key
  have named : state.step (place, .quoted (.sound key stop)) =
      .reading (.object start held key 0 none :: frames) .colon := by
    cases may <;> rfl
  have inside := room.object start held key stop
  obtain ⟨node, behind, carries, read⟩ := reads _ _ rest (stop + 1 + 1) inside .value ends
  refine ⟨(key, stop, node), _, behind, ⟨rfl, carries⟩, .intro _ key stop, ?_⟩
  have spelled : (stringText key ++ ": " ++ text).toList ++ rest =
      (stringText key).toList ++ ':' :: ' ' :: (text.toList ++ rest) := by
    simp
  rw [spelled, keyed, named, readFrom_mark _ _ _ rfl rfl, readFrom_blank _ _ _ rfl]
  exact read

theorem mayMember_comma (held : List (String × Nat × Node)) (state : ReaderState) (place : Nat)
    (after : AfterMembers frames start held state) :
    MayMember frames start held (state.step (place, .mark .comma)) := by
  cases after with
  | intro key keyStop => exact .next held key keyStop

theorem readFrom_closeObject (depth : Nat) {held : List (String × Nat × Node)}
    {state : ReaderState} (after : AfterMembers frames start held state) (rest : List Char)
    (place : Nat) :
    ∃ stop, readFrom state (gap depth ++ Char.ofNat 0x7D :: rest) place =
      readFrom (deliver frames start (.object (some start) (membersOf held (.closed (some stop)))))
        rest stop := by
  refine ⟨place + (gap depth).length + 1, ?_⟩
  cases after with
  | intro key keyStop =>
      rw [readFrom_blanks _ _ _ (isSpace_of_mem_gap depth), readFrom_mark _ _ _ rfl rfl]
      rfl

theorem carriesMembers_membersOf {entries : List (String × Nat × Node)}
    {members : List (String × Value)} (areMembers : List.Forall₂ IsMember entries members)
    (stop : Nat) :
    CarriesMembers (membersOf entries.reverse (.closed (some stop))) members := by
  unfold membersOf
  rw [List.foldl_reverse]
  induction areMembers with
  | nil => exact .closed (some stop)
  | @cons entry member entries members first _ ih =>
      obtain ⟨key, keyStop, node⟩ := entry
      obtain ⟨key, value⟩ := member
      obtain ⟨rfl, carries⟩ := first
      exact .member key (some keyStop) carries ih

/-- Members between braces are read as an object. -/
theorem readsAs_object (depth : Nat) {texts : List String} {members : List (String × Value)}
    (reads : List.Forall₂ (MemberReadsAs levels) texts members) :
    ReadsAs (levels + 1) (bracketed openBrace closeBrace depth texts) (.object members) := by
  intro frames expected rest place room wants ends
  have opens : Token.mark .openObject ≠ .mark .closeArray := nofun
  have opened (inner : List Char) :
      readFrom (.reading frames expected) (Char.ofNat 0x7B :: inner) place =
        readFrom (.reading (.object place [] "" 0 none :: frames) .firstKey) inner (place + 1) := by
    rw [readFrom_mark _ _ _ rfl rfl, step_of_wantsValue wants frames place opens]
    simp only [readValue, openFrame, room.isFull, Bool.false_eq_true, ↓reduceIte]
    rfl
  cases reads with
  | nil =>
      refine ⟨.object (some place) (.closed (some (place + 1 + 1))), place + 1 + 1,
        .object _ (.closed _), ?_⟩
      have spelled : (bracketed openBrace closeBrace depth []).toList ++ rest =
          Char.ofNat 0x7B :: Char.ofNat 0x7D :: rest := by
        simp [bracketed, openBrace, closeBrace]
      rw [spelled, opened, readFrom_mark _ _ _ rfl rfl]
      rfl
  | @cons first member texts members here later =>
      have enters := (List.Forall₂.cons here later).imp fun _ _ reads =>
        entersAs_member room place reads
      obtain ⟨entries, next, behind, areMembers, after, read⟩ :=
        readFrom_entries (depth + 1) mayMember_comma enters (.first [] "" 0)
          (endsNumber_gap depth (Char.ofNat 0x7D :: rest))
      have spelled : (bracketed openBrace closeBrace depth (first :: texts)).toList ++ rest =
          Char.ofNat 0x7B :: (gap (depth + 1) ++ (first.toList ++
            (texts.flatMap (laterEntry (depth + 1)) ++
              (gap depth ++ Char.ofNat 0x7D :: rest)))) := by
        simp [toList_bracketed, openBrace, closeBrace]
      obtain ⟨stop, closed⟩ := readFrom_closeObject depth after rest behind
      refine ⟨_, stop, .object (some place) (carriesMembers_membersOf areMembers stop), ?_⟩
      rw [spelled, opened, read, closed]

end

/-- The value has no numbers but natural ones of at most sixty-four bits, and its containers are
nested in at most so many levels. -/
inductive Fits : Nat → Value → Prop
  | null (levels : Nat) : Fits levels .null
  | bool (levels : Nat) (value : Bool) : Fits levels (.bool value)
  | natural (levels : Nat) {number : Nat} (small : number < 2 ^ 64) : Fits levels (.ofNat number)
  | string (levels : Nat) (text : String) : Fits levels (.string text)
  | array {levels : Nat} {items : List Value} (inner : ∀ item ∈ items, Fits levels item) :
      Fits (levels + 1) (.array items)
  | object {levels : Nat} {members : List (String × Value)}
      (inner : ∀ member ∈ members, Fits levels member.2) : Fits (levels + 1) (.object members)

theorem forall₂_prettyItems {levels depth : Nat} {items : List Value}
    (reads : ∀ item ∈ items, ReadsAs levels (item.prettyAt depth) item) :
    List.Forall₂ (ReadsAs levels) (prettyItems depth items) items := by
  induction items with
  | nil => exact .nil
  | cons item items ih =>
      rw [List.forall_mem_cons] at reads
      exact .cons reads.1 (ih reads.2)

theorem forall₂_prettyMembers {levels depth : Nat} {members : List (String × Value)}
    (reads : ∀ member ∈ members, ReadsAs levels (member.2.prettyAt depth) member.2) :
    List.Forall₂ (MemberReadsAs levels) (prettyMembers depth members) members := by
  induction members with
  | nil => exact .nil
  | cons member members ih =>
      rw [List.forall_mem_cons] at reads
      exact .cons ⟨_, rfl, reads.1⟩ (ih reads.2)

/-- A value that is printed at any depth is read as it was. -/
theorem readsAs_prettyAt {levels : Nat} {value : Value} (fits : Fits levels value)
    (depth : Nat) : ReadsAs levels (value.prettyAt depth) value := by
  induction fits generalizing depth with
  | null levels => exact readsAs_null
  | bool levels value => exact readsAs_bool value
  | natural levels small => exact readsAs_natural small
  | string levels text => exact readsAs_string text
  | array _ ih =>
      exact readsAs_array depth (forall₂_prettyItems fun item member => ih item member (depth + 1))
  | object _ ih =>
      exact readsAs_object depth
        (forall₂_prettyMembers fun entry member => ih entry member (depth + 1))

/-- A document that was printed is read as the value that it was printed for, also with a blank
behind it. -/
theorem readDocument_pretty {value : Value} (fits : Fits depthLimit value) :
    ∃ node, Carries node value ∧ readDocument (value.pretty ++ "\n") = ⟨node, none⟩ := by
  have room : HasRoom depthLimit [] := ⟨nofun, by simp⟩
  obtain ⟨node, behind, carries, read⟩ :=
    readsAs_prettyAt fits 0 [] .value ['\n'] 0 room .value (by simp [EndsNumber])
  refine ⟨node, carries, ?_⟩
  have spelled : (value.pretty ++ "\n").toList = (value.prettyAt 0).toList ++ ['\n'] :=
    String.toList_append
  change (readFrom _ (value.pretty ++ "\n").toList 0).finish _ = _
  rw [spelled, read, readFrom_blank _ _ _ rfl]
  simp [readFrom, tokens, deliver, ReaderState.finish]

end ApiSchema.Json
