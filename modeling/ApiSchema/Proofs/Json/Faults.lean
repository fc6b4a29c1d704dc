import ApiSchema.Proofs.Json.Reports

set_option autoImplicit false

namespace ApiSchema.Json

def Reading.Plain {α : Type} : Reading α → Prop
  | .sound _ _ => True
  | .flawed fault _ => fault.Plain
  | .broken fault loose => fault.Plain ∧ loose.Plain

def Token.Plain : Token → Prop
  | .plain reading => reading.Plain
  | .quoted reading => reading.Plain
  | .mark _ | .foreign => True

theorem plain_of {reason : Reason} (words : OneLine reason.text) (place : Place) :
    Fault.Plain ⟨reason, place⟩ := words

theorem fails_of {α : Type} {reason : Reason} (words : OneLine reason.text) (place : Place) :
    FailsPlainly (.error ⟨reason, place⟩ : Except Fault α) := failsPlainly_error.mpr words

theorem plain_readFourHex (cs : List Char) (place : Nat) : FailsPlainly (readFourHex cs place) := by
  unfold readFourHex
  split
  · exact failsPlainly_ok _
  · dsimp only
    split
    · exact fails_of (by decide) _
    · exact fails_of (by decide) _

theorem plain_readLowSurrogate (high : Nat) (cs : List Char) (place : Nat) :
    FailsPlainly (readLowSurrogate high cs place) := by
  unfold readLowSurrogate
  split
  · exact fails_of (by decide) _
  · split
    · exact fails_of (by decide) _
    · rename_i digits
      split
      · rename_i fault failed
        exact failsPlainly_error.mpr (plain_readFourHex digits _ fault failed)
      · split
        · exact fails_of (by decide) _
        · exact failsPlainly_ok _
    · exact fails_of (by decide) _
  · exact fails_of (by decide) _

theorem plain_readEscape (cs : List Char) (place : Nat) : FailsPlainly (readEscape cs place) := by
  unfold readEscape
  split
  · exact fails_of (by decide) _
  · rename_i c rest
    split
    · exact failsPlainly_ok _
    · split
      · exact fails_of (by decide) _
      · split
        · rename_i fault failed
          exact failsPlainly_error.mpr (plain_readFourHex rest _ fault failed)
        · split
          · exact fails_of (by decide) _
          · split
            · exact failsPlainly_ok _
            · exact (plain_readLowSurrogate _ _ _).map _

theorem plain_skipEscape (cs : List Char) (place : Nat) : FailsPlainly (skipEscape cs place) := by
  unfold skipEscape
  split
  · exact fails_of (by decide) _
  · split
    · exact failsPlainly_ok _
    · split
      · exact fails_of (by decide) _
      · exact (plain_readFourHex _ _).map _

theorem plain_readString (cs : List Char) (place count : Nat) (taken : List Char) :
    FailsPlainly (readString cs place count taken) := by
  fun_induction readString cs place count taken with
  | case1 place count taken => exact fails_of (by decide) _
  | case2 => exact failsPlainly_ok _
  | case3 place count taken c rest _ _ fault failed =>
      exact failsPlainly_error.mpr (plain_readEscape rest _ fault failed)
  | case4 place count taken c rest _ _ meant size _ ih => exact ih
  | case5 => exact fails_of (by decide) _
  | case6 place count taken c rest _ _ _ ih => exact ih

theorem plain_skipString (cs : List Char) (place count : Nat) :
    FailsPlainly (skipString cs place count) := by
  fun_induction skipString cs place count with
  | case1 place count => exact fails_of (by decide) _
  | case2 => exact failsPlainly_ok _
  | case3 place count c rest _ _ fault failed =>
      exact failsPlainly_error.mpr (plain_skipEscape rest _ fault failed)
  | case4 place count c rest _ _ size _ ih => exact ih
  | case5 => exact fails_of (by decide) _
  | case6 place count c rest _ _ _ ih => exact ih

theorem plain_stringToken (cs : List Char) (place : Nat) : (stringToken cs place).1.Plain := by
  unfold stringToken
  split
  · trivial
  · rename_i fault failed
    have plain := plain_readString cs place 0 [] fault failed
    split
    · exact plain
    · rename_i loose failedToo
      exact ⟨plain, plain_skipString cs place 0 loose failedToo⟩

theorem plain_scanNumber {early : Reason} (words : OneLine early.text) (cs : List Char)
    (start : Nat) : FailsPlainly (scanNumber early cs start) := by
  unfold scanNumber
  extract_lets missing _ _ _ _ _ _ _ _ _ afterFraction
  have plain (rest : List Char) (place : Nat) : (missing rest place).Plain := by
    change Fault.Plain (if rest.isEmpty then _ else _)
    split
    · exact words
    · exact plain_of (by decide) _
  clear_value afterFraction
  split
  · exact failsPlainly_error.mpr (plain _ _)
  · split
    · exact fails_of (by decide) _
    · split
      · exact failsPlainly_error.mpr (plain _ _)
      · split
        · split
          · extract_lets
            split
            · exact failsPlainly_error.mpr (plain _ _)
            · exact failsPlainly_ok _
          · exact failsPlainly_ok _
        · exact failsPlainly_ok _

theorem plain_number (parts : Parts) (start size : Nat) :
    FailsPlainly (parts.number start size) := by
  unfold Parts.number
  split
  extract_lets inexact fraction
  have plain (power : Int) (significand : Nat) : FailsPlainly (inexact power significand) := by
    simp only [inexact]
    split
    · exact failsPlainly_ok _
    · exact fails_of (by decide) _
  clear_value inexact
  split
  extract_lets power
  split
  · split
    · exact plain _ _
    · split
      · exact failsPlainly_ok _
      · exact fails_of (by decide) _
  · split
    · exact plain _ _
    · split
      · exact failsPlainly_ok _
      · split
        · exact failsPlainly_ok _
        · exact failsPlainly_ok _

theorem plain_numberToken (cs : List Char) (place : Nat) : (numberToken cs place).1.Plain := by
  unfold numberToken
  split
  · rename_i size parts scanned
    split
    · trivial
    · rename_i fault failed
      exact plain_number parts place size fault failed
  · rename_i fault failed
    have plain := plain_scanNumber (by decide) cs place fault failed
    refine ⟨plain, ?_⟩
    split
    · rename_i loose failedToo
      exact plain_scanNumber (by decide) cs place loose failedToo
    · exact plain

theorem plain_wordFault? (word cs : List Char) (place : Nat) :
    ∀ fault ∈ wordFault? word cs place, fault.Plain := by
  have only {fault : Fault} (plain : fault.Plain) : ∀ other ∈ some fault, other.Plain := by
    rintro other ⟨⟩
    exact plain
  fun_induction wordFault? word cs place with
  | case1 => simp
  | case2 => exact only (plain_of (by decide) _)
  | case3 wanted word c rest place _ ih => exact ih
  | case4 => exact only (plain_of (by decide) _)

theorem plain_wordToken (word : List Char) (value : Scalar) (cs : List Char) (place : Nat) :
    (wordToken word value cs place).1.Plain := by
  unfold wordToken
  split
  · trivial
  · rename_i fault found
    have plain := plain_wordFault? word cs place fault found
    exact ⟨plain, plain⟩

theorem plain_tokenAt (c : Char) (rest : List Char) (place : Nat) :
    (tokenAt c rest place).1.Plain := by
  unfold tokenAt
  split
  · trivial
  · trivial
  · trivial
  · trivial
  · exact plain_stringToken rest _
  · exact plain_wordToken _ _ rest _
  · exact plain_wordToken _ _ rest _
  · exact plain_wordToken _ _ rest _
  · split
    · trivial
    · split
      · trivial
      · split
        · exact plain_numberToken _ place
        · trivial

/-- The faults of the tokens of a text are reported on one line. -/
theorem plain_tokens (cs : List Char) (place : Nat) :
    ∀ entry ∈ tokens cs place, entry.2.Plain := by
  fun_induction tokens cs place with
  | case1 => simp
  | case2 place c rest _ ih => exact ih
  | case3 place c rest _ token size read _ =>
      have plain := plain_tokenAt c rest place
      rw [read] at plain
      simpa using plain
  | case4 place c rest _ token size read _ ih =>
      have plain := plain_tokenAt c rest place
      rw [read] at plain
      exact List.forall_mem_cons.mpr ⟨plain, ih⟩

/-- The faults of a container that is still open are reported on one line. -/
def Frame.Plain : Frame → Prop
  | .array _ items => ∀ entry ∈ items, entry.2.Plain
  | .object _ members _ _ dead => (∀ entry ∈ members, entry.2.2.Plain) ∧ ∀ fault ∈ dead, fault.Plain
  | .tooDeep _ _ => True

structure Document.Plain (document : Document) : Prop where
  root : document.root.Plain
  trailing : ∀ fault ∈ document.trailing, fault.Plain

/-- The faults met so far are reported on one line. -/
def ReaderState.Plain : ReaderState → Prop
  | .reading frames _ => ∀ frame ∈ frames, frame.Plain
  | .done document => document.Plain

theorem plain_leftoverAt (start : Nat) : (leftoverAt start).Plain := plain_of (by decide) _

theorem plain_itemsOf {items : List (Nat × Node)} (plain : ∀ entry ∈ items, entry.2.Plain)
    {ending : Items} (ends : ending.Plain) : (itemsOf items ending).Plain := by
  induction items generalizing ending with
  | nil => exact ends
  | cons entry rest ih =>
      rw [List.forall_mem_cons] at plain
      exact ih plain.2 ⟨plain_leftoverAt entry.1, plain.1, ends⟩

theorem plain_membersOf {members : List (String × Nat × Node)}
    (plain : ∀ entry ∈ members, entry.2.2.Plain) {ending : Members} (ends : ending.Plain) :
    (membersOf members ending).Plain := by
  induction members generalizing ending with
  | nil => exact ends
  | cons entry rest ih =>
      rw [List.forall_mem_cons] at plain
      exact ih plain.2 ⟨plain.1, ends⟩

theorem plain_leftoverOf {fault : Fault} (plain : fault.Plain) : (leftoverOf fault).Plain := by
  unfold leftoverOf
  split
  · exact plain_of (by decide) _
  · exact plain_of (by decide) _
  · exact plain

namespace Frame

variable {frame : Frame}

theorem Plain.close (plain : frame.Plain) (stop : Nat) : (frame.close stop).Plain := by
  unfold Frame.close
  split
  · exact plain_itemsOf plain trivial
  · exact plain_membersOf plain.1 trivial
  · exact plain_membersOf plain.1 (plain.2 _ rfl)
  · trivial

theorem Plain.breakOff (plain : frame.Plain) {fault : Fault} (isPlain : fault.Plain) :
    (frame.breakOff fault).Plain := by
  unfold Frame.breakOff
  split
  · exact plain_itemsOf plain ⟨isPlain, plain_leftoverOf isPlain⟩
  · rename_i dead
    refine plain_membersOf plain.1 ?_
    cases dead with
    | none => exact isPlain
    | some flaw => exact plain.2 flaw rfl
  · trivial

theorem Plain.add (plain : frame.Plain) (start : Nat) {value : Node} (isPlain : value.Plain) :
    (frame.add start value).Plain := by
  unfold Frame.add
  split
  · exact List.forall_mem_cons.mpr ⟨isPlain, plain⟩
  · exact ⟨List.forall_mem_cons.mpr ⟨isPlain, plain.1⟩, plain.2⟩
  · exact plain
  · trivial

theorem Plain.withKey (plain : frame.Plain) (key : String) : (frame.withKey key).Plain := by
  unfold Frame.withKey
  split
  · exact plain
  · exact plain

theorem Plain.withFlaw (plain : frame.Plain) {fault : Fault} (isPlain : fault.Plain) :
    (frame.withFlaw fault).Plain := by
  unfold Frame.withFlaw
  split
  · refine ⟨plain.1, ?_⟩
    rintro other ⟨⟩
    exact isPlain
  · exact plain

theorem Plain.withKeyStop (plain : frame.Plain) (stop : Nat) : (frame.withKeyStop stop).Plain := by
  unfold Frame.withKeyStop
  split
  · exact plain
  · exact plain

end Frame

section

variable {frames : List Frame} {fault loose : Fault}

theorem plain_done {node : Node} (plain : node.Plain) : (ReaderState.done ⟨node, none⟩).Plain :=
  ⟨plain, by simp⟩

theorem plain_enclose (isPlain : loose.Plain) (plain : ∀ frame ∈ frames, frame.Plain) (start : Nat)
    {value : Node} (inner : value.Plain) : (enclose loose frames start value).Plain := by
  induction frames generalizing start value with
  | nil => exact inner
  | cons frame outer ih =>
      rw [List.forall_mem_cons] at plain
      exact ih plain.2 _ ((plain.1.add start inner).breakOff isPlain)

theorem plain_stopInValue (plain : ∀ frame ∈ frames, frame.Plain) (start : Nat)
    (isPlain : fault.Plain) (loosely : loose.Plain) :
    (stopInValue frames start fault loose).Plain :=
  plain_done (plain_enclose loosely plain start isPlain)

theorem plain_stopBetween (plain : ∀ frame ∈ frames, frame.Plain) (isPlain : fault.Plain)
    (loosely : loose.Plain) : (stopBetween frames fault loose).Plain := by
  unfold stopBetween
  split
  · exact plain_done isPlain
  · rw [List.forall_mem_cons] at plain
    exact plain_done (plain_enclose loosely plain.2 _ (plain.1.breakOff isPlain))

theorem plain_deliver (plain : ∀ frame ∈ frames, frame.Plain) (start : Nat) {value : Node}
    (inner : value.Plain) : (deliver frames start value).Plain := by
  unfold deliver
  split
  · exact plain_done inner
  · rw [List.forall_mem_cons] at plain
    exact List.forall_mem_cons.mpr ⟨plain.1.add start inner, plain.2⟩

theorem plain_closeFrame (plain : ∀ frame ∈ frames, frame.Plain) (stop : Nat) :
    (closeFrame frames stop).Plain := by
  unfold closeFrame
  split
  · exact plain_done (plain_of (by decide) _)
  · rw [List.forall_mem_cons] at plain
    exact plain_deliver plain.2 _ (plain.1.close stop)

theorem plain_openFrame (plain : ∀ frame ∈ frames, frame.Plain) {frame : Frame}
    (isPlain : frame.Plain) (found : Found) (expected : Expectation) :
    (openFrame frames frame found expected).Plain := by
  unfold openFrame
  split
  · exact List.forall_mem_cons.mpr ⟨trivial, plain⟩
  · exact List.forall_mem_cons.mpr ⟨isPlain, plain⟩

theorem plain_readValue (plain : ∀ frame ∈ frames, frame.Plain) (place : Nat) {token : Token}
    (isPlain : token.Plain) : (readValue frames place token).Plain := by
  unfold readValue
  split
  · exact plain_openFrame plain (by simp [Frame.Plain]) _ _
  · exact plain_openFrame plain (by simp [Frame.Plain]) _ _
  · exact plain_deliver plain place trivial
  · exact plain_deliver plain place trivial
  · exact plain_deliver plain place isPlain
  · exact plain_deliver plain place isPlain
  · exact plain_stopInValue plain place isPlain.1 isPlain.2
  · exact plain_stopInValue plain place isPlain.1 isPlain.2
  · exact plain_stopInValue plain place (plain_of (by decide) _) (plain_of (by decide) _)
  · exact plain_stopInValue plain place (plain_of (by decide) _) (plain_of (by decide) _)

theorem plain_readKey (plain : ∀ frame ∈ frames, frame.Plain) (place : Nat) {token : Token}
    (isPlain : token.Plain) {strict loose : Reason} (words : OneLine strict.text)
    (wordsToo : OneLine loose.text) : (readKey frames place token strict loose).Plain := by
  unfold readKey
  split
  · rw [List.forall_mem_cons] at plain
    exact List.forall_mem_cons.mpr ⟨plain.1.withKey _, plain.2⟩
  · rw [List.forall_mem_cons] at plain
    exact List.forall_mem_cons.mpr ⟨plain.1.withFlaw isPlain, plain.2⟩
  · exact plain_stopBetween plain isPlain.1 isPlain.2
  · exact plain_stopBetween plain (plain_of words _) (plain_of wordsToo _)

theorem plain_stopBehindKey (plain : ∀ frame ∈ frames, frame.Plain) (keyStop : Nat)
    (isPlain : fault.Plain) : (stopBehindKey frames keyStop fault).Plain := by
  unfold stopBehindKey
  split
  · exact plain_done isPlain
  · rw [List.forall_mem_cons] at plain
    exact plain_stopInValue (List.forall_mem_cons.mpr ⟨plain.1.withKeyStop keyStop, plain.2⟩) _
      isPlain isPlain

theorem plain_passColon (plain : ∀ frame ∈ frames, frame.Plain) (place : Nat) :
    (passColon frames place).Plain := by
  unfold passColon
  split
  · exact plain
  · rw [List.forall_mem_cons] at plain
    exact List.forall_mem_cons.mpr ⟨plain.1.withKeyStop place, plain.2⟩

end

/-- A token keeps the faults of a document plain. -/
theorem ReaderState.Plain.step {state : ReaderState} (plain : state.Plain) {entry : Nat × Token}
    (isPlain : entry.2.Plain) : (state.step entry).Plain := by
  obtain ⟨place, token⟩ := entry
  cases state with
  | done document =>
      refine ⟨plain.root, ?_⟩
      cases held : document.trailing with
      | none =>
          rintro fault ⟨⟩
          exact plain_of (by decide) _
      | some fault =>
          rintro other ⟨⟩
          exact plain.trailing fault held
  | reading frames expected =>
      unfold ReaderState.step
      dsimp only
      split
      · exact plain_readValue plain place isPlain
      · exact plain_closeFrame plain _
      · exact plain_readValue plain place isPlain
      · exact plain_stopBetween plain (plain_of (by decide) _) (plain_of (by decide) _)
      · exact plain_readValue plain place isPlain
      · exact plain
      · exact plain_closeFrame plain _
      · exact plain_stopBetween plain (plain_of (by decide) _) (plain_of (by decide) _)
      · exact plain_closeFrame plain _
      · exact plain_readKey plain place isPlain (by decide) (by decide)
      · exact plain_readKey plain place isPlain (by decide) (by decide)
      · exact plain_readKey plain place isPlain (by decide) (by decide)
      · exact plain_passColon plain place
      · exact plain_stopBehindKey plain _ (plain_of (by decide) _)
      · exact plain_stopBehindKey plain _ (plain_of (by decide) _)
      · exact plain
      · exact plain_closeFrame plain _
      · exact plain_stopBetween plain (plain_of (by decide) _) (plain_of (by decide) _)

theorem ReaderState.Plain.finish {state : ReaderState} (plain : state.Plain) (size : Nat) :
    (state.finish size).Plain := by
  unfold ReaderState.finish
  extract_lets fault ended
  have isPlain : ended.Plain := by
    unfold ended
    split
    · exact plain
    · exact plain_stopInValue plain _ (plain_of (by decide) _) (plain_of (by decide) _)
    · exact plain_stopBetween plain (plain_of (by decide) _) (plain_of (by decide) _)
    · exact plain_stopBetween plain (plain_of (by decide) _) (plain_of (by decide) _)
    · exact plain_stopBetween plain (plain_of (by decide) _) (plain_of (by decide) _)
    · exact plain_stopBetween plain (plain_of (by decide) _) (plain_of (by decide) _)
    · exact plain_stopBetween plain (plain_of (by decide) _) (plain_of (by decide) _)
    · exact plain_stopBetween plain (plain_of (by decide) _) (plain_of (by decide) _)
    · exact plain_stopBehindKey plain _ (plain_of (by decide) _)
  clear_value ended
  cases ended with
  | done document => exact isPlain
  | reading frames expected => exact plain_done (plain_of (by decide) _)

/-- The faults of the document of a text are reported on one line. -/
theorem plain_readDocument (text : String) : (readDocument text).Plain := by
  have tokens := plain_tokens text.toList 0
  unfold readDocument
  refine ReaderState.Plain.finish ?_ _
  generalize ApiSchema.Json.tokens text.toList 0 = entries at tokens
  have start : (ReaderState.reading [] .value).Plain := by simp [ReaderState.Plain]
  revert start
  generalize ReaderState.reading [] .value = state
  intro start
  induction entries generalizing state with
  | nil => exact start
  | cons entry rest ih =>
      rw [List.forall_mem_cons] at tokens
      exact ih tokens.2 _ (start.step tokens.1)

end ApiSchema.Json
