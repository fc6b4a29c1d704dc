import ApiSchema.Json.Token

/-!
Reading a text into a node. The reader takes one token at a time and keeps the containers that are
open; a fault closes them all, each broken where it stood.
-/

set_option autoImplicit false

namespace ApiSchema.Json

/-- A container that is still open, its entries the last one first. An object whose last key was
flawed is dead: it is followed to its end, and its fault is where that key stood. -/
inductive Frame where
  | array (start : Nat) (items : List (Nat × Node))
  | object (start : Nat) (members : List (String × Nat × Node)) (key : String) (keyStop : Nat)
      (dead : Option Fault)
  | tooDeep (found : Found) (start : Nat)

/-- What may stand next. -/
inductive Expectation where
  | value
  | firstItem
  | nextItem
  | afterItem
  | firstKey
  | nextKey
  | colon
  | afterMember

/-- A document: its value, and the fault of what follows the value. -/
structure Document where
  root : Node
  trailing : Option Fault

inductive ReaderState where
  | reading (frames : List Frame) (expected : Expectation)
  | done (document : Document)

/-- The number of containers that may be nested. -/
def depthLimit : Nat := 127

def leftoverAt (start : Nat) : Fault := ⟨.trailingCharacters, some (start + 1)⟩

/-- The items, the last one first, followed by an ending. -/
def itemsOf (items : List (Nat × Node)) (ending : Items) : Items :=
  items.foldl (fun rest (start, value) => .item (leftoverAt start) value rest) ending

/-- The members, the last one first, followed by an ending. -/
def membersOf (members : List (String × Nat × Node)) (ending : Members) : Members :=
  members.foldl (fun rest (key, keyStop, value) => .member key (some keyStop) value rest) ending

/-- The fault of ending an array where an item or a comma was wanted. -/
def leftoverOf (fault : Fault) : Fault :=
  match fault.reason with
  | .expectedCommaOrBracket | .endOfValue => ⟨.trailingCharacters, fault.place⟩
  | _ => fault

namespace Frame

def close (frame : Frame) (stop : Nat) : Node :=
  match frame with
  | .array start items => .array (some start) (itemsOf items (.closed (some stop)))
  | .object start members _ _ none => .object (some start) (membersOf members (.closed (some stop)))
  | .object start members _ _ (some fault) =>
      .object (some start) (membersOf members (.broken fault))
  | .tooDeep found start => .tooDeep found start

/-- The container broken behind its entries. -/
def breakOff (frame : Frame) (fault : Fault) : Node :=
  match frame with
  | .array start items => .array (some start) (itemsOf items (.broken fault (leftoverOf fault)))
  | .object start members _ _ dead =>
      .object (some start) (membersOf members (.broken (dead.getD fault)))
  | .tooDeep found start => .tooDeep found start

/-- The container with one more value, begun at the given offset. -/
def add (frame : Frame) (start : Nat) (value : Node) : Frame :=
  match frame with
  | .array first items => .array first ((start, value) :: items)
  | .object first members key keyStop none =>
      .object first ((key, keyStop, value) :: members) key keyStop none
  | .object first members key keyStop (some fault) => .object first members key keyStop (some fault)
  | .tooDeep found first => .tooDeep found first

def afterValue : Frame → Expectation
  | .array _ _ | .tooDeep .sequence _ => .afterItem
  | _ => .afterMember

def withKey (frame : Frame) (key : String) : Frame :=
  match frame with
  | .object start members _ _ dead => .object start members key 0 dead
  | other => other

def withFlaw (frame : Frame) (fault : Fault) : Frame :=
  match frame with
  | .object start members key keyStop none => .object start members key keyStop (some fault)
  | other => other

/-- The container with the offset at which the search for the colon behind its key stopped. -/
def withKeyStop (frame : Frame) (stop : Nat) : Frame :=
  match frame with
  | .object start members key _ dead => .object start members key stop dead
  | other => other

/-- The offset of the first byte of the container. -/
def start : Frame → Nat
  | .array start _ => start
  | .object start _ _ _ _ => start
  | .tooDeep _ start => start

end Frame

/-- The root of a document when reading stops within a value of the innermost container; the
containers are passed over up to the loose fault. -/
def enclose (loose : Fault) : List Frame → Nat → Node → Node
  | [], _, value => value
  | frame :: outer, start, value =>
      enclose loose outer frame.start ((frame.add start value).breakOff loose)

/-- The end of reading within a value. -/
def stopInValue (frames : List Frame) (start : Nat) (fault loose : Fault) : ReaderState :=
  .done ⟨enclose loose frames start (.broken fault), none⟩

/-- The end of reading between the values of a container. -/
def stopBetween (frames : List Frame) (fault loose : Fault) : ReaderState :=
  match frames with
  | [] => .done ⟨.broken fault, none⟩
  | frame :: outer => .done ⟨enclose loose outer frame.start (frame.breakOff fault), none⟩

def deliver (frames : List Frame) (start : Nat) (value : Node) : ReaderState :=
  match frames with
  | [] => .done ⟨value, none⟩
  | frame :: outer => .reading (frame.add start value :: outer) frame.afterValue

def closeFrame (frames : List Frame) (stop : Nat) : ReaderState :=
  match frames with
  | [] => .done ⟨.broken ⟨.expectedValue, some stop⟩, none⟩
  | frame :: outer => deliver outer frame.start (frame.close stop)

/-- Whether no further container may be entered. -/
def isFull : List Frame → Bool
  | .tooDeep _ _ :: _ => true
  | frames => depthLimit ≤ frames.length

def openFrame (frames : List Frame) (frame : Frame) (found : Found) (expected : Expectation) :
    ReaderState :=
  if isFull frames then .reading (.tooDeep found frame.start :: frames) expected
  else .reading (frame :: frames) expected

def readValue (frames : List Frame) (place : Nat) (token : Token) : ReaderState :=
  match token with
  | .mark .openArray => openFrame frames (.array place []) .sequence .firstItem
  | .mark .openObject => openFrame frames (.object place [] "" 0 none) .map .firstKey
  | .plain (.sound value stop) => deliver frames place (.scalar value (some stop))
  | .quoted (.sound text stop) => deliver frames place (.scalar (.string text) (some stop))
  | .plain (.flawed fault _) | .quoted (.flawed fault _) => deliver frames place (.broken fault)
  | .plain (.broken fault loose) | .quoted (.broken fault loose) =>
      stopInValue frames place fault loose
  | .mark _ | .foreign =>
      let fault : Fault := ⟨.expectedValue, some (place + 1)⟩
      stopInValue frames place fault fault

def readKey (frames : List Frame) (place : Nat) (token : Token) (strict loose : Reason) :
    ReaderState :=
  match token, frames with
  | .quoted (.sound text _), frame :: outer => .reading (frame.withKey text :: outer) .colon
  | .quoted (.flawed fault _), frame :: outer => .reading (frame.withFlaw fault :: outer) .colon
  | .quoted (.broken fault loose), _ => stopBetween frames fault loose
  | _, _ => stopBetween frames ⟨strict, some (place + 1)⟩ ⟨loose, some (place + 1)⟩

/-- The end of reading behind a key without a colon. The search for the colon passes over a closing
brace. -/
def stopBehindKey (frames : List Frame) (keyStop : Nat) (fault : Fault) : ReaderState :=
  match frames with
  | [] => .done ⟨.broken fault, none⟩
  | frame :: outer => stopInValue (frame.withKeyStop keyStop :: outer) keyStop fault fault

def passColon (frames : List Frame) (place : Nat) : ReaderState :=
  match frames with
  | [] => .reading [] .value
  | frame :: outer => .reading (frame.withKeyStop place :: outer) .value

def ReaderState.step (state : ReaderState) (entry : Nat × Token) : ReaderState :=
  let (place, token) := entry
  let fault (reason : Reason) : Fault := ⟨reason, some (place + 1)⟩
  match state with
  | .done document => .done ⟨document.root, document.trailing.or (some (fault .trailingCharacters))⟩
  | .reading frames expected =>
      match expected, token with
      | .value, _ => readValue frames place token
      | .firstItem, .mark .closeArray => closeFrame frames (place + 1)
      | .firstItem, _ => readValue frames place token
      | .nextItem, .mark .closeArray =>
          stopBetween frames (fault .trailingComma) (fault .expectedValue)
      | .nextItem, _ => readValue frames place token
      | .afterItem, .mark .comma => .reading frames .nextItem
      | .afterItem, .mark .closeArray => closeFrame frames (place + 1)
      | .afterItem, _ =>
          stopBetween frames (fault .expectedCommaOrBracket) (fault .expectedCommaOrBracket)
      | .firstKey, .mark .closeObject => closeFrame frames (place + 1)
      | .firstKey, _ => readKey frames place token .keyNotString .keyNotString
      | .nextKey, .mark .closeObject => readKey frames place token .trailingComma .keyNotString
      | .nextKey, _ => readKey frames place token .keyNotString .keyNotString
      | .colon, .mark .colon => passColon frames place
      | .colon, .mark .closeObject => stopBehindKey frames (place + 1) (fault .expectedColon)
      | .colon, _ => stopBehindKey frames place (fault .expectedColon)
      | .afterMember, .mark .comma => .reading frames .nextKey
      | .afterMember, .mark .closeObject => closeFrame frames (place + 1)
      | .afterMember, _ =>
          stopBetween frames (fault .expectedCommaOrBrace) (fault .expectedCommaOrBrace)

/-- The document of a state at the end of the text. -/
def ReaderState.finish (state : ReaderState) (size : Nat) : Document :=
  let fault (reason : Reason) : Fault := ⟨reason, some size⟩
  let ended :=
    match state with
    | .done document => ReaderState.done document
    | .reading frames .value => stopInValue frames size (fault .endOfValue) (fault .endOfValue)
    | .reading frames .nextItem => stopBetween frames (fault .endOfValue) (fault .endOfValue)
    | .reading frames .nextKey => stopBetween frames (fault .endOfValue) (fault .endOfObject)
    | .reading frames .firstItem | .reading frames .afterItem =>
        stopBetween frames (fault .endOfList) (fault .endOfList)
    | .reading frames .firstKey | .reading frames .afterMember =>
        stopBetween frames (fault .endOfObject) (fault .endOfObject)
    | .reading frames .colon => stopBehindKey frames size (fault .endOfObject)
  match ended with
  | .done document => document
  | .reading _ _ => ⟨.broken (fault .endOfValue), none⟩

def readDocument (text : String) : Document :=
  let cs := text.toList
  ((tokens cs 0).foldl ReaderState.step (.reading [] .value)).finish (byteSize cs)

end ApiSchema.Json
