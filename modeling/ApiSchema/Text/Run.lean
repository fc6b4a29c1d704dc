set_option autoImplicit false

namespace ApiSchema.Text

/-- Every `stride`-th code point from `first` to `last`. -/
structure Run where
  first : Nat
  last : Nat
  stride : Nat

def Run.contains (run : Run) (code : Nat) : Bool :=
  run.first ≤ code && code ≤ run.last && (code - run.first) % run.stride == 0

/-- The first run that holds the code point; the runs ascend, so a later start ends the search. -/
def findRun {α : Type} (run : α → Run) : List α → Nat → Option α
  | [], _ => none
  | entry :: rest, code =>
      if code < (run entry).first then none
      else if (run entry).contains code then some entry
      else findRun run rest code

def inRuns (runs : List Run) (c : Char) : Bool :=
  (findRun id runs c.toNat).isSome

/-- A run whose code points are mapped, in order, to every `stride`-th code point from `target`. -/
structure Shift where
  run : Run
  target : Nat

def Shift.image (shift : Shift) (code : Nat) : Char :=
  Char.ofNat (shift.target + (code - shift.run.first))

end ApiSchema.Text
