import ApiSchema.Json.Fault
import ApiSchema.Json.Value

/-!
Documents as they are decoded: values with the places that reports need. A document that is
malformed is a node too; it is broken at the place of its fault, and what stands before that place
can be decoded, so that the first fault of a text in reading order is the one reported.
-/

set_option autoImplicit false

namespace ApiSchema.Json

/-- A value that holds no other. -/
inductive Scalar where
  | null
  | bool (value : Bool)
  | number (value : Number)
  | string (value : String)

/-- The scalar as found in place of something else. -/
def Scalar.found : Scalar → Found
  | .null => .null
  | .bool value => .bool value
  | .number value => .number value
  | .string value => .string value

def Scalar.value : Scalar → Value
  | .null => .null
  | .bool value => .bool value
  | .number value => .number value
  | .string value => .string value

mutual

/-- A value with its places. A container nested too deeply can be passed over but not entered. -/
inductive Node where
  | scalar (value : Scalar) (stop : Place)
  | array (start : Place) (items : Items)
  | object (start : Place) (members : Members)
  | tooDeep (found : Found) (start : Nat)
  | broken (fault : Fault)

/-- The items of an array. `leftover` is the fault of stopping before what stands there. -/
inductive Items where
  | item (leftover : Fault) (value : Node) (rest : Items)
  | closed (stop : Place)
  | broken (fault leftover : Fault)

/-- The members of an object. What follows a member is what follows it when its value is passed
over, which malformed values allow in part. -/
inductive Members where
  | member (key : String) (keyStop : Place) (value : Node) (rest : Members)
  | closed (stop : Place)
  | broken (fault : Fault)

end

mutual

def Node.height : Node → Nat
  | .array _ items => items.height + 1
  | .object _ members => members.height + 1
  | .scalar _ _ | .tooDeep _ _ | .broken _ => 0

def Items.height : Items → Nat
  | .item _ value rest => max value.height rest.height
  | .closed _ | .broken _ _ => 0

def Members.height : Members → Nat
  | .member _ _ value rest => max value.height rest.height
  | .closed _ | .broken _ => 0

end

mutual

/-- The node of a value that was not read from text. -/
def Value.node : Value → Node
  | .null => .scalar .null none
  | .bool value => .scalar (.bool value) none
  | .number value => .scalar (.number value) none
  | .string value => .scalar (.string value) none
  | .array items =>
      .array none (itemNodes ⟨.invalidLength items.length "fewer elements in array", none⟩ items)
  | .object members => .object none (memberNodes members)

def itemNodes (leftover : Fault) : List Value → Items
  | [] => .closed none
  | item :: rest => .item leftover item.node (itemNodes leftover rest)

def memberNodes : List (String × Value) → Members
  | [] => .closed none
  | (key, value) :: rest => .member key none value.node (memberNodes rest)

end

/-- The fault of entering a container that is nested too deeply. -/
def tooDeepFault (start : Nat) : Fault := ⟨.recursionLimit, some (start + 1)⟩

mutual

/-- The value of a node, or its first fault. -/
def Node.value : Node → Except Fault Value
  | .scalar value _ => .ok value.value
  | .array _ items => items.values.map .array
  | .object _ members => members.values.map Value.ofMembers
  | .tooDeep _ start => .error (tooDeepFault start)
  | .broken fault => .error fault

def Items.values : Items → Except Fault (List Value)
  | .item _ value rest =>
      match value.value with
      | .error fault => .error fault
      | .ok first => rest.values.map (first :: ·)
  | .closed _ => .ok []
  | .broken fault _ => .error fault

/-- The keys and values of the members in reading order. -/
def Members.values : Members → Except Fault (List (String × Value))
  | .member key _ value rest =>
      match value.value with
      | .error fault => .error fault
      | .ok first => rest.values.map ((key, first) :: ·)
  | .closed _ => .ok []
  | .broken fault => .error fault

end

end ApiSchema.Json
