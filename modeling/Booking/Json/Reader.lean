import Booking.Json.Token
/-!
# Reading JSON

The reader takes the tokens one by one and keeps a stack of the arrays and
objects that are open. At each point it knows what may come: a value, a key, a
colon, or, once a value is complete, a comma or the bracket that closes the
innermost array or object. The stack has a greatest depth.
-/
namespace Booking

/-- An array or object that is open; what it holds so far is in reverse order. -/
inductive Json.Open where
  | array (items : List Json)
  /-- The key is that of the value that comes next. -/
  | object (members : List (String × Json)) (key : String)

/-- What the reader expects next, inside the open arrays and objects. -/
inductive Json.State where
  | value (stack : List Json.Open)
  /-- The first item of an array, or its end. -/
  | firstItem (stack : List Json.Open)
  /-- The first key of an object, or its end. -/
  | firstKey (stack : List Json.Open)
  | laterKey (members : List (String × Json)) (stack : List Json.Open)
  | colon (members : List (String × Json)) (key : String) (stack : List Json.Open)
  | complete (value : Json) (stack : List Json.Open)

/-- The most arrays and objects that may be open at once. -/
def Json.maxDepth : Nat := 127

/-- Opens an array or object, if there may be one more. -/
def Json.State.deepen (stack : List Json.Open) (s : Json.State) : Option Json.State :=
  if stack.length < Json.maxDepth then some s else none

def Json.State.stepValue (stack : List Json.Open) : Json.Token → Option Json.State
  | .openArray => Json.State.deepen stack (.firstItem stack)
  | .openObject => Json.State.deepen stack (.firstKey stack)
  | .literal v => some (.complete v stack)
  | .string s => some (.complete (.string s) stack)
  | _ => none

def Json.State.stepComplete (v : Json) : List Json.Open → Json.Token → Option Json.State
  | .array items :: stack, .comma => some (.value (.array (v :: items) :: stack))
  | .array items :: stack, .closeArray => some (.complete (.array (v :: items).reverse) stack)
  | .object members key :: stack, .comma => some (.laterKey ((key, v) :: members) stack)
  | .object members key :: stack, .closeObject =>
    some (.complete (.object ((key, v) :: members).reverse) stack)
  | _, _ => none

def Json.State.step : Json.State → Json.Token → Option Json.State
  | .value stack, t => Json.State.stepValue stack t
  | .firstItem stack, .closeArray => some (.complete (.array []) stack)
  | .firstItem stack, t => Json.State.stepValue (.array [] :: stack) t
  | .firstKey stack, .closeObject => some (.complete (.object []) stack)
  | .firstKey stack, .string key => some (.colon [] key stack)
  | .firstKey _, _ => none
  | .laterKey members stack, .string key => some (.colon members key stack)
  | .laterKey _ _, _ => none
  | .colon members key stack, .colon => some (.value (.object members key :: stack))
  | .colon _ _ _, _ => none
  | .complete v stack, t => Json.State.stepComplete v stack t

def Json.State.run (s : Json.State) : List Json.Token → Option Json.State
  | [] => some s
  | t :: ts =>
    match s.step t with
    | none => none
    | some s => Json.State.run s ts

def Json.ofTokens? (ts : List Json.Token) : Option Json :=
  match Json.State.run (.value []) ts with
  | some (.complete v []) => some v
  | _ => none

/-- Reads a text that holds one value and nothing else. -/
def Json.parse? (s : String) : Option Json := (Json.Token.ofText? s).bind Json.ofTokens?

end Booking
