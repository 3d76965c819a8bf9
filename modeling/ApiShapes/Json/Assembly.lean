import ApiShapes.Json.Token

/-!
# Assembling a JSON value from its tokens

The tokens are taken one at a time.  A `State` holds what was read so far: the containers that are
open, innermost first, and what may come next.  The value is complete when the text ends in the
state `done`.
-/

namespace ApiShapes.Json

/-- An open container in which a value is due: a list, or an object behind a key and its colon. -/
inductive Frame where
  | list (items : List Value)
  | entry (entries : List (String × Value)) (key : String)
  deriving Repr

/-- What may come next, inside the containers of `outer`.  Items are kept last one first. -/
inductive State where
  | value (outer : List Frame)
  | listStart (outer : List Frame)
  | listRest (items : List Value) (outer : List Frame)
  | objectStart (outer : List Frame)
  | objectKey (entries : List (String × Value)) (outer : List Frame)
  | objectColon (entries : List (String × Value)) (key : String) (outer : List Frame)
  | objectRest (entries : List (String × Value)) (outer : List Frame)
  | done (value : Value)
  deriving Repr

/-- How many containers may be open at once. -/
def nestingLimit : Nat := 127

/-- The state after a complete value. -/
def State.ofValue (value : Value) : List Frame → State
  | [] => .done value
  | .list items :: outer => .listRest (value :: items) outer
  | .entry entries key :: outer => .objectRest (setEntry key value entries) outer

/-- The fault of a token that must not stand where it stands. -/
def Token.fault (token : Token) (problem : Problem) : Except Fault State :=
  .error (.inFirst problem token.text)

/-- Opens a container, unless too many are open. -/
def openContainer (token : Token) (outer : List Frame) (state : State) : Except Fault State :=
  if outer.length < nestingLimit then .ok state else token.fault .recursionLimit

/-- Takes a token where a value is due. -/
def stepValue (outer : List Frame) (token : Token) : Except Fault State :=
  match token.lexeme with
  | .scalar value => .ok (.ofValue value outer)
  | .string s => .ok (.ofValue (.string s) outer)
  | .openList => openContainer token outer (.listStart outer)
  | .openObject => openContainer token outer (.objectStart outer)
  | .brokenScalar fault => .error fault
  | .brokenString fault => .error fault
  | _ => token.fault .expectedValue

/-- Takes a token where a value is due that no opening bracket came before. -/
def stepDue (outer : List Frame) (token : Token) : Except Fault State :=
  match outer, token.lexeme with
  | .list _ :: _, .closeList => token.fault .trailingComma
  | _, _ => stepValue outer token

/-- Takes a token where the key of an entry is due. -/
def stepKey (entries : List (String × Value)) (outer : List Frame) (token : Token) :
    Except Fault State :=
  match token.lexeme with
  | .string s => .ok (.objectColon entries s outer)
  | .brokenString fault => .error fault
  | _ => token.fault .keyNotString

/-- Takes the next token. -/
def State.step (state : State) (token : Token) : Except Fault State :=
  match state with
  | .value outer => stepDue outer token
  | .listStart outer =>
      match token.lexeme with
      | .closeList => .ok (.ofValue (.array []) outer)
      | _ => stepValue (.list [] :: outer) token
  | .listRest items outer =>
      match token.lexeme with
      | .comma => .ok (.value (.list items :: outer))
      | .closeList => .ok (.ofValue (.array items.reverse) outer)
      | _ => token.fault .expectedListCommaOrEnd
  | .objectStart outer =>
      match token.lexeme with
      | .closeObject => .ok (.ofValue (.object []) outer)
      | _ => stepKey [] outer token
  | .objectKey entries outer =>
      match token.lexeme with
      | .closeObject => token.fault .trailingComma
      | _ => stepKey entries outer token
  | .objectColon entries key outer =>
      match token.lexeme with
      | .colon => .ok (.value (.entry entries key :: outer))
      | _ => token.fault .expectedColon
  | .objectRest entries outer =>
      match token.lexeme with
      | .comma => .ok (.objectKey entries outer)
      | .closeObject => .ok (.ofValue (.object entries) outer)
      | _ => token.fault .expectedObjectCommaOrEnd
  | .done _ => token.fault .trailingCharacters

/-- Takes tokens up to the first fault. -/
def State.run (state : State) : List Token → Except Fault State
  | [] => .ok state
  | token :: rest => state.step token >>= fun next => next.run rest

/-- What an end of the text in this state means. -/
def State.finish : State → Except Fault Value
  | .done result => .ok result
  | .value _ => .error (.before .endInValue [])
  | .listStart _ => .error (.before .endInList [])
  | .listRest _ _ => .error (.before .endInList [])
  | .objectStart _ => .error (.before .endInObject [])
  | .objectKey _ _ => .error (.before .endInValue [])
  | .objectColon _ _ _ => .error (.before .endInObject [])
  | .objectRest _ _ => .error (.before .endInObject [])

/-- The value that a text writes. -/
def Value.ofText (text : List Char) : Except Fault Value :=
  (State.value []).run (tokens text) >>= State.finish

/-- Reads a JSON text. -/
def parse (text : String) : Except JsonError Value :=
  (Value.ofText text.toList).mapError (JsonError.ofFault text.toList)

end ApiShapes.Json
