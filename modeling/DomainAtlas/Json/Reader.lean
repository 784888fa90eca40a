import DomainAtlas.Json.Token

/-! Reading JSON values. The reader takes one token at a time and keeps the arrays and objects
that are still open on a stack. What nests deeper than a limit is read as void. -/

namespace DomainAtlas.Json

/-- An array or object that is still open: what it holds so far, latest first. An object also has
the key whose value comes next; once one of its keys is void it is spoiled. -/
inductive Frame where
  | items (done : List Json)
  | members (done : List (String × Json)) (key : String)
  | spoiled

inductive Expectation where
  | value
  | itemOrEnd
  | keyOrEnd
  | key
  | colon
  | commaOrEnd
  | nothing (read : Json)

structure Reading where
  stack : List Frame
  next : Expectation

namespace Reading

def start : Reading := ⟨[], .value⟩

/-- The reading after a whole value: it goes into the innermost open array or object. -/
def put (value : Json) : List Frame → Reading
  | [] => ⟨[], .nothing value⟩
  | .items done :: stack => ⟨.items (value :: done) :: stack, .commaOrEnd⟩
  | .members done key :: stack => ⟨.members ((key, value) :: done) key :: stack, .commaOrEnd⟩
  | .spoiled :: stack => ⟨.spoiled :: stack, .commaOrEnd⟩

def value (stack : List Frame) : Token → Option Reading
  | .null => some (put .null stack)
  | .bool value => some (put (.bool value) stack)
  | .num literal => some (put (.num literal) stack)
  | .str text => some (put (.str text) stack)
  | .void => some (put .void stack)
  | .openArr => some ⟨.items [] :: stack, .itemOrEnd⟩
  | .openObj => some ⟨.members [] "" :: stack, .keyOrEnd⟩
  | _ => none

def closeArr : List Frame → Option Reading
  | .items done :: stack => some (put (.arr done.reverse) stack)
  | _ => none

def closeObj : List Frame → Option Reading
  | .members done _ :: stack => some (put (.obj done.reverse) stack)
  | .spoiled :: stack => some (put .void stack)
  | _ => none

/-- A comma asks for another item or for another key. -/
def comma : List Frame → Option Reading
  | .items done :: stack => some ⟨.items done :: stack, .value⟩
  | .members done key :: stack => some ⟨.members done key :: stack, .key⟩
  | .spoiled :: stack => some ⟨.spoiled :: stack, .key⟩
  | [] => none

def key : Token → List Frame → Option Reading
  | .str text, .members done _ :: stack => some ⟨.members done text :: stack, .colon⟩
  | .void, .members _ _ :: stack => some ⟨.spoiled :: stack, .colon⟩
  | .str _, .spoiled :: stack | .void, .spoiled :: stack => some ⟨.spoiled :: stack, .colon⟩
  | _, _ => none

def step (reading : Reading) (token : Token) : Option Reading :=
  match reading.next, token with
  | .value, token => value reading.stack token
  | .itemOrEnd, .closeArr => closeArr reading.stack
  | .itemOrEnd, token => value reading.stack token
  | .keyOrEnd, .closeObj => closeObj reading.stack
  | .keyOrEnd, token => key token reading.stack
  | .key, token => key token reading.stack
  | .colon, .colon => some ⟨reading.stack, .value⟩
  | .commaOrEnd, .comma => comma reading.stack
  | .commaOrEnd, .closeArr => closeArr reading.stack
  | .commaOrEnd, .closeObj => closeObj reading.stack
  | _, _ => none

def result? (reading : Reading) : Option Json :=
  match reading.next with
  | .nothing read => some read
  | _ => none

end Reading

/-- The one value that a list of tokens spells out. -/
def ofTokens? (tokens : List Token) : Option Json := do
  (← tokens.foldlM Reading.step Reading.start).result?

/-- The value of a text, if the text is JSON. Whatever nests deeper than `limit` can only be
passed over. -/
def read? (limit : Nat) (text : String) : Option Json := do
  return (← ofTokens? (← scan text.toList)).within limit

end DomainAtlas.Json
