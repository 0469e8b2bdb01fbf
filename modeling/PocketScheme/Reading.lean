/-
Reading an expression: a machine that takes one token at a time.

The state says what may come next, and a stack of frames says what the
expression being read will be part of. A finished value is handed to the
innermost frame (`deliver`): an apostrophe wraps it and hands it on, a
list adds it to its items, a dotted list keeps it as its tail, and with
no frame left the reading is done.

Between the items of a list, and around the point of a dotted list,
whitespace is required; everywhere else it is refused. A token that
cannot come next is left in the stream, and the failure names what was
expected in its place.

Every step takes a token other than the end of the input
(`step_endOfInput`), so reading ends with the tokens.
-/
import PocketScheme.Token.Stream

namespace PocketScheme

/-- What an unfinished expression is part of. The items of a list are
its first one and the others, the last one in front. -/
inductive Frame where
  /-- An apostrophe. -/
  | quoted
  /-- A list, of which it is the first item. -/
  | firstItem
  /-- A list, of which it is a further item. -/
  | nextItem (first : Value) (more : List Value)
  /-- A dotted list, of which it is the tail. -/
  | tail (first : Value) (more : List Value)
  deriving Repr

/-- The state of a reading: what comes next, inside which frames, the
innermost in front. -/
inductive Reading where
  /-- An expression. -/
  | form (stack : List Frame)
  /-- An expression or the end of the list, directly after the opening
  parenthesis. -/
  | opened (stack : List Frame)
  /-- Whitespace or the end of the list, directly after an item. -/
  | afterItem (first : Value) (more : List Value) (stack : List Frame)
  /-- An expression or the point, after whitespace inside a list. -/
  | afterSpace (first : Value) (more : List Value) (stack : List Frame)
  /-- Whitespace, directly after the point. -/
  | afterPoint (first : Value) (more : List Value) (stack : List Frame)
  /-- The end of the dotted list, directly after its tail. -/
  | afterTail (first : Value) (more : List Value) (tail : Value) (stack : List Frame)
  /-- Nothing: the expression is read. -/
  | done (value : Value)
  deriving Repr

namespace Reading

/-- The value of an atom token: two of the atoms are the booleans. -/
def ofAtom (text : List Char) : Value :=
  if text = ['#', 't'] then .bool true
  else if text = ['#', 'f'] then .bool false
  else .atom (.ofList text)

/-- The text between the quotes of a string token. -/
def unquote (text : List Char) : List Char := (text.drop 1).dropLast

/-- The form that an apostrophe in front of a form stands for. -/
def quote (form : Value) : Value := .list [.atom "quote", form]

/-- Hands a finished value to what it is part of. -/
def deliver (v : Value) : List Frame → Reading
  | [] => done v
  | .quoted :: stack => deliver (quote v) stack
  | .firstItem :: stack => afterItem v [] stack
  | .nextItem first more :: stack => afterItem first (v :: more) stack
  | .tail first more :: stack => afterTail first more v stack

/-- Starts an expression with a token. -/
def start (token : Token) (stack : List Frame) : Except String Reading :=
  match token.kind with
  | .atom => .ok (deliver (ofAtom token.text) stack)
  | .string => .ok (deliver (.str (.ofList (unquote token.text))) stack)
  | .number => .ok (deliver (.int (Text.Decimal.valueInParts token.text)) stack)
  | .quote => .ok (form (.quoted :: stack))
  | .leftParen => .ok (opened stack)
  | _ => .error "expression"

/-- Takes one token, or says what was expected instead. -/
def step (token : Token) : Reading → Except String Reading
  | form stack => start token stack
  | opened stack =>
    if token.kind = .rightParen then .ok (deliver (.list []) stack)
    else start token (.firstItem :: stack)
  | afterItem first more stack =>
    match token.kind with
    | .rightParen => .ok (deliver (.list (first :: more.reverse)) stack)
    | .whitespace => .ok (afterSpace first more stack)
    | _ => .error "space or \")\""
  | afterSpace first more stack =>
    if token.kind = .point then .ok (afterPoint first more stack)
    else start token (.nextItem first more :: stack)
  | afterPoint first more stack =>
    if token.kind = .whitespace then .ok (form (.tail first more :: stack))
    else .error "space"
  | afterTail first more tail stack =>
    if token.kind = .rightParen then .ok (deliver (.dotted first more.reverse tail) stack)
    else .error "\")\""
  | done _ => .error "end of input"

/-- No expression goes on with the end of the input. -/
theorem step_endOfInput {token : Token} (h : token.kind = .endOfInput) (reading : Reading) :
    ∃ expecting, step token reading = .error expecting := by
  cases reading <;> simp [step, start, h]

/-- Takes tokens out of a stream until the expression is read. -/
def run (reading : Reading) (stream : TokenStream) : Except Failure Value × TokenStream :=
  match reading with
  | done v => (.ok v, stream)
  | reading =>
    match _hpeek : stream.peek with
    | (.error failure, stream') => (.error failure, stream')
    | (.ok token, stream') =>
      match _hstep : reading.step token with
      | .error expecting => (.error (token.unexpected expecting), stream')
      | .ok reading' => run reading' (stream'.take token)
termination_by stream.weight
decreasing_by
  refine TokenStream.weight_take_lt ‹_› fun hend => ?_
  obtain ⟨expecting, hrefused⟩ := step_endOfInput hend reading
  rw [hrefused] at _hstep
  cases _hstep

end Reading

namespace TokenStream

/-- Reads one expression and leaves what follows it in the stream. -/
def readExpression (stream : TokenStream) : Except Failure Value × TokenStream :=
  (Reading.form []).run stream

/-- Reads the rest of a list whose opening parenthesis is taken. -/
def readList (stream : TokenStream) : Except Failure Value × TokenStream :=
  (Reading.opened []).run stream

end TokenStream

/-- The value of a text that is exactly one expression. -/
def read (text : List Char) : Except Failure Value :=
  match (TokenStream.ofText text).readExpression with
  | (.error failure, _) => .error failure
  | (.ok v, stream) =>
    match stream.expect .endOfInput "end of input" with
    | (.error failure, _) => .error failure
    | (.ok _, _) => .ok v

end PocketScheme
