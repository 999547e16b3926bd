import Inspector.Dialogue
import Inspector.Text

/-!
The content of strings. Remote content is read when it is first needed and then kept; a reader
gets the content together with the value that remembers it. A failed read is not remembered. A
description reads nothing: it has the address in decimal and the content, as far as they are known.
-/

namespace Inspector

def StringValue.content (s : StringValue) : Dialogue (Except EvalError String × StringValue) :=
  match s with
  | .synthetic c | .remote _ _ (some c) => .done (.ok c, s)
  | .remote source a none =>
    .ask (.readString source a) fun
      | .ok c => .done (.ok c, s.materialize c)
      | .error e => .done (.error (.valueUnavailable e), s)

namespace Value

def content (v : Value) : Dialogue (Except EvalError String × Value) :=
  match v with
  | string s => s.content.bind fun (r, s) => .done (r, string s)
  | v => .done (.error (.typeMismatch (.notString v.type)), v)

def operandContent (v : Value) : Dialogue (Except EvalError (Option String) × Value) :=
  if v.isNullReference then .done (.ok none, v)
  else v.content.bind fun (r, v) => .done (r.map some, v)

end Value

def describeOption (describe : α → String) : Option α → String
  | some a => "Some(" ++ describe a ++ ")"
  | none => "None"

def StringValue.describe (s : StringValue) : String :=
  let address := describeOption (fun a => "ObjectAddress(" ++ toString a.bits ++ ")") s.address?
  let content := describeOption Text.quote s.content?
  "StringValue \x7b address: " ++ address ++ ", content: " ++ content ++ " \x7d"

end Inspector
