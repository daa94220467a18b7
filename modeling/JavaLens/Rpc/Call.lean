import JavaLens.Rpc.Shape

/-!
# Calls

What an editor sends over a connection: calls of methods, and answers to requests of the server.

## Main definitions

* `Rpc.Call` — a call of a method by the editor.
* `Rpc.Incoming` — what arrives from the editor.
* `Rpc.Incoming.ofJson?` — what a JSON value from the editor is.
-/

namespace JavaLens.Rpc

namespace Shape

/-- The version of the message format. -/
def version : String × Presence × Shape := required "jsonrpc" (literal "2.0")

/-- What a request can be told from others by. -/
def identifier : Shape := oneOf [null, int64, string]

/-- A call of a method. A missing method has an empty name. -/
def call : Shape :=
  record [version, omissible "method" string, omissible "params" any, omissible "id" identifier]

/-- What an editor tells about a request that it could not answer. -/
def failure : Shape :=
  oneOf
    [object [required "code" int64, required "message" string, optional "data" any] never,
     tuple [int64, string, any]]

/-- An answer to a request. -/
def answer : Shape :=
  oneOf
    [params [version, required "result" any, required "id" identifier],
     params [version, required "error" failure, required "id" identifier]]

end Shape

/-- A call of a method. A call with an identifier is a request, any other a notification. -/
structure Call where
  id : Option Json
  method : String
  params : Option Json

/-- The call with the fields of a JSON value. -/
def Call.ofJson (j : Json) : Call :=
  ⟨j.field? "id", ((j.field? "method").bind Json.string?).getD "", j.field? "params"⟩

/-- What arrives from the editor. -/
inductive Incoming where
  | call (call : Call)
  /-- An answer to a request of the server, which never makes any. -/
  | answer

/-- What a JSON value from the editor is, if it is well formed. -/
def Incoming.ofJson? (j : Json) : Option Incoming :=
  if (Shape.answer.read? j).isSome then some answer
  else (Shape.call.read? j).map fun j => call (.ofJson j)

end JavaLens.Rpc
