/-
# Bodies of responses

What the service answers, as JSON: who has signed up, the token of who has logged
in, why something was not done, and how the service is.

Key definitions: `signupBody`, `loginBody`, `failureBody`, `failureResponse`,
`Health`, `Health.ofServer`, `healthResponse`.
-/
import UserAccounts.Database.Server
import UserAccounts.Http.Message
import UserAccounts.Service.Login
import UserAccounts.Service.Signup

namespace UserAccounts.Http

def signupBody (output : SignupOutput) : Json.Value :=
  .object [("id", .text output.id.toText), ("name", .text output.name),
    ("email", .text output.email), ("status", .text output.status.code),
    ("createdAt", .text (output.createdAt.toText .seconds))]

def loginBody (output : LoginOutput) : Json.Value :=
  .object [("token", .text output.token), ("expiresAt", .text (output.expiresAt.toText .seconds)),
    ("user", .object [("id", .text output.userId.toText), ("name", .text output.userName),
      ("email", .text output.userEmail)])]

/-- The body for a failure; details are there if there are any. -/
def failureBody (failure : Failure) : Json.Value :=
  let details : List (String × Json.Value) :=
    if failure.details.isEmpty then []
    else [("details", .object (failure.details.entries.map fun e => (e.1, .text e.2)))]
  .object [("error", .object ([("code", .text failure.code),
    ("message", .text failure.publicMessage)] ++ details))]

def failureResponse (failure : Failure) : Response :=
  .json failure.status (failureBody failure)

inductive Health where
  | inMemory
  | healthy
  | unhealthy (fault : Database.Fault)
deriving DecidableEq, Repr

/-- How a database is, if there is one: it is asked for an answer. -/
def Health.ofServer : Option Database.Server → Health
  | none => .inMemory
  | some server =>
    match server.probe with
    | .ok () => .healthy
    | .error fault => .unhealthy fault

def healthResponse : Health → Response
  | .inMemory =>
    .json 200 (.object [("status", .text "healthy"),
      ("database", .object [("status", .text "in-memory")])])
  | .healthy =>
    .json 200 (.object [("status", .text "healthy"),
      ("database", .object [("status", .text "healthy")])])
  | .unhealthy fault =>
    .json 503 (.object [("status", .text "degraded"),
      ("database", .object [("status", .text "unhealthy"), ("error", .text fault.message)])])

end UserAccounts.Http
