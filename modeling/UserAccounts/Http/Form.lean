/-
# Forms

What a request's body has to hold for signing up and for logging in, and what is
checked of it before the service is asked. A form is read in steps, and the first
that fails decides: the media type, the size of the body, the JSON text, the
fields.

Key definitions: `Form`, `Form.ofText`, `Form.ofBody`, `SignupForm`, `LoginForm`,
`FieldError`, `errorText`, `readForm`.
-/
import UserAccounts.Email.Address
import UserAccounts.Failure
import UserAccounts.Http.MediaType
import UserAccounts.Http.Message
import UserAccounts.Json.Record

namespace UserAccounts.Http

structure FieldError where
  code : String
  message : Option String
  value : String
  /-- The least number of characters wanted, if that is what is wrong. -/
  least : Option Nat := none
deriving DecidableEq, Repr

abbrev FieldErrors := List (String × List FieldError)

/-- All messages, sorted, with commas between them. -/
def errorText (errors : FieldErrors) : String :=
  let messages := errors.flatMap fun (field, faults) =>
    faults.map fun fault => fault.message.getD s!"{field} is invalid"
  ", ".intercalate (messages.mergeSort fun a b => decide (a ≤ b))

/-- The errors of one field, unless there are none. -/
def fieldErrors (field : String) (faults : List FieldError) : FieldErrors :=
  if faults.isEmpty then [] else [(field, faults)]

def emailErrors (email : String) : FieldErrors :=
  fieldErrors "email" <|
    if Email.isAddress email then []
    else [{ code := "email", message := some "email is invalid", value := email }]

/-- What is wrong with a field that may not be empty. -/
def requiredErrors (field value : String) : FieldErrors :=
  fieldErrors field <|
    if value ≠ "" then []
    else [{ code := "length", message := some s!"{field} is required", value, least := some 1 }]

/-- What a body can hold: its fields, and what is wrong with them. -/
class Form (α : Type) where
  shape : Json.Shape
  ofValues : Json.Values shape.fields → α
  errors : α → FieldErrors

/-- Reads a form from a text that holds nothing else. -/
def Form.ofText (α : Type) [Form α] (text : Bytes) : Except Json.Problem α :=
  (Json.readRecord (Form.shape α) text).map Form.ofValues

/-- Reads a form from the beginning of a body; what follows it does not count. -/
def Form.ofBody (α : Type) [Form α] (body : Bytes) : Except Json.Problem α :=
  (Json.readLeadingRecord (Form.shape α) body).map Form.ofValues

structure SignupForm where
  email : String
  password : String
  name : String
deriving DecidableEq, Repr

def SignupForm.shape : Json.Shape :=
  ⟨"SignupRequest", [("email", .text), ("password", .text), ("name", .text)]⟩

instance : Form SignupForm where
  shape := SignupForm.shape
  ofValues := fun (email, password, name, ()) => { email, password, name }
  errors form :=
    emailErrors form.email ++ requiredErrors "password" form.password ++
      requiredErrors "name" form.name

structure LoginForm where
  email : String
  password : String
deriving DecidableEq, Repr

def LoginForm.shape : Json.Shape :=
  ⟨"LoginRequest", [("email", .text), ("password", .text)]⟩

instance : Form LoginForm where
  shape := LoginForm.shape
  ofValues := fun (email, password, ()) => { email, password }
  errors form := emailErrors form.email ++ requiredErrors "password" form.password

def mostBodyBytes : Nat := 2097152

inductive BodyFault where
  | notJson
  | tooLarge
  | problem (problem : Json.Problem)
deriving DecidableEq, Repr

def BodyFault.message : BodyFault → String
  | .notJson => "Expected request with `Content-Type: application/json`"
  | .tooLarge => "Failed to buffer the request body: length limit exceeded"
  | .problem p =>
    match p.cause with
    | .malformed _ => "Failed to parse the request body as JSON: " ++ p.messageWithPart
    | .mismatched _ =>
      "Failed to deserialize the JSON body into the target type: " ++ p.messageWithPart

def Request.isJson (r : Request) : Bool :=
  ((r.header? "content-type").bind fun value => MediaType.read value.toList).any (·.isJson)

/-- What the body of a request holds, whether or not its fields are right. -/
def readBody (α : Type) [Form α] (r : Request) : Except BodyFault α :=
  if !r.isJson then .error .notJson
  else if mostBodyBytes < r.body.length then .error .tooLarge
  else (Form.ofBody α r.body).mapError .problem

def readForm (α : Type) [Form α] (r : Request) : Except Failure α :=
  match readBody α r with
  | .error fault => .error (.invalid { message := fault.message })
  | .ok form =>
    let errors := Form.errors form
    if errors.isEmpty then .ok form else .error (.invalid { message := errorText errors })

end UserAccounts.Http
