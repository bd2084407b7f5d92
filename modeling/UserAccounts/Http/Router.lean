/-
# The router

Three paths lead somewhere, each with its methods; any other path is not found,
and any other method is not allowed. `Site.respond` answers a request and gives
the state in which it leaves the kept users.

Key definitions: `Route`, `Route.ofPath?`, `Site`, `Site.respond`.
-/
import UserAccounts.Http.Body
import UserAccounts.Http.Form

namespace UserAccounts.Http

/-- Where a path leads. -/
inductive Route where
  | health
  | signup
  | login
deriving DecidableEq, Repr

def Route.ofPath? (path : String) : Option Route :=
  if path = "/health" then some .health
  else if path = "/signup" then some .signup
  else if path = "/v1/users/login" then some .login
  else none

def Route.methods : Route → List String
  | .health => ["GET", "HEAD"]
  | .signup => ["POST"]
  | .login => ["POST"]

structure Site (σ δ : Type) where
  persistence : Persistence σ δ
  hasher : Hasher
  issuer : Issuer

structure Moment where
  now : Time.Instant
  random : Randomness
  health : Health

namespace Site

variable {σ δ : Type}

def respondSignup (site : Site σ δ) (m : Moment) (r : Request) (s : σ) : Response × σ :=
  match readForm SignupForm r with
  | .error failure => (failureResponse failure, s)
  | .ok form =>
    match UserAccounts.signup site.persistence site.hasher m.random
        ⟨form.email, form.password, form.name⟩ m.now s with
    | (.error failure, s) => (failureResponse failure, s)
    | (.ok output, s) => (.json 201 (signupBody output), s)

def respondLogin (site : Site σ δ) (m : Moment) (r : Request) (s : σ) : Response × σ :=
  match readForm LoginForm r with
  | .error failure => (failureResponse failure, s)
  | .ok form =>
    match UserAccounts.login site.persistence site.hasher site.issuer
        ⟨form.email, form.password⟩ m.now s with
    | (.error failure, s) => (failureResponse failure, s)
    | (.ok output, s) => (.json 200 (loginBody output), s)

def respond (site : Site σ δ) (m : Moment) (r : Request) (s : σ) : Response × σ :=
  match Route.ofPath? r.path with
  | none => ({ status := 404 }, s)
  | some route =>
    if !route.methods.contains r.method then
      ({ status := 405, allow := some (",".intercalate route.methods) }, s)
    else
      match route with
      | .health =>
        let response := healthResponse m.health
        (if r.method = "HEAD" then { response with body := "" } else response, s)
      | .signup => site.respondSignup m r s
      | .login => site.respondLogin m r s

end Site

end UserAccounts.Http
