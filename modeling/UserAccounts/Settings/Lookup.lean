/-
# Settings looked up

Reading settings from values under keys, such as the variables of an environment.
Blanks around a value do not count, and a value of blanks alone is as good as
none. What is not set has its standard value; only the secret has none.

Key definitions: `Lookup`, `Settings.read`, `TokenSettings.read`.
-/
import UserAccounts.Settings.Basic
import UserAccounts.Text.Digits

namespace UserAccounts

abbrev Lookup := String → Option String

def settingKeys : List String :=
  [serviceKeyStart ++ "_HOST", serviceKeyStart ++ "_PORT", secretKey, minutesKey, databaseKey,
    otherDatabaseKey]

/-- The value under a key without the blanks around it, unless it is nothing but blanks. -/
def Lookup.value? (lookup : Lookup) (key : String) : Option String :=
  ((lookup key).map Text.trimmed).filter (· ≠ "")

/-- Where a service listens; its keys are `start` and an ending. -/
def ServiceSettings.read (name start : String) (lookup : Lookup) :
    Except SettingsFault ServiceSettings := do
  let standard : ServiceSettings := {}
  let port ← match lookup.value? (start ++ "_PORT") with
    | none => .ok standard.port
    | some raw =>
      match Text.readNatural (UInt16.size - 1) raw.toList with
      | .ok n => .ok (UInt16.ofNat n)
      | .error _ => .error (.notANumber "port" raw)
  .ok { serviceName := name, host := (lookup.value? (start ++ "_HOST")).getD standard.host, port }

def DatabaseSettings.read (lookup : Lookup) : DatabaseSettings :=
  let standard : DatabaseSettings := {}
  { standard with
    url := ((lookup.value? databaseKey).or (lookup.value? otherDatabaseKey)).getD standard.url }

/-- The least and the greatest number of 64 bits with a sign. -/
def wordRange : Int × Int := (Int64.minValue.toInt, Int64.maxValue.toInt)

/-- How tokens are signed. A number of minutes that does not fit into 64 bits is not told apart
from a text that is no number. -/
def TokenSettings.read (lookup : Lookup) : Except SettingsFault TokenSettings := do
  let secret ← match lookup.value? secretKey with
    | some secret => .ok secret
    | none => .error (.missing secretKey)
  let minutes : Int ← match lookup.value? minutesKey with
    | none => .ok (standardMinutes : Int)
    | some raw =>
      match Text.readInteger wordRange.1 wordRange.2 raw.toList with
      | .ok n => if 0 < n then .ok n else .error (.notPositive minutesKey raw)
      | .error _ => .error (.notPositive minutesKey raw)
  TokenSettings.of? secret minutes

def Settings.read (lookup : Lookup) : Except SettingsFault Settings := do
  let service ← ServiceSettings.read serviceName serviceKeyStart lookup
  let token ← TokenSettings.read lookup
  .ok { service, database := DatabaseSettings.read lookup, token }

end UserAccounts
