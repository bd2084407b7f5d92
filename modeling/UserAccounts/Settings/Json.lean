/-
# Settings as JSON

Settings are written as objects and read from objects or lists of their fields.
The secret is read and never written.

Key definitions: `ServiceSettings.toJson`, `ServiceSettings.ofJson`,
`DatabaseSettings.toJson`, `DatabaseSettings.ofJson`, `TokenSettings.toJson`,
`TokenSettings.ofJson`.
-/
import UserAccounts.Json.Record
import UserAccounts.Json.Value
import UserAccounts.Settings.Basic

namespace UserAccounts

def ServiceSettings.shape : Json.Shape :=
  ⟨"ServiceConfig", [("service_name", .text), ("host", .text), ("port", .integer Json.word16)]⟩

def ServiceSettings.toJson (s : ServiceSettings) : Json.Value :=
  .object [("service_name", .text s.serviceName), ("host", .text s.host),
    ("port", .number s.port.toNat)]

def ServiceSettings.ofJson (text : Bytes) : Except Json.Problem ServiceSettings := do
  let (serviceName, host, port, ()) ← Json.readRecord ServiceSettings.shape text
  .ok { serviceName, host, port := UInt16.ofNat port.toNat }

def DatabaseSettings.shape : Json.Shape :=
  ⟨"DatabaseConfig", [("url", .text), ("max_connections", .integer Json.word32),
    ("min_connections", .integer Json.word32)]⟩

def DatabaseSettings.toJson (s : DatabaseSettings) : Json.Value :=
  .object [("url", .text s.url), ("max_connections", .number s.maxConnections.toNat),
    ("min_connections", .number s.minConnections.toNat)]

def DatabaseSettings.ofJson (text : Bytes) : Except Json.Problem DatabaseSettings := do
  let (url, most, least, ()) ← Json.readRecord DatabaseSettings.shape text
  .ok { url, maxConnections := UInt32.ofNat most.toNat, minConnections := UInt32.ofNat least.toNat }

def TokenSettings.shape : Json.Shape :=
  ⟨"JwtConfig", [("secret", .text), ("ttl_minutes", .integer Json.signed64)]⟩

/-- The settings for tokens as they are written: without the secret. -/
def TokenSettings.toJson (s : TokenSettings) : Json.Value :=
  .object [("ttl_minutes", .number s.ttlMinutes)]

def TokenSettings.ofJson (text : Bytes) : Except Json.Problem TokenSettings := do
  let (secret, ttlMinutes, ()) ← Json.readRecord TokenSettings.shape text
  .ok { secret, ttlMinutes }

end UserAccounts
