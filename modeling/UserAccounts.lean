import UserAccounts.Main
import UserAccounts.Http.Router
import UserAccounts.Json.Tree
import UserAccounts.Settings.Json
import UserAccounts.Settings.Lookup
import UserAccounts.Sql.Connection
import UserAccounts.Proofs.Store.Calls
import UserAccounts.Proofs.Store.Crowd
import UserAccounts.Proofs.Store.Serial
import UserAccounts.Proofs.Service.Signup
import UserAccounts.Proofs.Service.Exits
import UserAccounts.Proofs.Service.Race
import UserAccounts.Proofs.Service.History
import UserAccounts.Proofs.Store.Nesting
import UserAccounts.Proofs.Sql.Conversation
import UserAccounts.Proofs.Sql.Faithful
import UserAccounts.Proofs.Sql.Agreement
import UserAccounts.Proofs.Text.Utf8
import UserAccounts.Proofs.Text.Base64
import UserAccounts.Proofs.Json.Text
import UserAccounts.Proofs.Json.Numeral
import UserAccounts.Proofs.Json.Number
import UserAccounts.Proofs.Json.Record
import UserAccounts.Proofs.Json.Grammar
import UserAccounts.Proofs.Json.Tree
import UserAccounts.Proofs.User.Id
import UserAccounts.Proofs.Crypto.Hmac
import UserAccounts.Proofs.Token.Issuer
import UserAccounts.Proofs.Time.Span
import UserAccounts.Proofs.Token.Expiry
import UserAccounts.Proofs.Http.Login
import UserAccounts.Proofs.User.Status
import UserAccounts.Proofs.Http.Request
import UserAccounts.Proofs.Http.Failures
import UserAccounts.Proofs.Http.Signup
import UserAccounts.Proofs.Http.Hiding
import UserAccounts.Proofs.Http.Bodies
import UserAccounts.Proofs.Crypto.StoredHash
import UserAccounts.Proofs.Store.Views
import UserAccounts.Proofs.User.StoredPassword
import UserAccounts.Proofs.Time.Calendar
import UserAccounts.Proofs.Text.Digits
import UserAccounts.Proofs.Time.Reading
import UserAccounts.Proofs.Http.Times
import UserAccounts.Proofs.Text.Blank
import UserAccounts.Proofs.Settings.Whole
import UserAccounts.Proofs.Http.Secret
import UserAccounts.Proofs.Http.Addresses
import UserAccounts.Proofs.Text.ByteOrder
import UserAccounts.Proofs.Http.FieldErrors
import UserAccounts.Proofs.Text.Radix
import UserAccounts.Proofs.Text.Quoted
import UserAccounts.Proofs.Settings.Shown
import UserAccounts.Proofs.Net.Readers
import UserAccounts.Proofs.Net.Address
import UserAccounts.Proofs.Program.Listening
import UserAccounts.Proofs.Json.Item
import UserAccounts.Proofs.Json.Skip
import UserAccounts.Proofs.Json.Members
import UserAccounts.Proofs.Json.Layout
import UserAccounts.Proofs.Settings.Mirrored
