/-
Module: DataVault.Auth.Entities
Layer: Model
Purpose: What the authentication services read and write: the account of a user with its credentials
  (users/entities/user.entity.ts), access tokens and their payload (auth/auth.types.ts), the password hash, and the
  failures of these services with their texts.
Imports: DataVault.Users.Entity
Trusted boundary: human-reviewed spec
Main exports: AuthFailure, Fate, Bcrypt, Account, TokenPayload, AccessToken
-/
import DataVault.Users.Entity

namespace DataVault.Auth

open DataVault.Users

/-- The exceptions of the services; `database`, `duplicateKey` and `email` are raised by the drivers, `token` by the
token library and by the guard itself. -/
inductive AuthFailure where
  | badRequest (message : String)
  | unauthorized (message : String)
  | notFound (message : String)
  | conflict (message : String)
  | serviceUnavailable (message : String)
  | database
  | duplicateKey (field : String)
  | email
  | token (message : String)
deriving DecidableEq, Repr

/-- Whether the answer of an action arrives, is lost after the effect, or the action has not taken effect when the
caller gives up. -/
inductive Fate where
  | delivered
  | lostAfter
  | lostBefore
deriving DecidableEq, Repr

/-- `bcryptjs`: a salted hash of a password and the comparison with one. -/
structure Bcrypt where
  hash : Nat → String → String
  compare : String → String → Bool

/-- The stored document of a user. `companyId` is absent where it is no object id, `role` where it is none of the
declared roles. -/
structure Account where
  id : Nat
  email : String
  password : Option String := none
  passwordResetTokenHash : Option Nat := none
  passwordResetExpiresAt : Option Int := none
  passwordResetRequestedAt : Option Int := none
  authVersion : Option Nat := some 0
  companyId : Option Nat
  role : Option Role := some .companyMember
deriving DecidableEq, Repr

/-- `user.authVersion ?? 0`. -/
def Account.version (account : Account) : Nat := account.authVersion.getD 0

/-- `user.password`, where it is not empty. -/
def Account.passwordHash (account : Account) : Option String := account.password.filter (· ≠ "")

/-- `TokenPayload`. -/
structure TokenPayload where
  id : Nat
  type : Option String := none
  version : Option Nat := none
deriving DecidableEq, Repr

/-- An access token as its signed content, with its times in seconds. -/
structure AccessToken where
  payload : TokenPayload
  issuedAt : Int
  expiresAt : Int
deriving DecidableEq, Repr

/-- `payload.version ?? 0`. -/
def AccessToken.version (token : AccessToken) : Nat := token.payload.version.getD 0

/-- The token library's check of the expiry at a time in milliseconds. -/
def AccessToken.expired (token : AccessToken) (clock : Int) : Prop := token.expiresAt ≤ clock / 1000

instance (token : AccessToken) (clock : Int) : Decidable (token.expired clock) :=
  inferInstanceAs (Decidable (_ ≤ _))

/-- `expiresIn: '1h'`, in seconds. -/
def accessTokenTtlSeconds : Int := 3600

/-- `jwtService.signAsync`. -/
def signAsync (payload : TokenPayload) (clock : Int) : AccessToken where
  payload := payload
  issuedAt := clock / 1000
  expiresAt := clock / 1000 + accessTokenTtlSeconds

end DataVault.Auth
