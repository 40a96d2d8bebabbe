import Campus.Json.Reader

/-!
# Users
-/

namespace Campus

structure User where
  id : Int
  username : String
  firstname : String
  lastname : String
  email : String
  /-- Site administrators may do everything. -/
  siteadmin : Bool := false
deriving DecidableEq, Repr

namespace User

def fullname (u : User) : String := u.firstname ++ " " ++ u.lastname

def reader : Reader User :=
  .record "User" <| User.mk <$> .required "id" .int64 <*> .required "username" .string
    <*> .required "firstname" .string <*> .required "lastname" .string
    <*> .required "email" .string <*> .withDefault "siteadmin" .bool false

def toJson (u : User) : Json :=
  .ofMembers [("id", .int u.id), ("username", .string u.username),
    ("firstname", .string u.firstname), ("lastname", .string u.lastname),
    ("email", .string u.email), ("siteadmin", .bool u.siteadmin)]

end User

end Campus
