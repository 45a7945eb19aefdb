import Xcp.Library.Archive
import Xcp.Library.Path

/-!
# Users

`infra::user_name_t` and the lookup of a user's home directory, as the Linux build does it. A
string is the sequence of its bytes.
-/

namespace Xcp

open Archive

/-- `infra::user_name_t`. -/
structure UserName where
  userName : List UInt8 := []
  domainUserName : List UInt8 := []
  userPrincipalName : List UInt8 := []
  userSid : List UInt8 := []
  deriving DecidableEq

namespace UserName

/-- The serialised fields of `user_name_t`. -/
instance : Serial UserName :=
  .fields (fun user => (user.userName, user.domainUserName, user.userSid))
    fun (userName, domainUserName, userSid) =>
      { userName := userName
        domainUserName := domainUserName
        userSid := userSid }

/-- The user with the field that is not serialised left as in a default constructed one. -/
def serialised (user : UserName) : UserName := { user with userPrincipalName := [] }

lemma arrives {w h : Host} (user : UserName) : Arrives w h user user.serialised :=
  .map (a := (user.userName, user.domainUserName, user.userSid)) rfl (fun _ => rfl)
    (.prod (.string _) (.prod (.string _) (.string _))) rfl

/-- A user is serialised completely if it has no principal name. -/
lemma serialised_eq_iff {user : UserName} : user.serialised = user ↔ user.userPrincipalName = [] := by
  cases user with
  | mk userName domainUserName userPrincipalName userSid =>
    simp only [serialised, mk.injEq, true_and, and_true]
    exact eq_comm

/-- `to_string`. -/
def toString (user : UserName) : String :=
  let named (key : String) (name : List UInt8) := if name = [] then [] else [key ++ FilePath.text name]
  "(" ++ ", ".intercalate (named "user_name=" user.userName ++
    named "domain_user_name=" user.domainUserName ++
    named "user_principal_name=" user.userPrincipalName ++ named "sid=" user.userSid) ++ ")"

/-- `infra::get_user_home_path`: the home of the first name that the user database knows, or an
empty path. -/
def getUserHomePath (tryGetHomeByName : List UInt8 → Option (List UInt8)) (user : UserName) :
    List UInt8 :=
  let home (name : List UInt8) := if name = [] then none else tryGetHomeByName name
  (home user.userName <|> home user.domainUserName <|> home user.userPrincipalName <|>
    home user.userSid).getD []

end UserName

end Xcp
