import UriExpansion.Url.Host

/-!
URLs and their serialization.
-/

namespace UriExpansion.Url

/-- What stands behind two slashes: credentials, which are encoded and empty if there
are none, a host, which may be empty, and a port. -/
structure Authority where
  username : String
  password : String
  host : Host
  port? : Option Nat
  deriving DecidableEq, Repr

namespace Authority

def userinfo (authority : Authority) : String :=
  if authority.username.isEmpty && authority.password.isEmpty then ""
  else if authority.password.isEmpty then authority.username ++ "@"
  else authority.username ++ ":" ++ authority.password ++ "@"

def text (authority : Authority) : String :=
  "//" ++ authority.userinfo ++ authority.host.text
    ++ (match authority.port? with
      | none => ""
      | some port => ":" ++ String.ofList (Nat.toDigits 10 port))

end Authority

end Url

structure Url where
  scheme : String
  authority? : Option Url.Authority
  path : String
  query? : Option String
  fragment? : Option String
  deriving DecidableEq, Repr

namespace Url

/-- What stands between the scheme and the path. A path that starts with two slashes
gets a segment `.` in front, lest it be read as an authority. -/
def beforePath (url : Url) : String :=
  match url.authority? with
  | some authority => authority.text
  | none => if "//".toList.isPrefixOf url.path.toList then "/." else ""

/-- The text of a URL. -/
def text (url : Url) : String :=
  url.scheme ++ ":" ++ url.beforePath ++ url.path
    ++ (match url.query? with
      | none => ""
      | some query => "?" ++ query)
    ++ (match url.fragment? with
      | none => ""
      | some fragment => "#" ++ fragment)

end Url

end UriExpansion
