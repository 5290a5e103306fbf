/-!
# Where the backend is found

The backend has one origin for requests and for the socket. Slashes at its end do not count. The
socket's scheme follows from the origin's.
-/

namespace TermSync.Rest

/-- A text without the slashes at its end. -/
def trimSlashes (s : String) : String :=
  String.ofList (s.toList.reverse.dropWhile (· == '/')).reverse

/-- A text's rest after a prefix. -/
def stripFront? (front s : String) : Option String :=
  if front.toList.isPrefixOf s.toList then
    some (String.ofList (s.toList.drop front.length))
  else none

/-- The socket URL for a URL of requests; a URL with another scheme stays as it is. -/
def socketUrl (url : String) : String :=
  match stripFront? "https://" url with
  | some rest => "wss://" ++ rest
  | none =>
    match stripFront? "http://" url with
    | some rest => "ws://" ++ rest
    | none => url

/-- The URL of a session. -/
def sessionUrl (server session : String) : String := trimSlashes server ++ "/sessions/" ++ session

/-- The URL of a session's instances. -/
def instancesUrl (server session : String) : String := sessionUrl server session ++ "/instances"

/-- The URL of an instance. -/
def instanceUrl (server session name : String) : String :=
  instancesUrl server session ++ "/" ++ name

/-- The URL of a session's socket. -/
def sessionSocketUrl (server session : String) : String :=
  socketUrl (trimSlashes server) ++ "/sessions/" ++ session ++ "/ws"

end TermSync.Rest
