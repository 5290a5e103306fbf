import TermSync.Session.Command
import TermSync.Text.Blank

/-!
# Lines typed at the console

A line that starts with a colon is a command to the client; any other line is input for the
instance shown, ended by a carriage return.
-/

namespace TermSync.Console

open Session (Command)

/-- What a line asks for. -/
inductive LineAction where
  /-- A command to the session. -/
  | command (c : Command)
  /-- A list of the instances. -/
  | list
  /-- Input for the instance shown. -/
  | input (text : String)
  /-- Nothing that is known. -/
  | unknown (line : String)
deriving DecidableEq, Repr

/-- What a line asks for. New instances run the image, if one is given. -/
def LineAction.ofLine (line : String) (image : Option String) : LineAction :=
  match line.toList with
  | ':' :: rest =>
    match Text.words (String.ofList rest) with
    | "new" :: _ => .command (.create { image })
    | "rm" :: name :: _ => .command (.delete name)
    | "sel" :: name :: _ => .command (.select name)
    | "close" :: _ => .command .close
    | "ls" :: _ => .list
    | _ => .unknown line
  | _ => .input (line ++ "\r")

end TermSync.Console
