/-!
# Arguments

What the program is told when it is started. An option takes its value from the same argument,
after an equals sign, or from the next one, which must not look like an option. No option may be
given twice, and the session must be named.
-/

namespace TermSync.Console

/-- The arguments of a run. -/
structure Arguments where
  session : String
  server : Option String := none
  new : Bool := false
  image : Option String := none
deriving DecidableEq, Repr

/-- What the arguments ask for. -/
inductive Usage where
  | run (a : Arguments)
  | version
  | help
  | invalid
deriving DecidableEq, Repr

namespace Arguments

/-- What is known while arguments are read. -/
structure Draft where
  session : Option String := none
  server : Option String := none
  new : Bool := false
  image : Option String := none

/-- What a long option is. -/
inductive Flag where
  | session
  | server
  | image
  | new
  | version
  | help
deriving DecidableEq

/-- The option with a name. -/
def named? (name : String) : Option Flag :=
  [("session", Flag.session), ("server", .server), ("image", .image), ("new", .new),
    ("version", .version), ("help", .help)].lookup name

/-- Give a value to an option that has none yet. -/
def Draft.put? (d : Draft) (o : Flag) (value : String) : Option Draft :=
  match o with
  | .session => if d.session.isNone then some { d with session := some value } else none
  | .server => if d.server.isNone then some { d with server := some value } else none
  | .image => if d.image.isNone then some { d with image := some value } else none
  | .new | .version | .help => none

/-- Whether an argument can be the value of an option. -/
def isValue (s : String) : Bool :=
  match s.toList with
  | '-' :: _ :: _ => false
  | _ => true

/-- The name and the attached value of a long option. -/
def splitLong (cs : List Char) : String × Option String :=
  let name := String.ofList (cs.takeWhile (· != '='))
  match cs.dropWhile (· != '=') with
  | [] => (name, none)
  | _ :: value => (name, some (String.ofList value))

/-- A run with what is known, if the session is. -/
def Draft.finish (d : Draft) : Usage :=
  match d.session with
  | some session => .run { session, server := d.server, new := d.new, image := d.image }
  | none => .invalid

/-- Read arguments from left to right. -/
def read (d : Draft) : List String → Usage
  | [] => d.finish
  | arg :: rest =>
    match arg.toList with
    | ['-', '-'] => if rest.isEmpty then d.finish else .invalid
    | '-' :: '-' :: cs =>
      let (name, attached) := splitLong cs
      match named? name, attached with
      | none, _ => .invalid
      | some .version, none => .version
      | some .help, none => .help
      | some .new, none => if d.new then .invalid else read { d with new := true } rest
      | some o, some value =>
        match d.put? o value with
        | some d => read d rest
        | none => .invalid
      | some o, none =>
        match rest with
        | [] => .invalid
        | value :: rest =>
          if isValue value then
            match d.put? o value with
            | some d => read d rest
            | none => .invalid
          else .invalid
    | '-' :: 'V' :: _ => .version
    | '-' :: 'h' :: _ => .help
    | _ => .invalid

/-- What arguments ask for. -/
def parse (args : List String) : Usage := read {} args

end Arguments
end TermSync.Console
