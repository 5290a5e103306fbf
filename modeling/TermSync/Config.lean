import TermSync.Json.Reader
import TermSync.Json.Shape
import TermSync.Json.Writer
import TermSync.Text.Utf8
import TermSync.Wire.Outbound

/-!
# Configuration

Settings have defaults; a file may change some of them and the environment may change them again.
An interval from the environment counts only if it is a positive number. The environment also says
in which directory the file is.
-/

namespace TermSync

open Json (Node Value)
open Wire (Version)

/-- The settings of the client. Intervals are in milliseconds. -/
structure Config where
  /-- The origin of the backend. -/
  serverUrl : String := "http://localhost"
  /-- How often typed input is sent. -/
  flushInterval : Nat := 70
  /-- How long to wait before the next connection attempt. -/
  reconnectInterval : Nat := 1000
  /-- How long the viewport has to be left alone before a resize is sent. -/
  resizeDebounce : Nat := 100
  /-- Which outbound names to use. -/
  version : Version := .current
deriving DecidableEq, Repr

namespace Config

/-- The directory of the configuration file: the one that is named, or one below the directory in
which configurations are kept. -/
def directory (environment : String → Option String) : String :=
  match environment "PLAYGROUND_CONFIG_DIR" with
  | some named => named
  | none =>
    let home := (environment "HOME").getD "" ++ "/.config"
    let base :=
      match environment "XDG_CONFIG_HOME" with
      | some base => if base.toList.head? = some '/' then base else home
      | none => home
    base ++ "/playground"

/-- The path of the configuration file. -/
def filePath (environment : String → Option String) : String :=
  match directory environment with
  | "" => "config.json"
  | dir => dir ++ "/config.json"

/-- Why a configuration file was not used. -/
inductive FileError where
  /-- There is no such file, or it is not UTF-8 text. -/
  | unreadable
  /-- The text is no configuration. -/
  | invalid
deriving DecidableEq, Repr

/-- The names of the settings in a file, in the order in which they are written. -/
def fieldNames : List String :=
  ["server_url", "flush_interval_ms", "reconnect_interval_ms", "resize_debounce_ms", "protocol"]

/-- Read a version: its exact name, or an object with this name as the key of `null`. -/
def versionOfNode? : Node → Option Version
  | .text (some s) => Version.ofName? s
  | .object [(some s, .null)] => Version.ofName? s
  | _ => none

/-- Read settings. Each of them may be absent. -/
def ofNode? (n : Node) : Option Config := do
  match ← n.fields? fieldNames with
  | [serverUrl, flush, reconnect, debounce, version] =>
    let base : Config := {}
    return {
      serverUrl := ← Node.fieldD Node.text? base.serverUrl serverUrl
      flushInterval := ← Node.fieldD Node.unsigned? base.flushInterval flush
      reconnectInterval := ← Node.fieldD Node.unsigned? base.reconnectInterval reconnect
      resizeDebounce := ← Node.fieldD Node.unsigned? base.resizeDebounce debounce
      version := ← Node.fieldD versionOfNode? base.version version }
  | _ => none

/-- The settings in a configuration file, given its bytes if there is such a file. -/
def ofFile (file : Option Text.Bytes) : Except FileError Config :=
  match file.bind Text.Utf8.decode? with
  | none => .error .unreadable
  | some cs =>
    match (Node.ofChars? cs).bind ofNode? with
    | some config => .ok config
    | none => .error .invalid

/-- A positive 64-bit number in decimal digits, perhaps after a plus sign. -/
def interval? (s : String) : Option Nat :=
  let digits :=
    match s.toList with
    | '+' :: r => r
    | r => r
  match digits.mapM Json.digit? with
  | none | some [] => none
  | some ds =>
    let n := ds.foldl (· * 10 + ·) 0
    if 0 < n ∧ n ≤ Json.maxUnsigned then some n else none

/-- The value that a variable gives to an interval, or the one that it has. -/
def override (environment : String → Option String) (name : String) (value : Nat) : Nat :=
  ((environment name).bind interval?).getD value

/-- Settings after the environment has changed them. What a variable says is ignored if it is not
understood. -/
def withOverrides (c : Config) (environment : String → Option String) : Config where
  serverUrl := (environment "PLAYGROUND_SERVER_URL").getD c.serverUrl
  flushInterval := override environment "PLAYGROUND_FLUSH_INTERVAL_MS" c.flushInterval
  reconnectInterval := override environment "PLAYGROUND_RECONNECT_INTERVAL_MS" c.reconnectInterval
  resizeDebounce := override environment "PLAYGROUND_RESIZE_DEBOUNCE_MS" c.resizeDebounce
  version :=
    match (environment "PLAYGROUND_PROTOCOL").map Version.parse with
    | some (.ok v) => v
    | _ => c.version

/-- The settings of a run: those of the file at `filePath`, or the defaults if there is none or it
cannot be used, and what the environment changes. -/
def load (file : Option Text.Bytes) (environment : String → Option String) : Config :=
  let base :=
    match ofFile file with
    | .ok c => c
    | .error _ => {}
  base.withOverrides environment

/-- The JSON form of settings. -/
def toValue (c : Config) : Value :=
  .object [("server_url", .text c.serverUrl),
    ("flush_interval_ms", .number (.integer c.flushInterval)),
    ("reconnect_interval_ms", .number (.integer c.reconnectInterval)),
    ("resize_debounce_ms", .number (.integer c.resizeDebounce)),
    ("protocol", .text c.version.name)]

end Config
end TermSync
