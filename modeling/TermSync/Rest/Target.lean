import TermSync.Text.Utf8

/-!
# Request targets

A request names what it is about by a URL. What is sent of the URL is the target: the path and the
query. On the way the URL is put into its normal form: tabs and line ends are taken out, a backslash
counts as a slash, the segments `.` and `..` are resolved, characters that may not stand in a target
are percent-encoded, and what follows a `#` is not sent at all.

So different URLs may have the same target. Main laws: `encode_append` (encoding goes character by
character), `ofRest_fragment` (nothing after a `#` counts).
-/

namespace TermSync.Rest

open Text (Bytes)

/-- What a request asks for. -/
structure Target where
  path : List Char
  query : Option (List Char)
deriving DecidableEq, Repr

namespace Target

/-- A target as it is sent. -/
def toText (t : Target) : String :=
  String.ofList (t.path ++
    match t.query with
    | some q => '?' :: q
    | none => [])

/-! ## Percent encoding -/

/-- Whether a character is no visible ASCII character. -/
def isHidden (c : Char) : Bool := c.toNat ≤ 0x20 || 0x7F ≤ c.toNat

/-- The characters that may not stand in a query. -/
def queryReserved (c : Char) : Bool :=
  isHidden c || ['"', '#', '<', '>', '\''].contains c

/-- The characters that may not stand in a path. -/
def pathReserved (c : Char) : Bool :=
  isHidden c || ['"', '#', '<', '>', '?', '^', '\x60', '\x7b', '\x7d'].contains c

/-- A hexadecimal digit in upper case. -/
def upperHex (n : Nat) : Char := Char.ofNat (if n < 10 then n + 48 else n + 55)

/-- The percent encoding of a byte. -/
def encodeByte (b : UInt8) : List Char := ['%', upperHex (b.toNat / 16), upperHex (b.toNat % 16)]

/-- The percent encoding of a character, byte by byte, if it is reserved. -/
def encodeChar (reserved : Char → Bool) (c : Char) : List Char :=
  if reserved c then (Text.Utf8.encode [c]).flatMap encodeByte else [c]

/-- A text in which reserved characters are percent-encoded. -/
def encode (reserved : Char → Bool) (cs : List Char) : List Char :=
  cs.flatMap (encodeChar reserved)

/-- Encoding goes character by character. -/
theorem encode_append (reserved : Char → Bool) (as bs : List Char) :
    encode reserved (as ++ bs) = encode reserved as ++ encode reserved bs :=
  List.flatMap_append

/-! ## Paths -/

/-- Whether a character separates segments. -/
def isSlash (c : Char) : Bool := c == '/' || c == '\\'

/-- The segments between slashes: one more than there are slashes. -/
def segments : List Char → List (List Char)
  | [] => [[]]
  | c :: rest =>
    if isSlash c then [] :: segments rest
    else
      match segments rest with
      | [] => [[c]]
      | s :: more => (c :: s) :: more

/-- A segment in lower case in which `%2e` is written as a dot. -/
def dotted : List Char → List Char
  | '%' :: '2' :: 'e' :: rest => '.' :: dotted rest
  | '%' :: '2' :: 'E' :: rest => '.' :: dotted rest
  | c :: rest => c :: dotted rest
  | [] => []

/-- Whether a segment means the place where it stands. -/
def isHere (s : List Char) : Bool := dotted s == ['.']

/-- Whether a segment means the place above. -/
def isAbove (s : List Char) : Bool := dotted s == ['.', '.']

/-- Resolve segments, given those resolved so far in reverse. The last segment of a path is kept
as an empty one if it means a place. -/
def resolve (above : List (List Char)) : List (List Char) → List (List Char)
  | [] => above.reverse
  | [s] =>
    if isAbove s then ([] :: above.drop 1).reverse
    else if isHere s then ([] :: above).reverse
    else (s :: above).reverse
  | s :: rest =>
    if isAbove s then resolve (above.drop 1) rest
    else if isHere s then resolve above rest
    else resolve (s :: above) rest

/-- A path from its segments. -/
def joined (ss : List (List Char)) : List Char := ss.flatMap fun s => '/' :: s

/-- The path that a text after the authority stands for. -/
def normalPath (cs : List Char) : List Char :=
  let body :=
    match cs with
    | [] => []
    | c :: rest => if isSlash c then rest else c :: rest
  joined (resolve [] (segments (encode pathReserved body)))

/-! ## URLs -/

/-- Whether a character is trimmed at both ends of a URL. -/
def isTrimmed (c : Char) : Bool := c.toNat ≤ 0x20

/-- Whether a character is taken out of a URL wherever it stands. -/
def isIgnored (c : Char) : Bool := c == '\t' || c == '\n' || c == '\r'

/-- A URL without what does not count in it. -/
def cleaned (cs : List Char) : List Char :=
  let trimmed := ((cs.dropWhile isTrimmed).reverse.dropWhile isTrimmed).reverse
  trimmed.filter fun c => !isIgnored c

/-- What follows a scheme, in letters of either case, and its colon. -/
def afterScheme? (scheme cs : List Char) : Option (List Char) :=
  if (cs.take scheme.length).map Char.toLower = scheme then
    match cs.drop scheme.length with
    | ':' :: rest => some rest
    | _ => none
  else none

/-- What follows the scheme of a web address. -/
def afterWebScheme? (cs : List Char) : Option (List Char) :=
  afterScheme? "http".toList cs <|> afterScheme? "https".toList cs

/-- Whether a character ends the authority. -/
def endsAuthority (c : Char) : Bool := isSlash c || c == '?' || c == '#'

/-- The target in a text that begins after the authority. -/
def ofRest (cs : List Char) : Target :=
  let sent := cs.takeWhile (· != '#')
  let path := sent.takeWhile (· != '?')
  { path := normalPath path
    query :=
      match sent.dropWhile (· != '?') with
      | _ :: q => some (encode queryReserved q)
      | [] => none }

/-- The target of a web address. The authority must not be empty, and is not looked into. -/
def ofChars? (cs : List Char) : Option Target :=
  match afterWebScheme? (cleaned cs) with
  | none => none
  | some rest =>
    let rest := rest.dropWhile isSlash
    match rest.takeWhile fun c => !endsAuthority c with
    | [] => none
    | _ => some (ofRest (rest.dropWhile fun c => !endsAuthority c))

/-- The target of a web address. -/
def ofUrl? (url : String) : Option Target := ofChars? url.toList

/-- Nothing after a `#` counts. -/
theorem ofRest_fragment (cs more : List Char) : ofRest (cs ++ '#' :: more) = ofRest cs := by
  have h : (cs ++ '#' :: more).takeWhile (· != '#') = cs.takeWhile (· != '#') := by
    induction cs with
    | nil => rfl
    | cons c cs ih => by_cases hc : c = '#' <;> simp_all
  simp only [ofRest, h]

end Target
end TermSync.Rest
