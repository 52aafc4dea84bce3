import ModelSchema.Failure
import ModelSchema.Text.DomainName
import ModelSchema.Text.IpAddress
import ModelSchema.Text.UriReference

/-!
Resource locators, read as browsers read them.

* `Url.ofText?`: the parts of a locator, each in its usual form. `Url.text` writes it.
* `Url.normalText`: the usual text of a locator.
* `HostSegments`: paths, in which dots lead up; `Host.ofText?`: names and addresses.

What a person can mistype in a well-known scheme is mended: slashes can be missing or lean
backwards, and blanks at the ends and line ends do not count. Other schemes are taken as they are.
-/

namespace ModelSchema

/-! ### Percent signs -/

/-- The bytes of a character, each behind a percent sign. -/
def percentChar (c : Char) : List Char :=
  (String.utf8EncodeChar c).flatMap fun byte => '%' :: (hexPadded 2 byte.toNat).map Char.toUpper

/-- A text with the characters that are not ASCII, control characters and some more behind percent
signs. -/
def percentEncoded (more : String) (text : List Char) : List Char :=
  text.flatMap fun c =>
    if c.toNat < 0x20 || 0x7f ≤ c.toNat || more.toList.contains c then percentChar c else [c]

/-- The characters that the name of a user, a path, a query and a fragment do not hold. -/
def userReserved : String := " \"<>`#?\x7b\x7d/:;=@[\\]^|"

def pathReserved : String := " \"<>`#?\x7b\x7d"

def queryReserved : String := " \"#<>"

def fragmentReserved : String := " \"<>`"

/-- The text of bytes written with percent signs, if it is one. -/
def percentText? (text : List Char) : Option String := (decodeUtf8 (percentBytes text)).toOption

/-! ### Hosts -/

namespace Host

/-- A number that is a part of a short address: decimal, octal behind a zero, hexadecimal behind
`0x`. -/
def number? (text : List Char) : Option Nat :=
  match text with
  | [] => none
  | '0' :: 'x' :: rest =>
    if rest.all fun c => (hexDigit? c).isSome then some (hexValue rest) else none
  | '0' :: c :: rest =>
    let digits := c :: rest
    if digits.all fun c => '0' ≤ c && c ≤ '7' then
      some (digits.foldl (fun n c => n * 8 + (c.toNat - '0'.toNat)) 0)
    else none
  | digits => if digits.all Char.isDigit then some (digitsValue digits) else none

/-- The parts of a name, without an empty one in the last place. -/
def labels (name : String) : List (List Char) :=
  let parts := (name.splitOn ".").map String.toList
  if parts.getLast? = some [] then parts.dropLast else parts

/-- Whether a name is meant as a short address: its last part is a number. -/
def endsInNumber (name : String) : Bool :=
  match (labels name).getLast? with
  | some [] | none => false
  | some last => last.all Char.isDigit || (number? last).isSome

/-- A short address of at most four numbers, the last of which fills the places that are left. -/
def shortAddress? (name : String) : Option String :=
  match (labels name).mapM number? with
  | some numbers =>
    let front := numbers.dropLast
    let last := numbers.getLastD 0
    if 4 < numbers.length || front.any (255 < ·) || Nat.pow 256 (4 - front.length) ≤ last then none
    else
      let high :=
        (front.zip [3, 2, 1]).foldl (fun n (octet, place) => n + octet * Nat.pow 256 place) 0
      some (Ipv4.text (high + last))
  | none => none

/-- The four numbers of a short address inside a long one, which have no leading zeros. -/
def dottedPieces? (text : List Char) : Option (List Nat) :=
  match (String.ofList text).splitOn "." |>.mapM fun part => (Ipv4.octet part).toOption with
  | some [a, b, c, d] => some [a * 256 + b, c * 256 + d]
  | _ => none

/-- The pieces of one side of a long address. Only the last may be a short address. -/
def pieces? (mayEndShort : Bool) (text : List Char) : Option (List Nat) :=
  if text.isEmpty then some []
  else
    let parts := ((String.ofList text).splitOn ":").map String.toList
    let piece? (part : List Char) : Option (List Nat) :=
      if part.isEmpty || 4 < part.length || !part.all (fun c => (hexDigit? c).isSome) then none
      else some [hexValue part]
    let last := parts.getLastD []
    let lastPieces := if mayEndShort && last.contains '.' then dottedPieces? last else piece? last
    match parts.dropLast.mapM piece?, lastPieces with
    | some front, some last => some (front.flatten ++ last)
    | _, _ => none

/-- A long address, without the brackets around it. -/
def longAddress? (text : String) : Option String :=
  match text.splitOn "::" with
  | [whole] => do
    let pieces ← pieces? true whole.toList
    if pieces.length = 8 then some (Ipv6.text pieces) else none
  | [front, back] => do
    let front ← pieces? false front.toList
    let back ← pieces? true back.toList
    if 8 ≤ front.length + back.length then none
    else
      let zeros := List.replicate (8 - front.length - back.length) 0
      some (Ipv6.text (front ++ zeros ++ back))
  | _ => none

/-- A long address in brackets. -/
def bracketed? (text : List Char) : Option String :=
  if text.getLast? = some ']' then
    (longAddress? (String.ofList (text.drop 1).dropLast)).map fun address => "[" ++ address ++ "]"
  else none

/-- The host of a well-known scheme. -/
def ofText? (text : List Char) : Option String :=
  if text.head? = some '[' then bracketed? text
  else do
    let name ← domainToAscii? (← percentText? text)
    if name.isEmpty then none
    else if endsInNumber name then shortAddress? name
    else some name

/-- The host of any other scheme. -/
def opaqueText? (text : List Char) : Option String :=
  if text.head? = some '[' then bracketed? text
  else if text.any fun c => "\x00\t\n\r #/:<>?@[\\]^|".toList.contains c then none
  else some (String.ofList (percentEncoded "" text))

end Host

/-! ### Paths -/

namespace HostSegments

/-- The spellings of a dot in a segment. -/
def dotSpellings : List String := [".", "%2e"]

def isSingleDot (segment : String) : Bool :=
  dotSpellings.contains (String.ofList (segment.toList.map Char.toLower))

def isDoubleDot (segment : String) : Bool :=
  (dotSpellings.flatMap fun a => dotSpellings.map (a ++ ·)).contains
    (String.ofList (segment.toList.map Char.toLower))

/-- Whether a segment names a drive: a letter and a colon, or a bar in its place. -/
def isDrive (segment : String) : Bool :=
  match segment.toList with
  | [c, mark] => c.isAlpha && (mark = ':' || mark = '|')
  | _ => false

/-- A drive with a colon. -/
def normalDrive (segment : String) : String := String.ofList (segment.toList.take 1 ++ [':'])

/-- The segments without the last one. A drive in a path of files is kept. -/
def shortened (isFile : Bool) (segments : List String) : List String :=
  match segments with
  | [only] => if isFile && isDrive only && only.endsWith ":" then [only] else []
  | segments => segments.dropLast

/-- Adds one segment to those so far. `isLast` tells that no slash follows. -/
def step (isFile isLast : Bool) (segments : List String) (segment : String) : List String :=
  if isDoubleDot segment then
    let segments := shortened isFile segments
    if isLast then segments ++ [""] else segments
  else if isSingleDot segment then if isLast then segments ++ [""] else segments
  else if isFile && segments.isEmpty && isDrive segment then [normalDrive segment]
  else segments ++ [segment]

/-- The segments that remain when dots are followed. -/
def resolved (isFile : Bool) (segments : List String) : List String :=
  let front := segments.dropLast.foldl (step isFile false) []
  match segments.getLast? with
  | some last => step isFile true front last
  | none => front

end HostSegments

/-! ### Locators -/

/-- A locator in its parts. The path is written as it stands, behind the authority if there is one.
-/
structure Url where
  scheme : String
  authority : Option String
  path : String
  query : Option String
  fragment : Option String
  deriving DecidableEq, Repr, Inhabited

namespace Url

/-- The well-known schemes with hosts, with the usual number behind the host. -/
def hostSchemes : List (String × Nat) :=
  [("http", 80), ("https", 443), ("ws", 80), ("wss", 443), ("ftp", 21)]

/-- Whether a scheme is a well-known one. -/
def isSpecial (scheme : String) : Bool :=
  scheme = "file" || hostSchemes.any (·.1 = scheme)

/-- The text of a locator. -/
def text (url : Url) : String :=
  let marked (mark : String) (part : Option String) : String := (part.map (mark ++ ·)).getD ""
  url.scheme ++ ":" ++ marked "//" url.authority ++ url.path ++ marked "?" url.query
    ++ marked "#" url.fragment

/-- Whether a character ends the authority. -/
def endsAuthority (special : Bool) (c : Char) : Bool :=
  c = '/' || c = '?' || c = '#' || (special && c = '\\')

/-- Whether a character is a slash in a scheme. -/
def isSlash (special : Bool) (c : Char) : Bool := c = '/' || (special && c = '\\')

/-- The path, the query and the fragment of the text behind the authority. -/
def splitTail (text : List Char) : List Char × Option (List Char) × Option (List Char) :=
  let path := text.takeWhile fun c => c != '?' && c != '#'
  match text.drop path.length with
  | '?' :: rest =>
    let query := rest.takeWhile (· != '#')
    let behind := if query.length < rest.length then some (rest.drop (query.length + 1)) else none
    (path, some query, behind)
  | '#' :: rest => (path, none, some rest)
  | _ => (path, none, none)

/-- The segments of a path without the slash in front. -/
def segments (special : Bool) (path : List Char) : List String :=
  let path := path.map fun c => if isSlash special c then '/' else c
  ((String.ofList path).splitOn "/").map fun segment =>
    String.ofList (percentEncoded pathReserved segment.toList)

/-- The usual form of a path that begins with a slash, which is not part of the text. -/
def normalPath (scheme : String) (path : List Char) : String :=
  let isFile := scheme = "file"
  let text := "/".intercalate (HostSegments.resolved isFile (segments (isSpecial scheme) path))
  "/" ++ if isFile then String.ofList (text.toList.dropWhile (· = '/')) else text

/-- The path behind an authority. A well-known scheme always has one. -/
def hostPath (scheme : String) (path : List Char) : String :=
  match path with
  | [] => if isSpecial scheme then "/" else ""
  | c :: rest =>
    normalPath scheme (if isSlash (isSpecial scheme) c then rest else c :: rest)

/-- A locator with the usual forms of its query and its fragment. -/
def withTail (scheme : String) (authority : Option String) (path : String)
    (query fragment : Option (List Char)) : Url :=
  let reserved := if isSpecial scheme then queryReserved ++ "'" else queryReserved
  { scheme, authority, path
    query := query.map fun text => String.ofList (percentEncoded reserved text)
    fragment := fragment.map fun text => String.ofList (percentEncoded fragmentReserved text) }

/-- The name and the password in front of a host. An empty password is not written, nor is an empty
name without a password. -/
def userText (user : List Char) : String :=
  let name := user.takeWhile (· != ':')
  let password := user.drop (name.length + 1)
  let encoded (text : List Char) : String := String.ofList (percentEncoded userReserved text)
  if name.isEmpty && password.isEmpty then ""
  else encoded name ++ (if password.isEmpty then "" else ":" ++ encoded password) ++ "@"

/-- The text of a host up to the number behind it: a colon inside brackets belongs to the host. -/
def hostLength (inside : Bool) : List Char → Nat
  | [] => 0
  | c :: rest =>
    if c = ':' && !inside then 0
    else hostLength (if c = '[' then true else if c = ']' then false else inside) rest + 1

/-- The number behind a host, unless it is the usual one. -/
def portText? (scheme : String) (text : List Char) : Option String :=
  let n := digitsValue text
  if !text.all Char.isDigit || 65535 < n then none
  else if text.isEmpty || hostSchemes.contains (scheme, n) then some ""
  else some s!":{n}"

/-- The usual form of an authority. Only in schemes that are not well known it can lack a host, if
there is neither a user nor a number. `isFollowed` tells that the locator goes on. -/
def authority? (scheme : String) (isFollowed : Bool) (text : List Char) : Option String := do
  let special := isSpecial scheme
  let tail := (text.reverse.takeWhile (· != '@')).reverse
  let hasEmptyUser := text.length = tail.length + 1
  let user := userText (text.take (text.length - tail.length - 1))
  let length := hostLength false tail
  let port := tail.drop length
  let name := tail.take length
  let host ← if special then Host.ofText? name else Host.opaqueText? name
  let needsHost := special || !port.isEmpty || !user.isEmpty || (hasEmptyUser && isFollowed)
  if host.isEmpty && needsHost then none
  else return user ++ host ++ (← portText? scheme (port.drop 1))

/-- The locator of a scheme whose authority begins here. -/
def afterSlashes? (scheme : String) (text : List Char) : Option Url := do
  let special := isSpecial scheme
  let authority := text.takeWhile fun c => !endsAuthority special c
  let behind := text.drop authority.length
  let (path, query, fragment) := splitTail behind
  let authority ← authority? scheme (!behind.isEmpty) authority
  return withTail scheme (some authority) (hostPath scheme path) query fragment

/-- Whether a path without slashes in front begins with a drive. -/
def beginsWithDrive (path : List Char) : Bool :=
  HostSegments.isDrive (String.ofList (path.takeWhile fun c => !isSlash true c))

/-- The locator of a file. A drive has no host. -/
def file? (text : List Char) : Option Url := do
  let near (text : List Char) : Url :=
    let (path, query, fragment) := splitTail text
    withTail "file" (some "") (hostPath "file" path) query fragment
  match text with
  | a :: b :: rest =>
    if !(isSlash true a && isSlash true b) then return near text
    else
      let host := rest.takeWhile fun c => !endsAuthority true c
      let behind := rest.drop host.length
      if host.isEmpty then return near behind
      else if HostSegments.isDrive (String.ofList host) then return near rest
      else
        let name ← Host.ofText? host
        let (path, query, fragment) := splitTail behind
        let hasDrive := beginsWithDrive (path.drop 1)
        let name := if name = "localhost" || hasDrive then "" else name
        return withTail "file" (some name) (hostPath "file" path) query fragment
  | text => return near text

/-- The locator of a scheme that is not well known. A path that would look like an authority has a
dot in front. -/
def other? (scheme : String) (text : List Char) : Option Url :=
  match text with
  | '/' :: '/' :: rest => afterSlashes? scheme rest
  | text =>
    let (path, query, fragment) := splitTail text
    let path :=
      match path with
      | '/' :: rest =>
        let path := normalPath scheme rest
        if path.startsWith "//" then "/." ++ path else path
      | path => String.ofList (percentEncoded "" path)
    some (withTail scheme none path query fragment)

/-- Reads a locator. Blanks and control characters at the ends do not count, nor do line ends and
tabs. -/
def ofText? (text : String) : Option Url :=
  let text := Numeral.trimmed (fun c => c.toNat ≤ 0x20) text.toList
  let text := text.filter fun c => !(c = '\t' || c = '\r' || c = '\n')
  let name := text.takeWhile UriReference.isSchemeChar
  let scheme := String.ofList (name.map Char.toLower)
  match text.drop name.length with
  | ':' :: rest =>
    if !name.head?.any Char.isAlpha then none
    else if scheme = "file" then file? rest
    else if isSpecial scheme then afterSlashes? scheme (rest.dropWhile (isSlash true))
    else other? scheme rest
  | _ => none

/-- The usual text of a locator. -/
def normalText (text : String) : Except Fault String :=
  match ofText? text with
  | some url => .ok url.text
  | none => .error (.other "ValidationError" s!"1 validation error: {quoted text} is no URL")

end Url

end ModelSchema
