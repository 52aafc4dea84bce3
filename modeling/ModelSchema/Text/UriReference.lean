import ModelSchema.Number.Digits
import ModelSchema.Text.Utf8

/-!
References to resources.

* `UriReference`: a reference in its parts. `UriReference.ofText?` reads one, `UriReference.text`
  writes it.
* `joinedUri?`: a reference seen from another one.
* `splitFragment?`: a reference and the fragment behind it.
* `percentDecoded`: a text in which `%` and two hexadecimal digits stand for a byte.

Only the text counts: nothing is looked up anywhere. A reference whose host has a bracket without
its counterpart is none.
-/

namespace ModelSchema

/-- A reference in its parts. An empty part is the same as a missing one. -/
structure UriReference where
  scheme : String
  authority : String
  path : String
  query : String
  fragment : String
  deriving DecidableEq, Repr, Inhabited

namespace UriReference

/-- Whether a character can stand in a scheme. -/
def isSchemeChar (c : Char) : Bool := c.isAlphanum || c = '+' || c = '-' || c = '.'

/-- The scheme in lower case and the text behind its colon. A scheme begins with a letter. -/
def splitScheme (text : List Char) : String × List Char :=
  let scheme := text.takeWhile isSchemeChar
  match scheme, text.drop scheme.length with
  | c :: _, ':' :: rest =>
    if c.isAlpha then (String.ofList (scheme.map Char.toLower), rest) else ("", text)
  | _, _ => ("", text)

/-- The authority behind two slashes and the rest of the text. -/
def splitAuthority : List Char → List Char × List Char
  | '/' :: '/' :: rest =>
    let authority := rest.takeWhile fun c => !(c = '/' || c = '?' || c = '#')
    (authority, rest.drop authority.length)
  | text => ([], text)

/-- The text in front of a character, and the text behind it. -/
def splitAtFirst (c : Char) (text : List Char) : List Char × List Char :=
  let before := text.takeWhile (· != c)
  (before, text.drop (before.length + 1))

/-- The parts of a reference. Line ends and tabs do not count, nor do blanks in front. -/
def ofText? (text : String) : Option UriReference :=
  let text := text.toList.dropWhile fun c => c.toNat ≤ 0x20
  let text := text.filter fun c => !(c = '\t' || c = '\r' || c = '\n')
  let (scheme, text) := splitScheme text
  let (authority, text) := splitAuthority text
  if authority.contains '[' != authority.contains ']' then none
  else
    let (text, fragment) := splitAtFirst '#' text
    let (path, query) := splitAtFirst '?' text
    some ⟨scheme, String.ofList authority, String.ofList path, String.ofList query,
      String.ofList fragment⟩

/-- The schemes behind which an authority can stand. -/
def hostSchemes : List String :=
  ["", "ftp", "http", "gopher", "nntp", "telnet", "imap", "wais", "file", "mms", "https", "shttp",
    "snews", "prospero", "rtsp", "rtsps", "rtspu", "rsync", "svn", "svn+ssh", "sftp", "nfs", "git",
    "git+ssh", "ws", "wss"]

/-- The schemes whose references can be relative. -/
def relativeSchemes : List String :=
  ["", "ftp", "http", "gopher", "nntp", "imap", "wais", "file", "https", "shttp", "mms", "prospero",
    "rtsp", "rtsps", "rtspu", "sftp", "svn", "svn+ssh", "ws", "wss"]

/-- The schemes whose last path segment can have parameters behind a semicolon. -/
def parameterSchemes : List String :=
  ["", "ftp", "hdl", "prospero", "http", "imap", "https", "shttp", "rtsp", "rtsps", "rtspu", "sip",
    "sips", "mms", "sftp", "tel"]

/-- The text of a reference. -/
def text (uri : UriReference) : String :=
  let hasHost :=
    !uri.authority.isEmpty || (!uri.scheme.isEmpty && hostSchemes.contains uri.scheme)
      || uri.path.startsWith "//"
  let path :=
    if !hasHost then uri.path
    else
      let slash := if uri.path.isEmpty || uri.path.startsWith "/" then "" else "/"
      "//" ++ uri.authority ++ slash ++ uri.path
  (if uri.scheme.isEmpty then "" else uri.scheme ++ ":") ++ path
    ++ (if uri.query.isEmpty then "" else "?" ++ uri.query)
    ++ (if uri.fragment.isEmpty then "" else "#" ++ uri.fragment)

/-- The path without the parameters of its last segment, and those parameters. -/
def splitParameters (uri : UriReference) : String × String :=
  if !parameterSchemes.contains uri.scheme then (uri.path, "")
  else
    let chars := uri.path.toList
    let last := (chars.reverse.takeWhile (· != '/')).reverse
    let (name, parameters) := splitAtFirst ';' last
    if last.contains ';' then
      (String.ofList (chars.take (chars.length - last.length) ++ name), String.ofList parameters)
    else (uri.path, "")

/-- The reference with another path, to which parameters belong. -/
def withPath (uri : UriReference) (path parameters : String) : UriReference :=
  { uri with path := if parameters.isEmpty then path else path ++ ";" ++ parameters }

/-- Goes through the segments of a path: two dots lead one segment back, one dot leads nowhere. -/
def resolvedSegments (segments : List String) : List String :=
  let walked := segments.foldl (fun walked segment =>
    if segment = ".." then walked.drop 1
    else if segment = "." then walked
    else segment :: walked) []
  let isDirectory := segments.getLast? = some "." || segments.getLast? = some ".."
  (if isDirectory then "" :: walked else walked).reverse

/-- Leaves out empty segments that are neither the first nor the last one. -/
def withoutInnerBlanks : List String → List String
  | [] => []
  | first :: rest =>
    first :: (rest.dropLast.filter (!·.isEmpty) ++ rest.getLast?.toList)

/-- A relative path seen from another path. -/
def joinedPath (base path : String) : String :=
  let directory := base.splitOn "/"
  let directory :=
    if directory.getLast? = some "" then directory else directory.dropLast
  let segments :=
    if path.startsWith "/" then path.splitOn "/"
    else withoutInnerBlanks (directory ++ path.splitOn "/")
  let joined := "/".intercalate (resolvedSegments segments)
  if joined.isEmpty then "/" else joined

end UriReference

/-- A reference seen from a base. -/
def joinedUri? (base reference : String) : Option String :=
  if base.isEmpty then some reference
  else if reference.isEmpty then some base
  else do
    let base ← UriReference.ofText? base
    let uri ← UriReference.ofText? reference
    let scheme := if uri.scheme.isEmpty then base.scheme else uri.scheme
    let uri := { uri with scheme }
    let (path, parameters) := uri.splitParameters
    if scheme != base.scheme || !UriReference.relativeSchemes.contains scheme then return reference
    else if UriReference.hostSchemes.contains scheme && !uri.authority.isEmpty then
      return (uri.withPath path parameters).text
    else
      let uri :=
        if UriReference.hostSchemes.contains scheme then { uri with authority := base.authority }
        else uri
      let (basePath, baseParameters) := base.splitParameters
      if path.isEmpty && parameters.isEmpty then
        let query := if uri.query.isEmpty then base.query else uri.query
        return ({ uri with query }.withPath basePath baseParameters).text
      else return (uri.withPath (UriReference.joinedPath basePath path) parameters).text

/-- A reference without its fragment, and the fragment. -/
def splitFragment? (reference : String) : Option (String × String) :=
  if !reference.toList.contains '#' then some (reference, "")
  else do
    let uri ← UriReference.ofText? reference
    let (path, parameters) := uri.splitParameters
    return (({ uri with fragment := "" }.withPath path parameters).text, uri.fragment)

/-! ### Percent signs -/

/-- The bytes of a text in which `%` and two hexadecimal digits stand for a byte. -/
def percentBytes : List Char → List UInt8
  | [] => []
  | '%' :: a :: b :: rest =>
    match hexDigit? a, hexDigit? b with
    | some high, some low => (high * 16 + low).toUInt8 :: percentBytes rest
    | _, _ => '%'.toNat.toUInt8 :: percentBytes (a :: b :: rest)
  | c :: rest => String.utf8EncodeChar c ++ percentBytes rest

/-- The text up to the next change between ASCII and other characters, for every such part. -/
def decodedRuns : Nat → List Char → List Char
  | 0, text => text
  | _, [] => []
  | fuel + 1, c :: rest =>
    let isAscii (d : Char) : Bool := d.toNat < 0x80
    let run := (c :: rest).takeWhile fun d => isAscii d = isAscii c
    let decoded := if isAscii c then (decodeUtf8Lossy (percentBytes run)).toList else run
    decoded ++ decodedRuns fuel ((c :: rest).drop run.length)

/-- A text with its percent signs undone. -/
def percentDecoded (text : String) : String :=
  String.ofList (decodedRuns text.length text.toList)

end ModelSchema
