import ThemeBlocks.Text.Class
import ThemeBlocks.Web.Host

/-! URLs. A scheme is *special* if URLs of it always have a host, a path of segments and, most often, a
default port; of these, `file` alone may do without a host. `ofText` reads a URL that stands on its own,
`render` writes it in its normal form. -/

namespace ThemeBlocks.Web

inductive UrlPath
  | plain (text : String)
  | segments (list : List String)
  deriving Repr, DecidableEq, Inhabited

structure Authority where
  user : String := ""
  password : Option String := none
  host : Host
  port : Option Nat := none
  deriving Repr, DecidableEq, Inhabited

structure Url where
  scheme : String
  authority : Option Authority := none
  path : UrlPath
  query : Option String := none
  fragment : Option String := none
  deriving Repr, DecidableEq, Inhabited

namespace Url

inductive SchemeKind
  | file
  | special
  | plain
  deriving DecidableEq

def kindOf (scheme : String) : SchemeKind :=
  if scheme = "file" then .file
  else if ["http", "https", "ws", "wss", "ftp"].contains scheme then .special
  else .plain

def defaultPort : String → Option Nat
  | "http" | "ws" => some 80
  | "https" | "wss" => some 443
  | "ftp" => some 21
  | _ => none

def Authority.renderUser (authority : Authority) : String :=
  match authority.password with
  | some password => authority.user ++ ":" ++ password ++ "@"
  | none => if authority.user.isEmpty then "" else authority.user ++ "@"

def Authority.render (authority : Authority) : String :=
  "//" ++ Authority.renderUser authority ++ authority.host.render ++
    (authority.port.map fun port => ":" ++ toString port).getD ""

/-- Without a host, a path must not look like one. -/
def renderPath (hasAuthority : Bool) : UrlPath → String
  | .plain text => text
  | .segments list =>
    let body := String.join (list.map ("/" ++ ·))
    if !hasAuthority && 1 < list.length && list.head? = some "" then "/." ++ body else body

def render (url : Url) : String :=
  url.scheme ++ ":" ++ (url.authority.map Authority.render).getD "" ++
    renderPath url.authority.isSome url.path ++
    (url.query.map ("?" ++ ·)).getD "" ++ (url.fragment.map ("#" ++ ·)).getD ""

def requestTarget (url : Url) : String :=
  renderPath true url.path ++ (url.query.map ("?" ++ ·)).getD ""

def withoutUser (url : Url) : Url :=
  { url with authority := url.authority.map fun a => { a with user := "", password := none } }

def isSchemeChar (c : Char) : Bool :=
  Text.isAsciiAlphanumeric c || c = '+' || c = '-' || c = '.'

def splitScheme (text : List Char) : Option (String × List Char) :=
  match text with
  | [] => none
  | c :: _ =>
    if Text.isAsciiLetter c then
      match text.dropWhile isSchemeChar with
      | ':' :: rest => some (.ofList ((text.takeWhile isSchemeChar).map Text.lowered), rest)
      | _ => none
    else none

def isSlash (kind : SchemeKind) (c : Char) : Bool :=
  c = '/' || (kind ≠ .plain && c = '\\')

def endsPath (c : Char) : Bool := c = '?' || c = '#'

def endsAuthority (kind : SchemeKind) (c : Char) : Bool := isSlash kind c || endsPath c

def splitSlashes (kind : SchemeKind) : List Char → List (List Char)
  | [] => [[]]
  | c :: rest =>
    if isSlash kind c then [] :: splitSlashes kind rest
    else
      match splitSlashes kind rest with
      | [] => [[c]]
      | piece :: pieces => (c :: piece) :: pieces

def plainDots : List Char → List Char
  | '%' :: '2' :: c :: rest =>
    if c = 'e' ∨ c = 'E' then '.' :: plainDots rest else '%' :: plainDots ('2' :: c :: rest)
  | c :: rest => c :: plainDots rest
  | [] => []

def isDriveLetter : List Char → Bool
  | [c, d] => Text.isAsciiLetter c && (d = ':' || d = '|')
  | _ => false

def isNormalDriveLetter (segment : String) : Bool :=
  isDriveLetter segment.toList && segment.toList.getLast? = some ':'

/-- Goes up one segment; a drive letter at the start stays. The segments are in reverse. -/
def goUp (kind : SchemeKind) : List String → List String
  | [] => []
  | [segment] => if kind = .file && isNormalDriveLetter segment then [segment] else []
  | _ :: rest => rest

/-- Adds the raw segments one by one to those already taken, which are in reverse. -/
def walk (kind : SchemeKind) : List (List Char) → List String → List String
  | [], taken => taken
  | raw :: rest, taken =>
    let close (taken : List String) := if rest.isEmpty then "" :: taken else taken
    let segment := plainDots raw
    if segment = ['.', '.'] then walk kind rest (close (goUp kind taken))
    else if segment = ['.'] then walk kind rest (close taken)
    else if kind = .file ∧ taken.isEmpty ∧ isDriveLetter raw then
      walk kind rest [.ofList (raw.take 1 ++ [':'])]
    else walk kind rest (.ofList (Percent.encode Percent.pathMarks raw) :: taken)

def dropVoid : List String → List String
  | "" :: segment :: rest => dropVoid (segment :: rest)
  | segments => segments

def pathOf (kind : SchemeKind) (text : List Char) : UrlPath :=
  let segments := (walk kind (splitSlashes kind text) []).reverse
  .segments (if kind = .file then dropVoid segments else segments)

def dropSlash (kind : SchemeKind) : List Char → List Char
  | [] => []
  | c :: rest => if isSlash kind c then rest else c :: rest

/-- The path after an authority. A plain scheme may have none. -/
def pathAfterAuthority (kind : SchemeKind) (text : List Char) : UrlPath :=
  if kind = .plain ∧ text.isEmpty then .segments [] else pathOf kind (dropSlash kind text)

def textUpTo (stop : Char → Bool) (text : List Char) : List Char × List Char :=
  (text.takeWhile (!stop ·), text.dropWhile (!stop ·))

def encoded (marks : Percent.Marks) (text : List Char) : String :=
  .ofList (Percent.encode marks text)

def tailOf (kind : SchemeKind) (text : List Char) : Option String × Option String :=
  let fragmentOf : List Char → Option String
    | '#' :: fragment => some (encoded Percent.fragmentMarks fragment)
    | _ => none
  match text with
  | '?' :: rest =>
    let (query, fragment) := textUpTo (· = '#') rest
    let marks := if kind = .plain then Percent.queryMarks else Percent.specialQueryMarks
    (some (encoded marks query), fragmentOf fragment)
  | _ => (none, fragmentOf text)

def withTail (kind : SchemeKind) (url : Url) (text : List Char) : Url :=
  let (query, fragment) := tailOf kind text
  { url with query, fragment }

def splitUser (text : List Char) : Option (List Char × List Char) :=
  let after := (text.reverse.takeWhile (· ≠ '@')).reverse
  if after.length < text.length then some (text.take (text.length - after.length - 1), after)
  else none

/-- A user's name, and the password after the first colon unless it is empty. -/
def credentialsOf (text : List Char) : String × Option String :=
  let (user, rest) := textUpTo (· = ':') text
  let password := rest.drop 1
  (encoded Percent.userMarks user,
    if password.isEmpty then none else some (encoded Percent.userMarks password))

def splitHost (inBrackets : Bool) : List Char → List Char × Option (List Char)
  | [] => ([], none)
  | c :: rest =>
    if c = ':' ∧ !inBrackets then ([], some rest)
    else
      let (host, port) := splitHost (if c = '[' then true else if c = ']' then false else inBrackets) rest
      (c :: host, port)

/-- A port of decimal digits; the scheme's own port is left out, as is an empty one. -/
def portOf (scheme : String) (text : List Char) : Except UrlError (Option Nat) :=
  if text.all Text.isAsciiDigit then
    let port := text.foldl (fun n c => 10 * n + (c.toNat - 48)) 0
    if 65535 < port then .error .badPort
    else if text.isEmpty ∨ some port = defaultPort scheme then .ok none
    else .ok (some port)
  else .error .badPort

def authorityOf (scheme : String) (kind : SchemeKind) (text : List Char) (more : List Char) :
    Except UrlError Authority := do
  let (user, password, rest) ←
    match splitUser text with
    | none => .ok ("", none, text)
    | some ([], rest) => if rest.isEmpty ∧ !more.isEmpty then .error .emptyHost else .ok ("", none, rest)
    | some (user, rest) =>
      let (user, password) := credentialsOf user
      .ok (user, password, rest)
  let (hostText, portText) := splitHost false rest
  if kind ≠ .plain ∧ hostText.isEmpty then .error .emptyHost
  else
    let host ← if kind = .plain then Host.ofPlainText hostText else Host.ofText hostText
    if host.isEmpty ∧ portText.isSome then .error .emptyHost
    else
      let port ← portOf scheme (portText.getD [])
      if host.isEmpty ∧ (!user.isEmpty ∨ password.isSome) then .error .emptyHost
      else .ok { user, password, host, port }

def ofAuthority (scheme : String) (kind : SchemeKind) (text : List Char) : Except UrlError Url := do
  let (body, rest) := textUpTo (endsAuthority kind) text
  let authority ← authorityOf scheme kind body rest
  let (path, tail) := textUpTo endsPath rest
  .ok (withTail kind
    { scheme, authority := some authority, path := pathAfterAuthority kind path } tail)

def fileHost (text : List Char) : Except UrlError (Host × List Char) :=
  let (host, rest) := textUpTo (endsAuthority .file) text
  if isDriveLetter host then .ok (.name "", text)
  else if host.isEmpty then .ok (.name "", rest)
  else do
    let host ← Host.ofText host
    .ok (if host = .name "localhost" then .name "" else host, rest)

def startsWithDrive : UrlPath → Bool
  | .segments (segment :: _) => isNormalDriveLetter segment
  | _ => false

def ofFile (text : List Char) : Except UrlError Url := do
  let (host, rest) ←
    match text with
    | c :: d :: rest =>
      if isSlash .file c && isSlash .file d then fileHost rest else .ok (.name "", text)
    | _ => .ok (.name "", text)
  let (body, tail) := textUpTo endsPath rest
  let path := pathOf .file (dropSlash .file body)
  let host := if startsWithDrive path then .name "" else host
  .ok (withTail .file { scheme := "file", authority := some { host }, path } tail)

def ofPlain (scheme : String) (text : List Char) : Except UrlError Url :=
  match text with
  | '/' :: '/' :: rest => ofAuthority scheme .plain rest
  | '/' :: rest =>
    let (body, tail) := textUpTo endsPath rest
    .ok (withTail .plain { scheme, path := pathOf .plain body } tail)
  | _ =>
    let (body, tail) := textUpTo endsPath text
    .ok (withTail .plain { scheme, path := .plain (encoded [] body) } tail)

/-- Control characters and spaces around a URL are dropped, tabs and line ends inside it too. -/
def clean (text : String) : List Char :=
  (Text.trimWhere (· ≤ ' ') text.toList).filter fun c => c ≠ '\t' && c ≠ '\n' && c ≠ '\r'

def ofText (text : String) : Except UrlError Url :=
  match splitScheme (clean text) with
  | none => .error .noBase
  | some (scheme, rest) =>
    match kindOf scheme with
    | .file => ofFile rest
    | .special => ofAuthority scheme .special (rest.dropWhile (isSlash .special))
    | .plain => ofPlain scheme rest

end Url

end ThemeBlocks.Web
