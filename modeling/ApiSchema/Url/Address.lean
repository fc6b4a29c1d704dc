import ApiSchema.Url.Host

/-!
Addresses, read from text and written in a normal form. Reading is lenient: white space around the
text and line breaks within it do not count, dots in the path are resolved, and characters that may
not stand for themselves are encoded.
-/

set_option autoImplicit false

namespace ApiSchema.Url

open ApiSchema.Text

/-- The path of an address: the names between slashes, or a text that is no hierarchy. -/
inductive Path where
  | names (names : List (List Char))
  | opaquePath (text : List Char)

/-- An address in its normal form. -/
structure Address where
  scheme : List Char
  user : List Char
  password : Option (List Char)
  host : Option (List Char)
  port : Option Nat
  path : Path
  query : Option (List Char)
  fragment : Option (List Char)

/-- The path as text; names follow a slash each. -/
def Path.chars : Path → List Char
  | .names parts => parts.flatMap fun name => '/' :: name
  | .opaquePath text => text

/-- The default port of each special scheme but that of files. -/
def defaultPorts : List (String × Nat) :=
  [("http", 80), ("https", 443), ("ws", 80), ("wss", 443), ("ftp", 21)]

def isFile (scheme : List Char) : Bool := scheme == "file".toList

/-- Whether the addresses of a scheme always have a host or a path, and take backslashes for
slashes. -/
def isSpecial (scheme : List Char) : Bool :=
  isFile scheme || (defaultPorts.lookup (String.ofList scheme)).isSome

/-- The scheme in lower case, and what follows its colon. -/
def splitScheme : List Char → Option (List Char × List Char)
  | [] => none
  | first :: rest =>
      let isSchemeChar (c : Char) : Bool := c.isAlphanum || c == '+' || c == '-' || c == '.'
      let name := first :: rest.takeWhile isSchemeChar
      match rest.dropWhile isSchemeChar with
      | ':' :: behind => if first.isAlpha then some (name.map Char.toLower, behind) else none
      | _ => none

/-- Whether a character ends the authority. -/
def endsAuthority (special : Bool) (c : Char) : Bool :=
  c == '/' || c == '?' || c == '#' || (special && c == '\\')

/-- The text before the last `@` of the authority, if there is one, and what follows. -/
def splitUser (special : Bool) (cs : List Char) : Option (List Char) × List Char :=
  let authority := cs.takeWhile fun c => !endsAuthority special c
  let behind := cs.dropWhile fun c => !endsAuthority special c
  match (splitChars (· == '@') authority).reverse with
  | [] | [_] => (none, cs)
  | host :: front => (some (List.intercalate ['@'] front.reverse), host ++ behind)

/-- The host at the start of an authority: it ends at a colon outside brackets. -/
def splitHost (special inBrackets : Bool) : List Char → List Char × List Char
  | [] => ([], [])
  | c :: rest =>
      if (c == ':' && !inBrackets) || endsAuthority special c then ([], c :: rest)
      else
        let inside := if c == '[' then true else if c == ']' then false else inBrackets
        let (host, behind) := splitHost special inside rest
        (c :: host, behind)

def readPort (standard : Option Nat) (cs : List Char) : Except UrlError (Option Nat × List Char) :=
  let digits := cs.takeWhile Char.isDigit
  let behind := cs.dropWhile Char.isDigit
  let port := digits.foldl (fun value c => value * 10 + (c.toNat - '0'.toNat)) 0
  if 65535 < port then .error .invalidPort
  else if !(behind.isEmpty || (behind.head?.any (endsAuthority true))) then .error .invalidPort
  else if digits.isEmpty || standard == some port then .ok (none, behind)
  else .ok (some port, behind)

def isSingleDot (name : List Char) : Bool :=
  (name.map Char.toLower) == ['.'] || (name.map Char.toLower) == "%2e".toList

def isDoubleDot (name : List Char) : Bool :=
  ["..", ".%2e", "%2e.", "%2e%2e"].contains (String.ofList (name.map Char.toLower))

/-- Whether a name is the letter of a drive: a letter, and a colon or a bar. -/
def isDriveLetter : List Char → Bool
  | [letter, mark] => letter.isAlpha && (mark == ':' || mark == '|')
  | _ => false

/-- The names of the directory above, the last one first. A drive is not left. -/
def leaveDirectory : List (List Char) → List (List Char)
  | [] => []
  | last :: above => if isDriveLetter last then last :: above else above

/-- The names of a path with dots resolved; `above` are the names before, the last one first. -/
def resolveDots (above : List (List Char)) : List (List Char) → List (List Char)
  | [] => above.reverse
  | [last] =>
      if isDoubleDot last then ([] :: leaveDirectory above).reverse
      else if isSingleDot last then ([] :: above).reverse
      else (last :: above).reverse
  | name :: rest =>
      if isDoubleDot name then resolveDots (leaveDirectory above) rest
      else if isSingleDot name then resolveDots above rest
      else resolveDots (name :: above) rest

/-- The names that the characters of a path behind its first slash write. -/
def pathNames (special : Bool) (cs : List Char) : List (List Char) :=
  let names := splitChars (fun c => c == '/' || (special && c == '\\')) cs
  resolveDots [] (names.map (percentEncode encodesInPath))

def splitPath (cs : List Char) : List Char × Option (List Char) × Option (List Char) :=
  let beforeFragment := cs.takeWhile (· != '#')
  let path := beforeFragment.takeWhile (· != '?')
  let query := (beforeFragment.dropWhile (· != '?')).tail?
  let fragment := (cs.dropWhile (· != '#')).tail?
  (path, query, fragment)

/-- The address with the path, the query and the fragment of a text. -/
def withTail (url : Address) (path : Path) (query fragment : Option (List Char)) : Address :=
  { url with
    path
    query := query.map (percentEncode (encodesInQuery (isSpecial url.scheme)))
    fragment := fragment.map (percentEncode encodesInFragment) }

def authorityNames (special : Bool) (path : List Char) : List (List Char) :=
  match path with
  | [] => if special then [[]] else []
  | c :: rest =>
      if c == '/' || (special && c == '\\') then pathNames special rest
      else pathNames special path

/-- The user name and the password, encoded. An empty password does not count. -/
def readUser (text : List Char) : List Char × Option (List Char) :=
  let user := text.takeWhile (· != ':')
  let password := text.drop (user.length + 1)
  (percentEncode encodesInUser user,
    if password.isEmpty then none else some (percentEncode encodesInUser password))

def readAuthority (url : Address) (cs : List Char) : Except UrlError Address := do
  let special := isSpecial url.scheme
  let (userText, behindUser) := splitUser special cs
  if userText == some [] && behindUser.head?.any (endsAuthority special) then throw .emptyHost
  let (user, password) := readUser (userText.getD [])
  let (hostText, behindHost) := splitHost special false behindUser
  if special && hostText.isEmpty then throw .emptyHost
  let host ← if special then specialHost hostText else opaqueHost hostText
  if host.isEmpty && (behindHost.head? == some ':' || !user.isEmpty || password.isSome) then
    throw .emptyHost
  let (port, behind) ←
    match behindHost with
    | ':' :: rest => readPort (defaultPorts.lookup (String.ofList url.scheme)) rest
    | _ => pure (none, behindHost)
  let (path, query, fragment) := splitPath behind
  return withTail { url with user, password, host := some host, port }
    (.names (authorityNames special path)) query fragment

/-- The address of a file on a host. Slashes at the start of its path count as one, and a path that
begins with a drive has no host. -/
def fileAddress (url : Address) (host text : List Char) : Address :=
  let (path, query, fragment) := splitPath text
  let names := authorityNames true path
  let drive := names.head?.any isDriveLetter
  let marked := if drive then names.modifyHead fun first => first.take 1 ++ [':'] else names
  let kept := marked.dropWhile List.isEmpty
  withTail { url with host := some (if drive then [] else host) }
    (.names (if kept.isEmpty then [[]] else kept)) query fragment

def readFile (url : Address) (cs : List Char) : Except UrlError Address := do
  let isSlash (c : Char) : Bool := c == '/' || c == '\\'
  match cs with
  | first :: second :: rest =>
      if isSlash first && isSlash second then
        let hostText := rest.takeWhile fun c => !endsAuthority true c
        if hostText.isEmpty || isDriveLetter hostText then
          return fileAddress url [] rest
        let host ← specialHost hostText
        let known := if host == "localhost".toList then [] else host
        return fileAddress url known (rest.dropWhile fun c => !endsAuthority true c)
      return fileAddress url [] cs
  | _ => return fileAddress url [] cs

def read (text : String) : Except UrlError Address :=
  let outer (c : Char) : Bool := c.toNat ≤ 0x20
  let trimmed := dropTrailing outer (text.toList.dropWhile outer)
  let cs := trimmed.filter fun c => !(c == '\t' || c == '\n' || c == '\r')
  match splitScheme cs with
  | none => .error .relative
  | some (scheme, behind) =>
      let blank : Address := ⟨scheme, [], none, none, none, .names [], none, none⟩
      if isFile scheme then readFile blank behind
      else if isSpecial scheme then
        readAuthority blank (behind.dropWhile fun c => c == '/' || c == '\\')
      else
        match behind with
        | '/' :: '/' :: rest => readAuthority blank rest
        | '/' :: rest =>
            let (path, query, fragment) := splitPath rest
            .ok (withTail blank (.names (pathNames false path)) query fragment)
        | _ =>
            let (path, query, fragment) := splitPath behind
            let kept := percentEncode isControlOrForeign path
            .ok (withTail blank (.opaquePath kept) query fragment)

namespace Address

/-- The user, the host and the port behind two slashes, if there is a host. -/
def authorityChars (url : Address) : List Char :=
  match url.host with
  | none => []
  | some host =>
      let password := (url.password.map fun password => ':' :: password).getD []
      let user := url.user ++ password
      ['/', '/'] ++ (if user.isEmpty then [] else user ++ ['@']) ++ host ++
        (url.port.map fun port => ':' :: (toString port).toList).getD []

/-- The path, set off from the scheme where it would be taken for a host. -/
def pathChars (url : Address) : List Char :=
  let path := url.path.chars
  if url.host.isNone && ['/', '/'].isPrefixOf path then ['/', '.'] ++ path else path

def text (url : Address) : String :=
  String.ofList (url.scheme ++ [':'] ++ url.authorityChars ++ url.pathChars ++
    (url.query.map fun query => '?' :: query).getD [] ++
    (url.fragment.map fun fragment => '#' :: fragment).getD [])

def pathText (url : Address) : String := String.ofList url.path.chars

/-- Whether the bytes that a text stands for are characters. -/
def isReadable (text : List Char) : Bool :=
  (String.fromUTF8? ⟨(percentDecode text).toArray⟩).isSome

/-- The address without a user, who is told apart from the address if the names are readable. -/
def withoutUser (url : Address) : Address :=
  let hasPassword := url.password.any isReadable
  if isReadable url.user && (!url.user.isEmpty || hasPassword) then
    { url with user := [], password := none }
  else url

def isWeb (url : Address) : Bool := url.scheme == "http".toList || url.scheme == "https".toList

end Address

end ApiSchema.Url
