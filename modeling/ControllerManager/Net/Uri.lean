/-!
# Addresses of servers and resources

The part of the syntax of resource identifiers that the manager accepts: an absolute address
with a scheme, an authority, a path and a query; an authority alone; or a path with a query. A
fragment is read and dropped.

## Main definitions

* `Net.Uri` — an address in one of the three forms.
* `Net.Uri.parse` — the address that a text denotes.
* `Net.Uri.print` — the printed form.
* `Net.Uri.host?` — the name or address of the host inside the authority.
-/

namespace ControllerManager.Net

/-- Why a text is not an address. -/
inductive UriFault where
  | tooLong
  | empty
  | invalidCharacter
  | invalidAuthority
  | invalidFormat
  | schemeTooLong
  deriving Repr, DecidableEq

/-- The wording of a fault. -/
def UriFault.message : UriFault → String
  | .tooLong => "uri too long"
  | .empty => "empty string"
  | .invalidCharacter => "invalid uri character"
  | .invalidAuthority => "invalid authority"
  | .invalidFormat => "invalid format"
  | .schemeTooLong => "scheme too long"

/-- A path with an optional query. The path is kept as it is printed. -/
structure PathQuery where
  path : List Char
  query : Option (List Char)
  deriving Repr, DecidableEq

/-- An address: absolute, an authority alone, or a path with a query. -/
inductive Uri where
  | absolute (scheme auth : List Char) (target : PathQuery)
  | authority (auth : List Char)
  | relative (target : PathQuery)
  deriving Repr, DecidableEq

namespace Uri

/-- Letters and digits of ASCII. -/
def isWordChar (c : Char) : Bool := c.isAlphanum

/-- The characters of a scheme. -/
def isSchemeChar (c : Char) : Bool := isWordChar c || ['+', '-', '.', '~'].contains c

/-- The characters of an authority, percent signs apart. -/
def isAuthorityChar (c : Char) : Bool :=
  isWordChar c || "!$&'()*+,-.:;=@[]_~".toList.contains c

/-- The characters of a path. -/
def isPathChar (c : Char) : Bool :=
  let n := c.toNat
  n == 0x21 || n == 0x22 || (0x24 ≤ n && n ≤ 0x3b) || n == 0x3d || (0x40 ≤ n && n ≤ 0x5f) ||
    (0x61 ≤ n && n ≤ 0x7e) || 0x80 ≤ n

/-- The characters of a query. -/
def isQueryChar (c : Char) : Bool :=
  let n := c.toNat
  n == 0x21 || (0x24 ≤ n && n ≤ 0x3b) || n == 0x3d || (0x3f ≤ n && n ≤ 0x7e) || 0x80 ≤ n

/-- The longest text in bytes. -/
def maxLength : Nat := 65534

/-- The longest scheme. -/
def maxSchemeLength : Nat := 64

/-- The most colons behind the last `@` or `]` while an authority is read. -/
def maxColons : Nat := 8

/-- A path with a query, from a text whose fragment is dropped. An empty path is the root. -/
def parsePathQuery (cs : List Char) : Except UriFault PathQuery :=
  let path := cs.takeWhile fun c => c != '?' && c != '#'
  let query :=
    match cs.drop path.length with
    | '?' :: rest => some (rest.takeWhile (· != '#'))
    | _ => none
  if path.all isPathChar && query.all (·.all isQueryChar) then
    .ok ⟨if path.isEmpty then ['/'] else path, query⟩
  else .error .invalidCharacter

/-- What has been seen of an authority: the colons and a percent sign since the last `@` or `]`,
the brackets, and whether the last character is an `@`. -/
structure AuthorityScan where
  colons : Nat
  bracketOpened : Bool
  bracketClosed : Bool
  percent : Bool
  endsInAt : Bool
  deriving Repr, DecidableEq

/-- The scan of nothing. -/
def AuthorityScan.start : AuthorityScan := ⟨0, false, false, false, false⟩

/-- The scan with one more character. -/
def AuthorityScan.step (s : AuthorityScan) (c : Char) : Except UriFault AuthorityScan :=
  let s := { s with endsInAt := false }
  match c with
  | ':' =>
    if maxColons ≤ s.colons then .error .invalidAuthority else .ok { s with colons := s.colons + 1 }
  | '[' =>
    if s.percent || s.bracketOpened then .error .invalidAuthority
    else .ok { s with bracketOpened := true }
  | ']' =>
    if !s.bracketOpened || s.bracketClosed then .error .invalidAuthority
    else .ok { s with bracketClosed := true, colons := 0, percent := false }
  | '@' => .ok { s with colons := 0, percent := false, endsInAt := true }
  | '%' => .ok { s with percent := true }
  | c => if isAuthorityChar c then .ok s else .error .invalidCharacter

/-- Whether the text read so far may end here: closed brackets, at most one colon before a port,
something behind an `@`, and no percent sign outside of brackets and user names. -/
def AuthorityScan.complete (s : AuthorityScan) : Bool :=
  s.bracketOpened == s.bracketClosed && s.colons ≤ 1 && !s.endsInAt && !s.percent

/-- The authority at the head of a text, and what follows it. It ends before the first slash,
question mark or number sign. -/
def readAuthority (cs : List Char) : Except UriFault (List Char × List Char) :=
  if cs.isEmpty then .error .empty
  else do
    let auth := cs.takeWhile fun c => c != '/' && c != '?' && c != '#'
    let scan ← auth.foldlM AuthorityScan.step AuthorityScan.start
    if scan.complete then .ok (auth, cs.drop auth.length) else .error .invalidAuthority

/-- What follows `p` at the head of a text, where the letters of ASCII match in both cases. -/
def stripIgnoringCase? (p cs : List Char) : Option (List Char) :=
  if (cs.take p.length).map Char.toLower == p then some (cs.drop p.length) else none

/-- The scheme at the head of a text, and what follows `://`. The two common schemes are taken in
any case and kept in lower case, every other one as it stands. -/
def readScheme (cs : List Char) : Except UriFault (Option (List Char) × List Char) :=
  match stripIgnoringCase? "http://".toList cs with
  | some rest => .ok (some "http".toList, rest)
  | none =>
    match stripIgnoringCase? "https://".toList cs with
    | some rest => .ok (some "https".toList, rest)
    | none =>
      let scheme := cs.takeWhile isSchemeChar
      match cs.drop scheme.length with
      | ':' :: '/' :: '/' :: rest =>
        if scheme.isEmpty && rest.isEmpty then .ok (none, cs)
        else if maxSchemeLength < scheme.length then .error .schemeTooLong
        else .ok (some scheme, rest)
      | _ => .ok (none, cs)

/-- The address that a text without a leading slash denotes. -/
def parseFull (cs : List Char) : Except UriFault Uri := do
  let (scheme, rest) ← readScheme cs
  let (auth, rest) ← readAuthority rest
  match scheme with
  | none => if rest.isEmpty then .ok (.authority auth) else .error .invalidFormat
  | some scheme =>
    if auth.isEmpty then .error .invalidFormat
    else return .absolute scheme auth (← parsePathQuery rest)

/-- The address that a text denotes. -/
def parse (s : String) : Except UriFault Uri :=
  if maxLength < s.utf8ByteSize then .error .tooLong
  else
    match s.toList with
    | [] => .error .empty
    | ['*'] => .ok (.relative ⟨['*'], none⟩)
    | '/' :: cs => return .relative (← parsePathQuery ('/' :: cs))
    | ['?'] | ['#'] => .error .invalidCharacter
    | cs => parseFull cs

/-- The path with the query. -/
def target : Uri → PathQuery
  | .absolute _ _ target => target
  | .authority _ => ⟨[], none⟩
  | .relative target => target

/-- The authority. -/
def authority? : Uri → Option (List Char)
  | .absolute _ auth _ => some auth
  | .authority auth => some auth
  | .relative _ => none

/-- The scheme. -/
def scheme? : Uri → Option (List Char)
  | .absolute scheme _ _ => some scheme
  | _ => none

/-- What follows the last `@` of an authority. -/
def hostPort (auth : List Char) : List Char :=
  (auth.reverse.takeWhile (· != '@')).reverse

/-- The name or address of the host: in brackets, or up to the first colon. -/
def host? (u : Uri) : Option (List Char) :=
  u.authority?.map fun auth =>
    match hostPort auth with
    | '[' :: rest => '[' :: rest.takeWhile (· != ']') ++ [']']
    | rest => rest.takeWhile (· != ':')

end Uri

/-- The printed form of a path with a query. -/
def PathQuery.print (t : PathQuery) : List Char :=
  t.path ++ (t.query.map ('?' :: ·)).getD []

/-- The printed form of an address. -/
def Uri.print : Uri → List Char
  | .absolute scheme auth target => scheme ++ "://".toList ++ auth ++ target.print
  | .authority auth => auth
  | .relative target => target.print

/-- The printed form of an address as a text. -/
def Uri.toText (u : Uri) : String := String.ofList u.print

end ControllerManager.Net
