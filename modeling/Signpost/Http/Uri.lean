/-! Request targets. A target is a path with an optional query, a star, an authority alone,
or an absolute address. Nothing is decoded, and a fragment is dropped. -/
namespace Signpost.Http

structure Uri where
  path : String
  query : Option String
  deriving DecidableEq, Repr

namespace Uri

def isPathChar (c : Char) : Bool :=
  c.isAlphanum || 128 ≤ c.toNat || "!$%&'()*+,-./:;=@[\\]^_|~\"\x7b\x7d".toList.contains c

/- A query may hold question marks and grave accents, but no quotes. -/
def isQueryChar (c : Char) : Bool :=
  c == '?' || c == '\x60' || (isPathChar c && c != '"')

def isSchemeChar (c : Char) : Bool := c.isAlphanum || c == '+' || c == '-' || c == '.' || c == '~'

def schemeLimit : Nat := 64

/- Bytes of a whole target. -/
def sizeLimit : Nat := 65534

def pathAndQuery? (cs : List Char) : Option (List Char × Option (List Char)) :=
  let cs := cs.takeWhile (· != '#')
  let path := cs.takeWhile (· != '?')
  if path.all isPathChar then
    match cs.dropWhile (· != '?') with
    | [] => some (path, none)
    | _ :: query => if query.all isQueryChar then some (path, some query) else none
  else none

/- What was seen of an authority: colons since the user part, brackets, and whether a
percent sign stands outside the user part and the brackets. -/
structure AuthorityState where
  colons : Nat := 0
  opened : Bool := false
  closed : Bool := false
  percent : Bool := false
  deriving DecidableEq, Repr

def colonLimit : Nat := 8

def isHostChar (c : Char) : Bool :=
  c.isAlphanum || "!$&'()*+,-.;=_~".toList.contains c

def AuthorityState.next? (s : AuthorityState) (c : Char) : Option AuthorityState :=
  match c with
  | ':' => if s.colons < colonLimit then some { s with colons := s.colons + 1 } else none
  | '[' => if s.percent || s.opened then none else some { s with opened := true }
  | ']' =>
    if s.opened && !s.closed then some { s with closed := true, colons := 0, percent := false }
    else none
  | '@' => some { s with colons := 0, percent := false }
  | '%' => some { s with percent := true }
  | c => if isHostChar c then some s else none

def isAuthority (cs : List Char) : Bool :=
  match cs.foldlM AuthorityState.next? {} with
  | none => false
  | some s => s.opened == s.closed && s.colons ≤ 1 && !s.percent && cs.getLast? != some '@'

def endsAuthority (c : Char) : Bool := c == '/' || c == '?' || c == '#'

def scheme? (cs : List Char) : Option (List Char × List Char) :=
  match cs.dropWhile isSchemeChar with
  | ':' :: '/' :: '/' :: rest => some (cs.takeWhile isSchemeChar, rest)
  | _ => none

def parse? (s : String) : Option Uri :=
  let make (p : List Char × Option (List Char)) : Uri :=
    ⟨String.ofList p.1, p.2.map String.ofList⟩
  let cs := s.toList
  if sizeLimit < s.utf8ByteSize then none
  else match cs with
    | [] => none
    | ['*'] => some ⟨"*", none⟩
    | '/' :: _ => (pathAndQuery? cs).map make
    | _ =>
      match scheme? cs with
      | none => if isAuthority cs then some ⟨"", none⟩ else none
      | some (scheme, rest) =>
        let authority := rest.takeWhile (!endsAuthority ·)
        if schemeLimit < scheme.length || authority.isEmpty || !isAuthority authority then none
        else (pathAndQuery? (rest.dropWhile (!endsAuthority ·))).map fun (path, query) =>
          make (if path.isEmpty then ['/'] else path, query)

end Uri
end Signpost.Http
