/-
# URI references

Whether a text is a URI reference in the generic grammar of URIs, and whether it names its
scheme.  A byte may be escaped wherever a tilde may stand, so escapes are read as tildes
first; what is left is told by classes of ASCII characters.
-/
import StructuredText.Text.Numeral

namespace StructuredText.Xml

/-- The two kinds of references. -/
inductive UriReference
  /-- It begins with a scheme. -/
  | absolute
  /-- It is understood from where it stands. -/
  | relative
deriving DecidableEq

namespace UriReference

/-- The text with a tilde for each escaped byte. -/
def foldEscapes : Text → Text
  | percent :: a :: b :: rest =>
    if percent = '%' ∧ a.hexValue?.isSome ∧ b.hexValue?.isSome then '~' :: foldEscapes rest
    else percent :: foldEscapes (a :: b :: rest)
  | t => t

/-! ## Classes -/

/-- A letter, digit or mark without a meaning of its own. -/
def isUnreserved (c : CodePoint) : Bool :=
  c.isAsciiLetter || c.isDigit || ("-._~" : Text).contains c

/-- A mark that may part the pieces of a component. -/
def isSubDelimiter (c : CodePoint) : Bool := ("!$&'()*+,;=" : Text).contains c

/-- What the name of a host is made of. -/
def isHostPart (c : CodePoint) : Bool := isUnreserved c || isSubDelimiter c

/-- What a path is made of between its slashes. -/
def isSegmentPart (c : CodePoint) : Bool := isHostPart c || c == ':' || c == '@'

/-- What a path is made of. -/
def isPathPart (c : CodePoint) : Bool := isSegmentPart c || c == '/'

/-- What a query is made of. -/
def isQueryPart (c : CodePoint) : Bool := isPathPart c || c == '?'

/-- What a fragment is made of. -/
def isFragmentPart (c : CodePoint) : Bool := isQueryPart c || c == '[' || c == ']'

/-- What follows in a scheme after its first letter. -/
def isSchemePart (c : CodePoint) : Bool :=
  c.isAsciiLetter || c.isDigit || c == '+' || c == '-' || c == '.'

/-! ## Components -/

/-- The greatest number of a port. -/
def maxPort : Nat := 2147483647

/-- What follows the port that may stand after a host, if it is a number. -/
def afterPort? : Text → Option Text
  | [] => some []
  | c :: rest =>
    if c = ':' then
      let digits := rest.takeWhile CodePoint.isDigit
      if digits.isEmpty || decide (maxPort < Text.digitsValue digits) then none
      else some (rest.dropWhile CodePoint.isDigit)
    else some (c :: rest)

/-- What follows the host, which may be anything between brackets. -/
def afterHost? : Text → Option Text
  | [] => some []
  | c :: rest =>
    if c = '[' then
      match rest.dropWhile fun (d : CodePoint) => d != ']' with
      | [] => none
      | _ :: rest => some rest
    else some ((c :: rest).dropWhile isHostPart)

/-- The text without the user that may be told before the host. -/
def withoutUser (t : Text) : Text :=
  match t.dropWhile fun (c : CodePoint) => isHostPart c || c == ':' with
  | [] => t
  | c :: rest => if c = '@' then rest else t

/-- What follows the two slashes, the authority and the path. -/
def afterAuthority? (t : Text) : Option Text := do
  let rest ← afterPort? (← afterHost? (withoutUser t))
  if rest.head? = some '/' then return rest.dropWhile isPathPart else return rest

/-- What follows the path and the authority that may stand before it. -/
def afterPath? (t : Text) : Option Text :=
  if Text.isPrefixOf "//" t then afterAuthority? (t.drop 2) else some (t.dropWhile isPathPart)

/-- Whether a text is nothing or a fragment behind its mark. -/
def isFragment : Text → Bool
  | [] => true
  | c :: rest => c == '#' && rest.all isFragmentPart

/-- Whether a text is nothing or a query and a fragment behind their marks. -/
def isQueryAndFragment : Text → Bool
  | [] => true
  | c :: rest => if c = '?' then isFragment (rest.dropWhile isQueryPart) else isFragment (c :: rest)

/-- Whether a text is a reference up to its scheme. -/
def isSchemeless (t : Text) : Bool := (afterPath? t).any isQueryAndFragment

/-- What follows the scheme and its colon. -/
def afterScheme? : Text → Option Text
  | [] => none
  | c :: rest =>
    if c.isAsciiLetter then
      match rest.dropWhile isSchemePart with
      | [] => none
      | d :: rest => if d = ':' then some rest else none
    else none

/-- The kind of a reference, if it is one.  Without a scheme, no colon may stand before the
first slash of the path. -/
def ofText? (t : Text) : Option UriReference :=
  let t := foldEscapes t
  match afterScheme? t with
  | some rest => if isSchemeless rest then some absolute else none
  | none =>
    let segment := t.takeWhile isSegmentPart
    if isSchemeless t ∧ (Text.isPrefixOf "//" t ∨ ¬ segment.contains (':' : CodePoint)) then
      some relative
    else none

end UriReference

end StructuredText.Xml
