import ReplayCalculator.Text.Hexadecimal
import ReplayCalculator.Text.Utf8
import ReplayCalculator.Web.Authority

/-!
# Targets of requests

The target of a request is a path, up to a query or a fragment, or a whole URL. Of that the path
counts, whether its host has the form of one, and whether its scheme asks for a web socket. Bytes of
a path may be written as a percent sign with two digits in base sixteen; what they spell in UTF-8 is
part of the path, slashes included.
-/

namespace ReplayCalculator.Web.Target

/-- The target without the control characters and spaces in front and without tabs and line ends. -/
def clean (cs : List Char) : List Char :=
  (cs.dropWhile (·.toNat ≤ 0x20)).filter fun c => c != '\t' && c != '\r' && c != '\n'

/-- Whether a character may stand in the name of a scheme. -/
def isSchemeChar (c : Char) : Bool := c.isAlphanum || c == '+' || c == '-' || c == '.'

/-- The scheme of a target, if it has one: a name that starts with a letter and ends with a colon.
-/
def scheme? (cs : List Char) : Option (List Char) :=
  let name := cs.takeWhile isSchemeChar
  if name.head?.any Char.isAlpha && (cs.drop name.length).head? == some ':' then some name else none

/-- The target without its scheme. -/
def dropScheme (cs : List Char) : List Char :=
  match scheme? cs with
  | some name => cs.drop (name.length + 1)
  | none => cs

/-- Whether a character ends what names a host. -/
def endsAuthority (c : Char) : Bool := c == '/' || c == '?' || c == '#'

/-- The target without its authority, which follows two slashes and may be empty. -/
def dropAuthority : List Char → List Char
  | '/' :: '/' :: rest => rest.dropWhile fun c => !endsAuthority c
  | cs => cs

/-- The authority of a URL as it is written, empty if there is none. -/
def rawAuthority (cs : List Char) : List Char :=
  match dropScheme (clean cs) with
  | '/' :: '/' :: rest => rest.takeWhile fun c => !endsAuthority c
  | _ => []

/-- The path of a URL as it is written. -/
def rawPath (cs : List Char) : List Char :=
  (dropAuthority (dropScheme (clean cs))).takeWhile fun c => c != '?' && c != '#'

/-- The bytes of a path with the percent signs decoded. A percent sign without two digits stays. -/
def percentDecode : List UInt8 → List UInt8
  | [] => []
  | 0x25 :: a :: b :: rest =>
    match Text.hexValue? (Char.ofNat a.toNat), Text.hexValue? (Char.ofNat b.toNat) with
    | some high, some low => UInt8.ofNat (16 * high + low) :: percentDecode rest
    | _, _ => 0x25 :: percentDecode (a :: b :: rest)
  | a :: rest => a :: percentDecode rest

/-- The characters of a path with the percent signs decoded. -/
def decodePath (cs : List Char) : List Char :=
  Utf8.decodeLossy (percentDecode (String.ofList cs).toUTF8.toList)

/-- A path that starts with an authority, with the authority in normal form. Other paths stay as
they are. -/
def normalize (cs : List Char) : List Char :=
  match clean cs with
  | '/' :: '/' :: rest =>
    (Authority.ofChars (rest.takeWhile fun c => !endsAuthority c)).normal ++
      rest.dropWhile fun c => !endsAuthority c
  | cs => cs

/-- The path that a target names, with one slash in front. The path of a URL may have the form of
one again, and then the path of that counts. What starts with an authority even then is a path of
which the authority is the first part. -/
def path (target : String) : List Char :=
  '/' :: (decodePath (normalize (rawPath (rawPath target.toList)))).dropWhile (· == '/')

/-- Whether the host that a target names can be one. A target without a host is for the server
itself. -/
def hasHost (target : String) : Bool :=
  (Authority.ofChars (rawAuthority target.toList)).isServed

/-- Whether the scheme of a target asks for a web socket. -/
def asksForSocket (target : String) : Bool :=
  (scheme? (clean target.toList)).any fun name =>
    let word := String.ofList (name.map Char.toLower)
    word == "ws" || word == "wss"

end ReplayCalculator.Web.Target
