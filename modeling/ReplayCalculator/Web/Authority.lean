import ReplayCalculator.Decimal.Numeral
import ReplayCalculator.Text.AsciiForm
import ReplayCalculator.Text.Hexadecimal
import ReplayCalculator.Text.Punycode

/-!
# Authorities of URLs

The authority of a URL names a host, perhaps with a user and a password in front and a port behind.
It has a normal form: the host is in ASCII and its letters are small up to a percent sign; a port is
a number without zeros in front, and port zero is no port; a user or a password that is empty is
left out, and otherwise is in ASCII too.
-/

namespace ReplayCalculator.Web

/-- The parts of an authority. What is missing is empty. -/
structure Authority where
  user : List Char := []
  password : List Char := []
  host : List Char
  port : List Char := []
  deriving DecidableEq, Repr

namespace Authority

/-- What stands before the first separator, and what behind it; nothing is behind a separator that
is not there. -/
def splitFirst (separator : Char) (cs : List Char) : List Char × List Char :=
  (cs.takeWhile (· != separator), (cs.dropWhile (· != separator)).drop 1)

/-- What stands before the last separator, and what behind it; nothing is before a separator that is
not there. -/
def splitLast (separator : Char) (cs : List Char) : List Char × List Char :=
  let (behind, before) := splitFirst separator cs.reverse
  (before.reverse, behind.reverse)

/-- The host and the port of an authority. Brackets may enclose a host with colons. -/
def splitHost (cs : List Char) : List Char × List Char :=
  if cs.contains '[' then
    let (host, rest) := splitFirst ']' (splitFirst '[' cs).2
    (host, (splitFirst ':' rest).2)
  else splitFirst ':' cs

/-- The authority that is written in a URL. -/
def ofChars (cs : List Char) : Authority :=
  let (credentials, place) := splitLast '@' cs
  let (user, password) := splitFirst ':' credentials
  let (host, port) := splitHost place
  { user, password, host, port }

/-- Whether a character separates the labels of a host. -/
def isDot (c : Char) : Bool := c == '.' || c == '\u3002' || c == '\uFF0E' || c == '\uFF61'

/-- The labels of a host. -/
def labels : List Char → List (List Char)
  | [] => [[]]
  | c :: rest =>
    if isDot c then [] :: labels rest
    else
      match labels rest with
      | [] => [[c]]
      | l :: ls => (c :: l) :: ls

/-- Whether a text is in ASCII. -/
def isAscii (cs : List Char) : Bool := cs.all (·.toNat < 0x80)

/-- A label in ASCII. A label that is in ASCII stays as it is; another one takes the ASCII forms of
its characters, and Punycode where they do not suffice. -/
def asciiLabel (label : List Char) : List Char :=
  if isAscii label then label
  else
    let form := Text.preferAscii label
    if isAscii form then form else "xn--".toList ++ Punycode.encode form

/-- The host in ASCII, with small letters up to a percent sign. -/
def asciiHost (host : List Char) : List Char :=
  let name := host.takeWhile (· != '%')
  let lower := name.map Char.toLower ++ host.dropWhile (· != '%')
  if isAscii lower then lower
  else (((labels lower).map asciiLabel).intersperse ['.']).flatten

/-- The host with brackets if it has colons. -/
def bracketed (host : List Char) : List Char :=
  if host.contains ':' then '[' :: (host ++ [']']) else host

/-- The port as it stands behind a host. A port that is no number stays as it is. -/
def normalPort (port : List Char) : List Char :=
  if port.all Numeral.isDigit then
    let n := Nat.ofDigitChars 10 port 0
    if n = 0 then [] else ':' :: Nat.toDigits 10 n
  else ':' :: port

/-- Whether a character of ASCII may stand in the name of a user as it is. -/
def isUserChar (c : Char) : Bool := c.isAlphanum || "_.-~%!$&'()*+,;=".contains c

/-- A byte of the name of a user as it is written. -/
def encodeByte (byte : UInt8) : List Char :=
  let c := Char.ofNat byte.toNat
  if isUserChar c then [c] else '%' :: (Text.hexDigits 2 byte.toNat).map Char.toUpper

/-- The name of a user as it is written: bytes with a meaning of their own, and those beyond ASCII,
by a percent sign and two digits. -/
def encodeUser (cs : List Char) : List Char := (String.ofList cs).toUTF8.toList.flatMap encodeByte

/-- User and password as they stand in front of a host. -/
def normalCredentials (authority : Authority) : List Char :=
  if authority.user.isEmpty then []
  else
    let user := encodeUser authority.user
    if authority.password.isEmpty then user ++ ['@']
    else user ++ ':' :: encodeUser authority.password ++ ['@']

/-- The normal form of an authority. -/
def normal (authority : Authority) : List Char :=
  authority.normalCredentials ++ bracketed (asciiHost authority.host) ++
    normalPort authority.port

/-- The longest label that the name of a host may have. -/
def labelLimit : Nat := 63

/-- Whether a text is the name of a host as far as its labels go: none is too long, and only the
last one may be empty. -/
def isHostName (name : List Char) : Bool :=
  let ls := labels name
  ls.all (·.length ≤ labelLimit) && ls.dropLast.all fun l => !l.isEmpty

/-- Whether a server takes an authority for its host. It looks at what stands before the first
colon, and takes a user for a part of the first label. -/
def isServed (authority : Authority) : Bool :=
  isHostName (authority.normal.takeWhile (· != ':'))

end Authority

end ReplayCalculator.Web
