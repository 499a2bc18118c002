import StarLens.Go.Strconv

/-! # Package net/url

`Parse`, with the parts of a URL this program looks at. Path, query, fragment
and user information only decide whether there is a URL. -/

namespace StarLens.Go

/-! ## Address literals -/

namespace Netip

def isIPv4 (text : List Char) : Bool :=
  let fields := text.splitOn '.'
  fields.length = 4 && fields.all fun field =>
    field != [] && field.all Char.isDigit && Nat.ofDigitChars 10 field 0 ≤ 255 &&
      (field.head? != some '0' || field.length = 1)

/-- An ellipsis stands for at least one of the free fields, and nothing else for any. -/
def complete (free : Nat) (ellipsis : Bool) : Bool := ellipsis = decide (0 < free)

/-- The loop of `parseIPv6`, with the number of fields that are free. -/
def isIPv6Fields : (free : Nat) → (ellipsis : Bool) → List Char → Bool
  | 0, _, _ => false
  | free + 1, ellipsis, text =>
      let isHex := fun char => (Strconv.hexDigit char).isSome
      let digits := text.takeWhile isHex
      if digits = [] || 4 < digits.length then false
      else
        match text.dropWhile isHex with
        | [] => complete free ellipsis
        | '.' :: _ =>
            (ellipsis || free = 1) && 1 ≤ free && isIPv4 text && complete (free - 1) ellipsis
        | [':', ':'] => !ellipsis && complete free true
        | ':' :: ':' :: rest => !ellipsis && isIPv6Fields free true rest
        | [':'] => false
        | ':' :: rest => isIPv6Fields free ellipsis rest
        | _ => false

def isIPv6 (text : List Char) : Bool :=
  text.dropWhile (· != '%') != ['%'] &&
    match text.takeWhile (· != '%') with
    | [':', ':'] => true
    | ':' :: ':' :: rest => isIPv6Fields 8 true rest
    | address => isIPv6Fields 8 false address

def parsesAsIPv6 (text : List Char) : Bool :=
  text.find? (fun char => char ∈ ['.', ':', '%']) = some ':' && isIPv6 text

end Netip

/-! ## URLs -/

structure URL where
  scheme : String
  host : String
deriving DecidableEq

namespace URL

def cut (separator : Char) (text : List Char) : List Char × List Char :=
  (text.takeWhile (· != separator), (text.dropWhile (· != separator)).drop 1)

def cutLast (separator : Char) (text : List Char) : Option (List Char × List Char) :=
  if separator ∈ text then
    let (suffix, rest) := cut separator text.reverse
    some (rest.reverse, suffix.reverse)
  else none

def isControl (char : Char) : Bool := char < ' ' || char = '\x7f'

/-- `unescape` succeeds: every percent sign starts an escape that `escape`
admits, and `plain` admits every other character. -/
def unescapes (escape : Nat → Nat → Bool) (plain : Char → Bool) : List Char → Bool
  | [] => true
  | '%' :: high :: low :: text =>
      match Strconv.hexDigit high, Strconv.hexDigit low with
      | some upper, some lower => escape upper lower && unescapes escape plain text
      | _, _ => false
  | char :: text => char != '%' && plain char && unescapes escape plain text

def unescapesPath : List Char → Bool := unescapes (fun _ _ => true) fun _ => true

def shouldEscapeHost (char : Char) : Bool :=
  char.toNat < 128 && !char.isAlphanum && char ∉ "!$&'()*+,;=:[]<>\"-_.~".toList

def unescapedBytes : List Char → List UInt8
  | [] => []
  | '%' :: high :: low :: text =>
      UInt8.ofNat (16 * (Strconv.hexDigit high).getD 0 + (Strconv.hexDigit low).getD 0) ::
        unescapedBytes text
  | char :: text => String.utf8EncodeChar char ++ unescapedBytes text

/-- A byte that starts no character is shown as U+FFFD, as encoding/json shows it.
The bytes that belong to the character before are skipped. -/
def decodeUTF8 : (skip : Nat) → List UInt8 → List Char
  | _, [] => []
  | skip + 1, _ :: bytes => decodeUTF8 skip bytes
  | 0, byte :: bytes =>
      match ByteArray.utf8DecodeChar? ⟨(byte :: bytes).toArray⟩ 0 with
      | some char => char :: decodeUTF8 (char.utf8Size - 1) bytes
      | none => '\ufffd' :: decodeUTF8 0 bytes

def unescape (unescapes : List Char → Bool) (text : List Char) : Option (List Char) :=
  if !unescapes text then none
  else if '%' ∈ text then some (decodeUTF8 0 (unescapedBytes text))
  else some text

/-- In a host only bytes outside ASCII, and the percent sign, are escaped. -/
def unescapesHost : List Char → Bool :=
  unescapes (fun high low => 8 ≤ high || (high = 2 && low = 5)) fun char =>
    !shouldEscapeHost char

def unescapesZone : List Char → Bool :=
  unescapes
    (fun high low => (high = 2 && low = 5) || (high = 2 && low = 0) ||
      (high < 8 && !shouldEscapeHost (Char.ofNat (16 * high + low))))
    fun char => !shouldEscapeHost char

def validOptionalPort : List Char → Bool
  | [] => true
  | char :: port => char = ':' && port.all Char.isDigit

def validUserinfo (userinfo : List Char) : Bool :=
  userinfo.all fun char => char.isAlphanum || char ∈ "-._:~!$&'()*+,;=%@".toList

def cutZone : List Char → List Char × List Char
  | [] => ([], [])
  | char :: text =>
      if "%25".toList.isPrefixOf (char :: text) then ([], char :: text)
      else
        let (address, zone) := cutZone text
        (char :: address, zone)

/-- Between brackets, an address that is not an IPv4 address. -/
def parseIPLiteral (literal port : List Char) : Option (List Char) := do
  if !validOptionalPort port then none
  let (address, zone) := cutZone literal
  let hostPart ← unescape unescapesHost address
  let zonePart ← unescape unescapesZone zone
  if !Netip.parsesAsIPv6 (hostPart ++ zonePart) then none
  return '[' :: (hostPart ++ zonePart) ++ ']' :: port

/-- A host of PostgreSQL may list several with their ports. -/
def parseHost (scheme : String) (host : List Char) : Option (List Char) :=
  if '[' ∈ host.drop 1 then none
  else if host.head? = some '[' then
    match cutLast ']' (host.drop 1) with
    | none => none
    | some (literal, port) => parseIPLiteral literal port
  else
    let port :=
      if scheme = "postgresql" || scheme = "postgres" then
        match cutLast ':' host with
        | none => []
        | some (_, port) => ':' :: port
      else host.dropWhile (· != ':')
    if validOptionalPort port then unescape unescapesHost host else none

/-- The host behind the user information, `none` when the authority is not
well formed. -/
def parseAuthority (scheme : String) (authority : List Char) : Option (List Char) :=
  match cutLast '@' authority with
  | none => parseHost scheme authority
  | some (userinfo, host) =>
      (parseHost scheme host).filter fun _ => validUserinfo userinfo && unescapesPath userinfo

def getScheme (text : List Char) : Option (List Char × List Char) :=
  let name := text.takeWhile fun char =>
    char.isAlphanum || char = '+' || char = '-' || char = '.'
  match name.head?, text.drop name.length with
  | none, ':' :: _ => none
  | some first, ':' :: rest =>
      some (if first.isAlpha then (name, rest) else ([], text))
  | _, _ => some ([], text)

/-- `parse` behind the removal of the fragment. -/
def parseReference (text : List Char) : Option URL :=
  if text.any isControl then none
  else if text = ['*'] then some { scheme := "", host := "" }
  else
    match getScheme text with
    | none => none
    | some (name, body) =>
        let scheme := String.ofList (name.map Char.toLower)
        let rest := (cut '?' body).1
        if rest.head? != some '/' then
          if name ≠ [] then some { scheme, host := "" }
          else if ':' ∈ (cut '/' rest).1 || !unescapesPath rest then none
          else some { scheme, host := "" }
        else if (name ≠ [] || !"///".toList.isPrefixOf rest) && "//".toList.isPrefixOf rest then
          let authority := (rest.drop 2).takeWhile (· != '/')
          let path := (rest.drop 2).dropWhile (· != '/')
          match parseAuthority scheme authority with
          | none => none
          | some host =>
              if unescapesPath path then some { scheme, host := String.ofList host } else none
        else if unescapesPath rest then some { scheme, host := "" }
        else none

def parse (raw : String) : Option URL :=
  let (text, fragment) := cut '#' raw.toList
  (parseReference text).filter fun _ => unescapesPath fragment

end URL

end StarLens.Go
