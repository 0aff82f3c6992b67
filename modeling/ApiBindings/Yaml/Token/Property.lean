import ApiBindings.Yaml.Token.Lexing

/-!
# Directives, anchors and tags

What stands before a document or before a node and says how it is to be read: the version of the format,
the addresses that tag handles are short for, and the anchor, alias or tag of a node.
-/

namespace ApiBindings.Yaml.Lexing

open ApiBindings.Decimal (digitValue)

/-! ## Directives -/

/-- A number of a version. -/
def versionNumber (start : Mark) : Lexing Nat := do
  let digits := (← get).rest.takeWhile Char.isDigit
  if 9 < digits.length then
    skip 9
    failWhile "while scanning a %YAML directive" start "found extremely long version number"
  else
    skip digits.length
    if digits.isEmpty then
      failWhile "while scanning a %YAML directive" start "did not find expected version number"
    else return digits.foldl (fun n c => n * 10 + digitValue c) 0

/-- The octets that the escapes of one character of an address stand for, the last one first. -/
def escapedOctets (isDirective : Bool) (start : Mark) : Lexing Octets := do
  let context := if isDirective then "while parsing a %TAG directive" else "while parsing a tag"
  let octet : Lexing Nat := do
    match (← get).rest with
    | '%' :: a :: b :: _ =>
      if digitValue a < 16 && digitValue b < 16 then return digitValue a * 16 + digitValue b
      else failWhile context start "did not find URI escaped octet"
    | _ => failWhile context start "did not find URI escaped octet"
  let first ← octet
  let width := if first < 0x80 then 1
    else if first / 32 == 6 then 2
    else if first / 16 == 14 then 3
    else if first / 8 == 30 then 4
    else 0
  if width == 0 then failWhile context start "found an incorrect leading UTF-8 octet"
  skip 3
  let mut octets : Octets := [first.toUInt8]
  for _ in [1:width] do
    let next ← octet
    if next / 64 ≠ 2 then failWhile context start "found an incorrect trailing UTF-8 octet"
    skip 3
    octets := next.toUInt8 :: octets
  return octets

/-- The characters of an address that are no letters, digits, dashes or underscores. -/
def isAddressChar (isWide : Bool) (c : Char) : Bool :=
  isWordChar c || ";/?:@&=+$.%!~*'()".toList.contains c || (isWide && ",[]".toList.contains c)

/-- An address of a tag, after a head that is read already. An address ends at its first zero octet. -/
def tagAddress (isWide isDirective : Bool) (head : List Char) (start : Mark) : Lexing Octets := do
  let mut done := (octetsOf (String.ofList (head.drop 1))).reverse
  let mut count := head.length
  for _ in [0:(← get).bound] do
    match ← peek with
    | some c =>
      if !isAddressChar isWide c then break
      else if c = '%' then
        done := (← escapedOctets isDirective start) ++ done
        count := count + 1
      else
        skip 1
        done := (octetsOf (String.ofList [c])).reverse ++ done
        count := count + 1
    | none => break
  if count == 0 then
    failWhile (if isDirective then "while parsing a %TAG directive" else "while parsing a tag") start
      "did not find expected tag URI"
  else return done.reverse.takeWhile (· ≠ 0)

/-- The handle of a tag. -/
def tagHandle (isDirective : Bool) (start : Mark) : Lexing (List Char) := do
  if !(← isNext '!') then
    failWhile (if isDirective then "while scanning a tag directive" else "while scanning a tag") start
      "did not find expected '!'"
  else
    skip 1
    let word ← takeWhile isWordChar
    if ← isNext '!' then
      skip 1
      return '!' :: word ++ ['!']
    else if isDirective && !word.isEmpty then
      failWhile "while parsing a tag directive" start "did not find expected '!'"
    else return '!' :: word

/-- The kind of a directive, whose percent sign stands next. -/
def directiveKind (start : Mark) : Lexing TokenKind := do
  skip 1
  let name ← takeWhile isWordChar
  if name.isEmpty then
    failWhile "while scanning a directive" start "could not find expected directive name"
  else if !isBlankOrEnd (← peek) then
    failWhile "while scanning a directive" start "found unexpected non-alphabetical character"
  else if name = "YAML".toList then
    skipBlanks
    let major ← versionNumber start
    if !(← isNext '.') then
      failWhile "while scanning a %YAML directive" start "did not find expected digit or '.' character"
    skip 1
    return .version major (← versionNumber start)
  else if name = "TAG".toList then
    skipBlanks
    let handle ← tagHandle true start
    if !((← peek).any isBlank) then
      failWhile "while scanning a %TAG directive" start "did not find expected whitespace"
    skipBlanks
    let value ← tagAddress true true [] start
    if !isBlankOrEnd (← peek) then
      failWhile "while scanning a %TAG directive" start "did not find expected whitespace or line break"
    return .tagDirective (String.ofList handle) value
  else failWhile "while scanning a directive" start "found unknown directive name"

/-- A directive. -/
def directive : Lexing Unit := do
  closeBlocks (-1)
  dropKey
  allowKey false
  let start ← here
  let kind ← directiveKind start
  let last ← here
  skipBlanks
  skipComment
  if !isBreakOrEnd (← peek) then
    failWhile "while scanning a directive" start "did not find expected comment or line break"
  skipLineEnd
  emit kind start last

/-! ## Anchors and tags -/

/-- An anchor or an alias. -/
def anchor (isAlias : Bool) : Lexing Unit := do
  saveKey
  allowKey false
  let start ← here
  skip 1
  let name ← takeWhile isWordChar
  let last ← here
  let next ← peek
  if name.isEmpty || !(isBlankOrEnd next || next.any "?:,]\x7d%@\x60".toList.contains) then
    failWhile (if isAlias then "while scanning an alias" else "while scanning an anchor") start
      "did not find expected alphabetic or numeric character"
  let name := String.ofList name
  emit (if isAlias then .alias name else .anchor name) start last

/-- A tag. -/
def tag : Lexing Unit := do
  saveKey
  allowKey false
  let start ← here
  let kind ← do
    if (← peekAt 1) == some '<' then
      skip 2
      let suffix ← tagAddress true false [] start
      if !(← isNext '>') then failWhile "while scanning a tag" start "did not find the expected '>'"
      skip 1
      pure (TokenKind.tag "" suffix)
    else
      let handle ← tagHandle false start
      if 1 < handle.length && handle.getLast? == some '!' then
        pure (TokenKind.tag (String.ofList handle) (← tagAddress false false [] start))
      else
        let suffix ← tagAddress false false handle start
        pure (if suffix.isEmpty then TokenKind.tag "" (octetsOf "!") else TokenKind.tag "!" suffix)
  let next ← peek
  if (← get).flowLevel == 0 || next ≠ some ',' then
    if !isBlankOrEnd next then
      failWhile "while scanning a tag" start "did not find expected whitespace or line break"
  emit kind start (← here)

end ApiBindings.Yaml.Lexing
