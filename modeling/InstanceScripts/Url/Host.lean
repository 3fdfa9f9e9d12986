import InstanceScripts.Url.Domain
import InstanceScripts.Url.Percent

/-!
# Hosts

The host of a URL: a domain in lower-case ASCII, an IPv4 address in any of its
numeric spellings, or an IPv6 address.  A domain whose last label is a number is an
IPv4 address or nothing.
-/

namespace InstanceScripts
namespace Url

/-- Why a text is not a URL. -/
inductive Fault where
  | emptyHost
  | invalidPort
  | invalidIpv4
  | invalidIpv6
  | invalidDomain
  | invalidHostCharacter
  | relativeWithoutBase
  | relativeToRootless
  deriving DecidableEq, Repr

/-- The words for a fault. -/
def Fault.message : Fault → String
  | .emptyHost => "empty host"
  | .invalidPort => "invalid port number"
  | .invalidIpv4 => "invalid IPv4 address"
  | .invalidIpv6 => "invalid IPv6 address"
  | .invalidDomain => "invalid international domain name"
  | .invalidHostCharacter => "invalid domain character"
  | .relativeWithoutBase => "relative URL without a base"
  | .relativeToRootless => "relative URL with a cannot-be-a-base base"

/-- The host of a URL. -/
inductive Host where
  | domain (name : List Char)
  | ipv4 (address : Nat)
  | ipv6 (pieces : List Nat)
  deriving DecidableEq, Repr

namespace Host

/-! ## IPv4 addresses -/

/-- A number in one of the three bases.  The outer `none` says that it is not a
number, the inner one that it exceeds 32 bits. -/
def ipv4Number? (chars : List Char) : Option (Option Nat) :=
  let (base, digits) :=
    match chars with
    | '0' :: 'x' :: rest => (16, rest)
    | '0' :: 'X' :: rest => (16, rest)
    | '0' :: next :: rest => (8, next :: rest)
    | chars => (10, chars)
  if chars.isEmpty then none
  else if digits.isEmpty then some (some 0)
  else
    (Text.number? base digits).map fun number =>
      if number < Nat.pow 2 32 then some number else none

/-- Labels of a domain, without the empty one after a final full stop. -/
def significantLabels (chars : List Char) : List (List Char) :=
  let labels := Domain.labels chars
  if labels.getLast? = some [] then labels.dropLast else labels

/-- Whether the last label of a domain is a number. -/
def endsInNumber (chars : List Char) : Bool :=
  let labels := Domain.labels chars
  let labels := if labels.getLast? = some [] ∧ 1 < labels.length then labels.dropLast else labels
  match labels.getLast? with
  | some last => (!last.isEmpty && last.all Text.isDigit) || (ipv4Number? last).isSome
  | none => false

/-- The address of up to four numbers, of which the last fills the octets that
remain. -/
def ipv4? (chars : List Char) : Option Nat :=
  let labels := significantLabels chars
  if 4 < labels.length then none
  else
    match (labels.mapM fun label => (ipv4Number? label).join) with
    | none => none
    | some numbers =>
        match numbers.reverse with
        | [] => none
        | last :: before =>
            let before := before.reverse
            if before.any (255 < ·) then none
            else
              let unit := Nat.pow 256 (4 - before.length)
              if unit ≤ last then none
              else some (before.foldl (fun value number => 256 * value + number) 0 * unit + last)

/-- Four decimal numbers. -/
def renderIpv4 (address : Nat) : List Char :=
  List.intercalate ['.']
    ([address / 0x1000000, address / 0x10000 % 256, address / 0x100 % 256, address % 256].map
      Text.decimal)

/-! ## IPv6 addresses -/

/-- A group of one to four hexadecimal digits. -/
def ipv6Group? (chars : List Char) : Option Nat :=
  if 4 < chars.length then none else Text.number? 16 chars

/-- Four decimal numbers without leading zeros, as two groups. -/
def embeddedIpv4? (chars : List Char) : Option (List Nat) :=
  let labels := Domain.labels chars
  if labels.length ≠ 4 then none
  else
    let octet? (label : List Char) : Option Nat :=
      if 1 < label.length ∧ label.head? = some '0' then none
      else if label.isEmpty ∨ 3 < label.length then none
      else (Text.number? 10 label).filter (· ≤ 255)
    match labels.mapM octet? with
    | some [a, b, c, d] => some [a * 256 + b, c * 256 + d]
    | _ => none

/-- Groups between colons; the last of them may be an IPv4 address. -/
def ipv6Groups? (chars : List Char) : Option (List Nat) :=
  if chars.isEmpty then some []
  else
    let parts := chars.splitOn ':'
    match parts.reverse with
    | [] => none
    | last :: before =>
        let last := if last.contains '.' then embeddedIpv4? last else (ipv6Group? last).map ([·])
        match before.reverse.mapM ipv6Group?, last with
        | some groups, some last => some (groups ++ last)
        | _, _ => none

/-- Split at the first pair of colons. -/
def splitAtGap : List Char → List Char × Option (List Char)
  | ':' :: ':' :: rest => ([], some rest)
  | char :: rest =>
      let (before, after) := splitAtGap rest
      (char :: before, after)
  | [] => ([], none)

/-- The eight pieces of an address; a pair of colons stands for one or more zeros. -/
def ipv6? (chars : List Char) : Option (List Nat) :=
  match splitAtGap chars with
  | (all, none) => (ipv6Groups? all).filter (·.length = 8)
  | (before, some after) =>
      match (if before.contains '.' then none else ipv6Groups? before), ipv6Groups? after with
      | some before, some after =>
          let zeros := 8 - before.length - after.length
          if 8 ≤ before.length + after.length then none
          else some (before ++ List.replicate zeros 0 ++ after)
      | _, _ => none

/-- Length of the run of zeros at the front. -/
def zeroRun (pieces : List Nat) : Nat :=
  (pieces.takeWhile (· = 0)).length

/-- Where the longest run of at least two zeros begins, and its length; the first of
several. -/
def longestZeros (pieces : List Nat) : Option (Nat × Nat) :=
  let runs := (List.range pieces.length).map fun start => (start, zeroRun (pieces.drop start))
  let best := runs.foldl (fun best run => if best.2 < run.2 then run else best) (0, 0)
  if 2 ≤ best.2 then some best else none

/-- Groups in hexadecimal with colons between them. -/
def renderGroups (pieces : List Nat) : List Char :=
  List.intercalate [':'] (pieces.map Text.hexadecimal)

/-- The shortest form of an address, in brackets. -/
def renderIpv6 (pieces : List Nat) : List Char :=
  let inner :=
    match longestZeros pieces with
    | none => renderGroups pieces
    | some (start, length) =>
        renderGroups (pieces.take start) ++ [':', ':'] ++
          renderGroups (pieces.drop (start + length))
  '[' :: inner ++ [']']

/-! ## Hosts -/

/-- The host as it is written in a URL. -/
def render : Host → List Char
  | .domain name => name
  | .ipv4 address => renderIpv4 address
  | .ipv6 pieces => renderIpv6 pieces

/-- An address in brackets. -/
def bracketed? (chars : List Char) : Except Fault Host :=
  if chars.getLast? ≠ some ']' then .error .invalidIpv6
  else
    match ipv6? (chars.drop 1).dropLast with
    | some pieces => .ok (.ipv6 pieces)
    | none => .error .invalidIpv6

/-- The host of a special URL. -/
def readSpecial (chars : List Char) : Except Fault Host :=
  if chars.head? = some '[' then bracketed? chars
  else
    match Utf8.decode (Percent.decode chars) with
    | .error _ => .error .invalidDomain
    | .ok decoded =>
        match Domain.toAscii? decoded.toList with
        | none => .error .invalidDomain
        | some name =>
            if name.isEmpty then .error .emptyHost
            else if endsInNumber name then
              match ipv4? name with
              | some address => .ok (.ipv4 address)
              | none => .error .invalidIpv4
            else .ok (.domain name)

/-- Characters that no host contains, however it is read. -/
def isForbidden (char : Char) : Bool :=
  ['\x00', '\t', '\n', '\r', ' ', '#', '/', ':', '<', '>', '?', '@', '[', '\\', ']', '^',
    '|'].contains char

/-- The host of any other URL, kept as it is except for what has to be encoded. -/
def readGeneric (chars : List Char) : Except Fault Host :=
  if chars.head? = some '[' then bracketed? chars
  else if chars.any isForbidden then
    .error .invalidHostCharacter
  else .ok (.domain (Percent.encode Percent.controls chars))

end Host
end Url
end InstanceScripts
