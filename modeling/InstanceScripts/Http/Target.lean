import InstanceScripts.Url.Basic

/-!
# Targets of requests

Which URLs a request can name.  These are the URLs with a well-formed authority, and
those without one whose whole text has the form of an authority, such as `about:blank`.
-/

namespace InstanceScripts
namespace Http

/-- The longest URL that a request can name. -/
def urlLimit : Nat :=
  65534

/-- The longest scheme that may stand before an authority. -/
def schemeLimit : Nat :=
  64

/-- The most colons that may follow one another without the end of a user name or of an
address between them. -/
def colonLimit : Nat :=
  8

/-- Characters of an authority that need no further rule. -/
def isAuthorityChar (char : Char) : Bool :=
  char.isAlphanum ||
    ['!', '$', '&', '\'', '(', ')', '*', '+', ',', '-', '.', ';', '=', '_', '~'].contains char

/-- What has been read of an authority: whether a bracket has been opened and closed,
and the colons and percent signs after the last user name or address. -/
structure AuthorityScan where
  colons : Nat
  hasPercent : Bool
  opened : Bool
  closed : Bool
  deriving DecidableEq, Repr

namespace AuthorityScan

/-- Nothing has been read. -/
def start : AuthorityScan :=
  ⟨0, false, false, false⟩

/-- Read one more character, if it may stand there. -/
def step? (scan : AuthorityScan) (char : Char) : Option AuthorityScan :=
  if char = ':' then
    if scan.colons < colonLimit then some { scan with colons := scan.colons + 1 } else none
  else if char = '[' then
    if scan.hasPercent ∨ scan.opened then none else some { scan with opened := true }
  else if char = ']' then
    if scan.opened ∧ !scan.closed then some ⟨0, false, true, true⟩ else none
  else if char = '@' then some { scan with colons := 0, hasPercent := false }
  else if char = '%' then some { scan with hasPercent := true }
  else if isAuthorityChar char then some scan
  else none

/-- Read a text. -/
def read? (scan : AuthorityScan) : List Char → Option AuthorityScan
  | [] => some scan
  | char :: rest => (scan.step? char).bind (·.read? rest)

/-- Whether an authority may end here: its brackets are closed, at most one colon
stands before a port, and the host has no percent sign. -/
def isFinished (scan : AuthorityScan) : Bool :=
  scan.opened == scan.closed && scan.colons ≤ 1 && !scan.hasPercent

theorem read?_append (scan : AuthorityScan) (front back : List Char) :
    scan.read? (front ++ back) = (scan.read? front).bind (·.read? back) := by
  induction front generalizing scan with
  | nil => rfl
  | cons char front inductionHypothesis =>
      cases step : scan.step? char with
      | none => simp [read?, step]
      | some next => simp [read?, step, inductionHypothesis]

end AuthorityScan

/-- Whether a text has the form of an authority. -/
def isAuthority (text : List Char) : Bool :=
  text.getLast? != some '@' && (AuthorityScan.start.read? text).any (·.isFinished)

/-- Whether a request can name a URL. -/
def isTarget (url : Url) : Bool :=
  url.renderChars.length ≤ urlLimit &&
    match url.authority with
    | some authority =>
        url.scheme.length ≤ schemeLimit && !authority.render.isEmpty &&
          isAuthority authority.render
    | none => isAuthority url.renderChars

end Http
end InstanceScripts
