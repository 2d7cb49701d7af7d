/-
What holds from a place of a regular expression on: whether blanks and comments
are left out, whether case is ignored, and whether characters or single bytes
are searched for. Flags change it, up to the end of the group they stand in.
-/
import Dataflow.Text.Blank

namespace Dataflow.Pattern

open Text

structure Mode where
  ignoresBlanks : Bool := false
  ignoresCase : Bool := false
  isUnicode : Bool := true

/-- Whether a text is a list of flags: each at most once, with one minus that is not the last. -/
def areFlags (cs : List Char) : Bool :=
  cs.all "imsUuRx-".toList.contains && cs.eraseDups.length = cs.length && cs.getLast? != some '-'

/-- Leaves out blanks and comments. A comment starts with a number sign and ends with its line. -/
def skipBlanks (inComment : Bool) : List Char → List Char
  | [] => []
  | c :: cs =>
    if inComment then skipBlanks (c ≠ '\n') cs
    else if c = '#' then skipBlanks true cs
    else if isBlank c then skipBlanks false cs
    else c :: cs

namespace Mode

def apply (m : Mode) (flags : List Char) : Mode :=
  let raised := flags.takeWhile (· ≠ '-')
  let turn (flag : Char) (old : Bool) : Bool := raised.contains flag || old && !flags.contains flag
  ⟨turn 'x' m.ignoresBlanks, turn 'i' m.ignoresCase, turn 'u' m.isUnicode⟩

def skip (m : Mode) (cs : List Char) : List Char :=
  if m.ignoresBlanks then skipBlanks false cs else cs

end Mode

end Dataflow.Pattern
