import StartOnReady.Text.Hex
import StartOnReady.Text.Hidden

/-!
# Quoted texts

`quoted s` shows a text between double quotes so that every character can be told apart: quotes,
backslashes and the common controls by a two-character escape, other hidden characters as
`\u` and their number in braces.  `quotedPath` is for the paths of files, where single quotes are
escaped as well.
-/

namespace StartOnReady.Text

/-- How one character stands between the quotes. -/
def quotedChar (c : Char) : List Char :=
  if c = '"' then ['\\', '"']
  else if c = '\\' then ['\\', '\\']
  else if c = '\n' then ['\\', 'n']
  else if c = '\r' then ['\\', 'r']
  else if c = '\t' then ['\\', 't']
  else if c = '\x00' then ['\\', '0']
  else if isHidden c then ['\\', 'u', '\x7b'] ++ hex c.toNat ++ ['\x7d']
  else [c]

/-- The text between quotes, with escapes. -/
def quoted (s : String) : String :=
  String.ofList ('"' :: s.toList.flatMap quotedChar ++ ['"'])

/-- How one character of a path stands between the quotes. -/
def quotedPathChar (c : Char) : List Char := if c = '\'' then ['\\', '\''] else quotedChar c

/-- The path between quotes, with escapes. -/
def quotedPath (path : String) : String :=
  String.ofList ('"' :: path.toList.flatMap quotedPathChar ++ ['"'])

end StartOnReady.Text
