import Clearing.Text.Bytes
/-!
The tokens that a text consists of.  Blocks have no brackets of their own in
the text; the tokens that open and close them come from its indentation.
-/

namespace Clearing.Yaml

inductive ScalarStyle where
  | plain
  | singleQuoted
  | doubleQuoted
  | literal
  | folded
deriving DecidableEq

inductive Token where
  | version (major minor : Nat)
  /-- From here on the handle stands for the front of a tag. -/
  | handle (name : String) (front : Bytes)
  | beginDocument
  | endDocument
  | openItems
  | openEntries
  | closeBlock
  | openBracket
  | closeBracket
  | openBrace
  | closeBrace
  | dash
  | comma
  | key
  | value
  | reference (name : String)
  | anchor (name : String)
  | tag (handle : String) (suffix : Bytes)
  | scalar (style : ScalarStyle) (text : String)
  | endText
deriving DecidableEq

end Clearing.Yaml
