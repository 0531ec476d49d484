import Fieldwork.Markup.Cursor
/-!
The tokens of a marked-up text. Blocks that the text shows by indentation have tokens of their own.
-/
namespace Fieldwork.Markup

inductive ScalarStyle
  | plain
  | singleQuoted
  | doubleQuoted
  | literal
  | folded
  deriving DecidableEq, Repr

structure Tag where
  handle : String
  suffix : String
  deriving DecidableEq, Repr

inductive TokenKind
  | streamEnd
  | versionDirective
  | tagDirective
  | documentStart
  | documentEnd
  | blockSequenceStart
  | blockMappingStart
  | blockEnd
  | flowSequenceStart
  | flowSequenceEnd
  | flowMappingStart
  | flowMappingEnd
  | blockEntry
  | flowEntry
  | key
  | value
  | starred (name : String)
  | anchor (name : String)
  | tag (t : Tag)
  | scalar (style : ScalarStyle) (text : String)
  deriving DecidableEq, Repr, Inhabited

structure Token where
  mark : Mark
  kind : TokenKind
  deriving DecidableEq, Repr, Inhabited

end Fieldwork.Markup
