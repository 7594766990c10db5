import SerialNovel.Text.Property

namespace SerialNovel

inductive Anchor
  | textStart
  | textEnd
  /-- Lines end at a line feed. -/
  | lineStart
  | lineEnd
  /-- Lines end at a line feed, a carriage return or the two in this order. -/
  | anyLineStart
  | anyLineEnd
  | wordBoundary (ascii : Bool)
  | insideOrOutside (ascii : Bool)
  | wordStart (ascii : Bool)
  | wordEnd (ascii : Bool)
  | noWordBefore (ascii : Bool)
  | noWordAfter (ascii : Bool)
  deriving DecidableEq, Repr, Inhabited

namespace Anchor

def isWord (ascii : Bool) (c : Char) : Bool :=
  if ascii then c.isAlphanum || c = '_' else Text.isWord c

/-- Whether an anchor holds between the character before a place and the one after it. -/
def holds (before after : Option Char) : Anchor → Bool
  | textStart => before.isNone
  | textEnd => after.isNone
  | lineStart => before.all (· == '\n')
  | lineEnd => after.all (· == '\n')
  | anyLineStart => before.all fun c => c == '\n' || (c == '\r' && after != some '\n')
  | anyLineEnd => after.all fun c => c == '\r' || (c == '\n' && before != some '\r')
  | wordBoundary ascii => before.any (isWord ascii) != after.any (isWord ascii)
  | insideOrOutside ascii => before.any (isWord ascii) == after.any (isWord ascii)
  | wordStart ascii => !before.any (isWord ascii) && after.any (isWord ascii)
  | wordEnd ascii => before.any (isWord ascii) && !after.any (isWord ascii)
  | noWordBefore ascii => !before.any (isWord ascii)
  | noWordAfter ascii => !after.any (isWord ascii)

end Anchor

end SerialNovel
