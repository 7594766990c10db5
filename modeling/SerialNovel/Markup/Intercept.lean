import SerialNovel.Text.Search

namespace SerialNovel.Intercept

def defaultSignal : Text := "0000.2".toList

def openerEnding : Text := "Void>>".toList

def closeMarkers : List Text :=
  ["【插入结束】".toList, "【插入結束】".toList, "[INSERTION_END]".toList]

/-- The signal id of the opener at the start of a text, with the width of the opener. -/
def openerAt? : Text → Option (Text × Nat)
  | a :: b :: c :: d :: '.' :: e :: rest =>
    if [a, b, c, d, e].all Char.isDigit && Text.startsWith openerEnding rest then
      some ([a, b, c, d, '.', e], 12)
    else none
  | _ => none

def signal? (line : Text) : Option Text := (Text.tokens openerAt? line).head?

def opens (line : Text) : Bool := (signal? line).isSome

def closes (line : Text) : Bool := closeMarkers.any fun m => Text.contains m line

/-- A text without the places where `mark` stands. -/
def erase (mark line : Text) : Text :=
  Text.without (fun t => (Text.after? mark t).map fun _ => ((), mark.length)) line

/-- A line without openers, and then without each spelling of the close marker in turn. -/
def strip (line : Text) : Text :=
  closeMarkers.foldl (fun t m => erase m t) (Text.without openerAt? line)

end SerialNovel.Intercept
