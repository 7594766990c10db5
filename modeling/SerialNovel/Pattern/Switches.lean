import SerialNovel.Pattern.Basic
import SerialNovel.Text.Folding

namespace SerialNovel.Pattern

/-- The switches that hold from their place to the end of their group. -/
structure Switches where
  ignoreCase : Bool := false
  multiLine : Bool := false
  dotAll : Bool := false
  swapGreed : Bool := false
  spaced : Bool := false
  ascii : Bool := false
  anyLineEnd : Bool := false
  deriving DecidableEq, Repr

namespace Switches

def set (on : Bool) (w : Switches) : Char → Option Switches
  | 'i' => some { w with ignoreCase := on }
  | 'm' => some { w with multiLine := on }
  | 's' => some { w with dotAll := on }
  | 'U' => some { w with swapGreed := on }
  | 'x' => some { w with spaced := on }
  | 'u' => some { w with ascii := !on }
  | 'R' => some { w with anyLineEnd := on }
  | _ => none

/-- Switches up to the `:` or `)` that ends them, and whether that is a colon: no letter twice, and
one dash with letters after it turns switches off. -/
def read? : Bool → Text → Switches → Text → Option (Switches × Bool × Text)
  | _, _, _, [] => none
  | on, seen, w, c :: t =>
    if c = ':' || c = ')' then
      if !on && seen.head? == some '-' then none
      else if c = ')' && seen.isEmpty then none
      else some (w, c == ':', t)
    else if c = '-' then if on then read? false ('-' :: seen) w t else none
    else if c ∈ seen then none
    else (w.set on c).bind fun w => read? on (c :: seen) w t

def fold (w : Switches) (s : CharSet) : CharSet :=
  if !w.ignoreCase then s else if w.ascii then s.anyAsciiCase else s.anyCase

/-- A complement. ASCII has none, since it would match parts of characters. -/
def negate? (w : Switches) (s : CharSet) : Option CharSet :=
  if w.ascii then none else some s.compl

def negateIf? (w : Switches) (negated : Bool) (s : CharSet) : Option CharSet :=
  if negated then w.negate? s else some s

def decimal (w : Switches) : CharSet := if w.ascii then .range '0' '9' else .decimal

def blank (w : Switches) : CharSet :=
  if w.ascii then .union (.range '\t' '\r') (.single ' ') else .blank

def word (w : Switches) : CharSet :=
  if w.ascii then .unions [.range '0' '9', .range 'A' 'Z', .single '_', .range 'a' 'z'] else .word

def property? (w : Switches) (negated : Bool) (s : Option CharSet) : Option CharSet :=
  if w.ascii then none else (s.map w.fold).bind (w.negateIf? negated)

def literal (w : Switches) (c : Char) : Pattern := ofSet (w.fold (.single c))

def dot? (w : Switches) : Option Pattern :=
  if w.ascii then none
  else if w.dotAll then some (oneOf (.compl .empty))
  else if w.anyLineEnd then some (oneOf (.compl (.union (.single '\n') (.single '\r'))))
  else some (oneOf (.compl (.single '\n')))

def lineStart (w : Switches) : Anchor :=
  if !w.multiLine then .textStart else if w.anyLineEnd then .anyLineStart else .lineStart

def lineEnd (w : Switches) : Anchor :=
  if !w.multiLine then .textEnd else if w.anyLineEnd then .anyLineEnd else .lineEnd

end Switches

end SerialNovel.Pattern
