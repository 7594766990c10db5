import SerialNovel.Text.Basic

namespace SerialNovel

structure Outcome where
  status : Nat := 0
  out : Text := []
  err : Text := []
  deriving DecidableEq, Repr

end SerialNovel
