import SerialNovel.Markup.Line
import SerialNovel.Proofs.Text.Scan
import SerialNovel.Proofs.Text.Trim

namespace SerialNovel

namespace Intercept

/-- A signal id has four digits, a point and a digit. -/
def IsSignal (id : Text) : Prop :=
  ∃ a b c d e, id = [a, b, c, d, '.', e] ∧ ∀ x ∈ [a, b, c, d, e], x.isDigit

def opener (id : Text) : Text := id ++ openerEnding

def HasOpener (line : Text) : Prop := ∃ id, IsSignal id ∧ opener id <:+: line

def HasCloseMarker (line : Text) : Prop := ∃ m ∈ closeMarkers, m <:+: line

/-- The leftmost opener of a line has this signal id. -/
def LeadsWith (id line : Text) : Prop :=
  IsSignal id ∧ ∃ before after, line = before ++ (opener id ++ after) ∧
    ∀ other b a, IsSignal other → line = b ++ (opener other ++ a) → before.length ≤ b.length

theorem openerAt?_eq_some {t id : Text} {width : Nat} :
    openerAt? t = some (id, width) ↔ IsSignal id ∧ opener id <+: t ∧ width = 12 := by
  constructor
  · intro h
    unfold openerAt? at h
    split at h
    · rename_i a b c d e rest
      split at h
      · rename_i hc
        obtain ⟨hd, hs⟩ := Bool.and_eq_true_iff.1 hc
        simp only [Option.some.injEq, Prod.mk.injEq] at h
        obtain ⟨rfl, rfl⟩ := h
        obtain ⟨r, rfl⟩ := Text.startsWith_iff.1 hs
        exact ⟨⟨a, b, c, d, e, rfl, List.all_eq_true.1 hd⟩, ⟨r, rfl⟩, rfl⟩
      · simp at h
    · simp at h
  · rintro ⟨⟨a, b, c, d, e, rfl, hd⟩, ⟨r, rfl⟩, rfl⟩
    have hs : Text.startsWith openerEnding (openerEnding ++ r) = true :=
      Text.startsWith_iff.2 (List.prefix_append _ _)
    show openerAt? (a :: b :: c :: d :: '.' :: e :: (openerEnding ++ r)) = _
    rw [openerAt?, if_pos (by rw [hs, Bool.and_true]; exact List.all_eq_true.2 hd)]

theorem opener_append_ne_nil (id rest : Text) : opener id ++ rest ≠ [] := by
  have he : openerEnding ≠ [] := by decide
  simp [opener, he]

theorem signal?_eq_some {line id : Text} : signal? line = some id ↔ LeadsWith id line := by
  rw [signal?, Text.head?_tokens_eq_some]
  constructor
  · rintro ⟨before, rest, rfl, -, ha, hb⟩
    obtain ⟨⟨x, width⟩, ht, rfl⟩ := Option.map_eq_some_iff.1 ha
    obtain ⟨hi, ⟨after, rfl⟩, -⟩ := openerAt?_eq_some.1 ht
    refine ⟨hi, before, after, rfl, ?_⟩
    intro other b a ho he
    refine Nat.le_of_not_lt fun hl => ?_
    have hs := openerAt?_eq_some.2 ⟨ho, List.prefix_append (opener other) a, rfl⟩
    exact Option.some_ne_none _ (hs.symm.trans (hb b _ he hl))
  · rintro ⟨hi, before, after, rfl, hb⟩
    refine ⟨before, _, rfl, opener_append_ne_nil _ _, ?_, ?_⟩
    · rw [openerAt?_eq_some.2 ⟨hi, List.prefix_append _ _, rfl⟩]
      rfl
    · intro b r he hl
      cases ht : openerAt? r with
      | none => rfl
      | some p =>
        obtain ⟨ho, ⟨a, rfl⟩, -⟩ := openerAt?_eq_some.1 (show _ = some (p.1, p.2) from ht)
        exact absurd hl (Nat.not_lt_of_le (hb p.1 b a ho he))

theorem opens_iff {line : Text} : opens line ↔ HasOpener line := by
  rw [opens, Option.isSome_iff_exists]
  constructor
  · rintro ⟨id, h⟩
    obtain ⟨hi, before, after, rfl, -⟩ := signal?_eq_some.1 h
    exact ⟨id, hi, before, after, by simp⟩
  · rintro ⟨id, hi, before, after, rfl⟩
    rw [← Option.isSome_iff_exists, List.append_assoc]
    refine Text.isSome_head?_tokens (opener_append_ne_nil _ _) ?_ before
    rw [openerAt?_eq_some.2 ⟨hi, List.prefix_append _ _, rfl⟩]
    rfl

theorem closes_iff {line : Text} : closes line ↔ HasCloseMarker line := by
  simp only [closes, List.any_eq_true, Text.contains_iff, HasCloseMarker]

instance : DecidablePred HasOpener := fun _ => decidable_of_iff _ opens_iff

instance : DecidablePred HasCloseMarker := fun _ => decidable_of_iff _ closes_iff

theorem closes_eq_decide (line : Text) : closes line = decide (HasCloseMarker line) := by
  rw [Bool.eq_iff_iff, closes_iff, decide_eq_true_iff]

theorem isBlank_of_mem_opener {id : Text} (h : IsSignal id) :
    ∀ c ∈ opener id, Text.isBlank c = false := by
  obtain ⟨a, b, c, d, e, rfl, hd⟩ := h
  intro x hx
  rcases List.mem_append.1 hx with hx | hx
  · by_cases hp : x = '.'
    · rw [hp]
      rfl
    · have hdigit := hd x (by simpa [hp] using hx)
      exact Bool.eq_false_iff.2 fun hb => by simp [Text.isDigit_of_isBlank hb] at hdigit
  · have hb : openerEnding.all (!Text.isBlank ·) := by decide
    simpa using List.all_eq_true.1 hb x hx

theorem hasOpener_trimEnd {line : Text} : HasOpener (Text.trimEnd line) ↔ HasOpener line :=
  exists_congr fun _ => and_congr_right fun h => Text.infix_trimEnd (isBlank_of_mem_opener h) line

theorem hasOpener_trim {line : Text} : HasOpener (Text.trim line) ↔ HasOpener line :=
  exists_congr fun _ => and_congr_right fun h => Text.infix_trim (isBlank_of_mem_opener h) line

theorem hasCloseMarker_trim {line : Text} :
    HasCloseMarker (Text.trim line) ↔ HasCloseMarker line := by
  have hb : closeMarkers.all fun m => m.all (!Text.isBlank ·) := by decide
  have hm : ∀ m ∈ closeMarkers, ∀ c ∈ m, Text.isBlank c = false := by simpa using hb
  exact exists_congr fun m => and_congr_right fun h => Text.infix_trim (hm m h) line

end Intercept

namespace LineClass

open Intercept

variable {inBlock : Bool} {t : Text}

theorem of_of_hasOpener (h : HasOpener t) :
    of inBlock t = .opening (decide (HasCloseMarker t)) := by
  have hs : opens (Text.trim t) := opens_iff.2 (hasOpener_trim.2 h)
  simp only [of, if_pos hs, closes_eq_decide, hasCloseMarker_trim]

theorem hasOpener_of_eq_opening {closed : Bool} (h : of inBlock t = .opening closed) :
    HasOpener t := by
  refine Decidable.byContradiction fun ho => ?_
  have hs : ¬ opens (Text.trim t) := fun hs => ho (hasOpener_trim.1 (opens_iff.1 hs))
  rw [of, if_neg hs] at h
  split at h
  · split at h <;> simp at h
  · split at h
    · simp at h
    · split at h <;> simp at h

theorem of_true_of_not_hasOpener (h : ¬ HasOpener t) :
    of true t = if HasCloseMarker t then .closing else .continuing := by
  have hs : ¬ opens (Text.trim t) := fun hs => h (hasOpener_trim.1 (opens_iff.1 hs))
  simp only [of, if_neg hs, if_true, closes_eq_decide, hasCloseMarker_trim, decide_eq_true_iff]

end LineClass

end SerialNovel
