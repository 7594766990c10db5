import SerialNovel.Proofs.Script.Concatenation

namespace SerialNovel

open Intercept

/-- A text that follows a line has the line with more white space around it. White space goes to
the start of a line only where no block is open, and not before an opener. -/
def Respaces (inBlock : Bool) (l m : Text) : Prop :=
  ∃ lead trail, m = lead ++ l ++ trail ∧ (∀ c ∈ lead ++ trail, Text.isBlank c) ∧
    (lead = [] ∨ inBlock = false ∧ ¬ HasOpener l)

def Trails (l m : Text) : Prop := ∃ trail, m = l ++ trail ∧ ∀ c ∈ trail, Text.isBlank c

namespace Lint

variable {lead : Text}

theorem after?_brackets {c : Char} (h : Text.isBlank c) (t : Text) :
    Text.after? "[[".toList (c :: t) = none :=
  if_neg (Text.ne_of_isBlank h (by decide)).symm

theorem tokens_tagNameAt?_append (h : ∀ c ∈ lead, Text.isBlank c) (t : Text) :
    Text.tokens tagNameAt? (lead ++ t) = Text.tokens tagNameAt? t := by
  induction lead with
  | nil => rfl
  | cons c lead ih =>
    obtain ⟨hc, hl⟩ := List.forall_mem_cons.1 h
    have hn : tagNameAt? (c :: (lead ++ t)) = none := by
      rw [tagNameAt?, after?_brackets hc]
      rfl
    rw [List.cons_append, Text.tokens_cons_of_eq_none hn, ih hl]

theorem hasUnclosedTag_append (h : ∀ c ∈ lead, Text.isBlank c) (t : Text) :
    hasUnclosedTag (lead ++ t) = hasUnclosedTag t := by
  induction lead with
  | nil => rfl
  | cons c lead ih =>
    obtain ⟨hc, hl⟩ := List.forall_mem_cons.1 h
    rw [List.cons_append, hasUnclosedTag, Text.startsWith, after?_brackets hc]
    exact ih hl

theorem tagIssues_append (h : ∀ c ∈ lead, Text.isBlank c) (t : Text) :
    tagIssues (lead ++ t) = tagIssues t := by
  rw [tagIssues, tokens_tagNameAt?_append h, hasUnclosedTag_append h, tagIssues]

end Lint

namespace Respaces

variable {inBlock : Bool} {l m : Text}

theorem refl (inBlock : Bool) (l : Text) : Respaces inBlock l l :=
  ⟨[], [], by simp, by simp, .inl rfl⟩

/-- Without the white space at its end a line is the same, or else it is no line of a block and has
more white space at its start. -/
theorem trimEnd_cases (h : Respaces inBlock l m) : Text.trimEnd m = Text.trimEnd l ∨
    inBlock = false ∧ ¬ HasOpener (Text.trimEnd l) ∧
      ∃ lead, (∀ c ∈ lead, Text.isBlank c) ∧ Text.trimEnd m = lead ++ Text.trimEnd l := by
  obtain ⟨lead, trail, rfl, hb, hlead⟩ := h
  obtain ⟨hbl, hbt⟩ := List.forall_mem_append.1 hb
  rw [Text.trimEnd_append_right hbt]
  rcases hlead with rfl | ⟨hi, ho⟩
  · exact .inl rfl
  · exact .inr ⟨hi, hasOpener_trimEnd.not.2 ho, Text.exists_trimEnd_append_left hbl l⟩

theorem trim_trimEnd (h : Respaces inBlock l m) :
    Text.trim (Text.trimEnd m) = Text.trim (Text.trimEnd l) := by
  rcases h.trimEnd_cases with he | ⟨-, -, lead, hb, he⟩
  · rw [he]
  · rw [he, Text.trim_append_left hb]

theorem of_eq (h : Respaces inBlock l m) (flag : Bool) :
    LineClass.of flag (Text.trimEnd m) = LineClass.of flag (Text.trimEnd l) := by
  rw [LineClass.of, h.trim_trimEnd, LineClass.of]

theorem trimEnd_eq (h : Respaces inBlock l m)
    (hc : (∃ closed, LineClass.of inBlock (Text.trimEnd l) = .opening closed) ∨
      LineClass.of inBlock (Text.trimEnd l) = .continuing ∨
      LineClass.of inBlock (Text.trimEnd l) = .closing) :
    Text.trimEnd m = Text.trimEnd l := by
  refine h.trimEnd_cases.resolve_right fun ⟨hi, ho, _⟩ => ?_
  rcases hc with ⟨closed, hc⟩ | hc
  · exact ho (LineClass.hasOpener_of_eq_opening hc)
  · have := LineClass.inBlock_of_inner hc
    simp [hi] at this

theorem lineIssues_eq (h : Respaces inBlock l m) :
    Lint.lineIssues (LineClass.of inBlock (Text.trimEnd l)) (Text.trimEnd m) =
      Lint.lineIssues (LineClass.of inBlock (Text.trimEnd l)) (Text.trimEnd l) := by
  rcases h.trimEnd_cases with he | ⟨-, -, lead, hb, he⟩
  · rw [he]
  · have ht : Text.trim (Text.trimEnd m) = Text.trim (Text.trimEnd l) := h.trim_trimEnd
    have hi : Lint.tagIssues (Text.trimEnd m) = Lint.tagIssues (Text.trimEnd l) := by
      rw [he, Lint.tagIssues_append hb]
    have hm : closes (Text.trimEnd m) = closes (Text.trimEnd l) := by
      rw [Bool.eq_iff_iff, closes_iff, closes_iff, ← hasCloseMarker_trim, ht, hasCloseMarker_trim]
    cases LineClass.of inBlock (Text.trimEnd l) with
    | directive d => cases d <;> simp only [Lint.lineIssues, ht]
    | _ => simp only [Lint.lineIssues, hi, hm]

theorem feed_eq {r : Reader} (h : Respaces r.block.isSome l m) (table : SpeakerTable) :
    r.feed table (Text.trimEnd m) = r.feed table (Text.trimEnd l) := by
  unfold Reader.feed
  rw [h.of_eq, h.trim_trimEnd]
  cases hc : LineClass.of r.block.isSome (Text.trimEnd l) with
  | opening closed => rw [h.trimEnd_eq (.inl ⟨closed, hc⟩)]
  | continuing => rw [h.trimEnd_eq (.inr (.inl hc))]
  | closing => rw [h.trimEnd_eq (.inr (.inr hc))]
  | _ => rfl

end Respaces

/-- Lines with more white space around them, where a block is open before the first or not. -/
inductive Respaced : Bool → List Text → List Text → Prop
  | nil {inBlock : Bool} : Respaced inBlock [] []
  | cons {inBlock : Bool} {l m : Text} {ls ms : List Text} (first : Respaces inBlock l m)
      (rest : Respaced (LineClass.of inBlock (Text.trimEnd l)).leavesOpen ls ms) :
      Respaced inBlock (l :: ls) (m :: ms)

namespace Respaced

variable {inBlock : Bool} {ls ms : List Text}

theorem foldl_feed {r : Reader} (h : Respaced r.block.isSome ls ms) (table : SpeakerTable) :
    (ms.map Text.trimEnd).foldl (Reader.feed table) r =
      (ls.map Text.trimEnd).foldl (Reader.feed table) r := by
  generalize hb : r.block.isSome = inBlock at h
  induction h generalizing r with
  | nil => rfl
  | cons first rest ih =>
    subst hb
    rw [List.map_cons, List.foldl_cons, first.feed_eq]
    exact ih (Lint.isSome_block_feed table r _)

theorem issuesFrom {opened : Option Nat} (h : Respaced opened.isSome ls ms) (number : Nat) :
    Lint.issuesFrom number opened (ms.map Text.trimEnd) =
      Lint.issuesFrom number opened (ls.map Text.trimEnd) := by
  generalize hb : opened.isSome = inBlock at h
  induction h generalizing opened number with
  | nil => rfl
  | cons first rest ih =>
    subst hb
    rw [List.map_cons, List.map_cons, Lint.issuesFrom, Lint.issuesFrom, first.of_eq,
      first.lineIssues_eq, ih _ (Lint.isSome_openAfter number opened _)]

theorem refl (inBlock : Bool) (ls : List Text) : Respaced inBlock ls ls := by
  induction ls generalizing inBlock with
  | nil => exact .nil
  | cons l ls ih => exact .cons (.refl inBlock l) (ih _)

theorem append {r : Reader} (table : SpeakerTable) (before : List Text)
    (h : Respaced ((before.map Text.trimEnd).foldl (Reader.feed table) r).block.isSome ls ms) :
    Respaced r.block.isSome (before ++ ls) (before ++ ms) := by
  induction before generalizing r with
  | nil => exact h
  | cons t ts ih =>
    refine .cons (.refl _ t) ?_
    rw [← Lint.isSome_block_feed table]
    exact ih h

/-- White space may go to the end of any line. -/
theorem of_forall₂ (h : List.Forall₂ Trails ls ms) (inBlock : Bool) : Respaced inBlock ls ms := by
  induction h generalizing inBlock with
  | nil => exact .nil
  | cons first rest ih =>
    obtain ⟨trail, rfl, hb⟩ := first
    exact .cons ⟨[], trail, rfl, hb, .inl rfl⟩ (ih _)

end Respaced

def Text.withReturns (t : Text) : Text := t.flatMap fun c => if c = '\n' then "\r\n".toList else [c]

structure IsLine (before l after : Text) : Prop where
  starts : before = [] ∨ before.getLast? = some '\n'
  newline_notMem : '\n' ∉ l
  ends : after.head? = some '\n' ∨ after = [] ∧ l ≠ []

theorem IsLine.lines_eq {before l after : Text} (h : IsLine before l after) :
    Text.lines (before ++ l ++ after) = Text.lines before ++ l :: Text.lines after.tail := by
  rw [← Text.lines_append_of_notMem h.newline_notMem h.ends, List.append_assoc]
  rcases h.starts with rfl | hb
  · rfl
  · obtain ⟨t, rfl⟩ := List.getLast?_eq_some_iff.1 hb
    rw [List.append_assoc]
    exact Text.lines_append_newline_cons t (l ++ after)

theorem trails_withReturns (t : Text) :
    List.Forall₂ Trails (Text.lines t) (Text.lines (Text.withReturns t)) := by
  induction t with
  | nil => exact .nil
  | cons c t ih =>
    by_cases hc : c = '\n'
    · subst hc
      have hr : Text.withReturns ('\n' :: t) = ['\r'] ++ '\n' :: Text.withReturns t := rfl
      rw [hr, Text.lines_append_of_notMem (by decide) (.inl rfl), Text.lines_newline]
      exact .cons ⟨['\r'], rfl, List.forall_mem_singleton.2 rfl⟩ ih
    · have hr : Text.withReturns (c :: t) = c :: Text.withReturns t := by
        simp [Text.withReturns, hc]
      rw [hr, Text.lines_cons hc, Text.lines_cons hc]
      generalize Text.lines t = ls, Text.lines (Text.withReturns t) = ms at ih
      cases ih with
      | nil => exact .cons ⟨[], rfl, by simp⟩ .nil
      | cons first rest =>
        obtain ⟨trail, rfl, hb⟩ := first
        exact .cons ⟨trail, rfl, hb⟩ rest

/-- Nothing of a chapter but its lines matters, and not the white space around these. -/
theorem alike_of_respaced {chapter u : Text}
    (h : Respaced false (Text.lines chapter) (Text.lines u)) (table : SpeakerTable) :
    parse table u = parse table chapter ∧ lint u = lint chapter := by
  have hr : Respaced ({} : Reader).block.isSome (Text.lines chapter) (Text.lines u) := h
  have hl : Respaced (none : Option Nat).isSome (Text.lines chapter) (Text.lines u) := h
  exact ⟨by rw [parse, hr.foldl_feed, parse], by rw [lint, hl.issuesFrom, lint]⟩

/-- Chapters are read and checked alike if they have the same lines but for white space, at the end
of any line, and at the start of those that are neither in a block nor openers. So carriage returns
and a final line feed do not matter, nor white space that is put into one line. -/
theorem parse_lint_respaced (table : SpeakerTable) (chapter : Text) :
    let Alike (u : Text) : Prop := parse table u = parse table chapter ∧ lint u = lint chapter
    (∀ u, Respaced false (Text.lines chapter) (Text.lines u) → Alike u) ∧
    Alike (Text.withReturns chapter) ∧
    (chapter ≠ [] → chapter.getLast? ≠ some '\n' → Alike (chapter ++ ['\n'])) ∧
    ∀ before l after lead trail, chapter = before ++ l ++ after → IsLine before l after →
      (∀ c ∈ lead ++ trail, Text.isBlank c ∧ c ≠ '\n') →
      (lead = [] ∨ (Reader.ofChapter table before).block = none ∧ ¬ HasOpener l) →
      Alike (before ++ (lead ++ l ++ trail) ++ after) := by
  intro Alike
  have of_respaced {u : Text} (h : Respaced false (Text.lines chapter) (Text.lines u)) : Alike u :=
    alike_of_respaced h table
  refine ⟨fun u => of_respaced, ?_, fun hne hl => ?_, ?_⟩
  · exact of_respaced (.of_forall₂ (trails_withReturns chapter) false)
  · refine of_respaced ?_
    rw [Text.lines_append_final hne hl]
    exact .refl false _
  · rintro before l after lead trail rfl hl hb hlead
    obtain ⟨hbl, hbt⟩ := List.forall_mem_append.1 hb
    have hm : IsLine before (lead ++ l ++ trail) after := by
      refine ⟨hl.starts, ?_, hl.ends.imp_right fun ⟨ha, hne⟩ => ⟨ha, by simp [hne]⟩⟩
      simp only [List.mem_append, not_or]
      exact ⟨⟨fun h => (hbl _ h).2 rfl, hl.newline_notMem⟩, fun h => (hbt _ h).2 rfl⟩
    refine of_respaced ?_
    rw [hl.lines_eq, hm.lines_eq]
    refine Respaced.append (r := {}) table _ (.cons ?_ (.refl _ _))
    refine ⟨lead, trail, rfl, fun c hc => (hb c hc).1, hlead.imp_right fun ⟨ho, hn⟩ => ⟨?_, hn⟩⟩
    exact Option.isSome_eq_false_iff.2 (Option.isNone_iff_eq_none.2 ho)

/-- A block whose inner line keeps its own indent, and a line after it that gets one. -/
theorem parse_lint_respaced_around_block :
    let chapter := "0600.0Void>>\n  kept\n[INSERTION_END]\nOne.".toList
    let u := "0600.0Void>> \n  kept\r\n[INSERTION_END]\t\n\tOne.\n".toList
    Respaced false (Text.lines chapter) (Text.lines u) ∧
      parse ⟨[]⟩ u = parse ⟨[]⟩ chapter ∧ lint u = lint chapter := by
  intro chapter u
  have hc : Text.lines chapter =
      ["0600.0Void>>".toList, "  kept".toList, "[INSERTION_END]".toList, "One.".toList] := by
    decide
  have hu : Text.lines u = ["0600.0Void>> ".toList, "  kept\r".toList,
      "[INSERTION_END]\t".toList, "\tOne.".toList] := by
    decide
  have hr : Respaced false (Text.lines chapter) (Text.lines u) := by
    rw [hc, hu]
    refine .cons ⟨[], [' '], rfl, List.forall_mem_singleton.2 rfl, .inl rfl⟩ ?_
    refine .cons ⟨[], ['\r'], rfl, List.forall_mem_singleton.2 rfl, .inl rfl⟩ ?_
    refine .cons ⟨[], ['\t'], rfl, List.forall_mem_singleton.2 rfl, .inl rfl⟩ ?_
    exact .cons ⟨['\t'], [], rfl, List.forall_mem_singleton.2 rfl, .inr ⟨rfl, by decide⟩⟩ .nil
  exact ⟨hr, (parse_lint_respaced ⟨[]⟩ chapter).1 u hr⟩

end SerialNovel
