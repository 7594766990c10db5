import SerialNovel.Proofs.Markup.Paragraph
import SerialNovel.Proofs.Text.Trim

namespace SerialNovel.Paragraph

variable {l m : Text}

/-- CJK punctuation, hiragana, katakana, full-width forms, ideographs and their first extension. -/
def cjkBlocks : List (Nat × Nat) :=
  [(0x3000, 0x303F), (0x3040, 0x309F), (0x30A0, 0x30FF), (0xFF00, 0xFF9F), (0x4E00, 0x9FAF),
    (0x3400, 0x4DBF)]

/-- Whether the last character of a line or the first of the next one is CJK. -/
def MeetsCjk (l m : Text) : Prop :=
  ∃ c, (c ∈ l.getLast? ∨ c ∈ m.head?) ∧ ∃ b ∈ cjkBlocks, b.1 ≤ c.toNat ∧ c.toNat ≤ b.2

theorem isCjk_iff {c : Char} : isCjk c ↔ ∃ b ∈ cjkBlocks, b.1 ≤ c.toNat ∧ c.toNat ≤ b.2 := by
  simp [isCjk, cjkBlocks]
  omega

theorem touchesCjk_iff : touchesCjk l.getLast? m.head? ↔ MeetsCjk l m := by
  rw [touchesCjk, Bool.or_eq_true, Option.any_eq_true, Option.any_eq_true, ← exists_or]
  simp only [MeetsCjk, isCjk_iff, or_and_right, Option.mem_def]

instance (l m : Text) : Decidable (MeetsCjk l m) := decidable_of_iff _ touchesCjk_iff

def gaps (ls : List Text) : List Text :=
  List.zipWith (fun l m => if MeetsCjk l m then [] else [' ']) ls ls.tail

theorem gaps_cons_cons (l m : Text) (ls : List Text) :
    gaps (l :: m :: ls) = gap l.getLast? m.head? :: gaps (m :: ls) := by
  simp only [gap, touchesCjk_iff]
  rfl

/-- Each line is followed by the gap behind it, and the last one by nothing. -/
theorem join_eq_flatten (ls : List Text) :
    join ls = (List.zipWith (· ++ ·) ls (gaps ls ++ [[]])).flatten := by
  induction ls with
  | nil => rfl
  | cons l ls ih =>
    cases ls with
    | nil => simp [join, joinAfter, gaps]
    | cons m ls =>
      rw [join_cons_cons, gaps_cons_cons, ih, List.cons_append, List.zipWith_cons_cons,
        List.flatten_cons, List.append_assoc]

theorem joinAfter_cons (c : Option Char) (l : Text) (ls : List Text) :
    joinAfter c (l :: ls) = gap c l.head? ++ join (l :: ls) := by
  rw [joinAfter, join, List.append_assoc]

/-- The character before the boundary is that of the last line, whatever stands before the lines. -/
theorem joinAfter_append (c : Option Char) (ls : List Text) (l : Text) (ms : List Text) :
    joinAfter c (ls ++ l :: ms) = joinAfter c (ls ++ [l]) ++ joinAfter l.getLast? ms := by
  induction ls generalizing c with
  | nil => simp [joinAfter]
  | cons k ls ih =>
    rw [List.cons_append, joinAfter, ih, List.cons_append, joinAfter,
      List.append_assoc _ _ (joinAfter l.getLast? ms)]

theorem join_append (ls : List Text) (l : Text) (ms : List Text) :
    join (ls ++ l :: ms) = join (ls ++ [l]) ++ joinAfter l.getLast? ms := by
  cases ls with
  | nil => simp [join, joinAfter]
  | cons k ls =>
    rw [List.cons_append, join, joinAfter_append, List.cons_append, join, List.append_assoc]

theorem join_pair (l m : Text) : join [l, m] = l ++ (gap l.getLast? m.head? ++ m) := by
  simp [join, joinAfter]

theorem head?_join_cons (hl : l ≠ []) (ls : List Text) : (join (l :: ls)).head? = l.head? :=
  List.head?_append_of_ne_nil _ hl

theorem getLast?_join_concat (ls : List Text) (hl : l ≠ []) :
    (join (ls ++ [l])).getLast? = l.getLast? := by
  rcases List.eq_nil_or_concat' ls with rfl | ⟨ls, k, rfl⟩
  · simp [join, joinAfter]
  · rw [List.append_assoc, List.singleton_append, join_append, joinAfter, joinAfter,
      List.append_nil, ← List.append_assoc, List.getLast?_append_of_ne_nil _ hl]

theorem trimmed_join {ls : List Text} (hls : ls ≠ []) (h : ∀ l ∈ ls, l ≠ [] ∧ Text.Trimmed l) :
    join ls ≠ [] ∧ Text.Trimmed (join ls) := by
  obtain ⟨l, ms, hfirst⟩ := List.exists_cons_of_ne_nil hls
  obtain ⟨ns, m, hlast⟩ := (List.eq_nil_or_concat' ls).resolve_left hls
  obtain ⟨hl, hlt⟩ := h l (by simp [hfirst])
  obtain ⟨hm, hmt⟩ := h m (by simp [hlast])
  refine ⟨by simp [hfirst, join, hl], ?_, ?_⟩
  · rw [hfirst, head?_join_cons hl]
    exact hlt.start
  · rw [hlast, getLast?_join_concat ns hm]
    exact hmt.stop

/-- Lines without an empty one among them may be joined in two groups first. A paragraph is its lines
as they are and in their order, with one space between two of them where neither the character
before nor the one after is CJK. -/
theorem join_grouped :
    (∀ ls ms : List Text, ls ≠ [] → ms ≠ [] → (∀ l ∈ ls, l ≠ []) → (∀ m ∈ ms, m ≠ []) →
      join (ls ++ ms) = join [join ls, join ms]) ∧
    ∀ ls : List Text, join ls = (List.zipWith (· ++ ·) ls (gaps ls ++ [[]])).flatten := by
  refine ⟨fun ls ms hls hms hl hm => ?_, join_eq_flatten⟩
  obtain ⟨ls, l, rfl⟩ := (List.eq_nil_or_concat' ls).resolve_left hls
  obtain ⟨m, ms, rfl⟩ := List.exists_cons_of_ne_nil hms
  have hlast : (join (ls ++ [l])).getLast? = l.getLast? := getLast?_join_concat ls (hl l (by simp))
  have hhead : (join (m :: ms)).head? = m.head? := head?_join_cons (hm m (by simp)) ms
  calc join (ls ++ [l] ++ m :: ms)
      = join (ls ++ l :: m :: ms) := by rw [List.append_assoc, List.singleton_append]
    _ = join (ls ++ [l]) ++ (gap l.getLast? m.head? ++ join (m :: ms)) := by
      rw [join_append, joinAfter_cons]
    _ = join [join (ls ++ [l]), join (m :: ms)] := by rw [join_pair, hlast, hhead]

/-- A space inside each group and none between them. -/
theorem join_grouped_at_comma :
    let ls := ["Wait".toList, "here，".toList]
    let ms := ["then".toList, "go".toList]
    ls ≠ [] ∧ ms ≠ [] ∧ (∀ l ∈ ls, l ≠ []) ∧ (∀ m ∈ ms, m ≠ []) ∧
    join (ls ++ ms) = join [join ls, join ms] ∧
    join (ls ++ ms) = "Wait here，then go".toList := by
  intro ls ms
  have hls : ls ≠ [] := List.cons_ne_nil _ _
  have hms : ms ≠ [] := List.cons_ne_nil _ _
  have hl : ∀ l ∈ ls, l ≠ [] := by decide
  have hm : ∀ m ∈ ms, m ≠ [] := by decide
  exact ⟨hls, hms, hl, hm, join_grouped.1 ls ms hls hms hl hm, by decide⟩

/-- An empty line keeps the next one from the character before it. -/
example : join ["中".toList, [], "x".toList] = "中 x".toList ∧
    join [join ["中".toList, []], "x".toList] = "中x".toList := by decide

end SerialNovel.Paragraph
