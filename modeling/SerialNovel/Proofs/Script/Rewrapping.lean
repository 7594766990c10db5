import SerialNovel.Proofs.Markup.Joining
import SerialNovel.Proofs.Script.Spacing

namespace SerialNovel

namespace Paragraph

variable {a b : Text} {ls ms : List Text}

theorem join_pair_cons (a : Text) (hb : b ≠ []) (more : List Text) :
    join (join [a, b] :: more) = join (a :: b :: more) := by
  have hlast : (join [a, b]).getLast? = b.getLast? := getLast?_join_concat [a] hb
  rw [join, hlast, join_pair, join, joinAfter]
  simp only [List.append_assoc]

theorem joinAfter_pair (ha : a ≠ []) (hb : b ≠ []) (c : Option Char) (more : List Text) :
    joinAfter c (join [a, b] :: more) = joinAfter c (a :: b :: more) := by
  rw [joinAfter_cons, joinAfter_cons, head?_join_cons ha, join_pair_cons a hb]

theorem join_append_pair (ha : a ≠ []) (hb : b ≠ []) (xs more : List Text) :
    join (xs ++ join [a, b] :: more) = join (xs ++ a :: b :: more) := by
  rcases List.eq_nil_or_concat' xs with rfl | ⟨xs, x, rfl⟩
  · -- there is no gap before the first line of a paragraph
    exact join_pair_cons a hb more
  · rw [List.append_assoc, List.append_assoc, List.singleton_append, List.singleton_append,
      join_append, joinAfter_pair ha hb, ← join_append]

/-- Lines that make the same paragraph, whatever lines follow. -/
structure Alike (ls ms : List Text) : Prop where
  eq_nil_iff : ls = [] ↔ ms = []
  join_append_eq : ∀ more, join (ls ++ more) = join (ms ++ more)

namespace Alike

theorem refl (ls : List Text) : Alike ls ls := ⟨.rfl, fun _ => rfl⟩

theorem append (h : Alike ls ms) (more : List Text) : Alike (ls ++ more) (ms ++ more) where
  eq_nil_iff := by simp [h.eq_nil_iff]
  join_append_eq next := by
    rw [List.append_assoc, List.append_assoc, h.join_append_eq (more ++ next)]

theorem pair (ha : a ≠ []) (hb : b ≠ []) (xs : List Text) :
    Alike (xs ++ [join [a, b]]) (xs ++ [a, b]) where
  eq_nil_iff := by simp
  join_append_eq more := by
    rw [List.append_assoc, List.append_assoc]
    exact join_append_pair ha hb xs more

theorem take_eq {b b' : Buffer} (h : Alike b.lines b'.lines) : b.take = b'.take := by
  have he : b.isEmpty = b'.isEmpty := by
    rw [Bool.eq_iff_iff, Buffer.isEmpty, Buffer.isEmpty, List.isEmpty_iff, List.isEmpty_iff,
      h.eq_nil_iff]
  have hj := h.join_append_eq []
  rw [List.append_nil, List.append_nil] at hj
  rw [Buffer.take, Buffer.take, he, hj]

end Alike

end Paragraph

namespace Reader

/-- Readers that differ in how the prose that waits is broken into lines, if at all. -/
structure Alike (r r' : Reader) : Prop where
  nodes_eq : r.nodes = r'.nodes
  prose : Paragraph.Alike r.prose.lines r'.prose.lines
  block_eq : r.block = r'.block

variable {table : SpeakerTable} {r r' : Reader}

theorem Alike.refl (r : Reader) : Alike r r := ⟨rfl, .refl _, rfl⟩

theorem Alike.endProse_eq (h : Alike r r') (table : SpeakerTable) :
    r.endProse table = r'.endProse table := by
  rw [Reader.endProse_eq, Reader.endProse_eq, paragraph?, paragraph?, h.prose.take_eq, h.nodes_eq,
    h.block_eq]

theorem Alike.endBlock (h : Alike r r') (last : List Text) :
    Alike (r.endBlock last) (r'.endBlock last) := by
  rw [endBlock_eq, endBlock_eq, intercept?, intercept?, h.nodes_eq, h.block_eq]
  exact ⟨rfl, h.prose, rfl⟩

theorem Alike.feed (h : Alike r r') (table : SpeakerTable) (t : Text) :
    Alike (r.feed table t) (r'.feed table t) := by
  have he := h.endProse_eq table
  have hc : LineClass.of r.block.isSome t = LineClass.of r'.block.isSome t := by rw [h.block_eq]
  unfold Reader.feed
  rw [hc]
  cases LineClass.of r'.block.isSome t with
  | opening closed => simpa only [he] using refl _
  | continuing => exact ⟨h.nodes_eq, h.prose, congrArg (Option.map (· ++ [t])) h.block_eq⟩
  | closing => exact h.endBlock [t]
  | directive d => simpa only [he] using refl _
  | blank => simpa only [he] using refl _
  | prose => exact ⟨h.nodes_eq, h.prose.append [Text.trim t], h.block_eq⟩

theorem Alike.foldl_feed (h : Alike r r') (ts : List Text) :
    Alike (ts.foldl (Reader.feed table) r) (ts.foldl (Reader.feed table) r') := by
  induction ts generalizing r r' with
  | nil => exact h
  | cons t ts ih => exact ih (h.feed table t)

theorem Alike.finish_eq (h : Alike r r') : r.finish table = r'.finish table := by
  rw [finish, h.endProse_eq, finish]

theorem feed_of_prose (table : SpeakerTable) {l : Text} (hb : r.block = none) (hl : LineClass.of false l = .prose) :
    r.feed table (Text.trimEnd l) =
      { r with prose := ⟨r.prose.lines ++ [Text.trim l]⟩ } := by
  have ht : Text.trim (Text.trimEnd l) = Text.trim l := Text.trim_trimEnd l
  have hc : LineClass.of r.block.isSome (Text.trimEnd l) = .prose := by
    rw [hb, ← hl, Option.isSome_none, LineClass.of, ht, LineClass.of]
  rw [feed, hc, ht]
  rfl

end Reader

theorem parse_of_lines_eq {t before : Text} {ls : List Text} (table : SpeakerTable)
    (h : Text.lines t = Text.lines before ++ ls) : parse table t =
      ((ls.map Text.trimEnd).foldl (Reader.feed table) (Reader.ofChapter table before)).finish
        table := by
  rw [parse, h, List.map_append, List.foldl_append]
  rfl

/-- Another line may follow the first of a text that ends with one. -/
theorem IsLine.lines_pair_eq {before u v after : Text} (hu : IsLine before u ('\n' :: v ++ after))
    (hv : IsLine (before ++ u ++ ['\n']) v after) :
    Text.lines (before ++ (u ++ '\n' :: v) ++ after) =
      Text.lines before ++ u :: v :: Text.lines after.tail := by
  have hlines := hu.lines_eq
  rw [List.cons_append, List.tail_cons, Text.lines_append_of_notMem hv.newline_notMem hv.ends]
    at hlines
  rw [← hlines]
  simp only [List.append_assoc, List.cons_append]

/-- A line of prose outside a block may be broken into two that join to it, and the chapter stays the
same. -/
theorem parse_rewrapped (table : SpeakerTable) {before w after u v : Text}
    (hw : IsLine before w after) (hb : (Reader.ofChapter table before).block = none)
    (hwp : LineClass.of false w = .prose) (hu : '\n' ∉ u) (hup : LineClass.of false u = .prose)
    (hv : '\n' ∉ v) (hvp : LineClass.of false v = .prose)
    (hj : Paragraph.join [Text.trim u, Text.trim v] = Text.trim w) :
    parse table (before ++ (u ++ '\n' :: v) ++ after) = parse table (before ++ w ++ after) := by
  have hends : after.head? = some '\n' ∨ after = [] ∧ v ≠ [] := by
    refine hw.ends.imp_right fun ⟨ha, _⟩ => ⟨ha, ?_⟩
    rintro rfl
    exact LineClass.trim_ne_nil hvp rfl
  have hlines := IsLine.lines_pair_eq ⟨hw.starts, hu, .inl rfl⟩ ⟨.inr (by simp), hv, hends⟩
  rw [parse_of_lines_eq table hlines, parse_of_lines_eq table hw.lines_eq]
  -- the readers after the two lines and after the one differ in their prose alone
  have hpair := Paragraph.Alike.pair (LineClass.trim_ne_nil hup) (LineClass.trim_ne_nil hvp)
    (Reader.ofChapter table before).prose.lines
  rw [hj] at hpair
  generalize Reader.ofChapter table before = r at hb hpair
  have hone : r.feed table (Text.trimEnd w) =
      { r with prose := ⟨r.prose.lines ++ [Text.trim w]⟩ } := Reader.feed_of_prose table hb hwp
  have htwo : (r.feed table (Text.trimEnd u)).feed table (Text.trimEnd v) =
      { r with prose := ⟨r.prose.lines ++ [Text.trim u, Text.trim v]⟩ } := by
    have hnext := Reader.feed_of_prose table
      (r := { r with prose := ⟨r.prose.lines ++ [Text.trim u]⟩ }) hb hvp
    rw [Reader.feed_of_prose table hb hup, hnext, List.append_assoc]
    rfl
  have hr : Reader.Alike (r.feed table (Text.trimEnd w))
      ((r.feed table (Text.trimEnd u)).feed table (Text.trimEnd v)) := by
    rw [hone, htwo]
    exact ⟨rfl, hpair, rfl⟩
  exact (hr.foldl_feed _).finish_eq.symm

/-- A line break where no space is missing, in the middle of a paragraph. -/
theorem parse_rewrapped_between :
    let before := "[[DIVIDER]]\nOne\n".toList
    let u := "  two ".toList
    let v := "三 four\r".toList
    let w := "two三 four".toList
    let after := "\nfive".toList
    IsLine before w after ∧ (Reader.ofChapter ⟨[]⟩ before).block = none ∧
    LineClass.of false w = .prose ∧ '\n' ∉ u ∧ LineClass.of false u = .prose ∧
    '\n' ∉ v ∧ LineClass.of false v = .prose ∧
    Paragraph.join [Text.trim u, Text.trim v] = Text.trim w ∧
    parse ⟨[]⟩ (before ++ (u ++ '\n' :: v) ++ after) =
      [.divider, .narration "One two三 four five".toList] := by
  intro before u v w after
  have hw : IsLine before w after := ⟨.inr (by decide), by decide, .inl (by decide)⟩
  have hb : (Reader.ofChapter ⟨[]⟩ before).block = none := by decide +kernel
  have hwp : LineClass.of false w = .prose := by decide
  have hu : '\n' ∉ u := by decide
  have hup : LineClass.of false u = .prose := by decide
  have hv : '\n' ∉ v := by decide
  have hvp : LineClass.of false v = .prose := by decide
  have hj : Paragraph.join [Text.trim u, Text.trim v] = Text.trim w := by decide
  refine ⟨hw, hb, hwp, hu, hup, hv, hvp, hj, ?_⟩
  rw [parse_rewrapped ⟨[]⟩ hw hb hwp hu hup hv hvp hj]
  decide +kernel

end SerialNovel
