import SerialNovel.Markup.Inline
import SerialNovel.Proofs.Text.Enclosed
import SerialNovel.Proofs.Text.Pieces
import SerialNovel.Script.Lint

namespace SerialNovel

/-- What stands in a tag stays on its line and reaches up to the nearest closing mark. -/
def Tag.Valid (tag : Tag) : Prop := Text.Enclosable tagClosing tag.content

def Lint.IsTagName (name : Text) : Prop := name ≠ [] ∧ ∀ c ∈ name, isTagChar c

def Lint.lead (name : Text) : Text := "[[".toList ++ name ++ "::".toList

namespace Inline

theorem eq_of_tagOpening_isPrefix {s s' : Style} (h : tagOpening s <+: tagOpening s') : s = s' := by
  revert h
  cases s <;> cases s' <;> decide

theorem tagOpening_inj {s s' : Style} {t : Text} (h : tagOpening s <+: t)
    (h' : tagOpening s' <+: t) : s = s' := by
  rcases List.prefix_or_prefix_of_prefix h h' with hp | hp
  · exact eq_of_tagOpening_isPrefix hp
  · exact (eq_of_tagOpening_isPrefix hp).symm

theorem enclosed?_tag {s : Style} {content t : Text} :
    Text.enclosed? (tagOpening s) tagClosing t = some content ↔
      (Tag.mk s content).Valid ∧ (Tag.mk s content).markup <+: t :=
  Text.enclosed?_eq_some (by decide)

theorem recognises_tagAt? : Text.Recognises tagAt? Tag.markup Tag.Valid where
  spell_ne_nil a := by simp [Tag.markup, Tag.run, Run.styled, Run.markup, tagOpening]
  eq_some_iff := by
    have found {t : Text} {tag : Tag} {width : Nat} (h : tagAt? t = some (tag, width)) :
        tag.Valid ∧ tag.markup <+: t ∧ width = tag.markup.length := by
      obtain ⟨s, -, hs⟩ := List.exists_of_findSome?_eq_some h
      obtain ⟨content, hc, he⟩ := Option.map_eq_some_iff.1 hs
      obtain ⟨rfl, rfl⟩ := Prod.mk.inj he
      obtain ⟨hv, hp⟩ := enclosed?_tag.1 hc
      exact ⟨hv, hp, rfl⟩
    intro t tag width
    refine ⟨found, ?_⟩
    rintro ⟨hv, hp, rfl⟩
    obtain ⟨s, content⟩ := tag
    have hc := enclosed?_tag.2 ⟨hv, hp⟩
    have hs : (tagAt? t).isSome := by
      rw [tagAt?, List.findSome?_isSome_iff]
      exact ⟨s, Style.mem_all s, by simp [hc]⟩
    obtain ⟨⟨⟨s', content'⟩, width⟩, ht⟩ := Option.isSome_iff_exists.1 hs
    obtain ⟨hv', hp', rfl⟩ := found ht
    -- another style that is found first would have its opening at the same place
    have opening {s : Style} {content : Text} (h : (Tag.mk s content).markup <+: t) :
        tagOpening s <+: t := by
      refine List.IsPrefix.trans ?_ h
      exact ⟨content ++ tagClosing, by simp [Tag.markup, Tag.run, Run.styled, Run.markup]⟩
    obtain rfl := tagOpening_inj (opening hp) (opening hp')
    have hc' := enclosed?_tag.2 ⟨hv', hp'⟩
    obtain rfl : content = content' := Option.some.inj (hc.symm.trans hc')
    exact ht

theorem recognises_boldAt? :
    Text.Recognises boldAt? (fun content => (Run.bold content).markup)
      (Text.Enclosable boldMark) where
  spell_ne_nil a := by simp [Run.bold, Run.markup, boldMark]
  eq_some_iff := by
    intro t content width
    have he : Text.enclosed? boldMark boldMark t = some content ↔
        Text.Enclosable boldMark content ∧ (Run.bold content).markup <+: t :=
      Text.enclosed?_eq_some (by decide)
    simp only [boldAt?, Option.map_eq_some_iff, Prod.mk.injEq]
    constructor
    · rintro ⟨c, hc, rfl, rfl⟩
      exact ⟨(he.1 hc).1, (he.1 hc).2, rfl⟩
    · rintro ⟨hv, hp, rfl⟩
      exact ⟨content, he.2 ⟨hv, hp⟩, rfl, rfl⟩

theorem solid_tag : Text.Solid Tag.markup where
  head a := ⟨'[', _, rfl, by decide⟩
  last a := ⟨tagOpening a.style ++ a.content ++ [']'], ']',
    by simp [Tag.markup, Tag.run, Run.styled, Run.markup, tagClosing], by decide⟩

theorem solid_bold : Text.Solid fun content => (Run.bold content).markup where
  head a := ⟨'*', _, rfl, by decide⟩
  last a := ⟨boldMark ++ a ++ ['*'], '*', by simp [Run.bold, Run.markup, boldMark], by decide⟩

end Inline

namespace Lint

theorem isTagChar_colon : isTagChar ':' = false := by decide

theorem recognises_tagNameAt? : Text.Recognises tagNameAt? lead IsTagName where
  spell_ne_nil a := by simp [lead]
  eq_some_iff := by
    intro t name width
    constructor
    · intro h
      obtain ⟨rest, hr, h⟩ := Option.bind_eq_some_iff.1 h
      dsimp only at h
      split at h
      · rename_i hc
        obtain ⟨hne, hs⟩ := Bool.and_eq_true_iff.1 hc
        obtain ⟨rfl, rfl⟩ := Prod.mk.inj (Option.some.inj h)
        obtain ⟨after, ha⟩ := Text.startsWith_iff.1 hs
        refine ⟨⟨by simpa using hne, fun c hx => List.mem_takeWhile_imp hx⟩, ⟨after, ?_⟩, ?_⟩
        · rw [Text.after?_eq_some.1 hr, lead, List.append_assoc, List.append_assoc, ha,
            List.takeWhile_append_dropWhile]
        · simp [lead]
      · simp at h
    · rintro ⟨⟨hne, hall⟩, ⟨after, rfl⟩, rfl⟩
      have hr : Text.after? "[[".toList (lead name ++ after) =
          some (name ++ ("::".toList ++ after)) := Text.after?_eq_some.2 (by simp [lead])
      have ht : (name ++ ("::".toList ++ after)).takeWhile isTagChar = name := by
        rw [List.takeWhile_append_of_pos hall]
        simp [isTagChar_colon]
      have hd : (name ++ ("::".toList ++ after)).dropWhile isTagChar = "::".toList ++ after := by
        rw [List.dropWhile_append_of_pos hall]
        simp [isTagChar_colon]
      have hs : Text.startsWith "::".toList ("::".toList ++ after) = true :=
        Text.startsWith_iff.2 (List.prefix_append _ _)
      simp only [tagNameAt?, hr, ht, hd, hs, Option.bind_eq_bind, Option.bind_some]
      simp [hne, lead]

theorem apart_lead : Text.Apart lead IsTagName := by
  intro a b x y rest ha _ he hx hy hp
  have hbody : '[' ∉ a ++ "::".toList := by
    intro hm
    rcases List.mem_append.1 hm with hm | hm
    · exact absurd (ha.2 _ hm) (by decide)
    · exact absurd hm (by decide)
  obtain ⟨e, y, rfl⟩ := List.exists_cons_of_ne_nil hy
  obtain rfl : '[' = e := (List.cons_prefix_cons.1 hp).1
  match x, hx with
  -- after the first bracket the name follows the second one
  | [_], _ =>
    have he : a ++ "::".toList = y := (List.cons.inj (List.cons.inj he).2).2
    obtain ⟨d, a, rfl⟩ := List.exists_cons_of_ne_nil ha.1
    rw [← he] at hp
    obtain rfl : '[' = d := (List.cons_prefix_cons.1 (List.cons_prefix_cons.1 hp).2).1
    exact hbody List.mem_cons_self
  | _ :: _ :: x, _ =>
    have he : a ++ "::".toList = x ++ '[' :: y := (List.cons.inj (List.cons.inj he).2).2
    rw [he] at hbody
    exact hbody (by simp)

end Lint

end SerialNovel
