import SerialNovel.Proofs.Pattern.Weight
import SerialNovel.Script.Speaker
import Mathlib.Data.List.Perm.Basic
import Mathlib.Data.List.Pairwise
import Mathlib.Tactic.ByContra

namespace SerialNovel

open Pattern

/-- The marks that end a name, in ascending order. -/
def nameMarks : List Char := ['(', ':', '>', '（', '：']

/-- The names of one built-in speaker and the marks that may follow them. -/
structure Listing where
  key : Text
  role : Role := .dialogue
  names : List Text
  marks : List Char := ['(', ':', '（', '：']
  marks_sorted : marks.Pairwise (· < ·) := by decide
  marks_subset : marks ⊆ nameMarks := by decide
  /-- A name is not empty and has no mark in it. -/
  names_apart : ∀ name ∈ names, name ≠ [] ∧ name.all (· ∉ nameMarks) := by decide

namespace Listing

variable {l l' : Listing} {name name' p : Text}

/-- A listed name stands at the start of a paragraph with a mark right behind it. -/
def Heads (l : Listing) (name p : Text) : Prop :=
  name ∈ l.names ∧ ∃ c ∈ l.marks, name ++ [c] <+: p

def Apart (l l' : Listing) : Prop := ∀ name ∈ l.names, name ∉ l'.names

instance : DecidableRel Apart := fun l l' =>
  inferInstanceAs (Decidable (∀ name ∈ l.names, name ∉ l'.names))

instance : Std.Symm Apart where
  symm _ _ h name hn hn' := h name hn' hn

def rule (l : Listing) : SpeakerRule := ⟨⟨l.key⟩, (heading l.names l.marks).program, l.role⟩

theorem Heads.takeWhile_eq (h : l.Heads name p) : p.takeWhile (· ∉ nameMarks) = name := by
  obtain ⟨hn, c, hc, rest, rfl⟩ := h
  have hname := List.all_eq_true.1 (l.names_apart name hn).2
  rw [List.append_assoc, List.takeWhile_append_of_pos hname]
  simp [l.marks_subset hc]

theorem Heads.name_eq (h : l.Heads name p) (h' : l'.Heads name' p) : name = name' :=
  h.takeWhile_eq.symm.trans h'.takeWhile_eq

theorem name?_rule : l.rule.name? p = some name ↔ l.Heads name p := by
  constructor
  · intro h
    obtain ⟨found, hf, rfl⟩ := Option.map_eq_some_iff.1 h
    obtain ⟨name, hn, hp, hg⟩ := of_heading_search? l.marks_sorted hf
    rw [hg, Option.getD_some]
    exact ⟨hn, hp⟩
  · intro h
    obtain ⟨hn, c, hc, hp⟩ := id h
    obtain ⟨found, hf⟩ := Option.isSome_iff_exists.1
      ((isSome_heading_search? l.marks_sorted).2 ⟨name, hn, c, hc, hp⟩)
    obtain ⟨name', hn', hp', hg⟩ := of_heading_search? l.marks_sorted hf
    obtain rfl := h.name_eq (show l.Heads name' p from ⟨hn', hp'⟩)
    rw [SpeakerRule.name?, rule, hf, Option.map_some, hg, Option.getD_some]

theorem attribute?_rule {a : Attribution} :
    l.rule.attribute? p = some a ↔ ∃ name, l.Heads name p ∧ a = ⟨⟨l.key⟩, name, l.role⟩ := by
  rw [SpeakerRule.attribute?, Option.map_eq_some_iff]
  simp only [name?_rule, eq_comm (a := a)]
  rfl

end Listing

/-- An entry whose pattern is read as the heading of a listing. -/
structure Listing.Fits (l : Listing) (e : SpeakerEntry) : Prop where
  key_eq : e.key = l.key
  role_eq : e.role = l.role
  read : ∃ depth, readFrom? e.pattern = some ⟨heading l.names l.marks, depth⟩ ∧ depth ≤ maxDepth

theorem Listing.Fits.ofEntry_eq {l : Listing} {e : SpeakerEntry} (h : l.Fits e)
    (hl : (heading l.names l.marks).isLight) : SpeakerRule.ofEntry e = .ok l.rule := by
  obtain ⟨depth, hr, hd⟩ := h.read
  have hread : read? e.pattern = some (heading l.names l.marks) := by
    rw [read?, hr]
    simp [hd, hl]
  rw [SpeakerRule.ofEntry, hread, h.key_eq, h.role_eq]
  rfl

def listings : List Listing := [
  { key := "point".toList, names := ["零点".toList, "Point".toList, "零點".toList] },
  { key := "zeri".toList, names := ["芷漓".toList, "Zeri".toList] },
  { key := "zelo".toList, names := ["泽洛".toList, "Zelo".toList, "澤洛".toList] },
  { key := "byaki".toList, names := ["白栖".toList, "Byaki".toList, "白棲".toList] },
  { key := "void".toList, names := ["???".toList, "Void".toList, "void".toList], marks := nameMarks },
  { key := "system".toList, role := .system,
    names := ["SYSTEM".toList, "System".toList, "系统".toList, "系統".toList] }]

theorem listings_apart : listings.Pairwise Listing.Apart := by decide

theorem listings_light : ∀ l ∈ listings, (heading l.names l.marks).isLight := by
  have hw : ∀ l ∈ listings, 2 ≤ l.names.length ∧
      headingWeight l.names l.marks .forwards ≤ maxWeight ∧
      headingWeight l.names l.marks .backwards ≤ maxWeight := by decide +kernel
  intro l hl
  obtain ⟨hn, hf, hb⟩ := hw l hl
  refine isLight_heading hn fun d => ?_
  cases d
  · exact hf
  · exact hb

theorem defaultEntries_fit : List.Forall₂ Listing.Fits listings SpeakerTable.defaultEntries := by
  refine .cons ⟨rfl, rfl, 4, ?_⟩ (.cons ⟨rfl, rfl, 4, ?_⟩ (.cons ⟨rfl, rfl, 4, ?_⟩
    (.cons ⟨rfl, rfl, 4, ?_⟩ (.cons ⟨rfl, rfl, 4, ?_⟩ (.cons ⟨rfl, rfl, 4, ?_⟩ .nil)))))
  all_goals decide +kernel

theorem defaultEntries_read : List.Forall₂ (fun e l => SpeakerRule.ofEntry e = .ok l.rule)
    SpeakerTable.defaultEntries listings := by
  have hfit := (List.forall₂_and_left _ _).2 ⟨listings_light, defaultEntries_fit⟩
  exact List.Forall₂.flip (hfit.imp fun _ _ h => h.2.ofEntry_eq h.1)

/-- The entry can be read and knows who speaks a paragraph. -/
def SpeakerEntry.Hears (e : SpeakerEntry) (p : Text) : Prop :=
  ∃ r, SpeakerRule.ofEntry e = .ok r ∧ (r.attribute? p).isSome

theorem SpeakerEntry.hears_iff {e : SpeakerEntry} {l : Listing} {p : Text}
    (h : SpeakerRule.ofEntry e = .ok l.rule) : e.Hears p ↔ ∃ name, l.Heads name p := by
  simp [Hears, h, SpeakerRule.attribute?, Option.isSome_iff_exists, Listing.name?_rule]

namespace SpeakerTable

variable {es : List SpeakerEntry} {ls : List Listing} {p : Text} {a : Attribution}

theorem ofEntries_eq (h : List.Forall₂ (fun e l => SpeakerRule.ofEntry e = .ok l.rule) es ls) :
    ofEntries es = .ok ⟨ls.map Listing.rule⟩ := by
  have hm : es.mapM SpeakerRule.ofEntry = .ok (ls.map Listing.rule) := by
    induction h with
    | nil => rfl
    | cons he _ ih =>
      rw [List.mapM_cons, he, ih]
      rfl
  rw [ofEntries, hm]
  rfl

theorem eq_of_heads {l l' : Listing} {name : Text} (hl : l ∈ listings) (hl' : l' ∈ listings)
    (h : l.Heads name p) (h' : l'.Heads name p) : l = l' := by
  by_contra hne
  exact listings_apart.forall hl hl' hne name h.1 h'.1

/-- In any order, the table says what the one listing says whose name heads the paragraph. -/
theorem attribute?_listings (h : ls.Perm listings) :
    attribute? ⟨ls.map Listing.rule⟩ p = some a ↔
      ∃ l ∈ listings, ∃ name, l.Heads name p ∧ a = ⟨⟨l.key⟩, name, l.role⟩ := by
  constructor
  · intro ha
    obtain ⟨r, hr, ha⟩ := List.exists_of_findSome?_eq_some ha
    obtain ⟨l, hl, rfl⟩ := List.mem_map.1 hr
    exact ⟨l, h.mem_iff.1 hl, Listing.attribute?_rule.1 ha⟩
  · rintro ⟨l, hl, name, hp, rfl⟩
    have hr : l.rule ∈ ls.map Listing.rule := List.mem_map_of_mem (h.mem_iff.2 hl)
    have hsome : (attribute? ⟨ls.map Listing.rule⟩ p).isSome = true :=
      List.findSome?_isSome_iff.2
        ⟨l.rule, hr, by rw [Listing.attribute?_rule.2 ⟨name, hp, rfl⟩]; rfl⟩
    obtain ⟨b, hb⟩ := Option.isSome_iff_exists.1 hsome
    obtain ⟨r', hr', hb'⟩ := List.exists_of_findSome?_eq_some hb
    obtain ⟨l', hl', rfl⟩ := List.mem_map.1 hr'
    obtain ⟨name', hp', rfl⟩ := Listing.attribute?_rule.1 hb'
    obtain rfl := hp.name_eq hp'
    obtain rfl := eq_of_heads hl (h.mem_iff.1 hl') hp hp'
    exact hb

theorem builtin_attribute? : builtin.attribute? p = some a ↔
    ∃ l ∈ listings, ∃ name, l.Heads name p ∧ a = ⟨⟨l.key⟩, name, l.role⟩ := by
  rw [builtin, ofEntries_eq defaultEntries_read]
  exact attribute?_listings (List.Perm.refl listings)

theorem not_hears_both (p : Text) :
    defaultEntries.Pairwise fun e e' => ¬ (e.Hears p ∧ e'.Hears p) := by
  refine List.pairwise_iff_getElem.2 fun i j hi hj hij => ?_
  have hl := defaultEntries_read.length_eq
  have hread (i) (hi : i < defaultEntries.length) :
      SpeakerRule.ofEntry defaultEntries[i] = .ok (listings.get ⟨i, hl ▸ hi⟩).rule :=
    defaultEntries_read.get hi (hl ▸ hi)
  rintro ⟨hh, hh'⟩
  obtain ⟨name, hn⟩ := (SpeakerEntry.hears_iff (hread i hi)).1 hh
  obtain ⟨name', hn'⟩ := (SpeakerEntry.hears_iff (hread j hj)).1 hh'
  obtain rfl := hn.name_eq hn'
  exact List.pairwise_iff_getElem.1 listings_apart i j _ _ hij name hn.1 hn'.1

end SpeakerTable

theorem Listing.Heads.withoutName_eq {l : Listing} {name p : Text} (h : l.Heads name p) :
    ∃ c rest, p = name ++ c :: rest ∧
      Node.withoutName name p = if c = ':' ∨ c = '：' then Text.trimStart rest else p := by
  obtain ⟨hn, c, hc, rest, rfl⟩ := h
  have hb : nameMarks.all fun c => !Text.isBlank c := by decide
  have hc : Text.isBlank c = false := by
    simpa using List.all_eq_true.1 hb c (l.marks_subset hc)
  refine ⟨c, rest, by simp, ?_⟩
  have ht : Text.trimStart (c :: rest) = c :: rest := by
    simp [Text.trimStart, hc]
  have he : name.isEmpty = false := by simpa using (l.names_apart name hn).1
  have ha : Text.after? name (name ++ [c] ++ rest) = some (c :: rest) :=
    Text.after?_eq_some.2 (by simp)
  rw [Node.withoutName, he, ha]
  simp [ht]

/-- No two built-in entries hear a paragraph, so that their order does not matter. Who speaks is told
by the one listed name that heads the paragraph, and the stage cuts that name off where a colon
follows it. -/
theorem SpeakerTable.builtin_speakers (p : Text) :
    defaultEntries.Pairwise (fun e e' => ¬ (e.Hears p ∧ e'.Hears p)) ∧
    (∀ es, es.Perm defaultEntries →
      ∃ table, ofEntries es = .ok table ∧ table.attribute? p = builtin.attribute? p) ∧
    (∀ a, builtin.attribute? p = some a ↔
      ∃ l ∈ listings, ∃ name ∈ l.names, (∃ c ∈ l.marks, name ++ [c] <+: p) ∧
        a = ⟨⟨l.key⟩, name, l.role⟩) ∧
    ∀ key name text, builtin.node p = .dialogue key name text →
      text = p ∧ ∃ c rest, p = name ++ c :: rest ∧
        (Node.dialogue key name text).displayText =
          Quotes.strip (if c = ':' ∨ c = '：' then Text.trimStart rest else p) := by
  refine ⟨not_hears_both p, fun es hes => ?_, fun a => ?_, fun key name text hnode => ?_⟩
  · obtain ⟨ls, hread, hls⟩ := List.perm_comp_forall₂ hes defaultEntries_read
    refine ⟨_, ofEntries_eq hread, Option.ext fun a => ?_⟩
    rw [attribute?_listings hls, builtin_attribute?]
  · rw [builtin_attribute?]
    simp only [Listing.Heads, and_assoc]
  · unfold node at hnode
    split at hnode
    · cases hnode
    · rename_i key name ha
      obtain ⟨rfl, rfl, rfl⟩ := Node.dialogue.inj hnode
      obtain ⟨l, -, name, hp, he⟩ := builtin_attribute?.1 ha
      obtain ⟨-, rfl, -⟩ := Attribution.mk.inj he
      obtain ⟨c, rest, hrest, hcut⟩ := hp.withoutName_eq
      exact ⟨rfl, c, rest, hrest, congrArg Quotes.strip hcut⟩
    · cases hnode

/-- A name with a full-width colon, and the entries from the last to the first. -/
theorem SpeakerTable.builtin_speakers_of_reverse :
    let p := "芷漓： 「走吧」".toList
    let name := "芷漓".toList
    let key : SpeakerKey := ⟨"zeri".toList⟩
    defaultEntries.reverse.Perm defaultEntries ∧
    (∃ table, ofEntries defaultEntries.reverse = .ok table ∧
      table.attribute? p = some ⟨key, name, .dialogue⟩) ∧
    builtin.node p = .dialogue key name p ∧
    ∃ c rest, p = name ++ c :: rest ∧ (Node.dialogue key name p).displayText =
      Quotes.strip (if c = ':' ∨ c = '：' then Text.trimStart rest else p) := by
  intro p name key
  have hperm : defaultEntries.reverse.Perm defaultEntries := List.reverse_perm _
  obtain ⟨-, horder, hspeaker, hshown⟩ := builtin_speakers p
  have ha : builtin.attribute? p = some ⟨key, name, .dialogue⟩ :=
    (hspeaker _).2 ⟨listings.get ⟨1, by decide⟩, List.get_mem _ _, name, by decide,
      ⟨'：', by decide, by decide⟩, rfl⟩
  have hnode : builtin.node p = .dialogue key name p := by rw [node, ha]
  obtain ⟨table, ht, hta⟩ := horder _ hperm
  exact ⟨hperm, ⟨table, ht, hta.trans ha⟩, hnode, (hshown key name p hnode).2⟩

end SerialNovel
