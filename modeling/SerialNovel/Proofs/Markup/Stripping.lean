import SerialNovel.Proofs.Markup.Intercept
import SerialNovel.Proofs.Text.Marks

namespace SerialNovel.Intercept

open Text

variable {line m n : Text}

def IsOpener (m : Text) : Prop := ∃ id, IsSignal id ∧ opener id = m

def IsMarker (m : Text) : Prop := IsOpener m ∨ m ∈ closeMarkers

def HasMarker (line : Text) : Prop := HasOpener line ∨ HasCloseMarker line

/-- The kinds of markers, in the order in which a line is read for them. -/
def kinds : List (Text → Prop) := IsOpener :: closeMarkers.map fun mark m => m = mark

def readings : List (Text → Text) := without openerAt? :: closeMarkers.map erase

instance : DecidablePred HasMarker := fun _ => inferInstanceAs (Decidable (_ ∨ _))

theorem hasMarker_iff : HasMarker line ↔ ∃ m, IsMarker m ∧ m <:+: line := by
  constructor
  · rintro (⟨id, hi, h⟩ | ⟨m, hm, h⟩)
    · exact ⟨_, .inl ⟨id, hi, rfl⟩, h⟩
    · exact ⟨m, .inr hm, h⟩
  · rintro ⟨_, ⟨id, hi, rfl⟩ | hm, h⟩
    · exact .inl ⟨id, hi, h⟩
    · exact .inr ⟨_, hm, h⟩

theorem not_hasMarker_iff : ¬ HasMarker line ↔ ∀ m, IsMarker m → ¬ m <:+: line := by
  rw [hasMarker_iff]
  push Not
  rfl

/-- A character of a marker, whatever the digits of its signal are. -/
def shape (c : Char) : Char := if c.isDigit then '0' else c

def shapes : List Text := "0000.0Void>>".toList :: closeMarkers

theorem map_shape_mem_shapes (h : IsMarker m) : m.map shape ∈ shapes := by
  obtain ⟨_, ⟨a, b, c, d, e, rfl, hd⟩, rfl⟩ | hm := h
  · have hs : ∀ x ∈ [a, b, c, d, e], shape x = '0' := fun x hx => if_pos (hd x hx)
    have he : (opener [a, b, c, d, '.', e]).map shape =
        [shape a, shape b, shape c, shape d, '.', shape e] ++ openerEnding := rfl
    simp only [List.forall_mem_cons] at hs
    rw [he, hs.1, hs.2.1, hs.2.2.1, hs.2.2.2.1, hs.2.2.2.2.1]
    exact List.mem_cons_self
  · have hc : ∀ m ∈ closeMarkers, m.map shape ∈ shapes := by decide
    exact hc m hm

theorem IsMarker.ne_nil (h : IsMarker m) : m ≠ [] := by
  rintro rfl
  have hn : [] ∉ shapes := by decide
  exact hn (map_shape_mem_shapes h)

theorem IsMarker.eq_of_prefix (hm : IsMarker m) (hn : IsMarker n) (h : m <+: n) : m = n := by
  have hs : ∀ s ∈ shapes, ∀ r ∈ shapes, s <+: r → s.length = r.length := by decide
  have hl := hs _ (map_shape_mem_shapes hm) _ (map_shape_mem_shapes hn) (h.map shape)
  rw [List.length_map, List.length_map] at hl
  exact h.eq_of_length hl

theorem unambiguous_isMarker : Unambiguous IsMarker where
  ne_nil := IsMarker.ne_nil
  unique := by
    intro m n t hm hn hpm hpn
    rcases List.prefix_or_prefix_of_prefix hpm hpn with h | h
    · exact hm.eq_of_prefix hn h
    · exact (hn.eq_of_prefix hm h).symm
  apart := by
    intro m n x y rest hm hn he hx hy hp
    have hs : ∀ s ∈ shapes, ∀ r ∈ shapes, ∀ k < s.length, 0 < k →
        ¬ (s.drop k <+: r ∨ r <+: s.drop k) := by decide
    have hd : (m.map shape).drop x.length = y.map shape := by
      rw [show m = x ++ y from he, List.map_append, ← List.length_map shape, List.drop_left]
    have hl : x.length < (m.map shape).length := by
      have := List.length_pos_iff.2 hy
      rw [List.length_map, show m = x ++ y from he, List.length_append]
      omega
    refine hs _ (map_shape_mem_shapes hm) _ (map_shape_mem_shapes hn) _ hl
      (List.length_pos_iff.2 hx) ?_
    rw [hd]
    -- what is left of the one and the other start the same text
    rcases List.prefix_or_prefix_of_prefix (List.prefix_append y rest) hp with h | h
    · exact .inl (h.map shape)
    · exact .inr (h.map shape)

theorem takesOut_openers : TakesOut (without openerAt?) IsOpener := by
  refine ⟨_, openerAt?, opener, IsSignal, ⟨?_, ?_⟩, fun m => Iff.rfl, rfl⟩
  · intro t id width
    rw [openerAt?_eq_some]
    refine and_congr_right fun hi => ?_
    obtain ⟨a, b, c, d, e, rfl, -⟩ := hi
    rfl
  · intro id
    simpa using opener_append_ne_nil id []

theorem takesOut_erase {mark : Text} (h : mark ≠ []) : TakesOut (erase mark) (· = mark) := by
  refine ⟨Unit, _, fun _ => mark, fun _ => True, ⟨?_, fun _ => h⟩, fun m => by simp [eq_comm], rfl⟩
  intro t a width
  constructor
  · intro ht
    obtain ⟨rest, hr, he⟩ := Option.map_eq_some_iff.1 ht
    exact ⟨trivial, ⟨rest, (after?_eq_some.1 hr).symm⟩, (Prod.mk.inj he).2.symm⟩
  · rintro ⟨-, ⟨rest, hr⟩, rfl⟩
    rw [after?_eq_some.2 hr.symm]
    rfl

theorem strip_eq_foldl (line : Text) : strip line = readings.foldl (fun t f => f t) line := by
  rw [readings, List.foldl_cons, List.foldl_map]
  rfl

theorem forall₂_takesOut : List.Forall₂ TakesOut readings kinds := by
  refine .cons takesOut_openers ?_
  rw [List.forall₂_map_left_iff, List.forall₂_map_right_iff, List.forall₂_same]
  intro mark hm
  exact takesOut_erase (IsMarker.ne_nil (.inr hm))

theorem isMarker_iff : IsMarker m ↔ ∃ K ∈ kinds, K m := by
  simp [IsMarker, kinds]

theorem isMarker_of_mem_kinds {K : Text → Prop} (hK : K ∈ kinds) (m : Text) (hm : K m) :
    IsMarker m :=
  isMarker_iff.2 ⟨K, hK, hm⟩

theorem pairwise_kinds : kinds.Pairwise fun K L => ∀ m, K m → ¬ L m := by
  refine List.pairwise_cons.2 ⟨?_, ?_⟩
  · rintro _ hL m ⟨id, ⟨a, b, c, d, e, rfl, hd⟩, rfl⟩ he
    obtain ⟨mark, hm, rfl⟩ := List.mem_map.1 hL
    -- an opener starts with a digit, and no close marker does
    have hc : closeMarkers.all fun m => m.head?.all (!·.isDigit) := by decide
    have ha : (!a.isDigit) = true := by
      have := List.all_eq_true.1 hc mark hm
      rwa [← he] at this
    simp [hd a List.mem_cons_self] at ha
  · refine List.pairwise_map.2 ((by decide : closeMarkers.Pairwise (· ≠ ·)).imp ?_)
    rintro a b hne m rfl
    exact hne

theorem strip_eq_self_iff : strip line = line ↔ ¬ HasMarker line := by
  rw [strip_eq_foldl, foldl_eq_self_iff forall₂_takesOut, not_hasMarker_iff]
  constructor
  · intro h m hm
    obtain ⟨K, hK, hk⟩ := isMarker_iff.1 hm
    exact h K hK m hk
  · exact fun h K hK m hm => h m (isMarker_of_mem_kinds hK m hm)

variable {shown : Text}

theorem strip_eq_iff (hn : ¬ HasMarker shown) : strip line = shown ↔ Layered kinds shown line := by
  rw [strip_eq_foldl]
  exact foldl_eq_iff_layered unambiguous_isMarker forall₂_takesOut
    (fun _ hK => isMarker_of_mem_kinds hK) pairwise_kinds (not_hasMarker_iff.1 hn)

theorem strip_of_laced (hn : ¬ HasMarker shown) (h : Laced IsMarker shown line) :
    strip line = shown := by
  rw [strip_eq_foldl]
  have hl := laced_foldl unambiguous_isMarker forall₂_takesOut
    (fun _ hK => isMarker_of_mem_kinds hK) (fun m hm => hm) h (not_hasMarker_iff.1 hn)
  -- no marker is of none of the kinds
  refine hl.eq_of_forall_not ?_
  rintro m ⟨hm, hno⟩
  obtain ⟨K, hK, hk⟩ := isMarker_iff.1 hm
  exact hno K hK hk

/-- Stripping again changes nothing just if the first time has left no marker. A text without
markers is what is left of those lines that it becomes by putting in the close markers, from the last
spelling to the first, and then the openers. Such are all lines with no marker inside another. -/
theorem strip_complete (line : Text) :
    (strip (strip line) = strip line ↔ ¬ HasMarker (strip line)) ∧
      ∀ shown, ¬ HasMarker shown → (strip line = shown ↔ Layered kinds shown line) ∧
        (Laced IsMarker shown line → strip line = shown) :=
  ⟨strip_eq_self_iff, fun _ hn => ⟨strip_eq_iff hn, strip_of_laced hn⟩⟩

theorem strip_complete_message :
    let line := "0600.0Void>>It is【插入结束】 late.".toList
    let shown := "It is late.".toList
    ¬ HasMarker shown ∧ Laced IsMarker shown line ∧ strip line = shown := by
  have hn : ¬ HasMarker "It is late.".toList := by decide
  have hl : Laced IsMarker "It is late.".toList "0600.0Void>>It is【插入结束】 late.".toList := by
    have hlate := Laced.append (Q := IsMarker) .nil " late.".toList
    have hclose := Laced.append (.mark (.inr (by decide : "【插入结束】".toList ∈ closeMarkers)) hlate)
      "It is".toList
    have hd : ['0', '6', '0', '0', '0'].all Char.isDigit := by decide
    have hs : IsSignal "0600.0".toList := ⟨_, _, _, _, _, rfl, List.all_eq_true.1 hd⟩
    exact .mark (.inl ⟨_, hs, rfl⟩) hclose
  exact ⟨hn, hl, ((strip_complete _).2 _ hn).2 hl⟩

/-- A close marker inside another is taken out, and the other comes together. -/
theorem close_marker_left_of_nested :
    let line := "[INSERTION_[INSERTION_END]END]".toList
    HasCloseMarker (strip line) ∧ strip (strip line) ≠ strip line := by
  decide

end SerialNovel.Intercept
