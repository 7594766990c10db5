import SerialNovel.Proofs.Data.Json
import SerialNovel.Proofs.Playback.Steps

namespace SerialNovel

open Fields

/-- A type whose values are read as they are written. -/
class LawfulShaped (α : Type) [Shaped α] : Prop where
  decode?_encode : ∀ a : α, decode? (encode a) = some a

export LawfulShaped (decode?_encode)

theorem mapM_map_encode {α : Type} [Shaped α] {item : Data → Option α}
    (h : ∀ a, item (encode a) = some a) (as : List α) : (as.map encode).mapM item = some as := by
  induction as with
  | nil => rfl
  | cons a as ih => simp [List.mapM_cons, h, ih]

/-- A value is read from its last part, if that is read as it was written. -/
theorem bind_of_read {α β : Type} {read : Option α} {a : α} (h : read = some a) (whole : α → β) :
    (read.bind fun a => some (whole a)) = some (whole a) := by
  rw [h, Option.bind_some]

instance : LawfulShaped Text where
  decode?_encode _ := rfl

instance {α : Type} [Shaped α] [LawfulShaped α] : LawfulShaped (List α) where
  decode?_encode := mapM_map_encode decode?_encode

instance : LawfulShaped SpeakerKey where
  decode?_encode _ := rfl

theorem Style.ofData?_encode (kept : Bool) (s : Style) : ofData? kept (encode s) = some s := by
  cases s <;> rfl

theorem RunKind.ofData?_encode (kept : Bool) (k : RunKind) :
    ofData? kept (encode k) = some k := by
  cases k with
  | styled s => exact congrArg (Option.map styled) (Style.ofData?_encode kept s)
  | _ => rfl

theorem Run.ofData?_encode (kept : Bool) (r : Run) : ofData? kept (encode r) = some r :=
  bind_of_read (RunKind.ofData?_encode kept r.kind) fun kind => Run.mk kind r.text

theorem Run.listOf?_encode (kept : Bool) (rs : List Run) : listOf? kept (encode rs) = some rs :=
  mapM_map_encode (ofData?_encode kept) rs

theorem InterceptLine.ofData?_encode (kept : Bool) (l : InterceptLine) :
    ofData? kept (encode l) = some l := by
  cases l with
  | spacer => rfl
  | text rs => exact congrArg (Option.map text) (Run.listOf?_encode (kept || false) rs)

instance : LawfulShaped RunKind where
  decode?_encode := RunKind.ofData?_encode false

instance : LawfulShaped Run where
  decode?_encode := Run.ofData?_encode false

instance : LawfulShaped InterceptLine where
  decode?_encode := InterceptLine.ofData?_encode false

instance : LawfulShaped Block where
  decode?_encode b := by
    cases b with
    | paragraph speaker rs =>
      have hr := Run.listOf?_encode true rs
      cases speaker with
      | none => exact bind_of_read hr (Block.paragraph none)
      | some key => exact bind_of_read hr (Block.paragraph (some key))
    | comms speaker rs => exact bind_of_read (Run.listOf?_encode true rs) (Block.comms speaker)
    | system rs => exact bind_of_read (Run.listOf?_encode true rs) Block.system
    | intercept signal lines =>
      have hl := mapM_map_encode (InterceptLine.ofData?_encode true) lines
      exact bind_of_read hl (Block.intercept signal)
    | _ => rfl

instance : LawfulShaped Node where
  decode?_encode n := by
    cases n with
    | intercept lines => exact bind_of_read (decode?_encode lines) Node.intercept
    | _ => rfl

instance : LawfulShaped Chapter where
  decode?_encode c := by
    obtain ⟨id, title, content, status, group⟩ := c
    cases status <;> cases group <;> rfl

instance : LawfulShaped Volume where
  decode?_encode v := bind_of_read (decode?_encode v.chapters) (Volume.mk v.id v.title)

instance : LawfulShaped SpeakerEntry where
  decode?_encode e := by
    obtain ⟨key, pattern, role⟩ := e
    cases role <;> rfl

instance : LawfulShaped Identity where
  decode?_encode _ := rfl

structure Timing.Fits (t : Timing) : Prop where
  tick : t.tick ≤ clockLimit
  autoBase : t.autoBase ≤ clockLimit
  richBase : t.richBase ≤ clockLimit
  perChar : t.perChar ≤ clockLimit

theorem decode?_encode_nat {n : Nat} (h : n ≤ clockLimit) : decode? (encode n) = some n :=
  if_pos h

theorem Timing.Fits.decode?_encode {t : Timing} (h : t.Fits) : decode? (encode t) = some t :=
  calc decode? (encode t)
      = (decode? (encode t.tick)).bind fun tick => (decode? (encode t.autoBase)).bind fun autoBase =>
          (decode? (encode t.richBase)).bind fun richBase =>
          (decode? (encode t.perChar)).bind fun perChar =>
          some ⟨tick, autoBase, richBase, perChar⟩ := rfl
    _ = some t := by
        rw [decode?_encode_nat h.tick, decode?_encode_nat h.autoBase, decode?_encode_nat h.richBase,
          decode?_encode_nat h.perChar]
        rfl

theorem le_of_readOr? {fields : List (Text × Data)} {name : String} {fallback n : Nat}
    (hd : fallback ≤ clockLimit) (h : readOr? fields name fallback = some n) : n ≤ clockLimit := by
  unfold readOr? at h
  split at h
  · next d _ =>
    cases d with
    | natural m =>
      obtain ⟨hm, hn⟩ := Option.ite_none_right_eq_some.1 h
      exact Option.some.inj hn ▸ hm
    | _ => cases h
  · exact Option.some.inj h ▸ hd

theorem Timing.fits_of_decode? {d : Data} {t : Timing} (h : decode? d = some t) : t.Fits := by
  obtain ⟨fields, -, h⟩ := Option.bind_eq_some_iff.1 h
  obtain ⟨tick, htick, h⟩ := Option.bind_eq_some_iff.1 h
  obtain ⟨autoBase, hauto, h⟩ := Option.bind_eq_some_iff.1 h
  obtain ⟨richBase, hrich, h⟩ := Option.bind_eq_some_iff.1 h
  obtain ⟨perChar, hper, h⟩ := Option.bind_eq_some_iff.1 h
  obtain rfl := Option.some.inj h
  exact ⟨le_of_readOr? (by decide) htick, le_of_readOr? (by decide) hauto,
    le_of_readOr? (by decide) hrich, le_of_readOr? (by decide) hper⟩

/-- Each value is read from what is written of it, no other is written so, and what is read from
data is so too. -/
structure RoundTrips (α : Type) [Shaped α] : Prop where
  value : ∀ a : α, decode? (encode a) = some a
  text : ∀ a b : α, (encode a).json = (encode b).json → a = b
  data : ∀ d (a : α), decode? d = some a → decode? (encode a) = some a

theorem eq_of_json_eq {α : Type} [Shaped α] [LawfulShaped α] {a b : α}
    (h : (encode a).json = (encode b).json) : a = b := by
  have hd : decode? (encode a) = (decode? (encode b) : Option α) :=
    congrArg decode? (Data.json_injective h)
  rwa [decode?_encode, decode?_encode, Option.some.injEq] at hd

theorem roundTrips (α : Type) [Shaped α] [LawfulShaped α] : RoundTrips α where
  value := decode?_encode
  text _ _ := eq_of_json_eq
  data _ a _ := decode?_encode a

/-- Nodes, blocks, volumes with their chapters, speaker entries and identities are read as they are
written, and so are timings whose times have 64 bits, as all have that are read from data. The texts
that a host gets for a chapter tell its nodes and its page. -/
theorem shapes_round_trip :
    (RoundTrips Node ∧ RoundTrips Block ∧ RoundTrips InterceptLine ∧ RoundTrips Run ∧
      RoundTrips RunKind ∧ RoundTrips Chapter ∧ RoundTrips Volume ∧ RoundTrips SpeakerEntry ∧
      RoundTrips Identity) ∧
    (∀ tick autoBase richBase perChar : UInt64,
      let t : Timing := ⟨tick.toNat, autoBase.toNat, richBase.toNat, perChar.toNat⟩
      decode? (encode t) = some t) ∧
    (∀ d (t : Timing), decode? d = some t → decode? (encode t) = some t) ∧
    (∀ a b, nodesJson a = nodesJson b → parse .builtin a = parse .builtin b) ∧
    ∀ a b, pageJson a = pageJson b →
      Page.render (parse .builtin a) = Page.render (parse .builtin b) := by
  refine ⟨⟨roundTrips _, roundTrips _, roundTrips _, roundTrips _, roundTrips _, roundTrips _,
    roundTrips _, roundTrips _, roundTrips _⟩, ?_, ?_, ?_, ?_⟩
  · intro tick autoBase richBase perChar
    apply Timing.Fits.decode?_encode
    exact ⟨toNat_le_clockLimit tick, toNat_le_clockLimit autoBase, toNat_le_clockLimit richBase,
      toNat_le_clockLimit perChar⟩
  · intro d t h
    exact (Timing.fits_of_decode? h).decode?_encode
  · intro a b h
    exact eq_of_json_eq h
  · intro a b h
    exact eq_of_json_eq h

/-- A volume with a field that no volume has, twice, and with chapters that lack most of their fields,
one of them a list; and a timing that gives one time only, but not twice. -/
theorem shapes_round_trip_with_defaults :
    let chapter : Data := .object [("id".toList, .text "c".toList), ("title".toList, .text []),
      ("group".toList, .null)]
    let volume : Data := .object [("mood".toList, .list [.number]), ("title".toList, .text []),
      ("id".toList, .text "v".toList), ("mood".toList, .null),
      ("chapters".toList, .list [chapter, .list [.text "d".toList, .text []]])]
    let v : Volume := ⟨"v".toList, [], [⟨"c".toList, [], [], .available, none⟩,
      ⟨"d".toList, [], [], .available, none⟩]⟩
    let time := ("per_char_ms".toList, Data.natural 18446744073709551615)
    let timing : Data := .object [time]
    let t : Timing := ⟨30, 1500, 2000, 18446744073709551615⟩
    decode? volume = some v ∧ decode? (encode v) = some v ∧
    decode? timing = some t ∧ decode? (encode t) = some t ∧
    (decode? (.object [time, time]) : Option Timing) = none ∧
    nodesJson "\n".toList = nodesJson [] ∧ parse .builtin "\n".toList = parse .builtin [] := by
  intro chapter volume v time timing t
  have hv : decode? volume = some v := rfl
  have ht : decode? timing = some t := rfl
  have hn : nodesJson "\n".toList = nodesJson [] := rfl
  obtain ⟨⟨-, -, -, -, -, -, volumes, -, -⟩, -, timings, nodes, -⟩ := shapes_round_trip
  exact ⟨hv, volumes.data volume v hv, ht, timings timing t ht, rfl, hn, nodes _ _ hn⟩

end SerialNovel
