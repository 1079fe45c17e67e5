import Georef.Proofs.Tiff.TrimmedTexts
import Georef.Tiff.Georeference

/-!
# Keys in a trimmed text

The texts of geographic keys are parts of one text, which the key table refers to by place and
length. These are counted in the stored text. Where it is trimmed as the directory is read, a part
that reaches into the trimmed end is taken not to exist, and its key is left out, although the end
of a part is dropped anyway. All other keys are as they are without trimming, and so is the rest of
the georeference.

The module introduces:

* `GeoKey.checkedTable`, `GeoKey.declared` — the key table of a directory, and the keys that it
  declares, as they are stored; `GeoKey.ofRaw?` — the key of a stored one.
* `Georeference.ofKeys directory keys` — what a directory and its keys say.
* `KeySource.Covers source raw` — the text is long enough for a key; `KeySource.Trims full cut` —
  the sources of keys of directories that differ in how texts are trimmed.

`Georeference.ofDirectory?_trimmed` compares the georeferences, and `Georeference.exists_key_lost`
has one key less under the policy that drops NUL characters.
-/

namespace Georef.Tiff

open Cursor (Place Stands)

variable {α : Type}

/-! ## Key tables -/

namespace GeoKey

/-- The key table of a directory; empty if there is none. A table of another type than SHORT, or
without its header, is refused. -/
def checkedTable (directory : Directory) : Except Error (List UInt16) :=
  match directory.value? Tag.geoKeyDirectory with
  | none => .ok []
  | some value =>
    match value.shorts? with
    | some shorts =>
      if shorts.length < 4 then .error (.format (.keyTableTooShort shorts.length)) else .ok shorts
    | none => .error (.format .keyTableNotShort)

/-- The keys that a table declares and has. -/
def declared : List UInt16 → List RawKey
  | _ :: _ :: _ :: count :: rest => (RawKey.ofShorts rest).take count.toNat
  | _ => []

/-- The key of a stored one, if its value exists. -/
def ofRaw? (source : KeySource α) (raw : RawKey) : Option (GeoKey α) :=
  (resolve? source raw).map fun value =>
    { id := raw.id, location := raw.location, count := raw.count, value }

theorem ofShorts_eq [Scalar α] (directory : Directory) (shorts : List UInt16) :
    (ofShorts directory shorts : Except Error (List (GeoKey α))) =
      if shorts.length < 4 then .error (.format (.keyTableTooShort shorts.length))
      else .ok ((declared shorts).filterMap (ofRaw? (KeySource.ofDirectory directory shorts))) := by
  match shorts with
  | [] => rfl
  | [_] => rfl
  | [_, _] => rfl
  | [_, _, _] => rfl
  | _ :: _ :: _ :: _ :: rest =>
    rw [if_neg (by simp only [List.length_cons]; omega)]
    rfl

/-- The keys of a directory are those of the declared ones whose values exist. -/
theorem table_eq [Scalar α] (directory : Directory) :
    (table directory : Except Error (List (GeoKey α))) =
      (checkedTable directory).map fun shorts =>
        (declared shorts).filterMap (ofRaw? (KeySource.ofDirectory directory shorts)) := by
  unfold table checkedTable
  cases directory.value? Tag.geoKeyDirectory with
  | none => rfl
  | some value =>
    dsimp only
    cases value.shorts? with
    | none => rfl
    | some shorts =>
      simp only [ofShorts_eq]
      split <;> rfl

end GeoKey

namespace Georeference

/-- What a directory says besides its keys, and what the keys say. -/
def ofKeys [Scalar α] (directory : Directory) (keys : List (GeoKey α)) : Georeference α :=
  let numbers (tag : UInt16) : List α := ((directory.value? tag).bind Value.numbers?).getD []
  { scale := scaleOf (numbers Tag.modelPixelScale)
    tiePoints := tiePointsOf (numbers Tag.modelTiepoint)
    matrix := matrixOf (numbers Tag.modelTransformation)
    keys
    modelType := (keyOf keys GeoKeyId.modelType).bind GeoKey.short?
    horizontal := (codeOf keys GeoKeyId.projectedType).or (codeOf keys GeoKeyId.geographicType)
    vertical := codeOf keys GeoKeyId.verticalType
    citation := citationKeys.findSome? fun id => (keyOf keys id).bind GeoKey.text? }

theorem ofDirectory?_eq [Scalar α] (directory : Directory) :
    (ofDirectory? directory : Except Error (Option (Georeference α))) =
      if directory.isGeoreferenced then
        (GeoKey.table directory).map fun keys => some (ofKeys directory keys)
      else .ok none := by
  rw [ofDirectory?]
  cases directory.isGeoreferenced with
  | false => rfl
  | true => cases (GeoKey.table directory : Except Error (List (GeoKey α))) <;> rfl

end Georeference

/-! ## Sources of keys -/

/-- A range of what a list starts with is the same range of the list, if it does not reach
further. -/
theorem range?_eq_ite {β : Type} {kept stored : Array β} (h : kept.toList <+: stored.toList)
    (start count : Nat) :
    range? kept start count =
      if start + count ≤ kept.size then range? stored start count else none := by
  have hsize : kept.size ≤ stored.size := h.length_le
  rw [range?, range?]
  by_cases hcover : start + count ≤ kept.size
  · obtain ⟨rest, hrest⟩ := h
    have hlength : start + count ≤ kept.toList.length := hcover
    rw [if_pos hcover, if_pos hcover, if_pos (Nat.le_trans hcover hsize), Array.toList_extract,
      Array.toList_extract, ← hrest, List.extract_eq_take_drop, List.extract_eq_take_drop,
      List.drop_append_of_le_length (by omega), List.take_append_of_le_length]
    rw [List.length_drop]
    omega
  · rw [if_neg hcover, if_neg hcover]

/-- The same for texts that may not be there. -/
theorem bind_range?_of_rel {β : Type} {kept stored : Option (Array β)}
    (h : Option.Rel (fun stored kept => kept.toList <+: stored.toList) stored kept)
    (start count : Nat) :
    (kept.bind fun text => range? text start count) =
      if ∀ text ∈ kept, start + count ≤ text.size then
        stored.bind fun text => range? text start count
      else none := by
  cases h with
  | none => simp
  | some hstart => simp [range?_eq_ite hstart]

namespace KeySource

/-- `Covers source raw`: if the value of a key is a part of the text, then the text is long
enough. -/
def Covers (source : KeySource α) (raw : RawKey) : Prop :=
  raw.location = Tag.geoAsciiParams →
    ∀ text ∈ source.text, raw.offset.toNat + raw.count.toNat ≤ text.size

instance (source : KeySource α) (raw : RawKey) : Decidable (source.Covers raw) :=
  inferInstanceAs (Decidable (_ → ∀ text ∈ source.text, _))

/-- `Trims full cut`: the sources have the same numbers, and `cut` has what the text of `full`
starts with. -/
structure Trims (full cut : KeySource α) : Prop where
  shorts_eq : cut.shorts = full.shorts
  doubles_eq : cut.doubles = full.doubles
  text_rel : Option.Rel (fun stored kept => kept.toList <+: stored.toList) full.text cut.text

theorem trims_ofDirectory [Scalar α] {policy : Terminator} {full cut : Directory}
    (h : Directory.Trims policy full cut) (shorts : List UInt16) :
    Trims (ofDirectory full shorts : KeySource α) (ofDirectory cut shorts) where
  shorts_eq := rfl
  doubles_eq := by
    simp only [ofDirectory, h.value?_eq]
    cases full.value? Tag.geoDoubleParams <;> simp
  text_rel := by
    simp only [ofDirectory, h.value?_eq]
    cases full.value? Tag.geoAsciiParams with
    | none => exact .none
    | some value =>
      rw [Option.map_some, Option.bind_some, Option.bind_some, Value.text?_trimmed]
      cases value.text? with
      | none => exact .none
      | some text => exact .some (by simpa only [List.toList_toArray] using policy.trim_prefix text)

/-- The value of a key in the text is a part of it. -/
theorem resolve?_of_location {source : KeySource α} {raw : RawKey}
    (h : raw.location = Tag.geoAsciiParams) :
    GeoKey.resolve? source raw =
      (source.text.bind fun text => range? text raw.offset.toNat raw.count.toNat).map fun part =>
        .ascii (Text.trimEnd endsKeyText (String.ofList part)) := by
  rw [GeoKey.resolve?, if_neg (by rw [h]; decide), if_neg (by rw [h]; decide),
    if_neg (by rw [h]; decide), if_pos h]

/-- A key that the trimmed text is long enough for has the value that it has without trimming, and
another one has none. -/
theorem Trims.resolve?_eq {full cut : KeySource α} (h : Trims full cut) (raw : RawKey) :
    GeoKey.resolve? cut raw = if cut.Covers raw then GeoKey.resolve? full raw else none := by
  by_cases htext : raw.location = Tag.geoAsciiParams
  · have hcover : cut.Covers raw ↔
        ∀ text ∈ cut.text, raw.offset.toNat + raw.count.toNat ≤ text.size := by
      simp [Covers, htext]
    rw [resolve?_of_location htext, resolve?_of_location htext, bind_range?_of_rel h.text_rel]
    by_cases hlong : cut.Covers raw
    · rw [if_pos hlong, if_pos (hcover.1 hlong)]
    · rw [if_neg hlong, if_neg (mt hcover.2 hlong), Option.map_none]
  · have hcover : cut.Covers raw := fun hlocation => absurd hlocation htext
    rw [if_pos hcover, GeoKey.resolve?, GeoKey.resolve?, h.shorts_eq, h.doubles_eq]
    simp only [if_neg htext]

/-- Trimming leaves out the keys that the text is not long enough for any more, and no others. -/
theorem Trims.filterMap_ofRaw? {full cut : KeySource α} (h : Trims full cut)
    (raws : List RawKey) :
    raws.filterMap (GeoKey.ofRaw? cut) =
      (raws.filter (cut.Covers ·)).filterMap (GeoKey.ofRaw? full) := by
  rw [List.filterMap_filter]
  congr 1
  funext raw
  rw [GeoKey.ofRaw?, h.resolve?_eq, GeoKey.ofRaw?]
  by_cases hcover : cut.Covers raw
  · rw [if_pos hcover, if_pos (decide_eq_true hcover)]
  · rw [if_neg hcover, if_neg (by simpa using hcover), Option.map_none]

end KeySource

/-- Items can be left out without a difference if they come to nothing, and not otherwise. -/
theorem filterMap_filter_eq_iff {β γ : Type} {p : β → Bool} {f : β → Option γ} {items : List β} :
    (items.filter p).filterMap f = items.filterMap f ↔
      ∀ item ∈ items, (f item).isSome → p item := by
  induction items with
  | nil => simp
  | cons item rest ih =>
    rw [List.forall_mem_cons, ← ih]
    cases hitem : f item with
    | none =>
      rw [List.filterMap_cons_none hitem]
      by_cases hp : p item
      · rw [List.filter_cons_of_pos hp, List.filterMap_cons_none hitem]
        simp
      · rw [List.filter_cons_of_neg hp]
        simp
    | some value =>
      rw [List.filterMap_cons_some hitem]
      by_cases hp : p item
      · rw [List.filter_cons_of_pos hp, List.filterMap_cons_some hitem]
        simp [hp]
      · rw [List.filter_cons_of_neg hp]
        -- without the item there is one result less at least
        have hlength : ((rest.filter p).filterMap f).length ≤ (rest.filterMap f).length :=
          (List.filter_sublist.filterMap f).length_le
        constructor
        · intro heq
          rw [heq, List.length_cons] at hlength
          omega
        · rintro ⟨hitem, -⟩
          exact absurd (hitem rfl) hp

/-! ## Georeferences -/

namespace Georeference

variable [Scalar α]

/-- What a directory says besides its keys does not depend on how texts are trimmed. -/
theorem ofKeys_of_trims {policy : Terminator} {full cut : Directory}
    (h : Directory.Trims policy full cut) (keys : List (GeoKey α)) :
    ofKeys cut keys = ofKeys full keys := by
  have hnumbers : ∀ tag, ((cut.value? tag).bind Value.numbers? : Option (List α)) =
      (full.value? tag).bind Value.numbers? := by
    intro tag
    rw [h.value?_eq]
    cases full.value? tag with
    | none => rfl
    | some value => exact Value.numbers?_trimmed policy value α
  simp only [ofKeys, hnumbers]

theorem checkedTable_of_trims {policy : Terminator} {full cut : Directory}
    (h : Directory.Trims policy full cut) :
    GeoKey.checkedTable cut = GeoKey.checkedTable full := by
  unfold GeoKey.checkedTable
  rw [h.value?_eq]
  cases full.value? Tag.geoKeyDirectory with
  | none => rfl
  | some value =>
    rw [Option.map_some]
    dsimp only
    rw [Value.shorts?_trimmed]

variable {ρ : Type} [Reader ρ] [LawfulReader ρ] {data : Bytes} {place : Place} {cursor : Cursor ρ}

/-- The georeference of a directory whose texts are trimmed has the keys that the text is long
enough for, and else says what it says without trimming. -/
theorem ofDirectory?_of_trims {policy : Terminator} {full cut : Directory}
    (h : Directory.Trims policy full cut) :
    (ofDirectory? cut : Except Error (Option (Georeference α))) =
      if full.isGeoreferenced then
        (GeoKey.checkedTable full).map fun shorts => some (ofKeys full
          (((GeoKey.declared shorts).filter
            ((KeySource.ofDirectory cut shorts : KeySource α).Covers ·)).filterMap
              (GeoKey.ofRaw? (KeySource.ofDirectory full shorts))))
      else .ok none := by
  have hkeys : (GeoKey.table cut : Except Error (List (GeoKey α))) =
      (GeoKey.checkedTable full).map fun shorts =>
        ((GeoKey.declared shorts).filter
          ((KeySource.ofDirectory cut shorts : KeySource α).Covers ·)).filterMap
            (GeoKey.ofRaw? (KeySource.ofDirectory full shorts)) := by
    rw [GeoKey.table_eq, checkedTable_of_trims h]
    congr 1
    funext shorts
    exact (KeySource.trims_ofDirectory h shorts).filterMap_ofRaw? _
  rw [ofDirectory?_eq, h.isGeoreferenced_eq, hkeys]
  simp only [ofKeys_of_trims h]
  cases GeoKey.checkedTable full <;> rfl

variable {ρ : Type} [Reader ρ] [LawfulReader ρ] {data : Bytes} {place : Place} {cursor : Cursor ρ}

/-- However texts are trimmed, a directory is read or not, and its georeference is refused, for the
same fault, or is not there, or is there. It then says the same besides its keys. It has the keys
that the trimmed text is long enough for, and so the georeferences are equal if and only if no key
with a value reaches into the end that is trimmed. -/
theorem ofDirectory?_trimmed (h : cursor.Stands data place) (layout : Layout) (policy : Terminator)
    (number : Nat) :
    ((∃ full, (cursor.run (Directory.read { layout } number)).1 = .ok full) ↔
      ∃ cut, (cursor.run (Directory.read { layout, policy } number)).1 = .ok cut) ∧
      ∀ full cut, (cursor.run (Directory.read { layout } number)).1 = .ok full →
        (cursor.run (Directory.read { layout, policy } number)).1 = .ok cut →
          (ofDirectory? cut : Except Error (Option (Georeference α))).map Option.isSome =
            (ofDirectory? full : Except Error (Option (Georeference α))).map Option.isSome ∧
          ∀ reference reference' : Georeference α, ofDirectory? full = .ok (some reference) →
            ofDirectory? cut = .ok (some reference') →
              ∃ (shorts : List UInt16) (source trimmed : KeySource α),
                GeoKey.checkedTable full = .ok shorts ∧
                source = .ofDirectory full shorts ∧ trimmed = .ofDirectory cut shorts ∧
                reference'.scale = reference.scale ∧
                reference'.tiePoints = reference.tiePoints ∧
                reference'.matrix = reference.matrix ∧
                reference.keys = (GeoKey.declared shorts).filterMap (GeoKey.ofRaw? source) ∧
                reference'.keys = ((GeoKey.declared shorts).filter (trimmed.Covers ·)).filterMap
                  (GeoKey.ofRaw? source) ∧
                (reference' = reference ↔ ∀ raw ∈ GeoKey.declared shorts,
                  (GeoKey.ofRaw? source raw).isSome → trimmed.Covers raw) := by
  obtain ⟨hread, htrims⟩ := Directory.trims_of_read h layout policy number
  refine ⟨hread, fun full cut hfull hcut => ?_⟩
  have hreference := ofDirectory?_of_trims (α := α) (htrims full cut hfull hcut)
  have hplain := ofDirectory?_eq (α := α) full
  rw [GeoKey.table_eq] at hplain
  rw [hreference, hplain]
  cases full.isGeoreferenced with
  | false => exact ⟨rfl, fun _ _ hnone => nomatch hnone⟩
  | true =>
    cases GeoKey.checkedTable full with
    | error fault => exact ⟨rfl, fun _ _ hfault => nomatch hfault⟩
    | ok shorts =>
      refine ⟨rfl, fun reference reference' hsome hsome' => ?_⟩
      obtain rfl := Option.some.inj (Except.ok.inj hsome)
      obtain rfl := Option.some.inj (Except.ok.inj hsome')
      refine ⟨shorts, _, _, rfl, rfl, rfl, rfl, rfl, rfl, rfl, rfl, ?_⟩
      -- georeferences of equal keys are equal, so it is the keys that are compared
      constructor
      · intro heq raw hmem hsome
        exact of_decide_eq_true (filterMap_filter_eq_iff.1 (congrArg keys heq) raw hmem hsome)
      · intro hcover
        refine congrArg (ofKeys full) (filterMap_filter_eq_iff.2 fun raw hmem hsome => ?_)
        exact decide_eq_true (hcover raw hmem hsome)

/-! ## A citation that is lost -/

/-- A directory with the code of a geographic system and with a citation, which takes all of the
text: `NAD83`, a bar and a NUL character. -/
def citationDirectory : Bytes := #[
  2, 0,
  175, 135, 3, 0, 12, 0, 0, 0, 30, 0, 0, 0,
  177, 135, 2, 0, 7, 0, 0, 0, 54, 0, 0, 0,
  0, 0, 0, 0,
  1, 0, 1, 0, 0, 0, 2, 0,
  0, 8, 0, 0, 1, 0, 173, 16,
  1, 8, 177, 135, 7, 0, 0, 0,
  78, 65, 68, 56, 51, 124, 0]

/-- A cursor at the start of the directory. -/
def citationCursor : Cursor MemoryReader where
  reader := { data := citationDirectory }
  order := .little
  position := 0
  length := 61

theorem stands_citationCursor : citationCursor.Stands citationDirectory ⟨.little, 0⟩ :=
  ⟨⟨rfl, rfl⟩, rfl, rfl, rfl⟩

theorem readable_citationDirectory (policy : Terminator) :
    Readable { policy } citationDirectory ⟨.little, 0⟩ := by
  rw [Directory.readable_iff_preserve]
  exact ⟨by decide, by decide, by decide, by decide +kernel⟩

/-- The directory is read under every policy. -/
theorem run_citationCursor (policy : Terminator) :
    (citationCursor.run (Directory.read { policy } 0)).1 =
      .ok (.stored { policy } 0 citationDirectory ⟨.little, 0⟩) := by
  obtain ⟨-, hstored⟩ := Directory.read_eq_stored { policy } 0 stands_citationCursor
  obtain ⟨_, hrun, -⟩ := hstored (readable_citationDirectory policy)
  exact congrArg Prod.fst hrun

/-- What the directory says if its text is kept. -/
def citationReference : Georeference Rat where
  scale := none
  tiePoints := []
  matrix := none
  keys := [⟨GeoKeyId.geographicType, 0, 1, .shorts [4269]⟩,
    ⟨GeoKeyId.geographicCitation, Tag.geoAsciiParams, 7, .ascii "NAD83"⟩]
  modelType := none
  horizontal := some 4269
  vertical := none
  citation := some "NAD83"

/-- What it says without the NUL character. -/
def citationReferenceTrimmed : Georeference Rat :=
  { citationReference with
    keys := [⟨GeoKeyId.geographicType, 0, 1, .shorts [4269]⟩]
    citation := none }

theorem ofDirectory?_citation :
    ofDirectory? (.stored {} 0 citationDirectory ⟨.little, 0⟩) = .ok (some citationReference) ∧
      ofDirectory? (.stored { policy := .trimNul } 0 citationDirectory ⟨.little, 0⟩) =
        .ok (some citationReferenceTrimmed) := by
  decide +kernel

/-- The citation reaches into the end that is trimmed, and so it is left out. -/
theorem ofDirectory?_trimmed_citation :
    ∃ (shorts : List UInt16) (source trimmed : KeySource Rat),
      GeoKey.checkedTable (.stored {} 0 citationDirectory ⟨.little, 0⟩) = .ok shorts ∧
      citationReference.keys = (GeoKey.declared shorts).filterMap (GeoKey.ofRaw? source) ∧
      citationReferenceTrimmed.keys = ((GeoKey.declared shorts).filter
        (trimmed.Covers ·)).filterMap (GeoKey.ofRaw? source) ∧
      ¬∀ raw ∈ GeoKey.declared shorts, trimmed.Covers raw := by
  obtain ⟨hfull, hcut⟩ := ofDirectory?_citation
  obtain ⟨-, htrimmed⟩ :=
    ofDirectory?_trimmed (α := Rat) stands_citationCursor .classic .trimNul 0
  obtain ⟨-, htrimmed⟩ := htrimmed _ _ (run_citationCursor .preserve) (run_citationCursor .trimNul)
  obtain ⟨shorts, source, trimmed, htable, -, -, -, -, -, hkeys, hkept, hiff⟩ :=
    htrimmed _ _ hfull hcut
  refine ⟨shorts, source, trimmed, htable, hkeys, hkept, fun hcover => ?_⟩
  have heq := hiff.2 fun raw hmem _ => hcover raw hmem
  exact absurd (congrArg citation heq) (by decide)

/-- A directory whose georeference has a citation, and has none if NUL characters at the end of
texts are dropped. -/
theorem exists_key_lost :
    ∃ (full cut : Directory) (reference reference' : Georeference Rat),
      (citationCursor.run (Directory.read {} 0)).1 = .ok full ∧
      (citationCursor.run (Directory.read { policy := .trimNul } 0)).1 = .ok cut ∧
      ofDirectory? full = .ok (some reference) ∧ ofDirectory? cut = .ok (some reference') ∧
      reference.citation = some "NAD83" ∧ reference'.citation = none ∧
      reference'.keys.length < reference.keys.length := by
  obtain ⟨hfull, hcut⟩ := ofDirectory?_citation
  exact ⟨_, _, _, _, run_citationCursor .preserve, run_citationCursor .trimNul, hfull, hcut, rfl,
    rfl, by decide⟩

end Georeference

end Georef.Tiff
