import Georef.Proofs.Tiff.KeyTexts
import Mathlib.Data.List.DropRight

/-!
# What the keys of a directory say

The key table of a directory is untrusted: it may declare more keys than it has, and keys may refer
to places that the table, the numbers or the text of the directory do not have. This module says
which keys come out of it, apart from how they are looked for. A key stands for its own last field,
or for a part of the table, of the numbers or of the text, if the whole part is there. A stored key
that stands for nothing is left out, and the others are as they are without it.

There is one exception. Numbers may be stored in any numeric type, but those in two of the types,
signed bytes and signed integers of eight bytes, are taken not to be there. Keys that refer to them
are left out as well.

The module introduces:

* `Value.allNumbers?` — the numbers of a value, of any numeric type; `Value.isOverlooked` — the two
  types whose numbers are not seen.
* `RawKey.complete table` — the stored keys that a table declares and has, by their places.
* `RawKey.Reads directory table raw value`, `RawKey.Gives` — what a stored key stands for, and the
  key that it is.
* `Picks Stands items results` — what items stand for, where those that stand for nothing are left
  out.
* `FirstKey`, `FirstAmong` — the first key of a number, and the first of several numbers that says
  something; `Georeference.SaysByKeys` — the codes and texts of a georeference by its keys.

`Georeference.ofDirectory?_saysByKeys` describes every georeference, and tells when there is none.
`Georeference.exists_key_overlooked` is a key that is lost with the numbers it refers to.
-/

namespace Georef.Tiff

variable {α : Type}

/-! ## Numbers of every type -/

namespace Value

/-- The numbers of values of any numeric type. Texts are not numbers, nor are bytes of which it is
not known what they stand for. -/
def allNumbers? [Scalar α] : Value → Option (List α)
  | ascii _ | undefined _ | raw .. => none
  | bytes values => some (values.map fun x => Scalar.ofNat x.toNat)
  | shorts values => some (values.map fun x => Scalar.ofNat x.toNat)
  | longs values => some (values.map fun x => Scalar.ofNat x.toNat)
  | offsets values | long8s values => some (values.map fun x => Scalar.ofNat x.toNat)
  | signedBytes values => some (values.map fun x => Scalar.ofInt x.toInt)
  | signedShorts values => some (values.map fun x => Scalar.ofInt x.toInt)
  | signedLongs values => some (values.map fun x => Scalar.ofInt x.toInt)
  | signedLong8s values => some (values.map fun x => Scalar.ofInt x.toInt)
  | rationals values => some (values.map fun x => x.unsigned?.getD Scalar.undefined)
  | signedRationals values => some (values.map fun x => x.signed?.getD Scalar.undefined)
  | floats values => some (values.map Scalar.ofSingle)
  | doubles values => some (values.map Scalar.ofDouble)

/-- Whether values are numbers of a type in which numbers are not seen. -/
def isOverlooked : Value → Bool
  | signedBytes _ | signedLong8s _ => true
  | _ => false

/-- The numbers to compute with are all numbers, but for those of two types. -/
theorem numbers?_eq [Scalar α] (value : Value) :
    (value.numbers? : Option (List α)) =
      if value.isOverlooked then none else value.allNumbers? := by
  cases value <;> simp [numbers?, naturals?, isOverlooked, allNumbers?, Function.comp_def]

theorem text?_eq_some_iff {value : Value} {text : String} :
    value.text? = some text ↔ value = .ascii text := by
  cases value <;> simp [text?]

theorem shorts?_eq_some_iff {value : Value} {table : List UInt16} :
    value.shorts? = some table ↔ value = .shorts table := by
  cases value <;> simp [shorts?]

end Value

/-! ## Parts of lists -/

/-- `IsPart values start count part`: in the list there are `count` values from the place `start`
on, and `part` is made of them. -/
def IsPart {β : Type} (values : List β) (start count : Nat) (part : List β) : Prop :=
  ∃ before after, values = before ++ part ++ after ∧ before.length = start ∧ part.length = count

/-- A range is found if and only if all of it is there. -/
theorem range?_eq_some_iff {β : Type} {values : Array β} {start count : Nat} {part : List β} :
    range? values start count = some part ↔ IsPart values.toList start count part := by
  have hextract : (values.extract start (start + count)).toList =
      (values.toList.drop start).take count := by
    rw [Array.toList_extract, List.extract_eq_take_drop, Nat.add_sub_cancel_left]
  constructor
  · intro h
    rw [range?] at h
    split at h
    · rename_i hfit
      obtain rfl : (values.toList.drop start).take count = part := by
        simpa only [hextract, Option.some.injEq] using h
      refine ⟨values.toList.take start, (values.toList.drop start).drop count, ?_, ?_, ?_⟩
      · rw [List.append_assoc, List.take_append_drop, List.take_append_drop]
      · simp
        omega
      · simp
        omega
    · cases h
  · rintro ⟨before, after, hvalues, rfl, rfl⟩
    have hsize : values.size = before.length + part.length + after.length := by
      rw [← Array.length_toList, hvalues, List.length_append, List.length_append]
    rw [range?, if_pos (by omega), hextract, hvalues, List.append_assoc, List.drop_left,
      List.take_left]

/-- `IsTrimmed part kept`: `kept` is `part` without the bars and the NUL characters at its end. -/
def IsTrimmed (part kept : List Char) : Prop :=
  ∃ dropped, part = kept ++ dropped ∧ (∀ c ∈ dropped, c = '|' ∨ c = '\x00') ∧
    ∀ c, kept.getLast? = some c → ¬(c = '|' ∨ c = '\x00')

theorem endsKeyText_iff {c : Char} : endsKeyText c = true ↔ c = '|' ∨ c = '\x00' := by
  simp [endsKeyText]

theorem trimEnd_endsKeyText (part : List Char) :
    Text.trimEnd endsKeyText (String.ofList part) =
      String.ofList (part.rdropWhile endsKeyText) := by
  rw [Text.trimEnd, String.toList_ofList, List.rdropWhile]

/-- There is one way to drop what ends a text. -/
theorem isTrimmed_iff {part kept : List Char} :
    IsTrimmed part kept ↔ kept = part.rdropWhile endsKeyText := by
  constructor
  · rintro ⟨dropped, rfl, hdropped, hkept⟩
    have hends : ∀ c ∈ dropped.reverse, endsKeyText c = true := fun c hc =>
      endsKeyText_iff.2 (hdropped c (List.mem_reverse.1 hc))
    have hdrop : (kept ++ dropped).rdropWhile endsKeyText = kept.rdropWhile endsKeyText := by
      rw [List.rdropWhile, List.rdropWhile, List.reverse_append,
        List.dropWhile_append_of_pos hends]
    rw [hdrop, eq_comm, List.rdropWhile_eq_self_iff]
    intro hne hlast
    exact hkept _ (List.getLast?_eq_some_getLast hne) (endsKeyText_iff.1 hlast)
  · rintro rfl
    refine ⟨part.rtakeWhile endsKeyText, ?_, fun c hc => ?_, fun c hc => ?_⟩
    · rw [List.rdropWhile, List.rtakeWhile, ← List.reverse_append, List.takeWhile_append_dropWhile,
        List.reverse_reverse]
    · exact endsKeyText_iff.1 (List.mem_rtakeWhile_imp hc)
    · have hne : part.rdropWhile endsKeyText ≠ [] := by
        intro hnil
        rw [hnil] at hc
        cases hc
      rw [List.getLast?_eq_some_getLast hne] at hc
      rw [← endsKeyText_iff, ← Option.some.inj hc]
      exact List.rdropWhile_last_not _ _ hne

/-! ## Stored keys by their places -/

namespace RawKey

/-- The stored key at a place of a table, behind the header of four. -/
def ofPlace (table : List UInt16) (place : Nat) : RawKey where
  id := table.getD (4 * place + 4) 0
  location := table.getD (4 * place + 5) 0
  count := table.getD (4 * place + 6) 0
  offset := table.getD (4 * place + 7) 0

/-- The stored keys that a table declares and has. -/
def complete (table : List UInt16) : List RawKey :=
  (List.range (min (table.getD 3 0).toNat ((table.length - 4) / 4))).map (ofPlace table)

/-- Behind any four values, groups of four are found by their places. -/
theorem ofShorts_eq (a b c d : UInt16) (shorts : List UInt16) :
    ofShorts shorts =
      (List.range (shorts.length / 4)).map (ofPlace (a :: b :: c :: d :: shorts)) := by
  induction shorts using ofShorts.induct generalizing a b c d with
  | case1 id location count offset rest ih =>
    have hlength :
        (id :: location :: count :: offset :: rest).length / 4 = rest.length / 4 + 1 := by
      simp only [List.length_cons]
      omega
    rw [ofShorts, hlength, List.range_succ_eq_map, List.map_cons, List.map_map,
      ih id location count offset]
    rfl
  | case2 shorts hshort =>
    have hlength : shorts.length < 4 := by
      match shorts, hshort with
      | [], _ | [_], _ | [_, _], _ | [_, _, _], _ => simp
      | id :: location :: count :: offset :: rest, hshort =>
        exact absurd rfl (hshort id location count offset rest)
    rw [ofShorts, Nat.div_eq_of_lt hlength, List.range_zero, List.map_nil]
    exact hshort

/-- The keys that are declared are the complete ones. -/
theorem declared_eq (table : List UInt16) : GeoKey.declared table = complete table := by
  match table with
  | [] => rfl
  | [_] => rfl
  | [_, _] => rfl
  | [_, _, _] => simp [GeoKey.declared, complete]
  | a :: b :: c :: count :: rest =>
    rw [GeoKey.declared, ofShorts_eq a b c count, ← List.map_take, List.take_range, complete]
    rfl

/-! ## What stored keys stand for -/

/-- `Reads directory table raw value`: a stored key in the table of a directory stands for the
value. -/
inductive Reads [Scalar α] (directory : Directory) (table : List UInt16) (raw : RawKey) :
    GeoKeyValue α → Prop
  | inKey (h : raw.location = 0) : Reads directory table raw (.shorts [raw.offset])
  | shorts {part : List UInt16} (h : raw.location = Tag.geoKeyDirectory)
    (hpart : IsPart table raw.offset.toNat raw.count.toNat part) :
    Reads directory table raw (.shorts part)
  | doubles {stored : Value} {numbers part : List α} (h : raw.location = Tag.geoDoubleParams)
    (hstored : directory.value? Tag.geoDoubleParams = some stored)
    (hnumbers : stored.allNumbers? = some numbers)
    (hpart : IsPart numbers raw.offset.toNat raw.count.toNat part) :
    Reads directory table raw (.doubles part)
  | text {text : String} {part kept : List Char} (h : raw.location = Tag.geoAsciiParams)
    (hstored : directory.value? Tag.geoAsciiParams = some (.ascii text))
    (hpart : IsPart text.toList raw.offset.toNat raw.count.toNat part)
    (hkept : IsTrimmed part kept) : Reads directory table raw (.ascii (String.ofList kept))

/-- `Gives directory table raw key`: the key is the stored one with what that stands for. -/
structure Gives [Scalar α] (directory : Directory) (table : List UInt16) (raw : RawKey)
    (key : GeoKey α) : Prop where
  id_eq : key.id = raw.id
  location_eq : key.location = raw.location
  count_eq : key.count = raw.count
  reads : raw.Reads directory table key.value

/-- Whether a stored key refers to numbers that are not seen. -/
def isOverlooked (directory : Directory) (raw : RawKey) : Bool :=
  raw.location == Tag.geoDoubleParams &&
    (directory.value? Tag.geoDoubleParams).any Value.isOverlooked

end RawKey

/-- What keys refer to, with the numbers of every type. -/
def KeySource.withAllNumbers [Scalar α] (directory : Directory) (table : List UInt16) :
    KeySource α :=
  { (ofDirectory directory table : KeySource α) with
    doubles := ((directory.value? Tag.geoDoubleParams).bind Value.allNumbers?).map List.toArray }

namespace GeoKey

/-- The value of a key that refers to the key table is a part of it. -/
theorem resolve?_of_shorts {raw : RawKey} (h : raw.location = Tag.geoKeyDirectory)
    (source : KeySource α) :
    resolve? source raw =
      (range? source.shorts raw.offset.toNat raw.count.toNat).map .shorts := by
  rw [resolve?, if_neg (by rw [h]; decide), if_pos h]

/-- The value of a key that refers to numbers is a part of them. -/
theorem resolve?_of_doubles {raw : RawKey} (h : raw.location = Tag.geoDoubleParams)
    (source : KeySource α) :
    resolve? source raw =
      (source.doubles.bind fun values => range? values raw.offset.toNat raw.count.toNat).map
        .doubles := by
  rw [resolve?, if_neg (by rw [h]; decide), if_neg (by rw [h]; decide), if_pos h]

variable [Scalar α] {directory : Directory} {table : List UInt16} {raw : RawKey}

/-- If the numbers of every type were seen, a stored key would have no value but the one it stands
for. -/
theorem reads_of_resolve? {value : GeoKeyValue α}
    (h : resolve? (.withAllNumbers directory table) raw = some value) :
    raw.Reads directory table value := by
  rw [resolve?] at h
  split at h
  · rename_i hlocation
    cases h
    exact .inKey hlocation
  split at h
  · rename_i hlocation
    obtain ⟨part, hpart, rfl⟩ := Option.map_eq_some_iff.1 h
    exact .shorts hlocation (range?_eq_some_iff.1 hpart)
  split at h
  · rename_i hlocation
    obtain ⟨part, hpart, rfl⟩ := Option.map_eq_some_iff.1 h
    obtain ⟨array, harray, hrange⟩ := Option.bind_eq_some_iff.1 hpart
    obtain ⟨numbers, hnumbers, rfl⟩ := Option.map_eq_some_iff.1 harray
    obtain ⟨stored, hstored, hall⟩ := Option.bind_eq_some_iff.1 hnumbers
    exact .doubles hlocation hstored hall (range?_eq_some_iff.1 hrange)
  split at h
  · rename_i hlocation
    obtain ⟨part, hpart, rfl⟩ := Option.map_eq_some_iff.1 h
    obtain ⟨array, harray, hrange⟩ := Option.bind_eq_some_iff.1 hpart
    obtain ⟨text, htext, rfl⟩ := Option.map_eq_some_iff.1 harray
    obtain ⟨stored, hstored, hascii⟩ := Option.bind_eq_some_iff.1 htext
    rw [Value.text?_eq_some_iff.1 hascii] at hstored
    rw [trimEnd_endsKeyText]
    exact .text hlocation hstored (range?_eq_some_iff.1 hrange) (isTrimmed_iff.2 rfl)
  · cases h

/-- If the numbers of every type were seen, a stored key would have the value it stands for. -/
theorem resolve?_of_reads {value : GeoKeyValue α} (h : raw.Reads directory table value) :
    resolve? (.withAllNumbers directory table) raw = some value := by
  cases h with
  | inKey hlocation => rw [resolve?, if_pos hlocation]
  | @shorts part hlocation hpart =>
    rw [resolve?_of_shorts hlocation, Option.map_eq_some_iff]
    exact ⟨part, range?_eq_some_iff.2 hpart, rfl⟩
  | @doubles stored numbers part hlocation hstored hnumbers hpart =>
    rw [resolve?_of_doubles hlocation, Option.map_eq_some_iff]
    refine ⟨part, ?_, rfl⟩
    simp only [KeySource.withAllNumbers, hstored, Option.bind_some, hnumbers, Option.map_some]
    exact range?_eq_some_iff.2 hpart
  | @text text part kept hlocation hstored hpart hkept =>
    rw [KeySource.resolve?_of_location hlocation, Option.map_eq_some_iff]
    refine ⟨part, ?_, by rw [isTrimmed_iff.1 hkept, trimEnd_endsKeyText]⟩
    simp only [KeySource.withAllNumbers, KeySource.ofDirectory, hstored, Option.bind_some,
      Value.text?, Option.map_some]
    exact range?_eq_some_iff.2 hpart

theorem ofRaw?_withAllNumbers_iff {key : GeoKey α} :
    ofRaw? (.withAllNumbers directory table) raw = some key ↔ raw.Gives directory table key := by
  rw [ofRaw?, Option.map_eq_some_iff]
  constructor
  · rintro ⟨value, hvalue, rfl⟩
    exact ⟨rfl, rfl, rfl, reads_of_resolve? hvalue⟩
  · rintro ⟨hid, hlocation, hcount, hreads⟩
    refine ⟨key.value, resolve?_of_reads hreads, ?_⟩
    rw [← hid, ← hlocation, ← hcount]

/-- A stored key has the value it stands for, unless it refers to numbers that are not seen. -/
theorem ofRaw?_ofDirectory :
    (ofRaw? (.ofDirectory directory table) raw : Option (GeoKey α)) =
      if raw.isOverlooked directory then none
      else ofRaw? (.withAllNumbers directory table) raw := by
  by_cases hlocation : raw.location = Tag.geoDoubleParams
  · rw [ofRaw?, ofRaw?, resolve?_of_doubles hlocation, resolve?_of_doubles hlocation,
      RawKey.isOverlooked, hlocation, beq_self_eq_true, Bool.true_and, KeySource.ofDirectory,
      KeySource.withAllNumbers]
    cases directory.value? Tag.geoDoubleParams with
    | none => rfl
    | some stored =>
      simp only [Option.bind_some, Value.numbers?_eq, Option.any_some]
      split <;> rfl
  · -- the sources differ in their numbers only
    have hseen : raw.isOverlooked directory = false := by
      simp [RawKey.isOverlooked, hlocation]
    rw [hseen, if_neg Bool.false_ne_true, ofRaw?, ofRaw?, resolve?, resolve?]
    simp only [if_neg hlocation]
    rfl

end GeoKey

/-! ## Keys that are picked -/

/-- `Picks Means items results`: the results are what the items mean, in the order of the items. An
item that means nothing is left out. -/
inductive Picks {β γ : Type} (Means : β → γ → Prop) : List β → List γ → Prop
  | nil : Picks Means [] []
  | keep {item : β} {result : γ} {items : List β} {results : List γ} (h : Means item result)
    (hrest : Picks Means items results) : Picks Means (item :: items) (result :: results)
  | skip {item : β} {items : List β} {results : List γ} (h : ∀ result, ¬Means item result)
    (hrest : Picks Means items results) : Picks Means (item :: items) results

/-- If an item means one thing at most, there is one way to pick. -/
theorem picks_iff {β γ : Type} {Means : β → γ → Prop} {meaning : β → Option γ}
    (h : ∀ item result, meaning item = some result ↔ Means item result) {items : List β}
    {results : List γ} : Picks Means items results ↔ results = items.filterMap meaning := by
  constructor
  · intro hpicks
    induction hpicks with
    | nil => rfl
    | keep hitem _ ih => rw [List.filterMap_cons_some ((h _ _).2 hitem), ih]
    | @skip item _ _ hitem _ ih =>
      have hnone : meaning item = none :=
        Option.eq_none_iff_forall_ne_some.2 fun result hresult => hitem result ((h _ _).1 hresult)
      rw [List.filterMap_cons_none hnone, ih]
  · rintro rfl
    induction items with
    | nil => exact .nil
    | cons item items ih =>
      cases hitem : meaning item with
      | none =>
        rw [List.filterMap_cons_none hitem]
        refine .skip (fun result hresult => ?_) ih
        rw [(h _ _).2 hresult] at hitem
        cases hitem
      | some result =>
        rw [List.filterMap_cons_some hitem]
        exact .keep ((h _ _).1 hitem) ih

/-- `FirstKey keys id key`: the key is the first one of its number, which is `id`. -/
def FirstKey (keys : List (GeoKey α)) (id : UInt16) (key : GeoKey α) : Prop :=
  ∃ before after, keys = before ++ key :: after ∧ key.id = id ∧ ∀ other ∈ before, other.id ≠ id

/-- `FirstAmong ids Holds result`: of the numbers, the first one that holds anything holds the
result. -/
def FirstAmong {β : Type} (ids : List UInt16) (Holds : UInt16 → β → Prop) (result : β) : Prop :=
  ∃ before id after, ids = before ++ id :: after ∧ Holds id result ∧
    ∀ other ∈ before, ∀ result', ¬Holds other result'

theorem firstAmong_iff {β : Type} {Holds : UInt16 → β → Prop} {held : UInt16 → Option β}
    (h : ∀ id result, held id = some result ↔ Holds id result) {ids : List UInt16} {result : β} :
    ids.findSome? held = some result ↔ FirstAmong ids Holds result := by
  simp only [List.findSome?_eq_some_iff, FirstAmong, Option.eq_none_iff_forall_ne_some, ne_eq, h]

section Holds

variable (keys : List (GeoKey α)) (id : UInt16)

/-- The first key of the number starts with this short. -/
def HoldsShort (short : UInt16) : Prop :=
  ∃ key rest, FirstKey keys id key ∧ key.value = .shorts (short :: rest)

/-- The first key of the number starts with this code. Zero is none, nor is the one that stands for
a system that the file describes. -/
def HoldsCode (code : UInt32) : Prop :=
  ∃ short, HoldsShort keys id short ∧ short ≠ 0 ∧ short ≠ GeoKeyId.userDefined ∧
    code = short.toUInt32

/-- The first key of the number has this text, which is not empty. -/
def HoldsText (text : String) : Prop :=
  ∃ key, FirstKey keys id key ∧ key.value = .ascii text ∧ text ≠ ""

end Holds

namespace Georeference

variable {keys : List (GeoKey α)} {id : UInt16}

/-- `reference.SaysByKeys`: the model type and the codes are those of the first keys of their
numbers, where the projected code comes before the geographic one, and the citation is the first of
the three texts that there is. -/
structure SaysByKeys (reference : Georeference α) : Prop where
  modelType_iff : ∀ short, reference.modelType = some short ↔
    HoldsShort reference.keys GeoKeyId.modelType short
  horizontal_iff : ∀ code, reference.horizontal = some code ↔
    FirstAmong [GeoKeyId.projectedType, GeoKeyId.geographicType] (HoldsCode reference.keys) code
  vertical_iff : ∀ code, reference.vertical = some code ↔
    HoldsCode reference.keys GeoKeyId.verticalType code
  citation_iff : ∀ text, reference.citation = some text ↔
    FirstAmong [GeoKeyId.citation, GeoKeyId.projectedCitation, GeoKeyId.geographicCitation]
      (HoldsText reference.keys) text

theorem keyOf_eq_some_iff {key : GeoKey α} :
    keyOf keys id = some key ↔ FirstKey keys id key := by
  rw [keyOf, List.find?_eq_some_iff_append, FirstKey]
  constructor
  · rintro ⟨hid, before, after, hkeys, hbefore⟩
    exact ⟨before, after, hkeys, by simpa using hid, fun other hmem => by
      simpa using hbefore other hmem⟩
  · rintro ⟨before, after, hkeys, hid, hbefore⟩
    exact ⟨by simpa using hid, before, after, hkeys, fun other hmem => by
      simpa using hbefore other hmem⟩

theorem bind_short?_eq_some_iff {short : UInt16} :
    (keyOf keys id).bind GeoKey.short? = some short ↔ HoldsShort keys id short := by
  rw [Option.bind_eq_some_iff, HoldsShort]
  constructor
  · rintro ⟨key, hkey, hshort⟩
    rw [GeoKey.short?] at hshort
    split at hshort
    · rename_i values hvalue
      obtain ⟨rest, rfl⟩ := List.head?_eq_some_iff.1 hshort
      exact ⟨key, rest, keyOf_eq_some_iff.1 hkey, hvalue⟩
    · cases hshort
  · rintro ⟨key, rest, hkey, hvalue⟩
    exact ⟨key, keyOf_eq_some_iff.2 hkey, by rw [GeoKey.short?, hvalue]; rfl⟩

theorem codeOf_eq_some_iff {code : UInt32} :
    codeOf keys id = some code ↔ HoldsCode keys id code := by
  rw [codeOf, Option.map_eq_some_iff, HoldsCode]
  constructor
  · rintro ⟨short, hshort, rfl⟩
    obtain ⟨hfirst, hcode⟩ := Option.filter_eq_some_iff.1 hshort
    obtain ⟨hzero, huser⟩ := of_decide_eq_true hcode
    exact ⟨short, bind_short?_eq_some_iff.1 hfirst, hzero, huser, rfl⟩
  · rintro ⟨short, hfirst, hzero, huser, rfl⟩
    exact ⟨short, Option.filter_eq_some_iff.2
      ⟨bind_short?_eq_some_iff.2 hfirst, decide_eq_true ⟨hzero, huser⟩⟩, rfl⟩

theorem bind_text?_eq_some_iff {text : String} :
    (keyOf keys id).bind GeoKey.text? = some text ↔ HoldsText keys id text := by
  rw [Option.bind_eq_some_iff, HoldsText]
  constructor
  · rintro ⟨key, hkey, htext⟩
    rw [GeoKey.text?] at htext
    split at htext
    · rename_i held hvalue
      split at htext
      · cases htext
      · rename_i hempty
        cases htext
        exact ⟨key, keyOf_eq_some_iff.1 hkey, hvalue, by simpa using hempty⟩
    · cases htext
  · rintro ⟨key, hkey, hvalue, hempty⟩
    refine ⟨key, keyOf_eq_some_iff.2 hkey, ?_⟩
    rw [GeoKey.text?, hvalue]
    simp [hempty]

/-- What is read off the keys is what they say. -/
theorem saysByKeys_ofKeys [Scalar α] (directory : Directory) (keys : List (GeoKey α)) :
    (ofKeys directory keys).SaysByKeys where
  modelType_iff _ := bind_short?_eq_some_iff
  horizontal_iff code := by
    have hor : (ofKeys directory keys).horizontal =
        [GeoKeyId.projectedType, GeoKeyId.geographicType].findSome? (codeOf keys) := by
      rw [List.findSome?_cons, List.findSome?_singleton, ofKeys]
      cases codeOf keys GeoKeyId.projectedType <;> rfl
    rw [hor]
    exact firstAmong_iff fun _ _ => codeOf_eq_some_iff
  vertical_iff _ := codeOf_eq_some_iff
  citation_iff _ := firstAmong_iff fun _ _ => bind_text?_eq_some_iff

end Georeference

/-! ## Georeferences -/

namespace Directory

/-- `directory.RefusesKeys fault`: there is a key table, but it is not of type SHORT, or it is too
short for a header. -/
inductive RefusesKeys (directory : Directory) : Error → Prop
  | notShort {value : Value} (h : directory.value? Tag.geoKeyDirectory = some value)
    (htype : ∀ table, value ≠ .shorts table) :
    RefusesKeys directory (.format .keyTableNotShort)
  | tooShort {table : List UInt16}
    (h : directory.value? Tag.geoKeyDirectory = some (.shorts table)) (hlength : table.length < 4) :
    RefusesKeys directory (.format (.keyTableTooShort table.length))

variable {directory : Directory}

theorem isGeoreferenced_eq_false_iff :
    directory.isGeoreferenced = false ↔
      ∀ tag ∈ Tag.georeferencing, directory.get? tag = none := by
  rw [← Bool.not_eq_true, isGeoreferenced_iff]
  simp

theorem checkedTable_of_none (h : directory.value? Tag.geoKeyDirectory = none) :
    GeoKey.checkedTable directory = .ok [] := by
  unfold GeoKey.checkedTable
  rw [h]

theorem checkedTable_of_shorts {table : List UInt16}
    (h : directory.value? Tag.geoKeyDirectory = some (.shorts table)) :
    GeoKey.checkedTable directory =
      if table.length < 4 then .error (.format (.keyTableTooShort table.length))
      else .ok table := by
  unfold GeoKey.checkedTable
  rw [h]
  rfl

theorem checkedTable_of_not_shorts {value : Value}
    (h : directory.value? Tag.geoKeyDirectory = some value)
    (htype : ∀ table, value ≠ .shorts table) :
    GeoKey.checkedTable directory = .error (.format .keyTableNotShort) := by
  have hnone : value.shorts? = none := Option.eq_none_iff_forall_ne_some.2 fun table htable =>
    htype table (Value.shorts?_eq_some_iff.1 htable)
  unfold GeoKey.checkedTable
  rw [h]
  dsimp only
  rw [hnone]

/-- The key table is refused for the faults that it has. -/
theorem checkedTable_eq_error_iff {fault : Error} :
    GeoKey.checkedTable directory = .error fault ↔ directory.RefusesKeys fault := by
  constructor
  · intro h
    cases hvalue : directory.value? Tag.geoKeyDirectory with
    | none => simp [checkedTable_of_none hvalue] at h
    | some value =>
      by_cases htype : ∃ table, value = .shorts table
      · obtain ⟨table, rfl⟩ := htype
        rw [checkedTable_of_shorts hvalue] at h
        split at h
        · rename_i hlength
          rw [← Except.error.inj h]
          exact .tooShort hvalue hlength
        · simp at h
      · have hne : ∀ table, value ≠ .shorts table := fun table heq => htype ⟨table, heq⟩
        rw [checkedTable_of_not_shorts hvalue hne] at h
        rw [← Except.error.inj h]
        exact .notShort hvalue hne
  · intro h
    cases h with
    | notShort hvalue htype => exact checkedTable_of_not_shorts hvalue htype
    | tooShort hvalue hlength => rw [checkedTable_of_shorts hvalue, if_pos hlength]

/-- A directory with a key table that is refused has a tag that places its image. -/
theorem RefusesKeys.isGeoreferenced {fault : Error} (h : directory.RefusesKeys fault) :
    directory.isGeoreferenced = true := by
  have hsome : (directory.value? Tag.geoKeyDirectory).isSome := by
    cases h with
    | notShort hvalue => rw [hvalue]; rfl
    | tooShort hvalue => rw [hvalue]; rfl
  rw [value?, Option.isSome_map] at hsome
  exact isGeoreferenced_iff.2 ⟨_, by decide, hsome⟩

end Directory

namespace Georeference

variable [Scalar α]

/-- The keys of a table are those that its stored keys give, without those that refer to numbers
that are not seen. -/
theorem filterMap_ofRaw?_ofDirectory (directory : Directory) (table : List UInt16)
    (raws : List RawKey) :
    (raws.filterMap (GeoKey.ofRaw? (.ofDirectory directory table)) : List (GeoKey α)) =
      (raws.filter fun raw => !raw.isOverlooked directory).filterMap
        (GeoKey.ofRaw? (.withAllNumbers directory table)) := by
  rw [List.filterMap_filter]
  congr 1
  funext raw
  rw [GeoKey.ofRaw?_ofDirectory]
  cases raw.isOverlooked directory <;> rfl

/-- The keys of a table are picked from its stored keys, without those that refer to numbers that
are not seen. All of them are picked if and only if those stand for nothing. -/
theorem picks_declared (directory : Directory) (table : List UInt16) :
    let keys : List (GeoKey α) :=
      (GeoKey.declared table).filterMap (GeoKey.ofRaw? (.ofDirectory directory table))
    Picks (RawKey.Gives directory table)
        ((RawKey.complete table).filter fun raw => !raw.isOverlooked directory) keys ∧
      (Picks (RawKey.Gives directory table) (RawKey.complete table) keys ↔
        ∀ raw ∈ RawKey.complete table, raw.isOverlooked directory →
          ∀ key : GeoKey α, ¬raw.Gives directory table key) := by
  intro keys
  have hkeys : keys =
      ((RawKey.complete table).filter fun raw => !raw.isOverlooked directory).filterMap
        (GeoKey.ofRaw? (.withAllNumbers directory table)) := by
    rw [← filterMap_ofRaw?_ofDirectory, ← RawKey.declared_eq]
  rw [hkeys, picks_iff fun _ _ => GeoKey.ofRaw?_withAllNumbers_iff,
    picks_iff fun _ _ => GeoKey.ofRaw?_withAllNumbers_iff, filterMap_filter_eq_iff]
  refine ⟨rfl, forall₂_congr fun raw _ => ?_⟩
  simp only [← GeoKey.ofRaw?_withAllNumbers_iff, Option.isSome_iff_exists]
  cases raw.isOverlooked directory <;> simp

/-- There is no georeference if and only if no tag places the image, and it is refused if and only
if the key table is, for the same fault. A georeference says by its keys what they say, and these
are given by the stored keys that the table declares and has, in their order: each stands for its
last field, or for a part of the table, of the numbers or of the text if all of the part is there,
and those that stand for nothing are left out. Left out as well are the stored keys that refer to
numbers that are not seen, and so this is all if and only if no such key stands for anything. -/
theorem ofDirectory?_saysByKeys (directory : Directory) :
    ((ofDirectory? directory : Except Error (Option (Georeference α))) = .ok none ↔
        ∀ tag ∈ Tag.georeferencing, directory.get? tag = none) ∧
      (∀ fault, (ofDirectory? directory : Except Error (Option (Georeference α))) = .error fault ↔
        directory.RefusesKeys fault) ∧
      ∀ reference : Georeference α, ofDirectory? directory = .ok (some reference) →
        reference.SaysByKeys ∧
        (directory.value? Tag.geoKeyDirectory = none → reference.keys = []) ∧
        ∀ table, directory.value? Tag.geoKeyDirectory = some (.shorts table) →
          Picks (RawKey.Gives directory table)
            ((RawKey.complete table).filter fun raw => !raw.isOverlooked directory)
            reference.keys ∧
          (Picks (RawKey.Gives directory table) (RawKey.complete table) reference.keys ↔
            ∀ raw ∈ RawKey.complete table, raw.isOverlooked directory →
              ∀ key : GeoKey α, ¬raw.Gives directory table key) := by
  rw [ofDirectory?_eq, GeoKey.table_eq, ← Directory.isGeoreferenced_eq_false_iff]
  simp only [← Directory.checkedTable_eq_error_iff]
  cases hplaced : directory.isGeoreferenced with
  | false =>
    refine ⟨by simp, fun fault => ?_, fun _ hnone => nomatch hnone⟩
    -- where a table is refused, it is one of the tags
    have hnot : GeoKey.checkedTable directory ≠ .error fault := by
      intro hfault
      rw [(Directory.checkedTable_eq_error_iff.1 hfault).isGeoreferenced] at hplaced
      cases hplaced
    simp [hnot]
  | true =>
    cases htable : GeoKey.checkedTable directory with
    | error fault =>
      exact ⟨by simp [Except.map], by simp [Except.map], fun _ hfault => nomatch hfault⟩
    | ok shorts =>
      refine ⟨by simp [Except.map], by simp [Except.map], fun reference hreference => ?_⟩
      obtain rfl := Option.some.inj (Except.ok.inj hreference)
      refine ⟨saysByKeys_ofKeys directory _, fun hnone => ?_, fun table hvalue => ?_⟩
      · rw [Directory.checkedTable_of_none hnone] at htable
        rw [← Except.ok.inj htable]
        simp [ofKeys, GeoKey.declared]
      · obtain rfl : shorts = table := by
          rw [Directory.checkedTable_of_shorts hvalue] at htable
          split at htable
          · simp at htable
          · exact (Except.ok.inj htable).symm
        exact picks_declared directory shorts

/-! ## A key that is overlooked -/

/-- A key table that declares more keys than it has. -/
def signedTable : List UInt16 :=
  [1, 1, 0, 9,
    3072, 0, 1, 32767,
    2048, 0, 1, 4269,
    1026, 34737, 7, 0,
    2057, 34736, 1, 0,
    2059, 34736, 1, 1,
    1024, 0, 1, 2]

/-- A directory with the table. Its projected system is one that the file describes, its citation
has a bar and a NUL character at the end, a key refers to a number that is a signed byte, and
another one to a number that is not there. -/
def signedDirectory : Directory :=
  let entries : List Entry := [
    { tag := Tag.geoKeyDirectory, type := .known .short, count := 28, valueOffset := some 50
      value := .shorts signedTable },
    { tag := Tag.geoDoubleParams, type := .known .signedByte, count := 1
      value := .signedBytes [5] },
    { tag := Tag.geoAsciiParams, type := .known .ascii, count := 7, valueOffset := some 106
      value := .ascii "NAD83|\x00" }]
  entries.foldl (fun directory entry => (directory.insert entry).1) { number := 0, offset := 8 }

/-- What the directory says. -/
def signedReference : Georeference Rat where
  scale := none
  tiePoints := []
  matrix := none
  keys := [
    ⟨GeoKeyId.projectedType, 0, 1, .shorts [GeoKeyId.userDefined]⟩,
    ⟨GeoKeyId.geographicType, 0, 1, .shorts [4269]⟩,
    ⟨GeoKeyId.citation, Tag.geoAsciiParams, 7, .ascii "NAD83"⟩,
    ⟨GeoKeyId.modelType, 0, 1, .shorts [2]⟩]
  modelType := some 2
  horizontal := some 4269
  vertical := none
  citation := some "NAD83"

theorem ofDirectory?_signed : ofDirectory? signedDirectory = .ok (some signedReference) := by
  decide +kernel

/-- The signed byte is what the fourth key stands for, and so this key is not picked. -/
theorem ofDirectory?_saysByKeys_signed :
    signedReference.SaysByKeys ∧
      Picks (RawKey.Gives signedDirectory signedTable)
        ((RawKey.complete signedTable).filter fun raw => !raw.isOverlooked signedDirectory)
        signedReference.keys ∧
      ¬Picks (RawKey.Gives signedDirectory signedTable) (RawKey.complete signedTable)
        signedReference.keys := by
  obtain ⟨-, -, hreference⟩ := ofDirectory?_saysByKeys (α := Rat) signedDirectory
  obtain ⟨hkeys, -, htable⟩ := hreference signedReference ofDirectory?_signed
  obtain ⟨hpicks, hall⟩ := htable signedTable (by decide +kernel)
  refine ⟨hkeys, hpicks, fun hcomplete => ?_⟩
  have hstored : signedDirectory.value? Tag.geoDoubleParams = some (.signedBytes [5]) := by
    decide +kernel
  have hnumbers : (Value.signedBytes [5]).allNumbers? = some ([5] : List Rat) := by
    decide +kernel
  have hgives : RawKey.Gives signedDirectory signedTable ⟨2057, Tag.geoDoubleParams, 1, 0⟩
      (⟨2057, Tag.geoDoubleParams, 1, .doubles [5]⟩ : GeoKey Rat) :=
    ⟨rfl, rfl, rfl, .doubles rfl hstored hnumbers ⟨[], [], rfl, rfl, rfl⟩⟩
  exact hall.1 hcomplete _ (by decide +kernel) (by decide +kernel) _ hgives

/-- A georeference without a key that the table has and that stands for something. -/
theorem exists_key_overlooked :
    ∃ (directory : Directory) (table : List UInt16) (reference : Georeference Rat),
      directory.value? Tag.geoKeyDirectory = some (.shorts table) ∧
      ofDirectory? directory = .ok (some reference) ∧
      ¬Picks (RawKey.Gives directory table) (RawKey.complete table) reference.keys := by
  refine ⟨signedDirectory, signedTable, signedReference, by decide +kernel,
    ofDirectory?_signed, fun hpicks => ?_⟩
  rw [picks_iff fun _ _ => GeoKey.ofRaw?_withAllNumbers_iff] at hpicks
  exact absurd hpicks (by decide +kernel)

end Georeference

end Georef.Tiff
