import FieldSurvey.Proofs.Packed.Announced

/-!
What becomes of a value that is packed and read again. `Value.transit` tells it without any bytes:
numbers lose their type, the entries of a mapping are set one after the other, and a marked mapping
turns into an array. Reading packed bytes gives exactly that, or fails exactly where it does.
-/

namespace FieldSurvey

mutual

/-- What a value is after it has been packed and read again. -/
def Value.transit : Value → Except Error Value
  | .list items => do
      let items ← transitItems items
      return .list items
  | .map entries => do
      let entries ← transitEntries entries []
      Value.restore entries
  | .array shape column => Value.restore (Value.arrayForm shape column)
  | .typed number => number.plain
  | .foreign typeName _ => .error (.unpackable typeName)
  | value => .ok value

def transitItems : List Value → Except Error (List Value)
  | [] => .ok []
  | item :: rest => do
      let item ← item.transit
      let rest ← transitItems rest
      return item :: rest

def transitEntries : List (Value × Value) → List (Value × Value) →
    Except Error (List (Value × Value))
  | [], entries => .ok entries
  | (key, value) :: rest, entries => do
      let key ← key.transit
      let value ← value.transit
      if key.isKey then transitEntries rest (Value.setEntry key value entries)
      else throw .wrongType

end

section Heads

/-- Bytes that do not start like a foreign item. -/
def StartsPlainly (bytes : Bytes) : Prop :=
  ∃ head rest, bytes = head :: rest ∧ announcesTagged [head] = false

theorem StartsPlainly.append {bytes : Bytes} (plain : StartsPlainly bytes) (rest : Bytes) :
    StartsPlainly (bytes ++ rest) := by
  obtain ⟨head, others, rfl, untagged⟩ := plain
  exact ⟨head, others ++ rest, rfl, untagged⟩

theorem StartsPlainly.announcesTagged {bytes : Bytes} (plain : StartsPlainly bytes) :
    announcesTagged bytes = false := by
  obtain ⟨head, rest, rfl, untagged⟩ := plain
  exact untagged

theorem StartsPlainly.length_pos {bytes : Bytes} (plain : StartsPlainly bytes) :
    0 < bytes.length := by
  obtain ⟨head, rest, rfl, _⟩ := plain
  exact Nat.zero_lt_succ _

theorem startsPlainly_of_lt {kind : Nat} (low : kind < 0xc7) (rest : Bytes) :
    StartsPlainly (UInt8.ofNat kind :: rest) := by
  refine ⟨_, rest, rfl, ?_⟩
  have same : (UInt8.ofNat kind).toNat = kind := by
    rw [UInt8.toNat_ofNat', Nat.mod_eq_of_lt (by omega)]
  unfold FieldSurvey.announcesTagged
  simp only [same, Bool.or_eq_false_iff, Bool.and_eq_false_iff, decide_eq_false_iff_not]
  omega

theorem startsPlainly_of_le {kind : Nat} (high : 0xd9 ≤ kind) (isByte : kind < 256)
    (rest : Bytes) : StartsPlainly (UInt8.ofNat kind :: rest) := by
  refine ⟨_, rest, rfl, ?_⟩
  have same : (UInt8.ofNat kind).toNat = kind := by
    rw [UInt8.toNat_ofNat', Nat.mod_eq_of_lt isByte]
  unfold FieldSurvey.announcesTagged
  simp only [same, Bool.or_eq_false_iff, Bool.and_eq_false_iff, decide_eq_false_iff_not]
  omega

theorem startsPlainly_textHead (size : Nat) : StartsPlainly (textHead size) := by
  unfold textHead
  split
  · exact startsPlainly_of_lt (by omega) []
  · split
    · exact ⟨_, _, rfl, rfl⟩
    · split
      · exact ⟨_, _, rfl, rfl⟩
      · exact ⟨_, _, rfl, rfl⟩

theorem startsPlainly_bytesHead (size : Nat) : StartsPlainly (bytesHead size) := by
  unfold bytesHead
  split
  · exact ⟨_, _, rfl, rfl⟩
  · split
    · exact ⟨_, _, rfl, rfl⟩
    · exact ⟨_, _, rfl, rfl⟩

theorem startsPlainly_listHead (size : Nat) : StartsPlainly (listHead size) := by
  unfold listHead
  split
  · exact startsPlainly_of_lt (by omega) []
  · split
    · exact ⟨_, _, rfl, rfl⟩
    · exact ⟨_, _, rfl, rfl⟩

theorem startsPlainly_mapHead (size : Nat) : StartsPlainly (mapHead size) := by
  unfold mapHead
  split
  · exact startsPlainly_of_lt (by omega) []
  · split
    · exact ⟨_, _, rfl, rfl⟩
    · exact ⟨_, _, rfl, rfl⟩

theorem startsPlainly_packWhole {number : Int} {bytes : Bytes}
    (packed : packWhole number = .ok bytes) : StartsPlainly bytes := by
  unfold packWhole at packed
  split at packed
  · split at packed
    · cases packed
      exact startsPlainly_of_lt (by omega) []
    · iterate 4 (
        split at packed
        · cases packed
          exact ⟨_, _, rfl, rfl⟩)
      cases packed
  · split at packed
    · cases packed
      exact startsPlainly_of_le (by omega) (by omega) []
    · iterate 4 (
        split at packed
        · cases packed
          exact ⟨_, _, rfl, rfl⟩)
      cases packed

end Heads

section Scalars

variable {total depth : Nat}

theorem of_sizedHead {head : Nat → Bytes} {size : Nat} {bytes : Bytes}
    (packed : sizedHead head size = .ok bytes) : size < 2 ^ 32 ∧ bytes = head size := by
  unfold sizedHead at packed
  split at packed
  · rename_i fits
    cases packed
    exact ⟨fits, rfl⟩
  · cases packed

theorem takeText_utf8 (content : String) (rest : Bytes) :
    takeText content.toUTF8.data.toList.length (content.toUTF8.data.toList ++ rest) =
      .ok (.text content, rest) := by
  have decoded : String.fromUTF8? content.toUTF8 = some content := by
    unfold String.fromUTF8?
    exact dif_pos content.isValidUTF8
  unfold takeText
  rw [takeBytes_append, ok_bind]
  simp only [Array.toArray_toList]
  rw [decoded]
  rfl

theorem takeValue_packText {content : String} {bytes : Bytes}
    (packed : packText content = .ok bytes) (rest : Bytes) :
    takeValue total (depth + 1) (bytes ++ rest) = .ok (.text content, rest) := by
  unfold packText at packed
  obtain ⟨head, headPacked, packed⟩ := bind_eq_ok.mp packed
  obtain ⟨fits, rfl⟩ := of_sizedHead headPacked
  cases packed
  rw [List.append_assoc, takeValue_textHead fits]
  exact takeText_utf8 content rest

theorem takeValue_packBytes {content bytes : Bytes} (packed : packBytes content = .ok bytes)
    (rest : Bytes) :
    takeValue total (depth + 1) (bytes ++ rest) = .ok (.bytes content, rest) := by
  unfold packBytes at packed
  obtain ⟨head, headPacked, packed⟩ := bind_eq_ok.mp packed
  obtain ⟨fits, rfl⟩ := of_sizedHead headPacked
  cases packed
  rw [List.append_assoc, takeValue_bytesHead fits]
  unfold takeContent
  rw [takeBytes_append]
  rfl

theorem takeValue_real (stored : Double) (rest : Bytes) :
    takeValue total (depth + 1) ((0xcb :: bigEndian 8 stored.bits.toNat) ++ rest) =
      .ok (.real stored, rest) := by
  have fits : stored.bits.toNat < 256 ^ 8 := stored.bits.isLt
  have announced : takeValue total (depth + 1) ((0xcb :: bigEndian 8 stored.bits.toNat) ++ rest) =
      takeNumber 8 (bigEndian 8 stored.bits.toNat ++ rest) >>= fun taken =>
        .ok (.real ⟨BitVec.ofNat 64 taken.1⟩, taken.2) := rfl
  rw [announced, takeNumber_of_lt fits, ok_bind]
  simp only [BitVec.ofNat_toNat, BitVec.setWidth_eq]

theorem takeValue_packScalar {value : Value} {bytes : Bytes}
    (packed : packScalar value = .ok bytes) (rest : Bytes) :
    takeValue total (depth + 1) (bytes ++ rest) = .ok (value, rest) := by
  cases value with
  | null =>
      cases packed
      rfl
  | truth content =>
      cases packed
      cases content with
      | false => rfl
      | true => rfl
  | whole number => exact takeValue_whole packed rest
  | real stored =>
      cases packed
      exact takeValue_real stored rest
  | text content => exact takeValue_packText packed rest
  | bytes content => exact takeValue_packBytes packed rest
  | list items => cases packed
  | map entries => cases packed
  | array shape column => cases packed
  | typed number => cases packed
  | foreign typeName spelling => cases packed

theorem startsPlainly_packScalar {value : Value} {bytes : Bytes}
    (packed : packScalar value = .ok bytes) : StartsPlainly bytes := by
  cases value with
  | null =>
      cases packed
      exact ⟨_, _, rfl, rfl⟩
  | truth content =>
      cases packed
      cases content with
      | false => exact ⟨_, _, rfl, rfl⟩
      | true => exact ⟨_, _, rfl, rfl⟩
  | whole number => exact startsPlainly_packWhole packed
  | real stored =>
      cases packed
      exact ⟨_, _, rfl, rfl⟩
  | text content =>
      obtain ⟨head, headPacked, packed⟩ := bind_eq_ok.mp packed
      obtain ⟨_, rfl⟩ := of_sizedHead headPacked
      cases packed
      exact (startsPlainly_textHead _).append _
  | bytes content =>
      obtain ⟨head, headPacked, packed⟩ := bind_eq_ok.mp packed
      obtain ⟨_, rfl⟩ := of_sizedHead headPacked
      cases packed
      exact (startsPlainly_bytesHead _).append _
  | list items => cases packed
  | map entries => cases packed
  | array shape column => cases packed
  | typed number => cases packed
  | foreign typeName spelling => cases packed

end Scalars

section Values

variable {total depth reach : Nat}

theorem transitItems_wholes (numbers : List Int) :
    transitItems (numbers.map .whole) = .ok (numbers.map .whole) := by
  induction numbers with
  | nil => rfl
  | cons number rest inductionHypothesis =>
      rw [List.map_cons, transitItems, inductionHypothesis]
      rfl

theorem transitEntries_arrayForm (shape : List Nat) (column : Column Value) :
    transitEntries (Value.arrayForm shape column) [] = .ok (Value.arrayForm shape column) := by
  obtain ⟨lengths, sameLengths⟩ : ∃ lengths : List Int,
      ((if shape.isEmpty then [1] else shape).map fun (length : Nat) => Value.whole length) =
        lengths.map .whole := by
    refine ⟨(if shape.isEmpty then [1] else shape).map fun (length : Nat) => (length : Int), ?_⟩
    rw [List.map_map]
    rfl
  unfold Value.arrayForm
  dsimp only
  rw [sameLengths]
  have arrives : Value.transit (.list (lengths.map .whole)) = .ok (.list (lengths.map .whole)) := by
    rw [Value.transit, transitItems_wholes]
    rfl
  simp only [transitEntries, arrives]
  rfl

/-- How a value can have been packed: as a list, as a mapping, or as one that holds no others. -/
theorem packWithin_cases {value : Value} {bytes : Bytes}
    (packed : packWithin (depth + 1) value = .ok bytes) :
    (∃ items, packItems (packWithin depth) items = .ok bytes ∧
      value.transit = (do let items ← transitItems items; return .list items)) ∨
    (∃ entries, packEntries (packWithin depth) entries = .ok bytes ∧
      value.transit = (do let entries ← transitEntries entries []; Value.restore entries)) ∨
    (∃ plain, packScalar plain = .ok bytes ∧ value.transit = .ok plain) := by
  cases value with
  | list items => exact .inl ⟨items, packed, by rw [Value.transit]⟩
  | map entries => exact .inr (.inl ⟨entries, packed, by rw [Value.transit]⟩)
  | array shape column =>
      refine .inr (.inl ⟨Value.arrayForm shape column, packed, ?_⟩)
      rw [transitEntries_arrayForm, Value.transit]
      rfl
  | typed number =>
      obtain ⟨plain, isPlain, packed⟩ := bind_eq_ok.mp packed
      exact .inr (.inr ⟨plain, packed, by rw [Value.transit, isPlain]⟩)
  | null => exact .inr (.inr ⟨.null, packed, rfl⟩)
  | truth content => exact .inr (.inr ⟨.truth content, packed, rfl⟩)
  | whole number => exact .inr (.inr ⟨.whole number, packed, rfl⟩)
  | real stored => exact .inr (.inr ⟨.real stored, packed, rfl⟩)
  | text content => exact .inr (.inr ⟨.text content, packed, rfl⟩)
  | bytes content => exact .inr (.inr ⟨.bytes content, packed, rfl⟩)
  | foreign typeName spelling => cases packed

theorem startsPlainly_packWithin {value : Value} {bytes : Bytes}
    (packed : packWithin depth value = .ok bytes) : StartsPlainly bytes := by
  cases depth with
  | zero => cases packed
  | succ depth =>
      rcases packWithin_cases packed with ⟨items, packed, _⟩ | ⟨entries, packed, _⟩ | ⟨plain, packed, _⟩
      · obtain ⟨head, headPacked, packed⟩ := bind_eq_ok.mp packed
        obtain ⟨_, rfl⟩ := of_sizedHead headPacked
        obtain ⟨parts, _, packed⟩ := bind_eq_ok.mp packed
        cases packed
        exact (startsPlainly_listHead _).append _
      · obtain ⟨head, headPacked, packed⟩ := bind_eq_ok.mp packed
        obtain ⟨_, rfl⟩ := of_sizedHead headPacked
        obtain ⟨parts, _, packed⟩ := bind_eq_ok.mp packed
        cases packed
        exact (startsPlainly_mapHead _).append _
      · exact startsPlainly_packScalar packed

/-- The values that come off the front of some bytes are those that were packed, in transit. -/
def Reads (take : Bytes → Except Error (Value × Bytes)) (pack : Value → Except Error Bytes)
    (total : Nat) : Prop :=
  ∀ value bytes, pack value = .ok bytes → bytes.length ≤ total →
    ∀ rest, take (bytes ++ rest) = (do let value ← value.transit; return (value, rest))

theorem takeItems_packed {take : Bytes → Except Error (Value × Bytes)}
    {pack : Value → Except Error Bytes} (reads : Reads take pack total) {items : List Value}
    {parts : List Bytes} (packed : items.mapM pack = .ok parts)
    (short : parts.flatten.length ≤ total) (rest : Bytes) :
    takeItems take items.length (parts.flatten ++ rest) =
      (do let items ← transitItems items; return (items, rest)) := by
  induction mapM_eq_ok.mp packed with
  | nil => rfl
  | cons firstPacked restPacked inductionHypothesis =>
      rename_i item bytes items parts
      rw [List.flatten_cons, List.length_append] at short
      rw [List.flatten_cons, List.append_assoc, List.length_cons, takeItems,
        reads item bytes firstPacked (by omega), transitItems]
      cases item.transit with
      | error cause => rfl
      | ok arrived =>
          have later := inductionHypothesis (mapM_eq_ok.mpr restPacked) (by omega)
          simp only [ok_bind, pure_eq_ok] at later ⊢
          rw [later]
          cases transitItems items with
          | error cause => rfl
          | ok others => rfl

theorem takeEntries_packed {take : Bytes → Except Error (Value × Bytes)}
    {pack : Value → Except Error Bytes} (reads : Reads take pack total)
    (starts : ∀ value bytes, pack value = .ok bytes → StartsPlainly bytes)
    {entries : List (Value × Value)} {parts : List Bytes}
    (packed : entries.mapM (fun entry => do
      let key ← pack entry.1
      let value ← pack entry.2
      return key ++ value) = .ok parts)
    (short : parts.flatten.length ≤ total) (built : List (Value × Value)) (rest : Bytes) :
    takeEntries take entries.length built (parts.flatten ++ rest) =
      (do let entries ← transitEntries entries built; return (entries, rest)) := by
  induction mapM_eq_ok.mp packed generalizing built with
  | nil => rfl
  | cons firstPacked restPacked inductionHypothesis =>
      rename_i entry bytes entries parts
      obtain ⟨key, value⟩ := entry
      obtain ⟨keyBytes, keyPacked, firstPacked⟩ := bind_eq_ok.mp firstPacked
      obtain ⟨valueBytes, valuePacked, firstPacked⟩ := bind_eq_ok.mp firstPacked
      cases firstPacked
      simp only [List.flatten_cons, List.length_append] at short
      have untagged (rest : Bytes) : announcesTagged (keyBytes ++ rest) = false :=
        ((starts key keyBytes keyPacked).append rest).announcesTagged
      rw [List.flatten_cons, List.append_assoc, List.append_assoc, List.length_cons, takeEntries,
        reads key keyBytes keyPacked (by omega), transitEntries]
      cases key.transit with
      | error cause => rfl
      | ok arrivedKey =>
          simp only [ok_bind, pure_eq_ok]
          rw [reads value valueBytes valuePacked (by omega)]
          cases value.transit with
          | error cause => rfl
          | ok arrivedValue =>
              have later := inductionHypothesis (mapM_eq_ok.mpr restPacked) (by omega)
                (Value.setEntry arrivedKey arrivedValue built)
              simp only [ok_bind, pure_eq_ok, untagged, Bool.or_false] at later ⊢
              split
              · exact later
              · rfl

theorem length_le_flatten {β : Type} {entries : List β} {pack : β → Except Error Bytes}
    {parts : List Bytes} (least : Nat) (packed : entries.mapM pack = .ok parts)
    (long : ∀ entry bytes, pack entry = .ok bytes → least ≤ bytes.length) :
    least * entries.length ≤ parts.flatten.length := by
  induction mapM_eq_ok.mp packed with
  | nil => exact Nat.zero_le _
  | cons firstPacked restPacked inductionHypothesis =>
      rename_i entry bytes entries parts
      have first := long entry bytes firstPacked
      have others := inductionHypothesis (mapM_eq_ok.mpr restPacked)
      rw [List.flatten_cons, List.length_append, List.length_cons, Nat.mul_succ]
      omega

/-- Reading packed bytes gives the value in transit and leaves what follows. The reader may go one
level deeper than the writer went, since it enters a container even where that is empty. -/
theorem takeValue_packWithin {value : Value} {bytes : Bytes}
    (packed : packWithin depth value = .ok bytes) (deepEnough : depth < reach)
    (short : bytes.length ≤ total) (rest : Bytes) :
    takeValue total reach (bytes ++ rest) =
      (do let value ← value.transit; return (value, rest)) := by
  induction depth generalizing value bytes reach rest with
  | zero => cases packed
  | succ depth inductionHypothesis =>
      obtain ⟨reach, rfl⟩ : ∃ deeper, reach = deeper + 1 := ⟨reach - 1, by omega⟩
      -- The parts lie one level deeper and within the same bytes, so the hypothesis holds of each.
      have reads : Reads (takeValue total reach) (packWithin depth) total := by
        intro value bytes packed short rest
        exact inductionHypothesis packed (by omega) short rest
      have enters : ¬ reach = 0 := by omega
      rcases packWithin_cases packed with
        ⟨items, packed, arrives⟩ | ⟨entries, packed, arrives⟩ | ⟨plain, packed, arrives⟩
      · obtain ⟨head, headPacked, packed⟩ := bind_eq_ok.mp packed
        obtain ⟨fits, rfl⟩ := of_sizedHead headPacked
        obtain ⟨parts, partsPacked, packed⟩ := bind_eq_ok.mp packed
        cases packed
        rw [List.length_append] at short
        -- Every item takes a byte at least, so the reader does not refuse the announced size.
        have room := length_le_flatten 1 partsPacked
          fun item bytes packed => (startsPlainly_packWithin packed).length_pos
        have taken := takeItems_packed reads partsPacked (by omega) rest
        rw [List.append_assoc, takeValue_listHead fits, arrives]
        unfold takeList
        rw [if_neg enters, if_neg (by omega), taken]
        cases transitItems items with
        | error cause => rfl
        | ok arrived => rfl
      · obtain ⟨head, headPacked, packed⟩ := bind_eq_ok.mp packed
        obtain ⟨fits, rfl⟩ := of_sizedHead headPacked
        obtain ⟨parts, partsPacked, packed⟩ := bind_eq_ok.mp packed
        cases packed
        rw [List.length_append] at short
        have room := length_le_flatten 2 partsPacked (by
          intro entry bytes packed
          obtain ⟨key, keyPacked, packed⟩ := bind_eq_ok.mp packed
          obtain ⟨value, valuePacked, packed⟩ := bind_eq_ok.mp packed
          cases packed
          have keyLong := (startsPlainly_packWithin keyPacked).length_pos
          have valueLong := (startsPlainly_packWithin valuePacked).length_pos
          rw [List.length_append]
          omega)
        have taken := takeEntries_packed reads (fun _ _ => startsPlainly_packWithin) partsPacked
          (by omega) [] rest
        rw [List.append_assoc, takeValue_mapHead fits, arrives]
        unfold takeMap
        rw [if_neg enters, if_neg (by omega), taken]
        cases transitEntries entries [] with
        | error cause => rfl
        | ok arrived => rfl
      · rw [takeValue_packScalar packed, arrives]
        rfl

theorem unpack_pack {value : Value} {bytes : Bytes} (packed : pack value = .ok bytes) :
    unpack bytes = value.transit := by
  have deepEnough : writingDepth < readingDepth + 1 := by decide
  have taken := takeValue_packWithin packed deepEnough (Nat.le_refl bytes.length) []
  rw [List.append_nil] at taken
  unfold unpack
  rw [taken]
  cases value.transit with
  | error cause => rfl
  | ok arrived => rfl

end Values

end FieldSurvey
