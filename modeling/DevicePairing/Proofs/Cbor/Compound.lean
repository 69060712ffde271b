import DevicePairing.Proofs.Cbor.Lawful
import Mathlib.Data.List.Nodup

set_option autoImplicit false
set_option relaxedAutoImplicit false

namespace DevicePairing.Cbor

open DevicePairing (Bytes)
open DevicePairing.Results
open DevicePairing.Text

namespace Fields

/-- All fields read back what they write. -/
def Lawful (levels : Nat) {αs : List Type} : Fields αs → Prop
  | .none => True
  | .field _ codec more => codec.Lawful levels ∧ more.Lawful levels

def full {αs : List Type} : Fields αs → Tuple αs → Draft αs
  | .none, _ => ()
  | .field _ _ more, (a, as) => (some a, more.full as)

private theorem finish_full {αs : List Type} (fields : Fields αs) (as : Tuple αs) :
    fields.finish (fields.full as) = .ok as := by
  induction fields with
  | none => rfl
  | field name codec more ih =>
    obtain ⟨a, as⟩ := as
    simp only [full, finish, ok_bind, ih]

private theorem length_names_le_write {αs : List Type} (fields : Fields αs) (as : Tuple αs) :
    fields.names.length ≤ (fields.write as).length := by
  induction fields with
  | none => exact Nat.le_refl _
  | field name codec more ih =>
    obtain ⟨a, as⟩ := as
    have rest := ih as
    have named := head_ne_nil 3 (Utf8.ofString name).length
    simp only [names, write, writeText, List.length_cons, List.length_append]
    omega

/-- How the last fields of a record stand in the record: after so many others, with their values
put into a draft of the whole. -/
structure Within {αs βs : List Type} (fields : Fields αs) (position : Nat) (more : Fields βs)
    (put : Draft βs → Draft αs) : Prop where
  names : fields.names.drop position = more.names
  readAt : ∀ index draft depth c,
    fields.readAt (position + index) (put draft) depth c =
      (more.readAt index draft depth c).map fun (draft, c) => (put draft, c)

private theorem within_self {αs : List Type} (fields : Fields αs) : Within fields 0 fields id where
  names := rfl
  readAt := by
    intro index draft depth c
    rw [Nat.zero_add, id_eq]
    cases fields.readAt index draft depth c <;> rfl

private theorem Within.next {αs βs : List Type} {β : Type} {fields : Fields αs} {position : Nat}
    {name : String} {codec : Codec β} {more : Fields βs} {put : Draft (β :: βs) → Draft αs}
    (h : Within fields position (.field name codec more) put) (b : β) :
    Within fields (position + 1) more fun draft => put (some b, draft) where
  names := by
    have rest := congrArg List.tail h.names
    rwa [List.tail_drop] at rest
  readAt := by
    intro index draft depth c
    have whole := h.readAt (index + 1) (some b, draft) depth c
    rw [Nat.add_comm index, ← Nat.add_assoc] at whole
    refine whole.trans ?_
    rw [Nat.add_comm 1, Fields.readAt]
    cases more.readAt index draft depth c <;> rfl

private theorem findIdx?_name {names : List String} (distinct : names.Nodup) {position : Nat}
    {name : String} (at_position : names[position]? = some name) :
    names.findIdx? (· == name) = some position := by
  obtain ⟨inside, rfl⟩ := List.getElem?_eq_some_iff.mp at_position
  rw [List.findIdx?_eq_some_iff_getElem]
  refine ⟨inside, beq_self_eq_true _, fun j before same => ?_⟩
  have equal := (List.Nodup.getElem_inj_iff distinct).mp (beq_iff_eq.mp same)
  omega

private theorem readEntries_within {αs βs : List Type} {fields : Fields αs} {position : Nat}
    {more : Fields βs} {put : Draft βs → Draft αs} (h : Within fields position more put)
    (distinct : fields.names.Nodup) {levels : Nat} (lawful : more.Lawful levels) (as : Tuple βs)
    (fuel depth : Nat) (fuelled : more.names.length < fuel) (deep : levels < depth) (rest : Bytes)
    (offset : Nat) (fits : offset + (more.write as).length < 1 <<< 64) :
    readEntries fields fuel depth (.definite more.names.length) (put more.blank)
        ⟨more.write as ++ rest, offset⟩ =
      .ok (put (more.full as), .definite 0, ⟨rest, offset + (more.write as).length⟩) := by
  induction more generalizing position fuel offset with
  | none =>
    obtain ⟨fuel, rfl⟩ := Nat.exists_eq_succ_of_ne_zero (Nat.ne_zero_of_lt fuelled)
    rfl
  | field name codec more ih =>
    obtain ⟨a, as⟩ := as
    obtain ⟨fuel, rfl⟩ := Nat.exists_eq_succ_of_ne_zero (Nat.ne_zero_of_lt fuelled)
    obtain ⟨depth, rfl⟩ := Nat.exists_eq_succ_of_ne_zero (Nat.ne_zero_of_lt deep)
    simp only [write, List.length_append] at fits
    have at_position : fields.names[position]? = some name := by
      rw [← Nat.add_zero position, ← List.getElem?_drop, h.names]
      rfl
    have found := findIdx?_name distinct at_position
    have named := read_text name depth (codec.write a ++ (more.write as ++ rest))
      (by omega : offset + (writeText name).length < 1 <<< 64)
    have value := lawful.1 a (depth + 1) (more.write as ++ rest)
      (offset + (writeText name).length) deep (by omega)
    have others := ih (h.next a) lawful.2 as fuel (Nat.lt_of_succ_lt_succ fuelled)
      (offset + (writeText name).length + (codec.write a).length) (by omega)
    have placed : fields.readAt position (put (Option.none, more.blank)) (depth + 1)
        ⟨codec.write a ++ (more.write as ++ rest), offset + (writeText name).length⟩ =
          .ok (put (some a, more.blank), ⟨more.write as ++ rest,
            offset + (writeText name).length + (codec.write a).length⟩) := by
      have reading := h.readAt 0 (Option.none, more.blank) (depth + 1)
        ⟨codec.write a ++ (more.write as ++ rest), offset + (writeText name).length⟩
      rw [Nat.add_zero] at reading
      rw [reading, Fields.readAt]
      simp only [value, ok_bind]
      rfl
    simp only [readEntries, names, List.length_cons, Extent.step, ok_bind, write, blank,
      List.append_assoc, named, fieldOfToken, found, placed, others, full]
    simp only [List.length_append, Nat.add_assoc]

end Fields

private theorem mem_of_variantOfToken {α : Type} {variants : List (Variant α)} {t : Token}
    {v : Variant α} (h : variantOfToken variants t = .ok v) : v ∈ variants := by
  unfold variantOfToken at h
  simp only at h
  split at h
  · split at h
    · rename_i found
      cases h
      exact List.mem_of_getElem? found
    · cases h
  · split at h
    · rename_i found
      cases h
      exact List.mem_of_find?_eq_some found
    · cases h
  · split at h
    · rename_i found
      cases h
      exact List.mem_of_find?_eq_some found
    · cases h
  · cases h

theorem mem_of_readVariant {α : Type} {variants : List (Variant α)} {depth : Nat} {c c' : Cursor}
    {v : Variant α} (h : readVariant variants depth c = .ok (v, c')) : v ∈ variants := by
  obtain ⟨⟨t, inside, c₁⟩, -, h⟩ := bind_eq_ok.mp h
  obtain ⟨v', named, h⟩ := bind_eq_ok.mp h
  cases h
  exact mem_of_variantOfToken named

namespace Codec

/-- A record reads back what it writes when its fields do and have different names. -/
theorem lawful_record {αs : List Type} (title : String) {fields : Fields αs} {levels : Nat}
    (lawful : fields.Lawful levels) (distinct : fields.names.Nodup) :
    (record title fields).Lawful (levels + 1) := by
  intro as depth rest offset deep fits
  obtain ⟨depth, rfl⟩ := Nat.exists_eq_add_of_le' (Nat.lt_of_le_of_lt (Nat.succ_pos levels) deep)
  simp only [record, List.length_append] at fits ⊢
  have few := fields.length_names_le_write as
  have entries := Fields.readEntries_within (Fields.within_self fields) distinct lawful as
    ((fields.write as ++ rest).length + 1) (depth + 1)
    (by rw [List.length_append]; omega) (Nat.lt_of_succ_lt_succ deep) rest
    (offset + (head 5 fields.names.length).length) (by omega)
  simp only [id_eq] at entries
  simp only [List.append_assoc, read_map (by omega : fields.names.length < 1 <<< 64), ok_bind, entries,
    Fields.finish_full, Extent.close, Nat.add_assoc]

theorem reads_variant {α : Type} {variants : List (Variant α)} {write : α → Bytes} {name : String}
    {form : String} {content : Reader α} {levels : Nat} {b : Bytes} {a : α}
    (known : variants.find? (fun v => v.name == name) = some (.carrying name form content))
    (reads : Reads content levels b a) :
    Reads (choice variants write).read (levels + 1) (writeVariant name b) a := by
  intro depth rest offset deep fits
  obtain ⟨depth, rfl⟩ : ∃ d, depth = d + 2 := ⟨depth - 2, by omega⟩
  have single : head 5 1 = [0xA1] := rfl
  simp only [writeVariant, single, List.length_append, List.length_cons, List.length_nil] at fits
  have named := read_text name depth (b ++ rest)
    (by omega : offset + 1 + (writeText name).length < 1 <<< 64)
  have value := reads (depth + 1) rest (offset + 1 + (writeText name).length)
    (Nat.lt_of_succ_lt_succ deep) (by omega)
  have opened : ∀ c, Token.descend (depth + 2) c = .ok (depth + 1) := fun c => by
    rw [Token.descend, if_neg (by omega)]
    rfl
  simp only [writeVariant, single, choice, List.append_assoc, List.cons_append, List.nil_append,
    Cursor.advance]
  rw [if_neg (by decide), if_pos trivial]
  simp only [opened, ok_bind, readVariant, named, variantOfToken, known, readContent, value]
  simp only [List.length_append, List.length_cons, Nat.add_assoc, Nat.add_comm 1]

theorem reads_wrapping {α β : Type} {variants : List (Variant α)} {write : α → Bytes}
    {name : String} {content : Codec β} {make : β → α} {levels : Nat}
    (known : variants.find? (fun v => v.name == name) = some (.wrapping name content make))
    (lawful : content.Lawful levels) (b : β) :
    Reads (choice variants write).read (levels + 1) (writeVariant name (content.write b))
      (make b) := by
  refine reads_variant known fun depth rest offset deep fits => ?_
  simp only [lawful b depth rest offset deep fits, ok_bind]

private theorem writeText_cases {s : String} (h : (Utf8.ofString s).length < 1 <<< 64) :
    ∃ x rest, writeText s = x :: rest ∧ x.toNat / 32 = 3 := by
  obtain ⟨x, tail, written, high, -⟩ := head_cases (by decide : 3 < 7) h
  refine ⟨x, tail ++ Utf8.ofString s, ?_, high⟩
  rw [writeText, written, List.cons_append]

private theorem length_ofString_lt {s : String} {offset : Nat}
    (fits : offset + (writeText s).length < 1 <<< 64) : (Utf8.ofString s).length < 1 <<< 64 := by
  simp only [writeText, List.length_append] at fits
  omega

/-- A choice reads a variant without content back from its name. -/
theorem reads_constant {α : Type} {variants : List (Variant α)} {write : α → Bytes} {name : String}
    {a : α} (known : variants.find? (fun v => v.name == name) = some (.constant name a)) :
    Reads (choice variants write).read 0 (writeText name) a := by
  intro depth rest offset deep fits
  obtain ⟨depth, rfl⟩ := Nat.exists_eq_succ_of_ne_zero (Nat.ne_zero_of_lt deep)
  have named := read_text name depth rest fits
  obtain ⟨x, tail, written, text⟩ := writeText_cases (length_ofString_lt fits)
  have noArray : ¬ x.toNat / 32 = 4 := by omega
  have noMap : ¬ x = 0xA1 := by
    rintro rfl
    exact absurd text (by decide)
  have first : writeText name ++ rest = x :: (tail ++ rest) := by rw [written, List.cons_append]
  simp only [choice]
  rw [first]
  dsimp only
  rw [if_neg noArray, if_neg noMap, ← first]
  simp only [readVariant, named, ok_bind, variantOfToken, known]

theorem lawful_optional_text : (optional text).Lawful 0 := by
  intro o depth rest offset deep fits
  cases o with
  | none => rfl
  | some s =>
    simp only [optional] at fits ⊢
    have value := lawful_text s depth rest offset deep fits
    obtain ⟨x, tail, written, text⟩ := writeText_cases (length_ofString_lt fits)
    have noNull : x ≠ 0xF6 := by
      rintro rfl
      exact absurd text (by decide)
    have first : Codec.text.write s ++ rest = x :: (tail ++ rest) :=
      (congrArg (· ++ rest) written).trans (List.cons_append ..)
    rw [first] at value ⊢
    split
    · rename_i same
      exact absurd (List.cons.inj same).1 noNull
    · simp only [value, ok_bind]

end Codec

end DevicePairing.Cbor
