import DevicePairing.Proofs.Cbor.Compound
import DevicePairing.Proofs.Cbor.Worth

set_option autoImplicit false
set_option relaxedAutoImplicit false

namespace DevicePairing.Cbor

open DevicePairing (Bytes Key)
open DevicePairing.Text
open DevicePairing.Results

variable {κ : Measure} {α β : Type}

/-- Whatever a reader reads was paid for: octets were read that count at least what it weighs. -/
def Pays (κ : Measure) (read : Reader α) (weight : α → Nat) : Prop :=
  ∀ ⦃depth : Nat⦄ ⦃c c' : Cursor⦄ ⦃a : α⦄, read depth c = .ok (a, c') → Spent κ c c' (weight a)

theorem Pays.mono {read : Reader α} {weight weight' : α → Nat} (h : Pays κ read weight)
    (less : ∀ a, weight' a ≤ weight a) : Pays κ read weight' := by
  intro depth c c' a found
  exact (h found).mono (less a)

theorem Pays.decode {k : Codec α} {weight : α → Nat} (h : Pays κ k.read weight) {b : Bytes} {a : α}
    (decoded : k.decode b = .ok a) : weight a ≤ κ.total b := by
  obtain ⟨⟨a', c⟩, found, decoded⟩ := bind_eq_ok.mp decoded
  have spent := h found
  simp only at decoded
  split at decoded
  · cases decoded
    simp only [Spent, Cursor.start] at spent
    omega
  · cases decoded

private theorem Extent.close_spent {x : Extent} {atEnd : Malformation} {c c' : Cursor}
    (h : x.close atEnd c = .ok c') : Spent κ c c' 0 := by
  unfold Extent.close at h
  split at h
  · cases h
    exact .refl c
  · cases h
  · split at h
    · cases h
    · rename_i rest split
      cases h
      have one : Spent κ c (c.advance 1 rest) (κ.total [0xFF]) := .of_rest split
      exact one.mono (Nat.zero_le _)
    · cases h

private theorem skip_spent (fuel : Nat) :
    (∀ depth c c', skip fuel depth c = .ok c' → Spent κ c c' 0) ∧
      (∀ depth x c c', skipElements fuel depth x c = .ok c' → Spent κ c c' 0) ∧
      ∀ depth x c c', skipEntries fuel depth x c = .ok c' → Spent κ c c' 0 := by
  -- the three readers call one another with less fuel, so they are bounded together
  induction fuel with
  | zero => exact ⟨nofun, nofun, nofun⟩
  | succ fuel ih =>
    obtain ⟨item, elements, entries⟩ := ih
    refine ⟨?_, ?_, ?_⟩
    · intro depth c c' h
      rw [skip] at h
      obtain ⟨⟨t, inside, c₁⟩, token, h⟩ := bind_eq_ok.mp h
      have first : Spent κ c c₁ 0 := (Token.read_spent token).mono (Nat.zero_le _)
      simp only at h
      split at h
      · exact first.after (elements _ _ _ _ h)
      · exact first.after (entries _ _ _ _ h)
      · cases h
        exact first
    · intro depth x c c' h
      rw [skipElements] at h
      obtain ⟨next, -, h⟩ := bind_eq_ok.mp h
      cases next with
      | none => exact Extent.close_spent h
      | some x =>
        obtain ⟨c₁, first, h⟩ := bind_eq_ok.mp h
        exact (item _ _ _ first).after (elements _ _ _ _ h)
    · intro depth x c c' h
      rw [skipEntries] at h
      obtain ⟨next, -, h⟩ := bind_eq_ok.mp h
      cases next with
      | none => exact Extent.close_spent h
      | some x =>
        obtain ⟨c₁, first, h⟩ := bind_eq_ok.mp h
        obtain ⟨c₂, second, h⟩ := bind_eq_ok.mp h
        exact ((item _ _ _ first).after (item _ _ _ second)).after (entries _ _ _ _ h)

namespace Codec

private theorem textOfToken_worth {t : Token} {s : String} (h : textOfToken t = .ok s) :
    t.worth κ = κ.text s := by
  unfold textOfToken at h
  split at h
  · cases h
    rfl
  · split at h
    · rename_i read
      cases h
      rw [Token.worth, Measure.text, Utf8.ofString_of_toString read]
    · cases h
  · cases h

theorem pays_text : Pays κ text.read κ.text := by
  intro depth c c' s h
  obtain ⟨⟨t, inside, c₁⟩, token, h⟩ := bind_eq_ok.mp h
  obtain ⟨s', spelt, h⟩ := bind_eq_ok.mp h
  cases h
  rw [← textOfToken_worth spelt]
  exact Token.read_spent token

private theorem readNumber_spent {bound depth n : Nat} {expected : String} {c c' : Cursor}
    (h : readNumber bound expected depth c = .ok (n, c')) :
    n ≤ bound ∧ Spent κ c c' ((Token.unsigned n).worth κ) := by
  obtain ⟨⟨t, inside, c₁⟩, token, h⟩ := bind_eq_ok.mp h
  obtain ⟨n', number, h⟩ := bind_eq_ok.mp h
  cases h
  have spent := Token.read_spent (κ := κ) token
  unfold numberOfToken at number
  split at number
  · split at number
    · rename_i within
      cases number
      exact ⟨within, spent⟩
    · cases number
  · split at number <;> cases number
  · cases number

private theorem pays_octet : Pays κ readOctet fun x => κ.total (head 0 x.toNat) := by
  intro depth c c' x h
  obtain ⟨⟨n, c₁⟩, number, h⟩ := bind_eq_ok.mp h
  cases h
  obtain ⟨within, spent⟩ := readNumber_spent (κ := κ) number
  have byte : n < 256 := by omega
  rw [Token.worth, if_pos byte] at spent
  show Spent κ c c' (κ.total (head 0 (UInt8.ofNat n).toNat))
  rwa [Utf8.toNat_octet byte]

theorem pays_uint64 : Pays κ uint64.read fun _ => 0 := by
  intro depth c c' n h
  obtain ⟨⟨n, c₁⟩, number, h⟩ := bind_eq_ok.mp h
  cases h
  exact (readNumber_spent number).2.mono (Nat.zero_le _)

private theorem readOctets_spent {fuel limit depth : Nat} {x x' : Extent} {c c' : Cursor}
    {b : Bytes}
    (h : readOctets fuel limit depth x c = .ok (b, x', c')) : Spent κ c c' (κ.numbers b) := by
  induction fuel generalizing limit x c b with
  | zero => cases h
  | succ fuel ih =>
    cases limit with
    | zero =>
      cases h
      exact .refl c'
    | succ limit =>
      rw [readOctets] at h
      obtain ⟨next, -, h⟩ := bind_eq_ok.mp h
      cases next with
      | none =>
        cases h
        exact .refl c'
      | some next =>
        obtain ⟨⟨y, c₁⟩, octet, h⟩ := bind_eq_ok.mp h
        obtain ⟨⟨ys, x₁, c₂⟩, more, h⟩ := bind_eq_ok.mp h
        cases h
        rw [Measure.numbers_cons]
        exact (pays_octet octet).trans (ih more)

theorem pays_octets : Pays κ octets.read κ.numbers := by
  intro depth c c' b h
  obtain ⟨⟨t, inside, c₁⟩, token, h⟩ := bind_eq_ok.mp h
  have first := Token.read_spent (κ := κ) token
  cases t with
  | array x =>
    obtain ⟨⟨b', x', c₂⟩, elements, h⟩ := bind_eq_ok.mp h
    obtain ⟨c₃, closed, h⟩ := bind_eq_ok.mp h
    cases h
    exact (first.after (readOctets_spent elements)).trans (Extent.close_spent closed)
  | _ => cases h

theorem pays_key : Pays κ key.read fun k => κ.numbers k.octets := by
  intro depth c c' k h
  obtain ⟨⟨t, inside, c₁⟩, token, h⟩ := bind_eq_ok.mp h
  have first := Token.read_spent (κ := κ) token
  cases t with
  | array x =>
    obtain ⟨⟨b, x', c₂⟩, elements, h⟩ := bind_eq_ok.mp h
    have spent := first.after (readOctets_spent elements)
    simp only [Key.ofBytes?] at h
    split at h
    · cases h
    · rename_i k' made
      obtain ⟨c₃, closed, h⟩ := bind_eq_ok.mp h
      cases h
      split at made
      · cases made
        exact spent.trans (Extent.close_spent closed)
      · cases made
  | _ => cases h

theorem pays_convert {k : Codec α} {make : α → β} {view : β → α} {weight : β → Nat}
    (h : Pays κ k.read fun a => weight (make a)) : Pays κ (k.convert make view).read weight := by
  intro depth c c' b read
  obtain ⟨⟨a, c₁⟩, inner, read⟩ := bind_eq_ok.mp read
  cases read
  exact h inner

end Codec

def Weights : List Type → Type
  | [] => Unit
  | α :: αs => (α → Nat) × Weights αs

namespace Weights

def tuple : {αs : List Type} → Weights αs → Tuple αs → Nat
  | [], _, _ => 0
  | _ :: _, (w, ws), (a, as) => w a + tuple ws as

def draft : {αs : List Type} → Weights αs → Draft αs → Nat
  | [], _, _ => 0
  | _ :: _, (w, ws), (slot, d) => slot.elim 0 w + draft ws d

end Weights

namespace Fields

/-- Every field of a record pays for its value, and a value that stands for a lacking one weighs
nothing. -/
def Pay (κ : Measure) : {αs : List Type} → Fields αs → Weights αs → Prop
  | _, .none, _ => True
  | _, .field _ codec more, (w, ws) =>
    Pays κ codec.read w ∧ (∀ a, codec.absent = some a → w a = 0) ∧ more.Pay κ ws

private theorem draft_blank {αs : List Type} (fields : Fields αs) (ws : Weights αs) :
    ws.draft fields.blank = 0 := by
  induction fields with
  | none => rfl
  | field name codec more ih =>
    obtain ⟨w, ws⟩ := ws
    exact (Nat.zero_add _).trans (ih ws)

private theorem tuple_le_draft {αs : List Type} {fields : Fields αs} {ws : Weights αs}
    (pay : fields.Pay κ ws) {d : Draft αs} {as : Tuple αs} (h : fields.finish d = .ok as) :
    ws.tuple as ≤ ws.draft d := by
  induction fields with
  | none => exact Nat.le_refl 0
  | field name codec more ih =>
    obtain ⟨w, ws⟩ := ws
    obtain ⟨-, absent, rest⟩ := pay
    obtain ⟨slot, d⟩ := d
    have known : ∃ a as', (a, as') = as ∧ w a ≤ slot.elim 0 w ∧ more.finish d = .ok as' := by
      simp only [finish] at h
      split at h
      · rename_i a
        rw [ok_bind] at h
        obtain ⟨as', others, h⟩ := bind_eq_ok.mp h
        exact ⟨a, as', Except.ok.inj h, Nat.le_refl _, others⟩
      · rename_i a stands
        rw [ok_bind] at h
        obtain ⟨as', others, h⟩ := bind_eq_ok.mp h
        exact ⟨a, as', Except.ok.inj h, Nat.le_of_eq (absent a stands), others⟩
      · cases h
    obtain ⟨a, as', rfl, here, others⟩ := known
    exact Nat.add_le_add here (ih rest others)

private theorem readAt_spent {αs : List Type} {fields : Fields αs} {ws : Weights αs}
    (pay : fields.Pay κ ws) {index depth : Nat} {d d' : Draft αs} {c c' : Cursor}
    (h : fields.readAt index d depth c = .ok (d', c')) :
    κ.total c'.rest + ws.draft d' ≤ κ.total c.rest + ws.draft d := by
  induction fields generalizing index with
  | none =>
    cases h
    exact Nat.le_refl _
  | field name codec more ih =>
    obtain ⟨w, ws⟩ := ws
    obtain ⟨here, -, rest⟩ := pay
    obtain ⟨slot, d⟩ := d
    cases index with
    | zero =>
      cases slot with
      | some a => cases h
      | none =>
        obtain ⟨⟨a, c₁⟩, read, h⟩ := bind_eq_ok.mp h
        cases h
        have spent := here read
        simp only [Spent] at spent
        simp only [Weights.draft, Option.elim_some, Option.elim_none]
        omega
    | succ index =>
      obtain ⟨⟨d₁, c₁⟩, read, h⟩ := bind_eq_ok.mp h
      cases h
      have less := ih rest read
      simp only [Weights.draft]
      omega

private theorem readInOrder_spent {αs : List Type} {fields : Fields αs} {ws : Weights αs}
    (pay : fields.Pay κ ws) {tooShort : Nat → DecodeError} {index depth : Nat} {x x' : Extent}
    {c c' : Cursor} {as : Tuple αs}
    (h : fields.readInOrder tooShort index depth x c = .ok (as, x', c')) :
    Spent κ c c' (ws.tuple as) := by
  induction fields generalizing index x c with
  | none =>
    cases h
    exact .refl c'
  | field name codec more ih =>
    obtain ⟨w, ws⟩ := ws
    obtain ⟨here, -, rest⟩ := pay
    rw [readInOrder] at h
    obtain ⟨next, -, h⟩ := bind_eq_ok.mp h
    cases next with
    | none => cases h
    | some x =>
      obtain ⟨⟨a, c₁⟩, read, h⟩ := bind_eq_ok.mp h
      obtain ⟨⟨as', x₁, c₂⟩, others, h⟩ := bind_eq_ok.mp h
      cases h
      exact (here read).trans (ih rest others)

end Fields

private theorem readEntries_spent {αs : List Type} {fields : Fields αs} {ws : Weights αs}
    (pay : fields.Pay κ ws) {fuel depth : Nat} {x x' : Extent} {d d' : Draft αs} {c c' : Cursor}
    (h : readEntries fields fuel depth x d c = .ok (d', x', c')) :
    κ.total c'.rest + ws.draft d' ≤ κ.total c.rest + ws.draft d := by
  induction fuel generalizing x d c with
  | zero => cases h
  | succ fuel ih =>
    rw [readEntries] at h
    obtain ⟨next, -, h⟩ := bind_eq_ok.mp h
    cases next with
    | none =>
      cases h
      exact Nat.le_refl _
    | some x =>
      obtain ⟨⟨t, inside, c₁⟩, token, h⟩ := bind_eq_ok.mp h
      obtain ⟨index, -, h⟩ := bind_eq_ok.mp h
      have key : Spent κ c c₁ 0 := (Token.read_spent token).mono (Nat.zero_le _)
      simp only [Spent] at key
      cases index with
      | none =>
        obtain ⟨c₂, skipped, h⟩ := bind_eq_ok.mp h
        have passed := (skip_spent (κ := κ) _).1 _ _ _ skipped
        simp only [Spent] at passed
        have more := ih h
        omega
      | some index =>
        obtain ⟨⟨d₁, c₂⟩, read, h⟩ := bind_eq_ok.mp h
        have value := Fields.readAt_spent pay read
        have more := ih h
        omega

theorem Codec.pays_record {αs : List Type} {title : String} {fields : Fields αs} (ws : Weights αs)
    (pay : fields.Pay κ ws) : Pays κ (Codec.record title fields).read ws.tuple := by
  intro depth c c' as h
  obtain ⟨⟨t, inside, c₁⟩, token, h⟩ := bind_eq_ok.mp h
  have first : Spent κ c c₁ 0 := (Token.read_spent token).mono (Nat.zero_le _)
  cases t with
  | map x =>
    obtain ⟨⟨d, x', c₂⟩, entries, h⟩ := bind_eq_ok.mp h
    obtain ⟨as', finished, h⟩ := bind_eq_ok.mp h
    obtain ⟨c₃, closed, h⟩ := bind_eq_ok.mp h
    cases h
    have read := readEntries_spent pay entries
    have less := Fields.tuple_le_draft pay finished
    have blank := Fields.draft_blank fields ws
    have last := Extent.close_spent (κ := κ) closed
    simp only [Spent] at first last ⊢
    omega
  | array x =>
    obtain ⟨⟨as', x', c₂⟩, elements, h⟩ := bind_eq_ok.mp h
    obtain ⟨c₃, closed, h⟩ := bind_eq_ok.mp h
    cases h
    exact (first.after (Fields.readInOrder_spent pay elements)).trans (Extent.close_spent closed)
  | _ => cases h

/-- A variant pays for its content. One without content makes a value that weighs nothing. -/
def Variant.Pays (κ : Measure) (weight : α → Nat) : Variant α → Prop
  | .constant _ a => weight a = 0
  | .carrying _ _ content => Cbor.Pays κ content weight

theorem Variant.pays_wrapping {name : String} {k : Codec β} {make : β → α} {weight : α → Nat}
    (h : Cbor.Pays κ k.read fun b => weight (make b)) :
    (Variant.wrapping name k make).Pays κ weight := by
  intro depth c c' a read
  obtain ⟨⟨b, c₁⟩, inner, read⟩ := bind_eq_ok.mp read
  cases read
  exact h inner

private theorem readVariant_spent {variants : List (Variant α)} {depth : Nat} {c c' : Cursor}
    {v : Variant α} (h : readVariant variants depth c = .ok (v, c')) :
    v ∈ variants ∧ Spent κ c c' 0 := by
  have member := mem_of_readVariant h
  obtain ⟨⟨t, inside, c₁⟩, token, h⟩ := bind_eq_ok.mp h
  obtain ⟨v', named, h⟩ := bind_eq_ok.mp h
  cases h
  exact ⟨member, (Token.read_spent token).mono (Nat.zero_le _)⟩

private theorem pays_content {v : Variant α} {weight : α → Nat} (pays : v.Pays κ weight) :
    Pays κ (readContent v) weight := by
  intro depth c c' a h
  cases v with
  | constant name value =>
    obtain ⟨⟨⟨⟩, c₁⟩, unit, h⟩ := bind_eq_ok.mp h
    cases h
    obtain ⟨⟨t, inside, c₂⟩, token, unit⟩ := bind_eq_ok.mp unit
    have first : Spent κ c c₂ 0 := (Token.read_spent token).mono (Nat.zero_le _)
    cases t with
    | null =>
      cases unit
      rwa [show weight a = 0 from pays]
    | _ => cases unit
  | carrying name form content => exact pays h

private theorem pays_pair {variants : List (Variant α)} {weight : α → Nat}
    (pay : ∀ v ∈ variants, v.Pays κ weight) (x : Extent) : Pays κ (readPair variants x) weight := by
  intro depth c c' a h
  obtain ⟨next, -, h⟩ := bind_eq_ok.mp h
  cases next with
  | none => cases h
  | some x =>
    obtain ⟨⟨v, c₁⟩, variant, h⟩ := bind_eq_ok.mp h
    obtain ⟨member, first⟩ := readVariant_spent (κ := κ) variant
    obtain ⟨next, -, h⟩ := bind_eq_ok.mp h
    cases next with
    | none => cases v <;> cases h
    | some x =>
      obtain ⟨⟨a', c₂⟩, content, h⟩ := bind_eq_ok.mp h
      obtain ⟨c₃, closed, h⟩ := bind_eq_ok.mp h
      cases h
      exact (first.after (pays_content (pay v member) content)).trans (Extent.close_spent closed)

theorem Codec.pays_choice {variants : List (Variant α)} {write : α → Bytes} {weight : α → Nat}
    (pay : ∀ v ∈ variants, v.Pays κ weight) : Pays κ (Codec.choice variants write).read weight := by
  intro depth c c' a h
  simp only [Codec.choice] at h
  split at h
  · cases h
  · rename_i x rest split
    have initial : Spent κ c (c.advance 1 rest) 0 := by
      have one : Spent κ c (c.advance 1 rest) (κ.total [x]) := .of_rest split
      exact one.mono (Nat.zero_le _)
    split at h
    · obtain ⟨⟨n, c₁⟩, argument, h⟩ := bind_eq_ok.mp h
      obtain ⟨inside, -, h⟩ := bind_eq_ok.mp h
      exact (initial.after (Cursor.argument_spent argument)).after (pays_pair pay _ h)
    · split at h
      · obtain ⟨inside, -, h⟩ := bind_eq_ok.mp h
        obtain ⟨⟨v, c₁⟩, variant, h⟩ := bind_eq_ok.mp h
        obtain ⟨member, first⟩ := readVariant_spent (κ := κ) variant
        exact (initial.after first).after (pays_content (pay v member) h)
      · obtain ⟨⟨v, c₁⟩, variant, h⟩ := bind_eq_ok.mp h
        obtain ⟨member, first⟩ := readVariant_spent (κ := κ) variant
        cases v with
        | constant name value =>
          cases h
          have nothing : weight a = 0 := pay _ member
          rwa [nothing]
        | carrying name form content => cases h

theorem Codec.pays_names (values : List α) (name : α → String) (write : α → Bytes) :
    Pays κ (Codec.choice (values.map fun a => .constant (name a) a) write).read fun _ => 0 := by
  refine Codec.pays_choice fun v member => ?_
  obtain ⟨a, -, rfl⟩ := List.mem_map.mp member
  exact rfl

end DevicePairing.Cbor
