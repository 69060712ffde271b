import DevicePairing.Proofs.Cbor.Compound

set_option autoImplicit false
set_option relaxedAutoImplicit false

/-!
Reading does not depend on what comes after. Whatever is read from some octets is also read from
them when more octets follow, and reading stops at the same place. So no octets that lack the end
of an item can be taken for a whole one: they would still be so taken when the end is there, and
the end would be left over.
-/

namespace DevicePairing.Cbor

open DevicePairing (Bytes Key)
open DevicePairing.Text
open DevicePairing.Results

/-- Values that hold a place of the input. To grow is to have more octets at the end of the
input. -/
class Placed (α : Type) where
  grow : α → Bytes → α

open Placed (grow)

instance : Placed Cursor where
  grow c s := ⟨c.rest ++ s, c.offset⟩

instance {α β : Type} [Placed β] : Placed (α × β) where
  grow x s := (x.1, grow x.2 s)

@[simp] theorem rest_grow (c : Cursor) (s : Bytes) : (grow c s).rest = c.rest ++ s := rfl

/-- Whatever the first step comes to, the second one comes to when more octets follow. -/
def Extends {α β : Type} [Placed α] [Placed β] (f g : α → Except DecodeError β) : Prop :=
  ∀ ⦃a : α⦄ ⦃b : β⦄, f a = .ok b → ∀ s, g (grow a s) = .ok (grow b s)

namespace Extends

variable {α β γ δ : Type} [Placed α] [Placed β] [Placed γ]

theorem error {e : α → DecodeError} {g : α → Except DecodeError β} :
    Extends (fun a => .error (e a)) g := nofun

theorem ok {f g : α → β} (same : ∀ a s, g (grow a s) = grow (f a) s) :
    Extends (fun a => .ok (f a)) fun a => .ok (g a) := by
  intro a b found s
  cases found
  exact congrArg _ (same a s)

theorem bind {f h : α → Except DecodeError β} {g k : β → Except DecodeError γ}
    (first : Extends f h) (second : Extends g k) :
    Extends (fun a => f a >>= g) fun a => h a >>= k := by
  intro a c found s
  obtain ⟨b, here, there⟩ := bind_eq_ok.mp found
  exact bind_eq_ok.mpr ⟨grow b s, first here s, second there s⟩

private theorem value {f f' : α → Except DecodeError δ} {g g' : δ → α → Except DecodeError γ}
    (first : ∀ ⦃a x⦄, f a = .ok x → ∀ s, f' (grow a s) = .ok x)
    (second : ∀ x, Extends (g x) (g' x)) :
    Extends (fun a => f a >>= fun x => g x a) fun a => f' a >>= fun x => g' x a := by
  intro a c found s
  obtain ⟨x, here, there⟩ := bind_eq_ok.mp found
  exact bind_eq_ok.mpr ⟨x, first here s, second x there s⟩

private theorem known {x : Except DecodeError δ} {g g' : δ → α → Except DecodeError γ}
    (second : ∀ x, Extends (g x) (g' x)) :
    Extends (fun a => x >>= fun x => g x a) fun a => x >>= fun x => g' x a :=
  .value (fun _ _ found _ => found) second

private theorem pair {f g : δ × α → Except DecodeError γ}
    (each : ∀ x, Extends (fun a => f (x, a)) fun a => g (x, a)) : Extends f g :=
  fun (x, _) _ found s => each x found s

private theorem ite {p : α → Prop} [DecidablePred p] {f f' g g' : α → Except DecodeError β}
    (same : ∀ a s, p (grow a s) ↔ p a) (yes : Extends f f') (no : Extends g g') :
    Extends (fun a => if p a then f a else g a) fun a => if p a then f' a else g' a := by
  intro a b found s
  by_cases h : p a
  · simp only [if_pos h] at found
    exact (if_pos ((same a s).mpr h)).trans (yes found s)
  · simp only [if_neg h] at found
    exact (if_neg fun longer => h ((same a s).mp longer)).trans (no found s)

end Extends

namespace Cursor

private theorem extends_next : Extends next next := by
  rintro ⟨rest, offset⟩ b found s
  cases rest with
  | nil => cases found
  | cons x rest =>
    cases found
    rfl

private theorem extends_take (n : Nat) : Extends (take · n) (take · n) := by
  intro c b found s
  simp only [take] at found
  split at found
  · cases found
  · rename_i front rest split
    cases found
    obtain ⟨rfl, whole⟩ := Bytes.split?_eq_some split
    have longer := Bytes.split?_append front (rest ++ s)
    rw [← List.append_assoc, ← whole] at longer
    simp only [take, rest_grow, longer]
    rfl

private theorem extends_number (n : Nat) : Extends (number · n) (number · n) :=
  (extends_take n).bind (.pair fun _ => .ok fun _ _ => rfl)

private theorem extends_argument (info : Nat) : Extends (argument · info) (argument · info) := by
  refine .ite (fun _ _ => .rfl) (.ok fun _ _ => rfl) (.ite (fun _ _ => .rfl) ?_ ?_)
  · exact (extends_number _).bind (.pair fun _ => .ok fun _ _ => rfl)
  · exact .ite (fun _ _ => .rfl) (.ok fun _ _ => rfl) .error

end Cursor

namespace Extent

variable {x : Extent} {atEnd : Malformation}

private theorem step_cons (y : UInt8) (rest : Bytes) (offset : Nat) :
    untilBreak.step atEnd ⟨y :: rest, offset⟩ =
      .ok (if y = 0xFF then none else some .untilBreak) := by
  by_cases last : y = 0xFF
  · subst last
    rfl
  · rw [if_neg last]
    simp [step, last]

private theorem close_cons (y : UInt8) (rest : Bytes) (offset : Nat) :
    untilBreak.close atEnd ⟨y :: rest, offset⟩ =
      if y = 0xFF then .ok ⟨rest, offset + 1⟩
      else .error (.malformed .trailingData (offset + 1)) := by
  by_cases last : y = 0xFF
  · subst last
    rfl
  · rw [if_neg last]
    simp [close, Cursor.fault, Cursor.advance]

private theorem step_grow ⦃c : Cursor⦄ ⦃o : Option Extent⦄ (h : x.step atEnd c = .ok o)
    (s : Bytes) : x.step atEnd (grow c s) = .ok o := by
  obtain ⟨rest, offset⟩ := c
  cases x with
  | definite n => cases n <;> exact h
  | untilBreak =>
    cases rest with
    | nil => cases h
    | cons y rest =>
      exact (step_cons y (rest ++ s) offset).trans ((step_cons y rest offset).symm.trans h)

private theorem extends_close : Extends (x.close atEnd) (x.close atEnd) := by
  rintro ⟨rest, offset⟩ c h s
  cases x with
  | definite n =>
    cases n with
    | zero =>
      cases h
      rfl
    | succ n => cases h
  | untilBreak =>
    cases rest with
    | nil => cases h
    | cons y rest =>
      rw [close_cons] at h
      by_cases last : y = 0xFF
      · rw [if_pos last] at h
        cases h
        exact (close_cons y (rest ++ s) offset).trans (if_pos last)
      · rw [if_neg last] at h
        cases h

end Extent

namespace Token

private theorem extends_readChunks (major : Nat) {fuel fuel' : Nat} (more : fuel ≤ fuel') :
    Extends (readChunks major fuel) (readChunks major fuel') := by
  induction fuel generalizing fuel' with
  | zero => exact .error
  | succ fuel ih =>
    obtain ⟨fuel', rfl⟩ := Nat.exists_eq_succ_of_ne_zero (Nat.ne_zero_of_lt more)
    refine Cursor.extends_next.bind (.pair fun x => ?_)
    refine .ite (fun _ _ => .rfl) (.ok fun _ _ => rfl) (.ite (fun _ _ => .rfl) ?_ .error)
    refine (Cursor.extends_argument _).bind (.pair fun n => ?_)
    refine (Cursor.extends_take _).bind (.pair fun b => ?_)
    exact (ih (Nat.le_of_succ_le_succ more)).bind (.pair fun _ => .ok fun _ _ => rfl)

private theorem extends_readString (major : Nat) (length : Option Nat) :
    Extends (readString major length) (readString major length) := by
  cases length with
  | some n => exact Cursor.extends_take n
  | none =>
    intro c b found s
    refine extends_readChunks major ?_ found s
    rw [rest_grow, List.length_append]
    omega

private theorem toText_grow {b : Bytes} ⦃c : Cursor⦄ ⦃t : String⦄ (h : toText b c = .ok t)
    (s : Bytes) : toText b (grow c s) = .ok t := by
  unfold toText at h ⊢
  split at h
  · exact h
  · cases h

private theorem descend_grow {depth : Nat} ⦃c : Cursor⦄ ⦃inside : Nat⦄
    (h : descend depth c = .ok inside) (s : Bytes) : descend depth (grow c s) = .ok inside := by
  unfold descend at h ⊢
  by_cases deep : depth ≤ 1
  · rw [if_pos deep] at h
    cases h
  · rw [if_neg deep] at h ⊢
    exact h

private theorem extends_readSimple (info : Nat) : Extends (readSimple info) (readSimple info) := by
  have float (width : Nat) (make : Nat → Binary64) :
      Extends
        (fun c : Cursor => c.number width >>= fun x => .ok (Token.float (make x.1), x.2))
        fun c : Cursor => c.number width >>= fun x => .ok (Token.float (make x.1), x.2) :=
    (Cursor.extends_number width).bind (.pair fun _ => .ok fun _ _ => rfl)
  unfold readSimple
  split
  · exact .ok fun _ _ => rfl
  · exact .ok fun _ _ => rfl
  · exact .ok fun _ _ => rfl
  · exact .ok fun _ _ => rfl
  · exact float 2 _
  · exact float 4 _
  · exact float 8 _
  · exact .error
  · exact .error

private theorem extends_read (depth : Nat) : Extends (Token.read depth) (Token.read depth) := by
  induction depth with
  | zero => exact .error
  | succ depth ih =>
    refine Cursor.extends_next.bind (.pair fun x => ?_)
    refine .ite (fun _ _ => .rfl) ?_ (.ite (fun _ _ => .rfl) .error ?_)
    · exact (extends_readSimple _).bind (.pair fun _ => .ok fun _ _ => rfl)
    · refine (Cursor.extends_argument _).bind (.pair fun n => ?_)
      dsimp only
      split
      · exact .ok fun _ _ => rfl
      · exact .ok fun _ _ => rfl
      · exact (extends_readString 2 n).bind (.pair fun _ => .ok fun _ _ => rfl)
      · refine .ite (fun _ _ => .rfl) .error ?_
        refine (extends_readString 3 n).bind (.pair fun b => ?_)
        exact .value toText_grow fun _ => .ok fun _ _ => rfl
      · exact .value descend_grow fun _ => .ok fun _ _ => rfl
      · exact .value descend_grow fun _ => .ok fun _ _ => rfl
      · exact .value descend_grow fun _ => ih

end Token

private theorem extends_skip {fuel fuel' : Nat} (more : fuel ≤ fuel') :
    (∀ depth, Extends (skip fuel depth) (skip fuel' depth)) ∧
      (∀ depth x, Extends (skipElements fuel depth x) (skipElements fuel' depth x)) ∧
      ∀ depth x, Extends (skipEntries fuel depth x) (skipEntries fuel' depth x) := by
  -- the three readers call one another with less fuel, so they are followed together
  induction fuel generalizing fuel' with
  | zero => exact ⟨fun _ => .error, fun _ _ => .error, fun _ _ => .error⟩
  | succ fuel ih =>
    obtain ⟨fuel', rfl⟩ := Nat.exists_eq_succ_of_ne_zero (Nat.ne_zero_of_lt more)
    obtain ⟨item, elements, entries⟩ := ih (Nat.le_of_succ_le_succ more)
    refine ⟨fun depth => ?_, fun depth x => ?_, fun depth x => ?_⟩
    · refine (Token.extends_read depth).bind (.pair fun t => .pair fun inside => ?_)
      cases t with
      | array x => exact elements inside x
      | map x => exact entries inside x
      | _ => exact .ok fun _ _ => rfl
    · refine .value Extent.step_grow fun next => ?_
      cases next with
      | none => exact Extent.extends_close
      | some next => exact (item depth).bind (elements depth next)
    · refine .value Extent.step_grow fun next => ?_
      cases next with
      | none => exact Extent.extends_close
      | some next => exact (item depth).bind ((item depth).bind (entries depth next))

/-- What a reader reads it also reads when more octets follow. -/
def Steady {α : Type} (read : Reader α) : Prop := ∀ depth, Extends (read depth) (read depth)

variable {α β : Type}

namespace Codec

theorem steady_convert {k : Codec α} (h : Steady k.read) (make : α → β) (view : β → α) :
    Steady (k.convert make view).read :=
  fun depth => (h depth).bind (.pair fun _ => .ok fun _ _ => rfl)

theorem steady_text : Steady text.read :=
  fun depth => (Token.extends_read depth).bind
    (.pair fun _ => .pair fun _ => .known fun _ => .ok fun _ _ => rfl)

private theorem steady_number (bound : Nat) (expected : String) :
    Steady (readNumber bound expected) :=
  fun depth => (Token.extends_read depth).bind
    (.pair fun _ => .pair fun _ => .known fun _ => .ok fun _ _ => rfl)

private theorem steady_octet : Steady readOctet :=
  fun depth => (steady_number 255 "u8" depth).bind (.pair fun _ => .ok fun _ _ => rfl)

theorem steady_uint64 : Steady uint64.read :=
  fun depth => (steady_number _ "u64" depth).bind (.pair fun _ => .ok fun _ _ => rfl)

private theorem extends_readOctets {fuel fuel' limit limit' : Nat} (more : fuel ≤ fuel')
    (same : limit' = limit ∨ fuel ≤ limit ∧ fuel ≤ limit') (depth : Nat) (x : Extent) :
    Extends (readOctets fuel limit depth x) (readOctets fuel' limit' depth x) := by
  induction fuel generalizing fuel' limit limit' x with
  | zero => exact .error
  | succ fuel ih =>
    obtain ⟨fuel', rfl⟩ := Nat.exists_eq_succ_of_ne_zero (Nat.ne_zero_of_lt more)
    cases limit with
    | zero =>
      obtain rfl : limit' = 0 := by omega
      exact .ok fun _ _ => rfl
    | succ limit =>
      obtain ⟨limit', rfl⟩ := Nat.exists_eq_succ_of_ne_zero (by omega : limit' ≠ 0)
      refine .value Extent.step_grow fun next => ?_
      cases next with
      | none => exact .ok fun _ _ => rfl
      | some next =>
        refine (steady_octet depth).bind (.pair fun y => ?_)
        exact (ih (Nat.le_of_succ_le_succ more) (by omega) next).bind
          (.pair fun _ => .pair fun _ => .ok fun _ _ => rfl)

theorem steady_octets : Steady octets.read := by
  refine fun depth => (Token.extends_read depth).bind (.pair fun t => .pair fun inside => ?_)
  cases t with
  | array x =>
    refine .bind (f := fun c => readOctets (c.rest.length + 1) (c.rest.length + 1) inside x c)
      (h := fun c => readOctets (c.rest.length + 1) (c.rest.length + 1) inside x c) ?_
      (.pair fun b => .pair fun x => Extent.extends_close.bind (.ok fun _ _ => rfl))
    intro c found read s
    refine extends_readOctets ?_ (.inr ⟨Nat.le_refl _, ?_⟩) inside x read s <;>
      rw [rest_grow, List.length_append] <;> omega
  | _ => exact .error

theorem steady_key : Steady key.read := by
  refine fun depth => (Token.extends_read depth).bind (.pair fun t => .pair fun inside => ?_)
  cases t with
  | array x =>
    refine .bind (f := fun c => readOctets (c.rest.length + 1) 32 inside x c)
      (h := fun c => readOctets (c.rest.length + 1) 32 inside x c) ?_
      (.pair fun b => .pair fun x => ?_)
    · intro c found read s
      refine extends_readOctets ?_ (.inl rfl) inside x read s
      rw [rest_grow, List.length_append]
      omega
    · dsimp only
      split
      · exact .error
      · exact Extent.extends_close.bind (.ok fun _ _ => rfl)
  | _ => exact .error

private theorem read_optional_cons (k : Codec α) (depth : Nat) (y : UInt8) (rest : Bytes)
    (offset : Nat) :
    (optional k).read depth ⟨y :: rest, offset⟩ =
      if y = 0xF6 then .ok (none, ⟨rest, offset + 1⟩)
      else k.read depth ⟨y :: rest, offset⟩ >>= fun x => .ok (some x.1, x.2) := by
  by_cases null : y = 0xF6
  · subst null
    rfl
  · rw [if_neg null]
    simp only [optional]
    split
    · rename_i same
      exact absurd (List.cons.inj same).1 null
    · rfl

private theorem steady_optional {k : Codec α} (h : Steady k.read)
    (something : ∀ depth offset x, k.read depth ⟨[], offset⟩ ≠ .ok x) :
    Steady (optional k).read := by
  rintro depth ⟨rest, offset⟩ x found s
  cases rest with
  | nil =>
    obtain ⟨y, there, -⟩ := bind_eq_ok.mp found
    exact absurd there (something depth offset y)
  | cons y rest =>
    have longer := read_optional_cons k depth y (rest ++ s) offset
    rw [read_optional_cons] at found
    refine longer.trans ?_
    by_cases null : y = 0xF6
    · rw [if_pos null] at found ⊢
      cases found
      rfl
    · rw [if_neg null] at found ⊢
      obtain ⟨z, value, found⟩ := bind_eq_ok.mp found
      cases found
      exact bind_eq_ok.mpr ⟨_, h depth value s, rfl⟩

theorem steady_optional_text : Steady (optional text).read := by
  refine steady_optional steady_text fun depth offset x found => ?_
  obtain ⟨t, token, -⟩ := bind_eq_ok.mp found
  cases depth <;> cases token

end Codec

namespace Fields

/-- All fields are read as well when more octets follow. -/
def Steady {αs : List Type} : Fields αs → Prop
  | .none => True
  | .field _ codec more => Cbor.Steady codec.read ∧ more.Steady

private theorem extends_readAt {αs : List Type} {fields : Fields αs} (steady : fields.Steady)
    (index depth : Nat) (d : Draft αs) :
    Extends (fields.readAt index d depth) (fields.readAt index d depth) := by
  induction fields generalizing index with
  | none => exact .ok fun _ _ => rfl
  | field name codec more ih =>
    obtain ⟨slot, d⟩ := d
    cases index with
    | zero =>
      cases slot with
      | some a => exact .error
      | none => exact (steady.1 depth).bind (.pair fun _ => .ok fun _ _ => rfl)
    | succ index => exact (ih steady.2 index d).bind (.pair fun _ => .ok fun _ _ => rfl)

private theorem extends_readInOrder {αs : List Type} {fields : Fields αs} (steady : fields.Steady)
    (tooShort : Nat → DecodeError) (index depth : Nat) (x : Extent) :
    Extends (fields.readInOrder tooShort index depth x)
      (fields.readInOrder tooShort index depth x) := by
  induction fields generalizing index x with
  | none => exact .ok fun _ _ => rfl
  | field name codec more ih =>
    refine .value Extent.step_grow fun next => ?_
    cases next with
    | none => exact .error
    | some next =>
      refine (steady.1 depth).bind (.pair fun a => ?_)
      exact (ih steady.2 (index + 1) next).bind (.pair fun _ => .pair fun _ => .ok fun _ _ => rfl)

end Fields

private theorem extends_readEntries {αs : List Type} {fields : Fields αs} (steady : fields.Steady)
    {fuel fuel' : Nat} (more : fuel ≤ fuel') (depth : Nat) (x : Extent) (d : Draft αs) :
    Extends (readEntries fields fuel depth x d) (readEntries fields fuel' depth x d) := by
  induction fuel generalizing fuel' x d with
  | zero => exact .error
  | succ fuel ih =>
    obtain ⟨fuel', rfl⟩ := Nat.exists_eq_succ_of_ne_zero (Nat.ne_zero_of_lt more)
    have rest := ih (Nat.le_of_succ_le_succ more)
    refine .value Extent.step_grow fun next => ?_
    cases next with
    | none => exact .ok fun _ _ => rfl
    | some next =>
      refine (Token.extends_read depth).bind (.pair fun t => .pair fun _ => .known fun index => ?_)
      cases index with
      | none => exact ((extends_skip (by omega)).1 depth).bind (rest next d)
      | some index =>
        exact (Fields.extends_readAt steady index depth d).bind (.pair fun d => rest next d)

theorem Codec.steady_record {αs : List Type} {title : String} {fields : Fields αs}
    (steady : fields.Steady) : Steady (Codec.record title fields).read := by
  refine fun depth => (Token.extends_read depth).bind (.pair fun t => .pair fun inside => ?_)
  cases t with
  | map x =>
    refine .bind (f := fun c => readEntries fields (c.rest.length + 1) inside x fields.blank c)
      (h := fun c => readEntries fields (c.rest.length + 1) inside x fields.blank c) ?_
      (.pair fun d => .pair fun x => .known fun as => Extent.extends_close.bind (.ok fun _ _ => rfl))
    intro c found read s
    refine extends_readEntries steady ?_ inside x _ read s
    rw [rest_grow, List.length_append]
    omega
  | array x =>
    exact (Fields.extends_readInOrder steady _ 0 inside x).bind
      (.pair fun as => .pair fun x => Extent.extends_close.bind (.ok fun _ _ => rfl))
  | _ => exact .error

/-- The content of a variant is read as well when more octets follow. -/
def Variant.Steady : Variant α → Prop
  | .constant _ _ => True
  | .carrying _ _ content => Cbor.Steady content

theorem Variant.steady_wrapping {name : String} {k : Codec β} {make : β → α}
    (h : Cbor.Steady k.read) : (Variant.wrapping name k make).Steady :=
  fun depth => (h depth).bind (.pair fun _ => .ok fun _ _ => rfl)

theorem Variant.steady_withFields {name : String} {k : Codec β} {make : β → α}
    (h : Cbor.Steady k.read) : (Variant.withFields name k make).Steady :=
  fun depth => (h depth).bind (.pair fun _ => .ok fun _ _ => rfl)

private theorem steady_readVariant (variants : List (Variant α)) : Steady (readVariant variants) :=
  fun depth => (Token.extends_read depth).bind
    (.pair fun _ => .pair fun _ => .known fun _ => .ok fun _ _ => rfl)

private theorem steady_readUnit : Steady readUnit := by
  refine fun depth => (Token.extends_read depth).bind (.pair fun t => .pair fun inside => ?_)
  cases t with
  | null => exact .ok fun _ _ => rfl
  | _ => exact .error

private theorem Variant.steady_readContent {v : Variant α} (h : v.Steady) :
    Cbor.Steady (readContent v) := by
  cases v with
  | constant name a =>
    exact fun depth => (steady_readUnit depth).bind (.pair fun _ => .ok fun _ _ => rfl)
  | carrying name form content => exact h

section

variable {variants : List (Variant α)}

private theorem extends_bind_variant [Placed β] {g g' : Variant α × Cursor → Except DecodeError β}
    (each : ∀ v ∈ variants, Extends (fun c => g (v, c)) fun c => g' (v, c)) (depth : Nat) :
    Extends (fun c => readVariant variants depth c >>= g)
      fun c => readVariant variants depth c >>= g' := by
  intro c b found s
  obtain ⟨⟨v, c₁⟩, variant, found⟩ := bind_eq_ok.mp found
  have member := mem_of_readVariant variant
  exact bind_eq_ok.mpr ⟨_, steady_readVariant variants depth variant s, each v member found s⟩

variable (steady : ∀ v ∈ variants, v.Steady)
include steady

private theorem steady_readPair (x : Extent) : Steady (readPair variants x) := by
  refine fun depth => .value Extent.step_grow fun next => ?_
  cases next with
  | none => exact .error
  | some next =>
    refine extends_bind_variant (fun v member => ?_) depth
    refine .value Extent.step_grow fun last => ?_
    cases last with
    | none => cases v <;> exact .error
    | some last =>
      refine (Variant.steady_readContent (steady v member) depth).bind (.pair fun a => ?_)
      exact Extent.extends_close.bind (.ok fun _ _ => rfl)

theorem Codec.steady_choice {write : α → Bytes} : Steady (Codec.choice variants write).read := by
  intro depth
  have array (x : UInt8) : Extends
      (fun c : Cursor => c.argument (x.toNat % 32) >>= fun y =>
        Token.descend depth y.2 >>= fun inside =>
          readPair variants (Extent.ofArgument y.1) inside y.2)
      fun c : Cursor => c.argument (x.toNat % 32) >>= fun y =>
        Token.descend depth y.2 >>= fun inside =>
          readPair variants (Extent.ofArgument y.1) inside y.2 :=
    (Cursor.extends_argument _).bind
      (.pair fun n => .value Token.descend_grow fun inside =>
        steady_readPair steady (Extent.ofArgument n) inside)
  have map : Extends
      (fun c : Cursor => Token.descend depth c >>= fun inside =>
        readVariant variants inside c >>= fun y => readContent y.1 inside y.2)
      fun c : Cursor => Token.descend depth c >>= fun inside =>
        readVariant variants inside c >>= fun y => readContent y.1 inside y.2 :=
    .value Token.descend_grow fun inside =>
      extends_bind_variant (fun v member => Variant.steady_readContent (steady v member) inside)
        inside
  have name : Extends
      (fun c : Cursor => readVariant variants depth c >>= fun y =>
        match y.1 with
        | .constant _ value => .ok (value, y.2)
        | .carrying _ form _ => .error (.wrongType .bareVariant form))
      fun c : Cursor => readVariant variants depth c >>= fun y =>
        match y.1 with
        | .constant _ value => .ok (value, y.2)
        | .carrying _ form _ => .error (.wrongType .bareVariant form) := by
    refine (steady_readVariant variants depth).bind (.pair fun v => ?_)
    cases v with
    | constant name value => exact .ok fun _ _ => rfl
    | carrying name form content => exact .error
  rintro ⟨rest, offset⟩ a found s
  cases rest with
  | nil => cases found
  | cons x rest =>
    simp only [Codec.choice, rest_grow, List.cons_append] at found ⊢
    split at found
    · rename_i isArray
      rw [if_pos isArray]
      exact array x found s
    · rename_i noArray
      rw [if_neg noArray]
      split at found
      · rename_i isMap
        rw [if_pos isMap]
        exact map found s
      · rename_i noMap
        rw [if_neg noMap]
        exact name found s

end

/-- A choice of names is read as well when more octets follow. -/
theorem Codec.steady_names (values : List α) (name : α → String) (write : α → Bytes) :
    Steady (Codec.choice (values.map fun a => .constant (name a) a) write).read := by
  refine Codec.steady_choice fun v member => ?_
  obtain ⟨a, -, rfl⟩ := List.mem_map.mp member
  exact trivial

namespace Codec

variable {k : Codec α}

/-- An octet after a value is refused, and the place of the refusal is right behind that octet. -/
theorem Lawful.decode_append {levels : Nat} (h : k.Lawful levels) (shallow : levels < maxDepth)
    {a : α} (fits : (k.write a).length < 1 <<< 64) (x : UInt8) (s : Bytes) :
    k.decode (k.write a ++ x :: s) =
      .error (.malformed .trailingData ((k.write a).length + 1)) := by
  have read := h a maxDepth (x :: s) 0 shallow (by omega)
  rw [Nat.zero_add] at read
  unfold decode
  simp only [Cursor.start, read, ok_bind]
  rfl

/-- Octets that make a value together with more octets make none alone. -/
theorem decode_front {b s : Bytes} {a a' : α} (h : Steady k.read) (more : s ≠ [])
    (whole : k.decode (b ++ s) = .ok a) : k.decode b ≠ .ok a' := by
  intro front
  obtain ⟨⟨v, c⟩, read, front⟩ := bind_eq_ok.mp front
  have ended : c.rest = [] := by
    simp only at front
    split at front
    · assumption
    · cases front
  have longer : k.read maxDepth (Cursor.start (b ++ s)) = .ok (v, grow c s) := h maxDepth read s
  obtain ⟨x, s, rfl⟩ := List.exists_cons_of_ne_nil more
  simp only [decode, longer, ok_bind, rest_grow, ended, List.nil_append] at whole
  cases whole

end Codec

end DevicePairing.Cbor
