set_option autoImplicit false
set_option relaxedAutoImplicit false

namespace DevicePairing.Text.Split

def atFirst? (x : Char) : List Char → Option (List Char × List Char)
  | [] => none
  | c :: s =>
    if c = x then some ([], s)
    else (atFirst? x s).map fun (before, after) => (c :: before, after)

def atLast? (x : Char) : List Char → Option (List Char × List Char)
  | [] => none
  | c :: s =>
    match atLast? x s with
    | some (before, after) => some (c :: before, after)
    | none => if c = x then some ([], s) else none

def after? (start : List Char) (s : List Char) : Option (List Char) :=
  match start, s with
  | [], s => some s
  | _ :: _, [] => none
  | x :: start, c :: s => if x = c then after? start s else none

theorem atFirst?_eq_some {x : Char} {s before after : List Char}
    (h : atFirst? x s = some (before, after)) : s = before ++ x :: after := by
  induction s generalizing before with
  | nil => cases h
  | cons c s ih =>
    unfold atFirst? at h
    split at h
    · rename_i hc
      cases h
      simp [hc]
    · obtain ⟨⟨b, a⟩, hb, hba⟩ := Option.map_eq_some_iff.mp h
      cases hba
      simp [ih hb]

theorem atFirst?_append {x : Char} {before : List Char} (absent : x ∉ before) (after : List Char) :
    atFirst? x (before ++ x :: after) = some (before, after) := by
  induction before with
  | nil => exact if_pos rfl
  | cons c before ih =>
    obtain ⟨other, absent⟩ := not_or.mp (mt List.mem_cons.mpr absent)
    rw [List.cons_append, atFirst?, if_neg (Ne.symm other), ih absent]
    rfl

theorem atLast?_eq_some {x : Char} {s before after : List Char}
    (h : atLast? x s = some (before, after)) : s = before ++ x :: after := by
  induction s generalizing before with
  | nil => cases h
  | cons c s ih =>
    unfold atLast? at h
    split at h
    · rename_i b a hb
      cases h
      simp [ih hb]
    · split at h
      · rename_i hc
        cases h
        simp [hc]
      · cases h

private theorem atLast?_eq_none {x : Char} {s : List Char} (absent : x ∉ s) :
    atLast? x s = none := by
  induction s with
  | nil => rfl
  | cons c s ih =>
    obtain ⟨other, absent⟩ := not_or.mp (mt List.mem_cons.mpr absent)
    simp only [atLast?, ih absent, if_neg (Ne.symm other)]

theorem atLast?_append {x : Char} {after : List Char} (absent : x ∉ after) (before : List Char) :
    atLast? x (before ++ x :: after) = some (before, after) := by
  induction before with
  | nil => simp only [List.nil_append, atLast?, atLast?_eq_none absent, if_true]
  | cons c before ih => simp only [List.cons_append, atLast?, ih]

theorem after?_eq_some {start s rest : List Char} :
    after? start s = some rest ↔ s = start ++ rest := by
  induction start generalizing s with
  | nil => simp [after?]
  | cons x start ih =>
    cases s with
    | nil => simp [after?]
    | cons c s =>
      rw [after?]
      by_cases same : x = c
      · simp [same, ih]
      · simp [same, Ne.symm same]

end DevicePairing.Text.Split
