import RtMessage.DataProvider.Database

/- The getters that copy a string into a buffer of the caller.

   `rtMessage_GetStringValue` lets a string through that is as long as the buffer, and
   `snprintf` cuts its last byte off. `rtMessage_GetStringItem` does not look at the length,
   and an index below zero is past the test against the size of the array. So what they
   promise (`GetsString`) holds only of strings that are shorter than the buffer, at
   indexes that are not negative (`string_getters_whole_iff`). -/
namespace RtMessage

/-! The code. -/

/-- `(int) n`, for an `n` of type `size_t`. -/
def toInt (n : Nat) : Int := toInt32 (UInt32.ofNat n)

/-- `snprintf(a, n, "%s", s)`. -/
def CArray.snprintf {n : Nat} (a : CArray n) (s : Bytes) : CArray n :=
  if h : 0 < n then
    ⟨s.take (n - 1) ++ 0 :: a.data.drop ((s.take (n - 1)).length + 1), by
      simp [a.size_eq]; omega⟩
  else a

/-- The number of items, an `int`. -/
def cJSONGetArraySize (j : CJson) : Int := toInt (DataProvider.CJson.children j).length

/-- No item for an index outside the array. -/
def cJSONGetArrayItem (j : CJson) (idx : Int) : Option CJson :=
  if idx < 0 then none else (DataProvider.CJson.children j)[idx.toNat]?

/-- `strlen` of a null pointer has no meaning: that is the `valuestring` of an item that is no
    string. -/
def rtMessageGetStringValue {n : Nat} (m : CJson) (name : Bytes) (fieldvalue : CArray n) :
    Except Fault (RtError × CArray n) :=
  match cJSONGetObjectItem m name with
  | none => .ok (.fail, fieldvalue)
  | some p =>
    match p.valuestring with
    | none => .error .undefinedBehaviour
    | some value =>
      if toInt (cstr value).length ≤ n then .ok (.ok, fieldvalue.snprintf (cstr value))
      else .ok (.fail, fieldvalue)

def rtMessageGetStringItem {n : Nat} (m : CJson) (name : Bytes) (idx : Int) (value : CArray n) :
    Except Fault (RtError × CArray n) :=
  match cJSONGetObjectItem m name with
  | none => .ok (.propertyNotFound, value)
  | some obj =>
    if cJSONGetArraySize obj ≤ idx then .ok (.fail, value)
    else
      match cJSONGetArrayItem obj idx with
      | none => .ok (.ok, value)
      | some item =>
        match item.valuestring with
        | none => .error .undefinedBehaviour
        | some s => .ok (.ok, value.strncpy (cstr s) n (Nat.le_refl n))

/-! What they promise. -/

/-- An error, or the stored string in the buffer with a NUL behind it. -/
def GetsString {n : Nat} (r : Except Fault (RtError × CArray n)) (stored : Option Bytes) : Prop :=
  ∃ e buf, r = .ok (e, buf) ∧ (e = .ok → ∃ s, stored = some s ∧ s ++ [0] <+: buf.data)

/-- The string stored under the name. -/
def storedString (m : CJson) (name : Bytes) : Option Bytes :=
  ((cJSONGetObjectItem m name).bind CJson.valuestring).map cstr

/-- The string stored at an index of the array. -/
def storedItem (m : CJson) (name : Bytes) (idx : Int) : Option Bytes :=
  (((cJSONGetObjectItem m name).bind fun obj => cJSONGetArrayItem obj idx).bind
    CJson.valuestring).map cstr

section Getters
variable {n : Nat} {e : RtError} {s : Bytes} {buf : CArray n} {stored : Option Bytes}

theorem getsString_error (he : e ≠ .ok) : GetsString (.ok (e, buf)) stored :=
  ⟨e, buf, rfl, fun h => absurd h he⟩

theorem not_getsString_fault {f : Fault} :
    ¬ GetsString (.error f : Except Fault (RtError × CArray n)) stored := by
  rintro ⟨e, buf, h, -⟩
  cases h

theorem getsString_ok : GetsString (.ok (.ok, buf)) (some s) ↔ s ++ [0] <+: buf.data := by
  constructor
  · rintro ⟨e, buf', h, hholds⟩
    cases h
    obtain ⟨s', hs, hprefix⟩ := hholds rfl
    cases hs
    exact hprefix
  · exact fun h => ⟨_, _, rfl, fun _ => ⟨s, rfl, h⟩⟩

theorem length_lt_of_stored (h : s ++ [0] <+: buf.data) : s.length < n := by
  have hle := h.length_le
  rw [List.length_append, List.length_singleton, buf.size_eq] at hle
  exact hle

theorem snprintf_holds_iff : s ++ [0] <+: (buf.snprintf s).data ↔ s.length < n := by
  refine ⟨length_lt_of_stored, fun h => ?_⟩
  have hpos : 0 < n := by omega
  rw [CArray.snprintf, dif_pos hpos]
  dsimp only
  rw [List.take_of_length_le (by omega)]
  exact ⟨buf.data.drop (s.length + 1), by simp⟩

theorem strncpy_holds_iff : s ++ [0] <+: (buf.strncpy s n (Nat.le_refl n)).data ↔ s.length < n := by
  refine ⟨length_lt_of_stored, fun h => ?_⟩
  rw [CArray.strncpy]
  dsimp only
  obtain ⟨k, hk⟩ : ∃ k, n - s.length = k + 1 := ⟨n - s.length - 1, by omega⟩
  rw [List.take_of_length_le (by omega), hk, List.replicate_succ]
  exact ⟨List.replicate k 0 ++ buf.data.drop n, by simp⟩

end Getters

/-! When they keep it. -/

/-- There is no such field, or it is a string that is shorter than the buffer, or one whose length
    is larger than the buffer's as an `int`. -/
def FieldFits (m : CJson) (name : Bytes) (n : Nat) : Prop :=
  ∀ p, cJSONGetObjectItem m name = some p →
    ∃ s, p = .string s ∧ ((cstr s).length < n ∨ (n : Int) < toInt (cstr s).length)

/-- There is no such array, or it has not so many items, or at the index is a string that is
    shorter than the buffer. -/
def ItemFits (m : CJson) (name : Bytes) (idx : Int) (n : Nat) : Prop :=
  ∀ obj, cJSONGetObjectItem m name = some obj → cJSONGetArraySize obj ≤ idx ∨
    ∃ s, cJSONGetArrayItem obj idx = some (.string s) ∧ (cstr s).length < n

section Fits
variable {m : CJson} {name : Bytes} {idx : Int} {n : Nat}

theorem valuestring_eq_some {p : CJson} {s : Bytes} : p.valuestring = some s ↔ p = .string s := by
  cases p <;> simp [CJson.valuestring]

theorem stringValue_whole_iff (buf : CArray n) :
    GetsString (rtMessageGetStringValue m name buf) (storedString m name) ↔ FieldFits m name n := by
  unfold rtMessageGetStringValue storedString FieldFits
  cases hfield : cJSONGetObjectItem m name with
  | none => exact ⟨fun _ p hp => (by cases hp), fun _ => getsString_error (by decide)⟩
  | some p =>
    simp only [Option.bind_some, Option.some.injEq, forall_eq']
    cases hvalue : p.valuestring with
    | none =>
      constructor
      · exact fun h => absurd h not_getsString_fault
      · rintro ⟨s, rfl, -⟩
        cases hvalue
    | some s =>
      obtain rfl := valuestring_eq_some.mp hvalue
      simp only [Option.map_some, CJson.string.injEq, exists_eq_left']
      by_cases hlen : toInt (cstr s).length ≤ n
      · rw [if_pos hlen, getsString_ok, snprintf_holds_iff, or_iff_left (by omega)]
      · rw [if_neg hlen]
        exact ⟨fun _ => .inr (by omega), fun _ => getsString_error (by decide)⟩

theorem stringItem_whole_iff (buf : CArray n) :
    GetsString (rtMessageGetStringItem m name idx buf) (storedItem m name idx) ↔
      ItemFits m name idx n := by
  unfold rtMessageGetStringItem storedItem ItemFits
  cases hfield : cJSONGetObjectItem m name with
  | none => exact ⟨fun _ obj hobj => (by cases hobj), fun _ => getsString_error (by decide)⟩
  | some obj =>
    simp only [Option.bind_some, Option.some.injEq, forall_eq']
    by_cases hsize : cJSONGetArraySize obj ≤ idx
    · rw [if_pos hsize]
      exact ⟨fun _ => .inl hsize, fun _ => getsString_error (by decide)⟩
    · rw [if_neg hsize, or_iff_right hsize]
      cases hitem : cJSONGetArrayItem obj idx with
      | none =>
        -- `RT_OK`, with nothing stored in the buffer
        constructor
        · rintro ⟨e, b, h, hholds⟩
          cases h
          obtain ⟨s, hs, -⟩ := hholds rfl
          cases hs
        · rintro ⟨s, h, -⟩
          cases h
      | some item =>
        simp only [Option.bind_some, Option.some.injEq]
        cases hvalue : item.valuestring with
        | none =>
          constructor
          · exact fun h => absurd h not_getsString_fault
          · rintro ⟨s, rfl, -⟩
            cases hvalue
        | some s =>
          obtain rfl := valuestring_eq_some.mp hvalue
          simp only [Option.map_some, CJson.string.injEq, exists_eq_left']
          rw [getsString_ok, strncpy_holds_iff]

end Fits

/-- **The getters hand out whole strings** exactly if these fit. -/
theorem string_getters_whole_iff (m : CJson) (name : Bytes) (idx : Int) {n : Nat} (buf : CArray n) :
    (GetsString (rtMessageGetStringValue m name buf) (storedString m name) ↔ FieldFits m name n) ∧
    (GetsString (rtMessageGetStringItem m name idx buf) (storedItem m name idx) ↔
      ItemFits m name idx n) :=
  ⟨stringValue_whole_iff buf, stringItem_whole_iff buf⟩

/-- A message with the string `xy` and an array that has it as its only item. -/
def stringMessage : CJson :=
  .object [(ascii "s", .string (ascii "xy")), (ascii "a", .array [.string (ascii "xy")])]

/-- In a buffer of two bytes the one getter cuts the string and the other does not terminate it,
    and at the index -1 there is none. -/
theorem string_getters_cut :
    ¬ GetsString (rtMessageGetStringValue stringMessage (ascii "s") (.zero 2))
      (storedString stringMessage (ascii "s")) ∧
    ¬ GetsString (rtMessageGetStringItem stringMessage (ascii "a") 0 (.zero 2))
      (storedItem stringMessage (ascii "a") 0) ∧
    ¬ GetsString (rtMessageGetStringItem stringMessage (ascii "a") (-1) (.zero 8))
      (storedItem stringMessage (ascii "a") (-1)) := by
  refine ⟨fun h => ?_, fun h => ?_, fun h => ?_⟩
  · obtain ⟨s, hs, hfits⟩ := (stringValue_whole_iff _).mp h _ rfl
    cases hs
    revert hfits
    decide
  · cases (stringItem_whole_iff _).mp h _ rfl with
    | inl hsize => exact absurd hsize (by decide)
    | inr hitem =>
      obtain ⟨s, hs, hfits⟩ := hitem
      cases hs
      revert hfits
      decide
  · cases (stringItem_whole_iff _).mp h _ rfl with
    | inl hsize => exact absurd hsize (by decide)
    | inr hitem =>
      obtain ⟨s, hs, -⟩ := hitem
      cases hs

end RtMessage
