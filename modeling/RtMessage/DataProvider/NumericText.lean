import RtMessage.Lib.ByteOrder
import RtMessage.DataProvider.Results

/- `dmValue` as it lies in memory: a constructor stores its argument through a member of a union,
   and `toString` reads the member of the value's type.

   An unsigned integer is stored through the member of 64 bits and read through the one of its
   own width, which is the same number on a little-endian machine only; an integer of 8 bits is
   printed as a character. `numeric_text_iff` says which integers keep their value as text. -/
namespace RtMessage.DataProvider
open Lib

def DmValue.type : DmValue → DmValueType
  | .boolean _ => .boolean
  | .string _ => .string
  | .int8 _ => .int8
  | .int16 _ => .int16
  | .int32 _ => .int32
  | .int64 _ => .int64
  | .uint8 _ => .uint8
  | .uint16 _ => .uint16
  | .uint32 _ => .uint32
  | .uint64 _ => .uint64
  | .single _ => .single
  | .double _ => .double

/-! The union. -/

/-- A member of `w` bytes is stored; the bytes behind it stay. -/
def storeMember (o : ByteOrder) (value : CArray 8) (w : Nat) (hw : w ≤ 8) (n : Nat) : CArray 8 :=
  ⟨o.store w n ++ value.data.drop w, by
    rw [List.length_append, ByteOrder.store_length, List.length_drop, value.size_eq]; omega⟩

def readMember (o : ByteOrder) (value : CArray 8) (w : Nat) : Nat := o.load (value.data.take w)

/-- The constructors of `value`. One that stores nothing leaves what is in the memory. -/
def dmValueUnion (o : ByteOrder) (memory : CArray 8) : DmValue → CArray 8
  | .boolean b => storeMember o memory 1 (by decide) b.toNat
  | .string _ => memory
  | .int8 n => storeMember o memory 1 (by decide) n.toUInt8.toNat
  | .int16 n => storeMember o memory 2 (by decide) n.toUInt16.toNat
  | .int32 n => storeMember o memory 4 (by decide) n.toUInt32.toNat
  | .int64 n => storeMember o memory 8 (by decide) n.toUInt64.toNat
  -- `uint64Value(n)`
  | .uint8 n => storeMember o memory 8 (by decide) n.toNat
  | .uint16 n => storeMember o memory 8 (by decide) n.toNat
  | .uint32 n => storeMember o memory 8 (by decide) n.toNat
  | .uint64 n => storeMember o memory 8 (by decide) n.toNat
  | .single bits => storeMember o memory 4 (by decide) bits.toNat
  | .double bits => storeMember o memory 8 (by decide) bits.toNat

structure StoredValue where
  type : DmValueType
  string : Bytes
  value : CArray 8

/-- `dmValue::dmValue`, for each type of argument. -/
def dmValue (o : ByteOrder) (memory : CArray 8) (v : DmValue) : StoredValue where
  type := v.type
  string := match v with
    | .string s => s
    | _ => []
  value := dmValueUnion o memory v

/-- `dmValue::toString`. The stream has an overload for `signed char` and one for
    `unsigned char`. -/
def StoredValue.toString (o : ByteOrder) (F : FloatText) (v : StoredValue) : Bytes :=
  match v.type with
  | .boolean => if readMember o v.value 1 ≠ 0 then ascii "true" else ascii "false"
  | .unknown => ascii "(null)"
  | .string => v.string
  | .int8 => [UInt8.ofNat (readMember o v.value 1)]
  | .int16 => decimal (UInt16.ofNat (readMember o v.value 2)).toInt16.toInt
  | .int32 => decimal (UInt32.ofNat (readMember o v.value 4)).toInt32.toInt
  | .int64 => decimal (UInt64.ofNat (readMember o v.value 8)).toInt64.toInt
  | .uint8 => [UInt8.ofNat (readMember o v.value 1)]
  | .uint16 => decimal (readMember o v.value 2)
  | .uint32 => decimal (readMember o v.value 4)
  | .uint64 => decimal (readMember o v.value 8)
  | .single => F.single (UInt32.ofNat (readMember o v.value 4))
  | .double => F.double (UInt64.ofNat (readMember o v.value 8))

/-! What is asked. -/

/-- The number that a value of an integer type is. -/
def DmValue.integer? : DmValue → Option Int
  | .int8 n => some n.toInt
  | .int16 n => some n.toInt
  | .int32 n => some n.toInt
  | .int64 n => some n.toInt
  | .uint8 n => some n.toNat
  | .uint16 n => some n.toNat
  | .uint32 n => some n.toNat
  | .uint64 n => some n.toNat
  | _ => none

/-- An integer is printed in decimal, and what `encodeResult` takes of the text is read back as
    the integer. -/
def KeepsNumber (o : ByteOrder) (memory : CArray 8) (F : FloatText) (v : DmValue) : Prop :=
  ∀ n, v.integer? = some n →
    (dmValue o memory v).toString o F = decimal n ∧
      readInt (cstr ((dmValue o memory v).toString o F)) = some n

/-! What is read of a union. -/

section Members
variable (o : ByteOrder) (memory : CArray 8)

theorem readMember_own {w n : Nat} (hw : w ≤ 8) (hn : n < 256^w) :
    readMember o (storeMember o memory w hw n) w = n := by
  rw [readMember, storeMember, List.take_left' (ByteOrder.store_length o w n), load_store,
    Nat.mod_eq_of_lt hn]

theorem readMember_little {w n : Nat} (k : Nat) (hw : w + k ≤ 8) (hn : n < 256^w) :
    readMember .little (storeMember .little memory (w + k) hw n) w = n := by
  rw [readMember, storeMember, List.take_append_of_le_length, load_take_little,
    Nat.mod_eq_of_lt hn]
  rw [ByteOrder.store_length]
  omega

theorem readMember_big {n : Nat} (w k : Nat) (hw : w + k ≤ 8) (hn : n < 256^k) :
    readMember .big (storeMember .big memory (w + k) hw n) w = 0 := by
  rw [readMember, storeMember, List.take_append_of_le_length, load_take_big,
    Nat.div_eq_of_lt hn, Nat.zero_mod]
  rw [ByteOrder.store_length]
  omega

end Members

/-- The value that is read for one that was stored: on a big-endian machine nothing of a narrow
    unsigned integer. -/
def DmValue.readBack : ByteOrder → DmValue → DmValue
  | .big, .uint8 _ => .uint8 0
  | .big, .uint16 _ => .uint16 0
  | .big, .uint32 _ => .uint32 0
  | _, v => v

theorem toString_dmValue (o : ByteOrder) (memory : CArray 8) (F : FloatText) (v : DmValue) :
    (dmValue o memory v).toString o F = (v.readBack o).toString F := by
  unfold dmValue StoredValue.toString dmValueUnion
  cases v with
  | string s => cases o <;> rfl
  | boolean b =>
    dsimp only [DmValue.type]
    rw [readMember_own o memory _ (show b.toNat < 256^1 by cases b <;> decide)]
    cases o <;> cases b <;> rfl
  | int8 n =>
    dsimp only [DmValue.type]
    rw [readMember_own o memory _ n.toUInt8.toNat_lt, UInt8.ofNat_toNat]
    cases o <;> rfl
  | int16 n =>
    dsimp only [DmValue.type]
    rw [readMember_own o memory _ n.toUInt16.toNat_lt, UInt16.ofNat_toNat]
    cases o <;> rfl
  | int32 n =>
    dsimp only [DmValue.type]
    rw [readMember_own o memory _ n.toUInt32.toNat_lt, UInt32.ofNat_toNat]
    cases o <;> rfl
  | int64 n =>
    dsimp only [DmValue.type]
    rw [readMember_own o memory _ n.toUInt64.toNat_lt, UInt64.ofNat_toNat]
    cases o <;> rfl
  -- The unsigned types go through `uint64Value`, where the byte order shows.
  | uint8 n =>
    dsimp only [DmValue.type]
    cases o with
    | little => rw [readMember_little memory 7 _ n.toNat_lt, UInt8.ofNat_toNat]; rfl
    | big => rw [readMember_big memory 1 7 _ (Nat.lt_trans n.toNat_lt (by decide))]; rfl
  | uint16 n =>
    dsimp only [DmValue.type]
    cases o with
    | little => rw [readMember_little memory 6 _ n.toNat_lt]; rfl
    | big => rw [readMember_big memory 2 6 _ (Nat.lt_trans n.toNat_lt (by decide))]; rfl
  | uint32 n =>
    dsimp only [DmValue.type]
    cases o with
    | little => rw [readMember_little memory 4 _ n.toNat_lt]; rfl
    | big => rw [readMember_big memory 4 4 _ n.toNat_lt]; rfl
  | uint64 n =>
    dsimp only [DmValue.type]
    rw [readMember_own o memory _ n.toNat_lt]
    cases o <;> rfl
  | single bits =>
    dsimp only [DmValue.type]
    rw [readMember_own o memory _ bits.toNat_lt, UInt32.ofNat_toNat]
    cases o <;> rfl
  | double bits =>
    dsimp only [DmValue.type]
    rw [readMember_own o memory _ bits.toNat_lt, UInt64.ofNat_toNat]
    cases o <;> rfl

/-! Decimal texts. -/

theorem decimal_negSucc (k : Nat) : decimal (Int.negSucc k) = 45 :: Lib.digits (k + 1) := by
  change ascii ("-" ++ toString (k + 1)) = _
  rw [ascii, String.toList_append, Nat.toString_eq_ofList_toDigits,
    String.toList_ofList, String.toList_ofList]
  rfl

/-- **A decimal text is read as its number.** -/
theorem readInt_decimal (n : Int) : readInt (decimal n) = some n := by
  cases n with
  | ofNat k => rw [Int.ofNat_eq_natCast, decimal_ofNat, readInt_digits]
  | negSucc k => rw [decimal_negSucc, readInt_minus]; rfl

/-- No byte of it is a NUL, so all of it goes on the wire. -/
theorem cstr_decimal (n : Int) : cstr (decimal n) = decimal n := by
  have hdigits : ∀ k, 0 ∉ Lib.digits k := by
    intro k hmem
    exact absurd ((numeral_digits k).2 0 hmem) (by decide)
  refine cstr_of_not_mem ?_
  cases n with
  | ofNat k => rw [Int.ofNat_eq_natCast, decimal_ofNat]; exact hdigits k
  | negSucc k =>
    rw [decimal_negSucc, List.mem_cons, not_or]
    exact ⟨by decide, hdigits (k + 1)⟩

theorem decimal_inj {m n : Int} : decimal m = decimal n ↔ m = n := by
  refine ⟨fun h => ?_, fun h => by rw [h]⟩
  have hread := readInt_decimal m
  rw [h, readInt_decimal] at hread
  exact (Option.some.inj hread).symm

/-! Which integers keep their number. -/

theorem encodeParam_value (memory : CArray 8) (F : FloatText) (param : Param) :
    (cJSONGetObjectItem (encodeParam F param) (ascii "value")).bind CJson.valuestring =
      some (cstr ((dmValue .little memory param.value).toString .little F)) := by
  have hback : param.value.readBack .little = param.value := by cases param.value <;> rfl
  rw [toString_dmValue, hback]
  rfl

/-- The integer is not one of 8 bits, and on a big-endian machine not an unsigned one of 16 or
    32 bits but for zero. -/
def PrintsNumber (o : ByteOrder) (v : DmValue) : Prop :=
  v.type ≠ .int8 ∧ v.type ≠ .uint8 ∧
    (o = .big → v.type = .uint16 ∨ v.type = .uint32 → v.integer? = some 0)

section Numbers
variable {o : ByteOrder} {memory : CArray 8} {F : FloatText} {v : DmValue}

theorem keepsNumber_iff {n : Int} (h : v.integer? = some n) :
    KeepsNumber o memory F v ↔ (v.readBack o).toString F = decimal n := by
  unfold KeepsNumber
  rw [toString_dmValue, h]
  constructor
  · exact fun hkeeps => (hkeeps n rfl).1
  · intro htext m hm
    cases hm
    rw [htext, cstr_decimal]
    exact ⟨rfl, readInt_decimal n⟩

theorem decimal_keepsNumber (h : ∀ n, v.integer? = some n → (v.readBack o).toString F = decimal n) :
    KeepsNumber o memory F v :=
  fun n hn => (keepsNumber_iff hn).mpr (h n hn) n hn

theorem char_not_keepsNumber {b : UInt8} {n : Int} (h : v.integer? = some n)
    (htext : (v.readBack o).toString F = [b]) (hcode : 0 ≤ n → n = b.toNat ∨ b.toNat = 0) :
    ¬ KeepsNumber o memory F v := by
  rw [keepsNumber_iff h, htext]
  intro heq
  -- the character would be read back as the digit it shows
  have hread := readInt_decimal n
  rw [← heq] at hread
  obtain ⟨hvalue, hpos⟩ := readInt_singleton hread
  have := hcode hpos
  omega

/-- A narrow unsigned integer, which is read as `zero` on a big-endian machine. -/
theorem narrow_keepsNumber_iff {n : Int} (h : v.integer? = some n)
    (hlittle : (v.readBack .little).toString F = decimal n)
    (hbig : (v.readBack .big).toString F = decimal 0) :
    KeepsNumber o memory F v ↔ (o = .big → v.integer? = some 0) := by
  rw [keepsNumber_iff h]
  cases o with
  | little =>
    rw [hlittle]
    exact ⟨fun _ hmachine => (by cases hmachine), fun _ => rfl⟩
  | big =>
    rw [hbig, decimal_inj, h, Option.some.injEq]
    exact ⟨fun hzero _ => hzero.symm, fun hzero => (hzero rfl).symm⟩

end Numbers

/-- **Which integers keep their value as text**, for every machine and every value. -/
theorem numeric_text_iff (o : ByteOrder) (memory : CArray 8) (F : FloatText) (v : DmValue) :
    KeepsNumber o memory F v ↔ PrintsNumber o v := by
  unfold PrintsNumber
  cases v with
  -- a byte that is not negative is its own code
  | int8 n =>
    refine iff_of_false (char_not_keepsNumber rfl (by cases o <;> rfl) fun hpos => .inl ?_)
      fun h => h.1 rfl
    exact BitVec.toInt_eq_toNat_of_lt (BitVec.toInt_pos_iff.mp hpos)
  | uint8 n =>
    refine iff_of_false ?_ fun h => h.2.1 rfl
    cases o with
    | little => exact char_not_keepsNumber rfl rfl fun _ => .inl rfl
    | big => exact char_not_keepsNumber rfl rfl fun _ => .inr rfl
  | uint16 n =>
    rw [narrow_keepsNumber_iff rfl rfl rfl]
    simp [DmValue.type]
  | uint32 n =>
    rw [narrow_keepsNumber_iff rfl rfl rfl]
    simp [DmValue.type]
  | int16 n | int32 n | int64 n | uint64 n =>
    refine iff_of_true (decimal_keepsNumber fun m hm => ?_) (by simp [DmValue.type])
    cases hm
    cases o <;> rfl
  | boolean | string | single | double =>
    refine iff_of_true (fun m hm => ?_) (by simp [DmValue.type])
    cases hm

/-- Floats are printed as nothing. -/
def noFloatText : FloatText := ⟨fun _ => [], fun _ => []⟩

/-- The integer 53 of 8 bits is printed as the digit 5, and the integer 7 as a control character. -/
theorem char_texts :
    (dmValue .little (.zero 8) (.uint8 53)).toString .little noFloatText = ascii "5" ∧
    ¬ KeepsNumber .little (.zero 8) noFloatText (.uint8 53) ∧
    (dmValue .little (.zero 8) (.int8 7)).toString .little noFloatText = [7] ∧
    ¬ KeepsNumber .little (.zero 8) noFloatText (.int8 7) :=
  ⟨by decide, char_not_keepsNumber rfl rfl fun _ => .inl rfl,
    by decide, char_not_keepsNumber rfl rfl fun _ => .inl rfl⟩

end RtMessage.DataProvider
