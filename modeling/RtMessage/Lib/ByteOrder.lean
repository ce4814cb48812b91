import RtMessage.Lib.BigEndian

/- The bytes of a number in memory, in the order of the machine.

   A number is stored in as many bytes as it is wide and may be read from fewer: from its first
   bytes in memory. On a little-endian machine these hold the low part of it
   (`load_take_little`), on a big-endian one the high part (`load_take_big`). -/
namespace Lib

inductive ByteOrder where
  | little
  | big
  deriving DecidableEq, Repr

/-- The `w` bytes of a number. -/
def ByteOrder.store (o : ByteOrder) (w n : Nat) : List UInt8 :=
  match o with
  | .little => (BigEndian.toBytes w n).reverse
  | .big => BigEndian.toBytes w n

def ByteOrder.load (o : ByteOrder) (bytes : List UInt8) : Nat :=
  match o with
  | .little => BigEndian.ofBytes bytes.reverse
  | .big => BigEndian.ofBytes bytes

@[simp] theorem ByteOrder.store_length (o : ByteOrder) (w n : Nat) : (o.store w n).length = w := by
  cases o <;> simp [store]

theorem toBytes_drop (k w n : Nat) :
    (BigEndian.toBytes (k + w) n).drop k = BigEndian.toBytes w n := by
  induction k with
  | zero => rw [Nat.zero_add, List.drop_zero]
  | succ k ih => rw [Nat.add_right_comm, BigEndian.toBytes, List.drop_succ_cons, ih]

theorem toBytes_take (w k n : Nat) :
    (BigEndian.toBytes (w + k) n).take w = BigEndian.toBytes w (n / 256^k) := by
  induction w with
  | zero => rfl
  | succ w ih =>
    rw [Nat.add_right_comm, BigEndian.toBytes, List.take_succ_cons, ih, BigEndian.toBytes,
      Nat.div_div_eq_div_mul, ← Nat.pow_add, Nat.add_comm k w]

theorem load_store (o : ByteOrder) (w n : Nat) : o.load (o.store w n) = n % 256^w := by
  cases o with
  | little => rw [ByteOrder.store, ByteOrder.load, List.reverse_reverse, BigEndian.ofBytes_toBytes]
  | big => rw [ByteOrder.store, ByteOrder.load, BigEndian.ofBytes_toBytes]

theorem load_take_little (w k n : Nat) :
    ByteOrder.little.load ((ByteOrder.little.store (w + k) n).take w) = n % 256^w := by
  have hdrop : (BigEndian.toBytes (w + k) n).drop (w + k - w) = BigEndian.toBytes w n := by
    rw [Nat.add_sub_cancel_left, Nat.add_comm w k, toBytes_drop]
  rw [ByteOrder.store, ByteOrder.load, List.take_reverse, List.reverse_reverse,
    BigEndian.toBytes_length, hdrop, BigEndian.ofBytes_toBytes]

theorem load_take_big (w k n : Nat) :
    ByteOrder.big.load ((ByteOrder.big.store (w + k) n).take w) = n / 256^k % 256^w := by
  rw [ByteOrder.store, ByteOrder.load, toBytes_take, BigEndian.ofBytes_toBytes]

end Lib
