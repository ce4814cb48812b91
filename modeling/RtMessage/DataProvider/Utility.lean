import RtMessage.Base

/- `dmUtility`: the strings of the data model.

   An object path is a string of tokens between dots, a property's full name is an object
   path, a dot and a name, and a set query is a full name, `=` and a value. A string is its
   bytes without the terminating NUL; a null pointer is `none`. -/
namespace RtMessage.DataProvider

def dot : UInt8 := 46
def comma : UInt8 := 44
def equals : UInt8 := 61
def openBrace : UInt8 := 123
def closeBrace : UInt8 := 125

/-! Searching. -/

/-- `s.find(c)`; `npos` is `none`. -/
def find (s : Bytes) (c : UInt8) : Option Nat := s.findIdx? (· == c)

/-- `s.rfind(c)`. -/
def rfind (s : Bytes) (c : UInt8) : Option Nat :=
  (s.reverse.findIdx? (· == c)).map fun k => s.length - 1 - k

section Search
variable {a b s : Bytes} {c : UInt8}

theorem find_eq_none (h : c ∉ s) : find s c = none := by
  refine List.findIdx?_eq_none_iff.mpr fun x hx => ?_
  exact beq_eq_false_iff_ne.mpr fun heq => h (heq ▸ hx)

theorem find_append (h : c ∉ a) : find (a ++ c :: b) c = some a.length := by
  have hnone : a.findIdx? (· == c) = none := find_eq_none h
  rw [find, List.findIdx?_append, hnone, List.findIdx?_cons, if_pos (beq_self_eq_true c)]
  simp

theorem rfind_append (h : c ∉ b) : rfind (a ++ c :: b) c = some a.length := by
  have hsome : (b.reverse ++ c :: a.reverse).findIdx? (· == c) = some b.reverse.length :=
    find_append fun hmem => h (List.mem_reverse.mp hmem)
  have hreverse : (a ++ c :: b).reverse = b.reverse ++ c :: a.reverse := by simp
  rw [rfind, hreverse, hsome]
  simp

theorem drop_append_cons (a : Bytes) (c : UInt8) (b : Bytes) :
    (a ++ c :: b).drop (a.length + 1) = b := by
  rw [List.drop_append, List.drop_eq_nil_of_le (Nat.le_succ _)]
  simp

end Search

/-! `dmUtility`. -/

/-- `s[strlen(s) - 1]` of the empty string lies in front of it. -/
def isWildcard : Option Bytes → Except Fault Bool
  | none => .ok false
  | some s =>
    match s.getLast? with
    | none => .error .undefinedBehaviour
    | some c => .ok (c == dot)

def trimWildcard (s : Bytes) : Bytes := if s.getLast? = some dot then s.dropLast else s

/-- What is in front of the last dot. -/
def trimProperty (s : Bytes) : Bytes :=
  match rfind s dot with
  | some idx => s.take idx
  | none => s

/-- What is behind the last dot. -/
def trimPropertyName (s : Bytes) : Bytes :=
  match rfind s dot with
  | some idx => s.drop (idx + 1)
  | none => s

/-- A set query is trimmed to its object if the value is one in braces, else by what is behind
    its last dot. -/
def trimSetProperty (s : Bytes) : Bytes :=
  match find s equals with
  | some idx =>
    if idx + 1 < s.length ∧ s[idx + 1]? = some openBrace ∧ s.getLast? = some closeBrace
    then s.take idx else trimProperty s
  | none => trimProperty s

/-- The loop of `splitString` on what is left of the string. A turn that goes on uses up a
    delimiter, so the length bounds the turns. -/
def splitLoop (delim : UInt8) : Nat → Bytes → List Bytes
  | 0, s => [s]
  | left+1, s =>
    match find s delim with
    | none => [s]
    | some n => s.take n :: splitLoop delim left (s.drop (n + 1))

def splitString (s : Bytes) (delim : UInt8) : List Bytes := splitLoop delim s.length s

/-- The assignments of a value `{n1=v1,n2=v2}`; `none` for a value of another form. What is
    not of the form `n=v` is dropped. -/
def parseMultisetValue (s : Bytes) : Option (List (Bytes × Bytes)) :=
  if s.length < 2 ∨ s.head? ≠ some openBrace ∨ s.getLast? ≠ some closeBrace then none
  else
    let pairs := splitString s.tail.dropLast comma
    some (pairs.filterMap fun pair =>
      match splitString pair equals with
      | [name, value] => some (name, value)
      | _ => none)

example : parseMultisetValue (ascii "\x7bA=1,B=2\x7d") =
    some [(ascii "A", ascii "1"), (ascii "B", ascii "2")] := by decide

/-! What splitting gives. -/

section Split
variable {s n v : Bytes} {delim : UInt8}

theorem splitLoop_eq_splitOn (delim : UInt8) (left : Nat) {s : Bytes} (h : s.length ≤ left) :
    splitLoop delim left s = s.splitOn delim := by
  induction left generalizing s with
  | zero =>
    obtain rfl : s = [] := List.length_eq_zero_iff.mp (Nat.le_zero.mp h)
    simp only [splitLoop, List.splitOn_nil]
  | succ left ih =>
    by_cases hmem : delim ∈ s
    · obtain ⟨a, b, rfl, ha⟩ := List.eq_append_cons_of_mem hmem
      have hshort : b.length ≤ left := by
        simp only [List.length_append, List.length_cons] at h
        omega
      rw [splitLoop, find_append ha]
      dsimp only
      rw [List.take_left' rfl, drop_append_cons, ih hshort,
        List.splitOn_append_cons_self_of_not_mem ha]
    · rw [splitLoop, find_eq_none hmem, List.splitOn_eq_singleton hmem]

theorem splitString_eq_splitOn (s : Bytes) (delim : UInt8) :
    splitString s delim = s.splitOn delim :=
  splitLoop_eq_splitOn delim s.length (Nat.le_refl _)

theorem splitString_join {ps : List Bytes} (hne : ps ≠ []) (h : ∀ p ∈ ps, delim ∉ p) :
    splitString ([delim].intercalate ps) delim = ps := by
  rw [splitString_eq_splitOn, List.splitOn_intercalate delim h hne]

end Split

/-! An object path and what follows it. -/

section Trim
variable {o n s : Bytes}

theorem trimWildcard_append (o : Bytes) : trimWildcard (o ++ [dot]) = o := by
  rw [trimWildcard, List.getLast?_concat, if_pos rfl, List.dropLast_concat]

theorem isWildcard_append (o : Bytes) : isWildcard (some (o ++ [dot])) = .ok true := by
  simp only [isWildcard, List.getLast?_concat, beq_self_eq_true]

theorem isWildcard_name (hdot : dot ∉ n) (hn : n ≠ []) :
    isWildcard (some (o ++ dot :: n)) = .ok false := by
  have hlast : (o ++ dot :: n).getLast? = some (n.getLast hn) := by
    rw [List.getLast?_append, List.getLast?_cons, List.getLast?_eq_some_getLast hn]
    rfl
  simp only [isWildcard, hlast]
  have hne : n.getLast hn ≠ dot := fun heq => hdot (heq ▸ List.getLast_mem hn)
  rw [beq_eq_false_iff_ne.mpr hne]

theorem trimProperty_append (o : Bytes) (h : dot ∉ n) : trimProperty (o ++ dot :: n) = o := by
  rw [trimProperty, rfind_append h]
  exact List.take_left' rfl

theorem trimPropertyName_append (o : Bytes) (h : dot ∉ n) :
    trimPropertyName (o ++ dot :: n) = n := by
  rw [trimPropertyName, rfind_append h]
  exact drop_append_cons o dot n

theorem trimProperty_of_not_mem (h : dot ∉ s) : trimProperty s = s := by
  have hnone : rfind s dot = none := by
    have hrev : s.reverse.findIdx? (· == dot) = none :=
      find_eq_none fun hmem => h (List.mem_reverse.mp hmem)
    rw [rfind, hrev]
    rfl
  rw [trimProperty, hnone]

theorem trimProperty_of_mem (h : dot ∈ s) :
    ∃ last, dot ∉ last ∧ s = trimProperty s ++ dot :: last := by
  obtain ⟨a, b, rfl, hb⟩ := eq_append_last h
  exact ⟨b, hb, by rw [trimProperty_append a hb]⟩

theorem trimProperty_length_lt (h : dot ∈ s) : (trimProperty s).length < s.length := by
  obtain ⟨last, _, hs⟩ := trimProperty_of_mem h
  have hlen := congrArg List.length hs
  simp only [List.length_append, List.length_cons] at hlen
  omega

end Trim

end RtMessage.DataProvider
