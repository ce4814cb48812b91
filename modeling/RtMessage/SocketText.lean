import RtMessage.SocketAddress

/- `rtSocketStorage_ToString`, which makes a text of an address again.

   The host of an IPv4 address and its port are written apart; put together they are parsed as the
   same address. The text of a path is what it was parsed from, but the buffer has to have room for
   a byte more than the call is told of: a path of just 57 bytes, which is parsed without
   complaint, is written past the end of the 64 bytes that every caller has
   (`address_text_round_trip`). Nothing is written for IPv6. -/
namespace RtMessage
open Lib

/-! The C library. -/

/-- `strncat(a, s, k)`. -/
def CArray.strncat {n : Nat} (a : CArray n) (s : Bytes) (k : Nat) : Except Fault (CArray n) := do
  let front ← a.cString
  a.write front.length (s.take k ++ [0])

/-- The dotted text of an IPv4 address. -/
def dottedText (a : CArray 4) : Bytes := List.intercalate [46] (a.data.map fun b => digits b.toNat)

/-- `inet_ntop(AF_INET, addr, buff, n)`. A text that does not fit is not written. -/
def inetNtop4 {n : Nat} (addr : CArray 4) (buff : CArray n) : Except Fault (CArray n) :=
  if (dottedText addr).length < n then buff.strcpy (dottedText addr) else .ok buff

/-! The code. -/

/-- The path as `strncat` reads it, no more of it than it may write. -/
def SockaddrStorage.path (ss : SockaddrStorage) (room : Nat) : Except Fault Bytes :=
  if room ≤ 108 then .ok ss.sunPath.str else ss.sunPath.cString

def rtSocketStorageToString {n : Nat} (ss : SockaddrStorage) (buff : CArray n) (port : UInt16) :
    Except Fault (CArray n × UInt16) :=
  match ss.family with
  | .inet => do
    let buff ← inetNtop4 ss.sinAddr buff
    return (buff, ss.port)
  | .unix => do
    let buff ← buff.strcpy unixPrefix
    let buff ← buff.strncat (← ss.path (n - 7)) (n - 7)
    return (buff, 0)
  | _ => .ok (buff, port)

/-! Arrays. -/

section Arrays
variable {n : Nat} {a b : CArray n} {s : Bytes}

theorem CArray.take_str (a : CArray n) : a.data.take a.str.length = a.str :=
  List.prefix_iff_eq_take.mp (List.takeWhile_prefix _) |>.symm

theorem CArray.cString_ok (h : 0 ∈ a.data) : a.cString = .ok a.str := by
  rw [cString, if_pos h]

theorem CArray.strcpy_ok (a : CArray n) (h : s.length < n) (h0 : 0 ∉ s) :
    ∃ b, a.strcpy s = .ok b ∧ b.str = s ∧ 0 ∈ b.data := by
  obtain ⟨b, hb, hdata⟩ := a.write_ok 0 (s ++ [0]) (by simp; omega)
  refine ⟨b, hb, ?_, ?_⟩
  · have hfront : b.data = s ++ 0 :: a.data.drop (s.length + 1) := by simp [hdata]
    rw [str, hfront]
    exact (cstr_append h0 _).trans (List.append_nil s)
  · rw [hdata]
    simp

theorem CArray.strcpy_overflows (a : CArray n) (h : n ≤ s.length) :
    a.strcpy s = .error .undefinedBehaviour := by
  rw [strcpy, memcpy, write, dif_neg]
  simp
  omega

/-- `strncat` is within the array exactly if what it copies, and a NUL, are. -/
theorem CArray.strncat_ok (a : CArray n) (hnul : 0 ∈ a.data) (h0 : 0 ∉ s) (k : Nat)
    (h : a.str.length + (s.take k).length < n) :
    ∃ b, a.strncat s k = .ok b ∧ b.str = a.str ++ s.take k := by
  obtain ⟨b, hb, hdata⟩ := a.write_ok a.str.length (s.take k ++ [0]) (by simp at h ⊢; omega)
  refine ⟨b, by rw [strncat, cString_ok hnul]; exact hb, ?_⟩
  have hfront : 0 ∉ a.str ++ s.take k := by
    intro hmem
    rcases List.mem_append.mp hmem with hmem | hmem
    · exact zero_not_mem_cstr _ hmem
    · exact h0 (List.mem_of_mem_take hmem)
  calc b.str
      = cstr (a.str ++ s.take k ++ 0 :: a.data.drop (a.str.length + (s.take k ++ [0]).length)) := by
        rw [str, hdata, take_str]
        simp
    _ = a.str ++ s.take k := (cstr_append hfront _).trans (List.append_nil _)

theorem CArray.strncat_overflows (a : CArray n) (hnul : 0 ∈ a.data) (k : Nat)
    (h : n ≤ a.str.length + (s.take k).length) :
    a.strncat s k = .error .undefinedBehaviour := by
  rw [strncat, cString_ok hnul, ok_bind, write, dif_neg]
  simp at h ⊢
  omega

end Arrays

/-! The text of an IPv4 address. -/

theorem digits_byte : ∀ k < 256, (digits k).length ≤ 3 := by decide +kernel

/-- Digits and dots. -/
def IsDotted (s : Bytes) : Prop := ∀ b ∈ s, isDigit b = true ∨ b = 46

theorem isDotted_digits (k : Nat) : IsDotted (digits k) :=
  fun b hb => .inl ((numeral_digits k).2 b hb)

theorem dottedText_eq (a : CArray 4) : ∃ w x y z : UInt8, dottedText a =
    digits w.toNat ++ 46 :: (digits x.toNat ++ 46 :: (digits y.toNat ++ 46 :: digits z.toNat)) := by
  obtain ⟨data, hsize⟩ := a
  match data, hsize with
  | [w, x, y, z], _ => exact ⟨w, x, y, z, by simp [dottedText, List.intercalate]⟩

theorem dottedText_length (a : CArray 4) : (dottedText a).length ≤ 15 := by
  obtain ⟨w, x, y, z, h⟩ := dottedText_eq a
  have hbyte := fun b : UInt8 => digits_byte b.toNat b.toNat_lt
  have hw := hbyte w
  have hx := hbyte x
  have hy := hbyte y
  have hz := hbyte z
  simp only [h, List.length_append, List.length_cons]
  omega

theorem dottedText_dotted (a : CArray 4) : IsDotted (dottedText a) := by
  obtain ⟨w, x, y, z, h⟩ := dottedText_eq a
  rw [h]
  intro b hb
  simp only [List.mem_append, List.mem_cons] at hb
  rcases hb with hb | rfl | hb | rfl | hb | rfl | hb
  · exact isDotted_digits _ b hb
  · exact .inr rfl
  · exact isDotted_digits _ b hb
  · exact .inr rfl
  · exact isDotted_digits _ b hb
  · exact .inr rfl
  · exact isDotted_digits _ b hb

theorem IsDotted.not_mem {s : Bytes} (h : IsDotted s) {c : UInt8} (hdigit : isDigit c = false)
    (hdot : c ≠ 46) : c ∉ s := by
  intro hmem
  rcases h c hmem with hc | hc
  · rw [hc] at hdigit
    cases hdigit
  · exact hdot hc

/-- The text is taken as it is, and not for the name of an interface. -/
theorem dottedText_numeric (a : CArray 4) : rtSocketIsNumeric (dottedText a) = true := by
  obtain ⟨w, x, y, z, h⟩ := dottedText_eq a
  obtain ⟨d, ds, hd, -⟩ := (numeral_digits w.toNat).exists_cons
  have hfirst : isDigit d = true := (numeral_digits w.toNat).2 d (by rw [hd]; simp)
  rw [h, hd, List.cons_append, rtSocketIsNumeric]
  simp [hfirst]

/-! What is printed. -/

section Printed
variable {L : AddressLib} {n : Nat} {ss : SockaddrStorage} {addr path : Bytes}

theorem toString_inet (ss : SockaddrStorage) (h : ss.family = .inet) (hn : 16 ≤ n)
    (buff : CArray n) (port : UInt16) :
    ∃ out, rtSocketStorageToString ss buff port = .ok (out, ss.port) ∧
      out.str = dottedText ss.sinAddr := by
  have hlength := dottedText_length ss.sinAddr
  have hnul : 0 ∉ dottedText ss.sinAddr :=
    (dottedText_dotted ss.sinAddr).not_mem (by decide) (by decide)
  obtain ⟨out, hcopy, hstr, -⟩ := buff.strcpy_ok (show _ < n by omega) hnul
  refine ⟨out, ?_, hstr⟩
  rw [rtSocketStorageToString, h]
  simp only [inetNtop4, if_pos (show (dottedText ss.sinAddr).length < n by omega), hcopy, ok_bind,
    pure_eq_ok]

theorem toString_unix (ss : SockaddrStorage) (h : ss.family = .unix)
    (hterminated : 0 ∈ ss.sunPath.data) (buff : CArray n) (port : UInt16) :
    if ss.sunPath.str.length + 7 < n then
      ∃ out, rtSocketStorageToString ss buff port = .ok (out, 0) ∧
        out.str = unixPrefix ++ ss.sunPath.str
    else rtSocketStorageToString ss buff port = .error .undefinedBehaviour := by
  have hpath : ss.path (n - 7) = .ok ss.sunPath.str := by
    unfold SockaddrStorage.path
    split
    · rfl
    · exact ss.sunPath.cString_ok hterminated
  rw [rtSocketStorageToString, h]
  dsimp only
  by_cases hseven : 7 < n
  · obtain ⟨front, hcopy, hfront, hnul⟩ := buff.strcpy_ok (s := unixPrefix) hseven (by decide)
    have hlength : front.str.length = 7 := by rw [hfront]; rfl
    rw [hcopy, ok_bind, hpath, ok_bind]
    split
    · next hroom =>
      obtain ⟨out, hcat, hout⟩ := front.strncat_ok (s := ss.sunPath.str) hnul
        (zero_not_mem_cstr _) (n - 7) (by rw [hlength, List.length_take]; omega)
      refine ⟨out, by rw [hcat]; rfl, ?_⟩
      rw [hout, hfront, List.take_of_length_le (by omega)]
    · next hfull =>
      rw [front.strncat_overflows hnul (n - 7) (by rw [hlength, List.length_take]; omega)]
      rfl
  · rw [buff.strcpy_overflows (show n ≤ unixPrefix.length from Nat.le_of_not_lt hseven),
      if_neg (by omega)]
    rfl

theorem stored_cases (h : rtSocketStorageFromString L .zero addr = .ok (.ok, ss)) :
    (∃ path, cstr addr = unixPrefix ++ path ∧ path.length < 108 ∧
      ss = { SockaddrStorage.zero with family := .unix, sunPath := .pad 108 path }) ∨
    ¬ unixPrefix <+: cstr addr ∧
      ((∃ port sinAddr, ss = { SockaddrStorage.zero with family := .inet, port, sinAddr }) ∨
        ss.family = .inet6 ∨ ss.family = .unspec) := by
  by_cases hunix : unixPrefix <+: cstr addr
  · obtain ⟨path, hpath⟩ := hunix
    rw [run_unix hpath.symm] at h
    obtain ⟨sunPath, hcopy, hstored⟩ := bind_eq_ok.mp h
    have hle := (CArray.write_eq_ok hcopy).1
    rw [List.length_append, List.length_singleton] at hle
    have hlength : path.length < 108 := by omega
    cases hcopy.symm.trans (CArray.strcpy_zero hlength)
    cases hstored
    exact .inl ⟨path, hpath.symm, hlength, rfl⟩
  · refine .inr ⟨hunix, ?_⟩
    by_cases htcp : tcpPrefix <+: cstr addr
    · obtain ⟨rest, hrest⟩ := htcp
      by_cases hcolon : colon ∈ rest
      · obtain ⟨host, port, rfl, hnot⟩ := eq_append_last hcolon
        have hsplit : TcpAddress (cstr addr) host port := ⟨hrest.symm, hnot⟩
        by_cases hlen : host.length < 128
        · rw [run_tcp_short hsplit hlen] at h
          cases hresolved : resolvedAddress L host with
          | error e =>
            rw [hresolved] at h
            cases h
            exact absurd rfl (resolvedAddress_ne_ok hresolved)
          | ok ip =>
            rw [hresolved] at h
            simp only [Except.ok.injEq, convertAddress] at h
            split at h
            · cases h
              exact .inl ⟨_, _, rfl⟩
            · split at h
              · cases h
                exact .inr (.inl rfl)
              · cases h
                exact .inr (.inr rfl)
            · cases h
        · rw [run_tcp_long hsplit (by omega)] at h
          cases h
      · rw [run_without_port hrest.symm hcolon] at h
        cases h
    · rw [run_other hunix htcp] at h
      cases h

theorem dotted_parsed {sinAddr : CArray 4}
    (hinverse : L.inetPton4 (dottedText sinAddr) = .converted sinAddr) (port : UInt16) :
    rtSocketStorageFromString L .zero
        (tcpPrefix ++ (dottedText sinAddr ++ colon :: digits port.toNat)) =
      .ok (.ok, { SockaddrStorage.zero with family := .inet, port, sinAddr }) := by
  have hdotted := dottedText_dotted sinAddr
  have hport : IsDotted (digits port.toNat) := isDotted_digits _
  have hnul : 0 ∉ tcpPrefix ++ (dottedText sinAddr ++ colon :: digits port.toNat) := by
    simp only [List.mem_append, List.mem_cons, not_or]
    exact ⟨by decide, hdotted.not_mem (by decide) (by decide), by decide,
      hport.not_mem (by decide) (by decide)⟩
  have hsplit : TcpAddress (cstr (tcpPrefix ++ (dottedText sinAddr ++ colon :: digits port.toNat)))
      (dottedText sinAddr) (digits port.toNat) :=
    ⟨cstr_of_not_mem hnul, hport.not_mem (by decide) (by decide)⟩
  have hlength := dottedText_length sinAddr
  have hresolved : resolvedAddress L (dottedText sinAddr) = .ok (dottedText sinAddr) := by
    rw [resolvedAddress, if_pos (dottedText_numeric sinAddr)]
  have hread : toUInt16 (strtol (digits port.toNat)) = port := by
    have hvalue := port_numeral (numeral_digits port.toNat)
      (by rw [digitsValue_digits]; have := port.toNat_lt; omega)
    rw [digitsValue_digits] at hvalue
    exact UInt16.toNat_inj.mp hvalue
  rw [run_tcp_short hsplit (by omega), hresolved]
  simp only [convertAddress, hinverse, hread]

end Printed

/-- **Round trip of an address**: whatever text the address was parsed from, it is printed within
    the buffer exactly if its path, if it has one, and `unix://` leave a byte for the NUL; then the
    text of a path is what was parsed, and an IPv4 address and its port are parsed as the same
    address again. For IPv6, and if no address was stored, nothing is written. -/
theorem address_text_round_trip {L : AddressLib} {addr : Bytes} {ss : SockaddrStorage} {n : Nat}
    (hparse : rtSocketStorageFromString L .zero addr = .ok (.ok, ss))
    (hinverse : ss.family = .inet →
      L.inetPton4 (dottedText ss.sinAddr) = .converted ss.sinAddr) (hn : 16 ≤ n)
    (buff : CArray n) (port : UInt16) :
    ((∃ r, rtSocketStorageToString ss buff port = .ok r) ↔
      ∀ path, cstr addr = unixPrefix ++ path → path.length + 7 < n) ∧
    ∀ out p, rtSocketStorageToString ss buff port = .ok (out, p) →
      (ss.family = .unix → out.str = cstr addr ∧ p = 0) ∧
      (ss.family = .inet → rtSocketStorageFromString L .zero
        (tcpPrefix ++ (out.str ++ colon :: digits p.toNat)) = .ok (.ok, ss)) ∧
      (ss.family = .inet6 ∨ ss.family = .unspec → out = buff ∧ p = port) := by
  obtain ⟨path, haddr, hlength, rfl⟩ | ⟨hunix, hstored⟩ := stored_cases hparse
  · have h0 : 0 ∉ path := fun hmem =>
      zero_not_mem_cstr addr (haddr ▸ List.mem_append_right unixPrefix hmem)
    have hpath : (CArray.pad 108 path).str = path := CArray.pad_str (by omega) h0
    have hprinted := toString_unix { SockaddrStorage.zero with
      family := .unix, sunPath := .pad 108 path } rfl
      ((CArray.terminated_iff _).mpr (by rw [hpath]; exact hlength)) buff port
    dsimp only at hprinted
    rw [hpath, ← haddr] at hprinted
    -- the seven bytes of `unix://`, the path and a NUL
    by_cases hroom : path.length + 7 < n
    · rw [if_pos hroom] at hprinted
      obtain ⟨out, hout, hstr⟩ := hprinted
      refine ⟨⟨fun _ path' hpath' => ?_, fun _ => ⟨_, hout⟩⟩, fun out' p' hout' => ?_⟩
      · rw [List.append_cancel_left (hpath'.symm.trans haddr)]
        exact hroom
      · cases hout.symm.trans hout'
        exact ⟨fun _ => ⟨hstr, rfl⟩, fun h => (by cases h),
          fun h => by rcases h with h | h <;> cases h⟩
    · rw [if_neg hroom] at hprinted
      rw [hprinted]
      refine ⟨⟨?_, fun hall => absurd (hall path haddr) hroom⟩, fun out p h => by cases h⟩
      rintro ⟨r, hr⟩
      cases hr
  · have hnone : ∀ path, cstr addr = unixPrefix ++ path → path.length + 7 < n :=
      fun path hpath => absurd ⟨path, hpath.symm⟩ hunix
    obtain ⟨stored, sinAddr, rfl⟩ | hother := hstored
    · obtain ⟨out, hout, hstr⟩ := toString_inet { SockaddrStorage.zero with
        family := .inet, port := stored, sinAddr } rfl hn buff port
      refine ⟨⟨fun _ => hnone, fun _ => ⟨_, hout⟩⟩, fun out' p' hout' => ?_⟩
      cases hout.symm.trans hout'
      refine ⟨fun h => (by cases h), fun _ => ?_, fun h => by rcases h with h | h <;> cases h⟩
      rw [hstr]
      exact dotted_parsed (hinverse rfl) stored
    · -- for the other families the function does nothing
      have hout : rtSocketStorageToString ss buff port = .ok (buff, port) := by
        rw [rtSocketStorageToString]
        rcases hother with h | h <;> rw [h]
      refine ⟨⟨fun _ => hnone, fun _ => ⟨_, hout⟩⟩, fun out' p' hout' => ?_⟩
      cases hout.symm.trans hout'
      rcases hother with h | h <;> rw [h]
      · exact ⟨fun h => (by cases h), fun h => (by cases h), fun _ => ⟨rfl, rfl⟩⟩
      · exact ⟨fun h => (by cases h), fun h => (by cases h), fun _ => ⟨rfl, rfl⟩⟩

theorem loopback_inverse (h : ([127, 0, 0, 1] : Bytes).length = 4) :
    loopbackLib.inetPton4 (dottedText ⟨[127, 0, 0, 1], h⟩) = .converted ⟨[127, 0, 0, 1], h⟩ := by
  have htext : dottedText ⟨[127, 0, 0, 1], h⟩ = ascii "127.0.0.1" := rfl
  rw [htext]
  rfl

/-- A path of 57 bytes does not fit the 64 bytes. -/
theorem address_text_round_trip_example :
    (∃ ss out, rtSocketStorageFromString loopbackLib .zero (ascii "tcp://127.0.0.1:10001") =
        .ok (.ok, ss) ∧
      rtSocketStorageToString ss (.zero 64) 0 = .ok (out, 10001) ∧
      rtSocketStorageFromString loopbackLib .zero
        (tcpPrefix ++ (out.str ++ colon :: digits 10001)) = .ok (.ok, ss)) ∧
    ∃ ss, rtSocketStorageFromString loopbackLib .zero (unixPrefix ++ List.replicate 57 97) =
        .ok (.ok, ss) ∧
      ¬∃ r, rtSocketStorageToString ss (.zero 64) 0 = .ok r := by
  constructor
  · have hsplit : TcpAddress (cstr (ascii "tcp://127.0.0.1:10001")) (ascii "127.0.0.1")
        (ascii "10001") := ⟨by decide, by decide⟩
    have hparse : rtSocketStorageFromString loopbackLib .zero (ascii "tcp://127.0.0.1:10001") =
        .ok (.ok, (convertAddress loopbackLib (ascii "127.0.0.1")
          (toUInt16 (strtol (ascii "10001"))) .zero).2) :=
      run_tcp_short hsplit (by decide)
    obtain ⟨⟨-, hprints⟩, hback⟩ := address_text_round_trip hparse
      (fun _ => loopback_inverse rfl) (by decide) (.zero 64) 0
    obtain ⟨⟨out, p⟩, hout⟩ := hprints fun path hpath => by
      have hfirst := congrArg List.head? hpath
      exact absurd hfirst (by simp [unixPrefix, ascii, cstr])
    obtain ⟨-, hagain, -⟩ := hback out p hout
    have hp : p = 10001 := by
      obtain ⟨out', hout', -⟩ := toString_inet (convertAddress loopbackLib
        (ascii "127.0.0.1") (toUInt16 (strtol (ascii "10001"))) .zero).2 rfl (by decide)
        (.zero 64) 0
      cases hout'.symm.trans hout
      decide
    subst hp
    exact ⟨_, out, hparse, hout, hagain rfl⟩
  · have hnul : 0 ∉ unixPrefix ++ List.replicate 57 97 := by decide
    have hcopy : SockaddrStorage.zero.sunPath.strcpy (List.replicate 57 97) =
        .ok (.pad 108 (List.replicate 57 97)) := CArray.strcpy_zero (by decide)
    have hparse : rtSocketStorageFromString loopbackLib .zero
        (unixPrefix ++ List.replicate 57 97) = .ok (.ok, { SockaddrStorage.zero with
          family := .unix, sunPath := .pad 108 (List.replicate 57 97) }) := by
      rw [run_unix (cstr_of_not_mem hnul), hcopy]
      rfl
    refine ⟨_, hparse, fun hprinted => ?_⟩
    obtain ⟨⟨hfits, -⟩, -⟩ := address_text_round_trip hparse
      (fun h => by cases h) (by decide) (.zero 64) 0
    exact absurd (hfits hprinted _ (cstr_of_not_mem hnul)) (by decide)

end RtMessage
