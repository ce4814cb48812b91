import RtMessage.Connection
import RtMessage.Lib.Decimal

/- `rtSocketStorage_FromString`, which makes an address of its text.

   `inet_pton` and the lookup of an interface's address are functions of an `AddressLib`. The
   text is not looked at as a whole: `strtol` reads what it can of a port, a path and a host
   are copied whatever their lengths, and a host that is neither an IPv4 nor an IPv6 address
   leaves the family as it was, with `RT_OK`. `address_sound_iff` says which texts are parsed
   soundly all the same. -/
namespace RtMessage
open Lib

def colon : UInt8 := 58

/-! The C library. -/

/-- `strrchr(s, c)`: the string from the last `c` on. -/
def strrchr (s : Bytes) (c : UInt8) : Option Bytes :=
  match s with
  | [] => none
  | b :: rest => (strrchr rest c).or (if b = c then some (b :: rest) else none)

/-- `strtol(s, NULL, 10)`, with a `long` of 64 bits. -/
def strtol (s : Bytes) : Int :=
  let s := s.dropWhile isSpace
  let (negative, s) :=
    if s.head? = some 45 then (true, s.tail)
    else if s.head? = some 43 then (false, s.tail)
    else (false, s)
  let n := digitsValue (s.takeWhile isDigit)
  if negative then max (-(n : Int)) (-2^63) else min n (2^63 - 1)

/-- A `long` converted to `uint16_t`. -/
def toUInt16 (v : Int) : UInt16 := UInt16.ofNat (v % 2^16).toNat

/-- The array read as a string. -/
def CArray.cString {n : Nat} (a : CArray n) : Except Fault Bytes :=
  if 0 ∈ a.data then .ok a.str else .error .undefinedBehaviour

/-- What `inet_pton` returns: 1 and the address, 0, or -1. -/
inductive InetPton (n : Nat) where
  | converted (addr : CArray n)
  | notAnAddress
  | error (e : Errno)

/-- What `inet_ntoa` writes: three dots and four numbers of at most three digits. -/
abbrev DottedText := {s : Bytes // s.length ≤ 15 ∧ 0 ∉ s}

structure AddressLib where
  inetPton4 : Bytes → InetPton 4
  inetPton6 : Bytes → InetPton 16
  /-- the address that `rtSocket_InterfaceNameToAddress` finds -/
  interfaceAddress : Bytes → Except Errno DottedText

/-! The code. -/

/-- `struct sockaddr_storage`, with the members that the families use. -/
structure SockaddrStorage where
  family : AddressFamily
  /-- `sin_port` or `sin6_port`, in the order of the host -/
  port : UInt16
  sinAddr : CArray 4
  sin6Addr : CArray 16
  sunPath : CArray 108

def SockaddrStorage.zero : SockaddrStorage := ⟨.unspec, 0, .zero 4, .zero 16, .zero 108⟩

/-- The test looks at the first character again and again. -/
def rtSocketIsNumeric (s : Bytes) : Bool :=
  match s with
  | [] => true
  | first :: _ => s.all fun b => isDigit first || b == 46

def rtSocketInterfaceNameToAddress (L : AddressLib) (s : Bytes) (t : CArray 64) :
    Except Errno (CArray 64) :=
  match L.interfaceAddress s with
  | .error e => .error e
  | .ok text => .ok (t.strncpy text.1 64 (Nat.le_refl 64))

/-- `RT_ERROR_INVALID_ARG` is `none`. -/
def rtSocketStorageParsePort (s : Bytes) : Option UInt16 :=
  (strrchr s colon).map fun p => toUInt16 (strtol p.tail)

/-- The numeric address of a host: its own text, or what is found for the interface. -/
def numericAddress (L : AddressLib) (ip : CArray 128) : Except Fault (Except RtError Bytes) := do
  let host ← ip.cString
  if rtSocketIsNumeric host then return .ok host
  else
    match rtSocketInterfaceNameToAddress L host (.zero 64) with
    | .error e => return .error (rtErrorFromErrno e)
    | .ok temp =>
      let ip ← (CArray.zero 128).strcpy (← temp.cString)
      return .ok (← ip.cString)

/-- The conversions; the second one that fails is not reported. -/
def convertAddress (L : AddressLib) (ip : Bytes) (port : UInt16) (ss : SockaddrStorage) :
    RtError × SockaddrStorage :=
  match L.inetPton4 ip with
  | .converted sinAddr => (.ok, { ss with family := .inet, port, sinAddr })
  | .notAnAddress =>
    match L.inetPton6 ip with
    | .converted sin6Addr => (.ok, { ss with family := .inet6, port, sin6Addr })
    | _ => (.ok, ss)
  | .error e => (rtErrorFromErrno e, ss)

def unixPrefix : Bytes := ascii "unix://"
def tcpPrefix : Bytes := ascii "tcp://"

def rtSocketStorageFromString (L : AddressLib) (ss : SockaddrStorage) (addr : Bytes) :
    Except Fault (RtError × SockaddrStorage) :=
  let addr := cstr addr
  if unixPrefix.isPrefixOf addr then do
    let sunPath ← ss.sunPath.strcpy (addr.drop 7)
    return (.ok, { ss with family := .unix, sunPath })
  else if ¬ tcpPrefix.isPrefixOf addr then .ok (.invalidArg, ss)
  else
    match rtSocketStorageParsePort addr, strrchr (addr.drop 6) colon with
    | none, _ => .ok (.invalidArg, ss)
    | some _, none => .ok (.invalidArg, ss)
    | some port, some p => do
      let host := (addr.drop 6).take ((addr.drop 6).length - p.length)
      -- `strncpy` of as many bytes as the host has stores no NUL
      let ip ← (CArray.zero 128).write 0 host
      match ← numericAddress L ip with
      | .error e => return (e, ss)
      | .ok ip => return convertAddress L ip port ss

/-! What is asked of a parsed address. -/

/-- The text is a tcp address with this host and, behind the last colon, this port. -/
def TcpAddress (addr host port : Bytes) : Prop :=
  addr = tcpPrefix ++ (host ++ colon :: port) ∧ colon ∉ port

/-- The family is one that `rtSocketStorage_GetLength` knows, and the port of a tcp address is
    the number in its text. -/
structure SoundAddress (addr : Bytes) (ss : SockaddrStorage) : Prop where
  family : ss.family = .unix ∨ ss.family = .inet ∨ ss.family = .inet6
  length : rtSocketStorageGetLength ss.family = .ok ()
  port : ∀ host port, TcpAddress (cstr addr) host port →
    Numeral port ∧ digitsValue port ≤ 65535 ∧ ss.port.toNat = digitsValue port

/-- The call returns, and what it stores is sound if it returns `RT_OK`. -/
def ParsesSoundly (L : AddressLib) (addr : Bytes) : Prop :=
  ∃ e ss, rtSocketStorageFromString L .zero addr = .ok (e, ss) ∧ (e = .ok → SoundAddress addr ss)

/-! When it holds. -/

/-- The text that is converted for a host. -/
def resolvedAddress (L : AddressLib) (host : Bytes) : Except RtError Bytes :=
  if rtSocketIsNumeric host then .ok host
  else
    match L.interfaceAddress host with
    | .error e => .error (rtErrorFromErrno e)
    | .ok text => .ok text.1

/-- One of the conversions succeeds. -/
def Converts (L : AddressLib) (ip : Bytes) : Prop :=
  (∃ a, L.inetPton4 ip = .converted a) ∨
    L.inetPton4 ip = .notAnAddress ∧ ∃ a, L.inetPton6 ip = .converted a

/-- A path fits. A host fits, and if its address is found and the first conversion does not fail
    with an error, one of the conversions succeeds and the port is a number of 16 bits. -/
structure WellFormedAddress (L : AddressLib) (addr : Bytes) : Prop where
  path : ∀ path, cstr addr = unixPrefix ++ path → path.length < 108
  host : ∀ host port, TcpAddress (cstr addr) host port → host.length < 128
  converts : ∀ host port ip, TcpAddress (cstr addr) host port → resolvedAddress L host = .ok ip →
    (∀ e, L.inetPton4 ip ≠ .error e) →
      Converts L ip ∧ Numeral port ∧ digitsValue port ≤ 65535

/-! The last colon. -/

section Strrchr
variable {s a b : Bytes} {c : UInt8}

theorem strrchr_eq_none (h : c ∉ s) : strrchr s c = none := by
  induction s with
  | nil => rfl
  | cons x s ih =>
    rw [List.mem_cons, not_or] at h
    rw [strrchr, ih h.2, Option.none_or, if_neg fun hx => h.1 hx.symm]

theorem strrchr_append (a : Bytes) (h : c ∉ b) : strrchr (a ++ c :: b) c = some (c :: b) := by
  induction a with
  | nil => rw [List.nil_append, strrchr, strrchr_eq_none h, Option.none_or, if_pos rfl]
  | cons x a ih => rw [List.cons_append, strrchr, ih, Option.some_or]

end Strrchr

/-! Ports. -/

theorem strtol_numeral {s : Bytes} (h : Numeral s) (hle : digitsValue s ≤ 65535) :
    strtol s = digitsValue s := by
  obtain ⟨first, rest, rfl, hspace, hminus, hplus⟩ := h.exists_cons
  have hdrop : (first :: rest).dropWhile isSpace = first :: rest :=
    List.dropWhile_cons_of_neg (by rw [hspace]; decide)
  have hall : (first :: rest).takeWhile isDigit = first :: rest :=
    List.takeWhile_eq_self_iff.mpr h.2
  simp only [strtol, hdrop, List.head?_cons, Option.some.injEq, if_neg hminus, if_neg hplus, hall]
  rw [if_neg (by decide)]
  omega

theorem port_numeral {s : Bytes} (h : Numeral s) (hle : digitsValue s ≤ 65535) :
    (toUInt16 (strtol s)).toNat = digitsValue s := by
  rw [strtol_numeral h hle, toUInt16, UInt16.toNat_ofNat']
  omega

theorem cString_pad {n : Nat} {s : Bytes} (h : s.length < n) (h0 : 0 ∉ s) :
    (CArray.pad n s).cString = .ok s := by
  have hstr : (CArray.pad n s).str = s := CArray.pad_str (by omega) h0
  have hnul : 0 ∈ (CArray.pad n s).data := (CArray.terminated_iff _).mpr (by rwa [hstr])
  rw [CArray.cString, if_pos hnul, hstr]

theorem isPrefixOf_append (front s : Bytes) : front.isPrefixOf (front ++ s) = true :=
  List.isPrefixOf_iff_prefix.mpr (List.prefix_append ..)

/-! What a call does with each kind of text. -/

section Calls
variable {L : AddressLib} {ss : SockaddrStorage} {addr host port : Bytes}

theorem TcpAddress.unique {host' port' : Bytes} (h : TcpAddress addr host port)
    (h' : TcpAddress addr host' port') : host' = host ∧ port' = port := by
  have heq : host ++ colon :: port = host' ++ colon :: port' :=
    List.append_cancel_left (h.1.symm.trans h'.1)
  have hlast := strrchr_append host h.2
  rw [heq, strrchr_append host' h'.2, Option.some.injEq, List.cons.injEq] at hlast
  refine ⟨?_, hlast.2⟩
  rw [hlast.2] at heq
  exact (List.append_cancel_right heq).symm

theorem run_unix {path : Bytes} (h : cstr addr = unixPrefix ++ path) :
    rtSocketStorageFromString L ss addr =
      (do return (.ok, { ss with family := .unix, sunPath := ← ss.sunPath.strcpy path })) := by
  simp only [rtSocketStorageFromString, h, isPrefixOf_append, if_true]
  rfl

theorem tcp_not_unix (rest : Bytes) : unixPrefix.isPrefixOf (tcpPrefix ++ rest) = false := rfl

theorem run_tcp (h : TcpAddress (cstr addr) host port) :
    rtSocketStorageFromString L ss addr = (do
      let ip ← (CArray.zero 128).write 0 host
      match ← numericAddress L ip with
      | .error e => return (e, ss)
      | .ok ip => return convertAddress L ip (toUInt16 (strtol port)) ss) := by
  have hdrop : (tcpPrefix ++ (host ++ colon :: port)).drop 6 = host ++ colon :: port :=
    List.drop_left' rfl
  -- the last colon of the text is the last one behind the scheme
  have hport : rtSocketStorageParsePort (tcpPrefix ++ (host ++ colon :: port)) =
      some (toUInt16 (strtol port)) := by
    rw [rtSocketStorageParsePort, ← List.append_assoc, strrchr_append _ h.2]
    rfl
  have hhost : (host ++ colon :: port).take
      ((host ++ colon :: port).length - (colon :: port).length) = host := by
    rw [List.length_append, Nat.add_sub_cancel, List.take_left]
  simp only [rtSocketStorageFromString, h.1, tcp_not_unix, isPrefixOf_append, hdrop, hport,
    strrchr_append host h.2, hhost]
  rfl

theorem run_without_port {rest : Bytes} (h : cstr addr = tcpPrefix ++ rest) (hno : colon ∉ rest) :
    rtSocketStorageFromString L ss addr = .ok (.invalidArg, ss) := by
  have hdrop : (tcpPrefix ++ rest).drop 6 = rest := List.drop_left' rfl
  simp only [rtSocketStorageFromString, h, tcp_not_unix, isPrefixOf_append, hdrop,
    strrchr_eq_none hno]
  -- the port is read behind the colon of the scheme
  cases rtSocketStorageParsePort (tcpPrefix ++ rest) <;> rfl

theorem run_other (hunix : ¬ unixPrefix <+: cstr addr) (htcp : ¬ tcpPrefix <+: cstr addr) :
    rtSocketStorageFromString L ss addr = .ok (.invalidArg, ss) := by
  rw [← List.isPrefixOf_iff_prefix] at hunix htcp
  simp only [rtSocketStorageFromString, if_neg hunix, if_pos htcp]

theorem TcpAddress.zero_not_mem (h : TcpAddress (cstr addr) host port) : 0 ∉ host := by
  intro hmem
  refine zero_not_mem_cstr addr ?_
  rw [h.1]
  exact List.mem_append_right _ (List.mem_append_left _ hmem)

theorem numericAddress_pad (hlen : host.length < 128) (h0 : 0 ∉ host) :
    numericAddress L (.pad 128 host) = .ok (resolvedAddress L host) := by
  rw [numericAddress, cString_pad hlen h0, ok_bind, resolvedAddress]
  by_cases hnum : rtSocketIsNumeric host = true
  · rw [if_pos hnum, if_pos hnum, pure_eq_ok]
  · rw [if_neg hnum, if_neg hnum, rtSocketInterfaceNameToAddress]
    cases L.interfaceAddress host with
    | error e => rfl
    | ok text =>
      obtain ⟨text, hle, htext⟩ := text
      have hpad : (CArray.zero 64).strncpy text 64 (Nat.le_refl 64) = .pad 64 text := rfl
      simp only [hpad, cString_pad (show text.length < 64 by omega) htext, ok_bind,
        CArray.strcpy_zero (show text.length < 128 by omega),
        cString_pad (show text.length < 128 by omega) htext, pure_eq_ok]

theorem run_tcp_short (h : TcpAddress (cstr addr) host port) (hlen : host.length < 128) :
    rtSocketStorageFromString L ss addr = .ok (match resolvedAddress L host with
      | .error e => (e, ss)
      | .ok ip => convertAddress L ip (toUInt16 (strtol port)) ss) := by
  have hwrite : (CArray.zero 128).write 0 host = .ok (.pad 128 host) :=
    CArray.memcpy_zero (by omega)
  rw [run_tcp h, hwrite, ok_bind, numericAddress_pad hlen h.zero_not_mem, ok_bind]
  cases resolvedAddress L host <;> rfl

/-- A longer host leaves no NUL in the array, or does not even fit in it. -/
theorem run_tcp_long (h : TcpAddress (cstr addr) host port) (hlen : 128 ≤ host.length) :
    rtSocketStorageFromString L ss addr = .error .undefinedBehaviour := by
  rw [run_tcp h]
  by_cases hfull : host.length = 128
  · obtain ⟨ip, hip, hdata⟩ := CArray.write_ok (CArray.zero 128) 0 host (by omega)
    have hnul : 0 ∉ ip.data := by
      rw [hdata, List.take_zero, List.nil_append, List.drop_of_length_le, List.append_nil]
      · exact h.zero_not_mem
      · rw [(CArray.zero 128).size_eq]
        omega
    rw [hip, ok_bind, numericAddress, CArray.cString, if_neg hnul]
    rfl
  · rw [CArray.write, dif_neg (by omega)]
    rfl

/-- One conversion succeeds and the address is stored, or the first one fails with an error, or
    nothing is stored and the call succeeds. -/
theorem convertAddress_cases (L : AddressLib) (ip : Bytes) (port : UInt16) (ss : SockaddrStorage) :
    (Converts L ip ∧ (convertAddress L ip port ss).1 = .ok ∧
      (convertAddress L ip port ss).2.port = port ∧
      ((convertAddress L ip port ss).2.family = .inet ∨
        (convertAddress L ip port ss).2.family = .inet6)) ∨
    (∃ e, L.inetPton4 ip = .error e ∧ convertAddress L ip port ss = (rtErrorFromErrno e, ss)) ∨
    (¬ Converts L ip ∧ (∀ e, L.inetPton4 ip ≠ .error e) ∧ convertAddress L ip port ss = (.ok, ss)) := by
  unfold convertAddress Converts
  cases h4 : L.inetPton4 ip with
  | converted a => exact .inl ⟨.inl ⟨a, rfl⟩, rfl, rfl, .inl rfl⟩
  | error e => exact .inr (.inl ⟨e, rfl, rfl⟩)
  | notAnAddress =>
    cases h6 : L.inetPton6 ip with
    | converted a => exact .inl ⟨.inr ⟨rfl, a, rfl⟩, rfl, rfl, .inr rfl⟩
    | notAnAddress => exact .inr (.inr ⟨by simp, by simp, rfl⟩)
    | error e => exact .inr (.inr ⟨by simp, by simp, rfl⟩)

end Calls

/-! Which texts are parsed soundly. -/

section Sound
variable {L : AddressLib} {addr host port path : Bytes}

theorem unix_not_tcp (h : cstr addr = unixPrefix ++ path) : ¬ TcpAddress (cstr addr) host port := by
  rintro ⟨htcp, -⟩
  have hsame := congrArg unixPrefix.isPrefixOf (h.symm.trans htcp)
  rw [tcp_not_unix, isPrefixOf_append] at hsame
  cases hsame

theorem unix_sound_iff (h : cstr addr = unixPrefix ++ path) :
    ParsesSoundly L addr ↔ path.length < 108 := by
  unfold ParsesSoundly
  rw [run_unix h]
  constructor
  · rintro ⟨e, ss, hrun, -⟩
    obtain ⟨sunPath, hcopy, -⟩ := bind_eq_ok.mp hrun
    have hle := (CArray.write_eq_ok hcopy).1
    rw [List.length_append, List.length_singleton] at hle
    omega
  · intro hlen
    have hcopy : SockaddrStorage.zero.sunPath.strcpy path = .ok (.pad 108 path) :=
      CArray.strcpy_zero hlen
    rw [hcopy]
    refine ⟨_, _, rfl, fun _ => ⟨.inl rfl, rfl, fun host port htcp => ?_⟩⟩
    exact absurd htcp (unix_not_tcp h)

theorem resolvedAddress_ne_ok {e : RtError} (h : resolvedAddress L host = .error e) : e ≠ .ok := by
  unfold resolvedAddress at h
  split at h
  · cases h
  · split at h
    · cases h
      exact fun heq => by cases heq
    · cases h

theorem convertAddress_sound_iff {ip : Bytes} (h : TcpAddress (cstr addr) host port) :
    ((convertAddress L ip (toUInt16 (strtol port)) .zero).1 = .ok →
      SoundAddress addr (convertAddress L ip (toUInt16 (strtol port)) .zero).2) ↔
    ((∀ e, L.inetPton4 ip ≠ .error e) →
      Converts L ip ∧ Numeral port ∧ digitsValue port ≤ 65535) := by
  obtain ⟨hconv, hok, hport, hfamily⟩ | ⟨e, herror, hcall⟩ | ⟨hconv, hno, hcall⟩ :=
    convertAddress_cases L ip (toUInt16 (strtol port)) .zero
  · have hno : ∀ e, L.inetPton4 ip ≠ .error e := by
      rintro e herror
      obtain ⟨a, ha⟩ | ⟨ha, -⟩ := hconv
      · rw [ha] at herror
        cases herror
      · rw [ha] at herror
        cases herror
    constructor
    · intro hsound _
      have hread := (hsound hok).port host port h
      exact ⟨hconv, hread.1, hread.2.1⟩
    · intro hall _
      obtain ⟨-, hnum, hle⟩ := hall hno
      refine ⟨.inr hfamily, ?_, fun host' port' htcp => ?_⟩
      · obtain hf | hf := hfamily <;> rw [hf] <;> rfl
      · obtain ⟨-, rfl⟩ := h.unique htcp
        exact ⟨hnum, hle, by rw [hport, port_numeral hnum hle]⟩
  · rw [hcall]
    exact ⟨fun _ hno => absurd herror (hno e), fun _ heq => by cases heq⟩
  · rw [hcall]
    constructor
    · intro hsound _
      obtain hf | hf | hf := (hsound rfl).family <;> cases hf
    · exact fun hall => absurd (hall hno).1 hconv

theorem tcp_sound_iff (h : TcpAddress (cstr addr) host port) :
    ParsesSoundly L addr ↔ host.length < 128 ∧
      ∀ ip, resolvedAddress L host = .ok ip → (∀ e, L.inetPton4 ip ≠ .error e) →
        Converts L ip ∧ Numeral port ∧ digitsValue port ≤ 65535 := by
  unfold ParsesSoundly
  by_cases hlen : host.length < 128
  · rw [run_tcp_short h hlen, and_iff_right hlen]
    cases hresolved : resolvedAddress L host with
    | error e =>
      refine ⟨fun _ ip hip => (by cases hip), fun _ => ⟨e, _, rfl, fun hok => ?_⟩⟩
      exact absurd hok (resolvedAddress_ne_ok hresolved)
    | ok ip =>
      simp only [Except.ok.injEq, forall_eq', ← convertAddress_sound_iff h]
      constructor
      · rintro ⟨e, ss, hrun, hsound⟩
        rw [hrun]
        exact hsound
      · exact fun hsound => ⟨_, _, rfl, hsound⟩
  · rw [run_tcp_long h (by omega)]
    constructor
    · rintro ⟨e, ss, hrun, -⟩
      cases hrun
    · exact fun hall => absurd hall.1 hlen

theorem sound_of_invalid (h : rtSocketStorageFromString L .zero addr = .ok (.invalidArg, .zero)) :
    ParsesSoundly L addr :=
  ⟨_, _, h, fun hok => by cases hok⟩

end Sound

/-- **Which addresses are parsed soundly.** -/
theorem address_sound_iff (L : AddressLib) (addr : Bytes) :
    ParsesSoundly L addr ↔ WellFormedAddress L addr := by
  constructor
  · intro h
    exact ⟨fun path hpath => (unix_sound_iff hpath).mp h,
      fun host port htcp => ((tcp_sound_iff htcp).mp h).1,
      fun host port ip htcp => ((tcp_sound_iff htcp).mp h).2 ip⟩
  · intro h
    by_cases hunix : unixPrefix <+: cstr addr
    · obtain ⟨path, hpath⟩ := hunix
      exact (unix_sound_iff hpath.symm).mpr (h.path path hpath.symm)
    by_cases htcp : tcpPrefix <+: cstr addr
    · obtain ⟨rest, hrest⟩ := htcp
      by_cases hcolon : colon ∈ rest
      · obtain ⟨host, port, rfl, hnot⟩ := eq_append_last hcolon
        have hsplit : TcpAddress (cstr addr) host port := ⟨hrest.symm, hnot⟩
        exact (tcp_sound_iff hsplit).mpr ⟨h.host _ _ hsplit, fun ip => h.converts _ _ ip hsplit⟩
      · exact sound_of_invalid (run_without_port hrest.symm hcolon)
    · exact sound_of_invalid (run_other hunix htcp)

/-- The two conversions, as far as the addresses of the loopback interface go; there is no
    interface with an address. -/
def loopbackLib : AddressLib where
  inetPton4 ip := if ip = ascii "127.0.0.1" then .converted ⟨[127, 0, 0, 1], rfl⟩ else .notAnAddress
  inetPton6 ip :=
    if ip = ascii "::1" then .converted ⟨List.replicate 15 0 ++ [1], rfl⟩ else .notAnAddress
  interfaceAddress _ := .error (.other 19)

/-- A host that begins with a digit is numeric, and if it is no address the family is not set;
    a port is read as far as it has digits and cut to 16 bits. -/
theorem unsound_addresses :
    (∃ ss, rtSocketStorageFromString loopbackLib .zero (ascii "tcp://1st:10001") = .ok (.ok, ss) ∧
      rtSocketStorageGetLength ss.family = .error .abort) ∧
    (∃ ss, rtSocketStorageFromString loopbackLib .zero (ascii "tcp://127.0.0.1:70000") =
      .ok (.ok, ss) ∧ ss.port = 4464) ∧
    (∃ ss, rtSocketStorageFromString loopbackLib .zero (ascii "tcp://127.0.0.1:80x") =
      .ok (.ok, ss) ∧ ss.port = 80) ∧
    ¬ ParsesSoundly loopbackLib (ascii "tcp://1st:10001") ∧
    ¬ ParsesSoundly loopbackLib (ascii "tcp://127.0.0.1:70000") ∧
    ¬ ParsesSoundly loopbackLib (ascii "tcp://127.0.0.1:80x") := by
  have hhost : TcpAddress (cstr (ascii "tcp://1st:10001")) (ascii "1st") (ascii "10001") :=
    ⟨by decide, by decide⟩
  have hwrap : TcpAddress (cstr (ascii "tcp://127.0.0.1:70000")) (ascii "127.0.0.1")
      (ascii "70000") := ⟨by decide, by decide⟩
  have htail : TcpAddress (cstr (ascii "tcp://127.0.0.1:80x")) (ascii "127.0.0.1") (ascii "80x") :=
    ⟨by decide, by decide⟩
  refine ⟨⟨_, run_tcp_short hhost (by decide), rfl⟩, ⟨_, run_tcp_short hwrap (by decide), rfl⟩,
    ⟨_, run_tcp_short htail (by decide), rfl⟩, fun h => ?_, fun h => ?_, fun h => ?_⟩
  · obtain ⟨⟨a, ha⟩ | ⟨-, a, ha⟩, -⟩ :=
      ((tcp_sound_iff hhost).mp h).2 _ rfl (by intro e h; cases h)
    · cases ha
    · cases ha
  · obtain ⟨-, -, hle⟩ := ((tcp_sound_iff hwrap).mp h).2 _ rfl (by intro e h; cases h)
    exact absurd hle (by decide)
  · obtain ⟨-, hnum, -⟩ := ((tcp_sound_iff htail).mp h).2 _ rfl (by intro e h; cases h)
    exact absurd (hnum.2 120 (by decide)) (by decide)

end RtMessage
