import RtMessage.Draining
import RtMessage.StringGetters
import RtMessage.TopicGrammar
import RtMessage.Lib.Loop

/- `rtrouted` up to its loop: the options, the configuration file, the listeners.

   `main` ends in many places before it comes to its loop, so a step of it returns or says how the
   process ended. `readConfig_iff` is the buffer that the configuration file is read into, and
   `router_starts` what is there when the loop is entered, and stays there in every run of it:
   the addresses that could be parsed have a listener each, and the others are passed over. -/
namespace RtMessage
open Lib

/-! The configuration file. -/

/-- How many bytes `fgets` takes: up to a newline, and `room` at most. -/
def fgetsTaken : Nat → Bytes → Nat
  | 0, _ => 0
  | _, [] => 0
  | room + 1, b :: rest => if b = 10 then 1 else fgetsTaken room rest + 1

/-- The buffer, and what is left of the file. -/
structure ConfigReading where
  buff : CArray 8192
  left : Bytes

/-- `fgets` returns NULL at the end of the file. -/
def ConfigReading.goesOn (s : ConfigReading) : Bool := !s.left.isEmpty

/-- What `temp` holds as a string is stored behind the string in the buffer. -/
def ConfigReading.turn (s : ConfigReading) : Except Fault ConfigReading := do
  let temp := s.left.take (fgetsTaken 255 s.left)
  let buff ← s.buff.write s.buff.str.length (cstr temp ++ [0])
  return ⟨buff, s.left.drop temp.length⟩

/-- The text that is parsed for a file with these contents. -/
def readConfig (contents : Bytes) : Except Fault Bytes := do
  let s ← loop .outOfFuel ConfigReading.goesOn ConfigReading.turn contents.length
    ⟨.zero 8192, contents⟩
  return s.buff.str

section Config

theorem fgetsTaken_le (room : Nat) (bs : Bytes) : fgetsTaken room bs ≤ bs.length := by
  induction bs generalizing room with
  | nil => cases room <;> exact Nat.le_refl 0
  | cons b rest ih =>
    cases room with
    | zero => exact Nat.zero_le _
    | succ room =>
      rw [fgetsTaken, List.length_cons]
      split
      · omega
      · exact Nat.succ_le_succ (ih room)

theorem fgetsTaken_pos {room : Nat} {bs : Bytes} (h : bs ≠ []) : 0 < fgetsTaken (room + 1) bs := by
  cases bs with
  | nil => exact absurd rfl h
  | cons b rest =>
    rw [fgetsTaken]
    split <;> omega

theorem write_str {n : Nat} {a b : CArray n} {t : Bytes} (h0 : 0 ∉ t)
    (h : a.write a.str.length (t ++ [0]) = .ok b) : b.str = a.str ++ t := by
  obtain ⟨hle, hdata⟩ := CArray.write_eq_ok h
  have htake : a.data.take a.str.length = a.str := by
    rw [CArray.str, cstr]
    exact (List.prefix_iff_eq_take.mp (List.takeWhile_prefix _)).symm
  have hstr : 0 ∉ a.str := zero_not_mem_cstr _
  rw [CArray.str, hdata, htake, List.append_assoc, cstr_append hstr, cstr_append h0]
  exact congrArg (a.str ++ ·) (List.append_nil t)

/-- A turn stores what is in front of the first NUL of the bytes it takes, if there is room. -/
theorem ConfigReading.turn_cases (s : ConfigReading) (hleft : s.left ≠ []) :
    ∃ temp rest, s.left = temp ++ rest ∧ temp ≠ [] ∧
      (8192 ≤ s.buff.str.length + (cstr temp).length ∧ s.turn = .error .undefinedBehaviour ∨
      s.buff.str.length + (cstr temp).length < 8192 ∧
        ∃ t, s.turn = .ok t ∧ t.left = rest ∧ t.buff.str = s.buff.str ++ cstr temp) := by
  have hpos : 0 < fgetsTaken 255 s.left := fgetsTaken_pos hleft
  have hle := fgetsTaken_le 255 s.left
  refine ⟨s.left.take (fgetsTaken 255 s.left), s.left.drop (fgetsTaken 255 s.left),
    (List.take_append_drop _ _).symm, ?_, ?_⟩
  · intro hnil
    have hlength := congrArg List.length hnil
    rw [List.length_take, List.length_nil] at hlength
    omega
  · rw [ConfigReading.turn]
    cases hwrite : s.buff.write s.buff.str.length
        (cstr (s.left.take (fgetsTaken 255 s.left)) ++ [0]) with
    | error e =>
      rw [CArray.write] at hwrite
      split at hwrite
      · cases hwrite
      · next hroom =>
        cases hwrite
        rw [List.length_append, List.length_singleton] at hroom
        exact .inl ⟨by omega, rfl⟩
    | ok b =>
      have hroom := (CArray.write_eq_ok hwrite).1
      rw [List.length_append, List.length_singleton] at hroom
      refine .inr ⟨by omega, _, rfl, ?_, write_str (zero_not_mem_cstr _) hwrite⟩
      dsimp only
      rw [List.length_take, Nat.min_eq_left hle]

theorem readLoop_eq (s : ConfigReading) (h0 : 0 ∉ s.left) {fuel : Nat}
    (hfuel : s.left.length ≤ fuel) (hroom : s.buff.str.length < 8192) :
    (loop .outOfFuel ConfigReading.goesOn ConfigReading.turn fuel s).map (·.buff.str) =
      if s.buff.str.length + s.left.length < 8192 then .ok (s.buff.str ++ s.left)
      else .error .undefinedBehaviour := by
  induction fuel generalizing s with
  | zero =>
    have hnil : s.left = [] := List.length_eq_zero_iff.mp (Nat.le_zero.mp hfuel)
    rw [loop_done (by rw [ConfigReading.goesOn, hnil]; rfl), hnil, List.append_nil]
    exact (if_pos (by simpa using hroom)).symm
  | succ fuel ih =>
    by_cases hnil : s.left = []
    · rw [loop_done (by rw [ConfigReading.goesOn, hnil]; rfl), hnil, List.append_nil]
      exact (if_pos (by simpa using hroom)).symm
    · have hgoes : s.goesOn = true := by
        rw [ConfigReading.goesOn, Bool.not_eq_true', List.isEmpty_eq_false_iff]
        exact hnil
      obtain ⟨temp, rest, hsplit, htemp, hturn⟩ := s.turn_cases hnil
      have hlength : s.left.length = temp.length + rest.length := by
        rw [hsplit, List.length_append]
      have hpos : 0 < temp.length := List.length_pos_iff.mpr htemp
      rw [hsplit, List.mem_append, not_or] at h0
      rw [cstr_of_not_mem h0.1] at hturn
      rcases hturn with ⟨hfull, hturn⟩ | ⟨hfits, t, hturn, rfl, hstr⟩
      · rw [loop_error hgoes hturn, if_neg (by omega)]
        rfl
      · rw [← List.length_append, ← hstr] at hfits
        rw [loop_step hgoes hturn, ih t h0.2 (by omega) hfits, hstr, hsplit, List.append_assoc,
          List.length_append, List.length_append, Nat.add_assoc]

/-- A NUL in the file hides what follows it in the bytes of its turn. -/
theorem readLoop_shorter {s t : ConfigReading} {fuel : Nat}
    (h : loop .outOfFuel ConfigReading.goesOn ConfigReading.turn fuel s = .ok t) :
    t.buff.str.length ≤ s.buff.str.length + s.left.length ∧
      (0 ∈ s.left → t.buff.str.length < s.buff.str.length + s.left.length) := by
  induction fuel generalizing s with
  | zero =>
    rcases loop_ok_cases h with ⟨hgoes, rfl⟩ | ⟨_, _, h0, _⟩
    · have hnil : t.left = [] := by
        rwa [ConfigReading.goesOn, Bool.not_eq_false', List.isEmpty_iff] at hgoes
      rw [hnil]
      exact ⟨Nat.le_add_right _ _, fun hmem => by cases hmem⟩
    · cases h0
  | succ fuel ih =>
    rcases loop_ok_cases h with ⟨hgoes, rfl⟩ | ⟨_, u, hfuel, hgoes, hturn, hrest⟩
    · have hnil : t.left = [] := by
        rwa [ConfigReading.goesOn, Bool.not_eq_false', List.isEmpty_iff] at hgoes
      rw [hnil]
      exact ⟨Nat.le_add_right _ _, fun hmem => by cases hmem⟩
    · cases hfuel
      have hne : s.left ≠ [] := by
        rwa [ConfigReading.goesOn, Bool.not_eq_true', List.isEmpty_eq_false_iff] at hgoes
      obtain ⟨temp, rest, hsplit, -, hfull | ⟨-, v, hv, rfl, hstr⟩⟩ := s.turn_cases hne
      · cases hturn.symm.trans hfull.2
      cases hturn.symm.trans hv
      obtain ⟨hle, hlt⟩ := ih hrest
      have htemp := cstr_length_le temp
      rw [hstr, List.length_append] at hle hlt
      rw [hsplit, List.length_append]
      refine ⟨by omega, fun hmem => ?_⟩
      rcases List.mem_append.mp hmem with hmem | hmem
      · have hcut := cstr_length_lt hmem
        omega
      · have hcut := hlt hmem
        omega

theorem readConfig_loop (contents : Bytes) : readConfig contents =
    (loop .outOfFuel ConfigReading.goesOn ConfigReading.turn contents.length
      ⟨.zero 8192, contents⟩).map (·.buff.str) := by
  rw [readConfig]
  cases loop .outOfFuel ConfigReading.goesOn ConfigReading.turn contents.length
    ⟨.zero 8192, contents⟩ <;> rfl

theorem readConfig_eq {contents : Bytes} (h0 : 0 ∉ contents) : readConfig contents =
    if contents.length < 8192 then .ok contents else .error .undefinedBehaviour := by
  have hroom : (CArray.zero 8192).str.length < 8192 := by
    rw [CArray.zero_str]
    decide
  rw [readConfig_loop, readLoop_eq ⟨.zero 8192, contents⟩ h0 (Nat.le_refl _) hroom,
    CArray.zero_str, List.nil_append, List.length_nil, Nat.zero_add]

/-- **The configuration file** comes into the buffer as it is exactly if it has no NUL and is
    shorter than the buffer. A longer one without a NUL is written behind the buffer's end. -/
theorem readConfig_iff (contents : Bytes) :
    (readConfig contents = .ok contents ↔ 0 ∉ contents ∧ contents.length < 8192) ∧
    (0 ∉ contents → 8192 ≤ contents.length →
      readConfig contents = .error .undefinedBehaviour) := by
  refine ⟨⟨fun h => ?_, fun ⟨h0, hlt⟩ => by rw [readConfig_eq h0, if_pos hlt]⟩,
    fun h0 hle => by rw [readConfig_eq h0, if_neg (Nat.not_lt.mpr hle)]⟩
  have h0 : 0 ∉ contents := by
    intro hmem
    rw [readConfig_loop] at h
    cases hloop : loop .outOfFuel ConfigReading.goesOn ConfigReading.turn contents.length
        ⟨.zero 8192, contents⟩ with
    | error e =>
      rw [hloop] at h
      cases h
    | ok t =>
      rw [hloop] at h
      have htext : t.buff.str = contents := Except.ok.inj h
      have hcut := (readLoop_shorter hloop).2 hmem
      rw [htext, CArray.zero_str, List.length_nil, Nat.zero_add] at hcut
      exact Nat.lt_irrefl _ hcut
  refine ⟨h0, ?_⟩
  rw [readConfig_eq h0] at h
  split at h
  · assumption
  · cases h

end Config

/-! How the process ends before its loop. -/

inductive ProcessEnd where
  | exited (status : Nat)
  | fault (e : Fault)
  deriving DecidableEq, Repr

/-- A call that returns, or is the end of the process. -/
def ofCall {α : Type} (x : Except Fault α) : Except ProcessEnd α := x.mapError .fault

/-! The listeners. -/

/-- What the system answers for a listener's socket. -/
structure ListenerAnswers where
  socket : Except Errno Nat
  bind : Option Errno
  listen : Option Errno

structure StartupAnswers where
  /-- `fopen` of the pid file, and `flock` -/
  pidFile : Option Errno
  flock : Option Errno
  daemon : Option Errno
  /-- `rtRouted_FileExists` of a name that is not empty -/
  stat : Bytes → Bool
  fopen : Bytes → Option Bytes
  /-- for the first socket, the second one, and so on -/
  listener : Nat → ListenerAnswers

/-- The vector of the listeners, and the descriptors that TCP_NODELAY was asked for. -/
structure Listening where
  listeners : List RoutedListener
  noDelay : List Nat

section Listen
variable (J : CJsonLib) (L : AddressLib) (k : StartupAnswers)

/-- What `setsockopt` returns is not looked at. An address that is not parsed is passed over. -/
def rtRoutedBindListener (socketName : Option Bytes) (noDelay : Bool) (s : Listening) :
    Except ProcessEnd Listening :=
  match socketName with
  | none => .error (.fault .undefinedBehaviour)
  | some socketName => do
    let (err, endpoint) ← ofCall (rtSocketStorageFromString L .zero socketName)
    if err ≠ .ok then return s
    else
      let answers := k.listener s.listeners.length
      match answers.socket with
      | .error _ => .error (.exited 1)
      | .ok fd => do
        ofCall (rtSocketStorageGetLength endpoint.family)
        let asked := if endpoint.family ≠ .unix ∧ noDelay then [fd] else []
        if answers.bind.isSome then .error (.exited 1)
        else if answers.listen.isSome then .error (.exited 1)
        else return ⟨s.listeners ++ [⟨fd, endpoint⟩], s.noDelay ++ asked⟩

/-- The item at an index, if it has a member `uri`. -/
def bindItem (listeners : CJson) (s : Listening) (i : Nat) : Except ProcessEnd Listening :=
  match (cJSONGetArrayItem listeners i).bind (cJSONGetObjectItem · (ascii "uri")) with
  | none => .ok s
  | some uri => rtRoutedBindListener L k uri.valuestring true s

def rtRoutedParseConfig (fname : Bytes) (s : Listening) : Except ProcessEnd Listening :=
  if fname = [] then .ok s
  else if ¬ k.stat fname then .ok s
  else
    match k.fopen fname with
    | none => .error (.exited 1)
    | some contents => do
      let buff ← ofCall (readConfig contents)
      match J.parse buff with
      -- the message about the error is made from the buffer, which was freed
      | none => .error (.fault .undefinedBehaviour)
      | some json =>
        match cJSONGetObjectItem json (ascii "listeners") with
        | none => return s
        | some listeners =>
          (List.range (cJSONGetArraySize listeners).toNat).foldlM (bindItem L k listeners) s

end Listen

/-! `main`. -/

/-- What `getopt_long` returns, with its argument. -/
inductive RoutedOption where
  | config (file : Bytes)
  | socket (name : Bytes)
  | noDelay
  | foreground
  | logLevel (level : Bytes)
  | help
  | debugRoute
  | unknown
  deriving DecidableEq, Repr

/-- The variables of `main` that the options are stored in, and the routes. -/
structure Settings where
  configFile : Bytes
  socketName : Option Bytes
  useNoDelay : Bool
  runInForeground : Bool
  routes : List RtRouteEntry
  nextPtr : Nat

def Settings.start : Settings where
  configFile := ascii "/etc/rtrouted.conf"
  socketName := none
  useNoDelay := false
  runInForeground := false
  routes := [internalRoute 0]
  nextPtr := 1

/-- `-d` stores what is there already. -/
def Settings.read (s : Settings) : RoutedOption → Except ProcessEnd Settings
  | .config file => .ok { s with configFile := file }
  | .socket name => .ok { s with socketName := some name }
  | .noDelay => .ok { s with useNoDelay := false }
  | .foreground => .ok { s with runInForeground := true }
  | .logLevel _ => .ok s
  | .help => .error (.exited 0)
  | .debugRoute =>
    let route : RtRouteEntry := ⟨s.nextPtr, .printMessage, .pad 128 (ascii ">")⟩
    .ok { s with routes := s.routes ++ [route], nextPtr := s.nextPtr + 1 }
  | .unknown => .ok s

/-- The process as it enters its loop. -/
structure Started where
  daemon : Daemon
  noDelay : List Nat

/-- The listener for the address from the command line. -/
def bindSocketName (L : AddressLib) (k : StartupAnswers) (settings : Settings) :
    Except ProcessEnd Listening :=
  match settings.socketName with
  | none => .ok ⟨[], []⟩
  | some name => rtRoutedBindListener L k (some name) settings.useNoDelay ⟨[], []⟩

/-- `main` up to its loop. -/
def mainStart (J : CJsonLib) (L : AddressLib) (k : StartupAnswers)
    (options : List RoutedOption) (os : Os) : Except ProcessEnd Started := do
  if k.pidFile.isSome then .error (.exited 0)
  else if k.flock = some .EAGAIN then .error (.exited 12)
  else
    let settings ← options.foldlM Settings.read .start
    if !settings.runInForeground && k.daemon.isSome then .error (.exited 1)
    else
      let s ← bindSocketName L k settings
      let s ← rtRoutedParseConfig J L k settings.configFile s
      return ⟨⟨s.listeners, ⟨[], settings.routes, settings.nextPtr, os⟩⟩, s.noDelay⟩

/-! The options. -/

def RoutedOption.config? : RoutedOption → Option Bytes
  | .config file => some file
  | _ => none

def RoutedOption.socket? : RoutedOption → Option Bytes
  | .socket name => some name
  | _ => none

/-- The argument of the last `-c`, or the default. -/
def configFileOf (options : List RoutedOption) : Bytes :=
  ((options.filterMap (·.config?)).getLast?).getD (ascii "/etc/rtrouted.conf")

/-- The argument of the last `-s`. -/
def socketNameOf (options : List RoutedOption) : Option Bytes :=
  (options.filterMap (·.socket?)).getLast?

/-- What the options come to. -/
structure SettingsOf (options : List RoutedOption) (s : Settings) : Prop where
  configFile : s.configFile = configFileOf options
  socketName : s.socketName = socketNameOf options
  useNoDelay : s.useNoDelay = false
  routes : s.routes = startRoutes (options.count .debugRoute)
  nextPtr : s.nextPtr = options.count .debugRoute + 1

theorem startRoutes_succ (n : Nat) :
    startRoutes (n + 1) = startRoutes n ++ [⟨n + 1, .printMessage, .pad 128 (ascii ">")⟩] := by
  rw [startRoutes, startRoutes, List.range_succ, List.map_append, List.cons_append]
  rfl

theorem SettingsOf.snoc {options : List RoutedOption} {s t : Settings} (h : SettingsOf options s)
    {o : RoutedOption} (hread : s.read o = .ok t) : SettingsOf (options ++ [o]) t := by
  have hconfig : configFileOf (options ++ [o]) =
      (o.config?).getD (configFileOf options) := by
    rw [configFileOf, List.filterMap_append]
    cases o with
    | config file =>
      change ((options.filterMap (·.config?) ++ [file]).getLast?).getD _ = file
      rw [List.getLast?_concat]
      rfl
    | _ => exact congrArg (fun l => (List.getLast? l).getD _) (List.append_nil _)
  have hsocket : socketNameOf (options ++ [o]) = (o.socket?).or (socketNameOf options) := by
    rw [socketNameOf, List.filterMap_append]
    cases o with
    | socket name => exact List.getLast?_concat ..
    | _ => exact congrArg List.getLast? (List.append_nil _)
  have hcount : (options ++ [o]).count .debugRoute =
      options.count .debugRoute + if o = .debugRoute then 1 else 0 := by
    rw [List.count_append, List.count_singleton]
    by_cases ho : o = .debugRoute
    · rw [if_pos ho, if_pos (beq_iff_eq.mpr ho)]
    · rw [if_neg ho, if_neg (fun heq => ho (beq_iff_eq.mp heq))]
  constructor
  case configFile =>
    rw [hconfig, ← h.configFile]
    cases o <;> cases hread <;> rfl
  case socketName =>
    rw [hsocket, ← h.socketName]
    cases o <;> cases hread <;> rfl
  case useNoDelay => cases o <;> cases hread <;> first | exact h.useNoDelay | rfl
  case routes =>
    rw [hcount]
    cases o with
    | debugRoute =>
      cases hread
      rw [if_pos rfl, startRoutes_succ, ← h.routes, ← h.nextPtr]
    | _ => cases hread <;> exact h.routes
  case nextPtr =>
    rw [hcount]
    cases o with
    | debugRoute =>
      cases hread
      exact congrArg (· + 1) h.nextPtr
    | _ => cases hread <;> exact h.nextPtr

theorem settingsOf {options : List RoutedOption} {s : Settings}
    (h : options.foldlM Settings.read .start = .ok s) : SettingsOf options s := by
  induction options using List.reverseRecOn generalizing s with
  | nil =>
    cases h
    exact ⟨rfl, rfl, rfl, rfl, rfl⟩
  | append_singleton options o ih =>
    rw [List.foldlM_append] at h
    obtain ⟨t, ht, h⟩ := bind_eq_ok.mp h
    obtain ⟨u, hu, h⟩ := bind_eq_ok.mp h
    cases h
    exact (ih ht).snoc hu

/-! The addresses. -/

section Addresses
variable {J : CJsonLib} {L : AddressLib} {k : StartupAnswers}

/-- The address that a text is parsed to. -/
def parsedAddress (L : AddressLib) (addr : Bytes) : Option SockaddrStorage :=
  match rtSocketStorageFromString L .zero addr with
  | .ok (.ok, endpoint) => some endpoint
  | _ => none

/-- The text of an item of the configuration file. -/
def uriText (item : CJson) : Option Bytes :=
  (cJSONGetObjectItem item (ascii "uri")).bind CJson.valuestring

/-- The addresses in the configuration file. -/
def configuredAddresses (J : CJsonLib) (k : StartupAnswers) (fname : Bytes) : List Bytes :=
  if fname = [] ∨ ¬ k.stat fname then []
  else
    match (k.fopen fname).bind fun contents => (readConfig contents).toOption.bind J.parse with
    | none => []
    | some json =>
      match cJSONGetObjectItem json (ascii "listeners") with
      | none => []
      | some listeners =>
        ((DataProvider.CJson.children listeners).take (cJSONGetArraySize listeners).toNat).filterMap
          uriText

/-- The listeners for an address from the command line, if there is one, and for those from the
    configuration file. -/
structure Listens (L : AddressLib) (k : StartupAnswers) (given configured : List Bytes)
    (s : Listening) : Prop where
  endpoints : s.listeners.map (·.localEndpoint) =
    (given ++ configured).filterMap (parsedAddress L)
  bound : ∀ i l, s.listeners[i]? = some l → k.listener i = ⟨.ok l.fd, none, none⟩
  families : ∀ l ∈ s.listeners, l.localEndpoint.family ≠ .unspec
  noDelay : s.noDelay =
    ((s.listeners.drop (given.filterMap (parsedAddress L)).length).filter fun l =>
      decide (l.localEndpoint.family ≠ .unix)).map (·.fd)

theorem bindListener_ok {addr : Bytes} {noDelay : Bool} {s t : Listening}
    (h : rtRoutedBindListener L k (some addr) noDelay s = .ok t) :
    parsedAddress L addr = none ∧ t = s ∨
    ∃ fd endpoint, parsedAddress L addr = some endpoint ∧ endpoint.family ≠ .unspec ∧
      k.listener s.listeners.length = ⟨.ok fd, none, none⟩ ∧
      t = ⟨s.listeners ++ [⟨fd, endpoint⟩],
        s.noDelay ++ if endpoint.family ≠ .unix ∧ noDelay then [fd] else []⟩ := by
  rw [rtRoutedBindListener] at h
  dsimp only at h
  unfold parsedAddress
  cases hparse : rtSocketStorageFromString L .zero addr with
  | error e =>
    rw [hparse] at h
    cases h
  | ok p =>
    obtain ⟨err, endpoint⟩ := p
    rw [hparse] at h
    change (if err ≠ .ok then _ else _) = _ at h
    by_cases herr : err = .ok
    · subst herr
      rw [if_neg (fun hne => hne rfl)] at h
      right
      -- every answer but this one ends the process
      cases hanswers : k.listener s.listeners.length with
      | mk socket bind listen =>
      rw [hanswers] at h
      dsimp only at h
      cases socket with
      | error e => cases h
      | ok fd =>
        dsimp only at h
        by_cases hfamily : endpoint.family = .unspec
        · rw [hfamily] at h
          cases h
        · rw [rtSocketStorageGetLength, if_neg hfamily] at h
          change (if bind.isSome then _ else _) = _ at h
          cases bind with
          | some e => cases h
          | none =>
            cases listen with
            | some e => cases h
            | none =>
              cases h
              exact ⟨fd, endpoint, rfl, hfamily, rfl, rfl⟩
    · rw [if_pos herr] at h
      cases h
      refine .inl ⟨?_, rfl⟩
      cases err <;> first | rfl | exact absurd rfl herr

theorem Listens.none (L : AddressLib) (k : StartupAnswers) : Listens L k [] [] ⟨[], []⟩ where
  endpoints := rfl
  bound := fun i l hl => by cases hl
  families := fun l hl => by cases hl
  noDelay := rfl

theorem bound_snoc {s : Listening} {fd : Nat} {endpoint : SockaddrStorage}
    (hbound : ∀ i l, s.listeners[i]? = some l → k.listener i = ⟨.ok l.fd, Option.none, Option.none⟩)
    (hanswers : k.listener s.listeners.length = ⟨.ok fd, Option.none, Option.none⟩) (i : Nat)
    (l : RoutedListener) (hl : (s.listeners ++ [⟨fd, endpoint⟩])[i]? = some l) :
    k.listener i = ⟨.ok l.fd, Option.none, Option.none⟩ := by
  rcases Nat.lt_trichotomy i s.listeners.length with hi | rfl | hi
  · rw [List.getElem?_append_left hi] at hl
    exact hbound i l hl
  · rw [List.getElem?_concat_length] at hl
    cases hl
    exact hanswers
  · rw [List.getElem?_eq_none (by rw [List.length_append]; exact hi)] at hl
    cases hl

/-- The listener for the address from the command line never has TCP_NODELAY. -/
theorem Listens.given {addr : Bytes} {s : Listening}
    (h : rtRoutedBindListener L k (some addr) false ⟨[], []⟩ = .ok s) :
    Listens L k [addr] [] s := by
  rcases bindListener_ok h with ⟨hparse, rfl⟩ | ⟨fd, endpoint, hparse, hfamily, hanswers, rfl⟩
  · refine ⟨?_, fun i l hl => (by cases hl), fun l hl => (by cases hl), ?_⟩
    · rw [List.append_nil, List.filterMap_cons, hparse]
      rfl
    · rw [List.drop_nil]
      rfl
  · have hone : [addr].filterMap (parsedAddress L) = [endpoint] := by
      rw [List.filterMap_cons, hparse]
      rfl
    refine ⟨?_, bound_snoc (fun i l hl => by cases hl) hanswers, ?_, ?_⟩
    · rw [List.append_nil, hone]
      rfl
    · intro l hl
      rw [List.mem_singleton.mp hl]
      exact hfamily
    · rw [hone, if_neg (by simp)]
      rfl

/-- One for an address from the configuration file has it, unless it is a path. -/
theorem Listens.configured {given configured : List Bytes} {addr : Bytes} {s t : Listening}
    (h : Listens L k given configured s)
    (hbind : rtRoutedBindListener L k (some addr) true s = .ok t) :
    Listens L k given (configured ++ [addr]) t := by
  have hsplit : (given ++ (configured ++ [addr])).filterMap (parsedAddress L) =
      (given ++ configured).filterMap (parsedAddress L) ++ (parsedAddress L addr).toList := by
    rw [← List.append_assoc, List.filterMap_append, List.filterMap_cons, List.filterMap_nil]
    cases parsedAddress L addr <;> rfl
  rcases bindListener_ok hbind with ⟨hparse, rfl⟩ | ⟨fd, endpoint, hparse, hfamily, hanswers, rfl⟩
  · refine ⟨?_, h.bound, h.families, h.noDelay⟩
    rw [hsplit, hparse, h.endpoints]
    exact (List.append_nil _).symm
  · refine ⟨?_, bound_snoc h.bound hanswers, ?_, ?_⟩
    · rw [hsplit, hparse, ← h.endpoints, List.map_append]
      rfl
    · intro l hl
      rcases List.mem_append.mp hl with hl | hl
      · exact h.families l hl
      · rw [List.mem_singleton.mp hl]
        exact hfamily
    · have hle : (given.filterMap (parsedAddress L)).length ≤ s.listeners.length := by
        have hlength := congrArg List.length h.endpoints
        rw [List.length_map, List.filterMap_append, List.length_append] at hlength
        omega
      rw [h.noDelay]
      dsimp only
      rw [List.drop_append_of_le_length hle, List.filter_append, List.map_append]
      by_cases hunix : endpoint.family = .unix
      · rw [if_neg (fun hand => hand.1 hunix), List.filter_cons_of_neg (by simpa using hunix)]
        rfl
      · rw [if_pos ⟨hunix, rfl⟩, List.filter_cons_of_pos (by simpa using hunix)]
        rfl

theorem bindItems {listeners : CJson} {given configured : List Bytes} (indices : List Nat)
    {s t : Listening} (h : Listens L k given configured s)
    (hloop : indices.foldlM (bindItem L k listeners) s = .ok t) :
    Listens L k given (configured ++ indices.filterMap fun i : Nat =>
      (cJSONGetArrayItem listeners i).bind uriText) t := by
  induction indices generalizing configured s with
  | nil =>
    cases hloop
    rwa [List.filterMap_nil, List.append_nil]
  | cons i indices ih =>
    obtain ⟨u, hu, hloop⟩ := bind_eq_ok.mp hloop
    rw [bindItem] at hu
    rw [List.filterMap_cons]
    cases hitem : (cJSONGetArrayItem listeners i).bind
        (cJSONGetObjectItem · (ascii "uri")) with
    | none =>
      rw [hitem] at hu
      cases hu
      have hnone : (cJSONGetArrayItem listeners i).bind uriText = Option.none := by
        unfold uriText
        rw [← Option.bind_assoc, hitem]
        rfl
      rw [hnone]
      exact ih h hloop
    | some uri =>
      rw [hitem] at hu
      dsimp only at hu
      have htext : (cJSONGetArrayItem listeners i).bind uriText = uri.valuestring := by
        unfold uriText
        rw [← Option.bind_assoc, hitem]
        rfl
      rw [htext]
      cases haddr : uri.valuestring with
      | none =>
        rw [haddr] at hu
        cases hu
      | some addr =>
        rw [haddr] at hu
        have hrest := ih (h.configured hu) hloop
        rwa [List.append_assoc] at hrest

theorem filterMap_range {α β : Type} (items : List α) (n : Nat) (f : α → Option β) :
    ((List.range n).filterMap fun i => items[i]?.bind f) = (items.take n).filterMap f := by
  induction items generalizing n with
  | nil => simp
  | cons a items ih =>
    cases n with
    | zero => rfl
    | succ n =>
      rw [List.range_succ_eq_map, List.take_succ_cons, List.filterMap_cons, List.filterMap_cons,
        List.filterMap_map, ← ih n]
      rfl

theorem parseConfig_ok {given : List Bytes} {fname : Bytes} {s t : Listening}
    (h : Listens L k given [] s) (hparse : rtRoutedParseConfig J L k fname s = .ok t) :
    Listens L k given (configuredAddresses J k fname) t := by
  rw [rtRoutedParseConfig] at hparse
  unfold configuredAddresses
  by_cases hempty : fname = []
  · rw [if_pos hempty] at hparse
    cases hparse
    rwa [if_pos (.inl hempty)]
  by_cases hstat : k.stat fname = true
  · -- a file that is opened, read and parsed, or the call does not come back with listeners
    rw [if_neg hempty, if_neg (not_not.mpr hstat)] at hparse
    rw [if_neg (not_or.mpr ⟨hempty, not_not.mpr hstat⟩)]
    cases hopen : k.fopen fname with
    | none =>
      rw [hopen] at hparse
      cases hparse
    | some contents =>
      rw [hopen] at hparse
      dsimp only at hparse
      rw [Option.bind_some]
      cases hread : readConfig contents with
      | error e =>
        rw [hread] at hparse
        cases hparse
      | ok buff =>
        rw [hread] at hparse
        change (match J.parse buff with | none => _ | some json => _) = _ at hparse
        change Listens L k given (match J.parse buff with | none => _ | some json => _) t
        cases hjson : J.parse buff with
        | none =>
          rw [hjson] at hparse
          cases hparse
        | some json =>
          rw [hjson] at hparse
          dsimp only at hparse ⊢
          cases hlisteners : cJSONGetObjectItem json (ascii "listeners") with
          | none =>
            rw [hlisteners] at hparse
            cases hparse
            exact h
          | some listeners =>
            rw [hlisteners] at hparse
            have hitems := bindItems _ h hparse
            rw [List.nil_append] at hitems
            -- the items that are looked up by their index are the children in their order
            have heq : ((List.range (cJSONGetArraySize listeners).toNat).filterMap fun i : Nat =>
                (cJSONGetArrayItem listeners i).bind uriText) =
                ((DataProvider.CJson.children listeners).take
                  (cJSONGetArraySize listeners).toNat).filterMap uriText := by
              rw [← filterMap_range]
              refine List.filterMap_congr fun i _ => ?_
              rw [cJSONGetArrayItem, if_neg (by omega)]
              rfl
            rwa [heq] at hitems
  · rw [if_neg hempty, if_pos hstat] at hparse
    cases hparse
    rwa [if_pos (.inr hstat)]

end Addresses

/-! The start. -/

section Start
variable {J : CJsonLib} {L : AddressLib} {k : StartupAnswers} {options : List RoutedOption}
  {os : Os} {s : Started}

theorem start_ok (h : mainStart J L k options os = .ok s) :
    s.daemon.routed = startRouter (options.count .debugRoute) os ∧
    Listens L k (socketNameOf options).toList (configuredAddresses J k (configFileOf options))
      ⟨s.daemon.listeners, s.noDelay⟩ := by
  rw [mainStart] at h
  split at h
  · cases h
  · split at h
    · cases h
    · obtain ⟨settings, hsettings, h⟩ := bind_eq_ok.mp h
      have hof := settingsOf hsettings
      split at h
      · cases h
      · obtain ⟨s₁, hsocket, h⟩ := bind_eq_ok.mp h
        obtain ⟨s₂, hconfig, h⟩ := bind_eq_ok.mp h
        cases h
        have hgiven : Listens L k (socketNameOf options).toList [] s₁ := by
          rw [← hof.socketName]
          rw [bindSocketName] at hsocket
          cases hname : settings.socketName with
          | none =>
            rw [hname] at hsocket
            cases hsocket
            exact .none L k
          | some name =>
            rw [hname, hof.useNoDelay] at hsocket
            exact .given hsocket
        rw [hof.configFile] at hconfig
        refine ⟨?_, parseConfig_ok hgiven hconfig⟩
        rw [hof.routes, hof.nextPtr]
        rfl

/-- Without a listener there is never a client. -/
theorem turn_without_listeners {d d' : Daemon} {a : TurnAnswers} (hd : d.Sound)
    (hlisteners : d.listeners = []) (hclients : d.routed.clients = [])
    (hstep : TurnStep J d a d') : d'.routed.clients = [] := by
  cases hstep with
  | turn hkernel hturn =>
    rw [hd.mainTurn_eq hkernel] at hturn
    split at hturn
    · unfold servedTurn at hturn
      split at hturn
      · cases hturn
        exact hclients
      · cases hturn
        exact hclients
      · rw [hlisteners, hclients] at hturn
        obtain ⟨r, hserve, hturn⟩ := bind_eq_ok.mp hturn
        cases hserve
        split at hturn
        · cases hturn
          exact hclients
        · cases hturn
    · cases hturn

/-- **The start of the router**: if the loop is entered, the addresses of the last `-s` and of
    the configuration file that could be parsed have a listener each, in their order, and the
    others were passed over. Only those of the configuration file have TCP_NODELAY, whatever the
    options. So it stays in every run of the loop; with no listener there is never a client. -/
theorem router_starts (J : CJsonLib) (L : AddressLib) (k : StartupAnswers)
    (hfresh : ∀ i j fd, (k.listener i).socket = .ok fd → (k.listener j).socket = .ok fd → i = j)
    (h : mainStart J L k options os = .ok s) :
    s.daemon.routed = startRouter (options.count .debugRoute) os ∧
    s.daemon.listeners.map (·.localEndpoint) =
      ((socketNameOf options).toList ++ configuredAddresses J k (configFileOf options)).filterMap
        (parsedAddress L) ∧
    (∀ l ∈ s.daemon.listeners, l.localEndpoint.family ≠ .unspec) ∧
    s.noDelay = ((s.daemon.listeners.drop
      ((socketNameOf options).bind (parsedAddress L)).toList.length).filter fun l =>
        decide (l.localEndpoint.family ≠ .unix)).map (·.fd) ∧
    ∀ turns d, Run (TurnStep J) s.daemon turns d →
      d.listeners = s.daemon.listeners ∧ d.fds.Nodup ∧
        (s.daemon.listeners = [] → d.routed.clients = []) := by
  obtain ⟨hrouted, hlistens⟩ := start_ok h
  have hgiven : ((socketNameOf options).bind (parsedAddress L)).toList =
      (socketNameOf options).toList.filterMap (parsedAddress L) := by
    cases socketNameOf options with
    | none => rfl
    | some name =>
      rw [Option.bind_some, Option.toList_some, List.filterMap_cons, List.filterMap_nil]
      cases parsedAddress L name <;> rfl
  refine ⟨hrouted, hlistens.endpoints, hlistens.families, hgiven ▸ hlistens.noDelay, ?_⟩
  -- each listener has the descriptor that its own call of `socket` returned
  have hnodup : (s.daemon.listeners.map (·.fd)).Nodup := by
    rw [List.Nodup, List.pairwise_iff_getElem]
    intro i j hi hj hlt heq
    rw [List.length_map] at hi hj
    rw [List.getElem_map, List.getElem_map] at heq
    have hfirst := hlistens.bound i _ (List.getElem?_eq_getElem hi)
    have hsecond := hlistens.bound j _ (List.getElem?_eq_getElem hj)
    have hsame := hfresh i j s.daemon.listeners[i].fd (by rw [hfirst]) (by rw [hsecond, heq])
    omega
  have hstart : s.daemon.Sound := by
    refine ⟨hrouted ▸ .start _ os, ?_⟩
    rw [Daemon.fds, hrouted]
    exact (List.append_nil _).symm ▸ hnodup
  intro turns d hrun
  obtain ⟨hd, hsame, hnone⟩ : d.Sound ∧ d.listeners = s.daemon.listeners ∧
      (s.daemon.listeners = [] → d.routed.clients = []) := by
    refine hrun.invariant (I := fun _ d => d.Sound ∧ d.listeners = s.daemon.listeners ∧
      (s.daemon.listeners = [] → d.routed.clients = [])) ⟨hstart, rfl, fun _ => ?_⟩ ?_
    · rw [hrouted]
      rfl
    · intro _ d a d' hbefore hstep
      obtain ⟨hd, hsame, hnone⟩ := hbefore
      obtain ⟨hd', hkept⟩ := hd.turn hstep
      refine ⟨hd', hkept.trans hsame, fun hempty => ?_⟩
      exact turn_without_listeners hd (hsame.trans hempty) (hnone hempty) hstep
  exact ⟨hsame, hd.fds, hnone⟩

end Start

/-! A debug route. -/

section DebugRoute
variable {J : CJsonLib}

/-- Nobody gets the frame: no subscription matches it, nor does the internal route, nor a debug
    route, which leaves frames without a topic. -/
def unserved (debugRoute : Bool) (table : List Subscription) (f : Frame) : Bool :=
  !table.any (·.matches f) && !rtRoutedIsTopicMatch f.topic.str (ascii "_RTROUTED.>") &&
    !(debugRoute && decide (f.topic.str ≠ []))

/-- What goes out where a frame has its copies, and a request that nobody gets is refused. -/
def answersAmong (J : CJsonLib) (debugRoute : Bool) (table : List Subscription) :
    List Happening → List (Nat × Frame)
  | [] => []
  | .frame client f :: rest =>
    copies table f ++
      (if unserved debugRoute table f && rtMessageHeaderIsRequest f.header
        then [(client, refusalFrame J f)] else []) ++
      answersAmong J debugRoute (table ++ subscribed J (client, f)) rest
  | .left client :: rest =>
    answersAmong J debugRoute (table.filter fun u => decide (u.client ≠ client)) rest

theorem match_debugRoute (topic : Bytes) :
    rtRoutedIsTopicMatch topic (ascii ">") = decide (topic ≠ []) := by
  cases topic with
  | nil => decide
  | cons a t => exact loop_rest

theorem own_matches (n : Nat) (topic : Bytes) :
    (ownExpressions (startRoutes n)).any (rtRoutedIsTopicMatch topic) =
      (rtRoutedIsTopicMatch topic (ascii "_RTROUTED.>") || decide (n ≠ 0) && decide (topic ≠ [])) := by
  induction n with
  | zero =>
    have hinternal : ownExpressions (startRoutes 0) = [ascii "_RTROUTED.>"] := by decide
    rw [hinternal, List.any_cons, List.any_nil]
    rfl
  | succ n ih =>
    have hprint : ownExpressions [⟨n + 1, .printMessage, .pad 128 (ascii ">")⟩] = [ascii ">"] := by
      rw [ownExpressions]
      change [(CArray.pad 128 (ascii ">")).str] = _
      rw [CArray.pad_str (by decide) (by decide)]
    have happend : ownExpressions (startRoutes (n + 1)) =
        ownExpressions (startRoutes n) ++ [ascii ">"] := by
      rw [startRoutes_succ, ownExpressions, List.filter_append, List.map_append, ← ownExpressions,
        ← ownExpressions, hprint]
    rw [happend, List.any_append, ih, List.any_cons, List.any_nil, match_debugRoute,
      decide_eq_true (Nat.succ_ne_zero n), Bool.or_false]
    cases decide (topic ≠ []) <;> simp

theorem refusals_eq (n : Nat) (table : List Subscription) (p : Nat × Frame) :
    refusals J (ownExpressions (startRoutes n)) table p =
      if unserved (decide (n ≠ 0)) table p.2 && rtMessageHeaderIsRequest p.2.header
        then [(p.1, refusalFrame J p.2)] else [] := by
  have hroute : hasRoute (ownExpressions (startRoutes n)) table p.2 =
      !unserved (decide (n ≠ 0)) table p.2 := by
    rw [hasRoute, own_matches, unserved]
    generalize (decide (n ≠ 0) && decide (p.2.topic.str ≠ [])) = debug
    generalize rtRoutedIsTopicMatch p.2.topic.str (ascii "_RTROUTED.>") = internal
    cases table.any (·.matches p.2) <;> cases internal <;> cases debug <;> rfl
  rw [refusals, hroute, Bool.not_not]

theorem deliveriesAmong_answers (n : Nat) (table : List Subscription) (hs : List Happening) :
    deliveriesAmong J (ownExpressions (startRoutes n)) table hs =
      answersAmong J (decide (n ≠ 0)) table hs := by
  induction hs generalizing table with
  | nil => rfl
  | cons e hs ih =>
    cases e with
    | frame client f => rw [deliveriesAmong, answersAmong, ih, outputs, refusals_eq]
    | left client => rw [deliveriesAmong, answersAmong, ih]

/-- **With a debug route nothing is refused**: in every run with clients that come and go, what goes
    out are the copies that are due, and a refusal for every request that nobody gets. In a router
    started with `-r` there is somebody for every request with a topic, so that one which no client
    has subscribed to gets no answer. -/
theorem debug_route_refuses_nothing (J : CJsonLib) (L : AddressLib) (k : StartupAnswers)
    {options : List RoutedOption} {os : Os} {s : Started}
    (h : mainStart J L k options os = .ok s) (htakes : Takes os.sends)
    (hdelivers : Delivers os.recvs) (hsent : os.sent = []) {streams : Nat → List Frame}
    (hframes : ∀ ptr, ∀ f ∈ streams ptr, f.Admissible J)
    {es : List MemberEvent} {r : RtRouted Os}
    (hrun : Run (MemberStep J streams) s.daemon.routed es r) :
    ∀ p ∈ acceptedIn es, wire p.2 r.env.sent =
      (framesTo p.1 (answersAmong J (decide (.debugRoute ∈ options)) []
        (happenings (unreadStreams streams) es))).flatMap Frame.bytes := by
  intro p hp
  have hcount : decide (options.count .debugRoute ≠ 0) = decide (.debugRoute ∈ options) := by
    rw [decide_eq_decide, ne_eq, List.count_eq_zero, not_not]
  rw [(start_ok h).1] at hrun
  have hattends := Attends.of_run htakes hdelivers hsent hframes hrun
  rw [hattends.sent p hp, deliveriesAmong_answers, hcount]

end DebugRoute

/-! The configuration that comes with it, and a client whose request is for nobody. -/

def defaultConfig : Bytes :=
  ascii "\x7b\"listeners\":[\x7b\"uri\":\"tcp://127.0.0.1:10001\"\x7d]\x7d"

/-- A library that reads this text. -/
def configLib : CJsonLib where
  parse text := if text = defaultConfig
    then some (.object [(ascii "listeners",
      .array [.object [(ascii "uri", .string (ascii "tcp://127.0.0.1:10001"))]])]) else none
  print _ := defaultConfig

/-- A system in which everything succeeds. -/
def willing : StartupAnswers where
  pidFile := none
  flock := none
  daemon := none
  stat _ := true
  fopen _ := some defaultConfig
  listener n := ⟨.ok (n + 4), none, none⟩

theorem defaultConfig_read : readConfig defaultConfig = .ok defaultConfig := by
  rw [readConfig_eq (by decide), if_pos (by decide)]

theorem loopback_length : ([127, 0, 0, 1] : Bytes).length = 4 := rfl

def loopbackEndpoint : SockaddrStorage :=
  ⟨.inet, 10001, ⟨[127, 0, 0, 1], loopback_length⟩, .zero 16, .zero 108⟩

theorem defaultConfig_bound :
    rtRoutedParseConfig configLib loopbackLib willing (ascii "/etc/rtrouted.conf") ⟨[], []⟩ =
      .ok ⟨[⟨4, loopbackEndpoint⟩], [4]⟩ := by
  have haddr : TcpAddress (cstr (ascii "tcp://127.0.0.1:10001")) (ascii "127.0.0.1")
      (ascii "10001") := ⟨by decide, by decide⟩
  have hparse : rtSocketStorageFromString loopbackLib .zero (ascii "tcp://127.0.0.1:10001") =
      .ok (.ok, loopbackEndpoint) := run_tcp_short haddr (by decide)
  have hbind : rtRoutedBindListener loopbackLib willing (some (ascii "tcp://127.0.0.1:10001")) true
      ⟨[], []⟩ = .ok ⟨[⟨4, loopbackEndpoint⟩], [4]⟩ := by
    rw [rtRoutedBindListener]
    dsimp only
    rw [hparse]
    rfl
  rw [rtRoutedParseConfig, if_neg (by decide), if_neg (fun h => h rfl)]
  change (ofCall (readConfig defaultConfig) >>= _) = _
  rw [defaultConfig_read]
  change (rtRoutedBindListener loopbackLib willing (some (ascii "tcp://127.0.0.1:10001")) true
    ⟨[], []⟩ >>= fun s => .ok s) = _
  rw [hbind]
  rfl

/-- Whether with a debug route or not, the router listens at the configured address. -/
theorem defaultConfig_started (debugRoute : Bool) (os : Os) :
    ∃ s, mainStart configLib loopbackLib willing (if debugRoute then [.debugRoute] else []) os =
      .ok s ∧ s.daemon.listeners.map (·.localEndpoint.port) = [10001] := by
  have hstart : ∀ options settings, options.foldlM Settings.read .start = .ok settings →
      settings.socketName = none → settings.configFile = ascii "/etc/rtrouted.conf" →
      mainStart configLib loopbackLib willing options os =
        .ok ⟨⟨[⟨4, loopbackEndpoint⟩], ⟨[], settings.routes, settings.nextPtr, os⟩⟩, [4]⟩ := by
    intro options settings hoptions hsocket hfile
    rw [mainStart, if_neg (by decide), if_neg (by decide), hoptions]
    change (if !settings.runInForeground && false then _ else _) = _
    rw [Bool.and_false, if_neg Bool.false_ne_true, bindSocketName, hsocket, hfile]
    dsimp only
    rw [ok_bind, defaultConfig_bound]
    rfl
  cases debugRoute with
  | true => exact ⟨_, hstart [.debugRoute] _ rfl rfl rfl, rfl⟩
  | false => exact ⟨_, hstart [] _ rfl rfl rfl, rfl⟩

theorem router_starts_example : ∃ s : Started,
    mainStart configLib loopbackLib willing [] closingOs = .ok s ∧
    s.daemon.routed = startRouter 0 closingOs ∧
    ∀ turns d, Run (TurnStep configLib) s.daemon turns d → d.listeners = s.daemon.listeners := by
  obtain ⟨s, hs, -⟩ := defaultConfig_started false closingOs
  have hfresh : ∀ i j fd, (willing.listener i).socket = .ok fd →
      (willing.listener j).socket = .ok fd → i = j := by
    intro i j fd hi hj
    cases hi
    exact (Nat.add_right_cancel (Except.ok.inj hj)).symm
  obtain ⟨hrouted, -, -, -, hrun⟩ := router_starts configLib loopbackLib willing hfresh hs
  exact ⟨s, hs, hrouted, fun turns d hturns => (hrun turns d hturns).1⟩

def askingFrame : Frame := { exampleFrame with flags := rtMessageFlagsRequest }

/-- Who connects asks for something that nobody has subscribed to. -/
def askingStreams : Nat → List Frame := fun _ => [askingFrame]

theorem askingStreams_admissible (J : CJsonLib) (ptr : Nat) :
    ∀ f ∈ askingStreams ptr, f.Admissible J := by
  intro f hf
  rw [List.mem_singleton.mp hf]
  exact frame_admissible (by decide) (by decide) (by decide) (by decide)

theorem asking_read (debugRoutes : Nat) : ∃ es r,
    Run (MemberStep configLib askingStreams) (startRouter debugRoutes quietOs)
      ([.accepted (debugRoutes + 1) 1] ++ es) r ∧
    happenings (unreadStreams askingStreams) ([.accepted (debugRoutes + 1) 1] ++ es) =
      [.frame (debugRoutes + 1) askingFrame] := by
  have haccepted : Run (MemberStep configLib askingStreams) (startRouter debugRoutes quietOs)
      [.accepted (debugRoutes + 1) 1] _ := .single .accept
  have hattends := Attends.of_run (fun _ => rfl) (fun _ => ⟨8191, rfl⟩) rfl
    (askingStreams_admissible configLib) haccepted
  obtain ⟨es, r, hread, -, -, -, hdone⟩ :=
    hattends.drain (askingStreams_admissible configLib) List.mem_cons_self
  exact ⟨es, r, haccepted.trans hread, hdone⟩

/-- A router, with the option or without, reads that request and sends this. -/
def AskingAnswered (debugRoute : Bool) (answer : Bytes) : Prop :=
  ∃ (s : Started) (client : Nat) (es : List MemberEvent) (r : RtRouted Os),
    mainStart configLib loopbackLib willing (if debugRoute then [.debugRoute] else []) quietOs =
      .ok s ∧
    Run (MemberStep configLib askingStreams) s.daemon.routed es r ∧
    happenings (unreadStreams askingStreams) es = [.frame client askingFrame] ∧
    wire 1 r.env.sent = answer

theorem debug_route_refuses_nothing_example :
    AskingAnswered true [] ∧ AskingAnswered false (refusalFrame configLib askingFrame).bytes := by
  suffices hall : ∀ debugRoute, AskingAnswered debugRoute
      (if debugRoute then [] else (refusalFrame configLib askingFrame).bytes) from
    ⟨hall true, hall false⟩
  intro debugRoute
  obtain ⟨s, hs, -⟩ := defaultConfig_started debugRoute quietOs
  obtain ⟨es, r, hrun, hread⟩ := asking_read (if debugRoute then 1 else 0)
  have hrouted : s.daemon.routed = startRouter (if debugRoute then 1 else 0) quietOs := by
    rw [(start_ok hs).1]
    cases debugRoute <;> rfl
  rw [← hrouted] at hrun
  refine ⟨s, _, _, r, hs, hrun, hread, ?_⟩
  have hsent := debug_route_refuses_nothing configLib loopbackLib willing hs (fun _ => rfl)
    (fun _ => ⟨8191, rfl⟩) rfl (askingStreams_admissible configLib) hrun _ List.mem_cons_self
  rw [hread] at hsent
  refine hsent.trans ?_
  cases debugRoute with
  | true => rfl
  | false => exact List.append_nil _

end RtMessage
