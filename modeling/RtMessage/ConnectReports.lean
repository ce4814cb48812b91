import RtMessage.SendingTasks

/- What `rtConnection_ConnectAndRegister` reports.

   The connect loop is left by a connect that succeeds and by the fourth refusal, and which of
   the two it was is not looked at: with a socket the call returns `RT_OK`. The SUBSCRIBEs it
   sends can find the new connection lost in turn, and then the descriptor that is left is that
   of the reconnect made last, or none if that got no socket. So the report is true exactly when
   that last reconnect was answered by a connect that succeeded (`connect_reports_iff`). -/
namespace RtMessage
open Lib

/-- The last connect on the descriptor of the connection succeeded. -/
def LastConnectSucceeded (con : RtConnection) (evs : List ConnectEvent) : Prop :=
  ∃ sock, con.fd = some sock ∧ (evs.filter fun ev => ev.sock = sock).getLast? = some ⟨sock, none⟩

/-- Whenever the call returns: `RT_OK` says that the last connect on the descriptor succeeded,
    and no success among its connects is an error. -/
def ConnectReports (J : CJsonLib) (con : RtConnection) (os : Os) : Prop :=
  ∀ fuel e con' os', sendReconnect J fuel con os = .ok (e, con', os') →
    (e = .ok → LastConnectSucceeded con' (reconnectEvents J fuel con os)) ∧
      ((∀ ev ∈ reconnectEvents J fuel con os, ev.answer ≠ none) → e ≠ .ok)

/-- The reconnect made last, of those that the answers lead to, got a socket, and one of its
    connects succeeded. -/
def LastDialConnects (J : CJsonLib) (con : RtConnection) (os : Os) : Prop :=
  ∀ ds opened net, Completes con.remoteFamily (subscribeTasks J con.listeners) [.reconnect]
    con.fd.isSome os.network ds opened net →
      opened = true ∧ ∃ as, ds.getLast? = some as ∧ none ∈ as

theorem Dials.succeeded_iff {left : Nat} {s : Stream' (Option Errno)} {as : List (Option Errno)}
    (h : Dials left s as) : none ∈ as ↔ as.getLast? = some none := by
  induction h with
  | exhausted => simp
  | connected _ => simp
  | @refused left s as _ hrest ih =>
    cases as with
    | nil => simp
    | cons a as => simpa using ih
  | @retried left s e as _ _ hrest ih =>
    cases as with
    | nil => cases hrest
    | cons a as => simpa using ih

theorem Completes.dials {family : AddressFamily} {again ts : List Task} {opened opened' : Bool}
    {net net' : Network} {ds : List (List (Option Errno))}
    (h : Completes family again ts opened net ds opened' net') : ∀ as ∈ ds, ∃ s, Dials 4 s as := by
  induction h with
  | done => exact fun as has => by cases has
  | closed _ ih => exact ih
  | kept _ _ ih => exact ih
  | lost _ _ ih => exact ih
  | noSocket _ _ _ ih => exact ih
  | dialled _ _ hdials _ ih =>
    intro as has
    rcases List.mem_cons.mp has with heq | hmem
    · exact ⟨_, heq ▸ hdials⟩
    · exact ih as hmem

section Reports
variable {J : CJsonLib} {con con' : RtConnection} {os os' : Os}
  {ds : List (List (Option Errno))} {evs : List ConnectEvent}

theorem WorksOff.lastConnect_iff (h : WorksOff J [.reconnect] con os ds evs con' os')
    (hne : ds ≠ []) :
    LastConnectSucceeded con' evs ↔
      con'.fd.isSome = true ∧ ∃ as, ds.getLast? = some as ∧ none ∈ as := by
  have hlen : 0 < ds.length := List.length_pos_of_ne_nil hne
  obtain ⟨as, hlast⟩ : ∃ as, ds.getLast? = some as := Option.isSome_iff_exists.mp (by simpa using hne)
  obtain ⟨s, hdials⟩ := h.completes.dials as (List.mem_of_getLast? hlast)
  -- the connects on the descriptor are those of the last reconnect
  have hfilter : ∀ sock, con'.fd = some sock →
      evs.filter (fun ev => ev.sock = sock) = as.map (ConnectEvent.mk sock) := by
    intro sock hsock
    rcases h.fd sock hsock with ⟨hnil, -⟩ | ⟨-, hnext⟩
    · exact absurd hnil hne
    · rw [h.nextSock] at hnext
      have hindex : sock - os.nextSock = ds.length - 1 := by omega
      rw [h.events, numbered_filter, if_pos (by omega), hindex, ← List.getLast?_eq_getElem?, hlast]
      rfl
  have hsuccess : ∀ sock, (as.map (ConnectEvent.mk sock)).getLast? = some ⟨sock, none⟩ ↔
      none ∈ as := by
    intro sock
    rw [hdials.succeeded_iff, List.getLast?_map]
    cases as.getLast? <;> simp
  constructor
  · rintro ⟨sock, hsock, hconnect⟩
    rw [hfilter sock hsock] at hconnect
    exact ⟨by rw [hsock]; rfl, as, hlast, (hsuccess sock).mp hconnect⟩
  · rintro ⟨hsome, as', hlast', hmem⟩
    obtain ⟨sock, hsock⟩ := Option.isSome_iff_exists.mp hsome
    cases hlast.symm.trans hlast'
    refine ⟨sock, hsock, ?_⟩
    rw [hfilter sock hsock]
    exact (hsuccess sock).mpr hmem

theorem WorksOff.dials_ne_nil (h : WorksOff J [.reconnect] con os ds evs con' os')
    (hsocket : os.sockets.head = none) : ds ≠ [] := by
  cases h.completes with
  | noSocket _ hnone _ => cases hsocket.symm.trans hnone
  | dialled _ _ _ _ => exact List.cons_ne_nil _ _

/-- A reconnect that can be worked off is a run, and this is what it was. -/
theorem Completes.reconnect_run {opened : Bool} {net : Network}
    (h : Completes con.remoteFamily (subscribeTasks J con.listeners) [.reconnect] con.fd.isSome
      os.network ds opened net) :
    ∃ fuel e con' os', sendReconnect J fuel con os = .ok (e, con', os') ∧
      con'.fd.isSome = opened ∧
      WorksOff J [.reconnect] con os ds (reconnectEvents J fuel con os) con' os' := by
  obtain ⟨fuel, e, con', os', _, hre, -⟩ := (h.returns con os rfl rfl rfl rfl).2 [] rfl
  obtain ⟨ds', hworks⟩ := (worksOff J fuel).2 con os e con' os' hre
  obtain ⟨rfl, hopened, -⟩ := h.unique hworks.completes
  exact ⟨fuel, e, con', os', hre, hopened.symm, hworks⟩

end Reports

/-- **When the report is true**: there is no socket, or the reconnect made last connects. -/
theorem connect_reports_iff (J : CJsonLib) (con : RtConnection) (os : Os) :
    ConnectReports J con os ↔ (os.sockets.head = none → LastDialConnects J con os) := by
  constructor
  · intro hreports hsocket ds opened net h
    obtain ⟨fuel, e, con', os', hre, hopened, hworks⟩ := h.reconnect_run
    have hok : e = .ok := (sendReconnect_failed hre).1.mpr hsocket
    have hlast := (hreports fuel e con' os' hre).1 hok
    rw [← hopened]
    exact (hworks.lastConnect_iff (hworks.dials_ne_nil hsocket)).mp hlast
  · intro hcond fuel e con' os' hre
    obtain ⟨ds, hworks⟩ := (worksOff J fuel).2 con os e con' os' hre
    by_cases hsocket : os.sockets.head = none
    · have hlast := (hworks.lastConnect_iff (hworks.dials_ne_nil hsocket)).mpr
        (hcond hsocket ds _ _ hworks.completes)
      refine ⟨fun _ => hlast, fun hnone _ => ?_⟩
      obtain ⟨sock, -, hconnect⟩ := hlast
      have hmem := (List.mem_filter.mp (List.mem_of_getLast? hconnect)).1
      exact hnone _ hmem rfl
    · have hne : e ≠ .ok := fun hok => hsocket ((sendReconnect_failed hre).1.mp hok)
      exact ⟨fun hok => absurd hok hne, fun _ => hne⟩

/-- A router that refuses every connection. -/
def refusingRouter : Os :=
  { Os.idle (Stream'.const .complete) with connects := Stream'.const (some .ECONNREFUSED) }

theorem refused_reported_connected :
    ¬ ∀ (J : CJsonLib) (con : RtConnection) (os : Os), ConnectReports J con os := by
  intro hclaim
  let J := CJsonLib.unused
  have hfree : subscribeTasks J openConnection.listeners = [] := rfl
  have hdials : Dials 4 refusingRouter.network.connects
      (List.replicate 4 (some .ECONNREFUSED)) :=
    .refused rfl (.refused rfl (.refused rfl (.refused rfl .exhausted)))
  obtain ⟨net, hcompletes⟩ : ∃ net, Completes openConnection.remoteFamily
      (subscribeTasks J openConnection.listeners) [.reconnect] openConnection.fd.isSome
      refusingRouter.network [List.replicate 4 (some .ECONNREFUSED)] true net := by
    rw [hfree]
    exact ⟨_, .dialled (fun h => by cases h) rfl hdials .done⟩
  obtain ⟨fuel, e, con', os', hre, -, hworks⟩ := hcompletes.reconnect_run
  have hok : e = .ok := (sendReconnect_failed hre).1.mpr rfl
  have hlast := (hclaim J openConnection refusingRouter fuel e con' os' hre).1 hok
  obtain ⟨-, as, has, hmem⟩ := (hworks.lastConnect_iff (List.cons_ne_nil _ _)).mp hlast
  cases has
  exact absurd hmem (by decide)

end RtMessage
