import Mathlib.Data.Finset.Card
import Mathlib.Data.List.Sort
import XnetZt.Lib.IdentityScope
import XnetZt.Lib.Run
import XnetZt.Lib.Text

/-!
# The last activated network

The flag `LAST_ACTIVATED` of a network is written by the list of networks, which clears
it in every network it shows before it sets it in the selected one, and by the service,
which writes a network back whole when its name may have changed. Both hold objects that
stand for rows, and the identity scope between them is emptied from several places. The
flag is kept right by two facts: what the service gets from the scope agrees with its
row, and a flagged row is always one that the list shows, or the list is empty.

The first of these depends on the library: a network that is written back takes the place
of another object for it in the scope. It is an assumption about the parameter `attach`.
-/

namespace XnetZt

namespace NetworkStore

open Run

/-- The entity `Network`, as far as it changes after it has been inserted. -/
structure Network where
  networkId : BitVec 64
  networkName : Option Text
  lastActivated : Bool
  deriving DecidableEq

def Network.setLastActivated (lastActivated : Bool) (network : Network) : Network :=
  { network with lastActivated := lastActivated }

def Network.setNetworkName (networkName : Text) (network : Network) : Network :=
  { network with networkName := some networkName }

/-- The name of a configuration replaces the old one if it is not empty. -/
def Network.renamed (networkName : Option Text) (network : Network) : Network :=
  match networkName with
  | none => network
  | some networkName => if networkName = [] then network else network.setNetworkName networkName

abbrev DaoSession := Session (BitVec 64) Network

/-- The session of the application and the list of networks of the user interface. -/
structure Store where
  daoSession : DaoSession
  mNetworks : List ℕ

/-- The application has started on a database. -/
def Store.opened (rows : List Network) : Store := ⟨.opened rows, []⟩

inductive VirtualNetworkConfigOperation
  | up
  | configUpdate
  | down
  | destroy
  deriving DecidableEq

/-- The active network of the device, and whether mobile data may be used. -/
structure Connection where
  isConnectedOrConnecting : Bool
  isMobile : Bool
  useCellularData : Bool

def Connection.usable (c : Connection) : Bool :=
  c.isConnectedOrConnecting && (c.useCellularData || !c.isMobile)

/-- How a start of the service without a network id can fail. -/
inductive StartError
  | noLastActivated
  | databaseIsInconsistent
  deriving DecidableEq

section Operations

variable (attach : Attachment (BitVec 64)) (s : Store)

/-- `queryBuilder().where(NetworkId.eq(networkId)).list()` -/
def queryById (session : DaoSession) (networkId : BitVec 64) : List ℕ × DaoSession :=
  session.load Network.networkId (session.rows.filter (·.networkId = networkId))

/-- `queryBuilder().orderAsc(NetworkId).list()`, after the scope has been emptied. -/
def getNetworkList : List ℕ × DaoSession :=
  let session := s.daoSession.clear
  session.load Network.networkId
    (session.rows.insertionSort fun a b => a.networkId.toInt ≤ b.networkId.toInt)

def updateNetworkList : Store := ⟨(getNetworkList s).2, (getNetworkList s).1⟩

/-- The button of `JoinNetworkFragment`. Custom DNS servers are stored before, with an empty
scope; when the configuration cannot be inserted, the network is not. -/
def join (networkId : BitVec 64) (customDns configInserted : Bool) : Store :=
  let (found, session) := queryById s.daoSession networkId
  if found ≠ [] then { s with daoSession := session }
  else
    let session := if customDns then session.clear else session
    if configInserted then
      { s with daoSession := session.insert Network.networkId ⟨networkId, none, false⟩ }
    else { s with daoSession := session }

def delete (networkId : BitVec 64) : Store :=
  updateNetworkList
    { s with daoSession := (s.daoSession.delete Network.networkId networkId).clear }

def onNetworkListCheckedChangeEvent (selectedNetwork : ℕ) (checked : Bool)
    (connection : Connection) : Store :=
  if checked && connection.usable then
    let session := s.mNetworks.foldl (fun session network =>
      session.save Network.networkId attach network (Network.setLastActivated false)) s.daoSession
    { s with
      daoSession := session.save Network.networkId attach selectedNetwork
        (Network.setLastActivated true) }
  else s

/-- The lookup of `onStartCommand` for an intent without a network id. -/
def onStartCommand : Except StartError ℕ × Store :=
  let session := s.daoSession.clear
  let (lastActivatedNetworks, session) := session.load Network.networkId
    (session.rows.filter (·.lastActivated))
  let s := { s with daoSession := session }
  match lastActivatedNetworks with
  | [] => (.error .noLastActivated, s)
  | [network] => (.ok network, s)
  | _ => (.error .databaseIsInconsistent, s)

/-- An update writes the network back, under its new name if there is one. -/
def onNetworkConfigurationUpdated (networkId : BitVec 64) (op : VirtualNetworkConfigOperation)
    (networkName : Option Text) : Store :=
  match queryById s.daoSession networkId with
  | ([network], session) =>
    match op with
    | .configUpdate =>
      { s with
        daoSession := session.save Network.networkId attach network (Network.renamed networkName) }
    | _ => { s with daoSession := session }
  -- the exception leaves what the query has loaded
  | (_, session) => { s with daoSession := session }

end Operations

inductive Action
  | join (networkId : BitVec 64) (customDns configInserted : Bool)
  | delete (networkId : BitVec 64)
  | updateNetworkList
  | checkedChange (selectedNetwork : ℕ) (checked : Bool) (connection : Connection)
  | startCommand
  | configurationUpdated (networkId : BitVec 64) (op : VirtualNetworkConfigOperation)
      (networkName : Option Text)
  | collect (networkId : BitVec 64)

/-- The network id of an object. -/
def idOf (session : DaoSession) (o : ℕ) : Option (BitVec 64) :=
  session.objects[o]?.map Network.networkId

/-- The list shows the network of this object, be it this object or another one. -/
def Store.Shows (s : Store) (o : ℕ) (networkId : BitVec 64) : Prop :=
  idOf s.daoSession o = some networkId ∧
    ∃ shown ∈ s.mNetworks, idOf s.daoSession shown = some networkId

instance (s : Store) (o : ℕ) (networkId : BitVec 64) : Decidable (s.Shows o networkId) :=
  inferInstanceAs (Decidable (_ ∧ _))

/-- There is a switch for the networks on the list only. -/
def step (attach : Attachment (BitVec 64)) (s : Store) : Action → Store
  | .join networkId customDns configInserted => join s networkId customDns configInserted
  | .delete networkId => delete s networkId
  | .updateNetworkList => updateNetworkList s
  | .checkedChange selectedNetwork checked connection =>
    match idOf s.daoSession selectedNetwork with
    | none => s
    | some networkId =>
      if s.Shows selectedNetwork networkId then
        onNetworkListCheckedChangeEvent attach s selectedNetwork checked connection
      else s
  | .startCommand => (onStartCommand s).2
  | .configurationUpdated networkId op networkName =>
    onNetworkConfigurationUpdated attach s networkId op networkName
  | .collect networkId => { s with daoSession := s.daoSession.collect networkId }

/-! ### Networks and flags -/

/-- The networks of the database. -/
def ids (session : DaoSession) : List (BitVec 64) := session.rows.map Network.networkId

/-- The networks whose flag is set. -/
def activated (session : DaoSession) : List (BitVec 64) :=
  (session.rows.filter (·.lastActivated)).map Network.networkId

@[simp] theorem networkId_renamed (networkName : Option Text) (n : Network) :
    (n.renamed networkName).networkId = n.networkId := by
  unfold Network.renamed
  split
  · rfl
  · split_ifs <;> rfl

@[simp] theorem lastActivated_renamed (networkName : Option Text) (n : Network) :
    (n.renamed networkName).lastActivated = n.lastActivated := by
  unfold Network.renamed
  split
  · rfl
  · split_ifs <;> rfl

section Flags

variable {session : DaoSession} {id : BitVec 64} {attach : Attachment (BitVec 64)}

theorem mem_ids : id ∈ ids session ↔ ∃ row ∈ session.rows, row.networkId = id := by
  simp [ids]

theorem mem_activated : id ∈ activated session ↔
    ∃ row ∈ session.rows, row.lastActivated = true ∧ row.networkId = id := by
  simp [activated, and_assoc]

theorem nodup_activated (h : session.Coherent Network.networkId) : (activated session).Nodup :=
  h.nodup.sublist (List.filter_sublist.map _)

theorem length_activated_le_one_iff (h : session.Coherent Network.networkId) :
    (activated session).length ≤ 1 ↔
      ∀ id ∈ activated session, ∀ id' ∈ activated session, id = id' := by
  rw [← List.toFinset_card_of_nodup (nodup_activated h), Finset.card_le_one]
  simp only [List.mem_toFinset]

theorem activated_eq_singleton_iff (h : session.Coherent Network.networkId) :
    activated session = [id] ↔ ∀ id', id' ∈ activated session ↔ id' = id := by
  rw [← List.perm_singleton, List.perm_ext_iff_of_nodup (nodup_activated h)
    (List.nodup_singleton _)]
  simp only [List.mem_singleton]

theorem idOf_save {f : Network → Network} (hf : ∀ n, (f n).networkId = n.networkId) (o o' : ℕ) :
    idOf (session.save Network.networkId attach o f) o' = idOf session o' := by
  unfold idOf
  rw [Session.objects_save, List.getElem?_modify]
  cases session.objects[o']? with
  | none => rfl
  | some n =>
    split_ifs
    · exact congrArg some (hf n)
    · rfl

theorem idOf_load (rows : List Network) {o : ℕ} (h : idOf session o = some id) :
    idOf (session.load Network.networkId rows).2 o = some id := by
  obtain ⟨n, hn, hid⟩ := Option.map_eq_some_iff.mp h
  rw [idOf, Session.getElem?_load rows hn, Option.map_some, hid]

theorem ids_save (o : ℕ) (f : Network → Network) :
    ids (session.save Network.networkId attach o f) = ids session := by
  cases ho : session.objects[o]? with
  | none => rw [Session.save_of_none ho]
  | some n =>
    rw [ids, Session.rows_save ho, List.map_map]
    refine List.map_congr_left fun row _ => ?_
    simp only [Function.comp_apply]
    split_ifs with h
    · exact h.symm
    · rfl

/-- What writing the flag of an object does to the flags of the rows. -/
theorem mem_activated_save {o : ℕ} {selected : BitVec 64} (ho : idOf session o = some selected)
    (flag : Bool) :
    id ∈ activated (session.save Network.networkId attach o (Network.setLastActivated flag)) ↔
      if id = selected then flag = true ∧ id ∈ ids session else id ∈ activated session := by
  obtain ⟨n, hn, rfl⟩ := Option.map_eq_some_iff.mp ho
  simp only [mem_activated, mem_ids, Session.rows_save hn, List.mem_map,
    exists_exists_and_eq_and]
  have hid : (n.setLastActivated flag).networkId = n.networkId := rfl
  split_ifs with h
  · subst h
    constructor
    · rintro ⟨row, hrow, hset, heq⟩
      split_ifs at hset heq with hk
      · exact ⟨hset, row, hrow, hk⟩
      · exact absurd heq hk
    · rintro ⟨hset, row, hrow, heq⟩
      refine ⟨row, hrow, ?_⟩
      rw [if_pos (heq.trans hid.symm)]
      exact ⟨hset, rfl⟩
  · refine exists_congr fun row => and_congr_right fun _ => ?_
    split_ifs with hk
    · have hrow : row.networkId = n.networkId := hk
      constructor
      · rintro ⟨-, heq⟩
        exact absurd heq.symm h
      · rintro ⟨-, heq⟩
        exact absurd (heq.symm.trans hrow) h
    · rfl

/-- Writing back an attached object under a new name keeps the flags. -/
theorem activated_save_attached (attach : Attachment (BitVec 64)) {o : ℕ} {row : Network}
    (hrow : row ∈ session.rows) (ho : session.objects[o]? = some row)
    (hcoherent : session.Coherent Network.networkId)
    {f : Network → Network} (hid : ∀ n, (f n).networkId = n.networkId)
    (hflag : ∀ n, (f n).lastActivated = n.lastActivated) :
    activated (session.save Network.networkId attach o f) = activated session := by
  have hsame : ∀ r ∈ session.rows,
      (if r.networkId = (f row).networkId then f row else r).networkId = r.networkId ∧
      (if r.networkId = (f row).networkId then f row else r).lastActivated = r.lastActivated := by
    intro r hr
    split_ifs with h
    · have heq : r = row := hcoherent.row_eq hr hrow (h.trans (hid row))
      rw [hid, hflag, heq]
      exact ⟨rfl, rfl⟩
    · exact ⟨rfl, rfl⟩
  rw [activated, activated, Session.rows_save ho, List.filter_map, List.map_map]
  have hfilter : session.rows.filter ((fun n => n.lastActivated) ∘ fun r =>
      if r.networkId = (f row).networkId then f row else r) =
      session.rows.filter (·.lastActivated) :=
    List.filter_congr fun r hr => (hsame r hr).2
  rw [hfilter]
  exact List.map_congr_left fun r hr => (hsame r (List.mem_of_mem_filter hr)).1

end Flags

/-! ### The invariant -/

/-- The scope agrees with the rows, at most one flag is set, the list shows networks of the
database, and, unless it is empty, the one whose flag is set. -/
structure Store.Consistent (s : Store) : Prop where
  coherent : s.daoSession.Coherent Network.networkId
  unique : ∀ id ∈ activated s.daoSession, ∀ id' ∈ activated s.daoSession, id = id'
  listed : ∀ o ∈ s.mNetworks, ∃ id ∈ ids s.daoSession, idOf s.daoSession o = some id
  shown : s.mNetworks ≠ [] → ∀ id ∈ activated s.daoSession, ∃ o ∈ s.mNetworks,
    idOf s.daoSession o = some id

namespace Store.Consistent

variable {s : Store} {attach : Attachment (BitVec 64)}

/-- An operation that leaves the flags and loses neither networks nor objects. -/
theorem of_session (h : s.Consistent) {session : DaoSession}
    (hcoherent : session.Coherent Network.networkId)
    (hids : ∀ id ∈ ids s.daoSession, id ∈ ids session)
    (hactivated : activated session = activated s.daoSession)
    (hobjects : ∀ o id, idOf s.daoSession o = some id → idOf session o = some id) :
    Consistent { s with daoSession := session } := by
  refine ⟨hcoherent, ?_, ?_, ?_⟩
  · rw [hactivated]
    exact h.unique
  · intro o ho
    obtain ⟨id, hid, heq⟩ := h.listed o ho
    exact ⟨id, hids id hid, hobjects o id heq⟩
  · intro hne id hid
    rw [hactivated] at hid
    obtain ⟨o, ho, heq⟩ := h.shown hne id hid
    exact ⟨o, ho, hobjects o id heq⟩

/-- A query that is answered from the rows. -/
theorem load (h : s.Consistent) {session : DaoSession}
    (hcoherent : session.Coherent Network.networkId) (hrows : session.rows = s.daoSession.rows)
    (hobjects : session.objects = s.daoSession.objects) {rows : List Network}
    (hsub : ∀ row ∈ rows, row ∈ session.rows) :
    Consistent { s with daoSession := (session.load Network.networkId rows).2 } := by
  have hload := (hcoherent.load hsub).1
  apply h.of_session hload
  · intro id hid
    rw [ids, Session.rows_load, hrows]
    exact hid
  · rw [activated, Session.rows_load, hrows]
    rfl
  · intro o id hid
    apply idOf_load
    rw [idOf, hobjects]
    exact hid

/-- A new list needs nothing of the old one. -/
theorem updateNetworkList (hsession : s.daoSession.Coherent Network.networkId)
    (hunique : ∀ id ∈ activated s.daoSession, ∀ id' ∈ activated s.daoSession, id = id') :
    (NetworkStore.updateNetworkList s).Consistent := by
  have hmem : ∀ row, row ∈ s.daoSession.clear.rows.insertionSort
      (fun a b => a.networkId.toInt ≤ b.networkId.toInt) ↔ row ∈ s.daoSession.clear.rows :=
    fun row => (List.perm_insertionSort _ _).mem_iff
  have hcoherent := hsession.clear
  have hsub := fun row hrow => (hmem row).mp hrow
  have hrows : (getNetworkList s).2.rows = s.daoSession.rows := Session.rows_load _
  refine ⟨(hcoherent.load hsub).1, ?_, ?_, ?_⟩
  · simp only [NetworkStore.updateNetworkList, activated, hrows]
    exact hunique
  · intro o ho
    obtain ⟨row, hrow, heq⟩ := hcoherent.exists_row hsub ho
    refine ⟨row.networkId, mem_ids.mpr ⟨row, ?_, rfl⟩, congrArg (Option.map _) heq⟩
    rw [NetworkStore.updateNetworkList, hrows]
    exact hsub row hrow
  · intro _ id hid
    obtain ⟨row, hrow, -, rfl⟩ := mem_activated.mp hid
    rw [NetworkStore.updateNetworkList, hrows] at hrow
    obtain ⟨o, ho, heq⟩ := hcoherent.exists_object hsub ((hmem row).mpr hrow)
    exact ⟨o, ho, congrArg (Option.map _) heq⟩

theorem delete (h : s.Consistent) (networkId : BitVec 64) :
    (NetworkStore.delete s networkId).Consistent := by
  refine updateNetworkList (h.coherent.delete networkId).clear ?_
  have hsub : ∀ id ∈ activated (s.daoSession.delete Network.networkId networkId).clear,
      id ∈ activated s.daoSession := by
    intro id hid
    obtain ⟨row, hrow, hflag, heq⟩ := mem_activated.mp hid
    exact mem_activated.mpr ⟨row, List.mem_of_mem_filter hrow, hflag, heq⟩
  exact fun id hid id' hid' => h.unique id (hsub id hid) id' (hsub id' hid')

theorem clear (h : s.Consistent) : Consistent { s with daoSession := s.daoSession.clear } :=
  h.of_session h.coherent.clear (fun _ hid => hid) rfl fun _ _ hid => hid

theorem collect (h : s.Consistent) (networkId : BitVec 64) :
    Consistent { s with daoSession := s.daoSession.collect networkId } :=
  h.of_session (h.coherent.collect networkId) (fun _ hid => hid) rfl fun _ _ hid => hid

theorem queryById (h : s.Consistent) (networkId : BitVec 64) :
    Consistent { s with daoSession := (NetworkStore.queryById s.daoSession networkId).2 } :=
  h.load h.coherent rfl rfl fun _ hrow => List.mem_of_mem_filter hrow

theorem insert (h : s.Consistent) {networkId : BitVec 64}
    (hnew : networkId ∉ ids s.daoSession) :
    Consistent { s with
      daoSession := s.daoSession.insert Network.networkId ⟨networkId, none, false⟩ } := by
  apply h.of_session
  · exact h.coherent.insert fun row hrow heq => hnew (mem_ids.mpr ⟨row, hrow, heq⟩)
  · intro id hid
    obtain ⟨row, hrow, heq⟩ := mem_ids.mp hid
    exact mem_ids.mpr ⟨row, List.mem_append_left _ hrow, heq⟩
  · simp [activated, Session.insert, Session.attachNew]
  · intro o id hid
    obtain ⟨n, hn, heq⟩ := Option.map_eq_some_iff.mp hid
    have hlt := (List.getElem?_eq_some_iff.mp hn).1
    rw [idOf, Session.insert, Session.attachNew, List.getElem?_append_left hlt, hn,
      Option.map_some, heq]

/-- A query without a result: there is no such network. -/
theorem notMem_ids_of_queryById (h : s.Consistent) {networkId : BitVec 64}
    (hnone : (NetworkStore.queryById s.daoSession networkId).1 = []) :
    networkId ∉ ids s.daoSession := by
  intro hmem
  obtain ⟨row, hrow, heq⟩ := mem_ids.mp hmem
  obtain ⟨o, ho, -⟩ := h.coherent.exists_object (fun _ hrow => List.mem_of_mem_filter hrow)
    (show row ∈ s.daoSession.rows.filter (·.networkId = networkId) by simp [hrow, heq])
  exact absurd (hnone ▸ ho : o ∈ []) List.not_mem_nil

theorem join (h : s.Consistent) (networkId : BitVec 64) (customDns configInserted : Bool) :
    (NetworkStore.join s networkId customDns configInserted).Consistent := by
  have hquery := h.queryById networkId
  simp only [NetworkStore.join]
  by_cases hfound : (NetworkStore.queryById s.daoSession networkId).1 = []
  · have hnew : networkId ∉ ids (NetworkStore.queryById s.daoSession networkId).2 := by
      rw [ids, NetworkStore.queryById, Session.rows_load]
      exact h.notMem_ids_of_queryById hfound
    rw [if_neg (not_not.mpr hfound)]
    cases configInserted with
    | false =>
      cases customDns with
      | false => exact hquery
      | true => exact hquery.clear
    | true =>
      cases customDns with
      | false => exact hquery.insert hnew
      | true => exact hquery.clear.insert hnew
  · rw [if_pos hfound]
    exact hquery

theorem onStartCommand (h : s.Consistent) : (NetworkStore.onStartCommand s).2.Consistent := by
  have hstate : (NetworkStore.onStartCommand s).2 =
      { s with
        daoSession := (s.daoSession.clear.load Network.networkId
          (s.daoSession.rows.filter (·.lastActivated))).2 } := by
    simp only [NetworkStore.onStartCommand]
    split <;> rfl
  rw [hstate]
  exact h.load h.coherent.clear rfl rfl fun _ hrow => List.mem_of_mem_filter hrow

/-- The service writes back what agrees with the row, so the flags stay. -/
theorem onNetworkConfigurationUpdated (h : s.Consistent) (hattach : attach.Replaces)
    (networkId : BitVec 64) (op : VirtualNetworkConfigOperation) (networkName : Option Text) :
    (NetworkStore.onNetworkConfigurationUpdated attach s networkId op networkName).Consistent ∧
      activated (NetworkStore.onNetworkConfigurationUpdated attach s networkId op
        networkName).daoSession = activated s.daoSession := by
  have hquery := h.queryById networkId
  have hrows : (NetworkStore.queryById s.daoSession networkId).2.rows = s.daoSession.rows :=
    Session.rows_load _
  have hkept : activated (NetworkStore.queryById s.daoSession networkId).2 =
      activated s.daoSession := by
    rw [activated, hrows]
    rfl
  have hobject : ∀ o ∈ (NetworkStore.queryById s.daoSession networkId).1,
      ∃ row ∈ s.daoSession.rows,
        (NetworkStore.queryById s.daoSession networkId).2.objects[o]? = some row := by
    intro o ho
    obtain ⟨row, hrow, heq⟩ :=
      h.coherent.exists_row (fun _ hrow => List.mem_of_mem_filter hrow) ho
    exact ⟨row, List.mem_of_mem_filter hrow, heq⟩
  unfold NetworkStore.onNetworkConfigurationUpdated
  generalize NetworkStore.queryById s.daoSession networkId = result at hquery hrows hkept hobject
  obtain ⟨networks, session⟩ := result
  dsimp only at hquery hrows hkept hobject
  split
  · rename_i network session' heq
    cases heq
    cases op with
    | configUpdate =>
      obtain ⟨row, hrow, hget⟩ := hobject network List.mem_cons_self
      have hsaved := activated_save_attached attach (hrows ▸ hrow) hget hquery.coherent
        (networkId_renamed networkName) (lastActivated_renamed networkName)
      refine ⟨hquery.of_session ?_ ?_ hsaved ?_, hsaved.trans hkept⟩
      · exact hquery.coherent.save hattach network (networkId_renamed networkName)
      · intro id hid
        rw [ids_save]
        exact hid
      · intro o id hid
        rw [idOf_save (networkId_renamed networkName)]
        exact hid
    | up => exact ⟨hquery, hkept⟩
    | down => exact ⟨hquery, hkept⟩
    | destroy => exact ⟨hquery, hkept⟩
  · rename_i heq
    cases heq
    exact ⟨hquery, hkept⟩

/-- Clearing the flags of the listed networks, one after the other. -/
theorem foldl_save (hattach : attach.Replaces) (networks : List ℕ) {session : DaoSession}
    (h : session.Coherent Network.networkId) :
    let session' := networks.foldl (fun session network =>
      session.save Network.networkId attach network (Network.setLastActivated false)) session
    session'.Coherent Network.networkId ∧ ids session' = ids session ∧
      (∀ o, idOf session' o = idOf session o) ∧
      ∀ id, id ∈ activated session' ↔
        id ∈ activated session ∧ ∀ o ∈ networks, idOf session o ≠ some id := by
  have hid : ∀ n, (Network.setLastActivated false n).networkId = n.networkId := fun _ => rfl
  induction networks generalizing session with
  | nil => simp [h]
  | cons network networks ih =>
    obtain ⟨hcoherent, hids, hobjects, hactivated⟩ := ih (h.save hattach network hid)
    refine ⟨hcoherent, by rw [List.foldl_cons, hids, ids_save], ?_, ?_⟩
    · intro o
      rw [List.foldl_cons, hobjects, idOf_save hid]
    · intro id
      rw [List.foldl_cons, hactivated]
      simp only [idOf_save hid, List.forall_mem_cons]
      cases hnetwork : idOf session network with
      | none =>
        have hnone : session.objects[network]? = none := Option.map_eq_none_iff.mp hnetwork
        rw [Session.save_of_none hnone]
        simp
      | some selected =>
        rw [mem_activated_save hnetwork]
        by_cases heq : id = selected
        · simp [heq]
        · simp [heq, Ne.symm heq]

/-- A completed toggle leaves exactly the flag of the selected network. -/
theorem onNetworkListCheckedChangeEvent (h : s.Consistent) (hattach : attach.Replaces)
    {selectedNetwork : ℕ} {networkId : BitVec 64} (hshows : s.Shows selectedNetwork networkId)
    {connection : Connection} (husable : connection.usable = true) :
    (NetworkStore.onNetworkListCheckedChangeEvent attach s selectedNetwork true
        connection).Consistent ∧
      activated (NetworkStore.onNetworkListCheckedChangeEvent attach s selectedNetwork true
        connection).daoSession = [networkId] := by
  obtain ⟨hselected, o, ho, hoid⟩ := hshows
  have hne : s.mNetworks ≠ [] := List.ne_nil_of_mem ho
  have hexists : networkId ∈ ids s.daoSession := by
    obtain ⟨id, hid, heq⟩ := h.listed o ho
    rw [hoid, Option.some.injEq] at heq
    rwa [heq]
  obtain ⟨hcoherent, hids, hobjects, hactivated⟩ := foldl_save hattach s.mNetworks h.coherent
  have hid : ∀ n, (Network.setLastActivated true n).networkId = n.networkId := fun _ => rfl
  simp only [NetworkStore.onNetworkListCheckedChangeEvent, husable, Bool.and_self, if_true]
  generalize s.mNetworks.foldl (fun session network =>
    session.save Network.networkId attach network (Network.setLastActivated false)) s.daoSession =
    session at hcoherent hids hobjects hactivated
  -- no flag is left before the last one is set
  have hempty : ∀ id, id ∉ activated session := by
    intro id hmem
    obtain ⟨hact, hnot⟩ := (hactivated id).mp hmem
    obtain ⟨o', ho', heq⟩ := h.shown hne id hact
    exact hnot o' ho' heq
  have hfinal : ∀ id, id ∈ activated (session.save Network.networkId attach selectedNetwork
      (Network.setLastActivated true)) ↔ id = networkId := by
    intro id
    rw [mem_activated_save ((hobjects selectedNetwork).trans hselected)]
    by_cases heq : id = networkId
    · simp [heq, hids, hexists]
    · simp [heq, hempty id]
  have hsaved := hcoherent.save hattach selectedNetwork hid
  refine ⟨⟨hsaved, ?_, ?_, ?_⟩, ?_⟩
  · intro id hmem id' hmem'
    rw [(hfinal id).mp hmem, (hfinal id').mp hmem']
  · intro o' ho'
    obtain ⟨id, hmem, heq⟩ := h.listed o' ho'
    refine ⟨id, ?_, ?_⟩
    · rw [ids_save, hids]
      exact hmem
    · rw [idOf_save hid, hobjects, heq]
  · intro _ id hmem
    rw [(hfinal id).mp hmem]
    refine ⟨o, ho, ?_⟩
    rw [idOf_save hid, hobjects, hoid]
  · exact (activated_eq_singleton_iff hsaved).mpr hfinal

theorem opened {rows : List Network} (hids : (rows.map Network.networkId).Nodup)
    (hflags : (rows.filter (·.lastActivated)).length ≤ 1) : (Store.opened rows).Consistent where
  coherent := Session.coherent_opened hids
  unique := by
    refine (length_activated_le_one_iff (Session.coherent_opened hids)).mp ?_
    rw [activated, List.length_map]
    exact hflags
  listed := nofun
  shown hne := absurd rfl hne

end Store.Consistent

/-! ### Runs -/

/-- The action switches this network on, and the event is handled to its end. -/
def Selects (s : Store) (networkId : BitVec 64) : Action → Prop
  | .checkedChange selectedNetwork checked connection =>
    checked = true ∧ connection.usable = true ∧ s.Shows selectedNetwork networkId
  | _ => False

/-- A toggle that completes, or nothing happens. -/
theorem step_checkedChange (attach : Attachment (BitVec 64)) (s : Store) (selectedNetwork : ℕ)
    (checked : Bool) (connection : Connection) :
    (∃ networkId, Selects s networkId (.checkedChange selectedNetwork checked connection) ∧
      step attach s (.checkedChange selectedNetwork checked connection) =
        onNetworkListCheckedChangeEvent attach s selectedNetwork true connection) ∨
    (∀ networkId, ¬ Selects s networkId (.checkedChange selectedNetwork checked connection)) ∧
      step attach s (.checkedChange selectedNetwork checked connection) = s := by
  by_cases h : ∃ networkId, Selects s networkId (.checkedChange selectedNetwork checked connection)
  · obtain ⟨networkId, rfl, husable, hshows⟩ := h
    refine Or.inl ⟨networkId, ⟨rfl, husable, hshows⟩, ?_⟩
    simp only [step, hshows.1, if_pos hshows]
  · refine Or.inr ⟨not_exists.mp h, ?_⟩
    simp only [step]
    split
    · rfl
    · rename_i networkId hid
      split_ifs with hshows
      · have hnot : ¬ (checked && connection.usable) = true := by
          rw [Bool.and_eq_true]
          rintro ⟨hchecked, husable⟩
          exact h ⟨networkId, hchecked, husable, hshows⟩
        rw [onNetworkListCheckedChangeEvent, if_neg hnot]
      · rfl

section Runs

variable {s : Store} {id : BitVec 64} {attach : Attachment (BitVec 64)}

theorem Store.Consistent.step (h : s.Consistent) (hattach : attach.Replaces) (a : Action) :
    (NetworkStore.step attach s a).Consistent := by
  cases a with
  | join networkId customDns configInserted => exact h.join networkId customDns configInserted
  | delete networkId => exact h.delete networkId
  | updateNetworkList => exact updateNetworkList h.coherent h.unique
  | checkedChange selectedNetwork checked connection =>
    rcases step_checkedChange attach s selectedNetwork checked connection with
      ⟨networkId, ⟨-, husable, hshows⟩, hstep⟩ | ⟨-, hstep⟩
    · rw [hstep]
      exact (h.onNetworkListCheckedChangeEvent hattach hshows husable).1
    · rw [hstep]
      exact h
  | startCommand => exact h.onStartCommand
  | configurationUpdated networkId op networkName =>
    exact (h.onNetworkConfigurationUpdated hattach networkId op networkName).1
  | collect networkId => exact h.collect networkId

theorem activated_step_of_selects (h : s.Consistent) (hattach : attach.Replaces) {a : Action}
    (hselects : Selects s id a) : activated (step attach s a).daoSession = [id] := by
  cases a with
  | checkedChange selectedNetwork checked connection =>
    obtain ⟨rfl, husable, hshows⟩ := hselects
    rcases step_checkedChange attach s selectedNetwork true connection with
      ⟨-, -, hstep⟩ | ⟨hnot, -⟩
    · rw [hstep]
      exact (h.onNetworkListCheckedChangeEvent hattach hshows husable).2
    · exact absurd ⟨rfl, husable, hshows⟩ (hnot id)
  | _ => exact hselects.elim

theorem activated_join (networkId : BitVec 64) (customDns configInserted : Bool) :
    activated (join s networkId customDns configInserted).daoSession = activated s.daoSession := by
  have hrows : (queryById s.daoSession networkId).2.rows = s.daoSession.rows :=
    Session.rows_load _
  simp only [join, activated]
  split_ifs <;> simp [Session.insert, Session.attachNew, Session.clear, hrows]

theorem mem_activated_delete {networkId : BitVec 64} :
    id ∈ activated (delete s networkId).daoSession ↔
      id ∈ activated s.daoSession ∧ id ≠ networkId := by
  have hrows : (delete s networkId).daoSession.rows =
      s.daoSession.rows.filter (·.networkId ≠ networkId) := Session.rows_load _
  simp only [mem_activated, hrows, List.mem_filter, decide_eq_true_eq]
  constructor
  · rintro ⟨row, ⟨hrow, hne⟩, hflag, rfl⟩
    exact ⟨⟨row, hrow, hflag, rfl⟩, hne⟩
  · rintro ⟨⟨row, hrow, hflag, rfl⟩, hne⟩
    exact ⟨row, ⟨hrow, hne⟩, hflag, rfl⟩

/-- The flag stays where it is until another toggle or the deletion of its network. -/
theorem activated_step_of_not (h : s.Consistent) (hattach : attach.Replaces)
    (hone : activated s.daoSession = [id]) {a : Action} (hselects : ∀ id', ¬ Selects s id' a)
    (hdelete : a ≠ .delete id) : activated (step attach s a).daoSession = [id] := by
  rw [← hone]
  cases a with
  | join networkId customDns configInserted => exact activated_join networkId _ _
  | delete networkId =>
    have hne : id ≠ networkId := fun heq => hdelete (heq ▸ rfl)
    rw [hone, step, activated_eq_singleton_iff (h.delete networkId).coherent]
    intro id'
    rw [mem_activated_delete, hone, List.mem_singleton]
    exact ⟨And.left, fun heq => ⟨heq, heq ▸ hne⟩⟩
  | updateNetworkList =>
    simp only [step, updateNetworkList, getNetworkList, activated, Session.rows_load, Session.clear]
  | checkedChange selectedNetwork checked connection =>
    rcases step_checkedChange attach s selectedNetwork checked connection with
      ⟨id', hyes, -⟩ | ⟨-, hstep⟩
    · exact absurd hyes (hselects id')
    · rw [hstep]
  | startCommand =>
    simp only [step, onStartCommand, activated]
    split <;> simp only [Session.rows_load, Session.clear]
  | configurationUpdated networkId op networkName =>
    exact (h.onNetworkConfigurationUpdated hattach networkId op networkName).2
  | collect networkId => rfl

/-- The query of `onStartCommand` has at most one result. -/
theorem onStartCommand_ne_inconsistent (h : s.Consistent) :
    (onStartCommand s).1 ≠ .error .databaseIsInconsistent := by
  have hlen : (s.daoSession.clear.load Network.networkId
      (s.daoSession.clear.rows.filter (·.lastActivated))).1.length ≤ 1 := by
    rw [(h.coherent.clear.load fun _ hrow => List.mem_of_mem_filter hrow).2.length_eq]
    have hone := (length_activated_le_one_iff h.coherent).mpr h.unique
    rwa [activated, List.length_map] at hone
  simp only [onStartCommand]
  split
  · simp
  · simp
  · rename_i hnil hsingle
    match hl : (s.daoSession.clear.load Network.networkId
      (s.daoSession.clear.rows.filter (·.lastActivated))).1 with
    | [] => exact absurd hl hnil
    | [o] => exact absurd hl (hsingle o)
    | _ :: _ :: _ => simp [hl] at hlen

end Runs

/-- At most one row has its flag set in every state, so a start never finds two; a completed
toggle leaves the selected network, until another toggle or its deletion. A network that is
written back takes the place of another object for it in the identity scope. -/
theorem lastActivated_unique (attach : Attachment (BitVec 64)) (hattach : attach.Replaces)
    (rows : List Network) (hids : (rows.map Network.networkId).Nodup)
    (hflags : (rows.filter (·.lastActivated)).length ≤ 1) (actions : List Action) :
    Throughout (step attach) (fun s => (activated s.daoSession).length ≤ 1 ∧
      (onStartCommand s).1 ≠ .error .databaseIsInconsistent) (.opened rows) actions ∧
    ∀ before toggle after networkId, actions = before ++ toggle :: after →
      Selects (before.foldl (step attach) (.opened rows)) networkId toggle →
      Along (step attach) (fun s a => (∀ id, ¬ Selects s id a) ∧ a ≠ .delete networkId)
        (step attach (before.foldl (step attach) (.opened rows)) toggle) after →
      activated (actions.foldl (step attach) (.opened rows)).daoSession = [networkId] := by
  have hopened := Store.Consistent.opened hids hflags
  have hstep : ∀ s a, Store.Consistent s → (step attach s a).Consistent :=
    fun _ a h => h.step hattach a
  constructor
  · exact (throughout_of_step hstep actions hopened).mono fun s h =>
      ⟨(length_activated_le_one_iff h.coherent).mpr h.unique, onStartCommand_ne_inconsistent h⟩
  · rintro before toggle after networkId rfl hselects hafter
    have hbefore := (throughout_of_step hstep before hopened).last
    rw [List.foldl_append, List.foldl_cons]
    have hkeep : ∀ s a, s.Consistent ∧ activated s.daoSession = [networkId] →
        (∀ id, ¬ Selects s id a) ∧ a ≠ .delete networkId →
        (step attach s a).Consistent ∧ activated (step attach s a).daoSession = [networkId] :=
      fun s a h hP => ⟨h.1.step hattach a, activated_step_of_not h.1 hattach h.2 hP.1 hP.2⟩
    exact (throughout_of_along hkeep
      ⟨hbefore.step hattach toggle, activated_step_of_selects hbefore hattach hselects⟩
      hafter).last.2

/-- The service has loaded the flagged network anew when another one is switched on, and an
update of the first one follows. -/
def reloaded : List Action :=
  [.updateNetworkList, .startCommand, .checkedChange 1 true ⟨true, false, false⟩,
    .configurationUpdated 1 .configUpdate (some ['h', 'o', 'm', 'e']), .join 3 false true]

theorem lastActivated_unique_reloaded :
    activated (reloaded.foldl (step fun scope k o => Function.update scope k (some o))
      (.opened [⟨1, none, true⟩, ⟨2, none, false⟩])).daoSession = [2] :=
  (lastActivated_unique _ (fun _ _ _ => rfl) [⟨1, none, true⟩, ⟨2, none, false⟩] (by decide)
    (by decide) reloaded).2
    [.updateNetworkList, .startCommand] (.checkedChange 1 true ⟨true, false, false⟩)
    [.configurationUpdated 1 .configUpdate (some ['h', 'o', 'm', 'e']), .join 3 false true] 2 rfl
    ⟨rfl, rfl, by decide +kernel⟩ ⟨⟨fun _ h => h, nofun⟩, ⟨fun _ h => h, nofun⟩, trivial⟩

-- an `update` that leaves the older object in the scope would bring its flag back
example : activated (reloaded.foldl (step fun scope _ _ => scope)
    (.opened [⟨1, none, true⟩, ⟨2, none, false⟩])).daoSession = [1, 2] := by
  decide +kernel

end NetworkStore

end XnetZt
