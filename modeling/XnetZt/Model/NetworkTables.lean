import XnetZt.Lib.Run
import XnetZt.Lib.Script
import XnetZt.Lib.Text
import XnetZt.Net.InetAddress

/-!
# The tables of the networks

A network is a row of `NETWORK` and a row of `NETWORK_CONFIG` with the same id, and the servers
of its DNS are rows of `DNS_SERVER`. Joining and deleting a network write these tables one
statement after another, without a transaction, so the process may end in between. Deleting
leaves the rows of `DNS_SERVER` behind.

What is stored about a network nevertheless comes from one join, and so do its DNS servers. But
a join that is cut between its last two statements leaves a configuration that no one can
remove, and the network can never be joined again. A delete that is cut leaves a network
without a configuration, until it is deleted once more.
-/

namespace XnetZt

namespace NetworkTables

/-- What is asked of the libraries: `Character.digit(c, 16)`, `InetAddressValidator.isValid`,
`InetAddress.getByName`, and which servers `VpnService.Builder.addDnsServer` accepts. -/
structure Runtime where
  digit : Char → Option ℕ
  isValid : Text → Bool
  getByName : Text → Option InetAddress
  accepts : InetAddress → Bool

/-- The columns of `NETWORK` that are set when a network is joined and not changed afterwards. -/
structure Network where
  networkIdStr : Text
  networkConfigId : BitVec 64
  deriving DecidableEq

structure NetworkConfig where
  routeViaZeroTier : Bool
  dnsMode : ℕ
  deriving DecidableEq

structure AssignedAddress where
  id : BitVec 64
  networkId : BitVec 64
  deriving DecidableEq

structure DnsServer where
  networkId : BitVec 64
  nameserver : Text
  deriving DecidableEq

/-- The tables, the first two by their primary keys. -/
structure Database where
  networks : HashMap (BitVec 64) Network
  networkConfigs : HashMap (BitVec 64) NetworkConfig
  assignedAddresses : List AssignedAddress
  dnsServers : List DnsServer

/-- The tables as they are created. -/
def Database.new : Database := ⟨∅, ∅, [], []⟩

/-- `NetworkConfig.getDnsServers` -/
def Database.getDnsServers (db : Database) (networkId : BitVec 64) : List Text :=
  (db.dnsServers.filter (·.networkId = networkId)).map (·.nameserver)

inductive Statement
  | deleteDnsServers (networkId : BitVec 64)
  | insertDnsServer (row : DnsServer)
  | insertNetworkConfig (id : BitVec 64) (row : NetworkConfig)
  | insertNetwork (id : BitVec 64) (row : Network)
  | deleteAssignedAddress (id : BitVec 64)
  | deleteNetworkConfig (id : BitVec 64)
  | deleteNetwork (id : BitVec 64)
  deriving DecidableEq

/-- `none` is a `SQLiteConstraintException`: there is a row with this key. -/
def execute (db : Database) : Statement → Option Database
  | .deleteDnsServers networkId =>
    some { db with dnsServers := db.dnsServers.filter (·.networkId ≠ networkId) }
  | .insertDnsServer row => some { db with dnsServers := db.dnsServers ++ [row] }
  | .insertNetworkConfig id row =>
    if (db.networkConfigs.lookup id).isSome then none
    else some { db with networkConfigs := db.networkConfigs.insert id row }
  | .insertNetwork id row =>
    if (db.networks.lookup id).isSome then none
    else some { db with networks := db.networks.insert id row }
  | .deleteAssignedAddress id =>
    some { db with assignedAddresses := db.assignedAddresses.filter (·.id ≠ id) }
  | .deleteNetworkConfig id => some { db with networkConfigs := db.networkConfigs.erase id }
  | .deleteNetwork id => some { db with networks := db.networks.erase id }

/-! ### The forms -/

/-- What has been entered in `JoinNetworkFragment`. The button works for ids of 16 characters,
and there are three tabs for the mode. -/
structure Form where
  networkId : Text
  isChecked : Bool
  mDNSMode : ℕ
  mDNSv4_1 : Text
  mDNSv4_2 : Text
  mDNSv6_1 : Text
  mDNSv6_2 : Text
  length_networkId : networkId.length = 16
  mDNSMode_lt : mDNSMode < 3

variable (rt : Runtime)

/-- The number that the digits stand for. -/
def magnitude (digits : Text) : Option ℕ :=
  if digits = [] then none
  else digits.foldlM (fun n c => (rt.digit c).map (16 * n + ·)) 0

/-- `new BigInteger(str, 16).longValue()`; `none` is a `NumberFormatException`. -/
def hexStringToLong (str : Text) : Option (BitVec 64) :=
  match str with
  | '-' :: digits => (magnitude rt digits).map fun n => BitVec.ofInt 64 (-n)
  | '+' :: digits => (magnitude rt digits).map (BitVec.ofNat 64)
  | digits => (magnitude rt digits).map (BitVec.ofNat 64)

/-- The servers that are stored. -/
def Form.nameservers (form : Form) : List Text :=
  [form.mDNSv4_1, form.mDNSv4_2, form.mDNSv6_1, form.mDNSv6_2].filter
    fun text => !text.isEmpty && rt.isValid text

/-- The servers of a custom DNS replace whatever is there for the network. -/
def dnsStatements (form : Form) (networkId : BitVec 64) : List Statement :=
  if form.mDNSMode = 2 then
    .deleteDnsServers networkId ::
      (form.nameservers rt).map fun text => .insertDnsServer ⟨networkId, text⟩
  else []

/-- The button of `JoinNetworkFragment`. -/
def joinStatements (db : Database) (form : Form) : List Statement :=
  match hexStringToLong rt form.networkId with
  | none => []
  | some networkId =>
    if (db.networks.lookup networkId).isSome then []
    else dnsStatements rt form networkId ++
      [.insertNetworkConfig networkId ⟨form.isChecked, form.mDNSMode⟩,
        .insertNetwork networkId ⟨form.networkId, networkId⟩]

/-- The addresses of a configuration are deleted one by one. -/
def addressStatements (db : Database) (network : Network) : List Statement :=
  (db.assignedAddresses.filter (·.networkId = network.networkConfigId)).map
    fun address => .deleteAssignedAddress address.id

/-- The menu item of `NetworkListFragment` for a network of the list. -/
def deleteStatements (db : Database) (networkId : BitVec 64) : List Statement :=
  match db.networks.lookup networkId with
  | none => []
  | some network =>
    (if (db.networkConfigs.lookup network.networkConfigId).isSome then
      addressStatements db network ++ [.deleteNetworkConfig network.networkConfigId]
    else []) ++ [.deleteNetwork networkId]

/-- `NetworkDetailModel.doUpdateRouteViaZeroTier` -/
def doUpdateRouteViaZeroTier (db : Database) (networkId : BitVec 64) (routeViaZeroTier : Bool) :
    Database :=
  match db.networks.lookup networkId with
  | none => db
  | some network =>
    match db.networkConfigs.lookup network.networkConfigId with
    | none => db
    | some config =>
      let config := { config with routeViaZeroTier := routeViaZeroTier }
      { db with networkConfigs := db.networkConfigs.insert network.networkConfigId config }

/-- The process may end before the statement with the number `cut`. -/
inductive Event
  | join (form : Form) (cut : Option ℕ)
  | delete (networkId : BitVec 64) (cut : Option ℕ)
  | routeViaZeroTier (networkId : BitVec 64) (routeViaZeroTier : Bool)

def step (db : Database) : Event → Database
  | .join form cut => Script.perform execute db (Script.cut cut (joinStatements rt db form))
  | .delete networkId cut =>
    Script.perform execute db (Script.cut cut (deleteStatements db networkId))
  | .routeViaZeroTier networkId routeViaZeroTier =>
    doUpdateRouteViaZeroTier db networkId routeViaZeroTier

/-- The tables after these events. -/
def after (events : List Event) : Database := events.foldl (step rt) .new

/-! ### The servers of the tunnel -/

inductive DNSMode
  | noDns
  | networkDns
  | customDns
  deriving DecidableEq

/-- `none` is a `RuntimeException`. -/
def DNSMode.fromInt : ℕ → Option DNSMode
  | 0 => some .noDns
  | 1 => some .networkDns
  | 2 => some .customDns
  | _ => none

/-- `com.zerotier.sdk.VirtualNetworkDNS`, the servers without their ports. -/
structure VirtualNetworkDNS where
  domain : Text
  servers : List InetAddress

/-- What has been added to the `VpnService.Builder`. -/
structure Builder where
  searchDomains : List Text
  dnsServers : List InetAddress

/-- `none` is an `IllegalArgumentException`. -/
def Builder.addDnsServer (builder : Builder) (address : InetAddress) : Option Builder :=
  if rt.accepts address then some { builder with dnsServers := builder.dnsServers ++ [address] }
  else none

/-- The addresses of IPv6 are skipped if it is disabled. -/
def Builder.addUsable (disableIPv6 : Bool) (builder : Builder) (address : InetAddress) :
    Option Builder :=
  if address.isInet4 || address.isInet6 && !disableIPv6 then builder.addDnsServer rt address
  else some builder

/-- `ZeroTierOneService.addDNSServers`, with the mode and the servers that are stored; `none` is
an exception that is not caught. -/
def addDNSServers (disableIPv6 : Bool) (dns : Option VirtualNetworkDNS) (config : NetworkConfig)
    (dnsServers : List Text) (builder : Builder) : Option Builder :=
  (DNSMode.fromInt config.dnsMode).bind fun
    | .networkDns =>
      match dns with
      | none => some builder
      | some dns => dns.servers.foldlM (Builder.addUsable rt disableIPv6)
          { builder with searchDomains := builder.searchDomains ++ [dns.domain] }
    | .customDns => some (dnsServers.foldl (fun builder nameserver =>
        ((rt.getByName nameserver).bind (builder.addUsable rt disableIPv6)).getD builder) builder)
    | .noDns =>
      if config.routeViaZeroTier then
        some ((builder.addDnsServer rt (.inet4 0x0a791575)).getD builder)
      else some builder

/-! ### What the events can do -/

section Join

variable {rt} {db : Database} {form : Form} {networkId : BitVec 64}

/-- The rows of `DNS_SERVER` after a statement for them. -/
def dnsAfter (rows : List DnsServer) : Statement → List DnsServer
  | .deleteDnsServers networkId => rows.filter (·.networkId ≠ networkId)
  | .insertDnsServer row => rows ++ [row]
  | _ => rows

theorem execute_of_mem_dnsStatements {a : Statement} (ha : a ∈ dnsStatements rt form networkId)
    (db : Database) :
    execute db a = some { db with dnsServers := dnsAfter db.dnsServers a } := by
  unfold dnsStatements at ha
  split_ifs at ha
  · rcases List.mem_cons.mp ha with rfl | ha
    · rfl
    · obtain ⟨text, -, rfl⟩ := List.mem_map.mp ha
      rfl
  · cases ha

theorem foldl_dnsAfter (script : List Statement) (db : Database) :
    script.foldl (fun db a => { db with dnsServers := dnsAfter db.dnsServers a }) db =
      { db with dnsServers := script.foldl dnsAfter db.dnsServers } := by
  induction script generalizing db with
  | nil => rfl
  | cons a script ih => exact ih _

/-- The statements for the servers of one network leave those of the others alone. -/
theorem filter_dnsAfter {a : Statement} (ha : a ∈ dnsStatements rt form networkId)
    {other : BitVec 64} (hother : other ≠ networkId) (rows : List DnsServer) :
    (dnsAfter rows a).filter (·.networkId = other) = rows.filter (·.networkId = other) := by
  unfold dnsStatements at ha
  split_ifs at ha
  · rcases List.mem_cons.mp ha with rfl | ha
    · rw [dnsAfter, List.filter_filter]
      refine List.filter_congr fun row _ => ?_
      by_cases hrow : row.networkId = other <;> simp [hrow, hother]
    · obtain ⟨text, -, rfl⟩ := List.mem_map.mp ha
      simp [dnsAfter, List.filter_append, hother.symm]
  · cases ha

theorem filter_foldl_dnsAfter {script : List Statement}
    (hscript : ∀ a ∈ script, a ∈ dnsStatements rt form networkId)
    {other : BitVec 64} (hother : other ≠ networkId) (rows : List DnsServer) :
    (script.foldl dnsAfter rows).filter (·.networkId = other) =
      rows.filter (·.networkId = other) := by
  induction script generalizing rows with
  | nil => rfl
  | cons a script ih =>
    obtain ⟨ha, hscript⟩ := List.forall_mem_cons.mp hscript
    rw [List.foldl_cons, ih hscript, filter_dnsAfter ha hother]

theorem foldl_insertDnsServers (texts : List Text) (rows : List DnsServer) :
    (texts.map fun text => Statement.insertDnsServer ⟨networkId, text⟩).foldl dnsAfter rows =
      rows ++ texts.map (⟨networkId, ·⟩) := by
  induction texts generalizing rows with
  | nil => simp
  | cons text texts ih =>
    rw [List.map_cons, List.foldl_cons, ih, dnsAfter, List.append_assoc]
    rfl

/-- Whatever was there before, the custom servers of the form are there afterwards. -/
theorem filter_foldl_dnsStatements (hmode : form.mDNSMode = 2) (rows : List DnsServer) :
    (((dnsStatements rt form networkId).foldl dnsAfter rows).filter
      (·.networkId = networkId)).map (·.nameserver) = form.nameservers rt := by
  rw [dnsStatements, if_pos hmode, List.foldl_cons, foldl_insertDnsServers, dnsAfter,
    List.filter_append, List.filter_filter]
  simp [List.filter_map, Function.comp_def]

/-- What a join can do: nothing but to the servers of a network that is not there, the
configuration without the network, or all of it. -/
inductive Joins (rt : Runtime) (db : Database) (form : Form) (cut : Option ℕ) : Database → Prop
  | refused (dnsServers : List DnsServer)
      (hdns : ∀ id, (db.networks.lookup id).isSome = true →
        Database.getDnsServers { db with dnsServers } id = db.getDnsServers id)
      (hwhy : ∀ id, hexStringToLong rt form.networkId = some id → db.networks.lookup id = none →
        db.networkConfigs.lookup id = none →
        Script.progress cut (dnsStatements rt form id).length = .before) :
      Joins rt db form cut { db with dnsServers }
  | halfway (id : BitVec 64) (hid : hexStringToLong rt form.networkId = some id)
      (hnetwork : db.networks.lookup id = none) (hconfig : db.networkConfigs.lookup id = none)
      (hcut : Script.progress cut (dnsStatements rt form id).length = .between)
      (dnsServers : List DnsServer)
      (hdns : ∀ other, other ≠ id →
        Database.getDnsServers { db with dnsServers } other = db.getDnsServers other) :
      Joins rt db form cut { db with
        dnsServers
        networkConfigs := db.networkConfigs.insert id ⟨form.isChecked, form.mDNSMode⟩ }
  | done (id : BitVec 64) (hid : hexStringToLong rt form.networkId = some id)
      (hnetwork : db.networks.lookup id = none) (hconfig : db.networkConfigs.lookup id = none)
      (hcut : Script.progress cut (dnsStatements rt form id).length = .through)
      (dnsServers : List DnsServer)
      (hdns : ∀ other, other ≠ id →
        Database.getDnsServers { db with dnsServers } other = db.getDnsServers other)
      (hself : form.mDNSMode = 2 →
        Database.getDnsServers { db with dnsServers } id = form.nameservers rt) :
      Joins rt db form cut { db with
        dnsServers
        networkConfigs := db.networkConfigs.insert id ⟨form.isChecked, form.mDNSMode⟩
        networks := db.networks.insert id ⟨form.networkId, id⟩ }

theorem step_join (rt : Runtime) (db : Database) (form : Form) (cut : Option ℕ) :
    Joins rt db form cut (step rt db (.join form cut)) := by
  have hrefused (hwhy : ∀ id, hexStringToLong rt form.networkId = some id →
      db.networks.lookup id ≠ none) : Joins rt db form cut db :=
    .refused db.dnsServers (fun _ _ => rfl) fun id hid hnone => absurd hnone (hwhy id hid)
  unfold step joinStatements
  dsimp only
  cases hid : hexStringToLong rt form.networkId with
  | none =>
    rw [Script.cut_nil]
    exact hrefused fun id hid' => by simp [hid] at hid'
  | some id =>
    have hwhich : ∀ id', hexStringToLong rt form.networkId = some id' → id' = id := fun id' hid' =>
      Option.some.inj (hid'.symm.trans hid)
    dsimp only
    split_ifs with hsome
    · rw [Script.cut_nil]
      exact hrefused fun id' hid' hnone => by simp [hwhich id' hid' ▸ hnone] at hsome
    have hnetwork : db.networks.lookup id = none := by simpa using hsome
    have hothers {script : List Statement} (hscript : ∀ a ∈ script, a ∈ dnsStatements rt form id)
        (other : BitVec 64) (hother : other ≠ id) :
        Database.getDnsServers { db with dnsServers := script.foldl dnsAfter db.dnsServers } other =
          db.getDnsServers other :=
      congrArg _ (filter_foldl_dnsAfter hscript hother db.dnsServers)
    have hpresent {script : List Statement} (hscript : ∀ a ∈ script, a ∈ dnsStatements rt form id)
        (id' : BitVec 64) (hid' : (db.networks.lookup id').isSome = true) :
        Database.getDnsServers { db with dnsServers := script.foldl dnsAfter db.dnsServers } id' =
          db.getDnsServers id' :=
      hothers hscript id' fun heq => hsome (heq ▸ hid')
    have hscript : ∀ a ∈ dnsStatements rt form id, ∀ db, execute db a = some
        { db with dnsServers := dnsAfter db.dnsServers a } :=
      fun a ha db => execute_of_mem_dnsStatements ha db
    -- when the configuration is already there, the script ends with it
    have hstuck (hconfig : (db.networkConfigs.lookup id).isSome = true) :
        Joins rt db form cut { db with
          dnsServers := (dnsStatements rt form id).foldl dnsAfter db.dnsServers } := by
      refine .refused _ (hpresent fun _ ha => ha) fun id' hid' _ hnone => ?_
      rw [← hwhich id' hid', hnone] at hconfig
      cases hconfig
    rcases Script.perform_cut_pair hscript db cut _ _ with
      ⟨hcut, n, hrun⟩ | ⟨hcut, hrun⟩ | ⟨hcut, hrun⟩
    · rw [hrun, foldl_dnsAfter]
      exact .refused _ (hpresent fun a ha => List.mem_of_mem_take ha) fun id' hid' _ _ => by
        rw [hwhich id' hid', hcut]
    · rw [hrun, foldl_dnsAfter]
      by_cases hconfig : (db.networkConfigs.lookup id).isSome = true
      · rw [Script.perform_cons_none (if_pos hconfig)]
        exact hstuck hconfig
      · rw [Script.perform_cons (if_neg hconfig), Script.perform_nil]
        exact .halfway id hid hnetwork (by simpa using hconfig) hcut _ (hothers fun _ ha => ha)
    · rw [hrun, foldl_dnsAfter]
      by_cases hconfig : (db.networkConfigs.lookup id).isSome = true
      · rw [Script.perform_cons_none (if_pos hconfig)]
        exact hstuck hconfig
      · rw [Script.perform_cons (if_neg hconfig), Script.perform_cons (if_neg hsome),
          Script.perform_nil]
        exact .done id hid hnetwork (by simpa using hconfig) hcut _ (hothers fun _ ha => ha)
          fun hmode => filter_foldl_dnsStatements hmode db.dnsServers

end Join

section Delete

variable {db : Database} {networkId : BitVec 64}

/-- What a delete can do: nothing but to the addresses, the configuration only, or all of it. -/
inductive Deletes (db : Database) (networkId : BitVec 64) (cut : Option ℕ) : Database → Prop
  | nothing (assignedAddresses : List AssignedAddress)
      (hwhy : ∀ network, db.networks.lookup networkId = some network →
        if (db.networkConfigs.lookup network.networkConfigId).isSome then
          Script.progress cut (addressStatements db network).length = .before
        else cut = some 0) :
      Deletes db networkId cut { db with assignedAddresses }
  | halfway (network : Network) (hnetwork : db.networks.lookup networkId = some network)
      (hconfig : (db.networkConfigs.lookup network.networkConfigId).isSome = true)
      (hcut : Script.progress cut (addressStatements db network).length = .between)
      (assignedAddresses : List AssignedAddress) :
      Deletes db networkId cut { db with
        assignedAddresses
        networkConfigs := db.networkConfigs.erase network.networkConfigId }
  | done (network : Network) (hnetwork : db.networks.lookup networkId = some network)
      (hcut : if (db.networkConfigs.lookup network.networkConfigId).isSome then
          Script.progress cut (addressStatements db network).length = .through
        else cut ≠ some 0)
      (assignedAddresses : List AssignedAddress)
      (networkConfigs : HashMap (BitVec 64) NetworkConfig)
      (hconfigs : ∀ id, networkConfigs.lookup id =
        if id = network.networkConfigId then none else db.networkConfigs.lookup id) :
      Deletes db networkId cut { db with
        assignedAddresses, networkConfigs, networks := db.networks.erase networkId }

/-- The rows of `ASSIGNED_ADDRESS` after a statement for them. -/
def addressesAfter (rows : List AssignedAddress) : Statement → List AssignedAddress
  | .deleteAssignedAddress id => rows.filter (·.id ≠ id)
  | _ => rows

theorem foldl_deleteAssignedAddress (script : List Statement) (db : Database) :
    ∃ assignedAddresses, script.foldl (fun db a => { db with
        assignedAddresses := addressesAfter db.assignedAddresses a }) db =
      { db with assignedAddresses } := by
  induction script generalizing db with
  | nil => exact ⟨_, rfl⟩
  | cons a script ih => exact ih _

theorem lookup_erase (configs : HashMap (BitVec 64) NetworkConfig) (id id' : BitVec 64) :
    (configs.erase id).lookup id' = if id' = id then none else configs.lookup id' := by
  split_ifs with h
  · rw [h, AList.lookup_erase]
  · rw [AList.lookup_erase_ne h]

theorem step_delete (rt : Runtime) (db : Database) (networkId : BitVec 64) (cut : Option ℕ) :
    Deletes db networkId cut (step rt db (.delete networkId cut)) := by
  unfold step deleteStatements
  dsimp only
  cases hnetwork : db.networks.lookup networkId with
  | none =>
    rw [Script.cut_nil]
    exact .nothing db.assignedAddresses fun network hsome => by simp [hnetwork] at hsome
  | some network =>
    have hwhich : ∀ network', db.networks.lookup networkId = some network' → network' = network :=
      fun network' hsome => Option.some.inj (hsome.symm.trans hnetwork)
    dsimp only
    by_cases hconfig : (db.networkConfigs.lookup network.networkConfigId).isSome = true
    · have hscript : ∀ a ∈ addressStatements db network, ∀ db, execute db a = some
          { db with assignedAddresses := addressesAfter db.assignedAddresses a } := by
        intro a ha db
        obtain ⟨address, -, rfl⟩ := List.mem_map.mp ha
        rfl
      rw [if_pos hconfig, List.append_assoc]
      rcases Script.perform_cut_pair hscript db cut _ _ with
        ⟨hcut, n, hrun⟩ | ⟨hcut, hrun⟩ | ⟨hcut, hrun⟩
      · obtain ⟨addresses, hfold⟩ :=
          foldl_deleteAssignedAddress ((addressStatements db network).take n) db
        rw [List.singleton_append, hrun, hfold]
        exact .nothing addresses fun network' hsome => by
          rwa [hwhich network' hsome, if_pos hconfig]
      · obtain ⟨addresses, hfold⟩ := foldl_deleteAssignedAddress (addressStatements db network) db
        rw [List.singleton_append, hrun, hfold, Script.perform_cons rfl, Script.perform_nil]
        exact .halfway network hnetwork hconfig hcut addresses
      · obtain ⟨addresses, hfold⟩ := foldl_deleteAssignedAddress (addressStatements db network) db
        rw [List.singleton_append, hrun, hfold, Script.perform_cons rfl, Script.perform_cons rfl,
          Script.perform_nil]
        exact .done network hnetwork (by rwa [if_pos hconfig]) addresses _
          (lookup_erase db.networkConfigs _)
    · rw [if_neg hconfig, List.nil_append]
      by_cases hcut : cut = some 0
      · subst hcut
        exact .nothing db.assignedAddresses fun network' hsome => by
          rw [hwhich network' hsome, if_neg hconfig]
      · rw [Script.cut_singleton hcut, Script.perform_cons rfl, Script.perform_nil]
        refine .done network hnetwork (by rwa [if_neg hconfig]) db.assignedAddresses
          db.networkConfigs fun id => ?_
        split_ifs with hid
        · rw [hid]
          simpa using hconfig
        · rfl

end Delete

/-- The setting of a network that has a configuration is changed. -/
theorem step_routeViaZeroTier (rt : Runtime) (db : Database) (networkId : BitVec 64) (b : Bool) :
    step rt db (.routeViaZeroTier networkId b) = db ∨
      ∃ network config, db.networks.lookup networkId = some network ∧
        db.networkConfigs.lookup network.networkConfigId = some config ∧
        step rt db (.routeViaZeroTier networkId b) = { db with
          networkConfigs := db.networkConfigs.insert network.networkConfigId
            ⟨b, config.dnsMode⟩ } := by
  unfold step doUpdateRouteViaZeroTier
  dsimp only
  split
  · exact Or.inl rfl
  · rename_i network hnetwork
    split
    · exact Or.inl rfl
    · rename_i config hconfig
      exact Or.inr ⟨network, config, hnetwork, hconfig, rfl⟩

/-! ### One join -/

section Origin

variable {rt}

/-- The keys of a network are the id that its text stands for. -/
def WellKeyed (rt : Runtime) (db : Database) : Prop :=
  ∀ id network, db.networks.lookup id = some network →
    network.networkConfigId = id ∧ hexStringToLong rt network.networkIdStr = some id

theorem WellKeyed.of_networks {db db' : Database} (h : WellKeyed rt db)
    (hnetworks : ∀ id network, db'.networks.lookup id = some network →
      db.networks.lookup id = some network) : WellKeyed rt db' :=
  fun id network hn => h id network (hnetworks id network hn)

theorem lookup_of_erase {networks : HashMap (BitVec 64) Network} {id id' : BitVec 64}
    {network : Network} (h : (networks.erase id').lookup id = some network) :
    id ≠ id' ∧ networks.lookup id = some network := by
  by_cases hid : id = id'
  · rw [hid, AList.lookup_erase] at h
    cases h
  · rw [AList.lookup_erase_ne hid] at h
    exact ⟨hid, h⟩

theorem WellKeyed.step {db : Database} (h : WellKeyed rt db) (e : Event) :
    WellKeyed rt (step rt db e) := by
  cases e with
  | join form cut =>
    have hjoins := step_join rt db form cut
    generalize NetworkTables.step rt db (.join form cut) = db' at hjoins ⊢
    cases hjoins with
    | refused => exact h.of_networks fun _ _ hn => hn
    | halfway => exact h.of_networks fun _ _ hn => hn
    | done id hid =>
      intro id' network hn
      by_cases heq : id' = id
      · subst heq
        rw [AList.lookup_insert] at hn
        cases hn
        exact ⟨rfl, hid⟩
      · rw [AList.lookup_insert_ne heq] at hn
        exact h id' network hn
  | delete networkId cut =>
    have hdeletes := step_delete rt db networkId cut
    generalize NetworkTables.step rt db (.delete networkId cut) = db' at hdeletes ⊢
    cases hdeletes with
    | nothing => exact h.of_networks fun _ _ hn => hn
    | halfway => exact h.of_networks fun _ _ hn => hn
    | done => exact h.of_networks fun _ _ hn => (lookup_of_erase hn).2
  | routeViaZeroTier networkId b =>
    rcases step_routeViaZeroTier rt db networkId b with heq | ⟨_, _, _, _, heq⟩
    · rw [heq]
      exact h
    · rw [heq]
      exact h.of_networks fun _ _ hn => hn

theorem wellKeyed_new : WellKeyed rt .new :=
  fun _ _ hn => nomatch hn

/-- All of this comes from the join with this form; the setting may have been changed since. -/
structure ComesFrom (rt : Runtime) (events : List Event) (db : Database) (id : BitVec 64)
    (network : Network) (config : NetworkConfig) (form : Form) : Prop where
  mem : ∃ cut, Event.join form cut ∈ events
  networkIdStr : network.networkIdStr = form.networkId
  dnsMode : config.dnsMode = form.mDNSMode
  routeViaZeroTier : config.routeViaZeroTier = form.isChecked ∨
    Event.routeViaZeroTier id config.routeViaZeroTier ∈ events
  dnsServers : form.mDNSMode = 2 → db.getDnsServers id = form.nameservers rt

/-- Every network with a configuration comes from one join. -/
def Traced (rt : Runtime) (events : List Event) (db : Database) : Prop :=
  ∀ id network config, db.networks.lookup id = some network →
    db.networkConfigs.lookup id = some config →
    ∃ form, ComesFrom rt events db id network config form

theorem ComesFrom.mono {events events' : List Event} {db db' : Database} {id : BitVec 64}
    {network : Network} {config : NetworkConfig} {form : Form}
    (h : ComesFrom rt events db id network config form) (hevents : events ⊆ events')
    (hdns : db'.getDnsServers id = db.getDnsServers id) :
    ComesFrom rt events' db' id network config form where
  mem := h.mem.imp fun _ hmem => hevents hmem
  networkIdStr := h.networkIdStr
  dnsMode := h.dnsMode
  routeViaZeroTier := h.routeViaZeroTier.imp_right fun hmem => hevents hmem
  dnsServers hmode := hdns.trans (h.dnsServers hmode)

theorem Traced.mono {events events' : List Event} {db db' : Database} (h : Traced rt events db)
    (hevents : events ⊆ events')
    (hrows : ∀ id network config, db'.networks.lookup id = some network →
      db'.networkConfigs.lookup id = some config → db.networks.lookup id = some network ∧
        db.networkConfigs.lookup id = some config ∧ db'.getDnsServers id = db.getDnsServers id) :
    Traced rt events' db' := by
  intro id network config hn hc
  obtain ⟨hn, hc, hdns⟩ := hrows id network config hn hc
  exact (h id network config hn hc).imp fun form hform => hform.mono hevents hdns

theorem Traced.step {events : List Event} {db : Database} (h : Traced rt events db)
    (hkeyed : WellKeyed rt db) (e : Event) :
    Traced rt (events ++ [e]) (step rt db e) := by
  have hevents : events ⊆ events ++ [e] := List.subset_append_left events [e]
  cases e with
  | join form cut =>
    have hjoins := step_join rt db form cut
    generalize NetworkTables.step rt db (.join form cut) = db' at hjoins ⊢
    cases hjoins with
    | refused dnsServers hdns =>
      exact h.mono hevents fun id network config hn hc =>
        ⟨hn, hc, hdns id (Option.isSome_iff_exists.mpr ⟨network, hn⟩)⟩
    | halfway id' _ hnetwork _ _ dnsServers hdns =>
      refine h.mono hevents fun id network config hn hc => ?_
      have hne : id ≠ id' := by
        rintro rfl
        simp [hnetwork] at hn
      exact ⟨hn, (AList.lookup_insert_ne hne).symm.trans hc, hdns id hne⟩
    | done id' hid hnetwork hconfig _ dnsServers hdns hself =>
      intro id network config hn hc
      by_cases hne : id = id'
      · subst hne
        rw [AList.lookup_insert] at hn hc
        cases hn
        cases hc
        exact ⟨form, ⟨cut, List.mem_concat_self⟩, rfl, rfl, Or.inl rfl, hself⟩
      · rw [AList.lookup_insert_ne hne] at hn hc
        exact (h id network config hn hc).imp fun form hform => hform.mono hevents (hdns id hne)
  | delete networkId cut =>
    have hdeletes := step_delete rt db networkId cut
    generalize NetworkTables.step rt db (.delete networkId cut) = db' at hdeletes ⊢
    cases hdeletes with
    | nothing => exact h.mono hevents fun id network config hn hc => ⟨hn, hc, rfl⟩
    | halfway network' =>
      refine h.mono hevents fun id network config hn hc => ⟨hn, ?_, rfl⟩
      rw [lookup_erase] at hc
      split_ifs at hc
      exact hc
    | done network' _ _ _ _ hconfigs =>
      refine h.mono hevents fun id network config hn hc => ⟨(lookup_of_erase hn).2, ?_, rfl⟩
      rw [hconfigs] at hc
      split_ifs at hc
      exact hc
  | routeViaZeroTier networkId b =>
    rcases step_routeViaZeroTier rt db networkId b with heq | ⟨network', config', hn', hc', heq⟩
    · rw [heq]
      exact h.mono hevents fun id network config hn hc => ⟨hn, hc, rfl⟩
    · rw [heq]
      rw [(hkeyed _ _ hn').1] at hc' ⊢
      intro id network config hn hc
      by_cases hne : id = networkId
      · subst hne
        rw [AList.lookup_insert] at hc
        cases hc
        obtain ⟨form, hform⟩ := h id network config' hn hc'
        exact ⟨form, { hform.mono hevents rfl with
          dnsMode := hform.dnsMode, routeViaZeroTier := Or.inr List.mem_concat_self }⟩
      · rw [AList.lookup_insert_ne hne] at hc
        exact (h id network config hn hc).imp fun form hform => hform.mono hevents rfl

theorem wellKeyed_after (events : List Event) : WellKeyed rt (after rt events) := by
  have hrun : Run.Throughout (step rt) (WellKeyed rt) .new events :=
    Run.throughout_of_step (fun _ e h => WellKeyed.step h e) events wellKeyed_new
  exact hrun.last

theorem traced_after (events : List Event) : Traced rt events (after rt events) := by
  induction events using List.reverseRecOn with
  | nil => exact fun _ _ _ hn => nomatch hn
  | append_singleton events e ih =>
    rw [after, List.foldl_append]
    exact ih.step (wellKeyed_after events) e

/-- The servers matter for a custom DNS only. -/
theorem addDNSServers_congr {config : NetworkConfig} {texts texts' : List Text}
    (h : config.dnsMode = 2 → texts = texts') (disableIPv6 : Bool) (dns : Option VirtualNetworkDNS)
    (builder : Builder) :
    addDNSServers rt disableIPv6 dns config texts builder =
      addDNSServers rt disableIPv6 dns config texts' builder := by
  by_cases hmode : config.dnsMode = 2
  · rw [h hmode]
  · unfold addDNSServers
    rcases config with ⟨routeViaZeroTier, _ | _ | _ | mode⟩
    · rfl
    · rfl
    · exact absurd rfl hmode
    · rfl

/-- All that there is about a network comes from one join: the text stands for its id, the DNS
mode is that of the join, only the route setting may have been changed since, and the DNS servers
of the tunnel are as if no others had ever been stored. -/
def OneJoin (rt : Runtime) (events : List Event) (id : BitVec 64) (network : Network)
    (config : NetworkConfig) : Prop :=
  ∃ form cut, Event.join form cut ∈ events ∧
    hexStringToLong rt form.networkId = some id ∧ network = ⟨form.networkId, id⟩ ∧
    config.dnsMode = form.mDNSMode ∧
    (config.routeViaZeroTier = form.isChecked ∨
      Event.routeViaZeroTier id config.routeViaZeroTier ∈ events) ∧
    ∀ disableIPv6 dns builder,
      addDNSServers rt disableIPv6 dns config ((after rt events).getDnsServers id) builder =
        addDNSServers rt disableIPv6 dns ⟨config.routeViaZeroTier, form.mDNSMode⟩
          (form.nameservers rt) builder

/-- After any events, cut anywhere, a network with a configuration comes from one join, although
the servers of deleted networks stay in their table. -/
theorem oneJoin_of_lookup (events : List Event) {id : BitVec 64} {network : Network}
    {config : NetworkConfig} (hn : (after rt events).networks.lookup id = some network)
    (hc : (after rt events).networkConfigs.lookup id = some config) :
    OneJoin rt events id network config := by
  obtain ⟨form, hform⟩ := traced_after events id network config hn hc
  obtain ⟨hkey, htext⟩ := wellKeyed_after events id network hn
  obtain ⟨cut, hmem⟩ := hform.mem
  have hconfig : config = ⟨config.routeViaZeroTier, form.mDNSMode⟩ := by rw [← hform.dnsMode]
  refine ⟨form, cut, hmem, hform.networkIdStr ▸ htext, ?_, hform.dnsMode,
    hform.routeViaZeroTier, ?_⟩
  · rw [← hform.networkIdStr, ← hkey]
  · intro disableIPv6 dns builder
    rw [← hconfig]
    exact addDNSServers_congr (fun hmode => hform.dnsServers (hform.dnsMode ▸ hmode)) ..

/-- The ASCII digits only, and a library that takes every text for an address. -/
def plainRuntime : Runtime where
  digit c :=
    if c.isDigit then some (c.toNat - '0'.toNat)
    else if 'a' ≤ c ∧ c ≤ 'f' then some (c.toNat - 'a'.toNat + 10) else none
  isValid _ := true
  getByName _ := some (.inet4 0x01010101)
  accepts _ := true

/-- The network `a1` with a custom DNS. -/
def plainForm (nameserver : Text) : Form :=
  ⟨"00000000000000a1".toList, true, 2, nameserver, [], [], [], rfl, by decide⟩

/-- It is joined, deleted and joined again with another server, and then set to another route. -/
def rejoined : List Event :=
  [.join (plainForm "1.1.1.1".toList) none, .delete 0xa1 none,
    .join (plainForm "8.8.8.8".toList) none, .routeViaZeroTier 0xa1 false]

theorem oneJoin_rejoined :
    (after plainRuntime rejoined).networks.lookup 0xa1 =
        some ⟨"00000000000000a1".toList, 0xa1⟩ ∧
      (after plainRuntime rejoined).networkConfigs.lookup 0xa1 = some ⟨false, 2⟩ ∧
      OneJoin plainRuntime rejoined 0xa1 ⟨"00000000000000a1".toList, 0xa1⟩ ⟨false, 2⟩ := by
  have hn : (after plainRuntime rejoined).networks.lookup 0xa1 =
      some ⟨"00000000000000a1".toList, 0xa1⟩ := by decide
  have hc : (after plainRuntime rejoined).networkConfigs.lookup 0xa1 = some ⟨false, 2⟩ := by decide
  exact ⟨hn, hc, oneJoin_of_lookup rejoined hn hc⟩

end Origin

/-! ### Cut joins and cut deletes -/

/-- Which rows there are for an id. -/
inductive Status
  | absent
  | present
  | orphaned
  | headless
  deriving DecidableEq

def Status.of : Option Network → Option NetworkConfig → Status
  | none, none => .absent
  | some _, some _ => .present
  | none, some _ => .orphaned
  | some _, none => .headless

def Database.status (db : Database) (id : BitVec 64) : Status :=
  .of (db.networks.lookup id) (db.networkConfigs.lookup id)

/-- What becomes of an id that is joined. -/
def Status.join (progress : Script.Progress) : Status → Status
  | .absent =>
    match progress with
    | .before => .absent
    | .between => .orphaned
    | .through => .present
  | status => status

/-- What becomes of an id that is deleted, in so far as there is a network. -/
def Status.delete (progress : Script.Progress) (begins : Bool) : Status → Status
  | .present =>
    match progress with
    | .before => .present
    | .between => .headless
    | .through => .absent
  | .headless => if begins then .absent else .headless
  | status => status

section Cut

variable {rt}

/-- The events as seen from one id. -/
def statusAfter (rt : Runtime) (db : Database) (id : BitVec 64) : Event → Status
  | .join form cut =>
    if hexStringToLong rt form.networkId = some id then
      (db.status id).join (Script.progress cut (dnsStatements rt form id).length)
    else db.status id
  | .delete networkId cut =>
    if networkId = id then
      (db.status id).delete
        (Script.progress cut ((db.networks.lookup id).elim 0 fun network =>
          (addressStatements db network).length)) (cut ≠ some 0)
    else db.status id
  | .routeViaZeroTier _ _ => db.status id

theorem status_new (id : BitVec 64) : Database.new.status id = .absent := rfl

theorem status_congr {db db' : Database} {id : BitVec 64}
    (hnetworks : db'.networks.lookup id = db.networks.lookup id)
    (hconfigs : db'.networkConfigs.lookup id = db.networkConfigs.lookup id) :
    db'.status id = db.status id := by
  rw [Database.status, hnetworks, hconfigs]
  rfl

theorem status_of_lookup {db : Database} {id : BitVec 64} {network : Option Network}
    {config : Option NetworkConfig} (hn : db.networks.lookup id = network)
    (hc : db.networkConfigs.lookup id = config) : db.status id = .of network config := by
  rw [Database.status, hn, hc]

theorem status_join {db db' : Database} {form : Form} {cut : Option ℕ}
    (h : Joins rt db form cut db') (id : BitVec 64) :
    db'.status id = statusAfter rt db id (.join form cut) := by
  rw [statusAfter]
  cases h with
  | refused _ _ hwhy =>
    change db.status id = _
    split_ifs with hid
    · cases hn : db.networks.lookup id with
      | some network =>
        cases hc : db.networkConfigs.lookup id <;> rw [status_of_lookup hn hc] <;> rfl
      | none =>
        cases hc : db.networkConfigs.lookup id with
        | some config => rw [status_of_lookup hn hc]; rfl
        | none => rw [status_of_lookup hn hc, hwhy id hid hn hc]; rfl
    · rfl
  | halfway id' hid hn hc hcut =>
    by_cases hne : id = id'
    · subst hne
      rw [if_pos hid, status_of_lookup hn hc, hcut]
      simp [Database.status, hn, Status.of, Status.join]
    · rw [if_neg fun h => hne (Option.some.inj (h.symm.trans hid))]
      exact status_congr rfl (AList.lookup_insert_ne hne)
  | done id' hid hn hc hcut =>
    by_cases hne : id = id'
    · subst hne
      rw [if_pos hid, status_of_lookup hn hc, hcut]
      simp [Database.status, Status.of, Status.join]
    · rw [if_neg fun h => hne (Option.some.inj (h.symm.trans hid))]
      exact status_congr (AList.lookup_insert_ne hne) (AList.lookup_insert_ne hne)

theorem status_delete {db db' : Database} (hkeyed : WellKeyed rt db) {networkId : BitVec 64}
    {cut : Option ℕ} (h : Deletes db networkId cut db') (id : BitVec 64) :
    db'.status id = statusAfter rt db id (.delete networkId cut) := by
  rw [statusAfter]
  by_cases hne : networkId = id
  · subst hne
    rw [if_pos rfl]
    cases h with
    | nothing _ hwhy =>
      change db.status networkId = _
      cases hn : db.networks.lookup networkId with
      | none =>
        cases hc : db.networkConfigs.lookup networkId <;> rw [status_of_lookup hn hc] <;> rfl
      | some network =>
        have hcut := hwhy network hn
        rw [(hkeyed _ _ hn).1] at hcut
        cases hc : db.networkConfigs.lookup networkId with
        | none =>
          rw [hc] at hcut
          rw [status_of_lookup hn hc, show cut = some 0 from hcut]
          rfl
        | some config =>
          rw [hc] at hcut
          rw [status_of_lookup hn hc]
          exact (congrArg (fun p => Status.delete p _ .present) hcut).symm
    | halfway network hn hconfig hcut =>
      rw [(hkeyed _ _ hn).1] at hconfig ⊢
      obtain ⟨config, hc⟩ := Option.isSome_iff_exists.mp hconfig
      rw [hn, status_of_lookup hn hc, Option.elim_some, hcut]
      simp [Database.status, hn, Status.of, Status.delete]
    | done network hn hcut _ configs hconfigs =>
      rw [(hkeyed _ _ hn).1] at hcut hconfigs
      have hafter : .absent = (db.status networkId).delete (Script.progress cut
          ((db.networks.lookup networkId).elim 0 fun network =>
            (addressStatements db network).length)) (cut ≠ some 0) := by
        rw [hn, Option.elim_some]
        cases hc : db.networkConfigs.lookup networkId with
        | none =>
          rw [hc] at hcut
          have hbegins : cut ≠ some 0 := hcut
          rw [status_of_lookup hn hc]
          simp [Status.of, Status.delete, hbegins]
        | some config =>
          rw [hc] at hcut
          rw [status_of_lookup hn hc]
          exact (congrArg (fun p => Status.delete p _ .present) hcut).symm
      rw [← hafter]
      simp [Database.status, hconfigs, Status.of]
  · rw [if_neg hne]
    cases h with
    | nothing => exact status_congr rfl rfl
    | halfway network hn =>
      rw [(hkeyed _ _ hn).1]
      exact status_congr rfl (AList.lookup_erase_ne (Ne.symm hne))
    | done network hn _ _ configs hconfigs =>
      rw [(hkeyed _ _ hn).1] at hconfigs
      exact status_congr (AList.lookup_erase_ne (Ne.symm hne))
        ((hconfigs id).trans (if_neg (Ne.symm hne)))

/-- Seen from one id, the tables are an automaton with four states. -/
theorem status_step {db : Database} (hkeyed : WellKeyed rt db) (id : BitVec 64) (e : Event) :
    (step rt db e).status id = statusAfter rt db id e := by
  cases e with
  | join form cut => exact status_join (step_join rt db form cut) id
  | delete networkId cut => exact status_delete hkeyed (step_delete rt db networkId cut) id
  | routeViaZeroTier networkId b =>
    rw [statusAfter]
    rcases step_routeViaZeroTier rt db networkId b with heq | ⟨network, config, hn, hc, heq⟩
    · rw [heq]
    · rw [heq]
      rw [(hkeyed _ _ hn).1] at hc ⊢
      by_cases hne : id = networkId
      · subst hne
        rw [status_of_lookup hn hc]
        simp [Database.status, hn, Status.of]
      · exact status_congr rfl (AList.lookup_insert_ne hne)

/-- A join that is cut between its last two statements. -/
def HalfJoins (rt : Runtime) (id : BitVec 64) (db : Database) : Event → Prop
  | .join form cut => db.status id = .absent ∧ hexStringToLong rt form.networkId = some id ∧
      Script.progress cut (dnsStatements rt form id).length = .between
  | _ => False

/-- A delete that is cut between its last two statements. -/
def HalfDeletes (id : BitVec 64) (db : Database) : Event → Prop
  | .delete networkId cut => networkId = id ∧ db.status id = .present ∧
      Script.progress cut ((db.networks.lookup id).elim 0 fun network =>
        (addressStatements db network).length) = .between
  | _ => False

/-- A delete of this network that is not cut before its first statement. -/
def Removes (id : BitVec 64) : Event → Prop
  | .delete networkId cut => networkId = id ∧ cut ≠ some 0
  | _ => False

theorem status_step_eq_orphaned {db : Database} (hkeyed : WellKeyed rt db) (id : BitVec 64)
    (e : Event) :
    (step rt db e).status id = .orphaned ↔ db.status id = .orphaned ∨ HalfJoins rt id db e := by
  rw [status_step hkeyed]
  cases e with
  | join form cut =>
    by_cases hid : hexStringToLong rt form.networkId = some id
    · rw [statusAfter, if_pos hid, HalfJoins]
      generalize Script.progress cut (dnsStatements rt form id).length = progress
      cases db.status id <;> cases progress <;> simp [Status.join, hid]
    · simp [statusAfter, HalfJoins, hid]
  | delete networkId cut =>
    simp only [statusAfter, HalfJoins, or_false]
    split_ifs
    · generalize Script.progress cut _ = progress
      cases db.status id <;> cases progress <;> simp [Status.delete] <;> split_ifs <;> simp
    · rfl
  | routeViaZeroTier networkId b => simp [statusAfter, HalfJoins]

theorem status_step_eq_headless {db : Database} (hkeyed : WellKeyed rt db) (id : BitVec 64)
    (e : Event) :
    (step rt db e).status id = .headless ↔
      db.status id = .headless ∧ ¬ Removes id e ∨ HalfDeletes id db e := by
  rw [status_step hkeyed]
  cases e with
  | join form cut =>
    simp only [statusAfter, Removes, HalfDeletes, not_false_eq_true, and_true, or_false]
    split_ifs
    · generalize Script.progress cut _ = progress
      cases db.status id <;> cases progress <;> simp [Status.join]
    · rfl
  | delete networkId cut =>
    by_cases hid : networkId = id
    · rw [statusAfter, if_pos hid, Removes, HalfDeletes]
      generalize Script.progress cut _ = progress
      by_cases hcut : cut = some 0 <;> cases db.status id <;> cases progress <;>
        simp [Status.delete, hid, hcut]
    · simp [statusAfter, Removes, HalfDeletes, hid]
  | routeViaZeroTier networkId b => simp [statusAfter, Removes, HalfDeletes]

/-- A configuration without its network is what a join leaves that is cut between its last two
statements, whatever happens afterwards: the network cannot be joined again. -/
theorem status_eq_orphaned_iff (events : List Event) (id : BitVec 64) :
    (after rt events).status id = .orphaned ↔
      ∃ before e later, events = before ++ e :: later ∧ HalfJoins rt id (after rt before) e := by
  have hinv : ∀ db e, WellKeyed rt db → WellKeyed rt (step rt db e) := fun _ e h => h.step e
  refine (Run.foldl_iff_exists (Q := fun db : Database => db.status id = .orphaned) hinv
    (fun _ e h => status_step_eq_orphaned h id e) events wellKeyed_new).trans
    (or_iff_right fun h => ?_)
  exact nomatch (status_new id).symm.trans h

example : (after plainRuntime [.join (plainForm []) (some 2), .join (plainForm []) none,
    .delete 0xa1 none]).status 0xa1 = .orphaned := by decide

/-- A network without its configuration is what a delete leaves that is cut between its last two
statements, until it is deleted once more. -/
theorem status_eq_headless_iff (events : List Event) (id : BitVec 64) :
    (after rt events).status id = .headless ↔
      ∃ before e later, events = before ++ e :: later ∧ HalfDeletes id (after rt before) e ∧
        ∀ e' ∈ later, ¬ Removes id e' := by
  have hinv : ∀ db e, WellKeyed rt db → WellKeyed rt (step rt db e) := fun _ e h => h.step e
  refine (Run.foldl_iff_since (Q := fun db : Database => db.status id = .headless) hinv
    (fun _ e h => status_step_eq_headless h id e) events wellKeyed_new).trans
    (or_iff_right fun h => ?_)
  exact nomatch (status_new id).symm.trans h.1

end Cut

end NetworkTables

end XnetZt
