import OdooConnector.Queue.ChannelConfig
import OdooConnector.Queue.ChannelLookup

/-!
# Configured channels

The runner starts with the channels of its configuration, those above them and the root. Where a
channel is configured more than once, the last time counts.
-/

namespace OdooConnector.Queue

namespace ChannelConfig

variable (config : ChannelConfig)

def get (key : String) : Option ConfigValue := config.items.lookup key

/-- A text is true where it is not empty, whatever it says. -/
def sequential : Bool :=
  match config.get "sequential" with
  | none => false
  | some .flag => true
  | some (.text value) => value ≠ ""

def throttle : Except ConfigError ℤ :=
  match config.get "throttle" with
  | none => .ok 0
  | some .flag => .ok 1
  | some (.text value) =>
      match readInt value with
      | some seconds => .ok seconds
      | none => .error (.literal value)

def path : ChannelPath := ChannelManager.pathOfName config.name

end ChannelConfig

/-- `configure` -/
def Channel.configure (config : ChannelConfig) (channel : Channel) : Except ConfigError Channel :=
  match config.throttle with
  | .error error => .error error
  | .ok throttle =>
      if config.sequential && config.capacity ≠ 1 then
        .error (.invalid "A sequential channel must have a capacity of 1")
      else
        .ok { channel with
          capacity := some config.capacity
          sequential := config.sequential
          throttle := throttle }

namespace ChannelManager

/-- The root alone, which has a capacity of one. -/
def initial : ChannelManager where
  paths := [[]]
  channel path := if path = [] then .configured (some 1) false 0 else .new
  job := default
  nextJob := 0
  jobsByUuid := []
  yielded := []

variable (manager : ChannelManager)

def getChannelFromConfig (config : ChannelConfig) : Except ConfigError ChannelManager :=
  let found := manager.autocreate config.name
  match (found.2.channel found.1).configure config with
  | .error error => .error error
  | .ok channel => .ok (found.2.modify found.1 fun _ => channel)

def configureAll : ChannelManager → List ChannelConfig → Except ConfigError ChannelManager
  | manager, [] => .ok manager
  | manager, config :: configs =>
      match manager.getChannelFromConfig config with
      | .error error => .error error
      | .ok manager => configureAll manager configs

/-- `simple_configure` -/
def simpleConfigure (configString : String) : Except ConfigError ChannelManager :=
  match parseSimpleConfig configString with
  | .error error => .error error
  | .ok configs => manager.configureAll configs

end ChannelManager

section Configured

open ChannelManager

/-- The configuration that counts for a channel. -/
def lastConfig (configs : List ChannelConfig) (path : ChannelPath) : Option ChannelConfig :=
  configs.reverse.find? fun config => config.path = path

/-- What is written down for a channel: its own configuration, or what it has without one. -/
structure ChannelTree.Follows (tree : ChannelTree) (configs : List ChannelConfig) : Prop where
  paths : ∀ path, path ∈ tree.paths ↔ path = [] ∨ ∃ config ∈ configs, path <:+ config.path
  capacity : ∀ path ∈ tree.paths, tree.capacity path =
    match lastConfig configs path with
    | some config => some config.capacity
    | none => if path = [] then some 1 else none
  sequential : ∀ path ∈ tree.paths, tree.sequential path =
    (lastConfig configs path).any ChannelConfig.sequential
  throttle : ∀ path ∈ tree.paths,
    (match lastConfig configs path with
      | some config => config.throttle
      | none => .ok 0) = .ok (tree.throttle path)

/-- No dictionary asks for what a channel cannot be. -/
def ChannelConfig.IsValid (config : ChannelConfig) : Prop :=
  (∃ seconds, config.throttle = .ok seconds) ∧ (config.sequential → config.capacity = 1)

/-- The channel without jobs that a dictionary asks for. -/
def ChannelConfig.channel (config : ChannelConfig) : Channel :=
  .configured (some config.capacity) config.sequential (config.throttle.toOption.getD 0)

variable {manager after : ChannelManager} {configs : List ChannelConfig} {config : ChannelConfig}
  {names : List String} {path place parent : ChannelPath} {channel changed : Channel}

theorem configure_ok : channel.configure config = .ok changed ↔
    config.IsValid ∧ changed = { channel with
      capacity := some config.capacity
      sequential := config.sequential
      throttle := config.throttle.toOption.getD 0 } := by
  rw [Channel.configure, ChannelConfig.IsValid]
  cases config.throttle with
  | error error => simp
  | ok throttle => grind [Except.toOption]

theorem configure_new (new : channel.queue = .empty ∧ channel.running = ∅ ∧ channel.failed = ∅ ∧
    channel.pauseUntil = 0) :
    channel.configure config = .ok changed ↔ config.IsValid ∧ changed = config.channel := by
  rw [configure_ok, ChannelConfig.channel, Channel.configured, new.1, new.2.1, new.2.2.1, new.2.2.2]

/-- Created are the channels on the way from the parent. -/
theorem mem_createChannels : place ∈ (createChannels names parent manager).2.paths ↔
    place ∈ manager.paths ∨
      (place <:+ names.reverse ++ parent ∧ parent.length < place.length) := by
  induction names generalizing parent manager with
  | nil =>
      refine ⟨.inl, fun member => member.resolve_right fun below => ?_⟩
      exact absurd below.1.length_le (not_le.mpr below.2)
  | cons name names induction =>
      have whole : (name :: names).reverse ++ parent = names.reverse ++ name :: parent := by
        rw [List.reverse_cons, List.append_assoc, List.singleton_append]
      have next : place <:+ names.reverse ++ name :: parent ∧ parent.length < place.length ↔
          place = name :: parent ∨
            (place <:+ names.reverse ++ name :: parent ∧
              (name :: parent).length < place.length) := by
        constructor
        · rintro ⟨above, longer⟩
          rcases Nat.lt_or_eq_of_le longer with longer | same
          · exact .inr ⟨above, longer⟩
          · exact .inl (((List.suffix_of_suffix_length_le above (List.suffix_append _ _)
              same.symm.le).eq_of_length same.symm))
        · rintro (rfl | ⟨above, longer⟩)
          · exact ⟨List.suffix_append _ _, Nat.lt_succ_self _⟩
          · exact ⟨above, Nat.lt_of_succ_lt longer⟩
      rw [createChannels, whole, next]
      split
      · rename_i listed
        rw [induction]
        refine ⟨.imp_right .inr, fun member => member.elim .inl fun below => ?_⟩
        exact below.imp_left fun same => by rwa [same]
      · rw [induction, List.mem_append, List.mem_singleton, or_assoc]

theorem lastConfig_append : lastConfig (configs ++ [config]) path =
    if config.path = path then some config else lastConfig configs path := by
  rw [lastConfig, List.reverse_append, List.reverse_singleton, List.singleton_append,
    List.find?_cons]
  by_cases own : config.path = path
  · simp only [own, decide_true, if_true]
  · simp only [own, decide_false, if_false, lastConfig]

theorem lastConfig_path (found : lastConfig configs path = some config) :
    config ∈ configs ∧ config.path = path :=
  ⟨List.mem_reverse.mp (List.mem_of_find?_eq_some found), by simpa using List.find?_some found⟩

/-- A manager without jobs that has read some dictionaries. -/
structure HasRead (manager : ChannelManager) (configs : List ChannelConfig) : Prop where
  valid : ∀ config ∈ configs, config.IsValid
  paths : ∀ path, path ∈ manager.paths ↔ path = [] ∨ ∃ config ∈ configs, path <:+ config.path
  channel : ∀ path, manager.channel path =
    match lastConfig configs path with
    | some config => config.channel
    | none => if path = [] then .configured (some 1) false 0 else .new
  idle : (manager.job, manager.nextJob, manager.jobsByUuid, manager.yielded) = (default, 0, [], [])

theorem hasRead_initial : HasRead initial [] where
  valid := nofun
  paths path := by simp [initial]
  channel path := rfl
  idle := rfl

theorem HasRead.idleChannel (read : HasRead manager configs) (path : ChannelPath) :
    (manager.channel path).queue = .empty ∧ (manager.channel path).running = ∅ ∧
      (manager.channel path).failed = ∅ ∧ (manager.channel path).pauseUntil = 0 := by
  rw [read.channel]
  cases lastConfig configs path with
  | some config => exact ⟨rfl, rfl, rfl, rfl⟩
  | none =>
      dsimp only
      split <;> exact ⟨rfl, rfl, rfl, rfl⟩

/-- Channels that do not exist are new ones. -/
theorem HasRead.channel_missing (read : HasRead manager configs) (missing : path ∉ manager.paths) :
    manager.channel path = .new := by
  rw [read.paths, not_or] at missing
  rw [read.channel]
  cases found : lastConfig configs path with
  | some config =>
      obtain ⟨member, same⟩ := lastConfig_path found
      exact absurd ⟨config, member, same ▸ List.suffix_rfl⟩ missing.2
  | none => exact if_neg missing.1

/-- Looking up the channel of a dictionary opens what is missing on its path. -/
theorem HasRead.autocreate (read : HasRead manager configs) (config : ChannelConfig) :
    (manager.autocreate config.name).1 = config.path ∧
      (∀ path, path ∈ (manager.autocreate config.name).2.paths ↔
        path ∈ manager.paths ∨ path <:+ config.path) ∧
      (manager.autocreate config.name).2.channel = manager.channel ∧
      Opens manager (manager.autocreate config.name).2 := by
  have root : [] ∈ manager.paths := (read.paths []).mpr (.inl rfl)
  rw [ChannelManager.autocreate]
  split
  · rename_i known
    have listed : config.path ∈ manager.paths := by
      refine known.elim (fun same => ?_) id
      rwa [ChannelConfig.path, same]
    refine ⟨rfl, fun path => ⟨.inl, fun member => member.elim id fun above => ?_⟩, rfl, .refl _⟩
    rcases (read.paths _).mp listed with same | ⟨other, member, below⟩
    · exact (List.suffix_nil.mp (same ▸ above)) ▸ root
    · exact (read.paths path).mpr (.inr ⟨other, member, above.trans below⟩)
  · rename_i missing
    have opens := (@createChannels_opens manager [] (pathOfName config.name).reverse root).1
    refine ⟨?_, fun path => ?_, funext fun path => ?_, opens⟩
    · rw [createChannels_path, List.reverse_reverse, List.append_nil, ChannelConfig.path]
    · rw [mem_createChannels, List.reverse_reverse, List.append_nil, List.length_nil,
        List.length_pos_iff]
      refine ⟨.imp_right And.left, fun member => member.elim .inl fun above => ?_⟩
      by_cases same : path = []
      · exact .inl (same ▸ root)
      · exact .inr ⟨above, same⟩
    · rcases opens.channel path with same | ⟨missing, new⟩
      · exact same
      · rw [new, read.channel_missing missing]

/-- A dictionary configures its channel, and no other one. -/
theorem HasRead.getChannelFromConfig (read : HasRead manager configs) :
    manager.getChannelFromConfig config = .ok after ↔
      config.IsValid ∧ after = (manager.autocreate config.name).2.modify config.path
        fun _ => config.channel := by
  obtain ⟨own, -, same, -⟩ := read.autocreate config
  rw [ChannelManager.getChannelFromConfig, own, same]
  cases configured : (manager.channel config.path).configure config with
  | error error =>
      refine ⟨nofun, fun valid => ?_⟩
      rw [(configure_new (read.idleChannel _)).mpr ⟨valid.1, rfl⟩] at configured
      cases configured
  | ok channel =>
      obtain ⟨valid, rfl⟩ := (configure_new (read.idleChannel _)).mp configured
      rw [Except.ok.injEq, eq_comm, and_iff_right valid]

theorem HasRead.step (read : HasRead manager configs)
    (configured : manager.getChannelFromConfig config = .ok after) :
    HasRead after (configs ++ [config]) := by
  obtain ⟨own, paths, same, opens⟩ := read.autocreate config
  obtain ⟨valid, rfl⟩ := read.getChannelFromConfig.mp configured
  constructor
  case valid =>
    intro other member
    rcases List.mem_append.mp member with old | last
    · exact read.valid other old
    · exact List.mem_singleton.mp last ▸ valid
  case paths =>
    intro path
    rw [ChannelManager.modify, paths, read.paths, or_assoc]
    simp [or_and_right, exists_or]
  case channel =>
    intro path
    rw [channel_modify, lastConfig_append, same]
    by_cases own : config.path = path
    · rw [if_pos own, if_pos own.symm]
    · rw [if_neg own, if_neg (Ne.symm own), read.channel]
  case idle =>
    rw [ChannelManager.modify, opens.job, opens.nextJob, opens.jobsByUuid, opens.yielded]
    exact read.idle

/-- All dictionaries are read, unless one is not valid. -/
theorem HasRead.configureAll (read : HasRead manager configs) (more : List ChannelConfig) :
    (∀ after, manager.configureAll more = .ok after → HasRead after (configs ++ more)) ∧
      ((∃ after, manager.configureAll more = .ok after) ↔ ∀ config ∈ more, config.IsValid) := by
  induction more generalizing manager configs with
  | nil =>
      rw [List.append_nil]
      refine ⟨fun after configured => ?_, iff_of_true ⟨manager, rfl⟩ nofun⟩
      cases configured
      exact read
  | cons config more induction =>
      rw [ChannelManager.configureAll, List.forall_mem_cons]
      cases configured : manager.getChannelFromConfig config with
      | error error =>
          refine ⟨nofun, iff_of_false nofun fun valid => ?_⟩
          rw [read.getChannelFromConfig.mpr ⟨valid.1, rfl⟩] at configured
          cases configured
      | ok next =>
          have rest := induction (read.step configured)
          rw [List.append_assoc, List.singleton_append] at rest
          refine ⟨rest.1, rest.2.trans (and_iff_right ?_).symm⟩
          exact (read.getChannelFromConfig.mp configured).1

/-- The tree of a manager whose channels are closed under parents. -/
def HasRead.tree (read : HasRead manager configs) : ChannelTree where
  paths := manager.paths
  capacity path := (manager.channel path).capacity
  sequential path := (manager.channel path).sequential
  throttle path := (manager.channel path).throttle
  root := (read.paths []).mpr (.inl rfl)
  closed name path listed := by
    rw [read.paths] at listed ⊢
    rcases listed with nothing | ⟨config, member, above⟩
    · cases nothing
    · exact .inr ⟨config, member, (List.suffix_cons name path).trans above⟩

/-- The values of a channel that has read its dictionaries. -/
theorem HasRead.values (read : HasRead manager configs) (path : ChannelPath) :
    (∃ config, lastConfig configs path = some config ∧ config.IsValid ∧
      manager.channel path = config.channel) ∨
    (lastConfig configs path = none ∧
      manager.channel path = .configured (if path = [] then some 1 else none) false 0) := by
  rw [read.channel]
  cases found : lastConfig configs path with
  | some config => exact .inl ⟨config, rfl, read.valid config (lastConfig_path found).1, rfl⟩
  | none =>
      refine .inr ⟨rfl, ?_⟩
      dsimp only
      split <;> rfl

theorem HasRead.follows (read : HasRead manager configs) : read.tree.Follows configs where
  paths := read.paths
  capacity path _ := by
    change (manager.channel path).capacity = _
    rcases read.values path with ⟨config, found, -, same⟩ | ⟨found, same⟩
    · rw [same, found]
      rfl
    · rw [same, found]
      rfl
  sequential path _ := by
    change (manager.channel path).sequential = _
    rcases read.values path with ⟨config, found, -, same⟩ | ⟨found, same⟩
    · rw [same, found]
      rfl
    · rw [same, found]
      rfl
  throttle path _ := by
    change _ = Except.ok (manager.channel path).throttle
    rcases read.values path with ⟨config, found, ⟨⟨seconds, given⟩, -⟩, same⟩ | ⟨found, same⟩
    · rw [same, found, ChannelConfig.channel, given]
      exact given
    · rw [same, found]
      rfl

/-- What was read is what the runner starts with. -/
theorem HasRead.start (read : HasRead manager configs) :
    manager = (Session.start read.tree).manager := by
  have channels : manager.channel = fun path =>
      if manager.paths.contains path then
        .configured (manager.channel path).capacity (manager.channel path).sequential
          (manager.channel path).throttle
      else .new := by
    funext path
    by_cases listed : path ∈ manager.paths
    · rw [if_pos (List.contains_iff_mem.mpr listed)]
      rcases read.values path with ⟨config, -, -, same⟩ | ⟨-, same⟩
      · rw [same]
        rfl
      · rw [same]
        rfl
    · rw [if_neg (mt List.contains_iff_mem.mp listed), read.channel_missing listed]
  obtain ⟨paths, channel, job, nextJob, jobsByUuid, yielded⟩ := manager
  obtain ⟨rfl, rfl, rfl, rfl⟩ : job = default ∧ nextJob = 0 ∧ jobsByUuid = [] ∧ yielded = [] := by
    simpa using read.idle
  exact congrArg (ChannelManager.mk paths · default 0 [] []) channels

/-- A sequential channel lets one job run at a time. -/
theorem HasRead.single (read : HasRead manager configs) (sequential : read.tree.sequential path) :
    read.tree.capacity path = some 1 := by
  change (manager.channel path).sequential at sequential
  change (manager.channel path).capacity = some 1
  rcases read.values path with ⟨config, -, valid, same⟩ | ⟨-, same⟩
  · rw [same] at sequential ⊢
    exact congrArg some (valid.2 sequential)
  · rw [same] at sequential
    cases sequential

/-- A configuration is accepted if and only if it can be read and each dictionary is valid, and then
the runner starts with the tree of channels that it describes. -/
theorem simpleConfigure_follows (configString : String) :
    ((∃ manager, initial.simpleConfigure configString = .ok manager) ↔
      ∃ configs, parseSimpleConfig configString = .ok configs ∧
        ∀ config ∈ configs, config.IsValid) ∧
    ∀ configs manager, parseSimpleConfig configString = .ok configs →
      initial.simpleConfigure configString = .ok manager →
      ∃ tree : ChannelTree, manager = (Session.start tree).manager ∧ tree.Follows configs ∧
        ∀ path, tree.sequential path → tree.capacity path = some 1 := by
  rw [simpleConfigure]
  cases parsed : parseSimpleConfig configString with
  | error error => exact ⟨iff_of_false nofun nofun, nofun⟩
  | ok configs =>
      have all := hasRead_initial.configureAll configs
      refine ⟨all.2.trans (by simp), fun same manager given configured => ?_⟩
      cases given
      have read : HasRead manager configs := all.1 manager configured
      exact ⟨read.tree, read.start, read.follows, fun path => read.single⟩

/-- Channels above those that are configured are opened without a capacity. -/
theorem simpleConfigure_follows_nested : ∃ configs manager, ∃ tree : ChannelTree,
    parseSimpleConfig "root:4,A.B:2,C:1:sequential" = .ok configs ∧
      manager = (Session.start tree).manager ∧ tree.Follows configs ∧
      (∀ path, tree.sequential path → tree.capacity path = some 1) ∧
      manager.paths.map (fun path => (path, (manager.channel path).capacity)) =
        [([], some 4), (["A"], none), (["B", "A"], some 2), (["C"], some 1)] := by
  have accepted : (initial.simpleConfigure "root:4,A.B:2,C:1:sequential").toOption.map
      (fun manager => manager.paths.map fun path => (path, (manager.channel path).capacity)) =
        some [([], some 4), (["A"], none), (["B", "A"], some 2), (["C"], some 1)] := by
    decide +kernel
  cases configured : initial.simpleConfigure "root:4,A.B:2,C:1:sequential" with
  | error error =>
      rw [configured] at accepted
      cases accepted
  | ok manager =>
      rw [configured] at accepted
      have described := simpleConfigure_follows "root:4,A.B:2,C:1:sequential"
      obtain ⟨configs, parsed, -⟩ := described.1.mp ⟨manager, configured⟩
      obtain ⟨tree, same, follows, single⟩ := described.2 configs manager parsed configured
      exact ⟨configs, manager, tree, parsed, same, follows, single, Option.some.inj accepted⟩

end Configured

end OdooConnector.Queue
