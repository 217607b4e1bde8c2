import OrderRelay.Proofs.Bus.Outside
import OrderRelay.Proofs.Services.Turns

/-!
# Each mode keeps to its own channels

A process that feeds never touches what has failed, and one that recovers touches nothing else, whatever comes
in meanwhile. In either mode the workers only read and commit: records come from new orders and from outside.

* `Services.Incident`, what can happen to the services of a process, `Services.meet`, what it does, and
  `Services.live`, a run of it;
* `Services.accounts`, what was done about which records in a run;
* `Services.meet_inject`, what a new order comes to;
* `Services.Manned.meet`, `Services.committed_meet`: what every incident leaves as it is;
* `Services.KeepsTo`, what is to be shown of a run, and **`Services.keepsTo_live`**.
-/

namespace OrderRelay.Services

/-- What can happen to the services of a process. -/
inductive Incident where
  /-- The worker at a place has a round. -/
  | turn (now : Int) (place : Nat)
  /-- Someone puts a new order onto the main channel. -/
  | inject (now : Int) (order : String)
  | outside (o : Outside Unit)
  /-- All workers are asked to stop. -/
  | requestStop

/-- The services after an incident. -/
def meet (s : Services) : Incident → Services
  | .turn now place => s.turn now place
  | .inject now order => match s.inject now order with
    | .ok (_, s') => s'
    | .error _ => s
  | .outside o => { s with bus := o.alter s.bus }
  | .requestStop => s.requestStop

/-- The services after several incidents. -/
def live (s : Services) (is : List Incident) : Services := is.foldl meet s

/-- What was done about a record in an incident. -/
def account? (s : Services) : Incident → Option Account
  | .turn now place => s.told now place
  | _ => none

/-- What was done about which records, one after the other. -/
def accounts (s : Services) : List Incident → List Account
  | [] => []
  | i :: is => (s.account? i).toList ++ (s.meet i).accounts is

variable {c : Config} {s : Services}

/-! ## One incident -/

theorem exists_of_mapError_bind {ε ε' α β : Type} {x : Except ε α} {f : ε → ε'} {g : α → Except ε' β} {b : β}
    (h : x.mapError f >>= g = .ok b) : ∃ a, x = .ok a ∧ g a = .ok b := by
  cases x with
  | error err => exact nomatch h
  | ok a => exact ⟨a, rfl, h⟩

/-- A new order becomes the last record of a partition of the main channel, or nothing changes. -/
theorem meet_inject (s : Services) (now : Int) (order : String) :
    s.meet (.inject now order) = s ∨ ∃ e position, e.destination = s.config.topology.channelName .main ∧
      s.bus.publish e = .ok (position, (s.meet (.inject now order)).bus) ∧
      (s.meet (.inject now order)).config = s.config ∧ (s.meet (.inject now order)).posts = s.posts := by
  unfold meet
  dsimp only
  cases h : s.inject now order with
  | error err => exact .inl rfl
  | ok injected =>
    unfold inject at h
    obtain ⟨reference, -, h⟩ := exists_of_mapError_bind h
    obtain ⟨payload, -, h⟩ := exists_of_mapError_bind h
    obtain ⟨stored, hstored, h⟩ := exists_of_mapError_bind h
    obtain rfl := Except.ok.inj h
    exact .inr ⟨_, _, rfl, hstored, rfl, rfl⟩

theorem Manned.meet (h : Manned c s) (i : Incident) : Manned c (s.meet i) := by
  cases i with
  | turn now place => exact (h.turned now place).2
  | inject now order =>
    rcases s.meet_inject now order with heq | ⟨_, _, -, -, hconfig, hposts⟩
    · rw [heq]
      exact h
    · exact ⟨hconfig.trans h.config, hposts ▸ h.posts⟩
  | outside o => exact ⟨h.config, h.posts⟩
  | requestStop =>
    refine ⟨h.config, fun p hp => ?_⟩
    obtain ⟨q, hq, rfl⟩ := List.mem_map.mp hp
    exact h.posts q hq

/-- **Nothing is committed on the channels of other tiers** than those of the mode. -/
theorem committed_meet (h : Manned c s) (i : Incident) {tier : Tier} (ht : tier ∉ c.mode.tiers) (group : String)
    (p : Int) : (s.meet i).bus.committed (c.topology.channelName tier) group p =
      s.bus.committed (c.topology.channelName tier) group p := by
  cases i with
  | turn now place => exact (h.turned now place).1.committed_eq ht group p
  | inject now order =>
    rcases s.meet_inject now order with heq | ⟨_, _, -, hstored, -⟩
    · rw [heq]
    · rw [Bus.committed_publishTo hstored]
  | outside o => exact congrFun (congrFun (congrFun (o.committed_alter s.bus) _) group) p
  | requestStop => rfl

/-- **Logs grow by new orders and from outside** alone. -/
theorem exists_of_high_lt (h : Manned c s) {i : Incident} {channel : String} {p : Int}
    (hlt : s.bus.high channel p < (s.meet i).bus.high channel p) :
    (∃ now order, i = .inject now order ∧ channel = c.topology.channelName .main) ∨
      ∃ e q, i = .outside (.publish e q) ∧ channel = e.destination := by
  cases i with
  | turn now place =>
    have hlogs : (s.meet (.turn now place)).bus.logs = s.bus.logs := (h.turned now place).1.logs_eq
    unfold Bus.high Bus.log at hlt
    rw [hlogs] at hlt
    exact absurd hlt (Int.lt_irrefl _)
  | inject now order =>
    refine .inl ⟨now, order, rfl, ?_⟩
    rcases s.meet_inject now order with heq | ⟨e, _, hdestination, hstored, -⟩
    · rw [heq] at hlt
      exact absurd hlt (Int.lt_irrefl _)
    · rw [← h.config, ← hdestination]
      exact Bus.eq_destination_of_high_lt hstored hlt
  | outside o =>
    obtain ⟨e, q, rfl, hchannel⟩ := Outside.exists_of_high_lt hlt
    exact .inr ⟨e, q, rfl, hchannel⟩
  | requestStop => exact absurd hlt (Int.lt_irrefl _)

/-! ## A run -/

theorem Manned.enlist (h : Manned c s) {tier : Tier} (ht : tier ∈ c.mode.tiers) :
    Manned c (s.enlist tier) ∧ (s.enlist tier).bus = s.bus := by
  refine ⟨⟨h.config, fun p hp => ?_⟩, rfl⟩
  rcases List.mem_append.mp hp with hp | hp
  · exact h.posts p hp
  · obtain rfl := List.mem_singleton.mp hp
    refine ⟨ht, ?_⟩
    rw [← h.config]
    exact Consumer.channel_assign _ _ _ _

theorem manned_start (c : Config) (b : Bus) : Manned c (start c b) ∧ (start c b).bus = b := by
  have henlist (ts : List Tier) (hts : ∀ t ∈ ts, t ∈ c.mode.tiers) (s : Services) (hs : Manned c s ∧ s.bus = b) :
      Manned c (ts.foldl enlist s) ∧ (ts.foldl enlist s).bus = b := by
    induction ts generalizing s with
    | nil => exact hs
    | cons t ts ih =>
      obtain ⟨hmanned, hbus⟩ := hs.1.enlist (hts t List.mem_cons_self)
      exact ih (fun u hu => hts u (List.mem_cons_of_mem _ hu)) _ ⟨hmanned, hbus.trans hs.2⟩
  have hempty (sweep : Option Sweep) (log : List Log.Line) :
      Manned c ⟨c, b, sweep, [], [], log⟩ ∧ (⟨c, b, sweep, [], [], log⟩ : Services).bus = b :=
    ⟨⟨rfl, fun _ hp => absurd hp List.not_mem_nil⟩, rfl⟩
  unfold start
  cases hm : c.mode with
  | feed =>
    obtain ⟨hmanned, hbus⟩ := henlist c.mode.tiers (fun _ ht => ht) _ (hempty none [])
    rw [hm] at hmanned hbus
    exact ⟨⟨hmanned.config, hmanned.posts⟩, hbus⟩
  | recovery =>
    obtain ⟨hmanned, hbus⟩ := henlist c.mode.tiers (fun _ ht => ht) _
      (hempty (some (.start (c.topology.channelName .error))) [⟨mainThread, exclusiveEntry c⟩])
    rw [hm] at hmanned hbus
    exact ⟨⟨hmanned.config, hmanned.posts⟩, hbus⟩

theorem Manned.live (h : Manned c s) (is : List Incident) : Manned c (s.live is) := by
  induction is generalizing s with
  | nil => exact h
  | cons i is ih => exact ih (h.meet i)

theorem committed_live (h : Manned c s) (is : List Incident) {tier : Tier} (ht : tier ∉ c.mode.tiers)
    (group : String) (p : Int) : (s.live is).bus.committed (c.topology.channelName tier) group p =
      s.bus.committed (c.topology.channelName tier) group p := by
  induction is generalizing s with
  | nil => rfl
  | cons i is ih => exact (ih (h.meet i)).trans (committed_meet h i ht group p)

theorem account_of_mem_accounts (h : Manned c s) {is : List Incident} {a : Account} (ha : a ∈ s.accounts is) :
    (∃ tier ∈ c.mode.tiers, a.record.channel = c.topology.channelName tier) ∧ a.resolution.ForGood := by
  induction is generalizing s with
  | nil => exact absurd ha List.not_mem_nil
  | cons i is ih =>
    rcases List.mem_append.mp ha with hi | his
    · cases i with
      | turn now place => exact (h.turned now place).1.account (Option.mem_toList.mp hi)
      | inject | outside | requestStop => exact absurd hi List.not_mem_nil
    · exact ih (h.meet i) his

/-- The services keep to the channels of their mode in a run. -/
structure KeepsTo (c : Config) (b : Bus) (is : List Incident) : Prop where
  /-- Nothing was committed on the channels of other tiers. -/
  committed : ∀ tier ∉ c.mode.tiers, ∀ group p,
    ((start c b).live is).bus.committed (c.topology.channelName tier) group p =
      b.committed (c.topology.channelName tier) group p
  /-- No record of other tiers was handled. -/
  handled : ∀ a ∈ (start c b).accounts is, ∀ tier ∉ c.mode.tiers, a.record.channel ≠ c.topology.channelName tier
  forGood : ∀ a ∈ (start c b).accounts is, a.resolution.ForGood
  /-- The next turn stores nothing. -/
  turn : ∀ now place, (((start c b).live is).turn now place).bus.logs = ((start c b).live is).bus.logs
  /-- A log that is next to grow does so by a new order or from outside. -/
  grown : ∀ i channel p,
    ((start c b).live is).bus.high channel p < (((start c b).live is).meet i).bus.high channel p →
      (∃ now order, i = .inject now order ∧ channel = c.topology.channelName .main) ∨
        ∃ e q, i = .outside (.publish e q) ∧ channel = e.destination

/-- **The services keep to the channels of their mode**, in every run. -/
theorem keepsTo_live (c : Config) (b : Bus) (is : List Incident) : KeepsTo c b is := by
  obtain ⟨hmanned, hbus⟩ := manned_start c b
  constructor
  case committed =>
    intro tier ht group p
    rw [committed_live hmanned is ht, hbus]
  case handled =>
    intro a ha tier ht heq
    obtain ⟨⟨t, htier, hchannel⟩, -⟩ := account_of_mem_accounts hmanned ha
    exact ht (c.topology.channelName_inj.mp (hchannel.symm.trans heq) ▸ htier)
  case forGood => exact fun a ha => (account_of_mem_accounts hmanned ha).2
  case turn => exact fun now place => ((hmanned.live is).turned now place).1.logs_eq
  case grown => exact fun i channel p hlt => exists_of_high_lt (hmanned.live is) hlt

example : ((start .standard (.ofPartitions 1)).accounts
    [.inject 5 "42", .outside (.publish ⟨"k", [2, 97], "order-received-retry", 0⟩ 0), .turn 6 0, .turn 7 1]).map
      (·.resolution.name) = ["completed", "dropped"] := by
  decide +kernel

end OrderRelay.Services
