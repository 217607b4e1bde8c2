import Mathlib.Data.List.Rotate
import OrderRelay.Proofs.Consumer.Reassignment

/-!
# No partition is starved

A consumer looks for its next record in the order of a queue, which begins with the partition whose turn it is. The
partition that is served goes to the end of the queue, and all that were found to have nothing go there before it. So
a partition that has something whenever the consumer looks comes nearer to the front with every poll that serves
another one, and as there are no more partitions than places in the queue, it is served within one round.

* `Consumer.queue` and `Consumer.Offers`, a partition from which a consumer could read;
* `queue_of_next?`: what a poll makes of the queue; `idxOf_queue_lt`: it moves up who offers and is not served;
* `Consumer.SameQueue`, kept by all that is done to a consumer between two polls;
* **`Exchange.served_within_a_round`**: of as many polls as there are partitions, one serves a partition that offers
  a record at each of them.
-/

namespace OrderRelay

namespace Consumer

variable {b : Bus} {c c' : Consumer} {r : ConsumedRecord} {p : Int}

/-! ## The queue -/

/-- Its partitions, in the order in which the consumer looks for the next record. -/
def queue (c : Consumer) : List Int := c.assignment.rotate c.turn

theorem length_queue (c : Consumer) : c.queue.length = c.assignment.length := List.length_rotate ..

theorem mem_queue_iff : p ∈ c.queue ↔ p ∈ c.assignment := List.mem_rotate

theorem round_eq_rotate {α : Type} (turn : Nat) (xs : List α) : round turn xs = xs.zipIdx.rotate turn := by
  rw [List.rotate_eq_drop_append_take_mod, List.length_zipIdx]
  rfl

theorem map_round (c : Consumer) : (round c.turn c.positions.entries).map (Prod.fst ∘ Prod.fst) = c.queue := by
  rw [round_eq_rotate, List.map_rotate, ← List.map_map, List.zipIdx_map_fst]
  rfl

/-- The place that comes with an entry, counted from the one whose turn it is. -/
theorem place_of_round {α : Type} {turn place : Nat} {xs : List α} {x : α} {before after : List (α × Nat)}
    (h : round turn xs = before ++ (x, place) :: after) : place = (before.length + turn) % xs.length := by
  rw [round_eq_rotate] at h
  have hlt : before.length < (xs.zipIdx.rotate turn).length := by
    rw [h]
    simp
  have hget : (xs.zipIdx.rotate turn)[before.length] = (x, place) := by
    simp [h]
  rw [List.getElem_rotate, List.getElem_zipIdx] at hget
  have hplace := congrArg Prod.snd hget
  simpa using hplace.symm

/-- A list that is turned to the place after the entry `x`. -/
theorem rotate_past {α : Type} {turn : Nat} {xs before after : List α} {x : α}
    (h : xs.rotate turn = before ++ x :: after) :
    xs.rotate (((before.length + turn) % xs.length + 1) % xs.length) = after ++ (before ++ [x]) := by
  have hpast : (before ++ x :: after).rotate (before ++ [x]).length = after ++ (before ++ [x]) := by
    rw [List.append_cons, List.rotate_append_length_eq]
  rw [List.rotate_mod, ← List.rotate_rotate, List.rotate_mod, List.rotate_rotate, ← hpast, ← h, List.rotate_rotate,
    List.length_append, List.length_singleton, Nat.add_right_comm, Nat.add_comm]

/-- What a poll makes of the queue: those before the one that is served have nothing to give. -/
theorem queue_of_next? (h : next? b c = some (r, c')) : ∃ before after,
    c.queue = before ++ r.partition :: after ∧ c'.queue = after ++ (before ++ [r.partition]) ∧
      ∀ p ∈ before, ∃ position, c.positions.get? p = some position ∧ candidate? b c p position = none := by
  unfold next? at h
  obtain ⟨before, ⟨⟨p, position⟩, place⟩, after, hround, hfound, hnone⟩ := List.findSome?_eq_some_iff.mp h
  obtain ⟨⟨offset, stored⟩, -, heq⟩ := Option.map_eq_some_iff.mp hfound
  obtain ⟨rfl, rfl⟩ := Prod.mk.inj heq
  have hmem {e : (Int × Int) × Nat} (he : e ∈ round c.turn c.positions.entries) :
      c.positions.get? e.1.1 = some e.1.2 := PartitionMap.mem_entries_iff.mp (mem_of_mem_round he)
  have hposition : c.positions.get? p = some position := hmem (hround ▸ List.mem_append_right _ List.mem_cons_self)
  have hkeys : (c.positions.insert p (offset + 1)).keys = c.assignment :=
    PartitionMap.keys_insert (by rw [PartitionMap.contains, hposition]; rfl)
  have hqueue : c.queue = before.map (Prod.fst ∘ Prod.fst) ++ p :: after.map (Prod.fst ∘ Prod.fst) := by
    rw [← map_round, hround, List.map_append]
    rfl
  refine ⟨_, _, hqueue, ?_, fun q hq => ?_⟩
  · have hlength : c.positions.entries.length = c.assignment.length := (List.length_map _).symm
    have hpast := rotate_past hqueue
    rw [List.length_map, ← hlength, ← place_of_round hround] at hpast
    exact (congrArg (List.rotate · _) hkeys).trans hpast
  · obtain ⟨e, he, rfl⟩ := List.mem_map.mp hq
    exact ⟨e.1.2, hmem (hround ▸ List.mem_append_left _ he), Option.map_eq_none_iff.mp (hnone e he)⟩

/-! ## Moving up -/

/-- A record of the partition is there for the consumer: the partition is not paused, and it retains a record at or
after the read position. -/
def Offers (b : Bus) (c : Consumer) (p : Int) : Prop :=
  c.isPaused p = false ∧ ∃ position o, c.positions.get? p = some position ∧ position ≤ o ∧
    ((b.log c.channel.name p).get? o).isSome = true

theorem Offers.mem_assignment (h : Offers b c p) : p ∈ c.assignment := by
  obtain ⟨-, position, -, hposition, -⟩ := h
  exact PartitionMap.mem_keys_iff.mpr (by rw [hposition]; rfl)

theorem Offers.candidate?_ne_none (h : Offers b c p) {position : Int} (hp : c.positions.get? p = some position) :
    candidate? b c p position ≠ none := by
  obtain ⟨hpaused, position', o, hp', hle, ho⟩ := h
  obtain rfl := Option.some.inj (hp.symm.trans hp')
  rw [PartitionLog.isSome_get?_iff] at ho
  unfold candidate?
  rw [if_neg (Bool.eq_false_iff.mp hpaused), ne_eq, Option.map_eq_none_iff, ← Option.not_isSome_iff_eq_none, not_not,
    PartitionLog.isSome_get?_iff]
  omega

theorem Offers.exists_next? (h : Offers b c p) : ∃ r c', next? b c = some (r, c') := by
  cases hn : next? b c with
  | none =>
    obtain ⟨hpaused, position, o, hp, hle, ho⟩ := h
    rw [exhausted_of_next? hn p position hp hpaused o hle] at ho
    exact nomatch ho
  | some e => exact ⟨e.1, e.2, rfl⟩

/-- **Whoever offers a record moves up** with every poll that serves another partition. -/
theorem idxOf_queue_lt (h : next? b c = some (r, c')) (ho : Offers b c p) (hr : r.partition ≠ p) :
    c'.queue.idxOf p < c.queue.idxOf p := by
  obtain ⟨before, after, hqueue, hqueue', hnone⟩ := queue_of_next? h
  have hbefore : p ∉ before := fun hp => by
    obtain ⟨position, hposition, hcandidate⟩ := hnone p hp
    exact ho.candidate?_ne_none hposition hcandidate
  have hafter : p ∈ after := by
    have hmem := hqueue ▸ mem_queue_iff.mpr ho.mem_assignment
    rcases List.mem_append.mp hmem with hp | hp
    · exact absurd hp hbefore
    · exact (List.mem_cons.mp hp).resolve_left (Ne.symm hr)
  rw [hqueue, hqueue', List.idxOf_append_of_mem hafter, List.idxOf_append_of_notMem hbefore,
    List.idxOf_cons_ne _ hr]
  omega

/-! ## Between two polls -/

/-- The consumer has its partitions and its queue as `c` has them. -/
def SameQueue (c c' : Consumer) : Prop := c'.queue = c.queue ∧ c'.pending = c.pending

theorem assignment_rewind (c : Consumer) (r : ConsumedRecord) : (c.rewind r).assignment = c.assignment := by
  unfold rewind
  split
  · exact PartitionMap.keys_insert ‹_›
  · rfl

theorem sameQueue_rewind (c : Consumer) (r : ConsumedRecord) : SameQueue c (c.rewind r) := by
  have hturn : (c.rewind r).turn = c.turn := by
    unfold rewind
    split <;> rfl
  refine ⟨?_, pending_rewind c r⟩
  unfold queue
  rw [assignment_rewind, hturn]

theorem SameQueue.altered {ℓ : Type} {name : String} {u : Use ℓ} (h : Exchange.Altered name c u c') :
    SameQueue c c' := by
  cases h with
  | same | paused => exact ⟨rfl, rfl⟩
  | rewound r => exact sameQueue_rewind c r

end Consumer

/-- How often the consumer of a name polls. -/
def Use.polls {ℓ : Type} (name : String) (uses : List (Use ℓ)) : Nat :=
  uses.countP fun u => match u with
    | .poll n => n == name
    | _ => false

namespace Exchange

variable {ℓ : Type} {x : Exchange ℓ} {name : String} {m : Member ℓ} {p : Int}

/-- A record of the partition is there for the consumer of that name. -/
def Offers (x : Exchange ℓ) (name : String) (p : Int) : Prop :=
  ∃ m, x.members name = some m ∧ m.consumer.Offers x.bus p

/-! ## Poll after poll -/

/-- A poll of a consumer that is offered a record has an answer, which comes from the partition or moves it up. -/
theorem exists_answer (hm : x.members name = some m) (hgiven : m.consumer.pending = false)
    (ho : m.consumer.Offers x.bus p) : ∃ r c', x.answer? name (.poll name) = some r ∧
      (x.perform (.poll name)).members name = some { m with consumer := c' } ∧ c'.pending = false ∧
      (r.partition ≠ p → c'.queue.idxOf p < m.consumer.queue.idxOf p) := by
  obtain ⟨r, c', hn⟩ := ho.exists_next?
  have hpoll : m.consumer.poll m.listener x.bus m.state = (some r, ⟨c', m.state, []⟩) := by
    rw [Consumer.poll_of_not_pending m.listener hgiven, hn]
  refine ⟨r, c', ?_, ?_, ?_, Consumer.idxOf_queue_lt hn ho⟩
  · rw [answer?_poll hm, hpoll]
  · rw [perform_poll hm, hpoll]
    exact if_pos rfl
  · rw [(Consumer.next?_eq_some hn).pending_eq, hgiven]

/-- As long as a partition that offers a record at every poll is not served, there are no more polls than partitions
before it in the queue. -/
theorem polls_le_idxOf {stretch : List (Use ℓ)} (hm : x.members name = some m) (hgiven : m.consumer.pending = false)
    (hs : ∀ u ∈ stretch, ¬ u.Reassigns name)
    (ho : ∀ us vs, stretch = us ++ .poll name :: vs → (x.run us).Offers name p)
    (hnone : ∀ r ∈ x.deliveries name stretch, r.partition ≠ p) :
    Use.polls name stretch ≤ m.consumer.queue.idxOf p := by
  induction stretch generalizing x m with
  | nil => exact Nat.zero_le _
  | cons u us ih =>
    have hrest {m' : Member ℓ} (hm' : (x.perform u).members name = some m') (hgiven' : m'.consumer.pending = false) :
        Use.polls name us ≤ m'.consumer.queue.idxOf p :=
      ih hm' hgiven' (fun v hv => hs v (List.mem_cons_of_mem _ hv))
        (fun before after h => ho (u :: before) after (congrArg (u :: ·) h))
        fun r hr => hnone r (List.mem_append_right _ hr)
    by_cases hpoll : u = .poll name
    · subst hpoll
      obtain ⟨m', hm', hoffers⟩ := ho [] us rfl
      obtain rfl := Option.some.inj (hm.symm.trans hm')
      obtain ⟨r, c', hanswer, hmoved, hgiven', hup⟩ := exists_answer hm hgiven hoffers
      have hr : r.partition ≠ p := hnone r (List.mem_append_left _ (by rw [hanswer]; exact List.mem_singleton_self r))
      have hcount : Use.polls name (.poll name :: us) = Use.polls name us + 1 :=
        List.countP_cons_of_pos (beq_self_eq_true name)
      have hle : Use.polls name us ≤ c'.queue.idxOf p := hrest hmoved hgiven'
      have hlt := hup hr
      omega
    · obtain ⟨-, c, hc, haltered⟩ := altered_of_perform hm (hs u List.mem_cons_self) hpoll
      obtain ⟨hqueue, hpending⟩ := Consumer.SameQueue.altered haltered
      have hcount : Use.polls name (u :: us) = Use.polls name us := by
        refine List.countP_cons_of_neg fun h => hpoll ?_
        cases u with
        | poll n => rw [eq_of_beq h]
        | _ => exact nomatch h
      have hle : Use.polls name us ≤ c.queue.idxOf p := hrest hc (hpending.trans hgiven)
      rw [hcount]
      rwa [hqueue] at hle

/-- **No partition is starved.** Whatever was done with a bus, and whatever is done between the polls but giving the
consumer its partitions anew: of as many polls as it has partitions, one serves a partition from which it could read
at each of them. -/
theorem served_within_a_round (b : Bus) (os : List (Occurrence ℓ)) (name : String) (m : Member ℓ) (p : Int)
    (stretch : List (Use ℓ)) (hm : ((on b).course os).members name = some m) (hp : p ∈ m.consumer.assignment)
    (hs : ∀ u ∈ stretch, ¬ u.Reassigns name)
    (hpolls : Use.polls name stretch = m.consumer.assignment.length)
    (ho : ∀ us vs, stretch = us ++ .poll name :: vs → (((on b).course os).run us).Offers name p) :
    ∃ r ∈ ((on b).course os).deliveries name stretch, r.partition = p := by
  have hgiven : m.consumer.pending = false := by
    -- A consumer that waits for its partitions has none.
    rw [← Bool.not_eq_true]
    intro hpending
    rw [Consumer.assignment, (seated_on b).course os name m hm hpending] at hp
    exact nomatch hp
  by_contra hnone
  have hle := polls_le_idxOf hm hgiven hs ho fun r hr hrp => hnone ⟨r, hr, hrp⟩
  have hlt := List.idxOf_lt_length_of_mem (Consumer.mem_queue_iff.mpr hp)
  rw [Consumer.length_queue] at hlt
  omega

/-- A consumer joins a channel of two partitions, which get a record each. -/
def twoHeads : List (Occurrence Unit) :=
  let record (p : Int) : Use Unit := .publishTo ⟨"k", [], "orders", 7⟩ p
  [.use (.join "a" ⟨"orders", "g"⟩ (.silent Unit) ()), .use (record 0), .use (record 1)]

/-- It is sent back to the first record of a partition as soon as it has it. -/
def sentBack : List (Use Unit) :=
  [.poll "a", .rewind "a" ⟨"orders", "g", 0, 0, some "k", [], some 7⟩, .poll "a"]

/-- The record to which the consumer is sent back does not keep it from the other partition. -/
theorem served_within_a_round_sentBack :
    (((on (.ofPartitions 2)).course twoHeads).deliveries "a" sentBack).map ConsumedRecord.position =
        [⟨0, 0⟩, ⟨1, 0⟩] ∧
      (((on (.ofPartitions 2)).course twoHeads).run sentBack).Offers "a" 0 ∧
      ∃ r ∈ ((on (.ofPartitions 2)).course twoHeads).deliveries "a" sentBack, r.partition = 1 := by
  have hkept : ∀ u ∈ sentBack, ¬ u.Reassigns "a" := by simp [sentBack, Use.Reassigns]
  have hoffers (us vs : List (Use Unit)) (h : sentBack = us ++ .poll "a" :: vs) :
      (((on (.ofPartitions 2)).course twoHeads).run us).Offers "a" 1 := by
    match us, h with
    | [], _ => exact ⟨_, rfl, rfl, 0, 0, rfl, by decide, rfl⟩
    | [_], h => simp [sentBack] at h
    | [_, _], h =>
      obtain ⟨rfl, rfl, -⟩ : _ = _ ∧ _ = _ ∧ _ := by simpa [sentBack] using h
      exact ⟨_, rfl, rfl, 0, 0, rfl, by decide, rfl⟩
    | _ :: _ :: _ :: _, h => simp [sentBack] at h
  exact ⟨by decide, ⟨_, rfl, rfl, 0, 0, rfl, by decide, rfl⟩,
    served_within_a_round (.ofPartitions 2) twoHeads "a" _ 1 sentBack rfl (by decide) hkept rfl hoffers⟩

end Exchange

end OrderRelay
